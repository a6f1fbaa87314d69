import RtlMjit.Flonum

/-!
# The runtime the fast paths call

The instruction helpers of `rtl_exec.c` test the operand tags, the class of heap operands, and whether a basic
operator is redefined, and call into the VM for the rest: `DBL2NUM`, `RFLOAT_VALUE`, the double operations,
`rb_str_plus`, `rb_ary_plus`, `rb_str_equal`.  These are outside `src/` and are parameters here, collected in
`Runtime`.  `DBL2NUM` and `RFLOAT_VALUE` are modelled through the flonum encoding: a double with a flonum
becomes it, any other becomes a new heap Float.

The speculative instructions test the global flag `mjit_bop_redefined_p` before the per-operator flags.  The
callers guarantee that the flag is clear only while no basic operator is redefined; `RedefState` carries that
invariant, so that no redefinition state without it can be built.

The generic, unchanging and speculative forms of an instruction return one of the outcomes below: what the
fast path writes, or that the method is dispatched (generic and unchanging forms), or that the speculation
failed and the instruction is to become its unchanging form (speculative forms).
-/

namespace RtlMjit

/-- The classes the fast paths compare `RBASIC_CLASS` with. -/
inductive RClass where
  | float | string | array | hash | other
deriving DecidableEq, Repr

/-- The operators of `enum ruby_basic_operators` that the fast paths test. -/
inductive Bop where
  | plus | minus | mult | div | mod | eq | neq | lt | le | gt | ge | aref | aset
deriving DecidableEq, Repr

/-- The `…_REDEFINED_OP_FLAG`s. -/
inductive RedefFlag where
  | integer | float | string | array | hash
deriving DecidableEq, Repr

/-- Which basic operators are redefined: `BASIC_OP_UNREDEFINED_P` and the global `mjit_bop_redefined_p`, with
the callers' invariant that the global flag is clear only while nothing is redefined. -/
structure RedefState where
  unredefined : Bop → RedefFlag → Bool
  mjitBopRedefinedP : Bool
  consistent : mjitBopRedefinedP = false → ∀ bop flag, unredefined bop flag = true

/-- The guard `! mjit_bop_redefined_p || BASIC_OP_UNREDEFINED_P (bop, flag)` of the speculative instructions. -/
def RedefState.specUnredefined (rs : RedefState) (bop : Bop) (flag : RedefFlag) : Bool :=
  !rs.mjitBopRedefinedP || rs.unredefined bop flag

/-- Under the callers' invariant the speculative guard implies the generic one. -/
theorem RedefState.unredefined_of_spec {rs : RedefState} {bop : Bop} {flag : RedefFlag}
    (h : rs.specUnredefined bop flag = true) : rs.unredefined bop flag = true := by
  unfold specUnredefined at h
  cases hm : rs.mjitBopRedefinedP
  · exact rs.consistent hm bop flag
  · simpa [hm] using h

/-- The guard of the speculative fixnum forms (`do_spec_fix_arithm`, `common_spec_fix_cmp`), for a second
operand known to be a fixnum when `op2FixnumP`. -/
def RedefState.specFixGuard (rs : RedefState) (bop : Bop) (op2FixnumP : Bool) (op1 op2 : Value) : Bool :=
  rs.specUnredefined bop .integer && ((op2FixnumP && fixnumP op1) || (!op2FixnumP && fixnum2P op1 op2))

/-- The guard of the speculative flonum forms (`do_spec_flo_arithm`, `common_spec_flo_cmp`): a given double
pointer `d1`, `d2` stands for the flonum test of its operand. -/
def RedefState.specFloGuard (rs : RedefState) (bop : Bop) (op2FlonumP : Bool) (d1 d2 : Option Double)
    (op1 op2 : Value) : Bool :=
  rs.specUnredefined bop .float &&
    ((op2FlonumP && (d1.isSome || flonumP op1)) ||
      (!op2FlonumP && ((d1.isSome && d2.isSome) || flonum2P op1 op2)))

/-- The fixnum test of a generic form, with the operator not redefined, passes the guard of its speculative
form. -/
theorem RedefState.specFixGuard_of_generic {rs : RedefState} {bop : Bop} {op2FixnumP op2FlonumP : Bool}
    {op1 op2 : Value}
    (hc : ((op2FixnumP && fixnumP op1) || (!op2FixnumP && !op2FlonumP && fixnum2P op1 op2)) = true)
    (hu : rs.unredefined bop .integer = true) : rs.specFixGuard bop op2FixnumP op1 op2 = true := by
  cases op2FixnumP <;> cases op2FlonumP <;> simp_all [RedefState.specFixGuard, RedefState.specUnredefined]

/-- The same for the flonum test. -/
theorem RedefState.specFloGuard_of_generic {rs : RedefState} {bop : Bop} {op2FixnumP op2FlonumP : Bool}
    {op1 op2 : Value}
    (hc : ((op2FlonumP && flonumP op1) || (!op2FixnumP && !op2FlonumP && flonum2P op1 op2)) = true)
    (hu : rs.unredefined bop .float = true) : rs.specFloGuard bop op2FlonumP none none op1 op2 = true := by
  cases op2FixnumP <;> cases op2FlonumP <;> simp_all [RedefState.specFloGuard, RedefState.specUnredefined]

/-- Nothing redefined. -/
def RedefState.pristine : RedefState := ⟨fun _ _ => true, false, fun _ _ _ => rfl⟩

/-- The part of the VM outside `src/` that the fast paths call. -/
structure Runtime extends ObjectModel where
  /-- `RBASIC_CLASS` of a heap object. -/
  classOf : Value → RClass
  /-- `rb_float_new_in_heap`: a new heap Float. -/
  floatNewInHeap : Double → Value
  heapRef_floatNewInHeap : ∀ d, heapRef (floatNewInHeap d)
  /-- `RFLOAT_VALUE` of a heap Float. -/
  heapFloatValue : Value → Double
  /-- The C operators `+`, `-`, `*`, `/` on doubles. -/
  dblAdd : Double → Double → Double
  dblSub : Double → Double → Double
  dblMul : Double → Double → Double
  dblDiv : Double → Double → Double
  /-- `ruby_float_mod`, the remainder of `Float#%`. -/
  floatMod : Double → Double → Double
  /-- The C comparisons `<`, `<=`, `>`, `>=` on doubles. -/
  dblLt : Double → Double → Bool
  dblLe : Double → Double → Bool
  dblGt : Double → Double → Bool
  dblGe : Double → Double → Bool
  /-- `rb_str_plus`, `rb_ary_plus` and `rb_str_equal`. -/
  strPlus : Value → Value → Value
  aryPlus : Value → Value → Value
  strEqual : Value → Value → Value
  /-- Whether the method `==` of an object is `rb_obj_equal` (`vm_search_method` and `check_cfunc`). -/
  eqIsObjEqual : Value → Bool

namespace Runtime

variable (R : Runtime)

/-- `DBL2NUM`: the flonum of the double where it has one, a new heap Float otherwise. -/
def dbl2num (d : Double) : Value := if specDbl2num d = qundef then R.floatNewInHeap d else specDbl2num d

/-- `RFLOAT_VALUE`, of a flonum or a heap Float. -/
def rfloatValue (v : Value) : Double := if flonumP v then flonumValue v else R.heapFloatValue v

/-- A heap Float: a reference whose class is `Float`. -/
def heapFloatP (v : Value) : Bool := !specialConstP v && R.classOf v == .float

variable {R}

theorem dbl2num_of_encoded {d : Double} (h : specDbl2num d ≠ qundef) : R.dbl2num d = specDbl2num d :=
  if_neg h

theorem dbl2num_of_not_encoded {d : Double} (h : specDbl2num d = qundef) : R.dbl2num d = R.floatNewInHeap d :=
  if_pos h

theorem heapRef_of_heapFloatP {v : Value} (h : R.heapFloatP v = true) : heapRef v := by
  simp only [heapFloatP, Bool.and_eq_true, Bool.not_eq_true'] at h
  exact h.1

theorem classOf_of_heapFloatP {v : Value} (h : R.heapFloatP v = true) : R.classOf v = .float := by
  simp only [heapFloatP, Bool.and_eq_true, beq_iff_eq] at h
  exact h.2

end Runtime

/-- A runtime for runs on concrete inputs.  Every heap object is a Float whose double is the word itself, new
Floats are put at one address, `*` and `ruby_float_mod` are exact on positive powers of two (a product that
stays a normal double, and a remainder), and the other operations are left at zero. -/
def sampleRuntime : Runtime where
  toObjectModel := sampleObjectModel
  classOf _ := .float
  floatNewInHeap _ := 0x10
  heapRef_floatNewInHeap _ := show heapRef (0x10 : Value) by decide
  heapFloatValue v := v
  dblAdd _ _ := 0
  dblSub _ _ := 0
  dblMul x y := BitVec.ofNat 64 ((exponent x + exponent y - 1023) * 2 ^ 52)
  dblDiv _ _ := 0
  floatMod x y := if exponent x < exponent y then x else 0
  dblLt _ _ := false
  dblLe _ _ := false
  dblGt _ _ := false
  dblGe _ _ := false
  strPlus _ _ := qnil
  aryPlus _ _ := qnil
  strEqual _ _ := qfalse
  eqIsObjEqual _ := true

/-- The double `2^300`, which has no flonum. -/
def pow2To300 : Double := 0x52B0000000000000

/-! ### Outcomes -/

/-- An instruction id `BIN(…)`, by the instruction's name; the empty name is the id `0` that the unchanging
forms pass. -/
abbrev InsnId := String

/-- How a generic or unchanging form ends: its fast path writes a value and possibly rewrites the instruction
(`vm_change_insn`), or the method is dispatched. -/
inductive FastPath where
  | done (v : Value) (change : Option InsnId)
  | dispatch
deriving DecidableEq, Repr

/-- How a speculative form ends: it writes a value, or sets `*new_insn` to its unchanging form and returns
`TRUE` without writing. -/
inductive SpecOutcome where
  | done (v : Value)
  | fallback (uinsn : InsnId)
deriving DecidableEq, Repr

/-- A speculative outcome against the outcome of its unchanging form `uinsn` on the same operands: a written
value is the value the unchanging form writes, without rewriting itself, and a fallback turns the
instruction into the unchanging form. -/
def SpecOutcome.Refines (uinsn : InsnId) (u : FastPath) : SpecOutcome → Prop
  | .done v => u = .done v none
  | .fallback i => i = uinsn

/-- A flonum is no heap reference. -/
theorem ne_of_flonumP_of_heapRef {v w : Value} (hv : flonumP v = true) (hw : heapRef w) : v ≠ w := by
  rintro rfl
  rw [flonumP_of_heapRef hw] at hv
  exact Bool.false_ne_true hv

private theorem fixnumP_of_flonumP {v : Value} (h : flonumP v = true) : fixnumP v = false :=
  Bool.eq_false_iff.mpr fun hf => by rw [flonumP_of_fixnumP hf] at h; exact Bool.false_ne_true h

end RtlMjit
