import RtlMjit.Fixnum
import RtlMjit.Exec.Runtime

/-!
# Arithmetic instructions

The generic instructions `plus`, `minus`, `mult`, `div`, `mod` (and their simple `s…` and immediate `…i`, `…f`
forms) run `do_arithm`.  It tries three fast paths before it dispatches the method: two fixnums
(`fix_num_…`), two flonums (`float_num_…`), and two heap Floats (`double_num_…`), with `+` on two Strings and
on an Array besides.  A changing form that takes the fixnum or the flonum path rewrites itself to the
speculative form of that path; the unchanging `u…` forms never do.  The speculative forms `i…` and `f…`
re-check the guard of their path, compute with the speculative helpers, which return `Qundef` where the result
has no fixnum or flonum, and fall back to the unchanging form otherwise.

Each family is one definition with the macro's parameters (`arithm_call (suff, bop)`, `uarithm_call`, …); the
operator `bop` is determined by the suffix.

The main results:
* `doArithm_change`: a generic form rewrites itself only to the speculative form whose guard held;
* `double_num_mod_is_mult`: `double_num_mod` calls `float_num_mult`, so on two heap Floats the fast path of `%`
  is a product, where `Float#%` returns `ruby_float_mod`;
* `spec_fmod_differs_from_umod`: through its double pointers the speculative `fmod` reaches heap Floats, and
  there it computes `ruby_float_mod` where its unchanging form `umod` computes the product.
-/

namespace RtlMjit

/-- The suffix `suff` of an arithmetic instruction family. -/
inductive ArithOp where
  | plus | minus | mult | div | mod
deriving DecidableEq, Repr

namespace ArithOp

/-- The suffix as it is pasted into the instruction names. -/
def name : ArithOp → String
  | plus => "plus"
  | minus => "minus"
  | mult => "mult"
  | div => "div"
  | mod => "mod"

/-- The operator `BOP_…` passed with the suffix. -/
def bop : ArithOp → Bop
  | plus => .plus
  | minus => .minus
  | mult => .mult
  | div => .div
  | mod => .mod

end ArithOp

section Helpers

variable (om : ObjectModel) (R : Runtime)

/-! ### The fast-path helpers -/

/-- `fix_num_mult`: `rb_fix_mul_fix`, the exact product as a fixnum or a new Bignum. -/
def fixNumMult (op1 op2 : Value) : Value := long2num om (fix2long op1 * fix2long op2)

/-- `fix_num_div`: `Qundef` for a zero divisor, else `rb_fix_div_fix`, the floor quotient. -/
def fixNumDiv (op1 op2 : Value) : Value :=
  if fix2long op2 = 0 then qundef else long2num om ((fix2long op1).fdiv (fix2long op2))

/-- `fix_num_mod`: `Qundef` for a zero divisor, else `rb_fix_mod_fix`, the floor remainder. -/
def fixNumMod (op1 op2 : Value) : Value :=
  if fix2long op2 = 0 then qundef else long2num om ((fix2long op1).fmod (fix2long op2))

/-- The `float_num_…` helpers: `DBL2NUM` of the double operation on `RFLOAT_VALUE` of the operands. -/
def floatNum (f : Double → Double → Double) (op1 op2 : Value) : Value :=
  R.dbl2num (f (R.rfloatValue op1) (R.rfloatValue op2))

/-- `float_num_plus`. -/
def floatNumPlus : Value → Value → Value := floatNum R R.dblAdd
/-- `float_num_minus`. -/
def floatNumMinus : Value → Value → Value := floatNum R R.dblSub
/-- `float_num_mult`. -/
def floatNumMult : Value → Value → Value := floatNum R R.dblMul
/-- `float_num_div`. -/
def floatNumDiv : Value → Value → Value := floatNum R R.dblDiv
/-- `float_num_mod`: `ruby_float_mod`. -/
def floatNumMod : Value → Value → Value := floatNum R R.floatMod

/-- `double_num_plus`. -/
def doubleNumPlus : Value → Value → Value := floatNumPlus R
/-- `double_num_minus`. -/
def doubleNumMinus : Value → Value → Value := floatNumMinus R
/-- `double_num_mult`. -/
def doubleNumMult : Value → Value → Value := floatNumMult R
/-- `double_num_div`. -/
def doubleNumDiv : Value → Value → Value := floatNumDiv R
/-- `double_num_mod`, which calls `float_num_mult`. -/
def doubleNumMod : Value → Value → Value := floatNumMult R

/-- The double operation of `Float#…` for a suffix: `+`, `-`, `*`, `/` and `ruby_float_mod`. -/
def dblOp : ArithOp → Double → Double → Double
  | .plus => R.dblAdd
  | .minus => R.dblSub
  | .mult => R.dblMul
  | .div => R.dblDiv
  | .mod => R.floatMod

/-- `fix_num_ ## suff`. -/
def fixNumOf : ArithOp → Value → Value → Value
  | .plus => fixNumPlus R.toObjectModel
  | .minus => fixNumMinus R.toObjectModel
  | .mult => fixNumMult R.toObjectModel
  | .div => fixNumDiv R.toObjectModel
  | .mod => fixNumMod R.toObjectModel

/-- `float_num_ ## suff`. -/
def floatNumOf : ArithOp → Value → Value → Value
  | .plus => floatNumPlus R
  | .minus => floatNumMinus R
  | .mult => floatNumMult R
  | .div => floatNumDiv R
  | .mod => floatNumMod R

/-- `double_num_ ## suff`. -/
def doubleNumOf : ArithOp → Value → Value → Value
  | .plus => doubleNumPlus R
  | .minus => doubleNumMinus R
  | .mult => doubleNumMult R
  | .div => doubleNumDiv R
  | .mod => doubleNumMod R

/-- `spec_fix_num_ ## suff`. -/
def specFixNumOf : ArithOp → Value → Value → Value
  | .plus => specFixNumPlus
  | .minus => specFixNumMinus
  | .mult => specFixNumMult
  | .div => specFixNumDiv R.toObjectModel
  | .mod => specFixNumMod

/-- The `spec_flo_num_…` helpers: `spec_dbl2num` of the double operation, which also stores the double to
`*res` when `res` is given. -/
def specFloNum (f : Double → Double → Double) (op1 op2 : Double) (res : Bool) : Value × Option Double :=
  (specDbl2num (f op1 op2), if res then some (f op1 op2) else none)

/-- `spec_flo_num_ ## suff`. -/
def specFloNumOf (suff : ArithOp) : Double → Double → Bool → Value × Option Double :=
  specFloNum (dblOp R suff)

/-! ### The generic and unchanging forms -/

variable (rs : RedefState)

/-- `do_arithm`: the fast paths of an instruction whose second operand is known to be a fixnum
(`op2FixnumP`) or a flonum (`op2FlonumP`), which rewrites itself to `fixInsnId` or `floInsnId` when
`changeP`. -/
def doArithm (bop : Bop) (fixNumOp floatNumOp doubleNumOp : Value → Value → Value)
    (op2FixnumP op2FlonumP changeP : Bool) (fixInsnId floInsnId : InsnId) (op1 op2 : Value) : FastPath :=
  if ((op2FixnumP && fixnumP op1) || (!op2FixnumP && !op2FlonumP && fixnum2P op1 op2)) &&
      rs.unredefined bop .integer then
    let val := fixNumOp op1 op2
    if val ≠ qundef ∨ (bop ≠ .div ∧ bop ≠ .mod) then .done val (if changeP then some fixInsnId else none)
    else .dispatch
  else if ((op2FlonumP && flonumP op1) || (!op2FixnumP && !op2FlonumP && flonum2P op1 op2)) &&
      rs.unredefined bop .float then
    .done (floatNumOp op1 op2) (if changeP then some floInsnId else none)
  else if !op2FixnumP && !op2FlonumP && !specialConstP op1 && !specialConstP op2 then
    if R.classOf op1 = .float ∧ R.classOf op2 = .float ∧ rs.unredefined bop .float then
      .done (doubleNumOp op1 op2) none
    else if bop = .plus ∧ R.classOf op1 = .string ∧ R.classOf op2 = .string ∧ rs.unredefined bop .string then
      .done (R.strPlus op1 op2) none
    else if bop = .plus ∧ R.classOf op1 = .array ∧ rs.unredefined bop .array then .done (R.aryPlus op1 op2) none
    else .dispatch
  else .dispatch

/-- `arithm_op`: `do_arithm` for a second operand of unknown type. -/
def arithmOp (bop : Bop) (fixNumOp floatNumOp doubleNumOp : Value → Value → Value) (changeP : Bool)
    (fixInsnId floInsnId : InsnId) (op1 op2 : Value) : FastPath :=
  doArithm R rs bop fixNumOp floatNumOp doubleNumOp false false changeP fixInsnId floInsnId op1 op2

/-- `arithm_imm_op`: `do_arithm` for an immediate second operand. -/
def arithmImmOp (bop : Bop) (fixNumOp floatNumOp doubleNumOp : Value → Value → Value)
    (fixnumP flonumP changeP : Bool) (fixInsnId floInsnId : InsnId) (op1 imm : Value) : FastPath :=
  doArithm R rs bop fixNumOp floatNumOp doubleNumOp fixnumP flonumP changeP fixInsnId floInsnId op1 imm

/-- `arithm_call (suff, bop)`: `plus`, `minus`, `mult`, `div`, `mod`. -/
def arithmCall (suff : ArithOp) : Value → Value → FastPath :=
  arithmOp R rs suff.bop (fixNumOf R suff) (floatNumOf R suff) (doubleNumOf R suff) true
    ("i" ++ suff.name) ("f" ++ suff.name)

/-- `uarithm_call (suff, bop)`: `uplus`, …, `umod`. -/
def uarithmCall (suff : ArithOp) : Value → Value → FastPath :=
  arithmOp R rs suff.bop (fixNumOf R suff) (floatNumOf R suff) (doubleNumOf R suff) false "" ""

/-- `sarithm_call (suff, bop)`: `splus`, …, `smod`. -/
def sarithmCall (suff : ArithOp) : Value → Value → FastPath :=
  arithmOp R rs suff.bop (fixNumOf R suff) (floatNumOf R suff) (doubleNumOf R suff) true
    ("si" ++ suff.name) ("sf" ++ suff.name)

/-- `suarithm_call (suff, bop)`: `suplus`, …, `sumod`. -/
def suarithmCall (suff : ArithOp) : Value → Value → FastPath :=
  arithmOp R rs suff.bop (fixNumOf R suff) (floatNumOf R suff) (doubleNumOf R suff) false "" ""

/-- `arithm_fix_call (suff, bop)`: `plusi`, …, `modi`. -/
def arithmFixCall (suff : ArithOp) : Value → Value → FastPath :=
  arithmImmOp R rs suff.bop (fixNumOf R suff) (floatNumOf R suff) (doubleNumOf R suff) true false true
    ("i" ++ suff.name ++ "i") ""

/-- `uarithm_fix_call (suff, bop)`: `uplusi`, …, `umodi`. -/
def uarithmFixCall (suff : ArithOp) : Value → Value → FastPath :=
  arithmImmOp R rs suff.bop (fixNumOf R suff) (floatNumOf R suff) (doubleNumOf R suff) true false false "" ""

/-- `arithm_flo_call (suff, bop)`: `plusf`, …, `modf`. -/
def arithmFloCall (suff : ArithOp) : Value → Value → FastPath :=
  arithmImmOp R rs suff.bop (fixNumOf R suff) (floatNumOf R suff) (doubleNumOf R suff) false true true
    "" ("f" ++ suff.name ++ "f")

/-- `uarithm_flo_call (suff, bop)`: `uplusf`, …, `umodf`. -/
def uarithmFloCall (suff : ArithOp) : Value → Value → FastPath :=
  arithmImmOp R rs suff.bop (fixNumOf R suff) (floatNumOf R suff) (doubleNumOf R suff) false true false "" ""

/-! ### The speculative forms -/

/-- `do_spec_fix_arithm`. -/
def doSpecFixArithm (bop : Bop) (fixNumOp : Value → Value → Value) (op2FixnumP : Bool) (uinsn : InsnId)
    (op1 op2 : Value) : SpecOutcome :=
  if rs.specFixGuard bop op2FixnumP op1 op2 then
    let val := fixNumOp op1 op2
    if val ≠ qundef then .done val else .fallback uinsn
  else .fallback uinsn

/-- `do_spec_flo_arithm`, with the double pointers `d1`, `d2` and the result pointer `rd`; it returns the
outcome and the double stored to `*rd`. -/
def doSpecFloArithm (bop : Bop) (floatNumOp : Double → Double → Bool → Value × Option Double)
    (op2FlonumP : Bool) (uinsn : InsnId) (rd : Bool) (d1 d2 : Option Double) (op1 op2 : Value) :
    SpecOutcome × Option Double :=
  if rs.specFloGuard bop op2FlonumP d1 d2 op1 op2 then
    match floatNumOp (d1.getD (R.rfloatValue op1)) (d2.getD (R.rfloatValue op2)) rd with
    | (val, stored) => (if val ≠ qundef then .done val else .fallback uinsn, stored)
  else (.fallback uinsn, none)

/-- `spec_fix_arithm_call (suff, bop)`: `iplus`, …, `imod`. -/
def specFixArithmCall (suff : ArithOp) : Value → Value → SpecOutcome :=
  doSpecFixArithm rs suff.bop (specFixNumOf R suff) false ("u" ++ suff.name)

/-- `spec_flo_arithm_call (suff, bop)`: `fplus`, …, `fmod`. -/
def specFloArithmCall (suff : ArithOp) (rd : Bool) (d1 d2 : Option Double) :
    Value → Value → SpecOutcome × Option Double :=
  doSpecFloArithm R rs suff.bop (specFloNumOf R suff) false ("u" ++ suff.name) rd d1 d2

/-- `spec_fix_sarithm_call (suff, bop)`: `siplus`, …, `simod`. -/
def specFixSarithmCall (suff : ArithOp) : Value → Value → SpecOutcome :=
  doSpecFixArithm rs suff.bop (specFixNumOf R suff) false ("su" ++ suff.name)

/-- `spec_flo_sarithm_call (suff, bop)`: `sfplus`, …, `sfmod`. -/
def specFloSarithmCall (suff : ArithOp) (rd : Bool) (d1 d2 : Option Double) :
    Value → Value → SpecOutcome × Option Double :=
  doSpecFloArithm R rs suff.bop (specFloNumOf R suff) false ("su" ++ suff.name) rd d1 d2

/-- `spec_fix_arithm_imm_call (suff, bop)`: `iplusi`, …, `imodi`. -/
def specFixArithmImmCall (suff : ArithOp) : Value → Value → SpecOutcome :=
  doSpecFixArithm rs suff.bop (specFixNumOf R suff) true ("u" ++ suff.name ++ "i")

/-- `spec_flo_arithm_imm_call (suff, bop)`: `fplusf`, …, `fmodf`. -/
def specFloArithmImmCall (suff : ArithOp) (rd : Bool) (d1 : Option Double) :
    Value → Value → SpecOutcome × Option Double :=
  doSpecFloArithm R rs suff.bop (specFloNumOf R suff) true ("u" ++ suff.name ++ "f") rd d1 none

end Helpers

/-! ### The paths of `do_arithm` -/

section Paths

variable {R : Runtime} {rs : RedefState} {bop : Bop} {fixNumOp floatNumOp doubleNumOp : Value → Value → Value}
  {op2FixnumP op2FlonumP changeP : Bool} {fixInsnId floInsnId : InsnId} {op1 op2 : Value}

/-- On two heap Floats the fast path is the `double_num_…` helper, whatever the suffix. -/
private theorem arithmOp_heapFloats (ha : R.heapFloatP op1 = true) (hb : R.heapFloatP op2 = true)
    (hu : rs.unredefined bop .float = true) :
    arithmOp R rs bop fixNumOp floatNumOp doubleNumOp changeP fixInsnId floInsnId op1 op2 =
      .done (doubleNumOp op1 op2) none := by
  have ha' := Runtime.heapRef_of_heapFloatP ha
  have hb' := Runtime.heapRef_of_heapFloatP hb
  simp only [heapRef] at ha' hb'
  simp [arithmOp, doArithm, fixnum2P, flonum2P, fixnumP_of_heapRef ha', flonumP_of_heapRef ha', ha', hb',
    Runtime.classOf_of_heapFloatP ha, Runtime.classOf_of_heapFloatP hb, hu]

/-- A generic form rewrites itself only if it is a changing form, and only to the speculative form of the path
it took, whose guard holds on the operands.  So no unchanging form ever rewrites itself. -/
theorem doArithm_change {v : Value} {id : InsnId}
    (h : doArithm R rs bop fixNumOp floatNumOp doubleNumOp op2FixnumP op2FlonumP changeP fixInsnId floInsnId
      op1 op2 = .done v (some id)) :
    changeP = true ∧ (id = fixInsnId ∧ rs.specFixGuard bop op2FixnumP op1 op2 = true ∨
      id = floInsnId ∧ rs.specFloGuard bop op2FlonumP none none op1 op2 = true) := by
  unfold doArithm at h
  by_cases hc : (((op2FixnumP && fixnumP op1) || (!op2FixnumP && !op2FlonumP && fixnum2P op1 op2)) &&
      rs.unredefined bop .integer) = true
  · rw [if_pos hc] at h
    simp only [Bool.and_eq_true] at hc
    dsimp only at h
    split at h
    · cases changeP <;> simp only [FastPath.done.injEq, if_true, Option.some.injEq, reduceCtorEq,
        and_false, Bool.false_eq_true, if_false] at h
      exact ⟨rfl, .inl ⟨h.2.symm, RedefState.specFixGuard_of_generic hc.1 hc.2⟩⟩
    · cases h
  · rw [if_neg hc] at h
    by_cases hf : (((op2FlonumP && flonumP op1) || (!op2FixnumP && !op2FlonumP && flonum2P op1 op2)) &&
        rs.unredefined bop .float) = true
    · rw [if_pos hf] at h
      simp only [Bool.and_eq_true] at hf
      cases changeP <;> simp only [FastPath.done.injEq, if_true, Option.some.injEq, reduceCtorEq,
        and_false, Bool.false_eq_true, if_false] at h
      exact ⟨rfl, .inr ⟨h.2.symm, RedefState.specFloGuard_of_generic hf.1 hf.2⟩⟩
    · rw [if_neg hf] at h
      repeat' split at h
      all_goals cases h

/-- `plus` on the fixnums `1` and `2` writes `3` and rewrites itself to `iplus`, whose guard holds. -/
theorem doArithm_change_plus :
    doArithm sampleRuntime .pristine .plus (fixNumOf sampleRuntime .plus) (floatNumOf sampleRuntime .plus)
        (doubleNumOf sampleRuntime .plus) false false true "iplus" "fplus" (int2fix 1) (int2fix 2) =
      .done (int2fix 3) (some "iplus") ∧
    (true = true ∧ ("iplus" = "iplus" ∧ RedefState.pristine.specFixGuard .plus false (int2fix 1) (int2fix 2) = true ∨
      "iplus" = "fplus" ∧ RedefState.pristine.specFloGuard .plus false none none (int2fix 1) (int2fix 2) = true)) :=
  have h : doArithm sampleRuntime .pristine .plus (fixNumOf sampleRuntime .plus) (floatNumOf sampleRuntime .plus)
      (doubleNumOf sampleRuntime .plus) false false true "iplus" "fplus" (int2fix 1) (int2fix 2) =
      .done (int2fix 3) (some "iplus") := by decide
  ⟨h, doArithm_change h⟩

end Paths

/-! ### `%` on heap Floats -/

/-- `double_num_mod` calls `float_num_mult`: on two heap Floats, with `Float#%` not redefined, `mod` writes
`DBL2NUM` of the product of their doubles, and where `Float#%` gives a flonum and the product has none, that is
a heap Float in place of the flonum `Float#%` returns. -/
theorem double_num_mod_is_mult (R : Runtime) (rs : RedefState) {a b : Value} (ha : R.heapFloatP a = true)
    (hb : R.heapFloatP b = true) (hu : rs.unredefined .mod .float = true)
    (hmod : specDbl2num (dblOp R .mod (R.rfloatValue a) (R.rfloatValue b)) ≠ qundef)
    (hmul : specDbl2num (R.dblMul (R.rfloatValue a) (R.rfloatValue b)) = qundef) :
    arithmCall R rs .mod a b = .done (R.dbl2num (R.dblMul (R.rfloatValue a) (R.rfloatValue b))) none ∧
      R.dbl2num (R.dblMul (R.rfloatValue a) (R.rfloatValue b)) ≠
        R.dbl2num (dblOp R .mod (R.rfloatValue a) (R.rfloatValue b)) := by
  refine ⟨arithmOp_heapFloats ha hb hu, ?_⟩
  rw [Runtime.dbl2num_of_not_encoded hmul, Runtime.dbl2num_of_encoded hmod]
  exact (ne_of_flonumP_of_heapRef (flonumP_specDbl2num hmod) (R.heapRef_floatNewInHeap _)).symm

/-- At `2^300 % 2^300` on the heap Float `2^300`: `Float#%` gives the flonum `0.0`, the fast path a new heap Float
for `2^600`. -/
theorem double_num_mod_is_mult_pow2 :
    sampleRuntime.heapFloatP pow2To300 = true ∧
      specDbl2num (dblOp sampleRuntime .mod (sampleRuntime.rfloatValue pow2To300)
        (sampleRuntime.rfloatValue pow2To300)) ≠ qundef ∧
      specDbl2num (sampleRuntime.dblMul (sampleRuntime.rfloatValue pow2To300)
        (sampleRuntime.rfloatValue pow2To300)) = qundef ∧
      (arithmCall sampleRuntime .pristine .mod pow2To300 pow2To300 =
          .done (sampleRuntime.dbl2num (sampleRuntime.dblMul (sampleRuntime.rfloatValue pow2To300)
            (sampleRuntime.rfloatValue pow2To300))) none ∧
        sampleRuntime.dbl2num (sampleRuntime.dblMul (sampleRuntime.rfloatValue pow2To300)
            (sampleRuntime.rfloatValue pow2To300)) ≠
          sampleRuntime.dbl2num (dblOp sampleRuntime .mod (sampleRuntime.rfloatValue pow2To300)
            (sampleRuntime.rfloatValue pow2To300))) :=
  have ha : sampleRuntime.heapFloatP pow2To300 = true := by decide
  have hmod : specDbl2num (dblOp sampleRuntime .mod (sampleRuntime.rfloatValue pow2To300)
      (sampleRuntime.rfloatValue pow2To300)) ≠ qundef := by decide
  have hmul : specDbl2num (sampleRuntime.dblMul (sampleRuntime.rfloatValue pow2To300)
      (sampleRuntime.rfloatValue pow2To300)) = qundef := by decide
  ⟨ha, hmod, hmul, double_num_mod_is_mult sampleRuntime .pristine ha ha rfl hmod hmul⟩

/-- Through its double pointers `d1`, `d2` the speculative `fmod` accepts two heap Floats, which its guard lets
stand for flonums, and computes `ruby_float_mod` of their doubles; its unchanging form `umod` takes the heap-Float
path of `do_arithm`, which computes the product.  Where the remainder has a flonum and the product has none, the
two write different values. -/
theorem spec_fmod_differs_from_umod (R : Runtime) (rs : RedefState) {a b : Value} (ha : R.heapFloatP a = true)
    (hb : R.heapFloatP b = true) (hu : rs.unredefined .mod .float = true)
    (hmod : specDbl2num (dblOp R .mod (R.rfloatValue a) (R.rfloatValue b)) ≠ qundef)
    (hmul : specDbl2num (R.dblMul (R.rfloatValue a) (R.rfloatValue b)) = qundef) :
    ∃ v w, (specFloArithmCall R rs .mod false (some (R.rfloatValue a)) (some (R.rfloatValue b)) a b).1 = .done v ∧
      uarithmCall R rs .mod a b = .done w none ∧ v ≠ w := by
  refine ⟨specDbl2num (dblOp R .mod (R.rfloatValue a) (R.rfloatValue b)), doubleNumOf R .mod a b, ?_,
    arithmOp_heapFloats ha hb hu, ?_⟩
  · simp only [specFloArithmCall, doSpecFloArithm, RedefState.specFloGuard, RedefState.specUnredefined, ArithOp.bop,
      hu, Bool.or_true, Option.isSome_some, Bool.and_self, Bool.not_false, Bool.true_or, Bool.true_and, if_true,
      Option.getD_some, specFloNumOf, specFloNum, ne_eq, hmod, not_false_eq_true]
  · show specDbl2num _ ≠ floatNum R R.dblMul a b
    rw [floatNum, Runtime.dbl2num_of_not_encoded hmul]
    exact ne_of_flonumP_of_heapRef (flonumP_specDbl2num hmod) (R.heapRef_floatNewInHeap _)

/-- At `fmod` on the heap Float `2^300` twice, with its double passed through both pointers. -/
theorem spec_fmod_differs_from_umod_pow2 :
    sampleRuntime.heapFloatP pow2To300 = true ∧
      specDbl2num (dblOp sampleRuntime .mod (sampleRuntime.rfloatValue pow2To300)
        (sampleRuntime.rfloatValue pow2To300)) ≠ qundef ∧
      specDbl2num (sampleRuntime.dblMul (sampleRuntime.rfloatValue pow2To300)
        (sampleRuntime.rfloatValue pow2To300)) = qundef ∧
      ∃ v w, (specFloArithmCall sampleRuntime .pristine .mod false (some (sampleRuntime.rfloatValue pow2To300))
          (some (sampleRuntime.rfloatValue pow2To300)) pow2To300 pow2To300).1 = .done v ∧
        uarithmCall sampleRuntime .pristine .mod pow2To300 pow2To300 = .done w none ∧ v ≠ w :=
  have ha : sampleRuntime.heapFloatP pow2To300 = true := by decide
  have hmod : specDbl2num (dblOp sampleRuntime .mod (sampleRuntime.rfloatValue pow2To300)
      (sampleRuntime.rfloatValue pow2To300)) ≠ qundef := by decide
  have hmul : specDbl2num (sampleRuntime.dblMul (sampleRuntime.rfloatValue pow2To300)
      (sampleRuntime.rfloatValue pow2To300)) = qundef := by decide
  ⟨ha, hmod, hmul, spec_fmod_differs_from_umod sampleRuntime .pristine ha ha rfl hmod hmul⟩

end RtlMjit
