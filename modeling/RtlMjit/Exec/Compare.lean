import RtlMjit.Exec.Runtime

/-!
# Comparison instructions

The generic comparisons `eq`, `ne`, `lt`, `gt`, `le`, `ge` (with their simple `s…` and immediate `…i`, `…f`
forms) and the compare-and-branch instructions `bt…`, `bf…` run `common_cmp`.  Its fast paths are those of
`do_arithm`, with the `fix_num_…`, `float_num_…` and `double_num_…` comparisons, plus `String#==` and, for `==`
on a special constant, the identity test of `rb_obj_equal`.  `do_bcmp` turns the comparison value into the jump
decision of the branch.  The speculative forms `i…`, `f…`, `ib…`, `fb…` re-check the fixnum or flonum guard and
compare with the same fixnum helper, or with the C comparison of the doubles.

The main results:
* `commonCmp_change`: a generic form rewrites itself only to the speculative form whose guard held.
-/

namespace RtlMjit

/-- The suffix `suff` of a comparison family. -/
inductive CmpOp where
  | eq | ne | lt | gt | le | ge
deriving DecidableEq, Repr

namespace CmpOp

/-- The suffix as it is pasted into the instruction names. -/
def name : CmpOp → String
  | eq => "eq"
  | ne => "ne"
  | lt => "lt"
  | gt => "gt"
  | le => "le"
  | ge => "ge"

/-- The operator `BOP_…` passed with the suffix. -/
def bop : CmpOp → Bop
  | eq => .eq
  | ne => .neq
  | lt => .lt
  | gt => .gt
  | le => .le
  | ge => .ge

end CmpOp

section Helpers

variable (R : Runtime)

/-! ### The comparison helpers -/

/-- `fix_num_eq`: the words compared as signed integers. -/
def fixNumEq (a b : Value) : Bool := a == b
/-- `fix_num_ne`. -/
def fixNumNe (a b : Value) : Bool := a != b
/-- `fix_num_lt`. -/
def fixNumLt (a b : Value) : Bool := a.slt b
/-- `fix_num_gt`. -/
def fixNumGt (a b : Value) : Bool := b.slt a
/-- `fix_num_le`. -/
def fixNumLe (a b : Value) : Bool := a.sle b
/-- `fix_num_ge`. -/
def fixNumGe (a b : Value) : Bool := b.sle a

/-- `float_num_lt`: the doubles of the two flonums. -/
def floatNumLt (a b : Value) : Bool := R.dblLt (R.rfloatValue a) (R.rfloatValue b)
/-- `float_num_gt`. -/
def floatNumGt (a b : Value) : Bool := R.dblGt (R.rfloatValue a) (R.rfloatValue b)
/-- `float_num_le`. -/
def floatNumLe (a b : Value) : Bool := R.dblLe (R.rfloatValue a) (R.rfloatValue b)
/-- `float_num_ge`. -/
def floatNumGe (a b : Value) : Bool := R.dblGe (R.rfloatValue a) (R.rfloatValue b)

/-- `double_num_eq`: `==` on the doubles of two heap Floats. -/
def doubleNumEq (a b : Value) : Bool := dblEq (R.rfloatValue a) (R.rfloatValue b)
/-- `double_num_ne`. -/
def doubleNumNe (a b : Value) : Bool := !dblEq (R.rfloatValue a) (R.rfloatValue b)
/-- `double_num_lt`: `double_cmp_lt`, which is `<` on the doubles. -/
def doubleNumLt (a b : Value) : Bool := R.dblLt (R.rfloatValue a) (R.rfloatValue b)
/-- `double_num_gt`. -/
def doubleNumGt (a b : Value) : Bool := R.dblGt (R.rfloatValue a) (R.rfloatValue b)
/-- `double_num_le`. -/
def doubleNumLe (a b : Value) : Bool := R.dblLe (R.rfloatValue a) (R.rfloatValue b)
/-- `double_num_ge`. -/
def doubleNumGe (a b : Value) : Bool := R.dblGe (R.rfloatValue a) (R.rfloatValue b)

/-- `spec_float_num_lt`. -/
def specFloatNumLt (a b : Double) : Bool := R.dblLt a b
/-- `spec_float_num_gt`. -/
def specFloatNumGt (a b : Double) : Bool := R.dblGt a b
/-- `spec_float_num_le`. -/
def specFloatNumLe (a b : Double) : Bool := R.dblLe a b
/-- `spec_float_num_ge`. -/
def specFloatNumGe (a b : Double) : Bool := R.dblGe a b

/-- `fix_num_ ## suff`. -/
def fixNumCmpOf : CmpOp → Value → Value → Bool
  | .eq => fixNumEq
  | .ne => fixNumNe
  | .lt => fixNumLt
  | .gt => fixNumGt
  | .le => fixNumLe
  | .ge => fixNumGe

/-- `float_num_ ## suff`. -/
def floatNumCmpOf : CmpOp → Value → Value → Bool
  | .eq => floatNumEq
  | .ne => floatNumNe
  | .lt => floatNumLt R
  | .gt => floatNumGt R
  | .le => floatNumLe R
  | .ge => floatNumGe R

/-- `double_num_ ## suff`. -/
def doubleNumCmpOf : CmpOp → Value → Value → Bool
  | .eq => doubleNumEq R
  | .ne => doubleNumNe R
  | .lt => doubleNumLt R
  | .gt => doubleNumGt R
  | .le => doubleNumLe R
  | .ge => doubleNumGe R

/-- `spec_float_num_ ## suff`. -/
def specFloatNumCmpOf : CmpOp → Double → Double → Bool
  | .eq => specFloatNumEq
  | .ne => specFloatNumNe
  | .lt => specFloatNumLt R
  | .gt => specFloatNumGt R
  | .le => specFloatNumLe R
  | .ge => specFloatNumGe R

/-- A comparison result as a Ruby value. -/
def boolVal (b : Bool) : Value := if b then qtrue else qfalse

/-! ### The generic and unchanging forms -/

variable (rs : RedefState)

/-- `common_cmp`: the fast paths of a comparison whose second operand is known to be a fixnum (`op2FixnumP`) or
a flonum (`op2FlonumP`), which rewrites itself to `fixInsnId` or `floInsnId` when `changeP`. -/
def commonCmp (bop : Bop) (fixNumCmp floatNumCmp doubleNumCmp : Value → Value → Bool)
    (op2FixnumP op2FlonumP changeP : Bool) (fixInsnId floInsnId : InsnId) (op1 op2 : Value) : FastPath :=
  if ((op2FixnumP && fixnumP op1) || (!op2FixnumP && !op2FlonumP && fixnum2P op1 op2)) &&
      rs.unredefined bop .integer then
    .done (boolVal (fixNumCmp op1 op2)) (if changeP then some fixInsnId else none)
  else if ((op2FlonumP && flonumP op1) || (!op2FixnumP && !op2FlonumP && flonum2P op1 op2)) &&
      rs.unredefined bop .float then
    .done (boolVal (floatNumCmp op1 op2)) (if changeP then some floInsnId else none)
  else if !op2FixnumP && !op2FlonumP && !specialConstP op1 && !specialConstP op2 then
    if R.classOf op1 = .float ∧ R.classOf op2 = .float ∧ rs.unredefined bop .float then
      .done (boolVal (doubleNumCmp op1 op2)) none
    else if bop = .eq ∧ R.classOf op1 = .string ∧ R.classOf op2 = .string ∧ rs.unredefined bop .string then
      .done (R.strEqual op1 op2) none
    else .dispatch
  else if bop = .eq then
    if R.eqIsObjEqual op1 then .done (boolVal (op1 == op2)) none else .dispatch
  else .dispatch

/-- `cmp_op` and `cmp_imm_op`: `do_cmp`, which writes the value of `common_cmp`. -/
def cmpOp (bop : Bop) (fixNumCmp floatNumCmp doubleNumCmp : Value → Value → Bool)
    (op2FixnumP op2FlonumP changeP : Bool) (fixInsnId floInsnId : InsnId) (op1 op2 : Value) : FastPath :=
  commonCmp R rs bop fixNumCmp floatNumCmp doubleNumCmp op2FixnumP op2FlonumP changeP fixInsnId floInsnId op1 op2

/-- `cmp_call (suff, bop)`: `eq`, `ne`, `lt`, `gt`, `le`, `ge`. -/
def cmpCall (suff : CmpOp) : Value → Value → FastPath :=
  cmpOp R rs suff.bop (fixNumCmpOf suff) (floatNumCmpOf R suff) (doubleNumCmpOf R suff) false false true
    ("i" ++ suff.name) ("f" ++ suff.name)

/-- `ucmp_call (suff, bop)`: `ueq`, …, `uge`. -/
def ucmpCall (suff : CmpOp) : Value → Value → FastPath :=
  cmpOp R rs suff.bop (fixNumCmpOf suff) (floatNumCmpOf R suff) (doubleNumCmpOf R suff) false false false "" ""

/-- `scmp_call (suff, bop)`: `seq`, …, `sge`. -/
def scmpCall (suff : CmpOp) : Value → Value → FastPath :=
  cmpOp R rs suff.bop (fixNumCmpOf suff) (floatNumCmpOf R suff) (doubleNumCmpOf R suff) false false true
    ("si" ++ suff.name) ("sf" ++ suff.name)

/-- `sucmp_call (suff, bop)`: `sueq`, …, `suge`. -/
def sucmpCall (suff : CmpOp) : Value → Value → FastPath :=
  cmpOp R rs suff.bop (fixNumCmpOf suff) (floatNumCmpOf R suff) (doubleNumCmpOf R suff) false false false "" ""

/-- `cmp_fix_call (suff, bop)`: `eqi`, …, `gei`. -/
def cmpFixCall (suff : CmpOp) : Value → Value → FastPath :=
  cmpOp R rs suff.bop (fixNumCmpOf suff) (floatNumCmpOf R suff) (doubleNumCmpOf R suff) true false true
    ("i" ++ suff.name ++ "i") ""

/-- `ucmp_fix_call (suff, bop)`: `ueqi`, …, `ugei`. -/
def ucmpFixCall (suff : CmpOp) : Value → Value → FastPath :=
  cmpOp R rs suff.bop (fixNumCmpOf suff) (floatNumCmpOf R suff) (doubleNumCmpOf R suff) true false false "" ""

/-- `cmp_flo_call (suff, bop)`: `eqf`, …, `gef`. -/
def cmpFloCall (suff : CmpOp) : Value → Value → FastPath :=
  cmpOp R rs suff.bop (fixNumCmpOf suff) (floatNumCmpOf R suff) (doubleNumCmpOf R suff) false true true
    "" ("f" ++ suff.name ++ "f")

/-- `ucmp_flo_call (suff, bop)`: `ueqf`, …, `ugef`. -/
def ucmpFloCall (suff : CmpOp) : Value → Value → FastPath :=
  cmpOp R rs suff.bop (fixNumCmpOf suff) (floatNumCmpOf R suff) (doubleNumCmpOf R suff) false true false "" ""

/-! ### Compare and branch -/

/-- How `do_bcmp` ends outside JITed code: a fast path writes the comparison value and the branch jumps on it,
with the rewrite the fast path made; or the method is dispatched. -/
inductive BcmpOutcome where
  | done (v : Value) (jump : Bool) (change : Option InsnId)
  | dispatch
deriving DecidableEq, Repr

/-- `do_bcmp` (not in JITed code): the value of `common_cmp`, and a jump when its truth is `trueP`. -/
def doBcmp (trueP : Bool) (bop : Bop) (fixNumCmp floatNumCmp doubleNumCmp : Value → Value → Bool)
    (op2FixnumP op2FlonumP changeP : Bool) (fixInsnId floInsnId : InsnId) (op1 op2 : Value) : BcmpOutcome :=
  match commonCmp R rs bop fixNumCmp floatNumCmp doubleNumCmp op2FixnumP op2FlonumP changeP fixInsnId floInsnId
      op1 op2 with
  | .done v change => .done v (if trueP then rtest v else !rtest v) change
  | .dispatch => .dispatch

/-- The names `bt…` and `bf…` of a compare-and-branch family. -/
def branchName (trueP : Bool) (suff : CmpOp) : String := (if trueP then "bt" else "bf") ++ suff.name

/-- `bcmp_call (suff, true_p, bop)`: `bteq`, `bfeq`, …, `bfge`. -/
def bcmpCall (suff : CmpOp) (trueP : Bool) : Value → Value → BcmpOutcome :=
  doBcmp R rs trueP suff.bop (fixNumCmpOf suff) (floatNumCmpOf R suff) (doubleNumCmpOf R suff) false false true
    ("i" ++ branchName trueP suff) ("f" ++ branchName trueP suff)

/-- `ubcmp_call (suff, true_p, bop)`: `ubteq`, …, `ubfge`. -/
def ubcmpCall (suff : CmpOp) (trueP : Bool) : Value → Value → BcmpOutcome :=
  doBcmp R rs trueP suff.bop (fixNumCmpOf suff) (floatNumCmpOf R suff) (doubleNumCmpOf R suff) false false false
    "" ""

/-- `bcmp_fix_call (suff, true_p, bop)`: `bteqi`, …, `bfgei`. -/
def bcmpFixCall (suff : CmpOp) (trueP : Bool) : Value → Value → BcmpOutcome :=
  doBcmp R rs trueP suff.bop (fixNumCmpOf suff) (floatNumCmpOf R suff) (doubleNumCmpOf R suff) true false true
    ("i" ++ branchName trueP suff ++ "i") ("f" ++ branchName trueP suff ++ "f")

/-- `ubcmp_fix_call (suff, true_p, bop)`: `ubteqi`, …, `ubfgei`. -/
def ubcmpFixCall (suff : CmpOp) (trueP : Bool) : Value → Value → BcmpOutcome :=
  doBcmp R rs trueP suff.bop (fixNumCmpOf suff) (floatNumCmpOf R suff) (doubleNumCmpOf R suff) true false false
    "" ""

/-- `bcmp_flo_call (suff, true_p, bop)`: `bteqf`, …, `bfgef`. -/
def bcmpFloCall (suff : CmpOp) (trueP : Bool) : Value → Value → BcmpOutcome :=
  doBcmp R rs trueP suff.bop (fixNumCmpOf suff) (floatNumCmpOf R suff) (doubleNumCmpOf R suff) false true true
    ("i" ++ branchName trueP suff ++ "i") ("f" ++ branchName trueP suff ++ "f")

/-- `ubcmp_flo_call (suff, true_p, bop)`: `ubteqf`, …, `ubfgef`. -/
def ubcmpFloCall (suff : CmpOp) (trueP : Bool) : Value → Value → BcmpOutcome :=
  doBcmp R rs trueP suff.bop (fixNumCmpOf suff) (floatNumCmpOf R suff) (doubleNumCmpOf R suff) false true false
    "" ""

/-! ### The speculative forms -/

/-- `common_spec_fix_cmp`: the comparison value, or `Qundef` when the guard fails. -/
def commonSpecFixCmp (bop : Bop) (fixNumCmp : Value → Value → Bool) (op2FixnumP : Bool) (op1 op2 : Value) :
    Value :=
  if rs.specFixGuard bop op2FixnumP op1 op2 then boolVal (fixNumCmp op1 op2) else qundef

/-- `common_spec_flo_cmp`, with the double pointers `d1`, `d2`. -/
def commonSpecFloCmp (bop : Bop) (floatNumCmp : Double → Double → Bool) (op2FlonumP : Bool)
    (d1 d2 : Option Double) (op1 op2 : Value) : Value :=
  if rs.specFloGuard bop op2FlonumP d1 d2 op1 op2 then
    boolVal (floatNumCmp (d1.getD (R.rfloatValue op1)) (d2.getD (R.rfloatValue op2)))
  else qundef

/-- `do_spec_fix_cmp` and `do_spec_flo_cmp`: write the value, or fall back when it is `Qundef`. -/
def specCmpFinish (uinsn : InsnId) (v : Value) : SpecOutcome := if v = qundef then .fallback uinsn else .done v

/-- How a speculative compare-and-branch ends: it writes the value and jumps on it, or it falls back. -/
inductive SpecBcmpOutcome where
  | done (v : Value) (jump : Bool)
  | fallback (uinsn : InsnId)
deriving DecidableEq, Repr

/-- `spec_bcmp_finish`. -/
def specBcmpFinish (trueP : Bool) (uinsn : InsnId) (v : Value) : SpecBcmpOutcome :=
  if v ≠ qundef then .done v (if trueP then rtest v else !rtest v) else .fallback uinsn

/-- `spec_fix_cmp_call (suff, bop)`: `ieq`, …, `ige`. -/
def specFixCmpCall (suff : CmpOp) (op1 op2 : Value) : SpecOutcome :=
  specCmpFinish ("u" ++ suff.name) (commonSpecFixCmp rs suff.bop (fixNumCmpOf suff) false op1 op2)

/-- `spec_flo_cmp_call (suff, bop)`: `feq`, …, `fge`. -/
def specFloCmpCall (suff : CmpOp) (d1 d2 : Option Double) (op1 op2 : Value) : SpecOutcome :=
  specCmpFinish ("u" ++ suff.name) (commonSpecFloCmp R rs suff.bop (specFloatNumCmpOf R suff) false d1 d2 op1 op2)

/-- `spec_fix_scmp_call (suff, bop)`: `sieq`, …, `sige`. -/
def specFixScmpCall (suff : CmpOp) (op1 op2 : Value) : SpecOutcome :=
  specCmpFinish ("su" ++ suff.name) (commonSpecFixCmp rs suff.bop (fixNumCmpOf suff) false op1 op2)

/-- `spec_flo_scmp_call (suff, bop)`: `sfeq`, …, `sfge`. -/
def specFloScmpCall (suff : CmpOp) (d1 d2 : Option Double) (op1 op2 : Value) : SpecOutcome :=
  specCmpFinish ("su" ++ suff.name) (commonSpecFloCmp R rs suff.bop (specFloatNumCmpOf R suff) false d1 d2 op1 op2)

/-- `spec_fix_cmp_imm_call (suff, bop)`: `ieqi`, …, `igei`. -/
def specFixCmpImmCall (suff : CmpOp) (op1 imm : Value) : SpecOutcome :=
  specCmpFinish ("u" ++ suff.name ++ "i") (commonSpecFixCmp rs suff.bop (fixNumCmpOf suff) true op1 imm)

/-- `spec_flo_cmp_imm_call (suff, bop)`: `feqf`, …, `fgef`. -/
def specFloCmpImmCall (suff : CmpOp) (d : Option Double) (op1 imm : Value) : SpecOutcome :=
  specCmpFinish ("u" ++ suff.name ++ "f")
    (commonSpecFloCmp R rs suff.bop (specFloatNumCmpOf R suff) true d none op1 imm)

/-- `spec_fix_bcmp_call (suff, true_p, bop)`: `ibteq`, …, `ibfge`. -/
def specFixBcmpCall (suff : CmpOp) (trueP : Bool) (op1 op2 : Value) : SpecBcmpOutcome :=
  specBcmpFinish trueP ("u" ++ branchName trueP suff) (commonSpecFixCmp rs suff.bop (fixNumCmpOf suff) false op1 op2)

/-- `spec_flo_bcmp_call (suff, true_p, bop)`: `fbteq`, …, `fbfge`. -/
def specFloBcmpCall (suff : CmpOp) (trueP : Bool) (d1 d2 : Option Double) (op1 op2 : Value) :
    SpecBcmpOutcome :=
  specBcmpFinish trueP ("u" ++ branchName trueP suff)
    (commonSpecFloCmp R rs suff.bop (specFloatNumCmpOf R suff) false d1 d2 op1 op2)

/-- `spec_fix_imm_bcmp_call (suff, true_p, bop)`: `ibteqi`, …, `ibfgei`. -/
def specFixImmBcmpCall (suff : CmpOp) (trueP : Bool) (op1 imm : Value) : SpecBcmpOutcome :=
  specBcmpFinish trueP ("u" ++ branchName trueP suff ++ "i")
    (commonSpecFixCmp rs suff.bop (fixNumCmpOf suff) true op1 imm)

/-- `spec_flo_imm_bcmp_call (suff, true_p, bop)`: `fbteqf`, …, `fbfgef`. -/
def specFloImmBcmpCall (suff : CmpOp) (trueP : Bool) (d : Option Double) (op1 imm : Value) : SpecBcmpOutcome :=
  specBcmpFinish trueP ("u" ++ branchName trueP suff ++ "f")
    (commonSpecFloCmp R rs suff.bop (specFloatNumCmpOf R suff) true d none op1 imm)

end Helpers

/-! ### The paths of `common_cmp` -/

section Paths

variable {R : Runtime} {rs : RedefState} {bop : Bop} {fixNumCmp floatNumCmp doubleNumCmp : Value → Value → Bool}
  {op2FixnumP op2FlonumP changeP : Bool} {fixInsnId floInsnId : InsnId} {op1 op2 : Value}

/-- A generic comparison rewrites itself only if it is a changing form, and only to the speculative form of the
path it took, whose guard holds on the operands. -/
theorem commonCmp_change {v : Value} {id : InsnId}
    (h : commonCmp R rs bop fixNumCmp floatNumCmp doubleNumCmp op2FixnumP op2FlonumP changeP fixInsnId floInsnId
      op1 op2 = .done v (some id)) :
    changeP = true ∧ (id = fixInsnId ∧ rs.specFixGuard bop op2FixnumP op1 op2 = true ∨
      id = floInsnId ∧ rs.specFloGuard bop op2FlonumP none none op1 op2 = true) := by
  unfold commonCmp at h
  by_cases hc : (((op2FixnumP && fixnumP op1) || (!op2FixnumP && !op2FlonumP && fixnum2P op1 op2)) &&
      rs.unredefined bop .integer) = true
  · rw [if_pos hc] at h
    simp only [Bool.and_eq_true] at hc
    cases changeP <;> simp only [FastPath.done.injEq, if_true, Option.some.injEq, reduceCtorEq,
      and_false, Bool.false_eq_true, if_false] at h
    exact ⟨rfl, .inl ⟨h.2.symm, RedefState.specFixGuard_of_generic hc.1 hc.2⟩⟩
  · rw [if_neg hc] at h
    by_cases hf : (((op2FlonumP && flonumP op1) || (!op2FixnumP && !op2FlonumP && flonum2P op1 op2)) &&
        rs.unredefined bop .float) = true
    · rw [if_pos hf] at h
      simp only [Bool.and_eq_true] at hf
      cases changeP <;> simp only [FastPath.done.injEq, if_true, Option.some.injEq, reduceCtorEq,
        and_false, Bool.false_eq_true, if_false] at h
      exact ⟨rfl, .inr ⟨h.2.symm, RedefState.specFloGuard_of_generic hf.1 hf.2⟩⟩
    · rw [if_neg hf] at h
      repeat' split at h
      all_goals cases h

/-- A compare-and-branch rewrites itself as its comparison does. -/
theorem doBcmp_change {trueP jump : Bool} {v : Value} {id : InsnId}
    (h : doBcmp R rs trueP bop fixNumCmp floatNumCmp doubleNumCmp op2FixnumP op2FlonumP changeP fixInsnId
      floInsnId op1 op2 = .done v jump (some id)) :
    changeP = true ∧ (id = fixInsnId ∧ rs.specFixGuard bop op2FixnumP op1 op2 = true ∨
      id = floInsnId ∧ rs.specFloGuard bop op2FlonumP none none op1 op2 = true) := by
  unfold doBcmp at h
  split at h
  · rename_i hc
    cases h
    exact commonCmp_change hc
  · cases h

/-- `btlt` on the fixnums `1` and `2` jumps and rewrites itself to `ibtlt`, whose guard holds. -/
theorem doBcmp_change_lt :
    doBcmp sampleRuntime .pristine true .lt (fixNumCmpOf .lt) (floatNumCmpOf sampleRuntime .lt)
        (doubleNumCmpOf sampleRuntime .lt) false false true "ibtlt" "fbtlt" (int2fix 1) (int2fix 2) =
      .done qtrue true (some "ibtlt") ∧
    (true = true ∧ ("ibtlt" = "ibtlt" ∧ RedefState.pristine.specFixGuard .lt false (int2fix 1) (int2fix 2) = true ∨
      "ibtlt" = "fbtlt" ∧ RedefState.pristine.specFloGuard .lt false none none (int2fix 1) (int2fix 2) = true)) :=
  have h : doBcmp sampleRuntime .pristine true .lt (fixNumCmpOf .lt) (floatNumCmpOf sampleRuntime .lt)
      (doubleNumCmpOf sampleRuntime .lt) false false true "ibtlt" "fbtlt" (int2fix 1) (int2fix 2) =
      .done qtrue true (some "ibtlt") := by decide
  ⟨h, doBcmp_change h⟩

end Paths

end RtlMjit
