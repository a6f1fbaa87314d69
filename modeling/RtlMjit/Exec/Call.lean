import RtlMjit.Exec.Frame

/-!
# The stack pointer around the helpers that may run Ruby code

The helpers of `rtl_exec.c` that can run Ruby code are entered with `cfp->sp` at its default position, the cell
after the frame's temporaries (`check_sp_default`).  When a fast path does not apply, `op1_call`, `op2_call`
and `op3_call` store the receiver and the arguments from temporary `cd->call_start` and set `cfp->sp` past
them; `call_method` runs the method's call handler `cc->call` and puts `cfp->sp` back at its default position
when the handler finished with a value, or, in JITed code, after `mjit_vm_exec` has run the frame the handler
pushed.  `op_val_call_end` and `op_call_end` then turn the outcome into the helper's return value.

Everything outside `rtl_exec.c` (the call handler, `mjit_vm_exec`, `vm_expandarray`, `vm_defined` and the
frame push of `define_class`) is an arbitrary function of the frame, so that the results hold for every callee.
A fast path is a `FastPath` value as the modules before compute it: `doArithm`, `commonCmp`, `commonInd`,
`commonNot`; the frame's side of such a helper is named after it with `Frame`.

* `opValHelper_outcome`: a helper ending in `op_val_call_end` returns 0 after writing its result at the default
  stack pointer; it returns 1 either in JITed code whose frame is cancelled, also after writing its result at
  the default stack pointer, or outside JITed code when the handler pushed a callee frame, with the frame as
  the handler left it.  `do_cmp`, `common_indset` and `do_bcmp` have the same three outcomes in their own terms.
* `mjitCallFinish_spec`: `mjit_call_finish` writes its result and sets the default stack pointer from the real
  `bp` when `ep` differs from it; it returns 1 in that case or when the frame is cancelled.
* `helpers_sp_outcomes`: every helper that may run Ruby code, entered at the default stack pointer.
* `helpers_return_one_with_result_written`: so a return of 1 does not mean that a callee frame was pushed.
-/

namespace RtlMjit

/-- `in_mjit_p`, and `mjit_ep_neq_bp_p`: whether the code runs as JITed code, and whether that code was
compiled without the speculation that `ep` and `bp` agree. -/
structure CallEnv where
  inMjit : Bool
  mjitEpNeqBpP : Bool

/-- The current frame as the helpers see it: its cells and `cfp->sp`, `cfp->bp` and `cfp->ep`, the bit
`VM_FRAME_FLAG_CANCEL` of its environment flags, and `temp_vars_num` of its iseq. -/
structure CallFrame where
  frame : FrameState
  bp : Int
  ep : Int
  cancel : Bool
  tempVarsNum : Nat

/-- What runs outside `rtl_exec.c` during a call: the method's call handler `cc->call`, which returns `Qundef`
when it has pushed a frame for the callee, and `mjit_vm_exec`, which runs the pushed frames to their end.
Either may change the current frame in any way. -/
structure Callee where
  call : CallFrame → Value × CallFrame
  vmExec : CallFrame → Value × CallFrame

section Protocol

variable (env : CallEnv)

/-- `RTL_GET_BP`. -/
def rtlGetBp (f : CallFrame) : Int := if env.mjitEpNeqBpP then f.bp else f.ep

/-- `*a = v` in the current frame. -/
def CallFrame.write (f : CallFrame) (a : Int) (v : Value) : CallFrame :=
  { f with frame := { f.frame with mem := f.frame.mem.write a v } }

/-- `set_default_sp_0`. -/
def setDefaultSp0 (f : CallFrame) (bp : Int) (tempVarsNum : Nat) : CallFrame :=
  { f with frame := { f.frame with sp := defaultSp bp tempVarsNum } }

/-- `set_default_sp`. -/
def setDefaultSp (f : CallFrame) : CallFrame := setDefaultSp0 f (rtlGetBp env f) f.tempVarsNum

/-- `cfp->sp` is at its default position, as `check_sp_default` asserts. -/
def SpDefault (f : CallFrame) : Prop := f.frame.sp = defaultSp (rtlGetBp env f) f.tempVarsNum

/-- The stores of `op1_call`, `op2_call` and `op3_call` before they call the method. -/
def opCallFrame (callStart : Int) (ops : List Value) (f : CallFrame) : CallFrame :=
  { f with frame := opCall (rtlGetBp env f) callStart ops f.frame }

/-- `call_method`. -/
def callMethod (callee : Callee) (f : CallFrame) : Value × CallFrame :=
  let (val, f₁) := callee.call f
  if val ≠ qundef then (val, setDefaultSp env f₁)
  else if env.inMjit then
    let (v, f₂) := callee.vmExec f₁
    (v, setDefaultSp env f₂)
  else (val, f₁)

/-- `op_val_call_end`; its `RTL_ASSERT` that `Qundef` comes only outside JITed code is left out. -/
def opValCallEnd (res : Int) (val : Value) (f : CallFrame) : Nat × CallFrame :=
  if val = qundef then (1, f)
  else
    let f := f.write res val
    if !env.inMjit then (0, f) else if !f.cancel then (0, f) else (1, f)

/-- `op_call_end`. -/
def opCallEnd (callee : Callee) (val : Value) (f : CallFrame) : Nat × CallFrame :=
  if val = qundef ∧ !env.inMjit then (1, f)
  else
    let f := if val = qundef then (callee.vmExec f).2 else f
    if !env.inMjit then (0, f) else if !f.cancel then (0, f) else (1, f)

/-! ### The helpers -/

/-- The helpers that end in `op_val_call_end`: a fast path writes its value and returns 0; otherwise the
operands are stored from temporary `callStart` and the method is called. -/
def opValHelper (callee : Callee) (fast : FastPath) (res callStart : Int) (ops : List Value) (f : CallFrame) :
    Nat × CallFrame :=
  match fast with
  | .done v _ => (0, f.write res v)
  | .dispatch =>
    let (val, f₁) := callMethod env callee (opCallFrame env callStart ops f)
    opValCallEnd env res val f₁

/-- `ary_hash_op`, the helper of `length`, `size` and `empty_p`. -/
def aryHashOp (callee : Callee) (fast : FastPath) (res callStart : Int) (op : Value) :
    CallFrame → Nat × CallFrame := opValHelper env callee fast res callStart [op]

/-- `common_not`, with the fast path of `commonNot`. -/
def commonNotFrame (callee : Callee) (fast : FastPath) (res callStart : Int) (op : Value) :
    CallFrame → Nat × CallFrame := opValHelper env callee fast res callStart [op]

/-- `succ_f`, whose fast path is `vm_opt_succ`. -/
def succF (callee : Callee) (fast : FastPath) (res callStart : Int) (src : Value) :
    CallFrame → Nat × CallFrame := opValHelper env callee fast res callStart [src]

/-- `do_arithm`, with the fast path of `doArithm`. -/
def doArithmFrame (callee : Callee) (fast : FastPath) (res callStart : Int) (op1 op2 : Value) :
    CallFrame → Nat × CallFrame := opValHelper env callee fast res callStart [op1, op2]

/-- `common_ind`, with the fast path of `commonInd`; `op2` is the index as stored, after `rb_str_resurrect`
for a string index. -/
def commonIndFrame (callee : Callee) (fast : FastPath) (res callStart : Int) (op1 op2 : Value) :
    CallFrame → Nat × CallFrame := opValHelper env callee fast res callStart [op1, op2]

/-- `do_ltlt`, whose fast paths are `rb_str_concat` and `rb_ary_push`. -/
def doLtlt (callee : Callee) (fast : FastPath) (res callStart : Int) (src1 src2 : Value) :
    CallFrame → Nat × CallFrame := opValHelper env callee fast res callStart [src1, src2]

/-- `regexp_match2_f`, whose fast path is `vm_opt_regexpmatch2`. -/
def regexpMatch2F (callee : Callee) (fast : FastPath) (res callStart : Int) (str regex : Value) :
    CallFrame → Nat × CallFrame := opValHelper env callee fast res callStart [str, regex]

/-- `common_cmp`, with the fast path of `commonCmp`: the comparison value, or the value of the call. -/
def commonCmpFrame (callee : Callee) (fast : FastPath) (callStart : Int) (op1 op2 : Value) (f : CallFrame) :
    Value × CallFrame :=
  match fast with
  | .done v _ => (v, f)
  | .dispatch => callMethod env callee (opCallFrame env callStart [op1, op2] f)

/-- `do_cmp`.  Unlike the helpers above, it passes the value of a fast path through `op_val_call_end` too, so
that in a cancelled frame of JITed code a fast path also returns 1. -/
def doCmpFrame (callee : Callee) (fast : FastPath) (res callStart : Int) (op1 op2 : Value) (f : CallFrame) :
    Nat × CallFrame :=
  let (val, f₁) := commonCmpFrame env callee fast callStart op1 op2 f
  opValCallEnd env res val f₁

/-- `do_bcmp`: the branch decision, the value left in `*val` (`Qundef` when a callee frame was pushed, or in a
cancelled frame of JITed code), and the frame. -/
def doBcmpFrame (callee : Callee) (fast : FastPath) (trueP : Bool) (res callStart : Int) (op1 op2 : Value)
    (f : CallFrame) : Bool × Value × CallFrame :=
  let (v, f₁) := commonCmpFrame env callee fast callStart op1 op2 f
  let jump (v : Value) : Bool := if trueP then rtest v else !rtest v
  if !env.inMjit then
    if v = qundef then (false, v, f₁) else (jump v, v, f₁.write res v)
  else
    let (v, f₂) := if v = qundef then callee.vmExec f₁ else (v, f₁)
    (jump v, if !f₂.cancel then v else qundef, f₂.write res v)

/-- `common_indset`, with the fast path of `commonIndset`; it writes no result and ends in `op_call_end`. -/
def commonIndsetFrame {H : Type} (callee : Callee) (fast : StoreOutcome H) (callStart : Int)
    (recv ind el : Value) (f : CallFrame) : Nat × CallFrame :=
  match fast with
  | .done _ _ => (0, f)
  | .dispatch =>
    let (val, f₁) := callMethod env callee (opCallFrame env callStart [recv, ind, el] f)
    opCallEnd env callee val f₁

/-- `spread_array_f`: `vm_expandarray` (`expand`) pushes the array's elements from the cell after `op1`. -/
def spreadArrayF (expand : CallFrame → CallFrame) (op1 : Int) (f : CallFrame) : CallFrame :=
  setDefaultSp env (expand { f with frame := { f.frame with sp := op1 + 1 } })

/-- `defined_p_f`, with `vm_defined` as `vmDefined`. -/
def definedPF (vmDefined : CallFrame → Value × CallFrame) (res : Int) (f : CallFrame) : CallFrame :=
  let (v, f₁) := vmDefined f
  setDefaultSp env (f₁.write res v)

/-- `define_class_f`: `define_class` sets `cfp->sp` to temporary `stackTop` and pushes the class frame
(`push`), `mjit_vm_exec` runs it, and its value goes to temporary `stackTop`. -/
def defineClassF (callee : Callee) (push : CallFrame → CallFrame) (stackTop : Int) (f : CallFrame) :
    CallFrame :=
  let (v, f₁) :=
    callee.vmExec (push { f with frame := { f.frame with sp := getTempAddr (rtlGetBp env f) stackTop } })
  setDefaultSp env (f₁.write (getTempAddr (rtlGetBp env f₁) stackTop) v)

/-- `mjit_call_finish`: the result goes to `res`, and `cfp->sp` to its default position for a caller with
`tempVarsNum` temporaries, from the real `bp` when `ep` differs from it although the code was compiled with the
speculation that they agree. -/
def mjitCallFinish (tempVarsNum : Nat) (val : Value) (res : Int) (f : CallFrame) : Nat × CallFrame :=
  let f := f.write res val
  if !env.mjitEpNeqBpP ∧ f.bp ≠ f.ep then (1, setDefaultSp0 f f.bp tempVarsNum)
  else (if f.cancel then 1 else 0, setDefaultSp0 f (rtlGetBp env f) tempVarsNum)

end Protocol

/-! ### Outcomes -/

section Outcomes

variable {env : CallEnv}

@[simp] private theorem CallFrame.write_cancel (f : CallFrame) (a : Int) (v : Value) :
    (f.write a v).cancel = f.cancel :=
  rfl

private theorem spDefault_setDefaultSp (f : CallFrame) : SpDefault env (setDefaultSp env f) := rfl

/-- `opN_call` leaves `cfp->sp` past the operands it stored from temporary `callStart`. -/
private theorem opCallFrame_sp (callStart : Int) (ops : List Value) (f : CallFrame) :
    (opCallFrame env callStart ops f).frame.sp = getTempAddr (rtlGetBp env f) callStart + ops.length := rfl

variable (env)

/-- The helper's last act was to write its result `v` into `res`, from a frame at the default stack pointer. -/
def WroteAtDefault (res : Int) (f : CallFrame) : Prop := ∃ g v, SpDefault env g ∧ f = g.write res v

/-- Outside JITed code, the call handler, given the frame `g`, pushed a callee frame, and the helper returned
at once: the frame is as the handler left it. -/
def Pushed (callee : Callee) (g f : CallFrame) : Prop :=
  env.inMjit = false ∧ (callee.call g).1 = qundef ∧ f = (callee.call g).2

/-- How a helper with a result ends: 0 with the result written at the default stack pointer; 1 in a cancelled
frame of JITed code, also with the result written at the default stack pointer; or 1 when the handler, given
the frame `g` of the call, pushed a callee frame. -/
def ValOutcome (callee : Callee) (res : Int) (g : CallFrame) (out : Nat × CallFrame) : Prop :=
  (out.1 = 0 ∧ WroteAtDefault env res out.2) ∨
    (out.1 = 1 ∧ env.inMjit = true ∧ out.2.cancel = true ∧ WroteAtDefault env res out.2) ∨
    (out.1 = 1 ∧ Pushed env callee g out.2)

/-- How a helper without a result ends: as `ValOutcome`, with the default stack pointer in place of the
written result. -/
def NoResultOutcome (callee : Callee) (g : CallFrame) (out : Nat × CallFrame) : Prop :=
  (out.1 = 0 ∧ SpDefault env out.2) ∨ (out.1 = 1 ∧ env.inMjit = true ∧ out.2.cancel = true ∧ SpDefault env out.2) ∨
    (out.1 = 1 ∧ Pushed env callee g out.2)

/-- How `do_bcmp` ends: the comparison value written at the default stack pointer, with `Qundef` left in `*val`
only in a cancelled frame of JITed code; or `FALSE` with `Qundef` in `*val` when the handler, given the frame
`g` of the call, pushed a callee frame. -/
def BcmpFrameOutcome (callee : Callee) (res : Int) (g : CallFrame) (out : Bool × Value × CallFrame) : Prop :=
  WroteAtDefault env res out.2.2 ∧ (out.2.1 = qundef → env.inMjit = true ∧ out.2.2.cancel = true) ∨
    out.1 = false ∧ out.2.1 = qundef ∧ Pushed env callee g out.2.2

variable {env}

private theorem WroteAtDefault.spDefault {res : Int} {f : CallFrame} (h : WroteAtDefault env res f) :
    SpDefault env f := by
  obtain ⟨g, v, hg, rfl⟩ := h
  exact hg

private theorem wroteAtDefault_write {g : CallFrame} (hg : SpDefault env g) (res : Int) (v : Value) :
    WroteAtDefault env res (g.write res v) := ⟨g, v, hg, rfl⟩

section Callee

variable {callee : Callee} (hexec : ∀ g, (callee.vmExec g).1 ≠ qundef)
include hexec

variable (env) in
/-- `call_method` finishes with a value at the default stack pointer, unless, outside JITed code, the handler
pushed a callee frame. -/
private theorem callMethod_outcome (g : CallFrame) :
    ((callMethod env callee g).1 ≠ qundef ∧ SpDefault env (callMethod env callee g).2) ∨
      (callMethod env callee g = (qundef, (callee.call g).2) ∧ Pushed env callee g (callee.call g).2) := by
  unfold callMethod
  rcases hc : callee.call g with ⟨val, f₁⟩
  dsimp only
  by_cases hv : val = qundef
  · cases hm : env.inMjit
    · right
      simp [hv, hm, Pushed, hc]
    · left
      rw [if_neg (not_not.2 hv), if_pos rfl]
      exact ⟨hexec f₁, spDefault_setDefaultSp _⟩
  · left
    rw [if_pos hv]
    exact ⟨hv, spDefault_setDefaultSp _⟩

omit hexec in
/-- `op_val_call_end` turns a call that ended in a value at the default stack pointer, or in a pushed frame,
into one of the outcomes of `ValOutcome`. -/
private theorem opValCallEnd_outcome (res : Int) {g : CallFrame} {r : Value × CallFrame}
    (h : (r.1 ≠ qundef ∧ SpDefault env r.2) ∨
      (r = (qundef, (callee.call g).2) ∧ Pushed env callee g (callee.call g).2)) :
    ValOutcome env callee res g (opValCallEnd env res r.1 r.2) := by
  rcases h with ⟨hv, hd⟩ | ⟨rfl, hp⟩
  · have hw := wroteAtDefault_write hd res r.1
    unfold ValOutcome opValCallEnd
    cases hm : env.inMjit <;> cases hc : r.2.cancel <;> simp [hv, hm, hc, hw]
  · rw [opValCallEnd, if_pos rfl]
    exact .inr (.inr ⟨rfl, hp⟩)

/-- A helper ending in `op_val_call_end` has one of the three outcomes of `ValOutcome`. -/
theorem opValHelper_outcome (fast : FastPath) (res callStart : Int) (ops : List Value) {f : CallFrame}
    (hf : SpDefault env f) :
    ValOutcome env callee res (opCallFrame env callStart ops f)
      (opValHelper env callee fast res callStart ops f) := by
  cases fast with
  | done v c => exact .inl ⟨rfl, wroteAtDefault_write hf res v⟩
  | dispatch => exact opValCallEnd_outcome res (callMethod_outcome env hexec _)

/-- `common_cmp` ends in a value at the default stack pointer when no fast path ends in `Qundef`, unless,
outside JITed code, the handler pushed a callee frame. -/
private theorem commonCmpFrame_outcome {fast : FastPath} (hfast : ∀ v c, fast = .done v c → v ≠ qundef)
    (callStart : Int) (op1 op2 : Value) {f : CallFrame} (hf : SpDefault env f) :
    let g := opCallFrame env callStart [op1, op2] f
    ((commonCmpFrame env callee fast callStart op1 op2 f).1 ≠ qundef ∧
        SpDefault env (commonCmpFrame env callee fast callStart op1 op2 f).2) ∨
      (commonCmpFrame env callee fast callStart op1 op2 f = (qundef, (callee.call g).2) ∧
        Pushed env callee g (callee.call g).2) := by
  cases fast with
  | done v c => exact .inl ⟨hfast v c rfl, hf⟩
  | dispatch => exact callMethod_outcome env hexec _

/-- `do_cmp` has the outcomes of `ValOutcome` when no fast path ends in `Qundef`. -/
private theorem doCmpFrame_outcome {fast : FastPath} (hfast : ∀ v c, fast = .done v c → v ≠ qundef)
    (res callStart : Int) (op1 op2 : Value) {f : CallFrame} (hf : SpDefault env f) :
    ValOutcome env callee res (opCallFrame env callStart [op1, op2] f)
      (doCmpFrame env callee fast res callStart op1 op2 f) := by
  exact opValCallEnd_outcome res (commonCmpFrame_outcome hexec hfast callStart op1 op2 hf)

/-- `common_indset` has the outcomes of `NoResultOutcome`. -/
private theorem commonIndsetFrame_outcome {H : Type} (fast : StoreOutcome H) (callStart : Int) (recv ind el : Value)
    {f : CallFrame} (hf : SpDefault env f) :
    NoResultOutcome env callee (opCallFrame env callStart [recv, ind, el] f)
      (commonIndsetFrame env callee fast callStart recv ind el f) := by
  cases fast with
  | done h c => exact .inl ⟨rfl, hf⟩
  | dispatch =>
    unfold commonIndsetFrame
    rcases callMethod_outcome env hexec (opCallFrame env callStart [recv, ind, el] f) with ⟨hv, hd⟩ | ⟨he, hp⟩
    · rcases hr : callMethod env callee (opCallFrame env callStart [recv, ind, el] f) with ⟨val, f₁⟩
      rw [hr] at hv hd
      unfold opCallEnd
      cases hm : env.inMjit <;> cases hc : f₁.cancel <;> simp [NoResultOutcome, hv, hm, hc, hd]
    · simp [he, opCallEnd, hp.1]
      exact .inr (.inr ⟨rfl, hp⟩)

/-- `do_bcmp` has the outcomes of `BcmpFrameOutcome` when no fast path ends in `Qundef`. -/
private theorem doBcmpFrame_outcome {fast : FastPath} (hfast : ∀ v c, fast = .done v c → v ≠ qundef)
    (trueP : Bool) (res callStart : Int) (op1 op2 : Value) {f : CallFrame} (hf : SpDefault env f) :
    BcmpFrameOutcome env callee res (opCallFrame env callStart [op1, op2] f)
      (doBcmpFrame env callee fast trueP res callStart op1 op2 f) := by
  unfold BcmpFrameOutcome doBcmpFrame
  rcases commonCmpFrame_outcome hexec hfast callStart op1 op2 hf with ⟨hv, hd⟩ | ⟨he, hp⟩
  · left
    rcases hr : commonCmpFrame env callee fast callStart op1 op2 f with ⟨v, f₁⟩
    rw [hr] at hv hd
    dsimp only at hv hd ⊢
    have hw := wroteAtDefault_write hd res v
    cases hm : env.inMjit
    · simp [hv, hw]
    · cases hc : f₁.cancel <;> simp [hc, hv, hw]
  · right
    rw [he]
    dsimp only
    rw [if_pos (by simp [hp.1]), if_pos rfl]
    exact ⟨rfl, rfl, hp⟩

end Callee

/-- `mjit_call_finish` writes its result, sets `cfp->sp` to the default position of a frame with `tempVarsNum`
temporaries, from the real `bp` when `ep` differs from it although the code was compiled with the speculation
that they agree, and returns 1 in that case or when the frame is cancelled. -/
theorem mjitCallFinish_spec (tempVarsNum : Nat) (val : Value) (res : Int) (f : CallFrame) :
    (mjitCallFinish env tempVarsNum val res f).2.frame.mem res = val ∧
      (mjitCallFinish env tempVarsNum val res f).2.frame.sp =
        defaultSp (if env.mjitEpNeqBpP = false ∧ f.bp ≠ f.ep then f.bp else rtlGetBp env f) tempVarsNum ∧
      ((mjitCallFinish env tempVarsNum val res f).1 = 1 ↔
        (env.mjitEpNeqBpP = false ∧ f.bp ≠ f.ep) ∨ f.cancel = true) := by
  unfold mjitCallFinish
  cases hb : env.mjitEpNeqBpP <;> by_cases he : f.bp = f.ep <;> cases hc : f.cancel <;>
    simp [hb, he, hc, rtlGetBp, setDefaultSp0, CallFrame.write]

end Outcomes

/-! ### Every helper -/

/-- Entered at the default stack pointer, every helper that may run Ruby code ends in one of the outcomes above,
when `mjit_vm_exec` ends in a value and, for `do_cmp` and `do_bcmp`, the fast path of `common_cmp` does too; the
frame a handler is given has `cfp->sp` past the operands stored from temporary `callStart`.  The helpers without
a result, `spread_array_f`, `defined_p_f` and `define_class_f`, always end at the default stack pointer, and
`mjit_call_finish` as `mjitCallFinish_spec` says. -/
theorem helpers_sp_outcomes (env : CallEnv) (callee : Callee) (hexec : ∀ g, (callee.vmExec g).1 ≠ qundef)
    (f : CallFrame) (hf : SpDefault env f) :
    (∀ (callStart : Int) (ops : List Value),
        (opCallFrame env callStart ops f).frame.sp = getTempAddr (rtlGetBp env f) callStart + ops.length) ∧
      (∀ fast res callStart op, ValOutcome env callee res (opCallFrame env callStart [op] f)
        (aryHashOp env callee fast res callStart op f)) ∧
      (∀ fast res callStart op, ValOutcome env callee res (opCallFrame env callStart [op] f)
        (commonNotFrame env callee fast res callStart op f)) ∧
      (∀ fast res callStart src, ValOutcome env callee res (opCallFrame env callStart [src] f)
        (succF env callee fast res callStart src f)) ∧
      (∀ fast res callStart op1 op2, ValOutcome env callee res (opCallFrame env callStart [op1, op2] f)
        (doArithmFrame env callee fast res callStart op1 op2 f)) ∧
      (∀ fast res callStart op1 op2, ValOutcome env callee res (opCallFrame env callStart [op1, op2] f)
        (commonIndFrame env callee fast res callStart op1 op2 f)) ∧
      (∀ fast res callStart src1 src2, ValOutcome env callee res (opCallFrame env callStart [src1, src2] f)
        (doLtlt env callee fast res callStart src1 src2 f)) ∧
      (∀ fast res callStart str regex, ValOutcome env callee res (opCallFrame env callStart [str, regex] f)
        (regexpMatch2F env callee fast res callStart str regex f)) ∧
      (∀ fast : FastPath, (∀ v c, fast = .done v c → v ≠ qundef) → ∀ res callStart op1 op2,
        ValOutcome env callee res (opCallFrame env callStart [op1, op2] f)
          (doCmpFrame env callee fast res callStart op1 op2 f)) ∧
      (∀ fast : FastPath, (∀ v c, fast = .done v c → v ≠ qundef) → ∀ trueP res callStart op1 op2,
        BcmpFrameOutcome env callee res (opCallFrame env callStart [op1, op2] f)
          (doBcmpFrame env callee fast trueP res callStart op1 op2 f)) ∧
      (∀ (H : Type) (fast : StoreOutcome H) callStart recv ind el,
        NoResultOutcome env callee (opCallFrame env callStart [recv, ind, el] f)
          (commonIndsetFrame env callee fast callStart recv ind el f)) ∧
      (∀ expand op1, SpDefault env (spreadArrayF env expand op1 f)) ∧
      (∀ vmDefined res, SpDefault env (definedPF env vmDefined res f)) ∧
      (∀ push stackTop, SpDefault env (defineClassF env callee push stackTop f)) ∧
      (∀ tempVarsNum val res,
        (mjitCallFinish env tempVarsNum val res f).2.frame.mem res = val ∧
          (mjitCallFinish env tempVarsNum val res f).2.frame.sp =
            defaultSp (if env.mjitEpNeqBpP = false ∧ f.bp ≠ f.ep then f.bp else rtlGetBp env f) tempVarsNum ∧
          ((mjitCallFinish env tempVarsNum val res f).1 = 1 ↔
            (env.mjitEpNeqBpP = false ∧ f.bp ≠ f.ep) ∨ f.cancel = true)) :=
  have hop := fun fast res callStart ops => opValHelper_outcome hexec fast res callStart ops hf
  ⟨fun _ _ => opCallFrame_sp _ _ f, fun _ _ _ _ => hop .., fun _ _ _ _ => hop .., fun _ _ _ _ => hop ..,
    fun _ _ _ _ _ => hop .., fun _ _ _ _ _ => hop .., fun _ _ _ _ _ => hop .., fun _ _ _ _ _ => hop ..,
    fun _ hfast _ _ _ _ => doCmpFrame_outcome hexec hfast _ _ _ _ hf,
    fun _ hfast _ _ _ _ _ => doBcmpFrame_outcome hexec hfast _ _ _ _ _ hf,
    fun _ _ _ _ _ _ => commonIndsetFrame_outcome hexec _ _ _ _ _ hf,
    fun _ _ => spDefault_setDefaultSp _, fun _ _ => spDefault_setDefaultSp _, fun _ _ => spDefault_setDefaultSp _,
    fun _ _ _ => mjitCallFinish_spec _ _ _ f⟩

/-- A call handler that finishes with the value `7` but leaves the frame cancelled, as a `raise` through a frame
of JITed code does, and an `mjit_vm_exec` that ends in `nil`. -/
def cancellingCallee : Callee := ⟨fun g => (int2fix 7, { g with cancel := true }), fun g => (qnil, g)⟩

/-- A frame with base pointer 0 and three temporaries, at its default stack pointer 4. -/
def jitFrame : CallFrame := ⟨⟨fun _ => qnil, 4⟩, 0, 0, false, 3⟩

/-- JITed `length` on this frame, whose handler cancels it. -/
theorem helpers_sp_outcomes_cancelled :
    (∀ g, (cancellingCallee.vmExec g).1 ≠ qundef) ∧ SpDefault ⟨true, false⟩ jitFrame ∧
      ValOutcome ⟨true, false⟩ cancellingCallee 1 (opCallFrame ⟨true, false⟩ (-1) [qnil] jitFrame)
        (aryHashOp ⟨true, false⟩ cancellingCallee .dispatch 1 (-1) qnil jitFrame) :=
  have hexec : ∀ g, (cancellingCallee.vmExec g).1 ≠ qundef := fun _ => show qnil ≠ qundef by decide
  ⟨hexec, rfl, (helpers_sp_outcomes ⟨true, false⟩ cancellingCallee hexec jitFrame rfl).2.1 .dispatch 1 (-1) qnil⟩

/-- A return of 1 does not mean that a callee frame was pushed: `length` in JITed code, called from temporary
`-1` whose handler finished with `7` in a cancelled frame, returns 1 with `7` written and `cfp->sp` at its
default position, not past the stored receiver; and `mjit_call_finish`, finding `ep ≠ bp`, returns 1 with the
result written and `cfp->sp` at the default position from the real `bp`. -/
theorem helpers_return_one_with_result_written :
    (aryHashOp ⟨true, false⟩ cancellingCallee .dispatch 1 (-1) qnil jitFrame).1 = 1 ∧
      (aryHashOp ⟨true, false⟩ cancellingCallee .dispatch 1 (-1) qnil jitFrame).2.frame.mem 1 = int2fix 7 ∧
      SpDefault ⟨true, false⟩ (aryHashOp ⟨true, false⟩ cancellingCallee .dispatch 1 (-1) qnil jitFrame).2 ∧
      (aryHashOp ⟨true, false⟩ cancellingCallee .dispatch 1 (-1) qnil jitFrame).2.frame.sp ≠
        getTempAddr jitFrame.bp (-1) + 1 ∧
      (mjitCallFinish ⟨false, false⟩ 3 (int2fix 7) 1 { jitFrame with ep := 8 }).1 = 1 ∧
      (mjitCallFinish ⟨false, false⟩ 3 (int2fix 7) 1 { jitFrame with ep := 8 }).2.frame.mem 1 = int2fix 7 ∧
      (mjitCallFinish ⟨false, false⟩ 3 (int2fix 7) 1 { jitFrame with ep := 8 }).2.frame.sp = defaultSp 0 3 :=
  ⟨rfl, rfl, rfl, by decide, rfl, rfl, rfl⟩

end RtlMjit
