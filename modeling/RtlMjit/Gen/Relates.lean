import RtlMjit.Gen.Translate
import Mathlib.Order.Basic
import Mathlib.Tactic.LiftLets

/-!
# Runs that relate their start and end states

Most facts about a run of the generator relate its end state to its start state by a preorder: the counts of
`loc_stack_count` stay right, the RTL is only appended to, the deepest stack only grows, a field is left alone.
`Relates R x` says that every successful run of `x` relates its two states by `R`.

The rules below prove it of a `do` block from its parts, one rule for each form a block takes: a read of a
variable (`Relates.get`), a write of one (`Relates.set`, given that every write of that variable relates the
states), a bind, an `if`, a `for` loop, `pure` and `throw`.  The join points that the elaboration of an `if` or
a `match` in the middle of a block introduces are `let`s of the continuation; a proof names them with
`lift_lets` and `intro`, proves the continuation once, and uses it in every branch that jumps to it.

The functions that several relations are proved of are laid out here once, for every preorder, from the facts
of the functions they call (`relates_tuneStack`, `relates_generateCall`, `relates_translateStackInsn`, …):
`Gen.Counts` instantiates them for the counts of `loc_stack_count`, `Gen.Grows` for the growth of the RTL, and
`Gen.Simulation` for the steps that keep the values of the stack.
-/

namespace RtlMjit

/-- Every successful run of `x` relates its start state to its end state by `R`. -/
structure Relates (R : GenState → GenState → Prop) {α : Type} (x : GenM α) : Prop where
  relates : ∀ s a s', x s = .ok a s' → R s s'

section Combinators

variable {R R' : GenState → GenState → Prop} {α β γ : Type}

theorem GenM.bind_ok {x : GenM α} {f : α → GenM β} {s s' : GenState} {b : β} (e : (x >>= f) s = .ok b s') :
    ∃ a s₁, x s = .ok a s₁ ∧ f a s₁ = .ok b s' := by
  rw [GenM.bind_run] at e
  split at e
  · exact ⟨_, _, ‹_›, e⟩
  · cases e

theorem Relates.mono {x : GenM α} (h : Relates R x) (hR : ∀ s s', R s s' → R' s s') : Relates R' x :=
  ⟨fun s a s' e => hR s s' (h.relates s a s' e)⟩

/-- A computation whose every run ends in a state that `R` relates to its start. -/
theorem Relates.of_run {x : GenM α} (a : GenState → α) (g : GenState → GenState)
    (hx : ∀ s, x s = .ok (a s) (g s)) (hg : ∀ s, R s (g s)) : Relates R x := by
  constructor
  intro s b s' e
  rw [hx] at e
  cases e
  exact hg s

/-- A computation that only reads the state. -/
theorem Relates.of_read [IsRefl GenState R] {x : GenM α} (hx : ∀ s, ∃ a, x s = .ok a s) : Relates R x := by
  constructor
  intro s b s' e
  obtain ⟨a, ha⟩ := hx s
  rw [ha] at e
  cases e
  exact refl_of R s

theorem Relates.pure [IsRefl GenState R] (a : α) : Relates R (pure a : GenM α) := .of_read fun _ => ⟨a, rfl⟩

theorem Relates.throw (e : GenStop) : Relates R (throw e : GenM α) := ⟨fun _ _ _ he => nomatch he⟩

/-- A read of a variable. -/
theorem Relates.get [IsRefl GenState R] (x : Var α) : Relates R x.get := .of_read fun _ => ⟨_, x.get_ok⟩

/-- A write of a variable, where every write of it relates the states. -/
theorem Relates.set (x : Var α) (h : ∀ v s, R s (x.write v s)) (v : α) : Relates R (x.set v) :=
  .of_run (fun _ => ()) (x.write v) (fun _ => x.set_ok v) (h v)

/-- A bind whose continuation is related only at the values `x` returns. -/
theorem Relates.bind_ok [IsTrans GenState R] {x : GenM α} {f : α → GenM β} (hx : Relates R x)
    (hf : ∀ s a s', x s = .ok a s' → Relates R (f a)) : Relates R (x >>= f) := by
  constructor
  intro s b s' e
  obtain ⟨a, s₁, e₁, e₂⟩ := GenM.bind_ok e
  exact trans_of R (hx.relates s a s₁ e₁) ((hf s a s₁ e₁).relates s₁ b s' e₂)

theorem Relates.bind [IsTrans GenState R] {x : GenM α} {f : α → GenM β} (hx : Relates R x)
    (hf : ∀ a, Relates R (f a)) : Relates R (x >>= f) :=
  hx.bind_ok fun _ a _ _ => hf a

theorem Relates.ite {c : Prop} {_ : Decidable c} {x y : GenM α} (hx : Relates R x) (hy : Relates R y) :
    Relates R (if c then x else y) := by
  split
  · exact hx
  · exact hy

/-- An `if` whose branches are related only under their conditions. -/
theorem Relates.ite_of {c : Prop} {_ : Decidable c} {x y : GenM α} (hx : c → Relates R x)
    (hy : ¬c → Relates R y) :
    Relates R (if c then x else y) := by
  split
  · exact hx ‹_›
  · exact hy ‹_›

theorem Relates.forIn [IsPreorder GenState R] (l : List γ) (b : β) {f : γ → β → GenM (ForInStep β)}
    (hf : ∀ a b, Relates R (f a b)) : Relates R (forIn l b f) := by
  induction l generalizing b with
  | nil => exact .pure b
  | cons a l ih =>
    rw [List.forIn_cons]
    refine .bind (hf a b) fun r => ?_
    cases r with
    | done b' => exact .pure b'
    | yield b' => exact ih b'

end Combinators

/-! ### The stack primitives that only read -/

section Reads

variable {R : GenState → GenState → Prop} [IsRefl GenState R] {s : GenState}

theorem relates_genAssert (b : Bool) : Relates R (genAssert b) := by
  unfold genAssert; split
  · exact .pure ()
  · exact .throw _

@[simp] theorem stackSlotAt_run (i : Nat) : stackSlotAt i s = .ok (s.stack.getD i ⟨.any, 0⟩) s := by
  simp only [stackSlotAt, GenM.bind_run, Var.get_ok, List.getD]
  cases s.stack.get? i <;> rfl

theorem relates_stackSlotAt (i : Nat) : Relates R (stackSlotAt i) := .of_read fun _ => ⟨_, stackSlotAt_run i⟩

@[simp] theorem topStackSlot_run : topStackSlot s = .ok (s.stack.getLast?.getD ⟨.any, 0⟩) s := by
  simp only [topStackSlot, GenM.bind_run, Var.get_ok]
  cases s.stack.getLast? <;> rfl

theorem relates_topStackSlot : Relates R topStackSlot := .of_read fun _ => ⟨_, topStackSlot_run⟩

theorem insnAt_ok {iseq : Iseq} {pos : Nat} {insn : Insn} {s' : GenState} (e : insnAt iseq pos s = .ok insn s') :
    fetch iseq.code pos = some insn ∧ s' = s := by
  cases h : fetch iseq.code pos <;> simp only [insnAt, h] at e
  · cases e
  · cases e; exact ⟨rfl, rfl⟩

theorem relates_insnAt (iseq : Iseq) (pos : Nat) : Relates R (insnAt iseq pos) :=
  ⟨fun s _ _ e => (insnAt_ok e).2 ▸ refl_of R s⟩

theorem relates_freeTemp : Relates R freeTemp := .of_read fun _ => ⟨_, rfl⟩

end Reads

/-! ### The functions proved of several relations -/

section Layouts

variable {R : GenState → GenState → Prop} [IsPreorder GenState R]

theorem relates_popSlots (hpop : Relates R popStackSlot) : ∀ k, Relates R (popSlots k)
  | 0 => .pure ()
  | k + 1 => .bind hpop fun _ => relates_popSlots hpop k

theorem relates_truncStack (hpop : Relates R popStackSlot) (depth : Nat) : Relates R (truncStack depth) :=
  .bind (.get _) fun _ => relates_popSlots hpop _

private theorem relates_localAssignLoop {action : Nat → GenM Unit} (ha : ∀ i, Relates R (action i)) :
    ∀ i k, Relates R (localAssignLoop action i k)
  | _, 0 => .pure ()
  | i, k + 1 => by
    unfold localAssignLoop
    refine .bind (relates_stackSlotAt i) fun _ => ?_
    lift_lets
    intro next
    have hnext : ∀ y, Relates R (next y) := fun _ => relates_localAssignLoop ha (i + 1) k
    split
    · exact .bind (ha i) hnext
    · exact .bind (.pure ()) hnext

theorem relates_prepareLocalAssign {action : Nat → GenM Unit} (ha : ∀ i, Relates R (action i)) (res : Nat) :
    Relates R (prepareLocalAssign res action) :=
  .bind (relates_genAssert _) fun _ => .bind (.get _) fun _ => .ite (.pure ())
    (.bind (.get _) fun _ => .bind (relates_localAssignLoop ha 0 _) fun _ => .bind (.get _) fun _ =>
      relates_genAssert _)

/-- `to_temp`; the slot stops being counted only on the stack (`stackP`). -/
theorem relates_toTemp (happend : ∀ b ops, Relates R (appendBasic b ops)) {stackP : Bool}
    (hrewrite : stackP = true → ∀ slot, Relates R (prepareStackSlotRewrite slot)) (slot : StackSlot) (res : Int) :
    Relates R (toTemp slot res stackP) := by
  unfold toTemp
  lift_lets
  intro result
  have hresult : ∀ y, Relates R (result y) := fun _ => .pure _
  split
  · exact .bind (happend _ _) fun _ =>
      .ite_of (fun h => .bind (hrewrite h _) hresult) fun _ => .bind (.pure ()) hresult
  · exact .bind (happend _ _) hresult
  · exact .bind (happend _ _) hresult
  · exact .bind (happend _ _) hresult
  · exact .bind (.pure ()) hresult

theorem relates_putOnStack (hstt : ∀ i, Relates R (stackSlotToTemp i)) (argsNum : Nat) :
    Relates R (putOnStack argsNum) :=
  .bind (.get _) fun _ => .bind (relates_genAssert _) fun _ =>
    .bind (.forIn _ _ fun _ _ => .bind (hstt _) fun _ => .pure _) fun _ => .pure _

theorem relates_putArgsOnStack (hstt : ∀ i, Relates R (stackSlotToTemp i)) (hpop : Relates R popStackSlot)
    (argsNum : Nat) : Relates R (putArgsOnStack argsNum) :=
  .bind (.get _) fun _ => .bind (relates_putOnStack hstt _) fun _ => relates_truncStack hpop _

private theorem relates_savedSlotAt (pos n : Nat) : Relates R (savedSlotAt pos n) := by
  refine .bind (.get _) fun _ => .bind (.get _) fun _ => ?_
  split
  · exact .pure _
  · exact .pure _

private theorem relates_tuneStackSlot (hstt : ∀ i, Relates R (stackSlotToTemp i)) (pos n : Nat) :
    Relates R (tuneStackSlot pos n) := by
  refine .bind (relates_savedSlotAt pos n) fun _ => .bind (.get _) fun _ => .bind (relates_genAssert _) fun _ =>
    .bind (relates_stackSlotAt n) fun _ => ?_
  lift_lets
  intro check
  have hcheck : ∀ y, Relates R (check y) := fun _ => .bind (relates_stackSlotAt n) fun _ => relates_genAssert _
  exact .ite (.bind (hstt n) hcheck) (.bind (.pure ()) hcheck)

/-- `tune_stack`; the branch that restores the saved stack is taken only when `restoreP`. -/
theorem relates_tuneStack (hstt : ∀ i, Relates R (stackSlotToTemp i)) {restoreP : Bool}
    (hrestore : restoreP = true → Relates R (truncStack 0) ∧ ∀ slot, Relates R (pushStackSlot slot)) (pos : Nat) :
    Relates R (tuneStack pos restoreP) :=
  .bind (.get _) fun _ => .bind (.get _) fun _ => .bind (relates_genAssert _) fun _ =>
    .ite_of (fun h => .bind (hrestore h).1 fun _ => .bind (.forIn _ _ fun _ _ =>
        .bind (relates_savedSlotAt _ _) fun _ => .bind ((hrestore h).2 _) fun _ => .pure _) fun _ => .pure _)
      fun _ => .bind (.get _) fun _ => .bind (relates_genAssert _) fun _ =>
        .bind (.forIn _ _ fun _ _ => .bind (relates_tuneStackSlot hstt _ _) fun _ => .pure _) fun _ => .pure _

section Events

variable (hpos : ∀ v s, R s (rtlInsnEventPositionsVar.write v s)) (hev : ∀ v s, R s (rtlInsnEventsVar.write v s))
include hpos hev

private theorem relates_addEvent (event : Event) : Relates R (addEvent event) :=
  .ite (.bind (.get _) fun _ => .bind (.get _) fun _ => .bind (.set _ hpos _) fun _ => .bind (.get _) fun _ =>
    .set _ hev _) (.pure ())

theorem relates_attachEvent (hnop : Relates R (appendBasic .nop [])) (iseq : Iseq) (pos : Nat) :
    Relates R (attachEvent iseq pos) := by
  refine .bind (.get _) fun _ => .ite (.pure _) (.bind (.pure ()) fun _ => .bind (.get _) fun _ =>
    .bind (.get _) fun _ => .bind (.get _) fun _ => .ite ?_ (.bind (relates_addEvent hpos hev _) fun _ => .pure _))
  lift_lets
  intro last
  split
  · exact .bind (.set _ hev _) fun _ => .pure _
  · exact .bind hnop fun _ => .bind (relates_addEvent hpos hev _) fun _ => .pure _

end Events

section Emitters

variable (hpush : ∀ slot, Relates R (pushStackSlot slot)) (happend : ∀ b ops, Relates R (appendBasic b ops))
include hpush

theorem relates_pushTempResult (res : Int) : Relates R (pushTempResult res) :=
  .bind (relates_genAssert _) fun _ => .bind (.get _) fun _ => hpush _

theorem relates_newTopStackTempVar : Relates R newTopStackTempVar :=
  .bind (.get _) fun _ => .bind (relates_pushTempResult hpush _) fun _ => .pure _

include happend

theorem relates_getLocal (idx level : Nat) (tempOnlyP : Bool) : Relates R (getLocal idx level tempOnlyP) :=
  .ite (.bind (.get _) fun _ => hpush _)
    (.bind (relates_newTopStackTempVar hpush) fun _ => .ite (happend _ _) (happend _ _))

theorem relates_putobject (v : Value) (tempOnlyP : Bool) : Relates R (putobject v tempOnlyP) :=
  .ite (.bind (relates_newTopStackTempVar hpush) fun _ => happend _ _) (.bind (.get _) fun _ => hpush _)

end Emitters

theorem relates_setLocal (hstt : ∀ i, Relates R (stackSlotToTemp i)) (hpop : Relates R popStackSlot)
    (happend : ∀ b ops, Relates R (appendBasic b ops)) (idx level : Nat) : Relates R (setLocal idx level) := by
  refine .bind hpop fun _ => ?_
  lift_lets
  intro store
  have hstore : ∀ y, Relates R (store y) := fun _ => by
    refine .bind relates_freeTemp fun _ => ?_
    split
    · exact .ite (happend _ _) (.bind (happend _ _) fun _ => happend _ _)
    · exact .ite (happend _ _) (happend _ _)
    · exact .ite (happend _ _) (.bind (happend _ _) fun _ => happend _ _)
    · exact .ite (happend _ _) (happend _ _)
    · exact .ite (happend _ _) (happend _ _)
    · exact relates_genAssert _
  exact .ite (.bind (relates_prepareLocalAssign hstt idx) hstore) (.bind (.pure ()) hstore)

theorem relates_generateLeave (happend : ∀ b ops, Relates R (appendBasic b ops)) : Relates R generateLeave := by
  refine .bind (.get _) fun _ => .bind relates_topStackSlot fun _ => ?_
  split
  · exact .bind (happend _ _) fun _ => happend _ _
  · exact happend _ _
  · exact .bind (happend _ _) fun _ => happend _ _
  · exact happend _ _
  · exact happend _ _
  · exact relates_genAssert _

theorem relates_getCd (hcd : ∀ v s, R s (cdCallStartsVar.write v s)) (ci : CallInfo) : Relates R (getCd ci) :=
  .bind relates_freeTemp fun _ => .bind (.get _) fun _ => .bind (.set _ hcd _) fun _ => .pure _

theorem relates_generateCall (hstt : ∀ i, Relates R (stackSlotToTemp i)) (hpop : Relates R popStackSlot)
    (hpush : ∀ slot, Relates R (pushStackSlot slot)) (happend : ∀ b ops, Relates R (appendBasic b ops))
    (hcd : ∀ v s, R s (cdCallStartsVar.write v s)) (htoTemp : ∀ slot res, Relates R (toTemp slot res false))
    (ci : CallInfo) (block : Value) : Relates R (generateCall ci block) := by
  refine .bind (relates_putArgsOnStack hstt hpop _) fun _ => .bind hpop fun _ =>
    .bind (relates_getCd hcd ci) fun _ => ?_
  lift_lets
  intro simple blk result
  have hresult : ∀ y, Relates R (result y) := fun _ => .bind (relates_newTopStackTempVar hpush) fun _ => .pure _
  split
  · exact .ite (.bind (happend _ _) hresult) (.bind (happend _ _) hresult)
  · exact .ite (.bind (happend _ _) hresult) (.bind (happend _ _) hresult)
  · exact .bind (htoTemp _ _) fun _ => .ite (.bind (happend _ _) hresult) (.bind (happend _ _) hresult)

section Translate

variable (iseq : Iseq) (cObject : Value)

/-- `translate_stack_insn`, from the instructions the code holds: the join points of its `if`s are the
translation of the instruction, the write of the catch-region bound before it, the end of an unreachable
instruction, the check for unreachable code, and the reconciliation at a label. -/
theorem relates_translateStackInsn
    (hinsn : ∀ pos insn, fetch iseq.code pos = some insn → ∀ tempOnlyP nopP,
      Relates R (translateInsn iseq cObject pos insn.insnLen tempOnlyP nopP insn))
    (htune : ∀ pos restoreP, Relates R (tuneStack pos restoreP)) (hevent : ∀ pos, Relates R (attachEvent iseq pos))
    (hnop : Relates R (appendBasic .nop [])) (hunreachable : ∀ v s, R s (unreachableCodePVar.write v s))
    (hoffsets : ∀ v s, R s (newInsnOffsetsVar.write v s)) (hsrc : ∀ v s, R s (currSourceInsnPosVar.write v s))
    (hcatch : ∀ v s, R s (currCatchRtlPosVar.write v s)) (prevInsn : Insn) :
    Relates R (translateStackInsn iseq cObject prevInsn) := by
  unfold translateStackInsn
  refine .bind (.get _) fun pos => .bind_ok (relates_insnAt iseq pos) fun _ insn _ e => .bind (.get _) fun _ => ?_
  lift_lets
  intro labelType translate catchBound finish reachable label
  have htranslate : ∀ y, Relates R (translate y) := fun _ =>
    .bind (hevent pos) fun _ => .bind (.get _) fun _ => .bind (.get _) fun _ => .bind (.set _ hoffsets _) fun _ =>
      .bind (.get _) fun _ => .bind (hinsn pos insn (insnAt_ok e).1 _ _) fun _ => .set _ hsrc _
  have hcatchBound : ∀ y, Relates R (catchBound y) := fun _ =>
    .bind (.get _) fun _ =>
      .ite (.bind (.get _) fun _ => .bind (.set _ hcatch _) htranslate) (.bind (.pure ()) htranslate)
  have hfinish : ∀ y, Relates R (finish y) := fun _ => .bind (.set _ hsrc _) fun _ => .pure _
  have hreachable : ∀ y, Relates R (reachable y) := fun _ =>
    .bind (.get _) fun _ => .ite
      (.bind (.get _) fun _ => .bind (.get _) fun _ => .bind (.set _ hoffsets _) fun _ => .bind (.get _) fun _ =>
        .ite (.bind hnop hfinish) (.bind (.pure ()) hfinish))
      (.bind (.pure ()) hcatchBound)
  have hlabel : ∀ y, Relates R (label y) := fun _ =>
    .ite (.bind (.get _) fun _ => .bind (htune _ _) fun _ => .bind (.set _ hunreachable _) hreachable)
      (.bind (.pure ()) hreachable)
  exact .ite (.bind (.set _ hunreachable _) hlabel) (.bind (.pure ()) hlabel)

theorem relates_translateLoop (size : Nat)
    (hstep : ∀ prevInsn, Relates R (translateStackInsn iseq cObject prevInsn)) :
    ∀ fuel prevInsn, Relates R (translateLoop iseq cObject size fuel prevInsn)
  | 0, _ => .throw _
  | fuel + 1, _ => by
    unfold translateLoop
    refine .bind (.get _) fun _ => ?_
    lift_lets
    intro next
    have hnext : ∀ y, Relates R (next y) := fun _ =>
      .bind (relates_insnAt _ _) fun _ => .bind (hstep _) fun _ => relates_translateLoop size hstep fuel _
    exact .ite (.pure ()) (.bind (.pure ()) hnext)

end Translate

end Layouts

end RtlMjit
