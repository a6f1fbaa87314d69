import RtlMjit.Gen.RtlGen
import RtlMjit.Gen.Relates

/-!
# `loc_stack_count` counts the locals on the emulated stack

`loc_stack_count[l]` is the number of slots `LOC l` on the emulated stack, so that `prepare_local_assign`
can skip the stack when no slot reads local `l`.  The count is kept by hand at every change of the stack:
`prepare_stack_slot_assign` when a slot comes onto it, `prepare_stack_slot_rewrite` when one leaves it.

`CountsBelow n s` says that `loc_stack_count` has the `n` entries `rtl_gen` gives it and that each is the count
of its local; `Keeps x` says that every successful run of `x` from a state where this holds ends in one where
it still holds: `x` relates its states by `CountsKept`, so the rules of `Gen.Relates` prove it from the parts
of a `do` block.  A write of a variable other than the stack and the counts keeps them as they are
(`CountsKept.of_eq`).

* Each primitive that changes the stack keeps the counts: the count of `LOC l` slots moves by what the
  primitive adds to or takes from `loc_stack_count[l]` (`CountsBelow.of_delta`).
* Both passes are built from the primitives through binds, `for` loops and recursion on the fuel, and keep the
  counts: `keeps_updateStackByInsn`, `keeps_translateStackInsn`, `keeps_findStackValuesOnLabels`,
  `keeps_translate`.
* Where the counts are kept, a zero count means that no slot reads the local, and a slot `LOC l` on the stack
  has a positive count (`locStackCount_eq_zero_iff`).
-/

namespace RtlMjit

/-! ### Counting slots `LOC l` -/

private theorem locCount_append (st : List StackSlot) (slot : StackSlot) (l : Nat) :
    locCount (st ++ [slot]) l = locCount st l + if slot.mode = .loc l then 1 else 0 := by
  simp [locCount, List.countP_append, List.countP_cons, beq_iff_eq]

/-- Replacing slot `i` takes the old slot out of the count and puts the new one in. -/
private theorem locCount_set (st : List StackSlot) {i : Nat} (h : i < st.length) (slot : StackSlot) (l : Nat) :
    locCount (st.set i slot) l + (if (st.getD i ⟨.any, 0⟩).mode = .loc l then 1 else 0) =
      locCount st l + if slot.mode = .loc l then 1 else 0 := by
  induction st generalizing i with
  | nil => cases h
  | cons x st ih =>
    cases i with
    | zero => simp [locCount, List.countP_cons]; omega
    | succ i =>
      have := ih (i := i) (by simpa using h)
      simp only [locCount, List.set_cons_succ, List.countP_cons, List.getD_cons_succ] at this ⊢
      omega

private theorem locCount_pos_of_mem {st : List StackSlot} {slot : StackSlot} (h : slot ∈ st) {l : Nat}
    (hl : slot.mode = .loc l) : 0 < locCount st l :=
  List.countP_pos_iff.mpr ⟨slot, h, by simp [hl]⟩

private theorem stack_getD_mem {st : List StackSlot} {i : Nat} (hi : i < st.length) :
    st.getD i ⟨.any, 0⟩ ∈ st := by
  rw [List.getD_eq_getElem?_getD, List.getElem?_eq_getElem hi, Option.getD_some]
  exact List.getElem_mem hi

private theorem locCount_eq_zero_iff (st : List StackSlot) (l : Nat) :
    locCount st l = 0 ↔ ∀ slot ∈ st, slot.mode ≠ .loc l := by
  simp [locCount, List.countP_eq_zero]

/-- `List.modify` read back at an index. -/
private theorem counts_getD_modify (f : Nat → Nat) (c : List Nat) (l l' : Nat) :
    (c.modify f l).getD l' 0 = if l = l' ∧ l' < c.length then f (c.getD l' 0) else c.getD l' 0 := by
  simp only [List.getD_eq_getElem?_getD]
  by_cases h : l = l'
  · subst h
    rw [List.getElem?_modify_eq]
    by_cases hl : l < c.length
    · simp [hl, List.getElem?_eq_getElem]
    · simp [hl, List.getElem?_eq_none_iff.mpr (Nat.le_of_not_lt hl)]
  · rw [List.getElem?_modify_ne _ _ h]; simp [h]

/-- `loc_stack_count` after `prepare_stack_slot_assign slot`. -/
def assignCount (slot : StackSlot) (c : List Nat) : List Nat :=
  match slot.mode with
  | .loc l => c.modify (· + 1) l
  | _ => c

/-- `loc_stack_count` after `prepare_stack_slot_rewrite slot`. -/
def rewriteCount (slot : StackSlot) (c : List Nat) : List Nat :=
  match slot.mode with
  | .loc l => c.modify (· - 1) l
  | _ => c

@[simp] private theorem assignCount_length (slot : StackSlot) (c : List Nat) :
    (assignCount slot c).length = c.length := by
  unfold assignCount; split <;> simp

@[simp] private theorem rewriteCount_length (slot : StackSlot) (c : List Nat) :
    (rewriteCount slot c).length = c.length := by
  unfold rewriteCount; split <;> simp

private theorem assignCount_getD (slot : StackSlot) {c : List Nat} {l : Nat} (h : l < c.length) :
    (assignCount slot c).getD l 0 = c.getD l 0 + if slot.mode = .loc l then 1 else 0 := by
  rcases slot with ⟨_ | _ | _ | _ | l' | _, p⟩ <;> simp [assignCount, counts_getD_modify, h]
  by_cases hl : l' = l <;> simp [hl]

private theorem rewriteCount_getD (slot : StackSlot) (c : List Nat) (l : Nat) :
    (rewriteCount slot c).getD l 0 = c.getD l 0 - if slot.mode = .loc l then 1 else 0 := by
  rcases slot with ⟨_ | _ | _ | _ | l' | _, p⟩ <;> simp [rewriteCount, counts_getD_modify]
  by_cases hl : l' = l
  · subst hl
    by_cases h : l' < c.length
    · simp [h]
    · simp [h, List.getD_eq_getElem?_getD, List.getElem?_eq_none_iff.mpr (Nat.le_of_not_lt h)]
  · simp [hl]

/-! ### The invariant and the runs that keep it -/

/-- `loc_stack_count` has its `n` entries, and entry `l` is the number of slots `LOC l` on the stack. -/
def CountsBelow (n : Nat) (s : GenState) : Prop :=
  s.locStackCount.length = n ∧ ∀ l < n, s.locStackCount.getD l 0 = locCount s.stack l

/-- The counts stay right when each entry moves by as much as the number of slots it counts. -/
theorem CountsBelow.of_delta {n : Nat} {s s' : GenState} (h : CountsBelow n s)
    (hlen : s'.locStackCount.length = s.locStackCount.length)
    (hd : ∀ l < n, s'.locStackCount.getD l 0 + locCount s.stack l = s.locStackCount.getD l 0 + locCount s'.stack l) :
    CountsBelow n s' :=
  ⟨hlen.trans h.1, fun l hl => by have := h.2 l hl; have := hd l hl; omega⟩

/-- The counts are right at the end of a run whenever they are right at its start. -/
def CountsKept (s s' : GenState) : Prop := ∀ n, CountsBelow n s → CountsBelow n s'

instance : IsPreorder GenState CountsKept where
  refl _ _ h := h
  trans _ _ _ h₁ h₂ n h := h₂ n (h₁ n h)

/-- A change of the fields that the counts do not look at. -/
theorem CountsKept.of_eq {s s' : GenState} (hst : s'.stack = s.stack) (hc : s'.locStackCount = s.locStackCount) :
    CountsKept s s' := by
  intro n h
  unfold CountsBelow
  rw [hst, hc]
  exact h

/-- Every successful run of `x` from a state whose counts are right ends in a state whose counts are right. -/
abbrev Keeps {α : Type} (x : GenM α) : Prop := Relates CountsKept x

theorem Keeps.keeps {α : Type} {x : GenM α} (h : Keeps x) {n : Nat} {s s' : GenState} {a : α} (hs : CountsBelow n s)
    (e : x s = .ok a s') : CountsBelow n s' :=
  h.relates s a s' e n hs

/-! ### The stack primitives -/

section Primitives

variable {s : GenState}

theorem prepareStackSlotAssign_run (slot : StackSlot) :
    prepareStackSlotAssign slot s = .ok () { s with locStackCount := assignCount slot s.locStackCount } := by
  rcases slot with ⟨_ | _ | _ | _ | l | _, p⟩ <;> rfl

theorem prepareStackSlotRewrite_ok {slot : StackSlot} {s' : GenState} {a : Unit}
    (e : prepareStackSlotRewrite slot s = .ok a s') :
    s' = { s with locStackCount := rewriteCount slot s.locStackCount } := by
  rcases slot with ⟨_ | _ | _ | _ | l | _, p⟩
  case loc =>
    simp only [prepareStackSlotRewrite, GenM.bind_run, Var.get_ok, genAssert_run] at e
    split at e
    · rename_i heq; split at heq <;> cases heq; cases e; rfl
    · cases e
  all_goals cases e; rfl

theorem keeps_pushStackSlot (slot : StackSlot) : Keeps (pushStackSlot slot) := by
  constructor
  intro s _ s' e n h
  simp only [pushStackSlot, GenM.bind_run, prepareStackSlotAssign_run, Var.get_ok, Var.set_ok] at e
  have hs' : s'.stack = s.stack ++ [slot] ∧ s'.locStackCount = assignCount slot s.locStackCount := by
    split at e <;> cases e <;> exact ⟨rfl, rfl⟩
  refine h.of_delta (by simp [hs'.2]) fun l hl => ?_
  rw [hs'.1, hs'.2, assignCount_getD _ (h.1 ▸ hl), locCount_append]
  omega

theorem keeps_popStackSlot : Keeps popStackSlot := by
  constructor
  intro s slot s' e n h
  simp only [popStackSlot, GenM.bind_run, Var.get_ok] at e
  cases htop : s.stack.getLast? with
  | none => rw [htop] at e; cases e
  | some top =>
    simp only [htop, GenM.bind_run, Var.set_ok] at e
    split at e
    · rename_i s1 e1
      simp only [GenM.pure_run, EStateM.Result.ok.injEq] at e
      rw [← e.2, prepareStackSlotRewrite_ok e1]
      have hst : s.stack = s.stack.dropLast ++ [top] := (List.dropLast_append_getLast? _ htop).symm
      refine h.of_delta (by simp) fun l hl => ?_
      have := h.2 l hl
      rw [hst, locCount_append] at this
      simp only [rewriteCount_getD]
      rw [hst, locCount_append, List.dropLast_concat]
      omega
    · cases e

private theorem keeps_pushVal (mode : SlotMode) (pos : Nat) : Keeps (pushVal mode pos) := keeps_pushStackSlot _

theorem keeps_truncStack (depth : Nat) : Keeps (truncStack depth) := relates_truncStack keeps_popStackSlot depth

/-- Replacing slot `i` by `slot`, while `loc_stack_count` takes the old slot out and puts `slot` in, keeps the
counts. -/
private theorem CountsBelow.set {n : Nat} (h : CountsBelow n s) {i : Nat} (hi : i < s.stack.length)
    (slot : StackSlot) (s' : GenState) (hst : s'.stack = s.stack.set i slot)
    (hc : s'.locStackCount = assignCount slot (rewriteCount (s.stack.getD i ⟨.any, 0⟩) s.locStackCount)) :
    CountsBelow n s' := by
  refine h.of_delta (by simp [hc]) fun l hl => ?_
  have hset := locCount_set s.stack hi slot l
  have hpos : (if (s.stack.getD i ⟨.any, 0⟩).mode = .loc l then 1 else 0) ≤ locCount s.stack l := by
    split
    · exact locCount_pos_of_mem (stack_getD_mem hi) ‹_›
    · exact Nat.zero_le _
  rw [hc, hst, assignCount_getD _ (by simp [h.1, hl]), rewriteCount_getD, h.2 l hl]
  omega

theorem keeps_changeStackSlot (i : Nat) (slot : StackSlot) : Keeps (changeStackSlot i slot) := by
  constructor
  intro s _ s' e n h
  simp only [changeStackSlot, GenM.bind_run, Var.get_ok, genAssert_run, stackSlotAt_run] at e
  by_cases hi : i < s.stack.length
  · simp only [hi, decide_True, if_true] at e
    split at e
    · rename_i s1 e1
      rw [prepareStackSlotRewrite_ok e1] at e
      simp only [prepareStackSlotAssign_run, Var.get_ok, Var.set_ok] at e
      cases e
      exact h.set hi slot _ rfl rfl
    · cases e
  · simp [hi] at e

theorem keeps_makeTemp (i : Nat) : Keeps (makeTemp i) := by
  constructor
  intro s _ s' e n h
  simp only [makeTemp, GenM.bind_run, stackSlotAt_run, genAssert_run] at e
  split at e
  · rename_i heq
    split at heq
    · rename_i hloc
      cases heq
      by_cases hi : i < s.stack.length
      · split at e
        · rename_i s1 e1
          rw [prepareStackSlotRewrite_ok e1] at e
          simp only [Var.get_ok, Var.set_ok] at e
          cases e
          exact h.set hi _ _ rfl (by simp [assignCount])
        · cases e
      · simp [List.getD_eq_getElem?_getD, List.getElem?_eq_none_iff.mpr (Nat.le_of_not_lt hi)] at hloc
    · cases heq
  · cases e

/-- The words `append_vals` adds: the instruction with its operands, after a `nop` at the start of the RTL of
a catch-region bound. -/
def appendedWords (s : GenState) (insn : RtlInsn) (ops : List Word) : List Word :=
  (if s.currCatchRtlPos = some s.iseqRtl.length ∧ !nonTrappingRtlInsnP insn ∧ leafRtlInsnP insn then
    [.insn (.basic .nop)] else []) ++ .insn insn :: ops

theorem appendVals_run (insn : RtlInsn) (ops : List Word) :
    appendVals insn ops s = .ok () { s with iseqRtl := s.iseqRtl ++ appendedWords s insn ops } := by
  simp only [appendVals, appendedWords, GenM.bind_run, Var.get_ok, Var.set_ok]
  split <;> simp_all

private theorem keeps_appendVals (insn : RtlInsn) (ops : List Word) : Keeps (appendVals insn ops) :=
  .of_run _ _ (fun _ => appendVals_run insn ops) fun _ => .of_eq rfl rfl

private theorem keeps_appendBasic (b : BasicInsn) (ops : List Word) : Keeps (appendBasic b ops) := keeps_appendVals _ _

/-- `to_temp` returns the slot as a temporary and writes RTL; on the stack (`stackP`) a local stops being
counted. -/
theorem toTemp_ok {slot slot' : StackSlot} {res : Int} {stackP : Bool} {s' : GenState}
    (e : toTemp slot res stackP s = .ok slot' s') :
    slot' = { slot with mode := .temp } ∧ s'.stack = s.stack ∧
      s'.locStackCount = if stackP then rewriteCount slot s.locStackCount else s.locStackCount := by
  rcases slot with ⟨_ | _ | _ | _ | l | _, p⟩ <;>
    simp only [toTemp, appendBasic, GenM.bind_run, GenM.pure_run, appendVals_run] at e
  case loc =>
    cases stackP
    · cases e; exact ⟨rfl, rfl, rfl⟩
    · simp only [if_true, GenM.bind_run] at e
      split at e
      · rename_i e1; rw [prepareStackSlotRewrite_ok e1] at e; cases e; exact ⟨rfl, rfl, rfl⟩
      · cases e
  all_goals cases e; exact ⟨rfl, rfl, by cases stackP <;> rfl⟩

theorem keeps_toTemp (slot : StackSlot) (res : Int) : Keeps (toTemp slot res false) :=
  relates_toTemp keeps_appendBasic (fun h : false = true => nomatch h) slot res

theorem keeps_stackSlotToTemp (i : Nat) : Keeps (stackSlotToTemp i) := by
  constructor
  intro s _ s' e n h
  simp only [stackSlotToTemp, GenM.bind_run, stackSlotAt_run] at e
  split at e
  · rename_i slot' s1 e1
    obtain ⟨rfl, hst, hc⟩ := toTemp_ok e1
    simp only [Var.get_ok, Var.set_ok, if_true] at e hc
    cases e
    by_cases hi : i < s.stack.length
    · exact h.set hi { s.stack.getD i ⟨.any, 0⟩ with mode := .temp } _ (by simp only [hst]) hc
    · have hany : s.stack.getD i ⟨.any, 0⟩ = ⟨.any, 0⟩ := by
        simp [List.getD_eq_getElem?_getD, List.getElem?_eq_none_iff.mpr (Nat.le_of_not_lt hi)]
      have hc' : s1.locStackCount = s.locStackCount := by rw [hc, hany]; rfl
      refine h.of_delta (by simp [hc']) fun l _ => ?_
      simp only [hc', hst, List.set_eq_of_length_le (Nat.le_of_not_lt hi)]
  · cases e

end Primitives

/-! ### The first pass -/

section Analysis

variable (iseq : Iseq)

private theorem keeps_saveStackSlots (depth : Nat) : Keeps (saveStackSlots depth) :=
  .bind (.get _) fun _ => .bind (.get _) fun _ => .bind (relates_genAssert _) fun _ =>
    .bind (.set _ (fun _ _ => .of_eq rfl rfl) _) fun _ => .pure _

theorem keeps_restoreStackSlots (start depth : Nat) : Keeps (restoreStackSlots start depth) :=
  .bind (keeps_truncStack 0) fun _ => .bind (.get _) fun _ =>
    .bind (.forIn _ _ fun _ _ => .bind (keeps_pushStackSlot _) fun _ => .pure _) fun _ => .pure _

private theorem keeps_setUseOnlyTemp (pos : Nat) : Keeps (setUseOnlyTemp pos) :=
  .bind (.get _) fun _ => .set _ (fun _ _ => .of_eq rfl rfl) _

private theorem keeps_updateSavedSlot (start i : Nat) : Keeps (updateSavedSlot start i) := by
  refine .bind (relates_stackSlotAt i) fun _ => .bind (.get _) fun _ => ?_
  lift_lets
  intro saved changed merge
  have hmerge : ∀ y, Keeps (merge y) := fun _ =>
    .bind (.set _ (fun _ _ => .of_eq rfl rfl) _) fun _ => .bind (keeps_changeStackSlot _ _) fun _ => .pure _
  refine .ite (.pure _) (.ite (.bind (.set _ (fun _ _ => .of_eq rfl rfl) _) fun _ => .pure _) (.ite ?_ (.pure _)))
  exact .ite (.bind (keeps_setUseOnlyTemp _) hmerge) (.ite (.bind (keeps_setUseOnlyTemp _) hmerge)
    (.bind (.pure ()) hmerge))

private theorem keeps_updateSavedLoop (start : Nat) : ∀ i k, Keeps (updateSavedLoop start i k)
  | _, 0 => .pure false
  | i, k + 1 => .bind (keeps_updateSavedSlot start i) fun _ =>
      .bind (keeps_updateSavedLoop start (i + 1) k) fun _ => .pure _

theorem keeps_updateSavedStackSlots (start : Nat) : Keeps (updateSavedStackSlots start) :=
  .bind (.get _) fun _ => keeps_updateSavedLoop start 0 _

private theorem keeps_processLabel (type label depth : Nat) : Keeps (processLabel type label depth) := by
  unfold processLabel
  refine .bind (.get _) fun _ => .bind (relates_genAssert _) fun _ => ?_
  lift_lets
  intro markProcessed afterType
  have hmark : ∀ y, Keeps (markProcessed y) := fun _ =>
    .bind (.get _) fun _ => .ite (.bind (.get _) fun _ => .bind (.set _ (fun _ _ => .of_eq rfl rfl) _) fun _ =>
      .set _ (fun _ _ => .of_eq rfl rfl) _) (.pure _)
  have hafter : ∀ y, Keeps (afterType y) := fun _ =>
    .ite
      (.bind (.get _) fun _ => .bind (.set _ (fun _ _ => .of_eq rfl rfl) _) fun _ =>
        .bind (keeps_saveStackSlots _) fun _ => .bind (.get _) fun _ =>
          .bind (.set _ (fun _ _ => .of_eq rfl rfl) _) fun _ => .bind (.set _ (fun _ _ => .of_eq rfl rfl) _) hmark)
      (.bind (.get _) fun _ => .bind (relates_genAssert _) fun _ => .bind (.get _) fun _ =>
        .bind (keeps_updateSavedStackSlots _) fun _ =>
          .ite (.bind (.set _ (fun _ _ => .of_eq rfl rfl) _) hmark) (.bind (.pure ()) hmark))
  exact .ite (.bind (.set _ (fun _ _ => .of_eq rfl rfl) _) hafter) (.bind (.pure ()) hafter)

private theorem keeps_setupCatchEntry (size : Nat) (e : CatchEntry) : Keeps (setupCatchEntry size e) :=
  .ite (.pure ()) (.bind (.get _) fun _ => .bind (.set _ (fun _ _ => .of_eq rfl rfl) _) fun _ =>
    .bind (.forIn _ _ fun _ _ => .bind (keeps_pushVal _ _) fun _ => .pure _) fun _ =>
      .bind (keeps_processLabel _ _ _) fun _ => keeps_truncStack 0)

private theorem keeps_setupLabelsFromCatchTable : Keeps (setupLabelsFromCatchTable iseq) := by
  refine .bind (.set _ (fun _ _ => .of_eq rfl rfl) _) fun _ => ?_
  split
  · exact .pure ()
  · exact .bind (.forIn _ _ fun _ _ => .bind (keeps_setupCatchEntry _ _) fun _ => .pure _) fun _ => .pure _

private theorem keeps_pushCopy (tempOnlyP : Bool) (pos : Nat) (slot : StackSlot) :
    Keeps (pushCopy tempOnlyP pos slot) :=
  .ite (keeps_pushVal _ _) (keeps_pushStackSlot _)

private theorem keeps_pushResults (pos len depth : Nat) (resultP tempOnlyP : Bool) (insn : Insn) :
    Keeps (pushResults pos len depth resultP tempOnlyP insn) := by
  cases insn
  case branchif | branchunless | branchnil | getinlinecache | jump =>
    exact .ite (.bind (keeps_pushVal _ _) fun _ => keeps_processLabel _ _ _)
      (.bind (.pure ()) fun _ => keeps_processLabel _ _ _)
  case optCaseDispatch =>
    exact .bind (.forIn _ _ fun _ _ => .bind (keeps_processLabel _ _ _) fun _ => .pure _) fun _ => .pure _
  case putself | putnil | putobject | putobjectINT2FIX0 | putobjectINT2FIX1 | getlocal | getlocalWC0
    | getlocalWC1 => exact keeps_pushVal _ _
  case setlocal =>
    exact .bind (relates_genAssert _) fun _ => .ite (relates_prepareLocalAssign keeps_makeTemp _) (.pure ())
  case setlocalWC0 => exact relates_prepareLocalAssign keeps_makeTemp _
  case setn =>
    exact .bind (.get _) fun _ => .bind (relates_genAssert _) fun _ => .bind relates_topStackSlot fun _ =>
      keeps_changeStackSlot _ _
  case topn =>
    exact .bind (.get _) fun _ => .bind (relates_genAssert _) fun _ => .bind (relates_stackSlotAt _) fun _ =>
      keeps_pushCopy _ _ _
  case dup => exact .bind relates_topStackSlot fun _ => keeps_pushCopy _ _ _
  case dupn =>
    exact .bind (.get _) fun _ => .bind (relates_genAssert _) fun _ => .bind (.forIn _ _ fun _ _ =>
      .bind (relates_stackSlotAt _) fun _ => .bind (keeps_pushCopy _ _ _) fun _ => .pure _) fun _ => .pure _
  case swap =>
    exact .bind (.get _) fun _ => .bind (relates_stackSlotAt _) fun _ => .bind (relates_stackSlotAt _) fun _ =>
      .bind (keeps_changeStackSlot _ _) fun _ => keeps_changeStackSlot _ _
  case reverse =>
    exact .bind (.get _) fun _ =>
      .bind (.forIn _ _ fun _ _ => .bind (keeps_changeStackSlot _ _) fun _ => .pure _) fun _ => .pure _
  case expandarray =>
    exact .bind (.get _) fun _ => .bind (relates_genAssert _) fun _ => .bind (keeps_truncStack _) fun _ =>
      .bind (.forIn _ _ fun _ _ => .bind (keeps_pushVal _ _) fun _ => .pure _) fun _ => .pure _
  -- every other instruction pushes its result, if it has one
  all_goals exact .ite (keeps_pushVal _ _) (.pure ())

theorem keeps_updateStackByInsn (pos depth : Nat) : Keeps (updateStackByInsn iseq pos depth) := by
  refine .bind (.get _) fun _ => .bind (.set _ (fun _ _ => .of_eq rfl rfl) _) fun _ =>
    .bind (relates_insnAt _ _) fun _ => ?_
  lift_lets
  intro len resultP flagged
  split
  case h_1 =>
    lift_lets
    intro push flag
    have hpush : ∀ t y, Keeps (push t y) := fun _ _ =>
      .bind (keeps_pushResults _ _ _ _ _ _) fun _ => .bind (.get _) fun _ => .bind (relates_genAssert _) fun _ =>
        .pure _
    have hflag : ∀ y, Keeps (flag y) := fun _ =>
      .bind (.get _) fun _ => .ite
        (.bind (.get _) fun _ => .ite (.bind (keeps_setUseOnlyTemp _) (hpush _)) (.bind (.pure ()) (hpush _)))
        (.bind (.pure ()) (hpush _))
    exact .ite (.bind (.get _) fun _ => .bind (relates_genAssert _) fun _ => .bind (keeps_truncStack _) hflag)
      (.ite (.bind (.get _) fun _ => .bind (relates_genAssert _) fun _ => .bind (keeps_truncStack _) hflag)
        (.bind (.pure ()) hflag))
  case h_2 => exact .throw _

theorem keeps_forceTempsAtBound : ∀ i k, Keeps (forceTempsAtBound i k)
  | _, 0 => .pure ()
  | i, k + 1 => by
    unfold forceTempsAtBound
    refine .bind (relates_stackSlotAt i) fun _ => ?_
    lift_lets
    intro next
    have hnext : ∀ y, Keeps (next y) := fun _ => keeps_forceTempsAtBound (i + 1) k
    exact .ite (.bind (keeps_setUseOnlyTemp _) fun _ => .bind (keeps_changeStackSlot _ _) hnext)
      (.bind (.pure ()) hnext)

private theorem keeps_walkFrom (startPos : Nat) : ∀ fuel pos depth, Keeps (walkFrom iseq startPos fuel pos depth)
  | 0, _, _ => .throw _
  | fuel + 1, pos, depth => by
    unfold walkFrom
    lift_lets
    intro step label catchBound
    have hstep : ∀ y, Keeps (step y) := fun _ =>
      .bind (relates_insnAt _ _) fun _ => .bind (keeps_updateStackByInsn _ _ _) fun _ =>
        .ite (.pure ()) (.bind (.pure ()) fun _ => keeps_walkFrom startPos fuel _ _)
    have hlabel : ∀ y, Keeps (label y) := fun _ =>
      .bind (.get _) fun _ => .ite
        (.bind (.get _) fun _ => .bind (relates_genAssert _) fun _ => .bind (.get _) fun _ =>
          .bind (keeps_updateSavedStackSlots _) fun _ =>
            .ite (.bind (.set _ (fun _ _ => .of_eq rfl rfl) _) hstep)
              (.bind (.get _) fun _ => .ite (.pure ()) (.bind (.pure ()) hstep)))
        (.bind (.pure ()) hstep)
    have hcatchBound : ∀ y, Keeps (catchBound y) := fun _ =>
      .bind (.get _) fun _ => .ite (.bind (.get _) fun _ => .bind (keeps_forceTempsAtBound _ _) hlabel)
        (.bind (.pure ()) hlabel)
    exact .ite (.pure ()) (.bind (.pure ()) hcatchBound)

private theorem keeps_processLabels : ∀ fuel pos depth, Keeps (processLabels iseq fuel pos depth)
  | 0, _, _ => .throw _
  | fuel + 1, pos, depth => by
    unfold processLabels
    refine .bind (keeps_walkFrom _ _ _ _ _) fun _ => .bind (.get _) fun _ => ?_
    split
    · exact .pure ()
    · refine .bind (.set _ (fun _ _ => .of_eq rfl rfl) _) fun _ => .bind (.get _) fun _ => ?_
      split
      · exact .throw _
      · exact .bind (.get _) fun _ => .bind (keeps_restoreStackSlots _ _) fun _ => keeps_processLabels fuel _ _

private theorem keeps_analysisIteration : Keeps (analysisIteration iseq) :=
  .bind (.set _ (fun _ _ => .of_eq rfl rfl) _) fun _ => .bind (keeps_processLabels _ _ _ _) fun _ =>
    .set _ (fun _ _ => .of_eq rfl rfl) _

private theorem keeps_iterateLabels : ∀ fuel, Keeps (iterateLabels iseq fuel)
  | 0 => .throw _
  | fuel + 1 => .bind (keeps_analysisIteration iseq) fun _ => .bind (.get _) fun _ =>
      .ite (keeps_iterateLabels fuel) (.pure _)

theorem keeps_findStackValuesOnLabels (fuel : Nat) : Keeps (findStackValuesOnLabels iseq fuel) :=
  .bind (.bind (.set _ (fun _ _ => .of_eq rfl rfl) _) fun _ => .bind (keeps_truncStack 0) fun _ =>
      .bind (.set _ (fun _ _ => .of_eq rfl rfl) _) fun _ => .bind (.set _ (fun _ _ => .of_eq rfl rfl) _) fun _ =>
        .bind (.set _ (fun _ _ => .of_eq rfl rfl) _) fun _ => .bind (.set _ (fun _ _ => .of_eq rfl rfl) _) fun _ =>
          .bind (.set _ (fun _ _ => .of_eq rfl rfl) _) fun _ => .bind (.get _) fun _ =>
            .bind (.set _ (fun _ _ => .of_eq rfl rfl) _) fun _ => keeps_setupLabelsFromCatchTable iseq)
    fun _ => keeps_iterateLabels iseq fuel

end Analysis

/-! ### The code emitters of the second pass -/

section Emitters

private theorem keeps_newTopStackTempVar : Keeps newTopStackTempVar := relates_newTopStackTempVar keeps_pushStackSlot

private theorem keeps_pushTempResult (res : Int) : Keeps (pushTempResult res) :=
  relates_pushTempResult keeps_pushStackSlot res

private theorem keeps_getCd (ci : CallInfo) : Keeps (getCd ci) := relates_getCd (fun _ _ => .of_eq rfl rfl) ci

private theorem keeps_putArgsOnStack (argsNum : Nat) : Keeps (putArgsOnStack argsNum) :=
  relates_putArgsOnStack keeps_stackSlotToTemp keeps_popStackSlot argsNum

private theorem keeps_tuneStack (pos : Nat) {restoreP : Bool} : Keeps (tuneStack pos restoreP) :=
  relates_tuneStack keeps_stackSlotToTemp (fun _ => ⟨keeps_truncStack 0, keeps_pushStackSlot⟩) pos

private theorem keeps_generateLeave : Keeps generateLeave := relates_generateLeave keeps_appendBasic

private theorem keeps_pushBranchTargetLoc (offset : Nat) : Keeps (pushBranchTargetLoc offset) :=
  .bind (.get _) fun _ => .bind (.get _) fun _ => .set _ (fun _ _ => .of_eq rfl rfl) _

private theorem keeps_toVar (slot : StackSlot) (top : Int) : Keeps (toVar slot top) := by
  unfold toVar
  split
  · exact .pure _
  · exact .bind (keeps_appendBasic _ _) fun _ => .pure _
  · exact .bind (keeps_appendBasic _ _) fun _ => .pure _
  · exact .bind (keeps_appendBasic _ _) fun _ => .pure _
  · exact .pure _

private theorem keeps_getVar : Keeps getVar :=
  .bind keeps_popStackSlot fun _ => .bind relates_freeTemp fun _ => keeps_toVar _ _

private theorem keeps_get2vars : Keeps get2vars := .bind keeps_getVar fun _ => .bind keeps_getVar fun _ => .pure _

private theorem keeps_specializedLoad (resInsn : BasicInsn) (args : List Word) : Keeps (specializedLoad resInsn args) :=
  .bind keeps_newTopStackTempVar fun _ => keeps_appendBasic _ _

private theorem keeps_specializedStore (resInsn : BasicInsn) (arg : Word) : Keeps (specializedStore resInsn arg) :=
  .bind keeps_getVar fun _ => keeps_appendBasic _ _

private theorem keeps_generateUnaryOp (ci : CallInfo) (resOp : Op) : Keeps (generateUnaryOp ci resOp) := by
  refine .bind keeps_popStackSlot fun _ => .bind (keeps_getCd _) fun _ => .bind relates_freeTemp fun _ => ?_
  lift_lets
  intro emit
  have hemit : ∀ op, Keeps (emit op) := fun _ => .bind keeps_newTopStackTempVar fun _ => keeps_appendVals _ _
  split
  · exact .bind (keeps_appendBasic _ _) fun _ => .bind (.pure _) hemit
  · exact .bind (keeps_appendBasic _ _) fun _ => .bind (.pure _) hemit
  · exact .bind (keeps_appendBasic _ _) fun _ => .bind (.pure _) hemit
  · exact .bind (.pure _) hemit
  · exact .bind (.pure _) hemit
  · exact .bind (relates_genAssert _) fun _ => .bind (.pure _) hemit

private theorem keeps_secondOperand (resInsn : RtlInsn) (slot2 : StackSlot) : Keeps (secondOperand resInsn slot2) := by
  refine .bind relates_freeTemp fun _ => ?_
  lift_lets
  intro top2
  split
  · exact .bind (keeps_appendBasic _ _) fun _ => .pure _
  · exact .ite (.pure _) (.bind (keeps_appendBasic _ _) fun _ => .pure _)
  · exact .ite (.pure _) (.bind (keeps_appendBasic _ _) fun _ => .pure _)
  · exact .pure _
  · exact .pure _
  · exact .bind (relates_genAssert _) fun _ => .pure _

private theorem keeps_getBinaryOps (resInsn : RtlInsn) (ci : CallInfo) : Keeps (getBinaryOps resInsn ci) :=
  .bind keeps_popStackSlot fun _ => .bind keeps_popStackSlot fun _ => .bind relates_freeTemp fun _ =>
    .bind (keeps_getCd _) fun _ => .bind (keeps_toVar _ _) fun _ =>
      .bind (keeps_secondOperand _ _) fun (_, _) => .pure _

private theorem keeps_generateBinOp (ci : CallInfo) (resOp : Op) : Keeps (generateBinOp ci resOp) :=
  .bind (keeps_getBinaryOps _ _) fun (_, _, _, _) => .bind (keeps_pushTempResult _) fun _ =>
    .ite (keeps_appendVals _ _) (keeps_appendVals _ _)

private theorem keeps_getBcmpInsn (cmpInsn : RtlInsn) (btP : Bool) : Keeps (getBcmpInsn cmpInsn btP) := by
  unfold getBcmpInsn
  split
  · exact .ite (.pure _) (.bind (relates_genAssert _) fun _ => .pure _)
  · exact .bind (relates_genAssert _) fun _ => .pure _

end Emitters

/-! ### The second pass -/

section Translate

variable (iseq : Iseq) (cObject : Value)

private theorem keeps_generateRelOp (pos len : Nat) (ci : CallInfo) (resOp : Op) :
    Keeps (generateRelOp iseq pos len ci resOp) := by
  unfold generateRelOp
  lift_lets
  intro nextInsn fuse
  have hfuse : ∀ r, Keeps (fuse r) := fun ⟨_, _, _⟩ => .bind (.get _) fun _ =>
    .ite (.bind (keeps_generateBinOp _ _) fun _ => .pure _) (.bind (.pure ()) fun _ =>
      .bind (keeps_getBinaryOps _ _) fun ⟨_, _, _, _⟩ => .bind (keeps_getBcmpInsn _ _) fun _ =>
        .bind (keeps_tuneStack _) fun _ => .bind (keeps_appendVals _ _) fun _ =>
          .bind (keeps_pushBranchTargetLoc _) fun _ => .pure _)
  dsimp only [nextInsn]
  split
  · exact .bind (.pure _) hfuse
  · exact .bind (.pure _) hfuse
  · exact .bind (.pure _) hfuse

private theorem keeps_generateAsetOp (ci : CallInfo) (str : Option Value) : Keeps (generateAsetOp ci str) := by
  refine .bind keeps_popStackSlot fun _ => ?_
  lift_lets
  intro rest
  have hrest : ∀ slot2, Keeps (rest slot2) := fun _ => by
    refine .bind keeps_popStackSlot fun _ => .bind relates_freeTemp fun _ => .bind (keeps_getCd _) fun _ =>
      .bind (keeps_toVar _ _) fun _ => ?_
    lift_lets
    intro store
    have hstore : ∀ r, Keeps (store r) := fun ⟨_, _⟩ =>
      .bind (keeps_toVar _ _) fun _ => .bind keeps_newTopStackTempVar fun _ => keeps_appendVals _ _
    split
    · exact .bind (.pure _) hstore
    · exact .bind (keeps_appendBasic _ _) fun _ => .bind (.pure _) hstore
    · exact .ite (.bind (.pure _) hstore) (.bind (keeps_appendBasic _ _) fun _ => .bind (.pure _) hstore)
    · exact .bind (keeps_appendBasic _ _) fun _ => .bind (.pure _) hstore
    · exact .bind (.pure _) hstore
    · exact .bind (.pure _) hstore
    · exact .bind (relates_genAssert _) fun _ => .bind (.pure _) hstore
  exact .ite (.bind keeps_popStackSlot hrest) (.bind (.pure _) hrest)

private theorem keeps_translateInsn_branch (pos len : Nat) (resInsn : BasicInsn) (dst : Int) :
    Keeps (translateInsn.branch pos len resInsn dst) :=
  .bind keeps_getVar fun _ => .bind (keeps_tuneStack _) fun _ => .bind (keeps_appendBasic _ _) fun _ =>
    .bind (keeps_pushBranchTargetLoc _) fun _ => .pure _

private theorem keeps_translateInsn (pos len : Nat) (tempOnlyP nopP : Bool) (insn : Insn) :
    Keeps (translateInsn iseq cObject pos len tempOnlyP nopP insn) := by
  cases insn
  -- one emitter, then the length
  case getlocal | getlocalWC0 | getlocalWC1 =>
    exact .bind (relates_getLocal keeps_pushStackSlot keeps_appendBasic _ _ _) fun _ => .pure _
  case setlocal | setlocalWC0 | setlocalWC1 =>
    exact .bind (relates_setLocal keeps_stackSlotToTemp keeps_popStackSlot keeps_appendBasic _ _) fun _ => .pure _
  case getspecial | getinstancevariable | getclassvariable | getglobal | putspecialobject | putiseq | getblockparam
    | getblockparamproxy | putstring | duparray | checkkeyword | once =>
    exact .bind (keeps_specializedLoad _ _) fun _ => .pure _
  case setspecial | setclassvariable | setglobal => exact .bind (keeps_specializedStore _ _) fun _ => .pure _
  case putnil | putobject | putobjectINT2FIX0 | putobjectINT2FIX1 =>
    exact .bind (relates_putobject keeps_pushStackSlot keeps_appendBasic _ _) fun _ => .pure _
  case send | optSendWithoutBlock =>
    exact .bind (relates_generateCall keeps_stackSlotToTemp keeps_popStackSlot keeps_pushStackSlot keeps_appendBasic
      (fun _ _ => .of_eq rfl rfl) keeps_toTemp _ _) fun _ => .pure _
  case leave => exact .bind keeps_generateLeave fun _ => .pure _
  case optPlus | optMinus | optMult | optDiv | optOr | optAnd | optMod | optLtlt | optAref =>
    exact .bind (keeps_generateBinOp _ _) fun _ => .pure _
  case optAset | optAsetWith => exact .bind (keeps_generateAsetOp _ _) fun _ => .pure _
  case optLength | optSize | optEmptyP | optSucc | optNot => exact .bind (keeps_generateUnaryOp _ _) fun _ => .pure _
  case tracecoverage => exact .bind (keeps_appendBasic _ _) fun _ => .pure _
  case optEq | optNeq | optLt | optLe | optGt | optGe => exact keeps_generateRelOp _ _ _ _ _
  case branchif | branchunless | branchnil => exact keeps_translateInsn_branch _ _ _ _
  -- operands, a result temporary, the instruction
  case concatstrings | toregexp | newarray | newhash | optNewarrayMax | optNewarrayMin =>
    exact .bind (keeps_putArgsOnStack _) fun _ => .bind keeps_newTopStackTempVar fun _ =>
      .bind (keeps_appendBasic _ _) fun _ => .pure _
  case splatarray | checktype | intern | optRegexpmatch1 =>
    exact .bind keeps_getVar fun _ => .bind keeps_newTopStackTempVar fun _ =>
      .bind (keeps_appendBasic _ _) fun _ => .pure _
  case concatarray | newrange | checkmatch | defineclass =>
    exact .bind keeps_get2vars fun (_, _) => .bind keeps_newTopStackTempVar fun _ =>
      .bind (keeps_appendBasic _ _) fun _ => .pure _
  case tostring =>
    exact .bind keeps_get2vars fun (_, _) => .bind (relates_genAssert _) fun _ =>
      .bind keeps_newTopStackTempVar fun _ => .bind (keeps_appendBasic _ _) fun _ => .pure _
  case setconstant => exact .bind keeps_get2vars fun (_, _) => .bind (keeps_appendBasic _ _) fun _ => .pure _
  case setblockparam => exact .bind keeps_getVar fun _ => .bind (keeps_appendBasic _ _) fun _ => .pure _
  case setinlinecache =>
    exact .bind keeps_getVar fun _ => .bind (keeps_appendBasic _ _) fun _ =>
      .bind (keeps_pushTempResult _) fun _ => .pure _
  case optStrFreeze | optStrUminus =>
    exact .bind (keeps_getCd _) fun _ => .bind keeps_newTopStackTempVar fun _ =>
      .bind (keeps_appendBasic _ _) fun _ => .pure _
  case invokeblock =>
    exact .bind (keeps_putArgsOnStack _) fun _ => .bind (keeps_getCd _) fun _ =>
      .bind (keeps_appendBasic _ _) fun _ => .bind keeps_newTopStackTempVar fun _ => .pure _
  case optRegexpmatch2 =>
    exact .bind keeps_popStackSlot fun _ => .bind keeps_popStackSlot fun _ => .bind relates_freeTemp fun _ =>
      .bind (keeps_getCd _) fun _ => .bind (keeps_toVar _ _) fun _ => .bind (keeps_toVar _ _) fun _ =>
        .bind (keeps_appendBasic _ _) fun _ => .bind (keeps_pushTempResult _) fun _ => .pure _
  case optCaseDispatch =>
    exact .bind keeps_getVar fun _ => .bind (keeps_appendBasic _ _) fun _ =>
      .bind (keeps_pushBranchTargetLoc _) fun _ => .bind (keeps_pushBranchTargetLoc _) fun _ => .pure _
  -- moves on the stack
  case pop => exact .bind keeps_popStackSlot fun _ => .pure _
  case putself =>
    exact .ite (.bind keeps_newTopStackTempVar fun _ => .bind (keeps_appendBasic _ _) fun _ => .pure _)
      (.bind (keeps_pushStackSlot _) fun _ => .pure _)
  case dup =>
    refine .bind relates_topStackSlot fun _ => .bind (.get _) fun _ => ?_
    lift_lets
    intro op push
    have hpush : ∀ y, Keeps (push y) := fun _ => .bind (keeps_pushStackSlot _) fun _ => .pure _
    exact .ite (.bind (keeps_appendBasic _ _) hpush) (.bind (.pure ()) hpush)
  case dupn =>
    refine .bind (.get _) fun _ => .bind (relates_genAssert _) fun _ =>
      .bind (.forIn _ _ fun _ _ => .bind (relates_stackSlotAt _) fun _ => ?_) fun _ => .pure _
    lift_lets
    intro push
    have hpush : ∀ y, Keeps (push y) := fun _ => .bind (keeps_pushStackSlot _) fun _ => .pure _
    exact .ite (.bind relates_freeTemp fun _ => .bind (keeps_appendBasic _ _) hpush) (.bind (.pure ()) hpush)
  case topn =>
    refine .bind (.get _) fun _ => .bind (relates_genAssert _) fun _ => .bind (relates_stackSlotAt _) fun _ => ?_
    lift_lets
    intro push
    have hpush : ∀ y, Keeps (push y) := fun _ => .bind (keeps_pushStackSlot _) fun _ => .pure _
    exact .ite (.bind (keeps_appendBasic _ _) hpush) (.bind (.pure ()) hpush)
  case setn =>
    exact .bind (relates_genAssert _) fun _ => .bind (.get _) fun _ => .bind (relates_genAssert _) fun _ =>
      .bind relates_topStackSlot fun _ => .bind (keeps_changeStackSlot _ _) fun _ =>
        .ite (.bind (keeps_appendBasic _ _) fun _ => .pure _) (.bind (.pure ()) fun _ => .pure _)
  case swap =>
    refine .bind keeps_popStackSlot fun _ => .bind keeps_popStackSlot fun _ => .bind relates_freeTemp fun _ => ?_
    lift_lets
    intro done pushSlot pushSlot2
    have hdone : ∀ y, Keeps (done y) := fun _ => .pure _
    have hslot : ∀ y, Keeps (pushSlot y) := fun _ => .bind (keeps_pushStackSlot _) hdone
    have hslot2 : ∀ y, Keeps (pushSlot2 y) := fun _ =>
      .bind (keeps_pushStackSlot _) fun _ => .ite (.bind (keeps_appendBasic _ _) hslot) (.bind (.pure ()) hslot)
    exact .ite (.ite (.bind (keeps_appendBasic _ _) hslot2) (.bind (.pure ()) hslot2))
      (.bind (keeps_appendBasic _ _) fun _ => .bind (keeps_pushStackSlot _) fun _ =>
        .bind (keeps_pushStackSlot _) hdone)
  case reverse =>
    exact .bind (relates_putOnStack keeps_stackSlotToTemp _) fun _ => .bind (.get _) fun _ =>
      .bind (keeps_appendBasic _ _) fun _ => .pure _
  case adjuststack =>
    exact .bind (.get _) fun _ => .bind (relates_genAssert _) fun _ =>
      .bind (relates_popSlots keeps_popStackSlot _) fun _ => .pure _
  case freezestring =>
    exact .bind keeps_popStackSlot fun _ => .bind relates_freeTemp fun _ => .bind (keeps_toTemp _ _) fun _ =>
      .bind (keeps_pushStackSlot _) fun _ => .bind (keeps_appendBasic _ _) fun _ => .pure _
  case expandarray =>
    exact .bind keeps_popStackSlot fun _ => .bind relates_freeTemp fun _ => .bind (keeps_toTemp _ _) fun _ =>
      .bind (keeps_pushStackSlot _) fun _ => .bind keeps_getVar fun _ =>
        .bind (.forIn _ _ fun _ _ => .bind keeps_newTopStackTempVar fun _ => .pure _) fun _ =>
          .bind (keeps_appendBasic _ _) fun _ => .pure _
  case optArefWith =>
    exact .bind (keeps_pushStackSlot _) fun _ => .bind (keeps_generateBinOp _ _) fun _ => .pure _
  case optCallCFunction =>
    exact .bind (relates_putOnStack keeps_stackSlotToTemp _) fun _ => .bind (keeps_appendBasic _ _) fun _ => .pure _
  -- a choice on the operand's slot
  case setinstancevariable =>
    refine .bind keeps_popStackSlot fun _ => ?_
    lift_lets
    intro done
    split
    · exact .bind (keeps_appendBasic _ _) fun _ => .pure _
    · exact .bind relates_freeTemp fun _ => .bind (keeps_toVar _ _) fun _ => .bind (keeps_appendBasic _ _) fun _ =>
        .pure _
  case getconstant =>
    refine .bind keeps_popStackSlot fun _ => .bind keeps_newTopStackTempVar fun _ => ?_
    lift_lets
    intro done
    split
    · exact .ite (.bind (keeps_appendBasic _ _) fun _ => .pure _)
        (.bind (keeps_toVar _ _) fun _ => .bind (keeps_appendBasic _ _) fun _ => .pure _)
    · exact .bind (keeps_toVar _ _) fun _ => .bind (keeps_appendBasic _ _) fun _ => .pure _
  case defined =>
    refine .bind keeps_popStackSlot fun _ => ?_
    lift_lets
    intro emit
    have hemit : ∀ r, Keeps (emit r) := fun ⟨_, _⟩ =>
      .bind keeps_newTopStackTempVar fun _ => .bind (keeps_appendBasic _ _) fun _ => .pure _
    split
    · exact .bind (.pure _) hemit
    · exact .bind (.pure _) hemit
    · exact .bind relates_freeTemp fun _ => .bind (keeps_toVar _ _) fun _ => .bind (.pure _) hemit
  case invokesuper =>
    refine .bind (keeps_putArgsOnStack _) fun _ => .bind keeps_popStackSlot fun _ => .bind (keeps_getCd _) fun _ => ?_
    lift_lets
    intro push
    have hpush : ∀ y, Keeps (push y) := fun _ => .bind (keeps_pushTempResult _) fun _ => .pure _
    split
    · exact .bind (keeps_appendBasic _ _) hpush
    · exact .bind relates_freeTemp fun _ => .bind (keeps_toVar _ _) fun _ => .bind (keeps_appendBasic _ _) hpush
  case throw =>
    refine .bind relates_topStackSlot fun _ => ?_
    lift_lets
    intro done
    split
    · exact .bind (keeps_appendBasic _ _) fun _ => .pure _
    · exact .bind (.get _) fun _ => .bind (keeps_toVar _ _) fun _ => .bind (keeps_appendBasic _ _) fun _ => .pure _
  -- control
  case jump =>
    dsimp only [translateInsn]
    split
    · exact .bind keeps_generateLeave fun _ => .pure _
    · exact .bind (keeps_tuneStack _) fun _ => .bind (keeps_appendBasic _ _) fun _ =>
        .bind (keeps_pushBranchTargetLoc _) fun _ => .pure _
  case getinlinecache =>
    refine .bind relates_freeTemp fun _ => .bind (.get _) fun _ => ?_
    lift_lets
    intro push
    have hpush : ∀ len', Keeps (push len') := fun _ => .bind (keeps_pushTempResult _) fun _ => .pure _
    split
    · exact .bind (keeps_appendBasic _ _) fun _ => .bind (.pure _) hpush
    · exact .bind (keeps_appendBasic _ _) fun _ => .bind (keeps_pushBranchTargetLoc _) fun _ => .bind (.pure _) hpush
  case reput => exact .throw _
  case bitblt | answer => exact .bind (relates_genAssert _) fun _ => .pure _
  case nop =>
    exact .bind (.get _) fun _ => .ite (.bind (keeps_appendBasic _ _) fun _ => .pure _)
      (.bind (.pure ()) fun _ => .pure _)

theorem keeps_translateStackInsn (prevInsn : Insn) : Keeps (translateStackInsn iseq cObject prevInsn) :=
  relates_translateStackInsn iseq cObject (fun _ _ _ _ _ => keeps_translateInsn _ _ _ _ _ _ _)
    (fun _ _ => keeps_tuneStack _) (relates_attachEvent (fun _ _ => .of_eq rfl rfl) (fun _ _ => .of_eq rfl rfl)
      (keeps_appendBasic _ _) iseq) (keeps_appendBasic _ _) (fun _ _ => .of_eq rfl rfl) (fun _ _ => .of_eq rfl rfl)
    (fun _ _ => .of_eq rfl rfl) (fun _ _ => .of_eq rfl rfl) prevInsn

theorem keeps_translateInit : Keeps (translateInit iseq) :=
  .bind (.set _ (fun _ _ => .of_eq rfl rfl) _) fun _ => .bind (keeps_truncStack 0) fun _ =>
    .bind (.set _ (fun _ _ => .of_eq rfl rfl) _) fun _ => .bind (.set _ (fun _ _ => .of_eq rfl rfl) _) fun _ =>
      .bind (.set _ (fun _ _ => .of_eq rfl rfl) _) fun _ => .bind (.set _ (fun _ _ => .of_eq rfl rfl) _) fun _ =>
        .bind (.set _ (fun _ _ => .of_eq rfl rfl) _) fun _ => .set _ (fun _ _ => .of_eq rfl rfl) _

theorem keeps_translate : Keeps (translate iseq cObject) :=
  .bind (keeps_translateInit iseq) fun _ =>
    .bind (relates_translateLoop iseq cObject _ (keeps_translateStackInsn iseq cObject) _ _) fun _ => keeps_truncStack 0

end Translate

/-! ### A run of `rtl_gen` -/

/-- `rtl_gen` starts with all-zero counts, one for each local and each slot of the environment data; on an
empty stack they are right. -/
theorem rtlGenInit_countsBelow (iseq : Iseq) {s : GenState} (hs : s.stack = []) :
    CountsBelow (iseq.localTableSize + vmEnvDataSize) (GenM.final (rtlGenInit iseq) s) := by
  refine ⟨by simp [GenM.final, rtlGenInit], fun l hl => ?_⟩
  simp [GenM.final, rtlGenInit, hs, locCount, List.getD_eq_getElem?_getD, List.getElem?_replicate, hl]

theorem rtlGen_countsBelow (iseq : Iseq) (cObject : Value) (fuel : Nat) {s s' : GenState} {out : RtlGenOutput}
    (hs : s.stack = []) (e : rtlGen iseq cObject fuel s = .ok out s') :
    CountsBelow (iseq.localTableSize + vmEnvDataSize) s' := by
  obtain ⟨_, s₁, e₁, e⟩ := GenM.bind_ok e
  rw [show rtlGenInit iseq s = .ok () (GenM.final (rtlGenInit iseq) s) from rfl] at e₁
  cases e₁
  -- the two passes keep the counts; the output is read off the final state
  exact Keeps.keeps (.bind (keeps_findStackValuesOnLabels iseq fuel) fun _ =>
    .bind (.set _ (fun _ _ => .of_eq rfl rfl) _) fun _ => .bind (keeps_translate iseq cObject) fun _ =>
      .of_read fun _ => ⟨_, rfl⟩) (rtlGenInit_countsBelow iseq hs) e

/-- Where the counts are right, a zero count is exact: no slot reads the local. -/
theorem locStackCount_eq_zero_iff {n : Nat} {s : GenState} (h : CountsBelow n s) {l : Nat} (hl : l < n) :
    s.locStackCount.getD l 0 = 0 ↔ ∀ slot ∈ s.stack, slot.mode ≠ .loc l := by
  rw [h.2 l hl, locCount_eq_zero_iff]

/-- Where the counts are right, taking a slot of the stack out of them passes the check against underflow. -/
theorem prepareStackSlotRewrite_of_mem {n : Nat} {s : GenState} (h : CountsBelow n s) {slot : StackSlot}
    (hm : slot ∈ s.stack) (hl : ∀ l, slot.mode = .loc l → l < n) :
    prepareStackSlotRewrite slot s = .ok () { s with locStackCount := rewriteCount slot s.locStackCount } := by
  rcases slot with ⟨_ | _ | _ | _ | l | _, p⟩
  case loc =>
    have hpos := locCount_pos_of_mem hm rfl
    rw [← h.2 l (hl l rfl)] at hpos
    simp only [prepareStackSlotRewrite, GenM.bind_run, Var.get_ok, genAssert_run, hpos, decide_True, if_true,
      Var.set_ok]
    rfl
  all_goals rfl

theorem locStackCount_counts_locals :
    (∀ (iseq : Iseq) (cObject : Value) (fuel : Nat) (s s' : GenState) (out : RtlGenOutput), s.stack = [] →
      rtlGen iseq cObject fuel s = .ok out s' → CountsBelow (iseq.localTableSize + vmEnvDataSize) s') ∧
    (∀ (iseq : Iseq) (s : GenState), s.stack = [] →
      CountsBelow (iseq.localTableSize + vmEnvDataSize) (GenM.final (rtlGenInit iseq) s)) ∧
    (∀ slot, Keeps (pushStackSlot slot)) ∧ Keeps popStackSlot ∧ (∀ depth, Keeps (truncStack depth)) ∧
    (∀ i slot, Keeps (changeStackSlot i slot)) ∧ (∀ i, Keeps (makeTemp i)) ∧ (∀ i, Keeps (stackSlotToTemp i)) ∧
    (∀ slot res, Keeps (toTemp slot res false)) ∧ (∀ start depth, Keeps (restoreStackSlots start depth)) ∧
    (∀ start, Keeps (updateSavedStackSlots start)) ∧ (∀ i k, Keeps (forceTempsAtBound i k)) ∧
    (∀ iseq pos depth, Keeps (updateStackByInsn iseq pos depth)) ∧
    (∀ iseq cObject prevInsn, Keeps (translateStackInsn iseq cObject prevInsn)) ∧
    (∀ n s, CountsBelow n s → ∀ l < n,
      (s.locStackCount.getD l 0 = 0 ↔ ∀ slot ∈ s.stack, slot.mode ≠ .loc l)) ∧
    (∀ n s slot, CountsBelow n s → slot ∈ s.stack → (∀ l, slot.mode = .loc l → l < n) →
      ∃ s', prepareStackSlotRewrite slot s = .ok () s') :=
  ⟨fun iseq cObject fuel _ _ _ hs e => rtlGen_countsBelow iseq cObject fuel hs e,
    fun iseq _ hs => rtlGenInit_countsBelow iseq hs, keeps_pushStackSlot, keeps_popStackSlot, keeps_truncStack,
    keeps_changeStackSlot, keeps_makeTemp, keeps_stackSlotToTemp, keeps_toTemp, keeps_restoreStackSlots,
    keeps_updateSavedStackSlots, keeps_forceTempsAtBound, keeps_updateStackByInsn, keeps_translateStackInsn,
    fun _ _ h _ hl => locStackCount_eq_zero_iff h hl,
    fun _ _ _ h hm hl => ⟨_, prepareStackSlotRewrite_of_mem h hm hl⟩⟩

/-- The run of `localBelowCallIseq` ends with the counts of its four locals right; after its `getlocal`, where
the stack holds the slot `LOC 3`, the count of local 3 is not zero. -/
theorem locStackCount_counts_locals_localBelowCall :
    CountsBelow 4 (GenM.final (rtlGen localBelowCallIseq 0 10) GenState.init) ∧
      (GenM.final (rtlGenUntil localBelowCallIseq 0 10 1) GenState.init).stack = [⟨.loc 3, 0⟩] ∧
      (GenM.final (rtlGenUntil localBelowCallIseq 0 10 1) GenState.init).locStackCount.getD 3 0 ≠ 0 := by
  obtain ⟨hrun, -, -, -, -, -, -, -, -, -, -, -, -, -, hzero, -⟩ := locStackCount_counts_locals
  have hmid : CountsBelow 4 (GenM.final (rtlGenUntil localBelowCallIseq 0 10 1) GenState.init) := by
    unfold CountsBelow
    decide
  have hstack : (GenM.final (rtlGenUntil localBelowCallIseq 0 10 1) GenState.init).stack = [⟨.loc 3, 0⟩] := by
    decide
  refine ⟨hrun localBelowCallIseq 0 10 GenState.init _ _ rfl rfl, hstack, fun h => ?_⟩
  exact (hzero 4 _ hmid 3 (by decide)).mp h ⟨.loc 3, 0⟩ (by rw [hstack]; exact List.mem_singleton_self _) rfl

end RtlMjit
