import RtlMjit.Gen.Counts

/-!
# What a run of the second pass does to the state as a whole

`Grows` is the relation of the whole second pass on straight-line code (`straightInsnP`: the instructions that
move values between locals, the stack and constants, calls without a block, and `leave`): `iseq_rtl` only gets
words at its end, `max_stack_depth` never goes down, and no branch target is recorded.  The emitters also leave
`curr_source_insn_pos` and `unreachable_code_p` to `translate_stack_insn` (`Emits`).  With `max_stack_depth` as
the number of temporaries of the frame, the first says that the temporaries the code uses are there at the end.

The emitters are instances of the layouts of `Gen.Relates`; a write of a variable that `Emits` does not look at
relates the states by `Emits.of_eq`.
-/

namespace RtlMjit

/-! ### The generator's primitives, run -/

section Primitives

variable {s : GenState}

theorem pushStackSlot_run (slot : StackSlot) :
    pushStackSlot slot s = .ok ()
      { s with
        stack := s.stack ++ [slot], locStackCount := assignCount slot s.locStackCount,
        maxStackDepth := max s.maxStackDepth (s.stack.length + 1) } := by
  simp only [pushStackSlot, GenM.bind_run, prepareStackSlotAssign_run, Var.get_ok, Var.set_ok]
  split
  · rename_i h; simp [Nat.max_eq_right h.le]
  · rename_i h; simp [Nat.max_eq_left (Nat.le_of_not_lt h)]

theorem popStackSlot_ok {slot : StackSlot} {s' : GenState} (e : popStackSlot s = .ok slot s') :
    s.stack = s.stack.dropLast ++ [slot] ∧
      s' = { s with stack := s.stack.dropLast, locStackCount := rewriteCount slot s.locStackCount } := by
  simp only [popStackSlot, GenM.bind_run, Var.get_ok] at e
  cases htop : s.stack.getLast? with
  | none => rw [htop] at e; cases e
  | some top =>
    simp only [htop, GenM.bind_run, Var.set_ok] at e
    split at e
    · rename_i s1 e1
      simp only [GenM.pure_run, EStateM.Result.ok.injEq] at e
      obtain ⟨rfl, rfl⟩ := e
      exact ⟨(List.dropLast_append_getLast? _ htop).symm, by rw [prepareStackSlotRewrite_ok e1]⟩
    · cases e

theorem popSlots_length : ∀ (k : Nat) {s s' : GenState}, popSlots k s = .ok () s' →
    s'.stack.length = s.stack.length - k
  | 0, _, _, e => by cases e; rfl
  | k + 1, _, _, e => by
    obtain ⟨_, _, e₁, e₂⟩ := GenM.bind_ok e
    obtain ⟨-, rfl⟩ := popStackSlot_ok e₁
    rw [popSlots_length k e₂, List.length_dropLast]
    omega

/-- `trunc_stack (0)` empties the stack. -/
theorem truncStack_zero {s' : GenState} (e : truncStack 0 s = .ok () s') : s'.stack = [] := by
  have e₁ : popSlots (s.stack.length - 0) s = .ok () s' := e
  simpa using popSlots_length _ e₁

theorem fetch_mem : ∀ {code : List Insn} {pos : Nat} {insn : Insn}, fetch code pos = some insn → insn ∈ code
  | [], _, _, h => by simp [fetch] at h
  | i :: rest, pos, insn, h => by
    unfold fetch at h
    split_ifs at h
    · cases h
      exact List.mem_cons_self _ _
    · exact List.mem_cons_of_mem _ (fetch_mem h)

end Primitives

/-! ### The second pass grows the RTL and the depth -/

/-- The RTL only gets words at its end, the deepest stack only grows, and no branch target is recorded when
there was none. -/
structure Grows (s s' : GenState) : Prop where
  rtl : s.iseqRtl <+: s'.iseqRtl
  max : s.maxStackDepth ≤ s'.maxStackDepth
  targets : s.branchTargetLocs = [] → s'.branchTargetLocs = []

/-- `Grows`, with the position and the reachability of the instruction left as they were. -/
structure Emits (s s' : GenState) extends Grows s s' : Prop where
  pos : s'.currSourceInsnPos = s.currSourceInsnPos
  unreachable : s'.unreachableCodeP = s.unreachableCodeP

instance : IsPreorder GenState Grows where
  refl _ := ⟨List.prefix_refl _, le_rfl, id⟩
  trans _ _ _ h₁ h₂ := ⟨h₁.rtl.trans h₂.rtl, h₁.max.trans h₂.max, h₂.targets ∘ h₁.targets⟩

instance : IsPreorder GenState Emits where
  refl s := ⟨refl_of Grows s, rfl, rfl⟩
  trans _ _ _ h₁ h₂ := ⟨trans_of Grows h₁.toGrows h₂.toGrows, h₂.pos.trans h₁.pos, h₂.unreachable.trans h₁.unreachable⟩

/-- A change of the fields that `Emits` does not look at. -/
theorem Emits.of_eq {s s' : GenState} (hrtl : s'.iseqRtl = s.iseqRtl) (hmax : s'.maxStackDepth = s.maxStackDepth)
    (htargets : s'.branchTargetLocs = s.branchTargetLocs) (hpos : s'.currSourceInsnPos = s.currSourceInsnPos)
    (hun : s'.unreachableCodeP = s.unreachableCodeP) : Emits s s' :=
  ⟨⟨hrtl ▸ List.prefix_refl _, hmax.ge, fun h => htargets.trans h⟩, hpos, hun⟩

private theorem Relates.grows {α : Type} {x : GenM α} (h : Relates Emits x) : Relates Grows x :=
  h.mono fun _ _ h => h.toGrows

private theorem emits_appendVals (insn : RtlInsn) (ops : List Word) : Relates Emits (appendVals insn ops) :=
  .of_run _ _ (fun _ => appendVals_run insn ops) fun _ => ⟨⟨List.prefix_append _ _, le_rfl, id⟩, rfl, rfl⟩

private theorem emits_appendBasic (b : BasicInsn) (ops : List Word) : Relates Emits (appendBasic b ops) :=
  emits_appendVals _ _

private theorem emits_pushStackSlot (slot : StackSlot) : Relates Emits (pushStackSlot slot) :=
  .of_run _ _ (fun _ => pushStackSlot_run slot) fun _ => ⟨⟨List.prefix_refl _, le_max_left _ _, id⟩, rfl, rfl⟩

private theorem emits_popStackSlot : Relates Emits popStackSlot := by
  constructor
  intro s slot s' e
  obtain ⟨-, rfl⟩ := popStackSlot_ok e
  exact .of_eq rfl rfl rfl rfl rfl

theorem emits_truncStack (depth : Nat) : Relates Emits (truncStack depth) := relates_truncStack emits_popStackSlot depth

private theorem emits_prepareStackSlotRewrite (slot : StackSlot) : Relates Emits (prepareStackSlotRewrite slot) := by
  constructor
  intro s _ s' e
  rw [prepareStackSlotRewrite_ok e]
  exact .of_eq rfl rfl rfl rfl rfl

private theorem emits_toTemp (slot : StackSlot) (res : Int) (stackP : Bool) :
    Relates Emits (toTemp slot res stackP) :=
  relates_toTemp emits_appendBasic (fun _ => emits_prepareStackSlotRewrite) slot res

private theorem emits_stackSlotToTemp (i : Nat) : Relates Emits (stackSlotToTemp i) :=
  .bind (relates_stackSlotAt i) fun _ => .bind (emits_toTemp _ _ _) fun _ =>
    .bind (.get _) fun _ => .set _ (fun _ _ => .of_eq rfl rfl rfl rfl rfl) _

private theorem emits_tuneStack (pos : Nat) (restoreP : Bool) : Relates Emits (tuneStack pos restoreP) :=
  relates_tuneStack emits_stackSlotToTemp (fun _ => ⟨emits_truncStack 0, emits_pushStackSlot⟩) pos

theorem emits_attachEvent (iseq : Iseq) (pos : Nat) : Relates Emits (attachEvent iseq pos) :=
  relates_attachEvent (fun _ _ => .of_eq rfl rfl rfl rfl rfl) (fun _ _ => .of_eq rfl rfl rfl rfl rfl)
    (emits_appendBasic _ _) iseq pos

/-! ### Straight-line code -/

/-- The instructions of straight-line code that moves values between the locals of the frame (`nlocals` of
them with their counts), the stack and constants, calls methods without a block argument, and returns: no
branch, no outer frame. -/
def straightInsnP (nlocals : Nat) : Insn → Bool
  | .nop | .putself | .putnil | .putobject _ | .putobjectINT2FIX0 | .putobjectINT2FIX1 | .pop | .dup | .leave
  | .getlocalWC0 _ => true
  | .getlocal _ level => level == 0
  | .setlocalWC0 idx => idx < nlocals
  | .setlocal idx level => level == 0 && idx < nlocals
  | .optSendWithoutBlock ci => !ci.argsBlockarg
  | _ => false

section Straight

variable (iseq : Iseq) (cObject : Value)

theorem emits_translateInsn {nlocals : Nat} {insn : Insn} (h : straightInsnP nlocals insn = true)
    (pos len : Nat) (tempOnlyP nopP : Bool) :
    Relates Emits (translateInsn iseq cObject pos len tempOnlyP nopP insn) := by
  cases insn
  case nop =>
    exact .bind (.get _) fun _ => .ite (.bind (emits_appendBasic _ _) fun _ => .pure _)
      (.bind (.pure ()) fun _ => .pure _)
  case putself =>
    exact .ite (.bind (relates_newTopStackTempVar emits_pushStackSlot) fun _ =>
      .bind (emits_appendBasic _ _) fun _ => .pure _) (.bind (emits_pushStackSlot _) fun _ => .pure _)
  case putnil | putobject | putobjectINT2FIX0 | putobjectINT2FIX1 =>
    exact .bind (relates_putobject emits_pushStackSlot emits_appendBasic _ _) fun _ => .pure _
  case pop => exact .bind emits_popStackSlot fun _ => .pure _
  case dup =>
    refine .bind relates_topStackSlot fun _ => .bind (.get _) fun _ => ?_
    lift_lets
    intro op push
    have hpush : ∀ y, Relates Emits (push y) := fun _ => .bind (emits_pushStackSlot _) fun _ => .pure _
    exact .ite (.bind (emits_appendBasic _ _) hpush) (.bind (.pure ()) hpush)
  case leave => exact .bind (relates_generateLeave emits_appendBasic) fun _ => .pure _
  case getlocal | getlocalWC0 =>
    exact .bind (relates_getLocal emits_pushStackSlot emits_appendBasic _ _ _) fun _ => .pure _
  case setlocal | setlocalWC0 =>
    exact .bind (relates_setLocal emits_stackSlotToTemp emits_popStackSlot emits_appendBasic _ _) fun _ => .pure _
  case optSendWithoutBlock =>
    exact .bind (relates_generateCall emits_stackSlotToTemp emits_popStackSlot emits_pushStackSlot emits_appendBasic
      (fun _ _ => .of_eq rfl rfl rfl rfl rfl) (fun _ _ => emits_toTemp _ _ _) _ _) fun _ => .pure _
  -- the other instructions are not straight-line code
  all_goals cases h

/-- `translate_stack_insn` on straight-line code grows the state. -/
theorem grows_translateStackInsn {nlocals : Nat} (hcode : ∀ insn ∈ iseq.code, straightInsnP nlocals insn = true)
    (prevInsn : Insn) : Relates Grows (translateStackInsn iseq cObject prevInsn) :=
  relates_translateStackInsn iseq cObject
    (fun _ _ h _ _ => (emits_translateInsn iseq cObject (hcode _ (fetch_mem h)) _ _ _ _).grows)
    (fun _ _ => (emits_tuneStack _ _).grows) (fun _ => (emits_attachEvent iseq _).grows) (emits_appendBasic _ _).grows
    (fun _ _ => ⟨List.prefix_refl _, le_rfl, id⟩) (fun _ _ => ⟨List.prefix_refl _, le_rfl, id⟩)
    (fun _ _ => ⟨List.prefix_refl _, le_rfl, id⟩) (fun _ _ => ⟨List.prefix_refl _, le_rfl, id⟩) prevInsn

theorem grows_translateLoop {nlocals : Nat} (hcode : ∀ insn ∈ iseq.code, straightInsnP nlocals insn = true)
    (size : Nat) : ∀ fuel prevInsn, Relates Grows (translateLoop iseq cObject size fuel prevInsn) :=
  relates_translateLoop iseq cObject size (grows_translateStackInsn iseq cObject hcode)

end Straight

end RtlMjit
