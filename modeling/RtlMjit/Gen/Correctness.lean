import RtlMjit.Gen.Calls

/-!
# `rtl_gen` preserves the meaning of straight-line code

The second pass of `rtl_gen` translates one stack instruction after another, and each step keeps the
simulation `Sim` of `Gen/Simulation.lean`: the RTL emitted so far runs from the start to a frame that agrees with
the stack machine's frame after the same instructions.

* `sim_translateInsn`: one instruction of straight-line code (`straightInsnP`), either a step of both machines
  or a return of the same value;
* `translateStackInsn_reach`: what `translate_stack_insn` does around it on reachable code (labels, catch bounds,
  events) moves no value of the stack;
* `translateLoop_simulates`: the loop, by induction on its fuel, with the state either still simulating the
  stack machine or past the RTL of its return;
* `rtlGen_straight_simulates`: a run of the stack code that returns a value is matched by a run of the RTL that
  `rtl_gen` emits for it, which returns the same value after the same calls on the environment.

The locals that straight-line code assigns must have entries in `loc_stack_count` (`straightInsnP` with the
`local_table_size + VM_ENV_DATA_SIZE` entries that `initialize_loc_stack_count` makes): `prepare_local_assign`
turns the slots that read a local into temporaries only where the count of the local says there are any.  The
calls must leave the caller's locals as they were (`CallsKeepLocals`, `Gen/Calls.lean`): a slot that reads a local
below a call is read after it.
-/

namespace RtlMjit

/-! ### The emitters of straight-line code -/

section Emitters

variable {oracle : Oracle} {F0 : RtlFrame} {T n : Nat} {s s' : GenState} {sf : StackFrame} {f : RtlFrame}

/-- A new temporary on top of the stack, set by the block that `append_vals` adds next. -/
private theorem Sim.pushTemp (h : Sim oracle F0 T n s sf f) {p : Nat} {s₁ : GenState}
    (e₁ : pushStackSlot ⟨.temp, p⟩ s = .ok () s₁) {insn : RtlInsn} {ops : List Word} {val : RtlFrame → Value}
    (hU : RunsAs oracle (.insn insn :: ops) fun g => g.setVar (topTemp s.stack.length) (val g))
    (hval : ∀ g (q : Nat), val { g with pc := q } = val g) (e₂ : appendVals insn ops s₁ = .ok () s')
    (hT : s'.maxStackDepth ≤ T) (q : Nat) : ∃ f', Sim oracle F0 T n s' (sf.push q (val f)) f' := by
  rw [pushStackSlot_run] at e₁
  cases e₁
  rw [appendVals_run] at e₂
  cases e₂
  have hT' : s.stack.length + 1 ≤ T := le_of_max_le_right hT
  have hlt : s.stack.length < f.temps.length := h.temps ▸ hT'
  have hv : slotValue { f with temps := f.temps.set s.stack.length (val f) } s.stack.length
      (⟨.temp, p⟩ : StackSlot).mode = some (val f) := by
    simp [slotValue, List.getD_eq_getElem?_getD, List.getElem?_set_self hlt]
  have ha := (h.toAgrees.setTemp (j := s.stack.length) (fun _ hs => absurd hs (by simp)) (val f)).push hv hT' q
  refine ⟨_, h.emit (hU.appended (pcFree_setVar _ _ hval) _) rfl ?_⟩
  simp only [RtlFrame.setVar_topTemp]
  exact ha.of_state rfl rfl rfl

private theorem sim_getLocal (h : Sim oracle F0 T n s sf f) {idx : Nat} {tempOnlyP : Bool}
    (e : getLocal idx 0 tempOnlyP s = .ok () s') (hT : s'.maxStackDepth ≤ T) (q : Nat) :
    ∃ f', Sim oracle F0 T n s' (sf.push q (sf.locals.getD idx qnil)) f' := by
  cases tempOnlyP
  · simp only [getLocal, pushVal, GenM.bind_run, Var.get_ok, Bool.not_false, and_self,
      reduceIte] at e
    exact ⟨f, h.pushSlot e (by simp [slotValue, h.locals]) hT q⟩
  · simp only [getLocal, Bool.not_true, Bool.false_eq_true, and_false, reduceIte] at e
    obtain ⟨res, s₁, e₁, e₂⟩ := GenM.bind_ok e
    obtain ⟨rfl, e₃⟩ := newTopStackTempVar_ok e₁
    obtain ⟨f', hf'⟩ := h.pushTemp e₃ (runsAs_move (.inl rfl) _ _) (fun _ _ => rfl) e₂ hT q
    rw [RtlFrame.getVar_local, h.locals] at hf'
    exact ⟨f', hf'⟩

private theorem sim_putobject (h : Sim oracle F0 T n s sf f) {v : Value} {tempOnlyP : Bool}
    (e : putobject v tempOnlyP s = .ok () s') (hT : s'.maxStackDepth ≤ T) (q : Nat) :
    ∃ f', Sim oracle F0 T n s' (sf.push q v) f' := by
  cases tempOnlyP
  · simp only [putobject, pushVal, GenM.bind_run, Var.get_ok, Bool.false_eq_true, reduceIte] at e
    exact ⟨f, h.pushSlot e rfl hT q⟩
  · simp only [putobject, reduceIte] at e
    obtain ⟨res, s₁, e₁, e₂⟩ := GenM.bind_ok e
    obtain ⟨rfl, e₃⟩ := newTopStackTempVar_ok e₁
    exact h.pushTemp e₃ (runsAs_moveVal (.inl rfl) _ v) (fun _ _ => rfl) e₂ hT q

/-- The slot on top of the stack stands for the value on top of the stack machine's stack. -/
private theorem Sim.top (h : Sim oracle F0 T n s sf f) {v : Value} (hv : sf.stack.getLast? = some v) :
    0 < s.stack.length ∧ s.stack.getLast? = some (s.stack.getLast?.getD ⟨.any, 0⟩) ∧
      slotValue f (s.stack.length - 1) (s.stack.getLast?.getD ⟨.any, 0⟩).mode = some v := by
  have hlen : 0 < s.stack.length := by
    rw [h.slots.1]; exact List.length_pos.mpr fun hn => by simp [hn] at hv
  have hlast : s.stack.getLast? = some s.stack[s.stack.length - 1] := by
    rw [List.getLast?_eq_getElem?, List.getElem?_eq_getElem (by omega)]
  refine ⟨hlen, by rw [hlast]; rfl, ?_⟩
  rw [hlast, Option.getD_some, h.slots.2 _ _ (List.getElem?_eq_getElem _), h.slots.1,
    ← List.getLast?_eq_getElem?, hv]

private theorem neg_eq_topTemp {k : Nat} (hk : 0 < k) : -(k : Int) = topTemp (k - 1) := by
  unfold topTemp; omega

end Emitters

/-! ### One instruction -/

section Insn

variable {oracle : Oracle} {F0 : RtlFrame} {T n : Nat} {s s' : GenState} {sf : StackFrame} {f : RtlFrame}
variable (iseq : Iseq) (cObject : Value)

private theorem sim_dup (h : Sim oracle F0 T n s sf f) {v : Value} (hv : sf.stack.getLast? = some v)
    {pos len len' : Nat}
    {tempOnlyP nopP : Bool} (e : translateInsn iseq cObject pos len tempOnlyP nopP .dup s = .ok len' s')
    (hT : s'.maxStackDepth ≤ T) (q : Nat) : len' = len ∧ ∃ f', Sim oracle F0 T n s' (sf.push q v) f' := by
  obtain ⟨hlen, -, htop⟩ := h.top hv
  unfold translateInsn at e
  obtain ⟨_, _, e₀, e⟩ := GenM.bind_ok e
  rw [topStackSlot_run] at e₀
  cases e₀
  obtain ⟨_, _, ⟨⟩, e⟩ := GenM.bind_ok e
  split at e
  · rename_i hm
    obtain ⟨_, s₁, e₁, e⟩ := GenM.bind_ok e
    obtain ⟨_, s₂, e₂, ⟨⟩⟩ := GenM.bind_ok e
    have hst₁ : s₁.stack = s.stack := by rw [appendBasic, appendVals_run] at e₁; cases e₁; rfl
    rw [neg_eq_topTemp hlen, show topTemp (s.stack.length - 1) - 1 = topTemp s.stack.length by
      unfold topTemp; omega] at e₁
    have ha := h.toAgrees.setTemp (j := s.stack.length) (fun _ hs => absurd hs (by simp)) v
    have hvt : f.temps.getD (s.stack.length - 1) qnil = v := by rw [hm] at htop; simpa [slotValue] using htop
    have hs₁ := h.appendBlock (runsAs_move (.inr (.inr (.inr rfl))) _ _) (pcFree_setVar _ _ fun _ _ => rfl) e₁
      (by simp only [RtlFrame.setVar_topTemp, RtlFrame.getVar_topTemp, hvt]; exact ha)
    refine ⟨rfl, _, hs₁.pushSlot e₂ ?_ hT q⟩
    have hmax : s.stack.length + 1 ≤ s'.maxStackDepth := by
      rw [pushStackSlot_run, EStateM.Result.ok.injEq] at e₂
      rw [← e₂.2, hst₁]
      exact le_max_right _ _
    have hlt : s.stack.length < f.temps.length := h.temps ▸ by omega
    simpa [slotValue, hm, hst₁, List.getD_eq_getElem?_getD, List.getElem?_set_self hlt] using hvt
  · rename_i hm
    obtain ⟨_, _, ⟨⟩, e⟩ := GenM.bind_ok e
    obtain ⟨_, s₂, e₂, ⟨⟩⟩ := GenM.bind_ok e
    refine ⟨rfl, _, h.pushSlot e₂ ?_ hT q⟩
    -- a slot that is not a temp stands for the same value wherever it sits
    rw [← htop]
    generalize (s.stack.getLast?.getD ⟨.any, 0⟩).mode = m at hm ⊢
    cases m with
    | temp => exact absurd rfl hm
    | _ => rfl

private theorem sim_setLocal (h : Sim oracle F0 T n s sf f) {idx : Nat} (hidx : idx < n) {v : Value}
    (hv : sf.stack.getLast? = some v) (e : setLocal idx 0 s = .ok () s') (q : Nat) :
    ∃ f', Sim oracle F0 T n s' { sf with pc := q, stack := sf.stack.dropLast, locals := sf.locals.set idx v } f' := by
  simp only [setLocal, reduceIte] at e
  obtain ⟨slot, s₁, e₁, e⟩ := GenM.bind_ok e
  obtain ⟨_, hv', hval, ha₁⟩ := h.toAgrees.pop e₁
  rw [hv, Option.some.injEq] at hv'
  subst hv'
  have hs₁ := h.of_agrees (by obtain ⟨-, rfl⟩ := popStackSlot_ok e₁; rfl) ha₁
  obtain ⟨_, s₂, e₂, e⟩ := GenM.bind_ok e
  obtain ⟨hlen₂, hsteady⟩ := (steady_prepareLocalAssign idx).relates s₁ () s₂ e₂
  obtain ⟨f₂, hs₂, hup⟩ := hsteady _ _ hs₁
  have hclear := prepareLocalAssign_clears hs₂.counts hidx e₂
  obtain ⟨_, _, e₃, e⟩ := GenM.bind_ok e
  rw [freeTemp_run, EStateM.Result.ok.injEq] at e₃
  obtain ⟨rfl, rfl⟩ := e₃
  have ha : Agrees T n s₂ { sf with pc := q, stack := sf.stack.dropLast, locals := sf.locals.set idx v }
      { f₂ with locals := f₂.locals.set idx v } := (hs₂.toAgrees.setLocal hclear v).frames rfl rfl rfl rfl
  have hself : f₂.self = f.self := hs₂.self.trans h.self.symm
  have hlocals : f₂.locals = f.locals := hs₂.locals.trans h.locals.symm
  rcases slot with ⟨_ | _ | w | _ | l | _, p⟩ <;> dsimp only at e
  case any => rw [genAssert_run] at e; cases e
  case str => simp [slotValue] at hval
  case self =>
    simp only [slotValue, Option.some.injEq] at hval
    exact ⟨_, hs₂.appendBlock (runsAs_self2var _) (pcFree_setVar _ _ fun _ _ => rfl) e
      (by simpa [hself, hval] using ha)⟩
  case val =>
    simp only [slotValue, Option.some.injEq] at hval
    exact ⟨_, hs₂.appendBlock (runsAs_moveVal (.inr rfl) _ _) (pcFree_setVar _ _ fun _ _ => rfl) e
      (by simpa [hval] using ha)⟩
  case temp =>
    have := hup s₁.stack.length le_rfl
    simp only [slotValue, Option.some.injEq, List.getD_eq_getElem?_getD] at hval this
    exact ⟨_, hs₂.appendBlock (runsAs_move (.inr (.inl rfl)) _ _) (pcFree_setVar _ _ fun _ _ => rfl) e
      (by simpa [hlen₂, this, hval] using ha)⟩
  case loc =>
    simp only [slotValue, Option.some.injEq, List.getD_eq_getElem?_getD] at hval
    exact ⟨_, hs₂.appendBlock (runsAs_move (.inr (.inr (.inl rfl))) _ _) (pcFree_setVar _ _ fun _ _ => rfl) e
      (by simpa [hlocals, hval] using ha)⟩

private theorem sim_generateLeave (h : Sim oracle F0 T n s sf f) {v : Value} (hv : sf.stack.getLast? = some v)
    (e : generateLeave s = .ok () s') : Returns oracle F0 s' v sf := by
  obtain ⟨hlen, hlast, htop⟩ := h.top hv
  simp only [generateLeave] at e
  obtain ⟨_, _, ⟨⟩, e⟩ := GenM.bind_ok e
  obtain ⟨_, _, e₀, e⟩ := GenM.bind_ok e
  rw [topStackSlot_run] at e₀
  cases e₀
  rw [neg_eq_topTemp hlen] at e
  generalize s.stack.getLast?.getD ⟨.any, 0⟩ = slot at e htop hlast
  rcases slot with ⟨_ | _ | w | _ | l | _, p⟩ <;> dsimp only at e
  case any => rw [genAssert_run] at e; cases e
  case str => simp [slotValue] at htop
  case val =>
    simp only [slotValue, Option.some.injEq] at htop
    exact h.returns (fun _ _ _ hq => by rw [step_valRet _ hq, htop]) e
  case temp =>
    exact h.returns (fun _ _ _ hq => by rw [step_ret (.inr rfl) _ hq]; simpa [slotValue] using htop) e
  case loc =>
    exact h.returns (fun _ _ _ hq => by rw [step_ret (.inl rfl) _ hq]; simpa [slotValue] using htop) e
  case self =>
    obtain ⟨_, s₁, e₁, e₂⟩ := GenM.bind_ok e
    have hk : s.stack.length - 1 < f.temps.length := h.temps ▸ by have := h.depth.trans h.bound; omega
    have ha := h.toAgrees.setTemp (j := s.stack.length - 1) (fun slot hs => by
      rw [← List.getLast?_eq_getElem?, hlast, Option.some.injEq] at hs; rw [← hs]; exact nofun) f.self
    have hs₁ := h.appendBlock (runsAs_self2var _) (pcFree_setVar _ _ fun _ _ => rfl) e₁
      (by simp only [RtlFrame.setVar_topTemp]; exact ha)
    simp only [slotValue, Option.some.injEq] at htop
    refine hs₁.returns (fun _ _ _ hq => ?_) e₂
    rw [step_ret (.inr rfl) _ hq]
    simp [List.getD_eq_getElem?_getD, List.getElem?_set_self hk, htop]

/-- What the RTL emitted up to `s` does after a step `res` of the stack machine from `sf`: it has run to a frame
that agrees with the next frame, or it returns the same value. -/
def Follows (oracle : Oracle) (F0 : RtlFrame) (T n : Nat) (s : GenState) (sf : StackFrame) (next : Nat) :
    StackFrame ⊕ Value → Prop
  | .inl sf' => sf'.pc = next ∧ ∃ f', Sim oracle F0 T n s sf' f'
  | .inr v => Returns oracle F0 s v sf

/-- One instruction of straight-line code: the RTL that `translate_insn` emits for it does what a step of the
stack machine does, a step to the next frame or a return. -/
theorem sim_translateInsn {code : List Insn} (hloc : CallsKeepLocals oracle code) {insn : Insn}
    (hins : straightInsnP n insn = true) (h : Sim oracle F0 T n s sf f) (hfetch : fetch code sf.pc = some insn)
    {pos len' : Nat} {tempOnlyP nopP : Bool}
    (e : translateInsn iseq cObject pos insn.insnLen tempOnlyP nopP insn s = .ok len' s')
    (hT : s'.maxStackDepth ≤ T) {res : StackFrame ⊕ Value} (hstep : StackVM.step oracle code sf = some res) :
    len' = insn.insnLen ∧ Follows oracle F0 T n s' sf (sf.pc + insn.insnLen) res := by
  rw [StackVM.step, hfetch] at hstep
  cases insn <;> try exact absurd hins Bool.false_ne_true
  case nop =>
    cases hstep
    unfold translateInsn at e
    obtain ⟨_, _, ⟨⟩, e⟩ := GenM.bind_ok e
    split at e
    · obtain ⟨_, s₁, e₁, ⟨⟩⟩ := GenM.bind_ok e
      obtain ⟨f', hs', -⟩ := (steady_appendNop.relates s () _ e₁).sim sf f h
      exact ⟨rfl, rfl, f', hs'.of_agrees rfl (hs'.toAgrees.frames rfl rfl rfl rfl)⟩
    · obtain ⟨_, _, ⟨⟩, ⟨⟩⟩ := GenM.bind_ok e
      exact ⟨rfl, rfl, f, h.of_agrees rfl (h.toAgrees.frames rfl rfl rfl rfl)⟩
  case putself =>
    cases hstep
    unfold translateInsn at e
    cases tempOnlyP
    · simp only [Bool.false_eq_true, reduceIte] at e
      obtain ⟨_, s₁, e₁, ⟨⟩⟩ := GenM.bind_ok e
      exact ⟨rfl, rfl, f, h.pushSlot e₁ (by simp [slotValue, h.self]) hT _⟩
    · simp only [reduceIte] at e
      obtain ⟨_, s₁, e₁, e⟩ := GenM.bind_ok e
      obtain ⟨rfl, e₃⟩ := newTopStackTempVar_ok e₁
      obtain ⟨_, s₂, e₂, ⟨⟩⟩ := GenM.bind_ok e
      obtain ⟨f', hf'⟩ := h.pushTemp e₃ (runsAs_self2var _) (fun _ _ => rfl) e₂ hT _
      exact ⟨rfl, rfl, f', h.self ▸ hf'⟩
  case putnil | putobjectINT2FIX0 | putobjectINT2FIX1 | putobject =>
    cases hstep
    unfold translateInsn at e
    obtain ⟨_, s₁, e₁, ⟨⟩⟩ := GenM.bind_ok e
    exact ⟨rfl, rfl, sim_putobject h e₁ hT _⟩
  case getlocalWC0 =>
    cases hstep
    unfold translateInsn at e
    obtain ⟨_, s₁, e₁, ⟨⟩⟩ := GenM.bind_ok e
    exact ⟨rfl, rfl, sim_getLocal h e₁ hT _⟩
  case getlocal idx level =>
    obtain rfl : level = 0 := beq_iff_eq.mp hins
    cases hstep
    unfold translateInsn at e
    obtain ⟨_, s₁, e₁, ⟨⟩⟩ := GenM.bind_ok e
    exact ⟨rfl, rfl, sim_getLocal h e₁ hT _⟩
  case setlocal idx level =>
    obtain ⟨hl, hidx⟩ := (Bool.and_eq_true _ _).mp hins
    obtain rfl : level = 0 := beq_iff_eq.mp hl
    dsimp only [Option.bind_eq_bind, Option.some_bind] at hstep
    obtain ⟨v, hv, hstep⟩ := Option.bind_eq_some.mp hstep
    cases hstep
    unfold translateInsn at e
    obtain ⟨_, s₁, e₁, ⟨⟩⟩ := GenM.bind_ok e
    exact ⟨rfl, rfl, sim_setLocal h (of_decide_eq_true hidx) hv e₁ _⟩
  case leave =>
    dsimp only [Option.bind_eq_bind, Option.some_bind] at hstep
    obtain ⟨v, hv, hstep⟩ := Option.map_eq_some'.mp hstep
    cases hstep
    unfold translateInsn at e
    obtain ⟨_, s₁, e₁, ⟨⟩⟩ := GenM.bind_ok e
    exact ⟨rfl, sim_generateLeave h hv e₁⟩
  case optSendWithoutBlock ci =>
    dsimp only [Option.bind_eq_bind, Option.some_bind] at hstep
    obtain ⟨sf', hcall, rfl⟩ := Option.map_eq_some'.mp hstep
    unfold translateInsn at e
    obtain ⟨_, s₁, e₁, ⟨⟩⟩ := GenM.bind_ok e
    have hbl : (!ci.argsBlockarg) = true := hins
    obtain ⟨f', hf'⟩ := sim_generateCall h (by simpa using hbl) e₁ hT hcall
      fun c hc => hloc ci (fetch_mem hfetch) c hc _
    exact ⟨rfl, StackFrame.call_pc hcall, f', hf'⟩
  all_goals
    dsimp only [Option.bind_eq_bind, Option.some_bind] at hstep
    obtain ⟨v, hv, hstep⟩ := Option.bind_eq_some.mp hstep
    cases hstep
  case dup => exact (sim_dup iseq cObject h hv e hT _).imp_right fun hf => ⟨rfl, hf⟩
  all_goals
    unfold translateInsn at e
    obtain ⟨_, s₁, e₁, ⟨⟩⟩ := GenM.bind_ok e
  case pop =>
    obtain ⟨_, -, -, ha⟩ := h.toAgrees.pop e₁
    exact ⟨rfl, rfl, f, h.of_agrees (by obtain ⟨-, rfl⟩ := popStackSlot_ok e₁; rfl) (ha.frames rfl rfl rfl rfl)⟩
  case setlocalWC0 => exact ⟨rfl, rfl, sim_setLocal h (of_decide_eq_true hins) hv e₁ _⟩

/-- A change of the fields that the simulation does not look at. -/
theorem Follows.of_eq {next : Nat} {res : StackFrame ⊕ Value} (h : Follows oracle F0 T n s sf next res)
    (hst : s'.stack = s.stack) (hrtl : s'.iseqRtl = s.iseqRtl) (hmax : s'.maxStackDepth = s.maxStackDepth)
    (hc : s'.locStackCount = s.locStackCount) : Follows oracle F0 T n s' sf next res := by
  cases res with
  | inl sf' =>
    obtain ⟨hpc, f', hf'⟩ := h
    exact ⟨hpc, f', hf'.of_agrees hrtl (hf'.toAgrees.of_state hst hmax hc)⟩
  | inr v => exact show Returns oracle F0 s' v sf by unfold Returns; rw [hrtl]; exact h

/-- `translate_stack_insn` on reachable straight-line code: the bookkeeping around `translate_insn` (a label's
`tune_stack`, a catch bound, an event) moves no value of the stack, and the instruction's RTL follows the stack
machine's step. -/
theorem translateStackInsn_reach (hloc : CallsKeepLocals oracle iseq.code) (h : Sim oracle F0 T n s sf f)
    (hpos : s.currSourceInsnPos = sf.pc) (hun : s.unreachableCodeP = false) {prevInsn : Insn} (hprev : straightInsnP n prevInsn = true)
    (hleave : prevInsn ≠ .leave) {insn : Insn} (hfetch : fetch iseq.code sf.pc = some insn)
    (hins : straightInsnP n insn = true) (e : translateStackInsn iseq cObject prevInsn s = .ok () s')
    (hT : s'.maxStackDepth ≤ T) {res : StackFrame ⊕ Value} (hstep : StackVM.step oracle iseq.code sf = some res) :
    s'.currSourceInsnPos = sf.pc + insn.insnLen ∧ s'.unreachableCodeP = false ∧
      Follows oracle F0 T n s' sf (sf.pc + insn.insnLen) res := by
  have hat : insnAt iseq s.currSourceInsnPos s = .ok insn s := by rw [hpos, insnAt, hfetch]; rfl
  unfold translateStackInsn at e
  obtain ⟨_, _, ⟨⟩, e⟩ := GenM.bind_ok e
  obtain ⟨_, _, e₀, e⟩ := GenM.bind_ok e
  rw [hat] at e₀
  cases e₀
  obtain ⟨_, _, ⟨⟩, e⟩ := GenM.bind_ok e
  revert e
  lift_lets
  intro labelType translate catchBound finish reachable label e
  let goal := s'.currSourceInsnPos = sf.pc + insn.insnLen ∧ s'.unreachableCodeP = false ∧
    Follows oracle F0 T n s' sf (sf.pc + insn.insnLen) res
  -- the event, the offset of the instruction, and the instruction
  have htranslate : ∀ {s₃ f₃} y, Sim oracle F0 T n s₃ sf f₃ → s₃.unreachableCodeP = false →
      translate y s₃ = .ok () s' → goal := by
    intro s₃ f₃ _ hS hunS e
    obtain ⟨_, s₄, e₄, e⟩ := GenM.bind_ok e
    obtain ⟨f, hS, -⟩ := ((steady_attachEvent iseq _).relates _ _ _ e₄).sim sf _ hS
    have hunS := ((emits_attachEvent iseq _).relates _ _ _ e₄).unreachable.trans hunS
    obtain ⟨_, _, ⟨⟩, e⟩ := GenM.bind_ok e
    obtain ⟨_, _, ⟨⟩, e⟩ := GenM.bind_ok e
    obtain ⟨_, s₅, e₅, e⟩ := GenM.bind_ok e
    obtain ⟨f, hS, -⟩ := (show Steady oracle F0 T n _ s₅ by cases e₅; exact .of_eq rfl rfl rfl rfl).sim sf _ hS
    have hunS : s₅.unreachableCodeP = false := by cases e₅; exact hunS
    obtain ⟨_, _, ⟨⟩, e⟩ := GenM.bind_ok e
    obtain ⟨len', s₆, e₆, e⟩ := GenM.bind_ok e
    cases e
    obtain ⟨hlen, hfol⟩ := sim_translateInsn iseq cObject hloc hins hS hfetch e₆ hT hstep
    have hunS := ((emits_translateInsn iseq cObject hins _ _ _ _).relates _ _ _ e₆).unreachable.trans hunS
    exact ⟨by rw [hlen, hpos], hunS, hfol.of_eq rfl rfl rfl rfl⟩
  -- a catch bound: the RTL position of the bound
  have hcatchBound : ∀ {s₂ f₂} y, Sim oracle F0 T n s₂ sf f₂ → s₂.unreachableCodeP = false →
      catchBound y s₂ = .ok () s' → goal := by
    intro s₂ f₂ _ hS hunS e
    obtain ⟨_, _, ⟨⟩, e⟩ := GenM.bind_ok e
    split at e
    · obtain ⟨_, _, ⟨⟩, e⟩ := GenM.bind_ok e
      obtain ⟨_, s₃, e₃, e⟩ := GenM.bind_ok e
      obtain ⟨f, hS, -⟩ :=
        (show Steady oracle F0 T n _ s₃ by cases e₃; exact .of_eq rfl rfl rfl rfl).sim sf _ hS
      exact htranslate () hS (by cases e₃; exact hunS) e
    · obtain ⟨_, _, ⟨⟩, e⟩ := GenM.bind_ok e
      exact htranslate () hS hunS e
  -- reachable code goes on to the catch bound
  have hreachable : ∀ {s₂ f₂} y, Sim oracle F0 T n s₂ sf f₂ → s₂.unreachableCodeP = false →
      reachable y s₂ = .ok () s' → goal := by
    intro s₂ f₂ _ hS hunS e
    obtain ⟨_, _, ⟨⟩, e⟩ := GenM.bind_ok e
    rw [hunS, if_neg Bool.false_ne_true] at e
    obtain ⟨_, _, ⟨⟩, e⟩ := GenM.bind_ok e
    exact hcatchBound () hS hunS e
  -- a label: `tune_stack` on an edge into it, then `unreachable_code_p` cleared
  have hlabel : ∀ y, label y s = .ok () s' → goal := by
    intro _ e
    dsimp only [label] at e
    split at e
    · obtain ⟨_, _, ⟨⟩, e⟩ := GenM.bind_ok e
      rw [hun] at e
      obtain ⟨_, s₁, e₁, e⟩ := GenM.bind_ok e
      obtain ⟨f₁, hS, -⟩ := ((steady_tuneStack _).relates _ _ _ e₁).sim sf f h
      obtain ⟨_, s₂, e₂, e⟩ := GenM.bind_ok e
      obtain ⟨f, hS, -⟩ :=
        (show Steady oracle F0 T n _ s₂ by cases e₂; exact .of_eq rfl rfl rfl rfl).sim sf f₁ hS
      exact hreachable () hS (by cases e₂; rfl) e
    · obtain ⟨_, _, ⟨⟩, e⟩ := GenM.bind_ok e
      exact hreachable () h hun e
  -- after a jump or a `leave` the code is unreachable, which straight-line code never is
  split at e
  · rename_i hj
    exfalso
    split at hj
    · exact Bool.false_ne_true hprev
    · exact hleave rfl
    · exact Bool.false_ne_true hj
  · obtain ⟨_, _, ⟨⟩, e⟩ := GenM.bind_ok e
    exact hlabel () e

end Insn

/-! ### The loop -/

section Loop

variable {oracle : Oracle} {F0 : RtlFrame} {T n : Nat}
variable (iseq : Iseq) (cObject : Value)

/-- The RTL emitted up to `s` since `F0`'s position returns `r` from `F0`, whatever stands before and after
it. -/
def Done (oracle : Oracle) (F0 : RtlFrame) (s : GenState) (r : Value × List ExtCall) : Prop :=
  F0.pc ≤ s.iseqRtl.length ∧ ∀ pre more, pre.length = F0.pc →
    ∃ m, RtlVM.run oracle (pre ++ s.iseqRtl.drop F0.pc ++ more) m F0 = some r

/-- The invariant of the translation loop before the instruction at `curr_source_insn_pos`, read after
`prevInsn`: the stack machine, on its way from `sf₀`, is at that instruction with a frame the generator's state
simulates; or the stack machine has returned `r` and the RTL emitted so far returns `r` too. -/
def LoopInv (oracle : Oracle) (F0 : RtlFrame) (T n : Nat) (sf₀ : StackFrame) (r : Value × List ExtCall)
    (s : GenState) (prevInsn : Insn) : Prop :=
  (∃ sf f, Relation.ReflTransGen (StackVM.StepTo oracle iseq.code) sf₀ sf ∧ sf.pc = s.currSourceInsnPos ∧
    s.unreachableCodeP = false ∧ straightInsnP n prevInsn = true ∧ prevInsn ≠ .leave ∧
    Sim oracle F0 T n s sf f) ∨ Done oracle F0 s r

private theorem Done.grow {s s' : GenState} {r : Value × List ExtCall} (h : Done oracle F0 s r) (hg : Grows s s') :
    Done oracle F0 s' r := by
  obtain ⟨ws, hws⟩ := hg.rtl
  refine ⟨h.1.trans (by rw [← hws, List.length_append]; exact Nat.le_add_right _ _), fun pre more hpre => ?_⟩
  rw [← hws, List.drop_append_of_le_length h.1, ← List.append_assoc, List.append_assoc _ ws]
  exact h.2 pre _ hpre

private theorem step_leave_not_inl {code : List Insn} {sf sf' : StackFrame} (hfetch : fetch code sf.pc = some .leave)
    (hstep : StackVM.step oracle code sf = some (.inl sf')) : False := by
  rw [StackVM.step, hfetch] at hstep
  dsimp only [Option.bind_eq_bind, Option.some_bind] at hstep
  obtain ⟨_, _, h⟩ := Option.map_eq_some'.mp hstep
  cases h

/-- The translation loop, by induction on its fuel: it keeps the invariant to the end, where the RTL returns
what the stack machine returns. -/
theorem translateLoop_simulates (hcode : ∀ insn ∈ iseq.code, straightInsnP n insn = true)
    (hloc : CallsKeepLocals oracle iseq.code) {sf₀ : StackFrame}
    {r : Value × List ExtCall} (hrun : ∃ k, StackVM.run oracle iseq.code k sf₀ = some r) :
    ∀ fuel prevInsn s s', translateLoop iseq cObject (iseqSize iseq.code) fuel prevInsn s = .ok () s' →
      s'.maxStackDepth ≤ T → LoopInv iseq oracle F0 T n sf₀ r s prevInsn → Done oracle F0 s' r
  | 0, _, _, _, e => nomatch e
  | fuel + 1, prevInsn, s, s', e => by
    obtain ⟨k, hk⟩ := hrun
    unfold translateLoop at e
    obtain ⟨_, _, ⟨⟩, e⟩ := GenM.bind_ok e
    split at e
    · -- the end of the code: the stack machine cannot be on its way there
      cases e
      refine fun _ hinv => hinv.resolve_left ?_
      rintro ⟨sf, f, hsf, hpc, -⟩
      refine (StackVM.run_determined hsf hk).1 ?_
      rw [StackVM.step, fetch_of_size_le (hpc ▸ ‹_›)]
      rfl
    · obtain ⟨_, _, ⟨⟩, e₃⟩ := GenM.bind_ok e
      obtain ⟨insn, _, e₀, e₄⟩ := GenM.bind_ok e₃
      obtain ⟨hfetch, rfl⟩ := insnAt_ok e₀
      obtain ⟨_, s₁, e₁, e₂⟩ := GenM.bind_ok e₄
      have hg₁ := (grows_translateStackInsn iseq cObject hcode prevInsn).relates _ _ _ e₁
      have hg₂ := (grows_translateLoop iseq cObject hcode _ fuel insn).relates _ _ _ e₂
      refine fun hT hinv => translateLoop_simulates hcode hloc ⟨k, hk⟩ fuel insn s₁ s' e₂ hT ?_
      rcases hinv with ⟨sf, f, hsf, hpc, hun, hprev, hleave, h⟩ | hdone
      · obtain ⟨res, hstep⟩ := Option.ne_none_iff_exists'.mp (StackVM.run_determined hsf hk).1
        rw [← hpc] at hfetch
        have hins := hcode insn (fetch_mem hfetch)
        obtain ⟨hpos, hun₁, hfol⟩ := translateStackInsn_reach iseq cObject hloc h hpc.symm hun hprev hleave hfetch
          hins e₁ (hg₂.max.trans hT) hstep
        cases res with
        | inl sf' =>
          obtain ⟨hpc', f', hf'⟩ := hfol
          exact .inl ⟨sf', f', hsf.tail hstep, hpc'.trans hpos.symm, hun₁, hins,
            fun hl => step_leave_not_inl (hl ▸ hfetch) hstep, hf'⟩
        | inr v =>
          rw [(StackVM.run_determined hsf hk).2 v hstep]
          exact .inr hfol
      · exact .inr (hdone.grow hg₁)

end Loop

/-! ### A run of `rtl_gen` -/

section RtlGen

variable (iseq : Iseq)

/-- `translate`'s set-up: an empty stack, no RTL and no branch to patch yet, and the loop at position `0` with
the code reachable. -/
private theorem translateInit_ok {s s' : GenState} (e : translateInit iseq s = .ok () s') :
    s'.stack = [] ∧ s'.iseqRtl = [] ∧ s'.branchTargetLocs = [] ∧ s'.unreachableCodeP = false ∧
      s'.currSourceInsnPos = 0 := by
  obtain ⟨_, _, ⟨⟩, e₁⟩ := GenM.bind_ok e
  obtain ⟨⟨⟩, _, e₂, e₃⟩ := GenM.bind_ok e₁
  have hst := truncStack_zero e₂
  have htg := ((emits_truncStack 0).relates _ _ _ e₂).targets rfl
  cases e₃
  exact ⟨hst, rfl, htg, rfl, rfl⟩

/-- The translation keeps the meaning of straight-line code: where every instruction is one the straight-line
fragment has, and the stack machine returns `r` from the first instruction with an empty stack, the RTL that
`rtl_gen` emits returns `r` from its first instruction, with `temp_vars_num` temporaries, the same locals and the
same `self`, and the same calls made on the way, as long as the calls leave the caller's locals as they were. -/
theorem rtlGen_straight_simulates
    (hcode : ∀ insn ∈ iseq.code, straightInsnP (iseq.localTableSize + vmEnvDataSize) insn = true)
    {cObject : Value} {fuel : Nat} {s s' : GenState} {out : RtlGenOutput} (hs : s.stack = [])
    (hgen : rtlGen iseq cObject fuel s = .ok out s') {oracle : Oracle} (hloc : CallsKeepLocals oracle iseq.code)
    {locals : List Value} {self : Value}
    {k : Nat} {r : Value × List ExtCall} (hrun : StackVM.run oracle iseq.code k ⟨0, [], locals, self, []⟩ = some r) :
    ∃ m, RtlVM.run oracle out.rtlEncoded m (RtlFrame.start out.tempVarsNum locals self) = some r := by
  have hinit : rtlGenInit iseq s = .ok () (GenM.final (rtlGenInit iseq) s) := rfl
  dsimp only [rtlGen] at hgen
  rw [GenM.bind_run, hinit] at hgen
  obtain ⟨_, s₁, e₁, e₂⟩ := GenM.bind_ok hgen
  obtain ⟨_, s₂, e₃, e₄⟩ := GenM.bind_ok e₂
  obtain ⟨_, _, e₅, e₆⟩ := GenM.bind_ok e₄
  cases e₆
  obtain ⟨_, s₄, e₇, e₈⟩ := GenM.bind_ok e₅
  obtain ⟨_, s₅, e₉, e₁₀⟩ := GenM.bind_ok e₈
  have hc₂ : CountsBelow (iseq.localTableSize + vmEnvDataSize) s₂ := by
    cases e₃
    exact ((keeps_findStackValuesOnLabels iseq fuel).keeps (rtlGenInit_countsBelow iseq hs) e₁ : CountsBelow _ s₁)
  have hc := (keeps_translateInit iseq).keeps hc₂ e₇
  obtain ⟨hst, hrtl, htg, hun, hpos⟩ := translateInit_ok iseq e₇
  have hg := (grows_translateLoop iseq cObject hcode _ _ _).relates _ _ _ e₉
  have he := ((emits_truncStack 0).relates _ _ _ e₁₀).toGrows
  have hsim : Sim oracle (RtlFrame.start s'.maxStackDepth locals self) s'.maxStackDepth _ s₄
      ⟨0, [], locals, self, []⟩ (RtlFrame.start s'.maxStackDepth locals self) :=
    { locals := rfl, self := rfl, trace := rfl, temps := List.length_replicate _ _
      depth := by simp [hst], bound := hg.max.trans he.max, counts := hc
      slots := hst ▸ describes_nil _, base := Nat.zero_le _, reach := fun _ _ _ => .refl
      pc := by simp [hrtl, RtlFrame.start] }
  have hdone := translateLoop_simulates iseq cObject hcode hloc ⟨k, hrun⟩ _ _ _ _ e₉ he.max
    (.inl ⟨_, _, .refl, hpos.symm, hun, rfl, nofun, hsim⟩)
  obtain ⟨m, hm⟩ := (hdone.grow he).2 [] [] rfl
  refine ⟨m, ?_⟩
  dsimp only
  rw [he.targets (hg.targets htg)]
  simpa only [RtlFrame.start, List.drop_zero, List.nil_append, List.append_nil] using hm

/-- `x = 5; m(x)`, with a `dup; pop` of the result: straight-line code through a local, the stack and a call of
one argument on `self`. -/
def straightIseq : Iseq where
  code := [.putobject (int2fix 5), .setlocalWC0 3, .putself, .getlocalWC0 3, .optSendWithoutBlock ⟨0, 1, false⟩,
    .dup, .pop, .leave]
  catchTable := none
  insnsInfo := []
  localTableSize := 1
  paramSize := 0
  optNum := 0
  optTable := []

theorem rtlGen_straightIseq_returns :
    ∃ out s', rtlGen straightIseq 0 10 GenState.init = .ok out s' ∧
      ∃ m, RtlVM.run (fun c ls => (c.args.getD 0 qnil, ls)) out.rtlEncoded m
        (RtlFrame.start out.tempVarsNum [qnil, qnil, qnil, qnil] qnil) =
          some (int2fix 5, [⟨⟨0, 1, false⟩, qnil, [int2fix 5], 0⟩]) := by
  obtain ⟨out, s', hgen⟩ : ∃ out s', rtlGen straightIseq 0 10 GenState.init = .ok out s' := ⟨_, _, rfl⟩
  exact ⟨out, s', hgen,
    rtlGen_straight_simulates straightIseq (by decide) rfl hgen (fun _ _ _ _ _ => rfl) (k := 10) rfl⟩

end RtlGen

end RtlMjit
