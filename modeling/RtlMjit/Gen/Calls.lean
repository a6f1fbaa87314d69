import RtlMjit.Gen.Simulation

/-!
# `generate_call` keeps the simulation

`opt_send_without_block` without a block argument becomes, in `generate_call`, a block of RTL that first moves
the receiver and the arguments into the temporaries of their stack slots (`put_args_on_stack`, and `to_temp` for
a receiver that is neither `self` nor a local), then calls with `call_start` at the receiver's temporary, whose
result goes into that temporary, read through the new top slot.

* `putOnStack_temps`: after `put_on_stack k` the top `k` slots are temporaries;
* `Sim.putArgsOnStack`: `put_args_on_stack k` moves the top `k` values into their temporaries and pops their
  slots, and no value below them moves;
* `callArgs_eq`: the arguments the RTL call reads below `call_start` are the values above the receiver on the
  stack machine's stack;
* `Sim.call`: the call instruction and the push of its result keep the simulation, for each of the three call
  instructions (`simple_call_self`, `simple_call_recv` for a local receiver, `simple_call`);
* `sim_generateCall`: the whole of `generate_call` keeps it, and the stack machine's call and the RTL's make the
  same call on the environment.

The slots below the receiver are left as they are, and one that reads a local is read after the call: the call
must leave the caller's locals as they were (`CallsKeepLocals`).  A callee that assigns a local of its caller
makes the two machines differ (`localBelowCallIseq`).
-/

namespace RtlMjit

theorem StackFrame.call_pc {oracle : Oracle} {f f' : StackFrame} {pc : Nat} {ci : CallInfo} {block : Value}
    (h : f.call oracle pc ci block = some f') : f'.pc = pc := by
  unfold StackFrame.call at h
  dsimp only at h
  split at h
  · cases h
  · cases h; rfl

/-- Every call of the code, whatever its receiver and arguments, leaves the caller's locals as they were. -/
def CallsKeepLocals (oracle : Oracle) (code : List Insn) : Prop :=
  ∀ ci, Insn.optSendWithoutBlock ci ∈ code → ∀ c : ExtCall, c.ci = ci → ∀ ls, (oracle c ls).2 = ls

section Calls

variable {s s' : GenState}

/-- Slot `j` of the stack is a temporary. -/
def TempAt (s : GenState) (j : Nat) : Prop := s.stack[j]?.map StackSlot.mode = some .temp

theorem TempAt.lt {j : Nat} (h : TempAt s j) : j < s.stack.length := by
  unfold TempAt at h
  by_contra hj
  rw [List.getElem?_eq_none_iff.mpr (Nat.le_of_not_lt hj)] at h
  cases h

private theorem stackSlotToTemp_temps {i : Nat} (e : stackSlotToTemp i s = .ok () s') :
    s'.stack.length = s.stack.length ∧ (i < s.stack.length → TempAt s' i) ∧ ∀ j, TempAt s j → TempAt s' j := by
  rw [stackSlotToTemp, GenM.bind_run, stackSlotAt_run] at e
  obtain ⟨slot', s₁, e₁, e₂⟩ := GenM.bind_ok e
  obtain ⟨rfl, hst, -⟩ := toTemp_ok e₁
  obtain ⟨_, _, ⟨⟩, e₃⟩ := GenM.bind_ok e₂
  cases e₃
  refine ⟨by simp [hst], fun hi => ?_, fun j hj => ?_⟩
  · simp only [TempAt, hst, List.getElem?_set_self hi, Option.map_some']
  · by_cases hij : i = j
    · subst hij; simp only [TempAt, hst, List.getElem?_set_self hj.lt, Option.map_some']
    · simpa only [TempAt, hst, List.getElem?_set_ne hij] using hj

/-- A loop of `to_temp`s on the stack slots `g i`: each slot it reaches ends a temporary, and every temporary stays
one. -/
private theorem forIn_stackSlotToTemp_temps (g : Nat → Nat) : ∀ (l : List Nat) {s s' : GenState},
    forIn (m := GenM) l PUnit.unit (fun i _ => do stackSlotToTemp (g i); pure (ForInStep.yield PUnit.unit)) s =
      .ok PUnit.unit s' →
    s'.stack.length = s.stack.length ∧ (∀ j, TempAt s j → TempAt s' j) ∧
      ∀ i ∈ l, g i < s.stack.length → TempAt s' (g i)
  | [], _, _, e => by cases e; exact ⟨rfl, fun _ h => h, nofun⟩
  | a :: l, s, s', e => by
    rw [List.forIn_cons] at e
    obtain ⟨_, s₁, e₁, e₂⟩ := GenM.bind_ok e
    obtain ⟨_, _, e₃, ⟨⟩⟩ := GenM.bind_ok e₁
    obtain ⟨hl₁, ha, hk₁⟩ := stackSlotToTemp_temps e₃
    obtain ⟨hl₂, hk₂, hin⟩ := forIn_stackSlotToTemp_temps g l e₂
    refine ⟨hl₂.trans hl₁, fun j hj => hk₂ j (hk₁ j hj), fun i hi hlt => ?_⟩
    rcases List.mem_cons.mp hi with rfl | hi
    · exact hk₂ _ (ha hlt)
    · exact hin i hi (hl₁ ▸ hlt)

/-- After `put_on_stack k`, the top `k` slots are temporaries. -/
theorem putOnStack_temps {k : Nat} (e : putOnStack k s = .ok () s') :
    k ≤ s.stack.length ∧ s'.stack.length = s.stack.length ∧ ∀ i < k, TempAt s' (s.stack.length - k + i) := by
  obtain ⟨_, _, ⟨⟩, e₁⟩ := GenM.bind_ok e
  obtain ⟨_, s₁, e₂, e₃⟩ := GenM.bind_ok e₁
  rw [genAssert_run] at e₂
  split at e₂
  · rename_i hk
    cases e₂
    obtain ⟨_, _, e₄, ⟨⟩⟩ := GenM.bind_ok e₃
    obtain ⟨hlen, -, htemp⟩ := forIn_stackSlotToTemp_temps _ _ e₄
    have hk := of_decide_eq_true hk
    exact ⟨hk, hlen, fun i hi => htemp i (List.mem_range.mpr hi) (by omega)⟩
  · cases e₂

private theorem topTemp_neg (i : Nat) : topTemp i < 0 := by unfold topTemp; omega

theorem freeTemp_run : freeTemp s = .ok (topTemp s.stack.length) s := rfl

theorem newTopStackTempVar_ok {res : Int} {s₁ : GenState} (e : newTopStackTempVar s = .ok res s₁) :
    res = topTemp s.stack.length ∧ pushStackSlot ⟨.temp, s.currSourceInsnPos⟩ s = .ok () s₁ := by
  simp only [newTopStackTempVar, pushTempResult, pushVal, GenM.bind_run, Var.get_ok, genAssert_run,
    topTemp_neg, decide_True, reduceIte] at e
  split at e
  · rename_i e₁; cases e; exact ⟨rfl, e₁⟩
  · cases e

variable {oracle : Oracle} {F0 : RtlFrame} {T n : Nat} {sf : StackFrame} {f : RtlFrame}

/-- Pushing a slot that stands for `v` emits no RTL. -/
theorem Sim.pushSlot (h : Sim oracle F0 T n s sf f) {slot : StackSlot} {v : Value}
    (e : pushStackSlot slot s = .ok () s') (hv : slotValue f s.stack.length slot.mode = some v)
    (hT : s'.maxStackDepth ≤ T) (q : Nat) : Sim oracle F0 T n s' (sf.push q v) f := by
  rw [pushStackSlot_run] at e
  cases e
  exact h.of_agrees rfl (h.toAgrees.push hv (le_of_max_le_right hT) q)

private theorem steady_putOnStack (k : Nat) : Relates (Steady oracle F0 T n) (putOnStack k) :=
  relates_putOnStack steady_stackSlotToTemp k

/-- Popping `m` slots pops `m` values and emits no RTL. -/
private theorem Agrees.popSlots : ∀ (m : Nat) {s s' : GenState} {sf : StackFrame}, Agrees T n s sf f →
    popSlots m s = .ok () s' →
    Agrees T n s' { sf with stack := sf.stack.take (sf.stack.length - m) } f ∧ s'.iseqRtl = s.iseqRtl
  | 0, _, _, _, h, e => by
    cases e
    exact ⟨h.frames rfl rfl rfl (by simp), rfl⟩
  | m + 1, _, _, sf, h, e => by
    obtain ⟨_, _, e₁, e₂⟩ := GenM.bind_ok e
    obtain ⟨_, -, -, h₁⟩ := h.pop e₁
    obtain ⟨h₂, hrtl⟩ := Agrees.popSlots m h₁ e₂
    refine ⟨h₂.frames rfl rfl rfl ?_, by rw [hrtl, (popStackSlot_ok e₁).2]⟩
    simp only [List.dropLast_eq_take, List.take_take, List.length_take, List.length_dropLast]
    congr 1
    omega

/-- A temporary slot's value is in its temporary. -/
theorem Describes.temp {slots : List StackSlot} {vals : List Value} (h : Describes f slots vals) {j : Nat}
    (hj : slots[j]?.map StackSlot.mode = some .temp) : vals[j]? = some (f.temps.getD j qnil) := by
  obtain ⟨slot, hs, hm⟩ := Option.map_eq_some'.mp hj
  rw [← h.2 j slot hs, hm]
  rfl

/-- The frame after the call `ci` with `call_start` `topTemp m`, when the environment answers `(r, l)`. -/
private theorem RtlFrame.call_topTemp {g : RtlFrame} {p : Nat} {ci : CallInfo} {m : Nat} {recv : Value} {r : Value}
    {l : List Value}
    (hp : oracle ⟨ci, recv, (List.range ci.origArgc).map fun k => g.getVar (topTemp m - 1 - k), 0⟩ g.locals = (r, l)) :
    g.call oracle p ci (topTemp m) recv 0 =
      { g with pc := p, locals := l, temps := g.temps.set m r,
               trace := g.trace ++ [⟨ci, recv, (List.range ci.origArgc).map fun k => g.getVar (topTemp m - 1 - k), 0⟩] } := by
  simp only [RtlFrame.call, hp, RtlFrame.setVar_topTemp]

private theorem pcFree_call (ci : CallInfo) (m : Nat) {recv : RtlFrame → Value}
    (hrecv : ∀ g (q : Nat), recv { g with pc := q } = recv g) :
    PcFree fun g => { g.call oracle 0 ci (topTemp m) (recv g) 0 with pc := g.pc } := by
  intro g q
  simp only [hrecv, RtlFrame.call, RtlFrame.setVar_topTemp]
  rfl

private theorem runsAs_simpleCallSelf (ci : CallInfo) (cs : Int) :
    RunsAs oracle [.insn (.basic .simpleCallSelf), .cd ci, .num cs]
      fun g => { g.call oracle 0 ci cs g.self 0 with pc := g.pc } := by
  intro g pre more hpc
  have h0 := getD_block pre [.insn (.basic .simpleCallSelf), .cd ci, .num cs] more (k := 0) (by simp)
  have h1 := getD_block pre [.insn (.basic .simpleCallSelf), .cd ci, .num cs] more (k := 1) (by simp)
  have h2 := getD_block pre [.insn (.basic .simpleCallSelf), .cd ci, .num cs] more (k := 2) (by simp)
  unfold RtlVM.StepTo RtlVM.step
  rw [hpc, ← Nat.add_zero pre.length, h0]
  dsimp only
  rw [Nat.add_zero, h1, h2]
  rfl

private theorem runsAs_simpleCall (ci : CallInfo) (cs : Int) :
    RunsAs oracle [.insn (.basic .simpleCall), .cd ci, .num cs]
      fun g => { g.call oracle 0 ci cs (g.getVar cs) 0 with pc := g.pc } := by
  intro g pre more hpc
  have h0 := getD_block pre [.insn (.basic .simpleCall), .cd ci, .num cs] more (k := 0) (by simp)
  have h1 := getD_block pre [.insn (.basic .simpleCall), .cd ci, .num cs] more (k := 1) (by simp)
  have h2 := getD_block pre [.insn (.basic .simpleCall), .cd ci, .num cs] more (k := 2) (by simp)
  unfold RtlVM.StepTo RtlVM.step
  rw [hpc, ← Nat.add_zero pre.length, h0]
  dsimp only
  rw [Nat.add_zero, h1, h2]
  rfl

private theorem runsAs_simpleCallRecv (ci : CallInfo) (cs o : Int) :
    RunsAs oracle [.insn (.basic .simpleCallRecv), .cd ci, .num cs, .num o]
      fun g => { g.call oracle 0 ci cs (g.getVar o) 0 with pc := g.pc } := by
  intro g pre more hpc
  have h0 := getD_block pre [.insn (.basic .simpleCallRecv), .cd ci, .num cs, .num o] more (k := 0) (by simp)
  have h1 := getD_block pre [.insn (.basic .simpleCallRecv), .cd ci, .num cs, .num o] more (k := 1) (by simp)
  have h2 := getD_block pre [.insn (.basic .simpleCallRecv), .cd ci, .num cs, .num o] more (k := 2) (by simp)
  have h3 := getD_block pre [.insn (.basic .simpleCallRecv), .cd ci, .num cs, .num o] more (k := 3) (by simp)
  unfold RtlVM.StepTo RtlVM.step
  rw [hpc, ← Nat.add_zero pre.length, h0]
  dsimp only
  rw [Nat.add_zero, h1, h2, h3]
  rfl

/-- The arguments the RTL call reads from the temporaries below `call_start` are the values on the stack above the
receiver. -/
theorem callArgs_eq {g : RtlFrame} {vals : List Value} {m k : Nat} (hlen : vals.length = m + 1 + k)
    (h : ∀ i < k, vals[m + 1 + i]? = some (g.temps.getD (m + 1 + i) qnil)) :
    (List.range k).map (fun j => g.getVar (topTemp m - 1 - j)) = vals.drop (m + 1) := by
  have hco : ∀ l : List Nat, (do let a ← l; pure (a : Int)) = l.map (fun a : Nat => (a : Int)) :=
    fun l => List.flatMap_pure_eq_map _ l
  rw [hco, List.map_map]
  apply List.ext_getElem
  · simp [hlen]
  · intro i h₁ h₂
    have hi : i < k := by simpa using h₁
    have hv := h i hi
    rw [List.getElem?_eq_getElem (by omega)] at hv
    simp only [List.getElem_map, List.getElem_range, Function.comp, List.getElem_drop, Option.some.injEq] at hv ⊢
    rw [show topTemp m - 1 - (i : Int) = topTemp (m + 1 + i) by unfold topTemp; omega, RtlFrame.getVar_topTemp, hv]

/-- The tail of `generate_call`, on the stack below the receiver: the call instruction, with the receiver `recv`
and the arguments in the temporaries above `call_start`, whose result goes into `call_start`, and the push of that
temporary.  `vals` is the stack machine's stack at the call, and the call leaves the locals as they were. -/
theorem Sim.call (h : Sim oracle F0 T n s sf f) {ci : CallInfo} {b : BasicInsn} {ops : List Word}
    {recv : RtlFrame → Value}
    (hU : RunsAs oracle (.insn (.basic b) :: ops)
      fun g => { g.call oracle 0 ci (topTemp s.stack.length) (recv g) 0 with pc := g.pc })
    (hrecv : ∀ g (q : Nat), recv { g with pc := q } = recv g) {s₁ : GenState} {res : Int}
    (e₁ : appendBasic b ops s = .ok () s₁) (e₂ : newTopStackTempVar s₁ = .ok res s') (hT : s'.maxStackDepth ≤ T)
    {vals : List Value} (hlen : vals.length = s.stack.length + 1 + ci.origArgc)
    (hargs : ∀ i < ci.origArgc,
      vals[s.stack.length + 1 + i]? = some (f.temps.getD (s.stack.length + 1 + i) qnil))
    (hv : recv f = vals.getD s.stack.length qnil)
    (hloc : (oracle ⟨ci, vals.getD s.stack.length qnil, vals.drop (s.stack.length + 1), 0⟩ sf.locals).2 = sf.locals)
    (q : Nat) :
    ∃ f', Sim oracle F0 T n s'
      { pc := q,
        stack := sf.stack ++
          [(oracle ⟨ci, vals.getD s.stack.length qnil, vals.drop (s.stack.length + 1), 0⟩ sf.locals).1],
        locals := sf.locals, self := sf.self,
        trace := sf.trace ++ [⟨ci, vals.getD s.stack.length qnil, vals.drop (s.stack.length + 1), 0⟩] } f' := by
  have hc : (⟨ci, recv f, (List.range ci.origArgc).map fun k => f.getVar (topTemp s.stack.length - 1 - k), 0⟩ :
      ExtCall) = ⟨ci, vals.getD s.stack.length qnil, vals.drop (s.stack.length + 1), 0⟩ := by
    rw [hv, callArgs_eq hlen hargs]
  generalize (⟨ci, vals.getD s.stack.length qnil, vals.drop (s.stack.length + 1), 0⟩ : ExtCall) = c at hc hloc ⊢
  have hp : oracle c f.locals = ((oracle c sf.locals).1, f.locals) := by
    rw [h.locals]; exact Prod.ext rfl hloc
  generalize (oracle c sf.locals).1 = r at hp ⊢
  obtain ⟨rfl, e₃⟩ := newTopStackTempVar_ok e₂
  have hst₁ : s₁.stack = s.stack := by rw [appendBasic, appendVals_run] at e₁; cases e₁; rfl
  have hmax : s'.maxStackDepth = max s₁.maxStackDepth (s.stack.length + 1) := by
    rw [pushStackSlot_run, EStateM.Result.ok.injEq] at e₃; rw [← e₃.2, hst₁]
  have hlt : s.stack.length < f.temps.length := h.temps ▸ (le_of_max_le_right (hmax ▸ hT))
  have hnone : ∀ slot, s.stack[s.stack.length]? = some slot → slot.mode ≠ .temp := by simp
  have ha := h.toAgrees.setTemp hnone r
  rw [← hc] at hp
  have ha' : Agrees T n s { sf with trace := sf.trace ++ [c] }
      { f.call oracle 0 ci (topTemp s.stack.length) (recv f) 0 with pc := f.pc } := by
    rw [RtlFrame.call_topTemp hp, hc]
    exact { ha with trace := congrArg (· ++ _) h.trace, slots := ha.slots.congr fun _ sl _ => by cases sl.mode <;> rfl }
  have hS := h.appendBlock hU (pcFree_call ci _ hrecv) e₁ ha'
  rw [RtlFrame.call_topTemp hp] at hS
  refine ⟨_, hS.pushSlot e₃ ?_ hT q⟩
  simp [hst₁, slotValue, List.getD_eq_getElem?_getD, List.getElem?_set_self hlt]

/-- `put_args_on_stack k`: the top `k` values go into their temporaries and their slots are popped; no value below
them moves. -/
theorem Sim.putArgsOnStack (h : Sim oracle F0 T n s sf f) {k : Nat} (e : putArgsOnStack k s = .ok () s') :
    s'.stack.length + k = sf.stack.length ∧
      ∃ f', Sim oracle F0 T n s' { sf with stack := sf.stack.take s'.stack.length } f' ∧
        ∀ i < k, sf.stack[s'.stack.length + i]? = some (f'.temps.getD (s'.stack.length + i) qnil) := by
  obtain ⟨_, _, ⟨⟩, e₁⟩ := GenM.bind_ok e
  obtain ⟨_, s₁, e₂, e₃⟩ := GenM.bind_ok e₁
  obtain ⟨hkl, hlen₁, htemp⟩ := putOnStack_temps e₂
  obtain ⟨f₁, hS₁, -⟩ := ((steady_putOnStack k).relates _ _ _ e₂).sim sf f h
  have e₃' : popSlots k s₁ = .ok () s' := by
    have : popSlots (s₁.stack.length - (s.stack.length - k)) s₁ = .ok () s' := e₃
    rwa [hlen₁, Nat.sub_sub_self hkl] at this
  obtain ⟨ha, hrtl⟩ := hS₁.toAgrees.popSlots _ e₃'
  have hlen : s'.stack.length = s.stack.length - k := by rw [popSlots_length _ e₃', hlen₁]
  have hsf : s.stack.length = sf.stack.length := h.slots.1
  refine ⟨by omega, f₁, hS₁.of_agrees hrtl (by rwa [hlen, hsf]), fun i hi => ?_⟩
  rw [hlen]
  exact hS₁.slots.temp (htemp i hi)

theorem sim_generateCall (h : Sim oracle F0 T n s sf f) {ci : CallInfo} (hbl : ci.argsBlockarg = false)
    (e : generateCall ci 0 s = .ok () s') (hT : s'.maxStackDepth ≤ T) {q : Nat} {sf' : StackFrame}
    (hcall : sf.call oracle q ci 0 = some sf') (hloc : ∀ c : ExtCall, c.ci = ci → (oracle c sf.locals).2 = sf.locals) :
    ∃ f', Sim oracle F0 T n s' sf' f' := by
  have hk : ci.argsNum = ci.origArgc := by simp [CallInfo.argsNum, hbl]
  unfold StackFrame.call at hcall
  dsimp only at hcall
  split at hcall
  · cases hcall
  rename_i hn
  cases hcall
  rw [hloc _ rfl]
  dsimp only [generateCall] at e
  obtain ⟨_, s₁, e₁, e₂⟩ := GenM.bind_ok e
  obtain ⟨slot, s₂, e₃, e₄⟩ := GenM.bind_ok e₂
  obtain ⟨cs, s₃, e₅, e₆⟩ := GenM.bind_ok e₄
  -- the arguments, then the receiver below them; `get_cd` only records the call site
  obtain ⟨hlen₁, f₁, hS₁, hargs⟩ := h.putArgsOnStack e₁
  obtain ⟨v, hv, hslot, ha₂⟩ := hS₁.toAgrees.pop e₃
  obtain ⟨-, hs₂⟩ := popStackSlot_ok e₃
  simp only [getCd, GenM.bind_run, freeTemp_run, Var.get_ok, Var.set_ok, GenM.pure_run,
    EStateM.Result.ok.injEq] at e₅
  obtain ⟨rfl, hs₃⟩ := e₅
  have hst₃ : s₃.stack.length + 1 = s₁.stack.length := by
    rw [← hs₃, hs₂, List.length_dropLast]
    omega
  have hS₃ : Sim oracle F0 T n s₃ { sf with stack := sf.stack.take s₃.stack.length } f₁ := by
    refine hS₁.of_agrees (by rw [← hs₃, hs₂]) (ha₂.of_state (by rw [← hs₃]) (by rw [← hs₃]) (by rw [← hs₃]) |>.frames
      rfl rfl rfl ?_)
    rw [List.dropLast_eq_take, List.take_take, List.length_take]
    exact congrArg (List.take · sf.stack) (by omega)
  have hm : s₃.stack.length + 1 + ci.origArgc = sf.stack.length := by omega
  have hargs' : ∀ i < ci.origArgc, sf.stack[s₃.stack.length + 1 + i]? =
      some (f₁.temps.getD (s₃.stack.length + 1 + i) qnil) := fun i hi => by
    rw [hst₃]; exact hargs i (hk ▸ hi)
  have hrecv : v = sf.stack.getD s₃.stack.length qnil := by
    dsimp only at hv
    rw [List.getLast?_eq_getElem?, List.length_take, List.getElem?_take_of_lt (by omega),
      show min s₁.stack.length sf.stack.length - 1 = s₃.stack.length by omega] at hv
    simp [List.getD_eq_getElem?_getD, hv]
  rw [show sf.stack.length - ci.origArgc - 1 = s₃.stack.length by omega,
    show sf.stack.length - ci.origArgc = s₃.stack.length + 1 by omega]
  rw [show s₂.stack.length = s₃.stack.length by rw [← hs₃]] at e₆ hslot
  rcases slot with ⟨_ | _ | w | _ | l | _, p⟩
  case any => simp [slotValue] at hslot
  case self =>
    dsimp only at e₆
    rw [if_pos (by simp [hbl])] at e₆
    obtain ⟨_, s₅, e₁₀, e₁₁⟩ := GenM.bind_ok e₆
    obtain ⟨_, _, e₁₂, ⟨⟩⟩ := GenM.bind_ok e₁₁
    simp only [slotValue, Option.some.injEq] at hslot
    exact hS₃.call (runsAs_simpleCallSelf ci _) (fun _ _ => rfl) e₁₀ e₁₂ hT hm.symm hargs' (hslot.trans hrecv)
      (hloc _ rfl) q
  case loc =>
    dsimp only at e₆
    rw [if_pos (by simp [hbl])] at e₆
    obtain ⟨_, s₅, e₁₀, e₁₁⟩ := GenM.bind_ok e₆
    obtain ⟨_, _, e₁₂, ⟨⟩⟩ := GenM.bind_ok e₁₁
    simp only [slotValue, Option.some.injEq] at hslot
    exact hS₃.call (runsAs_simpleCallRecv ci _ _) (fun _ _ => rfl) e₁₀ e₁₂ hT hm.symm hargs'
      ((RtlFrame.getVar_local _ _).trans (hslot.trans hrecv)) (hloc _ rfl) q
  case str => simp [slotValue] at hslot
  case val | temp =>
    dsimp only at e₆
    obtain ⟨_, s₄', e₁₃, e₁₄⟩ := GenM.bind_ok e₆
    rw [if_pos (by simp [hbl])] at e₁₄
    obtain ⟨_, s₅, e₁₀, e₁₁⟩ := GenM.bind_ok e₁₄
    obtain ⟨_, _, e₁₂, ⟨⟩⟩ := GenM.bind_ok e₁₁
    have hlt : s₃.stack.length < f₁.temps.length := by
      rw [hS₁.temps]; have := h.depth; have := h.bound; have := h.slots.1; omega
    obtain ⟨ws, U, hrtl, hmax, hrun, hU⟩ := toTemp_runs hslot hlt e₁₃
    obtain ⟨-, hst₄, hc₄⟩ := toTemp_ok e₁₃
    have hnone : ∀ slot, s₃.stack[s₃.stack.length]? = some slot → slot.mode ≠ .temp := by simp
    have hS₄ := hS₃.emit hrun hrtl (hU ▸ (hS₃.toAgrees.setTemp hnone v).of_state hst₄ hmax hc₄)
    have hl₄ : s₄'.stack.length = s₃.stack.length := congrArg List.length hst₄
    rw [← hl₄] at e₁₀ hargs' hm hrecv hS₄ ⊢
    refine hS₄.call (runsAs_simpleCall ci _) (fun _ _ => rfl) e₁₀ e₁₂ hT hm.symm (fun i hi => ?_) ?_ (hloc _ rfl) q
    · rw [hargs' i hi, hU]
      simp [List.getD_eq_getElem?_getD, List.getElem?_set_ne (show s₃.stack.length ≠ s₄'.stack.length + 1 + i by omega)]
    · dsimp only
      rw [hU, RtlFrame.getVar_topTemp, ← hrecv, hl₄]
      simp [List.getD_eq_getElem?_getD, List.getElem?_set_self hlt]

end Calls
end RtlMjit
