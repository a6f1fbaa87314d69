import RtlMjit.Gen.Semantics
import RtlMjit.Gen.Grows

/-!
# Straight-line code: the RTL computes what the stack code computes

`rtl_gen` keeps an emulated stack of slots while it translates, and a slot says where the value the VM stack
holds at that index is found once the RTL has run: in a local (`LOC`), as a constant (`VAL`), as `self`, or in
the slot's own temporary (`TEMP`).  We prove that the description is right for the straight-line code over the
frame's own locals: `getlocal`, `setlocal`, `putself`, `putnil`, `putobject`, `pop`, `dup`, `leave` and `nop`.
A run of the stack code that returns a value is matched by a run of the RTL that `rtl_gen` emits for it, which
returns the same value.

* `Describes F slots vals`: the slots give the values `vals` in the RTL frame `F`.
* `Sim`: the state of the generator after the RTL emitted so far has run from the start to `F`; every step of
  the translation keeps it, with the values of the stack machine.
* `rtlGen_straight_simulates`: the whole generator, both passes and the relocation, on any iseq of straight-line
  code whose assigned locals have entries in `loc_stack_count`.
-/

namespace RtlMjit

/-! ### Runs as relations -/

/-- An RTL instruction that does not return takes `f` to `f'`. -/
def RtlVM.StepTo (oracle : Oracle) (rtl : List Word) (f f' : RtlFrame) : Prop :=
  RtlVM.step oracle rtl f = some (.inl f')

/-- A stack instruction that does not return takes `f` to `f'`. -/
def StackVM.StepTo (oracle : Oracle) (code : List Insn) (f f' : StackFrame) : Prop :=
  StackVM.step oracle code f = some (.inl f')

section Runs

variable {oracle : Oracle}

/-- RTL steps to a frame that returns `v` make a run that returns `v` with the calls of that frame. -/
private theorem RtlVM.run_of_steps {rtl : List Word} {f f' : RtlFrame}
    (h : Relation.ReflTransGen (RtlVM.StepTo oracle rtl) f f') {v : Value}
    (hv : RtlVM.step oracle rtl f' = some (.inr v)) : ∃ m, RtlVM.run oracle rtl m f = some (v, f'.trace) := by
  induction h using Relation.ReflTransGen.head_induction_on with
  | refl => exact ⟨1, by simp [RtlVM.run, hv]⟩
  | head hstep _ ih =>
    obtain ⟨m, hm⟩ := ih
    refine ⟨m + 1, ?_⟩
    rw [RtlVM.run, show RtlVM.step oracle rtl _ = _ from hstep]
    exact hm

/-- A run of the stack machine that returns goes by steps to the frame it returns from. -/
private theorem StackVM.steps_of_run {code : List Insn} :
    ∀ {n : Nat} {f : StackFrame} {r : Value × List ExtCall}, StackVM.run oracle code n f = some r →
      ∃ f', Relation.ReflTransGen (StackVM.StepTo oracle code) f f' ∧
        StackVM.step oracle code f' = some (.inr r.1) ∧ r.2 = f'.trace
  | 0, _, _, h => by simp [StackVM.run] at h
  | n + 1, f, r, h => by
    rw [StackVM.run] at h
    split at h
    · obtain ⟨f', h1, h2, h3⟩ := StackVM.steps_of_run h
      exact ⟨f', .head ‹_› h1, h2, h3⟩
    · cases h
      exact ⟨f, .refl, ‹_›, rfl⟩
    · cases h

/-- The stack machine is deterministic: a frame on the way of a run that returns `r` does not get stuck, and if
it returns, it returns `r`. -/
theorem StackVM.run_determined {code : List Insn} {f f' : StackFrame}
    (h : Relation.ReflTransGen (StackVM.StepTo oracle code) f f') :
    ∀ {n : Nat} {r : Value × List ExtCall}, StackVM.run oracle code n f = some r →
      StackVM.step oracle code f' ≠ none ∧
        ∀ v, StackVM.step oracle code f' = some (.inr v) → r = (v, f'.trace) := by
  induction h using Relation.ReflTransGen.head_induction_on with
  | refl =>
    intro n r hr
    obtain ⟨g, hg, hret, htr⟩ := StackVM.steps_of_run hr
    cases hg using Relation.ReflTransGen.head_induction_on with
    | refl => exact ⟨by simp [hret], fun v hv => by rw [hret] at hv; cases hv; exact Prod.ext rfl htr⟩
    | head hstep _ => exact ⟨by simp [show StackVM.step oracle code _ = _ from hstep],
        fun v hv => by rw [show StackVM.step oracle code _ = _ from hstep] at hv; cases hv⟩
  | head hstep _ ih =>
    intro n r hr
    cases n with
    | zero => simp [StackVM.run] at hr
    | succ n =>
      rw [StackVM.run, show StackVM.step oracle code _ = _ from hstep] at hr
      exact ih hr

end Runs

/-! ### Positions of straight-line code -/

/-- No instruction starts at or after the end of the code. -/
theorem fetch_of_size_le : ∀ {code : List Insn} {pos : Nat}, iseqSize code ≤ pos → fetch code pos = none
  | [], _, _ => rfl
  | i :: rest, pos, h => by
    have hlen := Insn.insnLen_pos i
    simp only [iseqSize, List.map_cons, List.sum_cons] at h
    unfold fetch
    rw [if_neg (by omega), if_neg (by omega)]
    exact fetch_of_size_le (by simp only [iseqSize]; omega)

/-! ### Variables of the RTL frame -/

namespace RtlFrame

private theorem neg_topTemp (i : Nat) : -topTemp i - 1 = i := by simp [topTemp]

@[simp] theorem getVar_topTemp (f : RtlFrame) (i : Nat) : f.getVar (topTemp i) = f.temps.getD i qnil := by
  rw [getVar, if_pos (by simp [topTemp]; omega), neg_topTemp, Int.toNat_ofNat]

@[simp] theorem getVar_local (f : RtlFrame) (l : Nat) : f.getVar l = f.locals.getD l qnil := by
  rw [getVar, if_neg (by omega), Int.toNat_ofNat]

@[simp] theorem setVar_topTemp (f : RtlFrame) (i : Nat) (v : Value) :
    f.setVar (topTemp i) v = { f with temps := f.temps.set i v } := by
  rw [setVar, if_pos (by simp [topTemp]; omega), neg_topTemp, Int.toNat_ofNat]

@[simp] private theorem setVar_local (f : RtlFrame) (l : Nat) (v : Value) :
    f.setVar l v = { f with locals := f.locals.set l v } := by
  rw [setVar, if_neg (by omega), Int.toNat_ofNat]

end RtlFrame

/-! ### What the slots stand for -/

/-- The value a slot at stack index `i` stands for in the RTL frame `f`: `LOC l` the local, `VAL v` the
constant, `SELF` the frame's `self`, `TEMP` its temporary `-i-1`.  A string slot and an `ANY` slot stand for
no value. -/
def slotValue (f : RtlFrame) (i : Nat) : SlotMode → Option Value
  | .loc l => some (f.locals.getD l qnil)
  | .val v => some v
  | .self => some f.self
  | .temp => some (f.temps.getD i qnil)
  | .any | .str _ => none

/-- The slots stand for the values `vals`, index by index. -/
def Describes (f : RtlFrame) (slots : List StackSlot) (vals : List Value) : Prop :=
  slots.length = vals.length ∧ ∀ i slot, slots[i]? = some slot → slotValue f i slot.mode = vals[i]?

section Describes

variable {f f' : RtlFrame} {slots : List StackSlot} {vals : List Value}

@[simp] private theorem slotValue_pc (f : RtlFrame) (pc i : Nat) (m : SlotMode) :
    slotValue { f with pc } i m = slotValue f i m := by
  cases m <;> rfl

theorem describes_nil (f : RtlFrame) : Describes f [] [] := ⟨rfl, fun _ _ h => by simp at h⟩

/-- One slot more on top stands for one value more. -/
private theorem describes_append {slot : StackSlot} {v : Value} (hlen : slots.length = vals.length) :
    Describes f (slots ++ [slot]) (vals ++ [v]) ↔
      Describes f slots vals ∧ slotValue f slots.length slot.mode = some v := by
  constructor
  · rintro ⟨-, h⟩
    refine ⟨⟨hlen, fun i sl hi => ?_⟩, ?_⟩
    · have hlt : i < slots.length := (List.getElem?_eq_some_iff.mp hi).1
      have := h i sl (by rw [List.getElem?_append_left hlt]; exact hi)
      rwa [List.getElem?_append_left (hlen ▸ hlt)] at this
    · have := h slots.length slot (by simp)
      rwa [show (vals ++ [v])[slots.length]? = some v by rw [hlen]; simp] at this
  · rintro ⟨⟨-, h⟩, hv⟩
    refine ⟨by simp [hlen], fun i sl hi => ?_⟩
    rcases Nat.lt_or_ge i slots.length with hlt | hge
    · rw [List.getElem?_append_left hlt] at hi
      rw [List.getElem?_append_left (hlen ▸ hlt)]
      exact h i sl hi
    · have hi' := (List.getElem?_eq_some_iff.mp hi).1
      simp only [List.length_append, List.length_singleton] at hi'
      obtain rfl : i = slots.length := by omega
      simp only [List.getElem?_concat_length, Option.some.injEq] at hi
      rw [hlen, List.getElem?_concat_length, ← hi, ← hlen]
      exact hv

private theorem set_getD_self {l : List Value} {i : Nat} (hi : i < l.length) : l.set i (l.getD i qnil) = l :=
  List.ext_getElem (by simp) fun j _ _ => by
    by_cases hij : i = j
    · subst hij; simp [List.getD_eq_getElem?_getD, List.getElem?_eq_getElem hi]
    · simp [List.getElem_set, hij]

/-- A frame that gives every slot the same value. -/
theorem Describes.congr (h : Describes f slots vals)
    (hf : ∀ i slot, slots[i]? = some slot → slotValue f' i slot.mode = slotValue f i slot.mode) :
    Describes f' slots vals :=
  ⟨h.1, fun i slot hi => (hf i slot hi).trans (h.2 i slot hi)⟩

/-- A write to a temporary that no slot reads changes no slot's value. -/
theorem Describes.setTemp (h : Describes f slots vals) {j : Nat}
    (hj : ∀ slot, slots[j]? = some slot → slot.mode ≠ .temp) (v : Value) :
    Describes { f with temps := f.temps.set j v } slots vals := by
  refine h.congr fun i slot hi => ?_
  by_cases hij : j = i
  · subst hij
    have hm := hj slot hi
    cases hmode : slot.mode <;> simp_all [slotValue]
  · cases slot.mode <;> simp [slotValue, List.getD_eq_getElem?_getD, List.getElem?_set_ne hij]

/-- A write to a local that no slot reads changes no slot's value. -/
theorem Describes.setLocal (h : Describes f slots vals) {l : Nat} (hl : ∀ slot ∈ slots, slot.mode ≠ .loc l)
    (v : Value) : Describes { f with locals := f.locals.set l v } slots vals := by
  refine h.congr fun i slot hi => ?_
  have hne := hl slot (List.mem_iff_getElem?.mpr ⟨i, hi⟩)
  rcases slot with ⟨_ | _ | _ | _ | l' | _, p⟩ <;> try rfl
  have hll : l ≠ l' := fun e => hne (e ▸ rfl)
  simp [slotValue, List.getD_eq_getElem?_getD, List.getElem?_set_ne hll]

/-- Slot `i` turned into a temporary that holds the slot's value. -/
private theorem Describes.toTemp (h : Describes f slots vals) {i : Nat} {slot : StackSlot} (hi : slots[i]? = some slot)
    {v : Value} (hv : slotValue f i slot.mode = some v) (htemp : i < f.temps.length) (p : Nat) :
    Describes { f with temps := f.temps.set i v } (slots.set i ⟨.temp, p⟩) vals := by
  refine ⟨by simp [h.1], fun j sl hj => ?_⟩
  by_cases hij : i = j
  · subst hij
    have hlt := (List.getElem?_eq_some_iff.mp hi).1
    simp only [List.getElem?_set_self hlt, Option.some.injEq] at hj
    subst hj
    rw [← h.2 i slot hi, hv]
    simp [slotValue, List.getD_eq_getElem?_getD, List.getElem?_set_self htemp]
  · rw [List.getElem?_set_ne hij] at hj
    rw [← h.2 j sl hj]
    cases sl.mode <;> simp [slotValue, List.getD_eq_getElem?_getD, List.getElem?_set_ne hij]

end Describes

/-! ### RTL blocks -/

section Blocks

variable {oracle : Oracle}

theorem getD_block (pre ws more : List Word) {k : Nat} (hk : k < ws.length) :
    (pre ++ ws ++ more).getD (pre.length + k) (.num 0) = ws.getD k (.num 0) := by
  rw [List.append_assoc]
  simp [List.getD_eq_getElem?_getD, List.getElem?_append_right, List.getElem?_append_left hk]

/-- The block `blk`, run from a frame at its start wherever it stands in the RTL, changes the frame by `U` and
goes on after it. -/
def RunsAs (oracle : Oracle) (blk : List Word) (U : RtlFrame → RtlFrame) : Prop :=
  ∀ g pre more, g.pc = pre.length → RtlVM.StepTo oracle (pre ++ blk ++ more) g { U g with pc := g.pc + blk.length }

/-- `U` does not read or write the program counter. -/
def PcFree (U : RtlFrame → RtlFrame) : Prop := ∀ g (q : Nat), U { g with pc := q } = { U g with pc := q }

private theorem runsAs_nop : RunsAs oracle [.insn (.basic .nop)] id := by
  intro g pre more hpc
  have h0 := getD_block pre [.insn (.basic .nop)] more (k := 0) (by simp)
  unfold RtlVM.StepTo RtlVM.step
  rw [hpc, ← Nat.add_zero pre.length, h0]
  rfl

/-- `loc2temp`, `temp2loc`, `loc2loc` and `temp2temp` set variable `r` to variable `o`. -/
theorem runsAs_move {b : BasicInsn} (hb : b = .loc2temp ∨ b = .temp2loc ∨ b = .loc2loc ∨ b = .temp2temp)
    (r o : Int) : RunsAs oracle [.insn (.basic b), .num r, .num o] fun g => g.setVar r (g.getVar o) := by
  intro g pre more hpc
  have h0 := getD_block pre [.insn (.basic b), .num r, .num o] more (k := 0) (by simp)
  have h1 := getD_block pre [.insn (.basic b), .num r, .num o] more (k := 1) (by simp)
  have h2 := getD_block pre [.insn (.basic b), .num r, .num o] more (k := 2) (by simp)
  unfold RtlVM.StepTo RtlVM.step
  rw [hpc, ← Nat.add_zero pre.length, h0]
  dsimp only
  rw [Nat.add_zero, h1, h2]
  rcases hb with rfl | rfl | rfl | rfl <;> rfl

/-- `val2temp` and `val2loc` set variable `r` to the constant `v`. -/
theorem runsAs_moveVal {b : BasicInsn} (hb : b = .val2temp ∨ b = .val2loc) (r : Int) (v : Value) :
    RunsAs oracle [.insn (.basic b), .num r, .val v] fun g => g.setVar r v := by
  intro g pre more hpc
  have h0 := getD_block pre [.insn (.basic b), .num r, .val v] more (k := 0) (by simp)
  have h1 := getD_block pre [.insn (.basic b), .num r, .val v] more (k := 1) (by simp)
  have h2 := getD_block pre [.insn (.basic b), .num r, .val v] more (k := 2) (by simp)
  unfold RtlVM.StepTo RtlVM.step
  rw [hpc, ← Nat.add_zero pre.length, h0]
  dsimp only
  rw [Nat.add_zero, h1, h2]
  rcases hb with rfl | rfl <;> rfl

/-- `self2var` sets variable `r` to `self`. -/
theorem runsAs_self2var (r : Int) : RunsAs oracle [.insn (.basic .self2var), .num r] fun g => g.setVar r g.self := by
  intro g pre more hpc
  have h0 := getD_block pre [.insn (.basic .self2var), .num r] more (k := 0) (by simp)
  have h1 := getD_block pre [.insn (.basic .self2var), .num r] more (k := 1) (by simp)
  unfold RtlVM.StepTo RtlVM.step
  rw [hpc, ← Nat.add_zero pre.length, h0]
  dsimp only
  rw [Nat.add_zero, h1]
  rfl

/-- `loc_ret` and `temp_ret` return variable `o`. -/
theorem step_ret {b : BasicInsn} (hb : b = .locRet ∨ b = .tempRet) (o : Int) {g : RtlFrame} {pre more : List Word}
    (hpc : g.pc = pre.length) :
    RtlVM.step oracle (pre ++ [.insn (.basic b), .num o] ++ more) g = some (.inr (g.getVar o)) := by
  have h0 := getD_block pre [.insn (.basic b), .num o] more (k := 0) (by simp)
  have h1 := getD_block pre [.insn (.basic b), .num o] more (k := 1) (by simp)
  unfold RtlVM.step
  rw [hpc, ← Nat.add_zero pre.length, h0]
  dsimp only
  rw [Nat.add_zero, h1]
  rcases hb with rfl | rfl <;> rfl

/-- `val_ret` returns the constant `v`. -/
theorem step_valRet (v : Value) {g : RtlFrame} {pre more : List Word} (hpc : g.pc = pre.length) :
    RtlVM.step oracle (pre ++ [.insn (.basic .valRet), .val v] ++ more) g = some (.inr v) := by
  have h0 := getD_block pre [.insn (.basic .valRet), .val v] more (k := 0) (by simp)
  have h1 := getD_block pre [.insn (.basic .valRet), .val v] more (k := 1) (by simp)
  unfold RtlVM.step
  rw [hpc, ← Nat.add_zero pre.length, h0]
  dsimp only
  rw [Nat.add_zero, h1]
  rfl

theorem pcFree_setVar (r : Int) (val : RtlFrame → Value) (hv : ∀ g (q : Nat), val { g with pc := q } = val g) :
    PcFree fun g => g.setVar r (val g) := by
  intro g q
  dsimp only
  rw [hv]
  unfold RtlFrame.setVar
  split <;> rfl

/-- The block `blk`, run from a frame at its start wherever it stands in the RTL, goes in steps to the frame `U`
gives, just after the block. -/
def Runs (oracle : Oracle) (blk : List Word) (U : RtlFrame → RtlFrame) : Prop :=
  ∀ g pre more, g.pc = pre.length →
    Relation.ReflTransGen (RtlVM.StepTo oracle (pre ++ blk ++ more)) g { U g with pc := g.pc + blk.length }

private theorem RunsAs.runs {blk : List Word} {U : RtlFrame → RtlFrame} (h : RunsAs oracle blk U) :
    Runs oracle blk U :=
  fun g pre more hpc => .single (h g pre more hpc)

private theorem runs_nil : Runs oracle [] id := fun g _ _ _ => by
  rw [List.length_nil, Nat.add_zero]
  exact .refl

private theorem Runs.append {b₁ b₂ : List Word} {U₁ U₂ : RtlFrame → RtlFrame} (h₁ : Runs oracle b₁ U₁)
    (h₂ : Runs oracle b₂ U₂) (hfree : PcFree U₂) : Runs oracle (b₁ ++ b₂) (U₂ ∘ U₁) := by
  intro g pre more hpc
  have r₁ := h₁ g pre (b₂ ++ more) hpc
  have r₂ := h₂ { U₁ g with pc := g.pc + b₁.length } (pre ++ b₁) more (by simp [hpc])
  rw [hfree] at r₂
  simp only [List.append_assoc, List.length_append, ← Nat.add_assoc] at r₁ r₂ ⊢
  exact r₁.trans r₂

/-- The words `append_vals` adds run as the instruction does, after the `nop` it may put in front. -/
theorem RunsAs.appended {insn : RtlInsn} {ops : List Word} {U : RtlFrame → RtlFrame}
    (h : RunsAs oracle (.insn insn :: ops) U) (hfree : PcFree U) (s : GenState) :
    Runs oracle (appendedWords s insn ops) U := by
  unfold appendedWords
  split
  · exact runsAs_nop.runs.append h.runs hfree
  · exact h.runs

private theorem pcFree_id : PcFree id := fun _ _ => rfl

end Blocks

/-! ### The simulation -/

section Agrees

variable (T n : Nat)

/-- The stack machine's frame `sf` and the RTL frame `f` agree on what the generator's state `s` says: the slots
give `sf`'s stack, the locals, `self` and the calls made are the same, the `T` temporaries are enough for the
deepest stack so far, and `loc_stack_count` is right for the `n` locals. -/
structure Agrees (s : GenState) (sf : StackFrame) (f : RtlFrame) : Prop where
  locals : f.locals = sf.locals
  self : f.self = sf.self
  trace : f.trace = sf.trace
  temps : f.temps.length = T
  depth : s.stack.length ≤ s.maxStackDepth
  bound : s.maxStackDepth ≤ T
  counts : CountsBelow n s
  slots : Describes f s.stack sf.stack

variable {T n} {s s' : GenState} {sf sf' : StackFrame} {f : RtlFrame}

/-- The stack machine's program counter does not matter. -/
theorem Agrees.frames (h : Agrees T n s sf f) (hl : sf'.locals = sf.locals) (hs : sf'.self = sf.self)
    (ht : sf'.trace = sf.trace) (hst : sf'.stack = sf.stack) : Agrees T n s sf' f :=
  { h with locals := h.locals.trans hl.symm, self := h.self.trans hs.symm, trace := h.trace.trans ht.symm,
           slots := hst ▸ h.slots }

/-- Nor does the RTL machine's. -/
theorem Agrees.pc (h : Agrees T n s sf f) (q : Nat) : Agrees T n s sf { f with pc := q } :=
  { h with slots := h.slots.congr fun _ _ _ => slotValue_pc .. }

/-- A state with the same stack, depth and counts. -/
theorem Agrees.of_state (h : Agrees T n s sf f) (hst : s'.stack = s.stack) (hmax : s'.maxStackDepth = s.maxStackDepth)
    (hc : s'.locStackCount = s.locStackCount) : Agrees T n s' sf f where
  locals := h.locals
  self := h.self
  trace := h.trace
  temps := h.temps
  depth := hst ▸ hmax ▸ h.depth
  bound := hmax ▸ h.bound
  counts := by unfold CountsBelow; rw [hst, hc]; exact h.counts
  slots := hst ▸ h.slots

/-- A write to a temporary that no slot reads. -/
theorem Agrees.setTemp (h : Agrees T n s sf f) {j : Nat}
    (hj : ∀ slot, s.stack[j]? = some slot → slot.mode ≠ .temp) (v : Value) :
    Agrees T n s sf { f with temps := f.temps.set j v } :=
  { h with temps := by simp [h.temps], slots := h.slots.setTemp hj v }

/-- A write to a local that no slot reads, on both frames. -/
theorem Agrees.setLocal (h : Agrees T n s sf f) {l : Nat} (hl : ∀ slot ∈ s.stack, slot.mode ≠ .loc l) (v : Value) :
    Agrees T n s { sf with locals := sf.locals.set l v } { f with locals := f.locals.set l v } :=
  { h with locals := by rw [h.locals], slots := h.slots.setLocal hl v }

/-- Pushing a slot that stands for `v`. -/
theorem Agrees.push (h : Agrees T n s sf f) {slot : StackSlot} {v : Value}
    (hv : slotValue f s.stack.length slot.mode = some v) (hT : s.stack.length + 1 ≤ T) (q : Nat) :
    Agrees T n
      { s with
        stack := s.stack ++ [slot], locStackCount := assignCount slot s.locStackCount,
        maxStackDepth := max s.maxStackDepth (s.stack.length + 1) } (sf.push q v) f where
  locals := h.locals
  self := h.self
  trace := h.trace
  temps := h.temps
  depth := by simp
  bound := max_le h.bound hT
  counts := (keeps_pushStackSlot slot).keeps h.counts (pushStackSlot_run slot)
  slots := (describes_append h.slots.1).mpr ⟨h.slots, hv⟩

/-- Popping a slot: it stood for the value on top of the stack. -/
theorem Agrees.pop (h : Agrees T n s sf f) {slot : StackSlot} (e : popStackSlot s = .ok slot s') :
    ∃ v, sf.stack.getLast? = some v ∧ slotValue f s'.stack.length slot.mode = some v ∧
      Agrees T n s' { sf with stack := sf.stack.dropLast } f := by
  have hc := keeps_popStackSlot.keeps h.counts e
  obtain ⟨hst, rfl⟩ := popStackSlot_ok e
  have hd := h.slots
  rw [hst] at hd
  obtain ⟨vs, v, hvs⟩ : ∃ vs v, sf.stack = vs ++ [v] := by
    have := hd.1
    rw [List.length_append, List.length_singleton] at this
    exact ⟨_, _, (List.dropLast_append_getLast (List.ne_nil_of_length_pos (by omega))).symm⟩
  rw [hvs] at hd
  have hlen : s.stack.dropLast.length = vs.length := by simpa using hd.1
  obtain ⟨hd, hv⟩ := (describes_append hlen).mp hd
  refine ⟨v, by simp [hvs], hv, { h with counts := hc, depth := ?_, slots := ?_ }⟩
  · exact (List.length_dropLast _).trans_le ((Nat.sub_le _ _).trans h.depth)
  · simpa [hvs] using hd

end Agrees

section Sim

variable (oracle : Oracle) (F0 : RtlFrame) (T n : Nat)

/-- The generator's state `s` after the RTL emitted since `F0`'s position has run from `F0` to `f`, whatever RTL
stands before and after it, with `f` in agreement with the stack machine's frame `sf`. -/
structure Sim (s : GenState) (sf : StackFrame) (f : RtlFrame) extends Agrees T n s sf f : Prop where
  base : F0.pc ≤ s.iseqRtl.length
  reach : ∀ pre more, pre.length = F0.pc →
    Relation.ReflTransGen (RtlVM.StepTo oracle (pre ++ s.iseqRtl.drop F0.pc ++ more)) F0 f
  pc : f.pc = s.iseqRtl.length

/-- After emitting the RTL of a return: every run of the RTL emitted since `F0`'s position, from `F0`, returns `v`
with the calls of `sf`. -/
def Returns (s : GenState) (v : Value) (sf : StackFrame) : Prop :=
  F0.pc ≤ s.iseqRtl.length ∧ ∀ pre more, pre.length = F0.pc →
    ∃ m, RtlVM.run oracle (pre ++ s.iseqRtl.drop F0.pc ++ more) m F0 = some (v, sf.trace)

variable {oracle F0 T n} {s s' : GenState} {sf sf' : StackFrame} {f : RtlFrame}

/-- A frame at the end of the RTL emitted so far simulates itself. -/
private theorem Sim.here (ha : Agrees T n s sf f) (hpc : f.pc = s.iseqRtl.length) : Sim oracle f T n s sf f :=
  { ha with base := hpc.le, reach := fun _ _ _ => .refl, pc := hpc }

/-- A step of the generator that emits no RTL. -/
theorem Sim.of_agrees (h : Sim oracle F0 T n s sf f) (hrtl : s'.iseqRtl = s.iseqRtl) (ha : Agrees T n s' sf' f) :
    Sim oracle F0 T n s' sf' f :=
  { ha with base := hrtl ▸ h.base, reach := hrtl ▸ h.reach, pc := hrtl ▸ h.pc }

/-- The RTL emitted since `F0`'s position followed by `ws`, in any surrounding code. -/
private theorem Sim.code_append (h : Sim oracle F0 T n s sf f) (ws pre more : List Word) :
    pre ++ (s.iseqRtl ++ ws).drop F0.pc ++ more = pre ++ s.iseqRtl.drop F0.pc ++ (ws ++ more) := by
  rw [List.drop_append_of_le_length h.base, List.append_assoc, List.append_assoc, List.append_assoc]

private theorem Sim.pc_pre (h : Sim oracle F0 T n s sf f) {pre : List Word} (hpre : pre.length = F0.pc) :
    f.pc = (pre ++ s.iseqRtl.drop F0.pc).length := by
  rw [List.length_append, List.length_drop, hpre, h.pc]
  have := h.base
  omega

/-- A step of the generator that emits a block running as `U`. -/
theorem Sim.emit (h : Sim oracle F0 T n s sf f) {ws : List Word} {U : RtlFrame → RtlFrame} (hrun : Runs oracle ws U)
    (hrtl : s'.iseqRtl = s.iseqRtl ++ ws) (ha : Agrees T n s' sf' (U f)) :
    Sim oracle F0 T n s' sf' { U f with pc := s'.iseqRtl.length } where
  toAgrees := ha.pc _
  base := by rw [hrtl, List.length_append]; exact le_add_right h.base
  reach pre more hpre := by
    have r := hrun f (pre ++ s.iseqRtl.drop F0.pc) more (h.pc_pre hpre)
    rw [h.pc, List.append_assoc (pre ++ _)] at r
    rw [hrtl, h.code_append, List.length_append]
    exact (h.reach pre (ws ++ more) hpre).trans r
  pc := rfl

/-- `append_vals` of a block that runs as `U`. -/
theorem Sim.appendBlock (h : Sim oracle F0 T n s sf f) {insn : RtlInsn} {ops : List Word} {U : RtlFrame → RtlFrame}
    (hU : RunsAs oracle (.insn insn :: ops) U) (hfree : PcFree U) (e : appendVals insn ops s = .ok () s')
    (ha : Agrees T n s sf' (U f)) : Sim oracle F0 T n s' sf' { U f with pc := s'.iseqRtl.length } := by
  rw [appendVals_run] at e
  cases e
  exact h.emit (hU.appended hfree s) rfl (ha.of_state rfl rfl rfl)

/-- `append_vals` of an instruction that returns `v`. -/
theorem Sim.returns (h : Sim oracle F0 T n s sf f) {insn : RtlInsn} {ops : List Word} {v : Value}
    (hret : ∀ (q : Nat) pre more, q = pre.length →
      RtlVM.step oracle (pre ++ .insn insn :: ops ++ more) { f with pc := q } = some (.inr v))
    (e : appendVals insn ops s = .ok () s') : Returns oracle F0 s' v sf := by
  rw [appendVals_run] at e
  cases e
  refine ⟨h.base.trans (by rw [List.length_append]; exact Nat.le_add_right _ _), fun pre more hpre => ?_⟩
  rw [← h.trace, h.code_append]
  unfold appendedWords
  split
  · have r := @runsAs_nop oracle f (pre ++ s.iseqRtl.drop F0.pc) (.insn insn :: ops ++ more) (h.pc_pre hpre)
    have r₀ := h.reach pre ([.insn (.basic .nop)] ++ .insn insn :: ops ++ more) hpre
    simp only [List.append_assoc] at r r₀ ⊢
    refine RtlVM.run_of_steps (r₀.tail r) ?_
    have := hret (f.pc + 1) (pre ++ s.iseqRtl.drop F0.pc ++ [.insn (.basic .nop)]) more
      (by simp only [h.pc_pre hpre, List.length_append, List.length_singleton])
    simpa only [List.append_assoc] using this
  · have := hret f.pc (pre ++ s.iseqRtl.drop F0.pc) more (h.pc_pre hpre)
    have r₀ := h.reach pre (.insn insn :: ops ++ more) hpre
    simp only [List.nil_append, List.append_assoc] at this r₀ ⊢
    exact RtlVM.run_of_steps r₀ this

end Sim

/-! ### Steps that keep the values of the stack -/

section Steady

variable (oracle : Oracle) (F0 : RtlFrame) (T n : Nat)

/-- `s'` simulates every frame that `s` simulates, with a stack as long, and leaves the temporaries above the
stack alone: what the steps do that move values into the slots' temporaries or emit `nop`s. -/
structure Steady (s s' : GenState) : Prop where
  length : s'.stack.length = s.stack.length
  sim : ∀ sf f, Sim oracle F0 T n s sf f →
    ∃ f', Sim oracle F0 T n s' sf f' ∧ ∀ j, s.stack.length ≤ j → f'.temps.getD j qnil = f.temps.getD j qnil

instance : IsPreorder GenState (Steady oracle F0 T n) where
  refl _ := ⟨rfl, fun _ f h => ⟨f, h, fun _ _ => rfl⟩⟩
  trans _ _ _ h₁ h₂ := ⟨h₂.length.trans h₁.length, fun sf f h => by
    obtain ⟨f₁, hs₁, ht₁⟩ := h₁.sim sf f h
    obtain ⟨f₂, hs₂, ht₂⟩ := h₂.sim sf f₁ hs₁
    exact ⟨f₂, hs₂, fun j hj => (ht₂ j (h₁.length ▸ hj)).trans (ht₁ j hj)⟩⟩

variable {oracle F0 T n} {s s' : GenState}

/-- A change of the fields that the simulation does not look at. -/
theorem Steady.of_eq (hst : s'.stack = s.stack) (hrtl : s'.iseqRtl = s.iseqRtl)
    (hmax : s'.maxStackDepth = s.maxStackDepth) (hc : s'.locStackCount = s.locStackCount) :
    Steady oracle F0 T n s s' :=
  ⟨by rw [hst], fun _ f h => ⟨f, h.of_agrees hrtl (h.toAgrees.of_state hst hmax hc), fun _ _ => rfl⟩⟩

theorem steady_appendNop : Relates (Steady oracle F0 T n) (appendBasic .nop []) := by
  constructor
  intro s _ s' e
  have e' := e
  rw [appendBasic, appendVals_run] at e'
  cases e'
  exact ⟨rfl, fun _ f h => ⟨_, h.appendBlock runsAs_nop pcFree_id e h.toAgrees, fun _ _ => rfl⟩⟩

/-- What `to_temp` emits for a slot that stands for `v`: a block that writes `v` into temporary `i`. -/
theorem toTemp_runs {slot slot' : StackSlot} {i : Nat} {stackP : Bool} {s₁ : GenState} {f : RtlFrame} {v : Value}
    (hv : slotValue f i slot.mode = some v) (hi : i < f.temps.length)
    (e : toTemp slot (topTemp i) stackP s = .ok slot' s₁) :
    ∃ ws U, s₁.iseqRtl = s.iseqRtl ++ ws ∧ s₁.maxStackDepth = s.maxStackDepth ∧ Runs oracle ws U ∧
      U f = { f with temps := f.temps.set i v } := by
  rcases slot with ⟨_ | _ | w | _ | l | _, p⟩
  case any | str => simp [slotValue] at hv
  all_goals simp only [slotValue, Option.some.injEq] at hv; subst hv
  case self =>
    simp only [toTemp, appendBasic, GenM.bind_run, appendVals_run, GenM.pure_run] at e
    cases e
    exact ⟨_, _, rfl, rfl, (runsAs_self2var _).appended (pcFree_setVar _ _ fun _ _ => rfl) s, by simp⟩
  case val =>
    simp only [toTemp, appendBasic, GenM.bind_run, appendVals_run, GenM.pure_run] at e
    cases e
    exact ⟨_, _, rfl, rfl, (runsAs_moveVal (.inl rfl) _ _).appended (pcFree_setVar _ _ fun _ _ => rfl) s, by simp⟩
  case loc =>
    obtain ⟨-, -, -⟩ := toTemp_ok e
    simp only [toTemp, appendBasic, GenM.bind_run, appendVals_run] at e
    suffices s₁ = { s with iseqRtl := s₁.iseqRtl, locStackCount := s₁.locStackCount } ∧
        s₁.iseqRtl = s.iseqRtl ++ appendedWords s (.basic .loc2temp) [.num (topTemp i), .num l] by
      rw [this.1]
      exact ⟨_, _, this.2, rfl, (runsAs_move (.inl rfl) (topTemp i) l).appended (pcFree_setVar _ _ fun _ _ => rfl) s,
        by simp⟩
    cases stackP
    · cases e; exact ⟨rfl, rfl⟩
    · simp only [if_true, GenM.bind_run] at e
      split at e
      · rename_i e₁; rw [prepareStackSlotRewrite_ok e₁] at e; cases e; exact ⟨rfl, rfl⟩
      · cases e
  case temp =>
    cases e
    refine ⟨[], id, by simp, rfl, runs_nil, ?_⟩
    rw [set_getD_self hi]
    rfl

theorem steady_stackSlotToTemp (i : Nat) : Relates (Steady oracle F0 T n) (stackSlotToTemp i) := by
  constructor
  intro s _ s' e
  have hc := (keeps_stackSlotToTemp i).relates s () s' e
  simp only [stackSlotToTemp, GenM.bind_run, stackSlotAt_run] at e
  split at e
  · rename_i slot' s₁ e₁
    obtain ⟨rfl, hst, -⟩ := toTemp_ok e₁
    simp only [Var.get_ok, Var.set_ok] at e
    cases e
    refine ⟨by simp [hst], fun sf f h => ?_⟩
    by_cases hi : i < s.stack.length
    · have hget : s.stack[i]? = some (s.stack.getD i ⟨.any, 0⟩) := by
        rw [List.getD_eq_getElem?_getD, List.getElem?_eq_getElem hi]; rfl
      obtain ⟨v, hv⟩ : ∃ v, slotValue f i (s.stack.getD i ⟨.any, 0⟩).mode = some v := by
        rw [h.slots.2 i _ hget, List.getElem?_eq_getElem (h.slots.1 ▸ hi)]; exact ⟨_, rfl⟩
      have hiT : i < f.temps.length := h.temps ▸ hi.trans_le (h.depth.trans h.bound)
      obtain ⟨ws, U, hrtl, hmax, hrun, hU⟩ := toTemp_runs hv hiT e₁
      refine ⟨_, h.emit hrun hrtl ?_, fun j hj => ?_⟩
      · rw [hU]
        exact { h.toAgrees with
          temps := by simp [h.temps]
          depth := by simpa [hst, hmax] using h.depth
          bound := hmax ▸ h.bound
          counts := hc n h.counts
          slots := by rw [hst]; exact h.slots.toTemp hget hv hiT _ }
      · simp only [hU, List.getD_eq_getElem?_getD, List.getElem?_set_ne (show i ≠ j by omega)]
    · have hany : s.stack.getD i ⟨.any, 0⟩ = ⟨.any, 0⟩ := by
        simp [List.getD_eq_getElem?_getD, List.getElem?_eq_none_iff.mpr (Nat.le_of_not_lt hi)]
      rw [hany] at e₁
      cases e₁
      refine ⟨f, h.of_agrees rfl (h.toAgrees.of_state ?_ rfl rfl), fun _ _ => rfl⟩
      exact List.set_eq_of_length_le (Nat.le_of_not_lt hi)
  · cases e

theorem steady_prepareLocalAssign (res : Nat) :
    Relates (Steady oracle F0 T n) (prepareLocalAssign res stackSlotToTemp) :=
  relates_prepareLocalAssign steady_stackSlotToTemp res

/-- `tune_stack` on an edge into a label: the slots that the label has in temporaries are moved there. -/
theorem steady_tuneStack (pos : Nat) : Relates (Steady oracle F0 T n) (tuneStack pos false) :=
  relates_tuneStack steady_stackSlotToTemp (fun h : false = true => nomatch h) pos

theorem steady_attachEvent (iseq : Iseq) (pos : Nat) : Relates (Steady oracle F0 T n) (attachEvent iseq pos) :=
  relates_attachEvent (fun _ _ => .of_eq rfl rfl rfl rfl) (fun _ _ => .of_eq rfl rfl rfl rfl) steady_appendNop iseq pos

/-- After `prepare_local_assign res`, no slot reads local `res`. -/
theorem prepareLocalAssign_clears {res : Nat} {action : Nat → GenM Unit} (h : CountsBelow n s') (hres : res < n)
    (e : prepareLocalAssign res action s = .ok () s') : ∀ slot ∈ s'.stack, slot.mode ≠ .loc res := by
  rw [← locStackCount_eq_zero_iff h hres]
  obtain ⟨_, s₁, e₁, e⟩ := GenM.bind_ok e
  rw [genAssert_run] at e₁
  split at e₁ <;> cases e₁
  obtain ⟨_, _, ⟨⟩, e⟩ := GenM.bind_ok e
  split at e
  · cases e; assumption
  · obtain ⟨_, _, ⟨⟩, e⟩ := GenM.bind_ok e
    obtain ⟨_, s₃, -, e⟩ := GenM.bind_ok e
    obtain ⟨_, _, ⟨⟩, e⟩ := GenM.bind_ok e
    rw [genAssert_run] at e
    split at e
    · rename_i hc; cases e; simpa using hc
    · cases e

end Steady

end RtlMjit
