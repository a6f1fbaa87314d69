import RtlMjit.Gen.RtlGen
import RtlMjit.Exec.Index

/-!
# The frame's temporaries

A frame addresses its temporaries from its base pointer `bp` (`RTL_GET_BP`): `get_temp_addr (cfp, ind)` for a
negative `ind` is the cell `bp - ind`, so the temporaries `-1 … -temp_vars_num` are the cells
`bp + 1 … bp + temp_vars_num`, and the default stack pointer that `set_default_sp` sets is the cell after them.
The frame's memory is a function from cells to words.

* `rtlGen_aset_with_stores_at_sp`: for `opt_aset_with` the generator records two temporaries, while the fallback
  of the `indsets` it emits stores three operands from temporary `-1`, the third at the default stack pointer.
* `tempReverseF_spec`: `temp_reverse_f` reverses the `n` cells from `start` and changes no other cell; on the
  operand the generator emits for `reverse n` it reverses the top `n` slots of a stack held in the temporaries.
-/

namespace RtlMjit

/-- A frame's memory: the word in each cell. -/
abbrev Mem := Int → Value

/-- `*a = v`. -/
def Mem.write (m : Mem) (a : Int) (v : Value) : Mem := fun b => if b = a then v else m b

/-- The three assignments of a swap of the cells `a` and `b` through a temporary `t`. -/
def Mem.swap (m : Mem) (a b : Int) : Mem := (m.write a (m b)).write b (m a)

@[simp] private theorem Mem.write_apply (m : Mem) (a b : Int) (v : Value) :
    m.write a v b = if b = a then v else m b := rfl

/-- `get_temp_addr`: the cell of temporary `ind` (negative) in a frame with base pointer `bp`. -/
def getTempAddr (bp ind : Int) : Int := bp - ind

/-- `set_default_sp_0`: the cell after the last temporary. -/
def defaultSp (bp : Int) (tempVarsNum : Nat) : Int := bp + 1 + tempVarsNum

/-- Temporary `-k` is cell `bp + k`. -/
private theorem getTempAddr_neg (bp : Int) (k : Nat) : getTempAddr bp (-(k : Int)) = bp + k := by
  simp [getTempAddr]

/-! ### Calls from the temporaries -/

/-- The memory and the stack pointer of the current frame. -/
structure FrameState where
  mem : Mem
  sp : Int

/-- `sp[0] = v₀; sp[1] = v₁; …` from cell `a`. -/
def Mem.writeFrom (m : Mem) (a : Int) : List Value → Mem
  | [] => m
  | v :: vs => (m.write a v).writeFrom (a + 1) vs

/-- The stores of `op1_call`, `op2_call` and `op3_call` before they call: the operands from
`sp = get_temp_addr (cfp, cd->call_start)` on, and `cfp->sp` past them. -/
def opCall (bp callStart : Int) (ops : List Value) (f : FrameState) : FrameState :=
  { mem := f.mem.writeFrom (getTempAddr bp callStart) ops, sp := getTempAddr bp callStart + ops.length }

/-- `op1_call`. -/
def op1Call (bp callStart : Int) (recv : Value) : FrameState → FrameState := opCall bp callStart [recv]
/-- `op2_call`. -/
def op2Call (bp callStart : Int) (recv op2 : Value) : FrameState → FrameState := opCall bp callStart [recv, op2]
/-- `op3_call`. -/
def op3Call (bp callStart : Int) (recv op2 op3 : Value) : FrameState → FrameState :=
  opCall bp callStart [recv, op2, op3]

/-- The cells `opCall` stores to. -/
def opCallCells (bp callStart : Int) (n : Nat) : List Int :=
  (List.range n).map fun i : Nat => getTempAddr bp callStart + (i : Int)

private theorem Mem.writeFrom_apply (m : Mem) (a b : Int) (vs : List Value) :
    m.writeFrom a vs b = if a ≤ b ∧ b < a + vs.length then vs.getD (b - a).toNat 0 else m b := by
  induction vs generalizing m a with
  | nil => rw [Mem.writeFrom, if_neg (by simp)]
  | cons v vs ih =>
    rw [Mem.writeFrom, ih, Mem.write_apply]
    simp only [List.length_cons, Nat.cast_add, Nat.cast_one]
    rcases lt_trichotomy b a with hb | rfl | hb
    · simp only [show ¬(a + 1 ≤ b ∧ b < a + 1 + vs.length) by omega, show b ≠ a by omega,
        show ¬(a ≤ b ∧ b < a + (vs.length + 1)) by omega, if_false]
    · simp
    · have hk : (b - a).toNat = (b - (a + 1)).toNat + 1 := by omega
      simp only [hk, List.getD_cons_succ, show b ≠ a by omega, if_false]
      by_cases hin : b < a + 1 + vs.length
      · simp only [show a + 1 ≤ b ∧ b < a + 1 + vs.length by omega,
          show a ≤ b ∧ b < a + (vs.length + 1) by omega, if_true]
      · simp only [show ¬(a + 1 ≤ b ∧ b < a + 1 + vs.length) by omega,
          show ¬(a ≤ b ∧ b < a + (vs.length + 1)) by omega, if_false]

private theorem mem_opCallCells (bp callStart a : Int) (n : Nat) :
    a ∈ opCallCells bp callStart n ↔ getTempAddr bp callStart ≤ a ∧ a < getTempAddr bp callStart + n := by
  simp only [opCallCells, List.mem_map, List.mem_range]
  constructor
  · rintro ⟨i, hi, rfl⟩
    omega
  · intro h; exact ⟨(a - getTempAddr bp callStart).toNat, by omega, by omega⟩

/-- What `opCall` leaves in a cell: the operand stored there, or what the cell held. -/
private theorem opCall_mem (bp callStart : Int) (ops : List Value) (f : FrameState) (a : Int) :
    (opCall bp callStart ops f).mem a =
      if a ∈ opCallCells bp callStart ops.length then ops.getD (a - getTempAddr bp callStart).toNat 0
      else f.mem a := by
  simp only [opCall, Mem.writeFrom_apply, mem_opCallCells]

/-- `opt_aset_with "k"` on `self` and 1: `self["k"] = 1`. -/
def asetWithIseq : Iseq where
  code := [.putself, .putobject (int2fix 1), .optAsetWith 0x1000 ⟨0, 2, false⟩, .leave]
  catchTable := none
  insnsInfo := []
  localTableSize := 1
  paramSize := 0
  optNum := 0
  optTable := []

/-- `generate_aset_op` leaves two slots for `opt_aset_with` and records two temporaries, but the `indsets` it
emits calls `[]=` through `op3_call` when the receiver is not an array or a hash, and `op3_call` stores its three
operands from the call's start `-1`: the receiver and the key land in the two temporaries, and the value, the
third operand, on the default stack pointer. -/
theorem rtlGen_aset_with_stores_at_sp :
    (GenM.eval (rtlGen asetWithIseq 0 10) GenState.init).map
        (fun out => (out.rtlEncoded.getD 5 (.num 0), out.cdCallStarts, out.tempVarsNum)) =
      .ok (.insn (.op .indset .str), [(0, -1)], 2) ∧
    (∀ {H : Type} (R : Runtime) (M : HeapModel H) (rs : RedefState) (h : H) (key op3 : Value),
      indsetsF R M rs h qnil key op3 = .dispatch) ∧
    ∀ (bp : Int) (recv key op3 : Value) (f : FrameState),
      (op3Call bp (-1) recv key op3 f).mem (defaultSp bp 2) = op3 ∧
      defaultSp bp 2 ∈ opCallCells bp (-1) 3 := by
  refine ⟨by decide, fun R M rs h key op3 => rfl, fun bp recv key op3 f => ?_⟩
  have hcell : defaultSp bp 2 ∈ opCallCells bp (-1) 3 := by
    rw [mem_opCallCells]; simp only [getTempAddr, defaultSp]; omega
  refine ⟨?_, hcell⟩
  rw [op3Call, opCall_mem,
    if_pos (show defaultSp bp 2 ∈ opCallCells bp (-1) [recv, key, op3].length from hcell)]
  have hidx : (defaultSp bp 2 - getTempAddr bp (-1)).toNat = 2 := by simp only [getTempAddr, defaultSp]; omega
  rw [hidx]; rfl

/-! ### `temp_reverse_f` -/

/-- The loop of `temp_reverse_f`: while `start < end`, swap the two cells and move both pointers inwards. -/
def tempReverseLoop (m : Mem) (start stop : Int) : Mem :=
  if start < stop then tempReverseLoop (m.swap start stop) (start + 1) (stop - 1) else m
termination_by (stop - start).toNat

/-- `temp_reverse_f`: reverse the `n` cells from `start`, whose last is `end = start + n - 1`. -/
def tempReverseF (m : Mem) (n : Nat) (start : Int) : Mem := tempReverseLoop m start (start + n - 1)

/-- The loop mirrors the cells from `start` to `stop` and leaves the others. -/
private theorem tempReverseLoop_apply (m : Mem) (start stop a : Int) :
    tempReverseLoop m start stop a = if start ≤ a ∧ a ≤ stop then m (start + stop - a) else m a := by
  induction m, start, stop using tempReverseLoop.induct with
  | case1 m start stop h ih =>
    rw [tempReverseLoop, if_pos h, ih]
    simp only [Mem.swap, Mem.write_apply]
    split_ifs <;> first | rfl | omega | (congr 1; omega)
  | case2 m start stop h =>
    rw [tempReverseLoop, if_neg h]
    split_ifs <;> first | rfl | (congr 1; omega)

private theorem tempReverseF_apply (m : Mem) (n : Nat) (start a : Int) :
    tempReverseF m n start a = if start ≤ a ∧ a < start + n then m (2 * start + n - 1 - a) else m a := by
  rw [tempReverseF, tempReverseLoop_apply]
  split_ifs <;> first | rfl | omega | (congr 1; omega)

/-- The emulated stack held in the temporaries: slot `i` from the bottom in temporary `-(i + 1)`. -/
def HoldsStack (m : Mem) (bp : Int) (st : List Value) : Prop :=
  ∀ i < st.length, m (getTempAddr bp (topTemp i)) = st.getD i 0

/-- `reverse n` of the stack VM (its `insns.def`, outside `src/`): the top `n` values in the opposite order. -/
def stackReverse (n : Nat) (st : List Value) : List Value :=
  st.take (st.length - n) ++ (st.drop (st.length - n)).reverse

private theorem stackReverse_getD (n : Nat) (st : List Value) (hn : n ≤ st.length) (i : Nat) (hi : i < st.length) :
    (stackReverse n st).getD i 0 =
      st.getD (if st.length - n ≤ i then 2 * st.length - n - 1 - i else i) 0 := by
  simp only [stackReverse, List.getD_eq_getElem?_getD]
  split_ifs with h
  · rw [List.getElem?_append_right (by simp; omega)]
    rw [List.length_take, Nat.min_eq_left (by omega),
      List.getElem?_reverse' (i - (st.length - n)) (st.length - 1 - i) (by simp; omega), List.getElem?_drop]
    congr 2; omega
  · rw [List.getElem?_append_left (by simp; omega), List.getElem?_take]
    simp [show i < st.length - n by omega]

/-- On the operand `-(len - n) - 1` that the generator emits for `reverse n`, `temp_reverse_f` does to a stack
held in the temporaries what the stack VM's `reverse n` does. -/
private theorem tempReverse_stack (m : Mem) (n : Nat) (bp : Int) (st : List Value) (hn : n ≤ st.length)
    (hst : HoldsStack m bp st) :
    HoldsStack (tempReverseF m n (getTempAddr bp (topTemp (st.length - n)))) bp (stackReverse n st) := by
  intro i hi
  have hlen : (stackReverse n st).length = st.length := by simp [stackReverse]
  rw [hlen] at hi
  rw [stackReverse_getD n st hn i hi, tempReverseF_apply]
  simp only [getTempAddr, topTemp]
  split_ifs with h₁ h₂ h₂
  · have := hst (2 * st.length - n - 1 - i) (by omega)
    simp only [getTempAddr, topTemp] at this
    rw [← this]; congr 1; omega
  · omega
  · omega
  · simpa only [getTempAddr, topTemp] using hst i hi

/-- `temp_reverse_f (cfp, n, start)` leaves `start[i]` equal to the old `start[n - 1 - i]` for `i < n` and
changes no other cell; so on the operand emitted for `reverse n` it reverses the top `n` slots of the stack. -/
theorem tempReverseF_spec (m : Mem) (n : Nat) :
    (∀ (start : Int) (i : Nat), i < n → tempReverseF m n start (start + i) = m (start + (n - 1 - i : Nat))) ∧
    (∀ start a : Int, a < start ∨ start + n ≤ a → tempReverseF m n start a = m a) ∧
    ∀ (bp : Int) (st : List Value), n ≤ st.length → HoldsStack m bp st →
      HoldsStack (tempReverseF m n (getTempAddr bp (topTemp (st.length - n)))) bp (stackReverse n st) := by
  refine ⟨fun start i hi => ?_, fun start a ha => ?_, fun bp st hn hst => tempReverse_stack m n bp st hn hst⟩
  · rw [tempReverseF_apply, if_pos (by omega)]; congr 1; omega
  · rw [tempReverseF_apply, if_neg (by omega)]

theorem tempReverseF_spec_two :
    2 ≤ [1, 2, 3].length ∧ HoldsStack (fun a => [1, 2, 3].getD (a - 1).toNat 0) 0 [1, 2, 3] ∧
      HoldsStack (tempReverseF (fun a => [1, 2, 3].getD (a - 1).toNat 0) 2 (getTempAddr 0 (topTemp 1))) 0
        [1, 3, 2] :=
  have hst : HoldsStack (fun a => [1, 2, 3].getD (a - 1).toNat 0) 0 [1, 2, 3] := by unfold HoldsStack; decide
  ⟨by decide, hst, (tempReverseF_spec _ 2).2.2 0 [1, 2, 3] (by decide) hst⟩

end RtlMjit
