import RtlMjit.Gen.Insn

/-!
# The generator's state and the emulated stack

`rtl_gen.c` keeps its whole state in file-level variables that survive from one call of `rtl_gen` to the next:
the emulated VM stack, `loc_stack_count`, the per-position arrays of the analysis and the RTL being built.  We
collect them in `GenState` and run the generator in `GenM`, a state monad whose failures are a failing
`assert`, a call of `abort`, and running out of fuel in one of the loops.

The emulated stack is a list of slots, bottom first, so that `stack[i]` of the source is `stack.getD i`.  The
primitives here are the source's `push_stack_slot`, `pop_stack_slot`, `trunc_stack`, `change_stack_slot` and
`prepare_local_assign`; each is meant to keep `loc_stack_count[l]` equal to the number of slots `LOC l` on the
stack, which `RtlMjit.Gen.Counts` proves for the entries the array has.
-/

namespace RtlMjit

/-- The mode of a stack slot with its payload: `slot_type` and the union `u` of `struct stack_slot`.  The
temporary index of a `TEMP` slot exists only in checking builds and is left out. -/
inductive SlotMode where
  | any
  | self
  | val (v : Value)
  | str (s : Value)
  | loc (l : Nat)
  | temp
deriving DecidableEq, Repr

/-- `struct stack_slot`. -/
structure StackSlot where
  mode : SlotMode
  sourceInsnPos : Nat
deriving DecidableEq, Repr

/-- `stack_slot_eq`: the same mode, and the same value, string or local where the mode has one. -/
def stackSlotEq (s1 s2 : StackSlot) : Bool := s1.mode == s2.mode

/-- Label types of `pos_label_type`. -/
def noLabel : Nat := 0
def contLabel : Nat := 1
def branchLabel : Nat := 2

/-- `struct branch_target_loc`. -/
structure BranchTargetLoc where
  nextInsnPc : Nat
  offset : Nat
deriving DecidableEq, Repr

/-- `event_t`: an insn-info entry attached to a position, or none. -/
structure Event where
  definedP : Bool
  infoEntry : InfoEntry
deriving DecidableEq, Repr

/-- The file-level variables of `rtl_gen.c`. -/
structure GenState where
  stack : List StackSlot
  maxStackDepth : Nat
  locStackCount : List Nat
  posStackFree : List Nat
  labelPosStack : List Nat
  posLabelType : List Nat
  labelProcessedP : List Bool
  catchBoundPosP : List Bool
  useOnlyTempResultP : List Bool
  labelStartStackSlot : List Nat
  savedStackSlots : List StackSlot
  stackOnLabelChangeP : Bool
  insnInfoEntryInd : List Int
  currSourceInsnPos : Nat
  newInsnOffsets : List Nat
  branchTargetLocs : List BranchTargetLoc
  iseqRtl : List Word
  rtlInsnEventPositions : List Nat
  rtlInsnEvents : List Event
  /-- `curr_catch_rtl_pos`, with `none` for `SIZE_MAX`. -/
  currCatchRtlPos : Option Nat
  unreachableCodeP : Bool
  /-- The `call_start` that `get_cd` writes into each call data, in the order of the writes. -/
  cdCallStarts : List (Nat × Int)
deriving Repr

/-- The state after `rtl_gen_init`: every array empty. -/
def GenState.init : GenState where
  stack := []
  maxStackDepth := 0
  locStackCount := []
  posStackFree := []
  labelPosStack := []
  posLabelType := []
  labelProcessedP := []
  catchBoundPosP := []
  useOnlyTempResultP := []
  labelStartStackSlot := []
  savedStackSlots := []
  stackOnLabelChangeP := false
  insnInfoEntryInd := []
  currSourceInsnPos := 0
  newInsnOffsets := []
  branchTargetLocs := []
  iseqRtl := []
  rtlInsnEventPositions := []
  rtlInsnEvents := []
  currCatchRtlPos := none
  unreachableCodeP := false
  cdCallStarts := []

/-- Why a run of the generator stops early: a failing `assert`, a call of `abort`, an instruction fetched where
none starts, or a loop of the model out of fuel. -/
inductive GenStop where
  | assertion
  | abort
  | badCode
  | fuel
deriving DecidableEq, Repr

/-- The generator's computations.  A failure keeps the state it happened in: the source leaves its file-level
variables as they are when it jumps out of `rtl_gen` with `longjmp`. -/
abbrev GenM := EStateM GenStop GenState

/-- Equality of results, so that runs of the generator on concrete iseqs are checked by `decide`. -/
instance instDecidableEqExcept {ε α : Type} [DecidableEq ε] [DecidableEq α] : DecidableEq (Except ε α)
  | .error a, .error b => if h : a = b then isTrue (h ▸ rfl) else isFalse fun e => by cases e; exact h rfl
  | .ok a, .ok b => if h : a = b then isTrue (h ▸ rfl) else isFalse fun e => by cases e; exact h rfl
  | .error _, .ok _ => isFalse fun e => by cases e
  | .ok _, .error _ => isFalse fun e => by cases e

deriving instance DecidableEq for GenState

/-- The result of a generator computation run from state `s`, without the state it ends in. -/
def GenM.eval {α : Type} (x : GenM α) (s : GenState) : Except GenStop α :=
  match x s with
  | .ok a _ => .ok a
  | .error e _ => .error e

/-- The state a generator computation run from state `s` ends in, whether it returns or stops. -/
def GenM.final {α : Type} (x : GenM α) (s : GenState) : GenState :=
  match x s with
  | .ok _ s' => s'
  | .error _ s' => s'

/-- `assert`. -/
def genAssert (b : Bool) : GenM Unit := if b then pure () else throw .assertion

/-! ### Monad laws used to run the generator symbolically -/

section Laws

variable {α β : Type} {s : GenState}

@[simp] theorem GenM.pure_run (a : α) : (pure a : GenM α) s = .ok a s := rfl

@[simp] theorem GenM.get_run : (get : GenM GenState) s = .ok s s := rfl

@[simp] theorem GenM.set_run (s' : GenState) : (set s' : GenM Unit) s = .ok () s' := rfl

@[simp] theorem GenM.throw_run (e : GenStop) : (throw e : GenM α) s = .error e s := rfl

@[simp] theorem GenM.bind_run (x : GenM α) (f : α → GenM β) :
    (x >>= f) s = match x s with
      | .ok a s' => f a s'
      | .error e s' => .error e s' := by
  show EStateM.bind x f s = _
  unfold EStateM.bind
  cases x s <;> rfl

theorem genAssert_run (b : Bool) : genAssert b s = if b then .ok () s else .error .assertion s := by
  unfold genAssert; split <;> rfl

theorem GenM.eval_bind_of_ok {x : GenM α} {f : α → GenM β} {a : α} {s' : GenState} (h : x s = .ok a s') :
    GenM.eval (x >>= f) s = GenM.eval (f a) s' := by
  simp only [GenM.eval, GenM.bind_run, h]

theorem GenM.eval_bind_of_error {x : GenM α} {f : α → GenM β} {e : GenStop} (h : GenM.eval x s = .error e) :
    GenM.eval (x >>= f) s = .error e := by
  simp only [GenM.eval, GenM.bind_run] at h ⊢
  split at h <;> simp_all

end Laws

/-! ### The file-level variables

Each variable of the state is a `Var`: the field it is, with its read and its update, and the two accessors the
generator runs, which carry the proof that they compute that read and that update.  The accessors take the state
apart and build it again from its fields, and a slot or a count read out of a list is bound by a `match` before
it is stored again, so that no stored term mentions a list twice: a run of the generator on a concrete iseq then
evaluates by `decide` in time polynomial in its steps.  The variables are reducible, so that `Var.get_ok` and
`Var.set_ok` turn every accessor into the read or the update of its field. -/

/-- A variable of the generator's state: the field it is, and the accessors that read it and store into it. -/
structure Var (α : Type) where
  read : GenState → α
  write : α → GenState → GenState
  get : GenM α
  set : α → GenM Unit
  get_run : ∀ s, get s = .ok (read s) s
  set_run : ∀ v s, set v s = .ok () (write v s)

section Access

variable {α : Type} {s : GenState}

@[simp] theorem Var.get_ok (x : Var α) : x.get s = .ok (x.read s) s := x.get_run s

@[simp] theorem Var.set_ok (x : Var α) (v : α) : x.set v s = .ok () (x.write v s) := x.set_run v s

end Access

abbrev stackVar : Var (List StackSlot) where
  read := GenState.stack
  write v s := { s with stack := v }
  get := do
    let ⟨v, _, _, _, _, _, _, _, _, _, _, _, _, _, _, _, _, _, _, _, _, _⟩ ← get
    pure v
  set v := do
    let ⟨_, a1, a2, a3, a4, a5, a6, a7, a8, a9, a10, a11, a12, a13, a14, a15, a16, a17, a18, a19, a20, a21⟩ ← get
    set (GenState.mk v a1 a2 a3 a4 a5 a6 a7 a8 a9 a10 a11 a12 a13 a14 a15 a16 a17 a18 a19 a20 a21)
  get_run _ := rfl
  set_run _ _ := rfl

abbrev getStack : GenM (List StackSlot) := stackVar.get
abbrev setStack : List StackSlot → GenM Unit := stackVar.set

abbrev maxStackDepthVar : Var Nat where
  read := GenState.maxStackDepth
  write v s := { s with maxStackDepth := v }
  get := do
    let ⟨_, v, _, _, _, _, _, _, _, _, _, _, _, _, _, _, _, _, _, _, _, _⟩ ← get
    pure v
  set v := do
    let ⟨a0, _, a2, a3, a4, a5, a6, a7, a8, a9, a10, a11, a12, a13, a14, a15, a16, a17, a18, a19, a20, a21⟩ ← get
    set (GenState.mk a0 v a2 a3 a4 a5 a6 a7 a8 a9 a10 a11 a12 a13 a14 a15 a16 a17 a18 a19 a20 a21)
  get_run _ := rfl
  set_run _ _ := rfl

abbrev getMaxStackDepth : GenM Nat := maxStackDepthVar.get
abbrev setMaxStackDepth : Nat → GenM Unit := maxStackDepthVar.set

abbrev locStackCountVar : Var (List Nat) where
  read := GenState.locStackCount
  write v s := { s with locStackCount := v }
  get := do
    let ⟨_, _, v, _, _, _, _, _, _, _, _, _, _, _, _, _, _, _, _, _, _, _⟩ ← get
    pure v
  set v := do
    let ⟨a0, a1, _, a3, a4, a5, a6, a7, a8, a9, a10, a11, a12, a13, a14, a15, a16, a17, a18, a19, a20, a21⟩ ← get
    set (GenState.mk a0 a1 v a3 a4 a5 a6 a7 a8 a9 a10 a11 a12 a13 a14 a15 a16 a17 a18 a19 a20 a21)
  get_run _ := rfl
  set_run _ _ := rfl

abbrev getLocStackCount : GenM (List Nat) := locStackCountVar.get
abbrev setLocStackCount : List Nat → GenM Unit := locStackCountVar.set

abbrev posStackFreeVar : Var (List Nat) where
  read := GenState.posStackFree
  write v s := { s with posStackFree := v }
  get := do
    let ⟨_, _, _, v, _, _, _, _, _, _, _, _, _, _, _, _, _, _, _, _, _, _⟩ ← get
    pure v
  set v := do
    let ⟨a0, a1, a2, _, a4, a5, a6, a7, a8, a9, a10, a11, a12, a13, a14, a15, a16, a17, a18, a19, a20, a21⟩ ← get
    set (GenState.mk a0 a1 a2 v a4 a5 a6 a7 a8 a9 a10 a11 a12 a13 a14 a15 a16 a17 a18 a19 a20 a21)
  get_run _ := rfl
  set_run _ _ := rfl

abbrev getPosStackFree : GenM (List Nat) := posStackFreeVar.get
abbrev setPosStackFree : List Nat → GenM Unit := posStackFreeVar.set

abbrev labelPosStackVar : Var (List Nat) where
  read := GenState.labelPosStack
  write v s := { s with labelPosStack := v }
  get := do
    let ⟨_, _, _, _, v, _, _, _, _, _, _, _, _, _, _, _, _, _, _, _, _, _⟩ ← get
    pure v
  set v := do
    let ⟨a0, a1, a2, a3, _, a5, a6, a7, a8, a9, a10, a11, a12, a13, a14, a15, a16, a17, a18, a19, a20, a21⟩ ← get
    set (GenState.mk a0 a1 a2 a3 v a5 a6 a7 a8 a9 a10 a11 a12 a13 a14 a15 a16 a17 a18 a19 a20 a21)
  get_run _ := rfl
  set_run _ _ := rfl

abbrev getLabelPosStack : GenM (List Nat) := labelPosStackVar.get
abbrev setLabelPosStack : List Nat → GenM Unit := labelPosStackVar.set

abbrev posLabelTypeVar : Var (List Nat) where
  read := GenState.posLabelType
  write v s := { s with posLabelType := v }
  get := do
    let ⟨_, _, _, _, _, v, _, _, _, _, _, _, _, _, _, _, _, _, _, _, _, _⟩ ← get
    pure v
  set v := do
    let ⟨a0, a1, a2, a3, a4, _, a6, a7, a8, a9, a10, a11, a12, a13, a14, a15, a16, a17, a18, a19, a20, a21⟩ ← get
    set (GenState.mk a0 a1 a2 a3 a4 v a6 a7 a8 a9 a10 a11 a12 a13 a14 a15 a16 a17 a18 a19 a20 a21)
  get_run _ := rfl
  set_run _ _ := rfl

abbrev getPosLabelType : GenM (List Nat) := posLabelTypeVar.get
abbrev setPosLabelType : List Nat → GenM Unit := posLabelTypeVar.set

abbrev labelProcessedPVar : Var (List Bool) where
  read := GenState.labelProcessedP
  write v s := { s with labelProcessedP := v }
  get := do
    let ⟨_, _, _, _, _, _, v, _, _, _, _, _, _, _, _, _, _, _, _, _, _, _⟩ ← get
    pure v
  set v := do
    let ⟨a0, a1, a2, a3, a4, a5, _, a7, a8, a9, a10, a11, a12, a13, a14, a15, a16, a17, a18, a19, a20, a21⟩ ← get
    set (GenState.mk a0 a1 a2 a3 a4 a5 v a7 a8 a9 a10 a11 a12 a13 a14 a15 a16 a17 a18 a19 a20 a21)
  get_run _ := rfl
  set_run _ _ := rfl

abbrev getLabelProcessedP : GenM (List Bool) := labelProcessedPVar.get
abbrev setLabelProcessedP : List Bool → GenM Unit := labelProcessedPVar.set

abbrev catchBoundPosPVar : Var (List Bool) where
  read := GenState.catchBoundPosP
  write v s := { s with catchBoundPosP := v }
  get := do
    let ⟨_, _, _, _, _, _, _, v, _, _, _, _, _, _, _, _, _, _, _, _, _, _⟩ ← get
    pure v
  set v := do
    let ⟨a0, a1, a2, a3, a4, a5, a6, _, a8, a9, a10, a11, a12, a13, a14, a15, a16, a17, a18, a19, a20, a21⟩ ← get
    set (GenState.mk a0 a1 a2 a3 a4 a5 a6 v a8 a9 a10 a11 a12 a13 a14 a15 a16 a17 a18 a19 a20 a21)
  get_run _ := rfl
  set_run _ _ := rfl

abbrev getCatchBoundPosP : GenM (List Bool) := catchBoundPosPVar.get
abbrev setCatchBoundPosP : List Bool → GenM Unit := catchBoundPosPVar.set

abbrev useOnlyTempResultPVar : Var (List Bool) where
  read := GenState.useOnlyTempResultP
  write v s := { s with useOnlyTempResultP := v }
  get := do
    let ⟨_, _, _, _, _, _, _, _, v, _, _, _, _, _, _, _, _, _, _, _, _, _⟩ ← get
    pure v
  set v := do
    let ⟨a0, a1, a2, a3, a4, a5, a6, a7, _, a9, a10, a11, a12, a13, a14, a15, a16, a17, a18, a19, a20, a21⟩ ← get
    set (GenState.mk a0 a1 a2 a3 a4 a5 a6 a7 v a9 a10 a11 a12 a13 a14 a15 a16 a17 a18 a19 a20 a21)
  get_run _ := rfl
  set_run _ _ := rfl

abbrev getUseOnlyTempResultP : GenM (List Bool) := useOnlyTempResultPVar.get
abbrev setUseOnlyTempResultP : List Bool → GenM Unit := useOnlyTempResultPVar.set

abbrev labelStartStackSlotVar : Var (List Nat) where
  read := GenState.labelStartStackSlot
  write v s := { s with labelStartStackSlot := v }
  get := do
    let ⟨_, _, _, _, _, _, _, _, _, v, _, _, _, _, _, _, _, _, _, _, _, _⟩ ← get
    pure v
  set v := do
    let ⟨a0, a1, a2, a3, a4, a5, a6, a7, a8, _, a10, a11, a12, a13, a14, a15, a16, a17, a18, a19, a20, a21⟩ ← get
    set (GenState.mk a0 a1 a2 a3 a4 a5 a6 a7 a8 v a10 a11 a12 a13 a14 a15 a16 a17 a18 a19 a20 a21)
  get_run _ := rfl
  set_run _ _ := rfl

abbrev getLabelStartStackSlot : GenM (List Nat) := labelStartStackSlotVar.get
abbrev setLabelStartStackSlot : List Nat → GenM Unit := labelStartStackSlotVar.set

abbrev savedStackSlotsVar : Var (List StackSlot) where
  read := GenState.savedStackSlots
  write v s := { s with savedStackSlots := v }
  get := do
    let ⟨_, _, _, _, _, _, _, _, _, _, v, _, _, _, _, _, _, _, _, _, _, _⟩ ← get
    pure v
  set v := do
    let ⟨a0, a1, a2, a3, a4, a5, a6, a7, a8, a9, _, a11, a12, a13, a14, a15, a16, a17, a18, a19, a20, a21⟩ ← get
    set (GenState.mk a0 a1 a2 a3 a4 a5 a6 a7 a8 a9 v a11 a12 a13 a14 a15 a16 a17 a18 a19 a20 a21)
  get_run _ := rfl
  set_run _ _ := rfl

abbrev getSavedStackSlots : GenM (List StackSlot) := savedStackSlotsVar.get
abbrev setSavedStackSlots : List StackSlot → GenM Unit := savedStackSlotsVar.set

abbrev stackOnLabelChangePVar : Var Bool where
  read := GenState.stackOnLabelChangeP
  write v s := { s with stackOnLabelChangeP := v }
  get := do
    let ⟨_, _, _, _, _, _, _, _, _, _, _, v, _, _, _, _, _, _, _, _, _, _⟩ ← get
    pure v
  set v := do
    let ⟨a0, a1, a2, a3, a4, a5, a6, a7, a8, a9, a10, _, a12, a13, a14, a15, a16, a17, a18, a19, a20, a21⟩ ← get
    set (GenState.mk a0 a1 a2 a3 a4 a5 a6 a7 a8 a9 a10 v a12 a13 a14 a15 a16 a17 a18 a19 a20 a21)
  get_run _ := rfl
  set_run _ _ := rfl

abbrev getStackOnLabelChangeP : GenM Bool := stackOnLabelChangePVar.get
abbrev setStackOnLabelChangeP : Bool → GenM Unit := stackOnLabelChangePVar.set

abbrev insnInfoEntryIndVar : Var (List Int) where
  read := GenState.insnInfoEntryInd
  write v s := { s with insnInfoEntryInd := v }
  get := do
    let ⟨_, _, _, _, _, _, _, _, _, _, _, _, v, _, _, _, _, _, _, _, _, _⟩ ← get
    pure v
  set v := do
    let ⟨a0, a1, a2, a3, a4, a5, a6, a7, a8, a9, a10, a11, _, a13, a14, a15, a16, a17, a18, a19, a20, a21⟩ ← get
    set (GenState.mk a0 a1 a2 a3 a4 a5 a6 a7 a8 a9 a10 a11 v a13 a14 a15 a16 a17 a18 a19 a20 a21)
  get_run _ := rfl
  set_run _ _ := rfl

abbrev getInsnInfoEntryInd : GenM (List Int) := insnInfoEntryIndVar.get
abbrev setInsnInfoEntryInd : List Int → GenM Unit := insnInfoEntryIndVar.set

abbrev currSourceInsnPosVar : Var Nat where
  read := GenState.currSourceInsnPos
  write v s := { s with currSourceInsnPos := v }
  get := do
    let ⟨_, _, _, _, _, _, _, _, _, _, _, _, _, v, _, _, _, _, _, _, _, _⟩ ← get
    pure v
  set v := do
    let ⟨a0, a1, a2, a3, a4, a5, a6, a7, a8, a9, a10, a11, a12, _, a14, a15, a16, a17, a18, a19, a20, a21⟩ ← get
    set (GenState.mk a0 a1 a2 a3 a4 a5 a6 a7 a8 a9 a10 a11 a12 v a14 a15 a16 a17 a18 a19 a20 a21)
  get_run _ := rfl
  set_run _ _ := rfl

abbrev getCurrSourceInsnPos : GenM Nat := currSourceInsnPosVar.get
abbrev setCurrSourceInsnPos : Nat → GenM Unit := currSourceInsnPosVar.set

abbrev newInsnOffsetsVar : Var (List Nat) where
  read := GenState.newInsnOffsets
  write v s := { s with newInsnOffsets := v }
  get := do
    let ⟨_, _, _, _, _, _, _, _, _, _, _, _, _, _, v, _, _, _, _, _, _, _⟩ ← get
    pure v
  set v := do
    let ⟨a0, a1, a2, a3, a4, a5, a6, a7, a8, a9, a10, a11, a12, a13, _, a15, a16, a17, a18, a19, a20, a21⟩ ← get
    set (GenState.mk a0 a1 a2 a3 a4 a5 a6 a7 a8 a9 a10 a11 a12 a13 v a15 a16 a17 a18 a19 a20 a21)
  get_run _ := rfl
  set_run _ _ := rfl

abbrev getNewInsnOffsets : GenM (List Nat) := newInsnOffsetsVar.get
abbrev setNewInsnOffsets : List Nat → GenM Unit := newInsnOffsetsVar.set

abbrev branchTargetLocsVar : Var (List BranchTargetLoc) where
  read := GenState.branchTargetLocs
  write v s := { s with branchTargetLocs := v }
  get := do
    let ⟨_, _, _, _, _, _, _, _, _, _, _, _, _, _, _, v, _, _, _, _, _, _⟩ ← get
    pure v
  set v := do
    let ⟨a0, a1, a2, a3, a4, a5, a6, a7, a8, a9, a10, a11, a12, a13, a14, _, a16, a17, a18, a19, a20, a21⟩ ← get
    set (GenState.mk a0 a1 a2 a3 a4 a5 a6 a7 a8 a9 a10 a11 a12 a13 a14 v a16 a17 a18 a19 a20 a21)
  get_run _ := rfl
  set_run _ _ := rfl

abbrev getBranchTargetLocs : GenM (List BranchTargetLoc) := branchTargetLocsVar.get
abbrev setBranchTargetLocs : List BranchTargetLoc → GenM Unit := branchTargetLocsVar.set

abbrev iseqRtlVar : Var (List Word) where
  read := GenState.iseqRtl
  write v s := { s with iseqRtl := v }
  get := do
    let ⟨_, _, _, _, _, _, _, _, _, _, _, _, _, _, _, _, v, _, _, _, _, _⟩ ← get
    pure v
  set v := do
    let ⟨a0, a1, a2, a3, a4, a5, a6, a7, a8, a9, a10, a11, a12, a13, a14, a15, _, a17, a18, a19, a20, a21⟩ ← get
    set (GenState.mk a0 a1 a2 a3 a4 a5 a6 a7 a8 a9 a10 a11 a12 a13 a14 a15 v a17 a18 a19 a20 a21)
  get_run _ := rfl
  set_run _ _ := rfl

abbrev getIseqRtl : GenM (List Word) := iseqRtlVar.get
abbrev setIseqRtl : List Word → GenM Unit := iseqRtlVar.set

abbrev rtlInsnEventPositionsVar : Var (List Nat) where
  read := GenState.rtlInsnEventPositions
  write v s := { s with rtlInsnEventPositions := v }
  get := do
    let ⟨_, _, _, _, _, _, _, _, _, _, _, _, _, _, _, _, _, v, _, _, _, _⟩ ← get
    pure v
  set v := do
    let ⟨a0, a1, a2, a3, a4, a5, a6, a7, a8, a9, a10, a11, a12, a13, a14, a15, a16, _, a18, a19, a20, a21⟩ ← get
    set (GenState.mk a0 a1 a2 a3 a4 a5 a6 a7 a8 a9 a10 a11 a12 a13 a14 a15 a16 v a18 a19 a20 a21)
  get_run _ := rfl
  set_run _ _ := rfl

abbrev getRtlInsnEventPositions : GenM (List Nat) := rtlInsnEventPositionsVar.get
abbrev setRtlInsnEventPositions : List Nat → GenM Unit := rtlInsnEventPositionsVar.set

abbrev rtlInsnEventsVar : Var (List Event) where
  read := GenState.rtlInsnEvents
  write v s := { s with rtlInsnEvents := v }
  get := do
    let ⟨_, _, _, _, _, _, _, _, _, _, _, _, _, _, _, _, _, _, v, _, _, _⟩ ← get
    pure v
  set v := do
    let ⟨a0, a1, a2, a3, a4, a5, a6, a7, a8, a9, a10, a11, a12, a13, a14, a15, a16, a17, _, a19, a20, a21⟩ ← get
    set (GenState.mk a0 a1 a2 a3 a4 a5 a6 a7 a8 a9 a10 a11 a12 a13 a14 a15 a16 a17 v a19 a20 a21)
  get_run _ := rfl
  set_run _ _ := rfl

abbrev getRtlInsnEvents : GenM (List Event) := rtlInsnEventsVar.get
abbrev setRtlInsnEvents : List Event → GenM Unit := rtlInsnEventsVar.set

abbrev currCatchRtlPosVar : Var (Option Nat) where
  read := GenState.currCatchRtlPos
  write v s := { s with currCatchRtlPos := v }
  get := do
    let ⟨_, _, _, _, _, _, _, _, _, _, _, _, _, _, _, _, _, _, _, v, _, _⟩ ← get
    pure v
  set v := do
    let ⟨a0, a1, a2, a3, a4, a5, a6, a7, a8, a9, a10, a11, a12, a13, a14, a15, a16, a17, a18, _, a20, a21⟩ ← get
    set (GenState.mk a0 a1 a2 a3 a4 a5 a6 a7 a8 a9 a10 a11 a12 a13 a14 a15 a16 a17 a18 v a20 a21)
  get_run _ := rfl
  set_run _ _ := rfl

abbrev getCurrCatchRtlPos : GenM (Option Nat) := currCatchRtlPosVar.get
abbrev setCurrCatchRtlPos : Option Nat → GenM Unit := currCatchRtlPosVar.set

abbrev unreachableCodePVar : Var Bool where
  read := GenState.unreachableCodeP
  write v s := { s with unreachableCodeP := v }
  get := do
    let ⟨_, _, _, _, _, _, _, _, _, _, _, _, _, _, _, _, _, _, _, _, v, _⟩ ← get
    pure v
  set v := do
    let ⟨a0, a1, a2, a3, a4, a5, a6, a7, a8, a9, a10, a11, a12, a13, a14, a15, a16, a17, a18, a19, _, a21⟩ ← get
    set (GenState.mk a0 a1 a2 a3 a4 a5 a6 a7 a8 a9 a10 a11 a12 a13 a14 a15 a16 a17 a18 a19 v a21)
  get_run _ := rfl
  set_run _ _ := rfl

abbrev getUnreachableCodeP : GenM Bool := unreachableCodePVar.get
abbrev setUnreachableCodeP : Bool → GenM Unit := unreachableCodePVar.set

abbrev cdCallStartsVar : Var (List (Nat × Int)) where
  read := GenState.cdCallStarts
  write v s := { s with cdCallStarts := v }
  get := do
    let ⟨_, _, _, _, _, _, _, _, _, _, _, _, _, _, _, _, _, _, _, _, _, v⟩ ← get
    pure v
  set v := do
    let ⟨a0, a1, a2, a3, a4, a5, a6, a7, a8, a9, a10, a11, a12, a13, a14, a15, a16, a17, a18, a19, a20, _⟩ ← get
    set (GenState.mk a0 a1 a2 a3 a4 a5 a6 a7 a8 a9 a10 a11 a12 a13 a14 a15 a16 a17 a18 a19 a20 v)
  get_run _ := rfl
  set_run _ _ := rfl

abbrev getCdCallStarts : GenM (List (Nat × Int)) := cdCallStartsVar.get
abbrev setCdCallStarts : List (Nat × Int) → GenM Unit := cdCallStartsVar.set

/-! ### The emulated stack -/

/-- The number of slots `LOC l` on a stack. -/
def locCount (st : List StackSlot) (l : Nat) : Nat := st.countP (fun slot => slot.mode == .loc l)

/-- `stack[i]`, or an `ANY` slot above the top. -/
def stackSlotAt (i : Nat) : GenM StackSlot := do
  match (← getStack).get? i with
  | some slot => pure slot
  | none => pure ⟨.any, 0⟩

/-- `VARR_LAST (stack)`, or an `ANY` slot when the stack is empty. -/
def topStackSlot : GenM StackSlot := do
  match (← getStack).getLast? with
  | some slot => pure slot
  | none => pure ⟨.any, 0⟩

/-- `prepare_stack_slot_rewrite`: the slot stops being a local on the stack. -/
def prepareStackSlotRewrite (slot : StackSlot) : GenM Unit := do
  match slot.mode with
  | .loc l =>
    let counts ← getLocStackCount
    genAssert (0 < counts.getD l 0)
    setLocStackCount (counts.modify (· - 1) l)
  | _ => pure ()

/-- `prepare_stack_slot_assign`: the slot becomes a local on the stack. -/
def prepareStackSlotAssign (slot : StackSlot) : GenM Unit := do
  match slot.mode with
  | .loc l => setLocStackCount ((← getLocStackCount).modify (· + 1) l)
  | _ => pure ()

/-- `pop_stack_slot`.  Popping an empty stack is a failing check of the variable-length array. -/
def popStackSlot : GenM StackSlot := do
  let stack ← getStack
  match stack.getLast? with
  | none => throw .assertion
  | some slot =>
    setStack stack.dropLast
    prepareStackSlotRewrite slot
    pure slot

/-- `push_stack_slot`. -/
def pushStackSlot (slot : StackSlot) : GenM Unit := do
  prepareStackSlotAssign slot
  let stack ← getStack
  setStack (stack ++ [slot])
  if (← getMaxStackDepth) < stack.length + 1 then setMaxStackDepth (stack.length + 1)

/-- Pop `n` slots, one by one. -/
def popSlots : Nat → GenM Unit
  | 0 => pure ()
  | n + 1 => do
    let _ ← popStackSlot
    popSlots n

/-- `trunc_stack`: pop slots until the stack has `depth` of them. -/
def truncStack (depth : Nat) : GenM Unit := do
  popSlots ((← getStack).length - depth)

/-- `change_stack_slot`. -/
def changeStackSlot (n : Nat) (slot : StackSlot) : GenM Unit := do
  genAssert (n < (← getStack).length)
  prepareStackSlotRewrite (← stackSlotAt n)
  prepareStackSlotAssign slot
  setStack ((← getStack).set n slot)

/-- The loop of `prepare_local_assign` over the stack slots from index `i` on: `action i` for every slot `LOC`. -/
def localAssignLoop (action : Nat → GenM Unit) : Nat → Nat → GenM Unit
  | _, 0 => pure ()
  | i, k + 1 => do
    match (← stackSlotAt i).mode with
    | .loc _ => action i
    | _ => pure ()
    localAssignLoop action (i + 1) k

/-- `prepare_local_assign`: before local `res` is assigned, turn the slots that read locals into temporaries
with `action`.  Note that every slot `LOC` is turned, not only the slots `LOC res`. -/
def prepareLocalAssign (res : Nat) (action : Nat → GenM Unit) : GenM Unit := do
  genAssert (0 < res)
  if (← getLocStackCount).getD res 0 = 0 then pure () else
  localAssignLoop action 0 (← getStack).length
  genAssert ((← getLocStackCount).getD res 0 = 0)

/-- `push_val`: push a slot of the given mode made by the instruction at `sourceInsnPos`. -/
def pushVal (mode : SlotMode) (sourceInsnPos : Nat) : GenM Unit := pushStackSlot ⟨mode, sourceInsnPos⟩

end RtlMjit
