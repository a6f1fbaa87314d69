import RtlMjit.Gen.State

/-!
# The first pass: stack values on labels

`find_stack_values_on_labels` emulates the VM stack over the stack instructions and records, at every label,
the slots the stack holds there (`saved_stack_slots`) and the stack depth (`pos_stack_free`).  Where two edges
into a label bring different slots, the saved slot becomes `TEMP` and the instruction that produced the slot is
flagged in `use_only_temp_result_p`, so that the next iteration puts its result into a temporary.  The outer
loop repeats while an iteration changed a saved slot (`stack_on_label_change_p`).

The loops of the source become recursions on an explicit fuel; running out of it is `GenStop.fuel`.
-/

namespace RtlMjit

section Analysis

variable (iseq : Iseq)

/-- `code[pos]`. -/
def insnAt (pos : Nat) : GenM Insn :=
  match fetch iseq.code pos with
  | some i => pure i
  | none => throw .badCode

/-! ### Events -/

/-- `pos_event`: the insn-info entry attached to a position, if any, given `insn_info_entry_ind`. -/
def posEvent (insnInfoEntryInd : List Int) (pos : Nat) : Event :=
  let ind := insnInfoEntryInd.getD pos (-1)
  if iseqSize iseq.code ≤ pos ∨ ind < 0 then ⟨false, ⟨0, 0⟩⟩
  else ⟨true, (iseq.insnsInfo.getD ind.toNat (0, ⟨0, 0⟩)).2⟩

/-- `combined_event_p`: the two events attached to one RTL instruction, or `none` when their lines differ. -/
def combinedEventP (event1 event2 : Event) : Option Event :=
  if !event1.definedP then some event2
  else if !event2.definedP then some event1
  else if event1.infoEntry.lineNo ≠ event2.infoEntry.lineNo then none
  else some ⟨true, ⟨event1.infoEntry.lineNo, event1.infoEntry.events ||| event2.infoEntry.events⟩⟩

/-! ### Saved slots at labels -/

/-- `save_stack_slots`: append the stack to `saved_stack_slots` and return where it starts. -/
def saveStackSlots (depth : Nat) : GenM Nat := do
  let stack ← getStack
  let saved ← getSavedStackSlots
  genAssert (stack.length = depth)
  setSavedStackSlots (saved ++ stack)
  pure saved.length

/-- `restore_stack_slots`: make the stack the `depth` slots saved from index `start`. -/
def restoreStackSlots (start depth : Nat) : GenM Unit := do
  truncStack 0
  for slot in ((← getSavedStackSlots).drop start).take depth do
    pushStackSlot slot

/-- `use_only_temp_result_p[pos] = TRUE`. -/
def setUseOnlyTemp (pos : Nat) : GenM Unit := do
  setUseOnlyTempResultP ((← getUseOnlyTempResultP).set pos true)

/-- One step of `update_saved_stack_slots`: merge stack slot `i` into saved slot `start + i`; the result says
whether something changed. -/
def updateSavedSlot (start i : Nat) : GenM Bool := do
  let cur ← stackSlotAt i
  let savedSlots ← getSavedStackSlots
  let saved := match savedSlots.get? (start + i) with
    | some slot => slot
    | none => ⟨.any, 0⟩
  if cur.mode = .any then pure false
  else if saved.mode = .any then
    setSavedStackSlots (savedSlots.set (start + i) cur)
    pure true
  else if !stackSlotEq saved cur then
    let changed := saved.mode ≠ .temp ∨ cur.mode ≠ .temp
    if saved.mode ≠ .temp then setUseOnlyTemp saved.sourceInsnPos
    else if cur.mode ≠ .temp then setUseOnlyTemp cur.sourceInsnPos
    setSavedStackSlots (savedSlots.modify (fun slot => { slot with mode := .temp }) (start + i))
    changeStackSlot i { saved with mode := .temp }
    pure changed
  else pure false

/-- The loop of `update_saved_stack_slots` over the slots `i, …, i + k - 1`. -/
def updateSavedLoop (start : Nat) : Nat → Nat → GenM Bool
  | _, 0 => pure false
  | i, k + 1 => do
    let c ← updateSavedSlot start i
    let c' ← updateSavedLoop start (i + 1) k
    pure (c || c')

/-- `update_saved_stack_slots`: merge the stack into the slots saved from `start`; true when a saved slot
changed. -/
def updateSavedStackSlots (start : Nat) : GenM Bool := do
  updateSavedLoop start 0 (← getStack).length

/-- The insertion loop of `process_label` over `label_pos_stack` read from its top: the label goes below the
labels that are smaller than it. -/
def insertFromTop (label : Nat) : List Nat → List Nat
  | [] => [label]
  | l :: rest => if l < label then l :: insertFromTop label rest else label :: l :: rest

/-- Insert a label into `label_pos_stack` below the labels at its top that are smaller than it, so that the
smallest label is popped first. -/
def insertLabel (label : Nat) (labels : List Nat) : List Nat := (insertFromTop label labels.reverse).reverse

/-- `process_label`: a label of `type` reached with a stack of `depth` slots. -/
def processLabel (type label depth : Nat) : GenM Unit := do
  let labelTypes ← getPosLabelType
  let prevType := labelTypes.getD label noLabel
  genAssert (type ≠ noLabel)
  if prevType < type then setPosLabelType (labelTypes.set label type)
  if prevType = noLabel then
    setPosStackFree ((← getPosStackFree).set label (depth + 1))
    let start ← saveStackSlots depth
    setLabelStartStackSlot ((← getLabelStartStackSlot).set label start)
    setStackOnLabelChangeP true
  else
    genAssert ((← getPosStackFree).getD label 0 = depth + 1)
    if ← updateSavedStackSlots ((← getLabelStartStackSlot).getD label 0) then setStackOnLabelChangeP true
  let processed ← getLabelProcessedP
  if !processed.getD label false then
    setLabelPosStack (insertLabel label (← getLabelPosStack))
    setLabelProcessedP (processed.set label true)

/-- The targets of an `opt_case_dispatch`, `mark_label_from_hash` for each hash value and then the else
label. -/
def caseTargets (hash : CaseHash) (elseOffset incr : Int) : List Nat :=
  hash.map (fun kv => (kv.2 + incr).toNat) ++ [(elseOffset + incr).toNat]

/-- `setup_labels_from_catch_table` for one entry: mark the region bounds and process the continuation label
with the entry's stack of temporaries. -/
def setupCatchEntry (size : Nat) (e : CatchEntry) : GenM Unit := do
  if e.sp < 0 ∨ size ≤ e.start ∨ size ≤ e.stop ∨ size ≤ e.cont then pure () else
  setCatchBoundPosP (((← getCatchBoundPosP).set e.start true).set e.stop true)
  let depth := e.sp.toNat + if e.type = .rescue ∨ e.type = .next ∨ e.type = .break then 1 else 0
  for _ in List.range depth do
    pushVal .temp 0
  processLabel contLabel e.cont depth
  truncStack 0

/-- `setup_labels_from_catch_table`. -/
def setupLabelsFromCatchTable : GenM Unit := do
  let size := iseqSize iseq.code
  setCatchBoundPosP (List.replicate size false)
  match iseq.catchTable with
  | none => pure ()
  | some table => for e in table do setupCatchEntry size e

/-- `make_temp` as the action of `prepare_local_assign`: slot `i` becomes a temporary. -/
def makeTemp (i : Nat) : GenM Unit := do
  let slot ← stackSlotAt i
  genAssert (slot.mode matches .loc _)
  prepareStackSlotRewrite slot
  setStack ((← getStack).set i { slot with mode := .temp })

/-- Push a copy of `slot` for `dup`, `dupn` and `topn`: a new temporary when the slot is one or when the result
must be a temporary. -/
def pushCopy (tempOnlyP : Bool) (pos : Nat) (slot : StackSlot) : GenM Unit :=
  if slot.mode = .temp ∨ tempOnlyP then pushVal .temp pos else pushStackSlot slot

/-- Whether an instruction leaves no result of its own in the first switch of `update_stack_by_insn`. -/
def Insn.noResultP : Insn → Bool
  | .setlocal .. | .setlocalWC0 .. | .setlocalWC1 .. | .setspecial .. | .setinstancevariable ..
  | .setclassvariable .. | .setconstant .. | .setglobal .. | .setblockparam .. | .nop | .pop | .branchif ..
  | .branchunless .. | .branchnil .. | .optCaseDispatch .. | .jump .. | .optCallCFunction .. | .setn .. | .swap
  | .reverse .. | .adjuststack .. | .tracecoverage .. => true
  | _ => false

/-- The second switch of `update_stack_by_insn`: push the instruction's results and process the labels it
jumps to. -/
def pushResults (pos len depth : Nat) (resultP tempOnlyP : Bool) : Insn → GenM Unit
  | .branchif dst | .branchunless dst | .branchnil dst | .getinlinecache dst _ | .jump dst => do
    if resultP then pushVal .temp pos
    processLabel branchLabel (dst + pos + len).toNat depth
  | .optCaseDispatch hash elseOffset => do
    for l in caseTargets hash elseOffset (pos + len) do
      processLabel branchLabel l depth
  | .putself => pushVal (if tempOnlyP then .temp else .self) pos
  | .putnil => pushVal (if tempOnlyP then .temp else .val qnil) pos
  | .putobject v => pushVal (if tempOnlyP then .temp else .val v) pos
  | .putobjectINT2FIX0 => pushVal (if tempOnlyP then .temp else .val (int2fix 0)) pos
  | .putobjectINT2FIX1 => pushVal (if tempOnlyP then .temp else .val (int2fix 1)) pos
  | .getlocal idx level => pushVal (if level ≠ 0 ∨ tempOnlyP then .temp else .loc idx) pos
  | .getlocalWC0 idx => pushVal (if tempOnlyP then .temp else .loc idx) pos
  | .getlocalWC1 _ => pushVal .temp pos
  | .setlocal idx level => do
    genAssert !resultP
    if level = 0 then prepareLocalAssign idx makeTemp
  | .setlocalWC0 idx => prepareLocalAssign idx makeTemp
  | .setn n => do
    let len := (← getStack).length
    genAssert (n < len)
    changeStackSlot (len - n - 1) (← topStackSlot)
  | .topn n => do
    let len := (← getStack).length
    genAssert (n < len)
    pushCopy tempOnlyP pos (← stackSlotAt (len - n - 1))
  | .dup => do
    pushCopy tempOnlyP pos (← topStackSlot)
  | .dupn n => do
    let len := (← getStack).length
    genAssert (n ≤ len)
    for i in List.range n do
      pushCopy tempOnlyP pos (← stackSlotAt (len - n + i))
  | .swap => do
    let op := (← getStack).length
    let slot1 ← stackSlotAt (op - 1)
    let slot2 ← stackSlotAt (op - 2)
    changeStackSlot (op - 1) slot2
    changeStackSlot (op - 2) slot1
  | .reverse n => do
    let len := (← getStack).length
    for i in List.range n do
      changeStackSlot (len - i - 1) ⟨.temp, 0⟩
  | .expandarray num flag => do
    let len := (← getStack).length
    genAssert (0 < len)
    truncStack (len - 1)
    for _ in List.range (num + flag % 2) do
      pushVal .temp pos
  | _ => if resultP then pushVal .temp pos else pure ()

/-- `update_stack_by_insn`: emulate the instruction at `pos` on the stack of `depth` slots and return the new
depth. -/
def updateStackByInsn (pos depth : Nat) : GenM Nat := do
  setPosStackFree ((← getPosStackFree).set pos (depth + 1))
  let insn ← insnAt iseq pos
  let len := insn.insnLen
  let some depth' := insn.stackIncrease depth | throw .assertion
  let resultP := !insn.noResultP && !(insn matches .dupn _ | .expandarray ..)
  if insn.noResultP then
    genAssert (depth' ≤ (← getStack).length)
    truncStack depth'
  else if resultP then
    genAssert (0 < depth' ∧ depth' - 1 ≤ (← getStack).length)
    truncStack (depth' - 1)
  let mut tempOnlyP := (← getUseOnlyTempResultP).getD pos false
  if !tempOnlyP then
    let ind ← getInsnInfoEntryInd
    if (combinedEventP (posEvent iseq ind pos) (posEvent iseq ind (pos + len))).isNone then
      tempOnlyP := true
      setUseOnlyTemp pos
  pushResults pos len depth' resultP tempOnlyP insn
  genAssert ((← getStack).length = depth')
  pure depth'

/-- Turn every slot of the stack that is not a temporary into one, flagging its producer: the stack at a
catch-region bound. -/
def forceTempsAtBound : Nat → Nat → GenM Unit
  | _, 0 => pure ()
  | i, k + 1 => do
    let slot ← stackSlotAt i
    if slot.mode ≠ .temp then
      setUseOnlyTemp slot.sourceInsnPos
      changeStackSlot i { slot with mode := .temp }
    forceTempsAtBound (i + 1) k

/-- The inner `for` loop of `find_stack_values_on_labels`: walk from `pos` (reached with `depth` slots) until a
`jump`, a `leave`, the end of the code, or a processed label where nothing changed. -/
def walkFrom (startPos : Nat) : Nat → Nat → Nat → GenM Unit
  | 0, _, _ => throw .fuel
  | fuel + 1, pos, depth => do
    if iseqSize iseq.code ≤ pos then return
    if (← getCatchBoundPosP).getD pos false then
      forceTempsAtBound 0 (← getStack).length
    if pos ≠ startPos ∧ (← getPosLabelType).getD pos noLabel ≠ noLabel then
      genAssert (depth + 1 = (← getPosStackFree).getD pos 0)
      if ← updateSavedStackSlots ((← getLabelStartStackSlot).getD pos 0) then setStackOnLabelChangeP true
      else if (← getLabelProcessedP).getD pos false then return
    let insn ← insnAt iseq pos
    let depth' ← updateStackByInsn iseq pos depth
    if insn matches .jump _ | .leave then return
    walkFrom startPos fuel (pos + insn.insnLen) depth'

/-- The `while (TRUE)` loop of one iteration: walk from `pos`, then from each label popped off
`label_pos_stack`, restoring the stack saved there. -/
def processLabels : Nat → Nat → Nat → GenM Unit
  | 0, _, _ => throw .fuel
  | fuel + 1, pos, depth => do
    walkFrom iseq pos (iseqSize iseq.code + 1) pos depth
    let labels ← getLabelPosStack
    match labels.getLast? with
    | none => pure ()
    | some label =>
      setLabelPosStack labels.dropLast
      match (← getPosStackFree).getD label 0 with
      | 0 => throw .assertion
      | depth + 1 =>
        restoreStackSlots ((← getLabelStartStackSlot).getD label 0) depth
        processLabels fuel label depth

/-- One iteration of the outer loop: walk from position 0 and from every label queued, then clear
`label_processed_p`. -/
def analysisIteration : GenM Unit := do
  setStackOnLabelChangeP false
  processLabels iseq (iseqSize iseq.code + 2) 0 0
  setLabelProcessedP (List.replicate (iseqSize iseq.code) false)

/-- The `do … while (stack_on_label_change_p)` loop. -/
def iterateLabels : Nat → GenM Unit
  | 0 => throw .fuel
  | fuel + 1 => do
    analysisIteration iseq
    if ← getStackOnLabelChangeP then iterateLabels fuel

/-- The statements of `find_stack_values_on_labels` before its loop.  Note that `label_start_stack_slot` is
extended, never truncated. -/
def setupLabelValues : GenM Unit := do
  let size := iseqSize iseq.code
  setLabelPosStack []
  truncStack 0
  setSavedStackSlots []
  setPosStackFree (List.replicate size 0)
  setPosLabelType (List.replicate size noLabel)
  setLabelProcessedP (List.replicate size false)
  setUseOnlyTempResultP (List.replicate size false)
  setLabelStartStackSlot ((← getLabelStartStackSlot) ++ List.replicate size 0)
  setupLabelsFromCatchTable iseq

/-- `find_stack_values_on_labels`. -/
def findStackValuesOnLabels (fuel : Nat) : GenM Unit := do
  setupLabelValues iseq
  iterateLabels iseq fuel

/-- A state that one iteration gives back unchanged while it records a change repeats for ever: from it the
loop runs out of every fuel. -/
theorem iterateLabels_of_repeat {s : GenState} (hs : analysisIteration iseq s = .ok () s)
    (hc : s.stackOnLabelChangeP = true) : ∀ fuel, iterateLabels iseq fuel s = .error .fuel s
  | 0 => rfl
  | fuel + 1 => by
    simp only [iterateLabels, GenM.bind_run, hs, Var.get_ok, hc, if_true]
    exact iterateLabels_of_repeat hs hc fuel

end Analysis

end RtlMjit
