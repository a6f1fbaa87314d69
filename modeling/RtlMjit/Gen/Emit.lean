import RtlMjit.Gen.Analysis

/-!
# Emitting RTL

The helpers of the second pass.  They pop and push slots of the emulated stack and append RTL words: a value
that a slot describes lazily (`SELF`, `VAL`, `STR`, `LOC`) is only moved into a variable when an instruction
needs it there (`to_var`, `to_temp`), and a slot `LOC l` is read from local `l` at that later point.

Temporaries are the variables `-1, -2, …`: the slot at stack index `i` lives in temporary `-i-1`.
-/

namespace RtlMjit

/-- The basic instructions that can run Ruby code: the call family, `define_class` and `run_once`. -/
def BasicInsn.runsRubyCodeP : BasicInsn → Bool
  | .simpleCallSelf | .callSelf | .simpleCallRecv | .callRecv | .simpleCall | .call | .callSuper | .callSuperVal
  | .callBlock | .defineClass | .runOnce | .strFreezeCall | .strUminus | .regexpMatch2 => true
  | _ => false

/-- The instructions that can run Ruby code: those above, and the operator instructions, whose slow path
dispatches a method. -/
def RtlInsn.runsRubyCodeP : RtlInsn → Bool
  | .op .. | .bcmp .. => true
  | .basic b => b.runsRubyCodeP

/-- `insn_leaf_flag` of `insns_info.inc` (outside `src/`): an instruction is a leaf when it runs no Ruby code. -/
def leafRtlInsnP (insn : RtlInsn) : Bool := !insn.runsRubyCodeP

/-- `non_trapping_rtl_insn_p`. -/
def nonTrappingRtlInsnP : RtlInsn → Bool
  | .basic .nop | .basic .varSwap | .basic .temp2temp | .basic .loc2loc | .basic .loc2temp | .basic .temp2loc
  | .basic .val2loc | .basic .val2temp | .basic .self2var | .basic .iseq2var => true
  | _ => false

/-- The temporary of the slot above the `len` slots of the stack. -/
def topTemp (len : Nat) : Int := -(len : Int) - 1

/-- `append_vals`: append an instruction and its operands, with a `nop` in front when a trapping leaf
instruction starts the RTL of a catch-region bound. -/
def appendVals (insn : RtlInsn) (ops : List Word) : GenM Unit := do
  let rtl ← getIseqRtl
  if (← getCurrCatchRtlPos) = some rtl.length ∧ !nonTrappingRtlInsnP insn ∧ leafRtlInsnP insn then
    setIseqRtl (rtl ++ .insn (.basic .nop) :: .insn insn :: ops)
  else setIseqRtl (rtl ++ .insn insn :: ops)

/-- `append_vals` for an instruction that is not an operator. -/
def appendBasic (b : BasicInsn) (ops : List Word) : GenM Unit := appendVals (.basic b) ops

/-- `to_var`: make the value of a popped slot available in a variable, the slot's local or temporary `top`. -/
def toVar (slot : StackSlot) (top : Int) : GenM Int :=
  match slot.mode with
  | .loc l => pure l
  | .self => do appendBasic .self2var [.num top]; pure top
  | .val v => do appendBasic .val2temp [.num top, .val v]; pure top
  | .str v => do appendBasic .str2var [.num top, .val v]; pure top
  | _ => pure top

/-- `to_temp`: move the value of a slot into temporary `res` and return the slot, now a temporary.  A slot on
the stack (`stackP`) that was a local stops counting in `loc_stack_count`. -/
def toTemp (slot : StackSlot) (res : Int) (stackP : Bool) : GenM StackSlot := do
  match slot.mode with
  | .loc l =>
    appendBasic .loc2temp [.num res, .num l]
    if stackP then prepareStackSlotRewrite slot
  | .self => appendBasic .self2var [.num res]
  | .val v => appendBasic .val2temp [.num res, .val v]
  | .str v => appendBasic .str2var [.num res, .val v]
  | _ => pure ()
  pure { slot with mode := .temp }

/-- `to_temp` on stack slot `i`, into its own temporary. -/
def stackSlotToTemp (i : Nat) : GenM Unit := do
  let slot' ← toTemp (← stackSlotAt i) (topTemp i) true
  setStack ((← getStack).set i slot')

/-- `add_event`. -/
def addEvent (event : Event) : GenM Unit := do
  if event.definedP then
    setRtlInsnEventPositions ((← getRtlInsnEventPositions) ++ [(← getIseqRtl).length])
    setRtlInsnEvents ((← getRtlInsnEvents) ++ [event])

/-- `push_temp_result`: push the temporary `res` made by the current instruction. -/
def pushTempResult (res : Int) : GenM Unit := do
  genAssert (res < 0)
  pushVal .temp (← getCurrSourceInsnPos)

/-- `new_top_stack_temp_var`: push a temporary and return its index. -/
def newTopStackTempVar : GenM Int := do
  let res := topTemp (← getStack).length
  pushTempResult res
  pure res

/-- The temporary just above the stack: where an operand popped last is moved. -/
def freeTemp : GenM Int := do pure (topTemp (← getStack).length)

/-- `get_var`. -/
def getVar : GenM Int := do
  let slot ← popStackSlot
  toVar slot (← freeTemp)

/-- `get_2vars`. -/
def get2vars : GenM (Int × Int) := do
  let op2 ← getVar
  let op1 ← getVar
  pure (op1, op2)

/-- `get_local`: a local of this frame is pushed as a slot `LOC`, unless the result must be a temporary. -/
def getLocal (idx level : Nat) (tempOnlyP : Bool) : GenM Unit := do
  if level = 0 ∧ !tempOnlyP then
    pushVal (.loc idx) (← getCurrSourceInsnPos)
  else
    let res ← newTopStackTempVar
    if level = 0 then appendBasic .loc2temp [.num res, .num idx]
    else appendBasic .uploc2temp [.num res, .num idx, .num level]

/-- `set_local`. -/
def setLocal (idx level : Nat) : GenM Unit := do
  let slot ← popStackSlot
  if level = 0 then prepareLocalAssign idx stackSlotToTemp
  let op ← freeTemp
  match slot.mode with
  | .self =>
    if level = 0 then appendBasic .self2var [.num idx]
    else do appendBasic .self2var [.num op]; appendBasic .var2uploc [.num idx, .num op, .num level]
  | .val v =>
    if level = 0 then appendBasic .val2loc [.num idx, .val v]
    else appendBasic .val2uploc [.num idx, .val v, .num level]
  | .str v =>
    if level = 0 then appendBasic .str2var [.num idx, .val v]
    else do appendBasic .str2var [.num op, .val v]; appendBasic .var2uploc [.num idx, .num op, .num level]
  | .temp =>
    if level = 0 then appendBasic .temp2loc [.num idx, .num op]
    else appendBasic .var2uploc [.num idx, .num op, .num level]
  | .loc l =>
    if level = 0 then appendBasic .loc2loc [.num idx, .num l]
    else appendBasic .var2uploc [.num idx, .num l, .num level]
  | .any => genAssert false

/-- `putobject`. -/
def putobject (v : Value) (tempOnlyP : Bool) : GenM Unit := do
  if tempOnlyP then
    let res ← newTopStackTempVar
    appendBasic .val2temp [.num res, .val v]
  else pushVal (.val v) (← getCurrSourceInsnPos)

/-- `put_on_stack`: move the top `argsNum` slots into their temporaries. -/
def putOnStack (argsNum : Nat) : GenM Unit := do
  let len := (← getStack).length
  genAssert (argsNum ≤ len)
  for i in List.range argsNum do
    stackSlotToTemp (len - argsNum + i)

/-- `put_args_on_stack`. -/
def putArgsOnStack (argsNum : Nat) : GenM Unit := do
  let len := (← getStack).length
  putOnStack argsNum
  truncStack (len - argsNum)

/-- `specialized_load`. -/
def specializedLoad (resInsn : BasicInsn) (args : List Word) : GenM Unit := do
  let res ← newTopStackTempVar
  appendBasic resInsn (.num res :: args)

/-- `specialized_store`. -/
def specializedStore (resInsn : BasicInsn) (arg : Word) : GenM Unit := do
  let op ← getVar
  appendBasic resInsn [arg, .num op]

/-- `get_cd`: the call data of a call site, whose `call_start` is the temporary above the stack. -/
def getCd (ci : CallInfo) : GenM Int := do
  let start ← freeTemp
  setCdCallStarts ((← getCdCallStarts) ++ [(ci.index, start)])
  pure start

/-- `generate_call`: the arguments go into their temporaries; the receiver is read where it is. -/
def generateCall (ci : CallInfo) (block : Value) : GenM Unit := do
  let stackBlockP := ci.argsBlockarg
  putArgsOnStack ci.argsNum
  let slot ← popStackSlot
  let callStart ← getCd ci
  let simple := block = 0 ∧ !stackBlockP
  let blk : Word := .val block
  match slot.mode with
  | .self =>
    if simple then appendBasic .simpleCallSelf [.cd ci, .num callStart]
    else appendBasic .callSelf [.cd ci, .num callStart, blk]
  | .loc l =>
    if simple then appendBasic .simpleCallRecv [.cd ci, .num callStart, .num l]
    else appendBasic .callRecv [.cd ci, .num callStart, blk, .num l]
  | _ => do
    let _ ← toTemp slot callStart false
    if simple then appendBasic .simpleCall [.cd ci, .num callStart]
    else appendBasic .call [.cd ci, .num callStart, blk]
  let _ ← newTopStackTempVar

/-- `generate_unary_op`. -/
def generateUnaryOp (ci : CallInfo) (resOp : Op) : GenM Unit := do
  let slot ← popStackSlot
  let _ ← getCd ci
  let top ← freeTemp
  let op ← match slot.mode with
    | .self => do appendBasic .self2var [.num top]; pure top
    | .val v => do appendBasic .val2temp [.num top, .val v]; pure top
    | .str v => do appendBasic .str2var [.num top, .val v]; pure top
    | .loc l => pure (l : Int)
    | .temp => pure top
    | .any => do genAssert false; pure top
  let res ← newTopStackTempVar
  appendVals (.op resOp .var) [.cd ci, .num res, .num op]

/-- `make_imm_id`: the form of an operator with an immediate second operand, or `nop` when it has none. -/
def makeImmId (insnId : RtlInsn) (fixnumP flonumP : Bool) : RtlInsn :=
  match insnId with
  | .op o .var =>
    if !fixnumP ∧ !flonumP then
      if o = .ind then .op .ind .str else if o = .indset then .op .indset .str else .basic .nop
    else if o ∈ [.plus, .minus, .mult, .eq, .ne, .lt, .gt, .le, .ge, .div, .mod] then
      .op o (if fixnumP then .fix else .flo)
    else if o ∈ [.or, .and, .ltlt, .ind, .indset] then
      if fixnumP then .op o .fix else .basic .nop
    else .basic .nop
  | _ => .basic .nop

/-- The second operand of a binary operator: an immediate when the instruction has such a form, otherwise a
variable. -/
def secondOperand (resInsn : RtlInsn) (slot2 : StackSlot) : GenM (RtlInsn × Word) := do
  let top2 := (← freeTemp) - 1
  match slot2.mode with
  | .self => do appendBasic .self2var [.num top2]; pure (resInsn, .num top2)
  | .val v =>
    let immInsn := if fixnumP v then makeImmId resInsn true false
      else if flonumP v then makeImmId resInsn false true else .basic .nop
    if immInsn ≠ .basic .nop then pure (immInsn, .val v)
    else do appendBasic .val2temp [.num top2, .val v]; pure (resInsn, .num top2)
  | .str v =>
    let immInsn := makeImmId resInsn false false
    if immInsn ≠ .basic .nop then pure (immInsn, .val v)
    else do appendBasic .str2var [.num top2, .val v]; pure (resInsn, .num top2)
  | .loc l => pure (resInsn, .num l)
  | .temp => pure (resInsn, .num top2)
  | .any => do genAssert false; pure (resInsn, .num top2)

/-- `get_binary_ops`: pop the two operands and return the instruction actually used, the result temporary, the
first operand's variable and the second operand. -/
def getBinaryOps (resInsn : RtlInsn) (ci : CallInfo) : GenM (RtlInsn × Int × Int × Word) := do
  let slot2 ← popStackSlot
  let slot ← popStackSlot
  let res ← freeTemp
  let _ ← getCd ci
  let op ← toVar slot res
  let (resInsn', op2) ← secondOperand resInsn slot2
  pure (resInsn', res, op, op2)

/-- `get_simple_insn`. -/
def getSimpleInsn : RtlInsn → RtlInsn
  | .op o .var => if o ∈ [.plus, .minus, .mult, .eq, .ne, .lt, .gt, .le, .ge, .div, .mod, .or, .and] then
      .op o .simple else .basic .nop
  | _ => .basic .nop

/-- `generate_bin_op`: the simple form when both operands are already the result's stack temporaries. -/
def generateBinOp (ci : CallInfo) (resOp : Op) : GenM Unit := do
  let (resInsn, res, op, op2) ← getBinaryOps (.op resOp .var) ci
  pushTempResult res
  if res = op ∧ op2 = .num (res - 1) ∧ getSimpleInsn resInsn ≠ .basic .nop then
    appendVals (getSimpleInsn resInsn) [.cd ci, .num res]
  else appendVals resInsn [.cd ci, .num res, .num op, op2]

/-- `get_bcmp_insn`. -/
def getBcmpInsn (cmpInsn : RtlInsn) (btP : Bool) : GenM RtlInsn :=
  match cmpInsn with
  | .op o f =>
    if o ∈ [.eq, .ne, .lt, .gt, .le, .ge] ∧ f ∈ [.var, .fix, .flo] then pure (.bcmp btP o f)
    else do genAssert false; pure (.basic .nop)
  | _ => do genAssert false; pure (.basic .nop)

/-- Slot `n` of the stack saved for the label at `pos`. -/
def savedSlotAt (pos n : Nat) : GenM StackSlot := do
  match (← getSavedStackSlots).get? ((← getLabelStartStackSlot).getD pos 0 + n) with
  | some slot => pure slot
  | none => pure ⟨.any, 0⟩

/-- `tune_stack_slot`: make stack slot `n` agree with the slot saved for the label at `pos`. -/
def tuneStackSlot (pos n : Nat) : GenM Unit := do
  let saved ← savedSlotAt pos n
  genAssert ((← getPosLabelType).getD pos noLabel ≠ noLabel)
  let cur ← stackSlotAt n
  if saved.mode = .temp ∧ cur.mode ≠ .temp ∧ cur.mode ≠ .any then stackSlotToTemp n
  let cur' ← stackSlotAt n
  genAssert (cur'.mode = .any ∨ saved.mode = .any ∨ stackSlotEq saved cur')

/-- `tune_stack`: reconcile the stack with the label at `pos` before an edge into it, or (`restoreP`, after
unreachable code) take the saved stack. -/
def tuneStack (pos : Nat) (restoreP : Bool) : GenM Unit := do
  let depth := (← getPosStackFree).getD pos 0
  genAssert ((← getPosLabelType).getD pos noLabel ≠ noLabel ∧ depth ≠ 0)
  if restoreP then
    truncStack 0
    for i in List.range (depth - 1) do
      pushStackSlot (← savedSlotAt pos i)
  else
    genAssert ((← getStack).length = depth - 1)
    for i in List.range (depth - 1) do
      tuneStackSlot pos i

/-- `branch_target_locs`: remember where the label operand of the instruction just emitted is. -/
def pushBranchTargetLoc (offset : Nat) : GenM Unit := do
  setBranchTargetLocs ((← getBranchTargetLocs) ++ [⟨(← getIseqRtl).length, offset⟩])

/-- `generate_leave`. -/
def generateLeave : GenM Unit := do
  let op : Int := -((← getStack).length : Int)
  match (← topStackSlot).mode with
  | .self => do appendBasic .self2var [.num op]; appendBasic .tempRet [.num op]
  | .val v => appendBasic .valRet [.val v]
  | .str v => do appendBasic .str2var [.num op, .val v]; appendBasic .tempRet [.num op]
  | .temp => appendBasic .tempRet [.num op]
  | .loc l => appendBasic .locRet [.num l]
  | .any => genAssert false

end RtlMjit
