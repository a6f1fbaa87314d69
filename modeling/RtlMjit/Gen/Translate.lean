import RtlMjit.Gen.Emit

/-!
# The second pass: translating stack instructions

`translate_stack_insn` turns one stack instruction into RTL, after reconciling the emulated stack with the
slots saved at a label (`tune_stack`).  Two instructions are fused with the ones that follow them: a
comparison followed by `branchif` or `branchunless` becomes one compare-and-branch (`generate_rel_op`), and
`getinlinecache; getconstant; setinlinecache` becomes one `const_cached_val_ld`.  `translate` runs it over the
whole sequence.
-/

namespace RtlMjit

section Translate

variable (iseq : Iseq) (cObject : Value)

/-- `generate_rel_op`: a comparison at `pos` whose next instruction is a `branchif` or `branchunless` becomes
a compare-and-branch, unless `pos` is a label.  Returns the number of stack words translated. -/
def generateRelOp (pos len : Nat) (ci : CallInfo) (resOp : Op) : GenM Nat := do
  let nextInsn := fetch iseq.code (pos + len)
  let (btP, dst, nextLen) ← match nextInsn with
    | some (.branchif d) => pure (true, d, 2)
    | some (.branchunless d) => pure (false, d, 2)
    | _ => pure (false, 0, 0)
  if (← getPosLabelType).getD pos noLabel ≠ noLabel ∨ nextLen = 0 then
    generateBinOp ci resOp
    return len
  let (resInsn, res, op, op2) ← getBinaryOps (.op resOp .var) ci
  let resInsn ← getBcmpInsn resInsn btP
  let dest := (dst + pos + len + nextLen).toNat
  tuneStack dest false
  appendVals resInsn [.insn (.basic (if btP then .contBtcmp else .contBfcmp)), .num dest, .cd ci, .num res,
    .num op, op2]
  pushBranchTargetLoc 5
  pure (len + nextLen)

/-- `generate_aset_op`: `opt_aset` (`str = none`) or `opt_aset_with` with the string key `str`. -/
def generateAsetOp (ci : CallInfo) (str : Option Value) : GenM Unit := do
  let slot3 ← popStackSlot
  let slot2 ← if str.isNone then popStackSlot else pure ⟨.val 1, 0⟩
  let slot ← popStackSlot
  let res ← freeTemp
  let _ ← getCd ci
  let op ← toVar slot res
  let top2 := res - 1
  let (resInsn, op2) ← match str, slot2.mode with
    | some k, _ => pure (makeImmId (.op .indset .var) false false, Word.val k)
    | none, .self => do appendBasic .self2var [.num top2]; pure (.op .indset .var, .num top2)
    | none, .val v =>
      let immInsn := if fixnumP v then makeImmId (.op .indset .var) true false
        else if flonumP v then makeImmId (.op .indset .var) false true else .basic .nop
      if immInsn ≠ .basic .nop then pure (immInsn, .val v)
      else do appendBasic .val2temp [.num top2, .val v]; pure (.op .indset .var, .num top2)
    | none, .str v => do appendBasic .str2var [.num top2, .val v]; pure (.op .indset .var, .num top2)
    | none, .loc l => pure (.op .indset .var, .num l)
    | none, .temp => pure (.op .indset .var, .num top2)
    | none, .any => do genAssert false; pure (.op .indset .var, .num top2)
  let op3 ← toVar slot3 (res - 1 - (if str.isNone then 1 else 0))
  let res' ← newTopStackTempVar
  appendVals resInsn [.cd ci, .num res', .num op, op2, .num op3]

/-- The `getinlinecache; getconstant; setinlinecache` sequence that `getinlinecache` at `pos` fuses into one
instruction: the `getconstant` operand, when the two following positions are not labels, the offset skips
exactly them, and both caches are the same. -/
def inlineCacheFusion (posLabelType : List Nat) (pos len : Nat) (dst : Int) (ic : Nat) : Option Nat :=
  match fetch iseq.code (pos + len), fetch iseq.code (pos + len + 2) with
  | some (.getconstant id), some (.setinlinecache ic') =>
    if posLabelType.getD (pos + len) noLabel = noLabel ∧ posLabelType.getD (pos + len + 2) noLabel = noLabel
      ∧ dst = 4 ∧ ic = ic' then some id else none
  | _, _ => none

/-- Pop two operands into variables, the second popped first: `checkmatch`, `setconstant`, `defineclass`. -/
def popTwoVars : GenM (Int × Int) := get2vars

/-- The `switch` of `translate_stack_insn`: emit the RTL of `insn` at `pos` and return the number of stack
words translated. -/
def translateInsn (pos len : Nat) (tempOnlyP nopP : Bool) : Insn → GenM Nat
  | .getlocal idx level => do getLocal idx level tempOnlyP; pure len
  | .setlocal idx level => do setLocal idx level; pure len
  | .getspecial key type => do specializedLoad .special2var [.num key, .num type]; pure len
  | .setspecial key => do specializedStore .var2special (.num key); pure len
  | .getinstancevariable id ic => do specializedLoad .ivar2var [.num id, .num ic]; pure len
  | .setinstancevariable id ic => do
    let slot ← popStackSlot
    match slot.mode with
    | .val v => appendBasic .val2ivar [.num id, .num ic, .val v]
    | _ => do
      let op ← toVar slot (← freeTemp)
      appendBasic (if op < 0 then .temp2ivar else .loc2ivar) [.num id, .num ic, .num op]
    pure len
  | .getclassvariable id => do specializedLoad .cvar2var [.num id]; pure len
  | .setclassvariable id => do specializedStore .var2cvar (.num id); pure len
  | .getconstant id => do
    let slot ← popStackSlot
    let res ← newTopStackTempVar
    match slot.mode with
    | .val v =>
      if v = qnil ∨ v = cObject then appendBasic .constLdVal [.num id, .num res, .val v]
      else do let op ← toVar slot res; appendBasic .const2var [.num id, .num res, .num op]
    | _ => do let op ← toVar slot res; appendBasic .const2var [.num id, .num res, .num op]
    pure len
  | .setconstant id => do
    let (op1, op2) ← popTwoVars
    appendBasic .var2const [.num id, .num op1, .num op2]
    pure len
  | .getglobal entry => do specializedLoad .global2var [.num entry]; pure len
  | .setglobal entry => do specializedStore .var2global (.num entry); pure len
  | .putnil => do putobject qnil tempOnlyP; pure len
  | .putself => do
    if tempOnlyP then
      let res ← newTopStackTempVar
      appendBasic .self2var [.num res]
    else pushStackSlot ⟨.self, pos⟩
    pure len
  | .putobject v => do putobject v tempOnlyP; pure len
  | .putspecialobject type => do specializedLoad .specialobj2var [.num type]; pure len
  | .putiseq i => do specializedLoad .iseq2var [.val i]; pure len
  | .getblockparam idx level => do specializedLoad .getBlockParam [.num idx, .num level]; pure len
  | .getblockparamproxy idx level => do specializedLoad .getBlockParamProxy [.num idx, .num level]; pure len
  | .setblockparam idx level => do
    let op ← getVar
    appendBasic .setBlockParam [.num idx, .num level, .num op]
    pure len
  | .putstring str => do specializedLoad .str2var [.val str]; pure len
  | .concatstrings cnt => do
    putArgsOnStack cnt
    let res ← newTopStackTempVar
    appendBasic .concatStrings [.num res, .num cnt]
    pure len
  | .tostring => do
    let (op1, op2) ← get2vars
    genAssert (op2 < 0)
    let res ← newTopStackTempVar
    appendBasic .toString [.num res, .num op1, .num op2]
    pure len
  | .freezestring debugInfo => do
    let slot ← popStackSlot
    let strOp ← freeTemp
    pushStackSlot (← toTemp slot strOp false)
    appendBasic .freezeString [.num strOp, .val debugInfo]
    pure len
  | .toregexp opt cnt => do
    putArgsOnStack cnt
    let res ← newTopStackTempVar
    appendBasic .toRegexp [.num res, .num opt, .num cnt]
    pure len
  | .newarray cnt => do
    putArgsOnStack cnt
    let res ← newTopStackTempVar
    appendBasic .makeArray [.num res, .num res, .num cnt]
    pure len
  | .newhash cnt => do
    putArgsOnStack cnt
    let res ← newTopStackTempVar
    appendBasic .makeHash [.num res, .num res, .num cnt]
    pure len
  | .duparray ary => do specializedLoad .cloneArray [.val ary]; pure len
  | .expandarray num flag => do
    let slot ← popStackSlot
    let ary ← freeTemp
    pushStackSlot (← toTemp slot ary false)
    let ary ← getVar
    for _ in List.range (num + flag % 2) do
      let _ ← newTopStackTempVar
    appendBasic .spreadArray [.num ary, .num num, .num flag]
    pure len
  | .concatarray => do
    let (op1, op2) ← get2vars
    let res ← newTopStackTempVar
    appendBasic .concatArray [.num res, .num op1, .num op2]
    pure len
  | .splatarray flag => do
    let op ← getVar
    let res ← newTopStackTempVar
    appendBasic .splatArray [.num res, .num op, .val flag]
    pure len
  | .newrange flag => do
    let (op1, op2) ← get2vars
    let res ← newTopStackTempVar
    appendBasic .makeRange [.num res, .num op1, .num op2, .num flag]
    pure len
  | .pop => do let _ ← popStackSlot; pure len
  | .dup => do
    let slot ← topStackSlot
    let op : Int := -((← getStack).length : Int)
    if slot.mode = .temp then appendBasic .temp2temp [.num (op - 1), .num op]
    pushStackSlot { slot with sourceInsnPos := pos }
    pure len
  | .dupn n => do
    let len0 := (← getStack).length
    genAssert (n ≤ len0)
    for i in List.range n do
      let opi := len0 - n + i
      let slot ← stackSlotAt opi
      if slot.mode = .temp then appendBasic .temp2temp [.num (← freeTemp), .num (topTemp opi)]
      pushStackSlot { slot with sourceInsnPos := pos }
    pure len
  | .swap => do
    let slot2 ← popStackSlot
    let slot ← popStackSlot
    let op ← freeTemp
    if slot.mode ≠ .temp ∨ slot2.mode ≠ .temp then
      if slot2.mode = .temp then appendBasic .temp2temp [.num op, .num (op - 1)]
      pushStackSlot slot2
      if slot.mode = .temp then appendBasic .temp2temp [.num (op - 1), .num op]
      pushStackSlot slot
    else
      appendBasic .varSwap [.num op, .num (op - 1)]
      pushStackSlot slot
      pushStackSlot slot2
    pure len
  | .reverse n => do
    putOnStack n
    appendBasic .tempReverse [.num n, .num (topTemp ((← getStack).length - n))]
    pure len
  | .reput => throw .abort
  | .topn n => do
    let len0 := (← getStack).length
    genAssert (n < len0)
    let opi := len0 - n - 1
    let slot ← stackSlotAt opi
    if slot.mode = .temp then appendBasic .temp2temp [.num (topTemp len0), .num (topTemp opi)]
    pushStackSlot slot
    pure len
  | .setn n => do
    genAssert (0 < n)
    let len := (← getStack).length
    genAssert (n < len)
    let slot ← topStackSlot
    let i := len - n - 1
    changeStackSlot i { slot with sourceInsnPos := pos }
    if slot.mode = .temp then appendBasic .temp2temp [.num (topTemp i), .num (-(len : Int))]
    pure len
  | .adjuststack n => do
    genAssert (n ≤ (← getStack).length)
    popSlots n
    pure len
  | .defined opType obj needstr => do
    let slot ← popStackSlot
    let (insn, op) ← match slot.mode with
      | .val v => pure (BasicInsn.valDefinedP, Word.val v)
      | .str v => pure (.valDefinedP, .val v)
      | _ => do pure (.definedP, .num (← toVar slot (← freeTemp)))
    let res ← newTopStackTempVar
    appendBasic insn [.num res, op, .num opType, .val obj, .val needstr]
    pure len
  | .checkmatch flag => do
    let (op1, op2) ← popTwoVars
    let res ← newTopStackTempVar
    appendBasic .checkMatch [.num res, .num op1, .num op2, .num flag]
    pure len
  | .checkkeyword a b => do specializedLoad .checkKeyword [.num a, .num b]; pure len
  | .checktype type => do
    let op ← getVar
    let res ← newTopStackTempVar
    appendBasic .checkType [.num res, .num op, .num type]
    pure len
  | .defineclass id classIseq flags => do
    let (op1, op2) ← popTwoVars
    let res ← newTopStackTempVar
    appendBasic .defineClass [.num id, .val classIseq, .num flags, .num op1, .num op2, .num res]
    pure len
  | .send ci block => do generateCall ci block; pure len
  | .optStrFreeze str ci => do
    let _ ← getCd ci
    let res ← newTopStackTempVar
    appendBasic .strFreezeCall [.cd ci, .num res, .val str]
    pure len
  | .optStrUminus str ci => do
    let _ ← getCd ci
    let res ← newTopStackTempVar
    appendBasic .strUminus [.cd ci, .num res, .val str]
    pure len
  | .optNewarrayMax num => do
    putArgsOnStack num
    let start ← newTopStackTempVar
    appendBasic .newArrayMax [.num start, .num start, .num num]
    pure len
  | .optNewarrayMin num => do
    putArgsOnStack num
    let start ← newTopStackTempVar
    appendBasic .newArrayMin [.num start, .num start, .num num]
    pure len
  | .optSendWithoutBlock ci => do generateCall ci 0; pure len
  | .invokesuper ci block => do
    putArgsOnStack ci.argsNum
    let slot ← popStackSlot
    let callStart ← getCd ci
    match slot.mode with
    | .val v => appendBasic .callSuperVal [.cd ci, .num callStart, .val block, .val v]
    | _ => do
      let op ← toVar slot (← freeTemp)
      appendBasic .callSuper [.cd ci, .num callStart, .val block, .num op]
    pushTempResult callStart
    pure len
  | .invokeblock ci => do
    putArgsOnStack ci.origArgc
    let callStart ← getCd ci
    appendBasic .callBlock [.cd ci, .num callStart]
    let _ ← newTopStackTempVar
    pure len
  | .leave => do generateLeave; pure len
  | .throw throwState => do
    let slot ← topStackSlot
    match slot.mode with
    | .val v => appendBasic .raiseExceptVal [.val v, .num throwState]
    | _ => do
      let op ← toVar slot (-((← getStack).length : Int))
      appendBasic .raiseExcept [.num op, .num throwState]
    pure len
  | .jump dst => do
    let dest := (dst + pos + len).toNat
    match fetch iseq.code dest with
    | some .leave => generateLeave
    | _ => do
      tuneStack dest false
      appendBasic .goto [.num dest]
      pushBranchTargetLoc 1
    pure len
  | .branchif dst => branch .bt dst
  | .branchunless dst => branch .bf dst
  | .branchnil dst => branch .bnil dst
  | .getinlinecache dst ic => do
    let res ← freeTemp
    let len' ← match inlineCacheFusion iseq (← getPosLabelType) pos len dst ic with
      | some id => do
        appendBasic .constCachedValLd [.num res, .val qnil, .num id, .num ic]
        pure (len + 4)
      | none => do
        appendBasic .getInlineCache [.num (dst + pos + len), .num res, .num ic]
        pushBranchTargetLoc 3
        pure len
    pushTempResult res
    pure len'
  | .setinlinecache ic => do
    let op ← getVar
    appendBasic .setInlineCache [.num op, .num ic]
    pushTempResult op
    pure len
  | .once i ise => do specializedLoad .runOnce [.val i, .num ise]; pure len
  | .optCaseDispatch hash elseOffset => do
    let incr : Int := pos + len
    let hash' := hash.map fun kv => (kv.1, kv.2 + incr)
    let op ← getVar
    appendBasic .caseDispatch [.num op, .hash hash', .num (elseOffset + incr)]
    pushBranchTargetLoc 1
    pushBranchTargetLoc 0
    pure len
  | .optPlus ci => do generateBinOp ci .plus; pure len
  | .optMinus ci => do generateBinOp ci .minus; pure len
  | .optMult ci => do generateBinOp ci .mult; pure len
  | .optDiv ci => do generateBinOp ci .div; pure len
  | .optOr ci => do generateBinOp ci .or; pure len
  | .optAnd ci => do generateBinOp ci .and; pure len
  | .optMod ci => do generateBinOp ci .mod; pure len
  | .optEq ci => generateRelOp iseq pos len ci .eq
  | .optNeq _ ci => generateRelOp iseq pos len ci .ne
  | .optLt ci => generateRelOp iseq pos len ci .lt
  | .optLe ci => generateRelOp iseq pos len ci .le
  | .optGt ci => generateRelOp iseq pos len ci .gt
  | .optGe ci => generateRelOp iseq pos len ci .ge
  | .optLtlt ci => do generateBinOp ci .ltlt; pure len
  | .optAref ci => do generateBinOp ci .ind; pure len
  | .optAset ci => do generateAsetOp ci none; pure len
  | .optAsetWith key ci => do generateAsetOp ci (some key); pure len
  | .optArefWith key ci => do
    pushStackSlot ⟨.str key, pos⟩
    generateBinOp ci .ind
    pure len
  | .optLength ci => do generateUnaryOp ci .length; pure len
  | .optSize ci => do generateUnaryOp ci .size; pure len
  | .optEmptyP ci => do generateUnaryOp ci .emptyP; pure len
  | .optSucc ci => do generateUnaryOp ci .succ; pure len
  | .optNot ci => do generateUnaryOp ci .not; pure len
  | .intern => do
    let op ← getVar
    let res ← newTopStackTempVar
    appendBasic .str2sym [.num res, .num op]
    pure len
  | .optRegexpmatch1 regexp => do
    let op ← getVar
    let res ← newTopStackTempVar
    appendBasic .regexpMatch1 [.num res, .val regexp, .num op]
    pure len
  | .optRegexpmatch2 ci => do
    let slot2 ← popStackSlot
    let slot ← popStackSlot
    let res ← freeTemp
    let _ ← getCd ci
    let op ← toVar slot res
    let op2 ← toVar slot2 (res - 1)
    appendBasic .regexpMatch2 [.cd ci, .num res, .num op, .num op2]
    pushTempResult res
    pure len
  | .optCallCFunction funcptr => do
    putOnStack (iseq.paramSize + 1)
    appendBasic .callCFunc [.num funcptr, .num (iseq.paramSize + 1)]
    pure len
  | .bitblt | .answer => do genAssert false; pure len
  | .tracecoverage nf data => do appendBasic .traceCoverage [.num nf, .val data]; pure len
  | .nop => do
    if !nopP ∧ (← getCatchBoundPosP).getD pos false then appendBasic .nop []
    pure len
  | .getlocalWC0 idx => do getLocal idx 0 tempOnlyP; pure len
  | .getlocalWC1 idx => do getLocal idx 1 tempOnlyP; pure len
  | .setlocalWC0 idx => do setLocal idx 0; pure len
  | .setlocalWC1 idx => do setLocal idx 1; pure len
  | .putobjectINT2FIX0 => do putobject (int2fix 0) tempOnlyP; pure len
  | .putobjectINT2FIX1 => do putobject (int2fix 1) tempOnlyP; pure len
where
  /-- `branchif`, `branchunless` and `branchnil`. -/
  branch (resInsn : BasicInsn) (dst : Int) : GenM Nat := do
    let op ← getVar
    let dest := (dst + pos + len).toNat
    tuneStack dest false
    appendBasic resInsn [.num dest, .num op]
    pushBranchTargetLoc 2
    pure len

/-- Attach the event of `pos` to the RTL about to be emitted, or put it on a `nop` when it cannot share an
instruction with the event already there; the result says whether a `nop` was added. -/
def attachEvent (pos : Nat) : GenM Bool := do
  let event := posEvent iseq (← getInsnInfoEntryInd) pos
  if !event.definedP then return false
  let events ← getRtlInsnEvents
  if (← getRtlInsnEventPositions).getLast? = some (← getIseqRtl).length then
    let last := match events.getLast? with
      | some ev => ev
      | none => event
    match combinedEventP last event with
    | some ev =>
      setRtlInsnEvents (events.dropLast ++ [ev])
      pure false
    | none =>
      appendBasic .nop []
      addEvent event
      pure true
  else
    addEvent event
    pure false

/-- `translate_stack_insn`: translate the instruction at `curr_source_insn_pos`, reached after `prevInsn`. -/
def translateStackInsn (prevInsn : Insn) : GenM Unit := do
  let pos ← getCurrSourceInsnPos
  let insn ← insnAt iseq pos
  let len := insn.insnLen
  let labelType := (← getPosLabelType).getD pos noLabel
  if prevInsn matches .jump _ | .leave then setUnreachableCodeP true
  if labelType ≠ noLabel then
    tuneStack pos (← getUnreachableCodeP)
    setUnreachableCodeP false
  if ← getUnreachableCodeP then
    setNewInsnOffsets ((← getNewInsnOffsets).set pos (← getIseqRtl).length)
    if (← getCatchBoundPosP).getD pos false then appendBasic .nop []
    setCurrSourceInsnPos (pos + len)
    return
  if (← getCatchBoundPosP).getD pos false then setCurrCatchRtlPos (some (← getIseqRtl).length)
  let nopP ← attachEvent iseq pos
  setNewInsnOffsets ((← getNewInsnOffsets).set pos (← getIseqRtl).length)
  let tempOnlyP := (← getUseOnlyTempResultP).getD pos false
  let len' ← translateInsn iseq cObject pos len tempOnlyP nopP insn
  setCurrSourceInsnPos (pos + len')

/-- The loop of `translate`: each instruction is translated after the one read before it. -/
def translateLoop (size : Nat) : Nat → Insn → GenM Unit
  | 0, _ => throw .fuel
  | fuel + 1, prevInsn => do
    let pos ← getCurrSourceInsnPos
    if size ≤ pos then return
    let insn ← insnAt iseq pos
    translateStackInsn iseq cObject prevInsn
    translateLoop size fuel insn

/-- The set-up of `translate`: the arrays of the second pass emptied, and `new_insn_offsets` zero at every
position. -/
def translateInit : GenM Unit := do
  setBranchTargetLocs []
  truncStack 0
  setIseqRtl []
  setRtlInsnEventPositions []
  setRtlInsnEvents []
  setNewInsnOffsets (List.replicate (iseqSize iseq.code) 0)
  setUnreachableCodeP false
  setCurrSourceInsnPos 0

/-- `translate`. -/
def translate : GenM Unit := do
  let size := iseqSize iseq.code
  translateInit iseq
  translateLoop iseq cObject size (size + 1) .nop
  truncStack 0

end Translate

end RtlMjit
