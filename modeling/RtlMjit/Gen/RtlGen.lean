import RtlMjit.Gen.Translate

/-!
# `rtl_gen`

The entry function runs the two passes and then finishes the iseq: it copies the RTL, patches every branch
operand from the stack position it names to a displacement in the RTL (`branch_target_locs`), maps the
optional-parameter table and the catch table to RTL positions, and builds the RTL insn-info table.

The allocations of `rtl_gen` and what it writes into the iseq body are in `Gen.Install`; here a run either
ends with the tables it builds or stops on a failing check.  The call data of the iseq appear through the
`call_start` that `get_cd` writes into them.
-/

namespace RtlMjit

/-! ### The RTL insn-info table -/

/-- `insn_len` of the RTL instructions (the generated `insns_info.inc`, outside `src/`): the instruction word
and the operands the generator appends for it. -/
def RtlInsn.insnLen : RtlInsn → Nat
  | .op o .var => if o = .indset then 6 else if o ∈ [.length, .size, .emptyP, .succ, .not] then 4 else 5
  | .op o _ => if o = .indset then 6 else 5
  | .bcmp .. => 7
  | .basic b => match b with
    | .nop | .contBtcmp | .contBfcmp => 1
    | .self2var | .tempRet | .locRet | .valRet | .goto => 2
    | .val2temp | .str2var | .loc2temp | .val2loc | .temp2loc | .loc2loc | .temp2temp | .varSwap | .tempReverse
    | .simpleCallSelf | .simpleCall | .callBlock | .var2special | .cvar2var | .var2cvar | .global2var
    | .var2global | .specialobj2var | .iseq2var | .concatStrings | .freezeString | .cloneArray | .raiseExcept
    | .raiseExceptVal | .bt | .bf | .bnil | .setInlineCache | .str2sym | .callCFunc | .traceCoverage => 3
    | .uploc2temp | .var2uploc | .val2uploc | .callSelf | .simpleCallRecv | .call | .special2var | .ivar2var
    | .val2ivar | .temp2ivar | .loc2ivar | .constLdVal | .const2var | .var2const | .getBlockParam
    | .getBlockParamProxy | .setBlockParam | .toString | .toRegexp | .makeArray | .makeHash | .spreadArray
    | .concatArray | .splatArray | .checkKeyword | .checkType | .strFreezeCall | .strUminus | .newArrayMax
    | .newArrayMin | .getInlineCache | .runOnce | .caseDispatch | .regexpMatch1 => 4
    | .callRecv | .callSuper | .callSuperVal | .makeRange | .checkMatch | .constCachedValLd | .regexpMatch2 => 5
    | .valDefinedP | .definedP => 6
    | .defineClass => 7

/-- `insn_len(rtl_encoded[pos])`. -/
def rtlLenAt (rtl : List Word) (pos : Nat) : Nat :=
  match rtl.getD pos (.num 0) with
  | .insn i => i.insnLen
  | _ => 1

/-- Whether the entry for the event at index `i` needs an entry after its instruction that switches the line
event off: the next instruction has no event of its own. -/
def lineOffNeeded (rtl : List Word) (positions : List Nat) (events : List Event) (i : Nat) : Bool :=
  let pos := positions.getD i 0
  let next := pos + rtlLenAt rtl pos
  let n := positions.length
  (events.getD i ⟨false, ⟨0, 0⟩⟩).infoEntry.events &&& rubyEventLine ≠ 0 ∧
    ((i + 1 < n ∧ next ≠ positions.getD (i + 1) 0) ∨ (i + 1 = n ∧ next < rtl.length))

/-- The entries that `create_rtl_insn_info_table` writes for the event at index `i`: the event, then the
line-off entries. -/
def insnInfoEntriesAt (rtl : List Word) (positions : List Nat) (events : List Event) (i : Nat) :
    List (Nat × InfoEntry) :=
  let pos := positions.getD i 0
  let entry := (events.getD i ⟨false, ⟨0, 0⟩⟩).infoEntry
  let n := positions.length
  if lineOffNeeded rtl positions events i then
    [(pos, entry), (pos + rtlLenAt rtl pos, ⟨entry.lineNo, 0⟩)]
  else if entry.events &&& rubyEventLine ≠ 0 then
    let next := pos + rtlLenAt rtl pos
    if (i + 1 < n ∧ positions.getD (i + 1) 0 ≠ next) ∨ (i + 1 = n ∧ next < rtl.length) then
      [(pos, entry), (next, ⟨entry.lineNo, 0⟩)]
    else [(pos, entry)]
  else [(pos, entry)]

/-- `create_rtl_insn_info_table`: the event positions, the first moved to position 0, with an entry that
switches a line event off after each line event whose next instruction has no event. -/
def createRtlInsnInfoTable (rtl : List Word) (positions : List Nat) (events : List Event) :
    List (Nat × InfoEntry) :=
  let positions := match positions with
    | [] => []
    | _ :: rest => 0 :: rest
  (List.range positions.length).flatMap (insnInfoEntriesAt rtl positions events)

/-! ### Relocation -/

/-- Patch the label operand at one `branch_target_loc`: a stack position becomes the displacement of its RTL
from the next instruction; for a case-dispatch hash, every value. -/
def patchBranchTarget (newInsnOffsets : List Nat) (rtl : List Word) (loc : BranchTargetLoc) : List Word :=
  let target (dest : Int) : Int := (newInsnOffsets.getD dest.toNat 0 : Int) - loc.nextInsnPc
  if loc.offset = 0 then
    match rtl.getD (loc.nextInsnPc - 2) (.num 0) with
    | .hash h => rtl.set (loc.nextInsnPc - 2) (.hash (h.map fun kv => (kv.1, target kv.2)))
    | _ => rtl
  else
    match rtl.getD (loc.nextInsnPc - loc.offset) (.num 0) with
    | .num dest => rtl.set (loc.nextInsnPc - loc.offset) (.num (target dest))
    | _ => rtl

/-- The loop of `rtl_gen` over `branch_target_locs`. -/
def patchBranchTargets (newInsnOffsets : List Nat) (rtl : List Word) (locs : List BranchTargetLoc) : List Word :=
  locs.foldl (patchBranchTarget newInsnOffsets) rtl

/-- `setup_opt_table`: map the entries `0 … opt_num` of `param.opt_table` to RTL positions, in place. -/
def setupOptTable (newInsnOffsets : List Nat) (optNum : Nat) (optTable : List Nat) : List Nat :=
  if optNum = 0 then optTable
  else (optTable.take (optNum + 1)).map (newInsnOffsets.getD · 0) ++ optTable.drop (optNum + 1)

/-- `create_rtl_catch_table`: each entry with its positions mapped, unless a position is out of range. -/
def createRtlCatchTable (size : Nat) (newInsnOffsets : List Nat) (table : Option (List CatchEntry)) :
    Option (List CatchEntry) :=
  table.map fun entries => entries.map fun e =>
    if size ≤ e.start ∨ size ≤ e.stop ∨ size ≤ e.cont then e
    else { e with start := newInsnOffsets.getD e.start 0, stop := newInsnOffsets.getD e.stop 0,
                  cont := newInsnOffsets.getD e.cont 0 }

/-! ### The entry function -/

/-- `insn_info_entry_ind`: for each position, the index of the insn-info entry attached to it, or `-1`; an
entry that only switches a line event off is not attached. -/
def insnInfoEntryIndFrom (info : List (Nat × InfoEntry)) : Nat → Nat → Nat → List Int
  | _, _, 0 => []
  | pos, i, k + 1 =>
    if i < info.length ∧ pos = (info.getD i (0, ⟨0, 0⟩)).1 then
      let e := (info.getD i (0, ⟨0, 0⟩)).2
      let prev := (info.getD (i - 1) (0, ⟨0, 0⟩)).2
      let keep := e.events ≠ 0 ∨ i = 0 ∨ prev.events &&& rubyEventLine = 0 ∨ prev.lineNo ≠ e.lineNo
      (if keep then (i : Int) else -1) :: insnInfoEntryIndFrom info (pos + 1) (i + 1) k
    else -1 :: insnInfoEntryIndFrom info (pos + 1) i k

/-- What `rtl_gen` writes into the iseq. -/
structure RtlGenOutput where
  rtlEncoded : List Word
  tempVarsNum : Nat
  optTable : List Nat
  rtlCatchTable : Option (List CatchEntry)
  rtlInsnsInfo : List (Nat × InfoEntry)
  cdCallStarts : List (Nat × Int)
  newInsnOffsets : List Nat
deriving DecidableEq

/-- The start of `rtl_gen`: fresh call data, `initialize_loc_stack_count`, and `insn_info_entry_ind`. -/
def rtlGenInit (iseq : Iseq) : GenM Unit := do
  setCdCallStarts []
  setMaxStackDepth 0
  setLocStackCount (List.replicate (iseq.localTableSize + vmEnvDataSize) 0)
  setInsnInfoEntryInd (insnInfoEntryIndFrom iseq.insnsInfo 0 0 (iseqSize iseq.code))

/-- `rtl_gen`, with `fuel` bounding the iterations of the analysis. -/
def rtlGen (iseq : Iseq) (cObject : Value) (fuel : Nat) : GenM RtlGenOutput := do
  let size := iseqSize iseq.code
  rtlGenInit iseq
  findStackValuesOnLabels iseq fuel
  setCurrCatchRtlPos none
  translate iseq cObject
  let offsets ← getNewInsnOffsets
  let rtl := patchBranchTargets offsets (← getIseqRtl) (← getBranchTargetLocs)
  pure { rtlEncoded := rtl
         tempVarsNum := ← getMaxStackDepth
         optTable := setupOptTable offsets iseq.optNum iseq.optTable
         rtlCatchTable := createRtlCatchTable size offsets iseq.catchTable
         rtlInsnsInfo := createRtlInsnInfoTable rtl (← getRtlInsnEventPositions) (← getRtlInsnEvents)
         cdCallStarts := ← getCdCallStarts
         newInsnOffsets := offsets }

/-! ### Runs on iseqs that show where the generator departs from its intent -/

/-- `getlocal x; putself; send :bar; pop; leave`: the value of local `x` read before a call is the result.
The slot `LOC 3` pushed by `getlocal` stays below the call's receiver, and `generate_call` moves only the
receiver and the arguments into temporaries. -/
def localBelowCallIseq : Iseq where
  code := [.getlocalWC0 3, .putself, .optSendWithoutBlock ⟨0, 0, false⟩, .pop, .leave]
  catchTable := none
  insnsInfo := []
  localTableSize := 1
  paramSize := 0
  optNum := 0
  optTable := []

/-- The RTL reads local 3 with `loc_ret` after `simple_call_self`, an instruction that runs Ruby code: the
slot `LOC 3` is never turned into a temporary. -/
theorem rtlGen_reads_local_after_call :
    (GenM.eval (rtlGen localBelowCallIseq 0 10) GenState.init).map RtlGenOutput.rtlEncoded =
      .ok [.insn (.basic .simpleCallSelf), .cd ⟨0, 0, false⟩, .num (-2), .insn (.basic .locRet), .num 3] ∧
    RtlInsn.runsRubyCodeP (.basic .simpleCallSelf) = true := by
  decide

/-- `rtl_gen` stopped where `translate` is about to translate the first instruction at or after `stop`: the
state that the second pass sees there. -/
def rtlGenUntil (iseq : Iseq) (cObject : Value) (fuel stop : Nat) : GenM Unit := do
  rtlGenInit iseq
  findStackValuesOnLabels iseq fuel
  setCurrCatchRtlPos none
  translateInit iseq
  translateLoop iseq cObject stop (iseqSize iseq.code + 1) .nop

/-- `getlocal x; dup; swap; pop; putself; send :bar; pop; leave` with an `ensure` region from the call's
receiver to the end, and `dup` and `swap` on different lines.  The analysis makes the copy that `dup` pushes
a temporary (the line change flags position 2), but the generator's `dup` copies the slot `LOC 3`. -/
def dupAcrossLinesIseq : Iseq where
  code := [.getlocalWC0 3, .dup, .swap, .pop, .putself, .optSendWithoutBlock ⟨0, 0, false⟩, .pop, .leave]
  catchTable := some [⟨.ensure, 5, 10, 10, 1⟩]
  insnsInfo := [(2, ⟨1, rubyEventLine⟩), (3, ⟨2, rubyEventLine⟩)]
  localTableSize := 1
  paramSize := 0
  optNum := 0
  optTable := []

/-- At the catch-region bound 5 the generator's stack holds the slot `LOC 3` made by the `dup` at 2, although
the analysis flagged that `dup` to produce only a temporary. -/
theorem rtlGen_loc_slot_at_catch_bound :
    GenM.eval (do
        rtlGenUntil dupAcrossLinesIseq 0 10 5
        pure ((← getCatchBoundPosP).getD 5 false, (← getUseOnlyTempResultP).getD 2 false, ← getStack))
      GenState.init = .ok (true, true, [⟨.loc 3, 2⟩]) := by
  decide

/-- `nop; putobject 5; jump L; L: pop; putnil; leave; C: putobject 5; jump L`, where `C` is the continuation
of an `ensure` region `[0, 1)` and is reached by no other edge. -/
def continuationOnlyIseq : Iseq where
  code := [.nop, .putobject (int2fix 5), .jump 0, .pop, .putnil, .leave, .putobject (int2fix 5), .jump (-7)]
  catchTable := some [⟨.ensure, 0, 1, 8, 0⟩]
  insnsInfo := []
  localTableSize := 1
  paramSize := 0
  optNum := 0
  optTable := []

/-- The analysis stops before a fixpoint.  Its second iteration starts at position 0, a catch bound, with the
stack the first iteration ended with, and flags the `putobject` at 8 from it without recording a change; the
code after `C` is never walked again.  Re-running the `putobject` at 8 under the final flags gives a temporary
where label 5 saved the value 5, and the second pass then fails the assertion of `tune_stack_slot`. -/
theorem analysis_stops_before_fixpoint :
    GenM.eval (do
        rtlGenInit continuationOnlyIseq
        findStackValuesOnLabels continuationOnlyIseq 10
        let saved ← savedSlotAt 5 0
        restoreStackSlots ((← getLabelStartStackSlot).getD 8 0) 0
        let _ ← updateStackByInsn continuationOnlyIseq 8 0
        pure (saved.mode, (← getStack).map StackSlot.mode))
      GenState.init = .ok (.val (int2fix 5), [.temp]) ∧
    GenM.eval (rtlGen continuationOnlyIseq 0 10) GenState.init = .error .assertion := by
  decide

/-- `x = y; x = y; nil` with one optional parameter whose code starts at position 9. -/
def optParamIseq : Iseq where
  code := [.getlocalWC0 3, .setlocalWC0 4, .getlocalWC0 3, .setlocalWC0 4, .putnil, .leave]
  catchTable := none
  insnsInfo := []
  localTableSize := 2
  paramSize := 1
  optNum := 1
  optTable := [0, 9]

/-- What earlier calls did changes what `rtl_gen` produces.  A first call maps the optional-parameter table
`[0, 9]` of `optParamIseq` to `[0, 6]` and leaves it so in the iseq; a second call on the iseq as the first left
it maps the table again, to `[0, 3]`.  And after a call abandoned while translating `localBelowCallIseq` (an
allocation failure once position 0 is translated, with `LOC 3` on the stack), the next call fails its check
of `loc_stack_count`. -/
theorem rtlGen_depends_on_history :
    (GenM.eval (rtlGen optParamIseq 0 10) GenState.init).map RtlGenOutput.optTable = .ok [0, 6] ∧
    (GenM.eval (do
        let _ ← rtlGen optParamIseq 0 10
        rtlGen { optParamIseq with optTable := [0, 6] } 0 10) GenState.init).map RtlGenOutput.optTable =
      .ok [0, 3] ∧
    GenM.eval (do rtlGenUntil localBelowCallIseq 0 10 2; rtlGen optParamIseq 0 10) GenState.init =
      .error .assertion := by
  decide

/-- `jump M; C: putobject 5; jump L; L: jump K; M: putobject 5; jump L; K: leave`, where `C` and `K` are the
continuations of two `ensure` regions `[0, 8)`, at depths 0 and 1.  No edge but the catch entry reaches `C`, and
both edges into `L` bring the value 5. -/
def repeatingIseq : Iseq where
  code := [.jump 6, .putobject (int2fix 5), .jump 0, .jump 4, .putobject (int2fix 5), .jump (-6), .leave]
  catchTable := some [⟨.ensure, 0, 8, 2, 0⟩, ⟨.ensure, 0, 8, 12, 1⟩]
  insnsInfo := []
  localTableSize := 1
  paramSize := 0
  optNum := 0
  optTable := []

/-- The analysis of `repeatingIseq` never ends.  After the first iteration label `L` keeps the slot `VAL 5`
made at `C`: the slot from `M` is `stack_slot_eq` to it.  `C` is not walked again, and each later walk from `L`
into `K`, whose saved slot is `TEMP`, flags the producer at `C` once more and reports a change.  So an iteration
gives back the state it starts from with `stack_on_label_change_p` set, and `rtl_gen` runs out of every fuel. -/
theorem rtlGen_analysis_never_ends :
    (let s := GenM.final (do rtlGenInit repeatingIseq; findStackValuesOnLabels repeatingIseq 1) GenState.init
     analysisIteration repeatingIseq s = .ok () s ∧ s.stackOnLabelChangeP = true) ∧
    ∀ fuel, GenM.eval (rtlGen repeatingIseq 0 fuel) GenState.init = .error .fuel := by
  let s₀ := GenM.final (rtlGenInit repeatingIseq) GenState.init
  let s₁ := GenM.final (setupLabelValues repeatingIseq) s₀
  let s₂ := GenM.final (analysisIteration repeatingIseq) s₁
  have hinit : rtlGenInit repeatingIseq GenState.init = .ok () s₀ := rfl
  have hsetup : setupLabelValues repeatingIseq s₀ = .ok () s₁ := rfl
  have hfirst : analysisIteration repeatingIseq s₁ = .ok () s₂ := rfl
  have hrepeat : analysisIteration repeatingIseq s₂ = .ok () s₂ := rfl
  have hchange : s₂.stackOnLabelChangeP = true := rfl
  refine ⟨⟨hrepeat, hchange⟩, fun fuel => ?_⟩
  simp only [rtlGen]
  rw [GenM.eval_bind_of_ok hinit, GenM.eval_bind_of_error]
  rw [findStackValuesOnLabels, GenM.eval_bind_of_ok hsetup]
  cases fuel with
  | zero => rfl
  | succ fuel =>
    rw [iterateLabels, GenM.eval_bind_of_ok hfirst]
    simp only [GenM.eval, GenM.bind_run, Var.get_ok, hchange, iterateLabels_of_repeat repeatingIseq hrepeat hchange fuel,
      if_true]

/-- `RUBY_EVENT_RETURN` (`ruby.h`, outside `src/`), the event of the `leave` that ends a method. -/
def rubyEventReturn : Nat := 0x10

/-- `nil` on line 1, then `jump L; L: leave` with the `leave` on line 2 and its `return` event. -/
def jumpToLeaveIseq : Iseq where
  code := [.putnil, .jump 0, .leave]
  catchTable := none
  insnsInfo := [(0, ⟨1, rubyEventLine⟩), (3, ⟨2, rubyEventReturn⟩)]
  localTableSize := 1
  paramSize := 0
  optNum := 0
  optTable := []

/-- A jump to a `leave` becomes a return instruction of its own that carries the jump's events, not the
leave's: the `val_ret` at RTL position 0 that the run takes for the jump at position 1 has only the line event of
line 1, and the `return` event of line 2 sits on the `val_ret` at 2 made for the `leave`, which no run reaches. -/
theorem rtlGen_jump_to_leave_drops_return_event :
    (GenM.eval (rtlGen jumpToLeaveIseq 0 10) GenState.init).map
        (fun out => (out.rtlEncoded, out.newInsnOffsets, out.rtlInsnsInfo)) =
      .ok ([.insn (.basic .valRet), .val qnil, .insn (.basic .valRet), .val qnil], [0, 0, 0, 2],
        [(0, ⟨1, rubyEventLine⟩), (2, ⟨2, rubyEventReturn⟩)]) := by
  decide

end RtlMjit
