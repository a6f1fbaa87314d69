import RtlMjit.Value
import Mathlib.Algebra.Order.Ring.Nat

/-!
# Stack instructions and RTL words

The generator reads the stack instruction sequence `iseq_encoded` of an iseq and writes the RTL sequence
`rtl_encoded`.  Both are arrays of words: an instruction word followed by its operand words, and a position is
the index of a word.  We keep a stack instruction as one `Insn` carrying its operands, and compute positions
from the operand counts (`insnLen`), so that `fetch code pos` is `code[pos]` at every instruction start.

The operand counts and the stack effects (`insnLen`, `stackIncrease`) are those of the generated table
`insns_info.inc` for the YARV instructions, which is outside `src/`.  The RTL side is a list of `Word`s with the
instructions the generator emits.
-/

namespace RtlMjit

/-- The part of `CALL_INFO` the generator reads: the call site's index in `ci_entries`, `orig_argc`, and the
flag `VM_CALL_ARGS_BLOCKARG`. -/
structure CallInfo where
  index : Nat
  origArgc : Nat
  argsBlockarg : Bool
deriving DecidableEq, Repr

/-- The arguments a call pops besides its receiver: `orig_argc`, and the block argument when there is one. -/
def CallInfo.argsNum (ci : CallInfo) : Nat := ci.origArgc + if ci.argsBlockarg then 1 else 0

/-- A `CDHASH` of `opt_case_dispatch`: keys with their branch offsets, in the order `rb_hash_foreach` visits
them. -/
abbrev CaseHash := List (Value × Int)

/-- A stack instruction with its operands. -/
inductive Insn where
  | nop
  | getlocal (idx level : Nat)
  | setlocal (idx level : Nat)
  | getblockparam (idx level : Nat)
  | setblockparam (idx level : Nat)
  | getblockparamproxy (idx level : Nat)
  | getspecial (key type : Nat)
  | setspecial (key : Nat)
  | getinstancevariable (id ic : Nat)
  | setinstancevariable (id ic : Nat)
  | getclassvariable (id : Nat)
  | setclassvariable (id : Nat)
  | getconstant (id : Nat)
  | setconstant (id : Nat)
  | getglobal (entry : Nat)
  | setglobal (entry : Nat)
  | putnil
  | putself
  | putobject (val : Value)
  | putspecialobject (type : Nat)
  | putiseq (iseq : Value)
  | putstring (str : Value)
  | concatstrings (num : Nat)
  | tostring
  | freezestring (debugInfo : Value)
  | toregexp (opt cnt : Nat)
  | intern
  | newarray (num : Nat)
  | duparray (ary : Value)
  | expandarray (num flag : Nat)
  | concatarray
  | splatarray (flag : Value)
  | newhash (num : Nat)
  | newrange (flag : Nat)
  | pop
  | dup
  | dupn (n : Nat)
  | swap
  | reverse (n : Nat)
  | reput
  | topn (n : Nat)
  | setn (n : Nat)
  | adjuststack (n : Nat)
  | defined (opType : Nat) (obj needstr : Value)
  | checkmatch (flag : Nat)
  | checkkeyword (kwBitsIndex keywordIndex : Nat)
  | checktype (type : Nat)
  | defineclass (id : Nat) (classIseq : Value) (flags : Nat)
  | send (ci : CallInfo) (block : Value)
  | optStrFreeze (str : Value) (ci : CallInfo)
  | optStrUminus (str : Value) (ci : CallInfo)
  | optNewarrayMax (num : Nat)
  | optNewarrayMin (num : Nat)
  | optSendWithoutBlock (ci : CallInfo)
  | invokesuper (ci : CallInfo) (block : Value)
  | invokeblock (ci : CallInfo)
  | leave
  | throw (throwState : Nat)
  | jump (dst : Int)
  | branchif (dst : Int)
  | branchunless (dst : Int)
  | branchnil (dst : Int)
  | getinlinecache (dst : Int) (ic : Nat)
  | setinlinecache (ic : Nat)
  | once (iseq : Value) (ise : Nat)
  | optCaseDispatch (hash : CaseHash) (elseOffset : Int)
  | optPlus (ci : CallInfo)
  | optMinus (ci : CallInfo)
  | optMult (ci : CallInfo)
  | optDiv (ci : CallInfo)
  | optMod (ci : CallInfo)
  | optEq (ci : CallInfo)
  | optNeq (ciEq ci : CallInfo)
  | optLt (ci : CallInfo)
  | optLe (ci : CallInfo)
  | optGt (ci : CallInfo)
  | optGe (ci : CallInfo)
  | optLtlt (ci : CallInfo)
  | optAnd (ci : CallInfo)
  | optOr (ci : CallInfo)
  | optAref (ci : CallInfo)
  | optAset (ci : CallInfo)
  | optAsetWith (key : Value) (ci : CallInfo)
  | optArefWith (key : Value) (ci : CallInfo)
  | optLength (ci : CallInfo)
  | optSize (ci : CallInfo)
  | optEmptyP (ci : CallInfo)
  | optSucc (ci : CallInfo)
  | optNot (ci : CallInfo)
  | optRegexpmatch1 (regexp : Value)
  | optRegexpmatch2 (ci : CallInfo)
  | optCallCFunction (funcptr : Nat)
  | bitblt
  | answer
  | tracecoverage (nf : Nat) (data : Value)
  | getlocalWC0 (idx : Nat)
  | getlocalWC1 (idx : Nat)
  | setlocalWC0 (idx : Nat)
  | setlocalWC1 (idx : Nat)
  | putobjectINT2FIX0
  | putobjectINT2FIX1
deriving Repr

namespace Insn

/-- `insn_len`: the instruction word and its operand words. -/
def insnLen : Insn → Nat
  | nop | putnil | putself | tostring | intern | concatarray | pop | dup | swap | reput | leave | bitblt
  | answer | putobjectINT2FIX0 | putobjectINT2FIX1 => 1
  | setspecial .. | getclassvariable .. | setclassvariable .. | getconstant .. | setconstant ..
  | getglobal .. | setglobal .. | putobject .. | putspecialobject .. | putiseq .. | putstring ..
  | concatstrings .. | freezestring .. | newarray .. | duparray .. | splatarray .. | newhash .. | newrange ..
  | dupn .. | reverse .. | topn .. | setn .. | adjuststack .. | checkmatch .. | checktype ..
  | optNewarrayMax .. | optNewarrayMin .. | invokeblock .. | throw .. | jump .. | branchif .. | branchunless ..
  | branchnil .. | setinlinecache .. | optRegexpmatch1 .. | optCallCFunction .. | getlocalWC0 ..
  | getlocalWC1 .. | setlocalWC0 .. | setlocalWC1 .. => 2
  | getlocal .. | setlocal .. | getblockparam .. | setblockparam .. | getblockparamproxy .. | getspecial ..
  | getinstancevariable .. | setinstancevariable .. | toregexp .. | expandarray .. | checkkeyword ..
  | optSendWithoutBlock .. | getinlinecache .. | once .. | optCaseDispatch .. | optPlus .. | optMinus ..
  | optMult .. | optDiv .. | optMod .. | optEq .. | optLt .. | optLe .. | optGt .. | optGe .. | optLtlt ..
  | optAnd .. | optOr .. | optAref .. | optAset .. | optLength .. | optSize .. | optEmptyP .. | optSucc ..
  | optNot .. | optRegexpmatch2 .. | tracecoverage .. => 3
  | defined .. | defineclass .. | send .. | optStrFreeze .. | optStrUminus .. | invokesuper ..
  | optAsetWith .. | optArefWith .. => 4
  | optNeq .. => 5

theorem insnLen_pos (i : Insn) : 0 < i.insnLen := by
  cases i <;> exact Nat.zero_lt_succ _

/-- `insn_stack_increase`: the stack depth after the instruction, from the depth before it.  It is `none` when
the stack holds fewer words than the instruction pops. -/
def stackIncrease (depth : Nat) : Insn → Option Nat
  | nop | jump .. | optCallCFunction .. | tracecoverage .. => some depth
  | getlocal .. | getblockparam .. | getblockparamproxy .. | getspecial .. | getinstancevariable ..
  | getclassvariable .. | getglobal .. | putnil | putself | putobject .. | putspecialobject .. | putiseq ..
  | putstring .. | duparray .. | checkkeyword .. | optStrFreeze .. | optStrUminus .. | getinlinecache ..
  | once .. | bitblt | answer | getlocalWC0 .. | getlocalWC1 .. | putobjectINT2FIX0 | putobjectINT2FIX1 =>
    some (depth + 1)
  | setlocal .. | setblockparam .. | setspecial .. | setinstancevariable .. | setclassvariable ..
  | setglobal .. | pop | branchif .. | branchunless .. | branchnil .. | optCaseDispatch .. | setlocalWC0 ..
  | setlocalWC1 .. => if 1 ≤ depth then some (depth - 1) else none
  | getconstant .. | freezestring .. | intern | splatarray .. | reput | defined .. | checktype .. | leave
  | throw .. | setinlinecache .. | optLength .. | optSize .. | optEmptyP .. | optSucc .. | optNot ..
  | optRegexpmatch1 .. | optArefWith .. => if 1 ≤ depth then some depth else none
  | setconstant .. => if 2 ≤ depth then some (depth - 2) else none
  | tostring | concatarray | newrange .. | checkmatch .. | defineclass .. | optPlus .. | optMinus ..
  | optMult .. | optDiv .. | optMod .. | optEq .. | optNeq .. | optLt .. | optLe .. | optGt .. | optGe ..
  | optLtlt .. | optAnd .. | optOr .. | optAref .. | optRegexpmatch2 .. | optAsetWith .. =>
    if 2 ≤ depth then some (depth - 1) else none
  | optAset .. => if 3 ≤ depth then some (depth - 2) else none
  | swap => if 2 ≤ depth then some depth else none
  | dup => if 1 ≤ depth then some (depth + 1) else none
  | concatstrings n | newarray n | newhash n | optNewarrayMax n | optNewarrayMin n | toregexp _ n =>
    if n ≤ depth then some (depth - n + 1) else none
  | expandarray num flag => if 1 ≤ depth then some (depth - 1 + num + flag % 2) else none
  | dupn n => if n ≤ depth then some (depth + n) else none
  | reverse n => if n ≤ depth then some depth else none
  | topn n => if n + 1 ≤ depth then some (depth + 1) else none
  | setn n => if n + 1 ≤ depth then some depth else none
  | adjuststack n => if n ≤ depth then some (depth - n) else none
  | send ci _ | invokesuper ci _ =>
    if ci.argsNum + 1 ≤ depth then some (depth - ci.argsNum) else none
  | optSendWithoutBlock ci => if ci.origArgc + 1 ≤ depth then some (depth - ci.origArgc) else none
  | invokeblock ci => if ci.origArgc ≤ depth then some (depth - ci.origArgc + 1) else none

end Insn

/-- Catch types of a catch-table entry. -/
inductive CatchType where
  | rescue | ensure | retry | break | redo | next
deriving DecidableEq, Repr

/-- An `iseq_catch_table_entry`: the region `[start, end)`, its continuation and the stack depth `sp` there.
The runtime may leave garbage in an entry, so `sp` is a signed number and the positions may be out of range. -/
structure CatchEntry where
  type : CatchType
  start : Nat
  stop : Nat
  cont : Nat
  sp : Int
deriving DecidableEq, Repr

/-- An `iseq_insn_info_entry`: a line number and an event mask. -/
structure InfoEntry where
  lineNo : Int
  events : Nat
deriving DecidableEq, Repr

/-- `RUBY_EVENT_LINE`. -/
def rubyEventLine : Nat := 1

/-- The fields of an iseq body that `rtl_gen` reads. -/
structure Iseq where
  code : List Insn
  catchTable : Option (List CatchEntry)
  /-- `insns_info`: the positions and the entries. -/
  insnsInfo : List (Nat × InfoEntry)
  localTableSize : Nat
  paramSize : Nat
  optNum : Nat
  optTable : List Nat
deriving Repr

/-- The instruction starting at word position `pos`, or `none` when no instruction starts there. -/
def fetch : List Insn → Nat → Option Insn
  | [], _ => none
  | i :: rest, pos => if pos = 0 then some i else if pos < i.insnLen then none else fetch rest (pos - i.insnLen)

/-- `iseq_size`: the number of words. -/
def iseqSize (code : List Insn) : Nat := (code.map Insn.insnLen).sum

/-- `VM_ENV_DATA_SIZE`. -/
def vmEnvDataSize : Nat := 3

/-! ### RTL words -/

/-- The operator of an RTL operator instruction. -/
inductive Op where
  | plus | minus | mult | div | mod | or | and | ltlt | ind | indset
  | eq | ne | lt | gt | le | ge
  | length | size | emptyP | succ | not
deriving DecidableEq, Repr

/-- The operand form of an operator instruction, as in `plus`, `plusi`, `plusf`, `inds` and `splus`: a
variable, a fixnum, flonum or string immediate, or the simple form whose operands are the result's stack
temporaries. -/
inductive OpForm where
  | var | fix | flo | str | simple
deriving DecidableEq, Repr

/-- The RTL instructions the generator emits, other than the operator instructions. -/
inductive BasicInsn where
  | nop | self2var | val2temp | str2var | loc2temp | uploc2temp | var2uploc | val2loc | val2uploc | temp2loc
  | loc2loc | temp2temp | varSwap | tempReverse
  | simpleCallSelf | callSelf | simpleCallRecv | callRecv | simpleCall | call | callSuper | callSuperVal
  | callBlock
  | special2var | var2special | ivar2var | val2ivar | temp2ivar | loc2ivar | cvar2var | var2cvar | constLdVal
  | const2var | var2const | global2var | var2global | specialobj2var | iseq2var | getBlockParam
  | getBlockParamProxy | setBlockParam | concatStrings | toString | freezeString | toRegexp | makeArray
  | makeHash | cloneArray | spreadArray | concatArray | splatArray | makeRange | valDefinedP | definedP
  | checkMatch | checkKeyword | checkType | defineClass | strFreezeCall | strUminus | newArrayMax | newArrayMin
  | tempRet | locRet | valRet | raiseExcept | raiseExceptVal | goto | bt | bf | bnil | getInlineCache
  | constCachedValLd | setInlineCache | runOnce | caseDispatch | str2sym | regexpMatch1 | regexpMatch2
  | callCFunc | traceCoverage | contBtcmp | contBfcmp
deriving DecidableEq, Repr

/-- An RTL instruction code. -/
inductive RtlInsn where
  | op (o : Op) (form : OpForm)
  /-- A compare-and-branch such as `bteq` (`bt = true`) or `bfeqi`. -/
  | bcmp (bt : Bool) (o : Op) (form : OpForm)
  | basic (b : BasicInsn)
deriving DecidableEq, Repr

/-- A word of the RTL sequence.  Variables are `num`s: a local has a positive index and the temporary of
stack slot `i` the index `-i-1`. -/
inductive Word where
  | insn (i : RtlInsn)
  | num (n : Int)
  | val (v : Value)
  | cd (ci : CallInfo)
  | hash (h : CaseHash)
deriving DecidableEq, Repr

end RtlMjit
