import RtlMjit.Gen.RtlGen

/-!
# What the stack code and the RTL compute

Two small interpreters, one for the stack instructions and one for the RTL, over the same frame: its locals
and `self`.  The stack machine adds the operand stack; the RTL machine adds the temporaries `-1, -2, …` of the
frame.  A call is an external operation: the environment (`Oracle`) answers it with a result and with the
locals after it, since a block or a binding of the frame may assign them.  A run returns the frame's result
with the calls it made, in order.

Both interpreters cover the instructions that move values between locals, temporaries and the stack, the
method calls, the branches and the returns; on any other instruction they stop without a result.  That is
enough to run the iseqs below, where the RTL that `rtl_gen` emits does not compute what the stack code does.
-/

namespace RtlMjit

/-- An external operation with its operand values: a method call with its receiver, arguments and block. -/
structure ExtCall where
  ci : CallInfo
  recv : Value
  args : List Value
  block : Value
deriving DecidableEq, Repr

/-- The environment's answer to a call, given the frame's locals: the result and the locals after the call. -/
abbrev Oracle := ExtCall → List Value → Value × List Value

/-! ### The stack machine -/

/-- A frame of the stack machine. -/
structure StackFrame where
  pc : Nat
  stack : List Value
  locals : List Value
  self : Value
  trace : List ExtCall

namespace StackFrame

/-- Push a value and go to `pc`. -/
def push (f : StackFrame) (pc : Nat) (v : Value) : StackFrame := { f with pc, stack := f.stack ++ [v] }

/-- The call `ci` with `block`: the receiver and the arguments come off the stack, the result goes on it. -/
def call (oracle : Oracle) (f : StackFrame) (pc : Nat) (ci : CallInfo) (block : Value) : Option StackFrame :=
  let n := f.stack.length
  if n < ci.origArgc + 1 then none else
  let c : ExtCall := ⟨ci, f.stack.getD (n - ci.origArgc - 1) qnil, f.stack.drop (n - ci.origArgc), block⟩
  let (r, locals) := oracle c f.locals
  some { pc, stack := f.stack.take (n - ci.origArgc - 1) ++ [r], locals, self := f.self, trace := f.trace ++ [c] }

end StackFrame

/-- One instruction of the stack machine: the next frame, or the value the frame returns. -/
def StackVM.step (oracle : Oracle) (code : List Insn) (f : StackFrame) : Option (StackFrame ⊕ Value) := do
  let insn ← fetch code f.pc
  let next := f.pc + insn.insnLen
  let jumpTo (dst : Int) : Nat := (next + dst).toNat
  match insn with
  | .nop => pure (.inl { f with pc := next })
  | .getlocalWC0 idx | .getlocal idx 0 => pure (.inl (f.push next (f.locals.getD idx qnil)))
  | .setlocalWC0 idx | .setlocal idx 0 => do
    let v ← f.stack.getLast?
    pure (.inl { f with pc := next, stack := f.stack.dropLast, locals := f.locals.set idx v })
  | .putself => pure (.inl (f.push next f.self))
  | .putnil => pure (.inl (f.push next qnil))
  | .putobject v => pure (.inl (f.push next v))
  | .putobjectINT2FIX0 => pure (.inl (f.push next (int2fix 0)))
  | .putobjectINT2FIX1 => pure (.inl (f.push next (int2fix 1)))
  | .pop => do
    let _ ← f.stack.getLast?
    pure (.inl { f with pc := next, stack := f.stack.dropLast })
  | .dup => do
    let v ← f.stack.getLast?
    pure (.inl (f.push next v))
  | .optSendWithoutBlock ci => (f.call oracle next ci 0).map .inl
  | .send ci block => if ci.argsBlockarg then none else (f.call oracle next ci block).map .inl
  | .leave => f.stack.getLast?.map .inr
  | .jump dst => pure (.inl { f with pc := jumpTo dst })
  | .branchif dst | .branchunless dst => do
    let v ← f.stack.getLast?
    let taken := if insn matches .branchif _ then rtest v else !rtest v
    pure (.inl { f with pc := if taken then jumpTo dst else next, stack := f.stack.dropLast })
  | _ => none

/-- Run the stack machine for at most `fuel` instructions: the result and the calls made. -/
def StackVM.run (oracle : Oracle) (code : List Insn) : Nat → StackFrame → Option (Value × List ExtCall)
  | 0, _ => none
  | fuel + 1, f =>
    match StackVM.step oracle code f with
    | some (.inl f') => StackVM.run oracle code fuel f'
    | some (.inr v) => some (v, f.trace)
    | none => none

/-- A run that returns keeps its result with more fuel. -/
private theorem StackVM.run_succ {oracle : Oracle} {code : List Insn} {fuel : Nat} {f : StackFrame}
    {r : Value × List ExtCall} (h : StackVM.run oracle code fuel f = some r) :
    StackVM.run oracle code (fuel + 1) f = some r := by
  induction fuel generalizing f with
  | zero => simp [StackVM.run] at h
  | succ n ih =>
    rw [StackVM.run] at h ⊢
    split at h <;> simp_all

/-! ### The RTL machine -/

/-- A frame of the RTL machine: local `l` is `locals[l]`, temporary `-t` is `temps[t - 1]`. -/
structure RtlFrame where
  pc : Nat
  locals : List Value
  temps : List Value
  self : Value
  trace : List ExtCall

namespace RtlFrame

/-- The value of variable `i`: a temporary when `i < 0`, a local otherwise (`get_var_addr`). -/
def getVar (f : RtlFrame) (i : Int) : Value :=
  if i < 0 then f.temps.getD (-i - 1).toNat qnil else f.locals.getD i.toNat qnil

/-- Assign variable `i`. -/
def setVar (f : RtlFrame) (i : Int) (v : Value) : RtlFrame :=
  if i < 0 then { f with temps := f.temps.set (-i - 1).toNat v } else { f with locals := f.locals.set i.toNat v }

/-- A frame at the start of the RTL with `tempVarsNum` temporaries. -/
def start (tempVarsNum : Nat) (locals : List Value) (self : Value) : RtlFrame :=
  ⟨0, locals, List.replicate tempVarsNum qnil, self, []⟩

/-- A call whose receiver and arguments are in the variables from `callStart` down (`call_setup_0`); the result
goes into `callStart`. -/
def call (oracle : Oracle) (f : RtlFrame) (pc : Nat) (ci : CallInfo) (callStart : Int) (recv block : Value) :
    RtlFrame :=
  let c : ExtCall := ⟨ci, recv, (List.range ci.origArgc).map (fun k => f.getVar (callStart - 1 - k)), block⟩
  let (r, locals) := oracle c f.locals
  { ({ f with locals } : RtlFrame).setVar callStart r with pc, trace := f.trace ++ [c] }

end RtlFrame

/-- One RTL instruction: the next frame, or the value the frame returns.  Branch operands are displacements
from the next instruction, as `rtl_gen` patches them. -/
def RtlVM.step (oracle : Oracle) (rtl : List Word) (f : RtlFrame) : Option (RtlFrame ⊕ Value) :=
  match rtl.getD f.pc (.num 0) with
  | .insn insn =>
    let w (k : Nat) := rtl.getD (f.pc + k) (.num 0)
    let next := f.pc + insn.insnLen
    let move (r : Int) (v : Value) : Option (RtlFrame ⊕ Value) := some (.inl { f.setVar r v with pc := next })
    let branch (d : Int) (taken : Bool) : Option (RtlFrame ⊕ Value) :=
      some (.inl { f with pc := if taken then (next + d).toNat else next })
    match insn, w 1, w 2, w 3 with
    | .basic .nop, _, _, _ => some (.inl { f with pc := next })
    | .basic .loc2temp, .num r, .num o, _ | .basic .temp2loc, .num r, .num o, _
    | .basic .loc2loc, .num r, .num o, _ | .basic .temp2temp, .num r, .num o, _ => move r (f.getVar o)
    | .basic .val2temp, .num r, .val v, _ | .basic .val2loc, .num r, .val v, _ => move r v
    | .basic .self2var, .num r, _, _ => move r f.self
    | .basic .simpleCallSelf, .cd ci, .num cs, _ => some (.inl (f.call oracle next ci cs f.self 0))
    | .basic .simpleCall, .cd ci, .num cs, _ => some (.inl (f.call oracle next ci cs (f.getVar cs) 0))
    | .basic .simpleCallRecv, .cd ci, .num cs, .num o =>
      some (.inl (f.call oracle next ci cs (f.getVar o) 0))
    | .basic .callSelf, .cd ci, .num cs, .val b => some (.inl (f.call oracle next ci cs f.self b))
    | .basic .call, .cd ci, .num cs, .val b => some (.inl (f.call oracle next ci cs (f.getVar cs) b))
    | .basic .locRet, .num o, _, _ | .basic .tempRet, .num o, _, _ => some (.inr (f.getVar o))
    | .basic .valRet, .val v, _, _ => some (.inr v)
    | .basic .goto, .num d, _, _ => branch d true
    | .basic .bt, .num d, .num o, _ => branch d (rtest (f.getVar o))
    | .basic .bf, .num d, .num o, _ => branch d !(rtest (f.getVar o))
    | _, _, _, _ => none
  | _ => none

/-- Run the RTL machine for at most `fuel` instructions: the result and the calls made. -/
def RtlVM.run (oracle : Oracle) (rtl : List Word) : Nat → RtlFrame → Option (Value × List ExtCall)
  | 0, _ => none
  | fuel + 1, f =>
    match RtlVM.step oracle rtl f with
    | some (.inl f') => RtlVM.run oracle rtl fuel f'
    | some (.inr v) => some (v, f.trace)
    | none => none

/-- A run that returns keeps its result with more fuel. -/
private theorem RtlVM.run_succ {oracle : Oracle} {rtl : List Word} {fuel : Nat} {f : RtlFrame}
    {r : Value × List ExtCall} (h : RtlVM.run oracle rtl fuel f = some r) :
    RtlVM.run oracle rtl (fuel + 1) f = some r := by
  induction fuel generalizing f with
  | zero => simp [RtlVM.run] at h
  | succ n ih =>
    rw [RtlVM.run] at h ⊢
    split at h <;> simp_all

/-! ### Where the RTL computes something else -/

/-- A call that assigns local 3 and returns `nil`, as a block of the frame that captured the local may. -/
def assignsLocal3 : Oracle := fun _ locals => (qnil, locals.set 3 (int2fix 2))

/-- In `localBelowCallIseq` the stack code returns the value local 3 had before the call; the RTL that
`rtl_gen` emits makes the same call with the same operands but returns the value the call assigned. -/
theorem local_below_call_result_differs :
    StackVM.run assignsLocal3 localBelowCallIseq.code 10 ⟨0, [], [qnil, qnil, qnil, int2fix 1], qnil, []⟩ =
      some (int2fix 1, [⟨⟨0, 0, false⟩, qnil, [], 0⟩]) ∧
    (GenM.eval (rtlGen localBelowCallIseq 0 10) GenState.init).map (fun out =>
      RtlVM.run assignsLocal3 out.rtlEncoded 10
        (RtlFrame.start out.tempVarsNum [qnil, qnil, qnil, int2fix 1] qnil)) =
      .ok (some (int2fix 2, [⟨⟨0, 0, false⟩, qnil, [], 0⟩])) := by
  decide

/-- The environment in which calls change nothing. -/
def noCalls : Oracle := fun _ locals => (qnil, locals)

/-- `if (c ? y : z == 1) then 21 else 41` with `c`, `y`, `z` the locals 3, 4, 5: the `branchunless` at 14 after
`opt_eq` is the target of the `jump` at 6 that ends the branch of `y`. -/
def ternaryCondIseq : Iseq where
  code := [.getlocalWC0 3, .branchunless 4, .getlocalWC0 4, .jump 6, .getlocalWC0 5, .putobjectINT2FIX1,
    .optEq ⟨0, 1, false⟩, .branchunless 3, .putobject 21, .leave, .putobject 41, .leave]
  catchTable := none
  insnsInfo := []
  localTableSize := 3
  paramSize := 0
  optNum := 0
  optTable := []

/-- The locals of a frame where `c` and `y` are true. -/
def ternaryLocals : List Value := [qnil, qnil, qnil, qtrue, int2fix 7, int2fix 1]

/-- The RTL `rtl_gen` emits for `ternaryCondIseq`: `generate_rel_op` fuses `opt_eq` with the `branchunless` at
14 although 14 is a label, so position 14 gets no RTL and the `goto` of the `jump` at 6 is patched with
`new_insn_offsets[14] = 0`. -/
private def ternaryRtl : List Word :=
  [.insn (.basic .bf), .num 5, .num 3, .insn (.basic .loc2temp), .num (-1), .num 4, .insn (.basic .goto), .num (-8),
    .insn (.bcmp false .eq .fix), .insn (.basic .contBfcmp), .num 2, .cd ⟨0, 1, false⟩, .num (-1), .num 5,
    .val (int2fix 1), .insn (.basic .valRet), .val 21, .insn (.basic .valRet), .val 41]

/-- The frame of `ternaryRtl` back at its start after the branch of `y`. -/
private def ternaryLoopFrame : RtlFrame := ⟨0, ternaryLocals, [int2fix 7, qnil], qnil, []⟩

private theorem ternaryRtl_run_loop (n : Nat) :
    RtlVM.run noCalls ternaryRtl (n + 3) ternaryLoopFrame = RtlVM.run noCalls ternaryRtl n ternaryLoopFrame :=
  rfl

private theorem ternaryRtl_run_none (n : Nat) : RtlVM.run noCalls ternaryRtl n ternaryLoopFrame = none := by
  induction n using Nat.strong_induction_on with
  | _ n ih =>
    match n, ih with
    | 0, _ | 1, _ | 2, _ => rfl
    | m + 3, ih => rw [ternaryRtl_run_loop]; exact ih m (by omega)

/-- With `c` and `y` true the stack code returns 21, and the RTL that `rtl_gen` emits never returns: its
`goto` lands on the RTL of position 0, which tests `c` again. -/
theorem ternary_condition_rtl_never_returns :
    StackVM.run noCalls ternaryCondIseq.code 20 ⟨0, [], ternaryLocals, qnil, []⟩ = some (21, []) ∧
    ∃ out, GenM.eval (rtlGen ternaryCondIseq 0 10) GenState.init = .ok out ∧
      ∀ n, RtlVM.run noCalls out.rtlEncoded n (RtlFrame.start out.tempVarsNum ternaryLocals qnil) = none := by
  refine ⟨by decide, ⟨ternaryRtl, 2, [], none, [], [(0, -1)],
    [0, 0, 0, 0, 3, 0, 6, 0, 8, 0, 8, 8, 0, 0, 0, 0, 15, 0, 15, 17, 0, 17]⟩, by decide, fun n => ?_⟩
  match n with
  | 0 | 1 | 2 => rfl
  | m + 3 => exact ternaryRtl_run_none m

end RtlMjit
