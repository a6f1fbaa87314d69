import RtlMjit.Exec.Runtime
import Mathlib.Logic.Function.Basic

/-!
# The `!` instructions and their call cache

`not` and `unot` run `common_not`, which asks `vm_method_cfunc_is` whether the method `!` of the operand's
class is `rb_obj_not`.  If it is, the result is `RTEST (src) ? Qfalse : Qtrue` and `not` rewrites itself to
`spec_not`; otherwise the method is called.  `spec_not` trusts its call cache while `check_cc_attr_p` finds it
current for the operand; with an obsolete cache it looks the method up again, and falls back to `unot`, which it
then runs, if the method is no longer `rb_obj_not`.

`vm_search_method` and `check_cfunc` are outside `src/`; they are written here as the VM defines them: a call
cache holds the global method state, the class serial and the method entry of its last lookup, and the lookup is
made again when either number differs from the VM's.  `MethodWorld` is the VM's side: class serials are distinct
and below the next serial to be given, and the method `!` of a class changes only with the serial of the class
(`redefine`) or with the global method state (`globalChange`).

The main results:
* `CacheCoherent`: a call cache whose numbers match the VM's holds the current method of the class; lookups
  (`vmSearchMethod_coherent`) and every change of the VM (`redefine_coherent`, `globalChange_coherent`) keep it;
* `execNot_sound`: from a coherent cache, and one holding `rb_obj_not` when the instruction is `spec_not`, an
  execution of the instruction in any of its forms computes what the current method `!` computes, and keeps both
  facts;
* `not_refines_method`: along every interleaving of executions and method changes, the instruction with its
  cache outputs what the method `!` computes at each execution (`trace_eq_of_simulation`);
* `rewrites_le`: the instruction moves only forward, from `not` to `spec_not` to `unot`, so it is rewritten at
  most twice.
-/

namespace RtlMjit

/-- The three forms of `!`: the changing `not`, the speculative `spec_not` and the unchanging `unot`. -/
inductive NotInsn where
  | not | specNot | unot
deriving DecidableEq, Repr

/-- How far an instruction has moved from `not` towards `unot`. -/
def NotInsn.rank : NotInsn → Nat
  | .not => 0
  | .specNot => 1
  | .unot => 2

/-- The part of the VM that the call cache of `!` reads: `GET_GLOBAL_METHOD_STATE ()`, `RCLASS_SERIAL` of each
class, the serial that `NEXT_CLASS_SERIAL ()` gives next, the method `!` of each class
(`rb_callable_method_entry`), `CLASS_OF`, and whether a method entry is the C function `rb_obj_not`
(`check_cfunc`).  The global state starts above `0`, the state of a zeroed cache. -/
structure MethodWorld (Cls Me : Type) where
  globalMethodState : Nat
  classSerial : Cls → Nat
  nextSerial : Nat
  methodOf : Cls → Me
  classOf : Value → Cls
  isObjNot : Me → Bool
  globalMethodState_pos : 0 < globalMethodState
  classSerial_lt : ∀ c, classSerial c < nextSerial
  classSerial_injective : Function.Injective classSerial

/-- `struct rb_call_cache`: the global method state and the class serial of its last lookup, and the method
entry it found (`NULL` in a zeroed cache). -/
structure CallCache (Me : Type) where
  methodState : Nat
  classSerial : Nat
  me : Option Me

/-- A zeroed call cache, as a new instruction has it. -/
def CallCache.zero {Me : Type} : CallCache Me := ⟨0, 0, none⟩

/-- What `rb_obj_not` returns: `RTEST (src) ? Qfalse : Qtrue`. -/
def objNot (src : Value) : Value := if rtest src then qfalse else qtrue

/-- What a generic or unchanging form writes, `none` for a call of the method. -/
def FastPath.result : FastPath → Option Value
  | .done v _ => some v
  | .dispatch => none

/-- The rewrite a generic form makes. -/
def FastPath.change : FastPath → Option InsnId
  | .done _ c => c
  | .dispatch => none

namespace MethodWorld

variable {Cls Me : Type} (w : MethodWorld Cls Me)

/-! ### Changes of the method tables -/

/-- A change of the method `!` of one class, which takes the next serial (`rb_class_clear_method_cache`).  A
change in a class with subclasses is one such change for each of them. -/
def redefine [DecidableEq Cls] (klass : Cls) (me : Me) : MethodWorld Cls Me where
  globalMethodState := w.globalMethodState
  classSerial := Function.update w.classSerial klass w.nextSerial
  nextSerial := w.nextSerial + 1
  methodOf := Function.update w.methodOf klass me
  classOf := w.classOf
  isObjNot := w.isObjNot
  globalMethodState_pos := w.globalMethodState_pos
  classSerial_lt c := by
    by_cases h : c = klass
    · subst h; simp
    · rw [Function.update_noteq h]; exact Nat.lt_succ_of_lt (w.classSerial_lt c)
  classSerial_injective c c' hc := by
    have hlt := w.classSerial_lt
    by_cases h : c = klass <;> by_cases h' : c' = klass
    · exact h.trans h'.symm
    · subst h; rw [Function.update_same, Function.update_noteq h'] at hc; exact absurd hc.symm (hlt c').ne
    · subst h'; rw [Function.update_same, Function.update_noteq h] at hc; exact absurd hc (hlt c).ne
    · rw [Function.update_noteq h, Function.update_noteq h'] at hc; exact w.classSerial_injective hc

/-- A change that moves the global method state (`INC_GLOBAL_METHOD_STATE`), after which any class may have
another method `!`. -/
def globalChange (methodOf : Cls → Me) : MethodWorld Cls Me :=
  { w with globalMethodState := w.globalMethodState + 1, methodOf, globalMethodState_pos := Nat.succ_pos _ }

/-! ### Lookup -/

/-- `vm_search_method`: the cache stays when both numbers match the VM's, and is filled by a new lookup
otherwise. -/
def vmSearchMethod (cc : CallCache Me) (recv : Value) : CallCache Me :=
  if w.globalMethodState = cc.methodState ∧ w.classSerial (w.classOf recv) = cc.classSerial then cc
  else ⟨w.globalMethodState, w.classSerial (w.classOf recv), some (w.methodOf (w.classOf recv))⟩

/-- `check_cfunc (me, rb_obj_not)`. -/
def checkCfunc (me : Option Me) : Bool := me.any w.isObjNot

/-- `vm_method_cfunc_is (ci, cc, recv, rb_obj_not)`. -/
def vmMethodCfuncIs (cc : CallCache Me) (recv : Value) : Bool × CallCache Me :=
  (w.checkCfunc (w.vmSearchMethod cc recv).me, w.vmSearchMethod cc recv)

/-- `check_cc_attr_p`: whether the cache is obsolete for the object. -/
def checkCcAttrP (obj : Value) (methodState classSerial : Nat) : Bool :=
  w.globalMethodState != methodState || w.classSerial (w.classOf obj) != classSerial

/-! ### The instructions -/

/-- `common_not`: the value of `rb_obj_not` when that is the method, with the rewrite to `spec_not` if
`changeP`; otherwise the method is called (`op1_call`, whose `call_simple_method` looks it up again). -/
def commonNot (changeP : Bool) (cc : CallCache Me) (src : Value) : FastPath × CallCache Me :=
  let (isNot, cc') := w.vmMethodCfuncIs cc src
  if isNot then (.done (objNot src) (if changeP then some "spec_not" else none), cc')
  else (.dispatch, w.vmSearchMethod cc' src)

/-- `spec_not_f`. -/
def specNotF (cc : CallCache Me) (src : Value) : SpecOutcome × CallCache Me :=
  if w.checkCcAttrP src cc.methodState cc.classSerial then
    let (isNot, cc') := w.vmMethodCfuncIs cc src
    if !isNot then (.fallback "unot", cc') else (.done (objNot src), cc')
  else (.done (objNot src), cc)

/-- One execution of the instruction in its current form: what it writes (`none` for a call of the method), its
form after any rewrite, and its cache.  A `spec_not` that falls back becomes `unot` and is executed again. -/
def execNot : NotInsn → CallCache Me → Value → Option Value × NotInsn × CallCache Me
  | .not, cc, src =>
    let (r, cc') := w.commonNot true cc src
    (r.result, if r.change = some "spec_not" then .specNot else .not, cc')
  | .unot, cc, src =>
    let (r, cc') := w.commonNot false cc src
    (r.result, .unot, cc')
  | .specNot, cc, src =>
    match w.specNotF cc src with
    | (.done v, cc') => (some v, .specNot, cc')
    | (.fallback _, cc') =>
      let (r, cc'') := w.commonNot false cc' src
      (r.result, .unot, cc'')

/-- What `!src` computes in the VM, with no cache: the value of `rb_obj_not` when that is the method `!` of the
operand's class, and a call of the method otherwise. -/
def notSpec (src : Value) : Option Value :=
  if w.isObjNot (w.methodOf (w.classOf src)) then some (objNot src) else none

@[simp] private theorem globalChange_globalMethodState (m : Cls → Me) :
    (w.globalChange m).globalMethodState = w.globalMethodState + 1 := rfl
@[simp] private theorem globalChange_isObjNot (m : Cls → Me) : (w.globalChange m).isObjNot = w.isObjNot := rfl

end MethodWorld

/-! ### Coherence of the cache -/

/-- A call cache agrees with the VM wherever its numbers match the VM's, and holds no global state and no serial
the VM has not yet given. -/
structure CacheCoherent {Cls Me : Type} (w : MethodWorld Cls Me) (cc : CallCache Me) : Prop where
  methodState_le : cc.methodState ≤ w.globalMethodState
  classSerial_lt : cc.methodState = w.globalMethodState → cc.classSerial < w.nextSerial
  me_eq : cc.methodState = w.globalMethodState →
    ∀ c, w.classSerial c = cc.classSerial → cc.me = some (w.methodOf c)

section Coherence

variable {Cls Me : Type} {w : MethodWorld Cls Me} {cc : CallCache Me}

private theorem cacheCoherent_zero (w : MethodWorld Cls Me) : CacheCoherent w .zero :=
  ⟨Nat.zero_le _, fun h => absurd h w.globalMethodState_pos.ne, fun h => absurd h w.globalMethodState_pos.ne⟩

/-- After a lookup the cache is current for the receiver. -/
private theorem MethodWorld.vmSearchMethod_current (w : MethodWorld Cls Me) (cc : CallCache Me) (recv : Value) :
    (w.vmSearchMethod cc recv).methodState = w.globalMethodState ∧
      (w.vmSearchMethod cc recv).classSerial = w.classSerial (w.classOf recv) := by
  unfold MethodWorld.vmSearchMethod
  split
  · rename_i h; exact ⟨h.1.symm, h.2.symm⟩
  · exact ⟨rfl, rfl⟩

/-- A lookup in a current cache keeps it. -/
private theorem vmSearchMethod_of_current {recv : Value} (h : cc.methodState = w.globalMethodState)
    (h' : cc.classSerial = w.classSerial (w.classOf recv)) : w.vmSearchMethod cc recv = cc :=
  if_pos ⟨h.symm, h'.symm⟩

/-- A lookup from a coherent cache finds the current method of the receiver's class. -/
private theorem vmSearchMethod_me (hc : CacheCoherent w cc) (recv : Value) :
    (w.vmSearchMethod cc recv).me = some (w.methodOf (w.classOf recv)) := by
  unfold MethodWorld.vmSearchMethod
  split
  · rename_i h; exact hc.me_eq h.1.symm _ h.2
  · rfl

theorem vmSearchMethod_coherent (hc : CacheCoherent w cc) (recv : Value) :
    CacheCoherent w (w.vmSearchMethod cc recv) := by
  unfold MethodWorld.vmSearchMethod
  split
  · exact hc
  · exact ⟨le_rfl, fun _ => w.classSerial_lt _, fun _ c h => by rw [w.classSerial_injective h]⟩

/-- A cache that `check_cc_attr_p` finds current matches the VM's numbers for the operand. -/
private theorem current_of_checkCcAttrP {src : Value} (h : w.checkCcAttrP src cc.methodState cc.classSerial = false) :
    cc.methodState = w.globalMethodState ∧ cc.classSerial = w.classSerial (w.classOf src) := by
  simp only [MethodWorld.checkCcAttrP, Bool.or_eq_false_iff, bne_eq_false_iff_eq] at h
  exact ⟨h.1.symm, h.2.symm⟩

theorem redefine_coherent [DecidableEq Cls] (hc : CacheCoherent w cc) (klass : Cls) (me : Me) :
    CacheCoherent (w.redefine klass me) cc := by
  refine ⟨hc.methodState_le, fun h => Nat.lt_succ_of_lt (hc.classSerial_lt h), fun h c hs => ?_⟩
  have hlt := hc.classSerial_lt h
  by_cases hk : c = klass
  · subst hk
    simp only [MethodWorld.redefine, Function.update_same] at hs
    omega
  · simp only [MethodWorld.redefine, Function.update_noteq hk] at hs ⊢
    exact hc.me_eq h c hs

theorem globalChange_coherent (hc : CacheCoherent w cc) (m : Cls → Me) : CacheCoherent (w.globalChange m) cc := by
  have := hc.methodState_le
  refine ⟨by simp; omega, fun h => ?_, fun h => ?_⟩ <;> simp at h <;> omega

/-! ### One execution -/

/-- `common_not` from a coherent cache: it tests the current method of the operand's class. -/
private theorem commonNot_eq (hc : CacheCoherent w cc) (changeP : Bool) (src : Value) :
    w.commonNot changeP cc src =
      (if w.isObjNot (w.methodOf (w.classOf src)) then .done (objNot src) (if changeP then some "spec_not" else none)
        else .dispatch, w.vmSearchMethod cc src) := by
  have hcur := w.vmSearchMethod_current cc src
  simp only [MethodWorld.commonNot, MethodWorld.vmMethodCfuncIs, MethodWorld.checkCfunc, vmSearchMethod_me hc,
    Option.any_some]
  split <;> simp only [vmSearchMethod_of_current hcur.1 hcur.2]

private theorem commonNot_coherent (hc : CacheCoherent w cc) (changeP : Bool) (src : Value) :
    CacheCoherent w (w.commonNot changeP cc src).2 := by
  rw [commonNot_eq hc]
  exact vmSearchMethod_coherent hc src

private theorem commonNot_result (hc : CacheCoherent w cc) (changeP : Bool) (src : Value) :
    (w.commonNot changeP cc src).1.result = w.notSpec src := by
  rw [commonNot_eq hc, MethodWorld.notSpec]
  split <;> rfl

/-- `spec_not_f` from a coherent cache that holds `rb_obj_not`: the negation while that is still the method,
the fallback otherwise, and the cache after a lookup. -/
private theorem specNotF_eq (hc : CacheCoherent w cc) (hobj : w.checkCfunc cc.me = true) (src : Value) :
    w.specNotF cc src =
      (if w.isObjNot (w.methodOf (w.classOf src)) then .done (objNot src) else .fallback "unot",
        w.vmSearchMethod cc src) := by
  unfold MethodWorld.specNotF
  split
  · simp only [MethodWorld.vmMethodCfuncIs, MethodWorld.checkCfunc, vmSearchMethod_me hc, Option.any_some]
    cases w.isObjNot (w.methodOf (w.classOf src)) <;> rfl
  · rename_i ha
    have hcur := current_of_checkCcAttrP (Bool.eq_false_iff.mpr ha)
    rw [hc.me_eq hcur.1 _ hcur.2.symm, MethodWorld.checkCfunc, Option.any_some] at hobj
    rw [if_pos hobj, vmSearchMethod_of_current hcur.1 hcur.2]

/-- The invariant of an instruction and its cache: the cache is coherent, and holds `rb_obj_not` while the
instruction is `spec_not`. -/
structure NotInv (w : MethodWorld Cls Me) (insn : NotInsn) (cc : CallCache Me) : Prop where
  coherent : CacheCoherent w cc
  specNot_objNot : insn = .specNot → w.checkCfunc cc.me = true

/-- One execution computes what the current method `!` computes, in every form of the instruction, and keeps the
invariant. -/
theorem execNot_sound {insn : NotInsn} (hi : NotInv w insn cc) (src : Value) :
    (w.execNot insn cc src).1 = w.notSpec src ∧
      NotInv w (w.execNot insn cc src).2.1 (w.execNot insn cc src).2.2 := by
  have hc := hi.coherent
  have hc' := vmSearchMethod_coherent hc src
  have hm : w.checkCfunc (w.vmSearchMethod cc src).me = w.isObjNot (w.methodOf (w.classOf src)) := by
    rw [vmSearchMethod_me hc src, MethodWorld.checkCfunc, Option.any_some]
  cases insn with
  | not =>
    refine ⟨commonNot_result hc true src, ?_⟩
    rw [MethodWorld.execNot, commonNot_eq hc]
    cases hobj : w.isObjNot (w.methodOf (w.classOf src))
    · simp only [Bool.false_eq_true, if_false, FastPath.change, reduceCtorEq]
      exact ⟨hc', nofun⟩
    · simp only [if_true, FastPath.change]
      exact ⟨hc', fun _ => hm.trans hobj⟩
  | unot =>
    exact ⟨commonNot_result hc false src, commonNot_coherent hc false src, nofun⟩
  | specNot =>
    rw [MethodWorld.execNot, specNotF_eq hc (hi.specNot_objNot rfl)]
    cases hobj : w.isObjNot (w.methodOf (w.classOf src))
    · simp only [Bool.false_eq_true, if_false]
      exact ⟨commonNot_result hc' false src, commonNot_coherent hc' false src, nofun⟩
    · simp only [if_true]
      exact ⟨by simp [MethodWorld.notSpec, hobj], hc', fun _ => hm.trans hobj⟩

private theorem MethodWorld.execNot_rank_le (w : MethodWorld Cls Me) (insn : NotInsn) (cc : CallCache Me)
    (src : Value) :
    insn.rank ≤ (w.execNot insn cc src).2.1.rank := by
  cases insn with
  | not => exact Nat.zero_le _
  | unot => exact le_rfl
  | specNot =>
    rw [MethodWorld.execNot]
    split <;> simp [NotInsn.rank]

end Coherence

/-! ### Runs -/

/-- What can happen between two executions of one instruction: another execution, with its operand, or a change
of the methods. -/
inductive NotEvent (Cls Me : Type) where
  | exec (src : Value)
  | redefine (klass : Cls) (me : Me)
  | globalChange (methodOf : Cls → Me)

/-- An instruction `!` with its call cache, in the VM. -/
structure NotState (Cls Me : Type) where
  world : MethodWorld Cls Me
  insn : NotInsn
  cc : CallCache Me

variable {Cls Me : Type} [DecidableEq Cls]

/-- The machine with no cache: an execution outputs what `!` computes in the current VM. -/
def MethodWorld.step (w : MethodWorld Cls Me) : NotEvent Cls Me → Option (Option Value) × MethodWorld Cls Me
  | .exec src => (some (w.notSpec src), w)
  | .redefine klass me => (none, w.redefine klass me)
  | .globalChange m => (none, w.globalChange m)

/-- The instruction: an execution outputs what the instruction writes. -/
def NotState.step (s : NotState Cls Me) : NotEvent Cls Me → Option (Option Value) × NotState Cls Me
  | .exec src =>
    let (r, insn, cc) := s.world.execNot s.insn s.cc src
    (some r, ⟨s.world, insn, cc⟩)
  | .redefine klass me => (none, ⟨s.world.redefine klass me, s.insn, s.cc⟩)
  | .globalChange m => (none, ⟨s.world.globalChange m, s.insn, s.cc⟩)

/-- The outputs of a machine along a run. -/
def trace {σ E O : Type} (step : σ → E → Option O × σ) : σ → List E → List O
  | _, [] => []
  | s, e :: es => (step s e).1.toList ++ trace step (step s e).2 es

/-- Two machines related by a simulation give the same outputs along every run. -/
theorem trace_eq_of_simulation {σ τ E O : Type} {step₁ : σ → E → Option O × σ}
    {step₂ : τ → E → Option O × τ} (R : σ → τ → Prop)
    (hstep : ∀ s t e, R s t → (step₁ s e).1 = (step₂ t e).1 ∧ R (step₁ s e).2 (step₂ t e).2)
    {s : σ} {t : τ} (es : List E) (h : R s t) : trace step₁ s es = trace step₂ t es := by
  induction es generalizing s t with
  | nil => rfl
  | cons e es ih =>
    obtain ⟨hout, hR⟩ := hstep s t e h
    simp only [trace, hout, ih hR]

/-- The simulation: the instruction's VM is the cache-free machine's, and the invariant holds. -/
def NotState.Sim (s : NotState Cls Me) (w : MethodWorld Cls Me) : Prop :=
  s.world = w ∧ NotInv s.world s.insn s.cc

theorem NotState.step_sim {s : NotState Cls Me} {w : MethodWorld Cls Me} (h : s.Sim w) (e : NotEvent Cls Me) :
    (s.step e).1 = (w.step e).1 ∧ (s.step e).2.Sim (w.step e).2 := by
  obtain ⟨rfl, hi⟩ := h
  cases e with
  | exec src =>
    obtain ⟨hr, hi'⟩ := execNot_sound hi src
    exact ⟨by simp [NotState.step, MethodWorld.step, hr], rfl, hi'⟩
  | redefine klass me => exact ⟨rfl, rfl, redefine_coherent hi.coherent klass me, hi.specNot_objNot⟩
  | globalChange m => exact ⟨rfl, rfl, globalChange_coherent hi.coherent m, hi.specNot_objNot⟩

/-- Along every interleaving of executions and method changes, a new instruction `not` with its zeroed cache
outputs at each execution what the method `!` computes at that moment. -/
theorem not_refines_method (w : MethodWorld Cls Me) (es : List (NotEvent Cls Me)) :
    trace NotState.step ⟨w, .not, .zero⟩ es = trace MethodWorld.step w es :=
  trace_eq_of_simulation NotState.Sim (fun _ _ e h => NotState.step_sim h e) es
    ⟨rfl, cacheCoherent_zero w, nofun⟩

/-! ### Rewrites -/

/-- How often the instruction is rewritten along a run. -/
def NotState.rewrites (s : NotState Cls Me) : List (NotEvent Cls Me) → Nat
  | [] => 0
  | e :: es => (if (s.step e).2.insn = s.insn then 0 else 1) + (s.step e).2.rewrites es

private theorem NotState.rank_step_le (s : NotState Cls Me) (e : NotEvent Cls Me) :
    s.insn.rank ≤ (s.step e).2.insn.rank := by
  cases e with
  | exec src => exact s.world.execNot_rank_le s.insn s.cc src
  | redefine | globalChange => exact le_rfl

private theorem NotInsn.rank_le_two (insn : NotInsn) : insn.rank ≤ 2 := by
  cases insn <;> decide

private theorem NotInsn.rank_injective : Function.Injective NotInsn.rank := by
  intro a b h
  cases a <;> cases b <;> first | rfl | cases h

/-- The instruction never moves back, so along any run it is rewritten at most as often as it has forms ahead
of it: at most twice from `not`. -/
theorem NotState.rewrites_le (s : NotState Cls Me) (es : List (NotEvent Cls Me)) :
    s.rewrites es ≤ 2 - s.insn.rank := by
  induction es generalizing s with
  | nil => exact Nat.zero_le _
  | cons e es ih =>
    have hle := s.rank_step_le e
    have h2 := (s.step e).2.insn.rank_le_two
    have := ih (s.step e).2
    unfold rewrites
    split
    · rename_i h; rw [h] at this; omega
    · rename_i h
      have : s.insn.rank ≠ (s.step e).2.insn.rank := fun hr => h (NotInsn.rank_injective hr).symm
      omega

end RtlMjit
