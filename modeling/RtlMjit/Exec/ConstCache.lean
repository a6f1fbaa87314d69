import RtlMjit.Value

/-!
# The constant cache

`const_cached_val_ld_f` reads a constant through an inline cache `IC`.  It serves the cached value when the cache's
serial is the global constant state and its cref is `NULL` or the frame's cref.  Otherwise it looks the constant
up with `vm_get_ev_const` and fills the cache, stamped with the global constant state less the number of
`const_missing` calls since the last fill.  `mjit_const_cached_val_ld` is the JIT's form: it tests the copy of
the cache taken when the code was compiled, and serves it only when that copy's cref is `NULL`.

The lookup follows the caller's model: its value, and how often it calls `const_missing`, are fixed by the global
constant state and by the key cref that `vm_get_const_key_cref` gives the frame, which is the frame's cref when
the cref's chain holds a singleton or cloned class, and `NULL` otherwise.

* `ConstInv`, kept by every event (`constInv_run`): each cache, the IC and the JIT's copy, is stamped no later
  than the state; one stamped with the current state holds what a lookup under its own cref returns; and a value
  that came through `const_missing` carries a stamp behind the state.
* So a hit serves the lookup under the cref the cache was filled with.  That is the executing frame's key cref
  unless the cache was filled under `NULL` and the frame's key cref is not `NULL`, and then the value served need
  not be the frame's: a run of two executions shows it.
-/

namespace RtlMjit

/-- An inline constant cache: `ic_serial`, `ic_cref` (`none` for `NULL`) and `ic_value.value`.  `viaMissing` is
not in the source; it records whether the value stored came through `const_missing`, for the statements. -/
structure ConstCache (Cref : Type) where
  serial : Nat
  cref : Option Cref
  value : Value
  viaMissing : Bool
deriving DecidableEq

/-- A zeroed cache. -/
def ConstCache.zero {Cref : Type} : ConstCache Cref := ⟨0, none, 0, false⟩

/-- `GLOBAL_CONSTANT_STATE` and `ruby_vm_const_missing_count`. -/
structure ConstWorld where
  state : Nat
  missingCount : Nat
deriving DecidableEq

/-- The caller's model of constant lookup at one cache (`vm_get_ev_const` and `vm_get_const_key_cref`, outside
`src/`). -/
structure ConstLookup (Cref : Type) where
  /-- The value a lookup returns at a state under a key cref, and how often it calls `const_missing`. -/
  lookup : Nat → Option Cref → Value × Nat
  /-- Whether the cref's chain holds a singleton or cloned class. -/
  keyed : Cref → Bool

/-- `vm_get_const_key_cref`: the frame's cref when its chain holds a singleton or cloned class, else `NULL`. -/
def ConstLookup.keyCref {Cref : Type} (L : ConstLookup Cref) (cur : Cref) : Option Cref :=
  if L.keyed cur then some cur else none

section Cache

variable {Cref : Type} [DecidableEq Cref] (L : ConstLookup Cref)

/-- The hit test of `const_cached_val_ld_f` in a frame whose cref is `cur`. -/
def constHit (w : ConstWorld) (ic : ConstCache Cref) (cur : Cref) : Bool :=
  decide (ic.serial = w.state ∧ (ic.cref = none ∨ ic.cref = some cur))

/-- `const_cached_val_ld_f` in a frame whose cref is `cur`: the value written to `*res`, the world and the cache
after it. -/
def constCachedValLdF (w : ConstWorld) (ic : ConstCache Cref) (cur : Cref) :
    Value × ConstWorld × ConstCache Cref :=
  if constHit w ic cur then (ic.value, w, ic)
  else
    let (v, k) := L.lookup w.state (L.keyCref cur)
    (v, { w with missingCount := 0 }, ⟨w.state - (w.missingCount + k), L.keyCref cur, v, k != 0⟩)

/-- `mjit_const_cached_val_ld` on the copy `snap` of the cache taken at compilation: the value it writes, or
`none` when it returns `TRUE`. -/
def mjitConstCachedValLd (w : ConstWorld) (snap : ConstCache Cref) : Option Value :=
  if snap.serial = w.state ∧ snap.cref = none then some snap.value else none

end Cache

/-! ### Runs -/

/-- What happens to one cache and the constants: an execution of `const_cached_val_ld_f` in a frame with cref
`cur`, an execution of the JIT's form, a compilation that copies the cache, a constant (re)definition, and a
`const_missing` call elsewhere. -/
inductive ConstEvent (Cref : Type) where
  | exec (cur : Cref)
  | jitExec
  | compile
  | redefine
  | constMissing

/-- The constants, the cache, and the JIT's copy of it. -/
structure ConstState (Cref : Type) where
  world : ConstWorld
  ic : ConstCache Cref
  snap : ConstCache Cref
deriving DecidableEq

/-- Zeroed caches; `GLOBAL_CONSTANT_STATE` starts at 1 in the VM. -/
def ConstState.init {Cref : Type} : ConstState Cref := ⟨⟨1, 0⟩, .zero, .zero⟩

section Coherence

variable {Cref : Type} (L : ConstLookup Cref)

/-- A cache agrees with the lookup: stamped no later than the state, holding what a lookup under its own cref
returns when stamped with the current state, with a keyed cref, and stamped behind the state when its value came
through `const_missing`. -/
structure ConstCache.Coherent (w : ConstWorld) (c : ConstCache Cref) : Prop where
  serial_le : c.serial ≤ w.state
  value_eq : c.serial = w.state → c.value = (L.lookup w.state c.cref).1
  cref_keyed : ∀ x, c.cref = some x → L.keyed x = true
  missing_lt : c.viaMissing = true → c.serial < w.state

/-- The invariant of a run: the state is positive and both caches agree with the lookup. -/
structure ConstInv (s : ConstState Cref) : Prop where
  state_pos : 0 < s.world.state
  ic : s.ic.Coherent L s.world
  snap : s.snap.Coherent L s.world

variable {L}

theorem constInv_init : ConstInv L (ConstState.init : ConstState Cref) :=
  have h : (ConstCache.zero : ConstCache Cref).Coherent L ⟨1, 0⟩ :=
    ⟨Nat.zero_le 1, fun h => absurd h Nat.zero_ne_one, nofun, nofun⟩
  ⟨Nat.one_pos, h, h⟩

theorem ConstCache.Coherent.redefine {w : ConstWorld} {c : ConstCache Cref} (h : c.Coherent L w) :
    c.Coherent L { w with state := w.state + 1 } :=
  ⟨by have := h.serial_le; simp only; omega, fun he => by have := h.serial_le; simp only at he; omega,
    h.cref_keyed, fun _ => by have := h.serial_le; simp only; omega⟩

/-- A fill leaves a coherent cache: stamped with the current state only when no `const_missing` call is pending,
under the frame's key cref. -/
private theorem coherent_fill {w : ConstWorld} (hw : 0 < w.state) (cur : Cref) :
    ConstCache.Coherent L { w with missingCount := 0 }
      ⟨w.state - (w.missingCount + (L.lookup w.state (L.keyCref cur)).2), L.keyCref cur,
        (L.lookup w.state (L.keyCref cur)).1, (L.lookup w.state (L.keyCref cur)).2 != 0⟩ where
  serial_le := by simp only; omega
  value_eq := fun _ => rfl
  cref_keyed := fun x hx => by
    simp only [ConstLookup.keyCref] at hx
    split at hx
    · cases hx; assumption
    · cases hx
  missing_lt := fun h => by simp only [bne_iff_ne, ne_eq] at h ⊢; omega

end Coherence

section Runs

variable {Cref : Type} [DecidableEq Cref] (L : ConstLookup Cref)

/-- One event. -/
def ConstState.step (s : ConstState Cref) : ConstEvent Cref → ConstState Cref
  | .exec cur =>
    let (_, w, ic) := constCachedValLdF L s.world s.ic cur
    ⟨w, ic, s.snap⟩
  | .jitExec => s
  | .compile => { s with snap := s.ic }
  | .redefine => { s with world := { s.world with state := s.world.state + 1 } }
  | .constMissing => { s with world := { s.world with missingCount := s.world.missingCount + 1 } }

/-- The state after a run of events. -/
def ConstState.run (s : ConstState Cref) (es : List (ConstEvent Cref)) : ConstState Cref :=
  es.foldl (ConstState.step L) s

variable {L}

/-- One execution of `const_cached_val_ld_f` keeps the invariant. -/
private theorem constInv_exec {s : ConstState Cref} (h : ConstInv L s) (cur : Cref) :
    ConstInv L (ConstState.step L s (.exec cur)) := by
  simp only [ConstState.step, constCachedValLdF]
  split
  · exact h
  · exact ⟨h.state_pos, coherent_fill h.state_pos cur,
      ⟨h.snap.serial_le, h.snap.value_eq, h.snap.cref_keyed, h.snap.missing_lt⟩⟩

/-- Every event keeps the invariant. -/
theorem constInv_step {s : ConstState Cref} (h : ConstInv L s) :
    ∀ e, ConstInv L (ConstState.step L s e)
  | .exec cur => constInv_exec h cur
  | .jitExec => h
  | .compile => ⟨h.state_pos, h.ic, h.ic⟩
  | .redefine => ⟨Nat.succ_pos _, h.ic.redefine, h.snap.redefine⟩
  | .constMissing => ⟨h.state_pos, ⟨h.ic.serial_le, h.ic.value_eq, h.ic.cref_keyed, h.ic.missing_lt⟩,
      ⟨h.snap.serial_le, h.snap.value_eq, h.snap.cref_keyed, h.snap.missing_lt⟩⟩

theorem constInv_run {s : ConstState Cref} (h : ConstInv L s) (es : List (ConstEvent Cref)) :
    ConstInv L (s.run L es) := by
  induction es generalizing s with
  | nil => exact h
  | cons e es ih => exact ih (constInv_step h e)

/-- A hit of a coherent cache serves the lookup under the cache's cref, which is the frame's key cref unless the
cache's cref is `NULL` and the frame's is not; and its value did not come through `const_missing`. -/
theorem constHit_sound {w : ConstWorld} {ic : ConstCache Cref} (h : ic.Coherent L w) {cur : Cref}
    (hit : constHit w ic cur = true) :
    (constCachedValLdF L w ic cur).1 = (L.lookup w.state ic.cref).1 ∧
      (ic.cref = L.keyCref cur ∨ ic.cref = none ∧ L.keyed cur = true) ∧ ic.viaMissing = false := by
  simp only [constHit, decide_eq_true_eq] at hit
  obtain ⟨hs, hc⟩ := hit
  refine ⟨by rw [constCachedValLdF, if_pos (by simp [constHit, hs, hc])]; exact h.value_eq hs, ?_,
    by cases hv : ic.viaMissing; rfl; have := h.missing_lt hv; omega⟩
  rcases hc with hc | hc
  · cases hk : L.keyed cur
    · exact .inl (by simp [ConstLookup.keyCref, hk, hc])
    · exact .inr ⟨hc, rfl⟩
  · exact .inl (by simp [ConstLookup.keyCref, hc, h.cref_keyed cur hc])

/-- Along every run, a hit of `const_cached_val_ld_f` serves the value a fresh lookup returns under the cref the
cache was filled with: the executing frame's key cref, unless the cache was filled under `NULL` and the frame's key
cref is not `NULL`.  A hit of `mjit_const_cached_val_ld` serves the lookup under `NULL`.  Neither serves a value
that came through `const_missing`. -/
theorem constCache_hits_coherent (L : ConstLookup Cref) (es : List (ConstEvent Cref)) (cur : Cref) :
    (constHit (ConstState.init.run L es).world (ConstState.init.run L es).ic cur = true →
      (constCachedValLdF L (ConstState.init.run L es).world (ConstState.init.run L es).ic cur).1 =
          (L.lookup (ConstState.init.run L es).world.state (ConstState.init.run L es).ic.cref).1 ∧
        ((ConstState.init.run L es).ic.cref = L.keyCref cur ∨
          (ConstState.init.run L es).ic.cref = none ∧ L.keyed cur = true) ∧
        (ConstState.init.run L es).ic.viaMissing = false) ∧
    ∀ v, mjitConstCachedValLd (ConstState.init.run L es).world (ConstState.init.run L es).snap = some v →
      v = (L.lookup (ConstState.init.run L es).world.state none).1 ∧
        (ConstState.init.run L es).snap.viaMissing = false := by
  have h : ConstInv L (ConstState.init.run L es) := constInv_run constInv_init es
  refine ⟨constHit_sound h.ic, fun v hv => ?_⟩
  simp only [mjitConstCachedValLd] at hv
  split at hv
  · rename_i hs
    cases hv
    refine ⟨by rw [h.snap.value_eq hs.1, hs.2], ?_⟩
    cases hm : (ConstState.init.run L es).snap.viaMissing
    · rfl
    · have := h.snap.missing_lt hm; omega
  · cases hv

end Runs

/-- Two crefs at one cache: lookups under cref 2, whose chain holds a singleton class, return 20, and lookups
under `NULL` return 10. -/
def twoCrefLookup : ConstLookup Nat := ⟨fun _ k => (if k.isSome then 20 else 10, 0), fun c => c == 2⟩

theorem constCache_hits_coherent_exec :
    constHit (ConstState.init.run twoCrefLookup [.exec 1]).world (ConstState.init.run twoCrefLookup [.exec 1]).ic
        1 = true ∧
      (constCachedValLdF twoCrefLookup (ConstState.init.run twoCrefLookup [.exec 1]).world
          (ConstState.init.run twoCrefLookup [.exec 1]).ic 1).1 =
        (twoCrefLookup.lookup (ConstState.init.run twoCrefLookup [.exec 1]).world.state
          (ConstState.init.run twoCrefLookup [.exec 1]).ic.cref).1 :=
  have hit : constHit (ConstState.init.run twoCrefLookup [.exec 1]).world
      (ConstState.init.run twoCrefLookup [.exec 1]).ic 1 = true := by decide
  ⟨hit, ((constCache_hits_coherent twoCrefLookup [.exec 1] 1).1 hit).1⟩

/-- A cache filled in a frame whose key cref is `NULL` is hit in a frame whose key cref is not, and serves 10
where a fresh lookup returns 20. -/
theorem constCache_serves_null_key_value :
    constHit (ConstState.init.run twoCrefLookup [.exec 1]).world (ConstState.init.run twoCrefLookup [.exec 1]).ic
        2 = true ∧
      (constCachedValLdF twoCrefLookup (ConstState.init.run twoCrefLookup [.exec 1]).world
          (ConstState.init.run twoCrefLookup [.exec 1]).ic 2).1 = 10 ∧
      (twoCrefLookup.lookup (ConstState.init.run twoCrefLookup [.exec 1]).world.state
          (twoCrefLookup.keyCref 2)).1 = 20 := by
  decide

end RtlMjit
