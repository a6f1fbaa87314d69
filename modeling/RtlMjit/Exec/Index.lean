import RtlMjit.Exec.Runtime

/-!
# Index instructions

`ind`, `indi` and `inds` (`[]` with a variable, a fixnum or a string index) run `common_ind`.  On an Array and a
fixnum index it reads `rb_ary_entry_internal`; on a Hash it reads `rb_hash_aref`, for a string index only if the
hash does not compare by identity.  `indset`, `indseti`, `indsets` run `common_indset`, which stores with
`rb_ary_store` and `rb_hash_aset`.  A changing form that takes a fast path rewrites itself to the speculative
form of that path, unless the id it is given is `nop`.  The speculative forms `aind…`, `hind…`, `aindset…`,
`hindset…` re-check the class and read or write the array directly when the index lies inside it.

The heap and the runtime functions on it are parameters, collected in `HeapModel`.  Of `rb_ary_store` the model
needs one fact, which the structure carries: on an index inside an array that is neither frozen nor shared it
is the plain store `RARRAY_ASET`.

The main results:
* `specInd_refines` and `specIndset_refines`: a speculative index or index store that completes reads or writes
  what its unchanging form does on the same operands and heap.
-/

namespace RtlMjit

/-- An Array object: its elements (`RARRAY_LEN`, `RARRAY_CONST_PTR`) and its flags `OBJ_FROZEN` and
`ELTS_SHARED`. -/
structure RArray where
  elems : List Value
  frozen : Bool
  shared : Bool
deriving DecidableEq, Repr

/-- An index into an array of `len` elements, counted from the end when negative, if it lies inside. -/
def aryOffset (len : Nat) (offset : Int) : Option Nat :=
  let o := if offset < 0 then offset + len else offset
  if 0 ≤ o ∧ o < len then some o.toNat else none

/-- `rb_ary_entry_internal`: the element at the index, `Qnil` outside the array. -/
def aryEntryInternal (ary : RArray) (offset : Int) : Value :=
  match aryOffset ary.elems.length offset with
  | some o => ary.elems.getD o qnil
  | none => qnil

/-- The heap of Arrays and Hashes and the runtime functions on it, outside `src/`. -/
structure HeapModel (H : Type) where
  aryOf : H → Value → RArray
  /-- An array length fits a fixnum. -/
  aryLen_lt : ∀ h a, (aryOf h a).elems.length < 2 ^ 62
  /-- `RARRAY_ASET`. -/
  arySet : H → Value → Nat → Value → H
  /-- `rb_ary_store`. -/
  aryStore : H → Value → Int → Value → H
  aryStore_eq_arySet : ∀ h a i o v, aryOffset (aryOf h a).elems.length i = some o →
    (aryOf h a).frozen = false → (aryOf h a).shared = false → aryStore h a i v = arySet h a o v
  /-- `rb_hash_aref`, `rb_hash_aset` and `rb_hash_compare_by_id_p`. -/
  hashAref : H → Value → Value → Value
  hashAset : H → Value → Value → Value → H
  hashCompareById : H → Value → Bool

/-- How a generic or unchanging index store ends: the heap after the fast path's store and the rewrite it
made, or the method dispatch. -/
inductive StoreOutcome (H : Type) where
  | done (heap : H) (change : Option InsnId)
  | dispatch

/-- How a speculative index store ends: the heap after its store, or the fallback. -/
inductive SpecStoreOutcome (H : Type) where
  | done (heap : H)
  | fallback (uinsn : InsnId)

section Forms

variable {H : Type} (R : Runtime) (M : HeapModel H) (rs : RedefState)

/-- `FIX2ULONG`: the integer of a fixnum as an unsigned word. -/
def fix2ulong (v : Value) : Nat := (BitVec.ofInt 64 (fix2long v)).toNat

/-! ### Reading -/

/-- `common_ind`: the fast paths of `[]` whose index is known to be a fixnum (`op2FixnumP`) or a string
(`op2StrP`), which rewrites itself to `aryInsnId` or `hashInsnId` unless that is `nop`. -/
def commonInd (op2FixnumP op2StrP : Bool) (aryInsnId hashInsnId : InsnId) (h : H) (op1 op2 : Value) :
    FastPath :=
  if !specialConstP op1 then
    if R.classOf op1 = .array ∧ rs.specUnredefined .aref .array ∧ (op2FixnumP || fixnumP op2) then
      .done (aryEntryInternal (M.aryOf h op1) (fix2long op2)) (if aryInsnId ≠ "nop" then some aryInsnId else none)
    else if R.classOf op1 = .hash ∧ rs.specUnredefined .aref .hash ∧ (!op2StrP || !M.hashCompareById h op1) then
      .done (M.hashAref h op1 op2) (if hashInsnId ≠ "nop" then some hashInsnId else none)
    else .dispatch
  else .dispatch

/-- `ind`. -/
def indF : H → Value → Value → FastPath := commonInd R M rs false false "aind" "hind"
/-- `uind`. -/
def uindF : H → Value → Value → FastPath := commonInd R M rs false false "nop" "nop"
/-- `indi`. -/
def indiF : H → Value → Value → FastPath := commonInd R M rs true false "aindi" "hindi"
/-- `uindi`. -/
def uindiF : H → Value → Value → FastPath := commonInd R M rs true false "nop" "nop"
/-- `inds`. -/
def indsF : H → Value → Value → FastPath := commonInd R M rs false true "nop" "hinds"
/-- `uinds`. -/
def uindsF : H → Value → Value → FastPath := commonInd R M rs false true "nop" "nop"

/-- The class test of the speculative `aind…` and `aindset…` forms. -/
def aryGuard (bop : Bop) (op1 : Value) : Bool :=
  !specialConstP op1 && R.classOf op1 == .array && rs.specUnredefined bop .array

/-- The class test of the speculative `hind…` and `hindset…` forms. -/
def hashGuard (bop : Bop) (op1 : Value) : Bool :=
  !specialConstP op1 && R.classOf op1 == .hash && rs.specUnredefined bop .hash

/-- `aind`: an unsigned fixnum index below the length. -/
def aindF (h : H) (op1 op2 : Value) : SpecOutcome :=
  if aryGuard R rs .aref op1 && fixnumP op2 then
    if fix2ulong op2 < (M.aryOf h op1).elems.length then .done ((M.aryOf h op1).elems.getD (fix2ulong op2) qnil)
    else .fallback "uind"
  else .fallback "uind"

/-- `hind`. -/
def hindF (h : H) (op1 op2 : Value) : SpecOutcome :=
  if hashGuard R rs .aref op1 then .done (M.hashAref h op1 op2) else .fallback "uind"

/-- `aindi`: an immediate index, counted from the end when negative. -/
def aindiF (h : H) (op1 imm : Value) : SpecOutcome :=
  if aryGuard R rs .aref op1 then
    match aryOffset (M.aryOf h op1).elems.length (fix2long imm) with
    | some o => .done ((M.aryOf h op1).elems.getD o qnil)
    | none => .fallback "uindi"
  else .fallback "uindi"

/-- `hindi`. -/
def hindiF (h : H) (op1 imm : Value) : SpecOutcome :=
  if hashGuard R rs .aref op1 then .done (M.hashAref h op1 imm) else .fallback "uindi"

/-- `hinds`: only for a hash that does not compare by identity. -/
def hindsF (h : H) (op1 imm : Value) : SpecOutcome :=
  if hashGuard R rs .aref op1 && !M.hashCompareById h op1 then .done (M.hashAref h op1 imm) else .fallback "uinds"

/-! ### Writing -/

/-- `common_indset`.  Its hash path tests `ary_insn_id` against `nop` before it rewrites to `hash_insn_id`. -/
def commonIndset (fixnumP' strP : Bool) (aryInsnId hashInsnId : InsnId) (h : H) (op1 ind op3 : Value) :
    StoreOutcome H :=
  if !specialConstP op1 then
    if R.classOf op1 = .array ∧ rs.specUnredefined .aset .array ∧ (fixnumP' || fixnumP ind) then
      .done (M.aryStore h op1 (fix2long ind) op3) (if aryInsnId ≠ "nop" then some aryInsnId else none)
    else if R.classOf op1 = .hash ∧ rs.unredefined .aset .hash ∧ (!strP || !M.hashCompareById h op1) then
      .done (M.hashAset h op1 ind op3) (if aryInsnId ≠ "nop" then some hashInsnId else none)
    else .dispatch
  else .dispatch

/-- `indset`. -/
def indsetF : H → Value → Value → Value → StoreOutcome H := commonIndset R M rs false false "aindset" "hindset"
/-- `uindset`. -/
def uindsetF : H → Value → Value → Value → StoreOutcome H := commonIndset R M rs false false "nop" "nop"
/-- `indseti`. -/
def indsetiF : H → Value → Value → Value → StoreOutcome H :=
  commonIndset R M rs true false "aindseti" "hindseti"
/-- `uindseti`. -/
def uindsetiF : H → Value → Value → Value → StoreOutcome H := commonIndset R M rs true false "nop" "nop"
/-- `indsets`. -/
def indsetsF : H → Value → Value → Value → StoreOutcome H := commonIndset R M rs false true "nop" "hindsets"
/-- `uindsets`. -/
def uindsetsF : H → Value → Value → Value → StoreOutcome H := commonIndset R M rs false true "nop" "nop"

/-- An array that `RARRAY_ASET` may write: neither frozen nor shared. -/
def aryWritable (h : H) (ary : Value) : Bool := !(M.aryOf h ary).frozen && !(M.aryOf h ary).shared

/-- `aindset_f`. -/
def aindsetF (h : H) (op1 op2 op3 : Value) : SpecStoreOutcome H :=
  if aryGuard R rs .aset op1 && fixnumP op2 && aryWritable M h op1 then
    if fix2ulong op2 < (M.aryOf h op1).elems.length then .done (M.arySet h op1 (fix2ulong op2) op3)
    else .fallback "uindset"
  else .fallback "uindset"

/-- `hindset_f`. -/
def hindsetF (h : H) (op1 op2 op3 : Value) : SpecStoreOutcome H :=
  if hashGuard R rs .aset op1 then .done (M.hashAset h op1 op2 op3) else .fallback "uindset"

/-- `aindseti_f`. -/
def aindsetiF (h : H) (op1 imm op3 : Value) : SpecStoreOutcome H :=
  if aryGuard R rs .aset op1 && aryWritable M h op1 then
    match aryOffset (M.aryOf h op1).elems.length (fix2long imm) with
    | some o => .done (M.arySet h op1 o op3)
    | none => .fallback "uindseti"
  else .fallback "uindseti"

/-- `hindseti_f`. -/
def hindsetiF (h : H) (op1 imm op3 : Value) : SpecStoreOutcome H :=
  if hashGuard R rs .aset op1 then .done (M.hashAset h op1 imm op3) else .fallback "uindseti"

/-- `hindsets_f`. -/
def hindsetsF (h : H) (op1 imm op3 : Value) : SpecStoreOutcome H :=
  if hashGuard R rs .aset op1 && !M.hashCompareById h op1 then .done (M.hashAset h op1 imm op3)
  else .fallback "uindsets"

end Forms

/-! ### Indices -/

/-- An unsigned fixnum index below a fixnum length is a nonnegative index inside the array. -/
private theorem aryOffset_fix2ulong {len : Nat} {v : Value} (hlen : len < 2 ^ 62) (h : fix2ulong v < len) :
    aryOffset len (fix2long v) = some (fix2ulong v) := by
  have hb := fixable_fix2long v
  unfold fix2ulong at *
  rw [BitVec.toNat_ofInt] at *
  unfold aryOffset fixable fixnumMin fixnumMax at *
  have h0 : 0 ≤ fix2long v := by omega
  simp only [show ¬ fix2long v < 0 by omega, if_false]
  rw [if_pos (by omega)]
  congr 1
  omega

/-! ### Speculative forms against unchanging forms -/

/-- A speculative index store outcome against its unchanging form's: the same heap, or the fallback. -/
def SpecStoreOutcome.Refines {H : Type} (uinsn : InsnId) (u : StoreOutcome H) : SpecStoreOutcome H → Prop
  | .done heap => u = .done heap none
  | .fallback i => i = uinsn

section Refinement

variable {H : Type} {R : Runtime} {M : HeapModel H} {rs : RedefState} {op1 : Value}

private theorem aryGuard_iff {bop : Bop} :
    aryGuard R rs bop op1 = true ↔
      specialConstP op1 = false ∧ R.classOf op1 = .array ∧ rs.specUnredefined bop .array = true := by
  simp [aryGuard, and_assoc]

private theorem hashGuard_iff {bop : Bop} :
    hashGuard R rs bop op1 = true ↔
      specialConstP op1 = false ∧ R.classOf op1 = .hash ∧ rs.specUnredefined bop .hash = true := by
  simp [hashGuard, and_assoc]

/-- The array path of `common_ind` once the class test holds. -/
private theorem commonInd_ary {op2FixnumP op2StrP : Bool} {h : H} {op2 : Value}
    (hg : aryGuard R rs .aref op1 = true) (hf : (op2FixnumP || fixnumP op2) = true) :
    commonInd R M rs op2FixnumP op2StrP "nop" "nop" h op1 op2 =
      .done (aryEntryInternal (M.aryOf h op1) (fix2long op2)) none := by
  obtain ⟨hs, hc, hu⟩ := aryGuard_iff.1 hg
  simp [commonInd, hs, hc, hu, hf]

/-- The hash path of `common_ind` once the class test holds. -/
private theorem commonInd_hash {op2FixnumP op2StrP : Bool} {h : H} {op2 : Value}
    (hg : hashGuard R rs .aref op1 = true) (hstr : (!op2StrP || !M.hashCompareById h op1) = true) :
    commonInd R M rs op2FixnumP op2StrP "nop" "nop" h op1 op2 = .done (M.hashAref h op1 op2) none := by
  obtain ⟨hs, hc, hu⟩ := hashGuard_iff.1 hg
  simp only [Bool.or_eq_true, Bool.not_eq_true'] at hstr
  simp [commonInd, hs, hc, hu, hstr]

/-- Every speculative index form refines its unchanging form: where it completes it reads what the unchanging
form reads on the same operands and heap, and otherwise it turns into that form. -/
theorem specInd_refines (h : H) (op1 op2 : Value) :
    (aindF R M rs h op1 op2).Refines "uind" (uindF R M rs h op1 op2) ∧
    (hindF R M rs h op1 op2).Refines "uind" (uindF R M rs h op1 op2) ∧
    (aindiF R M rs h op1 op2).Refines "uindi" (uindiF R M rs h op1 op2) ∧
    (hindiF R M rs h op1 op2).Refines "uindi" (uindiF R M rs h op1 op2) ∧
    (hindsF R M rs h op1 op2).Refines "uinds" (uindsF R M rs h op1 op2) := by
  refine ⟨?_, ?_, ?_, ?_, ?_⟩
  · unfold aindF
    split
    · rename_i hg
      simp only [Bool.and_eq_true] at hg
      split
      · rename_i hlt
        show commonInd .. = _
        rw [commonInd_ary hg.1 (by simp [hg.2]), aryEntryInternal,
          aryOffset_fix2ulong (M.aryLen_lt h op1) hlt]
      · rfl
    · rfl
  · unfold hindF
    split
    · exact commonInd_hash ‹_› rfl
    · rfl
  · unfold aindiF
    split
    · rename_i hg
      split
      · rename_i o ho
        show commonInd .. = _
        rw [commonInd_ary hg (Bool.true_or _), aryEntryInternal, ho]
      · rfl
    · rfl
  · unfold hindiF
    split
    · exact commonInd_hash ‹_› rfl
    · rfl
  · unfold hindsF
    split
    · rename_i hg
      simp only [Bool.and_eq_true] at hg
      exact commonInd_hash hg.1 (by simp [hg.2])
    · rfl

/-- The array path of `common_indset` once the class test holds. -/
private theorem commonIndset_ary {fixnumP' strP : Bool} {h : H} {ind op3 : Value}
    (hg : aryGuard R rs .aset op1 = true) (hf : (fixnumP' || fixnumP ind) = true) :
    commonIndset R M rs fixnumP' strP "nop" "nop" h op1 ind op3 =
      .done (M.aryStore h op1 (fix2long ind) op3) none := by
  obtain ⟨hs, hc, hu⟩ := aryGuard_iff.1 hg
  simp [commonIndset, hs, hc, hu, hf]

/-- The hash path of `common_indset` once the class test of the speculative form holds, under the callers'
invariant on `mjit_bop_redefined_p`. -/
private theorem commonIndset_hash {fixnumP' strP : Bool} {h : H} {ind op3 : Value}
    (hg : hashGuard R rs .aset op1 = true) (hstr : (!strP || !M.hashCompareById h op1) = true) :
    commonIndset R M rs fixnumP' strP "nop" "nop" h op1 ind op3 = .done (M.hashAset h op1 ind op3) none := by
  obtain ⟨hs, hc, hu⟩ := hashGuard_iff.1 hg
  simp only [Bool.or_eq_true, Bool.not_eq_true'] at hstr
  simp [commonIndset, hs, hc, RedefState.unredefined_of_spec hu, hstr]

private theorem aryWritable_iff {h : H} :
    aryWritable M h op1 = true ↔ (M.aryOf h op1).frozen = false ∧ (M.aryOf h op1).shared = false := by
  simp [aryWritable]

/-- Every speculative index store refines its unchanging form: where it completes it leaves the heap the
unchanging form leaves on the same operands, and otherwise it turns into that form. -/
theorem specIndset_refines (h : H) (op1 op2 op3 : Value) :
    (aindsetF R M rs h op1 op2 op3).Refines "uindset" (uindsetF R M rs h op1 op2 op3) ∧
    (hindsetF R M rs h op1 op2 op3).Refines "uindset" (uindsetF R M rs h op1 op2 op3) ∧
    (aindsetiF R M rs h op1 op2 op3).Refines "uindseti" (uindsetiF R M rs h op1 op2 op3) ∧
    (hindsetiF R M rs h op1 op2 op3).Refines "uindseti" (uindsetiF R M rs h op1 op2 op3) ∧
    (hindsetsF R M rs h op1 op2 op3).Refines "uindsets" (uindsetsF R M rs h op1 op2 op3) := by
  refine ⟨?_, ?_, ?_, ?_, ?_⟩
  · unfold aindsetF
    split
    · rename_i hg
      simp only [Bool.and_eq_true] at hg
      obtain ⟨⟨hg, hf⟩, hw⟩ := hg
      obtain ⟨hfr, hsh⟩ := aryWritable_iff.1 hw
      split
      · rename_i hlt
        show commonIndset .. = _
        rw [commonIndset_ary hg (by simp [hf]),
          M.aryStore_eq_arySet _ _ _ _ _ (aryOffset_fix2ulong (M.aryLen_lt h op1) hlt) hfr hsh]
      · rfl
    · rfl
  · unfold hindsetF
    split
    · exact commonIndset_hash ‹_› rfl
    · rfl
  · unfold aindsetiF
    split
    · rename_i hg
      simp only [Bool.and_eq_true] at hg
      obtain ⟨hfr, hsh⟩ := aryWritable_iff.1 hg.2
      split
      · rename_i o ho
        show commonIndset .. = _
        rw [commonIndset_ary hg.1 (Bool.true_or _), M.aryStore_eq_arySet _ _ _ _ _ ho hfr hsh]
      · rfl
    · rfl
  · unfold hindsetiF
    split
    · exact commonIndset_hash ‹_› rfl
    · rfl
  · unfold hindsetsF
    split
    · rename_i hg
      simp only [Bool.and_eq_true] at hg
      exact commonIndset_hash hg.1 (by simp [hg.2])
    · rfl

end Refinement

end RtlMjit
