import Mathlib.Data.BitVec

/-!
# Object references

A Ruby object reference `VALUE` is a 64-bit word.  Immediates are tagged in the low bits: a fixnum `a` is the
word `2a+1`, a flonum has the low bits `10`, and the special constants `Qfalse`, `Qnil`, `Qtrue`, `Qundef` are
small words with the low bits `00`.  Every other word is a reference to a heap object.  The tag macros and the
constants come from the runtime headers (`ruby.h`), which are outside `src/`; they are written here with the
values those headers give them on a 64-bit host with flonums.

The lemmas at the end say that the fixnum tagging is exact on the fixnum range: `fix2long (int2fix a) = a`.
-/

namespace RtlMjit

/-- The word `VALUE`. -/
abbrev Value := BitVec 64

/-! ### Special constants and tag tests -/

def qfalse : Value := 0x00
def qnil : Value := 0x08
def qtrue : Value := 0x14
def qundef : Value := 0x34

/-- `RTEST`: every word but `Qfalse` and `Qnil` is true. -/
def rtest (v : Value) : Bool := v &&& ~~~qnil != 0

/-- `NIL_P`. -/
def nilP (v : Value) : Bool := v == qnil

/-- `IMMEDIATE_P`: the low three bits are not all zero. -/
def immediateP (v : Value) : Bool := v &&& 7 != 0

/-- `SPECIAL_CONST_P`: an immediate, `Qfalse` or `Qnil`. -/
def specialConstP (v : Value) : Bool := immediateP v || !rtest v

/-- `FIXNUM_P`: the low bit is set. -/
def fixnumP (v : Value) : Bool := v &&& 1 == 1

/-- `FLONUM_P`: the low two bits are `10`. -/
def flonumP (v : Value) : Bool := v &&& 3 == 2

/-- `FIXNUM_2_P`: both words are fixnums. -/
def fixnum2P (a b : Value) : Bool := fixnumP a && fixnumP b

/-- `FLONUM_2_P`: both words are flonums. -/
def flonum2P (a b : Value) : Bool := flonumP a && flonumP b

/-- A reference to a heap object: no special constant. -/
def heapRef (v : Value) : Prop := specialConstP v = false

instance (v : Value) : Decidable (heapRef v) := inferInstanceAs (Decidable (_ = _))

private theorem qundef_not_heapRef : ¬ heapRef qundef := by decide

private theorem rtest_of_heapRef {v : Value} (h : heapRef v) : rtest v = true := by
  simp only [heapRef, specialConstP, Bool.or_eq_false_iff, Bool.not_eq_false'] at h
  exact h.2

/-! The tags as remainders of the word. -/

private theorem fixnumP_iff (v : Value) : fixnumP v = true ↔ v.toNat % 2 = 1 := by
  simp only [fixnumP, beq_iff_eq, BitVec.toNat_eq, BitVec.toNat_and]
  exact Iff.of_eq (congrArg (· = 1) (Nat.and_one_is_mod _))

theorem flonumP_iff (v : Value) : flonumP v = true ↔ v.toNat % 4 = 2 := by
  simp only [flonumP, beq_iff_eq, BitVec.toNat_eq, BitVec.toNat_and]
  exact Iff.of_eq (congrArg (· = 2) (Nat.and_pow_two_sub_one_eq_mod _ 2))

private theorem immediateP_eq_false (v : Value) : immediateP v = false ↔ v.toNat % 8 = 0 := by
  simp only [immediateP, bne_eq_false_iff_eq, BitVec.toNat_eq, BitVec.toNat_and]
  exact Iff.of_eq (congrArg (· = 0) (Nat.and_pow_two_sub_one_eq_mod _ 3))

theorem fixnumP_of_heapRef {v : Value} (h : heapRef v) : fixnumP v = false := by
  simp only [heapRef, specialConstP, Bool.or_eq_false_iff, immediateP_eq_false] at h
  exact Bool.eq_false_iff.mpr fun hf => by rw [fixnumP_iff] at hf; omega

theorem flonumP_of_heapRef {v : Value} (h : heapRef v) : flonumP v = false := by
  simp only [heapRef, specialConstP, Bool.or_eq_false_iff, immediateP_eq_false] at h
  exact Bool.eq_false_iff.mpr fun hf => by rw [flonumP_iff] at hf; omega

/-! ### Fixnums -/

def fixnumMax : Int := 2 ^ 62 - 1
def fixnumMin : Int := -2 ^ 62

/-- `RB_FIXABLE`: the integer fits a fixnum. -/
def fixable (i : Int) : Prop := fixnumMin ≤ i ∧ i ≤ fixnumMax

instance (i : Int) : Decidable (fixable i) := inferInstanceAs (Decidable (_ ∧ _))

/-- `INT2FIX` and `LONG2FIX`: the word `2i+1`. -/
def int2fix (i : Int) : Value := BitVec.ofInt 64 (2 * i + 1)

/-- `FIX2LONG`: the arithmetic shift `(long)v >> 1`, which rounds down. -/
def fix2long (v : Value) : Int := v.toInt / 2

/-- A value of `Int.bmod _ (2 ^ 64)` in the signed 64-bit range is the number itself. -/
private theorem bmod_two_pow_64 {x : Int} (h1 : -2 ^ 63 ≤ x) (h2 : x < 2 ^ 63) : x.bmod (2 ^ 64) = x := by
  simp only [Int.bmod]
  split <;> omega

theorem int2fix_toInt {a : Int} (ha : fixable a) : (int2fix a).toInt = 2 * a + 1 := by
  unfold fixable fixnumMin fixnumMax at ha
  rw [int2fix, BitVec.toInt_ofInt, bmod_two_pow_64] <;> omega

@[simp] theorem fix2long_int2fix {a : Int} (ha : fixable a) : fix2long (int2fix a) = a := by
  rw [fix2long, int2fix_toInt ha]
  omega

private theorem fixnumP_int2fix (a : Int) : fixnumP (int2fix a) = true := by
  rw [fixnumP_iff, int2fix, BitVec.toNat_ofInt]
  omega

theorem int2fix_ne_qundef (a : Int) : int2fix a ≠ qundef := by
  intro h
  have := fixnumP_int2fix a
  rw [h] at this
  exact absurd this (by decide)

private theorem int2fix_inj {a b : Int} (ha : fixable a) (hb : fixable b) (h : int2fix a = int2fix b) : a = b := by
  have := congrArg BitVec.toInt h
  rw [int2fix_toInt ha, int2fix_toInt hb] at this
  omega

/-- A fixnum is not a flonum. -/
theorem flonumP_of_fixnumP {v : Value} (h : fixnumP v = true) : flonumP v = false := by
  rw [fixnumP_iff] at h
  exact Bool.eq_false_iff.mpr fun hf => by rw [flonumP_iff] at hf; omega

private theorem toInt_bounds (v : Value) : -2 ^ 63 ≤ v.toInt ∧ v.toInt < 2 ^ 63 := by
  rw [BitVec.toInt_eq_toNat_cond]
  have := v.isLt
  split <;> omega

/-- Every word shifted right by one fits a fixnum. -/
theorem fixable_fix2long (v : Value) : fixable (fix2long v) := by
  have := toInt_bounds v
  unfold fixable fixnumMin fixnumMax fix2long
  omega

/-- A fixnum word is the tagging of its integer. -/
theorem int2fix_fix2long {v : Value} (h : fixnumP v = true) : int2fix (fix2long v) = v := by
  rw [fixnumP_iff] at h
  apply BitVec.eq_of_toInt_eq
  rw [int2fix_toInt (fixable_fix2long v), fix2long, BitVec.toInt_eq_toNat_cond]
  have := v.isLt
  split <;> omega

/-! ### Allocation -/

/-- The part of the object-model contract that the fixnum helpers use: `rb_int2big`, outside `src/`, allocates
a Bignum and returns a reference to it. -/
structure ObjectModel where
  int2big : Int → Value
  heapRef_int2big : ∀ n, heapRef (int2big n)

/-- `LONG2NUM`: a fixnum when the integer fits, a new Bignum otherwise. -/
def long2num (om : ObjectModel) (i : Int) : Value := if fixable i then int2fix i else om.int2big i

/-- An allocator for runs on concrete inputs, which puts every Bignum at one address. -/
def sampleObjectModel : ObjectModel := ⟨fun _ => 0x10, fun _ => show heapRef (0x10 : Value) by decide⟩

theorem int2big_ne_qundef (om : ObjectModel) (n : Int) : om.int2big n ≠ qundef := fun h =>
  qundef_not_heapRef (h ▸ om.heapRef_int2big n)

end RtlMjit
