import RtlMjit.Value

/-!
# Flonums

With `USE_FLONUM && NEW_FLONUM`, `spec_dbl2num` encodes a double as an immediate word: rotate its bit pattern left
by five, so that the sign and the top four exponent bits land in the low five bits, and xor the low nibble with a
tag read from the table `0x7210000002`.  Only the exponent classes whose table entry is nonzero are encoded; the
others, NaN and infinity among them, give `Qundef`.

Writing a bit pattern as `2^59 * hi + lo`, the encoding is `32 * lo + (hi ^^^ tag (hi % 16))` (`specDbl2num_toNat`),
so every question about it splits into the high part and a table over the eight accepted values of `hi`.  The main
result, `flonum_eq_exact`, says that the word comparison `float_num_eq`, with its `(a|b) == 0x12` case for the two
zeros, is IEEE equality of the encoded doubles, that the encoding is injective and accepts no NaN.
-/

namespace RtlMjit

/-- A C `double`, as its IEEE 754 binary64 bit pattern. -/
abbrev Double := BitVec 64

/-! ### IEEE equality -/

/-- The biased exponent field. -/
def exponent (d : Double) : Nat := d.toNat / 2 ^ 52 % 2 ^ 11

/-- The fraction field. -/
def mantissa (d : Double) : Nat := d.toNat % 2 ^ 52

def isNaN (d : Double) : Bool := exponent d == 2047 && mantissa d != 0

def isZero (d : Double) : Bool := exponent d == 0 && mantissa d == 0

/-- The C comparison `a == b` of two doubles: no NaN is equal to anything, and the two zeros are equal. -/
def dblEq (x y : Double) : Bool := !isNaN x && !isNaN y && (x == y || isZero x && isZero y)

/-- `spec_float_num_eq`. -/
def specFloatNumEq (a b : Double) : Bool := dblEq a b

/-- `spec_float_num_ne`: the C `a != b`, the negation of `==`. -/
def specFloatNumNe (a b : Double) : Bool := !dblEq a b

/-! ### The encoding -/

/-- The tag table of `spec_dbl2num`. -/
def flonumTable : Value := 0x7210000002

/-- `spec_dbl2num` (for `NEW_FLONUM`): the encoded word, or `Qundef` if the double has no flonum. -/
def specDbl2num (d : Double) : Value :=
  let v := d.rotateLeft 5
  let sh := (v &&& 0xf).toNat <<< 2
  let m := (flonumTable >>> sh) &&& 0xf
  if m != 0 then v ^^^ m else qundef

/-- `float_num_eq` on two flonum words: equal words, or the two zeros `0x2` and `0x12`. -/
def floatNumEq (a b : Value) : Bool := a == b || (a ||| b) == 0x12

/-- `float_num_ne`. -/
def floatNumNe (a b : Value) : Bool := a != b && (a ||| b) != 0x12

/-! ### Words split at a bit -/

private theorem testBit_ge_of_lt {x k j : Nat} (hx : x < 2 ^ k) (hj : k ≤ j) : x.testBit j = false :=
  Nat.testBit_lt_two_pow (Nat.lt_of_lt_of_le hx (Nat.pow_le_pow_right (by omega) hj))

private theorem split_or {a b c d k : Nat} (hb : b < 2 ^ k) (hd : d < 2 ^ k) :
    (2 ^ k * a + b) ||| (2 ^ k * c + d) = 2 ^ k * (a ||| c) + (b ||| d) := by
  apply Nat.eq_of_testBit_eq; intro j
  rw [Nat.testBit_or, Nat.testBit_mul_pow_two_add _ hb, Nat.testBit_mul_pow_two_add _ hd,
    Nat.testBit_mul_pow_two_add _ (Nat.or_lt_two_pow hb hd)]
  split <;> simp

private theorem split_xor_low {a b c k : Nat} (hb : b < 2 ^ k) (hc : c < 2 ^ k) :
    (2 ^ k * a + b) ^^^ c = 2 ^ k * a + (b ^^^ c) := by
  apply Nat.eq_of_testBit_eq; intro j
  rw [Nat.testBit_xor, Nat.testBit_mul_pow_two_add _ hb, Nat.testBit_mul_pow_two_add _ (Nat.xor_lt_two_pow hb hc)]
  split
  · rw [Nat.testBit_xor]
  · rw [testBit_ge_of_lt hc (by omega), Bool.xor_false]

private theorem or_eq_zero_iff {a b : Nat} : a ||| b = 0 ↔ a = 0 ∧ b = 0 := by
  refine ⟨fun h => ?_, fun h => by rw [h.1, h.2]; rfl⟩
  have hbit : ∀ i, a.testBit i = false ∧ b.testBit i = false := fun i => by
    simpa [Nat.testBit_or] using congrArg (Nat.testBit · i) h
  exact ⟨Nat.eq_of_testBit_eq fun i => by simp [(hbit i).1],
    Nat.eq_of_testBit_eq fun i => by simp [(hbit i).2]⟩

private theorem split_or_low {a b k : Nat} (hb : b < 2 ^ k) : 2 ^ k * a ||| b = 2 ^ k * a + b := by
  have := split_or (a := a) (b := 0) (c := 0) (d := b) (Nat.two_pow_pos k) hb
  simpa using this

/-! ### The encoding, arithmetically -/

/-- The high five bits of a pattern: the sign and the top four exponent bits. -/
def hiBits (d : Double) : Nat := d.toNat / 2 ^ 59

/-- The low 59 bits. -/
def loBits (d : Double) : Nat := d.toNat % 2 ^ 59

/-- The table entry for the top exponent nibble `t`. -/
def flonumTag (t : Nat) : Nat := 0x7210000002 >>> (t <<< 2) % 16

private theorem rotateLeft_toNat (d : Double) : (d.rotateLeft 5).toNat = 2 ^ 5 * loBits d + hiBits d := by
  have hhi : hiBits d < 2 ^ 5 := by unfold hiBits; omega
  rw [show d.rotateLeft 5 = d <<< 5 ||| d >>> 59 from rfl, BitVec.toNat_or, BitVec.toNat_shiftLeft,
    BitVec.toNat_ushiftRight, Nat.shiftLeft_eq, Nat.shiftRight_eq_div_pow, ← split_or_low hhi]
  unfold hiBits loBits
  congr 1
  omega

private theorem tag_toNat (d : Double) :
    ((flonumTable >>> (((d.rotateLeft 5) &&& 0xf).toNat <<< 2)) &&& 0xf).toNat = flonumTag (hiBits d % 16) := by
  have h16 : ∀ x : Value, (x &&& 0xf).toNat = x.toNat % 16 := fun x => by
    rw [BitVec.toNat_and, show (0xf : Value).toNat = 2 ^ 4 - 1 from rfl, Nat.and_pow_two_sub_one_eq_mod]
  rw [h16, h16, rotateLeft_toNat, BitVec.toNat_ushiftRight, flonumTag]
  congr 3
  omega

private theorem flonumTag_lt (t : Nat) : flonumTag t < 2 ^ 5 := by unfold flonumTag; omega

/-- The encoding keeps the low 59 bits above the five tag bits `hi ^^^ tag`. -/
theorem specDbl2num_toNat {d : Double} (h : specDbl2num d ≠ qundef) :
    flonumTag (hiBits d % 16) ≠ 0 ∧
      (specDbl2num d).toNat = 2 ^ 5 * loBits d + (hiBits d ^^^ flonumTag (hiBits d % 16)) := by
  have hhi : hiBits d < 2 ^ 5 := by unfold hiBits; omega
  simp only [specDbl2num] at h ⊢
  by_cases hm : (flonumTable >>> (((d.rotateLeft 5) &&& 0xf).toNat <<< 2)) &&& 0xf = 0
  · rw [hm] at h
    exact absurd rfl h
  · rw [if_pos (by simp only [bne_iff_ne, ne_eq, hm, not_false_eq_true])]
    refine ⟨fun h0 => hm (BitVec.eq_of_toNat_eq (by rw [tag_toNat, h0]; rfl)), ?_⟩
    rw [BitVec.toNat_xor, rotateLeft_toNat, tag_toNat, split_xor_low hhi (flonumTag_lt _)]

/-- The accepted values of the high five bits. -/
def acceptedHi : List Nat := [0, 7, 8, 9, 16, 23, 24, 25]

private theorem mem_acceptedHi {h : Nat} (hh : h < 2 ^ 5) (ht : flonumTag (h % 16) ≠ 0) : h ∈ acceptedHi := by
  have : ∀ h < 32, flonumTag (h % 16) ≠ 0 → h ∈ acceptedHi := by decide
  exact this h hh ht

private theorem tag_injective :
    ∀ h₁ ∈ acceptedHi, ∀ h₂ ∈ acceptedHi, h₁ ^^^ flonumTag (h₁ % 16) = h₂ ^^^ flonumTag (h₂ % 16) → h₁ = h₂ := by
  decide

private theorem tag_or_zeros :
    ∀ h₁ ∈ acceptedHi, ∀ h₂ ∈ acceptedHi, (h₁ ^^^ flonumTag (h₁ % 16)) ||| (h₂ ^^^ flonumTag (h₂ % 16)) = 18 ↔
      h₁ % 16 = 0 ∧ h₂ % 16 = 0 ∧ (h₁ = 16 ∨ h₂ = 16) := by
  decide

/-! ### Equality of flonums -/

private theorem not_isNaN_of_accepted {x : Double} (hx : specDbl2num x ≠ qundef) : isNaN x = false := by
  obtain ⟨ht, -⟩ := specDbl2num_toNat hx
  have hm := mem_acceptedHi (by unfold hiBits; omega) ht
  simp only [acceptedHi, List.mem_cons, List.mem_singleton, List.not_mem_nil, or_false, hiBits] at hm
  simp only [isNaN, exponent, mantissa, Bool.and_eq_false_iff, beq_eq_false_iff_ne]
  left; omega

theorem specDbl2num_injective {x y : Double} (hx : specDbl2num x ≠ qundef) (hy : specDbl2num y ≠ qundef)
    (h : specDbl2num x = specDbl2num y) : x = y := by
  obtain ⟨tx, ex⟩ := specDbl2num_toNat hx
  obtain ⟨ty, ey⟩ := specDbl2num_toNat hy
  have hxl : hiBits x < 2 ^ 5 := by unfold hiBits; omega
  have hyl : hiBits y < 2 ^ 5 := by unfold hiBits; omega
  have rx := Nat.xor_lt_two_pow hxl (flonumTag_lt (hiBits x % 16))
  have ry := Nat.xor_lt_two_pow hyl (flonumTag_lt (hiBits y % 16))
  have e := congrArg BitVec.toNat h
  rw [ex, ey] at e
  have hlo : loBits x = loBits y := by omega
  have hhi := tag_injective _ (mem_acceptedHi hxl tx) _ (mem_acceptedHi hyl ty) (by omega)
  apply BitVec.eq_of_toNat_eq
  unfold loBits hiBits at *
  omega

/-- The two encoded words or to `0x12` exactly for `+0.0` and `-0.0` other than two `+0.0`. -/
private theorem or_eq_0x12_iff {x y : Double} (hx : specDbl2num x ≠ qundef) (hy : specDbl2num y ≠ qundef) :
    (specDbl2num x ||| specDbl2num y) = 0x12 ↔ isZero x ∧ isZero y ∧ (hiBits x = 16 ∨ hiBits y = 16) := by
  obtain ⟨tx, ex⟩ := specDbl2num_toNat hx
  obtain ⟨ty, ey⟩ := specDbl2num_toNat hy
  have hxl : hiBits x < 2 ^ 5 := by unfold hiBits; omega
  have hyl : hiBits y < 2 ^ 5 := by unfold hiBits; omega
  have rx := Nat.xor_lt_two_pow hxl (flonumTag_lt (hiBits x % 16))
  have ry := Nat.xor_lt_two_pow hyl (flonumTag_lt (hiBits y % 16))
  have hor := Nat.or_lt_two_pow rx ry
  have key := tag_or_zeros _ (mem_acceptedHi hxl tx) _ (mem_acceptedHi hyl ty)
  rw [BitVec.toNat_eq, BitVec.toNat_or, ex, ey, split_or rx ry, show (0x12 : Value).toNat = 18 from rfl]
  simp only [isZero, exponent, mantissa, Bool.and_eq_true, beq_iff_eq]
  constructor
  · intro h
    have h1 : loBits x ||| loBits y = 0 := by omega
    have h2 := key.1 (by omega)
    rw [or_eq_zero_iff] at h1
    unfold loBits hiBits at *
    omega
  · intro h
    have h1 : loBits x ||| loBits y = 0 := by
      rw [or_eq_zero_iff]; unfold loBits; omega
    rw [h1, key.2 (by unfold hiBits at *; omega)]
    rfl

/-- On two encoded doubles the word comparison `float_num_eq` is the C comparison `==` of the doubles. -/
private theorem floatNumEq_specDbl2num {x y : Double} (hx : specDbl2num x ≠ qundef) (hy : specDbl2num y ≠ qundef) :
    floatNumEq (specDbl2num x) (specDbl2num y) = dblEq x y := by
  refine Bool.eq_iff_iff.2 ?_
  simp only [floatNumEq, dblEq, not_isNaN_of_accepted hx, not_isNaN_of_accepted hy, Bool.not_false,
    Bool.true_and, Bool.or_eq_true, beq_iff_eq, Bool.and_eq_true, or_eq_0x12_iff hx hy]
  constructor
  · rintro (h | ⟨h1, h2, -⟩)
    · exact .inl (specDbl2num_injective hx hy h)
    · exact .inr ⟨h1, h2⟩
  · rintro (rfl | ⟨h1, h2⟩)
    · exact .inl rfl
    · by_cases h : hiBits x = 16 ∨ hiBits y = 16
      · exact .inr ⟨h1, h2, h⟩
      · left
        congr 1
        apply BitVec.eq_of_toNat_eq
        simp only [isZero, exponent, mantissa, Bool.and_eq_true, beq_iff_eq] at h1 h2
        unfold hiBits at h
        have := x.isLt; have := y.isLt
        omega

private theorem floatNumNe_eq_not_floatNumEq (a b : Value) : floatNumNe a b = !floatNumEq a b := by
  simp only [floatNumNe, floatNumEq, Bool.not_or]; rfl

/-- `float_num_eq` on two flonums is IEEE equality of the doubles they encode, `float_num_ne` its negation; the
encoding is injective and accepts no NaN; so the word comparison agrees with `spec_float_num_eq` and
`spec_float_num_ne` on the doubles. -/
theorem flonum_eq_exact {x y : Double} (hx : specDbl2num x ≠ qundef) (hy : specDbl2num y ≠ qundef) :
    (floatNumEq (specDbl2num x) (specDbl2num y) = true ↔ dblEq x y = true) ∧
    floatNumNe (specDbl2num x) (specDbl2num y) = !floatNumEq (specDbl2num x) (specDbl2num y) ∧
    (specDbl2num x = specDbl2num y → x = y) ∧
    isNaN x = false ∧
    floatNumEq (specDbl2num x) (specDbl2num y) = specFloatNumEq x y ∧
    floatNumNe (specDbl2num x) (specDbl2num y) = specFloatNumNe x y := by
  have heq := floatNumEq_specDbl2num hx hy
  refine ⟨by rw [heq], floatNumNe_eq_not_floatNumEq _ _, specDbl2num_injective hx hy,
    not_isNaN_of_accepted hx, heq, ?_⟩
  rw [floatNumNe_eq_not_floatNumEq, heq, specFloatNumNe]

/-- `+0.0` and `-0.0` are encoded, and the word comparison finds them equal as the double comparison does. -/
theorem flonum_eq_exact_zeros :
    specDbl2num 0 ≠ qundef ∧ specDbl2num 0x8000000000000000 ≠ qundef ∧
      floatNumEq (specDbl2num 0) (specDbl2num 0x8000000000000000) = specFloatNumEq 0 0x8000000000000000 :=
  ⟨by decide, by decide, (flonum_eq_exact (by decide) (by decide)).2.2.2.2.1⟩

/-! ### Decoding -/

/-- The high five bits of the double that a flonum word encodes, from the word's low five bits: the inverse of
`hi ↦ hi ^^^ flonumTag (hi % 16)` on the accepted values. -/
def untagHi (e : Nat) : Nat := e ^^^ [2, 1, 2, 7].getD (e % 16 / 4) 0

/-- `RFLOAT_VALUE` of a flonum word.  The runtime's decoder for `NEW_FLONUM` words is outside `src/`; the model
reads a word back by undoing the two steps of `spec_dbl2num`, the xor of the tag into the low five bits and the
rotation.  The results on flonums are stated on `spec_dbl2num`, not on this decoding. -/
def flonumValue (v : Value) : Double := BitVec.ofNat 64 (2 ^ 59 * untagHi (v.toNat % 32) + v.toNat / 32)

private theorem tag_mod_four : ∀ h ∈ acceptedHi, (h ^^^ flonumTag (h % 16)) % 4 = 2 := by decide

/-- Split of an encoded word at its low five bits. -/
private theorem encoded_split {d : Double} (h : specDbl2num d ≠ qundef) :
    hiBits d ∈ acceptedHi ∧ (specDbl2num d).toNat % 32 = hiBits d ^^^ flonumTag (hiBits d % 16) ∧
      (specDbl2num d).toNat / 32 = loBits d := by
  obtain ⟨ht, e⟩ := specDbl2num_toNat h
  have hhi : hiBits d < 2 ^ 5 := by unfold hiBits; omega
  have hx := Nat.xor_lt_two_pow hhi (flonumTag_lt (hiBits d % 16))
  exact ⟨mem_acceptedHi hhi ht, by omega, by omega⟩

theorem flonumP_specDbl2num {d : Double} (h : specDbl2num d ≠ qundef) : flonumP (specDbl2num d) = true := by
  obtain ⟨hm, e, -⟩ := encoded_split h
  have := tag_mod_four _ hm
  rw [flonumP_iff]
  omega

end RtlMjit
