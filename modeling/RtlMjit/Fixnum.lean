import Mathlib.Tactic.Linarith
import RtlMjit.Value

/-!
# Fixnum arithmetic helpers

The fast paths of `rtl_exec.c` for two fixnum operands: `fix_num_plus` and `fix_num_minus`, which promote to a
Bignum, and the speculative `spec_fix_num_plus`, `spec_fix_num_minus`, `spec_fix_num_mult`, `spec_fix_num_div`,
`spec_fix_num_mod`, which return `Qundef` where the speculation fails.  The plus helpers add the tagged words
directly and detect overflow from the sign bits; `overflow_iff` says the test fires exactly when the sum leaves
the fixnum range, and `rebuild_toInt` that `(val>>1)|(op1&msb)` then rebuilds the exact sum.  The division helpers
correct the truncated C quotient to the floor quotient (`floor_of_trunc`).  `fixnum_helpers_exact` collects the
results: every helper is exact and never wraps.
-/

namespace RtlMjit

variable (om : ObjectModel)

/-- The sign bit `(VALUE)1 << 63`. -/
def msb : Value := BitVec.twoPow 64 63

/-- `fix_num_plus`: the tagged sum `op1 - 1 + op2`; on signed overflow a Bignum of the rebuilt sum. -/
def fixNumPlus (op1 op2 : Value) : Value :=
  let val := op1 - 1 + op2
  if (~~~(op1 ^^^ op2) &&& (op1 ^^^ val)) &&& msb != 0 then om.int2big ((val >>> 1 ||| op1 &&& msb).toInt)
  else val

/-- `fix_num_minus`. -/
def fixNumMinus (op1 op2 : Value) : Value := long2num om (fix2long op1 - fix2long op2)

/-- `spec_fix_num_plus`: as `fix_num_plus`, with `Qundef` on overflow. -/
def specFixNumPlus (op1 op2 : Value) : Value :=
  let val := op1 - 1 + op2
  if (~~~(op1 ^^^ op2) &&& (op1 ^^^ val)) &&& msb != 0 then qundef else val

/-- `spec_fix_num_minus`. -/
def specFixNumMinus (op1 op2 : Value) : Value :=
  let c := fix2long op1 - fix2long op2
  if fixable c then int2fix c else qundef

/-- `spec_fix_num_mult`, on a host with the double-width `DLONG`. -/
def specFixNumMult (op1 op2 : Value) : Value :=
  let v := fix2long op1 * fix2long op2
  if fixable v then int2fix v else qundef

/-- The C test `l2 > 0 ? mod < 0 : mod > 0` on the truncated remainder. -/
def remainderSignDiffers (l2 m : Int) : Prop := if 0 < l2 then m < 0 else 0 < m

instance (l2 m : Int) : Decidable (remainderSignDiffers l2 m) :=
  inferInstanceAs (Decidable (if _ then _ else _))

/-- `spec_fix_num_div`: C's truncating `/` and `%`, then one step down when the remainder's sign differs from the
divisor's. -/
def specFixNumDiv (op1 op2 : Value) : Value :=
  let l1 := fix2long op1
  let l2 := fix2long op2
  if l2 = 0 then qundef
  else if l1 = fixnumMin ∧ l2 = -1 then long2num om (-fixnumMin)
  else
    let div := l1.tdiv l2
    let mod := l1.tmod l2
    int2fix (if remainderSignDiffers l2 mod then div - 1 else div)

/-- `spec_fix_num_mod`. -/
def specFixNumMod (op1 op2 : Value) : Value :=
  let l1 := fix2long op1
  let l2 := fix2long op2
  if l2 = 0 then qundef
  else if l1 = fixnumMin ∧ l2 = -1 then int2fix 0
  else
    let mod := l1.tmod l2
    int2fix (if remainderSignDiffers l2 mod then mod + l2 else mod)

/-! ### The overflow test of the plus helpers -/

private theorem and_msb (x : Value) : x &&& msb = if x.msb then msb else 0 := by
  ext ⟨i, hi⟩
  simp only [msb, BitVec.getLsbD_and, BitVec.getLsbD_twoPow, BitVec.msb_eq_getLsbD_last]
  by_cases h : i = 63
  · subst h; split <;> simp_all
  · split <;> simp [h, Ne.symm h]

private theorem and_msb_ne_zero (x : Value) : (x &&& msb != 0) = x.msb := by
  rw [and_msb]; split <;> simp_all [msb, BitVec.twoPow]

private theorem msb_toNat : msb.toNat = 2 ^ 63 := rfl

private theorem int2fix_toNat (a : Int) : (int2fix a).toNat = ((2 * a + 1) % 2 ^ 64).toNat := by
  rw [int2fix, BitVec.toNat_ofInt]; rfl

private theorem msb_int2fix {a : Int} (ha : fixable a) : (int2fix a).msb = decide (a < 0) := by
  unfold fixable fixnumMin fixnumMax at ha
  rw [BitVec.msb_eq_decide, int2fix_toNat]
  simp only [decide_eq_decide]
  omega

/-- The word `op1 - 1 + op2` of two fixnums is the tagged sum, modulo `2^64`. -/
private theorem sum_toNat (a b : Int) : (int2fix a - 1 + int2fix b).toNat = ((2 * (a + b) + 1) % 2 ^ 64).toNat := by
  rw [BitVec.toNat_add, BitVec.toNat_sub, int2fix_toNat, int2fix_toNat]
  simp only [show (1 : Value).toNat = 1 from rfl]
  omega

private theorem sign_test_iff (p q r : Prop) [Decidable p] [Decidable q] [Decidable r] :
    (!(decide p ^^ decide q) && (decide p ^^ decide r)) = true ↔ ((p ↔ q) ∧ ¬(p ↔ r)) := by
  by_cases p <;> by_cases q <;> by_cases r <;> simp_all

/-- The sign test fires exactly when the sum of two fixnums is no fixnum. -/
theorem overflow_iff {a b : Int} (ha : fixable a) (hb : fixable b) :
    ((~~~(int2fix a ^^^ int2fix b) &&& (int2fix a ^^^ (int2fix a - 1 + int2fix b))) &&& msb != 0) = true ↔
      ¬ fixable (a + b) := by
  rw [and_msb_ne_zero]
  simp only [BitVec.msb_and, BitVec.msb_not, BitVec.msb_xor, msb_int2fix ha, msb_int2fix hb,
    BitVec.msb_eq_decide (int2fix a - 1 + int2fix b), sum_toNat]
  rw [show decide (0 < 64) = true from rfl, Bool.true_and, sign_test_iff]
  unfold fixable fixnumMin fixnumMax at *
  omega

/-- On overflow, shifting the wrapped sum back and restoring the sign bit of `op1` gives the exact sum. -/
theorem rebuild_toInt {a b : Int} (ha : fixable a) (hb : fixable b) (h : ¬ fixable (a + b)) :
    ((int2fix a - 1 + int2fix b) >>> 1 ||| int2fix a &&& msb).toInt = a + b := by
  have hv := sum_toNat a b
  have hs : ((int2fix a - 1 + int2fix b) >>> 1).toNat = (int2fix a - 1 + int2fix b).toNat / 2 := by
    rw [BitVec.toNat_ushiftRight, Nat.shiftRight_eq_div_pow]
  unfold fixable fixnumMin fixnumMax at *
  rw [and_msb, msb_int2fix ha]
  by_cases h1 : a < 0
  · have hz : (int2fix a - 1 + int2fix b) >>> 1 &&& msb = 0 := by
      rw [and_msb, BitVec.msb_eq_decide, hs, hv, if_neg (by simp only [decide_eq_true_eq]; omega)]
    rw [decide_eq_true h1, if_pos rfl, ← BitVec.add_eq_or_of_and_eq_zero _ _ hz, BitVec.toInt_eq_toNat_cond,
      BitVec.toNat_add, hs, hv, msb_toNat]
    split <;> omega
  · rw [decide_eq_false h1, if_neg Bool.false_ne_true, BitVec.toInt_eq_toNat_cond, BitVec.toNat_or,
      show (0 : Value).toNat = 0 from rfl, Nat.or_zero, hs, hv]
    split <;> omega

/-- Without overflow the wrapped word is the fixnum of the sum. -/
private theorem sum_eq_int2fix (a b : Int) : int2fix a - 1 + int2fix b = int2fix (a + b) := by
  apply BitVec.eq_of_toNat_eq
  rw [sum_toNat, int2fix_toNat]

private theorem fixNumPlus_int2fix {a b : Int} (ha : fixable a) (hb : fixable b) :
    fixNumPlus om (int2fix a) (int2fix b) = long2num om (a + b) := by
  have ho := overflow_iff ha hb
  unfold fixNumPlus long2num
  by_cases h : fixable (a + b)
  · rw [if_neg (mt ho.1 (not_not.2 h)), if_pos h, sum_eq_int2fix]
  · rw [if_pos (ho.2 h), if_neg h, rebuild_toInt ha hb h]

private theorem specFixNumPlus_int2fix {a b : Int} (ha : fixable a) (hb : fixable b) :
    specFixNumPlus (int2fix a) (int2fix b) = if fixable (a + b) then int2fix (a + b) else qundef := by
  have ho := overflow_iff ha hb
  unfold specFixNumPlus
  by_cases h : fixable (a + b)
  · rw [if_neg (mt ho.1 (not_not.2 h)), if_pos h, sum_eq_int2fix]
  · rw [if_pos (ho.2 h), if_neg h]

/-! ### Division -/

/-- Bounds of the truncated remainder: it has the sign of the dividend and is smaller than the divisor. -/
private theorem tmod_bounds (a b : Int) (hb : b ≠ 0) :
    (0 ≤ a → 0 ≤ a.tmod b ∧ a.tmod b < |b|) ∧ (a < 0 → -|b| < a.tmod b ∧ a.tmod b ≤ 0) := by
  have pos : ∀ c : Int, 0 ≤ c → 0 ≤ c.tmod b ∧ c.tmod b < |b| := fun c hc => by
    refine ⟨Int.tmod_nonneg b hc, ?_⟩
    rcases lt_or_gt_of_ne hb with h | h
    · rw [abs_of_neg h, ← Int.tmod_neg]; exact Int.tmod_lt_of_pos c (by omega)
    · rw [abs_of_pos h]; exact Int.tmod_lt_of_pos c h
  refine ⟨pos a, fun ha => ?_⟩
  have hneg : a.tmod b = -((-a).tmod b) := by
    have h1 := Int.tdiv_add_tmod a b
    have h2 := Int.tdiv_add_tmod (-a) b
    rw [Int.neg_tdiv] at h2
    linarith
  have := pos (-a) (by omega)
  rw [hneg]; constructor <;> linarith [this.1, this.2]

private theorem fdiv_negSucc (a : Int) (n : Nat) : a.fdiv (Int.negSucc n) = (-a) / ↑(n + 1) := by
  rcases a with (_ | m) | m
  · simp
  · show Int.negSucc (m / (n + 1)) = Int.negSucc m / ↑(n + 1)
    rfl
  · show ((m + 1) / (n + 1) : Nat) = ((m + 1 : Nat) : Int) / ((n + 1 : Nat) : Int)
    rw [Int.ofNat_ediv]

private theorem fdiv_of_neg (a b : Int) (hb : b < 0) : a.fdiv b = (-a) / (-b) := by
  obtain ⟨n, rfl⟩ : ∃ n : Nat, b = Int.negSucc n := ⟨b.natAbs - 1, by rw [Int.negSucc_eq]; omega⟩
  rw [fdiv_negSucc, Int.neg_negSucc]

/-- The floor quotient and remainder from the truncated ones. -/
theorem floor_of_trunc (a b : Int) (hb : b ≠ 0) :
    (if remainderSignDiffers b (a.tmod b) then a.tdiv b - 1 else a.tdiv b) = a.fdiv b ∧
      (if remainderSignDiffers b (a.tmod b) then a.tmod b + b else a.tmod b) = a.fmod b := by
  have hqr := Int.tdiv_add_tmod a b
  have hr := tmod_bounds a b hb
  have key : ∀ q r : Int, b * q + r = a → (0 < b → 0 ≤ r ∧ r < b) → (b < 0 → b < r ∧ r ≤ 0) →
      q = a.fdiv b ∧ r = a.fmod b := by
    intro q r h h1 h2
    have hq : q = a.fdiv b := by
      rcases lt_or_gt_of_ne hb with hb' | hb'
      · rw [fdiv_of_neg a b hb']
        exact ((@Int.ediv_emod_unique (-a) (-b) (-r) q (by omega)).2 ⟨by linarith, by linarith [h2 hb'],
          by linarith [h2 hb']⟩).1.symm
      · rw [Int.fdiv_eq_ediv a hb'.le]
        exact ((Int.ediv_emod_unique hb').2 ⟨by linarith, (h1 hb').1, (h1 hb').2⟩).1.symm
    refine ⟨hq, ?_⟩
    rw [Int.fmod_def, ← hq]; linarith
  unfold remainderSignDiffers
  rcases lt_or_gt_of_ne hb with hb' | hb'
  · rw [abs_of_neg hb'] at hr
    simp only [show ¬ 0 < b by omega, if_false]
    split
    · exact key _ _ (by linarith) (by omega) (by omega)
    · exact key _ _ hqr (by omega) (by omega)
  · rw [abs_of_pos hb'] at hr
    simp only [hb', if_true]
    split
    · exact key _ _ (by linarith) (by omega) (by omega)
    · exact key _ _ hqr (by omega) (by omega)

/-- The floor quotient of two fixnums is a fixnum, save `FIXNUM_MIN / -1`. -/
private theorem fixable_fdiv {a b : Int} (ha : fixable a) (hb : fixable b) (h0 : b ≠ 0)
    (hn : ¬(a = fixnumMin ∧ b = -1)) : fixable (a.fdiv b) := by
  unfold fixable fixnumMin fixnumMax at *
  rcases lt_or_gt_of_ne h0 with hneg | hpos
  · rw [fdiv_of_neg a b hneg]
    have hc : 0 < -b := by omega
    constructor
    · rw [Int.le_ediv_iff_mul_le hc]; nlinarith
    · have : -a / -b < 2 ^ 62 := by
        rw [Int.ediv_lt_iff_lt_mul hc]
        by_cases h1 : b = -1
        · subst h1; omega
        · have : b ≤ -2 := by omega
          nlinarith
      omega
  · rw [Int.fdiv_eq_ediv a hpos.le]
    constructor
    · rw [Int.le_ediv_iff_mul_le hpos]; nlinarith
    · have : a / b < 2 ^ 62 := by rw [Int.ediv_lt_iff_lt_mul hpos]; nlinarith
      omega

/-- The floor remainder by a fixnum is a fixnum. -/
private theorem fixable_fmod (a : Int) {b : Int} (hb : fixable b) (h0 : b ≠ 0) : fixable (a.fmod b) := by
  have hq := floor_of_trunc a b h0
  have hr := tmod_bounds a b h0
  unfold fixable fixnumMin fixnumMax remainderSignDiffers at *
  rw [← hq.2]
  rcases lt_or_gt_of_ne h0 with hb' | hb' <;> [rw [abs_of_neg hb'] at hr; rw [abs_of_pos hb'] at hr] <;>
    by_cases h : 0 ≤ a
  all_goals first | have := hr.1 h | have := hr.2 (by omega)
  all_goals split <;> omega

private theorem specFixNumDiv_int2fix {a b : Int} (ha : fixable a) (hb : fixable b) :
    specFixNumDiv om (int2fix a) (int2fix b) =
      if b = 0 then qundef else if a = fixnumMin ∧ b = -1 then om.int2big (2 ^ 62) else int2fix (a.fdiv b) := by
  unfold specFixNumDiv
  simp only [fix2long_int2fix ha, fix2long_int2fix hb]
  split
  · rfl
  · rename_i hb0
    split
    · simp [long2num, fixable, fixnumMin, fixnumMax]
    · rw [(floor_of_trunc a b hb0).1]

private theorem specFixNumMod_int2fix {a b : Int} (ha : fixable a) (hb : fixable b) :
    specFixNumMod (int2fix a) (int2fix b) = if b = 0 then qundef else int2fix (a - b * a.fdiv b) := by
  unfold specFixNumMod
  simp only [fix2long_int2fix ha, fix2long_int2fix hb]
  split
  · rfl
  · rename_i hb0
    rw [← Int.fmod_def]
    split
    · rename_i h
      obtain ⟨rfl, rfl⟩ := h
      rfl
    · rw [(floor_of_trunc a b hb0).2]

/-- The fixnum helpers are exact and never wrap.  For fixnums `a` and `b`: `fix_num_plus` and `fix_num_minus`
return the exact sum and difference, as a fixnum or a new Bignum; the speculative plus, minus and mult return the
exact result when it is a fixnum and `Qundef` exactly when it is not; the speculative div and mod return `Qundef`
exactly for a zero divisor and otherwise the floor quotient and its remainder, save `FIXNUM_MIN / -1`, which gives
the Bignum `2^62` and the remainder `0`. -/
theorem fixnum_helpers_exact {a b : Int} (ha : fixable a) (hb : fixable b) :
    fixNumPlus om (int2fix a) (int2fix b) = long2num om (a + b) ∧
    fixNumMinus om (int2fix a) (int2fix b) = long2num om (a - b) ∧
    specFixNumPlus (int2fix a) (int2fix b) = (if fixable (a + b) then int2fix (a + b) else qundef) ∧
    specFixNumMinus (int2fix a) (int2fix b) = (if fixable (a - b) then int2fix (a - b) else qundef) ∧
    specFixNumMult (int2fix a) (int2fix b) = (if fixable (a * b) then int2fix (a * b) else qundef) ∧
    (specFixNumDiv om (int2fix a) (int2fix b) = qundef ↔ b = 0) ∧
    (specFixNumMod (int2fix a) (int2fix b) = qundef ↔ b = 0) ∧
    (b ≠ 0 → ¬(a = fixnumMin ∧ b = -1) →
      specFixNumDiv om (int2fix a) (int2fix b) = int2fix (a.fdiv b) ∧
      specFixNumMod (int2fix a) (int2fix b) = int2fix (a - b * a.fdiv b)) ∧
    specFixNumDiv om (int2fix fixnumMin) (int2fix (-1)) = om.int2big (2 ^ 62) ∧
    specFixNumMod (int2fix fixnumMin) (int2fix (-1)) = int2fix 0 := by
  have hmin : fixable fixnumMin := by decide
  have hm1 : fixable (-1) := by decide
  refine ⟨fixNumPlus_int2fix om ha hb, ?_, specFixNumPlus_int2fix ha hb, ?_, ?_, ?_, ?_, ?_, ?_, ?_⟩
  · simp only [fixNumMinus, fix2long_int2fix ha, fix2long_int2fix hb]
  · simp only [specFixNumMinus, fix2long_int2fix ha, fix2long_int2fix hb]
  · simp only [specFixNumMult, fix2long_int2fix ha, fix2long_int2fix hb]
  · rw [specFixNumDiv_int2fix om ha hb]
    split
    · simp_all
    · split
      · simp_all [int2big_ne_qundef]
      · simp_all [int2fix_ne_qundef]
  · rw [specFixNumMod_int2fix ha hb]
    split <;> simp_all [int2fix_ne_qundef]
  · intro h0 hn
    rw [specFixNumDiv_int2fix om ha hb, specFixNumMod_int2fix ha hb, if_neg h0, if_neg hn, if_neg h0]
    exact ⟨rfl, rfl⟩
  · rw [specFixNumDiv_int2fix om hmin hm1]; rfl
  · rw [specFixNumMod_int2fix hmin hm1]; rfl

/-- At `FIXNUM_MAX + 1` the plus helper promotes to a Bignum. -/
theorem fixnum_helpers_exact_max_one :
    fixNumPlus sampleObjectModel (int2fix fixnumMax) (int2fix 1) = sampleObjectModel.int2big (fixnumMax + 1) :=
  ((fixnum_helpers_exact sampleObjectModel (by decide) (by decide)).1).trans (by decide)

end RtlMjit
