import Mathlib
import SellerSync.Proofs.Keys
/-! Rounding in the binary64 model. -/
namespace SellerSync

namespace Binary64

/-! ### The bit layout -/

theorem bits_lt (x : Binary64) : x.bits.toNat < 2 ^ 64 := x.bits.toNat_lt

theorem field_eq (x : Binary64) : x.field = x.bits.toNat / 2 ^ 52 % 2048 := by
  simp only [field, UInt64.toNat_and, UInt64.toNat_shiftRight]
  rw [show (0x7FF : UInt64).toNat = 2 ^ 11 - 1 from rfl, Nat.and_two_pow_sub_one_eq_mod,
    Nat.shiftRight_eq_div_pow]
  rfl

theorem fraction_eq (x : Binary64) : x.fraction = x.bits.toNat % 2 ^ 52 := by
  simp only [fraction, UInt64.toNat_and]
  rw [show (0xFFFFFFFFFFFFF : UInt64).toNat = 2 ^ 52 - 1 from rfl, Nat.and_two_pow_sub_one_eq_mod]

theorem negative_eq (x : Binary64) : x.negative = decide (2 ^ 63 ≤ x.bits.toNat) := by
  have hlt := bits_lt x
  have h : (x.bits >>> 63).toNat = x.bits.toNat / 2 ^ 63 := by
    rw [UInt64.toNat_shiftRight, Nat.shiftRight_eq_div_pow]; rfl
  simp only [negative]
  by_cases hx : 2 ^ 63 ≤ x.bits.toNat
  · have h1 : (x.bits >>> 63) = 1 := UInt64.toNat_inj.1 (by rw [h]; simp; omega)
    rw [h1, decide_eq_true hx]
    rfl
  · have h1 : (x.bits >>> 63) ≠ 1 := fun he => by
      have := congrArg UInt64.toNat he
      rw [h] at this; simp at this; omega
    rw [decide_eq_false hx]
    exact beq_eq_false_iff_ne.2 h1

theorem make_toNat (s : Bool) {f q : Nat} (hf : f < 2048) (hq : q < 2 ^ 52) :
    (make s f q).bits.toNat = (if s then 2 ^ 63 else 0) + f * 2 ^ 52 + q := by
  simp only [make, UInt64.toNat_or, UInt64.toNat_shiftLeft, UInt64.toNat_ofNat']
  have hs : (if s then (1 : UInt64) else 0).toNat = if s then 1 else 0 := by cases s <;> rfl
  rw [show UInt64.toNat 63 % 64 = 63 from rfl, show UInt64.toNat 52 % 64 = 52 from rfl, hs,
    Nat.mod_eq_of_lt (by omega : f < 2 ^ 64), Nat.mod_eq_of_lt (by omega : q < 2 ^ 64)]
  -- the sign, the exponent field and the fraction occupy disjoint bits, so or-ing them adds them
  have hb : (if s then 1 else 0) < 2 := by split <;> omega
  have hA : (if s then 1 else 0) <<< 63 % 2 ^ 64 = ((if s then 1 else 0) <<< 11) <<< 52 := by
    rw [← Nat.shiftLeft_add, Nat.mod_eq_of_lt (by rw [Nat.shiftLeft_eq]; omega)]
  have hB : f <<< 52 % 2 ^ 64 = f <<< 52 := Nat.mod_eq_of_lt (by rw [Nat.shiftLeft_eq]; omega)
  rw [hA, hB, ← Nat.shiftLeft_or_distrib, ← Nat.shiftLeft_add_eq_or_of_lt (by omega : f < 2 ^ 11),
    ← Nat.shiftLeft_add_eq_or_of_lt hq]
  simp only [Nat.shiftLeft_eq]
  cases s
  · simp
  · simp; omega

theorem make_field (s : Bool) {f q : Nat} (hf : f < 2048) (hq : q < 2 ^ 52) :
    (make s f q).field = f := by
  rw [field_eq, make_toNat s hf hq]; split <;> omega

theorem make_fraction (s : Bool) {f q : Nat} (hf : f < 2048) (hq : q < 2 ^ 52) :
    (make s f q).fraction = q := by
  rw [fraction_eq, make_toNat s hf hq]; split <;> omega

theorem make_negative (s : Bool) {f q : Nat} (hf : f < 2048) (hq : q < 2 ^ 52) :
    (make s f q).negative = s := by
  rw [negative_eq, make_toNat s hf hq]; cases s <;> simp <;> omega

theorem neg_toNat (x : Binary64) :
    x.neg.bits.toNat = if 2 ^ 63 ≤ x.bits.toNat then x.bits.toNat - 2 ^ 63 else x.bits.toNat + 2 ^ 63 := by
  have hlt := bits_lt x
  have hx : x.neg.bits.toNat = x.bits.toNat ^^^ 2 ^ 63 := by
    simp only [neg, UInt64.toNat_xor]; rfl
  have hlow : x.neg.bits.toNat % 2 ^ 63 = x.bits.toNat % 2 ^ 63 := by
    rw [hx, Nat.xor_mod_two_pow]; simp
  have hhigh : x.neg.bits.toNat / 2 ^ 63 = (x.bits.toNat / 2 ^ 63) ^^^ 1 := by
    rw [hx, ← Nat.shiftRight_eq_div_pow, Nat.shiftRight_xor_distrib, Nat.shiftRight_eq_div_pow,
      Nat.shiftRight_eq_div_pow]
    simp
  have hh : x.bits.toNat / 2 ^ 63 = 0 ∨ x.bits.toNat / 2 ^ 63 = 1 := by omega
  have hn := bits_lt x.neg
  rcases hh with h0 | h1
  · rw [h0] at hhigh; simp at hhigh; split <;> omega
  · rw [h1] at hhigh; simp at hhigh; split <;> omega

theorem neg_field (x : Binary64) : x.neg.field = x.field := by
  rw [field_eq, field_eq, neg_toNat]; have := bits_lt x; split <;> omega

theorem neg_fraction (x : Binary64) : x.neg.fraction = x.fraction := by
  rw [fraction_eq, fraction_eq, neg_toNat]; have := bits_lt x; split <;> omega

theorem neg_negative (x : Binary64) : x.neg.negative = !x.negative := by
  rw [negative_eq, negative_eq, neg_toNat]
  have := bits_lt x
  by_cases h : 2 ^ 63 ≤ x.bits.toNat
  · rw [if_pos h, decide_eq_true h, decide_eq_false (by omega)]; rfl
  · rw [if_neg h, decide_eq_false h, decide_eq_true (by omega)]; rfl

theorem fraction_lt (x : Binary64) : x.fraction < 2 ^ 52 := by
  rw [fraction_eq]; exact Nat.mod_lt _ (by norm_num)

/-! ### Exact values -/

/-- A sign as a factor. -/
def signOf (s : Bool) : ℚ := if s then -1 else 1

/-- The exact value of a finite value: its sign, its significand and its power of two. -/
def toRat (x : Binary64) : ℚ := signOf x.negative * x.significand * 2 ^ x.exponent

theorem toRat_eq (x : Binary64) :
    x.toRat = signOf x.negative * (x.significand * 2 ^ x.exponent) := by
  unfold toRat; ring

theorem significand_lt (x : Binary64) : x.significand < 2 ^ 53 := by
  have := fraction_lt x
  unfold significand; split <;> simp <;> omega

theorem exponent_ge (x : Binary64) : -1074 ≤ x.exponent := by
  unfold exponent; split <;> omega

theorem magnitude_nonneg (x : Binary64) : (0 : ℚ) ≤ x.significand * 2 ^ x.exponent := by positivity

theorem isNaN_of_isFinite {x : Binary64} (hx : x.isFinite = true) : x.isNaN = false := by
  simp only [isFinite, bne_iff_ne, ne_eq] at hx
  simp [isNaN, hx]

theorem magnitude_lt {x : Binary64} (hx : x.isFinite = true) :
    (x.significand : ℚ) * 2 ^ x.exponent < 2 ^ (1024 : Int) := by
  have hf : x.field ≤ 2046 := by
    have : x.field < 2048 := by rw [field_eq]; exact Nat.mod_lt _ (by norm_num)
    simp only [isFinite, bne_iff_ne, ne_eq] at hx; omega
  have hm : (x.significand : ℚ) < 2 ^ (53 : Int) := by
    rw [show (2 : ℚ) ^ (53 : Int) = ((2 ^ 53 : Nat) : ℚ) by norm_num]
    exact_mod_cast significand_lt x
  have he : x.exponent ≤ 971 := by unfold exponent; split <;> omega
  calc (x.significand : ℚ) * 2 ^ x.exponent ≤ x.significand * 2 ^ (971 : Int) := by
        gcongr; norm_num
    _ < 2 ^ (53 : Int) * 2 ^ (971 : Int) := by gcongr
    _ = 2 ^ (1024 : Int) := by rw [← zpow_add₀ two_ne_zero]; congr 1

theorem make_isFinite (s : Bool) {f q : Nat} (hf : f < 2047) (hq : q < 2 ^ 52) :
    (make s f q).isFinite = true := by
  simp only [isFinite, make_field s (by omega : f < 2048) hq]
  simp; omega

theorem make_toRat_subnormal (s : Bool) {q : Nat} (hq : q < 2 ^ 52) :
    (make s 0 q).toRat = signOf s * q * 2 ^ (-1074 : Int) := by
  simp [toRat, significand, exponent, make_field s (by omega : 0 < 2048) hq,
    make_fraction s (by omega : 0 < 2048) hq, make_negative s (by omega : 0 < 2048) hq]

theorem make_toRat_normal (s : Bool) {f q : Nat} (hf0 : 0 < f) (hf : f < 2047)
    (hq : q < 2 ^ 52) :
    (make s f q).toRat = signOf s * ((q + 2 ^ 52 : Nat) : ℚ) * 2 ^ ((f : Int) - 1075) := by
  have hf' : f < 2048 := by omega
  simp only [toRat, significand, exponent, make_field s hf' hq, make_fraction s hf' hq,
    make_negative s hf' hq, if_neg (Nat.pos_iff_ne_zero.1 hf0)]
  rfl

theorem zero_isFinite (s : Bool) : (zero s).isFinite = true :=
  make_isFinite s (by omega) (by omega)

theorem zero_toRat (s : Bool) : (zero s).toRat = 0 := by
  rw [zero, make_toRat_subnormal s (by norm_num)]; simp

theorem infinity_isFinite (s : Bool) : (infinity s).isFinite = false := by
  simp [isFinite, infinity, make_field s (by omega : 2047 < 2048) (by omega : 0 < 2 ^ 52)]

theorem infinity_isNaN (s : Bool) : (infinity s).isNaN = false := by
  simp [isNaN, infinity, make_fraction s (by omega : 2047 < 2048) (by omega : 0 < 2 ^ 52)]

theorem infinity_negative (s : Bool) : (infinity s).negative = s :=
  make_negative s (by omega) (by omega)

theorem neg_isFinite (x : Binary64) : x.neg.isFinite = x.isFinite := by
  simp only [isFinite, neg_field]

theorem neg_significand (x : Binary64) : x.neg.significand = x.significand := by
  simp only [significand, neg_field, neg_fraction]

theorem neg_exponent (x : Binary64) : x.neg.exponent = x.exponent := by
  simp only [exponent, neg_field]

theorem neg_toRat (x : Binary64) : x.neg.toRat = -x.toRat := by
  rw [toRat_eq, toRat_eq, neg_negative, neg_significand, neg_exponent]
  cases x.negative <;> simp [signOf]

theorem toRat_nonneg {x : Binary64} (h : x.negative = false) : 0 ≤ x.toRat := by
  rw [toRat_eq, h]; simp only [signOf, Bool.false_eq_true, if_false, one_mul]; positivity

theorem scaledValue_cast (x : Binary64) (s : Nat) :
    (x.scaledValue s : ℚ) = x.toRat * x.toRatio.2.2 * s := by
  have hpow : ((x.significand * Nat.pow 2 x.exponent.toNat : Nat) : ℚ) =
      (x.significand : ℚ) * 2 ^ x.exponent * (Nat.pow 2 (-x.exponent).toNat : Nat) := by
    simp only [show ∀ n, Nat.pow 2 n = 2 ^ n from fun _ => rfl]
    push_cast
    rw [mul_assoc, ← zpow_natCast, ← zpow_natCast, ← zpow_add₀ two_ne_zero]
    congr 2
    omega
  unfold scaledValue toRat
  cases hneg : x.negative
  · have h1 : x.toRatio.1 = false := hneg
    simp only [h1, signOf, Bool.false_eq_true, if_false]
    push_cast
    rw [show x.toRatio.2.1 = x.significand * Nat.pow 2 x.exponent.toNat from rfl, hpow,
      show x.toRatio.2.2 = Nat.pow 2 (-x.exponent).toNat from rfl]
    ring
  · have h1 : x.toRatio.1 = true := hneg
    simp only [h1, signOf, if_true]
    push_cast
    rw [show x.toRatio.2.1 = x.significand * Nat.pow 2 x.exponent.toNat from rfl, hpow,
      show x.toRatio.2.2 = Nat.pow 2 (-x.exponent).toNat from rfl]
    ring

theorem le_iff_toRat {a b : Binary64} (ha : a.isFinite = true) (hb : b.isFinite = true) :
    a.le b = true ↔ a.toRat ≤ b.toRat := by
  have hda : (0 : ℚ) < a.toRatio.2.2 := by
    simp only [toRatio]; exact_mod_cast Nat.two_pow_pos _
  have hdb : (0 : ℚ) < b.toRatio.2.2 := by
    simp only [toRatio]; exact_mod_cast Nat.two_pow_pos _
  simp only [le, isNaN_of_isFinite ha, isNaN_of_isFinite hb, ha, hb, Bool.or_false,
    Bool.not_true, Bool.false_eq_true, if_false, decide_eq_true_eq]
  rw [← Int.cast_le (R := ℚ), scaledValue_cast, scaledValue_cast]
  constructor
  · intro h
    have : a.toRat * (a.toRatio.2.2 * b.toRatio.2.2) ≤ b.toRat * (a.toRatio.2.2 * b.toRatio.2.2) := by
      linarith [h]
    exact le_of_mul_le_mul_right this (by positivity)
  · intro h
    nlinarith [mul_pos hda hdb]

theorem le_refl_of_isNaN {a : Binary64} (ha : a.isNaN = false) : a.le a = true := by
  by_cases haf : a.isFinite = true
  · exact (le_iff_toRat haf haf).2 le_rfl
  · simp only [Bool.not_eq_true] at haf
    simp [le, ha, haf]

theorem infinity_le {b : Binary64} (hb : b.isNaN = false) : (infinity true).le b = true := by
  simp [le, hb, infinity_isNaN, infinity_isFinite, infinity_negative]

theorem le_infinity {a : Binary64} (ha : a.isNaN = false) : a.le (infinity false) = true := by
  unfold le
  simp only [ha, infinity_isNaN, Bool.or_false, Bool.false_eq_true, if_false, infinity_isFinite,
    infinity_negative, Bool.not_false, Bool.and_true, Bool.or_true]
  split <;> rfl

/-! ### Rounding a ratio -/

theorem divPow2_spec (num : Nat) {den : Nat} (hden : 0 < den) (k : Int) :
    (divPow2 num den k).2.1 < (divPow2 num den k).2.2 ∧ 0 < (divPow2 num den k).2.2 ∧
      (num : ℚ) / den = (((divPow2 num den k).1 : ℚ) + ((divPow2 num den k).2.1 : ℚ) /
        (divPow2 num den k).2.2) * (2 : ℚ) ^ k := by
  unfold divPow2
  have hden' : (den : ℚ) ≠ 0 := by exact_mod_cast hden.ne'
  split
  · next hk =>
    have hP : 0 < Nat.pow 2 k.toNat := Nat.two_pow_pos _
    have hD : 0 < den * Nat.pow 2 k.toNat := Nat.mul_pos hden hP
    refine ⟨Nat.mod_lt _ hD, hD, ?_⟩
    have hdiv := Nat.div_add_mod num (den * Nat.pow 2 k.toNat)
    have hkk : (2 : ℚ) ^ k = ((Nat.pow 2 k.toNat : Nat) : ℚ) := by
      rw [show Nat.pow 2 k.toNat = 2 ^ k.toNat from rfl]; push_cast
      rw [← zpow_natCast]; congr 1; omega
    rw [hkk]
    have hP' : ((Nat.pow 2 k.toNat : Nat) : ℚ) ≠ 0 := by exact_mod_cast hP.ne'
    have hq : (num : ℚ) = (den : ℚ) * (Nat.pow 2 k.toNat : Nat) *
        ((num / (den * Nat.pow 2 k.toNat) : Nat) : ℚ) + ((num % (den * Nat.pow 2 k.toNat) : Nat) : ℚ) := by
      exact_mod_cast hdiv.symm
    rw [hq]
    field_simp
    push_cast
    ring
  · next hk =>
    have hP : 0 < Nat.pow 2 (-k).toNat := Nat.two_pow_pos _
    refine ⟨Nat.mod_lt _ hden, hden, ?_⟩
    have hdiv := Nat.div_add_mod (num * Nat.pow 2 (-k).toNat) den
    have hkk : (2 : ℚ) ^ k = 1 / ((Nat.pow 2 (-k).toNat : Nat) : ℚ) := by
      rw [show Nat.pow 2 (-k).toNat = 2 ^ (-k).toNat from rfl]; push_cast
      rw [← zpow_natCast, one_div, ← zpow_neg]; congr 1; omega
    rw [hkk]
    have hP' : ((Nat.pow 2 (-k).toNat : Nat) : ℚ) ≠ 0 := by exact_mod_cast hP.ne'
    have hq : (num : ℚ) * (Nat.pow 2 (-k).toNat : Nat) = (den : ℚ) *
        ((num * Nat.pow 2 (-k).toNat / den : Nat) : ℚ) + ((num * Nat.pow 2 (-k).toNat % den : Nat) : ℚ) := by
      exact_mod_cast hdiv.symm
    field_simp
    rw [hq]

theorem divPow2_floor (num : Nat) {den : Nat} (hden : 0 < den) (k : Int) :
    ((divPow2 num den k).1 : ℚ) ≤ (num : ℚ) / den / 2 ^ k ∧
      (num : ℚ) / den / 2 ^ k < (divPow2 num den k).1 + 1 := by
  obtain ⟨hr, hD, hx⟩ := divPow2_spec num hden k
  have hp : (0 : ℚ) < 2 ^ k := zpow_pos (by norm_num) k
  have hfrac : (0 : ℚ) ≤ ((divPow2 num den k).2.1 : ℚ) / (divPow2 num den k).2.2 ∧
      ((divPow2 num den k).2.1 : ℚ) / (divPow2 num den k).2.2 < 1 := by
    have hD' : (0 : ℚ) < (divPow2 num den k).2.2 := by exact_mod_cast hD
    refine ⟨by positivity, (div_lt_one hD').2 (by exact_mod_cast hr)⟩
  rw [hx, mul_div_assoc, div_self hp.ne', mul_one]
  constructor <;> linarith [hfrac.1, hfrac.2]

theorem ratio_log2_bounds {num den : Nat} (hn : 0 < num) (hd : 0 < den) :
    (2 : ℚ) ^ ((num.log2 : Int) - den.log2 - 1) < (num : ℚ) / den ∧
      (num : ℚ) / den < (2 : ℚ) ^ ((num.log2 : Int) - den.log2 + 1) := by
  have hn1 : ((2 ^ num.log2 : Nat) : ℚ) ≤ num := by exact_mod_cast Nat.log2_self_le hn.ne'
  have hn2 : (num : ℚ) < ((2 ^ (num.log2 + 1) : Nat) : ℚ) := by exact_mod_cast Nat.lt_log2_self
  have hd1 : ((2 ^ den.log2 : Nat) : ℚ) ≤ den := by exact_mod_cast Nat.log2_self_le hd.ne'
  have hd2 : (den : ℚ) < ((2 ^ (den.log2 + 1) : Nat) : ℚ) := by exact_mod_cast Nat.lt_log2_self
  push_cast at hn1 hn2 hd1 hd2
  have hdq : (0 : ℚ) < den := by exact_mod_cast hd
  constructor
  · rw [lt_div_iff₀ hdq]
    calc (2 : ℚ) ^ ((num.log2 : Int) - den.log2 - 1) * den
        < 2 ^ ((num.log2 : Int) - den.log2 - 1) * 2 ^ (den.log2 + 1) := by gcongr
      _ = 2 ^ num.log2 := by
        rw [← zpow_natCast, ← zpow_natCast, ← zpow_add₀ two_ne_zero]; congr 1; push_cast; ring
      _ ≤ num := hn1
  · rw [div_lt_iff₀ hdq]
    calc (num : ℚ) < 2 ^ (num.log2 + 1) := hn2
      _ = 2 ^ ((num.log2 : Int) - den.log2 + 1) * 2 ^ den.log2 := by
        rw [← zpow_natCast, ← zpow_natCast, ← zpow_add₀ two_ne_zero]; congr 1; push_cast; ring
      _ ≤ 2 ^ ((num.log2 : Int) - den.log2 + 1) * den := by gcongr

private theorem le_of_lt_succ_cast {q m : Nat} {y : ℚ} (hq : y < q + 1) (hy : (m : ℚ) ≤ y) :
    m ≤ q := by
  have h : (m : ℚ) < (q + 1 : Nat) := by push_cast; linarith
  exact Nat.lt_succ_iff.1 (by exact_mod_cast h)

private theorem lt_of_le_cast_lt {q m : Nat} {y : ℚ} (hq : (q : ℚ) ≤ y) (hy : y < m) : q < m := by
  exact_mod_cast lt_of_le_of_lt hq hy

/-- The scale `ofRatio` rounds `num / den` at: the quotient by `2^k` has 53 bits, unless that
would take it below the subnormal scale. -/
def ratioScale (num den : Nat) : Int :=
  let k0 : Int := (num.log2 : Int) - (den.log2 : Int) - 52
  max (if (divPow2 num den k0).1 < Nat.pow 2 52 then k0 - 1 else k0) (-1074)

/-- `num / den` in whole units of `2^k`, rounded to nearest, a tie going to the even one. -/
def roundAt (num den : Nat) (k : Int) : Nat :=
  let (q, r, d) := divPow2 num den k
  if 2 * r > d ∨ (2 * r = d ∧ q % 2 = 1) then q + 1 else q

/-- The binary64 value of `q` units of `2^k`, carrying a 54th bit into the exponent. -/
def pack (negative : Bool) (q : Nat) (k : Int) : Binary64 :=
  let (q, k) := if q = Nat.pow 2 53 then (Nat.pow 2 52, k + 1) else (q, k)
  if q < Nat.pow 2 52 then make negative 0 q
  else
    let field := k + 1075
    if field ≥ 2047 then infinity negative else make negative field.toNat (q - Nat.pow 2 52)

theorem ofRatio_eq (negative : Bool) {num den : Nat} (hn : num ≠ 0) (hd : den ≠ 0) :
    ofRatio negative num den =
      pack negative (roundAt num den (ratioScale num den)) (ratioScale num den) := by
  simp only [ofRatio, hn, hd, or_self, if_false]
  rfl

theorem ratioScale_spec {num den : Nat} (hn : 0 < num) (hd : 0 < den) :
    -1074 ≤ ratioScale num den ∧
      (ratioScale num den = -1074 ∨ Nat.pow 2 52 ≤ (divPow2 num den (ratioScale num den)).1) ∧
      (divPow2 num den (ratioScale num den)).1 < Nat.pow 2 53 := by
  have h52 : ((Nat.pow 2 52 : Nat) : ℚ) = 2 ^ (52 : Int) := by norm_num
  have h53 : ((Nat.pow 2 53 : Nat) : ℚ) = 2 ^ (53 : Int) := by norm_num
  obtain ⟨hlo, hhi⟩ := ratio_log2_bounds hn hd
  set x : ℚ := (num : ℚ) / den
  set k0 : Int := (num.log2 : Int) - den.log2 - 52 with hk0
  have hp : ∀ k : Int, (0 : ℚ) < 2 ^ k := fun k => zpow_pos (by norm_num) k
  have h0 : (2 : ℚ) ^ (51 : Int) < x / 2 ^ k0 ∧ x / 2 ^ k0 < 2 ^ (53 : Int) := by
    rw [lt_div_iff₀ (hp k0), div_lt_iff₀ (hp k0), ← zpow_add₀ two_ne_zero,
      ← zpow_add₀ two_ne_zero]
    have e1 : (51 : Int) + k0 = (num.log2 : Int) - den.log2 - 1 := by omega
    have e2 : (53 : Int) + k0 = (num.log2 : Int) - den.log2 + 1 := by omega
    rw [e1, e2]
    exact ⟨hlo, hhi⟩
  set k1 : Int := if (divPow2 num den k0).1 < Nat.pow 2 52 then k0 - 1 else k0 with hk1
  have h1 : Nat.pow 2 52 ≤ (divPow2 num den k1).1 ∧ (divPow2 num den k1).1 < Nat.pow 2 53 := by
    obtain ⟨f0, f1⟩ := divPow2_floor num hd k0
    by_cases hs : (divPow2 num den k0).1 < Nat.pow 2 52
    · rw [hk1, if_pos hs]
      obtain ⟨g0, g1⟩ := divPow2_floor num hd (k0 - 1)
      have hhalf : x / 2 ^ (k0 - 1) = 2 * (x / 2 ^ k0) := by
        rw [zpow_sub₀ two_ne_zero, zpow_one]; field_simp
      have hs' : ((divPow2 num den k0).1 : ℚ) + 1 ≤ 2 ^ (52 : Int) := by
        rw [← h52]; exact_mod_cast hs
      constructor
      · refine le_of_lt_succ_cast g1 ?_
        rw [h52, hhalf]
        have : (2 : ℚ) ^ (52 : Int) = 2 * 2 ^ (51 : Int) := by norm_num
        linarith [h0.1]
      · refine lt_of_le_cast_lt g0 ?_
        rw [h53, hhalf]
        have : (2 : ℚ) ^ (53 : Int) = 2 * 2 ^ (52 : Int) := by norm_num
        linarith [f1]
    · rw [hk1, if_neg hs]
      exact ⟨by omega, lt_of_le_cast_lt f0 (by rw [h53]; exact h0.2)⟩
  have hk : ratioScale num den = max k1 (-1074) := rfl
  rw [hk]
  by_cases hm : -1074 ≤ k1
  · rw [max_eq_left hm]
    exact ⟨hm, .inr h1.1, h1.2⟩
  · -- below the subnormal scale the unit only grows, so the quotient only shrinks
    rw [max_eq_right (by omega)]
    refine ⟨le_refl _, .inl rfl, ?_⟩
    obtain ⟨g0, -⟩ := divPow2_floor num hd (-1074)
    obtain ⟨-, f1⟩ := divPow2_floor num hd k1
    refine lt_of_le_cast_lt g0 ?_
    have hmono : x / 2 ^ (-1074 : Int) ≤ x / 2 ^ k1 := by
      have hx : 0 ≤ x := by positivity
      exact div_le_div_of_nonneg_left hx (hp k1) (zpow_le_zpow_right₀ (by norm_num) (by omega))
    have : ((divPow2 num den k1).1 : ℚ) + 1 ≤ ((Nat.pow 2 53 : Nat) : ℚ) := by
      exact_mod_cast h1.2
    linarith

theorem roundAt_spec (num : Nat) {den : Nat} (hden : 0 < den) (k : Int) :
    roundAt num den k = (divPow2 num den k).1 ∨
      (roundAt num den k = (divPow2 num den k).1 + 1 ∧
        ((divPow2 num den k).1 : ℚ) < (num : ℚ) / den / 2 ^ k) := by
  obtain ⟨hr, hD, hx⟩ := divPow2_spec num hden k
  unfold roundAt
  generalize divPow2 num den k = t at hr hD hx ⊢
  obtain ⟨q, r, D⟩ := t
  dsimp only at hr hD hx ⊢
  split
  · next hup =>
    refine .inr ⟨rfl, ?_⟩
    have hr0 : (0 : ℚ) < r := by exact_mod_cast (show 0 < r by omega)
    have hp : (0 : ℚ) < 2 ^ k := zpow_pos (by norm_num) k
    rw [hx, mul_div_assoc, div_self hp.ne', mul_one]
    have : (0 : ℚ) < (r : ℚ) / D := by positivity
    linarith
  · exact .inl rfl

theorem grid_le_of_le {x : ℚ} {q q0 m : Nat} {k e : Int}
    (hq0 : (q0 : ℚ) ≤ x / 2 ^ k) (hk : k = -1074 ∨ 2 ^ 52 ≤ q0)
    (hq : q = q0 ∨ (q = q0 + 1 ∧ (q0 : ℚ) < x / 2 ^ k)) (hm : m < 2 ^ 53) (he : -1074 ≤ e)
    (hx : x ≤ m * 2 ^ e) : (q : ℚ) * 2 ^ k ≤ m * 2 ^ e := by
  have hp : (0 : ℚ) < 2 ^ k := zpow_pos (by norm_num) k
  by_cases hke : k ≤ e
  · -- the value is a whole number of units
    have hY : (m : ℚ) * 2 ^ e = ((m * 2 ^ (e - k).toNat : Nat) : ℚ) * 2 ^ k := by
      push_cast
      rw [← zpow_natCast, Int.toNat_of_nonneg (by omega), mul_assoc, ← zpow_add₀ two_ne_zero]
      congr 2; ring
    rw [hY] at hx ⊢
    have hxY : x / 2 ^ k ≤ ((m * 2 ^ (e - k).toNat : Nat) : ℚ) := by
      rw [div_le_iff₀ hp]; exact hx
    have hqY : q ≤ m * 2 ^ (e - k).toNat := by
      rcases hq with rfl | ⟨rfl, hlt⟩
      · exact_mod_cast hq0.trans hxY
      · exact_mod_cast lt_of_lt_of_le hlt hxY
    gcongr
  · -- a coarser grid: the value is below 2^52 units, which x already reaches
    have hk' : 2 ^ 52 ≤ q0 := hk.resolve_left (by omega)
    exfalso
    have h1 : (m : ℚ) * 2 ^ e < 2 ^ (52 : Int) * 2 ^ k := by
      have hm' : (m : ℚ) < 2 ^ (53 : Int) := by
        rw [show (2 : ℚ) ^ (53 : Int) = ((2 ^ 53 : Nat) : ℚ) by norm_num]; exact_mod_cast hm
      calc (m : ℚ) * 2 ^ e < 2 ^ (53 : Int) * 2 ^ e := by gcongr
        _ = 2 ^ (53 + e) := by rw [← zpow_add₀ two_ne_zero]
        _ ≤ 2 ^ (52 + k) := zpow_le_zpow_right₀ (by norm_num) (by omega)
        _ = 2 ^ (52 : Int) * 2 ^ k := by rw [← zpow_add₀ two_ne_zero]
    have h2 : (2 : ℚ) ^ (52 : Int) * 2 ^ k ≤ x := by
      have : (2 : ℚ) ^ (52 : Int) ≤ q0 := by
        rw [show (2 : ℚ) ^ (52 : Int) = ((2 ^ 52 : Nat) : ℚ) by norm_num]; exact_mod_cast hk'
      rw [le_div_iff₀ hp] at hq0
      nlinarith
    linarith

theorem le_grid_of_le {x : ℚ} {q q0 m : Nat} {k e : Int}
    (hq0 : x / 2 ^ k < q0 + 1) (hq0' : (q0 : ℚ) ≤ x / 2 ^ k) (hk : k = -1074 ∨ 2 ^ 52 ≤ q0)
    (hq : q = q0 ∨ q = q0 + 1) (hm : m < 2 ^ 53) (he : -1074 ≤ e)
    (hx : (m : ℚ) * 2 ^ e ≤ x) : (m : ℚ) * 2 ^ e ≤ q * 2 ^ k := by
  have hp : (0 : ℚ) < 2 ^ k := zpow_pos (by norm_num) k
  have hq0q : (q0 : ℚ) ≤ q := by rcases hq with rfl | rfl <;> push_cast <;> linarith
  by_cases hke : k ≤ e
  · have hY : (m : ℚ) * 2 ^ e = ((m * 2 ^ (e - k).toNat : Nat) : ℚ) * 2 ^ k := by
      push_cast
      rw [← zpow_natCast, Int.toNat_of_nonneg (by omega), mul_assoc, ← zpow_add₀ two_ne_zero]
      congr 2; ring
    rw [hY] at hx ⊢
    have hYx : ((m * 2 ^ (e - k).toNat : Nat) : ℚ) ≤ x / 2 ^ k := by
      rw [le_div_iff₀ hp]; exact hx
    have hYq : m * 2 ^ (e - k).toNat ≤ q0 := le_of_lt_succ_cast hq0 hYx
    have hYq' : ((m * 2 ^ (e - k).toNat : Nat) : ℚ) ≤ q0 := by exact_mod_cast hYq
    have : ((m * 2 ^ (e - k).toNat : Nat) : ℚ) ≤ q := hYq'.trans hq0q
    gcongr
  · have hk' : 2 ^ 52 ≤ q0 := hk.resolve_left (by omega)
    have h1 : (m : ℚ) * 2 ^ e < 2 ^ (52 : Int) * 2 ^ k := by
      have hm' : (m : ℚ) < 2 ^ (53 : Int) := by
        rw [show (2 : ℚ) ^ (53 : Int) = ((2 ^ 53 : Nat) : ℚ) by norm_num]; exact_mod_cast hm
      calc (m : ℚ) * 2 ^ e < 2 ^ (53 : Int) * 2 ^ e := by gcongr
        _ = 2 ^ (53 + e) := by rw [← zpow_add₀ two_ne_zero]
        _ ≤ 2 ^ (52 + k) := zpow_le_zpow_right₀ (by norm_num) (by omega)
        _ = 2 ^ (52 : Int) * 2 ^ k := by rw [← zpow_add₀ two_ne_zero]
    have : (2 : ℚ) ^ (52 : Int) ≤ q := by
      rw [show (2 : ℚ) ^ (52 : Int) = ((2 ^ 52 : Nat) : ℚ) by norm_num]
      have hk'' : ((2 ^ 52 : Nat) : ℚ) ≤ q0 := by exact_mod_cast hk'
      exact hk''.trans hq0q
    nlinarith

theorem pack_spec (s : Bool) {q : Nat} {k : Int} (hq : q ≤ 2 ^ 53) (hk : -1074 ≤ k)
    (hsub : q < 2 ^ 52 → k = -1074) :
    (pack s q k = infinity s ∧ (2 : ℚ) ^ (1024 : Int) ≤ q * 2 ^ k) ∨
      ((pack s q k).isFinite = true ∧ (pack s q k).negative = s ∧
        (pack s q k).toRat = signOf s * q * 2 ^ k) := by
  have e52 : Nat.pow 2 52 = 2 ^ 52 := rfl
  have e53 : Nat.pow 2 53 = 2 ^ 53 := rfl
  unfold pack
  by_cases hc : q = Nat.pow 2 53
  · -- the carry: 2^52 units of the next scale
    have hval : (q : ℚ) * 2 ^ k = ((2 ^ 52 : Nat) : ℚ) * 2 ^ (k + 1) := by
      rw [hc, e53, zpow_add₀ two_ne_zero, zpow_one]; push_cast; ring
    simp only [if_pos hc, e52, lt_irrefl, if_false]
    split
    · next hf =>
      refine .inl ⟨rfl, ?_⟩
      rw [hval]
      calc (2 : ℚ) ^ (1024 : Int) = 2 ^ (52 : Int) * 2 ^ (972 : Int) := by
            rw [← zpow_add₀ two_ne_zero]; congr 1
        _ ≤ 2 ^ (52 : Int) * 2 ^ (k + 1) := by gcongr <;> [norm_num; omega]
        _ = ((2 ^ 52 : Nat) : ℚ) * 2 ^ (k + 1) := by norm_num
    · next hf =>
      refine .inr ⟨make_isFinite s (by omega) (by omega), make_negative s (by omega) (by omega), ?_⟩
      rw [make_toRat_normal s (by omega) (by omega) (by omega), mul_assoc, mul_assoc, hval]
      congr 3
      omega
  · simp only [if_neg hc]
    have hq' : q < 2 ^ 53 := by rw [e53] at hc; omega
    split
    · next hs =>
      rw [e52] at hs
      refine .inr ⟨make_isFinite s (by omega) hs, make_negative s (by omega) hs, ?_⟩
      rw [make_toRat_subnormal s hs, hsub hs]
    · next hs =>
      rw [e52] at hs
      split
      · next hf =>
        refine .inl ⟨rfl, ?_⟩
        calc (2 : ℚ) ^ (1024 : Int) = 2 ^ (52 : Int) * 2 ^ (972 : Int) := by
              rw [← zpow_add₀ two_ne_zero]; congr 1
          _ ≤ q * 2 ^ k := by
            gcongr
            · rw [show (2 : ℚ) ^ (52 : Int) = ((2 ^ 52 : Nat) : ℚ) by norm_num]
              exact_mod_cast (by omega : 2 ^ 52 ≤ q)
            · norm_num
            · omega
      · next hf =>
        refine .inr ⟨make_isFinite s (by omega) (by omega), make_negative s (by omega) (by omega), ?_⟩
        rw [make_toRat_normal s (by omega) (by omega) (by omega)]
        simp only [e52]
        congr 2
        · push_cast; rw [Nat.cast_sub (by omega)]; ring
        · omega

/-- Rounding `x` to `v` passes no binary64 magnitude: each one at or above `x` is at or above `v`,
and each one at or below `x` is at or below `v`. -/
def Brackets (x v : ℚ) : Prop :=
  (∀ (m : Nat) (e : Int), m < 2 ^ 53 → -1074 ≤ e → x ≤ m * 2 ^ e → v ≤ m * 2 ^ e) ∧
    (∀ (m : Nat) (e : Int), m < 2 ^ 53 → -1074 ≤ e → (m : ℚ) * 2 ^ e ≤ x → (m : ℚ) * 2 ^ e ≤ v)

theorem ofRatio_cases (s : Bool) {num den : Nat} (hn : 0 < num) (hd : 0 < den) :
    ∃ (q : Nat) (k : Int), Brackets ((num : ℚ) / den) (q * 2 ^ k) ∧
      ((ofRatio s num den = infinity s ∧ (2 : ℚ) ^ (1024 : Int) ≤ q * 2 ^ k) ∨
        ((ofRatio s num den).isFinite = true ∧ (ofRatio s num den).negative = s ∧
          (ofRatio s num den).toRat = signOf s * q * 2 ^ k)) := by
  rw [ofRatio_eq s hn.ne' hd.ne']
  obtain ⟨hk, hk52, hk53⟩ := ratioScale_spec hn hd
  set k := ratioScale num den
  set q0 := (divPow2 num den k).1
  obtain ⟨f0, f1⟩ := divPow2_floor num hd k
  have hround := roundAt_spec num hd k
  have hk52' : k = -1074 ∨ 2 ^ 52 ≤ q0 := hk52
  have hk53' : q0 < 2 ^ 53 := hk53
  refine ⟨roundAt num den k, k, ⟨fun m e hm he hx => ?_, fun m e hm he hx => ?_⟩, ?_⟩
  · exact grid_le_of_le f0 hk52' hround hm he hx
  · exact le_grid_of_le f1 f0 hk52' (hround.imp_right (·.1)) hm he hx
  · refine pack_spec s ?_ hk fun hq => ?_
    · rcases hround with h | ⟨h, -⟩ <;> omega
    · rcases hk52' with h | h
      · exact h
      · rcases hround with h' | ⟨h', -⟩ <;> omega

theorem ofRatio_isNaN (s : Bool) {num den : Nat} (hd : 0 < den) :
    (ofRatio s num den).isNaN = false := by
  rcases Nat.eq_zero_or_pos num with rfl | hn
  · rw [ofRatio, if_pos (.inl rfl)]; exact isNaN_of_isFinite (zero_isFinite s)
  obtain ⟨q, k, -, hres⟩ := ofRatio_cases s hn hd
  rcases hres with ⟨hinf, -⟩ | ⟨hf, -⟩
  · rw [hinf]; exact infinity_isNaN s
  · exact isNaN_of_isFinite hf

theorem ofRatio_le {a : Binary64} (ha : a.isFinite = true) (s : Bool) {num den : Nat}
    (hd : 0 < den) (h : signOf s * ((num : ℚ) / den) ≤ a.toRat) : (ofRatio s num den).le a = true := by
  rcases Nat.eq_zero_or_pos num with rfl | hn
  · rw [ofRatio, if_pos (.inl rfl), le_iff_toRat (zero_isFinite s) ha, zero_toRat]
    simpa using h
  obtain ⟨q, k, ⟨hdown, hup⟩, hres⟩ := ofRatio_cases s hn hd
  have hx : (0 : ℚ) < (num : ℚ) / den := by positivity
  have hm := significand_lt a
  have he := exponent_ge a
  rw [toRat_eq] at h
  cases s
  · -- a positive value below `a`: `a` is positive, and so is no smaller than the rounded value
    have hapos : a.negative = false := by
      cases hneg : a.negative
      · rfl
      · exfalso; rw [hneg] at h; simp [signOf] at h; nlinarith [magnitude_nonneg a]
    rw [hapos] at h
    simp only [signOf, Bool.false_eq_true, if_false, one_mul] at h
    have hle : (q : ℚ) * 2 ^ k ≤ a.significand * 2 ^ a.exponent := hdown _ _ hm he h
    rcases hres with ⟨-, hbig⟩ | ⟨hf, -, hv⟩
    · have := magnitude_lt ha; linarith
    · rw [le_iff_toRat hf ha, hv, toRat_eq, hapos]
      simpa [signOf] using hle
  · rcases hres with ⟨hinf, -⟩ | ⟨hf, -, hv⟩
    · rw [hinf]; exact infinity_le (isNaN_of_isFinite ha)
    · rw [le_iff_toRat hf ha, hv, toRat_eq]
      cases hneg : a.negative
      · simp only [signOf, if_true, if_false, Bool.false_eq_true]
        nlinarith [magnitude_nonneg a, (by positivity : (0 : ℚ) ≤ q * 2 ^ k)]
      · rw [hneg] at h
        simp only [signOf, if_true] at h
        have hge : (a.significand : ℚ) * 2 ^ a.exponent ≤ q * 2 ^ k := hup _ _ hm he (by linarith)
        simp only [signOf, if_true]
        linarith

theorem le_ofRatio {a : Binary64} (ha : a.isFinite = true) (s : Bool) {num den : Nat}
    (hd : 0 < den) (h : a.toRat ≤ signOf s * ((num : ℚ) / den)) : a.le (ofRatio s num den) = true := by
  rcases Nat.eq_zero_or_pos num with rfl | hn
  · rw [ofRatio, if_pos (.inl rfl), le_iff_toRat ha (zero_isFinite s), zero_toRat]
    simpa using h
  obtain ⟨q, k, ⟨hdown, hup⟩, hres⟩ := ofRatio_cases s hn hd
  have hx : (0 : ℚ) < (num : ℚ) / den := by positivity
  have hm := significand_lt a
  have he := exponent_ge a
  rw [toRat_eq] at h
  cases s
  · simp only [signOf, Bool.false_eq_true, if_false, one_mul] at h
    rcases hres with ⟨hinf, -⟩ | ⟨hf, -, hv⟩
    · rw [hinf]; exact le_infinity (isNaN_of_isFinite ha)
    · rw [le_iff_toRat ha hf, hv, toRat_eq]
      cases hneg : a.negative
      · rw [hneg] at h
        simp only [signOf, Bool.false_eq_true, if_false, one_mul] at h ⊢
        exact hup _ _ hm he h
      · simp only [signOf, if_true, if_false, Bool.false_eq_true]
        nlinarith [magnitude_nonneg a, (by positivity : (0 : ℚ) ≤ q * 2 ^ k)]
  · -- a negative value above `a`: `a` is negative, and its magnitude no smaller than the rounded one
    have haneg : a.negative = true := by
      cases hneg : a.negative
      · exfalso; rw [hneg] at h; simp [signOf] at h; nlinarith [magnitude_nonneg a]
      · rfl
    rw [haneg] at h
    simp only [signOf, if_true] at h
    have hle : (q : ℚ) * 2 ^ k ≤ a.significand * 2 ^ a.exponent := hdown _ _ hm he (by linarith)
    rcases hres with ⟨-, hbig⟩ | ⟨hf, -, hv⟩
    · have := magnitude_lt ha; linarith
    · rw [le_iff_toRat ha hf, hv, toRat_eq, haneg]
      simp only [signOf, if_true]
      linarith

/-! ### Sums -/

theorem signOf_natAbs (z : Int) : signOf (decide (z < 0)) * (z.natAbs : ℚ) = z := by
  by_cases hz : z < 0
  · simp only [signOf, decide_eq_true hz, if_true]
    rw [Nat.cast_natAbs, Int.cast_abs, abs_of_neg (by exact_mod_cast hz)]; ring
  · simp only [signOf, decide_eq_false hz, Bool.false_eq_true, if_false, one_mul]
    rw [Nat.cast_natAbs, Int.cast_abs, abs_of_nonneg (by exact_mod_cast not_lt.1 hz)]

theorem add_of_finite {a b : Binary64} (ha : a.isFinite = true) (hb : b.isFinite = true) :
    a.add b = (if a.scaledValue b.toRatio.2.2 + b.scaledValue a.toRatio.2.2 = 0 then
        zero (a.negative && b.negative)
      else ofRatio (a.scaledValue b.toRatio.2.2 + b.scaledValue a.toRatio.2.2 < 0)
        (a.scaledValue b.toRatio.2.2 + b.scaledValue a.toRatio.2.2).natAbs
        (a.toRatio.2.2 * b.toRatio.2.2)) := by
  simp only [add, isNaN_of_isFinite ha, isNaN_of_isFinite hb, ha, hb, Bool.or_false,
    Bool.not_true, Bool.false_eq_true, if_false]

theorem add_of_infinite {a c : Binary64} (ha : a.isNaN = false) (haf : a.isFinite = false)
    (hc : c.isFinite = true) : a.add c = a := by
  simp [add, ha, isNaN_of_isFinite hc, haf, hc]

theorem sum_ratio {a b : Binary64} :
    signOf (decide (a.scaledValue b.toRatio.2.2 + b.scaledValue a.toRatio.2.2 < 0)) *
        (((a.scaledValue b.toRatio.2.2 + b.scaledValue a.toRatio.2.2).natAbs : ℚ) /
          ((a.toRatio.2.2 * b.toRatio.2.2 : Nat) : ℚ)) = a.toRat + b.toRat := by
  have ha : (a.toRatio.2.2 : ℚ) ≠ 0 := by exact_mod_cast (den_pos a).ne'
  have hb : (b.toRatio.2.2 : ℚ) ≠ 0 := by exact_mod_cast (den_pos b).ne'
  rw [mul_div_assoc', signOf_natAbs]
  push_cast
  rw [scaledValue_cast, scaledValue_cast]
  field_simp

theorem toRat_add_eq_zero {a b : Binary64}
    (h0 : a.scaledValue b.toRatio.2.2 + b.scaledValue a.toRatio.2.2 = 0) : a.toRat + b.toRat = 0 := by
  have h := (sum_ratio (a := a) (b := b))
  rw [h0] at h
  simpa using h.symm

theorem add_le_self {a c : Binary64} (ha : a.isNaN = false) (hc : c.isFinite = true)
    (hc0 : c.toRat ≤ 0) : (a.add c).le a = true := by
  by_cases haf : a.isFinite = true
  · rw [add_of_finite haf hc]
    split
    · next h0 =>
      rw [le_iff_toRat (zero_isFinite _) haf, zero_toRat]
      linarith [toRat_add_eq_zero h0]
    · refine ofRatio_le haf _ (Nat.mul_pos (den_pos a) (den_pos c)) ?_
      rw [sum_ratio]
      linarith
  · simp only [Bool.not_eq_true] at haf
    rw [add_of_infinite ha haf hc]
    exact le_refl_of_isNaN ha

theorem le_add_self {a c : Binary64} (ha : a.isNaN = false) (hc : c.isFinite = true)
    (hc0 : 0 ≤ c.toRat) : a.le (a.add c) = true := by
  by_cases haf : a.isFinite = true
  · rw [add_of_finite haf hc]
    split
    · next h0 =>
      rw [le_iff_toRat haf (zero_isFinite _), zero_toRat]
      linarith [toRat_add_eq_zero h0]
    · refine le_ofRatio haf _ (Nat.mul_pos (den_pos a) (den_pos c)) ?_
      rw [sum_ratio]
      linarith
  · simp only [Bool.not_eq_true] at haf
    rw [add_of_infinite ha haf hc]
    exact le_refl_of_isNaN ha

theorem add_isNaN {a c : Binary64} (ha : a.isNaN = false) (hc : c.isFinite = true) :
    (a.add c).isNaN = false := by
  by_cases haf : a.isFinite = true
  · rw [add_of_finite haf hc]
    split
    · exact isNaN_of_isFinite (zero_isFinite _)
    · exact ofRatio_isNaN _ (Nat.mul_pos (den_pos a) (den_pos c))
  · simp only [Bool.not_eq_true] at haf
    rw [add_of_infinite ha haf hc]
    exact ha

theorem sub_le_self {a c : Binary64} (ha : a.isNaN = false) (hc : c.isFinite = true)
    (hc0 : 0 ≤ c.toRat) : (a.sub c).le a = true :=
  add_le_self ha (by rw [neg_isFinite]; exact hc) (by rw [neg_toRat]; linarith)

theorem sub_isNaN {a c : Binary64} (ha : a.isNaN = false) (hc : c.isFinite = true) :
    (a.sub c).isNaN = false :=
  add_isNaN ha (by rw [neg_isFinite]; exact hc)

theorem mem_window {b c c' : Binary64} (hb : b.isNaN = false) (hc : c.isFinite = true)
    (hc' : c'.isFinite = true) (hc0 : 0 ≤ c.toRat) (hc0' : 0 ≤ c'.toRat) :
    ((b.sub c).sub c').le b = true ∧ b.le ((b.add c).add c') = true :=
  ⟨le_trans (sub_le_self (sub_isNaN hb hc) hc' hc0') (sub_le_self hb hc hc0),
    le_trans (le_add_self hb hc hc0) (le_add_self (add_isNaN hb hc) hc' hc0')⟩

end Binary64

end SellerSync
