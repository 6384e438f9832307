import Mathlib
import SellerSync.Proofs.DecimalSums
import SellerSync.Proofs.Rounding
/-! `Fields.money?` reads a whole number that fits a signed 64-bit word exactly, and every other
number through its binary64 value. -/
namespace SellerSync

namespace Decimal

theorem absorbFifths_doubling {bits k : Nat} (e10 : Int) (h : bits * 2 ^ k < 2 ^ 96) :
    absorbFifths bits e10 k = (bits * 2 ^ k, e10 - k) := by
  induction k generalizing bits e10 with
  | zero => simp [absorbFifths]
  | succ k ih =>
    have hb : bits < Nat.pow 2 95 := by
      rw [Nat.pow_eq]
      have : bits * 2 ≤ bits * 2 ^ (k + 1) :=
        Nat.mul_le_mul_left _ (Nat.le_self_pow (by omega) 2 |>.trans' (by omega))
      omega
    have h' : bits * 2 * 2 ^ k < 2 ^ 96 := by rwa [Nat.mul_assoc, ← Nat.pow_succ']
    rw [absorbFifths, if_pos hb, ih (e10 - 1) h', Nat.mul_assoc, ← Nat.pow_succ']
    congr 1
    omega

theorem shortenWhile_stop {more : Nat → Int → Bool} {bits : Nat} {e10 : Int} (fuel : Nat)
    (h : more bits e10 = false) : shortenWhile more bits e10 fuel = (bits, e10) := by
  cases fuel <;> simp [shortenWhile, h]

/-- A nonzero finite binary64 value with no fractional part below `2^96` converts, in either
form, to the whole number of its value. -/
theorem ofBinary64?_whole {x : Binary64} (hf : x.isFinite = true) (hz : x.isZero = false)
    (he : 0 ≤ x.exponent) (hb : x.significand * 2 ^ x.exponent.toNat < 2 ^ 96) (short : Bool) :
    ofBinary64? x short = some (make x.negative (x.significand * 2 ^ x.exponent.toNat) 0) := by
  have habs := absorbFifths_doubling x.exponent hb
  have he10 : x.exponent - (x.exponent.toNat : Int) = 0 := by omega
  rw [he10] at habs
  have hfrac : shortenWhile (fun _ e => decide (e < -(maxScale : Int)))
      (x.significand * 2 ^ x.exponent.toNat) 0 1200 = (x.significand * 2 ^ x.exponent.toNat, 0) :=
    shortenWhile_stop _ (by decide)
  have hshort : shortenWhile (fun b e => decide (e < 0 ∧ b ≥ Nat.pow 2 52))
      (x.significand * 2 ^ x.exponent.toNat) 0 100 = (x.significand * 2 ^ x.exponent.toNat, 0) :=
    shortenWhile_stop _ (by simp)
  simp only [ofBinary64?, hf, hz, Bool.not_true, Bool.false_eq_true, if_false,
    if_neg (not_lt.2 he), habs, lt_irrefl, hfrac]
  cases short
  · rfl
  · simp only [if_true, hshort]
    rfl

@[simp] theorem normalize_make_whole (s : Bool) (m : Nat) : (make s m 0).normalize = make s m 0 := by
  by_cases hm : m = 0
  · subst hm; cases s <;> rfl
  · simp [normalize, normalize.go, make, hm]

theorem toRat_ofInt (i : Int) : (ofInt i).toRat = i := by
  unfold ofInt
  simpa using toRat_make_natAbs i 0

theorem toRat_make_whole (m : Nat) : (make false m 0).toRat = m := by
  have hs : decide ((m : Int) < 0) = false := decide_eq_false (by omega)
  simpa [hs] using toRat_make_natAbs (m : Int) 0

theorem trunc_ofInt (i : Int) : (ofInt i).trunc = ofInt i := by
  simp [trunc, ofInt, make]

theorem toI64?_ofInt {i : Int} (hlo : -2 ^ 63 ≤ i) (hhi : i < 2 ^ 63) : (ofInt i).toI64? = some i := by
  unfold toI64? ofInt make
  rw [show i.natAbs / Nat.pow 10 0 = i.natAbs from Nat.div_one _]
  by_cases hneg : i < 0
  · have h1 : i.natAbs ≤ Nat.pow 2 63 := by rw [Nat.pow_eq]; omega
    have h2 : (i.natAbs != 0) = true := by simp; omega
    rw [if_pos (by simp [hneg, h2]), if_pos h1]
    congr 1; omega
  · have h1 : i.natAbs < Nat.pow 2 63 := by rw [Nat.pow_eq]; omega
    rw [if_neg (by simp [hneg]), if_pos h1]
    congr 1; omega

end Decimal

namespace Binary64

theorem isZero_eq_false {x : Binary64} (h : 0 < x.significand) : x.isZero = false := by
  unfold significand at h
  unfold isZero
  split at h
  · next hf => simp only [hf, beq_self_eq_true, Bool.true_and, beq_eq_false_iff_ne]; omega
  · next hf => simp [hf]

theorem toRat_whole {x : Binary64} (hneg : x.negative = false) (he : 0 ≤ x.exponent) :
    x.toRat = ((x.significand * 2 ^ x.exponent.toNat : Nat) : ℚ) := by
  rw [toRat_eq, hneg]
  simp only [signOf, Bool.false_eq_true, if_false, one_mul, Nat.cast_mul, Nat.cast_pow]
  rw [← zpow_natCast, Int.toNat_of_nonneg he, Nat.cast_ofNat]

theorem grid11_magnitude {m : Nat} (hm : m ≤ 2 ^ 53) :
    ∃ (m' : Nat) (e : Int), m' < 2 ^ 53 ∧ -1074 ≤ e ∧ (m' : ℚ) * 2 ^ e = m * 2 ^ 11 := by
  rcases Nat.lt_or_eq_of_le hm with h | rfl
  · exact ⟨m, 11, h, by norm_num, by norm_num⟩
  · exact ⟨2 ^ 52, 12, by norm_num, by norm_num, by norm_num⟩

theorem Brackets.grid11 {x v : ℚ} (hb : Brackets x v) {a : Nat} (ha : a + 1 ≤ 2 ^ 53)
    (hlo : (a : ℚ) * 2 ^ 11 ≤ x) (hhi : x ≤ (a + 1 : ℚ) * 2 ^ 11) :
    (a : ℚ) * 2 ^ 11 ≤ v ∧ v ≤ (a + 1 : ℚ) * 2 ^ 11 := by
  obtain ⟨m, e, hm, he, hme⟩ := grid11_magnitude (m := a) (by omega)
  obtain ⟨m', e', hm', he', hme'⟩ := grid11_magnitude ha
  push_cast at hme'
  refine ⟨?_, ?_⟩
  · rw [← hme] at hlo ⊢
    exact hb.2 m e hm he hlo
  · rw [← hme'] at hhi ⊢
    exact hb.1 m' e' hm' he' hhi

theorem ofInt_brackets {n : Nat} (hn : 0 < n) (hhi : n < 2 ^ 64) :
    (ofInt n).isFinite = true ∧ (ofInt n).negative = false ∧ Brackets n (ofInt n).toRat := by
  have hof : ofInt n = ofRatio false n 1 := by
    have hs : decide ((n : Int) < 0) = false := decide_eq_false (by omega)
    simp [ofInt, hs]
  obtain ⟨q, k, hb, hres⟩ := ofRatio_cases false hn one_pos
  rw [Nat.cast_one, div_one] at hb
  rw [hof]
  rcases hres with ⟨-, hbig⟩ | ⟨hf, hneg, hv⟩
  · -- the rounding stays at or below `2^64`, far from the largest finite value
    exfalso
    have hle : (q : ℚ) * 2 ^ k ≤ ((2 ^ 52 : Nat) : ℚ) * 2 ^ (12 : Int) :=
      hb.1 _ _ (by norm_num) (by norm_num) (by
        have : (n : ℚ) < 2 ^ 64 := by exact_mod_cast hhi
        norm_num; linarith)
    have h64 : ((2 ^ 52 : Nat) : ℚ) * 2 ^ (12 : Int) = 2 ^ (64 : Int) := by norm_num
    have hlt : (2 : ℚ) ^ (64 : Int) < 2 ^ (1024 : Int) :=
      zpow_lt_zpow_right₀ (by norm_num) (by norm_num)
    exact absurd (hbig.trans (hle.trans h64.le)) (not_le.2 hlt)
  · refine ⟨hf, hneg, ?_⟩
    rw [hv]
    simpa [signOf] using hb

theorem exponent_ge_eleven {x : Binary64} (hneg : x.negative = false)
    (hx : (2 : ℚ) ^ 63 ≤ x.toRat) : 11 ≤ x.exponent := by
  rw [toRat_eq, hneg] at hx
  simp only [signOf, Bool.false_eq_true, if_false, one_mul] at hx
  by_contra hlt
  have hm : (x.significand : ℚ) < 2 ^ (53 : Int) := by
    rw [show (2 : ℚ) ^ (53 : Int) = ((2 ^ 53 : Nat) : ℚ) by norm_num]
    exact_mod_cast significand_lt x
  have : (x.significand : ℚ) * 2 ^ x.exponent < 2 ^ (63 : Int) :=
    calc (x.significand : ℚ) * 2 ^ x.exponent < 2 ^ (53 : Int) * 2 ^ x.exponent := by gcongr
      _ = 2 ^ (53 + x.exponent) := by rw [← zpow_add₀ two_ne_zero]
      _ ≤ 2 ^ (63 : Int) := zpow_le_zpow_right₀ (by norm_num) (by omega)
  norm_num at this
  linarith

theorem ofInt_high {n : Nat} (hlo : 2 ^ 63 ≤ n) (hhi : n < 2 ^ 64) :
    (ofInt n).isFinite = true ∧ (ofInt n).negative = false ∧ 11 ≤ (ofInt n).exponent ∧
      |(ofInt n).toRat - n| < 2 ^ 11 ∧ ((ofInt n).toRat = n ↔ 2 ^ 11 ∣ n) := by
  obtain ⟨hf, hneg, hb⟩ := ofInt_brackets (n := n) (by omega) hhi
  set a := n / 2 ^ 11
  have ha : 2 ^ 52 ≤ a ∧ a + 1 ≤ 2 ^ 53 := by omega
  have hna : (a : ℚ) * 2 ^ 11 ≤ n := by exact_mod_cast Nat.div_mul_le_self n _
  have hna' : (n : ℚ) < (a + 1 : ℚ) * 2 ^ 11 := by
    exact_mod_cast (by omega : n < (a + 1) * 2 ^ 11)
  obtain ⟨hv1, hv2⟩ := hb.grid11 ha.2 hna hna'.le
  have ha52 : (2 : ℚ) ^ 63 ≤ (a : ℚ) * 2 ^ 11 := by
    have h52 : (2 : ℚ) ^ 52 ≤ a := by exact_mod_cast ha.1
    calc (2 : ℚ) ^ 63 = 2 ^ 52 * 2 ^ 11 := by norm_num
      _ ≤ (a : ℚ) * 2 ^ 11 := by gcongr
  have hexact : 2 ^ 11 ∣ n → (ofInt n).toRat = n := fun hdvd => by
    have hn : (n : ℚ) = (a : ℚ) * 2 ^ 11 := by
      exact_mod_cast (Nat.div_mul_cancel hdvd).symm
    obtain ⟨m, e, hm, he, hme⟩ := grid11_magnitude (m := a) (by omega)
    have hup : (ofInt n).toRat ≤ n := by
      rw [hn, ← hme]; exact hb.1 m e hm he (by rw [hme, hn])
    exact le_antisymm hup (hn ▸ hv1)
  have he := exponent_ge_eleven hneg (ha52.trans hv1)
  have hdvd_of_eq : (ofInt n).toRat = n → 2 ^ 11 ∣ n := fun heq => by
    rw [toRat_whole hneg (by omega)] at heq
    rw [← Nat.cast_inj.1 heq]
    exact Dvd.dvd.mul_left (Nat.pow_dvd_pow 2 (by omega)) _
  refine ⟨hf, hneg, he, ?_, ⟨hdvd_of_eq, hexact⟩⟩
  by_cases hdvd : 2 ^ 11 ∣ n
  · rw [hexact hdvd, sub_self, abs_zero]; norm_num
  · -- off the grid, `n` is strictly inside its cell
    have hstrict : (a : ℚ) * 2 ^ 11 < n := by
      have : a * 2 ^ 11 < n := lt_of_le_of_ne (Nat.div_mul_le_self n _)
        fun h => hdvd ⟨a, by rw [← h, Nat.mul_comm]⟩
      exact_mod_cast this
    rw [abs_sub_lt_iff]
    constructor <;> linarith

end Binary64

namespace Fields

theorem money?_ofInt {i : Int} (hhi : i < 2 ^ 63) : money? (Json.ofInt i) = some (Decimal.ofInt i) := by
  simp only [money?, Json.ofInt, JsonNumber.ofInt]
  by_cases hneg : i < 0
  · simp [hneg, JsonNumber.toI64?]
  · have hle : i.toNat ≤ JsonNumber.i64Max := by
      simp only [JsonNumber.i64Max, Nat.pow_eq]; omega
    simp only [hneg, if_false, JsonNumber.toI64?, if_pos hle, Int.toNat_of_nonneg (not_lt.1 hneg)]

theorem quantity_ofInt {i : Int} (hlo : -2 ^ 63 ≤ i) (hhi : i < 2 ^ 63) :
    quantity (some (Decimal.ofInt i)) = i := by
  simp [quantity, Decimal.trunc_ofInt, Decimal.toI64?_ofInt hlo hhi]

theorem money?_str {s : String} {d : Decimal} (h : Decimal.parse? (Text.trim s) = some d) :
    money? (.str s) = some d := by
  have hne : (Text.trim s).isEmpty = false := by
    cases he : (Text.trim s).isEmpty
    · rfl
    · rw [String.isEmpty_iff.1 he] at h
      cases h
  simp [money?, hne, h]

theorem money?_ofNat_high {n : Nat} (hlo : 2 ^ 63 ≤ n) (hhi : n < 2 ^ 64) :
    money? (Json.ofNat n) = some (Decimal.make false
      ((Binary64.ofInt n).significand * 2 ^ (Binary64.ofInt n).exponent.toNat) 0) := by
  obtain ⟨hf, hneg, he, hnear, -⟩ := Binary64.ofInt_high hlo hhi
  have hw := Binary64.toRat_whole hneg (by omega)
  have hwb : (Binary64.ofInt n).significand * 2 ^ (Binary64.ofInt n).exponent.toNat < 2 ^ 96 := by
    have : ((Binary64.ofInt n).significand * 2 ^ (Binary64.ofInt n).exponent.toNat : ℚ) < 2 ^ 96 := by
      have hn : (n : ℚ) < 2 ^ 64 := by exact_mod_cast hhi
      push_cast at hw
      rw [← hw]
      linarith [(abs_sub_lt_iff.1 hnear).1]
    exact_mod_cast this
  have hz : (Binary64.ofInt n).isZero = false := by
    refine Binary64.isZero_eq_false (Nat.pos_of_ne_zero fun h0 => ?_)
    rw [h0, zero_mul, Nat.cast_zero] at hw
    have hn : (2 : ℚ) ^ 63 ≤ n := by exact_mod_cast hlo
    linarith [(abs_sub_lt_iff.1 hnear).2]
  have hbig : ¬ n ≤ JsonNumber.i64Max := by simp only [JsonNumber.i64Max, Nat.pow_eq]; omega
  simp only [money?, Json.ofNat, JsonNumber.toI64?, if_neg hbig, JsonNumber.toBinary64,
    Decimal.ofBinary64Exact?]
  rw [Decimal.ofBinary64?_whole hf hz (by omega) hwb, hneg]
  simp

/-- The largest unsigned word rounds up to `2^64`. -/
example : money? (Json.ofNat 18446744073709551615) = some (Decimal.ofInt 18446744073709551616) := by
  decide +kernel

/-- Reading amounts from JSON: every whole number of the signed 64-bit range is read as itself and
its quantity is that number; a whole number past it, up to `2^64`, is read through binary64,
within `2^11` of it and exactly it only when `2^11` divides it; and text that the plain reader
accepts once trimmed is read by that reader. -/
theorem money?_reads_whole_numbers :
    (∀ i : Int, -2 ^ 63 ≤ i → i < 2 ^ 63 →
      money? (Json.ofInt i) = some (Decimal.ofInt i) ∧ quantity (money? (Json.ofInt i)) = i) ∧
    (∀ n : Nat, 2 ^ 63 ≤ n → n < 2 ^ 64 →
      ∃ d, money? (Json.ofNat n) = some d ∧ |d.toRat - n| < 2 ^ 11 ∧ (d.toRat = n ↔ 2 ^ 11 ∣ n)) ∧
    (∀ (s : String) (d : Decimal), Decimal.parse? (Text.trim s) = some d → money? (.str s) = some d) := by
  refine ⟨fun i hlo hhi => ?_, fun n hlo hhi => ?_, fun s d h => money?_str h⟩
  · have h := money?_ofInt hhi
    exact ⟨h, by rw [h, quantity_ofInt hlo hhi]⟩
  · obtain ⟨-, hneg, he, hnear, hexact⟩ := Binary64.ofInt_high hlo hhi
    have hw := Binary64.toRat_whole hneg (by omega)
    refine ⟨_, money?_ofNat_high hlo hhi, ?_⟩
    rw [Decimal.toRat_make_whole, ← hw]
    exact ⟨hnear, hexact⟩

/-- The ends of the signed range, the largest unsigned word and blank-padded text, read through
the theorem above. -/
theorem money?_reads_word_ends :
    (money? (Json.ofInt (-9223372036854775808)) = some (Decimal.ofInt (-9223372036854775808)) ∧
      quantity (money? (Json.ofInt (-9223372036854775808))) = -9223372036854775808) ∧
    (∃ d, money? (Json.ofNat 18446744073709551615) = some d ∧
      |d.toRat - ((18446744073709551615 : Nat) : ℚ)| < 2 ^ 11 ∧
      (d.toRat = ((18446744073709551615 : Nat) : ℚ) ↔ 2 ^ 11 ∣ 18446744073709551615)) ∧
    money? (.str " 12.50 ") = some ⟨false, 1250, 2⟩ :=
  ⟨money?_reads_whole_numbers.1 _ (by norm_num) (by norm_num),
    money?_reads_whole_numbers.2.1 _ (by norm_num) (by norm_num),
    money?_reads_whole_numbers.2.2 _ _ (by decide +kernel)⟩

/-- The smallest whole number past the signed range, `2^63 + 1`, is read as `2^63`, not as
itself. -/
theorem money?_rounds_past_signed_range :
    money? (Json.ofNat 9223372036854775809) = some (Decimal.ofInt 9223372036854775808) ∧
      (Decimal.ofInt 9223372036854775808).toRat ≠ ((9223372036854775809 : Nat) : ℚ) := by
  refine ⟨by decide +kernel, ?_⟩
  rw [Decimal.toRat_ofInt]
  norm_num

end Fields

end SellerSync
