import Mathlib
import SellerSync.Order.Quality
import SellerSync.Proofs.Normalization
/-! `Fields.sumKnown` skips the unknown amounts and adds the known ones in order, starting from zero,
with decimal addition; with nothing known it answers none. -/
namespace SellerSync

namespace Decimal

/-- The exact value. -/
def toRat (d : Decimal) : ℚ := (d.toRatio.1 : ℚ) / (d.toRatio.2 : ℚ)

theorem sum?_concat (ds : List Decimal) (d : Decimal) :
    sum? (ds ++ [d]) = (sum? ds).bind (·.add? d) := by
  simp only [sum?, List.foldlM_append, List.foldlM_cons, List.foldlM_nil]
  cases ds.foldlM add? zero <;> simp

/-- Written at the common scale `S` of at most 28 places, the amounts have mantissas whose
magnitudes add up within 96 bits. -/
def FitsAt (S : Nat) (ds : List Decimal) : Prop :=
  S ≤ maxScale ∧ (∀ d ∈ ds, d.scale ≤ S) ∧
    (ds.map fun d => d.mantissa * 10 ^ (S - d.scale)).sum ≤ maxMantissa

instance (S : Nat) (ds : List Decimal) : Decidable (FitsAt S ds) :=
  inferInstanceAs (Decidable (_ ∧ _ ∧ _))

theorem toRat_eq (d : Decimal) :
    d.toRat = (if d.negative then -(d.mantissa : ℚ) else d.mantissa) / 10 ^ d.scale := by
  unfold toRat toRatio
  cases d.negative <;> simp [Nat.pow_eq]

theorem abs_toRat_mul_pow (d : Decimal) {S : Nat} (h : d.scale ≤ S) :
    |d.toRat| * 10 ^ S = ((d.mantissa * 10 ^ (S - d.scale) : Nat) : ℚ) := by
  have hS : (10 : ℚ) ^ S = 10 ^ d.scale * 10 ^ (S - d.scale) := by
    rw [← pow_add, Nat.add_sub_cancel' h]
  rw [toRat_eq, hS]
  push_cast
  have hpos : (0 : ℚ) < 10 ^ d.scale := by positivity
  cases d.negative <;> simp [abs_div, abs_of_pos hpos] <;> field_simp

theorem toRat_of_isZero {d : Decimal} (h : d.isZero = true) : d.toRat = 0 := by
  have : d.mantissa = 0 := by simpa [isZero] using h
  simp [toRat_eq, this]

@[simp] theorem zero_toRat : zero.toRat = 0 := toRat_of_isZero rfl

theorem toRat_make_natAbs (t : Int) (s : Nat) :
    (make (decide (t < 0)) t.natAbs s).toRat = t / 10 ^ s := by
  rw [toRat_eq]
  simp only [make]
  congr 1
  rcases Int.lt_or_le t 0 with ht | ht
  · have hne : t.natAbs ≠ 0 := by omega
    simp only [ht, decide_true, Bool.true_and, bne_iff_ne, ne_eq, hne, not_false_eq_true,
      ↓reduceIte]
    have : ((t.natAbs : Int) : ℚ) = -t := by rw [Int.natCast_natAbs, abs_of_neg ht]; push_cast; ring
    rw [← Int.cast_natCast, this, neg_neg]
  · have hd : decide (t < 0) = false := by simp; omega
    simp only [hd, Bool.false_and, Bool.false_eq_true, ↓reduceIte]
    rw [← Int.cast_natCast, Int.natCast_natAbs, abs_of_nonneg ht]

theorem aligned_div (a : Decimal) {s : Nat} (h : a.scale ≤ s) :
    ((((if a.negative then -1 else 1) * ((a.mantissa * Nat.pow 10 (s - a.scale) : Nat) : Int) :
      Int) : ℚ) / 10 ^ s) = a.toRat := by
  have hs : (10 : ℚ) ^ s = 10 ^ a.scale * 10 ^ (s - a.scale) := by
    rw [← pow_add, Nat.add_sub_cancel' h]
  rw [toRat_eq, hs, Nat.pow_eq]
  have h1 : (10 : ℚ) ^ a.scale ≠ 0 := by positivity
  have h2 : (10 : ℚ) ^ (s - a.scale) ≠ 0 := by positivity
  cases a.negative <;> simp only [Bool.false_eq_true, ↓reduceIte] <;> push_cast <;> field_simp

theorem add?_exact {a b : Decimal} {S : Nat} (hS : S ≤ maxScale) (ha : a.scale ≤ S)
    (hb : b.scale ≤ S) (hfit : |a.toRat + b.toRat| * 10 ^ S ≤ maxMantissa) :
    ∃ c, a.add? b = some c ∧ c.toRat = a.toRat + b.toRat ∧ c.scale ≤ S := by
  unfold add?
  by_cases hza : a.isZero = true
  · exact ⟨b, by simp [hza], by simp [toRat_of_isZero hza], hb⟩
  by_cases hzb : b.isZero = true
  · exact ⟨a, by simp [hza, hzb], by simp [toRat_of_isZero hzb], ha⟩
  simp only [hza, hzb, Bool.false_eq_true, ↓reduceIte]
  generalize hs : max a.scale b.scale = s
  generalize ht : (((if a.negative then -1 else 1) * ((a.mantissa * Nat.pow 10 (s - a.scale) :
      Nat) : Int) : Int) + (if b.negative then -1 else 1) * ((b.mantissa *
      Nat.pow 10 (s - b.scale) : Nat) : Int)) = t
  have hsS : s ≤ S := by omega
  have hval : (t : ℚ) / 10 ^ s = a.toRat + b.toRat := by
    rw [← ht, Int.cast_add, add_div, aligned_div a (by omega), aligned_div b (by omega)]
  have hpos : (0 : ℚ) < 10 ^ s := by positivity
  have habs : (t.natAbs : ℚ) = |a.toRat + b.toRat| * 10 ^ s := by
    rw [← hval, abs_div, abs_of_pos hpos, div_mul_cancel₀ _ hpos.ne', ← Int.cast_natCast,
      Int.natCast_natAbs, Int.cast_abs]
  have hle : t.natAbs ≤ maxMantissa := by
    have h10 : (10 : ℚ) ^ s ≤ 10 ^ S := pow_le_pow_right₀ (by norm_num) hsS
    have : (t.natAbs : ℚ) ≤ maxMantissa := by
      rw [habs]
      exact le_trans (mul_le_mul_of_nonneg_left h10 (abs_nonneg _)) hfit
    exact_mod_cast this
  refine ⟨make (decide (t < 0)) t.natAbs s, ?_, ?_, hsS⟩
  · unfold ofScaled
    rw [if_pos ⟨hle, by unfold maxScale at hS ⊢; omega⟩]
  · rw [toRat_make_natAbs, hval]

theorem foldlM_add?_exact {S : Nat} (hS : S ≤ maxScale) :
    ∀ (ds : List Decimal) (acc : Decimal), acc.scale ≤ S → (∀ d ∈ ds, d.scale ≤ S) →
      |acc.toRat| * 10 ^ S + (ds.map fun d => |d.toRat|).sum * 10 ^ S ≤ maxMantissa →
      ∃ r, ds.foldlM add? acc = some r ∧ r.toRat = acc.toRat + (ds.map toRat).sum ∧
        r.scale ≤ S
  | [], acc, hacc, _, _ => ⟨acc, rfl, by simp, hacc⟩
  | d :: ds, acc, hacc, hds, hfit => by
    simp only [List.map_cons, List.sum_cons] at hfit ⊢
    have hpow : (0 : ℚ) ≤ 10 ^ S := by positivity
    have hrest : 0 ≤ (ds.map fun d => |d.toRat|).sum * 10 ^ S :=
      mul_nonneg (List.sum_nonneg (by simp)) hpow
    have hstep : |acc.toRat + d.toRat| * 10 ^ S ≤ |acc.toRat| * 10 ^ S + |d.toRat| * 10 ^ S := by
      rw [← add_mul]
      exact mul_le_mul_of_nonneg_right (abs_add_le _ _) hpow
    obtain ⟨c, hc, hcv, hcs⟩ := add?_exact hS hacc (hds d (by simp)) (by linarith)
    obtain ⟨r, hr, hrv, hrs⟩ := foldlM_add?_exact hS ds c hcs
      (fun e he => hds e (by simp [he])) (by rw [hcv]; linarith)
    refine ⟨r, ?_, ?_, hrs⟩
    · simp [List.foldlM_cons, hc, hr]
    · rw [hrv, hcv]
      ring

theorem sum_abs_mul_pow {S : Nat} {ds : List Decimal} (h : ∀ d ∈ ds, d.scale ≤ S) :
    (ds.map fun d => |d.toRat|).sum * 10 ^ S =
      ((ds.map fun d => d.mantissa * 10 ^ (S - d.scale)).sum : Nat) := by
  rw [← List.sum_map_mul_right, Nat.cast_list_sum, List.map_map]
  exact congrArg List.sum (List.map_congr_left fun d hd => abs_toRat_mul_pow d (h d hd))

/-- Amounts that fit at a common scale add up exactly. -/
theorem sum?_exact {S : Nat} {ds : List Decimal} (h : FitsAt S ds) :
    ∃ r, sum? ds = some r ∧ r.toRat = (ds.map toRat).sum := by
  obtain ⟨hS, hds, hsum⟩ := h
  have hfit : |zero.toRat| * 10 ^ S + (ds.map fun d => |d.toRat|).sum * 10 ^ S ≤ maxMantissa := by
    rw [zero_toRat, abs_zero, zero_mul, zero_add, sum_abs_mul_pow hds]
    exact_mod_cast hsum
  obtain ⟨r, hr, hrv, -⟩ := foldlM_add?_exact hS ds zero (Nat.zero_le _) hds hfit
  exact ⟨r, hr, by rw [hrv, zero_toRat, zero_add]⟩

end Decimal

namespace Fields

/-- A sum as `sumKnown` reports it: the sum, or the overflow when it leaves the range. -/
def reportSum : Option Decimal → Except SyncError (Option Decimal)
  | some d => .ok (some d)
  | none => .error SyncError.additionOverflow

theorem reportSum_ne_ok_none (o : Option Decimal) : reportSum o ≠ .ok none := by
  cases o <;> simp [reportSum]

/-- The running flag and sum compute the same as collecting the known amounts and adding them
from zero. -/
theorem sumKnown_eq (xs : List (Option Decimal)) :
    sumKnown xs = if xs.reduceOption = [] then .ok none else reportSum (Decimal.sum? xs.reduceOption) := by
  -- by the amounts one at a time from the end, as `sumKnown` runs
  induction xs using List.reverseRecOn with
  | nil => rfl
  | append_singleton xs x ih =>
    cases x with
    | none => simpa [sumKnown_append_none, List.reduceOption_append] using ih
    | some d =>
      simp only [List.reduceOption_append, List.reduceOption_cons_of_some, List.reduceOption_nil]
      rw [if_neg (by simp), Decimal.sum?_concat]
      by_cases hk : xs.reduceOption = []
      · -- the first known amount: added to zero it stays as it is
        rw [if_pos hk] at ih
        rw [sumKnown_append_first ih, hk]
        rfl
      · rw [if_neg hk] at ih
        cases ht : Decimal.sum? xs.reduceOption with
        | none =>
          rw [ht] at ih
          rw [sumKnown_append_of_error ih]
          rfl
        | some t =>
          rw [ht] at ih
          rw [sumKnown_append_some ih]
          show _ = reportSum (t.add? d)
          cases t.add? d <;> rfl

theorem lineCosts_total_eq (c : LineCosts) : c.total = sumKnown c.components := by
  rw [sumKnown_eq, LineCosts.total]
  by_cases hk : c.components.reduceOption = []
  · simp [hk]
  · simp only [hk, if_false, List.isEmpty_iff]
    cases Decimal.sum? c.components.reduceOption <;> rfl

theorem reduceOption_eq_nil_iff_all_none (xs : List (Option Decimal)) :
    xs.reduceOption = [] ↔ ∀ x ∈ xs, x = none := by
  simp [List.reduceOption, List.filterMap_eq_nil_iff]

/-- What summing the known amounts returns: none exactly when no amount is known; a sum exactly
when some amount is known and adding the known amounts in order from zero stays in range; and
the exact sum whenever the known amounts fit at a common scale. A line's cost total is this sum
over its four components. -/
theorem sumKnown_adds_known (xs : List (Option Decimal)) :
    (sumKnown xs = .ok none ↔ ∀ x ∈ xs, x = none) ∧
    (∀ d, sumKnown xs = .ok (some d) ↔
      xs.reduceOption ≠ [] ∧ Decimal.sum? xs.reduceOption = some d) ∧
    (∀ S, Decimal.FitsAt S xs.reduceOption → xs.reduceOption ≠ [] →
      ∃ d, sumKnown xs = .ok (some d) ∧ d.toRat = (xs.reduceOption.map Decimal.toRat).sum) ∧
    ∀ c : LineCosts, c.total = sumKnown c.components := by
  refine ⟨?_, ?_, ?_, lineCosts_total_eq⟩
  · rw [sumKnown_eq, ← reduceOption_eq_nil_iff_all_none]
    split_ifs with h
    · simp [h]
    · simp [h, reportSum_ne_ok_none]
  · intro d
    rw [sumKnown_eq]
    split_ifs with h
    · simp [h]
    · cases hs : Decimal.sum? xs.reduceOption <;> simp [h, reportSum]
  · intro S hfit hne
    obtain ⟨r, hr, hrv⟩ := Decimal.sum?_exact hfit
    exact ⟨r, by rw [sumKnown_eq, if_neg hne, hr]; rfl, hrv⟩

/-- Two plain amounts whose sum needs 30 digits: the sum is rounded to a whole number, half to
even, and is not the exact sum. -/
theorem sumKnown_rounds_long_sum :
    sumKnown [some ⟨false, 79228162514264337593543950335, 1⟩, some ⟨false, 5, 2⟩] =
      .ok (some ⟨false, 7922816251426433759354395034, 0⟩) ∧
    (⟨false, 7922816251426433759354395034, 0⟩ : Decimal).toRat ≠
      (⟨false, 79228162514264337593543950335, 1⟩ : Decimal).toRat + (⟨false, 5, 2⟩ : Decimal).toRat := by
  refine ⟨rfl, ?_⟩
  simp only [Decimal.toRat_eq]
  norm_num

/-- Costs of 2 and 3 with one unknown component add up to exactly 5. -/
theorem sumKnown_adds_small_costs :
    Decimal.FitsAt 0 [some (Decimal.ofInt 2), none, some (Decimal.ofInt 3)].reduceOption ∧
    ∃ d, sumKnown [some (Decimal.ofInt 2), none, some (Decimal.ofInt 3)] = .ok (some d) ∧
      d.toRat = 5 := by
  have hfit : Decimal.FitsAt 0 [some (Decimal.ofInt 2), none, some (Decimal.ofInt 3)].reduceOption := by
    decide
  obtain ⟨d, hd, hdv⟩ := (sumKnown_adds_known _).2.2.1 0 hfit (by simp)
  refine ⟨hfit, d, hd, ?_⟩
  rw [hdv]
  simp [Decimal.toRat_eq, Decimal.ofInt, Decimal.make]
  norm_num

end Fields

end SellerSync
