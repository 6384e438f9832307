import Mathlib
import SellerSync.Api.Retry
/-! The wait a retry policy asks for after attempt `a`. A wait the provider names is held at
`maxRetryAfter`. -/
namespace SellerSync

namespace Duration

/-- A duration a program can hold: at most the largest one. -/
def Valid (d : Duration) : Prop := d.nanos ≤ maxNanos

instance (d : Duration) : Decidable d.Valid := inferInstanceAs (Decidable (d.nanos ≤ maxNanos))

@[simp] theorem min_nanos (a b : Duration) : (a.min b).nanos = Min.min a.nanos b.nanos := by
  unfold Duration.min
  split <;> omega

@[simp] theorem saturatingMul_nanos (d : Duration) (k : Nat) :
    (d.saturatingMul k).nanos = Min.min (d.nanos * k) maxNanos := rfl

theorem ext_nanos {a b : Duration} (h : a.nanos = b.nanos) : a = b := by
  cases a
  cases b
  simp_all

end Duration

namespace RetryPolicy

/-- How many base delays the wait after attempt `a` is: 1 after attempt 0 and after the first,
doubling after each attempt up to the 32nd, and the largest 32-bit number after every later one. -/
def backoffFactor (a : Nat) : Nat :=
  if a = 0 then 1 else if a ≤ 32 then 2 ^ (a - 1) else 2 ^ 32 - 1

theorem factor_eq_backoffFactor (a : Nat) :
    (if a - 1 ≥ 32 then Nat.pow 2 32 - 1 else Nat.min (Nat.pow 2 (a - 1)) (Nat.pow 2 32 - 1)) =
      backoffFactor a := by
  simp only [Nat.pow_eq, Nat.min, backoffFactor]
  by_cases hbig : a - 1 ≥ 32
  · rw [if_pos hbig, if_neg (by omega), if_neg (by omega)]
  · -- below the 33rd attempt the power is at most `2^31`, under the hold
    have hpow : 2 ^ (a - 1) ≤ 2 ^ 32 - 1 := by
      have : 2 ^ (a - 1) ≤ 2 ^ 31 := Nat.pow_le_pow_right (by omega) (by omega)
      omega
    rw [if_neg hbig, Nat.min_eq_left hpow]
    split_ifs with h0 hle
    · simp [h0]
    · rfl
    · omega

theorem backoffFactor_le_succ (a : Nat) : backoffFactor a ≤ backoffFactor (a + 1) := by
  unfold backoffFactor
  rcases Nat.lt_or_ge a 32 with ha | ha
  · by_cases h0 : a = 0
    · simp [h0]
    · rw [if_neg h0, if_pos (by omega), if_neg (by omega), if_pos (by omega)]
      exact Nat.pow_le_pow_right (by omega) (by omega)
  · by_cases h32 : a = 32
    · subst h32
      decide
    · rw [if_neg (by omega), if_neg (by omega), if_neg (by omega), if_neg (by omega)]

theorem backoffFactor_mono : Monotone backoffFactor :=
  monotone_nat_of_le_succ backoffFactor_le_succ

variable (p : RetryPolicy)

theorem delayFor_some (a : Nat) (w : Duration) :
    p.delayFor a (some w) = ⟨min w.nanos p.maxRetryAfter.nanos⟩ :=
  Duration.ext_nanos (Duration.min_nanos _ _)

theorem delayFor_none_nanos (a : Nat) :
    (p.delayFor a none).nanos =
      min (min (p.baseDelay.nanos * backoffFactor a) Duration.maxNanos)
        p.maxDelay.nanos := by
  simp only [delayFor, Duration.min_nanos, Duration.saturatingMul_nanos]
  rw [factor_eq_backoffFactor]

theorem delayFor_none (hp : p.maxDelay.Valid) (a : Nat) :
    p.delayFor a none = ⟨min (p.baseDelay.nanos * backoffFactor a) p.maxDelay.nanos⟩ := by
  apply Duration.ext_nanos
  rw [delayFor_none_nanos]
  unfold Duration.Valid at hp
  dsimp only
  omega

theorem delayFor_none_le_maxDelay (a : Nat) : (p.delayFor a none).nanos ≤ p.maxDelay.nanos := by
  rw [delayFor_none_nanos]
  exact min_le_right _ _

theorem delayFor_none_mono : Monotone fun a => (p.delayFor a none).nanos := by
  intro a b hab
  simp only [delayFor_none_nanos]
  have hf := Nat.mul_le_mul_left p.baseDelay.nanos (backoffFactor_mono hab)
  exact min_le_min_right _ (min_le_min_right _ hf)

/-- The wait after attempt `a`, for every policy whose cap is a duration a program can hold:
the provider's wait held at `maxRetryAfter`, or else exactly `baseDelay · backoffFactor a`
nanoseconds held at `maxDelay`; so the backoff never shrinks from one attempt to the next and
never passes `maxDelay`. -/
theorem delayFor_schedule (hp : p.maxDelay.Valid) :
    (∀ a w, p.delayFor a (some w) = ⟨min w.nanos p.maxRetryAfter.nanos⟩) ∧
    (∀ a, p.delayFor a none =
      ⟨min (p.baseDelay.nanos * backoffFactor a) p.maxDelay.nanos⟩) ∧
    Monotone (fun a => (p.delayFor a none).nanos) ∧
    ∀ a, (p.delayFor a none).nanos ≤ p.maxDelay.nanos :=
  ⟨p.delayFor_some, p.delayFor_none hp, p.delayFor_none_mono, p.delayFor_none_le_maxDelay⟩

/-- The standard policy waits 4 s after the second attempt: twice its 2 s base. -/
theorem standard_waits_twice_base_after_second :
    standard.maxDelay.Valid ∧ standard.delayFor 2 none = ⟨4000000000⟩ := by
  have hp : standard.maxDelay.Valid := by decide
  refine ⟨hp, ?_⟩
  rw [(delayFor_schedule standard hp).2.1 2]
  decide

end RetryPolicy

end SellerSync
