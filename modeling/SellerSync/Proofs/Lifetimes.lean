import Mathlib
import SellerSync.Proofs.QuoteCache
/-! What `TokenGrant.toUpdate` makes of the lifetimes a token endpoint grants, for every grant and
every instant of the calendar. A lifetime that is absent or not positive sets no expiry. -/

namespace SellerSync

namespace Span

@[simp] theorem toNanos_ofNanos (n : Int) : (ofNanos n).toNanos = n := by
  simp only [ofNanos, toNanos]
  omega

@[simp] theorem toNanos_ofSeconds (s : Int) : (ofSeconds s).toNanos = s * 1000000000 := by
  simp [ofSeconds, toNanos]

/-- The largest whole number of seconds a span holds: `(2^63 - 1) / 1000`. -/
def maxSeconds : Int := 9223372036854775

theorem ofSeconds?_of_pos {s : Int} (hs : 0 < s) :
    ofSeconds? s = if s ≤ maxSeconds then some (ofSeconds s) else none := by
  by_cases h : s ≤ maxSeconds
  · simp only [ofSeconds?, inRange, toNanos_ofSeconds, h, ↓reduceIte, ite_eq_left_iff,
      Bool.and_eq_true, decide_eq_true_eq, not_and, reduceCtorEq, imp_false]
    simp only [maxSeconds, minSpan, maxSpan, toNanos] at h ⊢
    omega
  · simp only [ofSeconds?, inRange, toNanos_ofSeconds, h, ↓reduceIte, ite_eq_right_iff,
      Bool.and_eq_true, decide_eq_true_eq, reduceCtorEq, imp_false, not_and]
    simp only [maxSeconds, minSpan, maxSpan, toNanos] at h ⊢
    omega

end Span

namespace Instant

@[simp] theorem since_toNanos (a b : Instant) :
    (a.since b).toNanos = (a.seconds - b.seconds) * 1000000000 + a.nanos - b.nanos := by
  simp [since]

/-- Where an instant ends up `s` seconds later, in nanoseconds since the epoch; a leap second
counts its extra second. -/
def laterNanos (t : Instant) (s : Int) : Int := t.seconds * 1000000000 + t.nanos + s * 1000000000

theorem addSpan?_ofSeconds {t : Instant} (ht : t.inRange = true) {s : Int} (hs : 0 < s) :
    (∃ e, t.addSpan? (Span.ofSeconds s) = some e) ↔ t.laterNanos s < Civil.endSeconds * 1000000000 := by
  simp only [inRange, Bool.and_eq_true, decide_eq_true_eq] at ht
  simp only [addSpan?, inRange, Span.toNanos_ofSeconds, Bool.and_eq_true, decide_eq_true_eq,
    Option.ite_none_right_eq_some, Option.some.injEq, exists_and_left, exists_eq', and_true,
    laterNanos]
  omega

theorem addSpan?_ofSeconds_later {t e : Instant} {s : Int} (h : t.addSpan? (Span.ofSeconds s) = some e) :
    e.nanos < 1000000000 ∧ (e.since t).toNanos = s * 1000000000 := by
  obtain ⟨hn, he⟩ := addSpan?_spec h
  refine ⟨hn, ?_⟩
  simp only [toNanos, Span.toNanos_ofSeconds, Nat.mod_eq_of_lt hn] at he
  rw [since_toNanos]
  omega

end Instant

namespace TokenGrant

/-- A lifetime that sets an expiry at `now`: absent, not positive, or held by a span and ending
before the calendar does. -/
def Fits (now : Instant) : Option Int → Prop
  | none => True
  | some s => s ≤ 0 ∨ (s ≤ Span.maxSeconds ∧ now.laterNanos s < Civil.endSeconds * 1000000000)

/-- The expiry a lifetime sets at `now`: none for an absent or non-positive lifetime, and for a
positive one an instant, not in a leap second, exactly that many seconds after `now`. -/
def Sets (now : Instant) : Option Int → Option Instant → Prop
  | some s, some t => 0 < s ∧ t.nanos < 1000000000 ∧ (t.since now).toNanos = s * 1000000000
  | some s, none => s ≤ 0
  | none, e => e = none

/-- Whether an error is one of the two overflows of moving an instant by a lifetime. -/
def IsTimeOverflow (e : SyncError) : Prop :=
  e = SyncError.spanOutOfRange ∨ e = SyncError.instantOutOfRange

variable {now : Instant} {l : Option Int}

theorem expiryAt_of_pos {s : Int} (hs : 0 < s) (hm : s ≤ Span.maxSeconds) :
    expiryAt now (some s) =
      match now.addSpan? (Span.ofSeconds s) with
      | some t => .ok (some t)
      | none => .error SyncError.instantOutOfRange := by
  have hs' : ¬s ≤ 0 := by omega
  simp only [expiryAt, hs', ↓reduceIte, Span.ofSeconds?_of_pos hs, hm]
  cases now.addSpan? (Span.ofSeconds s) <;> rfl

theorem expiryAt_ok_iff (hnow : now.inRange = true) : (∃ e, expiryAt now l = .ok e) ↔ Fits now l := by
  cases l with
  | none => simp [expiryAt, Fits, pure, Except.pure]
  | some s =>
    by_cases hs : s ≤ 0
    · simp [expiryAt, Fits, hs, pure, Except.pure]
    · have hpos : 0 < s := by omega
      by_cases hm : s ≤ Span.maxSeconds
      · rw [expiryAt_of_pos hpos hm]
        simp only [Fits, hs, hm, true_and, false_or, ← Instant.addSpan?_ofSeconds hnow hpos]
        cases now.addSpan? (Span.ofSeconds s) <;> simp
      · simp [expiryAt, Fits, hs, hm, Span.ofSeconds?_of_pos hpos, throw, throwThe,
          MonadExceptOf.throw]

theorem expiryAt_sets {e : Option Instant} (h : expiryAt now l = .ok e) : Sets now l e := by
  cases l with
  | none =>
    simp only [expiryAt] at h
    cases h
    rfl
  | some s =>
    by_cases hs : s ≤ 0
    · simp only [expiryAt, hs, ↓reduceIte] at h
      cases h
      exact hs
    · have hpos : 0 < s := by omega
      by_cases hm : s ≤ Span.maxSeconds
      · rw [expiryAt_of_pos hpos hm] at h
        cases hmove : now.addSpan? (Span.ofSeconds s) with
        | none => simp [hmove] at h
        | some t =>
          simp only [hmove, Except.ok.injEq] at h
          subst h
          exact ⟨hpos, Instant.addSpan?_ofSeconds_later hmove⟩
      · simp [expiryAt, hs, hm, Span.ofSeconds?_of_pos hpos, throw, throwThe,
          MonadExceptOf.throw] at h

theorem expiryAt_overflow {err : SyncError} (h : expiryAt now l = .error err) : IsTimeOverflow err := by
  cases l with
  | none => cases h
  | some s =>
    by_cases hs : s ≤ 0
    · simp [expiryAt, hs, pure, Except.pure] at h
    · have hpos : 0 < s := by omega
      by_cases hm : s ≤ Span.maxSeconds
      · rw [expiryAt_of_pos hpos hm] at h
        cases hmove : now.addSpan? (Span.ofSeconds s) with
        | none =>
          simp only [hmove, Except.error.injEq] at h
          exact .inr h.symm
        | some t => simp [hmove] at h
      · simp only [expiryAt, hs, ↓reduceIte, Span.ofSeconds?_of_pos hpos, hm] at h
        cases h
        exact .inl rfl

/-- The tokens a grant stores at `now`, for every grant and every instant of the calendar: the
update succeeds exactly when both lifetimes fit; it then carries the grant's tokens and the
expiry each lifetime sets, and otherwise it stops with one of the two time overflows. -/
theorem toUpdate_outcome (g : TokenGrant) (now : Instant) (hnow : now.inRange = true) :
    ((∃ u, g.toUpdate now = .ok u) ↔ Fits now g.expiresIn ∧ Fits now g.refreshTokenExpiresIn) ∧
    (∀ u, g.toUpdate now = .ok u →
      u.accessToken = g.accessToken ∧ u.refreshToken = g.refreshToken ∧
      Sets now g.expiresIn u.accessTokenExpiresAt ∧
      Sets now g.refreshTokenExpiresIn u.refreshTokenExpiresAt) ∧
    (∀ e, g.toUpdate now = .error e → IsTimeOverflow e) := by
  have hacc := expiryAt_ok_iff (l := g.expiresIn) hnow
  have href := expiryAt_ok_iff (l := g.refreshTokenExpiresIn) hnow
  rcases ha : expiryAt now g.expiresIn with ea | a <;>
    rcases hr : expiryAt now g.refreshTokenExpiresIn with er | r <;>
    simp only [ha, hr, reduceCtorEq, exists_const, false_iff, Except.ok.injEq, exists_eq',
      true_iff] at hacc href <;>
    simp only [toUpdate, ha, hr, bind, Except.bind, pure, Except.pure, reduceCtorEq, exists_const,
      false_iff, not_and, IsEmpty.forall_iff, implies_true, Except.error.injEq, forall_eq',
      Except.ok.injEq, exists_eq', true_iff, true_and, and_true]
  · exact ⟨fun h => absurd h hacc, expiryAt_overflow ha⟩
  · exact ⟨fun h => absurd h hacc, expiryAt_overflow ha⟩
  · exact ⟨fun _ => href, expiryAt_overflow hr⟩
  · exact ⟨⟨hacc, href⟩, expiryAt_sets ha, expiryAt_sets hr⟩

/-- A grant of an hour at 2024-05-01T12:00:00Z stores its token, expiring an hour later. -/
theorem toUpdate_outcome_hour_grant :
    Instant.inRange ⟨1714564800, 0⟩ = true ∧
    let g : TokenGrant := ⟨"A", none, some 3600, none, none⟩
    ((∃ u, g.toUpdate ⟨1714564800, 0⟩ = .ok u) ↔
        Fits ⟨1714564800, 0⟩ g.expiresIn ∧ Fits ⟨1714564800, 0⟩ g.refreshTokenExpiresIn) ∧
    (∀ u, g.toUpdate ⟨1714564800, 0⟩ = .ok u →
      u.accessToken = g.accessToken ∧ u.refreshToken = g.refreshToken ∧
      Sets ⟨1714564800, 0⟩ g.expiresIn u.accessTokenExpiresAt ∧
      Sets ⟨1714564800, 0⟩ g.refreshTokenExpiresIn u.refreshTokenExpiresAt) ∧
    (∀ e, g.toUpdate ⟨1714564800, 0⟩ = .error e → IsTimeOverflow e) :=
  ⟨by decide, toUpdate_outcome _ _ (by decide)⟩

/-- A lifetime of about 292,277 years, granted at 2024-05-01T12:00:00Z, is held by a span but
ends past the calendar, so the update stops with the calendar overflow. -/
theorem toUpdate_far_lifetime :
    (⟨"A", none, some 9223372036854, none, none⟩ : TokenGrant).toUpdate ⟨1714564800, 0⟩ =
      .error SyncError.instantOutOfRange := by
  rfl

end TokenGrant

end SellerSync
