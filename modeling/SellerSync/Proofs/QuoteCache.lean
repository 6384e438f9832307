import Mathlib
import SellerSync.Proofs.Rounding
import SellerSync.Proofs.LabelVerdicts
/-! What the quote cache keeps and serves, for every store, clock and provider. -/
namespace SellerSync

open SyncM Service

namespace Instant

/-! Instants compare by seconds and then by nanoseconds. Clock readings and moved instants hold
their nanoseconds below a second, and those compare as counts of nanoseconds. -/

theorem lt_iff {a b : Instant} :
    a.lt b = true ↔ a.seconds < b.seconds ∨ a.seconds = b.seconds ∧ a.nanos < b.nanos := by
  simp only [Instant.lt, Instant.compare]
  split
  next h => simp [compare_lt_iff_lt, compare_eq_iff_eq.1 h]
  next _ ho =>
    rcases lt_trichotomy a.seconds b.seconds with hl | he | hg
    · simp [compare_lt_iff_lt.2 hl, hl]
    · exact absurd (compare_eq_iff_eq.2 he) ho
    · simp only [compare_gt_iff_gt.2 hg, reduceCtorEq, beq_iff_eq, false_iff]
      omega

theorem le_iff {a b : Instant} :
    a.le b = true ↔ a.seconds < b.seconds ∨ a.seconds = b.seconds ∧ a.nanos ≤ b.nanos := by
  simp only [Instant.le, Instant.compare]
  split
  next h => simp [compare_gt_iff_gt, compare_eq_iff_eq.1 h]
  next _ ho =>
    rcases lt_trichotomy a.seconds b.seconds with hl | he | hg
    · simp [compare_lt_iff_lt.2 hl, hl]
    · exact absurd (compare_eq_iff_eq.2 he) ho
    · simp only [compare_gt_iff_gt.2 hg, bne_self_eq_false, Bool.false_eq_true, false_iff]
      omega

theorem lt_eq_false {a b : Instant} : a.lt b = false ↔ b.le a = true := by
  rw [← Bool.not_eq_true, lt_iff, le_iff]
  omega

theorem lt_asymm {a b : Instant} (h : a.lt b = true) : b.lt a = false := by
  rw [lt_iff] at h
  rw [← Bool.not_eq_true, lt_iff]
  omega

theorem lt_cotrans {a b c : Instant} (h : a.lt c = true) : a.lt b = true ∨ b.lt c = true := by
  rw [lt_iff] at h
  rw [lt_iff, lt_iff]
  omega

theorem lt_iff_toNanos {a b : Instant} (ha : a.nanos < 1000000000) (hb : b.nanos < 1000000000) :
    a.lt b = true ↔ a.toNanos < b.toNanos := by
  rw [lt_iff, toNanos, toNanos, Nat.mod_eq_of_lt ha, Nat.mod_eq_of_lt hb]
  omega

theorem addSpan?_spec {t e : Instant} {d : Span} (h : t.addSpan? d = some e) :
    e.nanos < 1000000000 ∧ e.toNanos = t.seconds * 1000000000 + t.nanos + d.toNanos := by
  simp only [addSpan?, Option.ite_none_right_eq_some, Option.some.injEq] at h
  obtain ⟨-, rfl⟩ := h
  simp only [toNanos]
  omega

end Instant

namespace Service

theorem readingOf_nanos (o : Instant) (n : Nat) : (readingOf o n).nanos < 1000000000 :=
  Nat.mod_lt _ (by norm_num)

theorem readingOf_toNanos (o : Instant) (n : Nat) :
    (readingOf o n).toNanos = o.seconds * 1000000000 + o.nanos + 1000 * n := by
  simp only [readingOf, Instant.toNanos]
  omega

theorem readingOf_addSpan? {o E : Instant} {d : Span} {k : Nat}
    (h : (readingOf o k).addSpan? d = some E) :
    E.nanos < 1000000000 ∧ E.toNanos = (readingOf o k).toNanos + d.toNanos := by
  obtain ⟨hn, hE⟩ := Instant.addSpan?_spec h
  refine ⟨hn, ?_⟩
  rw [hE, Instant.toNanos, Nat.mod_eq_of_lt (readingOf_nanos o k)]

theorem readingOf_addSpan?_ge {o E : Instant} {d : Span} {k k' : Nat} (hk : k ≤ k')
    (h : (readingOf o k').addSpan? d = some E) : (readingOf o k).toNanos + d.toNanos ≤ E.toNanos := by
  rw [(readingOf_addSpan? h).2, readingOf_toNanos, readingOf_toNanos]
  omega

end Service

namespace SyncM

/-- A call leaves the store, the clock and the ids handed out as it found them; it may put
requests on the network and wait. -/
def KeepsStore (x : SyncM α) : Prop :=
  ∀ c σ, ((x.run c).run.run σ).2.store = σ.store ∧ ((x.run c).run.run σ).2.readings = σ.readings ∧
    ((x.run c).run.run σ).2.issued = σ.issued

theorem run_bind {α β : Type} (x : SyncM α) (f : α → SyncM β) (c : Context) (σ : Service) :
    ((x >>= f).run c).run.run σ =
      match (x.run c).run.run σ with
      | (.ok a, σ') => ((f a).run c).run.run σ'
      | (.error e, σ') => (.error e, σ') := by
  simp only [ReaderT.run, ExceptT.run, StateT.run]
  show (x c >>= _) σ = _
  simp only [bind, ExceptT.bind, ExceptT.mk, StateT.bind]
  rcases x c σ with ⟨r, σ'⟩
  cases r <;> rfl

/-! The primitive calls as runs. -/

variable (c : Context) (σ : Service)

@[simp] theorem now_run :
    ((now.run c).run.run σ) =
      (.ok (readingOf c.origin (σ.readings+1)), { σ with readings := σ.readings+1 }) := rfl

@[simp] theorem read_run : (((read : SyncM Context).run c).run.run σ) = (.ok c, σ) := rfl

@[simp] theorem freshId_run :
    ((freshId.run c).run.run σ) = (.ok (idOf (σ.issued+1)), { σ with issued := σ.issued+1 }) := rfl

@[simp] theorem onStore_run {α : Type} (f : Store → α × Store) :
    (((onStore f).run c).run.run σ) = (.ok (f σ.store).1, { σ with store := (f σ.store).2 }) := rfl

@[simp] theorem fail_run {α : Type} (e : SyncError) :
    (((fail e : SyncM α).run c).run.run σ) = (.error e, σ) := rfl

end SyncM

/-! The window of bands a lookup accepts. -/

namespace QuoteCache

theorem tolerance_eq : tolerance = ⟨0x3FD0000000000000⟩ := by decide +kernel

theorem bandSlack_eq : Store.bandSlack = ⟨0x3E112E0BE826D695⟩ := by decide +kernel

theorem tolerance_isFinite : tolerance.isFinite = true := by rw [tolerance_eq]; decide

theorem bandSlack_isFinite : Store.bandSlack.isFinite = true := by rw [bandSlack_eq]; decide

theorem tolerance_nonneg : 0 ≤ tolerance.toRat :=
  Binary64.toRat_nonneg (by rw [tolerance_eq]; decide)

theorem bandSlack_nonneg : 0 ≤ Store.bandSlack.toRat :=
  Binary64.toRat_nonneg (by rw [bandSlack_eq]; decide)

end QuoteCache

theorem Rates.weightBand_isNaN (w : Binary64) : (Rates.weightBand w).isNaN = false := by
  unfold Rates.weightBand
  split
  · exact Binary64.isNaN_of_isFinite (Binary64.zero_isFinite false)
  · have hd := Binary64.den_pos w
    rcases hw : w.toRatio with ⟨neg, num, den⟩
    rw [hw] at hd
    simp only
    split
    · exact Binary64.infinity_isNaN neg
    · exact Binary64.ofRatio_isNaN neg (by omega)

namespace QuoteRequest

/-- The lowest band a lookup for the request accepts: its band less the tolerance, less the
slack. -/
def low (r : QuoteRequest) : Binary64 := (r.key.2.2.sub QuoteCache.tolerance).sub Store.bandSlack

/-- The highest band a lookup for the request accepts. -/
def high (r : QuoteRequest) : Binary64 := (r.key.2.2.add QuoteCache.tolerance).add Store.bandSlack

theorem band_mem_window (r : QuoteRequest) : r.low.le r.key.2.2 = true ∧ r.key.2.2.le r.high = true :=
  Binary64.mem_window (Rates.weightBand_isNaN _) QuoteCache.tolerance_isFinite
    QuoteCache.bandSlack_isFinite QuoteCache.tolerance_nonneg QuoteCache.bandSlack_nonneg

theorem mem_window_of_eqValue (r : QuoteRequest) {b : Binary64} (h : b.eqValue r.key.2.2 = true) :
    r.low.le b = true ∧ b.le r.high = true := by
  simp only [Binary64.eqValue, Bool.and_eq_true] at h
  obtain ⟨hlow, hhigh⟩ := r.band_mem_window
  exact ⟨Binary64.le_trans hlow h.2, Binary64.le_trans h.1 hhigh⟩

end QuoteRequest

/-! What a lookup answers. -/

/-- A kept quote answers a request at `now`: the same lowercased city and state and item count,
a band within the request's window, and no expiry at or before `now`. -/
def CachedQuote.Answers (q : CachedQuote) (r : QuoteRequest) (now : Instant) : Prop :=
  q.cityLower = r.key.1 ∧ q.stateLower = r.key.2.1 ∧ q.itemCount = r.itemCount ∧
    r.low.le q.weightBand = true ∧ q.weightBand.le r.high = true ∧ q.expiresAt.all now.lt = true

instance (q : CachedQuote) (r : QuoteRequest) (now : Instant) : Decidable (q.Answers r now) :=
  inferInstanceAs (Decidable (_ ∧ _ ∧ _ ∧ _ ∧ _ ∧ _))

/-- The most recently updated of the kept quotes that answer a request at `now`. -/
def Store.LatestAnswer (s : Store) (r : QuoteRequest) (now : Instant) (q : CachedQuote) : Prop :=
  q ∈ s.quotes ∧ q.Answers r now ∧
    ∀ q' ∈ s.quotes, q'.Answers r now → q'.updatedAt.le q.updatedAt = true

namespace QuoteCache

/-- What a lookup for a request at `now` finds in a store. -/
def answer (s : Store) (r : QuoteRequest) (now : Instant) : Option CachedQuote :=
  s.findQuote r.key.1 r.key.2.1 r.itemCount (r.key.2.2.sub tolerance) (r.key.2.2.add tolerance) now

theorem answer_eq (s : Store) (r : QuoteRequest) (now : Instant) :
    answer s r now = Rows.latest (fun a b => Instant.lt a.updatedAt b.updatedAt)
      (s.quotes.filter fun q => decide (q.Answers r now)) := by
  simp only [answer, Store.findQuote]
  refine congrArg _ (List.filter_congr fun q _ => ?_)
  simp only [CachedQuote.Answers, QuoteRequest.low, QuoteRequest.high]
  split <;> simp [*, Bool.and_assoc, Bool.beq_eq_decide_eq]

theorem answer_eq_none {s : Store} {r : QuoteRequest} {now : Instant} :
    answer s r now = none ↔ ∀ q ∈ s.quotes, ¬ q.Answers r now := by
  rw [answer_eq, Rows.latest_eq_none, List.filter_eq_nil_iff]
  simp

theorem answer_latest {s : Store} {r : QuoteRequest} {now : Instant} {q : CachedQuote}
    (h : answer s r now = some q) : s.LatestAnswer r now q := by
  rw [answer_eq] at h
  have hasymm : ∀ a b : CachedQuote, a.updatedAt.lt b.updatedAt = true →
      b.updatedAt.lt a.updatedAt = false := fun _ _ => Instant.lt_asymm
  have hco : ∀ a b d : CachedQuote, a.updatedAt.lt d.updatedAt = true →
      a.updatedAt.lt b.updatedAt = true ∨ b.updatedAt.lt d.updatedAt = true :=
    fun _ _ _ => Instant.lt_cotrans
  obtain ⟨hq, hlast⟩ := Rows.latest_spec hasymm hco h
  rw [List.mem_filter, decide_eq_true_iff] at hq
  refine ⟨hq.1, hq.2, fun q' hq' ha => ?_⟩
  exact Instant.lt_eq_false.1 (hlast q' (List.mem_filter.2 ⟨hq', decide_eq_true ha⟩))

/-! Runs of the cache's calls, each from any state. -/

variable (c : Context) (σ : Service) (r : QuoteRequest)

theorem lookup_run :
    ((lookup r).run c).run.run σ =
      (.ok (answer σ.store r (readingOf c.origin (σ.readings+1))),
        { σ with readings := σ.readings+1 }) := rfl

theorem cachedOnly_run :
    ((cachedOnly r).run c).run.run σ =
      (match answer σ.store r (readingOf c.origin (σ.readings+1)) with
        | some q => .ok q
        | none => .error .noCachedQuote, { σ with readings := σ.readings+1 }) := by
  rw [cachedOnly, run_bind, lookup_run]
  cases answer σ.store r (readingOf c.origin (σ.readings+1)) <;> rfl

theorem getOrCreate_run_hit {fetch : SyncM FetchedQuote} {q : CachedQuote}
    (h : answer σ.store r (readingOf c.origin (σ.readings+1)) = some q) :
    ((getOrCreate r fetch).run c).run.run σ = (.ok (q, false), { σ with readings := σ.readings+1 }) := by
  rw [getOrCreate, run_bind, lookup_run, h]
  rfl

theorem getOrCreate_run_miss {fetch : SyncM FetchedQuote}
    (h : answer σ.store r (readingOf c.origin (σ.readings+1)) = none) :
    ((getOrCreate r fetch).run c).run.run σ =
      (((do let q ← keep r (← fetch); pure (q, true)) : SyncM (CachedQuote × Bool)).run c).run.run
        { σ with readings := σ.readings+1 } := by
  rw [getOrCreate, run_bind, lookup_run, h]

theorem keep_run_none (f : FetchedQuote)
    (h : (readingOf c.origin (σ.readings+1)).addSpan? c.quoteTtl = none) :
    ((keep r f).run c).run.run σ = (.error .instantOutOfRange, { σ with readings := σ.readings+1 }) := by
  simp only [keep, run_bind, now_run, read_run, h, fail_run]

theorem keep_run_some (f : FetchedQuote) {E : Instant}
    (h : (readingOf c.origin (σ.readings+1)).addSpan? c.quoteTtl = some E) :
    ((keep r f).run c).run.run σ =
      let q := row r f (idOf (σ.issued+1)) (readingOf c.origin (σ.readings+1)) E
      (.ok (σ.store.upsertQuote q).1,
        { σ with store := (σ.store.upsertQuote q).2, readings := σ.readings+1,
                 issued := σ.issued+1 }) := by
  simp only [keep, run_bind, now_run, read_run, h, freshId_run, onStore_run]

theorem fetch_leaves {fetch : SyncM FetchedQuote} (hks : fetch.KeepsStore)
    {res : Except SyncError FetchedQuote} {σf : Service}
    (hf : (fetch.run c).run.run { σ with readings := σ.readings+1 } = (res, σf)) :
    σf.store = σ.store ∧ σf.readings = σ.readings+1 ∧ σf.issued = σ.issued := by
  have hk := hks c { σ with readings := σ.readings+1 }
  simpa only [hf] using hk

/-! After a miss. -/

section Miss

variable {c σ r} {fetch : SyncM FetchedQuote}

variable (hmiss : answer σ.store r (readingOf c.origin (σ.readings+1)) = none)
include hmiss

theorem getOrCreate_run_fails {e : SyncError} {σ' : Service}
    (hf : (fetch.run c).run.run { σ with readings := σ.readings+1 } = (.error e, σ')) :
    ((getOrCreate r fetch).run c).run.run σ = (.error e, σ') := by
  rw [getOrCreate_run_miss c σ r hmiss, run_bind, hf]

variable (hks : fetch.KeepsStore)
include hks

theorem getOrCreate_run_kept {f : FetchedQuote} {σf : Service} {E : Instant}
    (hf : (fetch.run c).run.run { σ with readings := σ.readings+1 } = (.ok f, σf))
    (hE : (readingOf c.origin (σ.readings+2)).addSpan? c.quoteTtl = some E) :
    ((getOrCreate r fetch).run c).run.run σ =
      let q := row r f (idOf (σ.issued+1)) (readingOf c.origin (σ.readings+2)) E
      (.ok ((σ.store.upsertQuote q).1, true),
        { σf with store := (σ.store.upsertQuote q).2, readings := σ.readings+2,
                  issued := σ.issued+1 }) := by
  obtain ⟨hs, hr, hi⟩ := fetch_leaves c σ hks hf
  rw [getOrCreate_run_miss c σ r hmiss, run_bind, hf]
  simp only [run_bind]
  rw [keep_run_some c σf r f (by rw [hr]; exact hE), hs, hr, hi]
  rfl

theorem getOrCreate_run_late {f : FetchedQuote} {σf : Service}
    (hf : (fetch.run c).run.run { σ with readings := σ.readings+1 } = (.ok f, σf))
    (hE : (readingOf c.origin (σ.readings+2)).addSpan? c.quoteTtl = none) :
    ((getOrCreate r fetch).run c).run.run σ =
      (.error .instantOutOfRange, { σf with readings := σ.readings+2 }) := by
  obtain ⟨-, hr, -⟩ := fetch_leaves c σ hks hf
  rw [getOrCreate_run_miss c σ r hmiss, run_bind, hf]
  simp only [run_bind]
  rw [keep_run_none c σf r f (by rw [hr]; exact hE), hr]

end Miss

theorem getOrCreate_cases {fetch : SyncM FetchedQuote} (hks : fetch.KeepsStore) :
    (∃ q, answer σ.store r (readingOf c.origin (σ.readings+1)) = some q ∧
      ((getOrCreate r fetch).run c).run.run σ = (.ok (q, false), { σ with readings := σ.readings+1 })) ∨
    (∃ e σ', ((getOrCreate r fetch).run c).run.run σ = (.error e, σ') ∧ σ'.store = σ.store ∧
      σ'.issued = σ.issued ∧ (σ'.readings = σ.readings+1 ∨ σ'.readings = σ.readings+2)) ∨
    ∃ (f : FetchedQuote) (σf : Service) (E : Instant), answer σ.store r (readingOf c.origin (σ.readings+1)) = none ∧
      (readingOf c.origin (σ.readings+2)).addSpan? c.quoteTtl = some E ∧
      ((getOrCreate r fetch).run c).run.run σ =
        let q := row r f (idOf (σ.issued+1)) (readingOf c.origin (σ.readings+2)) E
        (.ok ((σ.store.upsertQuote q).1, true),
          { σf with store := (σ.store.upsertQuote q).2, readings := σ.readings+2,
                    issued := σ.issued+1 }) := by
  cases hans : answer σ.store r (readingOf c.origin (σ.readings+1)) with
  | some q => exact .inl ⟨q, rfl, getOrCreate_run_hit c σ r hans⟩
  | none =>
    rcases hf : (fetch.run c).run.run { σ with readings := σ.readings+1 } with ⟨res, σf⟩
    obtain ⟨hs, hr, hi⟩ := fetch_leaves c σ hks hf
    cases res with
    | error e => exact .inr (.inl ⟨e, σf, getOrCreate_run_fails hans hf, hs, hi, .inl hr⟩)
    | ok f =>
      cases hE : (readingOf c.origin (σ.readings+2)).addSpan? c.quoteTtl with
      | none => exact .inr (.inl ⟨_, _, getOrCreate_run_late hans hks hf hE, hs, hi, .inr rfl⟩)
      | some E => exact .inr (.inr ⟨f, σf, E, rfl, rfl, getOrCreate_run_kept hans hks hf hE⟩)

end QuoteCache

namespace Store

variable {s : Store} {q y : CachedQuote}

theorem upsertQuote_fst (s : Store) (q : CachedQuote) :
    (s.upsertQuote q).1 = { q with id := (s.upsertQuote q).1.id } := by
  simp only [upsertQuote]
  split <;> rfl

theorem upsertQuote_snd (s : Store) (q : CachedQuote) :
    (s.upsertQuote q).2 = { s with quotes := (s.upsertQuote q).2.quotes } := rfl

theorem mem_upsertQuote (s : Store) (q : CachedQuote) :
    (s.upsertQuote q).1 ∈ (s.upsertQuote q).2.quotes :=
  Rows.mem_put _ _ _

theorem mem_upsertQuote_iff (hk : Rows.Keyed (·.id) CachedQuote.SameKey s.quotes)
    (hfresh : ∀ x ∈ s.quotes, x.id ≠ q.id) :
    y ∈ (s.upsertQuote q).2.quotes ↔ y = (s.upsertQuote q).1 ∨ (y ∈ s.quotes ∧ ¬ y.SameKey q) := by
  have hq : ∀ x : CachedQuote, _ ↔ x.SameKey q := fun _ => CachedQuote.sameKey_iff
  simp only [upsertQuote]
  split
  next e he =>
    have he_mem := List.mem_of_find?_eq_some he
    have hpe := List.find?_some he
    have hek : e.SameKey q := (hq e).1 hpe
    have hout := hk.not_rel_of_find? CachedQuote.SameKey.symm CachedQuote.SameKey.trans hq he
    rw [Rows.mem_put_iff (x := { q with id := e.id }) hk.1 (fun _ => beq_iff_eq) ⟨e, he_mem, rfl⟩]
    constructor
    · rintro (rfl | ⟨hy, hne⟩)
      · exact .inl rfl
      · exact .inr ⟨hy, hout y hy hne⟩
    · rintro (rfl | ⟨hy, hns⟩)
      · exact .inl rfl
      · refine .inr ⟨hy, fun hid => hns ?_⟩
        rw [hk.eq_of_mem hy he_mem hid]
        exact hek
  next he =>
    have hnone : s.quotes.find? (·.id == q.id) = none :=
      List.find?_eq_none.2 fun x hx => by simpa using hfresh x hx
    have hns : ∀ x ∈ s.quotes, ¬ x.SameKey q := fun x hx hxq =>
      List.find?_eq_none.1 he x hx ((hq x).2 hxq)
    rw [Rows.put_of_none _ _ _ hnone, List.mem_append, List.mem_singleton]
    constructor
    · rintro (hy | rfl)
      · exact .inr ⟨hy, hns y hy⟩
      · exact .inl rfl
    · rintro (rfl | ⟨hy, -⟩)
      · exact .inr rfl
      · exact .inl hy

end Store

/-! Sequences of calls on the cache. -/

/-- A call on the quote cache: a lookup alone, or a lookup that asks `fetch` on a miss. -/
inductive CacheCall where
  | cachedOnly (request : QuoteRequest)
  | getOrCreate (request : QuoteRequest) (fetch : SyncM FetchedQuote)

namespace CacheCall

/-- The service after a call, whether it succeeds or fails. -/
def apply (c : Context) : CacheCall → Service → Service
  | cachedOnly r, σ => (((QuoteCache.cachedOnly r).run c).run.run σ).2
  | getOrCreate r fetch, σ => (((QuoteCache.getOrCreate r fetch).run c).run.run σ).2

/-- The provider call of a cache call keeps the store, the clock and the ids. -/
def KeepsStore : CacheCall → Prop
  | cachedOnly _ => True
  | getOrCreate _ fetch => fetch.KeepsStore

/-- The service after calls one after another. -/
def applyAll (c : Context) (calls : List CacheCall) (σ : Service) : Service :=
  calls.foldl (fun σ call => call.apply c σ) σ

variable {call : CacheCall} (c : Context) (σ : Service)

theorem apply_cases (hks : call.KeepsStore) :
    ((call.apply c σ).store = σ.store ∧ (call.apply c σ).issued = σ.issued ∧
      ((call.apply c σ).readings = σ.readings+1 ∨ (call.apply c σ).readings = σ.readings+2)) ∨
    ∃ r f E, (readingOf c.origin (σ.readings+2)).addSpan? c.quoteTtl = some E ∧
      (call.apply c σ).store = (σ.store.upsertQuote (QuoteCache.row r f (idOf (σ.issued+1))
        (readingOf c.origin (σ.readings+2)) E)).2 ∧
      (call.apply c σ).readings = σ.readings+2 ∧ (call.apply c σ).issued = σ.issued+1 := by
  cases call with
  | cachedOnly r =>
    left
    simp [apply, QuoteCache.cachedOnly_run]
  | getOrCreate r fetch =>
    simp only [apply]
    rcases QuoteCache.getOrCreate_cases c σ r hks with
      ⟨q, -, h⟩ | ⟨e, σ', h, hs, hi, hr⟩ | ⟨f, σf, E, -, hE, h⟩ <;> rw [h]
    · exact .inl ⟨rfl, rfl, .inl rfl⟩
    · exact .inl ⟨hs, hi, hr⟩
    · exact .inr ⟨r, f, E, hE, rfl, rfl, rfl⟩

theorem le_apply (hks : call.KeepsStore) :
    σ.readings ≤ (call.apply c σ).readings ∧ σ.issued ≤ (call.apply c σ).issued := by
  rcases apply_cases c σ hks with ⟨-, hi, hr | hr⟩ | ⟨r, f, E, -, -, hr, hi⟩ <;> omega

theorem apply_good (hks : call.KeepsStore) {N : Nat} (hσ : σ.Good N) : (call.apply c σ).Good N := by
  show (call.apply c σ).store.SoundUpTo N (call.apply c σ).issued
  rcases apply_cases c σ hks with ⟨hs, hi, -⟩ | ⟨r, f, E, -, hs, -, hi⟩ <;> rw [hs, hi]
  · exact hσ
  · exact Store.SoundUpTo.upsertQuote hσ rfl

theorem issued_le_applyAll {calls : List CacheCall} (hks : ∀ call ∈ calls, call.KeepsStore) :
    σ.issued ≤ (applyAll c calls σ).issued := by
  induction calls generalizing σ with
  | nil => exact le_rfl
  | cons call calls ih =>
    exact ((le_apply c σ (hks call (List.mem_cons_self ..))).2).trans
      (ih _ fun x hx => hks x (List.mem_cons_of_mem _ hx))

end CacheCall

/-- Services reached from a reachable one by calls on its quote cache whose provider calls keep
the store, the clock and the ids. -/
inductive CacheReachable (c : Context) : Service → Prop
  | reachable {σ : Service} : Reachable σ → CacheReachable c σ
  | call {σ : Service} (call : CacheCall) : call.KeepsStore → CacheReachable c σ →
      CacheReachable c (call.apply c σ)

theorem CacheReachable.good {c : Context} {σ : Service} (h : CacheReachable c σ) (N : Nat) :
    σ.Good N := by
  induction h with
  | reachable h => exact Reachable.good N h
  | call call hks _ ih => exact call.apply_good c _ hks ih

/-! A kept quote serves its key until it expires. -/

theorem QuoteRequest.band_eqValue_self (r : QuoteRequest) : r.key.2.2.eqValue r.key.2.2 = true := by
  have h : r.key.2.2.le r.key.2.2 = true := Binary64.le_refl_of_isNaN (Rates.weightBand_isNaN _)
  simp [Binary64.eqValue, h]

/-- The store keeps a quote under the key of `r`, bands equal as numbers, that is good at least
until the cache's lifetime after the `k`-th clock reading. -/
def Store.KeepsFor (s : Store) (c : Context) (r : QuoteRequest) (k : Nat) : Prop :=
  ∃ q ∈ s.quotes, q.cityLower = r.key.1 ∧ q.stateLower = r.key.2.1 ∧
    q.itemCount = r.itemCount ∧ q.weightBand.eqValue r.key.2.2 = true ∧
    ∃ e, q.expiresAt = some e ∧ e.nanos < 1000000000 ∧
      (readingOf c.origin k).toNanos + c.quoteTtl.toNanos ≤ e.toNanos

namespace Store.KeepsFor

variable {s : Store} {c : Context} {r r' : QuoteRequest} {k k' : Nat} {f : FetchedQuote}
  {u : Uuid} {E : Instant}

theorem of_upsert_row (s : Store) (hE : (readingOf c.origin k).addSpan? c.quoteTtl = some E) :
    (s.upsertQuote (QuoteCache.row r f u (readingOf c.origin k) E)).2.KeepsFor c r k := by
  refine ⟨_, Store.mem_upsertQuote _ _, ?_⟩
  rw [Store.upsertQuote_fst]
  exact ⟨rfl, rfl, rfl, r.band_eqValue_self, E, rfl, (readingOf_addSpan? hE).1,
    readingOf_addSpan?_ge le_rfl hE⟩

theorem upsert_row (h : s.KeepsFor c r k) (hk : Rows.Keyed (·.id) CachedQuote.SameKey s.quotes)
    (hfresh : ∀ x ∈ s.quotes, x.id ≠ u) (hkk : k ≤ k')
    (hE : (readingOf c.origin k').addSpan? c.quoteTtl = some E) :
    (s.upsertQuote (QuoteCache.row r' f u (readingOf c.origin k') E)).2.KeepsFor c r k := by
  obtain ⟨q, hq, hcity, hstate, hcount, hband, e, hexp, hen, hle⟩ := h
  by_cases hsame : q.SameKey (QuoteCache.row r' f u (readingOf c.origin k') E)
  · -- the kept quote gives way to the new one, which has its key and lives longer
    refine ⟨_, Store.mem_upsertQuote _ _, ?_⟩
    rw [Store.upsertQuote_fst]
    obtain ⟨hc, hs, hb, hn⟩ := hsame
    exact ⟨hc.symm.trans hcity, hs.symm.trans hstate, hn.symm.trans hcount,
      Binary64.eqValue_trans (Binary64.eqValue_symm hb) hband, E, rfl,
      (readingOf_addSpan? hE).1, readingOf_addSpan?_ge hkk hE⟩
  · exact ⟨q, (Store.mem_upsertQuote_iff hk hfresh).2 (.inr ⟨hq, hsame⟩), hcity, hstate, hcount,
      hband, e, hexp, hen, hle⟩

theorem answers (h : s.KeepsFor c r k)
    (hkey : r'.key.1 = r.key.1 ∧ r'.key.2.1 = r.key.2.1 ∧ r'.itemCount = r.itemCount ∧
      r'.key.2.2.eqValue r.key.2.2 = true)
    (hE : (readingOf c.origin k).addSpan? c.quoteTtl = some E) {n : Nat}
    (hlt : (readingOf c.origin n).lt E = true) :
    ∃ q ∈ s.quotes, q.Answers r' (readingOf c.origin n) := by
  obtain ⟨q, hq, hcity, hstate, hcount, hband, e, hexp, hen, hle⟩ := h
  obtain ⟨hcity', hstate', hcount', hband'⟩ := hkey
  have hwin := r'.mem_window_of_eqValue
    (Binary64.eqValue_trans hband (Binary64.eqValue_symm hband'))
  have hE' := readingOf_addSpan? hE
  rw [Instant.lt_iff_toNanos (readingOf_nanos _ _) hE'.1] at hlt
  have hexp' : (readingOf c.origin n).lt e = true := by
    rw [Instant.lt_iff_toNanos (readingOf_nanos _ _) hen]
    omega
  exact ⟨q, hq, hcity.trans hcity'.symm, hstate.trans hstate'.symm, hcount.trans hcount'.symm,
    hwin.1, hwin.2, by simpa [hexp] using hexp'⟩

end Store.KeepsFor

namespace CacheCall

variable {call : CacheCall} {c : Context} {σ : Service} {r : QuoteRequest} {k : Nat}

theorem keepsFor_apply (hks : call.KeepsStore) {N : Nat} (hd : Distinct N) (hσ : σ.Good N)
    (hN : (call.apply c σ).issued ≤ N) (hk : k ≤ σ.readings+2) (h : σ.store.KeepsFor c r k) :
    (call.apply c σ).store.KeepsFor c r k := by
  rcases apply_cases c σ hks with ⟨hs, -, -⟩ | ⟨r', f, E, hE, hs, -, hi⟩ <;> rw [hs]
  · exact h
  · -- the id is new: the store is sound and the next id is not in it
    have hn : σ.issued+1 ≤ N := hi ▸ hN
    have hsd := hσ hd (by omega)
    exact h.upsert_row hsd.keyed.quotes
      (fun x hx => Issued.ne_next hd hn (hsd.issued.quotes x hx)) hk hE

theorem keepsFor_applyAll {calls : List CacheCall} (hks : ∀ call ∈ calls, call.KeepsStore)
    {N : Nat} (hd : Distinct N) (hσ : σ.Good N) (hN : (applyAll c calls σ).issued ≤ N)
    (hk : k ≤ σ.readings) (h : σ.store.KeepsFor c r k) : (applyAll c calls σ).store.KeepsFor c r k := by
  induction calls generalizing σ with
  | nil => exact h
  | cons call calls ih =>
    have hks₁ := hks call (List.mem_cons_self ..)
    have hrest : ∀ x ∈ calls, x.KeepsStore := fun x hx => hks x (List.mem_cons_of_mem _ hx)
    have hle := le_apply c σ hks₁
    have hN₁ := (issued_le_applyAll c (call.apply c σ) hrest).trans hN
    exact ih hrest (apply_good c σ hks₁ hσ) hN (hk.trans hle.1)
      (keepsFor_apply hks₁ hd hσ hN₁ (by omega) h)

end CacheCall

namespace QuoteCache

variable {c : Context} {σ σ₁ : Service} {r : QuoteRequest} {fetch : SyncM FetchedQuote}
  {q : CachedQuote}

theorem keepsFor_of_getOrCreate (hks : fetch.KeepsStore)
    (h : ((getOrCreate r fetch).run c).run.run σ = (.ok (q, true), σ₁)) :
    σ₁.store.KeepsFor c r σ₁.readings := by
  rcases getOrCreate_cases c σ r hks with ⟨q', -, h'⟩ | ⟨e, σ', h', -⟩ | ⟨f, σf, E, -, hE, h'⟩ <;>
    rw [h'] at h
  · cases (Prod.mk.inj h).1
  · cases (Prod.mk.inj h).1
  · rw [← (Prod.mk.inj h).2]
    exact Store.KeepsFor.of_upsert_row σ.store hE

/-! Each call from any state, as the cache promises it. -/

variable (c σ r)

theorem cachedOnly_spec :
    ∃ res, ((cachedOnly r).run c).run.run σ = (res, { σ with readings := σ.readings+1 }) ∧
      ((res = .error .noCachedQuote ∧
          ∀ q ∈ σ.store.quotes, ¬ q.Answers r (readingOf c.origin (σ.readings+1))) ∨
        ∃ q, res = .ok q ∧ σ.store.LatestAnswer r (readingOf c.origin (σ.readings+1)) q) := by
  rw [cachedOnly_run]
  cases h : answer σ.store r (readingOf c.origin (σ.readings+1)) with
  | none => exact ⟨_, rfl, .inl ⟨rfl, answer_eq_none.1 h⟩⟩
  | some q => exact ⟨_, rfl, .inr ⟨q, rfl, answer_latest h⟩⟩

variable {c σ r}

theorem cachedOnly_run_ok {σ' : Service} (h : ((cachedOnly r).run c).run.run σ = (.ok q, σ')) :
    answer σ.store r (readingOf c.origin (σ.readings+1)) = some q ∧
      σ' = { σ with readings := σ.readings+1 } := by
  rw [cachedOnly_run] at h
  cases hans : answer σ.store r (readingOf c.origin (σ.readings+1)) with
  | none =>
    rw [hans] at h
    cases (Prod.mk.inj h).1
  | some q' =>
    rw [hans] at h
    obtain ⟨h1, h2⟩ := Prod.mk.inj h
    cases h1
    exact ⟨rfl, h2.symm⟩

theorem cachedOnly_run_error {e : SyncError} {σ' : Service}
    (h : ((cachedOnly r).run c).run.run σ = (.error e, σ')) :
    answer σ.store r (readingOf c.origin (σ.readings+1)) = none ∧ e = .noCachedQuote ∧
      σ' = { σ with readings := σ.readings+1 } := by
  rw [cachedOnly_run] at h
  cases hans : answer σ.store r (readingOf c.origin (σ.readings+1)) with
  | some q' =>
    rw [hans] at h
    cases (Prod.mk.inj h).1
  | none =>
    rw [hans] at h
    obtain ⟨h1, h2⟩ := Prod.mk.inj h
    cases h1
    exact ⟨rfl, rfl, h2.symm⟩

theorem getOrCreate_of_hit {σ' : Service} (h : ((cachedOnly r).run c).run.run σ = (.ok q, σ')) :
    ((getOrCreate r fetch).run c).run.run σ = (.ok (q, false), σ') := by
  obtain ⟨hans, rfl⟩ := cachedOnly_run_ok h
  exact getOrCreate_run_hit c σ r hans

theorem getOrCreate_of_miss {e : SyncError} {σ' : Service}
    (h : ((cachedOnly r).run c).run.run σ = (.error e, σ')) :
    ((getOrCreate r fetch).run c).run.run σ =
      (((do let q ← keep r (← fetch); pure (q, true)) : SyncM (CachedQuote × Bool)).run c).run.run
        σ' := by
  obtain ⟨hans, -, rfl⟩ := cachedOnly_run_error h
  exact getOrCreate_run_miss c σ r hans

theorem getOrCreate_error_store (hks : fetch.KeepsStore) {e : SyncError} {σ' : Service}
    (h : ((getOrCreate r fetch).run c).run.run σ = (.error e, σ')) : σ'.store = σ.store := by
  rcases getOrCreate_cases c σ r hks with ⟨q', -, h'⟩ | ⟨e', σ'', h', hs, -⟩ | ⟨f, σf, E, -, -, h'⟩ <;>
    rw [h'] at h
  · cases (Prod.mk.inj h).1
  · rw [← (Prod.mk.inj h).2, hs]
  · cases (Prod.mk.inj h).1

theorem getOrCreate_fetch_error {e : SyncError} {σ' σ'' : Service}
    (h : ((cachedOnly r).run c).run.run σ = (.error .noCachedQuote, σ'))
    (hf : (fetch.run c).run.run σ' = (.error e, σ'')) :
    ((getOrCreate r fetch).run c).run.run σ = (.error e, σ'') := by
  obtain ⟨hans, -, rfl⟩ := cachedOnly_run_error h
  exact getOrCreate_run_fails hans hf

theorem getOrCreate_keeps {N : Nat} (hd : Distinct N) (hσ : σ.Good N) (hn : σ.issued < N)
    (hks : fetch.KeepsStore) {σ' σf : Service} {f : FetchedQuote} {E : Instant}
    (h : ((cachedOnly r).run c).run.run σ = (.error .noCachedQuote, σ'))
    (hf : (fetch.run c).run.run σ' = (.ok f, σf))
    (hE : (readingOf c.origin (σ.readings+2)).addSpan? c.quoteTtl = some E) :
    ∃ q quotes, ((getOrCreate r fetch).run c).run.run σ =
        (.ok (q, true), { σf with store := { σ.store with quotes }, readings := σ.readings+2,
                                  issued := σ.issued+1 }) ∧
      q = row r f q.id (readingOf c.origin (σ.readings+2)) E ∧
      ∀ y, y ∈ quotes ↔ y = q ∨ (y ∈ σ.store.quotes ∧ ¬ y.SameKey q) := by
  obtain ⟨hans, -, rfl⟩ := cachedOnly_run_error h
  have hs := hσ hd (by omega)
  have hfresh : ∀ x ∈ σ.store.quotes, x.id ≠ idOf (σ.issued+1) :=
    fun x hx => Issued.ne_next hd hn (hs.issued.quotes x hx)
  let q₀ := row r f (idOf (σ.issued+1)) (readingOf c.origin (σ.readings+2)) E
  refine ⟨(σ.store.upsertQuote q₀).1, (σ.store.upsertQuote q₀).2.quotes,
    getOrCreate_run_kept hans hks hf hE, Store.upsertQuote_fst _ _, fun y => ?_⟩
  rw [Store.mem_upsertQuote_iff hs.keyed.quotes hfresh, Store.upsertQuote_fst]
  exact Iff.rfl

theorem getOrCreate_hits_until_expiry {N : Nat} (hd : Distinct N) (hσ : σ.Good N)
    (hks : fetch.KeepsStore) (h : ((getOrCreate r fetch).run c).run.run σ = (.ok (q, true), σ₁))
    {calls : List CacheCall} (hcalls : ∀ call ∈ calls, call.KeepsStore) {σ₂ : Service}
    (hσ₂ : CacheCall.applyAll c calls σ₁ = σ₂) (hN : σ₂.issued ≤ N) {r' : QuoteRequest}
    (hkey : r'.key.1 = r.key.1 ∧ r'.key.2.1 = r.key.2.1 ∧ r'.itemCount = r.itemCount ∧
      r'.key.2.2.eqValue r.key.2.2 = true)
    {E : Instant} (hE : (readingOf c.origin σ₁.readings).addSpan? c.quoteTtl = some E)
    (hlt : (readingOf c.origin (σ₂.readings+1)).lt E = true) (fetch' : SyncM FetchedQuote) :
    ∃ q', ((getOrCreate r' fetch').run c).run.run σ₂ =
      (.ok (q', false), { σ₂ with readings := σ₂.readings+1 }) := by
  subst hσ₂
  have hσ₁ : σ₁.Good N := by
    have hg := @CacheCall.apply_good (.getOrCreate r fetch) c σ hks N hσ
    simp only [CacheCall.apply, h] at hg
    exact hg
  have hkeep := CacheCall.keepsFor_applyAll hcalls hd hσ₁ hN le_rfl (keepsFor_of_getOrCreate hks h)
  obtain ⟨q₀, hq₀, hans⟩ := hkeep.answers hkey hE hlt
  cases hA : answer (CacheCall.applyAll c calls σ₁).store r'
      (readingOf c.origin ((CacheCall.applyAll c calls σ₁).readings+1)) with
  | none => exact absurd hans (answer_eq_none.1 hA q₀ hq₀)
  | some q' => exact ⟨q', getOrCreate_run_hit c _ r' hA⟩

end QuoteCache

namespace QuoteProvider

section

open Std.Do

set_option mvcgen.warning false

theorem postJson_leaves (who url : String) (headers : List (String × String)) (body : Json)
    (s : Store) (k n : Nat) :
    ⦃fun _ τ => ⌜τ.store = s ∧ τ.readings = k ∧ τ.issued = n⌝⦄ postJson who url headers body
      ⦃post⟨fun _ _ τ => ⌜τ.store = s ∧ τ.readings = k ∧ τ.issued = n⌝,
        fun _ τ => ⌜τ.store = s ∧ τ.readings = k ∧ τ.issued = n⌝⟩⦄ := by
  mvcgen [postJson]

theorem quote_leaves (p : QuoteProvider) (request : QuoteRequest) (s : Store) (k n : Nat) :
    ⦃fun _ τ => ⌜τ.store = s ∧ τ.readings = k ∧ τ.issued = n⌝⦄ p.quote request
      ⦃post⟨fun _ _ τ => ⌜τ.store = s ∧ τ.readings = k ∧ τ.issued = n⌝,
        fun _ τ => ⌜τ.store = s ∧ τ.readings = k ∧ τ.issued = n⌝⟩⦄ := by
  have hp := fun who url headers body => postJson_leaves who url headers body s k n
  mvcgen [quote, rateApiQuote, shippoQuote, hp, SyncM.expect, -quote_sound]

end

theorem quote_keepsStore (p : QuoteProvider) (request : QuoteRequest) :
    (p.quote request).KeepsStore := fun c σ =>
  SyncM.keeps_of_triple (quote_leaves p request σ.store σ.readings σ.issued) c ⟨rfl, rfl, rfl⟩

end QuoteProvider

namespace QuoteCache

/-- The quote cache's contract. A lookup alone changes nothing but the clock and misses exactly
when no kept quote answers, giving otherwise the most recently updated one that does. The provider
is asked exactly where that lookup would miss, once, from the state it left. For a provider that
keeps the store, the clock and the ids, such as every quote provider: a failed call changes no
row, and a provider's answer takes the place of the one quote with the request's key, or joins
the others, good for the cache's lifetime from the writing reading; until that lifetime has
passed, no request for the same key asks the provider again, whatever calls on the cache come
between. A failing provider's error is the call's. -/
theorem quote_cache_contract (c : Context) :
    (∀ σ r, ∃ res, ((cachedOnly r).run c).run.run σ = (res, { σ with readings := σ.readings+1 }) ∧
      ((res = .error .noCachedQuote ∧
          ∀ q ∈ σ.store.quotes, ¬ q.Answers r (readingOf c.origin (σ.readings+1))) ∨
        ∃ q, res = .ok q ∧ σ.store.LatestAnswer r (readingOf c.origin (σ.readings+1)) q)) ∧
    (∀ σ σ' r fetch q, ((cachedOnly r).run c).run.run σ = (.ok q, σ') →
      ((getOrCreate r fetch).run c).run.run σ = (.ok (q, false), σ')) ∧
    (∀ σ σ' r fetch e, ((cachedOnly r).run c).run.run σ = (.error e, σ') →
      ((getOrCreate r fetch).run c).run.run σ =
        (((do let q ← keep r (← fetch); pure (q, true)) : SyncM (CachedQuote × Bool)).run c).run.run
          σ') ∧
    (∀ σ σ' r fetch e, fetch.KeepsStore →
      ((getOrCreate r fetch).run c).run.run σ = (.error e, σ') → σ'.store = σ.store) ∧
    (∀ σ σ' σ'' r fetch e, ((cachedOnly r).run c).run.run σ = (.error .noCachedQuote, σ') →
      (fetch.run c).run.run σ' = (.error e, σ'') →
      ((getOrCreate r fetch).run c).run.run σ = (.error e, σ'')) ∧
    (∀ σ σ' σf r fetch f E, CacheReachable c σ → Distinct (σ.issued+1) → fetch.KeepsStore →
      ((cachedOnly r).run c).run.run σ = (.error .noCachedQuote, σ') →
      (fetch.run c).run.run σ' = (.ok f, σf) →
      (readingOf c.origin (σ.readings+2)).addSpan? c.quoteTtl = some E →
      ∃ q quotes, ((getOrCreate r fetch).run c).run.run σ =
          (.ok (q, true), { σf with store := { σ.store with quotes }, readings := σ.readings+2,
                                    issued := σ.issued+1 }) ∧
        q = row r f q.id (readingOf c.origin (σ.readings+2)) E ∧
        ∀ y, y ∈ quotes ↔ y = q ∨ (y ∈ σ.store.quotes ∧ ¬ y.SameKey q)) ∧
    (∀ σ σ₁ σ₂ r r' fetch fetch' q calls E, CacheReachable c σ → fetch.KeepsStore →
      ((getOrCreate r fetch).run c).run.run σ = (.ok (q, true), σ₁) →
      (∀ call ∈ calls, CacheCall.KeepsStore call) → CacheCall.applyAll c calls σ₁ = σ₂ →
      Distinct σ₂.issued →
      (r'.key.1 = r.key.1 ∧ r'.key.2.1 = r.key.2.1 ∧ r'.itemCount = r.itemCount ∧
        r'.key.2.2.eqValue r.key.2.2 = true) →
      (readingOf c.origin σ₁.readings).addSpan? c.quoteTtl = some E →
      (readingOf c.origin (σ₂.readings+1)).lt E = true →
      ∃ q', ((getOrCreate r' fetch').run c).run.run σ₂ =
        (.ok (q', false), { σ₂ with readings := σ₂.readings+1 })) :=
  ⟨cachedOnly_spec c,
    fun _ _ _ _ _ h => getOrCreate_of_hit h,
    fun _ _ _ _ _ h => getOrCreate_of_miss h,
    fun _ _ _ _ _ hks h => getOrCreate_error_store hks h,
    fun _ _ _ _ _ _ h hf => getOrCreate_fetch_error h hf,
    fun _ _ _ _ _ _ _ hreach hd hks h hf hE =>
      getOrCreate_keeps hd (hreach.good _) (Nat.lt_succ_self _) hks h hf hE,
    fun _ _ _ _ _ _ fetch' _ _ _ hreach hks h hcalls hσ₂ hd hkey hE hlt =>
      getOrCreate_hits_until_expiry hd (hreach.good _) hks h hcalls hσ₂ le_rfl hkey hE hlt fetch'⟩

/-- A quote from the synthetic provider, kept in an empty cache for a minute, answers the same
request at the next lookup, so the rate service is not asked. -/
theorem kept_quote_serves_next_request :
    let c : Context := ⟨default, RetryPolicy.immediate 3, Span.ofSeconds 60, ⟨0, 0⟩,
      Network.unreachable⟩
    let r : QuoteRequest := ⟨"Austin", "TX", none, ⟨0⟩, 1⟩
    let σ₁ := CacheCall.apply c (.getOrCreate r (QuoteProvider.synthetic.quote r)) {}
    ∃ q', ((getOrCreate r (QuoteProvider.rateApi.quote r)).run c).run.run σ₁ =
      (.ok (q', false), { σ₁ with readings := σ₁.readings+1 }) := by
  intro c r σ₁
  have hks := QuoteProvider.quote_keepsStore .synthetic r
  have hf : ((QuoteProvider.synthetic.quote r).run c).run.run { readings := 1 } =
      (.ok ⟨⟨false, 52, 1⟩, some "USD", some "synthetic", Json.object [("synthetic", .bool true)]⟩,
        { readings := 1 }) := by
    simp only [r]
    rfl
  have hE : (readingOf c.origin 2).addSpan? c.quoteTtl = some ⟨60, 2000⟩ := by decide +kernel
  have hrun : ((getOrCreate r (QuoteProvider.synthetic.quote r)).run c).run.run {} = _ :=
    getOrCreate_run_kept rfl hks hf hE
  have hσ₁ : σ₁ = _ := congrArg Prod.snd hrun
  rw [hσ₁]
  exact (quote_cache_contract c).2.2.2.2.2.2 {} _ _ r r (QuoteProvider.synthetic.quote r) _ _ []
    ⟨60, 2000⟩ (.reachable .empty) hks hrun (by simp) rfl (distinct_of_lt (by decide))
    ⟨rfl, rfl, rfl, r.band_eqValue_self⟩ hE (by decide +kernel)

end QuoteCache

end SellerSync
