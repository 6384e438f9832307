import Mathlib
import SellerSync.Proofs.InFlight
/-! Starts, redemptions and completions run one after another, each in a context of its own and so
with a clock of its own: `trace` records each call with the service it started from. -/

open Std.Do

namespace SellerSync

namespace SyncM

variable {α : Type}

@[simp] theorem get_run (c : Context) (σ : Service) :
    (((get : SyncM Service).run c).run.run σ) = (.ok σ, σ) := rfl

@[simp] theorem set_run (c : Context) (σ σ' : Service) :
    (((set σ' : SyncM PUnit).run c).run.run σ) = (.ok PUnit.unit, σ') := rfl

theorem run_of_triple_in {P : Service → Prop} {Q : α → Context → Service → Prop}
    {E : SyncError → Service → Prop} {x : SyncM α}
    (h : ⦃fun _ σ => ⌜P σ⌝⦄ x ⦃post⟨fun a c σ => ⌜Q a c σ⌝, fun e σ => ⌜E e σ⌝⟩⦄) (c : Context)
    (σ : Service) (hσ : P σ) :
    match (x.run c).run.run σ with
    | (.ok a, σ') => Q a c σ'
    | (.error e, σ') => E e σ' := by
  have hw := h c σ hσ
  rcases hx : x c σ with ⟨r, σ'⟩
  simp only [wp, StateT.run, ExceptT.run, ReaderT.run, PredTrans.apply_pushArg,
    PredTrans.apply_Functor_map, PredTrans.apply_pushExcept, hx, PredTrans.apply_Pure_pure] at hw ⊢
  cases r <;> exact hw

end SyncM

namespace OAuthTransaction

theorem consume_eq_ok {L : List OAuthTransaction} {n : String} {m : Marketplace} {now : Instant}
    {t : OAuthTransaction} :
    (consume L n m now).2 = .ok t ↔
      L.find? (·.nonce == n) = some t ∧ Instant.lt now t.expiresAt = true ∧ t.marketplace = m := by
  unfold consume
  split
  · rename_i hf
    simp [hf]
  · rename_i t₀ hf
    simp only [hf, Option.some.injEq]
    split
    · -- expired: not before its expiry
      rename_i hle
      have hlt : Instant.lt now t₀.expiresAt = false := Instant.lt_eq_false.2 hle
      simp only [reduceCtorEq, false_iff, not_and]
      rintro rfl
      simp [hlt]
    · rename_i hle
      have hlt : Instant.lt now t₀.expiresAt = true := by
        rw [← Bool.not_eq_false, Instant.lt_eq_false]
        exact hle
      split
      · rename_i hm
        simp only [reduceCtorEq, false_iff, not_and]
        rintro rfl -
        simpa using hm
      · rename_i hm
        simp only [bne_iff_ne, ne_eq, Decidable.not_not] at hm
        simp only [Except.ok.injEq]
        constructor
        · rintro rfl
          exact ⟨rfl, hlt, hm⟩
        · rintro ⟨rfl, -⟩
          rfl

theorem find?_nonce_eq_some {L : List OAuthTransaction} (hd : (L.map (·.nonce)).Nodup)
    {n : String} {t : OAuthTransaction} :
    L.find? (·.nonce == n) = some t ↔ t ∈ L ∧ t.nonce = n := by
  constructor
  · intro h
    exact ⟨List.mem_of_find?_eq_some h, by simpa using List.find?_some h⟩
  · rintro ⟨ht, rfl⟩
    cases hf : L.find? (·.nonce == t.nonce) with
    | none =>
      have := List.find?_eq_none.1 hf t ht
      simp at this
    | some t' =>
      have ht' := List.mem_of_find?_eq_some hf
      have hn : t'.nonce = t.nonce := by simpa using List.find?_some hf
      rw [List.inj_on_of_nodup_map hd ht' ht hn]

end OAuthTransaction

namespace Connect

open SyncM

/-- A call on the authorizations in flight: starting one, redeeming a nonce for a marketplace,
or completing one from its callback. -/
inductive AuthCall where
  | begin (request : NewAuthorization)
  | consume (nonce : String) (marketplace : Marketplace)
  | complete (marketplace : Marketplace) (params : CallbackParams)

namespace AuthCall

/-- The service a call leaves, from `σ` in the context `c`, whatever it answers. -/
def apply (c : Context) (σ : Service) : AuthCall → Service
  | begin r => (((Connect.begin r).run c).run.run σ).2
  | consume n m => (((Connect.consume n m).run c).run.run σ).2
  | complete m p => (((Connect.complete m p).run c).run.run σ).2

/-- The nonce a call redeems, and for which marketplace: a redemption's own, or the state a
callback carries. -/
def redeems : AuthCall → Option (String × Marketplace)
  | begin _ => none
  | consume n m => some (n, m)
  | complete m p => p.state.map (·, m)

end AuthCall

/-- A call of a run: its context, the call, and the service it started from. -/
structure AuthStep where
  ctx : Context
  call : AuthCall
  before : Service

namespace AuthStep

/-- The service the call left. -/
def after (s : AuthStep) : Service := s.call.apply s.ctx s.before

/-- The transaction a start issued and kept, when it got that far. -/
def issued (s : AuthStep) : Option OAuthTransaction :=
  match s.call with
  | .begin r =>
    match (((Connect.begin r).run s.ctx).run.run s.before).1 with
    | .ok st => some st.transaction
    | .error _ => none
  | _ => none

/-- The clock reading at which a call works on the authorizations in flight: a start purges at
its second reading, after stamping its own transaction; a redemption checks expiry at its first. -/
def clock (s : AuthStep) : Instant :=
  match s.call with
  | .begin _ => Service.readingOf s.ctx.origin (s.before.readings + 2)
  | _ => Service.readingOf s.ctx.origin (s.before.readings + 1)

/-- What redeeming `n` for `m` answers from where the call started. A redemption answers it
itself; a completion makes it before anything else. -/
def redemption (s : AuthStep) (n : String) (m : Marketplace) : Except SyncError OAuthTransaction :=
  (((Connect.consume n m).run s.ctx).run.run s.before).1

/-- What a call does to the authorizations in flight. -/
def effect (s : AuthStep) (pending : List OAuthTransaction) : List OAuthTransaction :=
  match s.issued, s.call.redeems with
  | some t, _ => OAuthTransaction.enter pending s.clock t
  | none, some (n, _) => OAuthTransaction.burn pending n
  | none, none => pending

/-- Whether a transaction stays in flight through a call: the call redeems no nonce of it, and a
start that keeps its own purges at a clock before the transaction expires. -/
def Keeps (s : AuthStep) (t : OAuthTransaction) : Prop :=
  (∀ m, s.call.redeems ≠ some (t.nonce, m)) ∧
    ∀ t', s.issued = some t' → Instant.lt s.clock t.expiresAt = true

theorem redeems_of_issued {s : AuthStep} {t : OAuthTransaction} (h : s.issued = some t) :
    s.call.redeems = none := by
  rcases s with ⟨c, call, σ⟩
  cases call with
  | begin r => rfl
  | consume n m => simp [issued] at h
  | complete m p => simp [issued] at h

theorem mem_effect {s : AuthStep} {L : List OAuthTransaction} {t : OAuthTransaction} :
    t ∈ s.effect L ↔ (t ∈ L ∧ s.Keeps t) ∨ s.issued = some t := by
  unfold effect Keeps
  split
  · rename_i _ _ t' hi
    simp only [OAuthTransaction.enter, List.mem_append, List.mem_filter, List.mem_singleton,
      redeems_of_issued hi, hi, ne_eq, reduceCtorEq, not_false_eq_true, implies_true,
      Option.some.injEq, forall_eq', true_and]
    exact or_congr_right eq_comm
  · rename_i n m' hi hr
    simp only [OAuthTransaction.burn, List.mem_filter, bne_iff_ne, ne_eq, hr, hi, reduceCtorEq,
      false_implies, implies_true, and_true, or_false, Option.some.injEq, Prod.mk.injEq, not_and]
    constructor
    · rintro ⟨hm, hn⟩
      exact ⟨hm, fun _ h _ => hn h.symm⟩
    · rintro ⟨hm, hn⟩
      exact ⟨hm, fun h => hn m' h.symm rfl⟩
  · rename_i hi hr
    simp [hi, hr]

theorem effect_sublist (s : AuthStep) (L : List OAuthTransaction) :
    List.Sublist (s.effect L) (L ++ s.issued.toList) := by
  unfold effect
  split
  · rename_i _ _ t hi
    rw [hi]
    exact List.filter_sublist.append (List.Sublist.refl _)
  · rename_i hi _
    rw [hi, Option.toList_none, List.append_nil]
    exact List.filter_sublist
  · rename_i hi _
    simp [hi]

theorem issued_of_redeems {s : AuthStep} {n : String} {m : Marketplace}
    (h : s.call.redeems = some (n, m)) : s.issued = none := by
  cases hi : s.issued with
  | none => rfl
  | some t => simp [redeems_of_issued hi] at h

theorem clock_of_redeems {s : AuthStep} {n : String} {m : Marketplace}
    (h : s.call.redeems = some (n, m)) :
    s.clock = Service.readingOf s.ctx.origin (s.before.readings + 1) := by
  rcases s with ⟨c, call, σ⟩
  cases call with
  | begin r => simp [AuthCall.redeems] at h
  | consume n m => rfl
  | complete m p => rfl

theorem after_pending (s : AuthStep) : s.after.pending = s.effect s.before.pending := by
  rcases s with ⟨c, call, σ⟩
  cases call with
  | begin r =>
    have h := run_of_triple_in (begin_inFlight σ.pending r σ.readings) c σ ⟨rfl, rfl⟩
    simp only [after, AuthCall.apply, effect, issued, clock, AuthCall.redeems]
    rcases hb : ((Connect.begin r).run c).run.run σ with ⟨_ | st, σ'⟩ <;> rw [hb] at h <;> exact h
  | consume n m =>
    have h := post_of_triple (consume_inFlight σ.pending n m) c rfl
    simpa only [after, AuthCall.apply, effect, issued, AuthCall.redeems] using h
  | complete m p =>
    have h := post_of_triple (complete_inFlight σ.pending m p) c rfl
    simp only [after, AuthCall.apply, effect, issued, AuthCall.redeems]
    cases hp : p.state with
    | none => simpa [hp] using h
    | some n => simpa [hp] using h

end AuthStep

/-- A transaction is live after the calls `log` when a start among them issued it and every call
after that start kept it in flight. -/
def Live (log : List AuthStep) (t : OAuthTransaction) : Prop :=
  ∃ before s after, log = before ++ s :: after ∧ s.issued = some t ∧ ∀ s' ∈ after, s'.Keeps t

theorem not_live_nil (t : OAuthTransaction) : ¬Live [] t := by
  rintro ⟨before, s, after, h, -⟩
  simp at h

theorem live_cons {s : AuthStep} {log : List AuthStep} {t : OAuthTransaction} :
    Live (s :: log) t ↔ (s.issued = some t ∧ ∀ s' ∈ log, s'.Keeps t) ∨ Live log t := by
  constructor
  · rintro ⟨before, s₀, after, h, hi, hk⟩
    rcases List.cons_eq_append_iff.1 h with ⟨rfl, h'⟩ | ⟨before', rfl, h'⟩
    · obtain ⟨rfl, rfl⟩ := List.cons.inj h'
      exact .inl ⟨hi, hk⟩
    · exact .inr ⟨before', s₀, after, h', hi, hk⟩
  · rintro (⟨hi, hk⟩ | ⟨before, s₀, after, h, hi, hk⟩)
    · exact ⟨[], s, log, rfl, hi, hk⟩
    · exact ⟨s :: before, s₀, after, by rw [h]; rfl, hi, hk⟩

theorem mem_foldl_effect (log : List AuthStep) (L : List OAuthTransaction) (t : OAuthTransaction) :
    t ∈ log.foldl (fun L s => s.effect L) L ↔ (t ∈ L ∧ ∀ s ∈ log, s.Keeps t) ∨ Live log t := by
  induction log generalizing L with
  | nil => simp [not_live_nil]
  | cons s log ih =>
    rw [List.foldl_cons, ih, AuthStep.mem_effect, live_cons, List.forall_mem_cons]
    tauto

theorem foldl_effect_sublist (log : List AuthStep) (L : List OAuthTransaction) :
    List.Sublist (log.foldl (fun L s => s.effect L) L) (L ++ log.filterMap AuthStep.issued) := by
  induction log generalizing L with
  | nil => simp
  | cons s log ih =>
    rw [List.foldl_cons]
    refine (ih _).trans ?_
    have hs := (s.effect_sublist L).append (List.Sublist.refl (log.filterMap AuthStep.issued))
    cases hi : s.issued with
    | none => simpa [List.filterMap_cons, hi] using hs
    | some t => simpa [List.filterMap_cons, hi] using hs

theorem live_append {X Y : List AuthStep} {t : OAuthTransaction} :
    Live (X ++ Y) t ↔ (Live X t ∧ ∀ s ∈ Y, s.Keeps t) ∨ Live Y t := by
  induction X with
  | nil => simp [not_live_nil]
  | cons x X ih =>
    rw [List.cons_append, live_cons, live_cons, ih, List.forall_mem_append]
    tauto

theorem mem_issued_of_live {log : List AuthStep} {t : OAuthTransaction} (h : Live log t) :
    t ∈ log.filterMap AuthStep.issued := by
  obtain ⟨before, s, after, rfl, hi, -⟩ := h
  exact List.mem_filterMap.2 ⟨s, by simp, hi⟩

/-- Calls made one after another from `σ`, each in a context of its own. -/
def trace : List (Context × AuthCall) → Service → List AuthStep
  | [], _ => []
  | (c, call) :: rest, σ => ⟨c, call, σ⟩ :: trace rest (call.apply c σ)

theorem consume_answer (c : Context) (σ : Service) (n : String) (m : Marketplace) :
    (((consume n m).run c).run.run σ).1 =
      (OAuthTransaction.consume σ.pending n m (Service.readingOf c.origin (σ.readings + 1))).2 := by
  simp only [consume, run_bind, now_run, get_run, set_run, expect_run]

theorem authorize_redeemed (c : Context) (σ : Service) (m : Marketplace) (p : CallbackParams)
    {n : String} (hp : p.state = some n) {t : OAuthTransaction} {code : String}
    (h : (((authorize m p).run c).run.run σ).1 = .ok (t, code)) :
    (((consume n m).run c).run.run σ).1 = .ok t := by
  simp only [authorize, hp, run_bind] at h
  rcases hc : ((consume n m).run c).run.run σ with ⟨_ | t₀, σ'⟩
  · rw [hc] at h
    cases h
  · rw [hc] at h
    simp only at h
    repeat' split at h
    all_goals simp only [run_bind, fail_run, pure_run, reduceCtorEq, Except.ok.injEq,
      Prod.mk.injEq] at h
    all_goals exact congrArg Except.ok h.1

/-- Along a run, what is in flight before a call is what the calls before it made of what was in
flight at the start. -/
theorem before_pending_of_trace (calls : List (Context × AuthCall)) (σ : Service)
    {pre post : List AuthStep} {s : AuthStep} (h : trace calls σ = pre ++ s :: post) :
    s.before.pending = pre.foldl (fun L s => s.effect L) σ.pending := by
  induction calls generalizing σ pre with
  | nil => simp [trace] at h
  | cons cc rest ih =>
    obtain ⟨c, call⟩ := cc
    cases pre with
    | nil =>
      obtain ⟨rfl, -⟩ := List.cons.inj h
      rfl
    | cons s₀ pre =>
      obtain ⟨rfl, h'⟩ := List.cons.inj h
      rw [ih _ h', List.foldl_cons, ← AuthStep.after_pending]
      rfl

/-- Redeeming `n` for `m` at `now` after the calls `log` answers `t` when a start among
them issued `t` for `n`, every call since kept it in flight (none redeemed `n`, and no start
purged `t` as expired), `t` expires after `now`, and `t` was issued for `m`. -/
def Redeemable (log : List AuthStep) (n : String) (m : Marketplace) (now : Instant)
    (t : OAuthTransaction) : Prop :=
  Live log t ∧ t.nonce = n ∧ Instant.lt now t.expiresAt = true ∧ t.marketplace = m

section Run

variable {σ : Service} {calls : List (Context × AuthCall)} {pre post : List AuthStep}
  {s : AuthStep}

theorem nodup_issued_before
    (hfresh : (((trace calls σ).filterMap AuthStep.issued).map (·.nonce)).Nodup)
    (hs : trace calls σ = pre ++ s :: post) :
    ((pre.filterMap AuthStep.issued).map (·.nonce)).Nodup := by
  rw [hs, List.filterMap_append, List.map_append] at hfresh
  exact hfresh.sublist (List.sublist_append_left _ _)

theorem redemption_iff (hσ : σ.pending = [])
    (hfresh : (((trace calls σ).filterMap AuthStep.issued).map (·.nonce)).Nodup)
    (hs : trace calls σ = pre ++ s :: post) {n : String} {m : Marketplace}
    (hr : s.call.redeems = some (n, m)) (t : OAuthTransaction) :
    s.redemption n m = .ok t ↔ Redeemable pre n m s.clock t := by
  have hpend : s.before.pending = pre.foldl (fun L s => s.effect L) [] := by
    rw [before_pending_of_trace calls σ hs, hσ]
  have hd : ((s.before.pending).map (·.nonce)).Nodup := by
    rw [hpend]
    refine (nodup_issued_before hfresh hs).sublist ?_
    simpa using (foldl_effect_sublist pre []).map (·.nonce)
  rw [AuthStep.redemption, consume_answer, ← AuthStep.clock_of_redeems hr,
    OAuthTransaction.consume_eq_ok, OAuthTransaction.find?_nonce_eq_some hd, hpend,
    mem_foldl_effect]
  simp only [List.not_mem_nil, false_and, false_or, Redeemable, and_assoc]

theorem AuthStep.burned {s : AuthStep} {n : String} {m : Marketplace}
    (hr : s.call.redeems = some (n, m)) : ∀ t ∈ s.after.pending, t.nonce ≠ n := by
  intro t ht
  rw [AuthStep.after_pending, AuthStep.effect, AuthStep.issued_of_redeems hr, hr] at ht
  simpa [OAuthTransaction.burn] using (List.mem_filter.1 ht).2

theorem nonce_ne_of_issued {X Y : List AuthStep}
    (hfresh : (((X ++ Y).filterMap AuthStep.issued).map (·.nonce)).Nodup)
    {t t' : OAuthTransaction} (ht : t ∈ X.filterMap AuthStep.issued)
    (ht' : t' ∈ Y.filterMap AuthStep.issued) : t.nonce ≠ t'.nonce := by
  rw [List.filterMap_append, List.map_append, List.nodup_append] at hfresh
  exact hfresh.2.2 _ (List.mem_map_of_mem ht) _ (List.mem_map_of_mem ht')

theorem redeemed_once (hσ : σ.pending = [])
    (hfresh : (((trace calls σ).filterMap AuthStep.issued).map (·.nonce)).Nodup)
    (hs : trace calls σ = pre ++ s :: post) {n : String} {m : Marketplace}
    (hr : s.call.redeems = some (n, m)) {t : OAuthTransaction} (ht : s.redemption n m = .ok t)
    {s' : AuthStep} (hs' : s' ∈ post) {m' : Marketplace} (hr' : s'.call.redeems = some (n, m'))
    (t' : OAuthTransaction) : s'.redemption n m' ≠ .ok t' := by
  intro ht'
  obtain ⟨hlive, hn, -⟩ := (redemption_iff hσ hfresh hs hr t).1 ht
  obtain ⟨mid, post', rfl⟩ := List.append_of_mem hs'
  have hs₂ : trace calls σ = (pre ++ s :: mid) ++ s' :: post' := by simp [hs]
  obtain ⟨hlive', hn', -⟩ := (redemption_iff hσ hfresh hs₂ hr' t').1 ht'
  rcases live_append.1 hlive' with ⟨-, hkeep⟩ | hmid
  · exact (hkeep s List.mem_cons_self).1 m (by rw [hn', hr])
  · rw [live_cons, AuthStep.issued_of_redeems hr] at hmid
    rcases hmid with ⟨h, -⟩ | hmid
    · cases h
    · rw [hs₂, List.append_assoc] at hfresh
      obtain ⟨x, hx, hix⟩ := List.mem_filterMap.1 (mem_issued_of_live hmid)
      have hlater : t' ∈ (s :: mid ++ s' :: post').filterMap AuthStep.issued :=
        List.mem_filterMap.2 ⟨x, by simp [hx], hix⟩
      exact nonce_ne_of_issued hfresh (mem_issued_of_live hlive) hlater (hn.trans hn'.symm)

/-- Nonces are single use. Along any run of starts, redemptions and completions, each call in a
context of its own, from nothing in flight and with distinct nonces issued, a call that redeems
`n` for `m` (a redemption, or a completion whose callback carries `n`)
* answers `t` exactly when `t` is redeemable after the calls before it;
* leaves no authorization of `n` in flight, whatever it answers, so a refused, codeless or
  mismatched callback burns its nonce too;
* as a completion, gets its callback authorized, and so its code exchanged, only with the
  transaction its redemption answered;
* once it succeeds, is followed by no other successful redemption of `n`. -/
theorem single_use (hσ : σ.pending = [])
    (hfresh : (((trace calls σ).filterMap AuthStep.issued).map (·.nonce)).Nodup)
    (hs : trace calls σ = pre ++ s :: post) {n : String} {m : Marketplace}
    (hr : s.call.redeems = some (n, m)) :
    (∀ t, s.redemption n m = .ok t ↔ Redeemable pre n m s.clock t) ∧
    (∀ t ∈ s.after.pending, t.nonce ≠ n) ∧
    (∀ p, s.call = .complete m p → ∀ t code,
      (((authorize m p).run s.ctx).run.run s.before).1 = .ok (t, code) →
        s.redemption n m = .ok t) ∧
    (∀ t, s.redemption n m = .ok t → ∀ s' ∈ post, ∀ m', s'.call.redeems = some (n, m') →
      ∀ t', s'.redemption n m' ≠ .ok t') := by
  refine ⟨redemption_iff hσ hfresh hs hr, AuthStep.burned hr, ?_,
    fun t ht s' hs' m' hr' t' => redeemed_once hσ hfresh hs hr ht hs' hr' t'⟩
  intro p hc t code h
  have hp : p.state = some n := by
    rw [hc] at hr
    simpa [AuthCall.redeems] using hr
  exact authorize_redeemed s.ctx s.before m p hp h

end Run

/-- An eBay start on an empty service and the redemption of the first nonce after it. -/
theorem single_use_start_then_redeem :
    let c : Context :=
      ⟨default, RetryPolicy.immediate 3, Span.ofSeconds 60, ⟨0, 0⟩, Network.unreachable⟩
    let r : NewAuthorization := { sellerId := ⟨7⟩, marketplace := .ebay }
    let s₁ : AuthStep := ⟨c, .begin r, {}⟩
    let s₂ : AuthStep := ⟨c, .consume (Service.nonceOf 1) .ebay, s₁.after⟩
    ∀ t, s₂.redemption (Service.nonceOf 1) .ebay = .ok t ↔
      Redeemable [s₁] (Service.nonceOf 1) .ebay s₂.clock t := by
  intro c r s₁ s₂
  have hs : trace [(c, .begin r), (c, .consume (Service.nonceOf 1) .ebay)] {} = [s₁] ++ s₂ :: [] :=
    rfl
  have hfresh : ((([s₁] ++ s₂ :: []).filterMap AuthStep.issued).map (·.nonce)).Nodup := by
    cases h : s₁.issued <;> simp [h, show s₂.issued = none from rfl]
  exact (single_use rfl (hs ▸ hfresh) hs rfl).1

end Connect

end SellerSync
