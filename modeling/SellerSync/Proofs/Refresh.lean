import Mathlib
import SellerSync.Proofs.Retries
/-! What a refresh decides about an account is its standing: its status and the time it last synced,
as a lookup of its id finds them. -/
open Std.Do

set_option mvcgen.warning false

namespace SellerSync

open Service

/-- What a refresh decides about an account: its status and when it last synced. -/
structure Standing where
  id : Uuid
  status : AccountStatus
  lastSyncedAt : Option Instant
  deriving DecidableEq

namespace Standing

/-- The standing once `id` is stamped synced at `t`. -/
def stamp (id : Uuid) (t : Instant) (p : Standing) : Standing :=
  if p.id = id then { p with lastSyncedAt := some t } else p

/-- The standing once `id` is turned inactive. -/
def disable (id : Uuid) (p : Standing) : Standing :=
  if p.id = id then { p with status := .inactive } else p

/-- What a refresh of `id` that pulled `result` does to a standing: a pull that succeeded stamps
it at `t`, a rejected credential turns it inactive, and any other failure leaves it. -/
def settle (id : Uuid) (t : Instant) : Except SyncError PullReport → Standing → Standing
  | .ok _ => stamp id t
  | .error e => if e.isAuthFailure then disable id else fun p => p

end Standing

def ChannelAccount.standing (a : ChannelAccount) : Standing := ⟨a.id, a.status, a.lastSyncedAt⟩

namespace Store

/-- The standing of the account that a lookup of `id` finds. -/
def standingOf (s : Store) (id : Uuid) : Option Standing :=
  (s.account? id).map ChannelAccount.standing

variable {s s' : Store} {id : Uuid} {a : ChannelAccount}

theorem standingOf_congr (h : s'.accounts = s.accounts) : s'.standingOf = s.standingOf := by
  funext id
  simp only [standingOf, account?, h]

theorem find?_replace {l : List ChannelAccount} {b : ChannelAccount} (hb : b.id = id)
    (id' : Uuid) :
    (l.map fun x => if x.id == id then b else x).find? (·.id == id') =
      (l.find? (·.id == id')).map fun x => if x.id == id then b else x := by
  rw [List.find?_map]
  congr 2
  funext x
  by_cases hx : x.id = id <;> simp [hx, hb]

theorem standingOf_modifyAccount {g : ChannelAccount → ChannelAccount}
    {r : ChannelAccount × Store} (hm : s.modifyAccount id g = .ok r)
    (hgid : ∀ a, (g a).id = a.id) (f : Standing → Standing)
    (hg : ∀ a, a.id = id → (g a).standing = f a.standing) (hf : ∀ p, p.id ≠ id → f p = p)
    (id' : Uuid) : r.2.standingOf id' = (s.standingOf id').map f := by
  unfold modifyAccount at hm
  split at hm
  next => contradiction
  next a ha =>
    cases hm
    have hai : a.id = id := id_of_account? ha
    simp only [standingOf, account?] at ha ⊢
    rw [find?_replace ((hgid a).trans hai)]
    cases hy : s.accounts.find? (·.id == id') with
    | none => rfl
    | some y =>
      have hyi : y.id = id' := by simpa using List.find?_some hy
      by_cases hid : id' = id
      · -- the lookup of `id` found `a`, the account written over
        subst hid
        rw [ha] at hy
        cases hy
        simp [hai, hg a hai]
      · have hyid : y.id ≠ id := hyi ▸ hid
        simp [hyid, hf y.standing hyid]

theorem exists_modifyAccount {g : ChannelAccount → ChannelAccount}
    (h : (s.modifyAccount id g).map (·.2) = .ok s') :
    ∃ r, s.modifyAccount id g = .ok r ∧ r.2 = s' := by
  cases hr : s.modifyAccount id g with
  | error => simp [hr, Except.map] at h
  | ok r =>
    simp only [hr, Except.map, Except.ok.injEq] at h
    exact ⟨r, rfl, h⟩

theorem standingOf_markSynced {t : Instant} (h : s.markSynced id t = .ok s') (id' : Uuid) :
    s'.standingOf id' = (s.standingOf id').map (Standing.stamp id t) := by
  obtain ⟨r, hr, rfl⟩ := exists_modifyAccount h
  exact standingOf_modifyAccount hr (fun _ => rfl) _
    (fun a ha => by simp [ChannelAccount.standing, Standing.stamp, ha])
    (fun p hp => by simp [Standing.stamp, hp]) id'

theorem standingOf_setAccountStatus {now : Instant}
    (h : s.setAccountStatus id .inactive now = .ok s') (id' : Uuid) :
    s'.standingOf id' = (s.standingOf id').map (Standing.disable id) := by
  obtain ⟨r, hr, rfl⟩ := exists_modifyAccount h
  exact standingOf_modifyAccount hr (fun _ => rfl) _
    (fun a ha => by simp [ChannelAccount.standing, Standing.disable, ha])
    (fun p hp => by simp [Standing.disable, hp]) id'

theorem standingOf_applyTokenUpdate {u : TokenUpdate} {now : Instant}
    {r : ChannelAccount × Store} (h : s.applyTokenUpdate id u now = .ok r) :
    r.2.standingOf = s.standingOf := by
  funext id'
  rw [standingOf_modifyAccount h (fun _ => by split <;> rfl) (fun p => p)
    (fun _ _ => by simp only [ChannelAccount.standing]; split <;> rfl) (fun _ _ => rfl) id',
    Option.map_id']

theorem markSynced_of_account? (h : s.account? id = some a) (t : Instant) :
    ∃ s', s.markSynced id t = .ok s' := by
  unfold markSynced modifyAccount
  rw [h]
  exact ⟨_, rfl⟩

theorem setAccountStatus_of_account? (h : s.account? id = some a) (st : AccountStatus)
    (now : Instant) : ∃ s', s.setAccountStatus id st now = .ok s' := by
  unfold setAccountStatus modifyAccount
  rw [h]
  exact ⟨_, rfl⟩

/-! The writes that ingestion makes leave the accounts alone. -/

@[simp] theorem accounts_resolveCustomer (seller account : Uuid) (ext : Option String)
    (cand : CustomerCandidate) (fresh : Uuid) (now : Instant) :
    (s.resolveCustomer seller account ext cand fresh now).2.accounts = s.accounts := by
  obtain ⟨_, hr⟩ := @resolveCustomer_snd s seller account ext cand fresh now
  rw [hr]

@[simp] theorem accounts_upsertCustomerLink (account : ChannelAccount) (customer : Uuid)
    (ext : String) (raw : Json) (fresh : Uuid) (now : Instant) :
    (s.upsertCustomerLink account customer ext raw fresh now).2.accounts = s.accounts := rfl

@[simp] theorem accounts_upsertItem (seller : Uuid) (sku title : String) (fresh : Uuid)
    (now : Instant) : (s.upsertItem seller sku title fresh now).2.accounts = s.accounts := by
  unfold upsertItem
  split <;> rfl

@[simp] theorem accounts_upsertItemLink (account : ChannelAccount) (link : NewItemLink)
    (fresh : Uuid) (now : Instant) :
    (s.upsertItemLink account link fresh now).2.accounts = s.accounts := rfl

@[simp] theorem accounts_touchItemLink (id : Uuid) (now : Instant) :
    (s.touchItemLink id now).accounts = s.accounts := rfl

@[simp] theorem accounts_upsertOrder (o : StoredOrder) :
    (s.upsertOrder o).2.accounts = s.accounts := rfl

@[simp] theorem accounts_upsertLine (l : StoredLine) :
    (s.upsertLine l).2.accounts = s.accounts := by
  simp only [upsertLine]
  split <;> rfl

@[simp] theorem accounts_upsertStock (item account : Uuid) (location : Option String)
    (available : Int) (fresh : Uuid) (now : Instant) :
    (s.upsertStock item account location available fresh now).2.accounts = s.accounts := rfl

@[simp] theorem accounts_upsertAudit (x : AuditLine) : (s.upsertAudit x).2.accounts = s.accounts :=
  rfl

/-- A property of stores that every write of a pull keeps: storing renewed tokens, and the
customers, catalog items, links, orders, lines, stock levels and audit lines of the records it
brings in. -/
structure PullStable (I : Store → Prop) : Prop where
  applyTokenUpdate : ∀ {s : Store} {id : Uuid} {u : TokenUpdate} {now : Instant}
    {r : ChannelAccount × Store}, I s → s.applyTokenUpdate id u now = .ok r → I r.2
  resolveCustomer : ∀ {s : Store} (seller account : Uuid) (ext : Option String)
    (cand : CustomerCandidate) (fresh : Uuid) (now : Instant), I s →
    I (s.resolveCustomer seller account ext cand fresh now).2
  upsertCustomerLink : ∀ {s : Store} (account : ChannelAccount) (customer : Uuid) (ext : String)
    (raw : Json) (fresh : Uuid) (now : Instant), I s →
    I (s.upsertCustomerLink account customer ext raw fresh now).2
  upsertItem : ∀ {s : Store} (seller : Uuid) (sku title : String) (fresh : Uuid) (now : Instant),
    I s → I (s.upsertItem seller sku title fresh now).2
  upsertItemLink : ∀ {s : Store} (account : ChannelAccount) (link : NewItemLink) (fresh : Uuid)
    (now : Instant), I s → I (s.upsertItemLink account link fresh now).2
  touchItemLink : ∀ {s : Store} (id : Uuid) (now : Instant), I s → I (s.touchItemLink id now)
  upsertOrder : ∀ {s : Store} (o : StoredOrder), I s → I (s.upsertOrder o).2
  upsertLine : ∀ {s : Store} (l : StoredLine), I s → I (s.upsertLine l).2
  upsertStock : ∀ {s : Store} (item account : Uuid) (location : Option String) (available : Int)
    (fresh : Uuid) (now : Instant), I s →
    I (s.upsertStock item account location available fresh now).2
  upsertAudit : ∀ {s : Store} (x : AuditLine), I s → I (s.upsertAudit x).2

theorem PullStable.standings (F : Uuid → Option Standing) :
    PullStable fun s => s.standingOf = F where
  applyTokenUpdate h hm := (standingOf_applyTokenUpdate hm).trans h
  resolveCustomer _ _ _ _ _ _ h := (standingOf_congr (accounts_resolveCustomer ..)).trans h
  upsertCustomerLink _ _ _ _ _ _ h := (standingOf_congr (accounts_upsertCustomerLink ..)).trans h
  upsertItem _ _ _ _ _ h := (standingOf_congr (accounts_upsertItem ..)).trans h
  upsertItemLink _ _ _ _ h := (standingOf_congr (accounts_upsertItemLink ..)).trans h
  touchItemLink _ _ h := (standingOf_congr (accounts_touchItemLink ..)).trans h
  upsertOrder _ h := (standingOf_congr (accounts_upsertOrder ..)).trans h
  upsertLine _ h := (standingOf_congr (accounts_upsertLine ..)).trans h
  upsertStock _ _ _ _ _ _ h := (standingOf_congr (accounts_upsertStock ..)).trans h
  upsertAudit _ h := (standingOf_congr (accounts_upsertAudit ..)).trans h

end Store

/-! ### What a pull keeps

A pull writes the store only through the writes `Store.PullStable` lists, so every pull-stable
property of the store before it holds after it, whether it succeeds or fails. -/

namespace Store.PullStable

variable {I : Store → Prop} (hI : PullStable I)
include hI

theorem tokensKept : TokensKept fun _ s => I s := fun _ _ _ _ _ _ h hm => hI.applyTokenUpdate h hm

theorem ingests : Ingests fun _ s => I s where
  succ h := h
  upsertItem h := hI.upsertItem _ _ _ _ _ h
  upsertItemLink h := hI.upsertItemLink _ _ _ _ h
  touchItemLink h := hI.touchItemLink _ _ h
  resolveCustomer h := hI.resolveCustomer _ _ _ _ _ _ h
  upsertCustomerLink h := hI.upsertCustomerLink _ _ _ _ _ _ h
  upsertOrder h _ := hI.upsertOrder _ h
  upsertLine h _ := hI.upsertLine _ h
  upsertStock h := hI.upsertStock _ _ _ _ _ _ h
  projectAudit := Pipeline.projectAudit_preserves (P := fun _ s => I s) (fun h => h)
    fun h _ => hI.upsertAudit _ h

end Store.PullStable

theorem Pull.marketplacePull_holds {I : Store → Prop} (hI : Store.PullStable I)
    (account : ChannelAccount) (since : Instant) :
    ⦃fun _ σ => ⌜σ.Holds I⌝⦄ marketplacePull account since
      ⦃post⟨fun _ _ σ => ⌜σ.Holds I⌝, fun _ σ => ⌜σ.Holds I⌝⟩⦄ :=
  Pull.marketplacePull_preserves hI.tokensKept hI.ingests account since

theorem Pull.marketplacePull_standingOf (account : ChannelAccount) (since : Instant)
    (c : Context) (σ : Service) :
    (((marketplacePull account since).run c).run.run σ).2.store.standingOf =
      σ.store.standingOf :=
  SyncM.keeps_of_triple
    (Pull.marketplacePull_holds (Store.PullStable.standings σ.store.standingOf) account since) c
    (show σ.Holds _ from rfl)

theorem SyncError.isAuthFailure_iff (e : SyncError) :
    e.isAuthFailure = true ↔ (∃ a, e = .credentialMissing a) ∨
      ∃ status body, e = .credentialRefreshFailed status body ∧
        (status = 400 ∨ status = 401 ∨ status = 403) := by
  cases e <;> simp [SyncError.isAuthFailure, or_assoc]

@[simp] theorem SyncM.setStore_run (c : Context) (σ : Service) (st : Store) :
    (((setStore st).run c).run.run σ) = (.ok (), { σ with store := st }) := rfl

namespace Pull

open SyncM

/-! ### A refresh, case by case -/

variable (c : Context) (σ : Service) (id : Uuid) {a : ChannelAccount}

theorem refreshAccount_missing (ha : σ.store.account? id = none) :
    ((refreshAccount id).run c).run.run σ =
      (.error (.notFound "channel account" id.toText), σ) := by
  simp only [refreshAccount, run_bind, store_run, Store.requireAccount, ha, expect_run]

theorem refreshAccount_inactive (ha : σ.store.account? id = some a) (hs : a.isActive = false) :
    ((refreshAccount id).run c).run.run σ =
      (.error (.configuration ("account " ++ id.toText ++ " is inactive")), σ) := by
  simp only [refreshAccount, run_bind, store_run, Store.requireAccount, ha, expect_run, hs,
    Bool.not_false, if_true, fail_run]

theorem refreshAccount_idle (ha : σ.store.account? id = some a) (hs : a.isActive = true)
    (ho : a.flags.ordersIn = false) :
    ((refreshAccount id).run c).run.run σ =
      (.ok {}, { σ with readings := σ.readings + 1,
                        store := { σ.store with accounts := σ.store.accounts.map fun x =>
                          if x.id == id then { a with lastSyncedAt := some (readingOf c.origin
                            (σ.readings + 1)) } else x } }) := by
  have hai : a.id = id := Store.id_of_account? ha
  simp only [refreshAccount, run_bind, store_run, Store.requireAccount, ha, expect_run, hs, ho,
    Bool.not_true, Bool.not_false, Bool.false_eq_true, if_false, if_true, now_run,
    Store.markSynced, Store.modifyAccount, hai, Except.map, setStore_run, pure_run]

theorem conclude_settles {a₁ : ChannelAccount} (ha : σ.store.account? a.id = some a₁)
    (res : Except SyncError PullReport) :
    (((conclude a res).run c).run.run σ).1 = res ∧ ∀ id',
      (((conclude a res).run c).run.run σ).2.store.standingOf id' =
        (σ.store.standingOf id').map
          (Standing.settle a.id (readingOf c.origin (σ.readings + 1)) res) := by
  cases res with
  | ok report =>
    obtain ⟨s', hs'⟩ := Store.markSynced_of_account? ha (readingOf c.origin (σ.readings + 1))
    have hrun : ((conclude a (.ok report)).run c).run.run σ =
        (.ok report, { σ with readings := σ.readings + 1, store := s' }) := by
      simp only [conclude, run_bind, now_run, store_run, hs', expect_run, setStore_run, pure_run]
    rw [hrun]
    exact ⟨rfl, fun id' => Store.standingOf_markSynced hs' id'⟩
  | error e =>
    cases hauth : e.isAuthFailure with
    | false =>
      have hrun : ((conclude a (.error e)).run c).run.run σ = (.error e, σ) := by
        simp only [conclude, hauth, Bool.false_eq_true, if_false, fail_run]
      rw [hrun]
      exact ⟨rfl, fun id' => by simp [Standing.settle, hauth]⟩
    | true =>
      obtain ⟨s', hs'⟩ := Store.setAccountStatus_of_account? ha .inactive
        (readingOf c.origin (σ.readings + 1))
      have hrun : ((conclude a (.error e)).run c).run.run σ =
          (.error e, { σ with readings := σ.readings + 1, store := s' }) := by
        simp only [conclude, hauth, if_true, run_bind, now_run, store_run, hs', expect_run,
          setStore_run, fail_run]
      rw [hrun]
      exact ⟨rfl, fun id' => by
        rw [Store.standingOf_setAccountStatus hs']
        simp [Standing.settle, hauth]⟩

theorem refreshAccount_pulled (ha : σ.store.account? id = some a) (hs : a.isActive = true)
    (ho : a.flags.ordersIn = true) {res : Except SyncError PullReport} {σ₁ : Service}
    (hp : ((marketplacePull a (windowStart (readingOf c.origin (σ.readings + 1)))).run c).run.run
      { σ with readings := σ.readings + 1 } = (res, σ₁))
    (hk : σ₁.store.standingOf = σ.store.standingOf) :
    (((refreshAccount id).run c).run.run σ).1 = res ∧ ∀ id',
      (((refreshAccount id).run c).run.run σ).2.store.standingOf id' =
        (σ.store.standingOf id').map
          (Standing.settle id (readingOf c.origin (σ₁.readings + 1)) res) := by
  have hai : a.id = id := Store.id_of_account? ha
  obtain ⟨a₁, ha₁⟩ : ∃ a₁, σ₁.store.account? a.id = some a₁ := by
    have h : σ₁.store.standingOf a.id = some a.standing := by
      rw [hk, hai]
      simp only [Store.standingOf, ha, Option.map_some]
    obtain ⟨a₁, h₁, -⟩ := Option.map_eq_some_iff.1 h
    exact ⟨a₁, h₁⟩
  have hrun : ((refreshAccount id).run c).run.run σ = ((conclude a res).run c).run.run σ₁ := by
    simp only [refreshAccount, run_bind, store_run, Store.requireAccount, ha, expect_run, hs, ho,
      Bool.not_true, Bool.false_eq_true, if_false, now_run, SyncM.attempt, catch_run, hp]
  rw [hrun, ← hk, ← hai]
  exact conclude_settles c σ₁ ha₁ res

/-- A refresh refuses a missing or inactive account with the service as it was; stamps an
account that takes no orders and writes nothing else; and otherwise answers with what its
marketplace's pull answered, settling the standing of that account alone: stamped synced after a
pull that succeeded, turned inactive after a rejected credential, left after any other failure. -/
theorem refresh_settles_standing (c : Context) (σ : Service) (id : Uuid) :
    (match σ.store.account? id with
    | none =>
      ((refreshAccount id).run c).run.run σ = (.error (.notFound "channel account" id.toText), σ)
    | some a =>
      if a.status = .inactive then
        ((refreshAccount id).run c).run.run σ =
          (.error (.configuration ("account " ++ id.toText ++ " is inactive")), σ)
      else if a.flags.ordersIn then
        let pulled := ((marketplacePull a (windowStart (readingOf c.origin (σ.readings + 1)))).run
          c).run.run { σ with readings := σ.readings + 1 }
        (((refreshAccount id).run c).run.run σ).1 = pulled.1 ∧ ∀ id',
          (((refreshAccount id).run c).run.run σ).2.store.standingOf id' =
            (σ.store.standingOf id').map
              (Standing.settle id (readingOf c.origin (pulled.2.readings + 1)) pulled.1)
      else
        ((refreshAccount id).run c).run.run σ =
          (.ok {}, { σ with readings := σ.readings + 1,
                            store := { σ.store with accounts := σ.store.accounts.map fun x =>
                              if x.id == id then { a with lastSyncedAt := some (readingOf c.origin
                                (σ.readings + 1)) } else x } })) ∧
    ∀ e : SyncError, e.isAuthFailure = true ↔ (∃ a, e = .credentialMissing a) ∨
      ∃ status body, e = .credentialRefreshFailed status body ∧
        (status = 400 ∨ status = 401 ∨ status = 403) := by
  refine ⟨?_, SyncError.isAuthFailure_iff⟩
  cases ha : σ.store.account? id with
  | none => exact refreshAccount_missing c σ id ha
  | some a =>
    dsimp only
    by_cases hs : a.status = .inactive
    · rw [if_pos hs]
      exact refreshAccount_inactive c σ id ha (by simp [ChannelAccount.isActive, hs])
    · have hact : a.isActive = true := by cases h : a.status <;> simp_all [ChannelAccount.isActive]
      rw [if_neg hs]
      by_cases ho : a.flags.ordersIn = true
      · rw [if_pos ho]
        exact refreshAccount_pulled c σ id ha hact ho rfl (marketplacePull_standingOf a _ c _)
      · rw [if_neg ho]
        exact refreshAccount_idle c σ id ha hact (Bool.eq_false_iff.mpr ho)

end Pull

end SellerSync
