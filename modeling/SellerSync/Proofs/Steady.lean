import Mathlib
import SellerSync.Proofs.Reachable
/-! Store properties that every call keeps while the service stays sound. -/
open Std.Do

set_option mvcgen.warning false

namespace SellerSync

open Service

namespace Store

/-- A property of stores that every write outside audit lines and labels keeps. -/
structure Stable (I : Store → Prop) : Prop where
  upsertAccount : ∀ {s : Store} (a : ChannelAccount) (now : Instant), I s →
    I (s.upsertAccount a now).2
  modifyAccount : ∀ {s : Store} {id : Uuid} {g : ChannelAccount → ChannelAccount}
    {r : ChannelAccount × Store}, I s → s.modifyAccount id g=.ok r → I r.2
  deleteAccount : ∀ {s : Store} {id seller : Uuid} {r : Bool × Store}, I s →
    s.deleteAccount id seller=.ok r → I r.2
  upsertItem : ∀ {s : Store} (seller : Uuid) (sku title : String) (fresh : Uuid) (now : Instant),
    I s → I (s.upsertItem seller sku title fresh now).2
  upsertItemLink : ∀ {s : Store} (account : ChannelAccount) (link : NewItemLink) (fresh : Uuid)
    (now : Instant), I s → I (s.upsertItemLink account link fresh now).2
  touchItemLink : ∀ {s : Store} (id : Uuid) (now : Instant), I s → I (s.touchItemLink id now)
  resolveCustomer : ∀ {s : Store} (seller account : Uuid) (ext : Option String)
    (cand : CustomerCandidate) (fresh : Uuid) (now : Instant), I s →
    I (s.resolveCustomer seller account ext cand fresh now).2
  upsertCustomerLink : ∀ {s : Store} (account : ChannelAccount) (customer : Uuid) (ext : String)
    (raw : Json) (fresh : Uuid) (now : Instant), I s →
    I (s.upsertCustomerLink account customer ext raw fresh now).2
  upsertOrder : ∀ {s : Store} (o : StoredOrder), I s → I (s.upsertOrder o).2
  upsertLine : ∀ {s : Store} (l : StoredLine), I s → I (s.upsertLine l).2
  upsertStock : ∀ {s : Store} (item account : Uuid) (location : Option String) (available : Int)
    (fresh : Uuid) (now : Instant), I s →
    I (s.upsertStock item account location available fresh now).2
  upsertQuote : ∀ {s : Store} (q : CachedQuote), I s → I (s.upsertQuote q).2
  upsertInbound : ∀ {s : Store} (x : InboundShipment) (now : Instant), I s →
    I (s.upsertInbound x now).2
  recordInboundLabels : ∀ {s : Store} {account : Uuid} {shipmentId : String}
    {labels : InboundLabels} {now : Instant} {x : InboundShipment} {s' : Store}, I s →
    s.recordInboundLabels account shipmentId labels now=some (x, s') → I s'
  eraseIdentity : ∀ {s : Store} (m : Marketplace) (ext : String) (fresh : Uuid) (now : Instant),
    I s → I (s.eraseIdentity m ext fresh now).2

namespace Stable

variable {I : Store → Prop} {s s' : Store}

theorem applyTokenUpdate (hI : Stable I) (h : I s) {id : Uuid} {u : TokenUpdate} {now : Instant}
    {r : ChannelAccount × Store} (hm : s.applyTokenUpdate id u now=.ok r) : I r.2 :=
  hI.modifyAccount h hm

theorem markSynced (hI : Stable I) (h : I s) {id : Uuid} {at_ : Instant}
    (hm : s.markSynced id at_=.ok s') : I s' := by
  unfold Store.markSynced at hm
  cases hr : s.modifyAccount id fun a => { a with lastSyncedAt := some at_ } with
  | error => simp [hr, Except.map] at hm
  | ok r =>
    simp only [hr, Except.map, Except.ok.injEq] at hm
    exact hm ▸ hI.modifyAccount h hr

theorem setAccountStatus (hI : Stable I) (h : I s) {id : Uuid} {st : AccountStatus}
    {now : Instant} (hm : s.setAccountStatus id st now=.ok s') : I s' := by
  unfold Store.setAccountStatus at hm
  cases hr : s.modifyAccount id fun a => { a with status := st, updatedAt := now } with
  | error => simp [hr, Except.map] at hm
  | ok r =>
    simp only [hr, Except.map, Except.ok.injEq] at hm
    exact hm ▸ hI.modifyAccount h hr

end Stable

/-- A sound store after `n` ids with property `J n`. -/
def SoundWith (N : Nat) (J : Nat → Store → Prop) (n : Nat) (s : Store) : Prop :=
  s.SoundUpTo N n ∧ J n s

end Store

/-- The service's store has property `I`. -/
def Service.Holds (I : Store → Prop) (σ : Service) : Prop := I σ.store

/-- The service's store is sound and has property `J` for the ids handed out. -/
def Service.SoundWith (N : Nat) (J : Nat → Store → Prop) (σ : Service) : Prop :=
  σ.store.SoundWith N J σ.issued

namespace Store

/-- A property of sound stores that every write keeps, under the id it was just handed or one a
row already carries, and that the audit projection and the recording of a label keep. -/
structure Steady (N : Nat) (J : Nat → Store → Prop) : Prop where
  succ : ∀ {n : Nat} {s : Store}, s.SoundUpTo N n → J n s → J (n+1) s
  upsertAccount : ∀ {n : Nat} {s : Store} {a : ChannelAccount} {now : Instant}, s.SoundUpTo N n →
    J n s → IssuedUpTo N n a.id → J n (s.upsertAccount a now).2
  applyTokenUpdate : ∀ {n : Nat} {s : Store} {id : Uuid} {u : TokenUpdate} {now : Instant}
    {r : ChannelAccount × Store}, s.SoundUpTo N n → J n s → s.applyTokenUpdate id u now=.ok r →
    J n r.2
  markSynced : ∀ {n : Nat} {s s' : Store} {id : Uuid} {at_ : Instant}, s.SoundUpTo N n → J n s →
    s.markSynced id at_=.ok s' → J n s'
  setAccountStatus : ∀ {n : Nat} {s s' : Store} {id : Uuid} {st : AccountStatus} {now : Instant},
    s.SoundUpTo N n → J n s → s.setAccountStatus id st now=.ok s' → J n s'
  deleteAccount : ∀ {n : Nat} {s : Store} {id seller : Uuid} {r : Bool × Store}, s.SoundUpTo N n →
    J n s → s.deleteAccount id seller=.ok r → J n r.2
  upsertItem : ∀ {n : Nat} {s : Store} {seller : Uuid} {sku title : String} {now : Instant},
    s.SoundUpTo N n → J n s → J (n+1) (s.upsertItem seller sku title (idOf (n+1)) now).2
  upsertItemLink : ∀ {n : Nat} {s : Store} {account : ChannelAccount} {link : NewItemLink}
    {now : Instant}, s.SoundUpTo N n → J n s →
    J (n+1) (s.upsertItemLink account link (idOf (n+1)) now).2
  touchItemLink : ∀ {n : Nat} {s : Store} {id : Uuid} {now : Instant}, s.SoundUpTo N n → J n s →
    J n (s.touchItemLink id now)
  resolveCustomer : ∀ {n : Nat} {s : Store} {seller account : Uuid} {ext : Option String}
    {cand : CustomerCandidate} {now : Instant}, s.SoundUpTo N n → J n s →
    J (n+1) (s.resolveCustomer seller account ext cand (idOf (n+1)) now).2
  upsertCustomerLink : ∀ {n : Nat} {s : Store} {account : ChannelAccount} {customer : Uuid}
    {ext : String} {raw : Json} {now : Instant}, s.SoundUpTo N n → J n s →
    J (n+1) (s.upsertCustomerLink account customer ext raw (idOf (n+1)) now).2
  upsertOrder : ∀ {n : Nat} {s : Store} {o : StoredOrder}, s.SoundUpTo N n → J n s →
    o.id=idOf (n+1) → J (n+1) (s.upsertOrder o).2
  upsertLine : ∀ {n : Nat} {s : Store} {l : StoredLine}, s.SoundUpTo N n → J n s →
    l.id=idOf (n+1) → J (n+1) (s.upsertLine l).2
  upsertStock : ∀ {n : Nat} {s : Store} {item account : Uuid} {location : Option String}
    {available : Int} {now : Instant}, s.SoundUpTo N n → J n s →
    J (n+1) (s.upsertStock item account location available (idOf (n+1)) now).2
  upsertQuote : ∀ {n : Nat} {s : Store} {q : CachedQuote}, s.SoundUpTo N n → J n s →
    q.id=idOf (n+1) → J (n+1) (s.upsertQuote q).2
  upsertInbound : ∀ {n : Nat} {s : Store} {x : InboundShipment} {now : Instant},
    s.SoundUpTo N n → J n s → x.id=idOf (n+1) → J (n+1) (s.upsertInbound x now).2
  recordInboundLabels : ∀ {n : Nat} {s s' : Store} {account : Uuid} {shipmentId : String}
    {labels : InboundLabels} {now : Instant} {x : InboundShipment}, s.SoundUpTo N n → J n s →
    s.recordInboundLabels account shipmentId labels now=some (x, s') → J n s'
  eraseIdentity : ∀ {n : Nat} {s : Store} {m : Marketplace} {ext : String} {now : Instant},
    s.SoundUpTo N n → J n s → J (n+1) (s.eraseIdentity m ext (idOf (n+1)) now).2
  projectAudit : ∀ (a : ChannelAccount) (stored : StoredOrder) (o : IncomingOrder)
    (src : IngestSource), ⦃fun _ σ => ⌜σ.SoundWith N J⌝⦄ Pipeline.projectAudit a stored o src
      ⦃post⟨fun _ _ σ => ⌜σ.SoundWith N J⌝, fun _ σ => ⌜σ.SoundWith N J⌝⟩⦄
  recordLabel : ∀ (a : ChannelAccount) (input : LabelInput),
    ⦃fun _ σ => ⌜σ.SoundWith N J⌝⦄ Pipeline.recordLabel a input
      ⦃post⟨fun _ _ σ => ⌜σ.SoundWith N J⌝, fun _ σ => ⌜σ.SoundWith N J⌝⟩⦄

/-- What a steady property asks of the writes that leave the ids and sellers of accounts,
orders, items, customers and links alone: handing out an id, updating an account's tokens, sync
time or status, caching a quote and keeping an inbound shipment. -/
structure Quiet (N : Nat) (J : Nat → Store → Prop) : Prop where
  succ : ∀ {n : Nat} {s : Store}, s.SoundUpTo N n → J n s → J (n+1) s
  applyTokenUpdate : ∀ {n : Nat} {s : Store} {id : Uuid} {u : TokenUpdate} {now : Instant}
    {r : ChannelAccount × Store}, s.SoundUpTo N n → J n s → s.applyTokenUpdate id u now=.ok r →
    J n r.2
  markSynced : ∀ {n : Nat} {s s' : Store} {id : Uuid} {at_ : Instant}, s.SoundUpTo N n → J n s →
    s.markSynced id at_=.ok s' → J n s'
  setAccountStatus : ∀ {n : Nat} {s s' : Store} {id : Uuid} {st : AccountStatus} {now : Instant},
    s.SoundUpTo N n → J n s → s.setAccountStatus id st now=.ok s' → J n s'
  upsertQuote : ∀ {n : Nat} {s : Store} {q : CachedQuote}, s.SoundUpTo N n → J n s →
    q.id=idOf (n+1) → J (n+1) (s.upsertQuote q).2
  upsertInbound : ∀ {n : Nat} {s : Store} {x : InboundShipment} {now : Instant},
    s.SoundUpTo N n → J n s → x.id=idOf (n+1) → J (n+1) (s.upsertInbound x now).2
  recordInboundLabels : ∀ {n : Nat} {s s' : Store} {account : Uuid} {shipmentId : String}
    {labels : InboundLabels} {now : Instant} {x : InboundShipment}, s.SoundUpTo N n → J n s →
    s.recordInboundLabels account shipmentId labels now=some (x, s') → J n s'

theorem Steady.quiet {N : Nat} {J : Nat → Store → Prop} (hJ : Steady N J) : Quiet N J where
  succ := hJ.succ
  applyTokenUpdate := hJ.applyTokenUpdate
  markSynced := hJ.markSynced
  setAccountStatus := hJ.setAccountStatus
  upsertQuote := hJ.upsertQuote
  upsertInbound := hJ.upsertInbound
  recordInboundLabels := hJ.recordInboundLabels

/-! Each write keeps a sound store with a steady property sound and with the property. -/

namespace SoundWith

variable {N n : Nat} {J : Nat → Store → Prop} {s : Store}

section Quiet

variable (hQ : Quiet N J)
include hQ

theorem succ (h : s.SoundWith N J n) : s.SoundWith N J (n+1) := ⟨h.1.succ, hQ.succ h.1 h.2⟩

theorem applyTokenUpdate (h : s.SoundWith N J n) {id : Uuid} {u : TokenUpdate} {now : Instant}
    {r : ChannelAccount × Store} (hm : s.applyTokenUpdate id u now=.ok r) : r.2.SoundWith N J n :=
  ⟨h.1.applyTokenUpdate hm, hQ.applyTokenUpdate h.1 h.2 hm⟩

theorem markSynced (h : s.SoundWith N J n) {id : Uuid} {at_ : Instant} {s' : Store}
    (hm : s.markSynced id at_=.ok s') : s'.SoundWith N J n :=
  ⟨h.1.markSynced hm, hQ.markSynced h.1 h.2 hm⟩

theorem setAccountStatus (h : s.SoundWith N J n) {id : Uuid} {st : AccountStatus} {now : Instant}
    {s' : Store} (hm : s.setAccountStatus id st now=.ok s') : s'.SoundWith N J n :=
  ⟨h.1.setAccountStatus hm, hQ.setAccountStatus h.1 h.2 hm⟩

theorem upsertQuote (h : s.SoundWith N J n) {q : CachedQuote} (hq : q.id=idOf (n+1)) :
    (s.upsertQuote q).2.SoundWith N J (n+1) :=
  ⟨h.1.upsertQuote hq, hQ.upsertQuote h.1 h.2 hq⟩

theorem upsertInbound (h : s.SoundWith N J n) {x : InboundShipment} {now : Instant}
    (hx : x.id=idOf (n+1)) : (s.upsertInbound x now).2.SoundWith N J (n+1) :=
  ⟨h.1.upsertInbound hx, hQ.upsertInbound h.1 h.2 hx⟩

theorem recordInboundLabels (h : s.SoundWith N J n) {account : Uuid} {shipmentId : String}
    {labels : InboundLabels} {now : Instant} {x : InboundShipment} {s' : Store}
    (hr : s.recordInboundLabels account shipmentId labels now=some (x, s')) :
    s'.SoundWith N J n :=
  ⟨h.1.recordInboundLabels hr, hQ.recordInboundLabels h.1 h.2 hr⟩

end Quiet

variable (hJ : Steady N J)
include hJ

theorem upsertAccount (h : s.SoundWith N J n) {a : ChannelAccount} {now : Instant}
    (ha : IssuedUpTo N n a.id) : (s.upsertAccount a now).2.SoundWith N J n :=
  ⟨h.1.upsertAccount ha, hJ.upsertAccount h.1 h.2 ha⟩

theorem deleteAccount (h : s.SoundWith N J n) {id seller : Uuid} {r : Bool × Store}
    (hm : s.deleteAccount id seller=.ok r) : r.2.SoundWith N J n :=
  ⟨h.1.deleteAccount hm, hJ.deleteAccount h.1 h.2 hm⟩

theorem upsertItem (h : s.SoundWith N J n) {seller : Uuid} {sku title : String} {now : Instant} :
    (s.upsertItem seller sku title (idOf (n+1)) now).2.SoundWith N J (n+1) :=
  ⟨h.1.upsertItem, hJ.upsertItem h.1 h.2⟩

theorem upsertItemLink (h : s.SoundWith N J n) {account : ChannelAccount} {link : NewItemLink}
    {now : Instant} : (s.upsertItemLink account link (idOf (n+1)) now).2.SoundWith N J (n+1) :=
  ⟨h.1.upsertItemLink, hJ.upsertItemLink h.1 h.2⟩

theorem touchItemLink (h : s.SoundWith N J n) {id : Uuid} {now : Instant} :
    (s.touchItemLink id now).SoundWith N J n :=
  ⟨h.1.touchItemLink, hJ.touchItemLink h.1 h.2⟩

theorem resolveCustomer (h : s.SoundWith N J n) {seller account : Uuid} {ext : Option String}
    {cand : CustomerCandidate} {now : Instant} :
    (s.resolveCustomer seller account ext cand (idOf (n+1)) now).2.SoundWith N J (n+1) :=
  ⟨h.1.resolveCustomer, hJ.resolveCustomer h.1 h.2⟩

theorem upsertCustomerLink (h : s.SoundWith N J n) {account : ChannelAccount} {customer : Uuid}
    {ext : String} {raw : Json} {now : Instant} :
    (s.upsertCustomerLink account customer ext raw (idOf (n+1)) now).2.SoundWith N J (n+1) :=
  ⟨h.1.upsertCustomerLink, hJ.upsertCustomerLink h.1 h.2⟩

theorem upsertOrder (h : s.SoundWith N J n) {o : StoredOrder} (ho : o.id=idOf (n+1)) :
    (s.upsertOrder o).2.SoundWith N J (n+1) :=
  ⟨h.1.upsertOrder ho, hJ.upsertOrder h.1 h.2 ho⟩

theorem upsertLine (h : s.SoundWith N J n) {l : StoredLine} (hl : l.id=idOf (n+1)) :
    (s.upsertLine l).2.SoundWith N J (n+1) :=
  ⟨h.1.upsertLine hl, hJ.upsertLine h.1 h.2 hl⟩

theorem upsertStock (h : s.SoundWith N J n) {item account : Uuid} {location : Option String}
    {available : Int} {now : Instant} :
    (s.upsertStock item account location available (idOf (n+1)) now).2.SoundWith N J (n+1) :=
  ⟨h.1.upsertStock, hJ.upsertStock h.1 h.2⟩

theorem eraseIdentity (h : s.SoundWith N J n) {m : Marketplace} {ext : String} {now : Instant} :
    (s.eraseIdentity m ext (idOf (n+1)) now).2.SoundWith N J (n+1) :=
  ⟨h.1.eraseIdentity, hJ.eraseIdentity h.1 h.2⟩

end SoundWith

end Store

namespace SyncM

variable {α : Type}

theorem triple_of_keeps {P : Service → Prop} {x : SyncM α}
    (h : ∀ c σ, P σ → P ((x.run c).run.run σ).2) :
    ⦃fun _ σ => ⌜P σ⌝⦄ x ⦃post⟨fun _ _ σ => ⌜P σ⌝, fun _ σ => ⌜P σ⌝⟩⦄ := by
  intro c σ hσ
  have hk := h c σ hσ
  rcases hx : x c σ with ⟨r, σ'⟩
  simp only [wp, StateT.run, ExceptT.run, ReaderT.run, PredTrans.apply_pushArg,
    PredTrans.apply_Functor_map, PredTrans.apply_pushExcept, hx, PredTrans.apply_Pure_pure]
  simp only [ReaderT.run, ExceptT.run, StateT.run, hx] at hk
  cases r <;> exact hk

theorem soundWith_of_holds {N : Nat} {I : Store → Prop} {x : SyncM α}
    (hg : ⦃fun _ σ => ⌜σ.Good N⌝⦄ x ⦃post⟨fun _ _ σ => ⌜σ.Good N⌝, fun _ σ => ⌜σ.Good N⌝⟩⦄)
    (hi : ⦃fun _ σ => ⌜σ.Holds I⌝⦄ x ⦃post⟨fun _ _ σ => ⌜σ.Holds I⌝, fun _ σ => ⌜σ.Holds I⌝⟩⦄) :
    ⦃fun _ σ => ⌜σ.SoundWith N fun _ s => I s⌝⦄ x
      ⦃post⟨fun _ _ σ => ⌜σ.SoundWith N fun _ s => I s⌝,
        fun _ σ => ⌜σ.SoundWith N fun _ s => I s⌝⟩⦄ :=
  triple_of_keeps fun c _ h => ⟨keeps_of_triple hg c h.1, keeps_of_triple hi c h.2⟩

@[spec high] theorem forIn_holds (I : Store → Prop) {β : Type} {xs : List α} {init : β}
    {f : α → β → SyncM (ForInStep β)}
    (step : ∀ x b, ⦃fun _ σ => ⌜σ.Holds I⌝⦄ f x b
      ⦃post⟨fun _ _ σ => ⌜σ.Holds I⌝, fun _ σ => ⌜σ.Holds I⌝⟩⦄) :
    ⦃fun _ σ => ⌜σ.Holds I⌝⦄ forIn xs init f
      ⦃post⟨fun _ _ σ => ⌜σ.Holds I⌝, fun _ σ => ⌜σ.Holds I⌝⟩⦄ := by
  mvcgen [step, -SyncM.forIn_good] invariants
    · post⟨fun _ _ σ => ⌜σ.Holds I⌝, fun _ σ => ⌜σ.Holds I⌝⟩
  with
  | vc2 => exact id
  | vc5 r =>
    intro _ _ h
    cases r <;> exact h

@[spec high] theorem forIn_soundWith (N : Nat) (J : Nat → Store → Prop) {β : Type} {xs : List α}
    {init : β} {f : α → β → SyncM (ForInStep β)}
    (step : ∀ x b, ⦃fun _ σ => ⌜σ.SoundWith N J⌝⦄ f x b
      ⦃post⟨fun _ _ σ => ⌜σ.SoundWith N J⌝, fun _ σ => ⌜σ.SoundWith N J⌝⟩⦄) :
    ⦃fun _ σ => ⌜σ.SoundWith N J⌝⦄ forIn xs init f
      ⦃post⟨fun _ _ σ => ⌜σ.SoundWith N J⌝, fun _ σ => ⌜σ.SoundWith N J⌝⟩⦄ := by
  mvcgen [step, -SyncM.forIn_good, -forIn_holds] invariants
    · post⟨fun _ _ σ => ⌜σ.SoundWith N J⌝, fun _ σ => ⌜σ.SoundWith N J⌝⟩
  with
  | vc2 => exact id
  | vc5 r =>
    intro _ _ h
    cases r <;> exact h

end SyncM

namespace Store.Steady

theorem of_stable {N : Nat} {I : Store → Prop} (hI : Stable I)
    (ha : ∀ {s : Store} (x : AuditLine), I s → I (s.upsertAudit x).2)
    (hl : ∀ {s : Store} (l : ShippingLabel), I s → I (s.upsertLabel l).2) :
    Steady N fun _ s => I s where
  succ _ h := h
  upsertAccount _ h _ := hI.upsertAccount _ _ h
  applyTokenUpdate _ h hm := hI.applyTokenUpdate h hm
  markSynced _ h hm := hI.markSynced h hm
  setAccountStatus _ h hm := hI.setAccountStatus h hm
  deleteAccount _ h hm := hI.deleteAccount h hm
  upsertItem _ h := hI.upsertItem _ _ _ _ _ h
  upsertItemLink _ h := hI.upsertItemLink _ _ _ _ h
  touchItemLink _ h := hI.touchItemLink _ _ h
  resolveCustomer _ h := hI.resolveCustomer _ _ _ _ _ _ h
  upsertCustomerLink _ h := hI.upsertCustomerLink _ _ _ _ _ _ h
  upsertOrder _ h _ := hI.upsertOrder _ h
  upsertLine _ h _ := hI.upsertLine _ h
  upsertStock _ h := hI.upsertStock _ _ _ _ _ _ h
  upsertQuote _ h _ := hI.upsertQuote _ h
  upsertInbound _ h _ := hI.upsertInbound _ _ h
  recordInboundLabels _ h hr := hI.recordInboundLabels h hr
  eraseIdentity _ h := hI.eraseIdentity _ _ _ _ h
  projectAudit := Pipeline.projectAudit_preserves (P := fun n s => s.SoundWith N (fun _ s => I s) n)
    (fun h => ⟨h.1.succ, h.2⟩) fun h hx => ⟨h.1.upsertAudit (hx ▸ issuedUpTo_next), ha _ h.2⟩
  recordLabel a input := by
    refine SyncM.soundWith_of_holds (Pipeline.recordLabel_sound N a input) ?_
    mvcgen [Pipeline.recordLabel, -Pipeline.recordLabel_sound, -SyncM.forIn_good,
      -SyncM.forIn_soundWith]
      with solve_by_elim

theorem of_upTo {N : Nat} {I : Store → Prop} (hI : Stable I)
    (hpa : ∀ (a : ChannelAccount) (stored : StoredOrder) (o : IncomingOrder) (src : IngestSource),
      ⦃fun _ σ => ⌜σ.SoundWith N fun n s => Distinct N → n ≤ N → I s⌝⦄
        Pipeline.projectAudit a stored o src
        ⦃post⟨fun _ _ σ => ⌜σ.SoundWith N fun n s => Distinct N → n ≤ N → I s⌝,
          fun _ σ => ⌜σ.SoundWith N fun n s => Distinct N → n ≤ N → I s⌝⟩⦄)
    (hrl : ∀ (a : ChannelAccount) (input : LabelInput),
      ⦃fun _ σ => ⌜σ.SoundWith N fun n s => Distinct N → n ≤ N → I s⌝⦄
        Pipeline.recordLabel a input
        ⦃post⟨fun _ _ σ => ⌜σ.SoundWith N fun n s => Distinct N → n ≤ N → I s⌝,
          fun _ σ => ⌜σ.SoundWith N fun n s => Distinct N → n ≤ N → I s⌝⟩⦄) :
    Steady N fun n s => Distinct N → n ≤ N → I s where
  succ _ h hd hn := h hd (by omega)
  upsertAccount _ h _ hd hn := hI.upsertAccount _ _ (h hd hn)
  applyTokenUpdate _ h hm hd hn := hI.applyTokenUpdate (h hd hn) hm
  markSynced _ h hm hd hn := hI.markSynced (h hd hn) hm
  setAccountStatus _ h hm hd hn := hI.setAccountStatus (h hd hn) hm
  deleteAccount _ h hm hd hn := hI.deleteAccount (h hd hn) hm
  upsertItem _ h hd hn := hI.upsertItem _ _ _ _ _ (h hd (by omega))
  upsertItemLink _ h hd hn := hI.upsertItemLink _ _ _ _ (h hd (by omega))
  touchItemLink _ h hd hn := hI.touchItemLink _ _ (h hd hn)
  resolveCustomer _ h hd hn := hI.resolveCustomer _ _ _ _ _ _ (h hd (by omega))
  upsertCustomerLink _ h hd hn := hI.upsertCustomerLink _ _ _ _ _ _ (h hd (by omega))
  upsertOrder _ h _ hd hn := hI.upsertOrder _ (h hd (by omega))
  upsertLine _ h _ hd hn := hI.upsertLine _ (h hd (by omega))
  upsertStock _ h hd hn := hI.upsertStock _ _ _ _ _ _ (h hd (by omega))
  upsertQuote _ h _ hd hn := hI.upsertQuote _ (h hd (by omega))
  upsertInbound _ h _ hd hn := hI.upsertInbound _ _ (h hd (by omega))
  recordInboundLabels _ h hr hd hn := hI.recordInboundLabels (h hd hn) hr
  eraseIdentity _ h hd hn := hI.eraseIdentity _ _ _ _ (h hd (by omega))
  projectAudit := hpa
  recordLabel := hrl

end Store.Steady

/-! ### Every call keeps a sound store with a steady property

The footprint triples at a sound store with a property: the calls that write no order, item,
customer or link keep it when the property is quiet, every call when it is steady. -/

section

variable {N : Nat} {J : Nat → Store → Prop}

theorem Store.Quiet.tokensKept (hQ : Store.Quiet N J) :
    Store.TokensKept fun n s => s.SoundWith N J n :=
  fun _ _ _ _ _ _ h hm => Store.SoundWith.applyTokenUpdate hQ h hm

theorem Store.Steady.writes (hJ : Store.Steady N J) :
    Store.Writes N fun n s => s.SoundWith N J n where
  succ h := Store.SoundWith.succ hJ.quiet h
  upsertItem h := Store.SoundWith.upsertItem hJ h
  upsertItemLink h := Store.SoundWith.upsertItemLink hJ h
  touchItemLink h := Store.SoundWith.touchItemLink hJ h
  resolveCustomer h := Store.SoundWith.resolveCustomer hJ h
  upsertCustomerLink h := Store.SoundWith.upsertCustomerLink hJ h
  upsertOrder h ho := Store.SoundWith.upsertOrder hJ h ho
  upsertLine h hl := Store.SoundWith.upsertLine hJ h hl
  upsertStock h := Store.SoundWith.upsertStock hJ h
  projectAudit := hJ.projectAudit
  sound h := h.1
  tokens := hJ.quiet.tokensKept
  markSynced h hm := Store.SoundWith.markSynced hJ.quiet h hm
  setAccountStatus h hm := Store.SoundWith.setAccountStatus hJ.quiet h hm
  upsertAccount h ha := Store.SoundWith.upsertAccount hJ h ha
  deleteAccount h hm := Store.SoundWith.deleteAccount hJ h hm
  upsertQuote h hq := Store.SoundWith.upsertQuote hJ.quiet h hq
  upsertInbound h hx := Store.SoundWith.upsertInbound hJ.quiet h hx
  recordInboundLabels h hr := Store.SoundWith.recordInboundLabels hJ.quiet h hr
  eraseIdentity h := Store.SoundWith.eraseIdentity hJ h
  recordLabel := hJ.recordLabel

theorem Credential.exchangeCode_kept (t : OAuthTransaction) (code : String) :
    ⦃fun _ σ => ⌜σ.SoundWith N J⌝⦄ Credential.exchangeCode t code
      ⦃post⟨fun _ _ σ => ⌜σ.SoundWith N J⌝, fun _ σ => ⌜σ.SoundWith N J⌝⟩⦄ :=
  Credential.exchangeCode_preserves t code

theorem QuoteProvider.quote_kept (p : QuoteProvider) (request : QuoteRequest) :
    ⦃fun _ σ => ⌜σ.SoundWith N J⌝⦄ p.quote request
      ⦃post⟨fun _ _ σ => ⌜σ.SoundWith N J⌝, fun _ σ => ⌜σ.SoundWith N J⌝⟩⦄ :=
  QuoteProvider.quote_preserves p request

theorem Connect.begin_kept (request : NewAuthorization) :
    ⦃fun _ σ => ⌜σ.SoundWith N J⌝⦄ Connect.begin request
      ⦃post⟨fun _ _ σ => ⌜σ.SoundWith N J⌝, fun _ σ => ⌜σ.SoundWith N J⌝⟩⦄ :=
  Connect.begin_preserves request

theorem Connect.consume_kept (nonce : String) (m : Marketplace) :
    ⦃fun _ σ => ⌜σ.SoundWith N J⌝⦄ Connect.consume nonce m
      ⦃post⟨fun _ _ σ => ⌜σ.SoundWith N J⌝, fun _ σ => ⌜σ.SoundWith N J⌝⟩⦄ :=
  Connect.consume_preserves nonce m

variable (hQ : Store.Quiet N J)
include hQ

theorem Subscriptions.register_kept (account : ChannelAccount) (address : String) :
    ⦃fun _ σ => ⌜σ.SoundWith N J⌝⦄ Subscriptions.register account address
      ⦃post⟨fun _ _ σ => ⌜σ.SoundWith N J⌝, fun _ σ => ⌜σ.SoundWith N J⌝⟩⦄ :=
  Subscriptions.register_preserves hQ.tokensKept account address

theorem QuoteCache.getOrCreate_kept (request : QuoteRequest) (fetch : SyncM FetchedQuote)
    (hf : ⦃fun _ σ => ⌜σ.SoundWith N J⌝⦄ fetch
      ⦃post⟨fun _ _ σ => ⌜σ.SoundWith N J⌝, fun _ σ => ⌜σ.SoundWith N J⌝⟩⦄) :
    ⦃fun _ σ => ⌜σ.SoundWith N J⌝⦄ QuoteCache.getOrCreate request fetch
      ⦃post⟨fun _ _ σ => ⌜σ.SoundWith N J⌝, fun _ σ => ⌜σ.SoundWith N J⌝⟩⦄ :=
  QuoteCache.getOrCreate_preserves (P := fun n s => s.SoundWith N J n)
    (fun h hq => Store.SoundWith.upsertQuote hQ h hq) request fetch hf

theorem Amazon.createInboundShipment_kept (account : ChannelAccount)
    (request : Amazon.InboundShipmentRequest) :
    ⦃fun _ σ => ⌜σ.SoundWith N J⌝⦄ Amazon.createInboundShipment account request
      ⦃post⟨fun _ _ σ => ⌜σ.SoundWith N J⌝, fun _ σ => ⌜σ.SoundWith N J⌝⟩⦄ :=
  Amazon.createInboundShipment_preserves hQ.tokensKept
    (fun h hx => Store.SoundWith.upsertInbound hQ h hx) account request

theorem Amazon.fetchInboundLabels_kept (account : ChannelAccount) (shipmentId : String)
    (request : Amazon.LabelRequest) :
    ⦃fun _ σ => ⌜σ.SoundWith N J⌝⦄ Amazon.fetchInboundLabels account shipmentId request
      ⦃post⟨fun _ _ σ => ⌜σ.SoundWith N J⌝, fun _ σ => ⌜σ.SoundWith N J⌝⟩⦄ :=
  Amazon.fetchInboundLabels_preserves hQ.tokensKept
    (fun h hr => Store.SoundWith.recordInboundLabels hQ h hr) account shipmentId request

namespace Pull

theorem shopify_kept (account : ChannelAccount) (since : Instant)
    (hp : ∀ p, ⦃fun _ σ => ⌜σ.SoundWith N J⌝⦄ Pipeline.applyProduct account p
        ⦃post⟨fun _ _ σ => ⌜σ.SoundWith N J⌝, fun _ σ => ⌜σ.SoundWith N J⌝⟩⦄)
    (ho : ∀ orders src, ⦃fun _ σ => ⌜σ.SoundWith N J⌝⦄ Pipeline.applyRawOrders account orders src
        ⦃post⟨fun _ _ σ => ⌜σ.SoundWith N J⌝, fun _ σ => ⌜σ.SoundWith N J⌝⟩⦄)
    (hs : ∀ st, ⦃fun _ σ => ⌜σ.SoundWith N J⌝⦄ Pipeline.applyStock account st
        ⦃post⟨fun _ _ σ => ⌜σ.SoundWith N J⌝, fun _ σ => ⌜σ.SoundWith N J⌝⟩⦄) :
    ⦃fun _ σ => ⌜σ.SoundWith N J⌝⦄ shopify account since
      ⦃post⟨fun _ _ σ => ⌜σ.SoundWith N J⌝, fun _ σ => ⌜σ.SoundWith N J⌝⟩⦄ :=
  shopify_preserves hQ.tokensKept account since hp ho hs

theorem ebay_kept (account : ChannelAccount) (since : Instant)
    (ho : ∀ orders src, ⦃fun _ σ => ⌜σ.SoundWith N J⌝⦄ Pipeline.applyRawOrders account orders src
        ⦃post⟨fun _ _ σ => ⌜σ.SoundWith N J⌝, fun _ σ => ⌜σ.SoundWith N J⌝⟩⦄)
    (hs : ∀ st, ⦃fun _ σ => ⌜σ.SoundWith N J⌝⦄ Pipeline.applyStock account st
        ⦃post⟨fun _ _ σ => ⌜σ.SoundWith N J⌝, fun _ σ => ⌜σ.SoundWith N J⌝⟩⦄) :
    ⦃fun _ σ => ⌜σ.SoundWith N J⌝⦄ ebay account since
      ⦃post⟨fun _ _ σ => ⌜σ.SoundWith N J⌝, fun _ σ => ⌜σ.SoundWith N J⌝⟩⦄ :=
  ebay_preserves hQ.tokensKept account since ho hs

theorem amazon_kept (account : ChannelAccount) (since : Instant)
    (ho : ∀ orders src, ⦃fun _ σ => ⌜σ.SoundWith N J⌝⦄ Pipeline.applyRawOrders account orders src
        ⦃post⟨fun _ _ σ => ⌜σ.SoundWith N J⌝, fun _ σ => ⌜σ.SoundWith N J⌝⟩⦄) :
    ⦃fun _ σ => ⌜σ.SoundWith N J⌝⦄ amazon account since
      ⦃post⟨fun _ _ σ => ⌜σ.SoundWith N J⌝, fun _ σ => ⌜σ.SoundWith N J⌝⟩⦄ :=
  amazon_preserves hQ.tokensKept account since ho

end Pull

end

theorem Reachable.soundWith {N : Nat} {J : Nat → Store → Prop} (hJ : Store.Steady N J)
    (h0 : J 0 {}) {σ : Service} (h : Reachable σ) : σ.SoundWith N J :=
  Reachable.has hJ.writes ⟨Store.SoundUpTo.empty, h0⟩ h

end SellerSync
