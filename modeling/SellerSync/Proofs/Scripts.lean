import Mathlib
import SellerSync.Pipeline.Threads
import SellerSync.Proofs.Webhooks
import SellerSync.Proofs.Retries
/-! Scripts and the programs they stand for. Run by a service, the script of each ingestion is that
ingestion, call for call: `Ingestion.toSyncM_script`. -/
namespace SellerSync

namespace SyncM

theorem ext {x y : SyncM α} (h : ∀ c σ, (x.run c).run.run σ = (y.run c).run.run σ) : x = y := by
  funext c σ
  exact h c σ

theorem throw_bind (e : SyncError) (f : α → SyncM β) : (throw e : SyncM α) >>= f = throw e :=
  ext fun c σ => by rw [run_bind]; rfl

theorem onStore_read (f : Store → α) : onStore (fun s => (f s, s)) = f <$> store :=
  ext fun _ _ => rfl

theorem onStore_write (f : Store → Store) :
    onStore (fun s => ((), f s)) = store >>= fun s => setStore (f s) :=
  ext fun _ _ => rfl

end SyncM

namespace Script

@[simp] theorem toSyncM_pure (a : α) : toSyncM (pure a) = pure a := rfl

@[simp] theorem toSyncM_bind (x : Script α) (f : α → Script β) :
    toSyncM (x >>= f) = toSyncM x >>= fun a => toSyncM (f a) := by
  induction x with
  | done a => exact (pure_bind (m := SyncM) a fun a => toSyncM (f a)).symm
  | fail e => exact (SyncM.throw_bind e _).symm
  | fresh k ih =>
    show (SyncM.freshId >>= fun u => toSyncM (k u >>= f)) = _
    simp only [ih, toSyncM, bind_assoc]
  | clock k ih =>
    show (SyncM.now >>= fun t => toSyncM (k t >>= f)) = _
    simp only [ih, toSyncM, bind_assoc]
  | call c k ih =>
    show (SyncM.onStore c.run >>= fun r => toSyncM (k r >>= f)) = _
    simp only [ih, toSyncM, bind_assoc]

@[simp] theorem toSyncM_map (f : α → β) (x : Script α) : toSyncM (f <$> x) = f <$> toSyncM x := by
  show toSyncM (x >>= fun a => pure (f a)) = _
  rw [toSyncM_bind, map_eq_pure_bind]
  rfl

@[simp] theorem toSyncM_freshId : toSyncM freshId = SyncM.freshId := bind_pure _

@[simp] theorem toSyncM_now : toSyncM now = SyncM.now := bind_pure _

@[simp] theorem toSyncM_perform (c : Store.Call) : toSyncM (perform c) = SyncM.onStore c.run :=
  bind_pure _

@[simp] theorem toSyncM_expect (r : Except SyncError α) : toSyncM (expect r) = SyncM.expect r := by
  cases r <;> rfl

@[simp] theorem toSyncM_tryCatch (x : Script α) (h : SyncError → Script α) :
    toSyncM (MonadExcept.tryCatch x h) = MonadExcept.tryCatch (toSyncM x) fun e => toSyncM (h e) := by
  induction x with
  | done a => exact SyncM.ext fun c σ => by rw [SyncM.tryCatch_run]; rfl
  | fail e => exact SyncM.ext fun c σ => by rw [SyncM.tryCatch_run]; rfl
  | fresh k ih =>
    refine SyncM.ext fun c σ => ?_
    show ((SyncM.freshId >>= fun u => toSyncM (tryCatch (k u) h)).run c).run.run σ = _
    rw [SyncM.run_bind, SyncM.tryCatch_run, toSyncM, SyncM.run_bind]
    simp only [SyncM.freshId_run, ← SyncM.tryCatch_run, ← ih]
    rfl
  | clock k ih =>
    refine SyncM.ext fun c σ => ?_
    show ((SyncM.now >>= fun t => toSyncM (tryCatch (k t) h)).run c).run.run σ = _
    rw [SyncM.run_bind, SyncM.tryCatch_run, toSyncM, SyncM.run_bind]
    simp only [SyncM.now_run, ← SyncM.tryCatch_run, ← ih]
    rfl
  | call d k ih =>
    refine SyncM.ext fun c σ => ?_
    show ((SyncM.onStore d.run >>= fun r => toSyncM (tryCatch (k r) h)).run c).run.run σ = _
    rw [SyncM.run_bind, SyncM.tryCatch_run, toSyncM, SyncM.run_bind]
    simp only [SyncM.onStore_run, ← SyncM.tryCatch_run, ← ih]
    rfl

theorem toSyncM_forIn (xs : List γ) (b : β) (f : γ → β → Script (ForInStep β)) :
    toSyncM (forIn xs b f) = forIn xs b fun x b => toSyncM (f x b) := by
  induction xs generalizing b with
  | nil => rfl
  | cons x xs ih =>
    simp only [List.forIn_cons, toSyncM_bind]
    congr 1
    funext r
    cases r with
    | done b => rfl
    | yield b => exact ih b

/-! Reads and writes of the store. Stated at the answer's own type, which is how a script's
binds see it. -/

theorem toSyncM_findItemLink (a : Uuid) (e : String) :
    @toSyncM (Option ItemLink) (perform (.findItemLink a e)) = (·.findItemLink a e) <$> SyncM.store :=
  (toSyncM_perform _).trans (SyncM.onStore_read _)

theorem toSyncM_touchItemLink (id : Uuid) (t : Instant) :
    @toSyncM Unit (perform (.touchItemLink id t)) =
      SyncM.store >>= fun s => SyncM.setStore (s.touchItemLink id t) :=
  (toSyncM_perform _).trans (SyncM.onStore_write _)

theorem toSyncM_upsertLabel (l : ShippingLabel) :
    @toSyncM ShippingLabel (perform (.upsertLabel l)) = SyncM.onStore (·.upsertLabel l) :=
  toSyncM_perform _

theorem toSyncM_auditForOrder (o : Uuid) :
    @toSyncM (List AuditLine) (perform (.auditForOrder o)) = (·.auditForOrder o) <$> SyncM.store :=
  (toSyncM_perform _).trans (SyncM.onStore_read _)

/-! Each ingestion and the recording of a label, call for call. -/

theorem toSyncM_resolveCustomer (a : ChannelAccount) (o : IncomingOrder) :
    (resolveCustomer a o).toSyncM = Pipeline.resolveCustomer a o := by
  unfold resolveCustomer Pipeline.resolveCustomer
  cases o.customer with
  | none => rfl
  | some c =>
    simp only
    split
    · rfl
    · simp only [toSyncM_bind, toSyncM_freshId, toSyncM_now]
      cases c.externalId <;> rfl

theorem toSyncM_resolveLineItem (a : ChannelAccount) (l : IncomingLine) :
    (resolveLineItem a l).toSyncM = Pipeline.resolveLineItem a l := by
  unfold resolveLineItem Pipeline.resolveLineItem
  cases l.externalItemId with
  | none => cases l.sku <;> rfl
  | some ext =>
    simp only [toSyncM_bind, toSyncM_findItemLink, map_eq_pure_bind, bind_assoc, pure_bind]
    refine congrArg (SyncM.store >>= ·) (funext fun s => ?_)
    cases s.findItemLink a.id ext with
    | some m => simp only [toSyncM_bind, toSyncM_now, toSyncM_touchItemLink, bind_assoc, toSyncM_pure]
    | none => cases l.sku <;> rfl

theorem toSyncM_projectAudit (a : ChannelAccount) (stored : StoredOrder) (o : IncomingOrder)
    (src : IngestSource) :
    (projectAudit a stored o src).toSyncM = Pipeline.projectAudit a stored o src := by
  unfold projectAudit Pipeline.projectAudit
  simp only [toSyncM_bind, toSyncM_forIn, toSyncM_expect, toSyncM_freshId, toSyncM_now, perform,
    toSyncM, bind_pure]
  rfl

theorem toSyncM_applyOrder (a : ChannelAccount) (o : IncomingOrder) (src : IngestSource) :
    (applyOrder a o src).toSyncM = Pipeline.applyOrder a o src := by
  unfold applyOrder Pipeline.applyOrder
  simp only [toSyncM_bind, toSyncM_forIn, toSyncM_resolveCustomer, toSyncM_resolveLineItem,
    toSyncM_projectAudit, toSyncM_freshId, toSyncM_now, perform, toSyncM, bind_pure]
  rfl

theorem toSyncM_applyRawOrders (a : ChannelAccount) (orders : List RawOrder) (src : IngestSource) :
    (applyRawOrders a orders src).toSyncM = Pipeline.applyRawOrders a orders src := by
  unfold applyRawOrders Pipeline.applyRawOrders
  simp only [toSyncM_bind, toSyncM_forIn, toSyncM_pure, bind_pure]
  refine congrArg (forIn (m := SyncM) orders ({} : BatchSummary)) (funext fun raw => funext fun summary => ?_)
  cases raw.translate with
  | error e => rfl
  | ok order =>
    simp only [toSyncM_bind, toSyncM_tryCatch, toSyncM_applyOrder, toSyncM_pure,
      apply_ite toSyncM]

theorem toSyncM_applyProduct (a : ChannelAccount) (p : IncomingProduct) :
    (applyProduct a p).toSyncM = Pipeline.applyProduct a p := by
  unfold applyProduct Pipeline.applyProduct
  simp only [toSyncM_bind, toSyncM_forIn, toSyncM_pure, bind_pure]
  refine congrArg (forIn (m := SyncM) p.variants ({} : ProductOutcome)) (funext fun v => funext fun outcome => ?_)
  cases v.sku with
  | none => rfl
  | some sku =>
    simp only [toSyncM_bind, toSyncM_freshId, toSyncM_now, perform, toSyncM, bind_pure]
    rfl

theorem toSyncM_applyStock (a : ChannelAccount) (x : IncomingStock) :
    (applyStock a x).toSyncM = Pipeline.applyStock a x := by
  unfold applyStock Pipeline.applyStock
  cases x.externalVariantId with
  | some ext =>
    simp only [toSyncM_bind, toSyncM_findItemLink, map_eq_pure_bind, bind_assoc, pure_bind]
    refine congrArg (SyncM.store >>= ·) (funext fun s => ?_)
    cases s.findItemLink a.id ext with
    | none => rfl
    | some m =>
      simp only [toSyncM_bind, toSyncM_now, toSyncM_touchItemLink, bind_assoc]
      cases x.available <;> rfl
  | none =>
    cases x.sku with
    | none => rfl
    | some sku =>
      simp only [toSyncM_bind, toSyncM_freshId, toSyncM_now, perform, toSyncM, bind_pure]
      cases x.available <;> rfl
theorem toSyncM_recordLabel (a : ChannelAccount) (input : LabelInput) :
    (recordLabel a input).toSyncM = Pipeline.recordLabel a input := by
  unfold recordLabel Pipeline.recordLabel
  simp only [toSyncM_bind, toSyncM_freshId, toSyncM_upsertLabel]
  refine congrArg (SyncM.freshId >>= ·) (funext fun fresh => ?_)
  refine congrArg (SyncM.onStore _ >>= ·) (funext fun label => ?_)
  cases label.orderId with
  | none => rfl
  | some o =>
    simp only [toSyncM_bind, toSyncM_auditForOrder, toSyncM_forIn, toSyncM_now, toSyncM_pure,
      map_eq_pure_bind, bind_assoc, pure_bind]
    simp only [perform, toSyncM, bind_pure]
    rfl

theorem runOut_service (s : Script α) (c : Context) (σ : Service) :
    (s.runOut (fun n => Service.idOf (σ.issued+1+n)) (fun n => Service.readingOf c.origin (σ.readings+1+n))
        σ.store).1.script.outcome? = some ((s.toSyncM.run c).run.run σ).1 ∧
      (s.runOut (fun n => Service.idOf (σ.issued+1+n))
        (fun n => Service.readingOf c.origin (σ.readings+1+n)) σ.store).2 =
        ((s.toSyncM.run c).run.run σ).2.store := by
  induction s generalizing σ with
  | done a => exact ⟨rfl, rfl⟩
  | fail e => exact ⟨rfl, rfl⟩
  | fresh k ih =>
    have h := ih (Service.idOf (σ.issued+1)) { σ with issued := σ.issued+1 }
    have hids : (fun n => Service.idOf (σ.issued+1+(n+1))) = fun n => Service.idOf (σ.issued+1+1+n) := by
      funext n
      congr 1
      omega
    dsimp only at h
    simp only [runOut, toSyncM, SyncM.run_bind, SyncM.freshId_run, Nat.add_zero, hids]
    exact h
  | clock k ih =>
    have h := ih (Service.readingOf c.origin (σ.readings+1)) { σ with readings := σ.readings+1 }
    have hreads : (fun n => Service.readingOf c.origin (σ.readings+1+(n+1))) =
        fun n => Service.readingOf c.origin (σ.readings+1+1+n) := by
      funext n
      congr 1
      omega
    dsimp only at h
    simp only [runOut, toSyncM, SyncM.run_bind, SyncM.now_run, Nat.add_zero, hreads]
    exact h
  | call d k ih =>
    have h := ih (d.run σ.store).1 { σ with store := (d.run σ.store).2 }
    dsimp only at h
    simp only [runOut, toSyncM, SyncM.run_bind, SyncM.onStore_run]
    exact h

end Script

namespace Ingestion

/-- Run by a service, the script of an ingestion is the ingestion. -/
theorem toSyncM_script (a : ChannelAccount) (i : Ingestion) : (i.script a).toSyncM = i.run a := by
  cases i with
  | order o src => exact Script.toSyncM_applyOrder a o src
  | rawOrders orders src => exact Script.toSyncM_applyRawOrders a orders src
  | product p => exact Script.toSyncM_applyProduct a p
  | stock x => exact Script.toSyncM_applyStock a x

theorem runOut_run (a : ChannelAccount) (i : Ingestion) (c : Context) (σ : Service) :
    let t : Thread i.Answer := ⟨i.script a, fun n => Service.idOf (σ.issued+1+n),
      fun n => Service.readingOf c.origin (σ.readings+1+n)⟩
    (t.runOut σ.store).1.script.outcome? = some (((i.run a).run c).run.run σ).1 ∧
      (t.runOut σ.store).2 = (((i.run a).run c).run.run σ).2.store := by
  intro t
  rw [← toSyncM_script]
  exact (i.script a).runOut_service c σ

end Ingestion

end SellerSync
