import Mathlib
import SellerSync.Proofs.AccountCalls
import SellerSync.Pipeline.Threads
/-! Ingestions keep to their account. -/
namespace SellerSync.Script

open Store

/-- Every call the script makes fits the account, with the ids it draws from `F` and the rows it
learns of from the answers added to those it knows. -/
def Safe (g : ChannelAccount) (F : Uuid → Prop) : List Known → Script α → Prop
  | _, done _ => True
  | _, fail _ => True
  | known, fresh k => ∀ u, F u → Safe g F known (k u)
  | known, clock k => ∀ t, Safe g F known (k t)
  | known, call c k => c.Fits g F known ∧ ∀ r, Safe g F (c.learns r ++ known) (k r)

variable {g : ChannelAccount} {F : Uuid → Prop} {known known' : List Known}

/-! Reading a script's safety off its first step. -/

@[simp] theorem done_bind (a : α) (f : α → Script β) : (done a >>= f)=f a := rfl

@[simp] theorem bind_done (a : α) (f : α → Script β) : (done a).bind f=f a := rfl

@[simp] theorem safe_fresh_bind (f : Uuid → Script α) :
    Safe g F known (freshId >>= f) ↔ ∀ u, F u → Safe g F known (f u) := Iff.rfl

@[simp] theorem safe_now_bind (f : Instant → Script α) :
    Safe g F known (now >>= f) ↔ ∀ t, Safe g F known (f t) := Iff.rfl

@[simp] theorem safe_call_bind (c : Call) (k : c.Result → Script β) (f : β → Script α) :
    Safe g F known (call c k >>= f) ↔
      c.Fits g F known ∧ ∀ r, Safe g F (c.learns r ++ known) (k r >>= f) := Iff.rfl

@[simp] theorem safe_expect_bind (r : Except SyncError α) (f : α → Script β) :
    Safe g F known (expect r >>= f) ↔ ∀ a, r=.ok a → Safe g F known (f a) := by
  cases r with
  | error e => exact iff_of_true trivial fun _ h => nomatch h
  | ok a => exact ⟨fun h _ he => by cases he; exact h, fun h => h a rfl⟩

/-! Safety of a script is kept by learning more, and built up through binds, loops and
handlers. -/

theorem Safe.mono {x : Script α} (h : Safe g F known x) (hk : ∀ y∈known, y∈known') :
    Safe g F known' x := by
  induction x generalizing known known' with
  | done _ => trivial
  | fail _ => trivial
  | fresh k ih => exact fun u hu => ih u (h u hu) hk
  | clock k ih => exact fun t => ih t (h t) hk
  | call c k ih =>
    exact ⟨h.1.mono hk, fun r => ih r (h.2 r) fun y hy =>
      List.mem_append.2 ((List.mem_append.1 hy).imp id (hk y))⟩

theorem Safe.bind {x : Script α} {f : α → Script β} (hx : Safe g F known x)
    (hf : ∀ a, Safe g F known (f a)) : Safe g F known (x >>= f) := by
  induction x generalizing known with
  | done a => exact hf a
  | fail _ => trivial
  | fresh k ih => exact fun u hu => ih u (hx u hu) hf
  | clock k ih => exact fun t => ih t (hx t) hf
  | call c k ih =>
    exact ⟨hx.1, fun r => ih r (hx.2 r) fun a => (hf a).mono fun _ hy => List.mem_append_right _ hy⟩

theorem Safe.map {x : Script α} {f : α → β} (hx : Safe g F known x) : Safe g F known (f <$> x) :=
  hx.bind fun _ => trivial

theorem Safe.tryCatch {x : Script α} {h : SyncError → Script α} (hx : Safe g F known x)
    (hh : ∀ e, Safe g F known (h e)) : Safe g F known (tryCatch x h) := by
  induction x generalizing known with
  | done a => trivial
  | fail e => exact hh e
  | fresh k ih => exact fun u hu => ih u (hx u hu) hh
  | clock k ih => exact fun t => ih t (hx t) hh
  | call c k ih =>
    exact ⟨hx.1, fun r => ih r (hx.2 r) fun e => (hh e).mono fun _ hy => List.mem_append_right _ hy⟩

theorem Safe.forIn {xs : List γ} {b : β} {f : γ → β → Script (ForInStep β)}
    (hf : ∀ x∈xs, ∀ b, Safe g F known (f x b)) : Safe g F known (forIn xs b f) := by
  induction xs generalizing b with
  | nil => trivial
  | cons x xs ih =>
    rw [List.forIn_cons]
    refine (hf x List.mem_cons_self b).bind fun r => ?_
    cases r with
    | done b => trivial
    | yield b => exact ih (fun y hy => hf y (List.mem_cons_of_mem x hy)) (b := b)

/-! ### The ingestions -/

theorem safe_resolveCustomer (o : IncomingOrder) : Safe g F known (resolveCustomer g o) := by
  unfold resolveCustomer
  split
  · split
    · trivial
    · simp only [perform, safe_fresh_bind, safe_now_bind, safe_call_bind]
      intro u hu t
      refine ⟨⟨rfl, rfl, hu⟩, fun id => ?_⟩
      split
      · exact fun u hu t => ⟨⟨rfl, hu, List.mem_cons_self⟩, fun _ => trivial⟩
      · trivial
  · trivial

theorem safe_resolveLineItem (l : IncomingLine) : Safe g F known (resolveLineItem g l) := by
  unfold resolveLineItem
  simp only [perform]
  split
  · simp only [safe_call_bind, done_bind]
    refine ⟨rfl, fun r => ?_⟩
    split
    · exact fun t => ⟨List.mem_append_left _ (List.mem_singleton_self _), fun _ => trivial⟩
    · split
      · exact fun u hu t => ⟨⟨rfl, hu⟩, fun _ u hu t => ⟨⟨rfl, hu⟩, fun _ => trivial⟩⟩
      · trivial
  · split
    · exact fun u hu t => ⟨⟨rfl, hu⟩, fun _ u hu t => ⟨⟨rfl, hu⟩, fun _ => trivial⟩⟩
    · trivial

theorem safe_projectAudit (stored : StoredOrder) (o : IncomingOrder) (src : IngestSource) :
    Safe g F known (projectAudit g stored o src) := by
  unfold projectAudit
  simp only [perform, safe_call_bind, done_bind]
  refine ⟨trivial, fun label => ?_⟩
  refine Safe.bind (Safe.forIn fun line _ _ => ?_) fun _ => trivial
  simp only [safe_expect_bind]
  exact fun _ _ u hu t => ⟨⟨rfl, hu⟩, fun _ => trivial⟩

theorem safe_applyOrder (o : IncomingOrder) (src : IngestSource) :
    Safe g F known (applyOrder g o src) := by
  unfold applyOrder
  refine (safe_resolveCustomer o).bind fun cid => ?_
  simp only [perform, safe_fresh_bind, safe_now_bind, safe_call_bind, done_bind]
  refine fun u hu t => ⟨⟨rfl, hu⟩, fun stored => ?_⟩
  refine Safe.bind (Safe.forIn fun line _ _ => ?_) fun _ => ?_
  · refine (safe_resolveLineItem line).bind fun item => ?_
    exact fun u hu => ⟨⟨List.mem_append_left _ (List.mem_singleton_self _), hu⟩, fun _ => trivial⟩
  · exact (safe_projectAudit stored o src).bind fun _ => trivial

theorem safe_applyRawOrders (orders : List RawOrder) (src : IngestSource) :
    Safe g F known (applyRawOrders g orders src) := by
  unfold applyRawOrders
  refine Safe.bind (Safe.forIn fun raw _ _ => ?_) fun _ => trivial
  split
  · trivial
  · refine Safe.bind (Safe.tryCatch ((safe_applyOrder _ src).bind fun _ => trivial)
      fun _ => trivial) fun applied => ?_
    split <;> trivial

theorem safe_applyProduct (p : IncomingProduct) : Safe g F known (applyProduct g p) := by
  unfold applyProduct
  refine Safe.bind (Safe.forIn fun v _ _ => ?_) fun _ => trivial
  split
  · trivial
  · exact fun u hu t => ⟨⟨rfl, hu⟩, fun _ u hu t => ⟨⟨rfl, hu⟩, fun _ => trivial⟩⟩

theorem safe_applyStock (x : IncomingStock) : Safe g F known (applyStock g x) := by
  unfold applyStock
  simp only [perform]
  split
  · simp only [safe_call_bind, done_bind]
    refine ⟨rfl, fun r => ?_⟩
    split
    · trivial
    · refine fun t => ⟨List.mem_append_left _ (List.mem_singleton_self _), fun _ => ?_⟩
      simp only [bind_done]
      split
      · exact fun u hu t => Safe.map ⟨⟨rfl, hu⟩, fun _ => trivial⟩
      · trivial
  · refine fun u hu t => ⟨⟨rfl, hu⟩, fun _ u hu t => ⟨⟨rfl, hu⟩, fun _ => ?_⟩⟩
    simp only [bind_done]
    split
    · exact fun u hu t => Safe.map ⟨⟨rfl, hu⟩, fun _ => trivial⟩
    · trivial
  · trivial

end Script

namespace Ingestion

/-- Every ingestion's script is safe for the account it runs for. -/
theorem safe_script (a : ChannelAccount) (F : Uuid → Prop) (known : List Store.Known) :
    (i : Ingestion) → (i.script a).Safe a F known
  | order o src => Script.safe_applyOrder o src
  | rawOrders orders src => Script.safe_applyRawOrders orders src
  | product p => Script.safe_applyProduct p
  | stock x => Script.safe_applyStock x

end Ingestion

end SellerSync
