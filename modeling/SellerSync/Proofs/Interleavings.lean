import Mathlib
import SellerSync.Proofs.ScriptSafety
import SellerSync.Proofs.LinkedRuns
/-! Ingestions for accounts of different sellers commute. -/
namespace SellerSync

open Relation

namespace Rows

variable {α : Type} {own p q : α → Bool} {id : α → Uuid} {F : Uuid → Prop} {l l' : List α}

theorem apart_of_keyed {R : α → α → Prop} (hl : Keyed id R l) (hF : ∀ u, F u → ∀ y∈l, id y≠u) :
    Apart own id F l := fun y hy hn =>
  ⟨fun hFy => hF _ hFy y hy rfl, fun z hz hoz he => by
    rw [hl.eq_of_mem hz hy he, hn] at hoz
    exact Bool.false_ne_true hoz⟩

theorem perm_of_split (h1 : l.filter p=l'.filter q)
    (h2 : (l.filter fun y => !p y).Perm (l'.filter fun y => !q y)) : l.Perm l' :=
  calc l.Perm (l.filter p ++ l.filter fun y => !p y) := (List.filter_append_perm p l).symm
    _ = l'.filter q ++ l.filter fun y => !p y := by rw [h1]
    List.Perm _ (l'.filter q ++ l'.filter fun y => !q y) := h2.append_left _
    List.Perm _ l' := List.filter_append_perm q l'

end Rows

namespace Store

variable {g h : ChannelAccount} {F G : Uuid → Prop} {s s' t : Store}

/-- No row of a table that ingestions write carries the id. -/
structure Unused (s : Store) (u : Uuid) : Prop where
  items : ∀ x∈s.items, x.id≠u
  customers : ∀ x∈s.customers, x.id≠u
  itemLinks : ∀ x∈s.itemLinks, x.id≠u
  customerLinks : ∀ x∈s.customerLinks, x.id≠u
  orders : ∀ x∈s.orders, x.id≠u
  lines : ∀ x∈s.lines, x.id≠u
  stock : ∀ x∈s.stock, x.id≠u
  audit : ∀ x∈s.audit, x.id≠u

theorem Apart.initial (hk : s.Keyed) (hl : s.Linked) (hg : g∈s.accounts)
    (hF : ∀ u, F u → s.Unused u) : s.Apart g F where
  items := Rows.apart_of_keyed hk.items fun u hu => (hF u hu).items
  customers := Rows.apart_of_keyed hk.customers fun u hu => (hF u hu).customers
  itemLinks := Rows.apart_of_keyed hk.itemLinks fun u hu => (hF u hu).itemLinks
  customerLinks := Rows.apart_of_keyed hk.customerLinks fun u hu => (hF u hu).customerLinks
  orders := Rows.apart_of_keyed hk.orders fun u hu => (hF u hu).orders
  lines := Rows.apart_of_keyed hk.lines fun u hu => (hF u hu).lines
  stock := Rows.apart_of_keyed hk.stock fun u hu => (hF u hu).stock
  audit := Rows.apart_of_keyed hk.audit fun u hu => (hF u hu).audit
  customerTargets m hm hma := by
    obtain ⟨c, hc, hci, hcs⟩ := hl.customerLinks g hg m hm hma
    exact ⟨c, hc, hcs, hci⟩
  lineOrders := hl.lineOrder

theorem Separate.of_keyed (hk : s.Keyed) (hg : g∈s.accounts) (hh : h∈s.accounts)
    (hgh : g.sellerId≠h.sellerId) (hFG : ∀ u, F u → ¬ G u) : Separate g h F G :=
  ⟨hgh, fun he => hgh (congrArg ChannelAccount.sellerId (hk.accounts.eq_of_mem hg hh he)), hFG⟩

/-! ### Runs of steps -/

theorem Apart.steps (hg : s.Apart g F) (hr : ReflTransGen (Step g F) s s') : s'.Apart g F := by
  induction hr with
  | refl => exact hg
  | tail _ hs ih => exact ih.step hs

theorem outside_steps (hr : ReflTransGen (Step g F) s s') : outside g s'=outside g s := by
  induction hr with
  | refl => rfl
  | tail _ hs ih => exact hs.outside.trans ih

section Separate

variable (hsep : Separate g h F G)
include hsep

theorem part_steps_other (hg : s.Apart g F) (hr : ReflTransGen (Step g F) s s') :
    part h s'=part h s := by
  induction hr with
  | refl => rfl
  | tail hr' hs ih => exact (part_step_other hsep (hg.steps hr') hs).trans ih

theorem Apart.steps_other (hh : s.Apart h G) (hg : s.Apart g F)
    (hr : ReflTransGen (Step g F) s s') : s'.Apart h G := by
  induction hr with
  | refl => exact hh
  | tail hr' hs ih => exact Apart.step_other hsep ih (hg.steps hr') hs

theorem outside_outside_step (hs : Step h G s s') :
    outside h (outside g s')=outside h (outside g s) := by
  rw [outside_comm hsep, hs.outside, ← outside_comm hsep]

end Separate

/-- Two stores hold the same rows, each table perhaps in another order. -/
structure SameRows (s t : Store) : Prop where
  accounts : s.accounts.Perm t.accounts
  items : s.items.Perm t.items
  itemLinks : s.itemLinks.Perm t.itemLinks
  customers : s.customers.Perm t.customers
  customerLinks : s.customerLinks.Perm t.customerLinks
  orders : s.orders.Perm t.orders
  lines : s.lines.Perm t.lines
  stock : s.stock.Perm t.stock
  labels : s.labels.Perm t.labels
  audit : s.audit.Perm t.audit
  quotes : s.quotes.Perm t.quotes
  deletions : s.deletions.Perm t.deletions
  inbound : s.inbound.Perm t.inbound

theorem SameRows.refl (s : Store) : SameRows s s :=
  ⟨.refl _, .refl _, .refl _, .refl _, .refl _, .refl _, .refl _, .refl _, .refl _, .refl _,
    .refl _, .refl _, .refl _⟩

theorem sameRows_of_split (g : ChannelAccount) (hp : part g s=part g t)
    (ho : SameRows (outside g s) (outside g t)) : SameRows s t where
  accounts := ho.accounts
  items := Rows.perm_of_split (congrArg Store.items hp) ho.items
  itemLinks := Rows.perm_of_split (congrArg Store.itemLinks hp) ho.itemLinks
  customers := Rows.perm_of_split (congrArg Store.customers hp) ho.customers
  customerLinks := Rows.perm_of_split (congrArg Store.customerLinks hp) ho.customerLinks
  orders := Rows.perm_of_split (congrArg Store.orders hp) ho.orders
  lines := Rows.perm_of_split (congrArg Store.lines hp) ho.lines
  stock := Rows.perm_of_split (congrArg Store.stock hp) ho.stock
  labels := ho.labels
  audit := Rows.perm_of_split (congrArg Store.audit hp) ho.audit
  quotes := ho.quotes
  deletions := ho.deletions
  inbound := ho.inbound

end Store

open Store

variable {α β : Type} {g h k : ChannelAccount} {F G : Uuid → Prop} {s s' : Store}

/-! ### A safe script run alone -/

namespace Script

variable {known : List Known} {ids : Nat → Uuid} {reads : Nat → Instant}

theorem runOut_steps (x : Script α) (hF : ∀ n, F (ids n)) (hx : x.Safe g F known)
    (hk : ∀ y∈known, y.Holds g s) (hg : s.Apart g F) :
    ReflTransGen (Step g F) s (x.runOut ids reads s).2 := by
  induction x generalizing ids reads s known with
  | done a => exact .refl
  | fail e => exact .refl
  | fresh k ih => exact ih (ids 0) (fun n => hF (n+1)) (hx _ (hF 0)) hk hg
  | clock k ih => exact ih (reads 0) hF (hx _) hk hg
  | call c k ih =>
    have hs := Call.step hx.1 hk hg
    exact .head hs (ih _ hF (hx.2 _) (Call.knows_after hx.1 hk hg) (hg.step hs))

theorem runOut_part (x : Script α) (hF : ∀ n, F (ids n)) (hx : x.Safe g F known)
    (hk : ∀ y∈known, y.Holds g s) (hg : s.Apart g F) :
    x.runOut ids reads (part g s)=((x.runOut ids reads s).1, part g (x.runOut ids reads s).2) := by
  induction x generalizing ids reads s known with
  | done a => rfl
  | fail e => rfl
  | fresh k ih => exact ih (ids 0) (fun n => hF (n+1)) (hx _ (hF 0)) hk hg
  | clock k ih => exact ih (reads 0) hF (hx _) hk hg
  | call c k ih =>
    have hs := Call.step hx.1 hk hg
    simp only [runOut, Call.run_part hx.1 hk hg]
    exact ih _ hF (hx.2 _) (Call.knows_after hx.1 hk hg) (hg.step hs)

end Script

/-! ### Threads ready to run -/

namespace Thread

variable {t : Thread α}

/-- The thread runs for the account: it draws ids from `F`, its script is safe for the account
with what it knows holding in the store, and the rest of the store keeps apart from the
account's part. -/
structure Ready (g : ChannelAccount) (F : Uuid → Prop) (t : Thread α) (s : Store) : Prop where
  draws : ∀ n, F (t.ids n)
  safe : ∃ known, t.script.Safe g F known ∧ ∀ x∈known, x.Holds g s
  apart : s.Apart g F

theorem runOut_step (t : Thread α) (s : Store) : (t.step s).1.runOut (t.step s).2=t.runOut s := by
  obtain ⟨x, ids, reads⟩ := t
  cases x <;> rfl

theorem Ready.step (ht : t.Ready g F s) :
    (t.step s).1.Ready g F (t.step s).2 ∧ Step g F s (t.step s).2 := by
  obtain ⟨known, hx, hk⟩ := ht.safe
  obtain ⟨x, ids, reads⟩ := t
  cases x with
  | done a => exact ⟨ht, .refl⟩
  | fail e => exact ⟨ht, .refl⟩
  | fresh k => exact ⟨⟨fun n => ht.draws (n+1), ⟨known, hx _ (ht.draws 0), hk⟩, ht.apart⟩, .refl⟩
  | clock k => exact ⟨⟨ht.draws, ⟨known, hx _, hk⟩, ht.apart⟩, .refl⟩
  | call c k =>
    have hs := Call.step hx.1 hk ht.apart
    exact ⟨⟨ht.draws, ⟨_, hx.2 _, Call.knows_after hx.1 hk ht.apart⟩, ht.apart.step hs⟩, hs⟩

theorem Ready.of_step (ht : t.Ready g F s) (hsep : Separate k g G F) (hk : s.Apart k G)
    (hs : Step k G s s') : t.Ready g F s' :=
  ⟨ht.draws, ht.safe.imp fun _ ⟨hx, hy⟩ => ⟨hx, fun y hy' => (hy y hy').step hs⟩,
    Apart.step_other hsep ht.apart hk hs⟩

theorem Ready.of_steps (ht : t.Ready g F s) (hsep : Separate k g G F) (hk : s.Apart k G)
    (hr : ReflTransGen (Step k G) s s') : t.Ready g F s' := by
  induction hr with
  | refl => exact ht
  | tail hr' hs ih => exact ih.of_step hsep (hk.steps hr') hs

theorem Ready.runOut_steps (ht : t.Ready g F s) : ReflTransGen (Step g F) s (t.runOut s).2 := by
  obtain ⟨known, hx, hk⟩ := ht.safe
  exact t.script.runOut_steps ht.draws hx hk ht.apart

theorem Ready.runOut_part (ht : t.Ready g F s) :
    t.runOut (part g s)=((t.runOut s).1, part g (t.runOut s).2) := by
  obtain ⟨known, hx, hk⟩ := ht.safe
  exact t.script.runOut_part ht.draws hx hk ht.apart

theorem Ready.runOut_congr (ht : t.Ready g F s) (ht' : t.Ready g F s') (hp : part g s=part g s') :
    (t.runOut s).1=(t.runOut s').1 ∧ part g (t.runOut s).2=part g (t.runOut s').2 := by
  have e := ht.runOut_part
  rw [hp, ht'.runOut_part] at e
  exact Prod.mk.inj e.symm

end Thread

/-! ### Interleavings -/

section Interleave

variable {a : Thread α} {b : Thread β} {sched : List Bool}

theorem interleave_nil : interleave [] a b s=
    ((a.runOut s).1, (b.runOut (a.runOut s).2).1, (b.runOut (a.runOut s).2).2) := rfl

theorem interleave_true :
    interleave (true :: sched) a b s=interleave sched (a.step s).1 b (a.step s).2 := rfl

theorem interleave_false :
    interleave (false :: sched) a b s=interleave sched a (b.step s).1 (b.step s).2 := rfl

/-- Two ready threads of separate accounts, under any schedule: each answers as it would alone,
each account's part ends as its thread alone leaves it, and the rest is left as it was. -/
theorem interleave_parts (hsep : Separate g h F G) (sched : List Bool) (ha : a.Ready g F s)
    (hb : b.Ready h G s) :
    (interleave sched a b s).1=(a.runOut s).1 ∧ (interleave sched a b s).2.1=(b.runOut s).1 ∧
      part g (interleave sched a b s).2.2=part g (a.runOut s).2 ∧
      part h (interleave sched a b s).2.2=part h (b.runOut s).2 ∧
      outside h (outside g (interleave sched a b s).2.2)=outside h (outside g s) ∧
      (interleave sched a b s).2.2.Apart g F := by
  induction sched generalizing a b s with
  | nil =>
    have hra := ha.runOut_steps
    have hb₁ := hb.of_steps hsep ha.apart hra
    have hrb := hb₁.runOut_steps
    obtain ⟨e₁, e₂⟩ := hb₁.runOut_congr hb (part_steps_other hsep ha.apart hra)
    have e₃ : outside h (outside g (b.runOut (a.runOut s).2).2)=outside h (outside g s) := by
      rw [outside_comm hsep, outside_steps hrb, ← outside_comm hsep, outside_steps hra]
    rw [interleave_nil]
    exact ⟨rfl, e₁, part_steps_other hsep.symm hb₁.apart hrb, e₂, e₃,
      Apart.steps_other hsep.symm (ha.apart.steps hra) hb₁.apart hrb⟩
  | cons m sched ih =>
    cases m with
    | true =>
      obtain ⟨ha', hs⟩ := ha.step
      have hb' := hb.of_step hsep ha.apart hs
      obtain ⟨e₁, e₂⟩ := hb'.runOut_congr hb (part_step_other hsep ha.apart hs)
      rw [interleave_true, ← a.runOut_step s, ← e₁, ← e₂, ← hs.outside]
      exact ih ha' hb'
    | false =>
      obtain ⟨hb', hs⟩ := hb.step
      have ha' := ha.of_step hsep.symm hb.apart hs
      obtain ⟨e₁, e₂⟩ := ha'.runOut_congr ha (part_step_other hsep.symm hb.apart hs)
      rw [interleave_false, ← b.runOut_step s, ← e₁, ← e₂,
        ← outside_outside_step hsep hs]
      exact ih ha' hb'

/-- Any two schedules of two ready threads of separate accounts leave stores with the same
rows. -/
theorem interleave_sameRows (hsep : Separate g h F G) (ha : a.Ready g F s) (hb : b.Ready h G s)
    (sched sched' : List Bool) :
    (interleave sched a b s).2.2.SameRows (interleave sched' a b s).2.2 := by
  obtain ⟨-, -, hg, hh, ho, hap⟩ := interleave_parts hsep sched ha hb
  obtain ⟨-, -, hg', hh', ho', hap'⟩ := interleave_parts hsep sched' ha hb
  refine sameRows_of_split g (hg.trans hg'.symm) (sameRows_of_split h ?_ ?_)
  · rw [part_outside hsep hap, part_outside hsep hap', hh, hh']
  · rw [ho, ho']
    exact SameRows.refl _

end Interleave

/-- Two ingestions for accounts of different sellers in a reachable store, each drawing ids no
row carries and none the other draws, run side by side: under every schedule each answers as it
would alone and each account's part of the store ends as its ingestion alone leaves it, and any
two schedules leave stores with the same rows. -/
theorem Run.ingestions_commute {seen : List (Uuid × Uuid)} {σ : Service} (hr : Run seen σ)
    (hd : Service.Distinct σ.issued) (hg : g∈σ.store.accounts) (hh : h∈σ.store.accounts)
    (hgh : g.sellerId≠h.sellerId) {i j : Ingestion} {a : Thread i.Answer} {b : Thread j.Answer}
    (hia : a.script=i.script g) (hjb : b.script=j.script h) (hA : ∀ n, σ.store.Unused (a.ids n))
    (hB : ∀ n, σ.store.Unused (b.ids n)) (hAB : ∀ m n, a.ids m≠b.ids n)
    (sched sched' : List Bool) :
    (interleave sched a b σ.store).1=(a.runOut σ.store).1 ∧
      (interleave sched a b σ.store).2.1=(b.runOut σ.store).1 ∧
      part g (interleave sched a b σ.store).2.2=part g (a.runOut σ.store).2 ∧
      part h (interleave sched a b σ.store).2.2=part h (b.runOut σ.store).2 ∧
      (interleave sched a b σ.store).2.2.SameRows (interleave sched' a b σ.store).2.2 := by
  obtain ⟨hs, -⟩ := hr.tied σ.issued
  have hk := (hs hd le_rfl).keyed
  have hl := (hr.store_linked hd).1
  have hsep : Separate g h (fun u => ∃ n, a.ids n=u) (fun u => ∃ n, b.ids n=u) :=
    Separate.of_keyed hk hg hh hgh fun u ⟨m, hm⟩ ⟨n, hn⟩ => hAB m n (hm.trans hn.symm)
  have ha : a.Ready g (fun u => ∃ n, a.ids n=u) σ.store :=
    ⟨fun n => ⟨n, rfl⟩, ⟨[], hia ▸ i.safe_script g _ [], by simp⟩,
      Apart.initial hk hl hg fun u ⟨n, hn⟩ => hn ▸ hA n⟩
  have hb : b.Ready h (fun u => ∃ n, b.ids n=u) σ.store :=
    ⟨fun n => ⟨n, rfl⟩, ⟨[], hjb ▸ j.safe_script h _ [], by simp⟩,
      Apart.initial hk hl hh fun u ⟨n, hn⟩ => hn ▸ hB n⟩
  obtain ⟨e₁, e₂, e₃, e₄, -, -⟩ := interleave_parts hsep sched ha hb
  exact ⟨e₁, e₂, e₃, e₄, interleave_sameRows hsep ha hb sched sched'⟩

/-- Two accounts of different sellers ingest the same order side by side. -/
theorem orders_of_two_sellers_commute :
    let c : Context := ⟨default, RetryPolicy.immediate 3, Span.ofSeconds 60, ⟨0, 0⟩,
      Network.unreachable⟩
    let a := ChannelAccount.new (Service.idOf 1) ⟨7⟩ .shopify (some "a.myshopify.com")
      (Service.readingOf ⟨0, 0⟩ 1)
    let b := ChannelAccount.new (Service.idOf 2) ⟨8⟩ .shopify (some "b.myshopify.com")
      (Service.readingOf ⟨0, 0⟩ 2)
    let o : IncomingOrder :=
      { externalOrderId := "1001", status := "paid", currency := none, totals := {},
        placedAt := none, closedAt := none, marketplaceId := none, fulfillmentChannel := none,
        customer := some { email := some "b@example.com" },
        lines := [{ externalLineId := some "10", sku := some "SKU-1", quantity := 1 }],
        shipTo := {}, fulfillmentCost := none, labelHint := false, raw := .null }
    let σ := (Operation.registerAccount b).apply c ((Operation.registerAccount a).apply c {})
    let i := Ingestion.order o .poll
    let A : Thread i.Answer := ⟨i.script a, fun n => ⟨2*n⟩, fun _ => ⟨0, 0⟩⟩
    let B : Thread i.Answer := ⟨i.script b, fun n => ⟨2*n+1⟩, fun _ => ⟨0, 0⟩⟩
    (∃ seen, Run seen σ) ∧ Service.Distinct σ.issued ∧ a∈σ.store.accounts ∧ b∈σ.store.accounts ∧
      a.sellerId≠b.sellerId ∧ A.script=i.script a ∧ B.script=i.script b ∧
      (∀ n, σ.store.Unused (A.ids n)) ∧ (∀ n, σ.store.Unused (B.ids n)) ∧
      (∀ m n, A.ids m≠B.ids n) ∧
      (interleave [true, false, true, false] A B σ.store).1=(A.runOut σ.store).1 ∧
      (interleave [true, false, true, false] A B σ.store).2.1=(B.runOut σ.store).1 ∧
      part a (interleave [true, false, true, false] A B σ.store).2.2=part a (A.runOut σ.store).2 ∧
      part b (interleave [true, false, true, false] A B σ.store).2.2=part b (B.runOut σ.store).2 ∧
      (interleave [true, false, true, false] A B σ.store).2.2.SameRows
        (interleave [] A B σ.store).2.2 := by
  intro c a b o σ i A B
  have hr : Run ([] ++ ({} : Service).store.owners ++
      ((Operation.registerAccount a).apply c {}).store.owners) σ :=
    .step c _ (.step c _ .empty fun _ hx => absurd hx List.not_mem_nil)
      fun _ hx => absurd hx List.not_mem_nil
  have hd : Service.Distinct σ.issued := Service.distinct_of_lt (by decide +kernel)
  have hσ : σ.store.accounts=[a, b] := rfl
  have hnil : (σ.store.items.isEmpty && σ.store.customers.isEmpty && σ.store.itemLinks.isEmpty &&
      σ.store.customerLinks.isEmpty && σ.store.orders.isEmpty && σ.store.lines.isEmpty &&
      σ.store.stock.isEmpty && σ.store.audit.isEmpty)=true := by decide +kernel
  simp only [Bool.and_eq_true, List.isEmpty_iff] at hnil
  have hu : ∀ u, σ.store.Unused u := fun u => by
    obtain ⟨⟨⟨⟨⟨⟨⟨h₁, h₂⟩, h₃⟩, h₄⟩, h₅⟩, h₆⟩, h₇⟩, h₈⟩ := hnil
    exact ⟨by simp [h₁], by simp [h₂], by simp [h₃], by simp [h₄], by simp [h₅], by simp [h₆],
      by simp [h₇], by simp [h₈]⟩
  have ha : a∈σ.store.accounts := by simp [hσ]
  have hb : b∈σ.store.accounts := by simp [hσ]
  have hab : a.sellerId≠b.sellerId := by decide
  have hA : ∀ n, σ.store.Unused (A.ids n) := fun _ => hu _
  have hB : ∀ n, σ.store.Unused (B.ids n) := fun _ => hu _
  have hAB : ∀ m n, A.ids m≠B.ids n := fun m n he => absurd (Uuid.mk.inj he) (by omega)
  exact ⟨⟨_, hr⟩, hd, ha, hb, hab, rfl, rfl, hA, hB, hAB,
    Run.ingestions_commute hr hd ha hb hab rfl rfl hA hB hAB [true, false, true, false] []⟩

end SellerSync
