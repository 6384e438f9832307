import Mathlib
import SellerSync.Proofs.Refresh
import SellerSync.Sync.Tick
/-! What `Tick.run` does over a family, for every store, every time and every way its refreshes end. -/

namespace SellerSync

open SyncM

namespace SyncM

variable (c : Context) (σ : Service)

@[simp] theorem attempt_run {α : Type} (m : SyncM α) :
    (((attempt m).run c).run.run σ) = (.ok ((m.run c).run.run σ).1, ((m.run c).run.run σ).2) :=
  catch_run c σ m

end SyncM

namespace ChannelFamily

variable (f : ChannelFamily) (at_ : Instant)

/-- Whether a pass of the family at `at_` refreshes the account: it is active, on one of the
family's marketplaces, and due. -/
def refreshes (a : ChannelAccount) : Bool :=
  a.isActive && f.marketplaces.contains a.marketplace &&
    Schedule.isDue a.lastSyncedAt at_ f.cadenceSecs

/-- Whether a pass of the family at `at_` counts the account as not due: it is active, on one of
the family's marketplaces, and not due. -/
def waits (a : ChannelAccount) : Bool :=
  a.isActive && f.marketplaces.contains a.marketplace &&
    !Schedule.isDue a.lastSyncedAt at_ f.cadenceSecs

end ChannelFamily

namespace Store

theorem activeAccounts_perm (s : Store) (ms : List Marketplace) :
    (s.activeAccounts ms).Perm (s.accounts.filter fun a => a.isActive && ms.contains a.marketplace) :=
  List.mergeSort_perm _ _

end Store

namespace Tick

/-- The refreshes of the accounts `ids`, one after another from `σ`: how each ended, and the
service after the last. -/
def refreshEach (c : Context) : List Uuid → Service → List (Except SyncError PullReport) × Service
  | [], σ => ([], σ)
  | id :: ids, σ =>
    let r := ((Pull.refreshAccount id).run c).run.run σ
    let rest := refreshEach c ids r.2
    (r.1 :: rest.1, rest.2)

@[simp] theorem refreshEach_length (c : Context) (ids : List Uuid) (σ : Service) :
    (refreshEach c ids σ).1.length = ids.length := by
  induction ids generalizing σ with
  | nil => rfl
  | cons id ids ih => simp [refreshEach, ih]

variable (c : Context) (σ : Service)

theorem sort_run (due : ChannelAccount → Bool) (xs : List ChannelAccount) (s : TickSummary)
    (acc : List ChannelAccount) :
    ((forIn xs (s, acc) (fun account s =>
        if due account = true then
          (pure (.yield ({ s.1 with dispatched := s.1.dispatched + 1 }, s.2 ++ [account])) :
            SyncM (ForInStep (TickSummary × List ChannelAccount)))
        else pure (.yield ({ s.1 with notDue := s.1.notDue + 1 }, s.2)))).run c).run.run σ =
      (.ok ({ s with dispatched := s.dispatched + xs.countP due,
                     notDue := s.notDue + xs.countP (!due ·) }, acc ++ xs.filter due), σ) := by
  induction xs generalizing s acc with
  | nil => simp; rfl
  | cons a xs ih =>
    rw [List.forIn_cons]
    by_cases h : due a = true
    · simp only [h, ↓reduceIte, run_bind, pure_run, ih]
      grind
    · simp only [h, Bool.false_eq_true, ↓reduceIte, run_bind, pure_run, ih]
      grind

/-- How one refresh counts in a summary. -/
def tally (s : TickSummary) : Except SyncError PullReport → TickSummary
  | .ok _ => { s with succeeded := s.succeeded + 1 }
  | .error _ => { s with failed := s.failed + 1 }

theorem refreshLoop_run (body : ChannelAccount → TickSummary → SyncM (ForInStep TickSummary))
    (hbody : ∀ a s σ, ((body a s).run c).run.run σ =
      (.ok (.yield (tally s (((Pull.refreshAccount a.id).run c).run.run σ).1)),
        (((Pull.refreshAccount a.id).run c).run.run σ).2))
    (xs : List ChannelAccount) (s : TickSummary) :
    ((forIn xs s body).run c).run.run σ =
      let r := refreshEach c (xs.map (·.id)) σ
      (.ok { s with succeeded := s.succeeded + r.1.countP (·.isOk),
                    failed := s.failed + r.1.countP (!·.isOk) }, r.2) := by
  induction xs generalizing s σ with
  | nil => rfl
  | cons a xs ih =>
    rw [List.forIn_cons, run_bind, hbody]
    rcases h : ((Pull.refreshAccount a.id).run c).run.run σ with ⟨_ | r, σ₁⟩
    · simp only [tally, ih, refreshEach, h, List.map_cons, List.countP_cons, Except.isOk,
        Except.toBool]
      grind
    · simp only [tally, ih, refreshEach, h, List.map_cons, List.countP_cons, Except.isOk,
        Except.toBool]
      grind

/-- A pass reads the family's active accounts once, refreshes the due ones in that order, and
counts. -/
theorem run_eq (family : ChannelFamily) (at_ : Instant) :
    ((Tick.run family at_).run c).run.run σ =
      let accounts := σ.store.activeAccounts family.marketplaces
      let due := accounts.filter fun a => Schedule.isDue a.lastSyncedAt at_ family.cadenceSecs
      let r := refreshEach c (due.map (·.id)) σ
      (.ok { dispatched := due.length,
             notDue := accounts.countP fun a => !Schedule.isDue a.lastSyncedAt at_ family.cadenceSecs
             succeeded := r.1.countP (·.isOk)
             failed := r.1.countP (!·.isOk) }, r.2) := by
  simp only [Tick.run, run_bind, store_run, sort_run, List.nil_append]
  rw [refreshLoop_run c σ _ (fun a s σ => by
    simp only [run_bind, attempt_run]
    rcases ((Pull.refreshAccount a.id).run c).run.run σ with ⟨_ | _, _⟩ <;> rfl)]
  simp only [Nat.zero_add, List.countP_eq_length_filter]
  rfl

theorem due_perm (family : ChannelFamily) (at_ : Instant) (s : Store) :
    ((s.activeAccounts family.marketplaces).filter
        fun a => Schedule.isDue a.lastSyncedAt at_ family.cadenceSecs).Perm
      (s.accounts.filter (family.refreshes at_)) := by
  refine ((Store.activeAccounts_perm s _).filter _).trans ?_
  rw [List.filter_filter]
  exact .of_eq (List.filter_congr fun a _ => Bool.and_comm _ _)

theorem idle_perm (family : ChannelFamily) (at_ : Instant) (s : Store) :
    ((s.activeAccounts family.marketplaces).filter
        fun a => !Schedule.isDue a.lastSyncedAt at_ family.cadenceSecs).Perm
      (s.accounts.filter (family.waits at_)) := by
  refine ((Store.activeAccounts_perm s _).filter _).trans ?_
  rw [List.filter_filter]
  exact .of_eq (List.filter_congr fun a _ => Bool.and_comm _ _)

/-- A pass of the family at `at_` never fails. It refreshes, one after another, the accounts
that the family refreshes at `at_`, each once and no other, and leaves the service those
refreshes leave. Its summary counts them as dispatched, the family's other active accounts as
not due, and the refreshes that failed as failed; the others succeeded. -/
theorem pass_refreshes_due_accounts (family : ChannelFamily) (at_ : Instant) :
    ∃ ids : List Uuid, ids.Perm ((σ.store.accounts.filter (family.refreshes at_)).map (·.id)) ∧
      ∃ summary : TickSummary,
        ((Tick.run family at_).run c).run.run σ = (.ok summary, (refreshEach c ids σ).2) ∧
        summary.dispatched = σ.store.accounts.countP (family.refreshes at_) ∧
        summary.notDue = σ.store.accounts.countP (family.waits at_) ∧
        summary.failed = (refreshEach c ids σ).1.countP (!·.isOk) ∧
        summary.succeeded + summary.failed = summary.dispatched := by
  have hdue := due_perm family at_ σ.store
  refine ⟨_, hdue.map (·.id), _, run_eq c σ family at_, ?_, ?_, rfl, ?_⟩
  · exact hdue.length_eq.trans List.countP_eq_length_filter.symm
  · exact List.countP_eq_length_filter.trans
      ((idle_perm family at_ σ.store).length_eq.trans List.countP_eq_length_filter.symm)
  · -- every refresh either succeeded or failed, and there is one per due account
    have hsplit := List.length_eq_countP_add_countP (·.isOk)
      (l := (refreshEach c (((σ.store.activeAccounts family.marketplaces).filter
        fun a => Schedule.isDue a.lastSyncedAt at_ family.cadenceSecs).map (·.id)) σ).1)
    simp only [refreshEach_length, List.length_map] at hsplit
    simp only [hsplit, decide_not, Bool.decide_eq_true]

end Tick

end SellerSync
