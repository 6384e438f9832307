import Mathlib
import SellerSync.Proofs.Credentials

/-! How `Executor.execute` spends its attempts, for every send, policy and service. `course` is the
call that never gives up: attempt after attempt, each followed by the pause its outcome asks for. -/

namespace SellerSync

open SyncM

namespace SyncM

variable {α : Type} (c : Context) (σ : Service)

theorem tryCatch_run (x : SyncM α) (h : SyncError → SyncM α) :
    (((tryCatch x h : SyncM α).run c).run.run σ) =
      match (x.run c).run.run σ with
      | (.ok a, σ') => (.ok a, σ')
      | (.error e, σ') => ((h e).run c).run.run σ' := by
  simp only [ReaderT.run, ExceptT.run, StateT.run]
  show ExceptT.tryCatch (x c) (fun e => h e c) σ = _
  simp only [ExceptT.tryCatch, ExceptT.mk, bind, StateT.bind]
  rcases x c σ with ⟨r, σ'⟩
  cases r <;> rfl

theorem catch_run (x : SyncM α) :
    (((tryCatch (Except.ok <$> x) fun e => pure (Except.error e) : SyncM (Except SyncError α)).run c).run.run σ) =
      (.ok ((x.run c).run.run σ).1, ((x.run c).run.run σ).2) := by
  rw [tryCatch_run, map_eq_pure_bind, run_bind]
  rcases (x.run c).run.run σ with ⟨r, σ'⟩
  cases r <;> rfl

@[simp] theorem pause_run (d : Duration) :
    (((pause d).run c).run.run σ) = (.ok (), { σ with outbound := σ.outbound ++ [.pause d] }) :=
  rfl

end SyncM

namespace Executor

/-- Whether a call goes on after an attempt that ended so: after a lost connection, and after
an answer of 429 or 5xx. -/
def retried : Except SyncError Attempt → Bool
  | .error (.transport _) => true
  | .error _ => false
  | .ok a => !(200 ≤ a.status && a.status < 300) && isRetryable a.status

/-- The pause after attempt number `j` that ended so: what its answer asks for, or the policy's
own backoff when there is no answer. -/
def backoff (p : RetryPolicy) (j : Nat) : Except SyncError Attempt → Duration
  | .ok a => p.delayFor j a.retryAfter
  | .error _ => p.delayFor j none

/-- What a call returns when its last attempt, number `j`, ended so. -/
def verdict (j : Nat) : Except SyncError Attempt → Except SyncError ResponseBody
  | .ok a => if 200 ≤ a.status && a.status < 300 then .ok a.body else .error (statusError a j)
  | .error e => .error e

/-- The attempts of a call that never gives up, from the service `σ` before attempt `j`: how
attempt `j + m` ends and the service after it. Between two attempts the call pauses as
`backoff` says. -/
def course (c : Context) (send : SyncM Attempt) (j : Nat) (σ : Service) :
    Nat → Except SyncError Attempt × Service
  | 0 => (send.run c).run.run σ
  | m + 1 =>
    let r := (send.run c).run.run σ
    course c send (j + 1) { r.2 with outbound := r.2.outbound ++ [.pause (backoff c.policy j r.1)] } m

variable (c : Context) (send : SyncM Attempt)

theorem attemptFrom_stop (j l : Nat) (σ : Service)
    (h : l = 0 ∨ retried ((send.run c).run.run σ).1 = false) :
    ((attemptFrom send j l).run c).run.run σ =
      (verdict j ((send.run c).run.run σ).1, ((send.run c).run.run σ).2) := by
  rcases hs : (send.run c).run.run σ with ⟨o, σ'⟩
  rw [hs] at h
  cases l with
  | zero =>
    simp only [attemptFrom, run_bind, hs]
    cases o with
    | error e => rfl
    | ok a =>
      simp only [verdict]
      split <;> rfl
  | succ l =>
    replace h : retried o = false := by simpa using h
    simp only [attemptFrom, run_bind, catch_run, hs]
    split
    · simp [retried] at h
    · rfl
    · rename_i a
      simp only [retried, Bool.and_eq_false_iff, Bool.not_eq_false'] at h
      simp only [verdict]
      split
      · rfl
      · simp_all

theorem attemptFrom_retry (j l : Nat) (σ : Service)
    (h : retried ((send.run c).run.run σ).1 = true) :
    ((attemptFrom send j (l + 1)).run c).run.run σ =
      let r := (send.run c).run.run σ
      ((attemptFrom send (j + 1) l).run c).run.run
        { r.2 with outbound := r.2.outbound ++ [.pause (backoff c.policy j r.1)] } := by
  rcases hs : (send.run c).run.run σ with ⟨o, σ'⟩
  rw [hs] at h
  simp only [attemptFrom, run_bind, catch_run, hs]
  split
  · simp only [run_bind, read_run, pause_run, backoff]
  · simp [retried] at h
  · rename_i a
    simp only [retried, Bool.and_eq_true, Bool.not_eq_true'] at h
    simp only [h, Bool.false_eq_true, ↓reduceIte, run_bind, read_run, pause_run, backoff]

theorem attemptFrom_course (k : Nat) :
    ∀ (j l : Nat) (σ : Service), k ≤ l → (∀ m < k, retried (course c send j σ m).1) →
      (k = l ∨ retried (course c send j σ k).1 = false) →
      ((attemptFrom send j l).run c).run.run σ =
        (verdict (j + k) (course c send j σ k).1, (course c send j σ k).2) := by
  induction k with
  | zero =>
    intro j l σ _ _ hlast
    have hstop : l = 0 ∨ retried ((send.run c).run.run σ).1 = false := by
      rcases hlast with h | h
      · exact .inl h.symm
      · exact .inr h
    rw [attemptFrom_stop c send j l σ hstop]
    rfl
  | succ k ih =>
    intro j l σ hk hretry hlast
    obtain ⟨l, rfl⟩ : ∃ l', l = l' + 1 := ⟨l - 1, by omega⟩
    rw [attemptFrom_retry c send j l σ (hretry 0 (Nat.zero_lt_succ k))]
    have hrest := ih (j + 1) l _ (by omega) (fun m hm => hretry (m + 1) (by omega))
      (hlast.imp (by omega) id)
    rw [hrest, show j + 1 + k = j + (k + 1) by omega]
    rfl

theorem exists_last (j l : Nat) (σ : Service) :
    ∃ k ≤ l, (∀ m < k, retried (course c send j σ m).1) ∧
      (k = l ∨ retried (course c send j σ k).1 = false) := by
  classical
  have hex : ∃ k, k = l ∨ retried (course c send j σ k).1 = false := ⟨l, .inl rfl⟩
  refine ⟨Nat.find hex, Nat.find_le (.inl rfl), fun m hm => ?_, Nat.find_spec hex⟩
  have hm' := Nat.find_min hex hm
  simp only [not_or, Bool.not_eq_false] at hm'
  exact hm'.2

/-- A call acquires its credential and builds its URL once, and then follows the course of its
attempts up to attempt `k + 1`: the first that is not retried, or the last of the policy's
attempts (one at least). Each attempt before it is followed by the pause it asks for, and that
attempt alone decides what the call returns. -/
theorem execute_attempts (σ : Service) (account : ChannelAccount) (req : ApiRequest) :
    match ((Credential.acquire account.id).run c).run.run σ with
    | (.error e, σ₁) => ((execute account req).run c).run.run σ = (.error e, σ₁)
    | (.ok token, σ₁) =>
      match ((buildUrl account req).run c).run.run σ₁ with
      | (.error e, σ₂) => ((execute account req).run c).run.run σ = (.error e, σ₂)
      | (.ok url, σ₂) =>
        let attempt := course c
          (sendOnce account req url (req.body.map fun j => j.render.toUTF8.toList) token) 1 σ₂
        ∃ k < max c.policy.maxAttempts 1,
          (∀ m < k, retried (attempt m).1) ∧
          (k + 1 = max c.policy.maxAttempts 1 ∨ retried (attempt k).1 = false) ∧
          ((execute account req).run c).run.run σ = (verdict (k + 1) (attempt k).1, (attempt k).2) := by
  rcases h1 : ((Credential.acquire account.id).run c).run.run σ with ⟨r1, σ₁⟩
  cases r1 with
  | error e => simp only [execute, run_bind, h1]
  | ok token =>
    rcases h2 : ((buildUrl account req).run c).run.run σ₁ with ⟨r2, σ₂⟩
    cases r2 with
    | error e => simp only [execute, run_bind, h1, h2]
    | ok url =>
      obtain ⟨k, hk, hretry, hlast⟩ := exists_last c
        (sendOnce account req url (req.body.map fun j => j.render.toUTF8.toList) token) 1
        (c.policy.maxAttempts - 1) σ₂
      simp only [h2]
      refine ⟨k, by omega, hretry, hlast.imp (by omega) id, ?_⟩
      simp only [execute, run_bind, h1, h2, read_run]
      rw [attemptFrom_course c _ k 1 _ σ₂ hk hretry hlast, Nat.add_comm]

end Executor

end SellerSync
