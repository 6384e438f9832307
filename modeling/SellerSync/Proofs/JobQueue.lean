import Mathlib
import SellerSync.Sync.Queue
import SellerSync.Proofs.Retries
/-! Lookups in the ingestion queue's status map after each write, and what an offer, a take and a
settlement do to the queue. -/

namespace SellerSync

namespace JobState

/-- A job the worker is done with. -/
def IsSettled : JobState → Prop
  | .completed _ | .failed .. => True
  | _ => False

@[simp] theorem isSettled_completed (r : IngestOutcome) : (completed r).IsSettled := trivial

@[simp] theorem isSettled_failedWith (e : SyncError) : (failedWith e).IsSettled := trivial

end JobState

namespace IngestQueue

variable (q : IngestQueue) (u : Uuid)

/-! ### The status map -/

/-- The state of job `u`'s record, if it has one. -/
def stateOf : Option JobState := (q.get u).map (·.state)

@[simp] theorem get_record (info : JobInfo) :
    (q.record info).get u = if info.id = u then some info else q.get u := by
  unfold get record
  rw [List.find?_append, List.find?_filter]
  split_ifs with h
  · subst h
    have hn : List.find? (fun j => decide ((j.id != info.id) = true ∧ (j.id == info.id) = true))
        q.statuses = none := List.find?_eq_none.2 (by simp)
    rw [hn]
    simp
  · have hp : (fun j : JobInfo => decide ((j.id != info.id) = true ∧ (j.id == u) = true)) =
        fun j => j.id == u := by
      funext j
      by_cases hj : j.id = u
      · simp [hj, Ne.symm h]
      · simp [hj]
    rw [hp]
    cases List.find? (fun j => j.id == u) q.statuses <;> simp [h]

@[simp] theorem get_forget (id : Uuid) :
    (q.forget id).get u = if id = u then none else q.get u := by
  unfold get forget
  rw [List.find?_filter]
  split_ifs with h
  · subst h
    simp
  · congr 1
    funext j
    by_cases hj : j.id = u
    · simp [hj, Ne.symm h]
    · simp [hj]

@[simp] theorem get_setState (id : Uuid) (state : JobState) :
    (q.setState id state).get u =
      if id = u then (q.get u).map ({ · with state }) else q.get u := by
  unfold get setState
  rw [List.find?_map]
  have hp : ((fun j : JobInfo => j.id == u) ∘
      fun j => if j.id == id then { j with state } else j) = fun j => j.id == u := by
    funext j
    by_cases hj : j.id = id <;> simp [hj]
  rw [hp]
  cases hf : List.find? (fun j => j.id == u) q.statuses with
  | none => simp
  | some j =>
    have hj : j.id = u := by simpa using List.find?_some hf
    by_cases h : id = u <;> simp [hj, h, Ne.symm]

@[simp] theorem get_spawn (cap : Nat) : (spawn cap).get u = none := rfl

@[simp] theorem get_mk (capacity : Nat) (channel : List Job) (worker : Worker) :
    (IngestQueue.mk capacity channel worker q.statuses).get u = q.get u := rfl

@[simp] theorem stateOf_mk (capacity : Nat) (channel : List Job) (worker : Worker) :
    (IngestQueue.mk capacity channel worker q.statuses).stateOf u = q.stateOf u := rfl

@[simp] theorem setState_worker (id : Uuid) (state : JobState) :
    (q.setState id state).worker = q.worker := rfl

@[simp] theorem setState_channel (id : Uuid) (state : JobState) :
    (q.setState id state).channel = q.channel := rfl

@[simp] theorem isSome_get_setState (id : Uuid) (state : JobState) :
    ((q.setState id state).get u).isSome = (q.get u).isSome := by
  rw [get_setState]
  split_ifs <;> simp

theorem stateOf_setState (id : Uuid) (state : JobState) :
    (q.setState id state).stateOf u = if id = u then (q.stateOf u).map fun _ => state
      else q.stateOf u := by
  unfold stateOf
  split_ifs with h <;> simp [h, Option.map_map, Function.comp_def]

theorem forget_record {info : JobInfo} (h : q.get info.id = none) :
    (q.record info).forget info.id = q := by
  have hn : ∀ j ∈ q.statuses, j.id ≠ info.id := by
    intro j hj he
    have := List.find?_eq_none.1 h j hj
    simp [he] at this
  simp only [forget, record, List.filter_append, List.filter_filter, Bool.and_self]
  have hl : q.statuses.filter (fun j => j.id != info.id) = q.statuses :=
    List.filter_eq_self.2 fun j hj => by simpa using hn j hj
  simp [hl]

/-! ### Offers -/

/-- Why a queue refuses an offer, and the error it answers with: the worker is gone, or else the
channel is full. -/
def Refusal (err : SyncError) : Prop :=
  (∃ p, q.worker = .stopped p) ∧ err = .storage "ingest worker is not running" ∨
  (∀ p, q.worker ≠ .stopped p) ∧ q.capacity ≤ q.channel.length ∧
    err = .storage "ingest queue is full"

/-- The worker is there and the channel has room. -/
def HasRoom : Prop := (∀ p, q.worker ≠ .stopped p) ∧ q.channel.length < q.capacity

theorem refusal_or_hasRoom : (∃ err, q.Refusal err) ∨ q.HasRoom := by
  unfold Refusal HasRoom
  cases hw : q.worker with
  | stopped p => exact .inl ⟨_, .inl ⟨⟨p, rfl⟩, rfl⟩⟩
  | idle | busy _ =>
    by_cases hc : q.channel.length < q.capacity
    · exact .inr ⟨by simp, hc⟩
    · exact .inl ⟨_, .inr ⟨by simp, by omega, rfl⟩⟩

variable {q}

theorem not_hasRoom_of_refusal {err : SyncError} (h : q.Refusal err) : ¬ q.HasRoom := by
  rintro ⟨hw, hc⟩
  rcases h with ⟨⟨p, hp⟩, -⟩ | ⟨-, hf, -⟩
  · exact hw p hp
  · omega

theorem Refusal.unique {err err' : SyncError} (h : q.Refusal err) (h' : q.Refusal err') :
    err = err' := by
  rcases h with ⟨⟨p, hp⟩, rfl⟩ | ⟨hw, -, rfl⟩ <;>
    rcases h' with ⟨⟨p', hp'⟩, rfl⟩ | ⟨hw', -, rfl⟩
  · rfl
  · exact absurd hp (hw' p)
  · exact absurd hp' (hw p')
  · rfl

theorem offer_of_hasRoom (h : q.HasRoom) (info : JobInfo) (e : WebhookEvent) :
    q.offer info e =
      (.ok info, { q.record info with channel := q.channel ++ [⟨info.id, e⟩] }) := by
  obtain ⟨hw, hc⟩ := h
  unfold offer trySend
  cases hq : q.worker with
  | stopped p => exact absurd hq (hw p)
  | idle | busy _ => simp [record, hq, hc]

theorem eq_of_offer_ok {info i : JobInfo} {e : WebhookEvent} (h : (q.offer info e).1 = .ok i) :
    i = info := by
  simp only [offer] at h
  split at h
  · exact (Except.ok.inj h).symm
  · cases h

/-- A refused offer answers its refusal and, its id being fresh, leaves the queue as it was. -/
theorem offer_of_refusal {err : SyncError} (h : q.Refusal err) {info : JobInfo}
    (hfresh : q.get info.id = none) (e : WebhookEvent) : q.offer info e = (.error err, q) := by
  have hback := forget_record q hfresh
  unfold offer trySend
  rcases h with ⟨⟨p, hp⟩, rfl⟩ | ⟨hw, hc, rfl⟩
  · simp only [record, hp] at hback ⊢
    rw [hback]
  · cases hq : q.worker with
    | stopped p => exact absurd hq (hw p)
    | idle | busy _ =>
      have hn : ¬ q.channel.length < q.capacity := by omega
      simp only [record, hq, hn, ↓reduceIte] at hback ⊢
      rw [hback]

/-! ### The worker -/

variable (q)

theorem take_cases :
    (∃ job rest, q.worker = .idle ∧ q.channel = job :: rest ∧
      q.take = { q with channel := rest, worker := .busy job }.setState job.id .running) ∨
    ((∀ job rest, q.worker = .idle → q.channel ≠ job :: rest) ∧ q.take = q) := by
  unfold take
  cases hw : q.worker with
  | idle =>
    cases hc : q.channel with
    | nil => exact .inr ⟨by simp, rfl⟩
    | cons job rest => exact .inl ⟨job, rest, rfl, rfl, rfl⟩
  | busy _ | stopped _ => exact .inr ⟨by simp, rfl⟩

/-- What the worker did at a call: took job `id` and ran it, or finished it. -/
inductive Work where
  | start (id : Uuid)
  | finish (id : Uuid)

/-- The worker's log for taking the jobs `js`, one after another, and finishing each. -/
def work (js : List Job) : List Work := js.flatMap fun j => [.start j.id, .finish j.id]

@[simp] theorem work_nil : work [] = [] := rfl

@[simp] theorem work_append (a b : List Job) : work (a ++ b) = work a ++ work b :=
  List.flatMap_append

@[simp] theorem work_cons (j : Job) (js : List Job) :
    work (j :: js) = .start j.id :: .finish j.id :: work js := rfl

/-- Every job of `js` has a record, queued. -/
def Queued (js : List Job) : Prop := ∀ j ∈ js, q.stateOf j.id = some .queued

/-- What the worker's position says of the jobs accepted after those it is done with, `done`:
idle, it has finished each of those and the rest wait in the channel; busy, it has started one
more, running, and the rest wait in the channel; gone, it started one more and stopped, and the
channel is closed. -/
def Pending (log : List Work) (done live : List Job) : Prop :=
  match q.worker with
  | .idle => log = work done ∧ live = q.channel ∧ q.Queued live
  | .busy job => log = work done ++ [.start job.id] ∧ live = job :: q.channel ∧
      q.stateOf job.id = some .running ∧ q.Queued q.channel
  | .stopped _ => q.channel = [] ∧ ∃ job rest, live = job :: rest ∧
      log = work done ++ [.start job.id] ∧ q.stateOf job.id = some .running ∧ q.Queued rest

/-- A queue as a run left it, `acc` being the jobs it accepted, oldest first, and `log` what its
worker did. The accepted jobs have distinct ids and exactly they have records; those the worker
is done with come first, settled, and the others stand as its position says. -/
structure Inv (acc : List Job) (log : List Work) : Prop where
  nodup : (acc.map (·.id)).Nodup
  known : ∀ u, (q.get u).isSome ↔ u ∈ acc.map (·.id)
  stages : ∃ done live, acc = done ++ live ∧
    (∀ j ∈ done, ∃ s, q.stateOf j.id = some s ∧ s.IsSettled) ∧ q.Pending log done live

theorem inv_spawn (cap : Nat) : (spawn cap).Inv [] [] where
  nodup := List.nodup_nil
  known := by simp
  stages := ⟨[], [], rfl, by simp, by simp [Pending, spawn, Queued]⟩

variable {q} {acc : List Job} {log : List Work}

namespace Inv

theorem get_eq_none (h : q.Inv acc log) {u : Uuid} (hu : u ∉ acc.map (·.id)) : q.get u = none :=
  Option.not_isSome_iff_eq_none.1 fun hs => hu ((h.known u).1 hs)

theorem log_prefix (h : q.Inv acc log) : log <+: work acc := by
  obtain ⟨done, live, rfl, -, hp⟩ := h.stages
  unfold Pending at hp
  split at hp
  · obtain ⟨rfl, -⟩ := hp
    simp
  · obtain ⟨rfl, rfl, -⟩ := hp
    simp
  · obtain ⟨-, job, rest, rfl, rfl, -⟩ := hp
    simp

theorem head_queued (h : q.Inv acc log) {job : Job} {rest : List Job} (hw : q.worker = .idle)
    (hc : q.channel = job :: rest) : q.stateOf job.id = some .queued := by
  obtain ⟨done, live, -, -, hp⟩ := h.stages
  simp only [Pending, hw] at hp
  exact hp.2.2 job (by simp [hp.2.1, hc])

theorem busy_running (h : q.Inv acc log) {job : Job} (hw : q.worker = .busy job) :
    job ∈ acc ∧ q.stateOf job.id = some .running := by
  obtain ⟨done, live, hacc, -, hp⟩ := h.stages
  simp only [Pending, hw] at hp
  exact ⟨by simp [hacc, hp.2.1], hp.2.2.1⟩

end Inv

theorem Queued.congr {q' : IngestQueue} {js : List Job} (h : q.Queued js)
    (hs : ∀ j ∈ js, q'.stateOf j.id = q.stateOf j.id) : q'.Queued js :=
  fun j hj => (hs j hj).trans (h j hj)

theorem ne_of_nodup {done rest : List Job} {job : Job}
    (h : ((done ++ job :: rest).map (·.id)).Nodup) :
    (∀ j ∈ done, j.id ≠ job.id) ∧ ∀ j ∈ rest, j.id ≠ job.id := by
  simp only [List.map_append, List.map_cons, List.nodup_append, List.nodup_cons, List.mem_map,
    List.mem_cons] at h
  refine ⟨fun j hj he => ?_, fun j hj he => h.2.1.1 ⟨j, hj, he⟩⟩
  exact h.2.2 j.id ⟨j, hj, rfl⟩ job.id (.inl rfl) he

namespace Inv

theorem offer (h : q.Inv acc log) (hr : q.HasRoom) {info : JobInfo}
    (hu : info.id ∉ acc.map (·.id)) (hs : info.state = .queued) (e : WebhookEvent) :
    (q.offer info e).2.Inv (acc ++ [⟨info.id, e⟩]) log := by
  rw [offer_of_hasRoom hr]
  set q' := { q.record info with channel := q.channel ++ [(⟨info.id, e⟩ : Job)] }
  show q'.Inv _ _
  obtain ⟨done, live, hacc, hdone, hp⟩ := h.stages
  have hold : ∀ j ∈ acc, q'.stateOf j.id = q.stateOf j.id := by
    intro j hj
    have hne : info.id ≠ j.id := fun he => hu (he ▸ List.mem_map_of_mem hj)
    simp [q', stateOf, hne]
  have hnew : q'.stateOf info.id = some .queued := by simp [q', stateOf, hs]
  refine ⟨?_, fun v => ?_, done, live ++ [⟨info.id, e⟩], by simp [hacc], fun j hj => ?_, ?_⟩
  · rw [List.map_append, List.map_singleton, ← List.concat_eq_append]
    exact List.Nodup.concat hu h.nodup
  · by_cases hv : info.id = v
    · simp [q', hv]
    · simp [q', hv, h.known, Ne.symm hv]
  · rw [hold j (hacc ▸ List.mem_append_left _ hj)]
    exact hdone j hj
  have hlive : ∀ j ∈ live, q'.stateOf j.id = q.stateOf j.id :=
    fun j hj => hold j (hacc ▸ List.mem_append_right _ hj)
  have hq : q'.Queued [⟨info.id, e⟩] := by simpa [Queued] using hnew
  have hw' : q'.worker = q.worker := rfl
  unfold Pending at hp ⊢
  rw [hw']
  obtain ⟨hw, -⟩ := hr
  cases hwk : q.worker with
  | stopped p => exact absurd hwk (hw p)
  | idle =>
    simp only [hwk] at hp
    obtain ⟨rfl, rfl, hqd⟩ := hp
    refine ⟨rfl, rfl, fun j hj => ?_⟩
    rcases List.mem_append.1 hj with hj | hj
    · exact (hqd.congr hlive) j hj
    · exact hq j hj
  | busy job =>
    simp only [hwk] at hp
    obtain ⟨rfl, rfl, hrun, hqd⟩ := hp
    refine ⟨rfl, rfl, ?_, fun j hj => ?_⟩
    · rw [hlive job (by simp)]
      exact hrun
    · rcases List.mem_append.1 hj with hj | hj
      · exact (hqd.congr fun j hj => hlive j (by simp [hj])) j hj
      · exact hq j hj

theorem take (h : q.Inv acc log) {job : Job} {rest : List Job} (hw : q.worker = .idle)
    (hc : q.channel = job :: rest) :
    ({ q with channel := rest, worker := .busy job }.setState job.id .running).Inv acc
      (log ++ [Work.start job.id]) := by
  set q' := { q with channel := rest, worker := .busy job }.setState job.id .running
  obtain ⟨done, live, hacc, hdone, hp⟩ := h.stages
  simp only [Pending, hw] at hp
  obtain ⟨rfl, rfl, hqd⟩ := hp
  rw [hc] at hacc hqd
  obtain ⟨hd, hr⟩ := ne_of_nodup (hacc ▸ h.nodup)
  have hother : ∀ j : Job, j.id ≠ job.id → q'.stateOf j.id = q.stateOf j.id := by
    intro j hj
    simp [q', Ne.symm hj, stateOf]
  refine ⟨h.nodup, fun v => by simpa only [q', isSome_get_setState, get_mk] using h.known v,
    done, job :: rest, hacc, fun j hj => hother j (hd j hj) ▸ hdone j hj, ?_⟩
  have hrun : q'.stateOf job.id = some .running := by
    simp [q', stateOf_setState, hqd job List.mem_cons_self]
  have hw' : q'.worker = .busy job := rfl
  unfold Pending
  rw [hw']
  exact ⟨rfl, rfl, hrun,
    fun j hj => (hother j (hr j hj)).trans (hqd j (List.mem_cons_of_mem _ hj))⟩

theorem finish (h : q.Inv acc log) {job : Job} (hw : q.worker = .busy job) {s : JobState}
    (hs : s.IsSettled) :
    ({ q with worker := .idle }.setState job.id s).Inv acc (log ++ [Work.finish job.id]) := by
  set q' := { q with worker := .idle }.setState job.id s
  obtain ⟨done, live, hacc, hdone, hp⟩ := h.stages
  simp only [Pending, hw] at hp
  obtain ⟨rfl, rfl, hrun, hqd⟩ := hp
  obtain ⟨hd, hr⟩ := ne_of_nodup (hacc ▸ h.nodup)
  have hother : ∀ j : Job, j.id ≠ job.id → q'.stateOf j.id = q.stateOf j.id := by
    intro j hj
    simp [q', Ne.symm hj, stateOf]
  refine ⟨h.nodup, fun v => by simpa only [q', isSome_get_setState, get_mk] using h.known v,
    done ++ [job], q.channel, by simp [hacc], fun j hj => ?_, ?_⟩
  · rcases List.mem_append.1 hj with hj | hj
    · rw [hother j (hd j hj)]
      exact hdone j hj
    · obtain rfl : j = job := by simpa using hj
      exact ⟨s, by simp [q', stateOf_setState, hrun], hs⟩
  have hw' : q'.worker = .idle := rfl
  unfold Pending
  rw [hw']
  exact ⟨by simp, rfl, fun j hj => (hother j (hr j hj)).trans (hqd j hj)⟩

theorem halt (h : q.Inv acc log) {job : Job} (hw : q.worker = .busy job) (text : String) :
    ({ q with worker := .stopped text, channel := [] }).Inv acc log := by
  obtain ⟨done, live, hacc, hdone, hp⟩ := h.stages
  simp only [Pending, hw] at hp
  obtain ⟨rfl, rfl, hrun, hqd⟩ := hp
  refine ⟨h.nodup, fun v => by simpa using h.known v, done, job :: q.channel, hacc,
    fun j hj => by simpa using hdone j hj, ?_⟩
  exact ⟨rfl, job, q.channel, rfl, rfl, by simpa using hrun,
    fun j hj => by simpa using hqd j hj⟩

end Inv

variable (q)

theorem conclude_cases (id : Uuid) (r : Except SyncError IngestOutcome) :
    (∃ text, q.conclude id r = { q with worker := .stopped text, channel := [] }) ∨
    ∃ s, s.IsSettled ∧ q.conclude id r = { q with worker := .idle }.setState id s := by
  rcases r with e | res
  · cases e with
    | overflow text => exact .inl ⟨text, rfl⟩
    | _ => exact .inr ⟨_, JobState.isSettled_failedWith _, rfl⟩
  · exact .inr ⟨_, JobState.isSettled_completed res, rfl⟩

end IngestQueue

end SellerSync
