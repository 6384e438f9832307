import Mathlib
import SellerSync.Proofs.JobQueue
/-! Producers offer deliveries and the worker takes and settles jobs, in any order: `trace` records
each call with the queue and service it found. -/

namespace SellerSync

namespace IngestQueue

open SyncM

/-- What a queue is asked to do: a producer offers a delivery, or the worker takes the oldest
job, or settles the one it holds. -/
inductive Call where
  | enqueue (event : WebhookEvent)
  | take
  | settle

/-- A call's run: the answer to an offer, and the queue it leaves. -/
def Call.run (q : IngestQueue) : Call → SyncM (Option (Except SyncError JobInfo) × IngestQueue)
  | .enqueue event => do
    let (r, q) ← q.enqueue event
    return (some r, q)
  | .take => return (none, q.take)
  | .settle => return (none, ← q.settle)

/-- One stage on in a job's life, and the call that moves it there: the worker takes a queued job
and runs it, and ends a running one completed with its delivery's outcome or failed. -/
inductive Advance : Call → JobState → JobState → Prop
  | start : Advance .take .queued .running
  | complete (result : IngestOutcome) : Advance .settle .running (.completed result)
  | fail (error kind : String) : Advance .settle .running (.failed error kind)

theorem Advance.of_isSettled {s : JobState} (hs : s.IsSettled) : Advance .settle .running s := by
  cases s with
  | completed result => exact .complete result
  | failed error kind => exact .fail error kind
  | queued | running => exact absurd hs id

/-- A call in a run of a queue: the context it runs in, and the queue and service it finds. -/
structure Turn where
  ctx : Context
  call : Call
  queue : IngestQueue
  service : Service

namespace Turn

variable (t : Turn)

/-- The call's run from the queue and service it found. -/
def result : Except SyncError (Option (Except SyncError JobInfo) × IngestQueue) × Service :=
  ((t.call.run t.queue).run t.ctx).run.run t.service

/-- The answer to an offer. -/
def answer : Option (Except SyncError JobInfo) :=
  match t.result.1 with
  | .ok (a, _) => a
  | .error _ => none

/-- The queue the call leaves. -/
def after : IngestQueue :=
  match t.result.1 with
  | .ok (_, q) => q
  | .error _ => t.queue

/-- The service the call leaves. -/
def serviceAfter : Service := t.result.2

/-- The record an offer makes: the service's next id, the clock's next reading. -/
def offered (e : WebhookEvent) : JobInfo :=
  ⟨Service.idOf (t.service.issued + 1), e.marketplace, e.topic,
    Service.readingOf t.ctx.origin (t.service.readings + 1), .queued⟩

/-- The id an offer hands its job. -/
def ticket : Option Uuid :=
  match t.call with
  | .enqueue _ => some (Service.idOf (t.service.issued + 1))
  | _ => none

/-- The job the call accepted, if it is an offer that was not refused. -/
def accepted? : Option Job :=
  match t.call, t.answer with
  | .enqueue e, some (.ok info) => some ⟨info.id, e⟩
  | _, _ => none

/-- What the worker did at the call, read off its position before and after. -/
def work? : Option Work :=
  match t.call, t.queue.worker, t.after.worker with
  | .take, .idle, .busy job => some (.start job.id)
  | .settle, .busy job, .idle => some (.finish job.id)
  | _, _, _ => none

/-- How a call may change the record of job `u`: it leaves it; or it is the offer that accepted
`u`, and the record appears, queued; or it moves the record's state one stage on and keeps the
rest of it. -/
def Moves (u : Uuid) : Prop :=
  t.after.get u = t.queue.get u ∨
  (t.queue.get u = none ∧ ∃ info, t.answer = some (.ok info) ∧ info.id = u ∧
    info.state = .queued ∧ t.after.get u = some info) ∨
  ∃ j s, t.queue.get u = some j ∧ Advance t.call j.state s ∧
    t.after.get u = some { j with state := s }

/-! ### Each call, run -/

variable {t}

theorem result_enqueue {e : WebhookEvent} (h : t.call = .enqueue e) :
    t.result = (.ok (some (t.queue.offer (t.offered e) e).1, (t.queue.offer (t.offered e) e).2),
      { t.service with issued := t.service.issued + 1, readings := t.service.readings + 1 }) := by
  simp only [result, h, Call.run, enqueue, run_bind, freshId_run, now_run, pure_run, offered]

theorem result_take (h : t.call = .take) : t.result = (.ok (none, t.queue.take), t.service) := by
  simp only [result, h, Call.run, pure_run]

theorem result_settle {job : Job} (h : t.call = .settle) (hw : t.queue.worker = .busy job) :
    t.result = (.ok (none, t.queue.conclude job.id
        (((Ingest.deliver job.event).run t.ctx).run.run t.service).1),
      (((Ingest.deliver job.event).run t.ctx).run.run t.service).2) := by
  simp only [result, h, Call.run, settle, hw, run_bind, attempt, catch_run, pure_run]

theorem result_settle_idle (h : t.call = .settle) (hw : ∀ job, t.queue.worker ≠ .busy job) :
    t.result = (.ok (none, t.queue), t.service) := by
  simp only [result, h, Call.run, settle, run_bind]
  cases hq : t.queue.worker with
  | busy job => exact absurd hq (hw job)
  | idle | stopped _ => rfl

/-! ### What each call does to the queue -/

theorem ticket_enqueue {e : WebhookEvent} (h : t.call = .enqueue e) :
    t.ticket = some (t.offered e).id := by
  simp [ticket, h, offered]

theorem ticket_of_accepted {job : Job} (h : t.accepted? = some job) : t.ticket = some job.id := by
  unfold accepted? at h
  split at h
  · rename_i e info hc ha
    cases h
    simp only [result_enqueue hc, answer, Option.some.injEq] at ha
    rw [ticket_enqueue hc, eq_of_offer_ok ha]
  · cases h

theorem offer_sent {e : WebhookEvent} (hc : t.call = .enqueue e) (hr : t.queue.HasRoom) :
    t.answer = some (.ok (t.offered e)) ∧ t.after = (t.queue.offer (t.offered e) e).2 ∧
      t.accepted? = some ⟨(t.offered e).id, e⟩ ∧ t.work? = none := by
  have ha : t.answer = some (.ok (t.offered e)) := by
    simp [answer, result_enqueue hc, offer_of_hasRoom hr]
  refine ⟨ha, by simp [after, result_enqueue hc], by simp [accepted?, hc, ha],
    by simp [work?, hc]⟩

theorem offer_refused {e : WebhookEvent} (hc : t.call = .enqueue e) {err : SyncError}
    (hr : t.queue.Refusal err) (hfresh : t.queue.get (t.offered e).id = none) :
    t.answer = some (.error err) ∧ t.after = t.queue ∧ t.accepted? = none ∧
      t.work? = none := by
  have ho := offer_of_refusal hr hfresh e
  have ha : t.answer = some (.error err) := by simp [answer, result_enqueue hc, ho]
  refine ⟨ha, by simp [after, result_enqueue hc, ho], by simp [accepted?, hc, ha],
    by simp [work?, hc]⟩

theorem take_started (hc : t.call = .take) {job : Job} {rest : List Job}
    (hw : t.queue.worker = .idle) (hch : t.queue.channel = job :: rest) :
    t.after = { t.queue with channel := rest, worker := .busy job }.setState job.id .running ∧
      t.accepted? = none ∧ t.work? = some (.start job.id) := by
  have hafter : t.after = { t.queue with channel := rest, worker := .busy job }.setState job.id
      .running := by
    simp [after, result_take hc, take, hw, hch]
  exact ⟨hafter, by simp [accepted?, hc], by simp [work?, hc, hw, hafter]⟩

theorem take_idle (hc : t.call = .take) (hq : t.queue.take = t.queue) :
    t.after = t.queue ∧ t.accepted? = none ∧ t.work? = none := by
  have hafter : t.after = t.queue := by simp [after, result_take hc, hq]
  refine ⟨hafter, by simp [accepted?, hc], ?_⟩
  unfold work?
  rw [hafter, hc]
  split <;> simp_all

theorem settled {job : Job} (hc : t.call = .settle) (hw : t.queue.worker = .busy job) :
    let r := ((Ingest.deliver job.event).run t.ctx).run.run t.service
    t.after = t.queue.conclude job.id r.1 ∧ t.serviceAfter = r.2 ∧ t.answer = none ∧
      t.accepted? = none := by
  intro r
  have hr := result_settle hc hw
  exact ⟨by simp [after, hr, r], by simp [serviceAfter, hr, r], by simp [answer, hr],
    by simp [accepted?, hc]⟩

theorem settle_cases {job : Job} (hc : t.call = .settle) (hw : t.queue.worker = .busy job) :
    (∃ text, t.after = { t.queue with worker := .stopped text, channel := [] } ∧
      t.work? = none) ∨
    ∃ s, s.IsSettled ∧ t.after = { t.queue with worker := .idle }.setState job.id s ∧
      t.work? = some (.finish job.id) := by
  have hafter := (settled hc hw).1
  rcases t.queue.conclude_cases job.id (((Ingest.deliver job.event).run t.ctx).run.run t.service).1
    with ⟨text, hq⟩ | ⟨s, hs, hq⟩
  · exact .inl ⟨text, hafter.trans hq, by simp [work?, hc, hw, hafter, hq]⟩
  · exact .inr ⟨s, hs, hafter.trans hq, by simp [work?, hc, hw, hafter, hq]⟩

theorem settle_idle (hc : t.call = .settle) (hw : ∀ job, t.queue.worker ≠ .busy job) :
    t.after = t.queue ∧ t.accepted? = none ∧ t.work? = none := by
  have hafter : t.after = t.queue := by simp [after, result_settle_idle hc hw]
  refine ⟨hafter, by simp [accepted?, hc], ?_⟩
  unfold work?
  rw [hafter, hc]
  split <;> simp_all

/-! ### What each call keeps -/

variable {acc : List Job} {log : List Work}

theorem offer_cases (h : t.queue.Inv acc log) (hf : ∀ u ∈ t.ticket, u ∉ acc.map (·.id))
    {e : WebhookEvent} (hc : t.call = .enqueue e) :
    (∃ err, t.queue.Refusal err ∧ t.answer = some (.error err) ∧ t.after = t.queue ∧
      t.accepted? = none ∧ t.work? = none) ∨
    (t.queue.HasRoom ∧ (t.offered e).id ∉ acc.map (·.id) ∧
      t.answer = some (.ok (t.offered e)) ∧ t.after = (t.queue.offer (t.offered e) e).2 ∧
      t.accepted? = some ⟨(t.offered e).id, e⟩ ∧ t.work? = none) := by
  have hu : (t.offered e).id ∉ acc.map (·.id) := hf _ (ticket_enqueue hc)
  rcases t.queue.refusal_or_hasRoom with ⟨err, hr⟩ | hr
  · exact .inl ⟨err, hr, offer_refused hc hr (h.get_eq_none hu)⟩
  · exact .inr ⟨hr, hu, offer_sent hc hr⟩

theorem inv_after (h : t.queue.Inv acc log) (hf : ∀ u ∈ t.ticket, u ∉ acc.map (·.id)) :
    t.after.Inv (acc ++ t.accepted?.toList) (log ++ t.work?.toList) := by
  cases hc : t.call with
  | enqueue e =>
    rcases t.offer_cases h hf hc with
      ⟨-, -, -, hafter, hacc, hwork⟩ | ⟨hr, hu, -, hafter, hacc, hwork⟩
    · simpa [hafter, hacc, hwork] using h
    · simpa [hafter, hacc, hwork] using h.offer hr hu rfl e
  | take =>
    rcases t.queue.take_cases with ⟨job, rest, hw, hch, -⟩ | ⟨-, hq⟩
    · obtain ⟨hafter, hacc, hwork⟩ := take_started hc hw hch
      simpa [hafter, hacc, hwork] using h.take hw hch
    · obtain ⟨hafter, hacc, hwork⟩ := take_idle hc hq
      simpa [hafter, hacc, hwork] using h
  | settle =>
    cases hw : t.queue.worker with
    | busy job =>
      have hacc := (settled hc hw).2.2.2
      rcases settle_cases hc hw with ⟨text, hafter, hwork⟩ | ⟨s, hs, hafter, hwork⟩
      · simpa [hafter, hacc, hwork] using h.halt hw text
      · simpa [hafter, hacc, hwork] using h.finish hw hs
    | idle | stopped _ =>
      obtain ⟨hafter, hacc, hwork⟩ := settle_idle hc (by simp [hw])
      simpa [hafter, hacc, hwork] using h

theorem refusal (h : t.queue.Inv acc log) (hf : ∀ u ∈ t.ticket, u ∉ acc.map (·.id))
    {e : WebhookEvent} (hc : t.call = .enqueue e) (err : SyncError) :
    (t.answer = some (.error err) ↔ t.queue.Refusal err) ∧
      (t.answer = some (.error err) → t.after = t.queue) := by
  rcases t.offer_cases h hf hc with ⟨err', hr, ha, hafter, -, -⟩ | ⟨hr, -, ha, -, -, -⟩
  · rw [ha]
    refine ⟨⟨fun he => ?_, fun he => by rw [hr.unique he]⟩, fun _ => hafter⟩
    cases he
    exact hr
  · rw [ha]
    simp only [Option.some.injEq, reduceCtorEq, false_iff, false_implies, and_true]
    exact fun he => not_hasRoom_of_refusal he hr

theorem offer_accepted (h : t.queue.Inv acc log) (hf : ∀ u ∈ t.ticket, u ∉ acc.map (·.id))
    {e : WebhookEvent} (hc : t.call = .enqueue e) {info : JobInfo}
    (ha : t.answer = some (.ok info)) :
    info.state = .queued ∧ t.queue.get info.id = none ∧ t.after.get info.id = some info := by
  rcases t.offer_cases h hf hc with ⟨_, -, ha', -, -, -⟩ | ⟨hr, hu, ha', hafter, -, -⟩
  · rw [ha'] at ha
    cases ha
  · rw [ha'] at ha
    cases ha
    exact ⟨rfl, h.get_eq_none hu, by simp [hafter, offer_of_hasRoom hr]⟩

theorem moves (h : t.queue.Inv acc log) (hf : ∀ u ∈ t.ticket, u ∉ acc.map (·.id))
    (u : Uuid) : t.Moves u := by
  cases hc : t.call with
  | enqueue e =>
    rcases t.offer_cases h hf hc with ⟨-, -, -, hafter, -, -⟩ | ⟨hr, hu, ha, hafter, -, -⟩
    · exact .inl (by rw [hafter])
    · by_cases hv : (t.offered e).id = u
      · refine .inr (.inl ⟨hv ▸ h.get_eq_none hu, t.offered e, ha, hv, rfl, ?_⟩)
        simp [hafter, offer_of_hasRoom hr, hv]
      · exact .inl (by simp [hafter, offer_of_hasRoom hr, hv])
  | take =>
    rcases t.queue.take_cases with ⟨job, rest, hw, hch, -⟩ | ⟨-, hq⟩
    · obtain ⟨hafter, -, -⟩ := take_started hc hw hch
      by_cases hv : job.id = u
      · subst hv
        obtain ⟨j, hj, hjs⟩ : ∃ j, t.queue.get job.id = some j ∧ j.state = .queued := by
          simpa [stateOf] using h.head_queued hw hch
        exact .inr (.inr ⟨j, .running, hj, hc ▸ hjs ▸ .start, by simp [hafter, hj]⟩)
      · exact .inl (by simp [hafter, hv])
    · exact .inl (by rw [(take_idle hc hq).1])
  | settle =>
    cases hw : t.queue.worker with
    | busy job =>
      rcases settle_cases hc hw with ⟨text, hafter, -⟩ | ⟨s, hs, hafter, -⟩
      · exact .inl (by simp [hafter])
      · by_cases hv : job.id = u
        · subst hv
          obtain ⟨j, hj, hjs⟩ : ∃ j, t.queue.get job.id = some j ∧ j.state = .running := by
            simpa [stateOf] using (h.busy_running hw).2
          exact .inr (.inr ⟨j, s, hj, hc ▸ hjs ▸ Advance.of_isSettled hs,
            by simp [hafter, hj]⟩)
        · exact .inl (by simp [hafter, hv])
    | idle | stopped _ => exact .inl (by rw [(settle_idle hc (by simp [hw])).1])

end Turn

/-- The calls of a run, each with the queue and service the calls before it left. -/
def trace : List (Context × Call) → IngestQueue → Service → List Turn
  | [], _, _ => []
  | (c, call) :: rest, q, σ =>
    let t : Turn := ⟨c, call, q, σ⟩
    t :: trace rest t.after t.serviceAfter

/-! ### Runs -/

theorem filterMap_cons_toList {α β : Type} (f : α → Option β) (a : α) (l : List α) :
    (a :: l).filterMap f = (f a).toList ++ l.filterMap f := by
  cases h : f a <;> simp [h]

theorem Turn.accepted_ids_sublist (t : Turn) :
    (t.accepted?.toList.map (·.id)).Sublist t.ticket.toList := by
  cases ha : t.accepted? with
  | none => simp
  | some job => simp [t.ticket_of_accepted ha]

/-- Along a run whose offers get fresh ids, each call finds the queue as `Inv` says of the jobs
accepted before it and of what the worker did before it, and an offer's own id is fresh. The
induction is on the calls, the invariant carried by `Turn.inv_after`. -/
theorem inv_before {calls : List (Context × Call)} {q : IngestQueue} {σ : Service}
    {acc : List Job} {log : List Work} (h : q.Inv acc log)
    (hfresh : (acc.map (·.id) ++ (trace calls q σ).filterMap Turn.ticket).Nodup)
    {pre post : List Turn} {t : Turn} (hs : trace calls q σ = pre ++ t :: post) :
    t.queue.Inv (acc ++ pre.filterMap Turn.accepted?) (log ++ pre.filterMap Turn.work?) ∧
      ∀ u ∈ t.ticket, u ∉ (acc ++ pre.filterMap Turn.accepted?).map (·.id) := by
  induction calls generalizing q σ acc log pre with
  | nil => simp [trace] at hs
  | cons cc rest ih =>
    obtain ⟨c, call⟩ := cc
    set t₀ : Turn := ⟨c, call, q, σ⟩
    have htr : trace ((c, call) :: rest) q σ =
        t₀ :: trace rest t₀.after t₀.serviceAfter := rfl
    rw [htr] at hs hfresh
    rw [filterMap_cons_toList] at hfresh
    have hf₀ : ∀ u ∈ t₀.ticket, u ∉ acc.map (·.id) := fun u hu hacc =>
      List.disjoint_of_nodup_append hfresh hacc (List.mem_append_left _ (by simpa using hu))
    cases pre with
    | nil =>
      obtain ⟨rfl, -⟩ := List.cons.inj hs
      simp only [List.filterMap_nil, List.append_nil]
      exact ⟨h, hf₀⟩
    | cons p pre =>
      obtain ⟨hp, hs'⟩ := List.cons.inj hs
      subst hp
      have hsub : ((acc ++ t₀.accepted?.toList).map (·.id) ++
          (trace rest t₀.after t₀.serviceAfter).filterMap Turn.ticket).Sublist
          (acc.map (·.id) ++ (t₀.ticket.toList ++
            (trace rest t₀.after t₀.serviceAfter).filterMap Turn.ticket)) := by
        rw [List.map_append, List.append_assoc]
        exact (t₀.accepted_ids_sublist.append (List.Sublist.refl _)).append_left _
      have := ih (t₀.inv_after h hf₀) (hfresh.sublist hsub) hs'
      simpa [filterMap_cons_toList, List.append_assoc] using this

/-- The queue's contract over every run. Spawn a queue with any capacity and make any calls on
it, offers and worker steps in any order, each offer handed a fresh id. Then at every call of the
run, `acc` being the jobs accepted up to it:
* an offer is refused exactly when the worker is gone or the channel is full, with the storage
  error that says which, and a refused offer leaves the queue, its status map included, as it
  was; an accepted offer's record appears, queued, under an id that had none;
* every record moves as `Turn.Moves` says: once there, it only moves one stage on at a time, to
  running when the worker takes it and to completed or failed when the worker settles it, and
  never after that;
* the worker has taken and finished jobs one at a time in the order they were accepted; when
  idle it takes the oldest job waiting, and it settles a job by one delivery of the job's own
  event through the service, the job ending as the delivery did;
* an id no offer was accepted under has no record. -/
theorem lifecycle {cap : Nat} {σ : Service} {calls : List (Context × Call)}
    (hfresh : ((trace calls (spawn cap) σ).filterMap Turn.ticket).Nodup)
    {pre post : List Turn} {t : Turn} (hs : trace calls (spawn cap) σ = pre ++ t :: post) :
    let acc := (pre ++ [t]).filterMap Turn.accepted?
    (∀ e, t.call = .enqueue e →
      (∀ err, (t.answer = some (.error err) ↔ t.queue.Refusal err) ∧
        (t.answer = some (.error err) → t.after = t.queue)) ∧
      ∀ info, t.answer = some (.ok info) →
        info.state = .queued ∧ t.queue.get info.id = none ∧ t.after.get info.id = some info) ∧
    (∀ u, t.Moves u) ∧
    ((pre ++ [t]).filterMap Turn.work? <+: work acc ∧
      (∀ job rest, t.call = .take → t.queue.worker = .idle → t.queue.channel = job :: rest →
        t.work? = some (.start job.id) ∧ t.after.stateOf job.id = some .running) ∧
      ∀ job, t.call = .settle → t.queue.worker = .busy job →
        let r := ((Ingest.deliver job.event).run t.ctx).run.run t.service
        job ∈ acc ∧ t.serviceAfter = r.2 ∧ t.after = t.queue.conclude job.id r.1) ∧
    (∀ u, u ∉ acc.map (·.id) → t.after.get u = none) := by
  intro acc
  obtain ⟨h, hf⟩ := inv_before (inv_spawn cap) (by simpa using hfresh) hs
  simp only [List.nil_append] at h hf
  have h' := t.inv_after h hf
  have hacc : acc = pre.filterMap Turn.accepted? ++ t.accepted?.toList := by
    simp [acc, List.filterMap_append, filterMap_cons_toList]
  have hlog : (pre ++ [t]).filterMap Turn.work? = pre.filterMap Turn.work? ++ t.work?.toList := by
    simp [List.filterMap_append, filterMap_cons_toList]
  refine ⟨fun e hc => ⟨fun err => t.refusal h hf hc err, fun info ha => ?_⟩,
    fun u => t.moves h hf u, ⟨?_, fun job rest hc hw hch => ?_, fun job hc hw => ?_⟩,
    fun u hu => h'.get_eq_none (hacc ▸ hu)⟩
  · exact t.offer_accepted h hf hc ha
  · rw [hlog, hacc]
    exact h'.log_prefix
  · obtain ⟨hafter, -, hwork⟩ := Turn.take_started hc hw hch
    exact ⟨hwork, by simp [hafter, stateOf_setState, h.head_queued hw hch]⟩
  · obtain ⟨hafter, hserv, -, -⟩ := Turn.settled hc hw
    exact ⟨hacc ▸ List.mem_append_left _ (h.busy_running hw).1, hserv, hafter⟩

/-- A queue of capacity one, offered the same delivery twice before its worker takes anything,
refuses the second offer as full and keeps itself as it was. -/
theorem lifecycle_second_offer_refused :
    let c : Context :=
      ⟨default, RetryPolicy.immediate 3, Span.ofSeconds 60, ⟨0, 0⟩, Network.unreachable⟩
    let e : WebhookEvent := ⟨.ebay, "order", none, .null⟩
    let t₁ : Turn := ⟨c, .enqueue e, spawn 0, {}⟩
    let t₂ : Turn := ⟨c, .enqueue e, t₁.after, t₁.serviceAfter⟩
    t₂.answer = some (.error (.storage "ingest queue is full")) ∧ t₂.after = t₂.queue := by
  intro c e t₁ t₂
  have hs : trace [(c, .enqueue e), (c, .enqueue e)] (spawn 0) {} = [t₁] ++ t₂ :: [] := rfl
  have hfresh : ((trace [(c, .enqueue e), (c, .enqueue e)] (spawn 0) {}).filterMap
      Turn.ticket).Nodup := by
    decide
  have hr : t₂.queue.Refusal (.storage "ingest queue is full") := by
    refine Or.inr ⟨fun p hp => ?_, by decide, rfl⟩
    cases hp
  have hc := ((lifecycle hfresh hs).1 e rfl).1 (.storage "ingest queue is full")
  exact ⟨hc.1.2 hr, hc.2 (hc.1.2 hr)⟩

end IngestQueue

end SellerSync
