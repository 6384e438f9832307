import SellerSync.Sync.Ingest
/-! The ingestion queue: deliveries wait in a bounded channel until a single worker takes them, one at
a time and oldest first, and runs each through the service. -/
namespace SellerSync

/-- Where a queued delivery stands. -/
inductive JobState where
  | queued
  | running
  | completed (result : IngestOutcome)
  | failed (error kind : String)
  deriving Repr, Inhabited

/-- The record of a queued delivery. -/
structure JobInfo where
  id : Uuid
  marketplace : Marketplace
  topic : String
  receivedAt : Instant
  state : JobState
  deriving Repr, Inhabited

namespace JobState

/-- How a job ends when its delivery fails: the error's text and kind. -/
def failedWith (e : SyncError) : JobState := .failed e.message e.kind

end JobState

/-- A delivery sent to the worker under its job's id. -/
structure Job where
  id : Uuid
  event : WebhookEvent
  deriving Repr, Inhabited

/-- What the worker is doing: waiting on the channel, running a job, or gone after a panic. -/
inductive Worker where
  | idle
  | busy (job : Job)
  | stopped (panic : String)
  deriving Repr, Inhabited

/-- A bounded queue drained by one worker. The channel holds the jobs sent and not yet taken,
oldest first; the status map holds a record per accepted job, oldest first. -/
structure IngestQueue where
  /-- How many jobs the channel holds at most. -/
  capacity : Nat
  channel : List Job := []
  worker : Worker := .idle
  statuses : List JobInfo := []
  deriving Repr, Inhabited

namespace IngestQueue

/-- A queue whose channel holds `capacity` jobs, at least one, with its worker waiting. -/
def spawn (capacity : Nat) : IngestQueue := { capacity := max capacity 1 }

/-- The record of job `id`. -/
def get (q : IngestQueue) (id : Uuid) : Option JobInfo := q.statuses.find? (·.id == id)

def record (q : IngestQueue) (info : JobInfo) : IngestQueue :=
  { q with statuses := q.statuses.filter (·.id != info.id) ++ [info] }

def forget (q : IngestQueue) (id : Uuid) : IngestQueue :=
  { q with statuses := q.statuses.filter (·.id != id) }

/-- Sets the state of job `id`, if it has a record. -/
def setState (q : IngestQueue) (id : Uuid) (state : JobState) : IngestQueue :=
  { q with statuses := q.statuses.map fun j => if j.id == id then { j with state } else j }

def trySend (q : IngestQueue) (job : Job) : Except String IngestQueue :=
  match q.worker with
  | .stopped _ => .error "ingest worker is not running"
  | _ =>
    if q.channel.length < q.capacity then .ok { q with channel := q.channel ++ [job] }
    else .error "ingest queue is full"

def offer (q : IngestQueue) (info : JobInfo) (event : WebhookEvent) :
    Except SyncError JobInfo × IngestQueue :=
  let q := q.record info
  match q.trySend ⟨info.id, event⟩ with
  | .ok q => (.ok info, q)
  | .error reason => (.error (.storage reason), q.forget info.id)

def take (q : IngestQueue) : IngestQueue :=
  match q.worker, q.channel with
  | .idle, job :: rest => { q with channel := rest, worker := .busy job }.setState job.id .running
  | _, _ => q

def conclude (q : IngestQueue) (id : Uuid) : Except SyncError IngestOutcome → IngestQueue
  | .ok result => { q with worker := .idle }.setState id (.completed result)
  | .error (.overflow text) => { q with worker := .stopped text, channel := [] }
  | .error e => { q with worker := .idle }.setState id (JobState.failedWith e)

open SyncM

/-- Queues a delivery under a fresh id, stamped with the time it was received, and hands back
its job's record or the refusal. The queue is handed back either way: a refusal is an answer,
not a failure of the service. -/
def enqueue (q : IngestQueue) (event : WebhookEvent) :
    SyncM (Except SyncError JobInfo × IngestQueue) := do
  let id ← freshId
  let receivedAt ← now
  return q.offer ⟨id, event.marketplace, event.topic, receivedAt, .queued⟩ event

def settle (q : IngestQueue) : SyncM IngestQueue := do
  let .busy job := q.worker | return q
  return q.conclude job.id (← attempt (Ingest.deliver job.event))

def queueAndWait (event : WebhookEvent) : SyncM JobInfo := do
  let (accepted, q) ← (spawn 8).enqueue event
  let info ← expect accepted
  let q ← settle q.take
  match q.worker, q.get info.id with
  | .stopped text, _ => fail (.overflow text)
  | _, some job => return job
  | _, none => return info

end IngestQueue

end SellerSync
