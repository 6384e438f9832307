import SellerSync.Pipeline.Script
/-! Ingestions running side by side on one store. Each runs as a thread: what is left of its script,
and the fresh ids and clock readings it will draw, in the order it draws them. -/
namespace SellerSync

/-- An ingestion running on its own: its script, and the ids and readings it draws next. -/
structure Thread (α : Type) where
  script : Script α
  ids : Nat → Uuid
  clock : Nat → Instant

namespace Script

def outcome? : Script α → Option (Except SyncError α)
  | done a => some (.ok a)
  | fail e => some (.error e)
  | _ => none

def runOut : Script α → (Nat → Uuid) → (Nat → Instant) → Store → Thread α × Store
  | done a, ids, reads, s => (⟨done a, ids, reads⟩, s)
  | fail e, ids, reads, s => (⟨fail e, ids, reads⟩, s)
  | fresh k, ids, reads, s => runOut (k (ids 0)) (fun n => ids (n+1)) reads s
  | clock k, ids, reads, s => runOut (k (reads 0)) ids (fun n => reads (n+1)) s
  | call c k, ids, reads, s => runOut (k (c.run s).1) ids reads (c.run s).2

end Script

namespace Thread

def step (t : Thread α) (s : Store) : Thread α × Store :=
  match t.script with
  | .done _ | .fail _ => (t, s)
  | .fresh k => ({ t with script := k (t.ids 0), ids := fun n => t.ids (n+1) }, s)
  | .clock k => ({ t with script := k (t.clock 0), clock := fun n => t.clock (n+1) }, s)
  | .call c k => ({ t with script := k (c.run s).1 }, (c.run s).2)

def runOut (t : Thread α) (s : Store) : Thread α × Store := t.script.runOut t.ids t.clock s

end Thread

def interleave : List Bool → Thread α → Thread β → Store → Thread α × Thread β × Store
  | [], a, b, s =>
    let (a', s') := a.runOut s
    let (b', s'') := b.runOut s'
    (a', b', s'')
  | true :: sched, a, b, s =>
    let (a', s') := a.step s
    interleave sched a' b s'
  | false :: sched, a, b, s =>
    let (b', s') := b.step s
    interleave sched a b' s'

/-- An ingestion for one account: an order, a batch of raw orders, a product or a stock level. -/
inductive Ingestion where
  | order (o : IncomingOrder) (src : IngestSource)
  | rawOrders (orders : List RawOrder) (src : IngestSource)
  | product (p : IncomingProduct)
  | stock (x : IncomingStock)

namespace Ingestion

def Answer : Ingestion → Type
  | order .. => OrderOutcome
  | rawOrders .. => BatchSummary
  | product _ => ProductOutcome
  | stock _ => Option StockLevel

def run (a : ChannelAccount) : (i : Ingestion) → SyncM i.Answer
  | order o src => Pipeline.applyOrder a o src
  | rawOrders orders src => Pipeline.applyRawOrders a orders src
  | product p => Pipeline.applyProduct a p
  | stock x => Pipeline.applyStock a x

def script (a : ChannelAccount) : (i : Ingestion) → Script i.Answer
  | order o src => Script.applyOrder a o src
  | rawOrders orders src => Script.applyRawOrders a orders src
  | product p => Script.applyProduct a p
  | stock x => Script.applyStock a x

end Ingestion

end SellerSync
