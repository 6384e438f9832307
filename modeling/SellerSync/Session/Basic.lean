import SellerSync.Session.Labels
import SellerSync.Session.View
import SellerSync.Request.Field
/-! A session: one service driven by a sequence of operations, with sellers named by the caller and
accounts known by the caller's references. -/
namespace SellerSync

/-- What a session holds between operations. -/
structure Session where
  service : Service := {}
  /-- Sellers by name, in order of first use. -/
  sellers : List (String × Uuid) := []
  /-- Accounts by reference, as they were when registered, in order of registration. -/
  refs : List (String × ChannelAccount) := []
  labels : Labels := {}
  /-- Inbound shipments created in the session, by account and shipment id. -/
  shipments : List (Uuid × String) := []
  deriving Inhabited

abbrev SessionM := ReaderT Context (ExceptT Failure (StateM Session))

namespace SessionM

def bad (msg : String) : SessionM α := throw (.badInput msg)

def field (r : Except Failure α) : SessionM α :=
  match r with
  | .ok a => pure a
  | .error f => throw f

def sync (m : SyncM α) : SessionM α := do
  let ctx ← read
  let s ← get
  let (r, svc) := (m.run ctx).run.run s.service
  set { s with service := svc }
  match r with
  | .ok a => pure a
  | .error e => throw (.service e)

def origin : SessionM Instant := return (← read).origin

def store : SessionM Store := return (← get).service.store

def seller (name : String) : SessionM Uuid := do
  match (← get).sellers.find? (·.1 == name) with
  | some (_, id) => return id
  | none =>
    let id ← sync SyncM.freshId
    modify fun s => { s with sellers := s.sellers ++ [(name, id)], labels := s.labels.register id name }
    return id

def boundAccount (ref : String) : SessionM ChannelAccount := do
  match (← get).refs.find? (·.1 == ref) with
  | some (_, a) => return a
  | none => bad ("unknown account " ++ ref)

def accountRef (ref : String) : SessionM Uuid := return (← boundAccount ref).id

def bindRef (ref : String) (a : ChannelAccount) : SessionM Unit :=
  modify fun s =>
    { s with
      refs := if s.refs.any (·.1 == ref) then s.refs.map (fun (r, x) => if r == ref then (r, a) else (r, x))
        else s.refs ++ [(ref, a)]
      labels := s.labels.register a.id ref }

/-- The account of an operation, as it was when its reference was bound; the operation works
with it even when the store no longer holds it. -/
def account (req : Json) : SessionM ChannelAccount := do
  boundAccount (← field (Field.str req "account"))

def name (j : Json) : SessionM Json := do
  let s ← get
  let (j', labels) := s.labels.rename (Json.sortKeys j)
  set { s with labels }
  return j'

def parseTime (text : String) : SessionM Instant := do
  let start ← origin
  if text == "now" then return start
  let offset? : Option Int :=
    if text.startsWith "now+" && text.endsWith "s" then
      (((text.drop 4).dropEnd 1).toString.toNat?).map Int.ofNat
    else if text.startsWith "now-" && text.endsWith "s" then
      (((text.drop 4).dropEnd 1).toString.toNat?).map fun n => -(n : Int)
    else none
  match offset? with
  | some secs =>
    match start.addSpan? (Span.ofSeconds secs) with
    | some t => return t
    | none => bad ("time out of range: " ++ text)
  | none => field (Field.parseTime text)

def time (req : Json) (k : String) : SessionM Instant := do parseTime (← field (Field.str req k))

def optTime (req : Json) (k : String) : SessionM (Option Instant) := do
  match ← field (Field.optStr req k) with
  | some s => some <$> parseTime s
  | none => pure none

end SessionM

end SellerSync
