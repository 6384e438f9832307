import SellerSync.Store.Basic
import SellerSync.Settings
import SellerSync.Api.Retry
import SellerSync.Auth.Transaction
import SellerSync.Web.Client
/-! A running service: its settings and network, and the state it changes from call to call. -/
namespace SellerSync

/-- What a service is configured with. -/
structure Context where
  settings : Settings
  policy : RetryPolicy
  /-- How long a cached quote is good for. -/
  quoteTtl : Span
  /-- Where the clock starts. -/
  origin : Instant
  network : Network

/-- What a service does outside itself: a request it puts on the network, or a pause before it
tries a call again. -/
inductive Outbound where
  | request (req : HttpRequest)
  | pause (d : Duration)
  deriving Repr, Inhabited

namespace Outbound

def request? : Outbound → Option HttpRequest
  | request req => some req
  | pause _ => none

end Outbound

/-- What a service holds between calls. -/
structure Service where
  store : Store := {}
  pending : List OAuthTransaction := []
  /-- Ids handed out so far. -/
  issued : Nat := 0
  /-- Clock readings taken so far. -/
  readings : Nat := 0
  /-- Nonces issued so far. -/
  nonces : Nat := 0
  /-- Requests sent and pauses taken so far, oldest first. -/
  outbound : List Outbound := []
  deriving Inhabited

abbrev SyncM := ReaderT Context (ExceptT SyncError (StateM Service))

namespace Service

def idOf (n : Nat) : Uuid := ⟨0x7d3f0c2a91b44c6e8a5d * Nat.pow 2 48 + n % Nat.pow 2 48⟩

/-- The nonce issued `n`-th: 32 lowercase hex digits. -/
def nonceOf (n : Nat) : String :=
  String.ofList (Uuid.hexDigits (0x5eed0c0ffee * Nat.pow 2 84 + n % Nat.pow 2 84) 32)

def sent (s : Service) : List HttpRequest := s.outbound.filterMap Outbound.request?

def offer (s : Service) (req : Except String HttpRequest) : Service :=
  { s with outbound := s.outbound ++ (Client.wire req).map .request }

def readingOf (origin : Instant) (n : Nat) : Instant :=
  let total := origin.nanos + 1000 * n
  ⟨origin.seconds + (total / 1000000000 : Nat), total % 1000000000⟩

end Service

namespace SyncM

def fail (e : SyncError) : SyncM α := throw e

def expect (r : Except SyncError α) : SyncM α :=
  match r with
  | .ok a => pure a
  | .error e => throw e

def attempt (m : SyncM α) : SyncM (Except SyncError α) :=
  tryCatch (Except.ok <$> m) fun e => pure (.error e)

def settings : SyncM Settings := return (← read).settings

def now : SyncM Instant := do
  let s ← get
  set { s with readings := s.readings + 1 }
  return Service.readingOf (← read).origin (s.readings + 1)

def freshId : SyncM Uuid := do
  let s ← get
  set { s with issued := s.issued + 1 }
  return Service.idOf (s.issued + 1)

def freshNonce : SyncM String := do
  let s ← get
  set { s with nonces := s.nonces + 1 }
  return Service.nonceOf (s.nonces + 1)

def transmit (req : Except String HttpRequest) : SyncM (Except String HttpResponse) := do
  let s ← get
  set (s.offer req)
  return Client.exchange (← read).network s.sent req

def pause (d : Duration) : SyncM Unit :=
  modify fun s => { s with outbound := s.outbound ++ [.pause d] }

def store : SyncM Store := return (← get).store

def setStore (st : Store) : SyncM Unit := modify fun s => { s with store := st }

def onStore (f : Store → α × Store) : SyncM α := do
  let (a, st) := f (← store)
  setStore st
  return a

def onStoreE (f : Store → Except SyncError (α × Store)) : SyncM α := do
  let (a, st) ← expect (f (← store))
  setStore st
  return a

end SyncM

end SellerSync
