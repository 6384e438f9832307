import SellerSync.Store.Basic
import SellerSync.Auth.Grant
/-! Accounts in the store. An upsert on seller, marketplace and external id keeps the existing id,
creation time and last sync time (unless the incoming account has one). -/
namespace SellerSync

namespace Store

def account? (s : Store) (id : Uuid) : Option ChannelAccount := s.accounts.find? (·.id == id)

def requireAccount (s : Store) (id : Uuid) : Except SyncError ChannelAccount :=
  match s.account? id with
  | some a => .ok a
  | none => .error (.notFound "channel account" id.toText)

/-- Writes an account over the one with its natural key, stamping the update time `now`. -/
def upsertAccount (s : Store) (incoming : ChannelAccount) (now : Instant) :
    ChannelAccount × Store :=
  let merged :=
    match s.accounts.find? (·.sameIdentity incoming) with
    | some e =>
      { incoming with id := e.id, createdAt := e.createdAt,
                      lastSyncedAt := incoming.lastSyncedAt.or e.lastSyncedAt }
    | none => incoming
  let a := { merged with updatedAt := now }
  (a, { s with accounts := Rows.put (·.id == a.id) a s.accounts })

def accountBefore (a b : ChannelAccount) : Bool :=
  match Ord.compare a.isActive b.isActive with
  | .lt => true
  | .gt => false
  | .eq =>
    match Instant.compare a.updatedAt b.updatedAt with
    | .lt => true
    | .gt => false
    | .eq => a.id.value < b.id.value

/-- The account of `marketplace` known by `externalId`, the most preferred one when several
sellers connected it. -/
def findAccount (s : Store) (marketplace : Marketplace) (externalId : String) :
    Option ChannelAccount :=
  Rows.latest accountBefore
    (s.accounts.filter fun a => a.marketplace == marketplace && a.externalId == some externalId)

/-- A seller's accounts on a marketplace, most recently updated first. -/
def accountsForSeller (s : Store) (seller : Uuid) (marketplace : Marketplace) :
    List ChannelAccount :=
  (s.accounts.filter fun a => a.sellerId == seller && a.marketplace == marketplace).mergeSort
    fun a b =>
      match Instant.compare a.updatedAt b.updatedAt with
      | .gt => true
      | .lt => false
      | .eq => b.id.value ≤ a.id.value

/-- Active accounts of the given marketplaces, oldest first. -/
def activeAccounts (s : Store) (marketplaces : List Marketplace) : List ChannelAccount :=
  (s.accounts.filter fun a => a.isActive && marketplaces.contains a.marketplace).mergeSort
    fun a b => Instant.le a.createdAt b.createdAt

/-- Removes the account if `seller` owns it: `false` when there is no such account, not found
when another seller owns it. -/
def deleteAccount (s : Store) (id seller : Uuid) : Except SyncError (Bool × Store) :=
  match s.account? id with
  | none => .ok (false, s)
  | some a =>
    if a.sellerId != seller then .error (.notFound "channel account" id.toText)
    else .ok (true, { s with accounts := s.accounts.filter (·.id != id) })

def modifyAccount (s : Store) (id : Uuid) (f : ChannelAccount → ChannelAccount) :
    Except SyncError (ChannelAccount × Store) :=
  match s.account? id with
  | none => .error (.notFound "channel account" id.toText)
  | some a =>
    let a' := f a
    .ok (a', { s with accounts := s.accounts.map fun x => if x.id == id then a' else x })

/-- Stores fresh tokens; an update without a refresh token keeps the stored one and its
expiry. -/
def applyTokenUpdate (s : Store) (id : Uuid) (u : TokenUpdate) (now : Instant) :
    Except SyncError (ChannelAccount × Store) :=
  s.modifyAccount id fun a =>
    let a := { a with accessToken := some u.accessToken, accessTokenExpiresAt := u.accessTokenExpiresAt }
    let a := match u.refreshToken with
      | some r => { a with refreshToken := some r, refreshTokenExpiresAt := u.refreshTokenExpiresAt }
      | none => a
    { a with updatedAt := now }

def markSynced (s : Store) (id : Uuid) (at_ : Instant) : Except SyncError Store :=
  (s.modifyAccount id fun a => { a with lastSyncedAt := some at_ }).map (·.2)

def setAccountStatus (s : Store) (id : Uuid) (status : AccountStatus) (now : Instant) :
    Except SyncError Store :=
  (s.modifyAccount id fun a => { a with status, updatedAt := now }).map (·.2)

end Store

end SellerSync
