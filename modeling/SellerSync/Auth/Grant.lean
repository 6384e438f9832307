import SellerSync.Json.Decode
import SellerSync.Time.Rfc3339
import SellerSync.Error
/-! What a token endpoint grants, and when a held token is due for renewal. -/
namespace SellerSync

structure TokenGrant where
  accessToken : String
  refreshToken : Option String
  expiresIn : Option Int
  refreshTokenExpiresIn : Option Int
  scope : Option String
  deriving Repr, Inhabited

/-- Tokens and expiry times to store for an account. -/
structure TokenUpdate where
  accessToken : String
  accessTokenExpiresAt : Option Instant
  refreshToken : Option String
  refreshTokenExpiresAt : Option Instant
  deriving Repr, Inhabited

namespace TokenGrant

def decode : Decoder TokenGrant :=
  Record.run "TokenGrant" 5 do
    let accessToken ← Record.req "access_token" Decode.string
    let refreshToken ← Record.dflt "refresh_token" (Decode.option Decode.string) none
    let expiresIn ← Record.dflt "expires_in" (Decode.option Decode.i64) none
    let refreshTokenExpiresIn ← Record.dflt "refresh_token_expires_in" (Decode.option Decode.i64) none
    let scope ← Record.dflt "scope" (Decode.option Decode.string) none
    pure { accessToken, refreshToken, expiresIn, refreshTokenExpiresIn, scope }

def expiryAt (now : Instant) (lifetime : Option Int) : Except SyncError (Option Instant) :=
  match lifetime with
  | some secs =>
    if secs ≤ 0 then pure none
    else match Span.ofSeconds? secs with
      | none => throw SyncError.spanOutOfRange
      | some d =>
        match now.addSpan? d with
        | some t => pure (some t)
        | none => throw SyncError.instantOutOfRange
  | none => pure none

/-- The tokens to store for a grant received at `now`. -/
def toUpdate (g : TokenGrant) (now : Instant) : Except SyncError TokenUpdate := do
  let accessExpiry ← expiryAt now g.expiresIn
  let refreshExpiry ← expiryAt now g.refreshTokenExpiresIn
  pure ⟨g.accessToken, accessExpiry, g.refreshToken, refreshExpiry⟩

end TokenGrant

namespace Credential

def refreshMarginSecs : Int := 120

/-- Whether a token expiring at `expiresAt` must be renewed at `now`; one without expiry never
must. -/
def needsRefresh (expiresAt : Option Instant) (now : Instant) : Bool :=
  match expiresAt with
  | some t => (t.since now).toNanos ≤ refreshMarginSecs * 1000000000
  | none => false

end Credential

end SellerSync
