import SellerSync.Api.Credential
import SellerSync.Api.Retry
import SellerSync.Api.ResponseBody
import SellerSync.Amazon.Signature
import SellerSync.Amazon.Region
/-! Authenticated calls to a marketplace API with a bounded number of attempts. -/
namespace SellerSync

/-- One outbound call: method, a path below the base or an absolute URL, query pairs, an optional
JSON body and extra headers. -/
structure ApiRequest where
  method : String
  path : String
  query : List (String × String) := []
  body : Option Json := none
  headers : List (String × String) := []
  deriving Repr, Inhabited

namespace ApiRequest

def get (path : String) : ApiRequest := ⟨"GET", path, [], none, []⟩

def post (path : String) (body : Json) : ApiRequest := ⟨"POST", path, [], some body, []⟩

def patch (path : String) (body : Json) : ApiRequest := ⟨"PATCH", path, [], some body, []⟩

def withQuery (r : ApiRequest) (k v : String) : ApiRequest := { r with query := r.query ++ [(k, v)] }

end ApiRequest

/-- What one attempt brought back. -/
structure Attempt where
  status : Nat
  retryAfter : Option Duration
  body : ResponseBody
  deriving Repr, Inhabited

namespace Executor

open SyncM

/-- The account's region, or the configured one. -/
def regionName (cfg : Settings) (account : ChannelAccount) : String :=
  account.region.getD cfg.amazon.region

def baseUrl (account : ChannelAccount) : SyncM String := do
  let cfg ← settings
  match account.marketplace with
  | .shopify =>
    let some shop := account.externalId |
      fail (.configuration ("shopify account " ++ account.id.toText ++ " has no shop"))
    return cfg.shopify.shopBase shop
  | .ebay => return cfg.ebay.apiBaseUrl
  | .amazon =>
    match cfg.amazon.endpointOverride with
    | some e => return dropTrailing '/' e
    | none => return "https://" ++ (AmazonRegion.ofName (regionName cfg account)).apiHost

def buildUrl (account : ChannelAccount) (req : ApiRequest) : SyncM Url := do
  let raw ← if req.path.startsWith "http://" || req.path.startsWith "https://" then pure req.path
    else pure ((← baseUrl account) ++ req.path)
  match Url.parse raw with
  | .error e => fail (.configuration ("invalid url " ++ raw ++ ": " ++ e.message))
  | .ok u => return u.appendPairs req.query

def awsCredentials (c : AmazonSettings) : AwsCredentials :=
  ⟨c.awsAccessKeyId, c.awsSecretAccessKey, c.awsSessionToken⟩

def retryAfter (headers : List (String × String)) : Option Duration :=
  (headers.find? (fun (n, _) => Text.toLower n == "retry-after")).bind fun (_, v) =>
    (Numeral.natOfTextBelow? 64 (Text.trim v)).map Duration.ofSecs

/-- One attempt with the credential attached. -/
def sendOnce (account : ChannelAccount) (req : ApiRequest) (url : Url) (body : Option (List UInt8))
    (token : String) : SyncM Attempt := do
  let cfg ← settings
  let base := req.headers ++ [("accept", "application/json")] ++
    (if body.isSome then [("content-type", "application/json")] else [])
  let headers ← match account.marketplace with
    | .shopify => pure (base ++ [("x-shopify-access-token", token)])
    | .ebay =>
      let mid := account.marketplaceIds.headD cfg.ebay.marketplaceId
      pure (base ++ [("authorization", "Bearer " ++ token), ("x-ebay-c-marketplace-id", mid)])
    | .amazon => do
      let aws := awsCredentials cfg.amazon
      if !aws.isConfigured then
        fail (.configuration
          "AMAZON_SPAPI_AWS_ACCESS_KEY_ID or AMAZON_SPAPI_AWS_SECRET_ACCESS_KEY not configured")
      let headers := base ++ [("x-amz-access-token", token)]
      let time ← now
      let signed ← expect (Signature.sign aws (AmazonRegion.ofName (regionName cfg account)).awsRegion
        AmazonRegion.signingService time req.method url headers (body.getD []))
      pure (headers ++ signed)
  match ← transmit (.ok ⟨req.method, url, headers, body.getD []⟩) with
  | .error m => fail (.transport m)
  | .ok r => return ⟨r.status, retryAfter r.headers, ResponseBody.parse r.body⟩

def statusError (a : Attempt) (attempts : Nat) : SyncError :=
  if a.status == 429 then .providerRateLimited a.status a.body attempts
  else if isRetryable a.status then .providerTransientFailure a.status a.body attempts
  else .providerRejected a.status a.body

def attemptFrom (send : SyncM Attempt) (attempt : Nat) : (left : Nat) → SyncM ResponseBody
  | 0 => do
    let a ← send
    if 200 ≤ a.status && a.status < 300 then return a.body else fail (statusError a attempt)
  | l + 1 => do
    let outcome ← tryCatch (Except.ok <$> send) fun e => pure (Except.error e)
    match outcome with
    | .error (.transport _) =>
      pause ((← read).policy.delayFor attempt none)
      attemptFrom send (attempt + 1) l
    | .error e => fail e
    | .ok a =>
      if 200 ≤ a.status && a.status < 300 then return a.body
      else if isRetryable a.status then
        pause ((← read).policy.delayFor attempt a.retryAfter)
        attemptFrom send (attempt + 1) l
      else fail (statusError a attempt)

/-- Sends a request for the account, retrying lost connections, throttling and server errors
while the policy's attempts last. -/
def execute (account : ChannelAccount) (req : ApiRequest) : SyncM ResponseBody := do
  let token ← Credential.acquire account.id
  let url ← buildUrl account req
  let body := req.body.map fun j => j.render.toUTF8.toList
  let maxAttempts := (← read).policy.maxAttempts
  attemptFrom (sendOnce account req url body token) 1 (maxAttempts - 1)

end Executor

end SellerSync
