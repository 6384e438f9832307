import SellerSync.Web.Url
import SellerSync.Crypto.Sha256
import SellerSync.Codec.Base64
import SellerSync.Time.Rfc3339
import SellerSync.Error
/-! AWS Signature Version 4 for Selling Partner API calls. -/
namespace SellerSync

structure AwsCredentials where
  accessKeyId : String
  secretAccessKey : String
  sessionToken : Option String
  deriving Repr, Inhabited

namespace AwsCredentials

def isConfigured (c : AwsCredentials) : Bool := !c.accessKeyId.isEmpty && !c.secretAccessKey.isEmpty

end AwsCredentials

namespace Signature

def algorithm : String := "AWS4-HMAC-SHA256"

def dateStamp (t : Instant) : String :=
  let days := t.seconds / 86400
  let (y, m, d) := Civil.civilFromDays days
  Rfc3339.yearText y ++ Rfc3339.pad 2 m ++ Rfc3339.pad 2 d

def amzDate (t : Instant) : String :=
  let days := t.seconds / 86400
  let secs := (t.seconds - days * 86400).toNat
  let sec := secs % 60 + (if t.nanos ≥ 1000000000 then 1 else 0)
  dateStamp t ++ "T" ++ Rfc3339.pad 2 (secs / 3600) ++ Rfc3339.pad 2 (secs / 60 % 60) ++
    Rfc3339.pad 2 sec ++ "Z"

/-- Words of a value joined by single spaces. -/
def collapseBlanks (s : String) : String :=
  let ws := (s.toList.splitBy (fun a b => Text.isBlank a == Text.isBlank b)).filter
    (fun w => !w.all Text.isBlank)
  " ".intercalate (ws.map String.ofList)

def hostHeader (url : Url) : Except SyncError String :=
  match url.hostText? with
  | none => .error (.configuration ("url has no host: " ++ url.serialize))
  | some h => .ok (match url.portNumber with
    | some p => h ++ ":" ++ toString p
    | none => h)

def canonicalUri (url : Url) : String :=
  if url.path.isEmpty then "/"
  else "/".intercalate ((url.path.splitOn "/").map Percent.encodeComponent)

def pairLe (a b : String × String) : Bool := decide (a.1 < b.1) || (a.1 == b.1 && decide (a.2 ≤ b.2))

def canonicalHeader (h : String × String) : String × String := (Text.toLower h.1, collapseBlanks h.2)

def canonicalHeaders (headers : List (String × String)) (host : String) : List (String × String) :=
  ((headers.map canonicalHeader).filter (fun h => h.1 != "host" && h.1 != "authorization") ++
    [("host", host)]).mergeSort pairLe

def canonicalQuery (url : Url) : String :=
  let pairs := url.queryPairs.map fun (k, v) => (Percent.encodeComponent k, Percent.encodeComponent v)
  "&".intercalate ((pairs.mergeSort pairLe).map fun (k, v) => k ++ "=" ++ v)

def sha256Hex (bs : List UInt8) : String := Hex.encode (Sha256.digest bs)

def addedHeaders (creds : AwsCredentials) (time : Instant) : List (String × String) :=
  [("x-amz-date", amzDate time)] ++
    (match creds.sessionToken with | some t => [("x-amz-security-token", t)] | none => [])

/-- The headers to add to a request so that it is signed. -/
def sign (creds : AwsCredentials) (region service : String) (time : Instant) (method : String)
    (url : Url) (headers : List (String × String)) (body : List UInt8) :
    Except SyncError (List (String × String)) := do
  let amz := amzDate time
  let date := dateStamp time
  let added := addedHeaders creds time
  let canonical := canonicalHeaders (headers ++ added) (← hostHeader url)
  let signedHeaders := ";".intercalate (canonical.map (·.1))
  let headerBlock := String.join (canonical.map fun (n, v) => n ++ ":" ++ v ++ "\n")
  let request := method ++ "\n" ++ canonicalUri url ++ "\n" ++ canonicalQuery url ++ "\n" ++
    headerBlock ++ "\n" ++ signedHeaders ++ "\n" ++ sha256Hex body
  let scope := date ++ "/" ++ region ++ "/" ++ service ++ "/aws4_request"
  let toSign := algorithm ++ "\n" ++ amz ++ "\n" ++ scope ++ "\n" ++
    sha256Hex (Percent.utf8 request)
  let kDate := Sha256.hmac (Percent.utf8 ("AWS4" ++ creds.secretAccessKey)) (Percent.utf8 date)
  let kRegion := Sha256.hmac kDate (Percent.utf8 region)
  let kService := Sha256.hmac kRegion (Percent.utf8 service)
  let kSigning := Sha256.hmac kService (Percent.utf8 "aws4_request")
  let signature := Hex.encode (Sha256.hmac kSigning (Percent.utf8 toSign))
  pure (added ++ [("authorization", algorithm ++ " Credential=" ++ creds.accessKeyId ++ "/" ++
    scope ++ ", SignedHeaders=" ++ signedHeaders ++ ", Signature=" ++ signature)])

end Signature

end SellerSync
