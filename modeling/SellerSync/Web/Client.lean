import SellerSync.Web.Url
import SellerSync.Web.Method
/-! Sending HTTP requests. A network takes a request and answers with a response, or with nothing when
no connection could be made; what it answers may depend on the requests it was sent before. -/
namespace SellerSync

structure HttpRequest where
  method : String
  url : Url
  headers : List (String × String)
  body : List UInt8
  deriving Repr, Inhabited

structure HttpResponse where
  status : Nat
  headers : List (String × String)
  body : String
  deriving Repr, Inhabited

/-- Where requests go: given the requests sent before, a response, or none when the host cannot
be reached. -/
abbrev Network := List HttpRequest → HttpRequest → Option HttpResponse

namespace Network

def unreachable : Network := fun _ _ => none

end Network

namespace Client

def validName (n : String) : Bool := Method.isValid n

def validValue (v : String) : Bool :=
  v.toUTF8.toList.all fun b => (b ≥ 32 && b != 127) || b == 9

def forUrl (lead : String) (u : Url) : String := lead ++ " for url (" ++ u.serialize ++ ")"

def refusal (req : HttpRequest) : Option String :=
  if req.url.host.isNone then some (forUrl "builder error" req.url)
  else if !req.headers.all (fun (n, v) => validName n && validValue v) then some "builder error"
  else if req.url.scheme != "http" && req.url.scheme != "https" then
    some (forUrl "builder error" req.url)
  else none

/-- A request to a URL given as text, which must parse. -/
def request (method urlText : String) (headers : List (String × String)) (body : List UInt8) :
    Except String HttpRequest :=
  match Url.parse urlText with
  | .error _ => .error "builder error"
  | .ok url => .ok ⟨method, url, headers, body⟩

def wire : Except String HttpRequest → List HttpRequest
  | .error _ => []
  | .ok req => if (refusal req).isSome then [] else [req]

def exchange (net : Network) (past : List HttpRequest) : Except String HttpRequest →
    Except String HttpResponse
  | .error e => .error e
  | .ok req =>
    match refusal req with
    | some e => .error e
    | none =>
      match net past req with
      | some r => .ok r
      | none => .error (forUrl "error sending request" req.url)

end Client

end SellerSync
