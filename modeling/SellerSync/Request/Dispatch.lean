import SellerSync.Request.Pure
import SellerSync.Session.Run
import SellerSync.Json.Read
/-!
One request, one answer. A request is a JSON object naming its operation under `op`; the answer
is the operation's JSON value, or an object with the failure's `error` kind and `message`.
-/
namespace SellerSync

namespace Dispatch

def respond (req : Json) : Json :=
  let result : Answer :=
    match req.get? "op" with
    | some (.str "session") => .ok (Session.run req)
    | some (.str op) =>
      match Pure.answer op req with
      | some a => a
      | none => Field.bad ("unknown op " ++ op)
    | _ => Field.bad "missing op"
  match result with
  | .ok j => j
  | .error f => f.toJson

def respondLine (line : String) : String :=
  match Json.parse line with
  | .ok req => (respond req).render
  | .error e => (Failure.badInput ("invalid JSON: " ++ e)).toJson.render

end Dispatch

end SellerSync
