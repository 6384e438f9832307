import SellerSync.Json.Read
import SellerSync.Text.Blank
/-! Bodies of provider responses. A body whose text, after leading blanks, starts with `{` or `[` and
reads as JSON is kept as that value; any other body is kept as its text. -/
namespace SellerSync

inductive ResponseBody where
  | json (value : Json)
  | text (text : String)
  deriving Repr, Inhabited

namespace ResponseBody

def parse (text : String) : ResponseBody :=
  let trimmed := Text.trimStart text
  if trimmed.startsWith "\x7b" || trimmed.startsWith "[" then
    match Json.parse trimmed with
    | .ok v => json v
    | .error _ => ResponseBody.text text
  else ResponseBody.text text

def display : ResponseBody → String
  | json v => v.render
  | ResponseBody.text t => t

/-- The JSON value of the body, `null` for text. -/
def toJson : ResponseBody → Json
  | json v => v
  | ResponseBody.text _ => .null

/-- The JSON value of a JSON body. -/
def asJson? : ResponseBody → Option Json
  | json v => some v
  | ResponseBody.text _ => none

def serialize : ResponseBody → Json
  | json v => v
  | ResponseBody.text t => .str t

def kindName : ResponseBody → String
  | json _ => "json"
  | ResponseBody.text _ => "text"

end ResponseBody

end SellerSync
