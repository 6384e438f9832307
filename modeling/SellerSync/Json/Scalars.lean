import SellerSync.Json.Value
import SellerSync.Number.Decimal
import SellerSync.Time.Rfc3339
/-! JSON forms of the scalar values in answers. -/
namespace SellerSync

namespace Json

def ofDecimal (d : Decimal) : Json := str d.toText

def ofInstant (t : Instant) : Json := str t.toRfc3339

def ofBinary64Spelled (x : Binary64) : Json :=
  if x.isFinite then num (.float x)
  else if x.isNaN then str "NaN"
  else if x.negative then str "-Infinity"
  else str "Infinity"

def opt (f : α → Json) : Option α → Json
  | some a => f a
  | none => null

def someFields (fs : List (String × Option Json)) : Json :=
  object (fs.filterMap fun (k, v) => v.map (k, ·))

end Json

end SellerSync
