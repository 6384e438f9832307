import SellerSync.Number.DecimalArith
import SellerSync.Json.Decode
import SellerSync.Error
import SellerSync.Uuid
import SellerSync.Text.Lowercase
import SellerSync.Time.Instant
/-! Shipping-rate quotes. Weights are grouped in bands of a quarter pound, to the nearest band with
halves away from zero; a weight that is not finite falls in band 0. -/
namespace SellerSync

namespace Rates

def defaultCurrency : String := "USD"

/-- A weight's band: the nearest multiple of a quarter, halves away from zero. Dividing by a
quarter overflows to infinity from `2^1022` on, and so does the band. -/
def weightBand (w : Binary64) : Binary64 :=
  if !w.isFinite then Binary64.zero false
  else
    let (neg, num, den) := w.toRatio
    if num ≥ Nat.pow 2 1022 * den then Binary64.infinity neg
    else Binary64.ofRatio neg ((8 * num + den) / (2 * den)) 4

def weightDecimal (w : Binary64) : Decimal :=
  if w.isNaN || w.negative then Decimal.zero
  else (Decimal.ofBinary64Short? w).getD Decimal.zero

end Rates

/-- What a destination asks a quote for. -/
structure QuoteRequest where
  city : String
  state : String
  zip : Option String
  weightLbs : Binary64
  itemCount : Nat
  deriving Repr, Inhabited

namespace QuoteRequest

def decode : Decoder QuoteRequest :=
  Record.run "QuoteRequest" 5 do
    let city ← Record.req "city" Decode.string
    let state ← Record.req "state" Decode.string
    let zip ← Record.opt "zip" Decode.string
    let weightLbs ← Record.req "weightLbs" Decode.f64
    let itemCount ← Record.req "itemCount" Decode.u32
    pure { city, state, zip, weightLbs, itemCount }

/-- The cache key: lowercased city and state, trimmed, and the weight's band. -/
def key (r : QuoteRequest) : String × String × Binary64 :=
  (Text.toLower (Text.trim r.city), Text.toLower (Text.trim r.state), Rates.weightBand r.weightLbs)

end QuoteRequest

/-- A quote as a provider gives it. -/
structure FetchedQuote where
  amount : Decimal
  currency : Option String
  provider : Option String
  raw : Json
  deriving Repr, Inhabited

/-- A quote kept for a destination, weight band and item count until it expires. -/
structure CachedQuote where
  id : Uuid
  cityLower : String
  stateLower : String
  weightBand : Binary64
  itemCount : Nat
  amount : Decimal
  currency : String
  provider : Option String
  raw : Json
  expiresAt : Option Instant
  updatedAt : Instant
  deriving Repr, Inhabited

namespace Rates

/-- The made-up quote for a weight and an item count. -/
def syntheticQuote (weight : Binary64) (itemCount : Nat) (provider : String) :
    Except SyncError FetchedQuote := do
  let perPound : Decimal := ⟨false, 5, 1⟩
  let perItem : Decimal := ⟨false, 2, 1⟩
  let some byWeight := perPound.mul? (weightDecimal weight) | throw SyncError.multiplicationOverflow
  let some byItems := perItem.mul? (Decimal.ofInt (max itemCount 1)) |
    throw SyncError.multiplicationOverflow
  let some sum := (Decimal.ofInt 5).add? byWeight | throw SyncError.additionOverflow
  let some sum := sum.add? byItems | throw SyncError.additionOverflow
  pure ⟨sum.roundAwayFromZero 2, some defaultCurrency, some provider,
    Json.object [("synthetic", .bool true)]⟩

end Rates

end SellerSync
