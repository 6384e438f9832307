import SellerSync.Store.Basic
/-! Cached quotes in the store. A quote is upserted on city, state, band and item count, bands
compared as numbers. -/
namespace SellerSync

namespace Store

def bandSlack : Binary64 := Binary64.ofDecimal false 1 (-9)

def findQuote (s : Store) (city state : String) (itemCount : Nat) (low high : Binary64)
    (now : Instant) : Option CachedQuote :=
  Rows.latest (fun a b => Instant.lt a.updatedAt b.updatedAt)
    (s.quotes.filter fun q =>
      q.cityLower == city && q.stateLower == state && q.itemCount == itemCount &&
        (low.sub bandSlack).le q.weightBand && q.weightBand.le (high.add bandSlack) &&
        (match q.expiresAt with
         | some exp => Instant.lt now exp
         | none => true))

/-- Writes a quote over the one with its city, state, band and item count. -/
def upsertQuote (s : Store) (q : CachedQuote) : CachedQuote × Store :=
  let q := match s.quotes.find? fun e =>
      e.cityLower == q.cityLower && e.stateLower == q.stateLower &&
        e.weightBand.eqValue q.weightBand && e.itemCount == q.itemCount with
    | some e => { q with id := e.id }
    | none => q
  (q, { s with quotes := Rows.put (·.id == q.id) q s.quotes })

end Store

end SellerSync
