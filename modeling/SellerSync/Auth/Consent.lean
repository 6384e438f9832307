import SellerSync.Settings
import SellerSync.Amazon.Region
import SellerSync.Web.Percent
/-! Where a seller is sent to grant access, and which shop a storefront name means. -/
namespace SellerSync

namespace Consent

def dropPrefixes (p s : List Char) : (fuel : Nat) → List Char
  | 0 => s
  | fuel + 1 => if !p.isEmpty && p.isPrefixOf s then dropPrefixes p (s.drop p.length) fuel else s

def shopSuffix : String := ".myshopify.com"

def isHostChar (c : Char) : Bool := (c.isAlphanum && c.toNat < 128) || c == '-' || c == '.'

/-- The shop host that a typed name, host or admin URL refers to. -/
def shopDomain? (input : String) : Option String :=
  let cs := (Text.trim input).toList
  let cs := dropPrefixes "https://".toList cs (cs.length + 1)
  let cs := dropPrefixes "http://".toList cs (cs.length + 1)
  let host := Text.toLower (String.ofList (cs.takeWhile (· != '/')))
  if host.isEmpty || !host.toList.all isHostChar then none
  else if shopSuffix.toList.isSuffixOf host.toList then some host
  else if !host.toList.contains '.' then some (host ++ shopSuffix)
  else none

def enc (s : String) : String := Percent.encodeComponent s

/-- The storefront's consent page for a shop. -/
def shopifyUrl (c : ShopifySettings) (shop redirectUri state : String) : String :=
  "https://" ++ shop ++ "/admin/oauth/authorize?client_id=" ++ enc c.clientId ++ "&scope=" ++
    enc c.scopes ++ "&redirect_uri=" ++ enc redirectUri ++ "&state=" ++ enc state

/-- eBay's consent page; the redirect is named by its registered name, not by a URL. -/
def ebayUrl (c : EbaySettings) (state : String) : String :=
  c.authBaseUrl ++ "/oauth2/authorize?client_id=" ++ enc c.clientId ++ "&redirect_uri=" ++
    enc c.ruName ++ "&response_type=code&scope=" ++ enc c.scope ++ "&state=" ++ enc state

/-- Seller Central's consent page in the seller's region. -/
def amazonUrl (c : AmazonSettings) (region state : String) : String :=
  (AmazonRegion.ofName region).consentBase ++ "?application_id=" ++ enc c.appId ++ "&state=" ++
    enc state ++ "&redirect_uri=" ++ enc c.redirectUri ++ "&version=beta"

end Consent

end SellerSync
