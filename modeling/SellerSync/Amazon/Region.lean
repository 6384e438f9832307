/-! Selling regions of the Amazon marketplace: North America, Europe and the Far East, named `na`,
`eu` and `fe`. -/
namespace SellerSync

inductive AmazonRegion where
  | northAmerica
  | europe
  | farEast
  deriving DecidableEq, Repr, Inhabited

namespace AmazonRegion

def ofName (s : String) : AmazonRegion :=
  if s = "eu" then europe else if s = "fe" then farEast else northAmerica

def apiHost : AmazonRegion → String
  | northAmerica => "sellingpartnerapi-na.amazon.com"
  | europe => "sellingpartnerapi-eu.amazon.com"
  | farEast => "sellingpartnerapi-fe.amazon.com"

def awsRegion : AmazonRegion → String
  | northAmerica => "us-east-1"
  | europe => "eu-west-1"
  | farEast => "us-west-2"

def defaultMarketplaceId : AmazonRegion → String
  | northAmerica => "ATVPDKIKX0DER"
  | europe => "A1F83G8C2ARO7P"
  | farEast => "A1VC38T7YXB528"

/-- Seller Central's consent page for the region. -/
def consentBase : AmazonRegion → String
  | northAmerica => "https://sellercentral.amazon.com/apps/authorize/consent"
  | europe => "https://sellercentral-europe.amazon.com/apps/authorize/consent"
  | farEast => "https://sellercentral.amazon.co.jp/apps/authorize/consent"

def signingService : String := "execute-api"

end AmazonRegion

end SellerSync
