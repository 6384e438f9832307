import SellerSync.Settings
import SellerSync.Request.Field
/-!
Settings given in a request. Each section is an object whose present keys replace single fields;
a text field takes a string, an optional field also takes `null`, and a switch takes a boolean.
-/
namespace SellerSync

namespace Overrides

def text (sec : Json) (path k : String) (v : String) : Except Failure String :=
  match sec.get? k with
  | none => pure v
  | some (.str s) => pure s
  | some _ => Field.bad (path ++ "." ++ k ++ " must be a string")

def optText (sec : Json) (path k : String) (v : Option String) : Except Failure (Option String) :=
  match sec.get? k with
  | none => pure v
  | some .null => pure none
  | some (.str s) => pure (some s)
  | some _ => Field.bad (path ++ "." ++ k ++ " must be a string or null")

def switch (sec : Json) (path k : String) (v : Bool) : Except Failure Bool :=
  match sec.get? k with
  | none => pure v
  | some (.bool b) => pure b
  | some _ => Field.bad (path ++ "." ++ k ++ " must be a boolean")

def section? (cfg : Json) (k : String) : Except Failure Json :=
  match cfg.get? k with
  | none | some .null => pure (.obj [])
  | some (.obj fs) => pure (.obj fs)
  | some _ => Field.bad ("config." ++ k ++ " must be an object")

def shopify (sec : Json) (c : ShopifySettings) : Except Failure ShopifySettings := do
  let p := "config.shopify"
  pure { clientId := ← text sec p "client_id" c.clientId
         clientSecret := ← text sec p "client_secret" c.clientSecret
         apiVersion := ← text sec p "api_version" c.apiVersion
         scopes := ← text sec p "scopes" c.scopes
         webhookSecret := ← optText sec p "webhook_secret" c.webhookSecret
         baseUrlOverride := ← optText sec p "base_url_override" c.baseUrlOverride }

def ebay (sec : Json) (c : EbaySettings) : Except Failure EbaySettings := do
  let p := "config.ebay"
  pure { clientId := ← text sec p "client_id" c.clientId
         clientSecret := ← text sec p "client_secret" c.clientSecret
         ruName := ← text sec p "ru_name" c.ruName
         scope := ← text sec p "scope" c.scope
         marketplaceId := ← text sec p "marketplace_id" c.marketplaceId
         apiBaseUrl := ← text sec p "api_base_url" c.apiBaseUrl
         authBaseUrl := ← text sec p "auth_base_url" c.authBaseUrl }

def amazon (sec : Json) (c : AmazonSettings) : Except Failure AmazonSettings := do
  let p := "config.amazon"
  pure { appId := ← text sec p "app_id" c.appId
         clientId := ← text sec p "client_id" c.clientId
         clientSecret := ← text sec p "client_secret" c.clientSecret
         redirectUri := ← text sec p "redirect_uri" c.redirectUri
         tokenUrl := ← text sec p "token_url" c.tokenUrl
         region := ← text sec p "region" c.region
         awsAccessKeyId := ← text sec p "aws_access_key_id" c.awsAccessKeyId
         awsSecretAccessKey := ← text sec p "aws_secret_access_key" c.awsSecretAccessKey
         awsSessionToken := ← optText sec p "aws_session_token" c.awsSessionToken
         endpointOverride := ← optText sec p "endpoint_override" c.endpointOverride }

def shippo (sec : Json) (c : ShippoSettings) : Except Failure ShippoSettings := do
  let p := "config.shippo"
  pure { c with apiKey := ← optText sec p "api_key" c.apiKey
                apiBase := ← text sec p "api_base" c.apiBase
                mockMode := ← switch sec p "mock_mode" c.mockMode }

def rateShopping (sec : Json) (c : RateShoppingSettings) : Except Failure RateShoppingSettings := do
  let p := "config.rate_shopping"
  pure { c with apiUrl := ← optText sec p "api_url" c.apiUrl
                apiKey := ← optText sec p "api_key" c.apiKey }

def apply (cfg : Json) (c : Settings) : Except Failure Settings := do
  match cfg with
  | .null => pure c
  | .obj _ =>
    pure { c with
      appBaseUrl := ← text cfg "config" "app_base_url" c.appBaseUrl
      shopify := ← shopify (← section? cfg "shopify") c.shopify
      ebay := ← ebay (← section? cfg "ebay") c.ebay
      amazon := ← amazon (← section? cfg "amazon") c.amazon
      shippo := ← shippo (← section? cfg "shippo") c.shippo
      rateShopping := ← rateShopping (← section? cfg "rate_shopping") c.rateShopping }
  | _ => Field.bad "config must be an object"

end Overrides

end SellerSync
