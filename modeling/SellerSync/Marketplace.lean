import SellerSync.Text.Blank
import SellerSync.Text.Lowercase
/-!
The three marketplaces an account can belong to, by their lowercase names. A name is recognised
after trimming blanks and full lowercasing, so `" Amazon "` names Amazon.
-/
namespace SellerSync

inductive Marketplace where
  | shopify
  | ebay
  | amazon
  deriving DecidableEq, Repr, Inhabited

namespace Marketplace

def all : List Marketplace := [shopify, ebay, amazon]

def name : Marketplace → String
  | shopify => "shopify"
  | ebay => "ebay"
  | amazon => "amazon"

def parse? (s : String) : Option Marketplace :=
  let n := Text.toLower (Text.trim s)
  all.find? (fun m => m.name == n)

def ofName? (s : String) : Option Marketplace := all.find? (fun m => m.name == s)

end Marketplace

end SellerSync
