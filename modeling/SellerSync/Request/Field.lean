import SellerSync.Json.Scalars
import SellerSync.Json.Decode
import SellerSync.Marketplace
import SellerSync.Error
import SellerSync.Codec.Base64
/-! Reading the fields of a request. -/
namespace SellerSync

/-- Why a request was not served. -/
inductive Failure where
  /-- A field of the request is missing or has the wrong shape. -/
  | badInput (message : String)
  /-- A document handed to the service does not decode. -/
  | decode (message : String)
  /-- The service itself failed. -/
  | service (e : SyncError)
  deriving Repr, Inhabited

namespace Failure

def toJson : Failure → Json
  | badInput m => .object [("error", .str "bad_input"), ("message", .str m)]
  | decode m => .object [("error", .str "decode"), ("message", .str m)]
  | service e => .object [("error", .str e.kind), ("message", .str e.message)]

end Failure

/-- The answer to a request: a JSON value or a failure. -/
abbrev Answer := Except Failure Json

namespace Field

def get (req : Json) (k : String) : Json := (req.get? k).getD .null

def bad (msg : String) : Except Failure α := throw (.badInput msg)

def ofService (r : Except SyncError α) : Except Failure α := r.mapError .service

def ofDecode (r : Except DecodeError α) : Except Failure α := r.mapError (.decode ·.message)

def str (req : Json) (k : String) : Except Failure String :=
  match get req k with
  | .str s => pure s
  | _ => bad (k ++ " must be a string")

def optStr (req : Json) (k : String) : Except Failure (Option String) :=
  match get req k with
  | .str s => pure (some s)
  | .null => pure none
  | _ => bad (k ++ " must be a string")

def strD (req : Json) (k fallback : String) : Except Failure String :=
  return (← optStr req k).getD fallback

def bool (req : Json) (k : String) : Except Failure Bool :=
  match get req k with
  | .bool b => pure b
  | _ => bad (k ++ " must be a boolean")

def number (req : Json) (k : String) : Except Failure Binary64 :=
  match get req k with
  | .num n => pure n.toBinary64
  | .str "NaN" => pure Binary64.nan
  | .str "Infinity" => pure (Binary64.infinity false)
  | .str "-Infinity" => pure (Binary64.infinity true)
  | _ => bad (k ++ " must be a number")

def natBelow (bits : Nat) (name : String) (req : Json) (k : String) : Except Failure Nat :=
  match get req k with
  | .num (.unsigned n) => if n < Nat.pow 2 bits then pure n else bad (k ++ " out of " ++ name ++ " range")
  | _ => bad (k ++ " must be a non-negative integer")

def u32 (req : Json) (k : String) : Except Failure Nat := natBelow 32 "u32" req k

def u64 (req : Json) (k : String) : Except Failure Nat := natBelow 64 "u64" req k

def optU64 (req : Json) (k : String) : Except Failure (Option Nat) :=
  if (get req k).isNull then pure none else some <$> u64 req k

def i64 (req : Json) (k : String) : Except Failure Int :=
  match get req k with
  | .num n =>
    match n.toI64? with
    | some i => pure i
    | none => bad (k ++ " must be an integer")
  | _ => bad (k ++ " must be an integer")

def array (req : Json) (k : String) : Except Failure (List Json) :=
  match get req k with
  | .arr xs => pure xs
  | _ => bad (k ++ " must be an array")

def parseTime (s : String) : Except Failure Instant :=
  match Instant.parseRfc3339 s with
  | .ok t => pure t
  | .error e => bad ("bad time " ++ s ++ ": " ++ e.message)

def time (req : Json) (k : String) : Except Failure Instant := do
  parseTime (← str req k)

def optTime (req : Json) (k : String) : Except Failure (Option Instant) := do
  match ← optStr req k with
  | some s => some <$> parseTime s
  | none => pure none

def marketplace (req : Json) (k : String) : Except Failure Marketplace :=
  match get req k with
  | .str s =>
    match Marketplace.ofName? s with
    | some m => pure m
    | none => bad (k ++ " must be shopify, ebay or amazon")
  | _ => bad (k ++ " must be shopify, ebay or amazon")

def bytes (req : Json) (k : String) : Except Failure (List UInt8) :=
  match get req (k ++ "_b64") with
  | .str s =>
    match Base64.decodeLenient s with
    | some bs => pure bs
    | none => bad (k ++ "_b64 must be base64")
  | _ => do
    let s ← str req k
    pure s.toUTF8.toList

def pairs (req : Json) (k : String) : Except Failure (List (String × String)) := do
  let xs ← match get req k with
    | .arr xs => pure xs
    | .null => pure []
    | _ => bad (k ++ " must be an array of pairs")
  xs.mapM fun
    | .arr [.str a, .str b] => pure (a, b)
    | _ => bad (k ++ " must be an array of pairs")

end Field

end SellerSync
