import SellerSync.Number.Binary64
/-! JSON values as the marketplace payloads and the answers carry them. -/
namespace SellerSync

/-- A JSON number as read: whole numbers within 64-bit range stay exact, everything else is the
nearest binary64 value. -/
inductive JsonNumber where
  /-- A whole number in `[0, 2^64)`. -/
  | unsigned (n : Nat)
  /-- A negative whole number not below `-2^63`. -/
  | signed (n : Int)
  /-- Any other number. -/
  | float (x : Binary64)
  deriving DecidableEq, Repr, Inhabited

inductive Json where
  | null
  | bool (b : Bool)
  | num (n : JsonNumber)
  | str (s : String)
  | arr (items : List Json)
  /-- Members sorted by key, each key once. -/
  | obj (fields : List (String × Json))
  deriving Repr, Inhabited

namespace JsonNumber

def i64Max : Nat := Nat.pow 2 63 - 1

def toI64? : JsonNumber → Option Int
  | unsigned n => if n ≤ i64Max then some n else none
  | signed n => some n
  | float _ => none

def toU64? : JsonNumber → Option Nat
  | unsigned n => some n
  | _ => none

def toBinary64 : JsonNumber → Binary64
  | unsigned n => Binary64.ofInt n
  | signed n => Binary64.ofInt n
  | float x => x

def ofInt (n : Int) : JsonNumber := if n < 0 then signed n else unsigned n.toNat

def render : JsonNumber → String
  | unsigned n => toString n
  | signed n => toString n
  | float x => if x.isFinite then x.toJsonText else "null"

end JsonNumber

namespace Json

def normalizeFields (fs : List (String × Json)) : List (String × Json) :=
  let keep := fs.reverse.foldl (fun (acc : List (String × Json)) kv =>
    if acc.any (fun p => p.1 == kv.1) then acc else kv :: acc) []
  keep.mergeSort (fun a b => decide (a.1 ≤ b.1))

def object (fs : List (String × Json)) : Json := obj (normalizeFields fs)

def ofInt (n : Int) : Json := num (JsonNumber.ofInt n)

def ofNat (n : Nat) : Json := num (JsonNumber.unsigned n)

def ofBinary64 (x : Binary64) : Json := if x.isFinite then num (.float x) else null

def ofFloat (f : Float) : Json := ofBinary64 (Binary64.ofFloat f)

def optStr : Option String → Json
  | some s => str s
  | none => null

def get? (j : Json) (k : String) : Option Json :=
  match j with
  | obj fs => (fs.find? (fun p => p.1 == k)).map (·.2)
  | _ => none

def field? (j : Json) (k : String) : Option Json :=
  match j.get? k with
  | some null => none
  | v => v

def getStr? : Json → Option String
  | str s => some s
  | _ => none

def isNull : Json → Bool
  | null => true
  | _ => false

def hexDigit (n : Nat) : Char :=
  if n < 10 then Char.ofNat (48 + n) else Char.ofNat (87 + n)

def escapeChar (c : Char) : String :=
  if c = '"' then "\\\""
  else if c = '\\' then "\\\\"
  else if c = '\n' then "\\n"
  else if c = '\r' then "\\r"
  else if c = '\t' then "\\t"
  else if c.toNat = 8 then "\\b"
  else if c.toNat = 12 then "\\f"
  else if c.toNat < 0x20 then
    "\\u00" ++ (hexDigit (c.toNat / 16)).toString ++ (hexDigit (c.toNat % 16)).toString
  else c.toString

def quote (s : String) : String :=
  "\"" ++ String.join (s.toList.map escapeChar) ++ "\""

mutual
def render : Json → String
  | null => "null"
  | bool b => if b then "true" else "false"
  | num n => n.render
  | str s => quote s
  | arr xs => "[" ++ renderItems xs ++ "]"
  | obj fs => "\x7b" ++ renderFields fs ++ "\x7d"

def renderItems : List Json → String
  | [] => ""
  | [x] => render x
  | x :: xs => render x ++ "," ++ renderItems xs

def renderFields : List (String × Json) → String
  | [] => ""
  | [(k, v)] => quote k ++ ":" ++ render v
  | (k, v) :: fs => quote k ++ ":" ++ render v ++ "," ++ renderFields fs
end

end Json

end SellerSync
