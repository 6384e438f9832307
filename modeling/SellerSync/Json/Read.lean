import SellerSync.Json.Value
/-! Reading JSON text. The grammar is RFC 8259's: no leading zeros, no trailing commas, only the four
blanks between tokens, control characters escaped inside strings and surrogate escapes in pairs. -/
namespace SellerSync

namespace JsonText

def isBlank (c : Char) : Bool := c = ' ' || c = '\t' || c = '\n' || c = '\r'

def skipBlanks (cs : List Char) : List Char := cs.dropWhile isBlank

def digitValue (c : Char) : Nat := c.toNat - 48

def digitsValue (ds : List Char) : Nat := ds.foldl (fun n c => 10 * n + digitValue c) 0

def hexValue? (c : Char) : Option Nat :=
  if c.isDigit then some (c.toNat - 48)
  else if 'a' ≤ c ∧ c ≤ 'f' then some (c.toNat - 87)
  else if 'A' ≤ c ∧ c ≤ 'F' then some (c.toNat - 55)
  else none

def hex4? : List Char → Option (Nat × List Char)
  | a :: b :: c :: d :: rest => do
    let va ← hexValue? a
    let vb ← hexValue? b
    let vc ← hexValue? c
    let vd ← hexValue? d
    pure (((va * 16 + vb) * 16 + vc) * 16 + vd, rest)
  | _ => none

def significandMax : Nat := Nat.pow 2 64 - 1

def exponentMax : Nat := Nat.pow 2 31 - 1

def scale (f : Binary64) (exp : Int) : (fuel : Nat) → Except String Binary64
  | 0 => .ok f
  | fuel + 1 =>
    if exp.natAbs ≤ 308 then
      if 0 ≤ exp then
        let g := f.mul (Binary64.pow10 exp.natAbs)
        if g.isFinite then .ok g else .error "number out of range"
      else .ok (f.div (Binary64.pow10 exp.natAbs))
    else if f.isZero then .ok f
    else if 0 ≤ exp then .error "number out of range"
    else scale (f.div (Binary64.pow10 308)) (exp + 308) fuel

def fromParts (negative : Bool) (sig : Nat) (exp : Int) : Except String JsonNumber := do
  let f ← scale (Binary64.ofRatio false sig 1) exp (exp.natAbs / 308 + 1)
  pure (.float (if negative then f.neg else f))

def wholeDigits : Nat → Int → Bool → List Char → Nat × Int × Bool × List Char
  | sig, e, overflowed, c :: rest =>
    if c.isDigit then
      if !overflowed && sig * 10 + digitValue c ≤ significandMax then
        wholeDigits (sig * 10 + digitValue c) e overflowed rest
      else wholeDigits sig (e + 1) true rest
    else (sig, e, overflowed, c :: rest)
  | sig, e, overflowed, [] => (sig, e, overflowed, [])

def fractionDigits : Nat → Int → List Char → Nat × Int × List Char
  | sig, e, c :: rest =>
    if c.isDigit then
      if sig * 10 + digitValue c ≤ significandMax then
        fractionDigits (sig * 10 + digitValue c) (e - 1) rest
      else (sig, e, rest.dropWhile Char.isDigit)
    else (sig, e, c :: rest)
  | sig, e, [] => (sig, e, [])

def exponentDigits : Nat → List Char → Option Nat × List Char
  | v, c :: rest =>
    if c.isDigit then
      if v * 10 + digitValue c ≤ exponentMax then exponentDigits (v * 10 + digitValue c) rest
      else (none, rest.dropWhile Char.isDigit)
    else (some v, c :: rest)
  | v, [] => (some v, [])

def exponentPart (negative : Bool) (sig : Nat) (e0 : Int) (cs : List Char) :
    Except String (JsonNumber × List Char) := do
  let (expNeg, cs) := match cs with
    | '-' :: r => (true, r)
    | '+' :: r => (false, r)
    | r => (false, r)
  match cs with
  | c :: _ =>
    if !c.isDigit then throw "invalid number"
    match exponentDigits 0 cs with
    | (some v, rest) =>
      let e := if expNeg then e0 - v else e0 + v
      let e := max (-(Int.pow 2 31)) (min e exponentMax)
      pure (← fromParts negative sig e, rest)
    | (none, rest) =>
      if sig ≠ 0 ∧ !expNeg then throw "number out of range"
      pure (.float (Binary64.zero negative), rest)
  | [] => throw "EOF while parsing a value"

def number (cs : List Char) : Except String (JsonNumber × List Char) := do
  let (negative, cs) := match cs with
    | '-' :: r => (true, r)
    | r => (false, r)
  let (sig, e, overflowed, cs) ← match cs with
    | '0' :: r =>
      match r with
      | d :: _ => if d.isDigit then throw "invalid number" else pure (0, 0, false, r)
      | [] => pure (0, 0, false, r)
    | c :: r =>
      if c.isDigit then pure (wholeDigits (digitValue c) 0 false r) else throw "invalid number"
    | [] => throw "EOF while parsing a value"
  match cs with
  | '.' :: r =>
    match r with
    | d :: _ =>
      if !d.isDigit then throw "invalid number"
      let (sig, e, rest) := fractionDigits sig e r
      match rest with
      | c :: r' => if c = 'e' ∨ c = 'E' then exponentPart negative sig e r'
                   else pure (← fromParts negative sig e, rest)
      | [] => pure (← fromParts negative sig e, [])
    | [] => throw "EOF while parsing a value"
  | c :: r =>
    if c = 'e' ∨ c = 'E' then exponentPart negative sig e r
    else if overflowed then pure (← fromParts negative sig e, cs)
    else pure (wholeNumber negative sig, cs)
  | [] => if overflowed then pure (← fromParts negative sig e, []) else pure (wholeNumber negative sig, [])
where
  /-- A whole number that fits: negative ones below `-2^63`, and `-0`, become binary64. -/
  wholeNumber (negative : Bool) (sig : Nat) : JsonNumber :=
    if !negative then .unsigned sig
    else if sig = 0 then .float (Binary64.zero true)
    else if sig ≤ Nat.pow 2 63 then .signed (-(sig : Int))
    else .float (Binary64.ofRatio true sig 1)

def stringChars : (fuel : Nat) → List Char → List Char → Except String (String × List Char)
  | 0, _, _ => .error "EOF while parsing a string"
  | _, [], _ => .error "EOF while parsing a string"
  | _, '"' :: rest, acc => .ok (String.ofList acc.reverse, rest)
  | fuel + 1, '\\' :: e :: rest, acc =>
    match e with
    | '"' => stringChars fuel rest ('"' :: acc)
    | '\\' => stringChars fuel rest ('\\' :: acc)
    | '/' => stringChars fuel rest ('/' :: acc)
    | 'b' => stringChars fuel rest (Char.ofNat 8 :: acc)
    | 'f' => stringChars fuel rest (Char.ofNat 12 :: acc)
    | 'n' => stringChars fuel rest ('\n' :: acc)
    | 'r' => stringChars fuel rest ('\r' :: acc)
    | 't' => stringChars fuel rest ('\t' :: acc)
    | 'u' =>
      match hex4? rest with
      | none => .error "invalid escape"
      | some (u, rest') =>
        if 0xD800 ≤ u ∧ u < 0xDC00 then
          match rest' with
          | '\\' :: 'u' :: rest'' =>
            match hex4? rest'' with
            | some (l, rest''') =>
              if 0xDC00 ≤ l ∧ l < 0xE000 then
                stringChars fuel rest''' (Char.ofNat (0x10000 + (u - 0xD800) * 0x400 + (l - 0xDC00)) :: acc)
              else .error "lone leading surrogate in hex escape"
            | none => .error "invalid escape"
          | _ => .error "lone leading surrogate in hex escape"
        else if 0xDC00 ≤ u ∧ u < 0xE000 then .error "lone leading surrogate in hex escape"
        else stringChars fuel rest' (Char.ofNat u :: acc)
    | _ => .error "invalid escape"
  | _, [_], _ => .error "EOF while parsing a string"
  | fuel + 1, c :: rest, acc =>
    if c.toNat < 0x20 then .error "control character (\\u0000-\\u001F) found while parsing a string"
    else stringChars fuel rest (c :: acc)

def stringBody (cs : List Char) : Except String (String × List Char) :=
  stringChars (cs.length + 1) cs []

def keyword (word : List Char) (v : Json) (cs : List Char) : Except String (Json × List Char) :=
  if word.isPrefixOf cs then .ok (v, cs.drop word.length) else .error "expected ident"

def maxDepth : Nat := 128

mutual
def value : (fuel : Nat) → (depth : Nat) → List Char → Except String (Json × List Char)
  | 0, _, _ => .error "recursion limit exceeded"
  | fuel + 1, depth, cs =>
    match skipBlanks cs with
    | [] => .error "EOF while parsing a value"
    | '{' :: rest =>
      if depth ≤ 1 then .error "recursion limit exceeded"
      else members fuel (depth - 1) (skipBlanks rest) []
    | '[' :: rest =>
      if depth ≤ 1 then .error "recursion limit exceeded"
      else items fuel (depth - 1) (skipBlanks rest) []
    | '"' :: rest => do
      let (s, r) ← stringBody rest
      pure (.str s, r)
    | 't' :: _ => keyword "true".toList (.bool true) (skipBlanks cs)
    | 'f' :: _ => keyword "false".toList (.bool false) (skipBlanks cs)
    | 'n' :: _ => keyword "null".toList .null (skipBlanks cs)
    | c :: rest =>
      if c = '-' ∨ c.isDigit then do
        let (n, r) ← number (c :: rest)
        pure (.num n, r)
      else .error "expected value"

def items : (fuel : Nat) → (depth : Nat) → List Char → List Json →
    Except String (Json × List Char)
  | 0, _, _, _ => .error "recursion limit exceeded"
  | fuel + 1, depth, cs, acc =>
    match cs with
    | ']' :: rest => if acc.isEmpty then .ok (.arr [], rest) else .error "trailing comma"
    | _ => do
      let (v, r) ← value fuel depth cs
      match skipBlanks r with
      | ',' :: r' => items fuel depth (skipBlanks r') (v :: acc)
      | ']' :: r' => pure (.arr (v :: acc).reverse, r')
      | [] => throw "EOF while parsing a list"
      | _ => throw "expected `,` or `]`"

def members : (fuel : Nat) → (depth : Nat) → List Char → List (String × Json) →
    Except String (Json × List Char)
  | 0, _, _, _ => .error "recursion limit exceeded"
  | fuel + 1, depth, cs, acc =>
    match cs with
    | '}' :: rest => if acc.isEmpty then .ok (.obj [], rest) else .error "trailing comma"
    | '"' :: rest => do
      let (k, r) ← stringBody rest
      match skipBlanks r with
      | ':' :: r' =>
        let (v, r'') ← value fuel depth r'
        match skipBlanks r'' with
        | ',' :: r3 => members fuel depth (skipBlanks r3) ((k, v) :: acc)
        | '}' :: r3 => pure (Json.object (((k, v) :: acc).reverse), r3)
        | [] => throw "EOF while parsing an object"
        | _ => throw "expected `,` or `\x7d`"
      | [] => throw "EOF while parsing an object"
      | _ => throw "expected `:`"
    | [] => .error "EOF while parsing an object"
    | _ => .error "key must be a string"
end

end JsonText

namespace Json

def parse (s : String) : Except String Json := do
  let cs := s.toList
  let (v, rest) ← JsonText.value (cs.length + 1) JsonText.maxDepth cs
  if (JsonText.skipBlanks rest).isEmpty then pure v else throw "trailing characters"

end Json

end SellerSync
