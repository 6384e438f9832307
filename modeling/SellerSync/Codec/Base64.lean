/-! Base64 with the standard alphabet (RFC 4648 §4). Writing always pads to whole groups of four. -/
namespace SellerSync

namespace Base64

def alphabet : Array Char :=
  "ABCDEFGHIJKLMNOPQRSTUVWXYZabcdefghijklmnopqrstuvwxyz0123456789+/".toList.toArray

def symbolValue? (c : Char) : Option Nat :=
  if 'A' ≤ c ∧ c ≤ 'Z' then some (c.toNat - 65)
  else if 'a' ≤ c ∧ c ≤ 'z' then some (c.toNat - 71)
  else if '0' ≤ c ∧ c ≤ '9' then some (c.toNat + 4)
  else if c = '+' then some 62
  else if c = '/' then some 63
  else none

def symbol (n : Nat) : Char := alphabet[n % 64]!

def encode : List UInt8 → String
  | [] => ""
  | [a] =>
    let n := a.toNat * 65536
    String.ofList [symbol (n / 262144), symbol (n / 4096 % 64), '=', '=']
  | [a, b] =>
    let n := a.toNat * 65536 + b.toNat * 256
    String.ofList [symbol (n / 262144), symbol (n / 4096 % 64), symbol (n / 64 % 64), '=']
  | a :: b :: c :: rest =>
    let n := a.toNat * 65536 + b.toNat * 256 + c.toNat
    String.ofList [symbol (n / 262144), symbol (n / 4096 % 64), symbol (n / 64 % 64),
      symbol (n % 64)] ++ encode rest

def decodeSymbols (strictBits : Bool) : List Nat → Option (List UInt8)
  | [] => some []
  | [_] => none
  | [a, b] =>
    if strictBits ∧ b % 16 ≠ 0 then none
    else some [(a * 4 + b / 16).toUInt8]
  | [a, b, c] =>
    if strictBits ∧ c % 4 ≠ 0 then none
    else some [(a * 4 + b / 16).toUInt8, ((b % 16) * 16 + c / 4).toUInt8]
  | a :: b :: c :: d :: rest =>
    (decodeSymbols strictBits rest).map fun tail =>
      [(a * 4 + b / 16).toUInt8, ((b % 16) * 16 + c / 4).toUInt8, ((c % 4) * 64 + d).toUInt8] ++
        tail

def decodeStrict (s : String) : Option (List UInt8) :=
  let cs := s.toList
  if cs.length % 4 ≠ 0 then none else
  let body := cs.reverse.dropWhile (· = '=') |>.reverse
  let padding := cs.length - body.length
  if padding > 2 then none else
  match body.mapM symbolValue? with
  | none => none
  | some vs =>
    if padding ≠ 0 ∧ vs.length % 4 + padding ≠ 4 then none
    else decodeSymbols true vs

def decodeLenient (s : String) : Option (List UInt8) :=
  let cs := s.toList
  let body := cs.reverse.dropWhile (· = '=') |>.reverse
  let padding := cs.length - body.length
  match body.mapM symbolValue? with
  | none => none
  | some vs =>
    if padding ≠ 0 ∧ (vs.length + padding) % 4 ≠ 0 then none
    else decodeSymbols false vs

end Base64

namespace Hex

def digit (n : Nat) : Char := if n < 10 then Char.ofNat (48 + n) else Char.ofNat (87 + n)

def encode (bs : List UInt8) : String :=
  String.ofList (bs.flatMap fun b => [digit (b.toNat / 16), digit (b.toNat % 16)])

end Hex

end SellerSync
