/-! Percent-encoding of text as UTF-8 bytes, its decoding, and the form encoding of key and value
pairs. A byte outside the kept set is written `%XX` with uppercase hex. -/
namespace SellerSync

namespace Percent

def hexUpper (n : Nat) : Char := if n < 10 then Char.ofNat (48 + n) else Char.ofNat (55 + n)

def escape (b : UInt8) : String :=
  String.ofList ['%', hexUpper (b.toNat / 16), hexUpper (b.toNat % 16)]

def utf8 (s : String) : List UInt8 := s.toUTF8.toList

def encodeBytes (keep : UInt8 → Bool) (bs : List UInt8) : String :=
  String.join (bs.map fun b => if keep b then (Char.ofNat b.toNat).toString else escape b)

def isAlnum (b : UInt8) : Bool :=
  (48 ≤ b && b ≤ 57) || (65 ≤ b && b ≤ 90) || (97 ≤ b && b ≤ 122)

def isUnreserved (b : UInt8) : Bool :=
  isAlnum b || b == 45 || b == 46 || b == 95 || b == 126

/-- Encodes everything but the unreserved bytes. -/
def encodeComponent (s : String) : String := encodeBytes isUnreserved (utf8 s)

def hexValue? (b : UInt8) : Option Nat :=
  if 48 ≤ b ∧ b ≤ 57 then some (b.toNat - 48)
  else if 65 ≤ b ∧ b ≤ 70 then some (b.toNat - 55)
  else if 97 ≤ b ∧ b ≤ 102 then some (b.toNat - 87)
  else none

def decodeBytes : List UInt8 → List UInt8
  | [] => []
  | 37 :: h :: l :: rest =>
    match hexValue? h, hexValue? l with
    | some a, some b => (a * 16 + b).toUInt8 :: decodeBytes rest
    | _, _ => 37 :: decodeBytes (h :: l :: rest)
  | b :: rest => b :: decodeBytes rest

def isContinuation (b : UInt8) : Bool := 0x80 ≤ b && b < 0xC0

def utf8Lossy : List UInt8 → (fuel : Nat) → List Char
  | _, 0 => []
  | [], _ => []
  | b :: rest, fuel + 1 =>
    let bad := Char.ofNat 0xFFFD
    if b < 0x80 then Char.ofNat b.toNat :: utf8Lossy rest fuel
    else
      -- the expected length and the range allowed for the second byte
      let (len, lo, hi) : Nat × UInt8 × UInt8 :=
        if 0xC2 ≤ b ∧ b ≤ 0xDF then (2, 0x80, 0xBF)
        else if b = 0xE0 then (3, 0xA0, 0xBF)
        else if 0xE1 ≤ b ∧ b ≤ 0xEC then (3, 0x80, 0xBF)
        else if b = 0xED then (3, 0x80, 0x9F)
        else if 0xEE ≤ b ∧ b ≤ 0xEF then (3, 0x80, 0xBF)
        else if b = 0xF0 then (4, 0x90, 0xBF)
        else if 0xF1 ≤ b ∧ b ≤ 0xF3 then (4, 0x80, 0xBF)
        else if b = 0xF4 then (4, 0x80, 0x8F)
        else (0, 0, 0)
      if len = 0 then bad :: utf8Lossy rest fuel
      else
        match rest with
        | b2 :: rest2 =>
          if lo ≤ b2 ∧ b2 ≤ hi then
            if len = 2 then
              Char.ofNat ((b.toNat % 32) * 64 + b2.toNat % 64) :: utf8Lossy rest2 fuel
            else
              match rest2 with
              | b3 :: rest3 =>
                if isContinuation b3 then
                  if len = 3 then
                    Char.ofNat ((b.toNat % 16) * 4096 + (b2.toNat % 64) * 64 + b3.toNat % 64) ::
                      utf8Lossy rest3 fuel
                  else
                    match rest3 with
                    | b4 :: rest4 =>
                      if isContinuation b4 then
                        Char.ofNat ((b.toNat % 8) * 262144 + (b2.toNat % 64) * 4096 +
                          (b3.toNat % 64) * 64 + b4.toNat % 64) :: utf8Lossy rest4 fuel
                      else bad :: utf8Lossy rest3 fuel
                    | [] => [bad]
                else bad :: utf8Lossy rest2 fuel
              | [] => [bad]
          else bad :: utf8Lossy rest fuel
        | [] => [bad]

def decodeUtf8Lossy (bs : List UInt8) : String := String.ofList (utf8Lossy bs (bs.length + 1))

def decode (s : String) : String := decodeUtf8Lossy (decodeBytes (utf8 s))

def formByte (b : UInt8) : String :=
  if isAlnum b || b == 42 || b == 45 || b == 46 || b == 95 then (Char.ofNat b.toNat).toString
  else if b == 32 then "+"
  else escape b

def formEncode (s : String) : String := String.join ((utf8 s).map formByte)

def formSerialize (pairs : List (String × String)) : String :=
  "&".intercalate (pairs.map fun (k, v) => formEncode k ++ "=" ++ formEncode v)

def formDecode (s : String) : String :=
  decodeUtf8Lossy (decodeBytes ((utf8 s).map fun b => if b == 43 then 32 else b))

def formParse (s : String) : List (String × String) :=
  (s.splitToList (· == '&')).filterMap fun part =>
    if part.isEmpty then none
    else
      match part.splitOn "=" with
      | [k] => some (formDecode k, "")
      | k :: rest => some (formDecode k, formDecode ("=".intercalate rest))
      | [] => none

end Percent

end SellerSync
