import SellerSync.Text.Blank
import SellerSync.Time.Rfc3339
/-! The relaxed reading of RFC 3339 date-times that typed JSON fields use. -/
namespace SellerSync

namespace Relaxed

def trim (cs : List Char) : List Char := cs.dropWhile Text.isBlank

def digitsValue (ds : List Char) : Nat := ds.foldl (fun v c => 10 * v + (c.toNat - 48)) 0

def number (width : Nat) (cs : List Char) : Except TimeTextError (Nat × List Char) :=
  let ds := (cs.takeWhile Char.isDigit).take width
  if ds.isEmpty then (if cs.isEmpty then .error .tooShort else .error .invalid)
  else .ok (digitsValue ds, cs.drop ds.length)

def separator (c : Char) (cs : List Char) : Except TimeTextError (List Char) :=
  match trim cs with
  | [] => .error .tooShort
  | d :: rest => if d = c then .ok rest else .error .invalid

def yearFieldMax : Nat := 2147483647

def year (cs : List Char) : Except TimeTextError (Int × List Char) := do
  match trim cs with
  | '-' :: rest =>
    let (v, r) ← number rest.length rest
    if v > yearFieldMax + 1 then throw .outOfRange
    pure (-(v : Int), r)
  | '+' :: rest =>
    let (v, r) ← number rest.length rest
    if v > yearFieldMax then throw .outOfRange
    pure ((v : Int), r)
  | r =>
    let (v, r) ← number 4 r
    pure ((v : Int), r)

def field (lo hi : Nat) (cs : List Char) : Except TimeTextError (Nat × List Char) := do
  let (v, r) ← number 2 (trim cs)
  if v < lo ∨ v > hi then throw .outOfRange
  pure (v, r)

def digitPair (cs : List Char) : Except TimeTextError (Nat × Nat × List Char) :=
  match cs with
  | [] => .error .tooShort
  | [c] => if c.utf8Size < 2 then .error .tooShort else .error .invalid
  | a :: b :: rest =>
    if a.isDigit ∧ b.isDigit then .ok (a.toNat - 48, b.toNat - 48, rest) else .error .invalid

def startsUtc : List Char → Bool
  | a :: b :: c :: _ => a.toLower = 'u' && b.toLower = 't' && c.toLower = 'c'
  | _ => false

def signedOffset (negative : Bool) (cs : List Char) : Except TimeTextError (Int × List Char) := do
  let (h1, h2, rest) ← digitPair cs
  let (m1, m2, rest) ← digitPair (rest.dropWhile fun c => c = ':' || Text.isBlank c)
  if m1 ≥ 6 then throw .outOfRange
  let secs : Int := ((10 * h1 + h2) * 3600 + (10 * m1 + m2) * 60 : Nat)
  pure (if negative then -secs else secs, rest)

def offset (cs : List Char) : Except TimeTextError (Int × List Char) :=
  if startsUtc cs then .ok (0, cs.drop 3)
  else match cs with
    | [] => .error .tooShort
    | c :: rest =>
      if c = 'Z' ∨ c = 'z' then .ok (0, rest)
      else if c = '+' then signedOffset false rest
      else if c = '-' ∨ c.toNat = 0x2212 then signedOffset true rest
      else .error .invalid

def fraction (cs : List Char) : Except TimeTextError (Nat × List Char) := do
  let (v, r) ← number 9 cs
  let read := cs.length - r.length
  pure (v * Nat.pow 10 (9 - read), r.dropWhile Char.isDigit)

/-- The fields of a date-time, read but not yet checked against each other. -/
structure Fields where
  year : Int
  month : Nat
  day : Nat
  hour : Nat
  minute : Nat
  second : Nat
  nanos : Nat
  offset : Int
  deriving Repr, DecidableEq

def fields (s : String) : Except TimeTextError (Fields × List Char) := do
  let (y, cs) ← year s.toList
  let cs ← separator '-' cs
  let (mo, cs) ← field 1 12 cs
  let cs ← separator '-' cs
  let (d, cs) ← field 1 31 cs
  let cs ← match cs with
    | [] => throw .notEnough
    | c :: rest => if c = 'T' ∨ c = 't' ∨ c = ' ' then pure rest else throw .invalid
  let (h, cs) ← field 0 23 cs
  let cs ← separator ':' cs
  let (mi, cs) ← field 0 59 cs
  let cs ← separator ':' cs
  let (sec, cs) ← field 0 60 cs
  let (nanos, cs) ← match cs with
    | '.' :: rest => fraction rest
    | r => pure (0, r)
  let cs := trim cs
  if cs.isEmpty then throw .notEnough
  let (off, cs) ← offset cs
  pure (⟨y, mo, d, h, mi, sec, nanos, off⟩, cs)

def Fields.toInstant (f : Fields) : Except TimeTextError Instant := do
  if f.year < Civil.minYear ∨ f.year > Civil.maxYear then throw .outOfRange
  if f.day > Civil.daysInMonth f.year f.month then throw .outOfRange
  if f.offset.natAbs ≥ 86400 then throw .outOfRange
  let days := Civil.daysFromCivil f.year f.month f.day
  let (sec, nanos) := if f.second = 60 then (59, f.nanos + 1000000000) else (f.second, f.nanos)
  let wall := days * 86400 + (f.hour * 3600 + f.minute * 60 + sec : Nat)
  let t : Instant := ⟨wall - f.offset, nanos⟩
  if !t.inRange then throw .outOfRange
  pure t

def parse (s : String) : Except TimeTextError Instant := do
  let (f, rest) ← fields s
  if !(trim rest).isEmpty then throw .tooLong
  f.toInstant

end Relaxed

end SellerSync
