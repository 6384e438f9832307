import SellerSync.Time.Instant
/-! RFC 3339 date-times. -/
namespace SellerSync

/-- Why a date-time text was refused. -/
inductive TimeTextError where
  | outOfRange
  | impossible
  | notEnough
  | invalid
  | tooShort
  | tooLong
  deriving DecidableEq, Repr, Inhabited

namespace TimeTextError

def message : TimeTextError → String
  | outOfRange => "input is out of range"
  | impossible => "no possible date and time matching input"
  | notEnough => "input is not enough for unique date and time"
  | invalid => "input contains invalid characters"
  | tooShort => "premature end of input"
  | tooLong => "trailing input"

end TimeTextError

namespace Rfc3339

def fixedNumber (n : Nat) (cs : List Char) : Except TimeTextError (Nat × List Char) :=
  if cs.length < n then .error .tooShort
  else
    let ds := cs.take n
    if ds.all Char.isDigit then .ok (ds.foldl (fun v c => 10 * v + (c.toNat - 48)) 0, cs.drop n)
    else .error .invalid

def literal (c : Char) : List Char → Except TimeTextError (List Char)
  | [] => .error .tooShort
  | d :: rest => if d = c then .ok rest else .error .invalid

def fraction (cs : List Char) : Except TimeTextError (Nat × List Char) :=
  let ds := cs.takeWhile Char.isDigit
  if ds.isEmpty then (if cs.isEmpty then .error .tooShort else .error .invalid)
  else
    let kept := ds.take 9
    let v := kept.foldl (fun v c => 10 * v + (c.toNat - 48)) 0
    .ok (v * Nat.pow 10 (9 - kept.length), cs.dropWhile Char.isDigit)

def offset (cs : List Char) : Except TimeTextError (Int × List Char) :=
  match cs with
  | [] => .error .tooShort
  | c :: rest =>
    if c = 'Z' ∨ c = 'z' then .ok (0, rest)
    else if c = '+' ∨ c = '-' then do
      let (h, r) ← fixedNumber 2 rest
      let r ← literal ':' r
      let (m, r) ← fixedNumber 2 r
      if m > 59 then throw .outOfRange
      let secs : Int := (h * 3600 + m * 60 : Nat)
      pure (if c = '-' then -secs else secs, r)
    else .error .invalid

def parse (s : String) : Except TimeTextError Instant := do
  let cs := s.toList
  if cs.length < 20 then throw .tooShort
  let (year, cs) ← fixedNumber 4 cs
  let cs ← literal '-' cs
  let (month, cs) ← fixedNumber 2 cs
  if month < 1 ∨ month > 12 then throw .outOfRange
  let cs ← literal '-' cs
  let (day, cs) ← fixedNumber 2 cs
  if day < 1 ∨ day > 31 then throw .outOfRange
  let cs ← match cs with
    | [] => throw .tooShort
    | c :: rest => if c = 'T' ∨ c = 't' ∨ c = ' ' then pure rest else throw .invalid
  let (hour, cs) ← fixedNumber 2 cs
  if hour > 23 then throw .outOfRange
  let cs ← literal ':' cs
  let (minute, cs) ← fixedNumber 2 cs
  if minute > 59 then throw .outOfRange
  let cs ← literal ':' cs
  let (second, cs) ← fixedNumber 2 cs
  if second > 60 then throw .outOfRange
  let (nanos, cs) ← match cs with
    | '.' :: rest => fraction rest
    | r => pure (0, r)
  let (off, cs) ← offset cs
  if off.natAbs > 23 * 3600 + 59 * 60 then throw .outOfRange
  if !cs.isEmpty then throw .tooLong
  if day > Civil.daysInMonth year month then throw .outOfRange
  let days := Civil.daysFromCivil year month day
  let (sec, nanos) := if second = 60 then (59, nanos + 1000000000) else (second, nanos)
  let wall := days * 86400 + (hour * 3600 + minute * 60 + sec : Nat)
  pure ⟨wall - off, nanos⟩

def pad (width : Nat) (n : Nat) : String :=
  let s := Nat.repr n
  String.ofList (List.replicate (width - s.length) '0') ++ s

def yearText (y : Int) : String :=
  if 0 ≤ y ∧ y ≤ 9999 then pad 4 y.toNat
  else (if y < 0 then "-" else "+") ++ pad 4 y.natAbs

def fractionText (nanos : Nat) : String :=
  if nanos = 0 then ""
  else if nanos % 1000000 = 0 then "." ++ pad 3 (nanos / 1000000)
  else if nanos % 1000 = 0 then "." ++ pad 6 (nanos / 1000)
  else "." ++ pad 9 nanos

def renderUsing (fraction : Nat → String) (t : Instant) : String :=
  let days := t.seconds / 86400
  let secs := (t.seconds - days * 86400).toNat
  let (y, m, d) := Civil.civilFromDays days
  let leap := t.nanos ≥ 1000000000
  let sec := secs % 60 + (if leap then 1 else 0)
  yearText y ++ "-" ++ pad 2 m ++ "-" ++ pad 2 d ++ "T" ++ pad 2 (secs / 3600) ++ ":" ++
    pad 2 (secs / 60 % 60) ++ ":" ++ pad 2 sec ++ fraction (t.nanos % 1000000000) ++ "Z"

def render (t : Instant) : String := renderUsing fractionText t

def renderSeconds (t : Instant) : String := renderUsing (fun _ => "") t

def renderMillis (t : Instant) : String := renderUsing (fun n => "." ++ pad 3 (n / 1000000)) t

end Rfc3339

namespace Instant

def parseRfc3339 (s : String) : Except TimeTextError Instant := Rfc3339.parse s

def toRfc3339 (t : Instant) : String := Rfc3339.render t

end Instant

end SellerSync
