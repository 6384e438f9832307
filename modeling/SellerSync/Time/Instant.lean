/-! Instants on the UTC time line and the spans between them. -/
namespace SellerSync

/-- A point in UTC. `nanos < 2 · 10^9`; values of `10^9` and more mark a leap second. -/
structure Instant where
  seconds : Int
  nanos : Nat
  deriving DecidableEq, Repr, Inhabited

/-- A signed span of time: whole seconds and nanoseconds in `[0, 10^9)`. -/
structure Span where
  seconds : Int
  nanos : Nat
  deriving DecidableEq, Repr, Inhabited

namespace Civil

def daysFromCivil (y : Int) (m d : Nat) : Int :=
  let y := if m ≤ 2 then y - 1 else y
  let era := y / 400
  let yoe := y - era * 400
  let mp : Int := ((m + 9) % 12 : Nat)
  let doy := (153 * mp + 2) / 5 + d - 1
  let doe := yoe * 365 + yoe / 4 - yoe / 100 + doy
  era * 146097 + doe - 719468

def civilFromDays (z : Int) : Int × Nat × Nat :=
  let z := z + 719468
  let era := z / 146097
  let doe := z - era * 146097
  let yoe := (doe - doe / 1460 + doe / 36524 - doe / 146096) / 365
  let y := yoe + era * 400
  let doy := doe - (365 * yoe + yoe / 4 - yoe / 100)
  let mp := (5 * doy + 2) / 153
  let d := doy - (153 * mp + 2) / 5 + 1
  let m := if mp < 10 then mp + 3 else mp - 9
  ((if m ≤ 2 then y + 1 else y), m.toNat, d.toNat)

def isLeapYear (y : Int) : Bool := (y % 4 == 0 && y % 100 != 0) || y % 400 == 0

def daysInMonth (y : Int) (m : Nat) : Nat :=
  if m = 2 then (if isLeapYear y then 29 else 28)
  else if m = 4 ∨ m = 6 ∨ m = 9 ∨ m = 11 then 30 else 31

def minYear : Int := -262143

def maxYear : Int := 262142

def minSeconds : Int := daysFromCivil minYear 1 1 * 86400

def endSeconds : Int := (daysFromCivil maxYear 12 31 + 1) * 86400

end Civil

namespace Span

def ofSeconds (s : Int) : Span := ⟨s, 0⟩

def maxSpan : Span := ⟨9223372036854775, 807000000⟩

def minSpan : Span := ⟨-9223372036854776, 193000000⟩

def toNanos (d : Span) : Int := d.seconds * 1000000000 + d.nanos

def ofNanos (n : Int) : Span := ⟨n / 1000000000, (n % 1000000000).toNat⟩

def inRange (d : Span) : Bool := minSpan.toNanos ≤ d.toNanos && d.toNanos ≤ maxSpan.toNanos

def ofSeconds? (s : Int) : Option Span :=
  if (ofSeconds s).inRange then some (ofSeconds s) else none

end Span

namespace Instant

def epoch : Instant := ⟨0, 0⟩

def toNanos (t : Instant) : Int := t.seconds * 1000000000 + (t.nanos % 1000000000 : Nat)

def since (a b : Instant) : Span :=
  Span.ofNanos ((a.seconds - b.seconds) * 1000000000 + (a.nanos : Int) - b.nanos)

def compare (a b : Instant) : Ordering :=
  match Ord.compare a.seconds b.seconds with
  | .eq => Ord.compare a.nanos b.nanos
  | o => o

def le (a b : Instant) : Bool := compare a b != .gt

def lt (a b : Instant) : Bool := compare a b == .lt

def inRange (t : Instant) : Bool := Civil.minSeconds ≤ t.seconds && t.seconds < Civil.endSeconds

def addSpan? (t : Instant) (d : Span) : Option Instant :=
  let base : Int := t.seconds * 1000000000 + t.nanos
  let n := base + d.toNanos
  let r : Instant := ⟨n / 1000000000, (n % 1000000000).toNat⟩
  if r.inRange then some r else none

def subSpan? (t : Instant) (d : Span) : Option Instant :=
  t.addSpan? (Span.ofNanos (-d.toNanos))

end Instant

end SellerSync
