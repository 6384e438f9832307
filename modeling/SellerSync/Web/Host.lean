import SellerSync.Web.Percent
import SellerSync.Web.Idna
/-! Hosts of URLs (the WHATWG URL standard). -/
namespace SellerSync

/-- Why a text is not a URL. -/
inductive UrlError where
  | emptyHost
  | invalidPort
  | invalidIpv4
  | invalidIpv6
  | invalidDomainCharacter
  | invalidDomain
  | relativeWithoutBase
  deriving DecidableEq, Repr, Inhabited

def UrlError.message : UrlError → String
  | .emptyHost => "empty host"
  | .invalidPort => "invalid port number"
  | .invalidIpv4 => "invalid IPv4 address"
  | .invalidIpv6 => "invalid IPv6 address"
  | .invalidDomainCharacter => "invalid domain character"
  | .invalidDomain => "invalid international domain name"
  | .relativeWithoutBase => "relative URL without a base"

inductive Host where
  /-- A domain name, or the opaque host of a URL that is not special. -/
  | domain (name : String)
  | ipv4 (address : Nat)
  | ipv6 (pieces : List Nat)
  deriving DecidableEq, Repr, Inhabited

namespace Host

/-! ## IPv4 -/

def digitIn (radix : Nat) (c : Char) : Option Nat :=
  let d? : Option Nat :=
    if c.isDigit then some (c.toNat - 48)
    else if 'a' ≤ c ∧ c ≤ 'f' then some (c.toNat - 87)
    else if 'A' ≤ c ∧ c ≤ 'F' then some (c.toNat - 55)
    else none
  d?.bind fun d => if d < radix then some d else none

def ipv4Part? (cs : List Char) : Option Nat :=
  let (radix, ds) :=
    match cs with
    | '0' :: c :: rest => if c = 'x' ∨ c = 'X' then (16, rest) else (8, c :: rest)
    | _ => (10, cs)
  if cs.isEmpty then none
  else if ds.isEmpty then some 0
  else ds.foldlM (fun acc c => (digitIn radix c).map (acc * radix + ·)) 0

def labelsOf (s : String) : List (List Char) :=
  let labels := s.toList.splitOn '.'
  if labels.getLast? = some [] ∧ labels.length > 1 then labels.dropLast else labels

def endsInNumber (s : String) : Bool :=
  match (labelsOf s).getLast? with
  | some last => (!last.isEmpty && last.all Char.isDigit) || (ipv4Part? last).isSome
  | none => false

def parseIpv4 (s : String) : Except UrlError Nat := do
  let labels := labelsOf s
  if labels.length > 4 then throw .invalidIpv4
  let some nums := labels.mapM ipv4Part? | throw .invalidIpv4
  match nums.reverse with
  | [] => throw .invalidIpv4
  | last :: restRev =>
    let rest := restRev.reverse
    if last ≥ Nat.pow 256 (4 - rest.length) then throw .invalidIpv4
    if rest.any (· > 255) then throw .invalidIpv4
    pure ((rest.zipIdx.foldl (fun acc (v, i) => acc + v * Nat.pow 256 (3 - i)) 0) + last)

/-! ## IPv6 -/

/-- Reading an IPv6 address: the eight pieces, the index of the next piece to write, and the
index where `::` stands. -/
structure Ipv6Reading where
  pieces : List Nat := List.replicate 8 0
  next : Nat := 0
  compress : Option Nat := none

def hexPiece (cs : List Char) : Nat × Nat × List Char :=
  let ds := (cs.takeWhile fun c => (digitIn 16 c).isSome).take 4
  (ds.foldl (fun acc c => acc * 16 + (digitIn 16 c).getD 0) 0, ds.length, cs.drop ds.length)

def readPieces : Nat → Ipv6Reading → List Char → Except UrlError (Ipv6Reading × Option (List Char))
  | _, st, [] => .ok (st, none)
  | 0, _, _ :: _ => .error .invalidIpv6
  | fuel + 1, st, c :: rest =>
    if st.next = 8 then .error .invalidIpv6
    else if c = ':' then
      if st.compress.isSome then .error .invalidIpv6
      else readPieces fuel { st with next := st.next + 1, compress := some (st.next + 1) } rest
    else
      let (v, n, after) := hexPiece (c :: rest)
      let written := { st with pieces := st.pieces.set st.next v, next := st.next + 1 }
      match after with
      | [] => .ok (written, none)
      | '.' :: _ =>
        if n = 0 ∨ st.next > 6 then .error .invalidIpv6 else .ok (st, some (c :: rest))
      | ':' :: after' =>
        if after'.isEmpty then .error .invalidIpv6 else readPieces fuel written after'
      | _ :: _ => .error .invalidIpv6

def tailNumber : Option Nat → List Char → Except UrlError (Option Nat × List Char)
  | v, [] => .ok (v, [])
  | v, c :: rest =>
    if !c.isDigit then .ok (v, c :: rest)
    else
      let d := c.toNat - 48
      match v with
      | none => tailNumber (some d) rest
      | some 0 => .error .invalidIpv6
      | some x => if x * 10 + d > 255 then .error .invalidIpv6 else tailNumber (some (x * 10 + d)) rest

def readTail : Nat → Nat → Ipv6Reading → List Char → Except UrlError Ipv6Reading
  | _, seen, st, [] => if seen = 4 then .ok st else .error .invalidIpv6
  | 0, _, _, _ :: _ => .error .invalidIpv6
  | fuel + 1, seen, st, c :: rest => do
    let cs ← if seen = 0 then pure (c :: rest)
      else if seen < 4 ∧ c = '.' then pure rest
      else throw .invalidIpv6
    let (v?, rest) ← tailNumber none cs
    let some v := v? | throw .invalidIpv6
    let piece := st.pieces.getD st.next 0 * 256 + v
    let seen := seen + 1
    let next := if seen = 2 ∨ seen = 4 then st.next + 1 else st.next
    readTail fuel seen { st with pieces := st.pieces.set st.next piece, next } rest

def parseIpv6 (cs : List Char) : Except UrlError (List Nat) := do
  if cs.length < 2 then throw .invalidIpv6
  let (start, cs) ← match cs with
    | ':' :: ':' :: rest => pure ({ next := 1, compress := some 1 : Ipv6Reading }, rest)
    | ':' :: _ => throw .invalidIpv6
    | _ => pure ({} , cs)
  let (st, tail?) ← readPieces (cs.length + 1) start cs
  let st ← match tail? with
    | some tail => readTail (tail.length + 1) 0 st tail
    | none => pure st
  match st.compress with
  | some c =>
    let moved := (st.pieces.take st.next).drop c
    pure (st.pieces.take c ++ List.replicate (8 - c - moved.length) 0 ++ moved)
  | none => if st.next = 8 then pure st.pieces else throw .invalidIpv6

/-! ## Hosts -/

def forbidden (c : Char) : Bool :=
  c = '\x00' || c = '\t' || c = '\n' || c = '\r' || " #/:<>?@[\\]^|".toList.contains c

def bracketed (cs : List Char) : Except UrlError Host :=
  if cs.getLast? ≠ some ']' then .error .invalidIpv6
  else .ipv6 <$> parseIpv6 ((cs.drop 1).dropLast)

def parseSpecial (cs : List Char) : Except UrlError Host := do
  if cs.head? = some '[' then return ← bracketed cs
  let some ascii := Idna.toAscii (Percent.decode (String.ofList cs)).toList
    | throw .invalidDomain
  if ascii.isEmpty then throw .emptyHost
  if endsInNumber ascii then return .ipv4 (← parseIpv4 ascii)
  return .domain ascii

def parseOpaque (cs : List Char) : Except UrlError Host :=
  if cs.head? = some '[' then bracketed cs
  else if cs.any forbidden then .error .invalidDomainCharacter
  else .ok (.domain (Percent.encodeBytes (fun b => 0x20 ≤ b && b < 0x7F) (Percent.utf8 (String.ofList cs))))

/-! ## Text -/

def hexText (n : Nat) : String :=
  if n = 0 then "0" else String.ofList (Nat.toDigits 16 n)

def ipv6Text (pieces : List Nat) : String :=
  let (best, _) := pieces.zipIdx.foldl (fun (acc : (Nat × Nat) × (Nat × Nat)) (p, i) =>
    let ((bs, bl), (cs, cl)) := acc
    if p = 0 then
      let (cs, cl) := if cl = 0 then (i, 1) else (cs, cl + 1)
      (if cl > bl then (cs, cl) else (bs, bl), (cs, cl))
    else ((bs, bl), (0, 0))) ((0, 0), (0, 0))
  let (start, len) := best
  if len < 2 then ":".intercalate (pieces.map hexText)
  else
    ":".intercalate ((pieces.take start).map hexText) ++ "::" ++
      ":".intercalate ((pieces.drop (start + len)).map hexText)

def text : Host → String
  | .domain n => n
  | .ipv4 a => toString (a / 16777216) ++ "." ++ toString (a / 65536 % 256) ++ "." ++
      toString (a / 256 % 256) ++ "." ++ toString (a % 256)
  | .ipv6 ps => "[" ++ ipv6Text ps ++ "]"

end Host

end SellerSync
