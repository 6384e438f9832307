/-!
Identifiers of stored records: 128-bit values written as 32 lowercase hex digits in groups of
8, 4, 4, 4 and 12.
-/
namespace SellerSync

structure Uuid where
  value : Nat
  deriving DecidableEq, Repr, Inhabited, Hashable

namespace Uuid

def nil : Uuid := ⟨0⟩

def hexDigit (n : Nat) : Char :=
  if n < 10 then Char.ofNat (48 + n) else Char.ofNat (87 + n)

def hexDigits (v : Nat) : Nat → List Char
  | 0 => []
  | n + 1 => hexDigits (v / 16) n ++ [hexDigit (v % 16)]

def toText (u : Uuid) : String :=
  let ds := hexDigits u.value 32
  String.ofList (ds.take 8) ++ "-" ++ String.ofList ((ds.drop 8).take 4) ++ "-" ++
    String.ofList ((ds.drop 12).take 4) ++ "-" ++ String.ofList ((ds.drop 16).take 4) ++ "-" ++
    String.ofList (ds.drop 20)

def hexValue? (c : Char) : Option Nat :=
  if c.isDigit then some (c.toNat - 48)
  else if 'a' ≤ c ∧ c ≤ 'f' then some (c.toNat - 87)
  else if 'A' ≤ c ∧ c ≤ 'F' then some (c.toNat - 55)
  else none

def simpleValue? (cs : List Char) : Option Nat :=
  if cs.length ≠ 32 then none
  else (cs.mapM hexValue?).map fun vs => vs.foldl (fun a d => 16 * a + d) 0

def hyphenatedValue? (cs : List Char) : Option Nat :=
  if cs.length ≠ 36 then none
  else if cs[8]? ≠ some '-' ∨ cs[13]? ≠ some '-' ∨ cs[18]? ≠ some '-' ∨ cs[23]? ≠ some '-' then none
  else simpleValue? (cs.filter (· ≠ '-'))

/-- Why a text is not an id. Indices count bytes from the start of the whole text. -/
inductive ParseError where
  | character (c : Char) (index : Nat)
  | simpleLength (len : Nat)
  | groupCount (count : Nat)
  | groupLength (group len : Nat)
  deriving Repr, DecidableEq

def ParseError.message : ParseError → String
  | .character c i => "invalid character: found " ++ "\x60" ++ c.toString ++ "\x60" ++ " at " ++ toString i
  | .simpleLength n => "invalid length: found " ++ toString n
  | .groupCount n => "invalid group count: expected 5, found " ++ toString n
  | .groupLength g n =>
    "invalid group length in group " ++ toString g ++ ": expected " ++
      toString ([8, 4, 4, 4, 12].getD g 0) ++ ", found " ++ toString n

def urnPrefix : List Char := "urn:uuid:".toList

def unwrap (cs : List Char) : List Char × Nat × Bool :=
  if cs.head? = some '{' ∧ cs.getLast? = some '}' ∧ cs.length ≥ 2 then ((cs.drop 1).dropLast, 1, false)
  else if cs.take 9 = urnPrefix then (cs.drop 9, 9, false)
  else (cs, 0, true)

def scanBody (offset : Nat) : Nat → List Nat → List Char → Except ParseError (List Nat)
  | _, hs, [] => .ok hs
  | i, hs, c :: rest =>
    if c = '-' then scanBody offset (i + 1) (i :: hs) rest
    else if (hexValue? c).isSome then scanBody offset (i + 1) hs rest
    else .error (.character c (i + offset))

def groupStarts : List Nat := [0, 9, 14, 19, 24]

def misplacedGroup : Nat → List Nat → Option ParseError
  | g, h :: hs =>
    let start := groupStarts.getD g 0
    if h + 1 = groupStarts.getD (g + 1) 0 then misplacedGroup (g + 1) hs
    else some (.groupLength g (h - start))
  | _, [] => none

def diagnose (s : String) : ParseError :=
  let (body, offset, bare) := unwrap s.toList
  match scanBody offset 0 [] body with
  | .error e => e
  | .ok hs =>
    let hyphens := hs.reverse
    if hyphens.isEmpty ∧ bare then .simpleLength s.utf8ByteSize
    else if hyphens.length ≠ 4 then .groupCount (hyphens.length + 1)
    else (misplacedGroup 0 hyphens).getD (.groupLength 4 (s.utf8ByteSize - 24))

def parse (s : String) : Except ParseError Uuid :=
  let cs := s.toList
  let n := s.utf8ByteSize
  let value? :=
    if n = 32 then simpleValue? cs
    else if n = 36 then hyphenatedValue? cs
    else if n = 38 ∧ cs.head? = some '{' ∧ cs.getLast? = some '}' then
      hyphenatedValue? (cs.drop 1).dropLast
    else if n = 45 ∧ cs.take 9 = urnPrefix then hyphenatedValue? (cs.drop 9)
    else none
  match value? with
  | some v => .ok ⟨v⟩
  | none => .error (diagnose s)

def parse? (s : String) : Option Uuid := (parse s).toOption

end Uuid

end SellerSync
