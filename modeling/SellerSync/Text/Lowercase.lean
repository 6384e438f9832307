import SellerSync.Text.CaseTables
/-! Full Unicode lowercasing of text. -/
namespace SellerSync

namespace Text

def lowerSimple (c : Char) : Char :=
  let n := c.toNat
  match lowercaseRuns.find? (fun r => r.1 ≤ n ∧ n ≤ r.2.1) with
  | some (first, _, delta, step) =>
    if (n - first) % step = 0 then Char.ofNat (n + delta).toNat else c
  | none => c

def wordCaseKind (c : Char) : Nat :=
  let n := c.toNat
  match wordCaseRanges.find? (fun r => r.1 ≤ n ∧ n ≤ r.2.1) with
  | some (_, _, k) => k
  | none => 0

def casedAfterIgnorable (cs : List Char) : Bool :=
  match cs.dropWhile (fun c => wordCaseKind c = 1) with
  | c :: _ => wordCaseKind c = 2
  | [] => false

def capitalSigma : Char := Char.ofNat 0x3A3

def lowerChars : List Char → List Char → List Char
  | _, [] => []
  | before, c :: rest =>
    let out :=
      if c = capitalSigma then
        if casedAfterIgnorable before ∧ !casedAfterIgnorable rest then [Char.ofNat 0x3C2]
        else [Char.ofNat 0x3C3]
      else if c.toNat = 0x130 then ['i', Char.ofNat 0x307]
      else [lowerSimple c]
    out ++ lowerChars (c :: before) rest

def toLower (s : String) : String := String.ofList (lowerChars [] s.toList)

end Text

end SellerSync
