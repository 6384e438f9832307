import SellerSync.Text.CombiningClass
import SellerSync.Text.Decomposition
import SellerSync.Text.Composition
/-! Normalization Form C (Unicode Standard Annex 15): full decomposition, canonical ordering, then
canonical composition. -/
namespace SellerSync

namespace Text

namespace Nfc

def syllableBase : Nat := 0xAC00
def leadBase : Nat := 0x1100
def vowelBase : Nat := 0x1161
def trailBase : Nat := 0x11A7
def leadCount : Nat := 19
def vowelCount : Nat := 21
def trailCount : Nat := 28
def blockCount : Nat := 588
def syllableCount : Nat := 11172

def isSyllable (n : Nat) : Bool := syllableBase ≤ n && n < syllableBase + syllableCount

def decompose (c : Char) : List Char :=
  let n := c.toNat
  if isSyllable n then
    let s := n - syllableBase
    let t := s % trailCount
    let jamo := [leadBase + s / blockCount, vowelBase + s % blockCount / trailCount]
    (if t = 0 then jamo else jamo ++ [trailBase + t]).map Char.ofNat
  else
    match RangeTable.lastAtMost? canonicalDecompositions (fun r => r.1) n with
    | some (m, cps) => if m = n then cps.map Char.ofNat else [c]
    | none => [c]

def sortMarks (run : List Char) : List Char :=
  run.mergeSort fun a b => combiningClass a ≤ combiningClass b

def reorderFrom (run : List Char) : List Char → List Char
  | [] => sortMarks run.reverse
  | c :: rest =>
    if combiningClass c = 0 then sortMarks run.reverse ++ c :: reorderFrom [] rest
    else reorderFrom (c :: run) rest

def reorder (cs : List Char) : List Char := reorderFrom [] cs

def composePair (a b : Char) : Option Char :=
  let x := a.toNat
  let y := b.toNat
  if leadBase ≤ x ∧ x < leadBase + leadCount ∧ vowelBase ≤ y ∧ y < vowelBase + vowelCount then
    some (Char.ofNat (syllableBase + ((x - leadBase) * vowelCount + (y - vowelBase)) * trailCount))
  else if isSyllable x ∧ (x - syllableBase) % trailCount = 0 ∧ trailBase < y ∧
      y < trailBase + trailCount then
    some (Char.ofNat (x + (y - trailBase)))
  else
    let key := fun (r : Nat × Nat × Nat) => r.1 * 0x110000 + r.2.1
    match RangeTable.lastAtMost? primaryComposites key (x * 0x110000 + y) with
    | some (p, q, r) => if p = x ∧ q = y then some (Char.ofNat r) else none
    | none => none

/-- Composition in progress: the output before the last starter (newest first), that starter,
and the marks after it that it did not absorb (newest first). -/
structure Composer where
  done : List Char := []
  starter : Option Char := none
  marks : List Char := []

def blocked (marks : List Char) (cc : Nat) : Bool :=
  match marks with
  | [] => false
  | m :: _ => combiningClass m = 0 || combiningClass m ≥ cc

def Composer.push (st : Composer) (c : Char) : Composer :=
  let cc := combiningClass c
  match st.starter with
  | some s =>
    match (if blocked st.marks cc then none else composePair s c) with
    | some p => { st with starter := some p }
    | none =>
      if cc = 0 then { done := st.marks ++ s :: st.done, starter := some c, marks := [] }
      else { st with marks := c :: st.marks }
  | none =>
    if cc = 0 then { st with starter := some c } else { st with done := c :: st.done }

def Composer.finish (st : Composer) : List Char :=
  (st.marks ++ st.starter.toList ++ st.done).reverse

def compose (cs : List Char) : List Char := (cs.foldl Composer.push {}).finish

end Nfc

def nfc (cs : List Char) : List Char := Nfc.compose (Nfc.reorder (cs.flatMap Nfc.decompose))

def isNfc (cs : List Char) : Bool := nfc cs == cs

end Text

end SellerSync
