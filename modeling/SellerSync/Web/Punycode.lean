/-! Punycode (RFC 3492), the encoding of a Unicode label in ASCII letters, digits and hyphens. -/
namespace SellerSync

namespace Punycode

def maxU32 : Nat := 4294967295

def digitChar (d : Nat) : Char :=
  if d < 26 then Char.ofNat (0x61 + d) else Char.ofNat (0x30 + d - 26)

def digitValue (c : Char) : Option Nat :=
  let n := c.toNat
  if 0x61 ≤ n ∧ n ≤ 0x7A then some (n - 0x61)
  else if 0x41 ≤ n ∧ n ≤ 0x5A then some (n - 0x41)
  else if 0x30 ≤ n ∧ n ≤ 0x39 then some (n - 0x30 + 26)
  else none

def threshold (k bias : Nat) : Nat :=
  if k ≤ bias then 1 else if bias + 26 ≤ k then 26 else k - bias

theorem threshold_pos (k bias : Nat) : 1 ≤ threshold k bias := by
  unfold threshold
  split
  · omega
  · split <;> omega

theorem threshold_le (k bias : Nat) : threshold k bias ≤ 26 := by
  unfold threshold
  split
  · omega
  · split <;> omega

def shrink (delta k : Nat) : Nat × Nat :=
  if 455 < delta then shrink (delta / 35) (k + 36) else (delta, k)
termination_by delta
decreasing_by exact Nat.div_lt_self (by omega) (by omega)

def adapt (delta points : Nat) (first : Bool) : Nat :=
  let d := if first then delta / 700 else delta / 2
  let (d, k) := shrink (d + d / points) 0
  k + 36 * d / (d + 38)

/-! ## Decoding -/

def readNumber (bias : Nat) : List Char → (k w i : Nat) → Option (Nat × List Char)
  | [], _, _, _ => none
  | c :: rest, k, w, i =>
    match digitValue c with
    | none => none
    | some d =>
      if d * w > maxU32 ∨ i + d * w > maxU32 then none
      else if d < threshold k bias then some (i + d * w, rest)
      else if w * (36 - threshold k bias) > maxU32 then none
      else readNumber bias rest (k + 36) (w * (36 - threshold k bias)) (i + d * w)

theorem readNumber_shorter : ∀ (bias : Nat) (l : List Char) (k w i : Nat) (r : Nat × List Char),
    readNumber bias l k w i = some r → r.2.length < l.length
  | _, [], _, _, _, _, h => by simp [readNumber] at h
  | bias, c :: rest, k, w, i, r, h => by
    rw [readNumber] at h
    split at h
    · simp at h
    · split at h
      · simp at h
      · split at h
        · rw [← Option.some.inj h]; simp
        · split at h
          · simp at h
          · have := readNumber_shorter bias rest (k + 36) _ _ r h
            simp; omega

def isScalar (n : Nat) : Bool := n < 0xD800 || (0xDFFF < n && n < 0x110000)

def insertAll (bias n i : Nat) (out : List Char) : List Char → Option (List Char)
  | [] => some out
  | c :: rest =>
    match h : readNumber bias (c :: rest) 36 1 i with
    | none => none
    | some (i', rem) =>
      let points := out.length + 1
      let n' := n + i' / points
      if n' > maxU32 ∨ !isScalar n' then none
      else
        let pos := i' % points
        insertAll (adapt (i' - i) points (i == 0)) n' (pos + 1)
          (out.insertIdx pos (Char.ofNat n')) rem
termination_by l => l.length
decreasing_by
  have := readNumber_shorter bias (c :: rest) 36 1 i (i', rem) h
  simpa using this

def splitBasic (input : List Char) : List Char × List Char :=
  match input.reverse.span (· != '-') with
  | (revTail, []) => ([], revTail.reverse)
  | (revTail, _ :: revHead) => (revHead.reverse, revTail.reverse)

def decode (input : List Char) : Option (List Char) :=
  let (basic, numbers) := splitBasic input
  if basic.any (·.toNat ≥ 0x80) then none
  else insertAll 72 128 0 basic numbers

/-! ## Encoding -/

def writeNumber (bias : Nat) (k q : Nat) : List Char :=
  let t := threshold k bias
  if q < t then [digitChar q]
  else digitChar (t + (q - t) % (36 - t)) :: writeNumber bias (k + 36) ((q - t) / (36 - t))
termination_by q
decreasing_by
  have _h1 := threshold_pos k bias
  have _h2 := threshold_le k bias
  calc (q - threshold k bias) / (36 - threshold k bias)
      ≤ q - threshold k bias := Nat.div_le_self _ _
    _ < q := by omega

/-- Encoding in progress: the digits written, the pending distance, the bias and how many code
points are placed. -/
structure Encoder where
  out : List Char
  delta : Nat
  bias : Nat
  placed : Nat

def Encoder.visit (basicCount m : Nat) (st : Encoder) (c : Char) : Encoder :=
  if c.toNat < m then { st with delta := st.delta + 1 }
  else if c.toNat = m then
    { out := st.out ++ writeNumber st.bias 36 st.delta, delta := 0,
      bias := adapt st.delta (st.placed + 1) (st.placed == basicCount),
      placed := st.placed + 1 }
  else st

def insertPoints (label : List Char) (basicCount : Nat) : List Nat → Nat → Encoder → Encoder
  | [], _, st => st
  | m :: rest, n, st =>
    let st := { st with delta := st.delta + (m - n) * (st.placed + 1) }
    let st := label.foldl (Encoder.visit basicCount m) st
    insertPoints label basicCount rest (m + 1) { st with delta := st.delta + 1 }

def sortedDistinct (ns : List Nat) : List Nat :=
  (ns.mergeSort (· ≤ ·)).eraseDups

def encode (label : List Char) : Option (List Char) :=
  if (label.length + 1) * (0x10FFFF - 128) > maxU32 then none
  else
    let basic := label.filter (·.toNat < 0x80)
    let points := sortedDistinct ((label.filter (·.toNat ≥ 0x80)).map Char.toNat)
    let st := insertPoints label basic.length points 128
      { out := [], delta := 0, bias := 72, placed := basic.length }
    some (basic ++ (if basic.isEmpty then [] else ['-']) ++ st.out)

end Punycode

end SellerSync
