/-! Whole numbers written in decimal, as settings give them: optional sign, then at least one ASCII
digit and nothing else. -/
namespace SellerSync

namespace Numeral

def digitsValue (ds : List Char) : Nat := ds.foldl (fun n c => 10 * n + (c.toNat - 48)) 0

def digits? (cs : List Char) : Option Nat :=
  if !cs.isEmpty && cs.all Char.isDigit then some (digitsValue cs) else none

def natOfText? (s : String) : Option Nat :=
  match s.toList with
  | '+' :: rest => digits? rest
  | cs => digits? cs

def intOfText? (s : String) : Option Int :=
  match s.toList with
  | '+' :: rest => (digits? rest).map Int.ofNat
  | '-' :: rest => (digits? rest).map fun n => -(n : Int)
  | cs => (digits? cs).map Int.ofNat

def natOfTextBelow? (bits : Nat) (s : String) : Option Nat :=
  (natOfText? s).filter fun n => decide (n < Nat.pow 2 bits)

def intOfTextWithin? (bits : Nat) (s : String) : Option Int :=
  (intOfText? s).filter fun n => decide (-(Int.pow 2 (bits - 1)) ≤ n ∧ n < Int.pow 2 (bits - 1))

end Numeral

end SellerSync
