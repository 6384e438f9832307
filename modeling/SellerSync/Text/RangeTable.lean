/-! Lookup in tables of code point ranges. -/
namespace SellerSync

namespace Text

namespace RangeTable

def bisect (rows : Array α) (key : α → Nat) (n : Nat) (lo hi : Nat) : Nat :=
  if _h : lo + 1 < hi then
    let mid := (lo + hi) / 2
    match rows[mid]? with
    | some r => if key r ≤ n then bisect rows key n mid hi else bisect rows key n lo mid
    | none => lo
  else lo
termination_by hi - lo

def lastAtMost? (rows : Array α) (key : α → Nat) (n : Nat) : Option α :=
  match rows[bisect rows key n 0 rows.size]? with
  | some r => if key r ≤ n then some r else none
  | none => none

def find? (rows : Array α) (first last : α → Nat) (n : Nat) : Option α :=
  match lastAtMost? rows first n with
  | some r => if n ≤ last r then some r else none
  | none => none

end RangeTable

end Text

end SellerSync
