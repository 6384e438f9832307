import SellerSync.Text.RangeTable
import SellerSync.Web.IdnaMapping.Alphabets
import SellerSync.Web.IdnaMapping.Symbols
import SellerSync.Web.IdnaMapping.EastAsian
import SellerSync.Web.IdnaMapping.CompatibilityIdeographs
import SellerSync.Web.IdnaMapping.PresentationForms
import SellerSync.Web.IdnaMapping.Historic
import SellerSync.Web.IdnaMapping.Mathematical
import SellerSync.Web.IdnaMapping.SupplementaryIdeographs
/-!
The IDNA mapping of single characters: the rows of every part of the table in one array, and
what the row holding a character does with it.
-/
namespace SellerSync

namespace Idna

def mappingRows : Array MappingRow :=
  rowsAlphabets ++ rowsSymbols ++ rowsEastAsian ++ rowsCompatibilityIdeographs ++
    rowsPresentationForms ++ rowsHistoric ++ rowsMathematical ++ rowsSupplementaryIdeographs

def rowOf? (c : Char) : Option MappingRow :=
  Text.RangeTable.find? mappingRows (fun r => r.first) (fun r => r.last) c.toNat

def mapChar (c : Char) : Option (List Char) :=
  (rowOf? c).bind fun r =>
    let n := c.toNat
    match r.status with
    | .valid => some [c]
    | .ignored => some []
    | .disallowed => none
    | .shift delta step =>
      if (n - r.first) % step = 0 then some [Char.ofNat ((n : Int) + delta).toNat] else some [c]
    | .text cps => some (cps.map Char.ofNat)

def isValid (c : Char) : Bool :=
  (rowOf? c).elim false fun r =>
    match r.status with
    | .valid => true
    | .shift _ step => (c.toNat - r.first) % step ≠ 0
    | _ => false

end Idna

end SellerSync
