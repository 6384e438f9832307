/-! The shape of the IDNA mapping table of Unicode Technical Standard 46, without transitional
mappings and STD 3 rules. -/
namespace SellerSync

namespace Idna

/-- What the mapping does with the characters of one row. -/
inductive MappingStatus where
  /-- The characters stay as they are. -/
  | valid
  /-- The characters are dropped. -/
  | ignored
  /-- The characters make the name invalid. -/
  | disallowed
  /-- The characters at a multiple of `step` from the first one of the row become themselves
  plus `delta`; those between stay as they are. -/
  | shift (delta : Int) (step : Nat)
  /-- Every character of the row becomes these code points. -/
  | text (codePoints : List Nat)
  deriving DecidableEq, Repr, Inhabited

/-- The characters from `first` to `last` and what the mapping does with them. -/
structure MappingRow where
  first : Nat
  last : Nat
  status : MappingStatus
  deriving DecidableEq, Repr, Inhabited

end Idna

end SellerSync
