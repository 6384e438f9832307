import SellerSync.Web.IdnaMapping
import SellerSync.Web.Punycode
import SellerSync.Text.Nfc
import SellerSync.Text.BidiClass
import SellerSync.Text.JoiningType
/-! Domain names to ASCII (Unicode Technical Standard 46) with the settings of URL hosts. -/
namespace SellerSync

namespace Idna

open Text

def isDenied (c : Char) : Bool :=
  c.toNat ≤ 0x20 || c.toNat = 0x7F || "%#/:<>?@[\\]^|".toList.contains c

def mapName (cs : List Char) : Option (List Char) := do
  let mapped := (← cs.mapM mapChar).flatten
  if mapped.any isDenied then none else some mapped

def acePrefix : List Char := "xn--".toList

def unicodeLabel (label : List Char) : Option (List Char) :=
  if label.take 4 = acePrefix then
    if label.any (·.toNat ≥ 0x80) then none
    else do
      let u ← Punycode.decode (label.drop 4)
      if u.isEmpty ∨ u.all (·.toNat < 0x80) ∨ u.take 4 = acePrefix then none
      else if !(u.all isValid && isNfc u) then none
      else some u
  else some label

def zeroWidthNonJoiner : Char := Char.ofNat 0x200C
def zeroWidthJoiner : Char := Char.ofNat 0x200D

def joinsToward (accepts : JoiningType → Bool) : List Char → Bool
  | [] => false
  | c :: rest =>
    if joiningType c = .transparent then joinsToward accepts rest else accepts (joiningType c)

def joinerAllowed (before : List Char) (joiner : Char) (after : List Char) : Bool :=
  match before with
  | [] => false
  | prev :: _ =>
    isVirama prev ||
      (joiner = zeroWidthNonJoiner &&
        joinsToward (fun t => t = .leftJoining || t = .dualJoining) before &&
        joinsToward (fun t => t = .rightJoining || t = .dualJoining) after)

def joinersAllowed (before : List Char) : List Char → Bool
  | [] => true
  | c :: rest =>
    (!(c = zeroWidthNonJoiner || c = zeroWidthJoiner) || joinerAllowed before c rest) &&
      joinersAllowed (c :: before) rest

def labelValid (label : List Char) : Bool :=
  !(label.head?.map isMark).getD false && label.all isValid && joinersAllowed [] label

def isRightToLeft (b : BidiClass) : Bool :=
  b = .rightToLeft || b = .arabicLetter || b = .arabicNumber

def middleLtr (b : BidiClass) : Bool :=
  b = .leftToRight || b = .europeanNumber || b = .europeanSeparator ||
    b = .commonSeparator || b = .europeanTerminator || b = .otherNeutral ||
    b = .boundaryNeutral || b = .nonspacingMark

def middleRtl (b : BidiClass) : Bool :=
  b = .rightToLeft || b = .arabicLetter || b = .arabicNumber || b = .europeanNumber ||
    b = .europeanSeparator || b = .commonSeparator || b = .europeanTerminator ||
    b = .otherNeutral || b = .boundaryNeutral || b = .nonspacingMark

def ltrBodyValid (body : List Char) : Bool :=
  match body.getLast? with
  | none => true
  | some last =>
    (bidiClass last = .leftToRight || bidiClass last = .europeanNumber) &&
      body.dropLast.all (middleLtr ∘ bidiClass)

def rtlBodyValid (body : List Char) : Bool :=
  match body.getLast? with
  | none => true
  | some last =>
    let lc := bidiClass last
    (lc = .rightToLeft || lc = .arabicLetter || lc = .europeanNumber || lc = .arabicNumber) &&
      body.dropLast.all (middleRtl ∘ bidiClass) &&
      !(body.any (bidiClass · = .europeanNumber) && body.any (bidiClass · = .arabicNumber))

def bidiLabelValid (label : List Char) : Bool :=
  match label with
  | [] => true
  | first :: tail =>
    let body := (tail.reverse.dropWhile (bidiClass · = .nonspacingMark)).reverse
    match bidiClass first with
    | .leftToRight => ltrBodyValid body
    | .rightToLeft | .arabicLetter => rtlBodyValid body
    | _ => false

def isFullStop (c : Char) : Bool :=
  c = '.' || c.toNat = 0x3002 || c.toNat = 0xFF0E || c.toNat = 0xFF61

def asciiLabel (mapped : List Char) (asciiInput : Bool) (label : List Char) : Option (List Char) :=
  if label.all (·.toNat < 0x80) then some label
  else if asciiInput ∧ mapped.take 4 = acePrefix then some mapped
  else (acePrefix ++ ·) <$> Punycode.encode label

def toAscii (name : List Char) : Option String := do
  let parts := name.splitOnP isFullStop
  let mapped ← parts.mapM fun part => nfc <$> mapName part
  let labels ← mapped.mapM unicodeLabel
  if !labels.all labelValid then none
  if labels.any (·.any (isRightToLeft ∘ bidiClass)) && !labels.all bidiLabelValid then none
  let out ← ((parts.zip mapped).zip labels).mapM fun ((part, m), l) =>
    asciiLabel m (part.all (·.toNat < 0x80)) l
  some (String.ofList (List.intercalate ['.'] out))

end Idna

end SellerSync
