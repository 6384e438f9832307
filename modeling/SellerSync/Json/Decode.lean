import SellerSync.Json.Value
import SellerSync.Text.Escaped
/-! Decoding JSON values into typed records, with the errors that name what was found and what was
expected. -/
namespace SellerSync

/-- What a value was, as errors describe it. -/
inductive Unexpected where
  | null
  | bool (b : Bool)
  | unsigned (n : Nat)
  | signed (n : Int)
  | float (x : Binary64)
  | str (s : String)
  | seq
  | map
  deriving Repr, Inhabited

namespace Unexpected

def ofJson : Json → Unexpected
  | .null => null
  | .bool b => bool b
  | .num (.unsigned n) => unsigned n
  | .num (.signed n) => signed n
  | .num (.float x) => float x
  | .str s => str s
  | .arr _ => seq
  | .obj _ => map

def escapeDebug (c : Char) : String :=
  if c = '"' then "\\\""
  else if c = '\\' then "\\\\"
  else if c = '\n' then "\\n"
  else if c = '\r' then "\\r"
  else if c = '\t' then "\\t"
  else if c.toNat = 0 then "\\0"
  else if c.toNat < 0x20 ∨ c.toNat = 0x7F ∨ (c.toNat ≥ 0x80 ∧ Text.isEscaped c) then
    "\\u" ++ "\x7b" ++ String.ofList (Nat.toDigits 16 c.toNat) ++ "\x7d"
  else c.toString

def quoteDebug (s : String) : String := "\"" ++ String.join (s.toList.map escapeDebug) ++ "\""

def describe : Unexpected → String
  | null => "null"
  | bool b => "boolean `" ++ (if b then "true" else "false") ++ "`"
  | unsigned n => "integer `" ++ toString n ++ "`"
  | signed n => "integer `" ++ toString n ++ "`"
  | float x => "floating point `" ++ x.toJsonText ++ "`"
  | str s => "string " ++ quoteDebug s
  | seq => "sequence"
  | map => "map"

end Unexpected

/-- Why a value does not decode as the shape expected. -/
inductive DecodeError where
  | invalidType (got : Unexpected) (expected : String)
  | invalidValue (got : Unexpected) (expected : String)
  | missingField (name : String)
  | duplicateField (name : String)
  | unknownVariant (name : String) (expected : List String)
  | invalidLength (n : Nat) (expected : String)
  | custom (text : String)
  deriving Repr, Inhabited

namespace DecodeError

def oneOf (names : List String) : String :=
  let q := fun (n : String) => "`" ++ n ++ "`"
  match names with
  | [a] => q a
  | [a, b] => q a ++ " or " ++ q b
  | _ => "one of " ++ ", ".intercalate (names.map q)

def message : DecodeError → String
  | invalidType got exp => "invalid type: " ++ got.describe ++ ", expected " ++ exp
  | invalidValue got exp => "invalid value: " ++ got.describe ++ ", expected " ++ exp
  | missingField n => "missing field `" ++ n ++ "`"
  | duplicateField n => "duplicate field `" ++ n ++ "`"
  | unknownVariant n [] => "unknown variant `" ++ n ++ "`, there are no variants"
  | unknownVariant n exp => "unknown variant `" ++ n ++ "`, expected " ++ oneOf exp
  | invalidLength n exp => "invalid length " ++ toString n ++ ", expected " ++ exp
  | custom t => t

end DecodeError

/-- A decoder of values of type `α`. -/
abbrev Decoder (α : Type) := Json → Except DecodeError α

namespace Decode

def typeError (j : Json) (exp : String) : DecodeError := .invalidType (Unexpected.ofJson j) exp

def any : Decoder Json := fun j => .ok j

def string : Decoder String
  | .str s => .ok s
  | j => .error (typeError j "a string")

def bool : Decoder Bool
  | .bool b => .ok b
  | j => .error (typeError j "a boolean")

def wholeIn (lo hi : Int) (name : String) : Decoder Int
  | .num (.unsigned n) =>
    if lo ≤ n ∧ (n : Int) ≤ hi then .ok n else .error (.invalidValue (.unsigned n) name)
  | .num (.signed n) =>
    if lo ≤ n ∧ n ≤ hi then .ok n else .error (.invalidValue (.signed n) name)
  | j => .error (typeError j name)

def i64 : Decoder Int := wholeIn (-(Int.pow 2 63)) (Int.pow 2 63 - 1) "i64"

def u64 : Decoder Nat := fun j => (wholeIn 0 (Nat.pow 2 64 - 1) "u64" j).map Int.toNat

def u32 : Decoder Nat := fun j => (wholeIn 0 (Nat.pow 2 32 - 1) "u32" j).map Int.toNat

def u16 : Decoder Nat := fun j => (wholeIn 0 (Nat.pow 2 16 - 1) "u16" j).map Int.toNat

def f64 : Decoder Binary64
  | .num n => .ok n.toBinary64
  | j => .error (typeError j "f64")

def option (d : Decoder α) : Decoder (Option α)
  | .null => .ok none
  | j => (d j).map some

def list (d : Decoder α) : Decoder (List α)
  | .arr xs => xs.mapM d
  | j => .error (typeError j "a sequence")

def map (d : Decoder α) : Decoder (List (String × α))
  | .obj fs => fs.mapM fun (k, v) => do pure (k, ← d v)
  | j => .error (typeError j "a map")

/-- An enumeration written as the name of one of its cases. -/
def variant (names : List (String × α)) : Decoder α
  | .str s =>
    match names.find? (fun p => p.1 == s) with
    | some (_, v) => .ok v
    | none => .error (.unknownVariant s (names.map (·.1)))
  | .obj [(s, payload)] =>
    match names.find? (fun p => p.1 == s) with
    | some (_, v) =>
      match payload with
      | .null => .ok v
      | other => .error (typeError other "unit")
    | none => .error (.unknownVariant s (names.map (·.1)))
  | .obj _ => .error (.invalidValue .map "map with a single key")
  | j => .error (typeError j "string or map")

end Decode

/-- Where a record reads its fields from, with the record's name and field count for messages. -/
structure RecordSource where
  name : String
  fieldCount : Nat
  /-- Members of an object, or `none` when the record is given as an array. -/
  members : Option (List (String × Json))
  items : List Json

/-- A field error with its place in reporting order. -/
structure FieldFault where
  /-- Present members fail in key order; missing ones after, in field order. -/
  missing : Bool
  key : String
  index : Nat
  error : DecodeError

structure RecordState where
  faults : List FieldFault := []
  index : Nat := 0

/-- Reading the fields of one record. -/
abbrev RecordM := ReaderT RecordSource (StateM RecordState)

namespace Record

def fault (f : FieldFault) : RecordM Unit :=
  modify fun s => { s with faults := f :: s.faults }

/-- How a field left out is treated. -/
inductive Absent (α : Type) where
  /-- An error: a missing field in an object, a short array otherwise. -/
  | required
  /-- `none` in an object, a short array otherwise. -/
  | optional (none : α)
  /-- The given value, wherever it is left out. -/
  | fallback (v : α)

def fieldOf [Inhabited α] (names : List String) (d : Decoder α) (absent : Absent α) :
    RecordM α := do
  let src ← read
  let st ← get
  let i := st.index
  set { st with index := i + 1 }
  let found : Option (String × Json) :=
    match src.members with
    | some fs => fs.find? (fun p => names.contains p.1)
    | none => (src.items[i]?).map fun v => ("", v)
  match found with
  | some (k, v) =>
    match d v with
    | .ok a => pure a
    | .error e => do fault ⟨false, k, i, e⟩; pure default
  | none =>
    match absent, src.members with
    | .fallback a, _ => pure a
    | .optional a, some _ => pure a
    | .required, some _ => do fault ⟨true, "", i, .missingField (names.headD "")⟩; pure default
    | _, none => do
      fault ⟨false, "", i, .invalidLength i
        ("struct " ++ src.name ++ " with " ++ toString src.fieldCount ++ " elements")⟩
      pure default

def req [Inhabited α] (name : String) (d : Decoder α) : RecordM α := fieldOf [name] d .required

def opt (name : String) (d : Decoder α) : RecordM (Option α) :=
  fieldOf [name] (Decode.option d) (.optional none)

def dflt [Inhabited α] (name : String) (d : Decoder α) (v : α) : RecordM α :=
  fieldOf [name] d (.fallback v)

def firstFault (fromArray : Bool) (fs : List FieldFault) : Option DecodeError :=
  let present := fs.filter (!·.missing)
  let missing := fs.filter (·.missing)
  let earliest := fun (a b : FieldFault) =>
    if fromArray then decide (a.index ≤ b.index) else decide (a.key ≤ b.key)
  match (present.mergeSort earliest).head? with
  | some f => some f.error
  | none => (missing.mergeSort (fun a b => decide (a.index ≤ b.index))).head?.map (·.error)

def run (name : String) (fieldCount : Nat) (build : RecordM α) : Decoder α
  | .obj fs =>
    let (a, st) := (build.run ⟨name, fieldCount, some fs, []⟩).run {}
    match firstFault false st.faults with
    | some e => .error e
    | none => .ok a
  | .arr xs =>
    let (a, st) := (build.run ⟨name, fieldCount, none, xs⟩).run {}
    match firstFault true st.faults with
    | some e => .error e
    | none =>
      if xs.length > fieldCount then .error (.invalidLength xs.length "fewer elements in array")
      else .ok a
  | j => .error (Decode.typeError j ("struct " ++ name))

end Record

end SellerSync
