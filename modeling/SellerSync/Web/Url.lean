import SellerSync.Web.Host
/-! Absolute URLs as browsers read them (the WHATWG URL standard). Reading trims outer control
characters and spaces, drops tabs and newlines, and lowercases the scheme. -/
namespace SellerSync

structure Url where
  scheme : String
  username : String := ""
  password : Option String := none
  /-- Whether the text has an authority (`//` after the scheme), possibly with no host. -/
  authority : Bool := false
  host : Option Host := none
  /-- The number after the host, when it is not the scheme's default. -/
  portNumber : Option Nat := none
  /-- The serialized path. -/
  path : String := ""
  query : Option String := none
  fragment : Option String := none
  deriving DecidableEq, Repr, Inhabited

namespace Url

def defaultPort : String → Option Nat
  | "http" => some 80
  | "https" => some 443
  | "ws" => some 80
  | "wss" => some 443
  | "ftp" => some 21
  | _ => none

def isSpecial (scheme : String) : Bool := (defaultPort scheme).isSome || scheme == "file"

/-! ## Percent-encode sets -/

def controlSet (b : UInt8) : Bool := b < 0x20 || b ≥ 0x7F

def fragmentSet (b : UInt8) : Bool :=
  controlSet b || b == 32 || b == 34 || b == 60 || b == 62 || b == 96

def pathSet (b : UInt8) : Bool := fragmentSet b || b == 35 || b == 63 || b == 123 || b == 125

def userinfoSet (b : UInt8) : Bool :=
  pathSet b || b == 47 || b == 58 || b == 59 || b == 61 || b == 64 || b == 91 || b == 92 ||
    b == 93 || b == 94 || b == 124

def querySet (special : Bool) (b : UInt8) : Bool :=
  controlSet b || b == 32 || b == 34 || b == 35 || b == 60 || b == 62 || (special && b == 39)

def encodeWith (set : UInt8 → Bool) (cs : List Char) : String :=
  Percent.encodeBytes (fun b => !set b) (Percent.utf8 (String.ofList cs))

/-! ## Text -/

def hostText? (u : Url) : Option String := u.host.map Host.text

def serialize (u : Url) : String :=
  let auth :=
    if u.authority then
      let user :=
        if u.username.isEmpty ∧ u.password.isNone then ""
        else u.username ++ (match u.password with | some p => ":" ++ p | none => "") ++ "@"
      "//" ++ user ++ (u.host.map Host.text).getD "" ++
        (match u.portNumber with | some p => ":" ++ toString p | none => "")
    else ""
  u.scheme ++ ":" ++ auth ++ u.path ++
    (match u.query with | some q => "?" ++ q | none => "") ++
    (match u.fragment with | some f => "#" ++ f | none => "")

def queryPairs (u : Url) : List (String × String) :=
  match u.query with
  | some q => Percent.formParse q
  | none => []

def appendPairs (u : Url) (pairs : List (String × String)) : Url :=
  if pairs.isEmpty then u else
  let extra := Percent.formSerialize pairs
  { u with query := some (match u.query with
    | some q => if q.isEmpty then extra else q ++ "&" ++ extra
    | none => extra) }

/-! ## Paths -/

def isDot (seg : String) : Bool := seg == "." || seg.toLower == "%2e"

def isDotDot (seg : String) : Bool :=
  let l := seg.toLower
  l == ".." || l == ".%2e" || l == "%2e." || l == "%2e%2e"

def isDriveLetter (seg : String) : Bool :=
  match seg.toList with
  | [a, b] => a.isAlpha && (b = ':' || b = '|')
  | _ => false

def isNormalDriveLetter (seg : String) : Bool :=
  match seg.toList with
  | [a, b] => a.isAlpha && b = ':'
  | _ => false

def segmentsOf (special : Bool) (cs : List Char) : List String :=
  (cs.splitOnP fun c => c = '/' || (special && c = '\\')).map (encodeWith pathSet)

def breakPath (cs : List Char) : List Char × List Char :=
  (cs.takeWhile fun c => c ≠ '?' ∧ c ≠ '#', cs.dropWhile fun c => c ≠ '?' ∧ c ≠ '#')

def pathText (segs : List String) : String := String.join (segs.map ("/" ++ ·))

def resolveSegments (file : Bool) (out : List String) (drive : Bool) :
    List String → List String × Bool
  | [] => (out, drive)
  | seg :: rest =>
    let last := rest.isEmpty
    if isDotDot seg then
      let out :=
        if file && (out.getLast?.map isNormalDriveLetter).getD false then out else out.dropLast
      resolveSegments file (if last then out ++ [""] else out) drive rest
    else if isDot seg then
      resolveSegments file (if last then out ++ [""] else out) drive rest
    else if file && out.isEmpty && isDriveLetter seg then
      resolveSegments file [String.ofList [seg.toList.headD 'c', ':']] true rest
    else resolveSegments file (out ++ [seg]) drive rest

def resolvedPath (special : Bool) (cs : List Char) : String :=
  pathText (resolveSegments false [] false (segmentsOf special cs)).1

def queryAndFragment (special : Bool) (cs : List Char) : Option String × Option String :=
  match cs with
  | '?' :: rest =>
    let q := rest.takeWhile (· ≠ '#')
    let f := rest.dropWhile (· ≠ '#')
    (some (encodeWith (querySet special) q), f.head?.map fun _ => encodeWith fragmentSet (f.drop 1))
  | '#' :: rest => (none, some (encodeWith fragmentSet rest))
  | _ => (none, none)

/-! ## Authority -/

def lastAt (cs : List Char) : Option Nat :=
  let idxs := (cs.zipIdx.filter fun (c, _) => c = '@').map (·.2)
  idxs.getLast?

def credentials (info : List Char) : String × Option String :=
  let user := info.takeWhile (· ≠ ':')
  let pass := (info.dropWhile (· ≠ ':')).drop 1
  (encodeWith userinfoSet user, if pass.isEmpty then none else some (encodeWith userinfoSet pass))

def hostChars (special : Bool) : Bool → List Char → List Char × List Char
  | _, [] => ([], [])
  | inBracket, c :: rest =>
    if (c = ':' ∧ !inBracket) ∨ c = '/' ∨ c = '?' ∨ c = '#' ∨ (special ∧ c = '\\') then
      ([], c :: rest)
    else
      let inBracket := if c = '[' then true else if c = ']' then false else inBracket
      let (h, r) := hostChars special inBracket rest
      (c :: h, r)

def port (scheme : String) (value : Option Nat) : List Char → Except UrlError (Option Nat × List Char)
  | [] => .ok (finish value, [])
  | c :: rest =>
    if c.isDigit then
      let v := (value.getD 0) * 10 + (c.toNat - 48)
      if v > 65535 then .error .invalidPort else port scheme (some v) rest
    else if c = '/' ∨ c = '\\' ∨ c = '?' ∨ c = '#' then .ok (finish value, c :: rest)
    else .error .invalidPort
where
  finish (value : Option Nat) : Option Nat :=
    match value with
    | some v => if defaultPort scheme = some v then none else some v
    | none => none

def afterSlashes (scheme : String) (special : Bool) (cs : List Char) : Except UrlError Url := do
  let isEnd := fun (c : Char) => c = '/' || c = '?' || c = '#' || (special && c = '\\')
  let authorityText := cs.takeWhile (!isEnd ·)
  let (username, password, rest) ← match lastAt authorityText with
    | none => pure ("", none, cs)
    | some 0 =>
      match cs.drop 1 with
      | c :: _ => if isEnd c then throw .emptyHost else pure ("", none, cs.drop 1)
      | [] => pure ("", none, [])
    | some k =>
      let (u, p) := credentials (cs.take k)
      pure (u, p, cs.drop (k + 1))
  let (hostText, rest) := hostChars special false rest
  if special ∧ hostText.isEmpty then throw .emptyHost
  let host ← if special then Host.parseSpecial hostText else Host.parseOpaque hostText
  let empty := host = .domain ""
  if empty ∧ rest.head? = some ':' then throw .emptyHost
  let (portNumber, rest) ← match rest with
    | ':' :: r => port scheme none r
    | r => pure (none, r)
  if empty ∧ (!username.isEmpty || password.isSome) then throw .emptyHost
  let (pathPart, rest) := breakPath rest
  let path :=
    if special then
      let body := match pathPart with
        | c :: r => if c = '/' ∨ c = '\\' then r else pathPart
        | [] => []
      resolvedPath true body
    else
      match pathPart with
      | [] => ""
      | '/' :: r => resolvedPath false r
      | _ => resolvedPath false pathPart
  let (query, fragment) := queryAndFragment special rest
  let host := if empty then none else some host
  pure { scheme, username, password, authority := true, host, portNumber, path, query, fragment }

/-! ## File URLs -/

def isSlash (c : Char) : Bool := c = '/' || c = '\\'

def filePath (body : List Char) : String × Bool :=
  let (segs, drive) := resolveSegments true [] false (segmentsOf true body)
  ("/" ++ String.ofList ((pathText segs).toList.dropWhile (· = '/')), drive)

def parseFile (cs : List Char) : Except UrlError Url := do
  let (pathPart, rest) := breakPath cs
  let (query, fragment) := queryAndFragment true rest
  let base : Url := { scheme := "file", authority := true, query, fragment }
  match pathPart with
  | a :: b :: afterSlashes =>
    if isSlash a ∧ isSlash b then
      let hostText := afterSlashes.takeWhile (!isSlash ·)
      if isDriveLetter (String.ofList hostText) then
        return { base with path := (filePath afterSlashes).1 }
      let body := afterSlashes.drop hostText.length
      let host ← if hostText.isEmpty then pure none else do
        match ← Host.parseSpecial hostText with
        | .domain "localhost" => pure none
        | h => pure (some h)
      let body := match body with
        | c :: r => if isSlash c then r else body
        | [] => []
      let (path, drive) := filePath body
      return { base with host := if drive then none else host, path }
    else
      return { base with path := (filePath (if isSlash a then b :: afterSlashes else pathPart)).1 }
  | [a] => return { base with path := (filePath (if isSlash a then [] else [a])).1 }
  | [] => return { base with path := (filePath []).1 }

/-! ## Reading -/

def isC0OrSpace (c : Char) : Bool := c.toNat ≤ 0x20

def parse (input : String) : Except UrlError Url := do
  let cs := (input.toList.dropWhile isC0OrSpace).reverse.dropWhile isC0OrSpace |>.reverse
  let cs := cs.filter fun c => c ≠ '\t' ∧ c ≠ '\n' ∧ c ≠ '\r'
  let schemeChars := cs.takeWhile fun c => c.isAlphanum ∨ c = '+' ∨ c = '-' ∨ c = '.'
  let afterScheme := cs.drop schemeChars.length
  let validStart := match schemeChars.head? with
    | some c => c.isAlpha
    | none => false
  if !validStart ∨ afterScheme.head? ≠ some ':' then throw .relativeWithoutBase
  let scheme := String.ofList (schemeChars.map Char.toLower)
  let rest := afterScheme.drop 1
  if scheme = "file" then parseFile rest
  else if isSpecial scheme then afterSlashes scheme true (rest.dropWhile isSlash)
  else
    match rest with
    | '/' :: '/' :: r => afterSlashes scheme false r
    | _ =>
      let (pathPart, after) := breakPath rest
      let (query, fragment) := queryAndFragment false after
      let path := match pathPart with
        | '/' :: r => resolvedPath false r
        | _ => encodeWith controlSet pathPart
      pure { scheme, path, query, fragment }

end Url

end SellerSync
