import SellerSync.Json.Value
import SellerSync.Uuid
/-! Names for the ids in a session's answers, so that answers do not depend on how ids are drawn. -/
namespace SellerSync

/-- The names given to ids so far, oldest first. -/
structure Labels where
  entries : List (Uuid × String) := []
  deriving Repr, Inhabited

namespace Labels

def nameOf? (l : Labels) (u : Uuid) : Option String := (l.entries.find? (·.1 == u)).map (·.2)

def rank? (l : Labels) (u : Uuid) : Option Nat := l.entries.findIdx? (·.1 == u)

def register (l : Labels) (u : Uuid) (name : String) : Labels :=
  if (l.nameOf? u).isSome then l else ⟨l.entries ++ [(u, name)]⟩

def nameFor (l : Labels) (u : Uuid) : String × Labels :=
  match l.nameOf? u with
  | some n => (n, l)
  | none =>
    let n := "#" ++ toString (l.entries.length + 1)
    (n, ⟨l.entries ++ [(u, n)]⟩)

def idShaped (cs : List Char) : Bool :=
  cs.length == 36 &&
    (cs.zipIdx.all fun (c, i) =>
      if i == 8 || i == 13 || i == 18 || i == 23 then c == '-'
      else c.isDigit || ('a' ≤ c && c ≤ 'f'))

def idAt? (cs : List Char) : Option Uuid :=
  let head := cs.take 36
  if idShaped head then Uuid.parse? (String.ofList head) else none

def renameChars (l : Labels) (acc : List Char) : List Char → List Char × Labels
  | [] => (acc.reverse, l)
  | c :: rest =>
    match idAt? (c :: rest) with
    | some u =>
      let (name, l') := l.nameFor u
      renameChars l' (name.toList.reverse ++ acc) (rest.drop 35)
    | none => renameChars l (c :: acc) rest
termination_by cs => cs.length
decreasing_by
  · simp only [List.length_drop, List.length_cons]; omega
  · simp only [List.length_cons]; omega

def renameText (l : Labels) (s : String) : String × Labels :=
  let (cs, l') := l.renameChars [] s.toList
  (String.ofList cs, l')

mutual
def rename (l : Labels) : Json → Json × Labels
  | .str s => let (s', l') := l.renameText s; (.str s', l')
  | .arr xs => let (xs', l') := renameItems l xs; (.arr xs', l')
  | .obj fs => let (fs', l') := renameMembers l fs; (.obj fs', l')
  | j => (j, l)

def renameItems (l : Labels) : List Json → List Json × Labels
  | [] => ([], l)
  | x :: xs =>
    let (x', l1) := rename l x
    let (xs', l2) := renameItems l1 xs
    (x' :: xs', l2)

def renameMembers (l : Labels) : List (String × Json) → List (String × Json) × Labels
  | [] => ([], l)
  | (k, v) :: fs =>
    let (v', l1) := rename l v
    let (fs', l2) := renameMembers l1 fs
    ((k, v') :: fs', l2)
end

end Labels

namespace Json

mutual
def mapStrings (f : String → String) : Json → Json
  | .str s => .str (f s)
  | .arr xs => .arr (mapStringsItems f xs)
  | .obj fs => .obj (mapStringsMembers f fs)
  | j => j

def mapStringsItems (f : String → String) : List Json → List Json
  | [] => []
  | x :: xs => mapStrings f x :: mapStringsItems f xs

def mapStringsMembers (f : String → String) : List (String × Json) → List (String × Json)
  | [] => []
  | (k, v) :: fs => (k, mapStrings f v) :: mapStringsMembers f fs
end

mutual
def sortKeys : Json → Json
  | .arr xs => .arr (sortKeysItems xs)
  | .obj fs => object (sortKeysMembers fs)
  | j => j

def sortKeysItems : List Json → List Json
  | [] => []
  | x :: xs => sortKeys x :: sortKeysItems xs

def sortKeysMembers : List (String × Json) → List (String × Json)
  | [] => []
  | (k, v) :: fs => (k, sortKeys v) :: sortKeysMembers fs
end

end Json

end SellerSync
