/-!
Request methods. A method is a non-empty token: ASCII letters, digits and the marks
`! # $ % & ' * + - . ^ _` backquote `| ~`, case kept, so extension methods are allowed.
-/
namespace SellerSync

namespace Method

def tokenMarks : List Nat := [33, 35, 36, 37, 38, 39, 42, 43, 45, 46, 94, 95, 96, 124, 126]

def isTokenChar (c : Char) : Bool := (c.isAlphanum && c.toNat < 128) || tokenMarks.contains c.toNat

def isValid (s : String) : Bool := !s.isEmpty && s.toList.all isTokenChar

end Method

end SellerSync
