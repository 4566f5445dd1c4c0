/-!
# Blank characters

The characters that only separate text, and trimming them from both ends.  Besides the blanks of a
keyboard these are the ends of lines and of paragraphs and the blanks of various widths; the list is
complete.
-/

namespace SceneEngine.Blank

/-- The code points of blank characters. -/
def codes : List Nat :=
  [0x09, 0x0a, 0x0b, 0x0c, 0x0d, 0x20, 0x85, 0xa0, 0x1680, 0x2000, 0x2001, 0x2002, 0x2003,
   0x2004, 0x2005, 0x2006, 0x2007, 0x2008, 0x2009, 0x200a, 0x2028, 0x2029, 0x202f, 0x205f,
   0x3000]

/-- Whether a character is blank. -/
def isBlank (c : Char) : Bool := codes.contains c.toNat

/-- A text without the blanks at its ends; those within it stay. -/
def trim (s : String) : String :=
  let front := s.toList.dropWhile isBlank
  String.ofList (front.reverse.dropWhile isBlank).reverse

end SceneEngine.Blank
