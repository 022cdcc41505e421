/-!
# Blank characters

The characters that count as blank at the ends of a text: the white space and the line ends of
the Unicode space separators, the byte order mark among them. `trim` drops them at both ends, so
a text is blank exactly when nothing of it is left.
-/

namespace SavingsCircle.Text

/-- The code points of the blank characters; next line, the Mongolian vowel separator and the
zero-width space are not among them. -/
def blankCodes : List Nat :=
  [0x9, 0xa, 0xb, 0xc, 0xd, 0x20, 0xa0, 0x1680] ++ List.range' 0x2000 11 ++
    [0x2028, 0x2029, 0x202f, 0x205f, 0x3000, 0xfeff]

def isBlank (c : Char) : Bool := blankCodes.contains c.toNat

def trimChars (cs : List Char) : List Char :=
  ((cs.dropWhile isBlank).reverse.dropWhile isBlank).reverse

def trim (s : String) : String := String.ofList (trimChars s.toList)

/-- Whether a text has a character that is not blank. -/
def hasInk (s : String) : Bool := s.toList.any fun c => !isBlank c

end SavingsCircle.Text
