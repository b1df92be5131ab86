import ComponentMarkup.Text.Ranges

/-!
# Blanks

White space: the characters of category Zs and those of the bidirectional classes WS, B and S.
The four information separators U+001C to U+001F are among them.
-/

namespace ComponentMarkup.Text

def blanks : Ranges :=
  [(0x9, 0xD), (0x1C, 0x20), (0x85, 0x85), (0xA0, 0xA0), (0x1680, 0x1680), (0x2000, 0x200A),
   (0x2028, 0x2029), (0x202F, 0x202F), (0x205F, 0x205F), (0x3000, 0x3000)]

def isBlank (c : Char) : Bool := blanks.contains c.toNat

/-- The text without its blanks. -/
def withoutBlanks (s : List Char) : List Char := s.filter (!isBlank ·)

/-- The text without the blanks at its two ends. -/
def trimBlanks (s : List Char) : List Char :=
  ((s.dropWhile isBlank).reverse.dropWhile isBlank).reverse

end ComponentMarkup.Text
