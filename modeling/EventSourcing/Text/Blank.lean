/-!
# Blank text

The characters that separate words without showing, and the texts that consist
of nothing else.
-/

namespace EventSourcing

namespace Text

def blankRanges : List (Nat × Nat) :=
  [(0x09, 0x0d), (0x20, 0x20), (0x85, 0x85), (0xa0, 0xa0), (0x1680, 0x1680), (0x2000, 0x200a),
   (0x2028, 0x2029), (0x202f, 0x202f), (0x205f, 0x205f), (0x3000, 0x3000)]

def isBlankChar (char : Char) : Bool :=
  blankRanges.any fun range => range.1 ≤ char.toNat && char.toNat ≤ range.2

/-- Whether a text has no other characters than blank ones. -/
def isBlank (text : String) : Bool := text.toList.all isBlankChar

end Text

end EventSourcing
