/-!
# Blanks and fields

A blank is a character with the Unicode property `White_Space`.  Trimming
removes blanks at both ends of a text, and the fields of a text are its
maximal runs of other characters.
-/

namespace Postings

namespace Text

/-- The ranges of code points with the property `White_Space`. -/
def blankRanges : List (Nat × Nat) :=
  [(0x09, 0x0D), (0x20, 0x20), (0x85, 0x85), (0xA0, 0xA0),
   (0x1680, 0x1680), (0x2000, 0x200A), (0x2028, 0x2029),
   (0x202F, 0x202F), (0x205F, 0x205F), (0x3000, 0x3000)]

def isBlank (character : Char) : Bool :=
  blankRanges.any fun range =>
    range.1 ≤ character.toNat && character.toNat ≤ range.2

def trim (text : List Char) : List Char :=
  ((text.dropWhile isBlank).reverse.dropWhile isBlank).reverse

/-- The field that touches the start of the text, possibly empty, and the
fields after it. -/
def leadingField : List Char → List Char × List (List Char)
  | [] => ([], [])
  | character :: rest =>
      let (field, later) := leadingField rest
      if isBlank character then
        ([], if field.isEmpty then later else field :: later)
      else
        (character :: field, later)

/-- The maximal runs of characters that are not blank, in order. -/
def fields (text : List Char) : List (List Char) :=
  let (field, later) := leadingField text
  if field.isEmpty then later else field :: later

end Text

end Postings
