/-!
# Columns

Text in a column is followed by spaces until the column is full.  Text that
is too long is not cut.
-/

namespace Postings

namespace Text

/-- Fill the text up with spaces to the width of a column. -/
def column (width : Nat) (text : String) : String :=
  String.ofList (text.toList.rightpad width ' ')

end Text

end Postings
