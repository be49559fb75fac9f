/-!
# Lines of a text

A line ends with a line feed, to which a carriage return before it belongs.
The last line may lack its end.
-/

namespace Postings

namespace Text

def ended (line : String) : String := line ++ "\n"

/-- The text with a margin on every line but the first. -/
def indented (margin : Nat) (text : String) : String :=
  String.ofList
    (text.toList.flatMap fun character =>
      if character = '\n' then '\n' :: List.replicate margin ' '
      else [character])

/-- A line from its characters in reverse, without a carriage return at the
end. -/
def endedLine : List Char → String
  | '\r' :: earlier => String.ofList earlier.reverse
  | earlier => String.ofList earlier.reverse

/-- The lines of the remaining text when the current line has begun with the
given characters, in reverse. -/
def linesFrom (current : List Char) : List Char → List String
  | [] => if current.isEmpty then [] else [String.ofList current.reverse]
  | '\n' :: rest => endedLine current :: linesFrom [] rest
  | character :: rest => linesFrom (character :: current) rest

def lines (text : String) : List String := linesFrom [] text.toList

end Text

end Postings
