/-!
# Control sequences

A text may hold characters that a terminal obeys and does not show: single
controls, and sequences that begin with an escape.  Here they are taken out.
Tabulators, form feeds and line ends are controls too, but they are blank
and stay.

What follows an escape decides how far its sequence goes.  A bracket opens
parameters, which the first letter ends.  Commands and strings go on to their
terminator, or else to the end of the text, and take blank controls with
them.  A new escape or a cancelling control ends every sequence.

Only the records of events are shown this way, and nothing is proved about
them.
-/

namespace Postings

namespace Text

namespace Control

/-- Where a text stands with respect to control sequences. -/
inductive State where
  /-- Outside all sequences. -/
  | text
  /-- Right after an escape. -/
  | escape
  /-- After an escape and characters that announce one more. -/
  | intermediate
  /-- Among parameters, which a letter ends. -/
  | parameters
  /-- At the start of a string for a device. -/
  | deviceStart
  /-- Among the parameters of a string for a device. -/
  | deviceParameters
  /-- After them, at characters that announce one more. -/
  | deviceIntermediate
  /-- In a string, which only its terminator ends. -/
  | string
  /-- In a command, which a bell ends. -/
  | command
  deriving DecidableEq

def isBetween (low high character : Char) : Bool :=
  low ≤ character && character ≤ high

/-- The controls that are blank: tabulator, line feed, form feed and
carriage return. -/
def isBlankControl (character : Char) : Bool :=
  character == '\t' || character == '\n' || character == '\x0c' ||
    character == '\r'

/-- Whether a character outside all sequences is shown.  Beyond the first
128 characters everything is. -/
def isVisible (character : Char) : Bool :=
  isBlankControl character || (' ' ≤ character && character != '\x7f')

/-- Whether the character ends a string.  The terminator is the byte 0x9C,
which counts also inside a longer character. -/
def endsString (character : Char) : Bool :=
  (String.utf8EncodeChar character).contains 0x9C

/-- Where a character right after an escape leads. -/
def afterEscape (character : Char) : State :=
  match character with
  | '[' => .parameters
  | ']' => .command
  | 'P' => .deviceStart
  | 'X' | '^' | '_' => .string
  | _ =>
      if isBetween ' ' '/' character then .intermediate
      else if isBetween '0' '~' character then .text
      else .escape

namespace State

/-- Where a character leads that neither escapes nor cancels. -/
def proceed (state : State) (character : Char) : State :=
  match state with
  | .text => .text
  | .escape => afterEscape character
  | .intermediate =>
      if isBetween '0' '~' character then .text else .intermediate
  | .parameters =>
      if isBetween '@' '~' character then .text else .parameters
  | .deviceStart =>
      if isBetween ' ' '/' character then .deviceIntermediate
      else if isBetween '0' '?' character then .deviceParameters
      else if isBetween '@' '~' character then .string
      else .deviceStart
  | .deviceParameters =>
      if isBetween ' ' '/' character then .deviceIntermediate
      else if isBetween '<' '~' character then .string
      else .deviceParameters
  | .deviceIntermediate =>
      if isBetween '0' '~' character then .string else .deviceIntermediate
  | .string => if endsString character then .text else .string
  | .command => if character = '\x07' then .text else .command

def next (state : State) (character : Char) : State :=
  match character with
  | '\x1b' => .escape
  | '\x18' | '\x1a' => .text
  | _ => state.proceed character

/-- Whether the character is shown.  Strings and commands keep even blank
controls to themselves. -/
def shows (state : State) (character : Char) : Bool :=
  match state with
  | .text => isVisible character
  | .escape | .intermediate | .parameters => isBlankControl character
  | _ => false

end State

/-- The characters that are shown.  A blank control inside a sequence
suspends it: the text from there is shown up to the next control, where the
sequence goes on.  A character beyond the first 128 ends a suspended
sequence. -/
def visible (suspended : Bool) (state : State) : List Char → List Char
  | [] => []
  | character :: rest =>
      if suspended && isVisible character then
        let later := if character.toNat < 128 then state else .text
        character :: visible true later rest
      else if state.shows character then
        character :: visible true (state.next character) rest
      else
        visible false (state.next character) rest

end Control

/-- The text without controls that are not blank and without control
sequences. -/
def withoutControls (text : String) : String :=
  String.ofList (Control.visible false .text text.toList)

end Text

end Postings
