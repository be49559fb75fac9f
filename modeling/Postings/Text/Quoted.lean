import Postings.Text.Unprintable

/-!
# Quoted text

Messages repeat the text they complain about between double quotes.  Quotes,
backslashes and the common controls are written with a backslash, characters
that could not be seen are written by number, and everything else stands for
itself, single quotes included.
-/

namespace Postings

namespace Text

/-- The hexadecimal digits of a code point, in lower case. -/
def hexadecimal (number : Nat) : List Char :=
  Nat.toDigits 16 number

/-- How one character is written between double quotes. -/
def quoteChar (character : Char) : List Char :=
  if character = '"' then ['\\', '"']
  else if character = '\\' then ['\\', '\\']
  else if character = '\t' then ['\\', 't']
  else if character = '\r' then ['\\', 'r']
  else if character = '\n' then ['\\', 'n']
  else if character = '\x00' then ['\\', '0']
  else if isUnprintable character then
    ['\\', 'u', '\x7b'] ++ hexadecimal character.toNat ++ ['\x7d']
  else
    [character]

def quote (text : String) : String :=
  String.ofList (['"'] ++ text.toList.flatMap quoteChar ++ ['"'])

end Text

end Postings
