/-!
# Decimal numerals

Numbers are written in base ten with an optional sign and nothing else: no
blanks, no separators, no other digits than `0` to `9`.  Reading goes from
left to right and stops at the first character that decides the outcome, so
a numeral with several faults is refused for the earliest one.

The readers work on lists of characters and return the cause of a refusal.
-/

namespace Postings

/-- Why a text is not a numeral of the wanted range. -/
inductive NumeralError where
  | empty
  | invalidDigit
  | tooLarge
  | tooSmall
  deriving DecidableEq

namespace NumeralError

def message : NumeralError → String
  | .empty => "cannot parse integer from empty string"
  | .invalidDigit => "invalid digit found in string"
  | .tooLarge => "number too large to fit in target type"
  | .tooSmall => "number too small to fit in target type"

end NumeralError

namespace Decimal

def digit? (character : Char) : Option Nat :=
  if '0' ≤ character ∧ character ≤ '9' then
    some (character.toNat - '0'.toNat)
  else
    none

/-- Append the remaining digits to a value that was already read.  The value
may not pass `limit` at any point; `overflow` is the cause reported then. -/
def accumulate (limit : Nat) (overflow : NumeralError) :
    Nat → List Char → Except NumeralError Nat
  | value, [] => .ok value
  | value, character :: rest =>
      match digit? character with
      | none => .error .invalidDigit
      | some digit =>
          if value * 10 + digit ≤ limit then
            accumulate limit overflow (value * 10 + digit) rest
          else
            .error overflow

/-- Read the digits after an optional sign.  A sign alone is no numeral. -/
def readDigits (limit : Nat) (overflow : NumeralError) :
    List Char → Except NumeralError Nat
  | [] => .error .invalidDigit
  | digits => accumulate limit overflow 0 digits

/-- Read a number from `0` to `limit`.  A plus sign may precede it. -/
def readNat (limit : Nat) : List Char → Except NumeralError Nat
  | [] => .error .empty
  | '+' :: digits => readDigits limit .tooLarge digits
  | digits => readDigits limit .tooLarge digits

def signedLimit : Nat := 9223372036854775807

/-- Read a signed 64-bit number.  Negative numbers reach one further from
zero than positive ones. -/
def readInt64 : List Char → Except NumeralError Int64
  | [] => .error .empty
  | '+' :: digits =>
      (readDigits signedLimit .tooLarge digits).map fun value =>
        Int64.ofNat value
  | '-' :: digits =>
      (readDigits (signedLimit + 1) .tooSmall digits).map fun value : Nat =>
        Int64.ofInt (-value)
  | digits =>
      (readDigits signedLimit .tooLarge digits).map fun value =>
        Int64.ofNat value

def wordLimit : Nat := 18446744073709551615

def writeInt (value : Int) : List Char :=
  if value < 0 then
    '-' :: Nat.toDigits 10 value.natAbs
  else
    Nat.toDigits 10 value.natAbs

def writeInt64 (value : Int64) : String :=
  String.ofList (writeInt value.toInt)

end Decimal

end Postings
