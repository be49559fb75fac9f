import Postings.Algorithm
import Postings.Text.Decimal
import Postings.Text.Quoted

/-!
# Failures

Everything that can go wrong is a cause, and its wording stands in one place.
A fault is a broken precondition of a list operation.  The other failures
are complaints about an argument, about the text of a posting file, or about
reading it.
-/

namespace Postings

/-- A broken precondition of an operation on posting lists. -/
inductive Fault where
  | notIncreasing (last next : Int64)
  | backwardSkip
  | slotOutOfRange (slot : Nat)
  | positionOutOfRange (size position : Nat)
  | windowReversed (start stop : Nat)
  | windowOutOfRange (size stop : Nat)
  | missingSentinel
  | capacityOverflow
  deriving DecidableEq

namespace Fault

def message : Fault → String
  | .notIncreasing last next =>
      "posting ids must be strictly increasing: Some(" ++
        Decimal.writeInt64 last ++ ") then " ++ Decimal.writeInt64 next
  | .backwardSkip => "skip pointers must jump forward"
  | .slotOutOfRange slot => s!"skip pointer slot {slot} out of range"
  | .positionOutOfRange size position =>
      s!"index out of bounds: the len is {size} but the index is {position}"
  | .windowReversed start stop =>
      s!"slice index starts at {start} but ends at {stop}"
  | .windowOutOfRange size stop =>
      s!"range end index {stop} out of range for slice of length {size}"
  | .missingSentinel => "both inputs must be terminated with a sentinel"
  | .capacityOverflow => "capacity overflow"

end Fault

inductive OpenError where
  | notFound
  | denied
  | other (reason : String)
  deriving DecidableEq

namespace OpenError

def message : OpenError → String
  | .notFound => "No such file or directory (os error 2)"
  | .denied => "Permission denied (os error 13)"
  | .other reason => reason

end OpenError

inductive ArgumentError where
  | noSkipPointers (argument : String)
  | unknownAlgorithm (name : String)
  | cannotOpen (path : String) (reason : OpenError)
  deriving DecidableEq

namespace ArgumentError

/-- The name of the argument at fault. -/
def argument : ArgumentError → String
  | .noSkipPointers argument => argument
  | .unknownAlgorithm _ => "algorithm"
  | .cannotOpen _ _ => "path"

def message : ArgumentError → String
  | .noSkipPointers _ => "the number of skip pointers must be positive"
  | .unknownAlgorithm name =>
      "unknown algorithm " ++ Text.quote name ++ ", expected one of " ++
        ", ".intercalate (Algorithm.all.map Algorithm.name)
  | .cannotOpen path reason =>
      "Failed to open posting list file " ++ path ++ ": " ++ reason.message

end ArgumentError

namespace Algorithm

/-- The algorithm of the given name, or a complaint about the name. -/
def named (name : String) : Except ArgumentError Algorithm :=
  match ofName? name with
  | some algorithm => .ok algorithm
  | none => .error (.unknownAlgorithm name)

end Algorithm

/-- A complaint about the text of a posting file.  Lines count from one. -/
inductive FormatError where
  | noHeader
  | badCount (text : String) (cause : NumeralError)
  | missingPosting (expected found : Nat)
  | badFields (line : Nat) (text : String)
  | badId (line : Nat) (field : String) (cause : NumeralError)
  | badScore (line : Nat) (field : String) (cause : NumeralError)
  | reservedId (line : Nat) (id : Int64)
  | unordered (line : Nat) (id previous : Int64)
  deriving DecidableEq

namespace FormatError

/-- The name under which the input is complained about. -/
def argument : String := "rdr"

def message : FormatError → String
  | .noHeader => "input is empty"
  | .badCount text cause =>
      "line 1: invalid posting count " ++ Text.quote text ++ ": " ++
        cause.message
  | .missingPosting expected found =>
      s!"expected {expected} postings, found {found}"
  | .badFields line text =>
      s!"line {line}: expected `<id> <score>`, got " ++ Text.quote text
  | .badId line field cause =>
      s!"line {line}: invalid id " ++ Text.quote field ++ ": " ++
        cause.message
  | .badScore line field cause =>
      s!"line {line}: invalid score " ++ Text.quote field ++ ": " ++
        cause.message
  | .reservedId line id =>
      s!"line {line}: id " ++ Decimal.writeInt64 id ++
        " is reserved for the sentinel"
  | .unordered line id previous =>
      s!"line {line}: id " ++ Decimal.writeInt64 id ++
        " does not follow previous id " ++ Decimal.writeInt64 previous

end FormatError

/-- Why reading from an open stream failed. -/
inductive ReadError where
  | device (reason : String)
  | notUtf8
  | directory
  | incompleteFrame
  | unknownFrame
  | corruptFrame
  deriving DecidableEq

namespace ReadError

def message : ReadError → String
  | .device reason => reason
  | .notUtf8 => "stream did not contain valid UTF-8"
  | .directory => "Is a directory (os error 21)"
  | .incompleteFrame => "incomplete frame"
  | .unknownFrame => "Unknown frame descriptor"
  | .corruptFrame => "Data corruption detected"

/-- The full text of a failed read, which shows its kind too. -/
def render : ReadError → String
  | .device reason => custom "Other" reason
  | .notUtf8 =>
      "Error \x7b kind: InvalidData, message: " ++
        Text.quote (message .notUtf8) ++ " \x7d"
  | .directory =>
      "Os \x7b code: 21, kind: IsADirectory, message: \"Is a directory\" \x7d"
  | .incompleteFrame => custom "UnexpectedEof" (message .incompleteFrame)
  | .unknownFrame => custom "Other" (message .unknownFrame)
  | .corruptFrame => custom "Other" (message .corruptFrame)
where
  custom (kind reason : String) : String :=
    "Custom \x7b kind: " ++ kind ++ ", error: " ++ Text.quote reason ++
      " \x7d"

end ReadError

inductive Failure where
  | argument (cause : ArgumentError)
  | format (cause : FormatError)
  | read (cause : ReadError)
  | fault (cause : Fault)
  deriving DecidableEq

namespace Failure

def message : Failure → String
  | .argument cause =>
      "InvalidArgumentError: " ++ cause.argument ++ ": " ++ cause.message
  | .format cause =>
      "InvalidFormatError: " ++ FormatError.argument ++ ": " ++ cause.message
  | .read cause => cause.message
  | .fault cause => cause.message

/-- The full text of a failure, as the programs report it at their end. -/
def render : Failure → String
  | .argument cause =>
      "InvalidArgument(InvalidArgumentError" ++
        record cause.argument cause.message ++ ")"
  | .format cause =>
      "InvalidFormat(InvalidFormatError" ++
        record FormatError.argument cause.message ++ ")"
  | .read cause => "StdIo(" ++ cause.render ++ ")"
  | .fault cause => cause.message
where
  record (argument message : String) : String :=
    " \x7b arg: " ++ Text.quote argument ++ ", msg: " ++
      Text.quote message ++ " \x7d"

end Failure

end Postings
