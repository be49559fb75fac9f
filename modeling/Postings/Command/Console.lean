import Postings.Text.Column
import Postings.Text.Control
import Postings.Text.Lines
import Postings.Traced

/-!
# What a program shows

A program ends with an exit code and two texts, its results and its
messages.  Events become messages as far as a filter lets them through, and
a failure is reported as the last message.

The message of an event is written without control sequences, and its lines
after the first are indented.  `Filter.record` and `Text.withoutControls`
stand in for a library of log records.  What is shown of events is left open
in the theory: it speaks of the events themselves.
-/

namespace Postings

def version : String := "0.1.0"

/-- The least important level that is shown, if any is. -/
abbrev Filter := Option Level

namespace Filter

def ofName? : String → Option Filter
  | "off" => some none
  | "error" => some (some .error)
  | "warn" => some (some .warn)
  | "info" => some (some .info)
  | "debug" => some (some .debug)
  | "trace" => some (some .trace)
  | _ => none

/-- The filter in force: the one asked for, or else one that depends on
whether the program was told to be verbose. -/
def inForce (requested : Option Filter) (verbose : Bool) : Filter :=
  requested.getD (some (if verbose then .info else .warn))

def shows (filter : Filter) (level : Level) : Bool :=
  filter.any fun least => level.rank ≤ least.rank

/-- The message of an event, with the level in five columns.  An unfinished
control sequence can take the line end with it. -/
def record (event : Event) : String :=
  Text.withoutControls
    (Text.ended
      ("[" ++ Text.column 5 event.level.name ++ " " ++ event.target ++ "] " ++
        Text.indented 4 event.message))

def records (filter : Filter) (events : List Event) : List String :=
  (events.filter fun event => filter.shows event.level).map record

end Filter

/-- Everything a program leaves behind: its results, line by line, and its
messages, as they are written one after the other. -/
structure Transcript where
  code : Nat
  results : List String
  messages : List String
  deriving DecidableEq

namespace Transcript

/-- The exit code of a failure: a fault is a crash. -/
def failureCode : Failure → Nat
  | .fault _ => 101
  | _ => 1

def failureLine : Failure → String
  | .fault cause => cause.message
  | failure => "Error: Postmerge(" ++ failure.render ++ ")"

/-- A program that fails after the given messages. -/
def failed (messages : List String) (failure : Failure) : Transcript :=
  { code := failureCode failure
    results := []
    messages := messages ++ [Text.ended (failureLine failure)] }

/-- Results and messages that come before those of a transcript. -/
def after (results messages : List String) (later : Transcript) :
    Transcript :=
  { code := later.code
    results := results ++ later.results
    messages := messages ++ later.messages }

def done : Transcript :=
  { code := 0, results := [], messages := [] }

def messageLines (transcript : Transcript) : List String :=
  Text.lines (String.join transcript.messages)

end Transcript

end Postings
