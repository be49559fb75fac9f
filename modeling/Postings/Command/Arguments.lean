import Postings.Algorithm
import Postings.Text.Decimal

/-!
# Command lines

A command line is a sequence of switches and operands.  A switch has a long
name and sometimes a letter; letters may share a dash, and a value may be
attached to its switch or follow it.  After a double dash everything is an
operand.

The line is read from left to right, and the first thing that decides its
meaning does: a request for the version or for help, or a mistake.

This stands in for a library of command lines, as the usage texts of the
programs do.  It serves the entry points only: the theory of the programs
begins with their settings.
-/

namespace Postings

inductive Switch where
  | algorithm
  | skipPointers
  | hybridThreshold
  | iterations
  | zstd
  | verbose
  | version
  | help
  deriving DecidableEq

namespace Switch

def longName : Switch → String
  | .algorithm => "algorithm"
  | .skipPointers => "skip-pointers"
  | .hybridThreshold => "hybrid-threshold"
  | .iterations => "iterations"
  | .zstd => "zstd"
  | .verbose => "verbose"
  | .version => "version"
  | .help => "help"

def letter? : Switch → Option Char
  | .algorithm => some 'a'
  | .iterations => some 'n'
  | .verbose => some 'v'
  | .version => some 'V'
  | .help => some 'h'
  | _ => none

def takesValue : Switch → Bool
  | .algorithm | .skipPointers | .hybridThreshold | .iterations => true
  | .zstd | .verbose | .version | .help => false

end Switch

/-- What a switch and its value ask for. -/
inductive Choice where
  | algorithm (algorithm : Algorithm)
  | skipPointers (count : Nat)
  | hybridThreshold (threshold : Nat)
  | iterations (count : Nat)
  | compressed
  | verbose
  deriving DecidableEq

namespace Choice

def maxIterations : Nat := 4294967295

def count? (value : String) : Option Nat :=
  (Decimal.readNat Decimal.wordLimit value.toList).toOption

/-- A number of iterations.  It is read as a signed number and must then lie
in range, so zero may carry a minus sign. -/
def iterations? (value : String) : Option Nat :=
  match Decimal.readInt64 value.toList with
  | .ok number =>
      if 0 ≤ number.toInt ∧ number.toInt ≤ maxIterations then
        some number.toInt.toNat
      else
        none
  | .error _ => none

/-- The choice made by a switch with a value; the value of a switch that
takes none is empty.  A bad value makes no choice. -/
def make? (switch : Switch) (value : String) : Option Choice :=
  match switch with
  | .algorithm => (Algorithm.ofName? value).map .algorithm
  | .skipPointers => (count? value).map .skipPointers
  | .hybridThreshold => (count? value).map .hybridThreshold
  | .iterations => (iterations? value).map .iterations
  | .zstd => some .compressed
  | .verbose => some .verbose
  | .version => none
  | .help => none

end Choice

namespace Arguments

inductive Item where
  | switch (switch : Switch) (value : String)
  | operand (text : String)
  | mistake
  deriving DecidableEq

/-- What an argument contributes, and the switch that still waits for a
value. -/
structure Reading where
  items : List Item
  waiting? : Option Switch
  deriving DecidableEq

/-- A value attached to a letter may be set off by an equals sign. -/
def attachedValue : List Char → List Char
  | '=' :: value => value
  | value => value

/-- Read letters that share a dash.  The first letter that takes a value
takes all that follows it. -/
def readLetters (known : List Switch) : List Char → Reading
  | [] => { items := [], waiting? := none }
  | letter :: rest =>
      match known.find? fun switch => switch.letter? == some letter with
      | none => { items := [.mistake], waiting? := none }
      | some switch =>
          if switch.takesValue then
            if rest.isEmpty then
              { items := [], waiting? := some switch }
            else
              { items :=
                  [.switch switch (String.ofList (attachedValue rest))]
                waiting? := none }
          else
            let later := readLetters known rest
            { later with items := .switch switch "" :: later.items }

/-- Read a long name, to which a value may be attached by an equals sign. -/
def readLongName (known : List Switch) (text : List Char) : Reading :=
  let name := String.ofList (text.takeWhile (· != '='))
  let attached := text.dropWhile (· != '=')
  match known.find? fun switch => switch.longName == name with
  | none => { items := [.mistake], waiting? := none }
  | some switch =>
      match switch.takesValue, attached with
      | true, [] => { items := [], waiting? := some switch }
      | true, _ :: value =>
          { items := [.switch switch (String.ofList value)]
            waiting? := none }
      | false, [] => { items := [.switch switch ""], waiting? := none }
      | false, _ :: _ => { items := [.mistake], waiting? := none }

/-- Read one argument before any double dash. -/
def readArgument (known : List Switch) (argument : String) : Reading :=
  match argument.toList with
  | '-' :: '-' :: name => readLongName known name
  | '-' :: letter :: letters => readLetters known (letter :: letters)
  | _ => { items := [.operand argument], waiting? := none }

/-- Whether an argument looks like a switch, so that it is no value of the
switch before it.  A single dash does not. -/
def looksLikeSwitch (argument : String) : Bool :=
  match argument.toList with
  | '-' :: _ :: _ => true
  | _ => false

/-- Everything found on a command line, in order. -/
def items (known : List Switch) : List String → List Item
  | [] => []
  | argument :: rest =>
      if argument = "--" then
        rest.map .operand
      else
        let reading := readArgument known argument
        match reading.waiting?, rest with
        | none, rest => reading.items ++ items known rest
        | some _, [] => reading.items ++ [.mistake]
        | some switch, value :: rest =>
            if looksLikeSwitch value then
              reading.items ++ [.mistake]
            else
              reading.items ++ .switch switch value :: items known rest
termination_by arguments => arguments.length

end Arguments

/-- What a command line asks for. -/
inductive Request (σ : Type) where
  | usage
  | version
  | help
  | run (settings : σ)

namespace Request

def map (convert : σ → τ) : Request σ → Request τ
  | .usage => .usage
  | .version => .version
  | .help => .help
  | .run settings => .run (convert settings)

end Request

namespace Arguments

/-- The choices and operands of a command line. -/
structure Gathered where
  choices : List Choice
  operands : List String
  deriving DecidableEq

/-- Gather choices and operands, the latest first, until something else
decides.  A switch may be given once, operands may not be empty, and there
must be an operand. -/
def gather (seen : List Switch) (gathered : Gathered) :
    List Item → Request Gathered
  | [] =>
      if gathered.operands.isEmpty then
        .usage
      else
        .run
          { choices := gathered.choices.reverse
            operands := gathered.operands.reverse }
  | .mistake :: _ => .usage
  | .operand text :: rest =>
      if text.isEmpty then
        .usage
      else
        gather seen { gathered with operands := text :: gathered.operands }
          rest
  | .switch .version _ :: _ => .version
  | .switch .help _ :: _ => .help
  | .switch switch value :: rest =>
      if switch ∈ seen then
        .usage
      else
        match Choice.make? switch value with
        | none => .usage
        | some choice =>
            gather (switch :: seen)
              { gathered with choices := choice :: gathered.choices } rest

def read (known : List Switch) (arguments : List String) :
    Request Gathered :=
  gather [] { choices := [], operands := [] } (items known arguments)

end Arguments

end Postings
