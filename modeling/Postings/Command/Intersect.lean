import Postings.Command.Arguments
import Postings.Command.Console
import Postings.Input.Files
import Postings.Intersection.Chain

/-!
# The intersect program

The program loads posting files in the layout its algorithm needs,
intersects them from left to right, and prints the common postings, one on
a line.
-/

namespace Postings

namespace IntersectCommand

structure Settings where
  files : List String
  algorithm : Algorithm
  skipPointers : Nat
  hybridThreshold? : Option Nat
  compressed : Bool
  verbose : Bool
  deriving DecidableEq

namespace Settings

/-- The settings for the given files when nothing else is said. -/
def forFiles (files : List String) : Settings :=
  { files
    algorithm := .hybrid Algorithm.defaultThreshold
    skipPointers := 1000
    hybridThreshold? := none
    compressed := false
    verbose := false }

def choose (settings : Settings) : Choice → Settings
  | .algorithm algorithm => { settings with algorithm }
  | .skipPointers count => { settings with skipPointers := count }
  | .hybridThreshold threshold =>
      { settings with hybridThreshold? := some threshold }
  | .compressed => { settings with compressed := true }
  | .verbose => { settings with verbose := true }
  | .iterations _ => settings

/-- The algorithm with the threshold asked for. -/
def effectiveAlgorithm (settings : Settings) : Algorithm :=
  match settings.hybridThreshold? with
  | none => settings.algorithm
  | some threshold => settings.algorithm.withThreshold threshold

def layout (settings : Settings) : Layout :=
  settings.effectiveAlgorithm.layout settings.skipPointers

end Settings

def switches : List Switch :=
  [.algorithm, .skipPointers, .hybridThreshold, .zstd, .verbose, .version,
   .help]

def request (arguments : List String) : Request Settings :=
  (Arguments.read switches arguments).map fun gathered =>
    gathered.choices.foldl Settings.choose
      (Settings.forFiles gathered.operands)

/-- Load one file and say so. -/
def loadFile (settings : Settings) (files : Files) (path : String) :
    Traced PostingList := do
  let list ← files.load settings.compressed settings.layout path
  .report (.fileLoaded list.realSize path)
  return list

/-- The postings common to all files. -/
def intersection (settings : Settings) (files : Files) :
    Traced PostingList := do
  let lists ← settings.files.mapM (loadFile settings files)
  let result? ← settings.effectiveAlgorithm.intersectAll lists
  let result := result?.getD .empty
  .report (.intersected result.size settings.effectiveAlgorithm)
  return result

def outputLine (posting : Posting) : String :=
  Decimal.writeInt64 posting.id ++ "\t" ++ Decimal.writeInt64 posting.score

/-- Run the program with the filter asked for and the files at hand. -/
def run (settings : Settings) (requested : Option Filter) (files : Files) :
    Transcript :=
  let traced := intersection settings files
  let filter := Filter.inForce requested settings.verbose
  let messages := filter.records traced.events
  match traced.outcome with
  | .ok result =>
      Transcript.done.after (result.toList.map outputLine) messages
  | .error failure => .failed messages failure

/-- How the program is called.  The wording is free. -/
def usage : List String :=
  ["Usage: intersect [OPTIONS] <FILES>...",
   "",
   "Intersects posting lists from left to right.",
   "",
   "  -a, --algorithm <NAME>        the algorithm, hybrid unless given",
   "      --skip-pointers <N>       pointers of each list, 1000 unless given",
   "      --hybrid-threshold <N>    ratio of lengths from which hybrid gallops",
   "      --zstd                    the files are compressed",
   "  -v, --verbose                 report progress",
   "  -V, --version                 print the version",
   "  -h, --help                    print this text"]

def respond (arguments : List String) (requested : Option Filter)
    (files : Files) : Transcript :=
  match request arguments with
  | .usage => { code := 2, results := [], messages := usage.map Text.ended }
  | .version =>
      { code := 0, results := ["intersect " ++ version], messages := [] }
  | .help => { code := 0, results := usage, messages := [] }
  | .run settings => run settings requested files

end IntersectCommand

end Postings
