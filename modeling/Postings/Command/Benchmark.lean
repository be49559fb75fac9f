import Postings.Command.Arguments
import Postings.Command.Console
import Postings.Input.Files
import Postings.Intersection.Pairwise

/-!
# The benchmark program

For every algorithm the program loads the files in the layout it needs and
intersects every pair of lists, once to warm up and then as often as asked.
It prints one row for each algorithm: the time a round takes, which is
measured outside, and the number of matches of a round.
-/

namespace Postings

namespace BenchmarkCommand

structure Settings where
  files : List String
  iterations : Nat
  skipPointers : Nat
  compressed : Bool
  verbose : Bool
  deriving DecidableEq

namespace Settings

/-- The settings for the given files when nothing else is said. -/
def forFiles (files : List String) : Settings :=
  { files
    iterations := 10
    skipPointers := 1000
    compressed := false
    verbose := false }

def choose (settings : Settings) : Choice → Settings
  | .iterations count => { settings with iterations := count }
  | .skipPointers count => { settings with skipPointers := count }
  | .compressed => { settings with compressed := true }
  | .verbose => { settings with verbose := true }
  | .algorithm _ => settings
  | .hybridThreshold _ => settings

end Settings

def switches : List Switch :=
  [.iterations, .skipPointers, .zstd, .verbose, .version, .help]

def request (arguments : List String) : Request Settings :=
  (Arguments.read switches arguments).map fun gathered =>
    gathered.choices.foldl Settings.choose
      (Settings.forFiles gathered.operands)

/-- Intersect every list with every list before it and count the matches. -/
def round (algorithm : Algorithm) (earlier : List PostingList) :
    List PostingList → Traced Nat
  | [] => return 0
  | list :: lists => do
      let results ← earlier.mapM (algorithm.intersect list)
      let later ← round algorithm (earlier ++ [list]) lists
      return (results.map PostingList.size).sum + later

/-- The lists of all files in the layout that the algorithm needs. -/
def loadAll (settings : Settings) (files : Files) (algorithm : Algorithm) :
    Traced (List PostingList) :=
  settings.files.mapM
    (files.load settings.compressed
      (algorithm.layout settings.skipPointers))

def reportAgain (times : Nat) (events : List Event) : Traced Unit :=
  { outcome := .ok ()
    events :=
      if events.isEmpty then [] else (List.replicate times events).flatten }

/-- The row of one algorithm. -/
structure Row where
  algorithm : Algorithm
  matchCount : Nat
  deriving DecidableEq

namespace Row

/-- The text of a row, with the name in sixteen columns. -/
def render (time : String) (row : Row) : String :=
  Text.column 16 row.algorithm.name ++ " " ++ time ++ " per round (" ++
    toString row.matchCount ++ " matches)"

end Row

/-- Load the files for one algorithm and run all its rounds.  Every round
reports what the first one does. -/
def stage (settings : Settings) (files : Files) (algorithm : Algorithm) :
    Traced Row := do
  let lists ← loadAll settings files algorithm
  .report
    (.listsLoaded algorithm lists.length
      (algorithm.layout settings.skipPointers))
  let warmUp := round algorithm [] lists
  let matchCount ← warmUp
  reportAgain settings.iterations warmUp.events
  return { algorithm, matchCount }

/-- Go through the algorithms until one fails.  The rows before it stay. -/
def stages (settings : Settings) (filter : Filter) (files : Files)
    (time : Algorithm → String) : List Algorithm → Transcript
  | [] => .done
  | algorithm :: algorithms =>
      let traced := stage settings files algorithm
      let messages := filter.records traced.events
      match traced.outcome with
      | .error failure => .failed messages failure
      | .ok row =>
          (stages settings filter files time algorithms).after
            [row.render (time algorithm)] messages

/-- Run the program with the filter asked for, the files at hand and the
measured times. -/
def run (settings : Settings) (requested : Option Filter) (files : Files)
    (time : Algorithm → String) : Transcript :=
  if settings.iterations = 0 then
    { code := 1
      results := []
      messages := [Text.ended "Error: ZeroIterations"] }
  else
    stages settings (Filter.inForce requested settings.verbose) files time
      Algorithm.all

/-- How the program is called.  The wording is free. -/
def usage : List String :=
  ["Usage: benchmark [OPTIONS] <FILES>...",
   "",
   "Times every algorithm on all pairs of posting lists.",
   "",
   "  -n, --iterations <N>          rounds per algorithm, 10 unless given",
   "      --skip-pointers <N>       pointers of each list, 1000 unless given",
   "      --zstd                    the files are compressed",
   "  -v, --verbose                 report progress",
   "  -V, --version                 print the version",
   "  -h, --help                    print this text"]

def respond (arguments : List String) (requested : Option Filter)
    (files : Files) (time : Algorithm → String) : Transcript :=
  match request arguments with
  | .usage => { code := 2, results := [], messages := usage.map Text.ended }
  | .version =>
      { code := 0, results := ["benchmark " ++ version], messages := [] }
  | .help => { code := 0, results := usage, messages := [] }
  | .run settings => run settings requested files time

end BenchmarkCommand

end Postings
