import Postings.Command.Benchmark
import Postings.Command.Intersect
import Postings.Input.Frame
import Postings.Text.Duration

/-!
# Entry point

The first argument names the program, `intersect` or `benchmark`, and the
others are its command line.  This file only reads the files that the
command line names, measures time, and prints what the programs answer.
-/

namespace Postings

namespace Entry

def readNamed (path : String) : IO (Except OpenError Entry) := do
  try
    let bytes ← IO.FS.readBinFile path
    return .ok (.file bytes.toList)
  catch
    | .noFileOrDirectory _ _ _ => return .error .notFound
    | .permissionDenied _ _ _ => return .error .denied
    | .inappropriateType _ _ _ => return .ok .folder
    | other => return .error (.other (toString other))

end Entry

namespace Files

def readNamed (paths : List String) : IO Files := do
  let entries ← paths.mapM fun path => do
    return (path, ← Entry.readNamed path)
  return {
    entry := fun path => (entries.lookup path).getD (.error .notFound)
    decode := Frame.reads }

end Files

namespace Transcript

/-- Print a transcript and return its exit code. -/
def print (transcript : Transcript) : IO UInt32 := do
  transcript.messages.forM IO.eprint
  transcript.results.forM IO.println
  return UInt32.ofNat transcript.code

end Transcript

namespace BenchmarkCommand

/-- Measure the rounds of one algorithm and give the time of one of them. -/
def measure (settings : Settings) (files : Files) (algorithm : Algorithm) :
    IO String := do
  match (loadAll settings files algorithm).outcome with
  | .error _ => return ""
  | .ok lists =>
      let latest ← IO.mkRef (Traced.pure 0)
      let start ← IO.monoNanosNow
      for _ in [0:settings.iterations] do
        latest.set (round algorithm [] lists)
      let stop ← IO.monoNanosNow
      return Duration.render ((stop - start) / settings.iterations)

def measureAll (settings : Settings) (files : Files) :
    IO (Algorithm → String) := do
  let times ← Algorithm.all.mapM fun algorithm => do
    return (algorithm, ← measure settings files algorithm)
  return fun algorithm => (times.lookup algorithm).getD ""

end BenchmarkCommand

/-- Run one of the programs. -/
def runProgram (program : String) (arguments : List String)
    (requested : Option Filter) : IO UInt32 :=
  match program with
  | "intersect" => do
      let files ← match IntersectCommand.request arguments with
        | .run settings => Files.readNamed settings.files
        | _ => Files.readNamed []
      (IntersectCommand.respond arguments requested files).print
  | "benchmark" =>
      match BenchmarkCommand.request arguments with
      | .run settings => do
          let files ← Files.readNamed settings.files
          let times ← BenchmarkCommand.measureAll settings files
          (BenchmarkCommand.respond arguments requested files times).print
      | _ => do
          let files ← Files.readNamed []
          (BenchmarkCommand.respond arguments requested files
            fun _ => "").print
  | _ => do
      IO.eprintln "the programs are intersect and benchmark"
      return 2

end Postings

/-- Run the program that the first argument names. -/
def main (arguments : List String) : IO UInt32 := do
  let requested := (← IO.getEnv "POSTINGS_LOG").bind Postings.Filter.ofName?
  match arguments with
  | program :: rest => Postings.runProgram program rest requested
  | [] => Postings.runProgram "" [] requested
