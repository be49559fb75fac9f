import Postings.Algorithm
import Postings.Layout

/-!
# Events

Work on posting lists reports what it does.  An event has a level, the part
of the program it comes from, and a message.  Which events are shown is
decided outside, by a filter.
-/

namespace Postings

/-- How important an event is, the most important first. -/
inductive Level where
  | error
  | warn
  | info
  | debug
  | trace
  deriving DecidableEq

namespace Level

def name : Level → String
  | .error => "ERROR"
  | .warn => "WARN"
  | .info => "INFO"
  | .debug => "DEBUG"
  | .trace => "TRACE"

/-- Position in the order of importance, from one on. -/
def rank : Level → Nat
  | .error => 1
  | .warn => 2
  | .info => 3
  | .debug => 4
  | .trace => 5

end Level

/-- What the program reports while it works. -/
inductive Event where
  | builtSkips (size gap : Nat)
  | loading (path : String) (compressed : Bool)
  | ignoredLines (count announced : Nat)
  | loaded (count : Nat) (layout : Layout)
  | gallopStopped (position size : Nat)
  | strategyChosen (shorter longer threshold : Nat) (strategy : Strategy)
  | fileLoaded (count : Nat) (path : String)
  | intersected (count : Nat) (algorithm : Algorithm)
  | listsLoaded (algorithm : Algorithm) (count : Nat) (layout : Layout)
  deriving DecidableEq

namespace Event

def level : Event → Level
  | .builtSkips _ _ => .debug
  | .loading _ _ => .debug
  | .ignoredLines _ _ => .warn
  | .loaded _ _ => .debug
  | .gallopStopped _ _ => .trace
  | .strategyChosen _ _ _ _ => .trace
  | .fileLoaded _ _ => .info
  | .intersected _ _ => .info
  | .listsLoaded _ _ _ => .info

/-- The part of the program that reports the event. -/
def target : Event → String
  | .builtSkips _ _ => "postmerge::posting_list"
  | .loading _ _ => "postmerge::posting_list::loader"
  | .ignoredLines _ _ => "postmerge::posting_list::loader"
  | .loaded _ _ => "postmerge::posting_list::loader"
  | .gallopStopped _ _ => "postmerge::intersect::galloping"
  | .strategyChosen _ _ _ _ => "postmerge::intersect::hybrid"
  | .fileLoaded _ _ => "intersect"
  | .intersected _ _ => "intersect"
  | .listsLoaded _ _ _ => "benchmark"

def message : Event → String
  | .builtSkips size gap => s!"built skip pointers: len={size}, gap={gap}"
  | .loading path compressed =>
      "loading " ++ path ++ (if compressed then " (zstd)" else "")
  | .ignoredLines count announced =>
      s!"ignored {count} line(s) after the {announced} announced postings"
  | .loaded count layout => s!"loaded {count} postings ({layout.render})"
  | .gallopStopped position size =>
      s!"galloping stopped at driver position {position} of {size}"
  | .strategyChosen shorter longer threshold strategy =>
      s!"hybrid: {shorter} vs {longer} postings, threshold {threshold}, " ++
        strategy.render
  | .fileLoaded count path => s!"loaded {count} postings from {path}"
  | .intersected count algorithm =>
      s!"{count} postings intersected with {algorithm.name}"
  | .listsLoaded algorithm count layout =>
      s!"{algorithm.name}: loaded {count} lists ({layout.render})"

end Event

end Postings
