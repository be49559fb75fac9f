import Postings.Input.Stream
import Postings.PostingList.Update
import Postings.Text.Blank

/-!
# Posting files

A posting file announces on its first line how many postings follow, and
each of them stands on a line of its own: its id, blanks, its score.  Ids
increase from line to line and never reach the reserved one.  What follows
the announced postings is ignored, but lines there that are not blank are
counted and reported.

The first fault of a file decides its failure.  Posting lines are numbered
from two on, after the header.
-/

namespace Postings

namespace Line

/-- Whether a line is worth mentioning when it is ignored: it has a character
that is not blank, or it could not be read. -/
def isNotable : Line → Bool
  | .error _ => true
  | .ok text => !(Text.trim text.toList).isEmpty

def text (line : Line) : Except Failure String :=
  line.mapError .read

end Line

namespace PostingFile

/-- The number of postings that the header announces. -/
def readCount (header : String) : Except FormatError Nat :=
  let trimmed := Text.trim header.toList
  (Decimal.readNat Decimal.wordLimit trimmed).mapError
    (.badCount (String.ofList trimmed))

/-- The posting on a line with exactly two fields. -/
def readPosting (number : Nat) (text : String) :
    Except FormatError Posting :=
  match Text.fields text.toList with
  | [idField, scoreField] => do
      let id ← (Decimal.readInt64 idField).mapError
        (.badId number (String.ofList idField))
      let score ← (Decimal.readInt64 scoreField).mapError
        (.badScore number (String.ofList scoreField))
      return { id, score }
  | _ => .error (.badFields number text)

/-- Insist that a posting may follow the postings of the list. -/
def checkOrder (number : Nat) (list : PostingList) (posting : Posting) :
    Except FormatError Unit :=
  if posting.id = sentinelId then
    .error (.reservedId number posting.id)
  else
    match list.lastId? with
    | none => .ok ()
    | some last =>
        if last < posting.id then .ok ()
        else .error (.unordered number posting.id last)

/-- Append the posting on a line to the list. -/
def addLine (number : Nat) (list : PostingList) (line : Line) :
    Except Failure PostingList := do
  let text ← line.text
  let posting ← (readPosting number text).mapError .format
  (checkOrder number list posting).mapError .format
  (list.push posting).mapError .fault

/-- Append postings from the lines until the announced number is there.  The
result comes with the lines that are left. -/
def addLines (announced : Nat) :
    Nat → PostingList → List Line → Except Failure (PostingList × List Line)
  | found, list, [] =>
      if found < announced then
        .error (.format (.missingPosting announced found))
      else
        .ok (list, [])
  | found, list, line :: lines =>
      if found < announced then
        match addLine (found + 2) list line with
        | .error failure => .error failure
        | .ok longer => addLines announced (found + 1) longer lines
      else
        .ok (list, line :: lines)

/-- The most postings for which room is made on the word of a header. -/
def maxReserved : Nat := 1048576

/-- The number of postings for which room is made in advance.  A header may
announce anything, so it is trusted up to a limit only. -/
def reservation (announced : Nat) (layout : Layout) : Nat :=
  min announced maxReserved + if layout = .sentinel then 1 else 0

/-- The announced number, the postings and the lines after them.  How room is
made for the postings is a parameter, so that it can be said how much is asked
for. -/
def readLinesWith (makeRoom : Nat → Except Fault PostingList)
    (layout : Layout) :
    List Line → Except Failure (Nat × PostingList × List Line)
  | [] => .error (.format .noHeader)
  | header :: lines => do
      let text ← header.text
      let announced ← (readCount text).mapError .format
      let room ← (makeRoom (reservation announced layout)).mapError .fault
      let (list, rest) ← addLines announced 0 room lines
      return (announced, list, rest)

def readLines : Layout → List Line →
    Except Failure (Nat × PostingList × List Line) :=
  readLinesWith PostingList.withCapacity

/-- Report lines that were ignored after the announced postings. -/
def reportIgnored (announced : Nat) (rest : List Line) : Traced Unit :=
  let count := rest.countP Line.isNotable
  if count = 0 then return ()
  else .report (.ignoredLines count announced)

def loadWith (makeRoom : Nat → Except Fault PostingList) (layout : Layout)
    (stream : Stream) : Traced PostingList :=
  if layout = .skipPointers 0 then
    .fail (.argument (.noSkipPointers "layout"))
  else do
    let (announced, list, rest) ←
      .ofExcept (readLinesWith makeRoom layout stream.lines)
    reportIgnored announced rest
    let arranged ← list.arrange layout
    .report (.loaded announced layout)
    return arranged

/-- Load a list in the given layout from a stream. -/
def load : Layout → Stream → Traced PostingList :=
  loadWith PostingList.withCapacity

theorem readLines_cons (layout : Layout) (header : Line)
    (lines : List Line) :
    readLines layout (header :: lines) = (do
      let text ← header.text
      let announced ← (readCount text).mapError .format
      let room ← (PostingList.withCapacity
        (reservation announced layout)).mapError .fault
      let (list, rest) ← addLines announced 0 room lines
      return (announced, list, rest)) := rfl

theorem load_eq (layout : Layout) (stream : Stream) :
    load layout stream =
      if layout = .skipPointers 0 then
        .fail (.argument (.noSkipPointers "layout"))
      else do
        let (announced, list, rest) ←
          .ofExcept (readLines layout stream.lines)
        reportIgnored announced rest
        let arranged ← list.arrange layout
        .report (.loaded announced layout)
        return arranged := rfl

end PostingFile

end Postings
