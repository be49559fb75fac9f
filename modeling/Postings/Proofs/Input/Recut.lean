import Mathlib.Logic.Relation
import Postings.Input.PostingFile
import Postings.Proofs.Input.Lines

/-!
# Where a stream is cut

The reads of a stream may be cut anywhere: inside a number, inside a
character, or between the two bytes of a line ending.  There may be empty
chunks among them, which are never handed on as reads, and reads may be
interrupted.  `Recut` relates the streams that differ in such cuts only.
They are the streams with the same signals.

Loading does not see the difference.  The list or the failure is the same,
and so is what is reported on the way.
-/

namespace Postings

namespace Stream

/-- One change of the cuts: a chunk is divided in two, or an empty chunk or an
interruption is left out. -/
inductive Cut : Stream → Stream → Prop where
  | divided (front : Stream) (bytes more : List UInt8) (back : Stream) :
      Cut (front ++ .data (bytes ++ more) :: back)
        (front ++ .data bytes :: .data more :: back)
  | withoutEmpty (front back : Stream) :
      Cut (front ++ .data [] :: back) (front ++ back)
  | withoutInterrupted (front back : Stream) :
      Cut (front ++ .interrupted :: back) (front ++ back)

/-- The streams differ in their cuts only.  Any number of changes may have
been made, in either direction. -/
def Recut : Stream → Stream → Prop :=
  Relation.EqvGen Cut

theorem Cut.signals_eq {first second : Stream} (cut : Cut first second) :
    first.signals = second.signals := by
  cases cut with
  | divided front bytes more back =>
      simp [signals_append, signals_cons, readSignals]
  | withoutEmpty front back =>
      simp [signals_append, signals_cons, readSignals]
  | withoutInterrupted front back =>
      simp [signals_append, signals_cons, readSignals]

namespace Recut

theorem signals_eq {first second : Stream} (recut : Recut first second) :
    first.signals = second.signals := by
  induction recut with
  | rel first second cut => exact cut.signals_eq
  | refl stream => rfl
  | symm first second _ ih => exact ih.symm
  | trans first second third _ _ firstIh secondIh =>
      exact firstIh.trans secondIh

theorem cons (read : Read) {first second : Stream}
    (recut : Recut first second) :
    Recut (read :: first) (read :: second) := by
  induction recut with
  | rel first second cut =>
      apply Relation.EqvGen.rel
      cases cut with
      | divided front bytes more back =>
          exact .divided (read :: front) bytes more back
      | withoutEmpty front back =>
          exact .withoutEmpty (read :: front) back
      | withoutInterrupted front back =>
          exact .withoutInterrupted (read :: front) back
  | refl stream => exact .refl (read :: stream)
  | symm first second _ ih => exact .symm _ _ ih
  | trans first second third _ _ firstIh secondIh =>
      exact .trans _ _ _ firstIh secondIh

end Recut

/-! ## The finest cut -/

/-- The read that brings one signal. -/
def Signal.read : Signal → Read
  | .byte value => .data [value]
  | .failure cause => .failure cause

theorem recut_singly_bytes (bytes : List UInt8) {reads : Stream}
    {rest : List Signal} (recut : Recut reads (rest.map Signal.read)) :
    Recut (.data bytes :: reads)
      ((bytes.map Signal.byte ++ rest).map Signal.read) := by
  induction bytes with
  | nil =>
      apply Relation.EqvGen.trans _ reads _
      · exact .rel _ _ (.withoutEmpty [] reads)
      · exact recut
  | cons value bytes ih =>
      apply Relation.EqvGen.trans _
        (.data [value] :: .data bytes :: reads) _
      · exact .rel _ _ (.divided [] [value] bytes reads)
      · exact ih.cons (.data [value])

theorem recut_singly (stream : Stream) :
    Recut stream (stream.signals.map Signal.read) := by
  induction stream with
  | nil => exact .refl []
  | cons read reads ih =>
      rw [signals_cons]
      cases read with
      | data bytes => exact recut_singly_bytes bytes ih
      | failure cause => exact ih.cons (.failure cause)
      | interrupted =>
          apply Relation.EqvGen.trans _ reads _
          · exact .rel _ _ (.withoutInterrupted [] reads)
          · exact ih

/-- Streams differ in their cuts only if they bring the same bytes and
failures in the same order. -/
theorem recut_iff {first second : Stream} :
    Recut first second ↔ first.signals = second.signals := by
  constructor
  · exact Recut.signals_eq
  · intro same
    have firstSingly := recut_singly first
    rw [same] at firstSingly
    exact .trans _ _ _ firstSingly (.symm _ _ (recut_singly second))

theorem Recut.lines_eq {first second : Stream}
    (recut : Recut first second) : first.lines = second.lines := by
  rw [lines_eq_linesFrom, lines_eq_linesFrom, recut.signals_eq]

end Stream

namespace PostingFile

/-- Streams that differ in their cuts only are loaded alike in every layout,
with the same outcome and the same reports. -/
theorem load_ignores_cuts {first second : Stream}
    (recut : Stream.Recut first second) (layout : Layout) :
    load layout first = load layout second := by
  rw [load_eq, load_eq, recut.lines_eq]

/-- A file with one posting and two more lines.  The first of them breaks
off, the other one is an ideographic space. -/
def wholeSample : Stream :=
  [.data [49, 13, 10, 53, 32, 49, 50, 10, 57], .failure (.device "lost"),
   .data [227, 128, 128, 10]]

/-- The same file, cut between the bytes of a line ending, inside a number
and inside a character. -/
def recutSample : Stream :=
  [.data [49, 13], .interrupted, .data [10, 53, 32, 49], .data [],
   .data [50, 10, 57], .failure (.device "lost"), .data [227], .data [128],
   .interrupted, .data [128, 10]]

theorem load_ignores_cuts_sample :
    load .sentinel recutSample =
      { outcome := .ok (PostingList.pushSentinel
          { ids := #[5], scores := #[12], skips := .empty }),
        events := [.ignoredLines 1 1, .loaded 1 .sentinel] } := by
  have recut : Stream.Recut recutSample wholeSample :=
    Stream.recut_iff.mpr rfl
  rw [load_ignores_cuts recut]
  rfl

end PostingFile

end Postings
