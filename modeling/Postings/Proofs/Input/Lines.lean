import Postings.Input.Stream

/-!
# The lines of a stream

The reader collects lines from read to read.  It finds the lines that the
bytes and failures of the stream have when they come one by one, so the
places where the stream is divided or interrupted play no part.

`CutsInto` says which lines a sequence of bytes has, without reading it from
left to right.  Every sequence can be cut in this way, and the reader finds
the lines of the cut.

`BreaksInto` says the same of a stream that may fail.  A failure stands for
the line that it broke off.
-/

namespace Postings

namespace Stream

/-! ## One signal after the other -/

/-- What a stream delivers, byte by byte. -/
inductive Signal where
  | byte (value : UInt8)
  | failure (cause : ReadError)
  deriving DecidableEq

def readSignals : Read → List Signal
  | .data bytes => bytes.map .byte
  | .failure cause => [.failure cause]
  | .interrupted => []

/-- The bytes and failures of a stream, in order. -/
def signals (stream : Stream) : List Signal :=
  stream.flatMap readSignals

theorem signals_append (front back : Stream) :
    signals (front ++ back) = front.signals ++ back.signals :=
  List.flatMap_append

theorem signals_cons (read : Read) (reads : Stream) :
    signals (read :: reads) = readSignals read ++ reads.signals :=
  List.flatMap_cons

/-- The lines of the remaining signals.  The bytes of the line begun so far
are given with the last byte first. -/
def linesFrom (begun : List UInt8) : List Signal → List Line
  | [] => if begun.isEmpty then [] else [Line.ofBytes begun.reverse]
  | .failure cause :: rest => .error cause :: linesFrom [] rest
  | .byte value :: rest =>
      if value = lineFeed then
        Line.ofBytes (endedBytes begun) :: linesFrom [] rest
      else
        linesFrom (value :: begun) rest

/-- The bytes of one read give the lines that end within them, and leave the
line begun to what comes after them. -/
theorem linesFrom_bytes_append (bytes begun : List UInt8)
    (rest : List Signal) :
    linesFrom begun (bytes.map .byte ++ rest) =
      (feed begun bytes).1 ++ linesFrom (feed begun bytes).2 rest := by
  induction bytes generalizing begun with
  | nil => rfl
  | cons value bytes ih =>
      rw [List.map_cons, List.cons_append, linesFrom, feed]
      by_cases fed : value = lineFeed
      · rw [if_pos fed, if_pos fed, ih []]
        rfl
      · rw [if_neg fed, if_neg fed, ih (value :: begun)]

theorem linesAfter_eq_linesFrom (reads : List Read) (begun : List UInt8) :
    linesAfter begun reads = linesFrom begun (signals reads) := by
  induction reads generalizing begun with
  | nil => rfl
  | cons read reads ih =>
      cases read with
      | data bytes =>
          change (feed begun bytes).1 ++ linesAfter (feed begun bytes).2
            reads = linesFrom begun (bytes.map .byte ++ signals reads)
          rw [linesFrom_bytes_append, ih]
      | failure cause =>
          change .error cause :: linesAfter [] reads =
            .error cause :: linesFrom [] (signals reads)
          rw [ih]
      | interrupted => exact ih begun

theorem lines_eq_linesFrom (stream : Stream) :
    stream.lines = linesFrom [] stream.signals :=
  linesAfter_eq_linesFrom stream []

/-! ## Cutting -/

/-- The bytes are the given lines with their endings.  A line feed ends a
line, a carriage return right before it belongs to the ending, and the last
line may lack its ending. -/
inductive CutsInto : List UInt8 → List (List UInt8) → Prop where
  | nothing : CutsInto [] []
  | unended {line : List UInt8} :
      line ≠ [] → lineFeed ∉ line → CutsInto line [line]
  | ended {line rest : List UInt8} {lines : List (List UInt8)} :
      lineFeed ∉ line → line.getLast? ≠ some carriageReturn →
      CutsInto rest lines →
      CutsInto (line ++ lineFeed :: rest) (line :: lines)
  | returned {line rest : List UInt8} {lines : List (List UInt8)} :
      lineFeed ∉ line → CutsInto rest lines →
      CutsInto (line ++ carriageReturn :: lineFeed :: rest) (line :: lines)

/-- A stream whose reads all succeed, apart from interruptions. -/
def Unfailing (stream : Stream) : Prop :=
  ∀ cause, Read.failure cause ∉ stream

def readBytes : Read → List UInt8
  | .data bytes => bytes
  | _ => []

def bytes (stream : Stream) : List UInt8 :=
  stream.flatMap readBytes

theorem signals_of_unfailing {stream : Stream}
    (unfailing : stream.Unfailing) :
    stream.signals = stream.bytes.map .byte := by
  induction stream with
  | nil => rfl
  | cons read stream ih =>
      have later : Unfailing stream := fun cause member =>
        unfailing cause (List.mem_cons_of_mem read member)
      have first : readSignals read = (readBytes read).map .byte := by
        cases read with
        | data bytes => rfl
        | failure cause => exact absurd List.mem_cons_self (unfailing cause)
        | interrupted => rfl
      have rest : stream.flatMap readSignals =
          (stream.flatMap readBytes).map .byte := ih later
      simp only [signals, bytes, List.flatMap_cons, List.map_append, first,
        rest]

theorem linesFrom_append {line : List UInt8} (noFeed : lineFeed ∉ line)
    (begun : List UInt8) (rest : List Signal) :
    linesFrom begun (line.map .byte ++ rest) =
      linesFrom (line.reverse ++ begun) rest := by
  induction line generalizing begun with
  | nil => rfl
  | cons byte line ih =>
      rw [List.mem_cons, not_or] at noFeed
      rw [List.map_cons, List.cons_append, linesFrom,
        if_neg (Ne.symm noFeed.1), ih noFeed.2]
      simp

theorem endedBytes_reverse {line : List UInt8}
    (noReturn : line.getLast? ≠ some carriageReturn) :
    endedBytes line.reverse = line := by
  rcases List.eq_nil_or_concat line with rfl | ⟨front, last, rfl⟩
  · rfl
  · rw [List.concat_eq_append] at noReturn ⊢
    have notReturn : last ≠ carriageReturn := by
      simpa using noReturn
    rw [List.reverse_append, List.reverse_singleton, List.singleton_append,
      endedBytes, if_neg notReturn, List.reverse_cons, List.reverse_reverse]

theorem linesFrom_ended {line : List UInt8} (noFeed : lineFeed ∉ line)
    (rest : List UInt8) :
    linesFrom [] ((line ++ lineFeed :: rest).map .byte) =
      Line.ofBytes (endedBytes line.reverse) ::
        linesFrom [] (rest.map .byte) := by
  rw [List.map_append, linesFrom_append noFeed, List.append_nil,
    List.map_cons, linesFrom, if_pos rfl]

theorem CutsInto.linesFrom_eq {bytes : List UInt8}
    {lines : List (List UInt8)} (cuts : CutsInto bytes lines) :
    linesFrom [] (bytes.map .byte) = lines.map Line.ofBytes := by
  induction cuts with
  | nothing => rfl
  | unended present noFeed =>
      rename_i line
      have read := linesFrom_append noFeed [] []
      rw [List.append_nil, List.append_nil] at read
      rw [read, linesFrom, if_neg (by simpa using present),
        List.reverse_reverse]
      rfl
  | ended noFeed noReturn _ ih =>
      rw [linesFrom_ended noFeed, endedBytes_reverse noReturn, ih]
      rfl
  | returned noFeed _ ih =>
      rename_i line rest lines _
      have noFeedReturned : lineFeed ∉ line ++ [carriageReturn] := by
        simpa [lineFeed, carriageReturn] using noFeed
      have read := linesFrom_ended noFeedReturned rest
      rw [List.append_assoc, List.singleton_append] at read
      rw [read, List.reverse_append, List.reverse_singleton,
        List.singleton_append, endedBytes, if_pos rfl,
        List.reverse_reverse, ih]
      rfl

theorem exists_cutsInto (bytes : List UInt8) :
    ∃ lines, CutsInto bytes lines := by
  induction length : bytes.length using Nat.strongRecOn
    generalizing bytes with
  | ind size ih =>
      by_cases fed : lineFeed ∈ bytes
      · obtain ⟨line, rest, rfl, noFeed⟩ := List.eq_append_cons_of_mem fed
        have fewer : rest.length < size := by
          simp at length
          omega
        obtain ⟨lines, cuts⟩ := ih rest.length fewer rest rfl
        by_cases noReturn : line.getLast? = some carriageReturn
        · obtain ⟨front, rfl⟩ := List.getLast?_eq_some_iff.mp noReturn
          rw [List.mem_append, not_or] at noFeed
          refine ⟨front :: lines, ?_⟩
          rw [List.append_assoc, List.singleton_append]
          exact .returned noFeed.1 cuts
        · exact ⟨line :: lines, .ended noFeed noReturn cuts⟩
      · cases bytes with
        | nil => exact ⟨[], .nothing⟩
        | cons byte bytes => exact ⟨_, .unended (by simp) fed⟩

theorem lines_of_cutsInto {stream : Stream} (unfailing : stream.Unfailing)
    {lines : List (List UInt8)} (cuts : CutsInto stream.bytes lines) :
    stream.lines = lines.map Line.ofBytes := by
  rw [lines_eq_linesFrom, signals_of_unfailing unfailing, cuts.linesFrom_eq]

/-! ## Failures between the bytes -/

/-- No line of the bytes lacks its ending. -/
def AllEnded (bytes : List UInt8) : Prop :=
  ∀ last ∈ bytes.getLast?, last = lineFeed

/-- The signals are the given lines, up to the end or to the first failure
and from there on.  A failure comes in the place of the line that was begun
when it occurred. -/
inductive BreaksInto : List Signal → List Line → Prop where
  | unfailing {bytes : List UInt8} {lines : List (List UInt8)} :
      CutsInto bytes lines →
      BreaksInto (bytes.map .byte) (lines.map Line.ofBytes)
  | failed {bytes begun : List UInt8} {lines : List (List UInt8)}
      {cause : ReadError} {rest : List Signal} {later : List Line} :
      CutsInto bytes lines → AllEnded bytes → lineFeed ∉ begun →
      BreaksInto rest later →
      BreaksInto ((bytes ++ begun).map .byte ++ .failure cause :: rest)
        (lines.map Line.ofBytes ++ .error cause :: later)

/-- A line feed ends what was begun, so the lines after it do not depend on
what stands before it. -/
theorem linesFrom_append_fed (front rest : List Signal)
    (begun : List UInt8) :
    linesFrom begun (front ++ .byte lineFeed :: rest) =
      linesFrom begun (front ++ [.byte lineFeed]) ++ linesFrom [] rest := by
  induction front generalizing begun with
  | nil => simp [linesFrom]
  | cons signal front ih =>
      cases signal with
      | failure cause =>
          simp only [List.cons_append, linesFrom, ih]
      | byte value =>
          simp only [List.cons_append, linesFrom, ih]
          split
          · rfl
          · rfl

theorem linesFrom_append_of_allEnded {bytes : List UInt8}
    (ended : AllEnded bytes) (rest : List Signal) :
    linesFrom [] (bytes.map .byte ++ rest) =
      linesFrom [] (bytes.map .byte) ++ linesFrom [] rest := by
  rcases List.eq_nil_or_concat bytes with rfl | ⟨front, last, rfl⟩
  · rfl
  · have fed : last = lineFeed := ended last (by simp)
    subst fed
    rw [List.concat_eq_append, List.map_append, List.append_assoc]
    exact linesFrom_append_fed (front.map .byte) rest []

theorem BreaksInto.linesFrom_eq {signals : List Signal} {lines : List Line}
    (breaks : BreaksInto signals lines) : linesFrom [] signals = lines := by
  induction breaks with
  | unfailing cuts => exact cuts.linesFrom_eq
  | failed cuts ended noFeed _ ih =>
      rw [List.map_append, List.append_assoc,
        linesFrom_append_of_allEnded ended, cuts.linesFrom_eq,
        linesFrom_append noFeed, linesFrom, ih]

theorem exists_allEnded_append (bytes : List UInt8) :
    ∃ front begun, bytes = front ++ begun ∧ AllEnded front ∧
      lineFeed ∉ begun := by
  by_cases fed : lineFeed ∈ bytes.reverse
  · obtain ⟨begun, front, reversed, noFeed⟩ :=
      List.eq_append_cons_of_mem fed
    refine ⟨front.reverse ++ [lineFeed], begun.reverse, ?_, ?_, ?_⟩
    · rw [← List.reverse_reverse bytes, reversed]
      simp
    · intro last isLast
      simpa using isLast.symm
    · simpa using noFeed
  · exact ⟨[], bytes, rfl, by simp [AllEnded], by simpa using fed⟩

theorem exists_first_failure (signals : List Signal) :
    (∃ bytes : List UInt8, signals = bytes.map .byte) ∨
      ∃ (bytes : List UInt8) (cause : ReadError) (rest : List Signal),
        signals = bytes.map .byte ++ .failure cause :: rest := by
  induction signals with
  | nil => exact .inl ⟨[], rfl⟩
  | cons signal signals ih =>
      cases signal with
      | failure cause => exact .inr ⟨[], cause, signals, rfl⟩
      | byte value =>
          rcases ih with ⟨bytes, rfl⟩ | ⟨bytes, cause, rest, rfl⟩
          · exact .inl ⟨value :: bytes, rfl⟩
          · exact .inr ⟨value :: bytes, cause, rest, rfl⟩

theorem exists_breaksInto (signals : List Signal) :
    ∃ lines, BreaksInto signals lines := by
  induction length : signals.length using Nat.strongRecOn
    generalizing signals with
  | ind size ih =>
      rcases exists_first_failure signals with
        ⟨bytes, rfl⟩ | ⟨bytes, cause, rest, rfl⟩
      · obtain ⟨lines, cuts⟩ := exists_cutsInto bytes
        exact ⟨_, .unfailing cuts⟩
      · have fewer : rest.length < size := by
          simp at length
          omega
        obtain ⟨later, restBreaks⟩ := ih rest.length fewer rest rfl
        obtain ⟨front, begun, rfl, ended, noFeed⟩ :=
          exists_allEnded_append bytes
        obtain ⟨lines, cuts⟩ := exists_cutsInto front
        exact ⟨_, .failed cuts ended noFeed restBreaks⟩

/-- What follows bytes with nothing but ended lines has the lines that it
has alone. -/
theorem lines_append_of_allEnded {base : Stream}
    (unfailing : base.Unfailing) (ended : AllEnded base.bytes)
    (more : Stream) : lines (base ++ more) = base.lines ++ more.lines := by
  rw [lines_eq_linesFrom, lines_eq_linesFrom, lines_eq_linesFrom,
    signals_append, signals_of_unfailing unfailing]
  exact linesFrom_append_of_allEnded ended more.signals

end Stream

/-! ## The text of a line -/

theorem Line.ofBytes_eq_ok {bytes : List UInt8} {text : String} :
    Line.ofBytes bytes = .ok text ↔ text.toUTF8 = bytes.toByteArray := by
  unfold Line.ofBytes String.fromUTF8?
  by_cases valid : bytes.toByteArray.IsValidUTF8
  · rw [dif_pos valid]
    constructor
    · intro read
      cases read
      rfl
    · intro encoded
      have same : String.fromUTF8 bytes.toByteArray valid = text :=
        String.toByteArray_inj.mp encoded.symm
      simp only [same]
  · rw [dif_neg valid]
    constructor
    · intro read
      cases read
    · intro encoded
      exact absurd (encoded ▸ text.isValidUTF8) valid

end Postings
