import Postings.Input.PostingFile
import Postings.Proofs.Input.Lines
import Postings.Proofs.PostingList.Invariant
import Postings.Proofs.Text.Blank
import Postings.Proofs.Text.Decimal

/-!
# The grammar of posting files

`IsFileOf` says which bytes are a file of which postings, from the cut into
lines down to the digits of the numerals.  Loading accepts exactly these
files, and the list it returns holds the postings of the file.
-/

namespace Postings

namespace PostingFile

open Text Decimal

/-! ## The grammar -/

/-- A header: a count between blanks. -/
def Announces (text : String) (count : Nat) : Prop :=
  count < UInt64.size ∧
    ∃ before numeral after, AllBlank before ∧ AllBlank after ∧
      WritesNat numeral count ∧ text.toList = before ++ numeral ++ after

/-- A posting line: an id and a score with blanks between them and perhaps
around them. -/
def WritesPosting (text : String) (posting : Posting) : Prop :=
  ∃ lead id gap score trail,
    AllBlank lead ∧ AllBlank gap ∧ AllBlank trail ∧ gap ≠ [] ∧
      WritesInt id posting.id.toInt ∧ WritesInt score posting.score.toInt ∧
      text.toList = lead ++ id ++ gap ++ score ++ trail

/-- The bytes encode a text with the given property. -/
def Encodes (property : String → Prop) (bytes : List UInt8) : Prop :=
  ∃ text : String, text.toUTF8 = bytes.toByteArray ∧ property text

/-- The bytes are a file of the postings: a header line that announces their
number, a line for each of them, and any further lines. -/
structure IsFileOf (bytes : List UInt8) (postings : List Posting) :
    Prop where
  lines : ∃ header rows rest,
    Stream.CutsInto bytes (header :: (rows ++ rest)) ∧
      Encodes (Announces · postings.length) header ∧
      List.Forall₂ (fun row posting => Encodes (WritesPosting · posting) row)
        rows postings
  increasing : Increasing postings
  real : ∀ posting ∈ postings, posting.id ≠ sentinelId

/-! ## Numerals have no blanks -/

theorem isBlank_of_isDigit {character : Char}
    (isDigit : character.isDigit = true) : isBlank character = false := by
  have bounds : 48 ≤ character.toNat ∧ character.toNat ≤ 57 := by
    simpa [Char.isDigit, UInt32.le_iff_toNat_le] using isDigit
  simp [isBlank, blankRanges]
  omega

theorem solid_of_isDigits {digits : List Char} {value : Nat}
    (isDigits : IsDigits digits value) : Solid digits :=
  ⟨isDigits.present, fun character member =>
    isBlank_of_isDigit (isDigits.isDigit character member)⟩

theorem solid_cons {sign : Char} (notBlank : isBlank sign = false)
    {digits : List Char} (solid : Solid digits) : Solid (sign :: digits) :=
  ⟨by simp, List.forall_mem_cons.mpr ⟨notBlank, solid.notBlank⟩⟩

theorem solid_of_writesNat {numeral : List Char} {value : Nat}
    (writes : WritesNat numeral value) : Solid numeral := by
  cases writes with
  | unsigned isDigits => exact solid_of_isDigits isDigits
  | plus isDigits => exact solid_cons (by decide) (solid_of_isDigits isDigits)

theorem solid_of_writesInt {numeral : List Char} {value : Int}
    (writes : WritesInt numeral value) : Solid numeral := by
  cases writes with
  | nonNegative writesNat => exact solid_of_writesNat writesNat
  | minus isDigits => exact solid_cons (by decide) (solid_of_isDigits isDigits)

/-! ## Lines -/

theorem readCount_eq_ok {header : String} {count : Nat} :
    readCount header = .ok count ↔ Announces header count := by
  have size : UInt64.size = wordLimit + 1 := rfl
  simp only [readCount, Outcome.mapError_eq_ok, readNat_eq_ok]
  constructor
  · rintro ⟨writes, bounded⟩
    obtain ⟨before, after, beforeBlank, afterBlank, whole⟩ :=
      exists_eq_trim header.toList
    exact ⟨by omega, before, trim header.toList, after, beforeBlank,
      afterBlank, writes, whole⟩
  · rintro ⟨bounded, before, numeral, after, beforeBlank, afterBlank,
      writes, whole⟩
    rw [whole, trim_eq_of_solid beforeBlank (solid_of_writesNat writes)
      afterBlank]
    exact ⟨writes, by omega⟩

theorem Announces.unique {text : String} {first second : Nat}
    (firstAnnounces : Announces text first)
    (secondAnnounces : Announces text second) : first = second := by
  have firstRead := readCount_eq_ok.mpr firstAnnounces
  rw [readCount_eq_ok.mpr secondAnnounces] at firstRead
  exact (Except.ok.inj firstRead).symm

theorem readPosting_of_fields {text : String} {idField scoreField : List Char}
    (fields : fields text.toList = [idField, scoreField]) (number : Nat)
    {posting : Posting} :
    readPosting number text = .ok posting ↔
      WritesInt idField posting.id.toInt ∧
        WritesInt scoreField posting.score.toInt := by
  simp only [readPosting, fields, Outcome.bind_eq_ok,
    Outcome.mapError_eq_ok, readInt64_eq_ok]
  constructor
  · rintro ⟨id, idWritten, score, scoreWritten, same⟩
    cases same
    exact ⟨idWritten, scoreWritten⟩
  · rintro ⟨idWritten, scoreWritten⟩
    exact ⟨posting.id, idWritten, posting.score, scoreWritten, rfl⟩

theorem readPosting_eq_ok {number : Nat} {text : String}
    {posting : Posting} :
    readPosting number text = .ok posting ↔ WritesPosting text posting := by
  constructor
  · intro succeeded
    have shape : ∃ idField scoreField,
        fields text.toList = [idField, scoreField] := by
      unfold readPosting at succeeded
      split at succeeded
      · exact ⟨_, _, by assumption⟩
      · cases succeeded
    obtain ⟨idField, scoreField, found⟩ := shape
    obtain ⟨idWritten, scoreWritten⟩ :=
      (readPosting_of_fields found number).mp succeeded
    obtain ⟨lead, gap, trail, leadBlank, gapBlank, trailBlank, separated, -,
      -, whole⟩ := fields_eq_pair.mp found
    exact ⟨lead, idField, gap, scoreField, trail, leadBlank, gapBlank,
      trailBlank, separated, idWritten, scoreWritten, whole⟩
  · rintro ⟨lead, idField, gap, scoreField, trail, leadBlank, gapBlank,
      trailBlank, separated, idWritten, scoreWritten, whole⟩
    have found : fields text.toList = [idField, scoreField] :=
      fields_eq_pair.mpr ⟨lead, gap, trail, leadBlank, gapBlank, trailBlank,
        separated, solid_of_writesInt idWritten,
        solid_of_writesInt scoreWritten, whole⟩
    exact (readPosting_of_fields found number).mpr
      ⟨idWritten, scoreWritten⟩

/-- A line that could be read and holds the posting. -/
def HoldsPosting (line : Line) (posting : Posting) : Prop :=
  ∃ text, line = .ok text ∧ WritesPosting text posting

theorem checkOrder_eq_ok {number : Nat} {front : List Posting}
    {posting : Posting} {done : Unit} :
    checkOrder number (.bare front) posting = .ok done ↔
      posting.id ≠ sentinelId ∧
        ∀ last ∈ front.getLast?, last.id < posting.id := by
  rw [checkOrder, PostingList.lastId?_bare]
  by_cases reserved : posting.id = sentinelId
  · simp [reserved]
  · rw [if_neg reserved]
    cases final : front.getLast? with
    | none => simp [reserved]
    | some last =>
        by_cases below : last.id < posting.id
        · simp [reserved, below]
        · simp [below]

theorem addLine_eq_ok {number : Nat} {front : List Posting} {line : Line}
    {longer : PostingList} :
    addLine number (.bare front) line = .ok longer ↔
      ∃ posting, HoldsPosting line posting ∧ posting.id ≠ sentinelId ∧
        (∀ last ∈ front.getLast?, last.id < posting.id) ∧
        longer = .bare (front ++ [posting]) := by
  simp only [addLine, Outcome.bind_eq_ok, Outcome.mapError_eq_ok,
    Line.text, readPosting_eq_ok, checkOrder_eq_ok]
  constructor
  · rintro ⟨text, read, posting, written, -, ⟨real, follows⟩, pushed⟩
    rw [PostingList.push_bare follows] at pushed
    cases pushed
    exact ⟨posting, ⟨text, read, written⟩, real, follows, rfl⟩
  · rintro ⟨posting, ⟨text, read, written⟩, real, follows, rfl⟩
    exact ⟨text, read, posting, written, (), ⟨real, follows⟩,
      PostingList.push_bare follows⟩

/-! ## Counted lines -/

theorem addLines_self (announced : Nat) (list : PostingList)
    (lines : List Line) :
    addLines announced announced list lines = .ok (list, lines) := by
  cases lines with
  | nil => rw [addLines, if_neg (Nat.lt_irrefl announced)]
  | cons line lines => rw [addLines, if_neg (Nat.lt_irrefl announced)]

theorem addLines_sound {missing found : Nat} {front : List Posting}
    {lines : List Line} {result : PostingList} {rest : List Line}
    (increasing : Increasing front)
    (succeeded : addLines (found + missing) found (.bare front) lines =
      .ok (result, rest)) :
    ∃ rows postings, lines = rows ++ rest ∧ postings.length = missing ∧
      List.Forall₂ HoldsPosting rows postings ∧
      Increasing (front ++ postings) ∧
      (∀ posting ∈ postings, posting.id ≠ sentinelId) ∧
      result = .bare (front ++ postings) := by
  induction missing generalizing found front lines with
  | zero =>
      rw [Nat.add_zero, addLines_self] at succeeded
      cases succeeded
      exact ⟨[], [], rfl, rfl, .nil, by simpa using increasing, by simp,
        by simp⟩
  | succ missing ih =>
      have more : found < found + (missing + 1) := by omega
      cases lines with
      | nil =>
          rw [addLines, if_pos more] at succeeded
          cases succeeded
      | cons line lines =>
          rw [addLines, if_pos more] at succeeded
          cases added : addLine (found + 2) (.bare front) line with
          | error failure =>
              rw [added] at succeeded
              cases succeeded
          | ok longer =>
              obtain ⟨posting, holds, real, follows, rfl⟩ :=
                addLine_eq_ok.mp added
              rw [added, Nat.add_left_comm, Nat.add_comm missing]
                at succeeded
              obtain ⟨rows, postings, rfl, rfl, rowsHold, grown, allReal,
                  rfl⟩ :=
                ih (increasing.concat_iff.mpr follows) succeeded
              rw [List.append_assoc, List.singleton_append] at grown
              exact ⟨line :: rows, posting :: postings, rfl, rfl,
                .cons holds rowsHold, grown,
                List.forall_mem_cons.mpr ⟨real, allReal⟩, by simp⟩

theorem addLines_complete {rows : List Line} {postings : List Posting}
    (holds : List.Forall₂ HoldsPosting rows postings)
    {front : List Posting} (increasing : Increasing (front ++ postings))
    (real : ∀ posting ∈ postings, posting.id ≠ sentinelId)
    (found : Nat) (rest : List Line) :
    addLines (found + postings.length) found (.bare front) (rows ++ rest) =
      .ok (.bare (front ++ postings), rest) := by
  induction holds generalizing front found with
  | nil =>
      rw [List.nil_append, List.append_nil, List.length_nil, Nat.add_zero,
        addLines_self]
  | cons first _ ih =>
      rename_i line posting rows postings _
      rw [List.forall_mem_cons] at real
      have grown : Increasing ((front ++ [posting]) ++ postings) := by
        simpa using increasing
      have frontIncreasing : Increasing front :=
        (List.pairwise_append.mp increasing).1
      have follows := frontIncreasing.concat_iff.mp
        (List.pairwise_append.mp grown).1
      have added : addLine (found + 2) (.bare front) line =
          .ok (.bare (front ++ [posting])) :=
        addLine_eq_ok.mpr ⟨posting, first, real.1, follows, rfl⟩
      have later := ih grown real.2 (found + 1)
      rw [List.append_assoc, List.singleton_append, Nat.add_assoc,
        Nat.add_comm 1] at later
      rw [List.cons_append, addLines, List.length_cons,
        if_pos (by omega), added]
      exact later

/-! ## Whole files -/

/-- A header is trusted up to a limit, with room for a sentinel beyond it. -/
theorem reservation_le (announced : Nat) (layout : Layout) :
    reservation announced layout ≤ 1024 * 1024 + 1 := by
  have trusted : min announced maxReserved ≤ maxReserved :=
    Nat.min_le_right announced maxReserved
  unfold reservation
  simp only [maxReserved] at trusted ⊢
  split
  · omega
  · omega

/-- A header is trusted with little enough room that there always is some. -/
theorem withCapacity_reservation (announced : Nat) (layout : Layout) :
    PostingList.withCapacity (reservation announced layout) =
      .ok .empty := by
  have bounded : reservation announced layout ≤ Update.maxCapacity :=
    Nat.le_trans (reservation_le announced layout) (by decide)
  rw [PostingList.withCapacity_eq, if_pos bounded]

theorem readLines_eq_ok {layout : Layout} {lines : List Line}
    {announced : Nat} {list : PostingList} {rest : List Line} :
    readLines layout lines = .ok (announced, list, rest) ↔
      ∃ header rows postings, lines = .ok header :: (rows ++ rest) ∧
        Announces header announced ∧ postings.length = announced ∧
        List.Forall₂ HoldsPosting rows postings ∧ Increasing postings ∧
        (∀ posting ∈ postings, posting.id ≠ sentinelId) ∧
        list = .bare postings := by
  constructor
  · intro succeeded
    cases lines with
    | nil => cases succeeded
    | cons line lines =>
        simp only [readLines_cons, Outcome.bind_eq_ok, Outcome.mapError_eq_ok,
          Line.text, readCount_eq_ok, withCapacity_reservation] at succeeded
        obtain ⟨header, rfl, count, announces, room, same, ⟨read, left⟩,
          added, finished⟩ := succeeded
        cases same
        cases finished
        rw [← Nat.zero_add announced] at added
        obtain ⟨rows, postings, rfl, length, holds, increasing, real,
            rfl⟩ :=
          addLines_sound (show Increasing [] from .nil) added
        exact ⟨header, rows, postings, rfl, announces, length, holds,
          increasing, real, rfl⟩
  · rintro ⟨header, rows, postings, rfl, announces, rfl, holds, increasing,
      real, rfl⟩
    have added := addLines_complete holds
      (show Increasing ([] ++ postings) from increasing) real 0 rest
    rw [Nat.zero_add] at added
    simp only [readLines_cons, Outcome.bind_eq_ok, Outcome.mapError_eq_ok,
      Line.text, readCount_eq_ok, withCapacity_reservation]
    exact ⟨header, rfl, postings.length, announces, .empty, rfl, _, added,
      rfl⟩

theorem readLines_layout (layout : Layout) (lines : List Line) :
    readLines layout lines = readLines .plain lines := by
  cases lines with
  | nil => rfl
  | cons header lines => simp only [readLines_cons, withCapacity_reservation]

theorem outcome_reportIgnored (announced : Nat) (rest : List Line) :
    (reportIgnored announced rest).outcome = .ok () := by
  simp only [reportIgnored]
  split
  · rfl
  · rfl

/-- Loading reads the lines, whatever the layout, and arranges what they
hold. -/
theorem outcome_load {layout : Layout} (usable : layout ≠ .skipPointers 0)
    (stream : Stream) :
    (load layout stream).outcome =
      readLines .plain stream.lines >>= fun read =>
        (read.2.1.arrange layout).outcome := by
  rw [load_eq, if_neg usable, readLines_layout, Traced.outcome_bind]
  congr 1
  funext ⟨announced, list, rest⟩
  rw [Traced.outcome_bind_of_ok (outcome_reportIgnored announced rest),
    Traced.outcome_bind]
  cases (list.arrange layout).outcome with
  | error failure => rfl
  | ok arranged => rfl

theorem load_eq_ok {layout : Layout} {stream : Stream}
    {loaded : PostingList} :
    (load layout stream).outcome = .ok loaded ↔
      layout ≠ .skipPointers 0 ∧
        ∃ announced list rest,
          readLines layout stream.lines = .ok (announced, list, rest) ∧
            (list.arrange layout).outcome = .ok loaded := by
  by_cases unusable : layout = .skipPointers 0
  · simp [load_eq, unusable, Traced.fail]
  · rw [outcome_load unusable, Outcome.bind_eq_ok, readLines_layout layout]
    simp only [ne_eq, unusable, not_false_eq_true, true_and, Prod.exists]

theorem holdsPosting_ofBytes {row : List UInt8} {posting : Posting} :
    HoldsPosting (Line.ofBytes row) posting ↔
      Encodes (WritesPosting · posting) row := by
  simp only [HoldsPosting, Encodes, Line.ofBytes_eq_ok]

/-- Loading accepts exactly the files of the grammar. -/
theorem load_accepts_exactly {stream : Stream}
    (unfailing : stream.Unfailing) (list : PostingList) :
    (load .plain stream).outcome = .ok list ↔
      ∃ postings, IsFileOf stream.bytes postings ∧
        list = .bare postings := by
  simp only [load_eq_ok, readLines_eq_ok]
  constructor
  · rintro ⟨-, announced, found, rest, ⟨header, rows, postings, lines,
      announces, rfl, holds, increasing, real, rfl⟩, arranged⟩
    cases arranged
    obtain ⟨cutLines, cuts⟩ := Stream.exists_cutsInto stream.bytes
    rw [Stream.lines_of_cutsInto unfailing cuts] at lines
    obtain ⟨headerBytes, laterLines, rfl, read, later⟩ :=
      List.map_eq_cons_iff.mp lines
    obtain ⟨rowLines, restLines, rfl, rfl, -⟩ :=
      List.map_eq_append_iff.mp later
    rw [List.forall₂_map_left_iff] at holds
    simp only [holdsPosting_ofBytes] at holds
    exact ⟨postings, ⟨⟨headerBytes, rowLines, restLines, cuts,
      ⟨header, Line.ofBytes_eq_ok.mp read, announces⟩, holds⟩,
      increasing, real⟩, rfl⟩
  · rintro ⟨postings, isFile, rfl⟩
    obtain ⟨header, rows, rest, cuts, ⟨text, encoded, announces⟩,
      written⟩ := isFile.lines
    have lines := Stream.lines_of_cutsInto unfailing cuts
    rw [List.map_cons, List.map_append,
      Line.ofBytes_eq_ok.mpr encoded] at lines
    have holds : List.Forall₂ HoldsPosting (rows.map Line.ofBytes)
        postings := by
      rw [List.forall₂_map_left_iff]
      simpa only [holdsPosting_ofBytes] using written
    exact ⟨by simp, postings.length, .bare postings,
      rest.map Line.ofBytes, ⟨text, rows.map Line.ofBytes, postings, lines,
        announces, rfl, holds, isFile.increasing, isFile.real, rfl⟩, rfl⟩

/-- A file of two postings in four reads: signs, leading zeros, both line
endings, a no-break space whose two bytes come in different reads, and after
the postings a byte that is no text. -/
def acceptedSample : Stream :=
  [.data [32, 43, 50, 13], .interrupted,
   .data [10, 45, 53, 9, 43, 55, 10, 49, 50, 194],
   .data [160, 45, 48, 51, 10, 255]]

theorem load_accepts_sample :
    acceptedSample.Unfailing ∧
      IsFileOf acceptedSample.bytes [⟨-5, 7⟩, ⟨12, -3⟩] := by
  have unfailing : acceptedSample.Unfailing := by
    intro cause member
    simp [acceptedSample] at member
  have loaded : (load .plain acceptedSample).outcome =
      .ok (.bare [⟨-5, 7⟩, ⟨12, -3⟩]) := by
    rfl
  obtain ⟨postings, isFile, same⟩ :=
    (load_accepts_exactly unfailing _).mp loaded
  have postingsEq := congrArg PostingList.toList same
  rw [PostingList.toList_bare, PostingList.toList_bare] at postingsEq
  rw [postingsEq]
  exact ⟨unfailing, isFile⟩

end PostingFile

end Postings
