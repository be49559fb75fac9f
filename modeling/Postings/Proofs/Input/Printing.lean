import Postings.Command.Intersect
import Postings.Proofs.Input.PostingFile

/-!
# Loading undoes printing

The lines that the intersect program prints for some postings are, after a
line with their number, a file of these postings.  Loading gives them back
whatever blanks stand between the two numbers of a line and whether or not a
carriage return belongs to the line ends.
-/

namespace Postings

/-! ## Texts as bytes -/

namespace Text

def bytes (text : String) : List UInt8 :=
  text.toUTF8.data.toList

theorem bytes_eq_flatMap (text : String) :
    bytes text = text.toList.flatMap String.utf8EncodeChar := by
  rw [bytes, String.toUTF8_eq_toByteArray, ← String.utf8Encode_toList,
    List.utf8Encode, List.toList_data_toByteArray]

theorem bytes_append (front back : String) :
    bytes (front ++ back) = bytes front ++ bytes back := by
  simp [bytes_eq_flatMap]

/-- A byte below 128 stands for a character of its own. -/
theorem toNat_of_mem_utf8EncodeChar {character : Char} {byte : UInt8}
    (member : byte ∈ String.utf8EncodeChar character)
    (single : byte.toNat < 128) : character.toNat = byte.toNat := by
  have value : character.val.toNat = character.toNat := rfl
  simp only [String.utf8EncodeChar, value] at member
  split at member
  · rw [List.mem_singleton.mp member, UInt8.toNat_ofNat']
    omega
  · have high : 128 ≤ byte.toNat := by
      split at member
      · simp only [List.mem_cons, List.not_mem_nil, or_false] at member
        rcases member with rfl | rfl <;> rw [UInt8.toNat_ofNat'] <;> omega
      · split at member
        · simp only [List.mem_cons, List.not_mem_nil, or_false] at member
          rcases member with rfl | rfl | rfl <;>
            rw [UInt8.toNat_ofNat'] <;> omega
        · simp only [List.mem_cons, List.not_mem_nil, or_false] at member
          rcases member with rfl | rfl | rfl | rfl <;>
            rw [UInt8.toNat_ofNat'] <;> omega
    omega

theorem lineFeed_notMem_bytes {text : String}
    (noFeed : '\n' ∉ text.toList) : Stream.lineFeed ∉ bytes text := by
  rw [bytes_eq_flatMap, List.mem_flatMap]
  rintro ⟨character, member, encoded⟩
  have code := toNat_of_mem_utf8EncodeChar encoded (by decide)
  have isFeed : character = '\n' := Char.toNat_inj.mp code
  rw [isFeed] at member
  exact noFeed member

theorem getLast?_bytes_ne {text : String}
    (noReturn : text.toList.getLast? ≠ some '\r') :
    (bytes text).getLast? ≠ some Stream.carriageReturn := by
  intro ends
  rw [bytes_eq_flatMap] at ends
  rcases List.eq_nil_or_concat text.toList with
    nothing | ⟨front, last, whole⟩
  · simp [nothing] at ends
  · rw [List.concat_eq_append] at whole
    rw [whole, List.flatMap_append, List.flatMap_singleton,
      List.getLast?_append_of_ne_nil _ String.utf8EncodeChar_ne_nil] at ends
    have code := toNat_of_mem_utf8EncodeChar (List.mem_of_getLast? ends)
      (by decide)
    have isReturn : last = '\r' := Char.toNat_inj.mp code
    simp [whole, isReturn] at noReturn

end Text

theorem Line.ofBytes_bytes (text : String) :
    Line.ofBytes (Text.bytes text) = .ok text := by
  apply Line.ofBytes_eq_ok.mpr
  apply ByteArray.ext
  simp [Text.bytes]

namespace PostingFile

open Text Decimal

/-! ## Texts in lines -/

/-- The lines as one text, each of them with the given end. -/
def inLines (ending : String) (lines : List String) : String :=
  String.join (lines.map (· ++ ending))

/-- The two ways to end a line. -/
def IsLineEnd (ending : String) : Prop :=
  ending = "\n" ∨ ending = "\r\n"

/-- A line that keeps its bytes before any line end: it has no line feed and
does not end with a carriage return. -/
structure IsLine (line : String) : Prop where
  noFeed : '\n' ∉ line.toList
  noReturn : line.toList.getLast? ≠ some '\r'

theorem inLines_cons (ending line : String) (lines : List String) :
    inLines ending (line :: lines) = line ++ ending ++ inLines ending lines := by
  simp [inLines, String.join_cons]

theorem cutsInto_inLines {ending : String} (isEnd : IsLineEnd ending)
    {lines : List String} (areLines : ∀ line ∈ lines, IsLine line) :
    Stream.CutsInto (bytes (inLines ending lines)) (lines.map bytes) := by
  induction lines with
  | nil => exact .nothing
  | cons line lines ih =>
      rw [List.forall_mem_cons] at areLines
      have rest := ih areLines.2
      have noFeed := lineFeed_notMem_bytes areLines.1.noFeed
      rw [inLines_cons, bytes_append, bytes_append, List.append_assoc,
        List.map_cons]
      rcases isEnd with rfl | rfl
      · exact .ended noFeed (getLast?_bytes_ne areLines.1.noReturn) rest
      · exact .returned noFeed rest

theorem lines_of_inLines {ending : String} (isEnd : IsLineEnd ending)
    {lines : List String} (areLines : ∀ line ∈ lines, IsLine line)
    {stream : Stream} (unfailing : stream.Unfailing)
    (delivers : stream.bytes = bytes (inLines ending lines)) :
    stream.lines = lines.map .ok := by
  have cuts := cutsInto_inLines isEnd areLines
  rw [← delivers] at cuts
  rw [Stream.lines_of_cutsInto unfailing cuts, List.map_map]
  exact List.map_congr_left fun line _ => Line.ofBytes_bytes line

/-! ## The lines of a file -/

/-- A text that may stand between the numbers of a posting. -/
structure IsGap (gap : String) : Prop where
  present : gap.toList ≠ []
  blank : AllBlank gap.toList
  noFeed : '\n' ∉ gap.toList

/-- The line of a posting with the given gap between its numbers. -/
def row (gap : String) (posting : Posting) : String :=
  writeInt64 posting.id ++ gap ++ writeInt64 posting.score

/-- The lines of a file of the postings: their number, then one line each. -/
def fileLines (gap : String) (postings : List Posting) : List String :=
  toString postings.length :: postings.map (row gap)

theorem toList_row (gap : String) (posting : Posting) :
    (row gap posting).toList =
      writeInt posting.id.toInt ++ gap.toList ++
        writeInt posting.score.toInt := by
  simp [row, writeInt64]

theorem isLine_of_solid_end {line : String} {front part : List Char}
    (whole : line.toList = front ++ part) (solid : Solid part)
    (noFeed : '\n' ∉ front) : IsLine line where
  noFeed := by
    rw [whole, List.mem_append, not_or]
    exact ⟨noFeed, solid.notMem (by decide)⟩
  noReturn := by
    intro ends
    rw [whole, List.getLast?_append_of_ne_nil _ solid.present] at ends
    exact solid.notMem (by decide) (List.mem_of_getLast? ends)

theorem isLine_of_mem_fileLines {gap : String} (isGap : IsGap gap)
    {postings : List Posting} :
    ∀ line ∈ fileLines gap postings, IsLine line := by
  intro line member
  rcases List.mem_cons.mp member with rfl | isRow
  · have digits := isDigits_toDigits postings.length
    have whole : (toString postings.length).toList =
        [] ++ Nat.toDigits 10 postings.length := by simp
    exact isLine_of_solid_end whole (solid_of_isDigits digits) (by simp)
  · obtain ⟨posting, _, rfl⟩ := List.mem_map.mp isRow
    have idSolid := solid_of_writesInt (writesInt_writeInt posting.id.toInt)
    have scoreSolid :=
      solid_of_writesInt (writesInt_writeInt posting.score.toInt)
    apply isLine_of_solid_end (toList_row gap posting) scoreSolid
    rw [List.mem_append, not_or]
    exact ⟨idSolid.notMem (by decide), isGap.noFeed⟩

theorem announces_toString {count : Nat} (small : count < UInt64.size) :
    Announces (toString count) count := by
  refine ⟨small, [], Nat.toDigits 10 count, [], ?_, ?_,
    .unsigned (isDigits_toDigits count), ?_⟩
  · simp [AllBlank]
  · simp [AllBlank]
  · simp

theorem writesPosting_row {gap : String} (isGap : IsGap gap)
    (posting : Posting) : WritesPosting (row gap posting) posting := by
  refine ⟨[], writeInt posting.id.toInt, gap.toList,
    writeInt posting.score.toInt, [], ?_, isGap.blank, ?_, isGap.present,
    writesInt_writeInt _, writesInt_writeInt _, ?_⟩
  · simp [AllBlank]
  · simp [AllBlank]
  · simp [toList_row]

/-! ## Whole files -/

/-- An id leaves at least as much room below the reserved one as there are
postings after it. -/
theorem toInt_add_length_lt {head : Posting} {tail : List Posting}
    (increasing : Increasing (head :: tail))
    (real : ∀ posting ∈ head :: tail, posting.id < sentinelId) :
    head.id.toInt + tail.length < sentinelId.toInt := by
  induction tail generalizing head with
  | nil =>
      have below := Int64.lt_iff_toInt_lt.mp (real head List.mem_cons_self)
      simpa using below
  | cons next tail ih =>
      have later := ih increasing.tail (List.forall_mem_cons.mp real).2
      have ordered := Int64.lt_iff_toInt_lt.mp
        (increasing.head_lt next List.mem_cons_self)
      rw [List.length_cons]
      omega

/-- There are fewer ids than a count can announce. -/
theorem length_lt_of_increasing {postings : List Posting}
    (increasing : Increasing postings)
    (real : ∀ posting ∈ postings, posting.id < sentinelId) :
    postings.length < UInt64.size := by
  cases postings with
  | nil => decide
  | cons head tail =>
      have bounded := toInt_add_length_lt increasing real
      have lowest := head.id.le_toInt
      have top : sentinelId.toInt = 9223372036854775807 := by decide
      have size : UInt64.size = 18446744073709551616 := rfl
      rw [size, List.length_cons]
      omega

theorem load_plain_of_readLines {stream : Stream} {announced : Nat}
    {list : PostingList}
    (read : readLines .plain stream.lines = .ok (announced, list, [])) :
    load .plain stream =
      { outcome := .ok list, events := [.loaded announced .plain] } := by
  rw [load_eq, if_neg (by simp), read]
  rfl

/-- Loading the text gives the postings, however the reads cut it, and
reports nothing but that it did. -/
def LoadsTo (text : String) (postings : List Posting) : Prop :=
  ∀ stream : Stream, stream.Unfailing → stream.bytes = bytes text →
    load .plain stream =
      { outcome := .ok (.bare postings),
        events := [.loaded postings.length .plain] }

theorem fileLines_loadsTo {gap ending : String} (isGap : IsGap gap)
    (isEnd : IsLineEnd ending) {postings : List Posting}
    (increasing : Increasing postings)
    (real : ∀ posting ∈ postings, posting.id < sentinelId) :
    LoadsTo (inLines ending (fileLines gap postings)) postings := by
  intro stream unfailing delivers
  apply load_plain_of_readLines
  rw [lines_of_inLines isEnd (isLine_of_mem_fileLines isGap) unfailing
    delivers, fileLines, List.map_cons, List.map_map]
  apply readLines_eq_ok.mpr
  refine ⟨toString postings.length, postings.map (.ok ∘ row gap), postings,
    ?_, announces_toString (length_lt_of_increasing increasing real), rfl,
    ?_, increasing, ?_, rfl⟩
  · rw [List.append_nil]
  · rw [List.forall₂_map_left_iff, List.forall₂_same]
    intro posting _
    exact ⟨row gap posting, rfl, writesPosting_row isGap posting⟩
  · intro posting member
    exact Int64.ne_of_lt (real posting member)

/-- What is printed for some postings can be loaded again, and so it can with
other blanks between the numbers and with other line ends. -/
theorem load_undoes_printing {postings : List Posting}
    (increasing : Increasing postings)
    (real : ∀ posting ∈ postings, posting.id < sentinelId) :
    LoadsTo
        (inLines "\n" (toString postings.length ::
          postings.map IntersectCommand.outputLine)) postings ∧
      ∀ gap ending, IsGap gap → IsLineEnd ending →
        LoadsTo (inLines ending (fileLines gap postings)) postings := by
  constructor
  · have tab : IsGap "\t" :=
      { present := by decide
        blank := by simp [AllBlank, isBlank, blankRanges]
        noFeed := by decide }
    exact fileLines_loadsTo tab (.inl rfl) increasing real
  · intro gap ending isGap isEnd
    exact fileLines_loadsTo isGap isEnd increasing real

/-- Postings with the extreme ids and scores. -/
def printedSample : List Posting :=
  [⟨-9223372036854775808, 9223372036854775807⟩, ⟨0, -1⟩,
   ⟨9223372036854775806, -9223372036854775808⟩]

theorem load_undoes_printing_sample :
    load .plain
        [.data (bytes (inLines "\n" (toString printedSample.length ::
          printedSample.map IntersectCommand.outputLine)))] =
      { outcome := .ok (.bare printedSample), events := [.loaded 3 .plain] } ∧
    load .plain
        [.interrupted,
         .data (bytes (inLines "\r\n"
           (fileLines "\r\u00a0" printedSample)))] =
      { outcome := .ok (.bare printedSample),
        events := [.loaded 3 .plain] } := by
  have increasing : Increasing printedSample := by decide
  have real : ∀ posting ∈ printedSample, posting.id < sentinelId := by
    decide
  have isGap : IsGap "\r\u00a0" :=
    { present := by decide
      blank := by simp [AllBlank, isBlank, blankRanges]
      noFeed := by decide }
  obtain ⟨printed, other⟩ := load_undoes_printing increasing real
  constructor
  · apply printed
    · simp [Stream.Unfailing]
    · simp [Stream.bytes, Stream.readBytes]
  · apply other _ _ isGap (.inr rfl)
    · simp [Stream.Unfailing]
    · simp [Stream.bytes, Stream.readBytes]

end PostingFile

end Postings
