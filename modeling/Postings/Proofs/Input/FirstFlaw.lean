import Postings.Proofs.Input.Flaw
import Postings.Proofs.Input.Loading

/-!
# Loading complains about the first flaw

Reading stops at the first line that it refuses.  A refused line is refused
for the weightiest of its defects, because the checks of a line are made in
that order, and a line that is accepted has no defect at all.  So reading
fails exactly if a file has a flaw, and with the complaint about the first
one; what follows the line of this flaw does not matter.
-/

namespace Postings

namespace PostingFile

open Text Decimal

/-! ## One posting line -/

theorem WritesPosting.fields_eq {text : String} {posting : Posting}
    (writes : WritesPosting text posting) :
    ∃ idField scoreField, fields text.toList = [idField, scoreField] ∧
      readInt64 idField = .ok posting.id ∧
      readInt64 scoreField = .ok posting.score := by
  obtain ⟨lead, idField, gap, scoreField, trail, leadBlank, gapBlank,
    trailBlank, separated, idWritten, scoreWritten, whole⟩ := writes
  refine ⟨idField, scoreField, ?_, readInt64_eq_ok.mpr idWritten,
    readInt64_eq_ok.mpr scoreWritten⟩
  exact fields_eq_pair.mpr ⟨lead, gap, trail, leadBlank, gapBlank,
    trailBlank, separated, solid_of_writesInt idWritten,
    solid_of_writesInt scoreWritten, whole⟩

theorem WritesPosting.writesId {text : String} {posting : Posting}
    (writes : WritesPosting text posting) : WritesId text posting.id := by
  obtain ⟨idField, scoreField, found, idRead, _⟩ := writes.fields_eq
  exact ⟨idField, [scoreField], found, readInt64_eq_ok.mp idRead⟩

theorem readPosting_eq_error {number : Nat} {text : String}
    {cause : FormatError}
    (failed : readPosting number text = .error cause) :
    ((fields text.toList).length ≠ 2 ∧ cause = .badFields number text) ∨
      ∃ idField scoreField, fields text.toList = [idField, scoreField] ∧
        ((∃ reason, readInt64 idField = .error reason ∧
            cause = .badId number (String.ofList idField) reason) ∨
          ∃ id reason, readInt64 idField = .ok id ∧
            readInt64 scoreField = .error reason ∧
            cause = .badScore number (String.ofList scoreField) reason) := by
  unfold readPosting at failed
  split at failed
  · rename_i idField scoreField found
    refine .inr ⟨idField, scoreField, found, ?_⟩
    simp only [Outcome.bind_eq_error, Outcome.mapError_eq_error,
      Outcome.mapError_eq_ok] at failed
    rcases failed with ⟨reason, refused, same⟩ |
      ⟨id, read, ⟨reason, refused, same⟩ | ⟨_, _, same⟩⟩
    · exact .inl ⟨reason, refused, same.symm⟩
    · exact .inr ⟨id, reason, read, refused, same.symm⟩
    · cases same
  · rename_i notPair
    cases failed
    refine .inl ⟨?_, rfl⟩
    intro pair
    obtain ⟨first, second, found⟩ := List.length_eq_two.mp pair
    exact notPair first second found

theorem checkOrder_eq_error {number : Nat} {front : List Posting}
    {posting : Posting} {cause : FormatError}
    (failed : checkOrder number (.bare front) posting = .error cause) :
    (posting.id = sentinelId ∧ cause = .reservedId number sentinelId) ∨
      posting.id ≠ sentinelId ∧ ∃ last, front.getLast? = some last ∧
        posting.id ≤ last.id ∧
        cause = .unordered number posting.id last.id := by
  rw [checkOrder, PostingList.lastId?_bare] at failed
  by_cases reserved : posting.id = sentinelId
  · rw [if_pos reserved] at failed
    cases failed
    exact .inl ⟨reserved, by rw [reserved]⟩
  · rw [if_neg reserved] at failed
    refine .inr ⟨reserved, ?_⟩
    cases final : front.getLast? with
    | none => simp [final] at failed
    | some last =>
        by_cases below : last.id < posting.id
        · simp [final, below] at failed
        · simp only [final, Option.map_some, if_neg below] at failed
          cases failed
          exact ⟨last, rfl, Int64.not_lt.mp below, rfl⟩

/-- The postings read so far end with the posting of the line before. -/
def EndsWith (front : List Posting) : Option Line → Prop
  | none => front = []
  | some line => ∃ last, front.getLast? = some last ∧ HoldsPosting line last

section Row

variable {announced index : Nat} {before : Option Line} {text : String}
  {defect : Defect} {failure : Failure} {front : List Posting}
  {posting : Posting}

theorem RowFlaw.of_pair {idField scoreField : List Char}
    (flaw : RowFlaw announced index before (some (.ok text)) defect failure)
    (found : fields text.toList = [idField, scoreField]) :
    (defect = .badId ∧ ∃ cause, readInt64 idField = .error cause) ∨
      (defect = .badScore ∧ ∃ cause, readInt64 scoreField = .error cause) ∨
      (defect = .reservedId ∧ WritesId text sentinelId) ∨
      (defect = .unordered ∧ ∃ textBefore last id,
        before = some (.ok textBefore) ∧ WritesId textBefore last ∧
          WritesId text id ∧ id ≤ last) := by
  cases flaw with
  | badFields notPair =>
      rw [found] at notPair
      exact absurd rfl notPair
  | badId foundAgain refused =>
      rw [found] at foundAgain
      cases foundAgain
      exact .inl ⟨rfl, _, refused⟩
  | badScore foundAgain refused =>
      rw [found] at foundAgain
      cases foundAgain
      exact .inr (.inl ⟨rfl, _, refused⟩)
  | reservedId writes => exact .inr (.inr (.inl ⟨rfl, writes⟩))
  | unordered writesLast writesId notAbove =>
      exact .inr (.inr (.inr ⟨rfl, _, _, _, rfl, writesLast, writesId,
        notAbove⟩))

theorem RowFlaw.of_posting
    (flaw : RowFlaw announced index before (some (.ok text)) defect failure)
    (writes : WritesPosting text posting) :
    (defect = .reservedId ∧ posting.id = sentinelId) ∨
      (defect = .unordered ∧ ∃ textBefore last,
        before = some (.ok textBefore) ∧ WritesId textBefore last ∧
          posting.id ≤ last) := by
  obtain ⟨idField, scoreField, found, idRead, scoreRead⟩ := writes.fields_eq
  rcases flaw.of_pair found with ⟨_, cause, refused⟩ | ⟨_, cause, refused⟩ |
    ⟨isDefect, reserved⟩ |
    ⟨isDefect, textBefore, last, id, isBefore, writesLast, writesId,
      notAbove⟩
  · rw [idRead] at refused
    cases refused
  · rw [scoreRead] at refused
    cases refused
  · exact .inl ⟨isDefect, writes.writesId.unique reserved⟩
  · rw [writesId.unique writes.writesId] at notAbove
    exact .inr ⟨isDefect, textBefore, last, isBefore, writesLast, notAbove⟩

/-- The weightiest defect of a posting line. -/
structure WeightiestRowFlaw (announced index : Nat)
    (before line : Option Line) (defect : Defect) (failure : Failure) :
    Prop where
  flaw : RowFlaw announced index before line defect failure
  weightiest : ∀ otherDefect otherFailure,
    RowFlaw announced index before line otherDefect otherFailure →
      defect.rank ≤ otherDefect.rank

theorem exists_weightiest_of_unread {cause : FormatError}
    (unread : readPosting (index + 2) text = .error cause) :
    ∃ defect, WeightiestRowFlaw announced index before (some (.ok text))
      defect (.format cause) := by
  rcases readPosting_eq_error unread with ⟨notPair, rfl⟩ |
    ⟨idField, scoreField, found, ⟨reason, refused, rfl⟩ |
      ⟨id, reason, idRead, refused, rfl⟩⟩
  · refine ⟨.badFields, .badFields notPair, ?_⟩
    intro otherDefect otherFailure flaw
    cases flaw <;> simp [Defect.rank]
  · refine ⟨.badId, .badId found refused, ?_⟩
    intro otherDefect otherFailure flaw
    rcases flaw.of_pair found with ⟨rfl, _⟩ | ⟨rfl, _⟩ | ⟨rfl, _⟩ |
      ⟨rfl, _⟩ <;> simp [Defect.rank]
  · refine ⟨.badScore, .badScore found refused, ?_⟩
    intro otherDefect otherFailure flaw
    rcases flaw.of_pair found with ⟨_, _, idRefused⟩ | ⟨rfl, _⟩ |
      ⟨rfl, _⟩ | ⟨rfl, _⟩
    · rw [idRead] at idRefused
      cases idRefused
    all_goals simp [Defect.rank]

theorem exists_weightiest_of_unchecked {cause : FormatError}
    (ends : EndsWith front before) (writes : WritesPosting text posting)
    (unchecked : checkOrder (index + 2) (.bare front) posting =
      .error cause) :
    ∃ defect, WeightiestRowFlaw announced index before (some (.ok text))
      defect (.format cause) := by
  rcases checkOrder_eq_error unchecked with ⟨reserved, rfl⟩ |
    ⟨real, last, final, notAbove, rfl⟩
  · have writesReserved := writes.writesId
    rw [reserved] at writesReserved
    refine ⟨.reservedId, .reservedId writesReserved, ?_⟩
    intro otherDefect otherFailure flaw
    rcases flaw.of_posting writes with ⟨rfl, _⟩ | ⟨rfl, _⟩ <;>
      simp [Defect.rank]
  · cases before with
    | none =>
        rw [ends] at final
        cases final
    | some line =>
        obtain ⟨lastAgain, finalAgain, textBefore, rfl, writesLast⟩ := ends
        rw [final] at finalAgain
        cases finalAgain
        refine ⟨.unordered,
          .unordered writesLast.writesId writes.writesId notAbove, ?_⟩
        intro otherDefect otherFailure flaw
        rcases flaw.of_posting writes with ⟨_, reserved⟩ | ⟨rfl, _⟩
        · exact absurd reserved real
        · exact Nat.le_refl _

/-- A line that is refused is refused for its weightiest defect. -/
theorem exists_weightiest_of_refused {line : Line}
    (ends : EndsWith front before)
    (refused : addLine (index + 2) (.bare front) line = .error failure) :
    ∃ defect, WeightiestRowFlaw announced index before (some line) defect
      failure := by
  simp only [addLine, Outcome.bind_eq_error, Outcome.mapError_eq_error,
    Outcome.mapError_eq_ok, Line.text] at refused
  rcases refused with ⟨cause, rfl, rfl⟩ | ⟨text, rfl, ⟨cause, unread, rfl⟩ |
    ⟨posting, read, ⟨cause, unchecked, rfl⟩ |
      ⟨done, checked, cause, pushed, _⟩⟩⟩
  · refine ⟨.unreadable, .unreadable, ?_⟩
    intro otherDefect otherFailure flaw
    cases flaw
    exact Nat.le_refl _
  · exact exists_weightiest_of_unread unread
  · exact exists_weightiest_of_unchecked ends (readPosting_eq_ok.mp read)
      unchecked
  · rw [PostingList.push_bare (checkOrder_eq_ok.mp checked).2] at pushed
    cases pushed

theorem not_rowFlaw_of_added {line : Line} {longer : PostingList}
    (ends : EndsWith front before)
    (added : addLine (index + 2) (.bare front) line = .ok longer) :
    ¬ RowFlaw announced index before (some line) defect failure := by
  intro flaw
  obtain ⟨posting, ⟨text, rfl, writes⟩, real, follows, _⟩ :=
    addLine_eq_ok.mp added
  rcases flaw.of_posting writes with ⟨_, reserved⟩ |
    ⟨_, textBefore, last, rfl, writesLast, notAbove⟩
  · exact real reserved
  · obtain ⟨posting, final, _, same, writesPosting⟩ := ends
    cases same
    rw [writesLast.unique writesPosting.writesId] at notAbove
    exact Int64.not_le.mpr (follows posting final) notAbove

end Row

/-! ## All posting lines -/

/-- No line before the one of the number has a flaw. -/
def SoundBefore (lines : List Line) (number : Nat) : Prop :=
  ∀ other defect failure, Flaw lines other defect failure → number ≤ other

/-- What an outcome says about the flaws of a file: there are none if it is a
success, and else it is the complaint about the first. -/
def Judges (lines : List Line) : Except Failure α → Prop
  | .ok _ => ∀ number defect failure, ¬ Flaw lines number defect failure
  | .error failure => ∃ number defect, FirstFlaw lines number defect failure

section Lines

variable {lines : List Line} {announced found : Nat} {defect : Defect}
  {failure : Failure}

theorem Flaw.row_of_number
    (flaw : Flaw lines (found + 2) defect failure)
    (isAnnounced : Announced lines announced) :
    found < announced ∧
      RowFlaw announced found (rowBefore? lines found) lines[found + 1]?
        defect failure := by
  cases flaw with
  | row announcedAgain wanted flaw =>
      rw [announcedAgain.unique isAnnounced] at wanted flaw
      exact ⟨wanted, flaw⟩

/-- The first flaw is found where the lines before are sound. -/
theorem WeightiestRowFlaw.firstFlaw
    (weightiest : WeightiestRowFlaw announced found
      (rowBefore? lines found) lines[found + 1]? defect failure)
    (isAnnounced : Announced lines announced) (wanted : found < announced)
    (sound : SoundBefore lines (found + 2)) :
    FirstFlaw lines (found + 2) defect failure where
  flaw := .row isAnnounced wanted weightiest.flaw
  earliest := sound
  weightiest := by
    intro otherDefect otherFailure flaw
    exact weightiest.weightiest _ _ (flaw.row_of_number isAnnounced).2

theorem SoundBefore.succ (sound : SoundBefore lines (found + 2))
    (isAnnounced : Announced lines announced)
    (flawless : ∀ defect failure, ¬ RowFlaw announced found
      (rowBefore? lines found) lines[found + 1]? defect failure) :
    SoundBefore lines (found + 3) := by
  intro number defect failure flaw
  have notBefore := sound number defect failure flaw
  apply Nat.lt_of_le_of_ne notBefore
  intro same
  rw [← same] at flaw
  exact flawless defect failure (flaw.row_of_number isAnnounced).2

/-- No line is wanted after the announced postings, so none is flawed. -/
theorem SoundBefore.not_flaw (sound : SoundBefore lines (announced + 2))
    (isAnnounced : Announced lines announced) (number : Nat) :
    ¬ Flaw lines number defect failure := by
  intro flaw
  have notBefore := sound number defect failure flaw
  obtain ⟨index, rfl⟩ := Nat.exists_eq_add_of_le notBefore
  rw [Nat.add_right_comm] at flaw
  have wanted := (flaw.row_of_number isAnnounced).1
  omega

/-- Reading the posting lines from a sound point on finds the first flaw. -/
theorem addLines_judges {front : List Posting} {rest : List Line}
    (isAnnounced : Announced lines announced) (bounded : found ≤ announced)
    (here : lines.drop (found + 1) = rest)
    (ends : EndsWith front (rowBefore? lines found))
    (sound : SoundBefore lines (found + 2)) :
    Judges lines (addLines announced found (.bare front) rest) := by
  have first : lines[found + 1]? = rest.head? := by
    rw [← here, List.head?_drop]
  induction rest generalizing found front with
  | nil =>
      by_cases more : found < announced
      · rw [addLines, if_pos more]
        refine ⟨found + 2, .absent, WeightiestRowFlaw.firstFlaw ?_
          isAnnounced more sound⟩
        rw [first]
        exact ⟨.absent, fun _ _ _ => Nat.zero_le _⟩
      · obtain rfl : found = announced := by omega
        rw [addLines_self]
        exact fun number _ _ => sound.not_flaw isAnnounced number
  | cons line rest ih =>
      by_cases more : found < announced
      · cases added : addLine (found + 2) (.bare front) line with
        | error failure =>
            rw [addLines, if_pos more, added]
            obtain ⟨defect, weightiest⟩ :=
              exists_weightiest_of_refused ends added
            refine ⟨found + 2, defect, WeightiestRowFlaw.firstFlaw ?_
              isAnnounced more sound⟩
            rwa [first]
        | ok longer =>
            rw [addLines, if_pos more, added]
            have flawless : ∀ defect failure, ¬ RowFlaw announced found
                (rowBefore? lines found) lines[found + 1]? defect
                failure := by
              intro defect failure
              rw [first]
              exact not_rowFlaw_of_added ends added
            obtain ⟨posting, holds, _, _, rfl⟩ := addLine_eq_ok.mp added
            have next : lines.drop (found + 1 + 1) = rest := by
              rw [← List.tail_drop, here]
              rfl
            refine ih more next ?_ (sound.succ isAnnounced flawless) ?_
            · change EndsWith _ lines[found + 1]?
              rw [first]
              exact ⟨posting, by simp, holds⟩
            · rw [← next, List.head?_drop]
      · obtain rfl : found = announced := by omega
        rw [addLines_self]
        exact fun number _ _ => sound.not_flaw isAnnounced number

/-! ## Whole files -/

theorem HeaderFlaw.firstFlaw (flaw : HeaderFlaw lines[0]? defect failure) :
    FirstFlaw lines 1 defect failure where
  flaw := .header flaw
  earliest := by
    intro number _ _ other
    cases other with
    | header => exact Nat.le_refl 1
    | row => omega
  weightiest := by
    intro otherDefect otherFailure other
    cases other with
    | header otherFlaw =>
        generalize lines[0]? = line at flaw otherFlaw
        cases flaw <;> cases otherFlaw <;> exact Nat.le_refl _

theorem readCount_eq_error {text : String} {cause : FormatError}
    (failed : readCount text = .error cause) :
    HeaderFlaw (some (.ok text)) .badCount (.format cause) := by
  simp only [readCount, Outcome.mapError_eq_error] at failed
  obtain ⟨reason, refused, rfl⟩ := failed
  exact .badCount refused

theorem Announced.soundBefore (isAnnounced : Announced lines announced) :
    SoundBefore lines 2 := by
  intro number defect failure flaw
  cases flaw with
  | header flaw =>
      obtain ⟨text, header, announces⟩ := isAnnounced
      rw [header] at flaw
      cases flaw with
      | badCount refused =>
          have read := readCount_eq_ok.mpr announces
          simp [readCount, refused] at read
  | row => omega

theorem readLines_of_count {text : String}
    (count : readCount text = .ok announced) (rest : List Line) :
    readLines .plain (.ok text :: rest) =
      (addLines announced 0 (.bare []) rest).map
        fun read => (announced, read) := by
  rw [readLines_cons]
  change (readCount text).mapError Failure.format >>= _ = _
  rw [count]
  change (PostingList.withCapacity
    (reservation announced .plain)).mapError Failure.fault >>= _ = _
  rw [withCapacity_reservation]
  change addLines announced 0 (.bare []) rest >>= _ = _
  cases addLines announced 0 (.bare []) rest with
  | error failure => rfl
  | ok read => rfl

theorem Judges.map {outcome : Except Failure α}
    (judges : Judges lines outcome) (function : α → β) :
    Judges lines (outcome.map function) := by
  cases outcome with
  | error failure => exact judges
  | ok value => exact judges

theorem readLines_judges (lines : List Line) :
    Judges lines (readLines .plain lines) := by
  cases lines with
  | nil => exact ⟨1, .absent, HeaderFlaw.firstFlaw .absent⟩
  | cons header rest =>
      cases header with
      | error cause =>
          exact ⟨1, .unreadable, HeaderFlaw.firstFlaw .unreadable⟩
      | ok text =>
          cases count : readCount text with
          | error cause =>
              have failed : readLines .plain (.ok text :: rest) =
                  .error (.format cause) := by
                simp [readLines_cons, Line.text, count, bind, Except.bind]
              rw [failed]
              exact ⟨1, .badCount,
                HeaderFlaw.firstFlaw (readCount_eq_error count)⟩
          | ok announced =>
              have isAnnounced : Announced (.ok text :: rest) announced :=
                ⟨text, rfl, readCount_eq_ok.mp count⟩
              have judges : Judges (.ok text :: rest)
                  (addLines announced 0 (.bare []) rest) :=
                addLines_judges isAnnounced (Nat.zero_le announced) rfl rfl
                  isAnnounced.soundBefore
              rw [readLines_of_count count]
              exact judges.map _

/-- Reading fails exactly if there is a flaw, with the complaint about the
first. -/
theorem readLines_eq_error :
    readLines .plain lines = .error failure ↔
      ∃ number defect, FirstFlaw lines number defect failure := by
  have judges := readLines_judges lines
  cases ended : readLines .plain lines with
  | ok read =>
      rw [ended] at judges
      constructor
      · intro failed
        cases failed
      · intro flawed
        obtain ⟨number, defect, isFirst⟩ := flawed
        exact absurd isFirst.flaw (judges number defect failure)
  | error cause =>
      rw [ended] at judges
      constructor
      · intro same
        cases same
        exact judges
      · intro flawed
        obtain ⟨number, defect, isFirst⟩ := flawed
        obtain ⟨_, _, isFirstToo⟩ := judges
        rw [isFirstToo.unique isFirst]

end Lines

theorem ofBytes_eq_error {bytes : List UInt8} {cause : ReadError}
    (failed : Line.ofBytes bytes = .error cause) : cause = .notUtf8 := by
  unfold Line.ofBytes at failed
  split at failed
  · cases failed
  · cases failed
    rfl

/-- Loading fails exactly if the file has a flaw, with the complaint about the
weightiest defect of the earliest flawed line.  Every file with the same lines
up to this one is refused with the same complaint. -/
theorem load_complains_about_first_flaw {layout : Layout}
    (usable : layout ≠ .skipPointers 0) {stream : Stream}
    (unfailing : stream.Unfailing) {rows : List (List UInt8)}
    (cuts : Stream.CutsInto stream.bytes rows) :
    (∀ failure,
      (load layout stream).outcome = .error failure ↔
        ∃ number defect,
          FirstFlaw (rows.map Line.ofBytes) number defect failure) ∧
      ∀ number defect failure,
        FirstFlaw (rows.map Line.ofBytes) number defect failure →
        TellsPlace (rows.map Line.ofBytes) number defect failure ∧
          ∀ other otherRows, Stream.Unfailing other →
            Stream.CutsInto other.bytes otherRows →
            otherRows.take number = rows.take number →
            (load layout other).outcome = .error failure := by
  refine ⟨?_, ?_⟩
  · intro failure
    rw [load_eq_error_iff usable, readLines_eq_error,
      Stream.lines_of_cutsInto unfailing cuts]
  · intro number defect failure isFirst
    refine ⟨isFirst.flaw.tellsPlace ?_, ?_⟩
    · intro cause member
      obtain ⟨bytes, _, failed⟩ := List.mem_map.mp member
      exact ofBytes_eq_error failed
    · intro other otherRows otherUnfailing otherCuts same
      rw [load_eq_error_iff usable, readLines_eq_error,
        Stream.lines_of_cutsInto otherUnfailing otherCuts]
      refine ⟨number, defect, isFirst.of_agree ?_⟩
      intro position inside
      have sameRow := congrArg (fun taken => taken[position]?) same
      simp only [List.getElem?_take, inside, if_true] at sameRow
      rw [List.getElem?_map, List.getElem?_map, sameRow]

/-- Three announced postings.  The second one has a bad score and does not
follow the first, and the line of the third is no text. -/
def flawedSample : Stream :=
  [.data [51, 10, 53, 32, 49, 10, 53, 32], .interrupted,
   .data [120, 10, 255, 10]]

/-- The same lines up to the second posting, and then another one. -/
def flawedTwin : Stream :=
  [.data [51, 13, 10, 53, 32, 49, 10, 53, 32, 120, 10, 57, 32, 49]]

theorem load_complains_about_first_flaw_sample :
    (load (.skipPointers 2) flawedSample).outcome =
        .error (.format (.badScore 3 "x" .invalidDigit)) ∧
      (load (.skipPointers 2) flawedTwin).outcome =
        .error (.format (.badScore 3 "x" .invalidDigit)) := by
  have usable : Layout.skipPointers 2 ≠ .skipPointers 0 := by decide
  have unfailing : flawedSample.Unfailing := by simp [Stream.Unfailing,
    flawedSample]
  have twinUnfailing : flawedTwin.Unfailing := by simp [Stream.Unfailing,
    flawedTwin]
  have cuts : Stream.CutsInto flawedSample.bytes
      [[51], [53, 32, 49], [53, 32, 120], [255]] :=
    @Stream.CutsInto.ended [51] _ _ (by decide) (by decide)
      (@Stream.CutsInto.ended [53, 32, 49] _ _ (by decide) (by decide)
        (@Stream.CutsInto.ended [53, 32, 120] _ _ (by decide) (by decide)
          (@Stream.CutsInto.ended [255] _ _ (by decide) (by decide)
            .nothing)))
  have twinCuts : Stream.CutsInto flawedTwin.bytes
      [[51], [53, 32, 49], [53, 32, 120], [57, 32, 49]] :=
    @Stream.CutsInto.returned [51] _ _ (by decide)
      (@Stream.CutsInto.ended [53, 32, 49] _ _ (by decide) (by decide)
        (@Stream.CutsInto.ended [53, 32, 120] _ _ (by decide) (by decide)
          (.unended (by decide) (by decide))))
  obtain ⟨complains, places⟩ :=
    load_complains_about_first_flaw usable unfailing cuts
  have failed : (load (.skipPointers 2) flawedSample).outcome =
      .error (.format (.badScore 3 "x" .invalidDigit)) := by
    rfl
  obtain ⟨number, defect, isFirst⟩ := (complains _).mp failed
  have early : number ≤ 3 :=
    isFirst.earliest 3 .badScore _
      (@Flaw.row _ 3 1 _ _ ⟨"3", rfl, readCount_eq_ok.mp rfl⟩ (by decide)
        (@RowFlaw.badScore _ _ _ "5 x" ['5'] ['x'] [] _ rfl rfl))
  refine ⟨failed, (places _ _ _ isFirst).2 _ _ twinUnfailing twinCuts ?_⟩
  have shared (last : List UInt8) :
      ([[51], [53, 32, 49], [53, 32, 120]] ++ [last]).take number =
        List.take number [[51], [53, 32, 49], [53, 32, 120]] :=
    List.take_append_of_le_length early
  exact (shared [57, 32, 49]).trans (shared [255]).symm

end PostingFile

end Postings
