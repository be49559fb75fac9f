import Postings.Proofs.Input.PostingFile

/-!
# Flaws of posting files

`Flaw` says of every line of a file what is wrong with it, one line at a
time and whatever else is wrong.  Many lines may be flawed, and one line in
several ways.  The first flaw is the weightiest defect of the earliest line
that has one, and there is one complaint about it.

A flaw depends on its own line, on the line before it and on the header.  So
files that agree up to the line of the first flaw have the same first flaw.
-/

namespace Postings

namespace PostingFile

open Text Decimal

/-! ## Flaws -/

/-- What can be wrong with a line, the weightiest first. -/
inductive Defect where
  | absent
  | unreadable
  | badCount
  | badFields
  | badId
  | badScore
  | reservedId
  | unordered
  deriving DecidableEq

/-- Position in the order of weight, from zero on. -/
def Defect.rank : Defect → Nat
  | .absent => 0
  | .unreadable => 1
  | .badCount => 2
  | .badFields => 3
  | .badId => 4
  | .badScore => 5
  | .reservedId => 6
  | .unordered => 7

/-- The first field of a text is a numeral of the id. -/
def WritesId (text : String) (id : Int64) : Prop :=
  ∃ field others, fields text.toList = field :: others ∧
    WritesInt field id.toInt

/-- What is wrong with the header, and the complaint about it. -/
inductive HeaderFlaw : Option Line → Defect → Failure → Prop where
  | absent : HeaderFlaw none .absent (.format .noHeader)
  | unreadable {cause : ReadError} :
      HeaderFlaw (some (.error cause)) .unreadable (.read cause)
  | badCount {text : String} {cause : NumeralError} :
      readNat wordLimit (trim text.toList) = .error cause →
      HeaderFlaw (some (.ok text)) .badCount
        (.format (.badCount (String.ofList (trim text.toList)) cause))

/-- What is wrong with the line of the posting at an index, given the line of
the posting before it. -/
inductive RowFlaw (announced index : Nat) :
    Option Line → Option Line → Defect → Failure → Prop where
  | absent {before : Option Line} :
      RowFlaw announced index before none .absent
        (.format (.missingPosting announced index))
  | unreadable {before : Option Line} {cause : ReadError} :
      RowFlaw announced index before (some (.error cause)) .unreadable
        (.read cause)
  | badFields {before : Option Line} {text : String} :
      (fields text.toList).length ≠ 2 →
      RowFlaw announced index before (some (.ok text)) .badFields
        (.format (.badFields (index + 2) text))
  | badId {before : Option Line} {text : String} {field : List Char}
      {others : List (List Char)} {cause : NumeralError} :
      fields text.toList = field :: others →
      readInt64 field = .error cause →
      RowFlaw announced index before (some (.ok text)) .badId
        (.format (.badId (index + 2) (String.ofList field) cause))
  | badScore {before : Option Line} {text : String}
      {idField field : List Char} {others : List (List Char)}
      {cause : NumeralError} :
      fields text.toList = idField :: field :: others →
      readInt64 field = .error cause →
      RowFlaw announced index before (some (.ok text)) .badScore
        (.format (.badScore (index + 2) (String.ofList field) cause))
  | reservedId {before : Option Line} {text : String} :
      WritesId text sentinelId →
      RowFlaw announced index before (some (.ok text)) .reservedId
        (.format (.reservedId (index + 2) sentinelId))
  | unordered {textBefore text : String} {last id : Int64} :
      WritesId textBefore last → WritesId text id → id ≤ last →
      RowFlaw announced index (some (.ok textBefore)) (some (.ok text))
        .unordered (.format (.unordered (index + 2) id last))

/-- The header announces the number of postings. -/
def Announced (lines : List Line) (announced : Nat) : Prop :=
  ∃ text, lines[0]? = some (.ok text) ∧ Announces text announced

/-- The line of the posting before the one at an index, if there is one. -/
def rowBefore? (lines : List Line) : Nat → Option Line
  | 0 => none
  | index + 1 => lines[index + 1]?

/-- What is wrong with the line of a number.  The header is line one, and the
postings announced by it follow from line two on. -/
inductive Flaw (lines : List Line) : Nat → Defect → Failure → Prop where
  | header {defect : Defect} {failure : Failure} :
      HeaderFlaw lines[0]? defect failure →
      Flaw lines 1 defect failure
  | row {announced index : Nat} {defect : Defect} {failure : Failure} :
      Announced lines announced → index < announced →
      RowFlaw announced index (rowBefore? lines index) lines[index + 1]?
        defect failure →
      Flaw lines (index + 2) defect failure

/-- The weightiest defect of the earliest line that has one. -/
structure FirstFlaw (lines : List Line) (number : Nat) (defect : Defect)
    (failure : Failure) : Prop where
  flaw : Flaw lines number defect failure
  earliest : ∀ otherNumber otherDefect otherFailure,
    Flaw lines otherNumber otherDefect otherFailure → number ≤ otherNumber
  weightiest : ∀ otherDefect otherFailure,
    Flaw lines number otherDefect otherFailure →
      defect.rank ≤ otherDefect.rank

/-! ## A defect has one complaint -/

theorem Defect.eq_of_rank_eq {first second : Defect}
    (same : first.rank = second.rank) : first = second := by
  cases first <;> cases second <;> simp_all [Defect.rank]

theorem WritesId.unique {text : String} {first second : Int64}
    (firstWrites : WritesId text first)
    (secondWrites : WritesId text second) : first = second := by
  obtain ⟨field, others, found, firstWritten⟩ := firstWrites
  obtain ⟨_, _, foundAgain, secondWritten⟩ := secondWrites
  rw [found] at foundAgain
  cases foundAgain
  have firstRead := readInt64_eq_ok.mpr firstWritten
  rw [readInt64_eq_ok.mpr secondWritten] at firstRead
  exact (Except.ok.inj firstRead).symm

theorem Announced.unique {lines : List Line} {first second : Nat}
    (firstAnnounced : Announced lines first)
    (secondAnnounced : Announced lines second) : first = second := by
  obtain ⟨text, header, firstAnnounces⟩ := firstAnnounced
  obtain ⟨_, headerAgain, secondAnnounces⟩ := secondAnnounced
  rw [header] at headerAgain
  cases headerAgain
  exact firstAnnounces.unique secondAnnounces

theorem HeaderFlaw.unique {line : Option Line} {defect : Defect}
    {first second : Failure} (firstFlaw : HeaderFlaw line defect first)
    (secondFlaw : HeaderFlaw line defect second) : first = second := by
  cases firstFlaw with
  | absent =>
      cases secondFlaw
      rfl
  | unreadable =>
      cases secondFlaw
      rfl
  | badCount refused =>
      cases secondFlaw with
      | badCount refusedAgain =>
          rw [refused] at refusedAgain
          cases refusedAgain
          rfl

theorem RowFlaw.unique {announced index : Nat} {before line : Option Line}
    {defect : Defect} {first second : Failure}
    (firstFlaw : RowFlaw announced index before line defect first)
    (secondFlaw : RowFlaw announced index before line defect second) :
    first = second := by
  cases firstFlaw with
  | absent | unreadable | badFields | reservedId =>
      cases secondFlaw
      rfl
  | badId found refused =>
      cases secondFlaw with
      | badId foundAgain refusedAgain =>
          rw [found] at foundAgain
          cases foundAgain
          rw [refused] at refusedAgain
          cases refusedAgain
          rfl
  | badScore found refused =>
      cases secondFlaw with
      | badScore foundAgain refusedAgain =>
          rw [found] at foundAgain
          cases foundAgain
          rw [refused] at refusedAgain
          cases refusedAgain
          rfl
  | unordered writesLast writesId _ =>
      cases secondFlaw with
      | unordered writesLastAgain writesIdAgain _ =>
          rw [writesLast.unique writesLastAgain,
            writesId.unique writesIdAgain]

theorem Flaw.unique {lines : List Line} {number : Nat} {defect : Defect}
    {first second : Failure} (firstFlaw : Flaw lines number defect first)
    (secondFlaw : Flaw lines number defect second) : first = second := by
  cases firstFlaw with
  | header flaw =>
      cases secondFlaw with
      | header flawAgain => exact flaw.unique flawAgain
  | row announced _ flaw =>
      cases secondFlaw with
      | row announcedAgain _ flawAgain =>
          rw [announced.unique announcedAgain] at flaw
          exact flaw.unique flawAgain

theorem FirstFlaw.unique {lines : List Line} {firstNumber secondNumber : Nat}
    {firstDefect secondDefect : Defect} {first second : Failure}
    (isFirst : FirstFlaw lines firstNumber firstDefect first)
    (isSecond : FirstFlaw lines secondNumber secondDefect second) :
    first = second := by
  have sameNumber : firstNumber = secondNumber :=
    Nat.le_antisymm (isFirst.earliest _ _ _ isSecond.flaw)
      (isSecond.earliest _ _ _ isFirst.flaw)
  rw [sameNumber] at isFirst
  have sameDefect : firstDefect = secondDefect :=
    Defect.eq_of_rank_eq (Nat.le_antisymm
      (isFirst.weightiest _ _ isSecond.flaw)
      (isSecond.weightiest _ _ isFirst.flaw))
  rw [sameDefect] at isFirst
  exact isFirst.flaw.unique isSecond.flaw

/-! ## Flaws of files that agree on some lines -/

section Agreement

variable {lines other : List Line} {number : Nat} {defect : Defect}
  {failure : Failure}

/-- The flaw of a line depends on no later line. -/
theorem Flaw.of_agree (flaw : Flaw lines number defect failure)
    (agree : ∀ position, position < number →
      other[position]? = lines[position]?) :
    Flaw other number defect failure := by
  cases flaw with
  | header flaw =>
      rw [← agree 0 Nat.one_pos] at flaw
      exact .header flaw
  | @row announced index _ _ isAnnounced wanted flaw =>
      have sameHeader := agree 0 (Nat.succ_pos _)
      have sameLine := agree (index + 1) (Nat.lt_succ_self _)
      have sameBefore : rowBefore? other index = rowBefore? lines index := by
        cases index with
        | zero => rfl
        | succ index => exact agree (index + 1) (by omega)
      have stillAnnounced : Announced other announced := by
        unfold Announced at isAnnounced ⊢
        rwa [sameHeader]
      rw [← sameBefore, ← sameLine] at flaw
      exact .row stillAnnounced wanted flaw

theorem FirstFlaw.of_agree (isFirst : FirstFlaw lines number defect failure)
    (agree : ∀ position, position < number →
      other[position]? = lines[position]?) :
    FirstFlaw other number defect failure where
  flaw := isFirst.flaw.of_agree agree
  earliest := by
    intro otherNumber otherDefect otherFailure flaw
    apply Nat.le_of_not_lt
    intro earlier
    have inLines : Flaw lines otherNumber otherDefect otherFailure :=
      flaw.of_agree fun position inside =>
        (agree position (by omega)).symm
    have notEarlier := isFirst.earliest _ _ _ inLines
    omega
  weightiest := by
    intro otherDefect otherFailure flaw
    apply isFirst.weightiest otherDefect otherFailure
    exact flaw.of_agree fun position inside => (agree position inside).symm

end Agreement

/-! ## Where a flaw is -/

/-- The message begins with the number of a line. -/
def NamesLine (number : Nat) (message : String) : Prop :=
  ∃ particulars,
    message = "line " ++ toString number ++ ": " ++ particulars

/-- How a complaint tells where its flaw is.  A line that is not there has no
number to give; the numbers of postings stand in its place. -/
inductive TellsPlace (lines : List Line) :
    Nat → Defect → Failure → Prop where
  | noHeader {cause : FormatError} :
      cause.message = "input is empty" →
      TellsPlace lines 1 .absent (.format cause)
  | noRow {announced index : Nat} {cause : FormatError} :
      Announced lines announced →
      cause.message =
        "expected " ++ toString announced ++ " postings, found " ++
          toString index →
      TellsPlace lines (index + 2) .absent (.format cause)
  | notUtf8 {number : Nat} :
      TellsPlace lines number .unreadable (.read .notUtf8)
  | named {number : Nat} {defect : Defect} {cause : FormatError} :
      defect ≠ .absent → NamesLine number cause.message →
      TellsPlace lines number defect (.format cause)

theorem namesLine_of_split (number : Nat) {opening text : String}
    (split : ": " ++ opening = text) :
    NamesLine number ("line " ++ toString number ++ text) := by
  rw [← split, ← String.append_assoc]
  exact ⟨opening, rfl⟩

theorem NamesLine.append {number : Nat} {message : String}
    (names : NamesLine number message) (more : String) :
    NamesLine number (message ++ more) := by
  obtain ⟨particulars, rfl⟩ := names
  exact ⟨particulars ++ more, String.append_assoc⟩

section Places

variable {lines : List Line} {before line : Option Line} {defect : Defect}
  {failure : Failure}

theorem HeaderFlaw.tellsPlace (flaw : HeaderFlaw line defect failure)
    (unfailing : ∀ cause, line = some (.error cause) → cause = .notUtf8) :
    TellsPlace lines 1 defect failure := by
  cases flaw with
  | absent => exact .noHeader rfl
  | unreadable =>
      rw [unfailing _ rfl]
      exact .notUtf8
  | badCount =>
      have split : "line " ++ toString 1 ++ ": " ++
          "invalid posting count " = "line 1: invalid posting count " := by
        decide
      have names : NamesLine 1 "line 1: invalid posting count " :=
        ⟨_, split.symm⟩
      exact .named (by simp) (((names.append _).append _).append _)

theorem RowFlaw.tellsPlace {announced index : Nat}
    (flaw : RowFlaw announced index before line defect failure)
    (isAnnounced : Announced lines announced)
    (unfailing : ∀ cause, line = some (.error cause) → cause = .notUtf8) :
    TellsPlace lines (index + 2) defect failure := by
  cases flaw with
  | absent => exact .noRow isAnnounced rfl
  | unreadable =>
      rw [unfailing _ rfl]
      exact .notUtf8
  | badFields =>
      have split : ": " ++ "expected `<id> <score>`, got " =
          ": expected `<id> <score>`, got " := by decide
      have names := namesLine_of_split (index + 2) split
      exact .named (by simp) (names.append _)
  | badId =>
      have split : ": " ++ "invalid id " = ": invalid id " := by decide
      have names := namesLine_of_split (index + 2) split
      exact .named (by simp) (((names.append _).append _).append _)
  | badScore =>
      have split : ": " ++ "invalid score " = ": invalid score " := by
        decide
      have names := namesLine_of_split (index + 2) split
      exact .named (by simp) (((names.append _).append _).append _)
  | reservedId =>
      have split : ": " ++ "id " = ": id " := by decide
      have names := namesLine_of_split (index + 2) split
      exact .named (by simp) ((names.append _).append _)
  | unordered =>
      have split : ": " ++ "id " = ": id " := by decide
      have names := namesLine_of_split (index + 2) split
      exact .named (by simp) (((names.append _).append _).append _)

/-- Where lines fail for one reason only, every complaint tells its place. -/
theorem Flaw.tellsPlace {number : Nat}
    (flaw : Flaw lines number defect failure)
    (unfailing : ∀ cause, .error cause ∈ lines → cause = .notUtf8) :
    TellsPlace lines number defect failure := by
  cases flaw with
  | header flaw =>
      apply flaw.tellsPlace
      intro cause present
      exact unfailing cause (List.mem_of_getElem? present)
  | row isAnnounced _ flaw =>
      apply flaw.tellsPlace isAnnounced
      intro cause present
      exact unfailing cause (List.mem_of_getElem? present)

end Places

end PostingFile

end Postings
