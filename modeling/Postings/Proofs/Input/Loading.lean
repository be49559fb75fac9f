import Postings.Input.Files
import Postings.Proofs.Intersection.Chain
import Postings.Proofs.Input.PostingFile

/-!
# Loading in any layout

The layout plays no part while a file is read: a list that is loaded in some
layout is the list that is loaded without one, arranged afterwards.  So all
layouts accept the same files and complain about the others in the same way,
and what an algorithm finds in its layout is the run of postings of the file.

Reading a file never breaks a precondition of the lists, because the order of
the ids is checked before a posting is appended.
-/

namespace Postings

/-! ## Complaints -/

/-- A failure that is not a broken precondition. -/
def Failure.IsComplaint (failure : Failure) : Prop :=
  ∀ fault, failure ≠ .fault fault

namespace PostingFile

theorem addLine_complains {number : Nat} {front : List Posting}
    {line : Line} {failure : Failure}
    (failed : addLine number (.bare front) line = .error failure) :
    failure.IsComplaint := by
  simp only [addLine, Outcome.bind_eq_error, Outcome.mapError_eq_error,
    Outcome.mapError_eq_ok, Line.text] at failed
  rintro fault rfl
  rcases failed with ⟨_, _, same⟩ | ⟨text, _, ⟨_, _, same⟩ |
    ⟨posting, _, ⟨_, _, same⟩ | ⟨done, checked, cause, pushed, _⟩⟩⟩
  · cases same
  · cases same
  · cases same
  · rw [PostingList.push_bare (checkOrder_eq_ok.mp checked).2] at pushed
    cases pushed

theorem addLines_complains {announced found : Nat} {front : List Posting}
    {lines : List Line} {failure : Failure}
    (failed : addLines announced found (.bare front) lines =
      .error failure) :
    failure.IsComplaint := by
  induction lines generalizing found front with
  | nil =>
      rw [addLines] at failed
      split at failed
      · cases failed
        intro fault
        simp
      · cases failed
  | cons line lines ih =>
      rw [addLines] at failed
      split at failed
      · split at failed
        · rename_i cause added
          cases failed
          exact addLine_complains added
        · rename_i longer added
          obtain ⟨posting, _, _, _, rfl⟩ := addLine_eq_ok.mp added
          exact ih failed
      · cases failed

theorem readLines_complains {lines : List Line} {failure : Failure}
    (failed : readLines .plain lines = .error failure) :
    failure.IsComplaint := by
  cases lines with
  | nil =>
      cases failed
      intro fault
      simp
  | cons header lines =>
      simp only [readLines_cons, withCapacity_reservation,
        Outcome.bind_eq_error,
        Outcome.mapError_eq_error, Outcome.mapError_eq_ok,
        Line.text] at failed
      rcases failed with ⟨_, _, rfl⟩ | ⟨text, _, ⟨_, _, rfl⟩ |
        ⟨announced, _, ⟨_, same, _⟩ | ⟨room, same, added | ⟨_, _, same'⟩⟩⟩⟩
      · intro fault
        simp
      · intro fault
        simp
      · cases same
      · cases same
        have fromNothing : addLines announced 0 (.bare []) lines =
            .error failure := added
        exact addLines_complains fromNothing
      · cases same'

/-! ## Layouts -/

theorem exists_arranged {layout : Layout}
    (usable : layout ≠ .skipPointers 0) (list : PostingList) :
    ∃ arranged, (list.arrange layout).outcome = .ok arranged := by
  cases layout with
  | plain => exact ⟨_, rfl⟩
  | sentinel => exact ⟨_, rfl⟩
  | skipPointers count =>
      have positive : count ≠ 0 := by
        intro none
        exact usable (by rw [none])
      change ∃ arranged, (list.buildSkips count).outcome = .ok arranged
      rw [PostingList.buildSkips_outcome, if_neg positive]
      exact ⟨_, rfl⟩

/-- What can be read can be arranged, so a stream is refused for its lines
only. -/
theorem load_eq_error_iff {layout : Layout}
    (usable : layout ≠ .skipPointers 0) {stream : Stream}
    {failure : Failure} :
    (load layout stream).outcome = .error failure ↔
      readLines .plain stream.lines = .error failure := by
  rw [outcome_load usable, Outcome.bind_eq_error]
  constructor
  · intro failed
    rcases failed with unread | ⟨read, _, unarranged⟩
    · exact unread
    · obtain ⟨arranged, succeeded⟩ := exists_arranged usable read.2.1
      rw [succeeded] at unarranged
      cases unarranged
  · exact .inl

theorem load_complains {layout : Layout} {stream : Stream}
    {failure : Failure}
    (failed : (load layout stream).outcome = .error failure) :
    failure.IsComplaint := by
  by_cases unusable : layout = .skipPointers 0
  · rw [load_eq, if_pos unusable] at failed
    cases failed
    intro fault
    simp
  · exact readLines_complains ((load_eq_error_iff unusable).mp failed)

theorem plain_of_load {stream : Stream} {list : PostingList}
    (loaded : (load .plain stream).outcome = .ok list) :
    Intersection.Plain list := by
  obtain ⟨_, announced, found, rest, read, arranged⟩ := load_eq_ok.mp loaded
  cases arranged
  obtain ⟨header, rows, postings, _, _, _, _, increasing, real, rfl⟩ :=
    readLines_eq_ok.mp read
  have valid := PostingList.valid_bare increasing
  refine ⟨valid, ?_, ?_⟩
  · apply (PostingList.increasing_toList valid.aligned).mp
    rwa [PostingList.toList_bare]
  · intro id member
    simp only [PostingList.bare, List.mem_toArray, List.mem_map] at member
    obtain ⟨posting, postingMember, rfl⟩ := member
    exact lt_sentinelId (real posting postingMember)

/-- What is loaded in a layout is what is loaded without one, arranged. -/
theorem outcome_load_eq_arrange {layout : Layout}
    (usable : layout ≠ .skipPointers 0) (stream : Stream) :
    (load layout stream).outcome =
      (load .plain stream).outcome >>= fun list =>
        (list.arrange layout).outcome := by
  rw [outcome_load usable, outcome_load (by simp), bind_assoc]
  rfl

/-- Layouts that can be asked for refuse the same streams for the same
reason.  From a stream that is accepted they give the plain list after the
edit that adds the data of the layout. -/
theorem load_same_in_every_layout (stream : Stream) {count : Nat}
    (positive : 1 ≤ count) :
    (∀ failure,
      ((load .sentinel stream).outcome = .error failure ↔
        (load .plain stream).outcome = .error failure) ∧
      ((load (.skipPointers count) stream).outcome = .error failure ↔
        (load .plain stream).outcome = .error failure)) ∧
      ∀ list, (load .plain stream).outcome = .ok list →
        (load .sentinel stream).outcome =
            .ok (Edit.pushSentinel.after list) ∧
          ((Edit.buildSkips count).apply list).outcome =
            .ok ((Edit.buildSkips count).after list) ∧
          (load (.skipPointers count) stream).outcome =
            .ok ((Edit.buildSkips count).after list) := by
  have plain : Layout.plain ≠ .skipPointers 0 := by simp
  have closing : Layout.sentinel ≠ .skipPointers 0 := by simp
  have some : count ≠ 0 := by omega
  have skipping : Layout.skipPointers count ≠ .skipPointers 0 := by
    simpa using some
  constructor
  · intro failure
    rw [load_eq_error_iff closing, load_eq_error_iff skipping,
      load_eq_error_iff plain]
    exact ⟨Iff.rfl, Iff.rfl⟩
  · intro list loaded
    have built : ((Edit.buildSkips count).apply list).outcome =
        .ok ((Edit.buildSkips count).after list) := by
      rw [Edit.outcome_apply]
      simp [Edit.after, Edit.update, Update.result, Update.after,
        Update.finish_adapt, Update.finish_buildSkips, some]
    refine ⟨?_, built, ?_⟩
    · rw [outcome_load_eq_arrange closing, loaded]
      rfl
    · rw [outcome_load_eq_arrange skipping, loaded]
      exact built

/-- Two postings, then a line that breaks off in a failed read. -/
def layoutSample : Stream :=
  [.data [50, 10, 49, 32, 55, 10], .interrupted,
   .data [52, 32, 56, 10, 57], .failure (.device "lost")]

theorem load_same_in_every_layout_sample :
    (load .sentinel layoutSample).outcome =
        .ok (.bare [⟨1, 7⟩, ⟨4, 8⟩, .sentinel]) ∧
      (load (.skipPointers 2) layoutSample).outcome =
        .ok { PostingList.bare [⟨1, 7⟩, ⟨4, 8⟩] with
          skips := { slots := #[some 1, none] } } := by
  have loaded : (load .plain layoutSample).outcome =
      .ok (.bare [⟨1, 7⟩, ⟨4, 8⟩]) := by
    rfl
  have positive : 1 ≤ 2 := by decide
  obtain ⟨_, arranged⟩ := load_same_in_every_layout layoutSample positive
  obtain ⟨closed, _, skipping⟩ := arranged _ loaded
  exact ⟨closed, skipping⟩

end PostingFile

theorem Algorithm.layout_usable (algorithm : Algorithm) {count : Nat}
    (positive : 1 ≤ count) : algorithm.layout count ≠ .skipPointers 0 := by
  cases algorithm with
  | skipPointers =>
      intro same
      cases same
      omega
  | basic | lessConditional | sentinel | binarySearch | galloping | hybrid =>
      simp [layout]

/-! ## Files -/

namespace Files

/-- The file is accepted, and it holds the run of postings. -/
def Accepts (files : Files) (compressed : Bool) (path : String)
    (run : List Posting) : Prop :=
  ∃ list, (files.load compressed .plain path).outcome = .ok list ∧
    run = list.toList

/-- The file is refused for the given reason. -/
def Rejects (files : Files) (compressed : Bool) (path : String)
    (failure : Failure) : Prop :=
  (files.load compressed .plain path).outcome = .error failure

theorem outcome_load {layout : Layout} (usable : layout ≠ .skipPointers 0)
    (files : Files) (compressed : Bool) (path : String) :
    (files.load compressed layout path).outcome =
      (files.load compressed .plain path).outcome >>= fun list =>
        (list.arrange layout).outcome := by
  unfold Files.load
  cases files.entry path with
  | error reason => rfl
  | ok entry =>
      simp only [Traced.outcome_report_bind]
      exact PostingFile.outcome_load_eq_arrange usable _

variable {files : Files} {compressed : Bool} {path : String}

theorem plain_of_load {list : PostingList}
    (loaded : (files.load compressed .plain path).outcome = .ok list) :
    Intersection.Plain list := by
  unfold Files.load at loaded
  cases opened : files.entry path with
  | error reason =>
      rw [opened] at loaded
      cases loaded
  | ok entry =>
      simp only [opened, Traced.outcome_report_bind] at loaded
      exact PostingFile.plain_of_load loaded

theorem Rejects.complains {failure : Failure}
    (rejects : files.Rejects compressed path failure) :
    failure.IsComplaint := by
  unfold Rejects Files.load at rejects
  cases opened : files.entry path with
  | error reason =>
      rw [opened] at rejects
      cases rejects
      intro fault
      simp
  | ok entry =>
      simp only [opened, Traced.outcome_report_bind] at rejects
      exact PostingFile.load_complains rejects

/-- An accepted file gives every algorithm its run in the form that the
algorithm asks for. -/
theorem Accepts.load {run : List Posting}
    (accepts : files.Accepts compressed path run) (algorithm : Algorithm)
    {count : Nat} (positive : 1 ≤ count) :
    ∃ list,
      (files.load compressed (algorithm.layout count) path).outcome =
        .ok list ∧
      Intersection.Arranged algorithm list run := by
  obtain ⟨list, loaded, rfl⟩ := accepts
  rw [outcome_load (algorithm.layout_usable positive), loaded]
  exact Intersection.arrange_outcome algorithm positive (plain_of_load loaded)

theorem Rejects.load {failure : Failure}
    (rejects : files.Rejects compressed path failure)
    (algorithm : Algorithm) {count : Nat} (positive : 1 ≤ count) :
    (files.load compressed (algorithm.layout count) path).outcome =
      .error failure := by
  rw [outcome_load (algorithm.layout_usable positive), rejects]
  rfl

theorem Accepts.unique {first second : List Posting}
    (firstAccepts : files.Accepts compressed path first)
    (secondAccepts : files.Accepts compressed path second) :
    first = second := by
  obtain ⟨firstList, firstLoaded, rfl⟩ := firstAccepts
  obtain ⟨secondList, secondLoaded, rfl⟩ := secondAccepts
  rw [firstLoaded] at secondLoaded
  cases secondLoaded
  rfl

theorem Accepts.not_rejects {run : List Posting} {failure : Failure}
    (accepts : files.Accepts compressed path run) :
    ¬files.Rejects compressed path failure := by
  obtain ⟨list, loaded, _⟩ := accepts
  intro rejects
  rw [Rejects, loaded] at rejects
  cases rejects

/-! ## Many files -/

/-- The reason why the first file that is refused is refused. -/
inductive RejectsFirst (files : Files) (compressed : Bool) :
    List String → Failure → Prop where
  | here {path : String} {paths : List String} {failure : Failure} :
      files.Rejects compressed path failure →
      RejectsFirst files compressed (path :: paths) failure
  | there {path : String} {paths : List String} {run : List Posting}
      {failure : Failure} :
      files.Accepts compressed path run →
      RejectsFirst files compressed paths failure →
      RejectsFirst files compressed (path :: paths) failure

theorem accepts_or_rejectsFirst (files : Files) (compressed : Bool)
    (paths : List String) :
    (∃ runs, List.Forall₂ (files.Accepts compressed) paths runs) ∨
      ∃ failure, files.RejectsFirst compressed paths failure := by
  induction paths with
  | nil => exact .inl ⟨[], .nil⟩
  | cons path paths ih =>
      cases loaded : (files.load compressed .plain path).outcome with
      | error failure => exact .inr ⟨failure, .here loaded⟩
      | ok list =>
          have accepts : files.Accepts compressed path list.toList :=
            ⟨list, loaded, rfl⟩
          rcases ih with ⟨runs, later⟩ | ⟨failure, later⟩
          · exact .inl ⟨list.toList :: runs, .cons accepts later⟩
          · exact .inr ⟨failure, .there accepts later⟩

theorem accepts_unique {paths : List String}
    {first second : List (List Posting)}
    (firstAccepts : List.Forall₂ (files.Accepts compressed) paths first)
    (secondAccepts : List.Forall₂ (files.Accepts compressed) paths second) :
    first = second := by
  induction firstAccepts generalizing second with
  | nil =>
      cases secondAccepts
      rfl
  | cons accepts _ ih =>
      cases secondAccepts with
      | cons otherAccepts later =>
          rw [accepts.unique otherAccepts, ih later]

theorem outcome_mapM_of_accepts {function : String → Traced PostingList}
    {paths : List String} {runs : List (List Posting)}
    (accepts : List.Forall₂ (files.Accepts compressed) paths runs)
    (algorithm : Algorithm) {count : Nat} (positive : 1 ≤ count)
    (loads : ∀ path, (function path).outcome =
      (files.load compressed (algorithm.layout count) path).outcome) :
    ∃ lists, (paths.mapM function).outcome = .ok lists ∧
      List.Forall₂ (Intersection.Arranged algorithm) lists runs := by
  apply Traced.outcome_mapM_of_forall₂
  apply accepts.imp
  intro path run accepted
  rw [loads]
  exact accepted.load algorithm positive

namespace RejectsFirst

variable {paths : List String}

theorem complains {failure : Failure}
    (rejects : files.RejectsFirst compressed paths failure) :
    failure.IsComplaint := by
  induction rejects with
  | here refused => exact refused.complains
  | there _ _ ih => exact ih

theorem not_accepts {failure : Failure} {runs : List (List Posting)}
    (rejects : files.RejectsFirst compressed paths failure) :
    ¬List.Forall₂ (files.Accepts compressed) paths runs := by
  intro accepts
  induction rejects generalizing runs with
  | here refused =>
      cases accepts with
      | cons accepted _ => exact accepted.not_rejects refused
  | there _ _ ih =>
      cases accepts with
      | cons _ later => exact ih later

theorem unique {first second : Failure}
    (firstRejects : files.RejectsFirst compressed paths first)
    (secondRejects : files.RejectsFirst compressed paths second) :
    first = second := by
  induction firstRejects with
  | here refused =>
      cases secondRejects with
      | here other => exact Except.error.inj (refused.symm.trans other)
      | there accepts _ => exact absurd refused accepts.not_rejects
  | there accepts _ ih =>
      cases secondRejects with
      | here other => exact absurd other accepts.not_rejects
      | there _ later => exact ih later

/-- Loading the files one by one ends at the first that is refused. -/
theorem outcome_mapM {function : String → Traced PostingList}
    {failure : Failure}
    (rejects : files.RejectsFirst compressed paths failure)
    (algorithm : Algorithm) {count : Nat} (positive : 1 ≤ count)
    (loads : ∀ path, (function path).outcome =
      (files.load compressed (algorithm.layout count) path).outcome) :
    (paths.mapM function).outcome = .error failure := by
  induction rejects with
  | here refused =>
      rw [List.mapM_cons, Traced.outcome_bind, loads,
        refused.load algorithm positive]
      rfl
  | there accepts _ ih =>
      obtain ⟨list, loaded, _⟩ := accepts.load algorithm positive
      rw [← loads] at loaded
      rw [List.mapM_cons, Traced.outcome_bind_of_ok loaded,
        Traced.outcome_bind, ih]
      rfl

end RejectsFirst

end Files

end Postings
