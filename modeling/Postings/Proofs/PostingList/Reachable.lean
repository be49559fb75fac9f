import Postings.Input.PostingFile
import Postings.Intersection.Chain
import Postings.Proofs.Input.PostingFile
import Postings.Proofs.PostingList.Edit

/-!
# The lists that can come about

A list comes from a constructor, from a file or from an intersection, and is
then edited any number of times, where a run goes on with the list that a
failed edit leaves behind.  All such lists are valid: every source returns a
valid list, and every edit keeps it valid.

A copy of a list is the same list and needs no case of its own.
-/

namespace Postings

/-- The lists that the operations can make. -/
inductive Reachable : PostingList → Prop where
  | empty : Reachable .empty
  | withCapacity {capacity : Nat} {list : PostingList} :
      PostingList.withCapacity capacity = .ok list → Reachable list
  | ofList {postings : List Posting} {list : PostingList} :
      PostingList.ofList postings = .ok list → Reachable list
  | load {layout : Layout} {stream : Stream} {list : PostingList} :
      (PostingFile.load layout stream).outcome = .ok list → Reachable list
  | intersect {look : Locator} {algorithm : Algorithm}
      {left right list : PostingList} :
      Reachable left → Reachable right →
      (algorithm.intersectWith look left right).outcome = .ok list →
      Reachable list
  | intersectAll {algorithm : Algorithm} {lists : List PostingList}
      {list : PostingList} :
      (∀ input ∈ lists, Reachable input) →
      (algorithm.intersectAll lists).outcome = .ok (some list) →
      Reachable list
  | edit {list : PostingList} (edit : Edit) :
      Reachable list → Reachable (edit.after list)

/-! ## Intersections return valid lists -/

namespace Intersection

theorem collect_valid {common : Except Fault (List Posting)}
    {list : PostingList} (succeeded : (collect common).outcome = .ok list) :
    list.Valid := by
  have built := Outcome.mapError_eq_ok.mp succeeded
  obtain ⟨postings, _, ofList⟩ := Outcome.bind_eq_ok.mp built
  exact PostingList.valid_of_ofList ofList

theorem galloping_valid {look : Locator} {left right list : PostingList}
    (succeeded : (galloping look left right).outcome = .ok list) :
    list.Valid := by
  simp only [galloping, Traced.outcome_bind_eq_ok] at succeeded
  obtain ⟨scan, _, result, collected, finished⟩ := succeeded
  have same : result = list := by
    split at finished
    · cases finished
      rfl
    · cases finished
      rfl
  rw [← same]
  exact collect_valid collected

theorem hybrid_valid {look : Locator} {threshold : Nat}
    {left right list : PostingList}
    (succeeded : (hybrid look threshold left right).outcome = .ok list) :
    list.Valid := by
  simp only [hybrid] at succeeded
  split at succeeded
  · cases succeeded
    exact PostingList.valid_empty
  · rename_i strategy _
    rw [Traced.outcome_report_bind] at succeeded
    cases strategy with
    | linear => exact collect_valid succeeded
    | galloping => exact galloping_valid succeeded

theorem intersectWith_valid {look : Locator} {algorithm : Algorithm}
    {left right list : PostingList}
    (succeeded :
      (algorithm.intersectWith look left right).outcome = .ok list) :
    list.Valid := by
  cases algorithm with
  | basic | lessConditional | binarySearch | skipPointers =>
      exact collect_valid succeeded
  | sentinel =>
      change (sentinel left right).outcome = .ok list at succeeded
      rw [sentinel] at succeeded
      split at succeeded
      · exact collect_valid succeeded
      · cases succeeded
  | galloping => exact galloping_valid succeeded
  | hybrid threshold => exact hybrid_valid succeeded

theorem chain_valid {algorithm : Algorithm} {closed : Bool}
    {result list : PostingList} {lists : List PostingList}
    (valid : result.Valid)
    (succeeded : (chain algorithm closed result lists).outcome =
      .ok list) :
    list.Valid := by
  induction lists generalizing result with
  | nil =>
      cases succeeded
      exact valid
  | cons next lists ih =>
      rw [chain, Traced.outcome_bind_eq_ok] at succeeded
      obtain ⟨common, intersected, continued⟩ := succeeded
      have commonValid := intersectWith_valid intersected
      have linkValid :
          (if closed then common.pushSentinel else common).Valid := by
        split
        · exact commonValid.pushSentinel
        · exact commonValid
      dsimp only at continued
      split at continued
      · cases continued
        exact linkValid
      · exact ih linkValid continued

theorem intersectAll_valid {algorithm : Algorithm}
    {lists : List PostingList} {list : PostingList}
    (valid : ∀ input ∈ lists, input.Valid)
    (succeeded : (algorithm.intersectAll lists).outcome =
      .ok (some list)) :
    list.Valid := by
  cases lists with
  | nil => cases succeeded
  | cons first rest =>
      rw [Algorithm.intersectAll, Traced.outcome_bind_eq_ok] at succeeded
      obtain ⟨result, chained, finished⟩ := succeeded
      cases finished
      have resultValid :=
        chain_valid (valid first List.mem_cons_self) chained
      exact resultValid.dropSentinel

end Intersection

/-! ## All lists are valid -/

theorem PostingFile.load_valid {layout : Layout} {stream : Stream}
    {list : PostingList}
    (succeeded : (load layout stream).outcome = .ok list) :
    list.Valid := by
  obtain ⟨_, announced, plain, rest, read, arranged⟩ :=
    load_eq_ok.mp succeeded
  obtain ⟨header, rows, postings, _, _, _, _, increasing, _, rfl⟩ :=
    readLines_eq_ok.mp read
  exact (PostingList.valid_bare increasing).arrange arranged

namespace Reachable

theorem valid {list : PostingList} (reachable : Reachable list) :
    list.Valid := by
  induction reachable with
  | empty => exact PostingList.valid_empty
  | withCapacity succeeded =>
      rw [PostingList.withCapacity_eq] at succeeded
      split at succeeded
      · cases succeeded
        exact PostingList.valid_empty
      · cases succeeded
  | ofList succeeded => exact PostingList.valid_of_ofList succeeded
  | load succeeded => exact PostingFile.load_valid succeeded
  | intersect _ _ succeeded =>
      exact Intersection.intersectWith_valid succeeded
  | intersectAll _ succeeded inputs =>
      exact Intersection.intersectAll_valid inputs succeeded
  | edit edit _ before => exact Edit.after_valid before edit

/-- A run of edits reaches a list, whichever of them fail. -/
theorem run {list : PostingList} (reachable : Reachable list)
    (edits : List Edit) : Reachable (Edit.run edits list) := by
  induction edits generalizing list with
  | nil => exact reachable
  | cons edit edits ih => exact ih (.edit edit reachable)

/-- What holds of every list that can come about, and what an edit that fails
does to it. -/
theorem invariant {list : PostingList} (reachable : Reachable list) :
    list.Valid ∧
      (∀ (edit : Edit) (failure : Failure),
        (∀ capacity, edit ≠ .reserve capacity) →
        (edit.apply list).outcome = .error failure →
        edit.after list = list) ∧
      ∀ (capacity : Nat) (failure : Failure),
        ((Edit.reserve capacity).apply list).outcome = .error failure →
        (Edit.reserve capacity).after list = .empty := by
  refine ⟨reachable.valid, ?_, ?_⟩
  · intro edit failure other failed
    exact Edit.after_of_failed other failed
  · intro capacity _ _
    exact Edit.after_reserve capacity list

/-- Edits among which a posting out of order and a pointer out of range
fail. -/
def sampleEdits : List Edit :=
  [.push ⟨5, 1⟩, .push ⟨5, 2⟩, .push ⟨8, 3⟩, .placeSkip 0 7,
   .placeSkip 2 9, .pushSentinel, .pushSentinel, .placeNextSkip 6,
   .popSentinel]

theorem invariant_sample :
    Reachable (Edit.run sampleEdits .empty) ∧
      (Edit.run sampleEdits .empty).Valid ∧
      (Edit.push ⟨8, 0⟩).after (Edit.run sampleEdits .empty) =
        Edit.run sampleEdits .empty ∧
      (Edit.reserve (9223372036854775808)).after (Edit.run sampleEdits .empty) =
        .empty := by
  have reachable : Reachable (Edit.run sampleEdits .empty) :=
    Reachable.empty.run sampleEdits
  obtain ⟨valid, unchanged, cleared⟩ := invariant reachable
  refine ⟨reachable, valid, ?_, ?_⟩
  · apply unchanged (.push ⟨8, 0⟩)
      (.fault (.notIncreasing sentinelId 8)) (by simp)
    rfl
  · apply cleared (9223372036854775808) (.fault .capacityOverflow)
    rfl

end Reachable

end Postings
