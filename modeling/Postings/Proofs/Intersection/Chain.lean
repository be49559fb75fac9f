import Postings.Intersection.Chain
import Postings.Proofs.Intersection.Agreement

/-!
# Chains of intersections

A chain keeps every link in the form that its algorithm asks for: closed by a
sentinel or not.  It stops at an empty link, which no further list can
change.  So it ends with what all lists have in common, whatever their order.
-/

namespace Postings

/-- If every item gives a result that is related to its view, mapping over
the items gives results that are related to the views one by one. -/
theorem Traced.outcome_mapM_of_forall₂ {function : α → Traced β}
    {related : β → γ → Prop} {items : List α} {views : List γ}
    (each : List.Forall₂ (fun item view =>
      ∃ result, (function item).outcome = .ok result ∧ related result view)
      items views) :
    ∃ results, (items.mapM function).outcome = .ok results ∧
      List.Forall₂ related results views := by
  induction each with
  | nil => exact ⟨[], rfl, .nil⟩
  | cons first _ ih =>
      obtain ⟨result, succeeded, holds⟩ := first
      obtain ⟨results, laterSucceeded, laterHold⟩ := ih
      refine ⟨result :: results, ?_, .cons holds laterHold⟩
      rw [List.mapM_cons, outcome_bind_of_ok succeeded,
        outcome_bind_of_ok laterSucceeded]
      rfl

namespace Intersection

open PostingList

/-! ## The form of the links -/

/-- The list holds the run in the form that the algorithm asks for. -/
structure Arranged (algorithm : Algorithm) (list : PostingList)
    (run : List Posting) : Prop where
  valid : list.Valid
  increasing : Increasing run
  real : ∀ posting ∈ run, posting.id ≠ sentinelId
  toList_eq : list.toList =
    if algorithm = .sentinel then run ++ [.sentinel] else run

/-- An intermediate result in the form that the algorithm asks for. -/
def link (algorithm : Algorithm) (run : List Posting) : PostingList :=
  if algorithm = .sentinel then (bare run).pushSentinel else bare run

theorem hasSentinel_eq_false {list : PostingList} {run : List Posting}
    (ids : list.ids.toList = run.map Posting.id)
    (real : ∀ posting ∈ run, posting.id ≠ sentinelId) :
    list.hasSentinel = false := by
  rw [hasSentinel, lastId?, ← Array.getLast?_toList, ids,
    List.getLast?_map]
  cases last : run.getLast? with
  | none => rfl
  | some posting =>
      simpa using real posting (List.mem_of_getLast? last)

theorem arranged_link (algorithm : Algorithm) {run : List Posting}
    (increasing : Increasing run)
    (real : ∀ posting ∈ run, posting.id ≠ sentinelId) :
    Arranged algorithm (link algorithm run) run := by
  have valid := valid_bare increasing
  by_cases closed : algorithm = .sentinel
  · refine ⟨?_, increasing, real, ?_⟩
    · simpa [link, closed] using valid.pushSentinel
    · simp [link, closed, pushSentinel_eq, toList_append valid.aligned]
  · refine ⟨?_, increasing, real, ?_⟩
    · simpa [link, closed] using valid
    · simp [link, closed]

theorem dropSentinel_link (algorithm : Algorithm) {run : List Posting}
    (real : ∀ posting ∈ run, posting.id ≠ sentinelId) :
    (link algorithm run).dropSentinel = bare run := by
  by_cases closed : algorithm = .sentinel
  · have ends : ((bare run).append .sentinel).hasSentinel = true := by
      rw [append_bare, hasSentinel, lastId?_bare, List.getLast?_concat]
      rfl
    simp only [link, closed, if_true, pushSentinel_eq]
    rw [dropSentinel_eq, if_pos ends]
    simp [append, bare, SkipTable.truncate, SkipTable.empty]
  · have unclosed : (bare run).hasSentinel = false :=
      hasSentinel_eq_false (by simp [bare]) real
    simp [link, closed, dropSentinel_eq, unclosed]

namespace Arranged

variable {algorithm : Algorithm} {list : PostingList} {run : List Posting}

theorem closedOver (arranged : Arranged .sentinel list run) :
    ClosedOver list run :=
  ⟨arranged.valid.aligned, arranged.toList_eq, arranged.real⟩

theorem toList_eq_run (arranged : Arranged algorithm list run)
    (unclosed : algorithm ≠ .sentinel) : list.toList = run := by
  rw [arranged.toList_eq, if_neg unclosed]

theorem ids_eq (arranged : Arranged algorithm list run)
    (unclosed : algorithm ≠ .sentinel) :
    list.ids.toList = run.map Posting.id := by
  rw [← map_id_toList arranged.valid.aligned,
    arranged.toList_eq_run unclosed]

theorem hasSentinel_eq (arranged : Arranged algorithm list run) :
    list.hasSentinel = decide (algorithm = .sentinel) := by
  by_cases closed : algorithm = .sentinel
  · subst closed
    exact arranged.closedOver.hasSentinel
  · rw [hasSentinel_eq_false (arranged.ids_eq closed) arranged.real]
    simp [closed]

theorem intersect_outcome {other : PostingList} {others : List Posting}
    (arranged : Arranged algorithm list run)
    (otherArranged : Arranged algorithm other others) :
    (algorithm.intersect list other).outcome =
      .ok (bare (reference run others)) := by
  by_cases closed : algorithm = .sentinel
  · subst closed
    exact sentinel_outcome arranged.closedOver otherArranged.closedOver
      arranged.increasing otherArranged.increasing
  · have listRun := arranged.toList_eq_run closed
    have otherRun := otherArranged.toList_eq_run closed
    rw [← listRun, ← otherRun]
    exact intersectWith_outcome Search.locate_lawful arranged.valid
      otherArranged.valid (listRun ▸ arranged.increasing)
      (otherRun ▸ otherArranged.increasing) closed

theorem reference_link (arranged : Arranged algorithm list run)
    (others : List Posting) :
    Arranged algorithm (link algorithm (reference run others))
      (reference run others) := by
  apply arranged_link
  · exact reference_increasing arranged.increasing others
  · exact reference_real arranged.real others

end Arranged

/-! ## Whole chains -/

theorem foldl_reference_nil (runs : List (List Posting)) :
    runs.foldl reference [] = [] := by
  induction runs with
  | nil => rfl
  | cons run runs ih => exact ih

theorem chain_cons {algorithm : Algorithm} {result list : PostingList}
    {common run : List Posting} (first : Arranged algorithm result common)
    (next : Arranged algorithm list run) (lists : List PostingList) :
    (chain algorithm (decide (algorithm = .sentinel)) result
      (list :: lists)).outcome =
      if reference common run = [] then
        .ok (link algorithm (reference common run))
      else
        (chain algorithm (decide (algorithm = .sentinel))
          (link algorithm (reference common run)) lists).outcome := by
  have linked : (if decide (algorithm = .sentinel) = true then
      (bare (reference common run)).pushSentinel
      else bare (reference common run)) =
        link algorithm (reference common run) := by
    simp [link]
  rw [chain, Traced.outcome_bind_of_ok (first.intersect_outcome next)]
  simp only [linked]
  by_cases nothing : reference common run = []
  · simp [nothing, bare, PostingList.isEmpty]
  · simp [nothing, bare, PostingList.isEmpty]

theorem chain_outcome {algorithm : Algorithm} {result list : PostingList}
    {common run : List Posting} {lists : List PostingList}
    {runs : List (List Posting)} (first : Arranged algorithm result common)
    (next : Arranged algorithm list run)
    (rest : List.Forall₂ (Arranged algorithm) lists runs) :
    (chain algorithm (decide (algorithm = .sentinel)) result
      (list :: lists)).outcome =
      .ok (link algorithm ((run :: runs).foldl reference common)) := by
  induction rest generalizing result common list run with
  | nil =>
      rw [chain_cons first next]
      split
      · rfl
      · rfl
  | cons following _ ih =>
      rw [chain_cons first next]
      split
      · -- The chain stops, but no later run could have added anything.
        rename_i nothing
        rw [List.foldl_cons, nothing, foldl_reference_nil]
      · exact ih (first.reference_link _) following

/-! ## Arranging the lists -/

/-- A list by increasing id without the reserved one. -/
structure Plain (list : PostingList) : Prop where
  valid : list.Valid
  increasing : list.IncreasingIds
  below : ∀ id ∈ list.ids, id < sentinelId

theorem Plain.run {list : PostingList} (plain : Plain list) :
    Increasing list.toList :=
  (increasing_toList plain.valid.aligned).mpr plain.increasing

theorem Plain.real {list : PostingList} (plain : Plain list) :
    ∀ posting ∈ list.toList, posting.id ≠ sentinelId :=
  real_of_ids plain.valid.aligned plain.below

/-- Give every list the layout that the algorithm asks for. -/
def arrangeAll (algorithm : Algorithm) (count : Nat)
    (lists : List PostingList) : Traced (List PostingList) :=
  lists.mapM fun list => list.arrange (algorithm.layout count)

theorem arrange_outcome (algorithm : Algorithm) {count : Nat}
    (positive : 1 ≤ count) {list : PostingList} (plain : Plain list) :
    ∃ arranged, (list.arrange (algorithm.layout count)).outcome =
        .ok arranged ∧
      Arranged algorithm arranged list.toList := by
  cases algorithm with
  | sentinel =>
      have closed := pushSentinel_closedOver plain.valid plain.real
      exact ⟨list.pushSentinel, rfl, plain.valid.pushSentinel, plain.run,
        plain.real, closed.toList_eq⟩
  | skipPointers =>
      refine ⟨_, ?_, plain.valid.spaced count, plain.run, plain.real, rfl⟩
      change (list.buildSkips count).outcome = _
      rw [buildSkips_outcome, if_neg (by omega)]
  | basic | lessConditional | binarySearch | galloping | hybrid =>
      exact ⟨list, rfl, plain.valid, plain.run, plain.real, rfl⟩

theorem arrangeAll_outcome (algorithm : Algorithm) {count : Nat}
    (positive : 1 ≤ count) {lists : List PostingList}
    (plain : ∀ list ∈ lists, Plain list) :
    ∃ arranged, (arrangeAll algorithm count lists).outcome = .ok arranged ∧
      List.Forall₂ (Arranged algorithm) arranged
        (lists.map PostingList.toList) := by
  apply Traced.outcome_mapM_of_forall₂
  rw [List.forall₂_map_right_iff, List.forall₂_same]
  intro list member
  exact arrange_outcome algorithm positive (plain list member)

/-- The list holds the postings of the run, in two arrays. -/
def Holds (list : PostingList) (run : List Posting) : Prop :=
  list.ids.toList = run.map Posting.id ∧
    list.scores.toList = run.map Posting.score

theorem Holds.toList_eq {list : PostingList} {run : List Posting}
    (holds : Holds list run) : list.toList = run := by
  rw [PostingList.toList, holds.1, holds.2, List.zipWith_map,
    List.zipWith_self]
  simp

theorem Arranged.holds_dropSentinel {algorithm : Algorithm}
    {list : PostingList} {run : List Posting}
    (arranged : Arranged algorithm list run) :
    Holds list.dropSentinel run := by
  have ids := map_id_toList arranged.valid.aligned
  have scores := map_score_toList arranged.valid.aligned
  have closing := arranged.hasSentinel_eq
  rw [arranged.toList_eq] at ids scores
  rw [dropSentinel_eq, closing]
  by_cases closed : algorithm = .sentinel
  · simp [closed, Holds, ← ids, ← scores]
  · simp [closed, Holds, ← ids, ← scores]

theorem bare_holds (run : List Posting) : Holds (bare run) run := by
  simp [Holds, bare]

theorem intersectAll_of_arranged {algorithm : Algorithm}
    {first : PostingList} {rest : List PostingList} {run : List Posting}
    {runs : List (List Posting)} (firstArranged : Arranged algorithm first run)
    (restArranged : List.Forall₂ (Arranged algorithm) rest runs)
    (real : ∀ posting ∈ runs.foldl reference run,
      posting.id ≠ sentinelId) :
    ∃ result,
      (algorithm.intersectAll (first :: rest)).outcome =
        .ok (some result) ∧
      Holds result (runs.foldl reference run) ∧
      (runs ≠ [] → result = bare (runs.foldl reference run)) := by
  cases restArranged with
  | nil =>
      refine ⟨first.dropSentinel, rfl, firstArranged.holds_dropSentinel, ?_⟩
      intro others
      exact absurd rfl others
  | cons next following =>
      have chained := chain_outcome firstArranged next following
      rw [← firstArranged.hasSentinel_eq] at chained
      refine ⟨_, ?_, bare_holds _, fun _ => rfl⟩
      rw [Algorithm.intersectAll, Traced.outcome_bind_of_ok chained,
        dropSentinel_link algorithm real]
      rfl

theorem increasing_of_forall₂ {algorithm : Algorithm}
    {lists : List PostingList} {runs : List (List Posting)}
    (arranged : List.Forall₂ (Arranged algorithm) lists runs) :
    ∀ run ∈ runs, Increasing run := by
  induction arranged with
  | nil => simp
  | cons first _ ih => exact List.forall_mem_cons.mpr ⟨first.increasing, ih⟩

/-- Lists in the form that the algorithm asks for are intersected to what
their runs have in common. -/
theorem intersectAll_of_forall₂ {algorithm : Algorithm}
    {lists : List PostingList} {runs : List (List Posting)}
    (arranged : List.Forall₂ (Arranged algorithm) lists runs)
    (nonEmpty : lists ≠ []) :
    ∃ common result,
      IsCommonToAll runs common ∧
      (∀ posting ∈ common, posting.id ≠ sentinelId) ∧
      (algorithm.intersectAll lists).outcome = .ok (some result) ∧
      Holds result common ∧
      (2 ≤ lists.length → result = bare common) := by
  cases arranged with
  | nil => exact absurd rfl nonEmpty
  | cons firstArranged restArranged =>
      rename_i first run rest runs
      have isCommon := (IsCommonToAll.singleton
        firstArranged.increasing).foldl_reference
          (increasing_of_forall₂ restArranged)
      have real : ∀ posting ∈ runs.foldl reference run,
          posting.id ≠ sentinelId := by
        intro posting member
        obtain ⟨part, partMember, sameId⟩ :=
          ((isCommon.mem_iff posting).mp member).1 run (by simp)
        rw [← sameId]
        exact firstArranged.real part partMember
      obtain ⟨result, intersected, holds, form⟩ :=
        intersectAll_of_arranged firstArranged restArranged real
      refine ⟨_, result, isCommon, real, intersected, holds, ?_⟩
      intro many
      apply form
      rintro rfl
      cases restArranged
      simp at many

theorem intersectAll_outcome (algorithm : Algorithm) {count : Nat}
    (positive : 1 ≤ count) {lists : List PostingList}
    (nonEmpty : lists ≠ []) (plain : ∀ list ∈ lists, Plain list) :
    ∃ common result,
      IsCommonToAll (lists.map PostingList.toList) common ∧
      (∀ posting ∈ common, posting.id ≠ sentinelId) ∧
      (arrangeAll algorithm count lists >>=
        algorithm.intersectAll).outcome = .ok (some result) ∧
      Holds result common ∧
      (2 ≤ lists.length → result = bare common) := by
  obtain ⟨arranged, succeeded, holds⟩ :=
    arrangeAll_outcome algorithm positive plain
  have sameLength : arranged.length = lists.length := by
    rw [holds.length_eq, List.length_map]
  rw [Traced.outcome_bind_of_ok succeeded, ← sameLength]
  apply intersectAll_of_forall₂ holds
  intro nothing
  rw [nothing] at sameLength
  exact nonEmpty (List.eq_nil_of_length_eq_zero sameLength.symm)

/-- Intersecting all lists gives what they have in common, without a sentinel
and, for two or more lists, without skip pointers; so the order in which the
lists come does not matter. -/
theorem intersectAll_in_any_order (algorithm : Algorithm) {count : Nat}
    (positive : 1 ≤ count) {lists : List PostingList}
    (nonEmpty : lists ≠ []) (plain : ∀ list ∈ lists, Plain list) :
    ∃ common result,
      IsCommonToAll (lists.map PostingList.toList) common ∧
      (arrangeAll algorithm count lists >>=
        algorithm.intersectAll).outcome = .ok (some result) ∧
      Holds result common ∧
      result.hasSentinel = false ∧
      (2 ≤ lists.length → result.skips = .empty) ∧
      ∀ permuted : List PostingList, permuted.Perm lists →
        (arrangeAll algorithm count permuted >>=
          algorithm.intersectAll).outcome = .ok (some result) := by
  obtain ⟨common, result, isCommon, real, succeeded, holds, form⟩ :=
    intersectAll_outcome algorithm positive nonEmpty plain
  refine ⟨common, result, isCommon, succeeded, holds,
    hasSentinel_eq_false holds.1 real, ?_, ?_⟩
  · intro many
    rw [form many]
    rfl
  · intro permuted permutation
    by_cases many : 2 ≤ lists.length
    · obtain ⟨other, otherResult, otherIs, _, otherSucceeded, _,
          otherForm⟩ :=
        intersectAll_outcome algorithm positive
          (fun nothing => nonEmpty (by simpa [nothing] using permutation))
          (fun list member => plain list (permutation.mem_iff.mp member))
      have same : other = common :=
        otherIs.unique (isCommon.perm (permutation.map _))
      rw [otherSucceeded, otherForm (permutation.length_eq ▸ many), same,
        form many]
    · obtain ⟨single, rfl⟩ : ∃ single, lists = [single] := by
        rw [← List.length_eq_one_iff]
        have present := List.length_pos_of_ne_nil nonEmpty
        omega
      rw [List.perm_singleton.mp permutation]
      exact succeeded

/-- Three lists, of which the first two have an id in common that the third
one lacks. -/
def chainSample : List PostingList :=
  [bare [⟨-4, 1⟩, ⟨3, 9223372036854775807⟩, ⟨8, 2⟩],
   bare [⟨3, 1⟩, ⟨5, 7⟩, ⟨8, 2⟩],
   bare [⟨-9, 0⟩, ⟨3, 5⟩]]

theorem intersectAll_sample_in_any_order :
    ∃ common,
      IsCommonToAll (chainSample.map PostingList.toList) common ∧
      Holds (bare [⟨3, -9223372036854775803⟩]) common ∧
      ∀ permuted : List PostingList, permuted.Perm chainSample →
        (arrangeAll .sentinel 1 permuted >>=
          Algorithm.sentinel.intersectAll).outcome =
            .ok (some (bare [⟨3, -9223372036854775803⟩])) := by
  have plain : ∀ list ∈ chainSample, Plain list := by
    intro list member
    simp only [chainSample, List.mem_cons, List.not_mem_nil,
      or_false] at member
    rcases member with rfl | rfl | rfl
    · exact ⟨valid_bare (by decide), by decide, below_of_all (by decide)⟩
    · exact ⟨valid_bare (by decide), by decide, below_of_all (by decide)⟩
    · exact ⟨valid_bare (by decide), by decide, below_of_all (by decide)⟩
  obtain ⟨common, result, isCommon, succeeded, holds, _, _, inAnyOrder⟩ :=
    intersectAll_in_any_order .sentinel (Nat.le_refl 1) (by decide) plain
  have computed : (arrangeAll .sentinel 1 chainSample >>=
      Algorithm.sentinel.intersectAll).outcome =
        .ok (some (bare [⟨3, -9223372036854775803⟩])) := by
    decide +kernel
  rw [computed] at succeeded
  cases succeeded
  exact ⟨common, isCommon, holds, inAnyOrder⟩

end Intersection

end Postings
