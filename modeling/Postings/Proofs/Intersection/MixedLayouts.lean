import Postings.Proofs.Input.Loading
import Postings.Proofs.Intersection.Capped

/-!
# Chains of lists in mixed layouts

A chain may be given lists in layouts that its algorithm does not ask for.
Then the algorithm matches sentinels as if they were postings, and each link
of a chain whose first list is closed gets one more sentinel on top of a
matched one.  One sentinel is taken off in the end; so the result still has
one exactly if the last list is closed and the chain gets that far.
-/

namespace Postings

namespace Intersection

open PostingList

/-! ## Lists from files -/

/-- The list was loaded from some stream in some layout. -/
def IsLoaded (list : PostingList) : Prop :=
  ∃ layout stream, (PostingFile.load layout stream).outcome = .ok list

theorem IsLoaded.arranged {list : PostingList} (loaded : IsLoaded list) :
    ∃ algorithm run, Arranged algorithm list run := by
  obtain ⟨layout, stream, loaded⟩ := loaded
  have usable := (PostingFile.load_eq_ok.mp loaded).1
  obtain ⟨algorithm, count, positive, rfl⟩ :
      ∃ (algorithm : Algorithm) (count : Nat), 1 ≤ count ∧
        layout = algorithm.layout count := by
    cases layout with
    | plain => exact ⟨.basic, 1, Nat.le_refl 1, rfl⟩
    | sentinel => exact ⟨.sentinel, 1, Nat.le_refl 1, rfl⟩
    | skipPointers count =>
        refine ⟨.skipPointers, count, ?_, rfl⟩
        apply Nat.pos_of_ne_zero
        rintro rfl
        exact usable rfl
  rw [PostingFile.outcome_load_eq_arrange usable,
    Outcome.bind_eq_ok] at loaded
  obtain ⟨plain, plainLoaded, arranged⟩ := loaded
  obtain ⟨other, otherArranged, isArranged⟩ := arrange_outcome algorithm
    positive (PostingFile.plain_of_load plainLoaded)
  rw [arranged] at otherArranged
  cases otherArranged
  exact ⟨algorithm, _, isArranged⟩

theorem Arranged.capped {algorithm : Algorithm} {list : PostingList}
    {run : List Posting} (arranged : Arranged algorithm list run) :
    Capped list run
      (if algorithm = .sentinel then [.sentinel] else []) where
  valid := arranged.valid
  increasing := arranged.increasing
  real := arranged.real
  reserved := by
    intro posting member
    split at member
    · rw [List.mem_singleton.mp member]
      rfl
    · cases member
  toList_eq := by
    rw [arranged.toList_eq]
    split
    · rfl
    · rw [List.append_nil]

theorem IsLoaded.capped {list : PostingList} (loaded : IsLoaded list) :
    ∃ run caps, Capped list run caps ∧ caps.length ≤ 1 := by
  obtain ⟨algorithm, run, arranged⟩ := loaded.arranged
  refine ⟨run, _, arranged.capped, ?_⟩
  split
  · exact Nat.le_refl 1
  · exact Nat.zero_le 1

/-! ## The ids of a chain -/

/-- The ids of the run are the real ids that all lists have. -/
def CommonIds (common : List Posting) (lists : List PostingList) : Prop :=
  ∀ id, (∃ posting ∈ common, posting.id = id) ↔
    id ≠ sentinelId ∧ ∀ list ∈ lists, id ∈ list.ids

theorem Capped.commonIds {list : PostingList} {run caps : List Posting}
    (capped : Capped list run caps) : CommonIds run [list] := by
  intro id
  rw [List.forall_mem_singleton, ← Array.mem_toList_iff,
    ← map_id_toList capped.valid.aligned, capped.toList_eq, List.mem_map]
  constructor
  · intro occurs
    obtain ⟨posting, member, rfl⟩ := occurs
    exact ⟨capped.real posting member, posting,
      List.mem_append_left caps member, rfl⟩
  · intro occurs
    obtain ⟨real, posting, member, rfl⟩ := occurs
    rcases List.mem_append.mp member with inside | cap
    · exact ⟨posting, inside, rfl⟩
    · exact absurd (capped.reserved posting cap) real

theorem CommonIds.concat {common run caps : List Posting}
    {lists : List PostingList} {list : PostingList}
    (isCommon : CommonIds common lists) (capped : Capped list run caps) :
    CommonIds (reference common run) (lists ++ [list]) := by
  intro id
  have last := capped.commonIds id
  rw [List.forall_mem_singleton] at last
  rw [List.forall_mem_append, List.forall_mem_singleton]
  constructor
  · intro occurs
    obtain ⟨posting, member, rfl⟩ := occurs
    obtain ⟨left, leftMember, right, rightMember, leftId, rightId, _⟩ :=
      (mem_reference capped.increasing posting).mp member
    obtain ⟨real, everywhere⟩ :=
      (isCommon posting.id).mp ⟨left, leftMember, leftId.symm⟩
    exact ⟨real, everywhere,
      (last.mp ⟨right, rightMember, rightId.symm⟩).2⟩
  · intro occurs
    obtain ⟨real, everywhere, here⟩ := occurs
    obtain ⟨left, leftMember, leftId⟩ :=
      (isCommon id).mpr ⟨real, everywhere⟩
    obtain ⟨right, rightMember, rightId⟩ := last.mpr ⟨real, here⟩
    refine ⟨left.combine right, ?_, leftId⟩
    exact (mem_reference capped.increasing _).mpr
      ⟨left, leftMember, right, rightMember, rfl,
        leftId.trans rightId.symm, rfl⟩

/-- The lists have a real id in common. -/
def ShareId (lists : List PostingList) : Prop :=
  ∃ id, id ≠ sentinelId ∧ ∀ list ∈ lists, id ∈ list.ids

theorem CommonIds.shareId_iff {common : List Posting}
    {lists : List PostingList} (isCommon : CommonIds common lists) :
    ShareId lists ↔ common ≠ [] := by
  constructor
  · intro shared nothing
    obtain ⟨id, occurs⟩ := shared
    obtain ⟨posting, member, _⟩ := (isCommon id).mpr occurs
    rw [nothing] at member
    cases member
  · intro present
    obtain ⟨posting, member⟩ := List.exists_mem_of_ne_nil common present
    exact ⟨posting.id, (isCommon posting.id).mp ⟨posting, member, rfl⟩⟩

/-- Wherever the lists that come after the earlier ones are open, all lists
up to there have a real id in common. -/
def Linked (earlier lists : List PostingList) : Prop :=
  ∀ part, part <+: lists →
    (∃ last ∈ part.getLast?, last.hasSentinel = false) →
    ShareId (earlier ++ part)

theorem linked_nil (earlier : List PostingList) : Linked earlier [] := by
  intro part isPart final
  rw [List.prefix_nil.mp isPart] at final
  obtain ⟨last, isLast, _⟩ := final
  cases isLast

theorem linked_cons {earlier lists : List PostingList}
    {list : PostingList} :
    Linked earlier (list :: lists) ↔
      (list.hasSentinel = false → ShareId (earlier ++ [list])) ∧
        Linked (earlier ++ [list]) lists := by
  constructor
  · intro linked
    refine ⟨fun unclosed => linked [list] (by simp) ⟨list, rfl, unclosed⟩,
      ?_⟩
    intro part isPart final
    obtain ⟨last, isLast, unclosed⟩ := final
    rw [List.append_assoc]
    apply linked (list :: part) (List.prefix_cons_inj list |>.mpr isPart)
    refine ⟨last, ?_, unclosed⟩
    cases part with
    | nil => cases isLast
    | cons next part => rwa [List.getLast?_cons_cons]
  · intro linked part isPart final
    obtain ⟨here, later⟩ := linked
    obtain ⟨last, isLast, unclosed⟩ := final
    cases part with
    | nil => cases isLast
    | cons next part =>
        obtain ⟨rfl, isRest⟩ := List.cons_prefix_cons.mp isPart
        cases part with
        | nil =>
            cases isLast
            exact here unclosed
        | cons following part =>
            rw [List.getLast?_cons_cons] at isLast
            have shared := later _ isRest ⟨last, isLast, unclosed⟩
            rwa [List.append_assoc] at shared

/-! ## Chains that begin with a closed list -/

section Chains

variable {algorithm : Algorithm} (tolerant : algorithm ≠ .sentinel)
variable {earlier : List PostingList} {result list : PostingList}
  {common caps : List Posting}

include tolerant

/-- One more list: its sentinel is matched, and the next link is closed on
top of that. -/
theorem chain_cons_of_closed (capped : Capped result common caps)
    (closed : caps ≠ []) (isCommon : CommonIds common earlier)
    (loaded : IsLoaded list) (lists : List PostingList) :
    ∃ next nextCommon nextCaps,
      Capped next nextCommon nextCaps ∧ nextCaps ≠ [] ∧
      CommonIds nextCommon (earlier ++ [list]) ∧
      (nextCaps.dropLast ≠ [] ↔ list.hasSentinel = true) ∧
      (chain algorithm true result (list :: lists)).outcome =
        if nextCommon = [] ∧ list.hasSentinel = false then .ok next
        else (chain algorithm true next lists).outcome := by
  obtain ⟨run, listCaps, listCapped, few⟩ := loaded.capped
  obtain ⟨matched, matchedCaps, intersected, matchedCapped, length⟩ :=
    intersectWith_of_capped Search.locate_lawful tolerant capped listCapped
      (.inr few)
  have sameCaps : matchedCaps ≠ [] ↔ list.hasSentinel = true := by
    rw [listCapped.hasSentinel_iff, ← List.length_pos_iff,
      ← List.length_pos_iff, length]
    have present := List.length_pos_iff.mpr closed
    omega
  refine ⟨matched.pushSentinel, _, _, matchedCapped.pushSentinel, by simp,
    isCommon.concat listCapped, by simpa using sameCaps, ?_⟩
  have empty : matched.isEmpty = true ↔
      reference common run = [] ∧ list.hasSentinel = false := by
    rw [matchedCapped.isEmpty_iff, ← Bool.not_eq_true, ← sameCaps,
      not_not]
  rw [chain, Algorithm.intersect, Traced.outcome_bind_of_ok intersected]
  simp only [if_true, empty]
  split
  · rfl
  · rfl

/-- The result of a chain of closed links keeps a sentinel exactly if the
last list is closed and the chain gets that far. -/
theorem chain_of_closed (capped : Capped result common caps)
    (closed : caps ≠ []) (isCommon : CommonIds common earlier)
    {lists : List PostingList}
    (loaded : ∀ other ∈ list :: lists, IsLoaded other) :
    ∃ final,
      (chain algorithm true result (list :: lists)).outcome = .ok final ∧
      (final.dropSentinel.hasSentinel = true ↔
        (∃ last ∈ (list :: lists).getLast?, last.hasSentinel = true) ∧
          Linked earlier (list :: lists)) := by
  induction lists generalizing earlier result list common caps with
  | nil =>
      obtain ⟨next, nextCommon, nextCaps, nextCapped, _, _, sameCaps,
        outcome⟩ := chain_cons_of_closed tolerant capped closed isCommon
          (loaded list List.mem_cons_self) []
      refine ⟨next, ?_, ?_⟩
      · rw [outcome]
        split
        · rfl
        · rfl
      · rw [nextCapped.dropSentinel.hasSentinel_iff, sameCaps, linked_cons]
        constructor
        · intro listClosed
          refine ⟨⟨list, rfl, listClosed⟩, ?_, linked_nil _⟩
          intro unclosed
          rw [listClosed] at unclosed
          cases unclosed
        · intro keeps
          obtain ⟨⟨last, isLast, lastClosed⟩, _⟩ := keeps
          cases isLast
          exact lastClosed
  | cons following lists ih =>
      obtain ⟨next, nextCommon, nextCaps, nextCapped, nextClosed,
        nextIsCommon, sameCaps, outcome⟩ := chain_cons_of_closed tolerant
          capped closed isCommon (loaded list List.mem_cons_self)
          (following :: lists)
      by_cases stops : nextCommon = [] ∧ list.hasSentinel = false
      · rw [if_pos stops] at outcome
        refine ⟨next, outcome, ?_⟩
        rw [nextCapped.dropSentinel.hasSentinel_iff, sameCaps, linked_cons,
          nextIsCommon.shareId_iff]
        simp [stops]
      · rw [if_neg stops] at outcome
        obtain ⟨final, succeeded, keeps⟩ := ih nextCapped nextClosed
          nextIsCommon (List.forall_mem_cons.mp loaded).2
        have here : list.hasSentinel = false →
            ShareId (earlier ++ [list]) := by
          intro unclosed
          apply nextIsCommon.shareId_iff.mpr
          intro nothing
          exact stops ⟨nothing, unclosed⟩
        have goesOn : Linked earlier (list :: following :: lists) ↔
            Linked (earlier ++ [list]) (following :: lists) := by
          rw [linked_cons]
          exact and_iff_right here
        refine ⟨final, outcome.trans succeeded, ?_⟩
        rw [keeps, goesOn, List.getLast?_cons_cons]

theorem chain_of_open (capped : Capped result common [])
    {lists : List PostingList} (loaded : ∀ other ∈ lists, IsLoaded other) :
    ∃ final run,
      (chain algorithm false result lists).outcome = .ok final ∧
      Capped final run [] := by
  induction lists generalizing result common with
  | nil => exact ⟨result, common, rfl, capped⟩
  | cons list lists ih =>
      obtain ⟨here, later⟩ := List.forall_mem_cons.mp loaded
      obtain ⟨run, listCaps, listCapped, _⟩ := here.capped
      obtain ⟨next, nextCaps, intersected, nextCapped, length⟩ :=
        intersectWith_of_capped Search.locate_lawful tolerant capped
          listCapped (.inl (Nat.zero_le 1))
      have noCaps : nextCaps = [] := by
        apply List.eq_nil_of_length_eq_zero
        rw [length, List.length_nil, Nat.zero_min]
      subst noCaps
      rw [chain, Algorithm.intersect, Traced.outcome_bind_of_ok intersected]
      simp only [Bool.false_eq_true, if_false]
      split
      · exact ⟨next, _, rfl, nextCapped⟩
      · exact ih nextCapped later

end Chains

/-! ## The algorithm that needs sentinels -/

theorem sentinel_succeeds_only_if_closed {left right result : PostingList}
    (succeeded : (Algorithm.sentinel.intersect left right).outcome =
      .ok result) :
    left.hasSentinel = true ∧ right.hasSentinel = true := by
  by_cases closed : left.hasSentinel = true ∧ right.hasSentinel = true
  · exact closed
  · have failed : (Algorithm.sentinel.intersect left right).outcome =
        .error (.fault .missingSentinel) := by
      change (sentinel left right).outcome = _
      rw [sentinel, if_neg closed]
      rfl
    rw [failed] at succeeded
    cases succeeded

theorem IsLoaded.arranged_sentinel {list : PostingList}
    (loaded : IsLoaded list) (closed : list.hasSentinel = true) :
    ∃ run, Arranged .sentinel list run := by
  obtain ⟨algorithm, run, arranged⟩ := loaded.arranged
  have isSentinel : algorithm = .sentinel := by
    rw [arranged.hasSentinel_eq] at closed
    exact of_decide_eq_true closed
  subst isSentinel
  exact ⟨run, arranged⟩

/-- As far as such a chain gets, its links are closed once. -/
theorem chain_of_arranged_sentinel {result final : PostingList}
    {common : List Posting} (arranged : Arranged .sentinel result common)
    {lists : List PostingList} (loaded : ∀ list ∈ lists, IsLoaded list)
    (succeeded : (chain .sentinel true result lists).outcome = .ok final) :
    ∃ run, Arranged .sentinel final run := by
  induction lists generalizing result common with
  | nil =>
      cases succeeded
      exact ⟨common, arranged⟩
  | cons list lists ih =>
      obtain ⟨here, later⟩ := List.forall_mem_cons.mp loaded
      have closed : list.hasSentinel = true := by
        rw [chain, Traced.outcome_bind_eq_ok] at succeeded
        obtain ⟨next, intersected, _⟩ := succeeded
        exact (sentinel_succeeds_only_if_closed intersected).2
      obtain ⟨run, listArranged⟩ := here.arranged_sentinel closed
      have step := chain_cons arranged listArranged lists
      rw [decide_eq_true rfl, succeeded] at step
      have nextArranged := arranged.reference_link run
      split at step
      · cases step
        exact ⟨_, nextArranged⟩
      · exact ih nextArranged later step.symm

/-! ## Whole results -/

/-- When intersecting all lists leaves a sentinel: the algorithm takes
sentinels for postings, the first and the last of several lists are closed,
and the chain does not stop at an open list in between. -/
structure KeepsSentinel (algorithm : Algorithm)
    (lists : List PostingList) : Prop where
  tolerant : algorithm ≠ .sentinel
  several : 2 ≤ lists.length
  firstClosed : ∃ first ∈ lists.head?, first.hasSentinel = true
  lastClosed : ∃ last ∈ lists.getLast?, last.hasSentinel = true
  linked : Linked [] lists

theorem intersectAll_cons_eq_ok {algorithm : Algorithm}
    {first result : PostingList} {rest : List PostingList} :
    (algorithm.intersectAll (first :: rest)).outcome = .ok (some result) ↔
      ∃ final,
        (chain algorithm first.hasSentinel first rest).outcome = .ok final ∧
        final.dropSentinel = result := by
  rw [Algorithm.intersectAll, Traced.outcome_bind_eq_ok]
  simp only [Traced.outcome_pure, Except.ok.injEq, Option.some.injEq]

theorem dropSentinel_open {algorithm : Algorithm} {list : PostingList}
    {run : List Posting} (arranged : Arranged algorithm list run) :
    list.dropSentinel.hasSentinel = false :=
  hasSentinel_eq_false arranged.holds_dropSentinel.1 arranged.real

/-- Lists in any layouts, intersected with an algorithm that needs no
sentinels. -/
theorem intersectAll_keeps_iff {algorithm : Algorithm}
    (tolerant : algorithm ≠ .sentinel) {first : PostingList}
    {rest : List PostingList}
    (loaded : ∀ list ∈ first :: rest, IsLoaded list) :
    ∃ result,
      (algorithm.intersectAll (first :: rest)).outcome =
        .ok (some result) ∧
      (result.hasSentinel = true ↔
        KeepsSentinel algorithm (first :: rest)) := by
  obtain ⟨firstLoaded, restLoaded⟩ := List.forall_mem_cons.mp loaded
  obtain ⟨run, caps, capped, few⟩ := firstLoaded.capped
  simp only [intersectAll_cons_eq_ok]
  cases opening : first.hasSentinel with
  | false =>
      have noCaps : caps = [] := by
        by_contra present
        rw [capped.hasSentinel_iff.mpr present] at opening
        cases opening
      subst noCaps
      obtain ⟨final, finalRun, chained, finalCapped⟩ :=
        chain_of_open tolerant capped restLoaded
      refine ⟨_, ⟨final, chained, rfl⟩, ?_⟩
      rw [finalCapped.dropSentinel.hasSentinel_iff]
      constructor
      · intro present
        exact absurd rfl present
      · intro keeps
        obtain ⟨_, isFirst, closed⟩ := keeps.firstClosed
        cases isFirst
        rw [opening] at closed
        cases closed
  | true =>
      have present := capped.hasSentinel_iff.mp opening
      cases rest with
      | nil =>
          obtain ⟨_, _, arranged⟩ := firstLoaded.arranged
          refine ⟨_, ⟨first, rfl, rfl⟩, ?_⟩
          rw [dropSentinel_open arranged]
          constructor
          · intro closed
            cases closed
          · intro keeps
            have several := keeps.several
            rw [List.length_singleton] at several
            omega
      | cons next rest =>
          obtain ⟨final, chained, keeps⟩ := chain_of_closed tolerant capped
            present capped.commonIds restLoaded
          refine ⟨_, ⟨final, chained, rfl⟩, ?_⟩
          rw [keeps]
          constructor
          · intro final
            obtain ⟨lastClosed, linked⟩ := final
            exact
              { tolerant := tolerant
                several := by simp
                firstClosed := ⟨first, rfl, opening⟩
                lastClosed := by rwa [List.getLast?_cons_cons]
                linked := linked_cons.mpr ⟨by simp [opening], linked⟩ }
          · intro keeps
            have lastClosed := keeps.lastClosed
            rw [List.getLast?_cons_cons] at lastClosed
            exact ⟨lastClosed, (linked_cons.mp keeps.linked).2⟩

theorem intersectAll_sentinel_open {first result : PostingList}
    {rest : List PostingList}
    (loaded : ∀ list ∈ first :: rest, IsLoaded list)
    (succeeded : (Algorithm.sentinel.intersectAll (first :: rest)).outcome =
      .ok (some result)) : result.hasSentinel = false := by
  obtain ⟨firstLoaded, restLoaded⟩ := List.forall_mem_cons.mp loaded
  obtain ⟨final, chained, rfl⟩ := intersectAll_cons_eq_ok.mp succeeded
  cases opening : first.hasSentinel with
  | true =>
      obtain ⟨run, arranged⟩ := firstLoaded.arranged_sentinel opening
      rw [opening] at chained
      obtain ⟨finalRun, finalArranged⟩ :=
        chain_of_arranged_sentinel arranged restLoaded chained
      exact dropSentinel_open finalArranged
  | false =>
      cases rest with
      | nil =>
          cases chained
          obtain ⟨_, _, arranged⟩ := firstLoaded.arranged
          exact dropSentinel_open arranged
      | cons next rest =>
          rw [chain, Traced.outcome_bind_eq_ok] at chained
          obtain ⟨_, intersected, _⟩ := chained
          have closed := (sentinel_succeeds_only_if_closed intersected).1
          rw [opening] at closed
          cases closed

/-- Whatever the layouts of the lists are, a result is reached, unless the
algorithm misses a sentinel; and it is known when the result has one. -/
theorem intersectAll_keeps_sentinel (algorithm : Algorithm)
    {lists : List PostingList} (nonEmpty : lists ≠ [])
    (loaded : ∀ list ∈ lists, IsLoaded list) :
    (algorithm ≠ .sentinel →
      ∃ result, (algorithm.intersectAll lists).outcome =
        .ok (some result)) ∧
      ∀ result,
        (algorithm.intersectAll lists).outcome = .ok (some result) →
        (result.hasSentinel = true ↔ KeepsSentinel algorithm lists) := by
  obtain ⟨first, rest, rfl⟩ := List.exists_cons_of_ne_nil nonEmpty
  by_cases tolerant : algorithm = .sentinel
  · subst tolerant
    refine ⟨fun tolerant => absurd rfl tolerant, ?_⟩
    intro result succeeded
    rw [intersectAll_sentinel_open loaded succeeded]
    constructor
    · intro closed
      cases closed
    · intro keeps
      exact absurd rfl keeps.tolerant
  · obtain ⟨result, succeeded, keeps⟩ :=
      intersectAll_keeps_iff tolerant loaded
    refine ⟨fun _ => ⟨result, succeeded⟩, ?_⟩
    intro other otherSucceeded
    rw [succeeded] at otherSucceeded
    cases otherSucceeded
    exact keeps

/-- A list with one real posting, loaded with a sentinel. -/
def closedSample : PostingList :=
  (bare [⟨5, 1⟩]).pushSentinel

/-- A list with one real posting, loaded with a skip pointer. -/
def skippingSample : PostingList :=
  { bare [⟨5, 3⟩] with skips := .spaced 1 (Update.skipGap 1 1) }

theorem closedSample_isLoaded : IsLoaded closedSample :=
  ⟨.sentinel, [.data [49, 10, 53, 32, 49, 10]], rfl⟩

theorem skippingSample_isLoaded : IsLoaded skippingSample :=
  ⟨.skipPointers 1, [.data [49, 10, 53, 32, 51, 10]], rfl⟩

/-- The gallop leaves a sentinel between closed lists, past an open one. -/
theorem intersectAll_keeps_sentinel_sample :
    KeepsSentinel .galloping
      [closedSample, skippingSample, closedSample] := by
  have loaded : ∀ list ∈ [closedSample, skippingSample, closedSample],
      IsLoaded list := by
    simp [closedSample_isLoaded, skippingSample_isLoaded]
  have computed : (Algorithm.galloping.intersectAll
      [closedSample, skippingSample, closedSample]).outcome =
        .ok (some (bare [⟨5, 5⟩, .sentinel])) := by
    decide +kernel
  exact ((intersectAll_keeps_sentinel .galloping (by simp) loaded).2 _
    computed).mp (by decide)

/-- Two closed lists, merged: the result ends with a sentinel. -/
theorem intersectAll_result_closed :
    (∀ list ∈ [closedSample, closedSample], IsLoaded list) ∧
      ∃ result,
        (Algorithm.basic.intersectAll [closedSample, closedSample]).outcome =
          .ok (some result) ∧
        result.hasSentinel = true := by
  refine ⟨by simp [closedSample_isLoaded], bare [⟨5, 2⟩, .sentinel], ?_,
    ?_⟩
  · decide +kernel
  · decide

end Intersection

end Postings
