import Mathlib.Data.List.Perm.Basic
import Postings.Proofs.PostingList.Invariant

/-!
# The reference intersection

What two runs of postings have in common can be said without any cursor:
one posting for each id that occurs in both, by increasing id, whose score is
the sum of the two scores.  `IsIntersection` says so, and it leaves no choice.

`reference` looks up every posting of the left run in the right one.  It
meets the specification on runs by increasing id, and the cursors of the
algorithms are compared with it: its equations say what a cursor may skip.

What many runs have in common is specified in the same way: the ids that
occur in every run, each with its scores in all runs added up.  Neither the
order of the runs nor the way in which they are intersected two at a time is
part of the specification.
-/

namespace Postings

/-- The postings that two runs have in common, added up. -/
structure IsIntersection (lefts rights common : List Posting) : Prop where
  increasing : Increasing common
  mem_iff : ∀ posting, posting ∈ common ↔
    ∃ left ∈ lefts, ∃ right ∈ rights,
      posting.id = left.id ∧ posting.id = right.id ∧
        posting.score = left.score + right.score

namespace IsIntersection

theorem unique {lefts rights first second : List Posting}
    (firstIs : IsIntersection lefts rights first)
    (secondIs : IsIntersection lefts rights second) : first = second := by
  apply firstIs.increasing.eq_of_mem_iff secondIs.increasing
  intro posting
  rw [firstIs.mem_iff, secondIs.mem_iff]

theorem symm {lefts rights common : List Posting}
    (intersection : IsIntersection lefts rights common) :
    IsIntersection rights lefts common := by
  refine ⟨intersection.increasing, ?_⟩
  intro posting
  rw [intersection.mem_iff]
  constructor
  · rintro ⟨left, leftMember, right, rightMember, leftId, rightId, score⟩
    exact ⟨right, rightMember, left, leftMember, rightId, leftId,
      by rw [score, Int64.add_comm]⟩
  · rintro ⟨right, rightMember, left, leftMember, rightId, leftId, score⟩
    exact ⟨left, leftMember, right, rightMember, leftId, rightId,
      by rw [score, Int64.add_comm]⟩

end IsIntersection

/-! ## Looking up every posting -/

/-- The first posting of a run with the given id. -/
def partner? (postings : List Posting) (id : Int64) : Option Posting :=
  postings.find? fun posting => posting.id == id

/-- Look up every posting of the left run in the right one. -/
def reference (lefts rights : List Posting) : List Posting :=
  lefts.filterMap fun left => (partner? rights left.id).map left.combine

@[simp] theorem reference_nil_left (rights : List Posting) :
    reference [] rights = [] := rfl

@[simp] theorem reference_nil_right (lefts : List Posting) :
    reference lefts [] = [] := by
  simp [reference, partner?]

theorem partner?_eq_none {postings : List Posting} {id : Int64}
    (absent : ∀ posting ∈ postings, posting.id ≠ id) :
    partner? postings id = none := by
  simpa [partner?] using absent

/-- At most one posting of the run has the id. -/
def Single (postings : List Posting) (id : Int64) : Prop :=
  ∀ first ∈ postings, ∀ second ∈ postings,
    first.id = id → second.id = id → first = second

theorem Increasing.single {postings : List Posting}
    (increasing : Increasing postings) (id : Int64) :
    Single postings id := by
  intro first firstMember second secondMember firstId secondId
  exact increasing.eq_of_id_eq firstMember secondMember
    (firstId.trans secondId.symm)

theorem partner?_of_single {postings : List Posting} {posting : Posting}
    (single : Single postings posting.id) (member : posting ∈ postings) :
    partner? postings posting.id = some posting := by
  cases found : partner? postings posting.id with
  | none =>
      have absent := List.find?_eq_none.mp found posting member
      simp at absent
  | some other =>
      have otherMember := List.mem_of_find?_eq_some found
      have otherId : other.id = posting.id := by
        simpa using List.find?_some found
      rw [single other otherMember posting member otherId rfl]

theorem partner?_eq_some {postings : List Posting} {posting : Posting}
    (increasing : Increasing postings) (member : posting ∈ postings) :
    partner? postings posting.id = some posting :=
  partner?_of_single (increasing.single posting.id) member

theorem reference_cons_of_absent {left : Posting}
    (lefts : List Posting) {rights : List Posting}
    (absent : ∀ right ∈ rights, right.id ≠ left.id) :
    reference (left :: lefts) rights = reference lefts rights := by
  simp [reference, partner?_eq_none absent]

theorem reference_cons_of_partner {left right : Posting}
    (lefts : List Posting) {rights : List Posting}
    (found : partner? rights left.id = some right) :
    reference (left :: lefts) rights =
      left.combine right :: reference lefts rights := by
  simp [reference, found]

/-- Right postings that no left posting asks for may be skipped. -/
theorem reference_append_of_absent {lefts front : List Posting}
    (back : List Posting)
    (absent : ∀ left ∈ lefts, ∀ right ∈ front, right.id ≠ left.id) :
    reference lefts (front ++ back) = reference lefts back := by
  apply List.filterMap_congr
  intro left member
  have skipped := partner?_eq_none (absent left member)
  simp only [partner?] at skipped ⊢
  rw [List.find?_append, skipped, Option.none_or]

theorem reference_append_of_absent_back {lefts back : List Posting}
    (front : List Posting)
    (absent : ∀ left ∈ lefts, ∀ right ∈ back, right.id ≠ left.id) :
    reference lefts (front ++ back) = reference lefts front := by
  apply List.filterMap_congr
  intro left member
  have skipped := partner?_eq_none (absent left member)
  simp only [partner?] at skipped ⊢
  rw [List.find?_append, skipped, Option.or_none]

theorem mem_reference {lefts rights : List Posting}
    (rightIncreasing : Increasing rights) (posting : Posting) :
    posting ∈ reference lefts rights ↔
      ∃ left ∈ lefts, ∃ right ∈ rights,
        posting.id = left.id ∧ posting.id = right.id ∧
          posting.score = left.score + right.score := by
  simp only [reference, List.mem_filterMap, Option.map_eq_some_iff]
  constructor
  · rintro ⟨left, leftMember, right, found, rfl⟩
    have rightMember := List.mem_of_find?_eq_some found
    have sameId : right.id = left.id := by
      simpa using List.find?_some found
    exact ⟨left, leftMember, right, rightMember, rfl, sameId.symm, rfl⟩
  · rintro ⟨left, leftMember, right, rightMember, leftId, rightId, score⟩
    refine ⟨left, leftMember, right, ?_, ?_⟩
    · rw [← leftId, rightId]
      exact partner?_eq_some rightIncreasing rightMember
    · cases posting
      simp_all [Posting.combine]

theorem reference_increasing {lefts : List Posting}
    (leftIncreasing : Increasing lefts) (rights : List Posting) :
    Increasing (reference lefts rights) := by
  apply List.Pairwise.filterMap _ _ leftIncreasing
  intro earlier later below first firstFound second secondFound
  simp only [Option.map_eq_some_iff] at firstFound secondFound
  obtain ⟨_, _, rfl⟩ := firstFound
  obtain ⟨_, _, rfl⟩ := secondFound
  exact below

theorem reference_real {lefts : List Posting}
    (real : ∀ posting ∈ lefts, posting.id ≠ sentinelId)
    (rights : List Posting) :
    ∀ posting ∈ reference lefts rights, posting.id ≠ sentinelId := by
  intro posting member
  simp only [reference, List.mem_filterMap, Option.map_eq_some_iff] at member
  obtain ⟨left, leftMember, right, _, rfl⟩ := member
  exact real left leftMember

theorem reference_isIntersection {lefts rights : List Posting}
    (leftIncreasing : Increasing lefts)
    (rightIncreasing : Increasing rights) :
    IsIntersection lefts rights (reference lefts rights) :=
  ⟨reference_increasing leftIncreasing rights,
    mem_reference rightIncreasing⟩

/-- Which run is looked up in which does not matter. -/
theorem reference_comm {lefts rights : List Posting}
    (leftIncreasing : Increasing lefts)
    (rightIncreasing : Increasing rights) :
    reference rights lefts = reference lefts rights :=
  (reference_isIntersection rightIncreasing leftIncreasing).symm.unique
    (reference_isIntersection leftIncreasing rightIncreasing)

/-! ## What many runs have in common -/

/-- The scores of an id in all runs, added up. -/
def totalScore (runs : List (List Posting)) (id : Int64) : Int64 :=
  ((runs.flatten.filter fun posting => posting.id == id).map
    Posting.score).sum

theorem totalScore_append (runs more : List (List Posting)) (id : Int64) :
    totalScore (runs ++ more) id =
      totalScore runs id + totalScore more id := by
  simp only [totalScore, List.flatten_append, List.filter_append,
    List.map_append, List.sum_append]

theorem totalScore_singleton {run : List Posting}
    (increasing : Increasing run) {part : Posting} (member : part ∈ run) :
    totalScore [run] part.id = part.score := by
  have single :
      (run.filter fun posting => posting.id == part.id) = [part] := by
    apply Increasing.eq_of_mem_iff (List.Pairwise.filter _ increasing)
      (List.pairwise_singleton _ part)
    intro posting
    rw [List.mem_filter, List.mem_singleton, beq_iff_eq]
    constructor
    · rintro ⟨postingMember, sameId⟩
      exact increasing.eq_of_id_eq postingMember member sameId
    · rintro rfl
      exact ⟨member, rfl⟩
  simp [totalScore, single]

theorem totalScore_perm {runs permuted : List (List Posting)}
    (permutation : permuted.Perm runs) (id : Int64) :
    totalScore permuted id = totalScore runs id :=
  ((permutation.flatten.filter _).map _).foldr_eq 0

/-- The postings that all runs have in common, added up. -/
structure IsCommonToAll (runs : List (List Posting))
    (common : List Posting) : Prop where
  increasing : Increasing common
  mem_iff : ∀ posting, posting ∈ common ↔
    (∀ run ∈ runs, ∃ part ∈ run, part.id = posting.id) ∧
      posting.score = totalScore runs posting.id

namespace IsCommonToAll

theorem unique {runs : List (List Posting)} {first second : List Posting}
    (firstIs : IsCommonToAll runs first)
    (secondIs : IsCommonToAll runs second) : first = second := by
  apply firstIs.increasing.eq_of_mem_iff secondIs.increasing
  intro posting
  rw [firstIs.mem_iff, secondIs.mem_iff]

theorem perm {runs permuted : List (List Posting)} {common : List Posting}
    (isCommon : IsCommonToAll runs common)
    (permutation : permuted.Perm runs) : IsCommonToAll permuted common := by
  refine ⟨isCommon.increasing, ?_⟩
  intro posting
  rw [isCommon.mem_iff, totalScore_perm permutation]
  simp only [permutation.mem_iff]

theorem singleton {run : List Posting} (increasing : Increasing run) :
    IsCommonToAll [run] run := by
  refine ⟨increasing, ?_⟩
  intro posting
  constructor
  · intro member
    refine ⟨?_, (totalScore_singleton increasing member).symm⟩
    rintro other otherMember
    rw [List.mem_singleton.mp otherMember]
    exact ⟨posting, member, rfl⟩
  · rintro ⟨everywhere, score⟩
    obtain ⟨part, member, sameId⟩ :=
      everywhere run (List.mem_singleton_self run)
    rw [← sameId, totalScore_singleton increasing member] at score
    have same : posting = part := Posting.ext sameId.symm score
    rw [same]
    exact member

theorem concat {runs : List (List Posting)} {common run : List Posting}
    (isCommon : IsCommonToAll runs common) (increasing : Increasing run) :
    IsCommonToAll (runs ++ [run]) (reference common run) := by
  have intersection :=
    reference_isIntersection isCommon.increasing increasing
  refine ⟨intersection.increasing, ?_⟩
  intro posting
  rw [intersection.mem_iff, totalScore_append]
  constructor
  · rintro ⟨left, leftMember, right, rightMember, leftId, rightId, score⟩
    obtain ⟨everywhere, leftScore⟩ := (isCommon.mem_iff left).mp leftMember
    constructor
    · intro other otherMember
      rcases List.mem_append.mp otherMember with before | last
      · rw [leftId]
        exact everywhere other before
      · rw [List.mem_singleton.mp last]
        exact ⟨right, rightMember, rightId.symm⟩
    · rw [score, leftScore, ← leftId, rightId,
        totalScore_singleton increasing rightMember]
  · rintro ⟨everywhere, score⟩
    obtain ⟨right, rightMember, rightId⟩ := everywhere run (by simp)
    have left : ⟨posting.id, totalScore runs posting.id⟩ ∈ common := by
      rw [isCommon.mem_iff]
      exact ⟨fun other before => everywhere other (by simp [before]), rfl⟩
    refine ⟨_, left, right, rightMember, rfl, rightId.symm, ?_⟩
    rw [score, ← rightId, totalScore_singleton increasing rightMember]

theorem foldl_reference {runs more : List (List Posting)}
    {common : List Posting} (isCommon : IsCommonToAll runs common)
    (increasing : ∀ run ∈ more, Increasing run) :
    IsCommonToAll (runs ++ more) (more.foldl reference common) := by
  induction more generalizing runs common with
  | nil => simpa using isCommon
  | cons run more ih =>
      have extended := isCommon.concat (increasing run List.mem_cons_self)
      have rest := ih extended
        (fun other member => increasing other (List.mem_cons_of_mem _ member))
      simpa using rest

end IsCommonToAll

end Postings
