import Postings.Intersection.Pairwise
import Postings.Proofs.Intersection.Gallop
import Postings.Proofs.Intersection.Skip
import Postings.Proofs.PostingList.Edit

/-!
# All algorithms agree

`Emits` says which postings an algorithm may emit for two valid lists: those
that a merge finds, or those that a scan finds.  All algorithms but the one
for closed lists return the list of what they emit.

On valid lists by increasing id every algorithm returns the list of the
reference intersection, whatever skip tables the inputs carry, whatever the
threshold of the hybrid algorithm is and whichever lawful look-up the
searching algorithms use.  The algorithm for closed lists returns it for the
lists after a sentinel has been appended to each.
-/

namespace Postings

namespace PostingList

theorem byLength_eq (left right : PostingList) :
    left.byLength right = (left, right) ∨
      left.byLength right = (right, left) := by
  unfold byLength
  split
  · exact .inl rfl
  · exact .inr rfl

end PostingList

namespace Intersection

open PostingList

theorem collect_outcome {common : List Posting}
    (increasing : Increasing common) :
    (collect (.ok common)).outcome = .ok (bare common) := by
  change ((ofList common).mapError Failure.fault) = _
  rw [ofList_of_increasing increasing]
  rfl

/-- What an algorithm may emit for two lists: what a merge finds, or what a
scan of one list finds in the other. -/
inductive Emits : PostingList → PostingList → List Posting → Prop where
  | merged (left right : PostingList) :
      Emits left right (Merge.threeWay left.toList right.toList)
  | scanned {shorter longer : PostingList} {common : List Posting} :
      Scans longer 0 shorter.toList common →
      Emits shorter longer common
  | exchanged {left right : PostingList} {common : List Posting} :
      Emits right left common → Emits left right common

/-- The outcome is the list of postings that are emitted for two lists. -/
def Collects (traced : Traced PostingList) (left right : PostingList) :
    Prop :=
  ∃ common, Emits left right common ∧
    traced.outcome = (collect (.ok common)).outcome

theorem Collects.exchange {traced : Traced PostingList}
    {left right : PostingList} (collects : Collects traced right left) :
    Collects traced left right := by
  obtain ⟨common, emits, outcome⟩ := collects
  exact ⟨common, .exchanged emits, outcome⟩

section Pairs

variable {left right : PostingList}

theorem basic_collects (left right : PostingList) :
    Collects (basic left right) left right :=
  ⟨_, .merged left right, rfl⟩

theorem lessConditional_collects (left right : PostingList) :
    Collects (lessConditional left right) left right := by
  refine ⟨_, .merged left right, ?_⟩
  rw [lessConditional, Merge.alternating_eq_threeWay]

theorem skipPointers_collects (leftValid : left.Valid)
    (rightValid : right.Valid) :
    Collects (skipPointers left right) left right := by
  refine ⟨_, .merged left right, ?_⟩
  rw [skipPointers, Skip.scan_eq_alternating leftValid rightValid,
    Merge.alternating_eq_threeWay]
  rfl

variable {look : Locator}

/-- An algorithm that orders the lists by length may be judged by the ordered
pair. -/
theorem collects_of_byLength (leftValid : left.Valid)
    (rightValid : right.Valid) {traced : Traced PostingList}
    (ordered : ∀ shorter longer : PostingList,
      left.byLength right = (shorter, longer) → shorter.Valid →
        longer.Valid → Collects traced shorter longer) :
    Collects traced left right := by
  rcases left.byLength_eq right with kept | exchanged
  · exact ordered left right kept leftValid rightValid
  · exact (ordered right left exchanged rightValid leftValid).exchange

theorem binarySearch_collects (lawful : look.Lawful)
    (leftValid : left.Valid) (rightValid : right.Valid) :
    Collects (binarySearch look left right) left right := by
  apply collects_of_byLength leftValid rightValid
  intro shorter longer ordered _ longerValid
  obtain ⟨common, scanned, scans⟩ :=
    Search.scan_scans lawful longerValid shorter.toList 0
  refine ⟨common, .scanned scans, ?_⟩
  simp only [binarySearch, ordered, scanned]

/-- Once the scan has found the common postings they are collected.  After
that a stop is reported. -/
theorem galloping_of_scan {shorter longer : PostingList}
    (ordered : left.byLength right = (shorter, longer))
    {scan : Gallop.Scan}
    (scanned : Gallop.scan look longer longer.ids 0 0 shorter.toList =
      .ok scan) :
    galloping look left right =
      collect (.ok scan.common) >>= fun result =>
        match scan.stopped? with
        | none => pure result
        | some position =>
            Traced.report (.gallopStopped position shorter.size) >>=
              fun _ => pure result := by
  have succeeded : (Traced.ofFaulty (Gallop.scan look longer longer.ids 0 0
      shorter.toList)).outcome = .ok scan := by
    rw [scanned]
    rfl
  simp only [galloping, ordered]
  rw [Traced.bind_of_ok succeeded]
  rfl

theorem galloping_collects (lawful : look.Lawful)
    (leftValid : left.Valid) (rightValid : right.Valid) :
    Collects (galloping look left right) left right := by
  apply collects_of_byLength leftValid rightValid
  intro shorter longer ordered shorterValid longerValid
  obtain ⟨result, scanned, scans⟩ := Gallop.scan_scans lawful longerValid
    shorterValid.pairwise_le 0 0
  refine ⟨result.common, .scanned scans, ?_⟩
  rw [galloping_of_scan ordered scanned]
  cases collected : (collect (.ok result.common)).outcome with
  | error failure => rw [Traced.outcome_bind, collected]; rfl
  | ok list =>
      rw [Traced.outcome_bind_of_ok collected]
      cases result.stopped? with
      | none => rfl
      | some position => rfl

theorem hybrid_collects (lawful : look.Lawful) (threshold : Nat)
    (leftValid : left.Valid) (rightValid : right.Valid) :
    Collects (hybrid look threshold left right) left right := by
  apply collects_of_byLength leftValid rightValid
  intro shorter longer ordered shorterValid longerValid
  simp only [hybrid, ordered]
  cases chosen : Strategy.choose? threshold shorter.size longer.size with
  | none =>
      have nothing : shorter.size = 0 := by
        unfold Strategy.choose? at chosen
        split at chosen
        · assumption
        · split at chosen <;> simp at chosen
      have noPostings : shorter.toList = [] := by
        apply List.eq_nil_of_length_eq_zero
        rw [length_toList shorterValid.aligned, nothing]
      refine ⟨_, .merged shorter longer, ?_⟩
      rw [noPostings, Merge.threeWay_nil_left]
      rfl
  | some strategy =>
      cases strategy with
      | linear => exact lessConditional_collects shorter longer
      | galloping =>
          exact galloping_collects lawful shorterValid longerValid

end Pairs

theorem intersectWith_collects {look : Locator} (lawful : look.Lawful)
    {left right : PostingList} (leftValid : left.Valid)
    (rightValid : right.Valid) {algorithm : Algorithm}
    (unclosed : algorithm ≠ .sentinel) :
    Collects (algorithm.intersectWith look left right) left right := by
  cases algorithm with
  | basic => exact basic_collects left right
  | lessConditional => exact lessConditional_collects left right
  | sentinel => exact absurd rfl unclosed
  | binarySearch =>
      exact binarySearch_collects lawful leftValid rightValid
  | galloping => exact galloping_collects lawful leftValid rightValid
  | skipPointers => exact skipPointers_collects leftValid rightValid
  | hybrid threshold =>
      exact hybrid_collects lawful threshold leftValid rightValid

theorem Emits.eq_reference {left right : PostingList}
    {common : List Posting} (emits : Emits left right common)
    (leftValid : left.Valid) (rightValid : right.Valid)
    (leftIncreasing : Increasing left.toList)
    (rightIncreasing : Increasing right.toList) :
    common = reference left.toList right.toList := by
  induction emits with
  | merged => exact Merge.threeWay_eq_reference leftIncreasing rightIncreasing
  | scanned scans =>
      exact scans.eq_reference rightValid.aligned rightIncreasing
        leftIncreasing
  | exchanged _ ih =>
      rw [ih rightValid leftValid rightIncreasing leftIncreasing]
      exact reference_comm leftIncreasing rightIncreasing

theorem intersectWith_outcome {look : Locator} (lawful : look.Lawful)
    {left right : PostingList} (leftValid : left.Valid)
    (rightValid : right.Valid) (leftIncreasing : Increasing left.toList)
    (rightIncreasing : Increasing right.toList) {algorithm : Algorithm}
    (unclosed : algorithm ≠ .sentinel) :
    (algorithm.intersectWith look left right).outcome =
      .ok (bare (reference left.toList right.toList)) := by
  obtain ⟨common, emits, outcome⟩ :=
    intersectWith_collects lawful leftValid rightValid unclosed
  rw [outcome, emits.eq_reference leftValid rightValid leftIncreasing
    rightIncreasing]
  exact collect_outcome (reference_increasing leftIncreasing _)

/-! ## Closed lists -/

theorem closed_of_hasSentinel {list : PostingList}
    (aligned : list.ids.size = list.scores.size)
    (ends : list.hasSentinel = true) : Merge.Closed list.toList := by
  have last : list.ids.back? = some sentinelId := by
    simpa [PostingList.hasSentinel, lastId?] using ends
  have member : sentinelId ∈ list.toList.map Posting.id := by
    rw [map_id_toList aligned, Array.mem_toList_iff]
    exact Array.mem_of_back? last
  exact List.mem_map.mp member

theorem sentinel_outcome_of_ends {left right : PostingList}
    {lefts rights : List Posting}
    (leftAligned : left.ids.size = left.scores.size)
    (rightAligned : right.ids.size = right.scores.size)
    (leftEnds : left.hasSentinel = true)
    (rightEnds : right.hasSentinel = true)
    (leftBefore : Merge.beforeSentinel left.toList = lefts)
    (rightBefore : Merge.beforeSentinel right.toList = rights)
    (leftIncreasing : Increasing lefts)
    (rightIncreasing : Increasing rights) :
    (sentinel left right).outcome =
      .ok (bare (reference lefts rights)) := by
  rw [sentinel, if_pos ⟨leftEnds, rightEnds⟩,
    Merge.terminated_eq_threeWay
      (closed_of_hasSentinel leftAligned leftEnds)
      (closed_of_hasSentinel rightAligned rightEnds),
    leftBefore, rightBefore,
    Merge.threeWay_eq_reference leftIncreasing rightIncreasing]
  exact collect_outcome (reference_increasing leftIncreasing _)

/-- A list that holds the given postings and then a sentinel. -/
structure ClosedOver (list : PostingList) (postings : List Posting) :
    Prop where
  aligned : list.ids.size = list.scores.size
  toList_eq : list.toList = postings ++ [.sentinel]
  real : ∀ posting ∈ postings, posting.id ≠ sentinelId

namespace ClosedOver

variable {list : PostingList} {postings : List Posting}

theorem hasSentinel (closed : ClosedOver list postings) :
    list.hasSentinel = true := by
  have ids := map_id_toList closed.aligned
  rw [closed.toList_eq, List.map_append] at ids
  simp [PostingList.hasSentinel, lastId?, ← Array.getLast?_toList, ← ids,
    Posting.sentinel]

theorem beforeSentinel_eq (closed : ClosedOver list postings) :
    Merge.beforeSentinel list.toList = postings := by
  rw [closed.toList_eq, Merge.beforeSentinel,
    List.takeWhile_append_of_pos]
  · simp [Posting.sentinel]
  · intro posting member
    simpa using closed.real posting member

end ClosedOver

theorem below_of_all {list : PostingList}
    (all : list.ids.toList.all (fun id => decide (id < sentinelId)) = true) :
    ∀ id ∈ list.ids, id < sentinelId := by
  intro id member
  have below := List.all_eq_true.mp all id (Array.mem_toList_iff.mpr member)
  exact of_decide_eq_true below

theorem real_of_ids {list : PostingList}
    (aligned : list.ids.size = list.scores.size)
    (below : ∀ id ∈ list.ids, id < sentinelId) :
    ∀ posting ∈ list.toList, posting.id ≠ sentinelId := by
  intro posting member
  have present : posting.id ∈ list.ids := by
    rw [← Array.mem_toList_iff, ← map_id_toList aligned]
    exact List.mem_map_of_mem member
  exact Int64.ne_of_lt (below posting.id present)

theorem pushSentinel_closedOver {list : PostingList} (valid : list.Valid)
    (real : ∀ posting ∈ list.toList, posting.id ≠ sentinelId) :
    ClosedOver list.pushSentinel list.toList where
  aligned := valid.pushSentinel.aligned
  toList_eq := by rw [pushSentinel_eq, toList_append valid.aligned]
  real := real

theorem sentinel_outcome {left right : PostingList}
    {lefts rights : List Posting} (leftClosed : ClosedOver left lefts)
    (rightClosed : ClosedOver right rights)
    (leftIncreasing : Increasing lefts)
    (rightIncreasing : Increasing rights) :
    (sentinel left right).outcome =
      .ok (bare (reference lefts rights)) :=
  sentinel_outcome_of_ends leftClosed.aligned rightClosed.aligned
    leftClosed.hasSentinel rightClosed.hasSentinel
    leftClosed.beforeSentinel_eq rightClosed.beforeSentinel_eq
    leftIncreasing rightIncreasing

/-- Every algorithm returns the intersection and nothing else: no skip
pointers, and no sentinel if there was none to begin with. -/
theorem algorithms_agree {look : Locator} (lawful : look.Lawful)
    {left right : PostingList} (leftValid : left.Valid)
    (rightValid : right.Valid) (leftIncreasing : left.IncreasingIds)
    (rightIncreasing : right.IncreasingIds) :
    ∃ common,
      IsIntersection left.toList right.toList common ∧
      (∀ algorithm : Algorithm, algorithm ≠ .sentinel →
        (algorithm.intersectWith look left right).outcome =
          .ok (bare common)) ∧
      ((∀ id ∈ left.ids, id < sentinelId) →
        (∀ id ∈ right.ids, id < sentinelId) →
        (Algorithm.sentinel.intersectWith look left.pushSentinel
          right.pushSentinel).outcome = .ok (bare common) ∧
        ∀ posting ∈ common, posting.id ≠ sentinelId) := by
  have leftRun := (increasing_toList leftValid.aligned).mpr leftIncreasing
  have rightRun :=
    (increasing_toList rightValid.aligned).mpr rightIncreasing
  have intersection := reference_isIntersection leftRun rightRun
  refine ⟨reference left.toList right.toList, intersection, ?_, ?_⟩
  · intro algorithm unclosed
    exact intersectWith_outcome lawful leftValid rightValid leftRun rightRun
      unclosed
  · intro leftBelow rightBelow
    have leftReal := real_of_ids leftValid.aligned leftBelow
    have rightReal := real_of_ids rightValid.aligned rightBelow
    constructor
    · exact sentinel_outcome (pushSentinel_closedOver leftValid leftReal)
        (pushSentinel_closedOver rightValid rightReal) leftRun rightRun
    · intro posting member
      obtain ⟨left, leftMember, _, _, sameId, _⟩ :=
        (intersection.mem_iff posting).mp member
      rw [sameId]
      exact leftReal left leftMember

/-- Two lists with skip pointers; the scores of their first common id add up
past the largest score. -/
def agreementSample : PostingList × PostingList :=
  (Edit.run
    [.push ⟨-5, 4⟩, .push ⟨3, 9223372036854775807⟩, .push ⟨7, 5⟩,
      .push ⟨9, 0⟩, .push ⟨12, 1⟩, .placeSkip 0 3, .placeSkip 1 2]
    .empty,
   Edit.run
    [.push ⟨3, 1⟩, .push ⟨8, 2⟩, .push ⟨12, -4⟩, .buildSkips 2] .empty)

theorem algorithms_agree_on_sample :
    (∀ algorithm : Algorithm, algorithm ≠ .sentinel →
      (algorithm.intersect agreementSample.1 agreementSample.2).outcome =
        .ok (bare [⟨3, -9223372036854775808⟩, ⟨12, -3⟩])) ∧
    (Algorithm.sentinel.intersect agreementSample.1.pushSentinel
      agreementSample.2.pushSentinel).outcome =
        .ok (bare [⟨3, -9223372036854775808⟩, ⟨12, -3⟩]) := by
  have leftValid : agreementSample.1.Valid :=
    Edit.run_valid valid_empty _
  have rightValid : agreementSample.2.Valid :=
    Edit.run_valid valid_empty _
  obtain ⟨common, intersection, others, closed⟩ :=
    algorithms_agree Search.locate_lawful leftValid rightValid
      (by decide) (by decide)
  have computed : common = [⟨3, -9223372036854775808⟩, ⟨12, -3⟩] := by
    apply intersection.unique
    exact reference_isIntersection (by decide) (by decide)
  rw [computed] at others closed
  obtain ⟨closedOutcome, _⟩ :=
    closed (below_of_all (by decide)) (below_of_all (by decide))
  exact ⟨others, closedOutcome⟩

end Intersection

end Postings
