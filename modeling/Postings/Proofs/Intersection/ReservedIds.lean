import Postings.Proofs.Intersection.Capped
import Postings.Proofs.PostingList.Reachable

/-!
# Reserved ids in the lists that can come about

Sentinels are appended without a check, and the reserved id may also be given
to a posting.  So a list that can come about is a run of real postings with
any number of caps on top, whatever their scores are.

The caps are where the algorithms may differ.  The merges match caps in
order, and a second match cannot be appended to the result.  The searching
algorithms may match any cap of the longer list.  The algorithm for closed
lists stops at the first caps.
-/

namespace Postings

namespace PostingList

def realPostings (list : PostingList) : List Posting :=
  list.toList.filter fun posting => decide (posting.id < sentinelId)

/-- The postings that have the reserved id. -/
def caps (list : PostingList) : List Posting :=
  list.toList.filter fun posting => !decide (posting.id < sentinelId)

/-- How often the reserved id occurs in the list. -/
def reservedCount (list : PostingList) : Nat :=
  list.ids.toList.count sentinelId

end PostingList

namespace Intersection

open PostingList

/-! ## Splitting off the caps -/

theorem eq_sentinelId_of_not_lt {id : Int64} (reached : ¬ id < sentinelId) :
    id = sentinelId := by
  by_contra real
  exact reached (lt_sentinelId real)

/-- Where ids do not decrease, the reserved ones come last. -/
theorem filter_append_filter_reserved {postings : List Posting}
    (ordered : postings.Pairwise fun earlier later =>
      earlier.id ≤ later.id) :
    (postings.filter fun posting => decide (posting.id < sentinelId)) ++
        (postings.filter fun posting => !decide (posting.id < sentinelId)) =
      postings := by
  induction postings with
  | nil => rfl
  | cons head tail ih =>
      obtain ⟨least, tailOrdered⟩ := List.pairwise_cons.mp ordered
      by_cases real : head.id < sentinelId
      · simp [real, ih tailOrdered]
      · have laterReserved : ∀ posting ∈ tail,
            ¬ posting.id < sentinelId := by
          intro posting member below
          exact real (Int64.lt_of_le_of_lt (least posting member) below)
        have noneReal : (tail.filter fun posting =>
            decide (posting.id < sentinelId)) = [] := by
          apply List.filter_eq_nil_iff.mpr
          intro posting member
          simpa using laterReserved posting member
        have rest := ih tailOrdered
        rw [noneReal, List.nil_append] at rest
        simp only [List.filter_cons, real, decide_false, Bool.not_false,
          Bool.false_eq_true, if_false, if_true, noneReal, List.nil_append,
          rest]

theorem capped_of_valid {list : PostingList} (valid : list.Valid) :
    Capped list list.realPostings list.caps where
  valid := valid
  increasing := by
    apply (valid.pairwise_mayPrecede.filter _).imp_of_mem
    intro earlier later earlierMember _ precedes
    have real : earlier.id < sentinelId := by
      simpa using (List.mem_filter.mp earlierMember).2
    rcases precedes with below | ⟨reserved, _⟩
    · exact below
    · exact absurd reserved (Int64.ne_of_lt real)
  real := by
    intro posting member
    apply Int64.ne_of_lt
    simpa using (List.mem_filter.mp member).2
  reserved := by
    intro posting member
    apply eq_sentinelId_of_not_lt
    simpa using (List.mem_filter.mp member).2
  toList_eq := (filter_append_filter_reserved valid.pairwise_le).symm

namespace Capped

variable {list : PostingList} {run caps : List Posting}

theorem ids_eq (capped : Capped list run caps) :
    list.ids.toList =
      run.map Posting.id ++ List.replicate caps.length sentinelId := by
  have capIds : caps.map Posting.id =
      List.replicate caps.length sentinelId := by
    apply List.eq_replicate_iff.mpr
    refine ⟨List.length_map _, ?_⟩
    intro id member
    obtain ⟨cap, capMember, rfl⟩ := List.mem_map.mp member
    exact capped.reserved cap capMember
  rw [← map_id_toList capped.valid.aligned, capped.toList_eq,
    List.map_append, capIds]

theorem reservedCount_eq (capped : Capped list run caps) :
    list.reservedCount = caps.length := by
  have absent : sentinelId ∉ run.map Posting.id := by
    intro member
    obtain ⟨posting, postingMember, reserved⟩ := List.mem_map.mp member
    exact capped.real posting postingMember reserved
  rw [reservedCount, capped.ids_eq, List.count_append,
    List.count_eq_zero.mpr absent, List.count_replicate_self, Nat.zero_add]

theorem realPostings_eq (capped : Capped list run caps) :
    list.realPostings = run := by
  rw [realPostings, capped.toList_eq, List.filter_append,
    List.filter_eq_self.mpr, List.filter_eq_nil_iff.mpr, List.append_nil]
  · intro cap member
    rw [capped.reserved cap member]
    decide
  · intro posting member
    exact decide_eq_true (lt_sentinelId (capped.real posting member))

theorem beforeSentinel_eq (capped : Capped list run caps) :
    Merge.beforeSentinel list.toList = run := by
  have stops : Merge.beforeSentinel caps = [] := by
    cases found : caps with
    | nil => rfl
    | cons cap others =>
        have reserved := capped.reserved cap (by simp [found])
        rw [Merge.beforeSentinel_cons, if_pos reserved]
  rw [capped.toList_eq, Merge.beforeSentinel,
    List.takeWhile_append_of_pos]
  · change run ++ Merge.beforeSentinel caps = run
    rw [stops, List.append_nil]
  · intro posting member
    simpa using capped.real posting member

end Capped

/-! ## Merging lists with caps -/

section Merging

variable {left right : PostingList}
  {lefts leftCaps rights rightCaps : List Posting}

/-- The second match of two caps has no place behind the first one. -/
theorem basic_of_repeated_caps (leftCapped : Capped left lefts leftCaps)
    (rightCapped : Capped right rights rightCaps)
    (leftMany : 2 ≤ leftCaps.length) (rightMany : 2 ≤ rightCaps.length) :
    (basic left right).outcome =
      .error (.fault (.notIncreasing sentinelId sentinelId)) := by
  match leftCaps, rightCaps, leftMany, rightMany with
  | first :: second :: others, other :: another :: rest, _, _ =>
      have firstReserved := leftCapped.reserved first (by simp)
      have secondReserved := leftCapped.reserved second (by simp)
      have increasing : Increasing
          (reference lefts rights ++ [first.combine other]) := by
        apply increasing_append_caps
          (reference_increasing leftCapped.increasing rights)
          (reference_real leftCapped.real rights)
        · intro posting member
          rw [List.mem_singleton.mp member]
          exact firstReserved
        · exact Nat.le_refl 1
      have repeated : ¬ (first.combine other).id <
          (second.combine another).id := by
        change ¬ first.id < second.id
        rw [firstReserved, secondReserved]
        exact Int64.lt_irrefl
      have refused := ofList_of_not_lt
        (List.zipWith Posting.combine others rest) increasing repeated
      rw [basic, threeWay_of_capped leftCapped rightCapped]
      change (ofList (reference lefts rights ++ first.combine other ::
        second.combine another ::
          List.zipWith Posting.combine others rest)).mapError
            Failure.fault = _
      rw [refused]
      change Except.error (Failure.fault
        (.notIncreasing first.id second.id)) = _
      rw [firstReserved, secondReserved]

end Merging

/-! ## Outcomes -/

section Outcomes

variable {left right : PostingList}

/-- Skip pointers change neither the result nor whether there is one.  The
merges fail exactly if both lists have the reserved id twice. -/
theorem skips_change_no_outcome (leftReachable : Reachable left)
    (rightReachable : Reachable right) :
    Algorithm.skipPointers.intersect left right =
        Algorithm.basic.intersect left right ∧
      Algorithm.lessConditional.intersect left right =
        Algorithm.basic.intersect left right ∧
      ∀ failure,
        (Algorithm.basic.intersect left right).outcome = .error failure ↔
          (2 ≤ left.reservedCount ∧ 2 ≤ right.reservedCount) ∧
            failure = .fault (.notIncreasing sentinelId sentinelId) := by
  have leftCapped := capped_of_valid leftReachable.valid
  have rightCapped := capped_of_valid rightReachable.valid
  refine ⟨?_, ?_, ?_⟩
  · change skipPointers left right = basic left right
    rw [skipPointers, Skip.scan_eq_alternating leftReachable.valid
      rightReachable.valid, Merge.alternating_eq_threeWay]
    rfl
  · change lessConditional left right = basic left right
    rw [lessConditional, Merge.alternating_eq_threeWay, basic]
  · rw [leftCapped.reservedCount_eq, rightCapped.reservedCount_eq]
    apply Outcome.eq_error_iff
    · intro many
      exact basic_of_repeated_caps leftCapped rightCapped many.1 many.2
    · intro notMany
      have unclosed : Algorithm.basic ≠ .sentinel := by simp
      obtain ⟨result, _, succeeded, _⟩ := intersectWith_of_capped
        Search.locate_lawful unclosed leftCapped rightCapped (by omega)
      exact ⟨result, succeeded⟩

/-- Two lists with two caps each.  Some pointers lead past the end, and the
first table has a slot more than the list has postings. -/
def cappedSample : PostingList × PostingList :=
  (Edit.run
    [.push ⟨3, 4⟩, .push ⟨7, 5⟩, .pushSentinel, .pushSentinel,
      .placeSkip 0 9, .placeSkip 1 3, .placeNextSkip 8] .empty,
   Edit.run
    [.push ⟨7, 1⟩, .push ⟨sentinelId, 6⟩, .pushSentinel, .placeSkip 0 2]
    .empty)

theorem cappedSample_reachable :
    Reachable cappedSample.1 ∧ Reachable cappedSample.2 :=
  ⟨Reachable.empty.run _, Reachable.empty.run _⟩

theorem skips_change_no_outcome_sample :
    2 ≤ cappedSample.1.reservedCount ∧ 2 ≤ cappedSample.2.reservedCount ∧
      (Algorithm.skipPointers.intersect cappedSample.1
        cappedSample.2).outcome =
          .error (.fault (.notIncreasing sentinelId sentinelId)) := by
  obtain ⟨leftReachable, rightReachable⟩ := cappedSample_reachable
  obtain ⟨skipping, _, fails⟩ :=
    skips_change_no_outcome leftReachable rightReachable
  have many : 2 ≤ cappedSample.1.reservedCount ∧
      2 ≤ cappedSample.2.reservedCount := by decide
  refine ⟨many.1, many.2, ?_⟩
  rw [skipping]
  exact (fails _).mpr ⟨many, rfl⟩

/-- The merge for closed lists fails exactly if one of the lists is not
closed.  Otherwise it never reads past an end, and it returns what the real
postings of the lists have in common. -/
theorem sentinel_stays_in_range (leftReachable : Reachable left)
    (rightReachable : Reachable right) :
    (∀ failure,
      (Algorithm.sentinel.intersect left right).outcome = .error failure ↔
        ¬ (left.hasSentinel = true ∧ right.hasSentinel = true) ∧
          failure = .fault .missingSentinel) ∧
      (left.hasSentinel = true → right.hasSentinel = true →
        ∃ common,
          IsIntersection left.realPostings right.realPostings common ∧
          (Algorithm.sentinel.intersect left right).outcome =
            .ok (bare common)) := by
  have leftCapped := capped_of_valid leftReachable.valid
  have rightCapped := capped_of_valid rightReachable.valid
  have returns (leftClosed : left.hasSentinel = true)
      (rightClosed : right.hasSentinel = true) :=
    sentinel_outcome_of_ends leftCapped.valid.aligned
      rightCapped.valid.aligned leftClosed rightClosed
      leftCapped.beforeSentinel_eq rightCapped.beforeSentinel_eq
      leftCapped.increasing rightCapped.increasing
  constructor
  · apply Outcome.eq_error_iff
    · intro unclosed
      change (sentinel left right).outcome = _
      rw [sentinel, if_neg unclosed]
      rfl
    · intro closed
      obtain ⟨leftClosed, rightClosed⟩ := not_not.mp closed
      exact ⟨_, returns leftClosed rightClosed⟩
  · intro leftClosed rightClosed
    exact ⟨_, reference_isIntersection leftCapped.increasing
      rightCapped.increasing, returns leftClosed rightClosed⟩

theorem sentinel_stays_in_range_sample :
    cappedSample.1.reservedCount = 2 ∧ cappedSample.2.reservedCount = 2 ∧
      (Algorithm.sentinel.intersect cappedSample.1
        cappedSample.2).outcome = .ok (bare [⟨7, 6⟩]) := by
  obtain ⟨leftReachable, rightReachable⟩ := cappedSample_reachable
  obtain ⟨_, returns⟩ :=
    sentinel_stays_in_range leftReachable rightReachable
  obtain ⟨common, intersection, succeeded⟩ :=
    returns (by decide) (by decide)
  have computed : common = [⟨7, 6⟩] := by
    apply intersection.unique
    exact reference_isIntersection (by decide) (by decide)
  rw [computed] at succeeded
  exact ⟨by decide, by decide, succeeded⟩

/-- If one of the lists has the reserved id once at most, all algorithms but
the one for closed lists return a list.  They agree on its ids and on the
scores of the real ones, whichever cap a look-up finds. -/
theorem agree_up_to_caps (leftReachable : Reachable left)
    (rightReachable : Reachable right)
    (few : left.reservedCount ≤ 1 ∨ right.reservedCount ≤ 1) :
    ∃ common,
      IsIntersection left.realPostings right.realPostings common ∧
      ∀ (look : Locator) (algorithm : Algorithm), look.Lawful →
        algorithm ≠ .sentinel →
        ∃ result,
          (algorithm.intersectWith look left right).outcome = .ok result ∧
          result.ids.toList = common.map Posting.id ++
            List.replicate (min left.reservedCount right.reservedCount)
              sentinelId ∧
          result.realPostings = common := by
  have leftCapped := capped_of_valid leftReachable.valid
  have rightCapped := capped_of_valid rightReachable.valid
  rw [leftCapped.reservedCount_eq, rightCapped.reservedCount_eq] at few ⊢
  refine ⟨_, reference_isIntersection leftCapped.increasing
    rightCapped.increasing, ?_⟩
  intro look algorithm lawful unclosed
  obtain ⟨result, caps, succeeded, capped, length⟩ :=
    intersectWith_of_capped lawful unclosed leftCapped rightCapped few
  refine ⟨result, succeeded, ?_, capped.realPostings_eq⟩
  rw [capped.ids_eq, length]

/-- With one cap taken off, the lists can be intersected. -/
theorem agree_up_to_caps_sample :
    cappedSample.1.dropSentinel.reservedCount = 1 ∧
      cappedSample.2.reservedCount = 2 ∧
      ∀ algorithm : Algorithm, algorithm ≠ .sentinel →
        ∃ result,
          (algorithm.intersect cappedSample.1.dropSentinel
            cappedSample.2).outcome = .ok result ∧
          result.ids.toList = [7, sentinelId] ∧
          result.realPostings = [⟨7, 6⟩] := by
  obtain ⟨leftReachable, rightReachable⟩ := cappedSample_reachable
  have opened : Reachable cappedSample.1.dropSentinel :=
    leftReachable.edit .popSentinel
  have counts : cappedSample.1.dropSentinel.reservedCount = 1 ∧
      cappedSample.2.reservedCount = 2 := by decide
  obtain ⟨common, intersection, agree⟩ :=
    agree_up_to_caps opened rightReachable (.inl (by decide))
  have computed : common = [⟨7, 6⟩] := by
    apply intersection.unique
    exact reference_isIntersection (by decide) (by decide)
  refine ⟨counts.1, counts.2, ?_⟩
  intro algorithm unclosed
  obtain ⟨result, succeeded, ids, real⟩ :=
    agree Search.locate algorithm Search.locate_lawful unclosed
  rw [computed] at ids real
  rw [counts.1, counts.2] at ids
  exact ⟨result, succeeded, ids, real⟩

end Outcomes

end Intersection

end Postings
