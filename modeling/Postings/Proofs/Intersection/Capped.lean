import Postings.Proofs.Intersection.Agreement

/-!
# Lists that end with reserved ids

A valid list is a run of real postings with caps on top: postings that have
the reserved id.  All algorithms but the one for closed lists treat a cap as
a posting like any other.  They intersect the runs, and they match the caps
of one list with those of the other.  If one of the lists has one cap at
most, so has the result, and the result can be built.
-/

namespace Postings

namespace Merge

theorem threeWay_append_caps {run others caps : List Posting}
    (real : ∀ posting ∈ run, posting.id ≠ sentinelId)
    (reserved : ∀ posting ∈ caps, posting.id = sentinelId) :
    threeWay (run ++ others) caps = threeWay others caps := by
  induction run with
  | nil => rfl
  | cons posting run ih =>
      obtain ⟨first, later⟩ := List.forall_mem_cons.mp real
      cases caps with
      | nil => rw [threeWay_nil_right, threeWay_nil_right]
      | cons cap caps =>
          have below : posting.id < cap.id := by
            rw [reserved cap List.mem_cons_self]
            exact lt_sentinelId first
          rw [List.cons_append, threeWay_cons_of_lt _ _ below, ih later]

theorem threeWay_caps_append {run others caps : List Posting}
    (real : ∀ posting ∈ run, posting.id ≠ sentinelId)
    (reserved : ∀ posting ∈ caps, posting.id = sentinelId) :
    threeWay caps (run ++ others) = threeWay caps others := by
  induction run with
  | nil => rfl
  | cons posting run ih =>
      obtain ⟨first, later⟩ := List.forall_mem_cons.mp real
      cases caps with
      | nil => rw [threeWay_nil_left, threeWay_nil_left]
      | cons cap caps =>
          have below : posting.id < cap.id := by
            rw [reserved cap List.mem_cons_self]
            exact lt_sentinelId first
          rw [List.cons_append, threeWay_cons_of_gt _ _ below, ih later]

/-- The merge comes to the caps of either run after all real postings. -/
theorem threeWay_append {lefts rights leftCaps rightCaps : List Posting}
    (leftReal : ∀ posting ∈ lefts, posting.id ≠ sentinelId)
    (rightReal : ∀ posting ∈ rights, posting.id ≠ sentinelId)
    (leftReserved : ∀ posting ∈ leftCaps, posting.id = sentinelId)
    (rightReserved : ∀ posting ∈ rightCaps, posting.id = sentinelId) :
    threeWay (lefts ++ leftCaps) (rights ++ rightCaps) =
      threeWay lefts rights ++ threeWay leftCaps rightCaps := by
  induction lefts, rights using threeWay.induct with
  | case1 rights =>
      rw [threeWay_nil_left, List.nil_append, List.nil_append,
        threeWay_caps_append rightReal leftReserved]
  | case2 left lefts =>
      rw [threeWay_nil_right, List.nil_append, List.nil_append,
        threeWay_append_caps leftReal rightReserved]
  | case3 left lefts right rights below ih =>
      have later := ih (List.forall_mem_cons.mp leftReal).2 rightReal
      rw [threeWay_cons_of_lt lefts rights below, ← later]
      exact threeWay_cons_of_lt _ _ below
  | case4 left lefts right rights notBelow above ih =>
      have later := ih leftReal (List.forall_mem_cons.mp rightReal).2
      rw [threeWay_cons_of_gt lefts rights above, ← later]
      exact threeWay_cons_of_gt _ _ above
  | case5 left lefts right rights notBelow notAbove ih =>
      have same : left.id = right.id :=
        Int64.le_antisymm (Int64.not_lt.mp notAbove)
          (Int64.not_lt.mp notBelow)
      have later := ih (List.forall_mem_cons.mp leftReal).2
        (List.forall_mem_cons.mp rightReal).2
      calc
        threeWay (left :: (lefts ++ leftCaps))
            (right :: (rights ++ rightCaps)) =
          left.combine right ::
            threeWay (lefts ++ leftCaps) (rights ++ rightCaps) :=
              threeWay_cons_of_eq _ _ same
        _ = threeWay (left :: lefts) (right :: rights) ++
              threeWay leftCaps rightCaps := by
            rw [later, threeWay_cons_of_eq lefts rights same]
            rfl

theorem threeWay_caps {leftCaps rightCaps : List Posting}
    (leftReserved : ∀ posting ∈ leftCaps, posting.id = sentinelId)
    (rightReserved : ∀ posting ∈ rightCaps, posting.id = sentinelId) :
    threeWay leftCaps rightCaps =
      List.zipWith Posting.combine leftCaps rightCaps := by
  induction leftCaps generalizing rightCaps with
  | nil => simp
  | cons left leftCaps ih =>
      cases rightCaps with
      | nil => simp
      | cons right rightCaps =>
          obtain ⟨leftIs, leftLater⟩ := List.forall_mem_cons.mp leftReserved
          obtain ⟨rightIs, rightLater⟩ :=
            List.forall_mem_cons.mp rightReserved
          rw [threeWay_cons_of_eq _ _ (leftIs.trans rightIs.symm),
            ih leftLater rightLater]
          rfl

end Merge

namespace Intersection

open PostingList

/-- The list holds the run of real postings and then the caps. -/
structure Capped (list : PostingList) (run caps : List Posting) :
    Prop where
  valid : list.Valid
  increasing : Increasing run
  real : ∀ posting ∈ run, posting.id ≠ sentinelId
  reserved : ∀ posting ∈ caps, posting.id = sentinelId
  toList_eq : list.toList = run ++ caps

namespace Capped

variable {list : PostingList} {run caps : List Posting}

theorem size_eq (capped : Capped list run caps) :
    list.ids.size = run.length + caps.length := by
  have length := length_toList capped.valid.aligned
  rw [capped.toList_eq, List.length_append] at length
  exact length.symm

theorem isEmpty_iff (capped : Capped list run caps) :
    list.isEmpty = true ↔ run = [] ∧ caps = [] := by
  rw [PostingList.isEmpty, Array.isEmpty_iff_size_eq_zero, capped.size_eq,
    Nat.add_eq_zero_iff, List.length_eq_zero_iff, List.length_eq_zero_iff]

theorem getElem?_ids (capped : Capped list run caps) (position : Nat) :
    list.ids[position]? = (run ++ caps)[position]?.map Posting.id := by
  rw [PostingList.getElem?_ids capped.valid.aligned, capped.toList_eq]

theorem reserved_at_length (capped : Capped list run caps)
    (present : caps ≠ []) : list.ids[run.length]? = some sentinelId := by
  obtain ⟨cap, others, rfl⟩ := List.exists_cons_of_ne_nil present
  rw [capped.getElem?_ids, List.getElem?_append_right (Nat.le_refl _)]
  simp [capped.reserved cap]

theorem length_le_of_reserved (capped : Capped list run caps)
    {position : Nat} (present : list.ids[position]? = some sentinelId) :
    run.length ≤ position := by
  apply Nat.le_of_not_lt
  intro inside
  rw [capped.getElem?_ids, List.getElem?_append_left inside,
    List.getElem?_eq_getElem inside] at present
  exact capped.real _ (List.getElem_mem inside) (Option.some.inj present)

theorem single (capped : Capped list run caps) {id : Int64}
    (real : id ≠ sentinelId) : Single list.toList id := by
  have inRun : ∀ posting ∈ list.toList, posting.id = id → posting ∈ run := by
    intro posting member sameId
    rw [capped.toList_eq, List.mem_append] at member
    rcases member with inside | cap
    · exact inside
    · exact absurd (sameId.symm.trans (capped.reserved posting cap)) real
  intro first firstMember second secondMember firstId secondId
  exact capped.increasing.single id first
    (inRun first firstMember firstId) second
    (inRun second secondMember secondId) firstId secondId

theorem hasSentinel_iff (capped : Capped list run caps) :
    list.hasSentinel = true ↔ caps ≠ [] := by
  have ids := map_id_toList capped.valid.aligned
  rw [capped.toList_eq] at ids
  rw [hasSentinel, lastId?, ← Array.getLast?_toList, ← ids,
    List.getLast?_map, beq_iff_eq]
  rcases List.eq_nil_or_concat caps with rfl | ⟨front, cap, rfl⟩
  · rw [List.append_nil]
    constructor
    · intro last
      obtain ⟨posting, isLast, reserved⟩ := Option.map_eq_some_iff.mp last
      exact absurd reserved
        (capped.real posting (List.mem_of_getLast? isLast))
    · intro present
      exact absurd rfl present
  · rw [List.concat_eq_append, ← List.append_assoc, List.getLast?_concat]
    have reserved := capped.reserved cap (by simp)
    simp [reserved]

theorem pushSentinel (capped : Capped list run caps) :
    Capped list.pushSentinel run (caps ++ [.sentinel]) where
  valid := capped.valid.pushSentinel
  increasing := capped.increasing
  real := capped.real
  reserved := by
    intro posting member
    rcases List.mem_append.mp member with cap | isSentinel
    · exact capped.reserved posting cap
    · rw [List.mem_singleton.mp isSentinel]
      rfl
  toList_eq := by
    rw [pushSentinel_eq, toList_append capped.valid.aligned,
      capped.toList_eq, List.append_assoc]

theorem dropSentinel (capped : Capped list run caps) :
    Capped list.dropSentinel run caps.dropLast where
  valid := capped.valid.dropSentinel
  increasing := capped.increasing
  real := capped.real
  reserved := fun posting member =>
    capped.reserved posting ((List.dropLast_sublist caps).subset member)
  toList_eq := by
    by_cases closed : list.hasSentinel = true
    · have shortened : list.dropSentinel.toList = list.toList.dropLast := by
        rw [dropSentinel_eq, if_pos closed]
        simp [toList, List.dropLast_eq_take, List.take_zipWith,
          capped.valid.aligned]
      rw [shortened, capped.toList_eq,
        List.dropLast_append_of_ne_nil (capped.hasSentinel_iff.mp closed)]
    · have none : caps = [] := by
        by_contra present
        exact closed (capped.hasSentinel_iff.mpr present)
      rw [dropSentinel_eq, if_neg closed, capped.toList_eq, none]
      rfl

end Capped

theorem increasing_append_caps {run caps : List Posting}
    (increasing : Increasing run)
    (real : ∀ posting ∈ run, posting.id ≠ sentinelId)
    (reserved : ∀ posting ∈ caps, posting.id = sentinelId)
    (few : caps.length ≤ 1) : Increasing (run ++ caps) := by
  refine List.pairwise_append.mpr ⟨increasing, ?_, ?_⟩
  · cases caps with
    | nil => exact .nil
    | cons cap caps =>
        have nothing : caps = [] := by
          apply List.eq_nil_of_length_eq_zero
          rw [List.length_cons] at few
          omega
        rw [nothing]
        exact List.pairwise_singleton _ cap
  · intro posting member cap capMember
    rw [reserved cap capMember]
    exact lt_sentinelId (real posting member)

theorem capped_bare {run caps : List Posting} (increasing : Increasing run)
    (real : ∀ posting ∈ run, posting.id ≠ sentinelId)
    (reserved : ∀ posting ∈ caps, posting.id = sentinelId)
    (few : caps.length ≤ 1) : Capped (bare (run ++ caps)) run caps where
  valid := valid_bare (increasing_append_caps increasing real reserved few)
  increasing := increasing
  real := real
  reserved := reserved
  toList_eq := toList_bare _

/-! ## Scans over caps -/

/-- A scan whose drivers are caps matches as many as both lists have, if one
of the lists has one at most. -/
theorem Capped.scans_caps {longer : PostingList}
    {run caps drivers common : List Posting} {cursor : Nat}
    (capped : Capped longer run caps)
    (reserved : ∀ driver ∈ drivers, driver.id = sentinelId)
    (few : drivers.length ≤ 1 ∨ caps.length ≤ 1)
    (before : caps ≠ [] → cursor ≤ run.length)
    (scans : Scans longer cursor drivers common) :
    (∀ posting ∈ common, posting.id = sentinelId) ∧
      common.length = min drivers.length caps.length := by
  cases caps with
  | nil =>
      have nothing : common = [] := by
        apply scans.eq_nil
        intro driver member position id _ inside present sameId
        have size := capped.size_eq
        rw [reserved driver member] at sameId
        rw [sameId] at present
        have behind := capped.length_le_of_reserved present
        rw [List.length_nil] at size
        omega
      simp [nothing]
  | cons cap caps =>
      have atEnd := capped.reserved_at_length (List.cons_ne_nil _ _)
      have size := capped.size_eq
      have start := before (List.cons_ne_nil _ _)
      rw [List.length_cons] at size
      cases scans with
      | ended absent =>
          cases drivers with
          | nil => simp
          | cons driver drivers =>
              have here := absent driver List.mem_cons_self run.length
                sentinelId start (by omega) atEnd
              exact absurd (reserved driver List.mem_cons_self).symm here
      | alone settles alone _ =>
          have here := settles.alone alone run.length sentinelId start
            (by omega) atEnd
          exact absurd (reserved _ List.mem_cons_self).symm here
      | partner settles found _ rest =>
          obtain ⟨above, present⟩ := settles.partner found
          have isReserved := reserved _ List.mem_cons_self
          rw [isReserved] at present
          have behind := capped.length_le_of_reserved present
          -- Either no driver is left, or no cap is.
          have nothing := rest.eq_nil (by
            intro later member
            apply Each.of_window_empty
            have present := List.length_pos_of_mem member
            simp only [List.length_cons] at few
            omega)
          rw [nothing]
          constructor
          · intro posting member
            rw [List.mem_singleton.mp member]
            exact isReserved
          · simp only [List.length_cons, List.length_nil] at few ⊢
            omega

/-! ## Two lists -/

section Pairs

variable {left right : PostingList}
  {lefts leftCaps rights rightCaps : List Posting}

theorem threeWay_of_capped (leftCapped : Capped left lefts leftCaps)
    (rightCapped : Capped right rights rightCaps) :
    Merge.threeWay left.toList right.toList =
      reference lefts rights ++
        List.zipWith Posting.combine leftCaps rightCaps := by
  rw [leftCapped.toList_eq, rightCapped.toList_eq,
    Merge.threeWay_append leftCapped.real rightCapped.real
      leftCapped.reserved rightCapped.reserved,
    Merge.threeWay_eq_reference leftCapped.increasing
      rightCapped.increasing,
    Merge.threeWay_caps leftCapped.reserved rightCapped.reserved]

/-- What is emitted for two lists: what the runs have in common, and as many
caps as both lists have. -/
theorem Emits.of_capped {common : List Posting}
    (emits : Emits left right common)
    (leftCapped : Capped left lefts leftCaps)
    (rightCapped : Capped right rights rightCaps)
    (few : leftCaps.length ≤ 1 ∨ rightCaps.length ≤ 1) :
    ∃ caps, common = reference lefts rights ++ caps ∧
      (∀ posting ∈ caps, posting.id = sentinelId) ∧
      caps.length = min leftCaps.length rightCaps.length := by
  induction emits generalizing lefts leftCaps rights rightCaps with
  | merged left right =>
      refine ⟨List.zipWith Posting.combine leftCaps rightCaps,
        threeWay_of_capped leftCapped rightCapped, ?_, List.length_zipWith⟩
      intro posting member
      rw [← List.map_uncurry_zip_eq_zipWith] at member
      obtain ⟨⟨cap, other⟩, paired, rfl⟩ := List.mem_map.mp member
      exact leftCapped.reserved cap (List.of_mem_zip paired).1
  | scanned scans =>
      rw [leftCapped.toList_eq] at scans
      obtain ⟨next, later, rfl, passed, rest⟩ := scans.front_eq_reference
        rightCapped.valid.aligned leftCapped.increasing
        (fun driver member => rightCapped.single
          (leftCapped.real driver member))
      have before : rightCaps ≠ [] → next ≤ rights.length := by
        intro present
        apply Nat.le_of_not_lt
        intro past
        obtain ⟨driver, member, reached⟩ := passed rights.length sentinelId
          (Nat.zero_le _) past (rightCapped.reserved_at_length present)
        have below := lt_sentinelId (leftCapped.real driver member)
        exact Int64.not_le.mpr below reached
      obtain ⟨reserved, length⟩ := rightCapped.scans_caps
        leftCapped.reserved few before rest
      refine ⟨later, ?_, reserved, length⟩
      rw [List.drop_zero, rightCapped.toList_eq,
        reference_append_of_absent_back]
      intro driver driverMember cap capMember sameId
      rw [rightCapped.reserved cap capMember] at sameId
      exact leftCapped.real driver driverMember sameId.symm
  | exchanged _ ih =>
      obtain ⟨caps, rfl, reserved, length⟩ :=
        ih rightCapped leftCapped few.symm
      refine ⟨caps, ?_, reserved, by rw [length, Nat.min_comm]⟩
      rw [reference_comm leftCapped.increasing rightCapped.increasing]

/-- The algorithms that need no sentinel intersect the runs and match the
caps. -/
theorem intersectWith_of_capped {look : Locator} (lawful : look.Lawful)
    {algorithm : Algorithm} (unclosed : algorithm ≠ .sentinel)
    (leftCapped : Capped left lefts leftCaps)
    (rightCapped : Capped right rights rightCaps)
    (few : leftCaps.length ≤ 1 ∨ rightCaps.length ≤ 1) :
    ∃ result caps,
      (algorithm.intersectWith look left right).outcome = .ok result ∧
      Capped result (reference lefts rights) caps ∧
      caps.length = min leftCaps.length rightCaps.length := by
  obtain ⟨common, emits, outcome⟩ := intersectWith_collects lawful
    leftCapped.valid rightCapped.valid unclosed
  obtain ⟨caps, rfl, reserved, length⟩ :=
    emits.of_capped leftCapped rightCapped few
  have increasing := reference_increasing leftCapped.increasing rights
  have real := reference_real leftCapped.real rights
  have fewCaps : caps.length ≤ 1 := by
    rw [length]
    omega
  refine ⟨_, caps, ?_, capped_bare increasing real reserved fewCaps, length⟩
  rw [outcome]
  exact collect_outcome
    (increasing_append_caps increasing real reserved fewCaps)

end Pairs

end Intersection

end Postings
