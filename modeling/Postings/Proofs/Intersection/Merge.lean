import Postings.Intersection.Merge
import Postings.Proofs.Intersection.Reference

/-!
# The merges compute the reference intersection

The three-way merge follows the equations of `reference` directly.  The other
two merges are compared with it: catching up is what the three-way merge does
one posting at a time, and before the first sentinel the unbounded cursors
never come to the end of a run.
-/

namespace Postings

namespace Merge

@[simp] theorem threeWay_nil_left (rights : List Posting) :
    threeWay [] rights = [] := by
  rw [threeWay]

@[simp] theorem threeWay_nil_right (lefts : List Posting) :
    threeWay lefts [] = [] := by
  cases lefts <;> rw [threeWay]

theorem threeWay_cons_of_lt {left right : Posting}
    (lefts rights : List Posting) (below : left.id < right.id) :
    threeWay (left :: lefts) (right :: rights) =
      threeWay lefts (right :: rights) := by
  rw [threeWay, if_pos below]

theorem threeWay_cons_of_gt {left right : Posting}
    (lefts rights : List Posting) (above : right.id < left.id) :
    threeWay (left :: lefts) (right :: rights) =
      threeWay (left :: lefts) rights := by
  rw [threeWay, if_neg (Int64.lt_asymm above), if_pos above]

theorem threeWay_cons_of_eq {left right : Posting}
    (lefts rights : List Posting) (same : left.id = right.id) :
    threeWay (left :: lefts) (right :: rights) =
      left.combine right :: threeWay lefts rights := by
  rw [threeWay, same, if_neg Int64.lt_irrefl, if_neg Int64.lt_irrefl]

theorem threeWay_eq_reference {lefts rights : List Posting}
    (leftIncreasing : Increasing lefts)
    (rightIncreasing : Increasing rights) :
    threeWay lefts rights = reference lefts rights := by
  induction lefts, rights using threeWay.induct with
  | case1 rights => simp
  | case2 left lefts => simp
  | case3 left lefts right rights below ih =>
      have absent : ∀ other ∈ right :: rights, other.id ≠ left.id :=
        fun other member =>
          (Int64.ne_of_lt
            (rightIncreasing.forall_lt below other member)).symm
      rw [threeWay_cons_of_lt lefts rights below,
        reference_cons_of_absent lefts absent,
        ih leftIncreasing.tail rightIncreasing]
  | case4 left lefts right rights notBelow above ih =>
      have absent : ∀ other ∈ left :: lefts, ∀ skipped ∈ [right],
          skipped.id ≠ other.id := by
        intro other member skipped isRight
        rw [List.mem_singleton.mp isRight]
        exact Int64.ne_of_lt (leftIncreasing.forall_lt above other member)
      rw [threeWay_cons_of_gt lefts rights above,
        ih leftIncreasing rightIncreasing.tail]
      exact (reference_append_of_absent rights absent).symm
  | case5 left lefts right rights notBelow notAbove ih =>
      have same : left.id = right.id :=
        Int64.le_antisymm (Int64.not_lt.mp notAbove)
          (Int64.not_lt.mp notBelow)
      have found : partner? (right :: rights) left.id = some right := by
        simp [partner?, same]
      have absent : ∀ other ∈ lefts, ∀ skipped ∈ [right],
          skipped.id ≠ other.id := by
        intro other member skipped isRight
        rw [List.mem_singleton.mp isRight, ← same]
        exact Int64.ne_of_lt (leftIncreasing.head_lt other member)
      rw [threeWay_cons_of_eq lefts rights same,
        reference_cons_of_partner lefts found,
        ih leftIncreasing.tail rightIncreasing.tail]
      congr 1
      exact (reference_append_of_absent rights absent).symm

/-! ## Catching up -/

theorem threeWay_catchUp_left (right : Posting)
    (lefts rights : List Posting) :
    threeWay (catchUp right.id lefts) (right :: rights) =
      threeWay lefts (right :: rights) := by
  induction lefts with
  | nil => rfl
  | cons left lefts ih =>
      by_cases below : left.id < right.id
      · rw [threeWay_cons_of_lt lefts rights below, ← ih]
        simp [catchUp, below]
      · rw [catchUp_cons_of_not_lt lefts below]

theorem threeWay_catchUp_right (left : Posting)
    (lefts rights : List Posting) :
    threeWay (left :: lefts) (catchUp left.id rights) =
      threeWay (left :: lefts) rights := by
  induction rights with
  | nil => rfl
  | cons right rights ih =>
      by_cases above : right.id < left.id
      · rw [threeWay_cons_of_gt lefts rights above, ← ih]
        simp [catchUp, above]
      · rw [catchUp_cons_of_not_lt rights above]

/-- One turn of both cursors skips nothing that the three-way merge would
have emitted. -/
theorem threeWay_caught {left right here there : Posting}
    {lefts rights heres theres : List Posting}
    (leftCaught : catchUp right.id (left :: lefts) = here :: heres)
    (rightCaught : catchUp here.id (right :: rights) = there :: theres) :
    threeWay (left :: lefts) (right :: rights) =
      threeWay (here :: heres) (there :: theres) := by
  rw [← threeWay_catchUp_left, leftCaught, ← threeWay_catchUp_right,
    rightCaught]

theorem alternating_of_left_exhausted {left right : Posting}
    {lefts rights : List Posting}
    (exhausted : catchUp right.id (left :: lefts) = []) :
    alternating (left :: lefts) (right :: rights) = [] := by
  rw [alternating]
  split
  · rfl
  · simp_all

theorem alternating_of_right_exhausted {left right here : Posting}
    {lefts rights heres : List Posting}
    (leftCaught : catchUp right.id (left :: lefts) = here :: heres)
    (exhausted : catchUp here.id (right :: rights) = []) :
    alternating (left :: lefts) (right :: rights) = [] := by
  rw [alternating]
  split
  · rfl
  · split
    · rfl
    · simp_all

theorem alternating_of_caught {left right here there : Posting}
    {lefts rights heres theres : List Posting}
    (leftCaught : catchUp right.id (left :: lefts) = here :: heres)
    (rightCaught : catchUp here.id (right :: rights) = there :: theres) :
    alternating (left :: lefts) (right :: rights) =
      if here.id = there.id then
        here.combine there :: alternating heres theres
      else
        alternating (here :: heres) (there :: theres) := by
  rw [alternating]
  split
  · simp_all
  · split
    · simp_all
    · simp_all

/-- The alternating merge emits what the three-way merge emits, on any two
runs. -/
theorem alternating_eq_threeWay (lefts rights : List Posting) :
    alternating lefts rights = threeWay lefts rights := by
  induction lefts, rights using alternating.induct with
  | case1 rights => simp [alternating]
  | case2 left lefts => simp [alternating]
  | case3 left lefts right rights exhausted =>
      rw [alternating_of_left_exhausted exhausted,
        ← threeWay_catchUp_left, exhausted, threeWay_nil_left]
  | case4 left lefts right rights here heres leftCaught exhausted =>
      rw [alternating_of_right_exhausted leftCaught exhausted,
        ← threeWay_catchUp_left, leftCaught, ← threeWay_catchUp_right,
        exhausted, threeWay_nil_right]
  | case5 left lefts right rights here heres leftCaught there theres
      rightCaught same ih =>
      rw [alternating_of_caught leftCaught rightCaught, if_pos same, ih,
        threeWay_caught leftCaught rightCaught,
        threeWay_cons_of_eq heres theres same]
  | case6 left lefts right rights here heres leftCaught there theres
      rightCaught different ih =>
      rw [alternating_of_caught leftCaught rightCaught, if_neg different, ih,
        threeWay_caught leftCaught rightCaught]

/-! ## Runs closed by a sentinel -/

/-- The part of a run before its first sentinel. -/
def beforeSentinel (run : List Posting) : List Posting :=
  run.takeWhile fun posting => posting.id != sentinelId

/-- A run in which a cursor without a bound meets the reserved id. -/
def Closed (run : List Posting) : Prop :=
  ∃ posting ∈ run, posting.id = sentinelId

@[simp] theorem beforeSentinel_cons (head : Posting)
    (tail : List Posting) :
    beforeSentinel (head :: tail) =
      if head.id = sentinelId then [] else head :: beforeSentinel tail := by
  by_cases reserved : head.id = sentinelId
  · simp [beforeSentinel, reserved]
  · simp [beforeSentinel, reserved]

theorem catchUp_beforeSentinel (target : Int64) (run : List Posting) :
    catchUp target (beforeSentinel run) =
      beforeSentinel (catchUp target run) := by
  induction run with
  | nil => rfl
  | cons head tail ih =>
      by_cases below : head.id < target
      · have real := ne_sentinelId_of_lt below
        simpa [catchUp, below, real] using ih
      · rw [catchUp_cons_of_not_lt tail below, beforeSentinel_cons]
        split
        · rfl
        · rw [catchUp_cons_of_not_lt _ below]

/-- In a closed run a cursor finds the first id that is not below its target,
and the run stays closed. -/
theorem advance_of_closed (size : Nat) (target : Int64)
    {run : List Posting} (closed : Closed run) :
    ∃ head tail, advance size target run = .ok (head, tail) ∧
      Closed (head :: tail) := by
  induction run with
  | nil => simp [Closed] at closed
  | cons head tail ih =>
      by_cases below : head.id < target
      · have real := ne_sentinelId_of_lt below
        have closedTail : Closed tail := by
          simpa [Closed, real] using closed
        obtain ⟨here, rest, advanced, stillClosed⟩ := ih closedTail
        exact ⟨here, rest, by rw [advance, if_pos below, advanced],
          stillClosed⟩
      · exact ⟨head, tail, by rw [advance, if_neg below], closed⟩

theorem closed_of_advance {size : Nat} {target : Int64}
    {head : Posting} {run tail : List Posting} (closed : Closed run)
    (advanced : advance size target run = .ok (head, tail)) :
    Closed (head :: tail) := by
  obtain ⟨here, rest, found, stillClosed⟩ :=
    advance_of_closed size target closed
  rw [advanced] at found
  cases found
  exact stillClosed

theorem not_lt_of_catchUp_eq_cons {target : Int64} {head : Posting}
    {run tail : List Posting}
    (caught : catchUp target run = head :: tail) : ¬ head.id < target := by
  induction run with
  | nil => simp [catchUp] at caught
  | cons first rest ih =>
      by_cases below : first.id < target
      · apply ih
        simpa [catchUp, below] using caught
      · rw [catchUp_cons_of_not_lt rest below] at caught
        cases caught
        exact below

/-- What is before the sentinels after one turn of both cursors merges to
what was before them. -/
theorem threeWay_beforeSentinel_caught {left right here there : Posting}
    {lefts rights heres theres : List Posting}
    (leftCaught : catchUp right.id (left :: lefts) = here :: heres)
    (rightCaught : catchUp here.id (right :: rights) = there :: theres) :
    threeWay (beforeSentinel (left :: lefts))
        (beforeSentinel (right :: rights)) =
      threeWay (beforeSentinel (here :: heres))
        (beforeSentinel (there :: theres)) := by
  have leftReached := not_lt_of_catchUp_eq_cons leftCaught
  -- Before the sentinel of the right run the left cursor catches up as ever.
  have leftTurn (rightReal : right.id ≠ sentinelId) :
      threeWay (beforeSentinel (left :: lefts))
          (beforeSentinel (right :: rights)) =
        threeWay (beforeSentinel (here :: heres))
          (beforeSentinel (right :: rights)) := by
    rw [← leftCaught, ← catchUp_beforeSentinel,
      beforeSentinel_cons right rights, if_neg rightReal,
      threeWay_catchUp_left]
  by_cases hereReserved : here.id = sentinelId
  · rw [beforeSentinel_cons here heres, if_pos hereReserved,
      threeWay_nil_left]
    by_cases rightReserved : right.id = sentinelId
    · rw [beforeSentinel_cons right rights, if_pos rightReserved,
        threeWay_nil_right]
    · rw [leftTurn rightReserved, beforeSentinel_cons here heres,
        if_pos hereReserved, threeWay_nil_left]
  · have rightReal : right.id ≠ sentinelId := by
      intro rightReserved
      rw [rightReserved] at leftReached
      exact leftReached (lt_sentinelId hereReserved)
    rw [leftTurn rightReal, ← rightCaught, ← catchUp_beforeSentinel,
      beforeSentinel_cons here heres, if_neg hereReserved,
      threeWay_catchUp_right]

theorem terminated_of_advanced {leftSize rightSize : Nat}
    {left right here there : Posting}
    {lefts rights heres theres : List Posting}
    (leftAdvanced : advance leftSize right.id (left :: lefts) =
      .ok (here, heres))
    (rightAdvanced : advance rightSize here.id (right :: rights) =
      .ok (there, theres)) :
    terminated leftSize rightSize (left :: lefts) (right :: rights) =
      if here.id = there.id then
        if here.id = sentinelId then
          .ok []
        else
          (terminated leftSize rightSize heres theres).map
            (here.combine there :: ·)
      else
        terminated leftSize rightSize (here :: heres)
          (there :: theres) := by
  rw [terminated]
  split
  · simp_all
  · split
    · simp_all
    · simp_all

/-- On closed runs the merge without bounds never reads past an end, and it
emits what the three-way merge emits before the sentinels. -/
theorem terminated_eq_threeWay {leftSize rightSize : Nat}
    {lefts rights : List Posting}
    (leftClosed : Closed lefts) (rightClosed : Closed rights) :
    terminated leftSize rightSize lefts rights =
      .ok (threeWay (beforeSentinel lefts) (beforeSentinel rights)) := by
  induction lefts, rights using
    terminated.induct leftSize rightSize with
  | case1 rights => simp [Closed] at leftClosed
  | case2 left lefts => simp [Closed] at rightClosed
  | case3 left lefts right rights fault failed =>
      obtain ⟨here, heres, advanced, _⟩ :=
        advance_of_closed leftSize right.id leftClosed
      simp [failed] at advanced
  | case4 left lefts right rights here heres _ fault failed =>
      obtain ⟨there, theres, advanced, _⟩ :=
        advance_of_closed rightSize here.id rightClosed
      simp [failed] at advanced
  | case5 left lefts right rights here heres leftAdvanced there theres
      rightAdvanced same reserved =>
      rw [terminated_of_advanced leftAdvanced rightAdvanced, if_pos same,
        if_pos reserved,
        threeWay_beforeSentinel_caught (advance_eq_ok leftAdvanced)
          (advance_eq_ok rightAdvanced),
        beforeSentinel_cons here heres, if_pos reserved, threeWay_nil_left]
  | case6 left lefts right rights here heres leftAdvanced there theres
      rightAdvanced same real ih =>
      have thereReal : there.id ≠ sentinelId := by rwa [← same]
      have heresClosed : Closed heres := by
        simpa [Closed, real] using
          closed_of_advance leftClosed leftAdvanced
      have theresClosed : Closed theres := by
        simpa [Closed, thereReal] using
          closed_of_advance rightClosed rightAdvanced
      rw [terminated_of_advanced leftAdvanced rightAdvanced, if_pos same,
        if_neg real, ih heresClosed theresClosed,
        threeWay_beforeSentinel_caught (advance_eq_ok leftAdvanced)
          (advance_eq_ok rightAdvanced),
        beforeSentinel_cons here heres, if_neg real,
        beforeSentinel_cons there theres, if_neg thereReal,
        threeWay_cons_of_eq _ _ same]
      rfl
  | case7 left lefts right rights here heres leftAdvanced there theres
      rightAdvanced different ih =>
      rw [terminated_of_advanced leftAdvanced rightAdvanced,
        if_neg different,
        ih (closed_of_advance leftClosed leftAdvanced)
          (closed_of_advance rightClosed rightAdvanced),
        threeWay_beforeSentinel_caught (advance_eq_ok leftAdvanced)
          (advance_eq_ok rightAdvanced)]

end Merge

end Postings
