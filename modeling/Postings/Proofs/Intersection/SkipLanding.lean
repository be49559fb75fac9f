import Mathlib.Order.Bounds.Basic
import Postings.Proofs.Intersection.Skip
import Postings.Proofs.PostingList.SkipChain

/-!
# A cursor with skip pointers lands exactly

`Skip.step` follows a pointer only if it leads forward, so `Skip.catchUp`
stops whatever the table holds.  `Chase` is the same pursuit without that
precaution: a pointer is followed whenever the id that it leads to is below
the target.

Over a table that leads forward the precaution is never needed.  Every chase
then ends, and it ends at the first position whose id is not below the target,
or at the end of the list.  Which position that is depends on the ids alone.
-/

namespace Postings

namespace Skip

/-- Where a cursor goes that trusts its pointers. -/
def follow (list : PostingList) (target : Int64) (position : Nat) : Nat :=
  match list.skip? position with
  | some next => if isBelow list target next then next else position + 1
  | none => position + 1

/-- A cursor that trusts its pointers comes to a halt. -/
inductive Chase (list : PostingList) (target : Int64) : Nat → Nat → Prop where
  | halts {position : Nat} :
      ¬ isBelow list target position = true →
      Chase list target position position
  | moves {position stop : Nat} :
      isBelow list target position = true →
      Chase list target (follow list target position) stop →
      Chase list target position stop

/-- The positions at which a cursor may stop that looks for the target. -/
def landings (list : PostingList) (target : Int64) (start : Nat) : Set Nat :=
  {position | start ≤ position ∧
    (position = list.size ∨
      ∃ id, list.ids[position]? = some id ∧ target ≤ id)}

section Chase

variable {list : PostingList} {target : Int64} {start : Nat}

theorem Chase.unique {stop other : Nat} (chase : Chase list target start stop)
    (otherChase : Chase list target start other) : stop = other := by
  induction chase with
  | halts reached =>
      cases otherChase with
      | halts => rfl
      | moves below => exact absurd below reached
  | moves below _ ih =>
      cases otherChase with
      | halts reached => exact absurd below reached
      | moves _ later => exact ih later

theorem step_eq_follow (forward : list.skips.LeadsForward)
    (target : Int64) (position : Nat) :
    step list target position = follow list target position := by
  unfold step follow
  cases pointer : list.skip? position with
  | none => rfl
  | some next =>
      have ahead : position < next := forward position next pointer
      simp [ahead]

theorem chase_catchUp (forward : list.skips.LeadsForward)
    (target : Int64) (start : Nat) :
    Chase list target start (catchUp list target start) := by
  induction start using catchUp.induct list target with
  | case1 position below ih =>
      rw [step_eq_follow forward] at ih
      rw [catchUp, if_pos below, step_eq_follow forward]
      exact .moves below ih
  | case2 position reached =>
      rw [catchUp_eq_self reached]
      exact .halts reached

theorem chase_iff (forward : list.skips.LeadsForward) {stop : Nat} :
    Chase list target start stop ↔ stop = catchUp list target start := by
  constructor
  · intro chase
    exact chase.unique (chase_catchUp forward target start)
  · intro same
    rw [same]
    exact chase_catchUp forward target start

end Chase

theorem isLeast_catchUp (list : PostingList) (target : Int64) {start : Nat}
    (sorted : NonDecreasing list.ids start list.ids.size)
    (inside : start ≤ list.size) :
    IsLeast (landings list target start) (catchUp list target start) := by
  have within := catchUp_le_size target inside
  constructor
  · refine ⟨le_catchUp list target start, ?_⟩
    rcases Nat.lt_or_eq_of_le within with before | ended
    · obtain ⟨id, present⟩ :
          ∃ id, list.ids[catchUp list target start]? = some id :=
        ⟨_, Array.getElem?_eq_getElem before⟩
      refine .inr ⟨id, present, Int64.not_lt.mp ?_⟩
      intro short
      exact not_isBelow_catchUp list target start
        (isBelow_eq_true.mpr ⟨id, present, short⟩)
    · exact .inl ended
  · intro position landing
    obtain ⟨startLe, atEnd | ⟨id, present, reached⟩⟩ := landing
    · rw [atEnd]
      exact within
    · -- A landing that the cursor had passed would have an id below the target.
      apply Nat.le_of_not_lt
      intro overshot
      have short := each_lt_catchUp target sorted position id startLe overshot
        present
      exact Int64.not_le.mpr short reached

/-- Over ids that do not decrease there is one position at which the cursor
arrives, whatever table leads it forward.  It is the first one from the start
on that is the end of the list or whose id is not below the target.  A cursor
that trusts its pointers comes to a halt there and nowhere else. -/
theorem catchUp_lands_exactly (list : PostingList)
    (sorted : list.ids.toList.Pairwise (· ≤ ·)) {start : Nat}
    (inside : start ≤ list.size) (target : Int64) :
    ∃ arrival,
      IsLeast (landings list target start) arrival ∧
      ∀ table : SkipTable, table.LeadsForward →
        catchUp { list with skips := table } target start = arrival ∧
        ∀ stop, Chase { list with skips := table } target start stop ↔
          stop = arrival := by
  have nonDecreasing := NonDecreasing.of_pairwise sorted start
  have least := isLeast_catchUp list target nonDecreasing inside
  refine ⟨catchUp list target start, least, ?_⟩
  intro table forward
  have same : catchUp { list with skips := table } target start =
      catchUp list target start :=
    (isLeast_catchUp { list with skips := table } target nonDecreasing
      inside).unique least
  refine ⟨same, ?_⟩
  intro stop
  rw [chase_iff forward, same]

/-- Ids that repeat, without pointers. -/
def landingSample : PostingList :=
  { ids := #[1, 2, 2, 3, 3, 10], scores := #[0, 0, 0, 0, 0, 0],
    skips := .empty }

/-- From the first slot a pointer leads past the ids that reach three, from the
second one to an id below three, and from the third one past the end. -/
def landingTable : SkipTable :=
  { slots := #[some 5, some 2, some 40] }

theorem landingTable_leadsForward : landingTable.LeadsForward := by
  intro slot target pointer
  rcases slot with _ | _ | _ | slot
  · cases pointer
    decide
  · cases pointer
    decide
  · cases pointer
    decide
  · cases pointer

theorem catchUp_lands_exactly_sample :
    IsLeast (landings landingSample 3 0) 3 ∧
      catchUp { landingSample with skips := landingTable } 3 0 = 3 ∧
      Chase { landingSample with skips := landingTable } 3 0 3 := by
  have sorted : landingSample.ids.toList.Pairwise (· ≤ ·) := by decide
  have inside : 0 ≤ landingSample.size := Nat.zero_le _
  obtain ⟨arrival, least, arrives⟩ :=
    catchUp_lands_exactly landingSample sorted inside 3
  have third : IsLeast (landings landingSample 3 0) 3 := by
    constructor
    · exact ⟨by decide, .inr ⟨3, rfl, by decide⟩⟩
    · intro position landing
      obtain ⟨_, atEnd | ⟨id, present, reached⟩⟩ := landing
      · rw [atEnd]
        decide
      · rcases position with _ | _ | _ | position
        · cases present
          exact absurd reached (by decide)
        · cases present
          exact absurd reached (by decide)
        · cases present
          exact absurd reached (by decide)
        · exact Nat.le_add_left 3 position
  have same : arrival = 3 := least.unique third
  subst same
  obtain ⟨caught, halts⟩ := arrives landingTable landingTable_leadsForward
  exact ⟨third, caught, (halts 3).mpr rfl⟩

end Skip

end Postings
