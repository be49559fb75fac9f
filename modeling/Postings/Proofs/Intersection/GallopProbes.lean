import Mathlib.Data.Nat.Find
import Postings.Intersection.Gallop
import Postings.Proofs.PostingList.Window

/-!
# The probes of one gallop

A gallop probes at doubling distances from its start.  `Visits` gives the
points that it passes: the last position known to be below the target, and
the number of doublings so far.  `Ends` says how it ends at a point.  What
holds at every point is shown for one step and carried along the run.

A gallop brackets the first id that is not below the target, or finds that
there is none from the start on.  The bracket reaches at most twice as far
as that id.  Distances fit machine words, and none is doubled 64 times.
-/

namespace Postings

namespace Gallop

/-- What a gallop from the start position tells about the target. -/
def Brackets (ids : Array Int64) (target : Int64) (start : Nat) :
    Gallop → Prop
  | .bound low high =>
      start ≤ low ∧ low ≤ high ∧ high < ids.size ∧
        Each (· < target) ids start low ∧
        ∃ id, ids[high]? = some id ∧ target ≤ id
  | .exhausted => Each (· < target) ids start ids.size

theorem readId_eq_ok {ids : Array Int64} {position : Nat} {id : Int64} :
    readId ids position = .ok id ↔ ids[position]? = some id := by
  unfold readId
  cases ids[position]? <;> simp

/-! ## The points of a gallop -/

section Points

variable (ids : Array Int64) (target : Int64) (start : Nat)

/-- The points at which the next probe is made. -/
inductive Visits : Nat → Nat → Prop where
  | first {id : Int64} :
      ids[start]? = some id → id < target → Visits start 0
  | next {below doublings : Nat} {id : Int64} :
      Visits below doublings →
      start + stride doublings < ids.size - 1 →
      ids[start + stride doublings]? = some id → id < target →
      Visits (start + stride doublings) (doublings + 1)

/-- How the probe at a point ends the gallop.  A probe past the end is moved
to the last position. -/
inductive Ends : Nat → Nat → Gallop → Prop where
  | exhausted {below doublings : Nat} {id : Int64} :
      ids.size - 1 ≤ start + stride doublings →
      ids[ids.size - 1]? = some id → id < target →
      Ends below doublings .exhausted
  | moved {below doublings : Nat} {id : Int64} :
      ids.size - 1 ≤ start + stride doublings →
      ids[ids.size - 1]? = some id → target ≤ id →
      Ends below doublings (.bound (below + 1) (ids.size - 1))
  | reached {below doublings : Nat} {id : Int64} :
      start + stride doublings < ids.size - 1 →
      ids[start + stride doublings]? = some id → target ≤ id →
      Ends below doublings (.bound (below + 1) (start + stride doublings))

/-- What is known at every point. -/
structure Sound (below doublings : Nat) : Prop where
  start_le : start ≤ below
  inside : below < ids.size
  ahead : below < start + stride doublings
  /-- The next probe is at most twice as far as the ids that were passed. -/
  near : stride doublings ≤ 2 * (below + 1 - start)
  /-- The next probe is at most twice as far as the end. -/
  bounded : start + stride doublings < 2 * ids.size
  below_target : ∃ id, ids[below]? = some id ∧ id < target

end Points

section Probe

variable {ids : Array Int64} {target id : Int64}
  {start below doublings : Nat}

theorem probe_at_end (past : ids.size - 1 ≤ start + stride doublings)
    (present : ids[ids.size - 1]? = some id) :
    probe ids target start below doublings =
      .ok (if id < target then .exhausted
        else .bound (below + 1) (ids.size - 1)) := by
  rw [probe, if_pos past, readId_eq_ok.mpr present]
  simp only [bind, Except.bind, pure, Except.pure]
  split <;> rfl

theorem probe_of_reached (before : ¬ ids.size - 1 ≤ start + stride doublings)
    (present : ids[start + stride doublings]? = some id)
    (reached : target ≤ id) :
    probe ids target start below doublings =
      .ok (.bound (below + 1) (start + stride doublings)) := by
  rw [probe, if_neg before, readId_eq_ok.mpr present]
  simp [reached]

theorem probe_of_below (before : ¬ ids.size - 1 ≤ start + stride doublings)
    (present : ids[start + stride doublings]? = some id)
    (notReached : ¬ target ≤ id) :
    probe ids target start below doublings =
      probe ids target start (start + stride doublings) (doublings + 1) := by
  rw [probe, if_neg before, readId_eq_ok.mpr present]
  simp [notReached]

theorem find_of_reached (present : ids[start]? = some id)
    (reached : target ≤ id) :
    find ids target start = .ok (.bound start start) := by
  rw [find, readId_eq_ok.mpr present]
  simp only [bind, Except.bind, pure, Except.pure]
  rw [if_pos reached]

theorem find_of_below (present : ids[start]? = some id)
    (notReached : ¬ target ≤ id) :
    find ids target start = probe ids target start start 0 := by
  rw [find, readId_eq_ok.mpr present]
  simp only [bind, Except.bind, pure, Except.pure]
  rw [if_neg notReached]

/-! ## What holds at every point -/

theorem Sound.first (present : ids[start]? = some id) (short : id < target) :
    Sound ids target start start 0 where
  start_le := Nat.le_refl start
  inside := (Array.getElem?_eq_some_iff.mp present).1
  ahead := Nat.lt_succ_self start
  near := by
    rw [stride]
    omega
  bounded := by
    have inside := (Array.getElem?_eq_some_iff.mp present).1
    rw [stride]
    omega
  below_target := ⟨id, present, short⟩

theorem Sound.next
    (before : start + stride doublings < ids.size - 1)
    (present : ids[start + stride doublings]? = some id)
    (short : id < target) :
    Sound ids target start (start + stride doublings) (doublings + 1) := by
  have doubled : stride (doublings + 1) = 2 * stride doublings := rfl
  have positive := stride_pos doublings
  constructor
  · exact Nat.le_add_right start _
  · omega
  · omega
  · omega
  · omega
  · exact ⟨id, present, short⟩

namespace Visits

theorem sound (visits : Visits ids target start below doublings) :
    Sound ids target start below doublings := by
  induction visits with
  | first present short => exact Sound.first present short
  | next _ before present short _ => exact Sound.next before present short

theorem find_eq (visits : Visits ids target start below doublings) :
    find ids target start = probe ids target start below doublings := by
  induction visits with
  | first present short =>
      exact find_of_below present (Int64.not_le.mpr short)
  | next _ before present short ih =>
      rw [ih]
      exact probe_of_below (Nat.not_le.mpr before) present
        (Int64.not_le.mpr short)

/-- Probing from a point ends at a point, and no read leaves the ids. -/
theorem exists_last (visits : Visits ids target start below doublings) :
    ∃ last rounds gallop,
      Visits ids target start last rounds ∧
      Ends ids target start last rounds gallop ∧
      probe ids target start below doublings = .ok gallop := by
  have nonempty := visits.sound.inside
  induction below, doublings using probe.induct ids target start with
  | case1 below doublings position last past =>
      obtain ⟨id, present⟩ : ∃ id, ids[ids.size - 1]? = some id :=
        ⟨_, Array.getElem?_eq_getElem (by omega)⟩
      refine ⟨below, doublings, _, visits, ?_, probe_at_end past present⟩
      by_cases short : id < target
      · rw [if_pos short]
        exact .exhausted past present short
      · rw [if_neg short]
        exact .moved past present (Int64.not_lt.mp short)
  | case2 below doublings position last before fault failed =>
      have present : ids[position]? = some ids[position] :=
        Array.getElem?_eq_getElem (by omega)
      simp [readId_eq_ok.mpr present] at failed
  | case3 below doublings position last before id read reached =>
      have present := readId_eq_ok.mp read
      exact ⟨below, doublings, _, visits,
        .reached (Nat.lt_of_not_le before) present reached,
        probe_of_reached before present reached⟩
  | case4 below doublings position last before id read notReached ih =>
      have present := readId_eq_ok.mp read
      have later : Visits ids target start position (doublings + 1) :=
        .next visits (Nat.lt_of_not_le before) present
          (Int64.not_le.mp notReached)
      rw [probe_of_below before present notReached]
      exact ih later later.sound.inside

theorem passed (visits : Visits ids target start below doublings)
    (sorted : NonDecreasing ids start ids.size) :
    Each (· < target) ids start (below + 1) := by
  obtain ⟨id, present, short⟩ := visits.sound.below_target
  exact sorted.each_lt visits.sound.inside present short

end Visits

theorem find_ends (inside : start < ids.size) :
    (∃ id, ids[start]? = some id ∧ target ≤ id ∧
      find ids target start = .ok (.bound start start)) ∨
    ∃ last rounds gallop,
      Visits ids target start last rounds ∧
      Ends ids target start last rounds gallop ∧
      find ids target start = .ok gallop := by
  have present : ids[start]? = some ids[start] :=
    Array.getElem?_eq_getElem inside
  by_cases reached : target ≤ ids[start]
  · left
    exact ⟨_, present, reached, find_of_reached present reached⟩
  · right
    have visits : Visits ids target start start 0 :=
      .first present (Int64.not_le.mp reached)
    obtain ⟨last, rounds, gallop, visited, ends, probed⟩ :=
      visits.exists_last
    exact ⟨last, rounds, gallop, visited, ends,
      visits.find_eq.trans probed⟩

/-! ## The bracket -/

theorem Ends.brackets {gallop : Gallop}
    (ends : Ends ids target start below doublings gallop)
    (visits : Visits ids target start below doublings)
    (sorted : NonDecreasing ids start ids.size) :
    gallop.Brackets ids target start := by
  have passed := visits.passed sorted
  obtain ⟨startLe, inside, ahead, _, _, _⟩ := visits.sound
  cases ends with
  | exhausted past present short =>
      rw [← Array.back?_eq_getElem?] at present
      exact (sorted.each_lt_iff (by omega) present).mpr short
  | moved past present reached =>
      have notLast : below ≠ ids.size - 1 := by
        intro same
        have short := passed _ _ (by omega) (by omega) present
        exact Int64.not_le.mpr short reached
      exact ⟨by omega, by omega, by omega, passed, _, present, reached⟩
  | reached before present reached =>
      exact ⟨by omega, by omega, by omega, passed, _, present, reached⟩

/-- The bracket reaches at most twice as far as the ids below the target. -/
theorem Ends.near {low high : Nat}
    (ends : Ends ids target start below doublings (.bound low high))
    (visits : Visits ids target start below doublings) :
    high - start ≤ 2 * (low - start) := by
  have near := visits.sound.near
  cases ends with
  | moved past => omega
  | reached before => omega

end Probe

theorem find_brackets {ids : Array Int64} (target : Int64) {start : Nat}
    (sorted : NonDecreasing ids start ids.size)
    (inside : start < ids.size) :
    ∃ gallop, find ids target start = .ok gallop ∧
      gallop.Brackets ids target start := by
  rcases find_ends inside with
    ⟨id, present, reached, found⟩ |
    ⟨last, rounds, gallop, visits, ends, found⟩
  · exact ⟨_, found, Nat.le_refl start, Nat.le_refl start, inside,
      Each.of_window_empty (Nat.le_refl start), id, present, reached⟩
  · exact ⟨gallop, found, ends.brackets visits sorted⟩

/-- A gallop that tells about the target is exhausted exactly if all ids from
the start on are below it. -/
theorem Brackets.eq_exhausted_iff {ids : Array Int64} {target : Int64}
    {start : Nat} {gallop : Gallop}
    (brackets : gallop.Brackets ids target start) :
    gallop = .exhausted ↔ Each (· < target) ids start ids.size := by
  constructor
  · intro exhausted
    rw [exhausted] at brackets
    exact brackets
  · intro below
    cases gallop with
    | exhausted => rfl
    | bound low high =>
        obtain ⟨startLe, lowLe, highLt, _, id, present, reached⟩ := brackets
        have short := below high id (by omega) highLt present
        exact absurd reached (Int64.not_le.mpr short)

/-! ## The first id that is not below the target -/

/-- The first position from the start on whose id is not below the target. -/
structure FirstReaching (ids : Array Int64) (target : Int64)
    (start position : Nat) : Prop where
  start_le : start ≤ position
  passed : Each (· < target) ids start position
  reached : ∃ id, ids[position]? = some id ∧ target ≤ id

theorem exists_firstReaching {ids : Array Int64} {target id : Int64}
    {start position : Nat} (startLe : start ≤ position)
    (present : ids[position]? = some id) (reached : target ≤ id) :
    ∃ first, FirstReaching ids target start first := by
  classical
  have candidates : ∃ position, start ≤ position ∧
      ∃ id, ids[position]? = some id ∧ target ≤ id :=
    ⟨position, startLe, id, present, reached⟩
  obtain ⟨firstLe, firstReached⟩ := Nat.find_spec candidates
  refine ⟨Nat.find candidates, firstLe, ?_, firstReached⟩
  intro earlier earlierId behind before earlierPresent
  apply Int64.not_le.mp
  intro earlierReached
  exact Nat.find_min candidates before
    ⟨behind, earlierId, earlierPresent, earlierReached⟩

/-- A bracket does not begin behind the first id that is not below the
target. -/
theorem FirstReaching.le_of_passed {ids : Array Int64} {target : Int64}
    {start first low : Nat} (reaching : FirstReaching ids target start first)
    (passed : Each (· < target) ids start low) : low ≤ first := by
  apply Nat.le_of_not_lt
  intro before
  obtain ⟨id, present, reached⟩ := reaching.reached
  have short := passed first id reaching.start_le before present
  exact Int64.not_le.mpr short reached

/-- The upper end of a bracket is at most twice as far as its lower end. -/
theorem bound_near {ids : Array Int64} {target : Int64}
    {start low high : Nat} (inside : start < ids.size)
    (found : find ids target start = .ok (.bound low high)) :
    high - start ≤ 2 * (low - start) := by
  rcases find_ends inside with
    ⟨id, _, _, atOnce⟩ | ⟨last, rounds, gallop, visits, ends, later⟩
  · rw [found] at atOnce
    cases atOnce
    omega
  · rw [found] at later
    cases later
    exact ends.near visits

/-! ## Machine words -/

theorem stride_mono {fewer more : Nat} (le : fewer ≤ more) :
    stride fewer ≤ stride more := by
  induction le with
  | refl => exact Nat.le_refl _
  | step _ ih =>
      rw [stride]
      omega

/-- What a machine asks for at a point: the run goes on there, the distance
and the position of the next probe are machine words, and so is the next
distance if there is one. -/
structure FitsWords (ids : Array Int64) (target : Int64)
    (start below doublings : Nat) : Prop where
  goes_on : find ids target start = probe ids target start below doublings
  few : doublings < 64
  position : start + stride doublings < UInt64.size
  doubled : start + stride doublings < ids.size - 1 →
    2 * stride doublings < UInt64.size

theorem Visits.fitsWords {ids : Array Int64} {target : Int64}
    {start below doublings : Nat}
    (visits : Visits ids target start below doublings)
    (short : ids.size < 9223372036854775808) :
    FitsWords ids target start below doublings := by
  have bounded := visits.sound.bounded
  have words : UInt64.size = 18446744073709551616 := rfl
  constructor
  · exact visits.find_eq
  · apply Nat.lt_of_not_le
    intro many
    have far := stride_mono many
    have last : stride 64 = 18446744073709551616 := by decide
    omega
  · omega
  · intro before
    omega

/-- A gallop over ids that do not decrease returns, reads no position outside
and keeps to machine words.  It is exhausted exactly if the last id is below
the target, and otherwise brackets the first id that is not, no more than
twice as far from the start. -/
theorem find_keeps_contract {ids : Array Int64}
    (sorted : ids.toList.Pairwise (· ≤ ·))
    (short : ids.size < 9223372036854775808) {start : Nat}
    (inside : start < ids.size) (target : Int64) :
    (∃ gallop,
      find ids target start = .ok gallop ∧
      (gallop = .exhausted ↔
        ∃ last, ids.back? = some last ∧ last < target) ∧
      ∀ low high, gallop = .bound low high →
        start ≤ low ∧ low ≤ high ∧ high < ids.size ∧
        Each (· < target) ids start low ∧
        (∃ id, ids[high]? = some id ∧ target ≤ id) ∧
        ∃ first, FirstReaching ids target start first ∧
          high - start ≤ 2 * (first - start)) ∧
    ∀ below doublings, Visits ids target start below doublings →
      FitsWords ids target start below doublings := by
  have nonDecreasing := NonDecreasing.of_pairwise sorted start
  constructor
  · obtain ⟨gallop, found, brackets⟩ :=
      find_brackets target nonDecreasing inside
    refine ⟨gallop, found, ?_, ?_⟩
    · obtain ⟨last, isLast⟩ : ∃ last, ids.back? = some last := by
        rw [Array.back?_eq_getElem?]
        exact ⟨_, Array.getElem?_eq_getElem (by omega)⟩
      rw [brackets.eq_exhausted_iff,
        nonDecreasing.each_lt_iff inside isLast]
      simp [isLast]
    · intro low high bounded
      subst bounded
      have near := bound_near inside found
      obtain ⟨startLe, lowLe, highLt, passed, id, present, reached⟩ :=
        brackets
      obtain ⟨first, reaching⟩ :=
        exists_firstReaching (Nat.le_trans startLe lowLe) present reached
      have lowLeFirst := reaching.le_of_passed passed
      exact ⟨startLe, lowLe, highLt, passed, ⟨id, present, reached⟩, first,
        reaching, by omega⟩
  · intro below doublings visits
    exact visits.fitsWords short

/-- Ids that repeat.  From position one on the probes stop at 20, 30 and 50,
and the next one is moved to the last position. -/
def probesSample : Array Int64 :=
  #[10, 20, 20, 30, 40, 50, 60, 60, 70]

theorem find_keeps_contract_sample :
    ∃ low high first,
      find probesSample 65 1 = .ok (.bound low high) ∧
      FirstReaching probesSample 65 1 first ∧
      high - 1 ≤ 2 * (first - 1) ∧
      FitsWords probesSample 65 1 1 0 := by
  have sorted : probesSample.toList.Pairwise (· ≤ ·) := by decide
  have short : probesSample.size < 9223372036854775808 := by decide
  have inside : 1 < probesSample.size := by decide
  obtain ⟨⟨gallop, found, exhausted, bounded⟩, fits⟩ :=
    find_keeps_contract sorted short inside 65
  have visits : Visits probesSample 65 1 1 0 :=
    .first rfl (by decide)
  cases gallop with
  | exhausted =>
      obtain ⟨last, isLast, below⟩ := exhausted.mp rfl
      cases isLast
      exact absurd below (by decide)
  | bound low high =>
      obtain ⟨_, _, _, _, _, first, reaching, near⟩ :=
        bounded low high rfl
      exact ⟨low, high, first, found, reaching, near, fits 1 0 visits⟩

end Gallop

end Postings
