import Postings.Proofs.Intersection.Gallop

/-!
# A search in the bracket of a gallop

Galloping serves a driver in two steps: it brackets the place of the driver
and then searches the bracket.  Where ids grow from position to position this
comes to a search in the whole rest of the list.  Both find the same probe,
and the gallop is exhausted exactly if that search ends behind the last id.

An array that grows has one place at most for an id, and one place at most
for an id that is absent.  So two probes that settle the same target agree,
whichever window they come from.
-/

namespace Postings

/-! ## Arrays that grow -/

section Growing

variable {ids : Array Int64} (growing : ids.toList.Pairwise (· < ·))

include growing

theorem lt_of_growing {first second : Nat} {earlier later : Int64}
    (before : first < second) (firstPresent : ids[first]? = some earlier)
    (secondPresent : ids[second]? = some later) : earlier < later := by
  obtain ⟨firstInside, rfl⟩ := Array.getElem?_eq_some_iff.mp firstPresent
  obtain ⟨secondInside, rfl⟩ := Array.getElem?_eq_some_iff.mp secondPresent
  exact List.pairwise_iff_getElem.mp growing first second
    (by simpa using firstInside) (by simpa using secondInside) before

theorem nonDecreasing_of_growing (start : Nat) :
    NonDecreasing ids start ids.size :=
  .of_pairwise (growing.imp Int64.le_of_lt) start

theorem position_unique_of_growing {first second : Nat} {id : Int64}
    (firstPresent : ids[first]? = some id)
    (secondPresent : ids[second]? = some id) : first = second := by
  rcases Nat.lt_trichotomy first second with before | same | behind
  · exact absurd
      (lt_of_growing growing before firstPresent secondPresent)
      Int64.lt_irrefl
  · exact same
  · exact absurd
      (lt_of_growing growing behind secondPresent firstPresent)
      Int64.lt_irrefl

end Growing

/-- The ids before one position and the ids from another on lie on different
sides of the target, so the first position does not exceed the second. -/
theorem Each.le_of_sides {ids : Array Int64} {target : Int64}
    {start first second stop : Nat}
    (front : Each (· < target) ids start first)
    (back : Each (target < ·) ids second stop) (startLe : start ≤ second)
    (firstLe : first ≤ stop) (inside : stop ≤ ids.size) :
    first ≤ second := by
  apply Nat.le_of_not_lt
  intro between
  have present : ids[second]? = some ids[second] :=
    Array.getElem?_eq_getElem (by omega)
  have below := front second _ startLe between present
  have above := back second _ (Nat.le_refl second) (by omega) present
  exact Int64.lt_irrefl (Int64.lt_trans below above)

/-! ## Probes that settle one target -/

theorem Probe.eq_of_fields {first second : Probe}
    (sameFound : first.found = second.found)
    (sameNext : first.next = second.next) : first = second := by
  cases first
  cases second
  cases sameFound
  cases sameNext
  rfl

/-- A probe that settles a target tells whether the target stands anywhere
from the cursor on. -/
theorem Probe.Settles.found_iff {probe : Probe} {ids : Array Int64}
    {target : Int64} {cursor : Nat}
    (settles : probe.Settles ids target cursor) :
    probe.found = true ↔
      ∃ position, cursor ≤ position ∧ ids[position]? = some target := by
  constructor
  · intro found
    obtain ⟨above, present⟩ := settles.partner found
    exact ⟨probe.next - 1, by omega, present⟩
  · intro occurs
    obtain ⟨position, behind, present⟩ := occurs
    obtain ⟨inside, _⟩ := Array.getElem?_eq_some_iff.mp present
    cases found : probe.found with
    | true => rfl
    | false =>
        exact absurd rfl
          (settles.alone found position target behind inside present)

namespace Locator.Lawful

variable {look : Locator} {ids : Array Int64} {target : Int64}
  {start : Nat}

/-- A search of the whole rest finds nothing and ends behind the last id if
all ids are below the target. -/
theorem look_of_each_lt (lawful : look.Lawful)
    (sorted : NonDecreasing ids start ids.size) (inside : start ≤ ids.size)
    (below : Each (· < target) ids start ids.size) :
    Search.probe look ids target start ids.size =
      { found := false, next := ids.size } := by
  have settles := lawful.settles target sorted inside
  have alone : (Search.probe look ids target start ids.size).found = false := by
    rw [← Bool.not_eq_true, settles.found_iff]
    intro occurs
    obtain ⟨position, behind, present⟩ := occurs
    obtain ⟨before, _⟩ := Array.getElem?_eq_some_iff.mp present
    exact Int64.lt_irrefl (below position target behind before present)
  obtain ⟨_, _, _, above⟩ := lawful.probe_absent ids target start ids.size inside
    (Nat.le_refl _) sorted alone
  have atEnd : (Search.probe look ids target start ids.size).next = ids.size :=
    Nat.le_antisymm settles.next_le
      (below.le_of_sides above settles.cursor_le (Nat.le_refl _)
        (Nat.le_refl _))
  exact Probe.eq_of_fields alone atEnd

/-- A search that finds nothing and ends behind the last id has passed ids
below the target only. -/
theorem each_lt_of_look (lawful : look.Lawful)
    (sorted : NonDecreasing ids start ids.size) (inside : start ≤ ids.size)
    (ended : Search.probe look ids target start ids.size =
      { found := false, next := ids.size }) :
    Each (· < target) ids start ids.size := by
  obtain ⟨_, _, below, _⟩ := lawful.probe_absent ids target start ids.size inside
    (Nat.le_refl _) sorted (by rw [ended])
  rwa [ended] at below

theorem look_bracket_eq (lawful : look.Lawful)
    (growing : ids.toList.Pairwise (· < ·)) {low high : Nat}
    (brackets : (Gallop.bound low high).Brackets ids target start) :
    Search.probe look ids target low (high + 1) = Search.probe look ids target start ids.size := by
  have sorted := nonDecreasing_of_growing growing start
  have narrow := lawful.settles_bracketed sorted brackets
  obtain ⟨startLe, lowLe, inside, front, id, present, reached⟩ := brackets
  have wide := lawful.settles target sorted (by omega)
  have sameFound : (Search.probe look ids target low (high + 1)).found =
      (Search.probe look ids target start ids.size).found := by
    rw [Bool.eq_iff_iff, narrow.found_iff, wide.found_iff]
  have sameNext : (Search.probe look ids target low (high + 1)).next =
      (Search.probe look ids target start ids.size).next := by
    cases found : (Search.probe look ids target start ids.size).found with
    | true =>
        obtain ⟨narrowAbove, narrowPresent⟩ :=
          narrow.partner (sameFound.trans found)
        obtain ⟨wideAbove, widePresent⟩ := wide.partner found
        have samePlace :=
          position_unique_of_growing growing narrowPresent widePresent
        omega
    | false =>
        obtain ⟨lowLeNext, narrowLe, narrowBelow, narrowAbove⟩ :=
          lawful.probe_absent ids target low (high + 1) (by omega) inside
            (sorted.mono startLe inside) (sameFound.trans found)
        obtain ⟨startLeNext, _, wideBelow, wideAbove⟩ :=
          lawful.probe_absent ids target start ids.size (by omega)
            (Nat.le_refl _) sorted found
        have wideLe : (Search.probe look ids target start ids.size).next ≤ high := by
          apply Nat.le_of_not_lt
          intro passedEnd
          have short := wideBelow high id (by omega) passedEnd present
          exact Int64.not_le.mpr short reached
        have narrowFront := front.append narrowBelow
        apply Nat.le_antisymm
        · exact narrowFront.le_of_sides wideAbove startLeNext (by omega)
            (Nat.le_refl _)
        · exact wideBelow.le_of_sides narrowAbove (by omega) (by omega)
            inside
  exact Probe.eq_of_fields sameFound sameNext

end Locator.Lawful

namespace Gallop

/-- Galloping and then searching the bracket comes to a search in the whole
rest.  Neither step fails, and the gallop is exhausted exactly if the search
finds nothing up to the end. -/
theorem search_in_bracket_agrees {look : Locator} (lawful : look.Lawful)
    {ids : Array Int64} (growing : ids.toList.Pairwise (· < ·))
    (target : Int64) {start : Nat} (inside : start < ids.size) :
    ∃ gallop probe,
      find ids target start = .ok gallop ∧
      Search.lookWithin look ids target start ids.size = .ok probe ∧
      (gallop = .exhausted ↔
        probe = { found := false, next := ids.size }) ∧
      ∀ low high, gallop = .bound low high →
        Search.lookWithin look ids target low (high + 1) = .ok probe := by
  have sorted := nonDecreasing_of_growing growing start
  have startLe := Nat.le_of_lt inside
  obtain ⟨gallop, found, brackets⟩ := find_brackets target sorted inside
  refine ⟨gallop, _, found, Search.lookWithin_eq_ok look target startLe
    (Nat.le_refl _), ?_, ?_⟩
  · constructor
    · intro exhausted
      rw [exhausted] at brackets
      exact lawful.look_of_each_lt sorted startLe brackets
    · intro ended
      have below := lawful.each_lt_of_look sorted startLe ended
      cases gallop with
      | exhausted => rfl
      | bound low high =>
          obtain ⟨startLeLow, lowLe, highLt, _, id, present, reached⟩ :=
            brackets
          have short := below high id (by omega) highLt present
          exact absurd reached (Int64.not_le.mpr short)
  · intro low high bracketed
    rw [bracketed] at brackets
    have same := lawful.look_bracket_eq growing brackets
    obtain ⟨_, lowLe, highLt, _⟩ := brackets
    rw [Search.lookWithin_eq_ok look target (Nat.le_succ_of_le lowLe)
      highLt, same]

/-- From position one on the probes stop at 30, 40 and 60, and the next one
is moved to the last position. -/
def gallopSample : Array Int64 :=
  #[10, 20, 30, 40, 50, 60, 70]

theorem search_in_bracket_agrees_sample :
    ∃ low high,
      find gallopSample 65 1 = .ok (.bound low high) ∧
      Search.lookWithin Search.locate gallopSample 65 low (high + 1) =
        .ok { found := false, next := 6 } := by
  have growing : gallopSample.toList.Pairwise (· < ·) := by decide
  have inside : 1 < gallopSample.size := by decide
  obtain ⟨gallop, probe, found, looked, exhausted, bracketed⟩ :=
    search_in_bracket_agrees Search.locate_lawful growing 65 inside
  have computed : probe = { found := false, next := 6 } := by
    have direct : Search.lookWithin Search.locate gallopSample 65 1
        gallopSample.size = .ok { found := false, next := 6 } := by
      decide +kernel
    rw [direct] at looked
    exact (Except.ok.inj looked).symm
  cases gallop with
  | exhausted =>
      have atEnd := exhausted.mp rfl
      rw [computed] at atEnd
      exact absurd atEnd (by decide)
  | bound low high =>
      rw [computed] at bracketed
      exact ⟨low, high, found, bracketed low high rfl⟩

end Gallop

end Postings
