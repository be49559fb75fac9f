import Postings.Intersection.Search
import Postings.Proofs.Intersection.Reference
import Postings.Proofs.PostingList.Window

/-!
# Searching settles one driver after the other

The search of a slice is lawful if, where the ids do not decrease, it ends at
a position of the id when there is one, and otherwise at the place where the
id would have to stand.  The probe of a lawful search settles a driver: it
says whether the driver has a partner from the cursor on, and it leaves
behind only postings that no later driver asks for.  That is all the scan
relies on.

`Scans` says what a scan may find when each of its drivers is settled in
turn.  Drivers by increasing id find the reference intersection, as far as
their ids occur once at most.
-/

namespace Postings

/-- What a search owes on a slice whose ids do not decrease: a position of the
id if the slice has one, and else the place to insert it. -/
structure Locator.Lawful (look : Locator) : Prop where
  found : ∀ ids target start stop offset, start ≤ stop → stop ≤ ids.size →
    NonDecreasing ids start stop →
      look ids target start stop = .found offset →
        start + offset < stop ∧ ids[start + offset]? = some target
  absent : ∀ ids target start stop offset, start ≤ stop → stop ≤ ids.size →
    NonDecreasing ids start stop →
      look ids target start stop = .absent offset →
        start + offset ≤ stop ∧
          Each (· < target) ids start (start + offset) ∧
          Each (target < ·) ids (start + offset) stop

namespace Locator.Lawful

variable {look : Locator} (lawful : look.Lawful) (ids : Array Int64)
  (target : Int64) (start stop : Nat)

include lawful

theorem probe_found (startLe : start ≤ stop) (inside : stop ≤ ids.size)
    (sorted : NonDecreasing ids start stop)
    (found : (Search.probe look ids target start stop).found = true) :
    start < (Search.probe look ids target start stop).next ∧
      (Search.probe look ids target start stop).next ≤ stop ∧
      ids[(Search.probe look ids target start stop).next - 1]? =
        some target := by
  cases ended : look ids target start stop with
  | found offset =>
      obtain ⟨below, present⟩ := lawful.found ids target start stop offset
        startLe inside sorted ended
      simp only [Search.probe, ended, Nat.add_sub_cancel]
      exact ⟨by omega, below, present⟩
  | absent offset => simp [Search.probe, ended] at found

theorem probe_absent (startLe : start ≤ stop) (inside : stop ≤ ids.size)
    (sorted : NonDecreasing ids start stop)
    (missed : (Search.probe look ids target start stop).found = false) :
    start ≤ (Search.probe look ids target start stop).next ∧
      (Search.probe look ids target start stop).next ≤ stop ∧
      Each (· < target) ids start
        (Search.probe look ids target start stop).next ∧
      Each (target < ·) ids
        (Search.probe look ids target start stop).next stop := by
  cases ended : look ids target start stop with
  | found offset => simp [Search.probe, ended] at missed
  | absent offset =>
      obtain ⟨below, front, back⟩ := lawful.absent ids target start stop
        offset startLe inside sorted ended
      simp only [Search.probe, ended]
      exact ⟨Nat.le_add_right start offset, below, front, back⟩

end Locator.Lawful

namespace Search

theorem upperBound_spec {ids : Array Int64} (target : Int64)
    {start stop : Nat} (startLe : start ≤ stop) (inside : stop ≤ ids.size)
    (sorted : NonDecreasing ids start stop) :
    start ≤ upperBound ids target start stop ∧
      upperBound ids target start stop ≤ stop ∧
      Each (· ≤ target) ids start (upperBound ids target start stop) ∧
      Each (target < ·) ids (upperBound ids target start stop) stop := by
  induction start, stop using upperBound.induct ids target with
  | case1 start stop nonempty middle reached ih =>
      have middleBounds : start ≤ middle ∧ middle < stop := by
        simp only [middle]
        omega
      have upperHalf : upperBound ids target start stop =
          upperBound ids target (middle + 1) stop := by
        rw [upperBound, if_pos nonempty, if_pos reached]
      simp only [Option.any_eq_true, decide_eq_true_eq] at reached
      obtain ⟨id, present, below⟩ := reached
      obtain ⟨lower, upper, front, back⟩ := ih (by omega) inside
        (sorted.mono (by omega) (Nat.le_refl stop))
      rw [upperHalf]
      refine ⟨by omega, upper, ?_, back⟩
      exact (sorted.each_le middleBounds.2 present below).append front
  | case2 start stop nonempty middle passed ih =>
      have middleBounds : start ≤ middle ∧ middle < stop := by
        simp only [middle]
        omega
      obtain ⟨id, present⟩ : ∃ id, ids[middle]? = some id :=
        ⟨_, Array.getElem?_eq_getElem (by omega)⟩
      have above : target < id := by
        simpa [present] using passed
      obtain ⟨lower, upper, front, back⟩ := ih (by omega) (by omega)
        (sorted.mono (Nat.le_refl start) (by omega))
      have lowerHalf : upperBound ids target start stop =
          upperBound ids target start middle := by
        rw [upperBound, if_pos nonempty, if_neg passed]
      rw [lowerHalf]
      refine ⟨lower, by omega, front, ?_⟩
      exact back.append (sorted.each_gt middleBounds.1 present above)
  | case3 start stop closed =>
      rw [upperBound, if_neg closed]
      exact ⟨Nat.le_refl start, startLe,
        Each.of_window_empty (Nat.le_refl start),
        Each.of_window_empty (by omega)⟩

theorem locate_lawful : Locator.Lawful locate := by
  constructor
  · intro ids target start stop offset startLe inside sorted ended
    obtain ⟨lower, upper, front, back⟩ :=
      upperBound_spec target startLe inside sorted
    simp only [locate] at ended
    split at ended
    · rename_i present
      cases ended
      have place : start + (upperBound ids target start stop - 1 - start) =
          upperBound ids target start stop - 1 := by
        omega
      rw [place]
      exact ⟨by omega, present.2⟩
    · cases ended
  · intro ids target start stop offset startLe inside sorted ended
    obtain ⟨lower, upper, front, back⟩ :=
      upperBound_spec target startLe inside sorted
    simp only [locate] at ended
    split at ended
    · cases ended
    · rename_i missing
      cases ended
      rw [Nat.add_sub_cancel' lower]
      refine ⟨upper, ?_, back⟩
      intro position id above below present
      obtain ⟨last, lastPresent⟩ :
          ∃ last, ids[upperBound ids target start stop - 1]? = some last :=
        ⟨_, Array.getElem?_eq_getElem (by omega)⟩
      have lastLe := front _ last (by omega) (by omega) lastPresent
      have ordered := sorted position _ id last above (by omega) (by omega)
        present lastPresent
      have notTarget : last ≠ target := by
        rintro rfl
        exact missing ⟨by omega, lastPresent⟩
      exact Int64.lt_of_le_of_lt ordered
        (Int64.lt_of_le_of_ne lastLe notTarget)

theorem lookWithin_eq_ok (look : Locator) {ids : Array Int64}
    (target : Int64) {start stop : Nat} (startLe : start ≤ stop)
    (inside : stop ≤ ids.size) :
    lookWithin look ids target start stop =
      .ok (probe look ids target start stop) := by
  rw [lookWithin, if_neg (Nat.not_lt.mpr startLe),
    if_neg (Nat.not_lt.mpr inside)]

end Search

/-! ## Settling one driver -/

/-- What a look-up tells about a target from the cursor on: where the target
stands, or that it is nowhere; and that the ids it passes are not above the
target. -/
structure Probe.Settles (probe : Probe) (ids : Array Int64)
    (target : Int64) (cursor : Nat) : Prop where
  cursor_le : cursor ≤ probe.next
  next_le : probe.next ≤ ids.size
  passed : Each (· ≤ target) ids cursor probe.next
  partner : probe.found = true →
    cursor < probe.next ∧ ids[probe.next - 1]? = some target
  alone : probe.found = false → Each (· ≠ target) ids cursor ids.size

theorem Locator.Lawful.settles {look : Locator} (lawful : look.Lawful)
    {ids : Array Int64} (target : Int64) {cursor : Nat}
    (sorted : NonDecreasing ids cursor ids.size)
    (inside : cursor ≤ ids.size) :
    (Search.probe look ids target cursor ids.size).Settles ids target cursor := by
  cases found : (Search.probe look ids target cursor ids.size).found with
  | true =>
      obtain ⟨above, below, present⟩ :=
        lawful.probe_found ids target cursor ids.size inside (Nat.le_refl _)
          sorted found
      have passed := sorted.each_le (by omega) present Int64.le_rfl
      rw [Nat.sub_add_cancel (by omega)] at passed
      exact
        { cursor_le := by omega
          next_le := below
          passed := passed
          partner := fun _ => ⟨above, present⟩
          alone := by simp [found] }
  | false =>
      obtain ⟨above, below, front, back⟩ :=
        lawful.probe_absent ids target cursor ids.size inside (Nat.le_refl _)
          sorted found
      exact
        { cursor_le := above
          next_le := below
          passed := front.imp fun _ => Int64.le_of_lt
          partner := by simp [found]
          alone := fun _ =>
            (front.imp fun _ => Int64.ne_of_lt).append
              (back.imp fun _ lt => (Int64.ne_of_lt lt).symm) }

/-- The drivers may skip a part of the list that has none of their ids. -/
theorem reference_drop_eq {drivers : List Posting} {list : PostingList}
    {cursor next : Nat} (aligned : list.ids.size = list.scores.size)
    (forward : cursor ≤ next)
    (absent : Each (fun id => ∀ driver ∈ drivers, id ≠ driver.id)
      list.ids cursor next) :
    reference drivers (list.toList.drop cursor) =
      reference drivers (list.toList.drop next) := by
  rw [drop_eq_window_append list.toList forward]
  apply reference_append_of_absent
  intro driver driverMember posting postingMember
  exact absent.of_mem aligned postingMember driver driverMember

/-- A look-up up to the end of the list speaks of all postings from the
cursor on. -/
theorem forall_mem_drop_of_each {predicate : Int64 → Prop}
    {list : PostingList} {cursor : Nat}
    (aligned : list.ids.size = list.scores.size)
    (each : Each predicate list.ids cursor list.ids.size) :
    ∀ posting ∈ list.toList.drop cursor, predicate posting.id := by
  intro posting member
  apply each.of_mem aligned
  rwa [List.take_of_length_le]
  simp [PostingList.length_toList aligned, PostingList.size]

/-- None of the drivers occurs from the cursor on. -/
def NoneOccur (list : PostingList) (cursor : Nat)
    (drivers : List Posting) : Prop :=
  ∀ driver ∈ drivers, Each (· ≠ driver.id) list.ids cursor list.ids.size

theorem NoneOccur.reference_eq_nil {list : PostingList} {cursor : Nat}
    {drivers : List Posting} (absent : NoneOccur list cursor drivers)
    (aligned : list.ids.size = list.scores.size) :
    reference drivers (list.toList.drop cursor) = [] := by
  induction drivers with
  | nil => rfl
  | cons driver drivers ih =>
      obtain ⟨first, later⟩ := List.forall_mem_cons.mp absent
      rw [reference_cons_of_absent drivers
        (forall_mem_drop_of_each aligned first), ih later]

section Drivers

variable {probe : Probe} {list : PostingList} {cursor : Nat}
  {driver : Posting} {drivers : List Posting}

/-- No later driver asks for what a settled driver has passed. -/
theorem Probe.Settles.reference_drop
    (settles : probe.Settles list.ids driver.id cursor)
    (aligned : list.ids.size = list.scores.size)
    (driversIncreasing : Increasing (driver :: drivers)) :
    reference drivers (list.toList.drop cursor) =
      reference drivers (list.toList.drop probe.next) := by
  apply reference_drop_eq aligned settles.cursor_le
  intro position id above below present later member
  have passed := settles.passed position id above below present
  have next := driversIncreasing.head_lt later member
  exact Int64.ne_of_lt (Int64.lt_of_le_of_lt passed next)

theorem Probe.Settles.reference_of_alone
    (settles : probe.Settles list.ids driver.id cursor)
    (aligned : list.ids.size = list.scores.size)
    (driversIncreasing : Increasing (driver :: drivers))
    (alone : probe.found = false) :
    reference (driver :: drivers) (list.toList.drop cursor) =
      reference drivers (list.toList.drop probe.next) := by
  rw [reference_cons_of_absent drivers
    (forall_mem_drop_of_each aligned (settles.alone alone)),
    settles.reference_drop aligned driversIncreasing]

theorem Probe.Settles.exists_partner
    (settles : probe.Settles list.ids driver.id cursor)
    (aligned : list.ids.size = list.scores.size)
    (found : probe.found = true) :
    ∃ partner ∈ list.toList.drop cursor,
      list.posting (probe.next - 1) = .ok partner ∧
      partner.id = driver.id := by
  obtain ⟨above, present⟩ := settles.partner found
  rw [PostingList.getElem?_ids aligned, Option.map_eq_some_iff] at present
  obtain ⟨partner, present, sameId⟩ := present
  refine ⟨partner, ?_, ?_, sameId⟩
  · apply List.mem_iff_getElem?.mpr
    refine ⟨probe.next - 1 - cursor, ?_⟩
    rw [List.getElem?_drop, ← present]
    congr 1
    omega
  · apply PostingList.posting_eq_ok
    rw [← PostingList.getElem?_toList, present]

theorem Probe.Settles.reference_of_partner {partner : Posting}
    (settles : probe.Settles list.ids driver.id cursor)
    (aligned : list.ids.size = list.scores.size)
    (single : Single list.toList driver.id)
    (driversIncreasing : Increasing (driver :: drivers))
    (found : probe.found = true)
    (read : list.posting (probe.next - 1) = .ok partner) :
    reference (driver :: drivers) (list.toList.drop cursor) =
      driver.combine partner ::
        reference drivers (list.toList.drop probe.next) := by
  obtain ⟨other, member, otherRead, sameId⟩ :=
    settles.exists_partner aligned found
  rw [read] at otherRead
  cases otherRead
  have remaining : Single (list.toList.drop cursor) driver.id := by
    intro first firstMember second secondMember
    exact single first (List.mem_of_mem_drop firstMember) second
      (List.mem_of_mem_drop secondMember)
  rw [← sameId] at remaining
  have isPartner := partner?_of_single remaining member
  rw [sameId] at isPartner
  rw [reference_cons_of_partner drivers isPartner,
    settles.reference_drop aligned driversIncreasing]

end Drivers

/-! ## Settling one driver after the other -/

/-- What a scan from the cursor on may find: it settles its drivers one by
one, until none of those that are left occurs any more. -/
inductive Scans (longer : PostingList) :
    Nat → List Posting → List Posting → Prop where
  | ended {cursor : Nat} {drivers : List Posting} :
      NoneOccur longer cursor drivers →
      Scans longer cursor drivers []
  | alone {cursor : Nat} {driver : Posting} {drivers common : List Posting}
      {probe : Probe} :
      probe.Settles longer.ids driver.id cursor →
      probe.found = false →
      Scans longer probe.next drivers common →
      Scans longer cursor (driver :: drivers) common
  | partner {cursor : Nat} {driver partner : Posting}
      {drivers common : List Posting} {probe : Probe} :
      probe.Settles longer.ids driver.id cursor →
      probe.found = true →
      longer.posting (probe.next - 1) = .ok partner →
      Scans longer probe.next drivers common →
      Scans longer cursor (driver :: drivers)
        (driver.combine partner :: common)

namespace Scans

variable {longer : PostingList} {cursor : Nat}

theorem eq_nil {drivers common : List Posting}
    (scans : Scans longer cursor drivers common)
    (absent : NoneOccur longer cursor drivers) : common = [] := by
  induction scans with
  | ended => rfl
  | alone settles _ _ ih =>
      apply ih
      intro driver member
      exact (absent driver (List.mem_cons_of_mem _ member)).mono
        settles.cursor_le (Nat.le_refl _)
  | partner settles found =>
      obtain ⟨above, present⟩ := settles.partner found
      have inside := settles.next_le
      exact absurd rfl (absent _ List.mem_cons_self _ _ (by omega)
        (by omega) present)

/-- The drivers in front find what they have in common with the list, if
their ids grow and occur once at most.  They leave behind only ids that do
not exceed one of theirs. -/
theorem front_eq_reference (aligned : longer.ids.size = longer.scores.size)
    {front back common : List Posting} (increasing : Increasing front)
    (single : ∀ driver ∈ front, Single longer.toList driver.id)
    (scans : Scans longer cursor (front ++ back) common) :
    ∃ next later,
      common = reference front (longer.toList.drop cursor) ++ later ∧
      Each (fun id => ∃ driver ∈ front, id ≤ driver.id) longer.ids cursor
        next ∧
      Scans longer next back later := by
  induction front generalizing cursor common with
  | nil =>
      exact ⟨cursor, common, rfl,
        Each.of_window_empty (Nat.le_refl cursor), scans⟩
  | cons driver front ih =>
      rw [List.forall_mem_cons] at single
      have widen {middle next : Nat}
          (first : Each (· ≤ driver.id) longer.ids cursor middle)
          (others : Each (fun id => ∃ later ∈ front, id ≤ later.id)
            longer.ids middle next) :
          Each (fun id => ∃ later ∈ driver :: front, id ≤ later.id)
            longer.ids cursor next := by
        refine Each.append (first.imp ?_) (others.imp ?_)
        · intro id below
          exact ⟨driver, List.mem_cons_self, below⟩
        · rintro id ⟨later, member, below⟩
          exact ⟨later, List.mem_cons_of_mem _ member, below⟩
      cases scans with
      | ended absent =>
          have frontAbsent : NoneOccur longer cursor (driver :: front) :=
            fun later member => absent later (List.mem_append_left _ member)
          refine ⟨cursor, [], ?_,
            Each.of_window_empty (Nat.le_refl cursor), .ended ?_⟩
          · rw [frontAbsent.reference_eq_nil aligned]
            rfl
          · intro later member
            exact absent later (List.mem_append_right (driver :: front) member)
      | alone settles alone later =>
          obtain ⟨next, rest, rfl, passed, remaining⟩ :=
            ih increasing.tail single.2 later
          refine ⟨next, rest, ?_, widen settles.passed passed, remaining⟩
          rw [settles.reference_of_alone aligned increasing alone]
      | partner settles found read later =>
          obtain ⟨next, rest, rfl, passed, remaining⟩ :=
            ih increasing.tail single.2 later
          refine ⟨next, rest, ?_, widen settles.passed passed, remaining⟩
          rw [settles.reference_of_partner aligned single.1 increasing found
            read]
          rfl

theorem eq_reference (aligned : longer.ids.size = longer.scores.size)
    (increasing : Increasing longer.toList) {drivers common : List Posting}
    (driversIncreasing : Increasing drivers)
    (scans : Scans longer cursor drivers common) :
    common = reference drivers (longer.toList.drop cursor) := by
  rw [← List.append_nil drivers] at scans
  obtain ⟨next, later, rfl, _, rest⟩ := scans.front_eq_reference aligned
    driversIncreasing (fun driver _ => increasing.single driver.id)
  have nothing : later = [] := by
    apply rest.eq_nil
    intro driver member
    cases member
  rw [nothing, List.append_nil]

end Scans

namespace Search

theorem scan_of_alone {look : Locator} {longer : PostingList}
    {ids : Array Int64} {cursor : Nat} {driver : Posting} {probe : Probe}
    (drivers : List Posting) (inside : cursor < ids.size)
    (looked : lookWithin look ids driver.id cursor ids.size = .ok probe)
    (alone : probe.found = false) :
    scan look longer ids cursor (driver :: drivers) =
      scan look longer ids probe.next drivers := by
  rw [scan, if_pos inside, looked]
  simp [bind, Except.bind, alone]

theorem scan_of_partner {look : Locator} {longer : PostingList}
    {ids : Array Int64} {cursor : Nat} {driver partner : Posting}
    {probe : Probe} {drivers common : List Posting}
    (inside : cursor < ids.size)
    (looked : lookWithin look ids driver.id cursor ids.size = .ok probe)
    (found : probe.found = true)
    (read : longer.posting (probe.next - 1) = .ok partner)
    (later : scan look longer ids probe.next drivers = .ok common) :
    scan look longer ids cursor (driver :: drivers) =
      .ok (driver.combine partner :: common) := by
  rw [scan, if_pos inside, looked]
  simp [bind, Except.bind, pure, Except.pure, found, read, later]

theorem scan_scans {look : Locator} (lawful : look.Lawful)
    {longer : PostingList} (valid : longer.Valid) (drivers : List Posting)
    (cursor : Nat) :
    ∃ common, scan look longer longer.ids cursor drivers = .ok common ∧
      Scans longer cursor drivers common := by
  induction drivers generalizing cursor with
  | nil =>
      refine ⟨[], by rw [scan], .ended ?_⟩
      intro driver member
      cases member
  | cons driver drivers ih =>
      by_cases inside : cursor < longer.ids.size
      · have settles := lawful.settles driver.id
          (valid.nonDecreasing cursor) (Nat.le_of_lt inside)
        have looked := lookWithin_eq_ok look driver.id
          (Nat.le_of_lt inside) (Nat.le_refl longer.ids.size)
        obtain ⟨common, scanned, scans⟩ :=
          ih (Search.probe look longer.ids driver.id cursor longer.ids.size).next
        cases found : (Search.probe look longer.ids driver.id cursor
            longer.ids.size).found with
        | false =>
            refine ⟨common, ?_, .alone settles found scans⟩
            rw [scan_of_alone drivers inside looked found, scanned]
        | true =>
            obtain ⟨partner, _, read, _⟩ :=
              settles.exists_partner valid.aligned found
            exact ⟨_, scan_of_partner inside looked found read scanned,
              .partner settles found read scans⟩
      · refine ⟨[], by rw [scan, if_neg inside], .ended ?_⟩
        intro driver _
        exact Each.of_window_empty (Nat.le_of_not_lt inside)

end Search

end Postings
