import Postings.Proofs.Intersection.Agreement
import Postings.Proofs.Intersection.GallopWindow

/-!
# When galloping stops early

Galloping reports that it stopped when a driver exceeds all ids that are
left of the longer list.  Whether that happens depends on the last id of the
longer list only.  As long as drivers stay below it the cursor stays before
the end.  A driver that meets it uses the list up, and the scan ends without
a word.  A driver that exceeds it stops the scan.

The hybrid algorithm reports its decision and then what the chosen strategy
reports.
-/

namespace Postings

/-- Some driver exceeds the last id, and none meets it. -/
def Outruns (drivers : List Posting) (last : Int64) : Prop :=
  (∃ driver ∈ drivers, last < driver.id) ∧
    ∀ driver ∈ drivers, driver.id ≠ last

namespace Outruns

variable {driver : Posting} {drivers : List Posting} {last : Int64}

theorem not_nil (last : Int64) : ¬ Outruns [] last := by
  intro outruns
  obtain ⟨⟨driver, member, _⟩, _⟩ := outruns
  cases member

theorem of_exceeding (increasing : Increasing (driver :: drivers))
    (exceeds : last < driver.id) : Outruns (driver :: drivers) last := by
  constructor
  · exact ⟨driver, List.mem_cons_self, exceeds⟩
  · intro later member
    exact (Int64.ne_of_lt (increasing.forall_lt exceeds later member)).symm

theorem not_of_meeting (meets : driver.id = last) :
    ¬ Outruns (driver :: drivers) last := by
  intro outruns
  exact outruns.2 driver List.mem_cons_self meets

theorem cons_iff (short : driver.id < last) :
    Outruns (driver :: drivers) last ↔ Outruns drivers last := by
  have notAbove : ¬ last < driver.id := Int64.not_lt.mpr (Int64.le_of_lt short)
  have different : driver.id ≠ last := Int64.ne_of_lt short
  simp [Outruns, notAbove, different]

end Outruns

def countBelow (last : Int64) (drivers : List Posting) : Nat :=
  drivers.countP fun driver => driver.id < last

theorem countBelow_of_exceeding {driver : Posting} {drivers : List Posting}
    {last : Int64} (increasing : Increasing (driver :: drivers))
    (exceeds : last < driver.id) : countBelow last (driver :: drivers) = 0 := by
  apply List.countP_eq_zero.mpr
  intro later member
  have above := increasing.forall_lt exceeds later member
  simpa using Int64.le_of_lt above

theorem countBelow_cons {driver : Posting} {last : Int64}
    (drivers : List Posting) (short : driver.id < last) :
    countBelow last (driver :: drivers) = countBelow last drivers + 1 := by
  simp [countBelow, short]

/-! ## The cursor and the last id -/

section Cursor

variable {probe : Probe} {ids : Array Int64} {target last : Int64}
  {cursor : Nat}

theorem Probe.Settles.next_lt (settles : probe.Settles ids target cursor)
    (inside : cursor < ids.size) (isLast : ids.back? = some last)
    (short : target < last) : probe.next < ids.size := by
  apply Nat.lt_of_le_of_ne settles.next_le
  intro atEnd
  rw [Array.back?_eq_getElem?] at isLast
  have passed := settles.passed (ids.size - 1) last (by omega) (by omega)
    isLast
  exact Int64.not_le.mpr short passed

theorem Probe.Settles.next_eq_size (settles : probe.Settles ids last cursor)
    (growing : ids.toList.Pairwise (· < ·)) (inside : cursor < ids.size)
    (isLast : ids.back? = some last) : probe.next = ids.size := by
  rw [Array.back?_eq_getElem?] at isLast
  have found : probe.found = true :=
    settles.found_iff.mpr ⟨ids.size - 1, by omega, isLast⟩
  obtain ⟨above, present⟩ := settles.partner found
  have samePlace := position_unique_of_growing growing present isLast
  omega

end Cursor

/-! ## Where the scan stops -/

namespace Gallop

/-- Where a scan should stop: at the first driver that exceeds the last id if
no driver meets that id, and nowhere else. -/
structure StopsRightly (result : Scan) (served : Nat)
    (drivers : List Posting) (last : Int64) : Prop where
  stopped : Outruns drivers last →
    result.stopped? = some (served + countBelow last drivers)
  unstopped : ¬ Outruns drivers last → result.stopped? = none

theorem StopsRightly.cons {result : Scan} {served : Nat} {driver : Posting}
    {drivers : List Posting} {last : Int64}
    (rightly : StopsRightly result (served + 1) drivers last)
    (short : driver.id < last) :
    StopsRightly result served (driver :: drivers) last := by
  constructor
  · intro outruns
    rw [rightly.stopped ((Outruns.cons_iff short).mp outruns),
      countBelow_cons drivers short]
    congr 1
    omega
  · intro notOutruns
    apply rightly.unstopped
    intro outruns
    exact notOutruns ((Outruns.cons_iff short).mpr outruns)

theorem scan_stopsRightly {look : Locator} (lawful : look.Lawful)
    {longer : PostingList} (valid : longer.Valid)
    (growing : longer.IncreasingIds) {last : Int64}
    (isLast : longer.lastId? = some last) {drivers : List Posting}
    (increasing : Increasing drivers) (served : Nat) {cursor : Nat}
    (inside : cursor < longer.ids.size) :
    ∃ result, scan look longer longer.ids served cursor drivers =
        .ok result ∧
      StopsRightly result served drivers last := by
  induction drivers generalizing served cursor with
  | nil =>
      refine ⟨_, by rw [scan], ?_⟩
      constructor
      · intro outruns
        exact absurd outruns (Outruns.not_nil last)
      · intro _
        rfl
  | cons driver drivers ih =>
      have below_iff : Each (· < driver.id) longer.ids cursor
          longer.ids.size ↔ last < driver.id :=
        (valid.nonDecreasing cursor).each_lt_iff inside isLast
      have serves := scan_serves lawful valid inside served driver drivers
      generalize scan look longer longer.ids served cursor
        (driver :: drivers) = outcome at serves ⊢
      have goesOn {probe : Probe}
          (settles : probe.Settles longer.ids driver.id cursor)
          (notBelow : ¬ Each (· < driver.id) longer.ids cursor
            longer.ids.size) :
          ∃ later, scan look longer longer.ids (served + 1) probe.next
              drivers = .ok later ∧
            StopsRightly later served (driver :: drivers) last := by
        rw [below_iff, Int64.not_lt] at notBelow
        by_cases meets : driver.id = last
        · rw [meets] at settles
          have usedUp := settles.next_eq_size growing inside isLast
          refine ⟨_, scan_of_used_up (Nat.le_of_eq usedUp.symm) drivers, ?_⟩
          constructor
          · intro outruns
            exact absurd outruns (Outruns.not_of_meeting meets)
          · intro _
            rfl
        · have short := Int64.lt_of_le_of_ne notBelow meets
          obtain ⟨later, rest, rightly⟩ := ih increasing.tail (served + 1)
            (settles.next_lt inside isLast short)
          exact ⟨later, rest, rightly.cons short⟩
      cases serves with
      | stopped below =>
          have exceeds := below_iff.mp below
          refine ⟨_, rfl, ?_⟩
          constructor
          · intro _
            rw [countBelow_of_exceeding increasing exceeds]
            rfl
          · intro notOutruns
            exact absurd (Outruns.of_exceeding increasing exceeds) notOutruns
      | alone notBelow settles _ => exact goesOn settles notBelow
      | partner notBelow settles _ _ =>
          obtain ⟨later, rest, rightly⟩ := goesOn settles notBelow
          rw [rest]
          exact ⟨_, rfl, rightly.stopped, rightly.unstopped⟩

end Gallop

/-! ## What is reported -/

namespace PostingList

/-- The position of the first driver of the shorter list that exceeds all ids
of the longer one, if no driver meets the last of them. -/
def StopsAt (shorter longer : PostingList) (position : Nat) : Prop :=
  ∃ last, longer.lastId? = some last ∧
    (∃ id ∈ shorter.ids, last < id) ∧ last ∉ shorter.ids ∧
    position = shorter.ids.toList.countP (· < last)

theorem stopsAt_iff {shorter longer : PostingList}
    (aligned : shorter.ids.size = shorter.scores.size) {last : Int64}
    (isLast : longer.lastId? = some last) {position : Nat} :
    StopsAt shorter longer position ↔
      Outruns shorter.toList last ∧
        position = countBelow last shorter.toList := by
  have ids := map_id_toList aligned
  have counted : shorter.ids.toList.countP (· < last) =
      countBelow last shorter.toList := by
    rw [← ids, List.countP_map]
    rfl
  have outruns : Outruns shorter.toList last ↔
      (∃ id ∈ shorter.ids, last < id) ∧ last ∉ shorter.ids := by
    simp only [← Array.mem_toList_iff, ← ids, List.mem_map, Outruns]
    simp
  rw [outruns, ← counted]
  simp [StopsAt, isLast, and_assoc]

theorem size_le_of_byLength {left right shorter longer : PostingList}
    (ordered : left.byLength right = (shorter, longer)) :
    shorter.size ≤ longer.size := by
  unfold byLength at ordered
  split at ordered
  · cases ordered
    assumption
  · cases ordered
    omega

end PostingList

namespace Strategy

/-- Comparing the rounded ratio of the lengths with the threshold comes to
comparing exact products. -/
theorem choose?_eq {shorter : Nat} (present : shorter ≠ 0)
    (threshold longer : Nat) :
    choose? threshold shorter longer =
      some (if threshold * shorter ≤ longer then .galloping
        else .linear) := by
  have ratio : longer / shorter < threshold ↔ longer < threshold * shorter :=
    Nat.div_lt_iff_lt_mul (Nat.pos_of_ne_zero present)
  rw [choose?, if_neg present]
  by_cases skewed : threshold * shorter ≤ longer
  · rw [if_pos skewed, if_neg (by omega)]
  · rw [if_neg skewed, if_pos (by omega)]

end Strategy

namespace Intersection

open PostingList

section Events

variable {look : Locator} {left right shorter longer : PostingList}

theorem galloping_events (ordered : left.byLength right = (shorter, longer))
    {scan : Gallop.Scan}
    (scanned : Gallop.scan look longer longer.ids 0 0 shorter.toList =
      .ok scan)
    (increasing : Increasing scan.common) :
    (galloping look left right).events =
      scan.stopped?.toList.map (.gallopStopped · shorter.size) := by
  rw [galloping_of_scan ordered scanned,
    Traced.bind_of_ok (collect_outcome increasing)]
  cases scan.stopped? with
  | none => rfl
  | some position => rfl

theorem galloping_byLength
    (ordered : left.byLength right = (shorter, longer)) :
    galloping look shorter longer = galloping look left right := by
  have kept : shorter.byLength longer = (shorter, longer) :=
    if_pos (size_le_of_byLength ordered)
  simp only [galloping, ordered, kept]

theorem hybrid_events (ordered : left.byLength right = (shorter, longer))
    (present : shorter.size ≠ 0) (threshold : Nat) :
    (hybrid look threshold left right).events =
      if threshold * shorter.size ≤ longer.size then
        .strategyChosen shorter.size longer.size threshold .galloping ::
          (galloping look left right).events
      else
        [.strategyChosen shorter.size longer.size threshold .linear] := by
  simp only [hybrid, ordered, Strategy.choose?_eq present]
  by_cases skewed : threshold * shorter.size ≤ longer.size
  · rw [if_pos skewed, if_pos skewed, ← galloping_byLength ordered]
    rfl
  · rw [if_neg skewed, if_neg skewed]
    rfl

theorem hybrid_events_of_empty
    (ordered : left.byLength right = (shorter, longer))
    (nothing : shorter.size = 0) (threshold : Nat) :
    (hybrid look threshold left right).events = [] := by
  simp only [hybrid, ordered, Strategy.choose?, nothing]
  rfl

end Events

theorem message_strategyChosen (shorter longer threshold : Nat)
    {strategy : Strategy} {decision : String}
    (decided : ", " ++ strategy.render = decision) :
    (Event.strategyChosen shorter longer threshold strategy).message =
      "hybrid: " ++ toString shorter ++ " vs " ++ toString longer ++
        " postings, threshold " ++ toString threshold ++ decision := by
  rw [← decided, ← String.append_assoc]
  rfl

theorem exists_scan {look : Locator} (lawful : look.Lawful)
    {shorter longer : PostingList} (shorterValid : shorter.Valid)
    (longerValid : longer.Valid) (shorterIncreasing : shorter.IncreasingIds)
    (longerIncreasing : longer.IncreasingIds) :
    ∃ scan, Gallop.scan look longer longer.ids 0 0 shorter.toList =
        .ok scan ∧
      Increasing scan.common ∧
      ∀ position, scan.stopped? = some position ↔
        StopsAt shorter longer position := by
  have drivers :=
    (increasing_toList shorterValid.aligned).mpr shorterIncreasing
  have run := (increasing_toList longerValid.aligned).mpr longerIncreasing
  obtain ⟨scan, scanned, scans⟩ := Gallop.scan_scans lawful longerValid
    shorterValid.pairwise_le 0 0
  refine ⟨scan, scanned, ?_, ?_⟩
  · rw [scans.eq_reference longerValid.aligned run drivers]
    exact reference_increasing drivers _
  intro position
  cases isLast : longer.lastId? with
  | none =>
      have empty : longer.ids.size = 0 := by
        simpa [lastId?] using isLast
      rw [Gallop.scan_of_used_up (Nat.le_of_eq empty)] at scanned
      cases scanned
      simp [StopsAt, isLast]
  | some last =>
      have inside : 0 < longer.ids.size := by
        apply Nat.pos_of_ne_zero
        intro empty
        simp [lastId?, Array.eq_empty_of_size_eq_zero empty] at isLast
      obtain ⟨same, scannedAgain, rightly⟩ := Gallop.scan_stopsRightly lawful
        longerValid longerIncreasing isLast drivers 0 inside
      rw [scanned] at scannedAgain
      cases scannedAgain
      rw [stopsAt_iff shorterValid.aligned isLast]
      constructor
      · intro stopped
        by_cases outruns : Outruns shorter.toList last
        · rw [rightly.stopped outruns, Nat.zero_add] at stopped
          exact ⟨outruns, (Option.some.inj stopped).symm⟩
        · rw [rightly.unstopped outruns] at stopped
          cases stopped
      · intro wanted
        obtain ⟨outruns, rfl⟩ := wanted
        rw [rightly.stopped outruns, Nat.zero_add]

/-- What holds of both lists holds of them when they are ordered by
length. -/
theorem both_of_byLength {predicate : PostingList → Prop}
    {left right shorter longer : PostingList}
    (ordered : left.byLength right = (shorter, longer))
    (leftHolds : predicate left) (rightHolds : predicate right) :
    predicate shorter ∧ predicate longer := by
  rcases left.byLength_eq right with kept | exchanged
  · rw [kept] at ordered
    cases ordered
    exact ⟨leftHolds, rightHolds⟩
  · rw [exchanged] at ordered
    cases ordered
    exact ⟨rightHolds, leftHolds⟩

/-- Galloping reports one stop if a driver exceeds the last id of the longer
list and none meets it, and otherwise nothing.  The hybrid algorithm reports
nothing if there are no drivers.  Otherwise it reports its decision, and then
what galloping reports exactly if the longer list is as many times as long as
the threshold says.  The texts of all these reports are given as well. -/
theorem reports_stop_exactly {look : Locator} (lawful : look.Lawful)
    {left right : PostingList} (leftValid : left.Valid)
    (rightValid : right.Valid) (leftIncreasing : left.IncreasingIds)
    (rightIncreasing : right.IncreasingIds) {shorter longer : PostingList}
    (ordered : (shorter, longer) =
      if left.size ≤ right.size then (left, right) else (right, left)) :
    (∀ position,
      (Algorithm.galloping.intersectWith look left right).events =
          [.gallopStopped position shorter.size] ↔
        StopsAt shorter longer position) ∧
    ((∀ position, ¬ StopsAt shorter longer position) →
      (Algorithm.galloping.intersectWith look left right).events = []) ∧
    (∀ position,
      (Event.gallopStopped position shorter.size).message =
        "galloping stopped at driver position " ++ toString position ++
          " of " ++ toString shorter.size) ∧
    ∀ threshold,
      (shorter.size = 0 →
        ((Algorithm.hybrid threshold).intersectWith look left right).events =
          []) ∧
      (shorter.size ≠ 0 →
        ((Algorithm.hybrid threshold).intersectWith look left right).events =
          if threshold * shorter.size ≤ longer.size then
            .strategyChosen shorter.size longer.size threshold .galloping ::
              (Algorithm.galloping.intersectWith look left right).events
          else
            [.strategyChosen shorter.size longer.size threshold
              .linear]) ∧
      (Event.strategyChosen shorter.size longer.size threshold
          .galloping).message =
        "hybrid: " ++ toString shorter.size ++ " vs " ++
          toString longer.size ++ " postings, threshold " ++
          toString threshold ++ ", Galloping" ∧
      (Event.strategyChosen shorter.size longer.size threshold
          .linear).message =
        "hybrid: " ++ toString shorter.size ++ " vs " ++
          toString longer.size ++ " postings, threshold " ++
          toString threshold ++ ", Linear" := by
  have byLength : left.byLength right = (shorter, longer) := ordered.symm
  obtain ⟨shorterValid, longerValid⟩ :=
    both_of_byLength byLength leftValid rightValid
  obtain ⟨shorterIncreasing, longerIncreasing⟩ :=
    both_of_byLength byLength leftIncreasing rightIncreasing
  obtain ⟨scan, scanned, increasing, stopped_iff⟩ := exists_scan lawful
    shorterValid longerValid shorterIncreasing longerIncreasing
  have events : (Algorithm.galloping.intersectWith look left right).events =
      scan.stopped?.toList.map (.gallopStopped · shorter.size) :=
    galloping_events byLength scanned increasing
  refine ⟨?_, ?_, ?_, ?_⟩
  · intro position
    rw [events, ← stopped_iff]
    cases scan.stopped? with
    | none => simp
    | some other => simp
  · intro nowhere
    rw [events]
    cases stopped : scan.stopped? with
    | none => rfl
    | some position =>
        exact absurd ((stopped_iff position).mp stopped) (nowhere position)
  · intro position
    rfl
  · intro threshold
    refine ⟨?_, ?_, message_strategyChosen _ _ threshold (by decide),
      message_strategyChosen _ _ threshold (by decide)⟩
    · intro nothing
      exact hybrid_events_of_empty byLength nothing threshold
    · intro present
      exact hybrid_events byLength present threshold

/-- Four drivers.  The first one is met, the second one exceeds all ids of
the other list. -/
def stopSample : PostingList × PostingList :=
  (bare [⟨0, 1⟩, ⟨2, 1⟩, ⟨3, 1⟩, ⟨4, 1⟩, ⟨5, 1⟩, ⟨6, 1⟩, ⟨8, 1⟩, ⟨9, 1⟩],
   bare [⟨3, 1⟩, ⟨50, 1⟩, ⟨60, 1⟩, ⟨70, 1⟩])

theorem reports_stop_exactly_sample :
    (Algorithm.galloping.intersect stopSample.1 stopSample.2).events =
      [.gallopStopped 1 4] ∧
    ((Algorithm.hybrid 2).intersect stopSample.1 stopSample.2).events =
      [.strategyChosen 4 8 2 .galloping, .gallopStopped 1 4] ∧
    ((Algorithm.hybrid 3).intersect stopSample.1 stopSample.2).events =
      [.strategyChosen 4 8 3 .linear] ∧
    ((Algorithm.hybrid 2).intersect stopSample.1
        stopSample.2).events.map Event.message =
      ["hybrid: 4 vs 8 postings, threshold 2, Galloping",
        "galloping stopped at driver position 1 of 4"] := by
  have leftValid : stopSample.1.Valid := valid_bare (by decide)
  have rightValid : stopSample.2.Valid := valid_bare (by decide)
  have leftIncreasing : stopSample.1.IncreasingIds := by decide
  have rightIncreasing : stopSample.2.IncreasingIds := by decide
  have ordered : (stopSample.2, stopSample.1) =
      if stopSample.1.size ≤ stopSample.2.size then
        (stopSample.1, stopSample.2)
      else (stopSample.2, stopSample.1) := rfl
  obtain ⟨stops, _, _, decides⟩ := reports_stop_exactly
    Search.locate_lawful leftValid rightValid leftIncreasing rightIncreasing
    ordered
  have exceeds : StopsAt stopSample.2 stopSample.1 1 :=
    ⟨9, rfl, ⟨50, by simp [stopSample, bare], by decide⟩,
      by simp [stopSample, bare], rfl⟩
  have stopped := (stops 1).mpr exceeds
  have present : stopSample.2.size ≠ 0 := by decide
  have gallops := (decides 2).2.1 present
  rw [stopped] at gallops
  refine ⟨stopped, gallops, (decides 3).2.1 present, ?_⟩
  change List.map Event.message
    ((Algorithm.hybrid 2).intersectWith Search.locate stopSample.1
      stopSample.2).events = _
  rw [gallops]
  decide +kernel

end Intersection

end Postings
