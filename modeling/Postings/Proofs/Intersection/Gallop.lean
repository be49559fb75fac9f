import Postings.Proofs.Intersection.GallopProbes
import Postings.Proofs.Intersection.Search

/-!
# Galloping settles one driver after the other

A gallop brackets the first id that is not below the target, or finds that
there is none from the cursor on.  A lawful look-up in the bracketed window
settles the driver as a look-up in the whole rest of the list would; without
a bracket no driver that is left can match.
-/

namespace Postings

/-- A look-up in the bracketed window settles the driver for the whole rest
of the list. -/
theorem Locator.Lawful.settles_bracketed {look : Locator}
    (lawful : look.Lawful) {ids : Array Int64} {target : Int64}
    {cursor low high : Nat} (sorted : NonDecreasing ids cursor ids.size)
    (brackets : (Gallop.bound low high).Brackets ids target cursor) :
    (Search.probe look ids target low (high + 1)).Settles ids target cursor := by
  obtain ⟨cursorLe, lowLe, inside, front, id, present, reached⟩ := brackets
  have windowSorted : NonDecreasing ids low (high + 1) :=
    sorted.mono cursorLe (by omega)
  cases found : (Search.probe look ids target low (high + 1)).found with
  | true =>
      obtain ⟨above, below, partner⟩ := lawful.probe_found ids target low
        (high + 1) (by omega) (by omega) windowSorted found
      have passed := sorted.each_le (by omega) partner Int64.le_rfl
      rw [Nat.sub_add_cancel (by omega)] at passed
      exact
        { cursor_le := by omega
          next_le := by omega
          passed := passed
          partner := fun _ => ⟨by omega, partner⟩
          alone := by simp [found] }
  | false =>
      obtain ⟨above, below, before, behind⟩ := lawful.probe_absent ids target low
        (high + 1) (by omega) (by omega) windowSorted found
      have smaller := front.append before
      have nextLe : (Search.probe look ids target low (high + 1)).next ≤ high := by
        apply Nat.le_of_not_lt
        intro passedEnd
        have short := before high id lowLe passedEnd present
        exact Int64.not_le.mpr short reached
      have above := behind high id nextLe (by omega) present
      have larger := (behind.mono (Nat.le_refl _) (Nat.le_succ high)).append
        (sorted.each_gt (by omega) present above)
      exact
        { cursor_le := by omega
          next_le := by omega
          passed := smaller.imp fun _ => Int64.le_of_lt
          partner := by simp [found]
          alone := fun _ =>
            (smaller.imp fun _ => Int64.ne_of_lt).append
              (larger.imp fun _ lt => (Int64.ne_of_lt lt).symm) }

namespace Gallop

section Scan

variable {look : Locator} {longer : PostingList} {ids : Array Int64}
  {served cursor low high : Nat} {driver : Posting}
  {drivers : List Posting} {probe : Probe}

theorem scan_of_exhausted (inside : cursor < ids.size)
    (found : find ids driver.id cursor = .ok .exhausted) :
    scan look longer ids served cursor (driver :: drivers) =
      .ok { common := [], stopped? := some served } := by
  rw [scan, if_pos inside, found]

theorem scan_of_alone (inside : cursor < ids.size)
    (bracketed : find ids driver.id cursor = .ok (.bound low high))
    (looked : Search.lookWithin look ids driver.id low (high + 1) =
      .ok probe) (alone : probe.found = false) :
    scan look longer ids served cursor (driver :: drivers) =
      scan look longer ids (served + 1) probe.next drivers := by
  rw [scan, if_pos inside, bracketed]
  simp [bind, Except.bind, looked, alone]

theorem scan_of_partner {partner : Posting} (inside : cursor < ids.size)
    (bracketed : find ids driver.id cursor = .ok (.bound low high))
    (looked : Search.lookWithin look ids driver.id low (high + 1) =
      .ok probe) (found : probe.found = true)
    (read : longer.posting (probe.next - 1) = .ok partner) :
    scan look longer ids served cursor (driver :: drivers) =
      scan look longer ids (served + 1) probe.next drivers >>= fun later =>
        .ok { later with
          common := driver.combine partner :: later.common } := by
  rw [scan, if_pos inside, bracketed]
  simp [bind, Except.bind, pure, Except.pure, looked, found, read]

theorem scan_of_used_up (passed : ids.size ≤ cursor)
    (drivers : List Posting) :
    scan look longer ids served cursor drivers =
      .ok { common := [], stopped? := none } := by
  cases drivers with
  | nil => rw [scan]
  | cons driver drivers => rw [scan, if_neg (Nat.not_lt.mpr passed)]

end Scan

/-- How a driver is served from the cursor on, and what comes of it.  The
scan stops if all ids that are left are below the driver.  Otherwise the
driver is settled and the scan goes on. -/
inductive Serves (look : Locator) (longer : PostingList)
    (served cursor : Nat) (driver : Posting) (drivers : List Posting) :
    Except Fault Scan → Prop where
  | stopped :
      Each (· < driver.id) longer.ids cursor longer.ids.size →
      Serves look longer served cursor driver drivers
        (.ok { common := [], stopped? := some served })
  | alone {probe : Probe} :
      ¬ Each (· < driver.id) longer.ids cursor longer.ids.size →
      probe.Settles longer.ids driver.id cursor →
      probe.found = false →
      Serves look longer served cursor driver drivers
        (scan look longer longer.ids (served + 1) probe.next drivers)
  | partner {probe : Probe} {partner : Posting} :
      ¬ Each (· < driver.id) longer.ids cursor longer.ids.size →
      probe.Settles longer.ids driver.id cursor →
      probe.found = true →
      longer.posting (probe.next - 1) = .ok partner →
      Serves look longer served cursor driver drivers
        (scan look longer longer.ids (served + 1) probe.next drivers >>=
          fun later => .ok { later with
            common := driver.combine partner :: later.common })

theorem scan_serves {look : Locator} (lawful : look.Lawful)
    {longer : PostingList} (valid : longer.Valid) {cursor : Nat}
    (inside : cursor < longer.ids.size) (served : Nat) (driver : Posting)
    (drivers : List Posting) :
    Serves look longer served cursor driver drivers
      (scan look longer longer.ids served cursor (driver :: drivers)) := by
  have sorted := valid.nonDecreasing cursor
  obtain ⟨gallop, found, brackets⟩ := find_brackets driver.id sorted inside
  have exhausted := brackets.eq_exhausted_iff
  cases gallop with
  | exhausted =>
      rw [scan_of_exhausted inside found]
      exact .stopped (exhausted.mp rfl)
  | bound low high =>
      have notBelow : ¬ Each (· < driver.id) longer.ids cursor
          longer.ids.size := by
        intro below
        cases exhausted.mpr below
      have settles := lawful.settles_bracketed sorted brackets
      obtain ⟨_, lowLe, highLt, _⟩ := brackets
      have looked := Search.lookWithin_eq_ok look driver.id
        (Nat.le_succ_of_le lowLe) highLt
      cases partnered : (Search.probe look longer.ids driver.id low (high + 1)).found with
      | false =>
          rw [scan_of_alone inside found looked partnered]
          exact .alone notBelow settles partnered
      | true =>
          obtain ⟨partner, _, read, _⟩ :=
            settles.exists_partner valid.aligned partnered
          rw [scan_of_partner inside found looked partnered read]
          exact .partner notBelow settles partnered read

/-- With any lawful look-up the gallop settles its drivers one by one.  It
may stop early because the ids of the drivers do not decrease. -/
theorem scan_scans {look : Locator} (lawful : look.Lawful)
    {longer : PostingList} (valid : longer.Valid) {drivers : List Posting}
    (ordered : drivers.Pairwise fun earlier later => earlier.id ≤ later.id)
    (served cursor : Nat) :
    ∃ result, scan look longer longer.ids served cursor drivers =
        .ok result ∧
      Scans longer cursor drivers result.common := by
  induction drivers generalizing served cursor with
  | nil =>
      refine ⟨_, by rw [scan], .ended ?_⟩
      intro driver member
      cases member
  | cons driver drivers ih =>
      obtain ⟨least, laterOrdered⟩ := List.pairwise_cons.mp ordered
      by_cases inside : cursor < longer.ids.size
      · have serves := scan_serves lawful valid inside served driver drivers
        generalize scan look longer longer.ids served cursor
          (driver :: drivers) = outcome at serves ⊢
        cases serves with
        | stopped below =>
            refine ⟨_, rfl, .ended ?_⟩
            intro later member
            refine Each.imp below ?_
            intro id short
            rcases List.mem_cons.mp member with rfl | behind
            · exact Int64.ne_of_lt short
            · exact Int64.ne_of_lt
                (Int64.lt_of_lt_of_le short (least later behind))
        | @alone probe _ settles alone =>
            obtain ⟨later, rest, scans⟩ :=
              ih laterOrdered (served + 1) probe.next
            exact ⟨later, rest, .alone settles alone scans⟩
        | @partner probe _ _ settles found read =>
            obtain ⟨later, rest, scans⟩ :=
              ih laterOrdered (served + 1) probe.next
            rw [rest]
            exact ⟨_, rfl, .partner settles found read scans⟩
      · refine ⟨_, scan_of_used_up (Nat.le_of_not_lt inside) _, .ended ?_⟩
        intro later _
        exact Each.of_window_empty (Nat.le_of_not_lt inside)

end Gallop

end Postings
