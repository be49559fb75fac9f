import Postings.PostingList.Edit
import Postings.Proofs.PostingList.Invariant

/-!
# Edits keep lists valid

Every edit leaves a valid list behind, also one that fails.  A failed edit
leaves the list as it was; only making room has cleared it before it can
fail.
-/

namespace Postings

namespace PostingList

theorem valid_empty : empty.Valid where
  aligned := rfl
  ordered := by
    intro position earlier later present
    simp [empty] at present
  slots := by simp [empty, SkipTable.empty, SkipTable.size]
  forward := by
    intro slot target pointer
    simp [skip?, empty] at pointer

namespace Valid

variable {list : PostingList}

/-- A posting may be appended if its id may stand after the last one. -/
theorem append (valid : list.Valid) {posting : Posting}
    (follows : ∀ last, list.lastId? = some last →
      MayPrecede last posting.id) :
    (list.append posting).Valid where
  aligned := by simp [PostingList.append, valid.aligned]
  ordered := by
    intro position earlier later earlierPresent laterPresent
    simp only [PostingList.append, Array.getElem?_push]
      at earlierPresent laterPresent
    split at laterPresent
    · rename_i atEnd
      cases laterPresent
      rw [if_neg (by omega)] at earlierPresent
      apply follows
      rw [lastId?, Array.back?_eq_getElem?, ← earlierPresent, ← atEnd,
        Nat.add_sub_cancel]
    · have inside := (Array.getElem?_eq_some_iff.mp laterPresent).1
      rw [if_neg (by omega)] at earlierPresent
      exact valid.ordered position earlier later earlierPresent laterPresent
  slots := by
    have bounded := valid.slots
    simp only [PostingList.append, size, Array.size_push] at bounded ⊢
    omega
  forward := valid.forward

/-- A new table keeps a list valid if it is not too long and points
forward. -/
theorem withSkips (valid : list.Valid) {table : SkipTable}
    (slots : table.size ≤ list.size + 1)
    (forward : ∀ slot target, table.target? slot = some target →
      slot < target) :
    ({ list with skips := table } : PostingList).Valid where
  aligned := valid.aligned
  ordered := valid.ordered
  slots := slots
  forward := forward

theorem pop (valid : list.Valid) :
    ({ ids := list.ids.pop,
       scores := list.scores.pop,
       skips := list.skips.truncate (list.size - 1) } :
      PostingList).Valid where
  aligned := by simp [valid.aligned]
  ordered := by
    intro position earlier later earlierPresent laterPresent
    simp only [Array.getElem?_pop] at earlierPresent laterPresent
    split at laterPresent
    · rw [if_pos (by omega)] at earlierPresent
      exact valid.ordered position earlier later earlierPresent laterPresent
    · simp at laterPresent
  slots := by
    simp only [SkipTable.size_truncate, size, Array.size_pop]
    omega
  forward := by
    intro slot target pointer
    simp only [skip?, SkipTable.target?_truncate] at pointer
    split at pointer
    · exact valid.forward slot target pointer
    · simp at pointer

theorem push (valid : list.Valid) (posting : Posting) :
    ((Update.push posting).after list).Valid := by
  rw [Update.after, Update.finish_push]
  cases last : list.lastId? with
  | none => exact valid.append (by simp [last])
  | some id =>
      by_cases above : id < posting.id
      · simp only [if_pos above]
        refine valid.append ?_
        intro other present
        rw [last] at present
        cases present
        exact .inl above
      · simp only [if_neg above]
        exact valid

theorem pushSentinel (valid : list.Valid) : list.pushSentinel.Valid := by
  rw [pushSentinel_eq]
  refine valid.append ?_
  intro last _
  by_cases reserved : last = sentinelId
  · exact .inr ⟨reserved, rfl⟩
  · exact .inl (lt_sentinelId reserved)

theorem dropSentinel (valid : list.Valid) : list.dropSentinel.Valid := by
  rw [dropSentinel_eq]
  split
  · exact valid.pop
  · exact valid

theorem place (valid : list.Valid) {table : SkipTable} {slot target : Nat}
    (slots : table.size ≤ list.size + 1)
    (same : ∀ other, table.target? other = list.skip? other)
    (forward : Update.LeadsForward slot target) :
    ({ list with skips := table.place slot target } :
      PostingList).Valid := by
  apply valid.withSkips
  · rwa [SkipTable.size_place]
  · intro other reached pointer
    rw [SkipTable.target?_place] at pointer
    split at pointer
    · rename_i placed
      rcases forward with none | ahead
      · simp [SkipTable.entry, none] at pointer
      · have nonzero : target ≠ 0 := by omega
        simp only [SkipTable.entry, if_neg nonzero,
          Option.some.injEq] at pointer
        omega
    · rw [same] at pointer
      exact valid.forward other reached pointer

theorem placeNextSkip (valid : list.Valid) (target : Nat) :
    ((Update.placeNextSkip target).after list).Valid := by
  have bounded := valid.slots
  rw [Update.after, Update.finish_placeNextSkip]
  split
  · rename_i forward
    refine valid.place ?_ ?_ forward
    · rw [SkipTable.size_grow]
      omega
    · intro other
      exact SkipTable.target?_grow list.skips (list.size + 1) other
  · exact valid

theorem placeSkip (valid : list.Valid) (slot target : Nat) :
    ((Update.placeSkip slot target).after list).Valid := by
  have bounded := valid.slots
  rw [Update.after, Update.finish_placeSkip]
  split
  · split
    · rename_i inside forward
      refine valid.place ?_ ?_ forward
      · split
        · rw [SkipTable.size_grow]
          omega
        · exact bounded
      · intro other
        split
        · exact SkipTable.target?_grow list.skips list.size other
        · rfl
    · exact valid
  · exact valid

theorem spaced (valid : list.Valid) (count : Nat) :
    ({ list with
        skips := .spaced list.size (Update.skipGap list.size count) } :
      PostingList).Valid := by
  apply valid.withSkips
  · rw [SkipTable.size_spaced]
    exact Nat.le_succ list.size
  · intro slot target pointer
    have positive : 1 ≤ Update.skipGap list.size count :=
      Nat.le_max_left _ _
    rw [SkipTable.target?_spaced] at pointer
    split at pointer
    · cases pointer
      omega
    · simp at pointer

theorem buildSkips (valid : list.Valid) (count : Nat) :
    ((Update.buildSkips count).after list).Valid := by
  rw [Update.after, Update.finish_buildSkips]
  split
  · exact valid
  · exact valid.spaced count

theorem arrange (valid : list.Valid) {layout : Layout}
    {arranged : PostingList}
    (succeeded : (list.arrange layout).outcome = .ok arranged) :
    arranged.Valid := by
  cases layout with
  | plain =>
      cases succeeded
      exact valid
  | sentinel =>
      cases succeeded
      exact valid.pushSentinel
  | skipPointers count =>
      change (list.buildSkips count).outcome = .ok arranged at succeeded
      rw [buildSkips_outcome] at succeeded
      split at succeeded
      · cases succeeded
      · cases succeeded
        exact valid.spaced count

end Valid

theorem valid_of_push {list pushed : PostingList} {posting : Posting}
    (valid : list.Valid) (succeeded : list.push posting = .ok pushed) :
    pushed.Valid := by
  rw [← Update.after_of_result_eq_ok succeeded]
  exact valid.push posting

theorem valid_of_foldlM_push {list result : PostingList}
    {postings : List Posting} (valid : list.Valid)
    (succeeded : postings.foldlM push list = .ok result) :
    result.Valid := by
  induction postings generalizing list with
  | nil =>
      cases succeeded
      exact valid
  | cons posting postings ih =>
      rw [List.foldlM_cons] at succeeded
      obtain ⟨pushed, step, later⟩ := Outcome.bind_eq_ok.mp succeeded
      exact ih (valid_of_push valid step) later

theorem valid_of_ofList {postings : List Posting} {list : PostingList}
    (succeeded : ofList postings = .ok list) : list.Valid :=
  valid_of_foldlM_push valid_empty succeeded

theorem valid_bare {postings : List Posting}
    (increasing : Increasing postings) : (bare postings).Valid :=
  valid_of_ofList (ofList_of_increasing increasing)

end PostingList

namespace Edit

/-- Making room has cleared the list by the time it fails. -/
theorem after_reserve (capacity : Nat) (list : PostingList) :
    (Edit.reserve capacity).after list = .empty := by
  simp [after, update, Update.after, Update.finish_adapt,
    Update.finish_reserve]

theorem after_valid {list : PostingList} (valid : list.Valid)
    (edit : Edit) : (edit.after list).Valid := by
  cases edit with
  | reserve capacity =>
      rw [after_reserve]
      exact PostingList.valid_empty
  | push posting => exact valid.push posting
  | pushSentinel => exact valid.pushSentinel
  | popSentinel =>
      have same : Edit.popSentinel.after list = list.dropSentinel := by
        simp only [after, update, Update.after, Update.finish_bind,
          Update.finish_adapt, PostingList.dropSentinel]
        cases (Update.popSentinel.finish list).1 <;> rfl
      rw [same]
      exact valid.dropSentinel
  | placeNextSkip target => exact valid.placeNextSkip target
  | placeSkip slot target => exact valid.placeSkip slot target
  | buildSkips count => exact valid.buildSkips count

theorem run_valid {list : PostingList} (valid : list.Valid)
    (edits : List Edit) : (run edits list).Valid := by
  induction edits generalizing list with
  | nil => exact valid
  | cons edit edits ih => exact ih (after_valid valid edit)

theorem outcome_apply (edit : Edit) (list : PostingList) :
    (edit.apply list).outcome = edit.update.result list := by
  cases edit with
  | buildSkips count =>
      change (list.buildSkips count).outcome = _
      rw [PostingList.buildSkips_outcome]
      by_cases none : count = 0
      · simp [update, Update.result, Update.finish_adapt,
          Update.finish_buildSkips, none]
      · simp [update, Update.result, Update.finish_adapt,
          Update.finish_buildSkips, none]
  | _ => rfl

/-- Every other edit checks before it changes anything. -/
theorem after_of_failed {list : PostingList} {edit : Edit}
    {failure : Failure} (other : ∀ capacity, edit ≠ .reserve capacity)
    (failed : (edit.apply list).outcome = .error failure) :
    edit.after list = list := by
  rw [outcome_apply, Update.result_eq_error] at failed
  cases edit with
  | reserve capacity => exact absurd rfl (other capacity)
  | push posting =>
      simp only [after, update, Update.after, Update.finish_adapt,
        Update.finish_push] at failed ⊢
      cases last : list.lastId? with
      | none => simp [last] at failed
      | some id =>
          by_cases above : id < posting.id
          · simp [last, above] at failed
          · simp [above]
  | pushSentinel =>
      simp [update, Update.pushSentinel, Update.finish_adapt] at failed
  | popSentinel =>
      simp only [update, Update.finish_bind, Update.finish_adapt,
        Update.finish_popSentinel] at failed
      by_cases closed : list.hasSentinel = true
      · simp [closed] at failed
      · simp [closed] at failed
  | placeNextSkip target =>
      simp only [after, update, Update.after, Update.finish_adapt,
        Update.finish_placeNextSkip] at failed ⊢
      by_cases forward : Update.LeadsForward list.size target
      · simp [forward] at failed
      · simp [forward]
  | placeSkip slot target =>
      simp only [after, update, Update.after, Update.finish_adapt,
        Update.finish_placeSkip] at failed ⊢
      by_cases inside : slot < list.size
      · by_cases forward : Update.LeadsForward slot target
        · simp [inside, forward] at failed
        · simp [inside, forward]
      · simp [inside]
  | buildSkips count =>
      simp only [after, update, Update.after, Update.finish_adapt,
        Update.finish_buildSkips] at failed ⊢
      by_cases none : count = 0
      · simp [none]
      · simp [none] at failed

end Edit

end Postings
