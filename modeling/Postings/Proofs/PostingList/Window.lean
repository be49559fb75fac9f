import Postings.Proofs.PostingList.Invariant

/-!
# Windows of ids

Cursors and searches know something about the ids between two positions:
that they are below a target, say, or that they do not decrease.  In a valid
list the ids do not decrease anywhere.
-/

namespace Postings

/-- The ids at the positions from `start` to before `stop` satisfy a
predicate. -/
def Each (predicate : Int64 → Prop) (ids : Array Int64)
    (start stop : Nat) : Prop :=
  ∀ position id, start ≤ position → position < stop →
    ids[position]? = some id → predicate id

/-- The ids at the positions from `start` to before `stop` do not
decrease. -/
def NonDecreasing (ids : Array Int64) (start stop : Nat) : Prop :=
  ∀ first second earlier later, start ≤ first → first ≤ second →
    second < stop → ids[first]? = some earlier →
      ids[second]? = some later → earlier ≤ later

namespace Each

theorem imp {predicate weaker : Int64 → Prop} {ids : Array Int64}
    {start stop : Nat} (each : Each predicate ids start stop)
    (implies : ∀ id, predicate id → weaker id) :
    Each weaker ids start stop :=
  fun position id above below present =>
    implies id (each position id above below present)

theorem mono {predicate : Int64 → Prop} {ids : Array Int64}
    {start stop innerStart innerStop : Nat}
    (each : Each predicate ids start stop) (above : start ≤ innerStart)
    (below : innerStop ≤ stop) : Each predicate ids innerStart innerStop :=
  fun position id startLe ltStop present =>
    each position id (by omega) (by omega) present

theorem of_window_empty {predicate : Int64 → Prop} {ids : Array Int64}
    {start stop : Nat} (empty : stop ≤ start) :
    Each predicate ids start stop := by
  intro position id above below _
  omega

theorem append {predicate : Int64 → Prop} {ids : Array Int64}
    {start middle stop : Nat} (front : Each predicate ids start middle)
    (back : Each predicate ids middle stop) :
    Each predicate ids start stop := by
  intro position id above below present
  by_cases early : position < middle
  · exact front position id above early present
  · exact back position id (by omega) below present

end Each

namespace NonDecreasing

theorem of_pairwise {ids : Array Int64}
    (sorted : ids.toList.Pairwise (· ≤ ·)) (start : Nat) :
    NonDecreasing ids start ids.size := by
  intro first second earlier later _ le _ firstPresent secondPresent
  rcases Nat.lt_or_eq_of_le le with before | same
  · obtain ⟨firstInside, rfl⟩ := Array.getElem?_eq_some_iff.mp firstPresent
    obtain ⟨secondInside, rfl⟩ :=
      Array.getElem?_eq_some_iff.mp secondPresent
    exact List.pairwise_iff_getElem.mp sorted first second
      (by simpa using firstInside) (by simpa using secondInside) before
  · rw [same, secondPresent] at firstPresent
    cases firstPresent
    exact Int64.le_rfl

theorem mono {ids : Array Int64} {start stop innerStart innerStop : Nat}
    (sorted : NonDecreasing ids start stop) (above : start ≤ innerStart)
    (below : innerStop ≤ stop) :
    NonDecreasing ids innerStart innerStop := by
  intro first second earlier later startLe le ltStop
  exact sorted first second earlier later (by omega) le (by omega)

theorem each_lt {ids : Array Int64} {start stop position : Nat}
    {id bound : Int64} (sorted : NonDecreasing ids start stop)
    (inside : position < stop) (present : ids[position]? = some id)
    (below : id < bound) :
    Each (· < bound) ids start (position + 1) := by
  intro other otherId above before otherPresent
  have ordered := sorted other position otherId id above (by omega) inside
    otherPresent present
  exact Int64.lt_of_le_of_lt ordered below

theorem each_le {ids : Array Int64} {start stop position : Nat}
    {id bound : Int64} (sorted : NonDecreasing ids start stop)
    (inside : position < stop) (present : ids[position]? = some id)
    (below : id ≤ bound) :
    Each (· ≤ bound) ids start (position + 1) := by
  intro other otherId above before otherPresent
  have ordered := sorted other position otherId id above (by omega) inside
    otherPresent present
  exact Int64.le_trans ordered below

/-- All ids from a position on are below a bound exactly if the last one
is. -/
theorem each_lt_iff {ids : Array Int64} {start : Nat} {last bound : Int64}
    (sorted : NonDecreasing ids start ids.size) (inside : start < ids.size)
    (isLast : ids.back? = some last) :
    Each (· < bound) ids start ids.size ↔ last < bound := by
  rw [Array.back?_eq_getElem?] at isLast
  constructor
  · intro each
    exact each (ids.size - 1) last (by omega) (by omega) isLast
  · intro below
    have all := sorted.each_lt (by omega) isLast below
    rwa [Nat.sub_add_cancel (by omega)] at all

theorem each_gt {ids : Array Int64} {start stop position : Nat}
    {id bound : Int64} (sorted : NonDecreasing ids start stop)
    (after : start ≤ position) (present : ids[position]? = some id)
    (above : bound < id) :
    Each (bound < ·) ids position stop := by
  intro other otherId later inside otherPresent
  have ordered := sorted position other id otherId after later inside
    present otherPresent
  exact Int64.lt_of_lt_of_le above ordered

end NonDecreasing

/-- The postings from one position on are those of a window and those behind
it. -/
theorem drop_eq_window_append (postings : List Posting) {start stop : Nat}
    (forward : start ≤ stop) :
    postings.drop start =
      (postings.drop start).take (stop - start) ++ postings.drop stop := by
  conv_lhs =>
    rw [← List.take_append_drop (stop - start) (postings.drop start)]
  rw [List.drop_drop, Nat.add_sub_cancel' forward]

theorem Each.of_mem {predicate : Int64 → Prop} {list : PostingList}
    {start stop : Nat} (aligned : list.ids.size = list.scores.size)
    (each : Each predicate list.ids start stop) {posting : Posting}
    (member : posting ∈ (list.toList.drop start).take (stop - start)) :
    predicate posting.id := by
  obtain ⟨offset, present⟩ := List.mem_iff_getElem?.mp member
  rw [List.getElem?_take] at present
  split at present
  · rw [List.getElem?_drop] at present
    apply each (start + offset) posting.id (by omega) (by omega)
    rw [PostingList.getElem?_ids aligned, present]
    rfl
  · simp at present

theorem PostingList.Valid.nonDecreasing {list : PostingList}
    (valid : list.Valid) (start : Nat) :
    NonDecreasing list.ids start list.ids.size := by
  intro first second earlier later _ le inside firstPresent secondPresent
  obtain ⟨gap, rfl⟩ := Nat.exists_eq_add_of_le le
  clear le
  induction gap generalizing later with
  | zero =>
      rw [Nat.add_zero, firstPresent] at secondPresent
      cases secondPresent
      exact Int64.le_rfl
  | succ gap ih =>
      obtain ⟨middle, middlePresent⟩ :
          ∃ middle, list.ids[first + gap]? = some middle :=
        ⟨_, Array.getElem?_eq_getElem (by omega)⟩
      have reached := ih middle (by omega) middlePresent
      have step := valid.ordered (first + gap) middle later middlePresent
        secondPresent
      rcases step with below | ⟨rfl, rfl⟩
      · exact Int64.le_trans reached (Int64.le_of_lt below)
      · exact reached

/-- An id may stand before all ids that come after it, not only before the
next one. -/
theorem PostingList.Valid.pairwise_mayPrecede {list : PostingList}
    (valid : list.Valid) :
    list.toList.Pairwise fun earlier later =>
      MayPrecede earlier.id later.id := by
  rw [List.pairwise_iff_getElem]
  intro first second firstInside secondInside before
  have size := length_toList valid.aligned
  have present {position : Nat} (inside : position < list.toList.length) :
      list.ids[position]? = some list.toList[position].id := by
    rw [getElem?_ids valid.aligned, List.getElem?_eq_getElem inside]
    rfl
  have nextInside : first + 1 < list.toList.length := by omega
  have next := valid.ordered first _ _ (present firstInside)
    (present nextInside)
  have ordered := valid.nonDecreasing 0 (first + 1) second _ _
    (Nat.zero_le _) before (by rwa [size] at secondInside)
    (present nextInside) (present secondInside)
  rcases next with below | ⟨reserved, nextReserved⟩
  · exact .inl (Int64.lt_of_lt_of_le below ordered)
  · refine .inr ⟨reserved, ?_⟩
    rw [nextReserved] at ordered
    exact Int64.le_antisymm (Int64.le_maxValue _) ordered

theorem PostingList.Valid.pairwise_le {list : PostingList}
    (valid : list.Valid) :
    list.toList.Pairwise fun earlier later => earlier.id ≤ later.id := by
  refine valid.pairwise_mayPrecede.imp ?_
  intro earlier later precedes
  rcases precedes with below | ⟨reserved, laterReserved⟩
  · exact Int64.le_of_lt below
  · rw [reserved, laterReserved]
    exact Int64.le_rfl

end Postings
