import Mathlib.Data.List.Sort
import Postings.PostingList.Update

/-!
# The representation invariant of posting lists

A list is valid when its two arrays are equally long, its ids grow except
from one sentinel to the next, and its skip table points forward and does not
run ahead of the postings by more than one slot.

A valid list is determined by its postings and its skip table.  The list
`bare postings` has these postings and no table; it is what appending
postings one by one gives.
-/

namespace Postings

theorem lt_sentinelId {id : Int64} (real : id ≠ sentinelId) :
    id < sentinelId :=
  Int64.lt_of_le_of_ne (Int64.le_maxValue id) real

theorem ne_sentinelId_of_lt {id other : Int64} (below : id < other) :
    id ≠ sentinelId :=
  Int64.ne_of_lt (Int64.lt_of_lt_of_le below (Int64.le_maxValue other))

/-- The ids grow from posting to posting. -/
def Increasing (postings : List Posting) : Prop :=
  postings.Pairwise fun earlier later => earlier.id < later.id

instance (postings : List Posting) : Decidable (Increasing postings) :=
  inferInstanceAs (Decidable (postings.Pairwise _))

namespace Increasing

theorem tail {head : Posting} {tail : List Posting}
    (increasing : Increasing (head :: tail)) : Increasing tail :=
  List.Pairwise.of_cons increasing

theorem head_lt {head : Posting} {tail : List Posting}
    (increasing : Increasing (head :: tail)) :
    ∀ posting ∈ tail, head.id < posting.id :=
  fun _ member => List.rel_of_pairwise_cons increasing member

theorem forall_lt {head : Posting} {tail : List Posting}
    (increasing : Increasing (head :: tail)) {bound : Int64}
    (below : bound < head.id) :
    ∀ posting ∈ head :: tail, bound < posting.id :=
  List.forall_mem_cons.mpr ⟨below, fun posting member =>
    Int64.lt_trans below (increasing.head_lt posting member)⟩

/-- An increasing run is determined by its members. -/
theorem eq_of_mem_iff {first second : List Posting}
    (firstIncreasing : Increasing first)
    (secondIncreasing : Increasing second)
    (same : ∀ posting, posting ∈ first ↔ posting ∈ second) :
    first = second := by
  have irreflexive :
      Std.Irrefl fun earlier later : Posting => earlier.id < later.id :=
    ⟨fun posting => Int64.lt_irrefl⟩
  have antisymmetric :
      Std.Antisymm fun earlier later : Posting => earlier.id < later.id :=
    ⟨fun _ _ forward backward =>
      absurd (Int64.lt_trans forward backward) Int64.lt_irrefl⟩
  exact List.Pairwise.eq_of_mem_iff firstIncreasing secondIncreasing same

theorem eq_of_id_eq {postings : List Posting}
    (increasing : Increasing postings) {first second : Posting}
    (firstMember : first ∈ postings) (secondMember : second ∈ postings)
    (sameId : first.id = second.id) : first = second := by
  induction postings with
  | nil => simp at firstMember
  | cons head tail ih =>
      have above := increasing.head_lt
      rcases List.mem_cons.mp firstMember with rfl | firstLater
      · rcases List.mem_cons.mp secondMember with rfl | secondLater
        · rfl
        · have below := above second secondLater
          rw [sameId] at below
          exact absurd below Int64.lt_irrefl
      · rcases List.mem_cons.mp secondMember with rfl | secondLater
        · have below := above first firstLater
          rw [sameId] at below
          exact absurd below Int64.lt_irrefl
        · exact ih increasing.tail firstLater secondLater

/-- A run goes on increasing if its last id is exceeded. -/
theorem concat_iff {front : List Posting} (increasing : Increasing front)
    {posting : Posting} :
    Increasing (front ++ [posting]) ↔
      ∀ last ∈ front.getLast?, last.id < posting.id := by
  constructor
  · intro longer last final
    exact (List.pairwise_append.mp longer).2.2 last
      (List.mem_of_getLast? final) posting List.mem_cons_self
  · intro follows
    rcases List.eq_nil_or_concat front with rfl | ⟨rest, last, rfl⟩
    · exact List.pairwise_singleton _ posting
    · rw [List.concat_eq_append] at increasing follows ⊢
      have below : last.id < posting.id := follows last (by simp)
      refine List.pairwise_append.mpr
        ⟨increasing, List.pairwise_singleton _ posting, ?_⟩
      intro earlier earlierMember later laterMember
      rw [List.mem_singleton.mp laterMember]
      rcases List.mem_append.mp earlierMember with inRest | isLast
      · have beforeLast := (List.pairwise_append.mp increasing).2.2 earlier
          inRest last List.mem_cons_self
        exact Int64.lt_trans beforeLast below
      · rw [List.mem_singleton.mp isLast]
        exact below

end Increasing

namespace PostingList

/-- One id may stand right before another: it is smaller, or both are the
reserved one. -/
def MayPrecede (earlier later : Int64) : Prop :=
  earlier < later ∨ earlier = sentinelId ∧ later = sentinelId

instance (earlier later : Int64) : Decidable (MayPrecede earlier later) :=
  inferInstanceAs (Decidable (_ ∨ _))

/-- What holds of every list that the operations can make. -/
structure Valid (list : PostingList) : Prop where
  aligned : list.ids.size = list.scores.size
  ordered : ∀ position earlier later,
    list.ids[position]? = some earlier →
      list.ids[position + 1]? = some later → MayPrecede earlier later
  slots : list.skips.size ≤ list.size + 1
  forward : ∀ slot target, list.skip? slot = some target → slot < target

/-- The ids grow from position to position, the last one included. -/
def IncreasingIds (list : PostingList) : Prop :=
  list.ids.toList.Pairwise (· < ·)

instance (list : PostingList) : Decidable list.IncreasingIds :=
  inferInstanceAs (Decidable (List.Pairwise _ _))

/-- The list of the given postings without skip pointers. -/
def bare (postings : List Posting) : PostingList :=
  { ids := (postings.map Posting.id).toArray,
    scores := (postings.map Posting.score).toArray,
    skips := .empty }

/-! ## Aligned arrays -/

theorem map_id_toList {list : PostingList}
    (aligned : list.ids.size = list.scores.size) :
    list.toList.map Posting.id = list.ids.toList := by
  rw [toList, ← List.map_uncurry_zip_eq_zipWith, List.map_map]
  exact List.map_fst_zip (by simp [aligned])

theorem map_score_toList {list : PostingList}
    (aligned : list.ids.size = list.scores.size) :
    list.toList.map Posting.score = list.scores.toList := by
  rw [toList, ← List.map_uncurry_zip_eq_zipWith, List.map_map]
  exact List.map_snd_zip (by simp [aligned])

theorem length_toList {list : PostingList}
    (aligned : list.ids.size = list.scores.size) :
    list.toList.length = list.size := by
  rw [← List.length_map (f := Posting.id), map_id_toList aligned]
  rfl

theorem getElem?_ids {list : PostingList}
    (aligned : list.ids.size = list.scores.size) (position : Nat) :
    list.ids[position]? = list.toList[position]?.map Posting.id := by
  rw [← List.getElem?_map, map_id_toList aligned, Array.getElem?_toList]

theorem increasing_toList {list : PostingList}
    (aligned : list.ids.size = list.scores.size) :
    Increasing list.toList ↔ list.IncreasingIds := by
  rw [IncreasingIds, ← map_id_toList aligned, List.pairwise_map]
  rfl

theorem toList_append {list : PostingList}
    (aligned : list.ids.size = list.scores.size) (posting : Posting) :
    (list.append posting).toList = list.toList ++ [posting] := by
  simp only [toList, append, Array.toList_push]
  rw [List.zipWith_append (by simp [aligned])]
  rfl

@[simp] theorem toList_bare (postings : List Posting) :
    (bare postings).toList = postings := by
  simp [bare, toList, List.zipWith_map, List.zipWith_self]

/-! ## Appending postings one by one -/

@[simp] theorem lastId?_bare (postings : List Posting) :
    (bare postings).lastId? = postings.getLast?.map Posting.id := by
  simp [bare, lastId?]

theorem append_bare (postings : List Posting) (posting : Posting) :
    (bare postings).append posting = bare (postings ++ [posting]) := by
  simp [bare, append]

theorem push_bare {front : List Posting} {posting : Posting}
    (follows : ∀ last ∈ front.getLast?, last.id < posting.id) :
    (bare front).push posting = .ok (bare (front ++ [posting])) := by
  rw [push_eq, append_bare, lastId?_bare]
  cases final : front.getLast? with
  | none => rfl
  | some last =>
      have below := follows last final
      simp [below]

theorem foldlM_push_bare {postings : List Posting} (front : List Posting)
    (increasing : Increasing (front ++ postings)) :
    postings.foldlM push (bare front) = .ok (bare (front ++ postings)) := by
  induction postings generalizing front with
  | nil => rw [List.append_nil]; rfl
  | cons posting postings ih =>
      have follows : ∀ last ∈ front.getLast?, last.id < posting.id :=
        fun last final => (List.pairwise_append.mp increasing).2.2 last
          (List.mem_of_getLast? final) posting List.mem_cons_self
      have later := ih (front ++ [posting]) (by simpa using increasing)
      rw [List.foldlM_cons, push_bare follows]
      change postings.foldlM push (bare (front ++ [posting])) = _
      rw [later, List.append_assoc, List.singleton_append]

theorem ofList_of_increasing {postings : List Posting}
    (increasing : Increasing postings) :
    ofList postings = .ok (bare postings) :=
  foldlM_push_bare [] increasing

/-- The first posting whose id is not greater than the one before it is
refused, and what comes after it plays no part. -/
theorem ofList_of_not_lt {front : List Posting} {first second : Posting}
    (rest : List Posting) (increasing : Increasing (front ++ [first]))
    (notBelow : ¬ first.id < second.id) :
    ofList (front ++ first :: second :: rest) =
      .error (.notIncreasing first.id second.id) := by
  have built := ofList_of_increasing increasing
  have refused : (bare (front ++ [first])).push second =
      .error (.notIncreasing first.id second.id) := by
    rw [push_eq, lastId?_bare, List.getLast?_concat]
    simp [notBelow]
  rw [ofList] at built
  rw [List.append_cons, ofList, List.foldlM_append, built]
  change (bare (front ++ [first])).push second >>= _ = _
  rw [refused]
  rfl

end PostingList

end Postings
