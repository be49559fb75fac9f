import Mathlib.Data.List.Sort
import Postings.PostingList.Edit

/-!
# The chain of skip pointers

`Trail` follows the pointers of a table from a slot to the last slot that
they lead to.  Where pointers lead forward a trail climbs, and if no pointer
stands beside it, the table has one pointer for each slot of the trail but
the last.

A table that is built for a number of pointers has one trail from the first
slot.  It visits the multiples of the distance between two pointers, and no
other slot holds a pointer.  The distance is rounded down, so there may be
more pointers than requested, but fewer than twice as many.
-/

namespace Postings

namespace SkipTable

/-- Every pointer leads to a later slot, which may lie past the end. -/
def LeadsForward (table : SkipTable) : Prop :=
  ∀ slot target, table.target? slot = some target → slot < target

/-- The slots that are visited when pointers are followed from a slot on,
that slot first. -/
inductive Trail (table : SkipTable) : Nat → List Nat → Prop where
  | ends {slot : Nat} :
      table.target? slot = none → Trail table slot [slot]
  | jumps {slot target : Nat} {path : List Nat} :
      table.target? slot = some target →
      Trail table target path →
      Trail table slot (slot :: path)

/-- The slots that hold a pointer, in order. -/
def pointerSlots (table : SkipTable) : List Nat :=
  (List.range table.size).filter fun slot => (table.target? slot).isSome

def pointerCount (table : SkipTable) : Nat :=
  table.pointerSlots.length

theorem lt_size_of_target? {table : SkipTable} {slot target : Nat}
    (pointer : table.target? slot = some target) : slot < table.size := by
  apply Nat.lt_of_not_le
  intro outside
  rw [target?, Array.getElem?_eq_none outside] at pointer
  cases pointer

theorem pointerSlots_climb (table : SkipTable) :
    table.pointerSlots.Pairwise (· < ·) :=
  List.pairwise_lt_range.filter _

theorem mem_pointerSlots {table : SkipTable} {slot : Nat} :
    slot ∈ table.pointerSlots ↔
      ∃ target, table.target? slot = some target := by
  rw [pointerSlots, List.mem_filter, List.mem_range,
    Option.isSome_iff_exists]
  constructor
  · intro held
    exact held.2
  · intro held
    obtain ⟨target, pointer⟩ := held
    exact ⟨lt_size_of_target? pointer, target, pointer⟩

namespace Trail

variable {table : SkipTable} {slot : Nat} {path : List Nat}

theorem ne_nil (trail : table.Trail slot path) : path ≠ [] := by
  cases trail with
  | ends => exact List.cons_ne_nil slot []
  | jumps => exact List.cons_ne_nil slot _

theorem unique (trail : table.Trail slot path) {other : List Nat}
    (otherTrail : table.Trail slot other) : path = other := by
  induction trail generalizing other with
  | ends nothing =>
      cases otherTrail with
      | ends => rfl
      | jumps pointer =>
          rw [nothing] at pointer
          cases pointer
  | jumps pointer _ ih =>
      cases otherTrail with
      | ends nothing =>
          rw [nothing] at pointer
          cases pointer
      | jumps otherPointer later =>
          rw [pointer] at otherPointer
          cases otherPointer
          rw [ih later]

section Forward

variable (forward : table.LeadsForward)

include forward

theorem le_of_mem (trail : table.Trail slot path) :
    ∀ visited ∈ path, slot ≤ visited := by
  induction trail with
  | ends =>
      intro visited member
      exact Nat.le_of_eq (List.mem_singleton.mp member).symm
  | jumps pointer _ ih =>
      intro visited member
      have ahead := forward _ _ pointer
      rcases List.mem_cons.mp member with first | later
      · exact Nat.le_of_eq first.symm
      · exact Nat.le_trans (Nat.le_of_lt ahead) (ih visited later)

theorem climbs (trail : table.Trail slot path) :
    path.Pairwise (· < ·) := by
  induction trail with
  | ends => exact List.pairwise_singleton _ _
  | jumps pointer later ih =>
      apply List.Pairwise.cons
      · intro visited member
        exact Nat.lt_of_lt_of_le (forward _ _ pointer)
          (later.le_of_mem forward visited member)
      · exact ih

end Forward

theorem mem_dropLast (trail : table.Trail slot path) {visited : Nat} :
    visited ∈ path.dropLast ↔
      visited ∈ path ∧ ∃ target, table.target? visited = some target := by
  induction trail with
  | ends nothing =>
      constructor
      · intro member
        cases member
      · intro held
        obtain ⟨member, target, pointer⟩ := held
        rw [List.mem_singleton.mp member, nothing] at pointer
        cases pointer
  | jumps pointer later ih =>
      rw [List.dropLast_cons_of_ne_nil later.ne_nil, List.mem_cons,
        List.mem_cons, ih]
      constructor
      · intro member
        rcases member with first | behind
        · rw [first]
          exact ⟨.inl rfl, _, pointer⟩
        · exact ⟨.inr behind.1, behind.2⟩
      · intro held
        rcases held.1 with first | behind
        · exact .inl first
        · exact .inr ⟨behind, held.2⟩

/-- If no pointer stands beside a trail, the pointers are those that the
trail follows. -/
theorem pointerSlots_eq (trail : table.Trail slot path)
    (forward : table.LeadsForward)
    (only : ∀ visited target, table.target? visited = some target →
      visited ∈ path) : table.pointerSlots = path.dropLast := by
  apply List.Pairwise.eq_of_mem_iff table.pointerSlots_climb
  · exact (trail.climbs forward).sublist (List.dropLast_sublist path)
  · intro visited
    rw [mem_pointerSlots, trail.mem_dropLast]
    constructor
    · intro held
      obtain ⟨target, pointer⟩ := held
      exact ⟨only visited target pointer, target, pointer⟩
    · intro held
      exact held.2

end Trail

/-! ## Evenly spaced pointers -/

section Spaced

variable {size gap : Nat}

theorem target?_spaced_eq_some {slot target : Nat} :
    (spaced size gap).target? slot = some target ↔
      gap ∣ slot ∧ slot + gap < size ∧ target = slot + gap := by
  rw [target?_spaced, Nat.dvd_iff_mod_eq_zero]
  by_cases held : slot % gap = 0 ∧ slot + gap < size
  · rw [if_pos held]
    simp [held, eq_comm]
  · rw [if_neg held]
    constructor
    · intro pointer
      cases pointer
    · intro spacing
      exact absurd ⟨spacing.1, spacing.2.1⟩ held

theorem spaced_leadsForward (positive : 0 < gap) :
    (spaced size gap).LeadsForward := by
  intro slot target pointer
  obtain ⟨_, _, rfl⟩ := target?_spaced_eq_some.mp pointer
  exact Nat.lt_add_of_pos_right positive

/-- Between two neighbouring multiples there is no other one. -/
theorem add_le_of_dvd {slot other : Nat} (multiple : gap ∣ slot)
    (otherMultiple : gap ∣ other) (behind : slot < other) :
    slot + gap ≤ other := by
  have apart : gap ≤ other - slot :=
    Nat.le_of_dvd (Nat.sub_pos_of_lt behind)
      (Nat.dvd_sub otherMultiple multiple)
  omega

/-- From a multiple of the distance the pointers lead through all larger
multiples. -/
theorem exists_trail_spaced (positive : 0 < gap) {slot : Nat}
    (multiple : gap ∣ slot) (inside : slot < size) :
    ∃ path, (spaced size gap).Trail slot path ∧
      (∀ visited, visited ∈ path ↔
        slot ≤ visited ∧ gap ∣ visited ∧ visited < size) ∧
      path.length = (size - 1 - slot) / gap + 1 := by
  induction remaining : size - slot using Nat.strongRecOn
    generalizing slot with
  | ind distance ih =>
      by_cases further : slot + gap < size
      · have pointer : (spaced size gap).target? slot =
            some (slot + gap) :=
          target?_spaced_eq_some.mpr ⟨multiple, further, rfl⟩
        obtain ⟨path, trail, members, length⟩ :=
          ih (size - (slot + gap)) (by omega)
            (Nat.dvd_add_self_right.mpr multiple) further rfl
        refine ⟨slot :: path, .jumps pointer trail, ?_, ?_⟩
        · intro visited
          rw [List.mem_cons, members]
          constructor
          · intro member
            rcases member with rfl | ⟨behind, later⟩
            · exact ⟨Nat.le_refl _, multiple, inside⟩
            · exact ⟨by omega, later⟩
          · intro wanted
            obtain ⟨behind, divides, below⟩ := wanted
            rcases Nat.eq_or_lt_of_le behind with same | after
            · exact .inl same.symm
            · exact .inr
                ⟨add_le_of_dvd multiple divides after, divides, below⟩
        · have rest : size - 1 - slot = size - 1 - (slot + gap) + gap := by
            omega
          rw [List.length_cons, length, rest, Nat.add_div_right _ positive]
      · have nothing : (spaced size gap).target? slot = none := by
          rw [target?_spaced, if_neg]
          intro held
          exact further held.2
        refine ⟨[slot], .ends nothing, ?_, ?_⟩
        · intro visited
          rw [List.mem_singleton]
          constructor
          · intro same
            rw [same]
            exact ⟨Nat.le_refl _, multiple, inside⟩
          · intro wanted
            obtain ⟨behind, divides, below⟩ := wanted
            apply Nat.le_antisymm _ behind
            apply Nat.le_of_not_lt
            intro after
            have apart := add_le_of_dvd multiple divides after
            omega
        · rw [Nat.div_eq_of_lt (by omega)]
          rfl

/-- The multiples of the distance that are slots. -/
def multiples (size gap : Nat) : List Nat :=
  (List.range size).filter (gap ∣ ·)

theorem mem_multiples {visited : Nat} :
    visited ∈ multiples size gap ↔ gap ∣ visited ∧ visited < size := by
  rw [multiples, List.mem_filter, List.mem_range, decide_eq_true_eq,
    and_comm]

theorem trail_spaced (positive : 0 < gap) (present : 0 < size) :
    (spaced size gap).Trail 0 (multiples size gap) ∧
      (multiples size gap).length = (size - 1) / gap + 1 := by
  obtain ⟨path, trail, members, length⟩ :=
    exists_trail_spaced positive (Nat.dvd_zero gap) present
  have visits : path = multiples size gap := by
    apply List.Pairwise.eq_of_mem_iff
      (trail.climbs (spaced_leadsForward positive))
    · exact List.pairwise_lt_range.filter _
    · intro visited
      rw [members, mem_multiples]
      simp
  rw [visits] at trail length
  exact ⟨trail, length⟩

theorem mem_multiples_of_target? {slot target : Nat}
    (pointer : (spaced size gap).target? slot = some target) :
    slot ∈ multiples size gap := by
  obtain ⟨multiple, further, _⟩ := target?_spaced_eq_some.mp pointer
  exact mem_multiples.mpr ⟨multiple, by omega⟩

theorem pointerCount_spaced (positive : 0 < gap) (present : 0 < size) :
    (spaced size gap).pointerCount = (size - 1) / gap := by
  obtain ⟨trail, length⟩ := trail_spaced positive present
  rw [pointerCount, trail.pointerSlots_eq (spaced_leadsForward positive)
    (fun _ _ pointer => mem_multiples_of_target? pointer),
    List.length_dropLast, length, Nat.add_sub_cancel]

end Spaced

/-! ## How many pointers there are -/

/-- Rounding the distance down gives at least as many jumps as were asked for,
and at most twice as many. -/
theorem pred_div_bounds {size jumps : Nat} (enough : jumps < size) :
    jumps ≤ (size - 1) / (size / (jumps + 1)) ∧
      (size - 1) / (size / (jumps + 1)) ≤ 2 * jumps := by
  have positive : 0 < size / (jumps + 1) :=
    Nat.div_pos enough (Nat.succ_pos jumps)
  have rounded : (jumps + 1) * (size / (jumps + 1)) ≤ size :=
    Nat.mul_div_le size (jumps + 1)
  have nearly : size < (jumps + 1) * (size / (jumps + 1) + 1) :=
    Nat.lt_mul_div_succ size (Nat.succ_pos jumps)
  generalize size / (jumps + 1) = gap at positive rounded nearly ⊢
  rw [Nat.succ_mul] at rounded nearly
  rw [Nat.mul_succ] at nearly
  constructor
  · apply (Nat.le_div_iff_mul_le positive).mpr
    omega
  · apply Nat.le_of_lt_succ
    apply (Nat.div_lt_iff_lt_mul positive).mpr
    have covered : jumps ≤ jumps * gap := Nat.le_mul_of_pos_right jumps positive
    rw [Nat.succ_mul, Nat.mul_assoc]
    omega

/-- What a table owes that is built for a list of the given size and the
requested number of pointers. -/
structure OneChain (table : SkipTable) (size count : Nat) : Prop where
  /-- Every posting has a slot. -/
  slots : table.size = size
  /-- Pointers lead to positions of the list. -/
  inside : ∀ slot target, table.target? slot = some target → target < size
  /-- The pointers lead from the first slot through the multiples of the
  distance, one after the other. -/
  visits : 0 < size → ∀ path, table.Trail 0 path ↔
    path = (List.range size).filter (max 1 (size / count) ∣ ·)
  /-- No other slot holds a pointer. -/
  only : ∀ slot target, table.target? slot = some target →
    ∃ path, table.Trail 0 path ∧ slot ∈ path
  /-- There are about as many pointers as requested. -/
  count_of_le : count ≤ size →
    count - 1 ≤ table.pointerCount ∧ table.pointerCount ≤ 2 * count - 2
  /-- If there are not enough positions, all but the last one have a
  pointer. -/
  count_of_lt : size < count → table.pointerCount = max size 1 - 1

theorem pointerCount_spaced_zero (gap : Nat) :
    (spaced 0 gap).pointerCount = 0 := by
  rw [pointerCount, pointerSlots, size_spaced]
  rfl

theorem spaced_oneChain (size : Nat) {count : Nat} (wanted : 1 ≤ count) :
    OneChain (spaced size (Update.skipGap size count)) size count := by
  have positive : 0 < Update.skipGap size count :=
    Nat.lt_of_lt_of_le Nat.one_pos (Nat.le_max_left 1 (size / count))
  constructor
  · exact size_spaced size _
  · intro slot target pointer
    obtain ⟨_, further, rfl⟩ := target?_spaced_eq_some.mp pointer
    exact further
  · intro present path
    obtain ⟨trail, _⟩ := trail_spaced positive present
    constructor
    · intro other
      exact other.unique trail
    · intro same
      rw [same]
      exact trail
  · intro slot target pointer
    obtain ⟨_, further, _⟩ := target?_spaced_eq_some.mp pointer
    obtain ⟨trail, _⟩ := trail_spaced positive (Nat.zero_lt_of_lt further)
    exact ⟨_, trail, mem_multiples_of_target? pointer⟩
  · intro enough
    obtain ⟨jumps, rfl⟩ : ∃ jumps, count = jumps + 1 :=
      ⟨count - 1, by omega⟩
    have rounded : Update.skipGap size (jumps + 1) = size / (jumps + 1) :=
      Nat.max_eq_right (Nat.div_pos enough wanted)
    rw [pointerCount_spaced positive (by omega), rounded]
    exact pred_div_bounds enough
  · intro short
    have dense : Update.skipGap size count = 1 := by
      rw [Update.skipGap, Nat.div_eq_of_lt short]
      rfl
    rw [dense]
    cases size with
    | zero => exact pointerCount_spaced_zero 1
    | succ fewer =>
        rw [pointerCount_spaced Nat.one_pos (Nat.succ_pos fewer)]
        simp

end SkipTable

namespace PostingList

/-- Building pointers for a list gives one chain of about the requested size.
The postings stay, and the new table depends on their number only: pointers
that were there before play no part. -/
theorem buildSkips_builds_one_chain (list : PostingList) {count : Nat}
    (wanted : 1 ≤ count) :
    ∃ table : SkipTable,
      table.OneChain list.size count ∧
      (list.buildSkips count).outcome = .ok { list with skips := table } ∧
      ∀ other : PostingList, other.size = list.size →
        (other.buildSkips count).outcome =
          .ok { other with skips := table } := by
  have positive : count ≠ 0 := Nat.ne_of_gt wanted
  refine ⟨_, SkipTable.spaced_oneChain list.size wanted, ?_, ?_⟩
  · rw [buildSkips_outcome, if_neg positive]
  · intro other sameSize
    rw [buildSkips_outcome, if_neg positive, sameSize]

/-- Seven postings with two pointers of their own. -/
def skipChainSample : PostingList :=
  Edit.run
    [.push ⟨2, 1⟩, .push ⟨3, 1⟩, .push ⟨5, 1⟩, .push ⟨7, 1⟩, .push ⟨11, 1⟩,
      .push ⟨13, 1⟩, .push ⟨17, 1⟩, .placeSkip 1 6, .placeSkip 5 40]
    .empty

theorem buildSkips_builds_one_chain_sample :
    ∃ table : SkipTable,
      (skipChainSample.buildSkips 3).outcome =
        .ok { skipChainSample with skips := table } ∧
      table.Trail 0 [0, 2, 4, 6] ∧
      table.pointerCount ≤ 4 := by
  obtain ⟨table, chain, built, _⟩ :=
    buildSkips_builds_one_chain skipChainSample (Nat.le_add_left 1 2)
  have size : skipChainSample.size = 7 := by decide
  rw [size] at chain
  refine ⟨table, built, ?_, ?_⟩
  · exact (chain.visits (by decide) _).mpr (by decide)
  · exact (chain.count_of_le (by decide)).2

end PostingList

end Postings
