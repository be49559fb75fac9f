/-!
# Skip tables

A skip table gives some positions of a list a pointer to a later position.
Its slots follow the positions of the list, but it may be shorter than the
list, and one slot longer while the next posting is still to come.  A slot
past the end holds no pointer.
-/

namespace Postings

/-- The pointers of a list, one slot for each position. -/
structure SkipTable where
  slots : Array (Option Nat)
  deriving DecidableEq

namespace SkipTable

def empty : SkipTable :=
  { slots := #[] }

def size (table : SkipTable) : Nat :=
  table.slots.size

def target? (table : SkipTable) (slot : Nat) : Option Nat :=
  (table.slots[slot]?).join

def hasPointer (table : SkipTable) : Bool :=
  table.slots.any Option.isSome

/-- Add empty slots until there are at least as many as asked for. -/
def grow (table : SkipTable) (count : Nat) : SkipTable :=
  { slots := table.slots ++ Array.replicate (count - table.size) none }

def truncate (table : SkipTable) (count : Nat) : SkipTable :=
  { slots := table.slots.take count }

/-- What a slot holds for a target: zero stands for no pointer, since no
pointer leads back to the start. -/
def entry (target : Nat) : Option Nat :=
  if target = 0 then none else some target

/-- Put a pointer into an existing slot; target zero removes it. -/
def place (table : SkipTable) (slot target : Nat) : SkipTable :=
  { slots := table.slots.setIfInBounds slot (entry target) }

/-- The table in which every position divisible by `gap` points `gap`
further, as long as that is a position too. -/
def spaced (size gap : Nat) : SkipTable :=
  { slots := Array.ofFn fun slot : Fin size =>
      if slot.val % gap = 0 ∧ slot.val + gap < size then
        some (slot.val + gap)
      else
        none }

/-- The text of a table, which shows the empty slots too. -/
def render (table : SkipTable) : String :=
  "[" ++ ", ".intercalate (table.slots.toList.map renderSlot) ++ "]"
where
  renderSlot : Option Nat → String
    | none => "None"
    | some target => s!"Some(SkipTarget({target}))"

@[simp] theorem target?_empty (slot : Nat) :
    empty.target? slot = none := by
  simp [empty, target?]

@[simp] theorem size_grow (table : SkipTable) (count : Nat) :
    (table.grow count).size = max table.size count := by
  simp only [grow, size, Array.size_append, Array.size_replicate]
  omega

@[simp] theorem size_truncate (table : SkipTable) (count : Nat) :
    (table.truncate count).size = min count table.size := by
  simp [truncate, size]

@[simp] theorem size_place (table : SkipTable) (slot target : Nat) :
    (table.place slot target).size = table.size := by
  simp [place, size]

@[simp] theorem size_spaced (count gap : Nat) :
    (spaced count gap).size = count := by
  simp [spaced, size]

@[simp] theorem target?_grow (table : SkipTable) (count slot : Nat) :
    (table.grow count).target? slot = table.target? slot := by
  simp only [target?, grow, Array.getElem?_append]
  split
  · rfl
  · rename_i outside
    rw [Array.getElem?_eq_none (Nat.le_of_not_lt outside),
      Array.getElem?_replicate]
    split <;> rfl

theorem target?_truncate (table : SkipTable) (count slot : Nat) :
    (table.truncate count).target? slot =
      if slot < count then table.target? slot else none := by
  have taken : (table.slots.take count)[slot]? =
      if slot < count then table.slots[slot]? else none := by
    rw [Array.take_eq_extract, Array.getElem?_extract, Nat.zero_add]
    by_cases inside : slot < table.slots.size
    · have kept : slot < min count table.slots.size - 0 ↔ slot < count := by
        omega
      simp only [kept]
    · rw [Array.getElem?_eq_none (Nat.le_of_not_lt inside), ite_self,
        ite_self]
  simp only [target?, truncate, taken]
  split <;> rfl

theorem target?_place (table : SkipTable) (slot target other : Nat) :
    (table.place slot target).target? other =
      if slot = other ∧ slot < table.size then entry target
      else table.target? other := by
  simp only [target?, place, size, Array.getElem?_setIfInBounds]
  by_cases same : slot = other
  · subst other
    by_cases inside : slot < table.slots.size
    · simp [inside]
    · simp [inside]
  · simp [same]

theorem target?_spaced (size gap slot : Nat) :
    (spaced size gap).target? slot =
      if slot % gap = 0 ∧ slot + gap < size then some (slot + gap)
      else none := by
  simp only [target?, spaced, Array.getElem?_ofFn]
  by_cases inside : slot < size
  · simp [inside]
  · simp [inside]
    omega

end SkipTable

end Postings
