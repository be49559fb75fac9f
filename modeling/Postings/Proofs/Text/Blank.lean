import Mathlib.Data.List.TakeWhile
import Postings.Text.Blank

/-!
# Blanks around and between fields

A text that consists of blanks, a solid part and blanks is trimmed to that
part, and every text is its trimmed part between blanks.  Likewise a text has
exactly two fields when it is two solid parts with blanks between them and
perhaps around them.
-/

namespace Postings

namespace Text

def AllBlank (text : List Char) : Prop :=
  ∀ character ∈ text, isBlank character = true

/-- A text that is not empty and has no blanks. -/
structure Solid (text : List Char) : Prop where
  present : text ≠ []
  notBlank : ∀ character ∈ text, isBlank character = false

theorem Solid.notMem {part : List Char} (solid : Solid part)
    {character : Char} (blank : isBlank character = true) :
    character ∉ part := by
  intro member
  rw [solid.notBlank character member] at blank
  cases blank

/-- A text that is empty or begins with a blank. -/
def BeginsBlank (text : List Char) : Prop :=
  ∀ character ∈ text.head?, isBlank character = true

theorem AllBlank.beginsBlank {text : List Char} (allBlank : AllBlank text) :
    BeginsBlank text :=
  fun head first => allBlank head (List.mem_of_mem_head? first)

theorem allBlank_takeWhile (text : List Char) :
    AllBlank (text.takeWhile isBlank) :=
  fun _ member => List.mem_takeWhile_imp member

theorem dropWhile_blank_solid_append {blanks part : List Char}
    (allBlank : AllBlank blanks) (solid : Solid part) (text : List Char) :
    (blanks ++ (part ++ text)).dropWhile isBlank = part ++ text := by
  rw [List.dropWhile_append_of_pos allBlank]
  cases part with
  | nil => exact absurd rfl solid.present
  | cons character part =>
      have notBlank := solid.notBlank character List.mem_cons_self
      exact List.dropWhile_cons_of_neg (by simp [notBlank])

/-! ## Trimming -/

theorem trim_eq_of_solid {before part after : List Char}
    (beforeBlank : AllBlank before) (solid : Solid part)
    (afterBlank : AllBlank after) :
    trim (before ++ part ++ after) = part := by
  have afterReversed : AllBlank after.reverse := fun character member =>
    afterBlank character (List.mem_reverse.mp member)
  have partReversed : Solid part.reverse :=
    ⟨by simpa using solid.present, fun character member =>
      solid.notBlank character (List.mem_reverse.mp member)⟩
  have fromBehind :=
    dropWhile_blank_solid_append afterReversed partReversed []
  rw [List.append_nil] at fromBehind
  rw [trim, List.append_assoc,
    dropWhile_blank_solid_append beforeBlank solid, List.reverse_append,
    fromBehind, List.reverse_reverse]

theorem exists_eq_trim (text : List Char) :
    ∃ before after, AllBlank before ∧ AllBlank after ∧
      text = before ++ trim text ++ after := by
  refine ⟨text.takeWhile isBlank,
    ((text.dropWhile isBlank).reverse.takeWhile isBlank).reverse,
    allBlank_takeWhile text, ?_, ?_⟩
  · intro character member
    exact allBlank_takeWhile _ character (List.mem_reverse.mp member)
  · rw [trim, List.append_assoc, ← List.reverse_append,
      List.takeWhile_append_dropWhile, List.reverse_reverse,
      List.takeWhile_append_dropWhile]

theorem trim_eq_nil {text : List Char} :
    trim text = [] ↔ AllBlank text := by
  constructor
  · intro nothing
    obtain ⟨before, after, beforeBlank, afterBlank, whole⟩ :=
      exists_eq_trim text
    rw [whole, nothing, List.append_nil]
    intro character member
    rcases List.mem_append.mp member with inBefore | inAfter
    · exact beforeBlank character inBefore
    · exact afterBlank character inAfter
  · intro allBlank
    have dropped : text.dropWhile isBlank = [] :=
      List.dropWhile_eq_nil_iff.mpr allBlank
    rw [trim, dropped]
    rfl

/-! ## Fields -/

theorem leadingField_append {part : List Char}
    (notBlank : ∀ character ∈ part, isBlank character = false)
    (text : List Char) :
    leadingField (part ++ text) =
      (part ++ (leadingField text).1, (leadingField text).2) := by
  induction part with
  | nil => rfl
  | cons character part ih =>
      rw [List.forall_mem_cons] at notBlank
      simp [leadingField, notBlank.1, ih notBlank.2]

theorem leadingField_of_beginsBlank {text : List Char}
    (begins : BeginsBlank text) :
    leadingField text = ([], fields text) := by
  cases text with
  | nil => rfl
  | cons character text =>
      have blank : isBlank character = true := begins character rfl
      simp [fields, leadingField, blank]

theorem fields_cons_blank {character : Char}
    (blank : isBlank character = true) (text : List Char) :
    fields (character :: text) = fields text := by
  simp [fields, leadingField, blank]

theorem fields_blank_append {blanks : List Char}
    (allBlank : AllBlank blanks) (text : List Char) :
    fields (blanks ++ text) = fields text := by
  induction blanks with
  | nil => rfl
  | cons character blanks ih =>
      rw [List.cons_append,
        fields_cons_blank (allBlank character List.mem_cons_self)]
      exact ih fun other member =>
        allBlank other (List.mem_cons_of_mem character member)

theorem fields_solid_append {field : List Char} (solid : Solid field)
    {text : List Char} (begins : BeginsBlank text) :
    fields (field ++ text) = field :: fields text := by
  rw [fields, leadingField_append solid.notBlank,
    leadingField_of_beginsBlank begins]
  simp [solid.present]

/-- A text is blank, or its first field follows some blanks. -/
theorem allBlank_or_exists_field (text : List Char) :
    AllBlank text ∨
      ∃ blanks field rest, AllBlank blanks ∧ Solid field ∧
        BeginsBlank rest ∧ text = blanks ++ (field ++ rest) := by
  induction text with
  | nil => exact .inl fun _ absent => absurd absent List.not_mem_nil
  | cons character text ih =>
      by_cases blank : isBlank character = true
      · rcases ih with
          allBlank | ⟨blanks, field, rest, blanksBlank, solid, begins, rfl⟩
        · exact .inl (List.forall_mem_cons.mpr ⟨blank, allBlank⟩)
        · exact .inr ⟨character :: blanks, field, rest,
            List.forall_mem_cons.mpr ⟨blank, blanksBlank⟩, solid, begins,
            rfl⟩
      · have notBlank : isBlank character = false := by simpa using blank
        have alone : Solid [character] := ⟨by simp, by simpa using notBlank⟩
        right
        rcases ih with
          allBlank | ⟨blanks, field, rest, blanksBlank, solid, begins, rfl⟩
        · exact ⟨[], [character], text, by simp [AllBlank], alone,
            allBlank.beginsBlank, rfl⟩
        · cases blanks with
          | nil =>
              exact ⟨[], character :: field, rest, by simp [AllBlank],
                ⟨by simp, List.forall_mem_cons.mpr
                  ⟨notBlank, solid.notBlank⟩⟩, begins, rfl⟩
          | cons head blanks =>
              refine ⟨[], [character], _, by simp [AllBlank], alone, ?_,
                rfl⟩
              intro first isFirst
              cases isFirst
              exact blanksBlank head List.mem_cons_self

theorem fields_of_allBlank {text : List Char} (allBlank : AllBlank text) :
    fields text = [] := by
  have dropped := fields_blank_append allBlank []
  rw [List.append_nil] at dropped
  exact dropped

theorem fields_eq_nil {text : List Char} :
    fields text = [] ↔ AllBlank text := by
  constructor
  · intro none
    rcases allBlank_or_exists_field text with
      allBlank | ⟨blanks, field, rest, blanksBlank, solid, begins, rfl⟩
    · exact allBlank
    · rw [fields_blank_append blanksBlank,
        fields_solid_append solid begins] at none
      cases none
  · exact fields_of_allBlank

theorem fields_eq_cons {text field : List Char}
    {later : List (List Char)} :
    fields text = field :: later ↔
      ∃ blanks rest, AllBlank blanks ∧ Solid field ∧ BeginsBlank rest ∧
        text = blanks ++ (field ++ rest) ∧ fields rest = later := by
  constructor
  · intro found
    rcases allBlank_or_exists_field text with
      allBlank | ⟨blanks, first, rest, blanksBlank, solid, begins, rfl⟩
    · rw [fields_of_allBlank allBlank] at found
      cases found
    · rw [fields_blank_append blanksBlank,
        fields_solid_append solid begins] at found
      cases found
      exact ⟨blanks, rest, blanksBlank, solid, begins, rfl, rfl⟩
  · rintro ⟨blanks, rest, blanksBlank, solid, begins, rfl, rfl⟩
    rw [fields_blank_append blanksBlank, fields_solid_append solid begins]

/-- Before a solid part, a blank begins only a text with a blank in front. -/
theorem beginsBlank_append_iff {blanks part : List Char}
    (allBlank : AllBlank blanks) (solid : Solid part) (text : List Char) :
    BeginsBlank (blanks ++ (part ++ text)) ↔ blanks ≠ [] := by
  cases blanks with
  | nil =>
      cases part with
      | nil => exact absurd rfl solid.present
      | cons character part =>
          have notBlank := solid.notBlank character List.mem_cons_self
          simp [BeginsBlank, notBlank]
  | cons character blanks =>
      have blank := allBlank character List.mem_cons_self
      simp [BeginsBlank, blank]

theorem fields_eq_pair {text first second : List Char} :
    fields text = [first, second] ↔
      ∃ lead gap trail, AllBlank lead ∧ AllBlank gap ∧ AllBlank trail ∧
        gap ≠ [] ∧ Solid first ∧ Solid second ∧
        text = lead ++ first ++ gap ++ second ++ trail := by
  rw [fields_eq_cons]
  constructor
  · rintro ⟨lead, rest, leadBlank, firstSolid, begins, rfl, found⟩
    obtain ⟨gap, trail, gapBlank, secondSolid, -, rfl, trailing⟩ :=
      fields_eq_cons.mp found
    refine ⟨lead, gap, trail, leadBlank, gapBlank,
      fields_eq_nil.mp trailing, ?_, firstSolid, secondSolid,
      by simp [List.append_assoc]⟩
    exact (beginsBlank_append_iff gapBlank secondSolid trail).mp begins
  · rintro ⟨lead, gap, trail, leadBlank, gapBlank, trailBlank, separated,
      firstSolid, secondSolid, rfl⟩
    refine ⟨lead, gap ++ (second ++ trail), leadBlank, firstSolid, ?_,
      by simp [List.append_assoc], ?_⟩
    · exact (beginsBlank_append_iff gapBlank secondSolid trail).mpr
        separated
    · rw [fields_blank_append gapBlank,
        fields_solid_append secondSolid trailBlank.beginsBlank,
        fields_of_allBlank trailBlank]

end Text

end Postings
