import Postings.Text.Quoted

/-!
# Visible text between quotes

The visible characters of ASCII are outside all unprintable ranges, so a text
of them without quotes and backslashes is quoted as it stands.
-/

namespace Postings

namespace Text

/-- A visible character of ASCII, or the space, that quoting leaves alone. -/
def isPlain (character : Char) : Bool :=
  32 ≤ character.toNat && character.toNat ≤ 126 && character != '"' &&
    character != '\\'

namespace Unprintable

theorem ranges_avoid_visible :
    ranges.all (fun range => range.2 < 32 || 126 < range.1) = true := by
  decide +kernel

end Unprintable

theorem isUnprintable_of_visible {character : Char}
    (least : 32 ≤ character.toNat) (most : character.toNat ≤ 126) :
    isUnprintable character = false := by
  rw [isUnprintable, List.any_eq_false]
  intro range member within
  have avoids := List.all_eq_true.mp Unprintable.ranges_avoid_visible range
    member
  rw [Bool.and_eq_true, decide_eq_true_eq, decide_eq_true_eq] at within
  rw [Bool.or_eq_true, decide_eq_true_eq, decide_eq_true_eq] at avoids
  omega

theorem quoteChar_of_isPlain {character : Char}
    (plain : isPlain character = true) :
    quoteChar character = [character] := by
  simp only [isPlain, Bool.and_eq_true, decide_eq_true_eq, bne_iff_ne,
    ne_eq] at plain
  obtain ⟨⟨⟨least, most⟩, notQuote⟩, notBackslash⟩ := plain
  have notControl {control : Char} (low : control.toNat < 32) :
      character ≠ control := by
    rintro rfl
    omega
  rw [quoteChar, if_neg notQuote, if_neg notBackslash,
    if_neg (notControl (by decide)), if_neg (notControl (by decide)),
    if_neg (notControl (by decide)), if_neg (notControl (by decide)),
    isUnprintable_of_visible least most]
  rfl

theorem quote_of_isPlain {text : String}
    (plain : text.toList.all isPlain = true) :
    quote text = "\"" ++ text ++ "\"" := by
  have same : text.toList.flatMap quoteChar = text.toList := by
    generalize text.toList = characters at plain
    induction characters with
    | nil => rfl
    | cons character characters ih =>
        rw [List.all_cons, Bool.and_eq_true] at plain
        rw [List.flatMap_cons, quoteChar_of_isPlain plain.1, ih plain.2]
        rfl
  apply String.toList_injective
  rw [quote, same]
  simp

end Text

end Postings
