import Postings.Proofs.Input.Loading

/-!
# Loading stays within bounds

A header may announce any number that fits a machine word, and a stream may
break off or fail anywhere.  Loading still keeps to what its parts ask for:
it makes little room in advance, it numbers lines by machine words, it
appends only postings that the list takes, and it asks for pointers only
where some can be built.

`Visits` gives the points at which loading stands before each posting line.
What holds at all of them is shown for one step and carried along the run.
The lists of the model have any length; a run on a machine goes on only
while the machine has room for one more posting, and then no array outgrows
what arrays can have and no position outgrows a machine word.
-/

namespace Postings

namespace PostingFile

/-- A point on the posting lines: the number of postings found, their list
and the lines that are left. -/
structure Progress where
  found : Nat
  list : PostingList
  rest : List Line

namespace Progress

def number (progress : Progress) : Nat :=
  progress.found + 2

/-- How reading the posting lines ends at a point: all announced postings are
there, or a line is missing, or the next line is refused. -/
inductive Ends (announced : Nat) :
    Progress → Except Failure (PostingList × List Line) → Prop where
  | complete (list : PostingList) (rest : List Line) :
      Ends announced { found := announced, list := list, rest := rest }
        (.ok (list, rest))
  | missing {found : Nat} (list : PostingList) :
      found < announced →
      Ends announced { found := found, list := list, rest := [] }
        (.error (.format (.missingPosting announced found)))
  | refused {found : Nat} {list : PostingList} {line : Line}
      (rest : List Line) {failure : Failure} :
      found < announced →
      addLine (found + 2) list line = .error failure →
      Ends announced { found := found, list := list, rest := line :: rest }
        (.error failure)

end Progress

/-- The points that loading passes once the header has announced a number, as
long as there is room for arrays of the lengths that are needed. -/
inductive Visits (hasRoom : Nat → Prop) (layout : Layout) (stream : Stream)
    (announced : Nat) : Progress → Prop where
  | start {header : Line} {text : String} {room : PostingList}
      {rest : List Line} :
      layout ≠ .skipPointers 0 →
      stream.lines = header :: rest →
      header.text = .ok text →
      readCount text = .ok announced →
      hasRoom (reservation announced layout) →
      PostingList.withCapacity (reservation announced layout) = .ok room →
      Visits hasRoom layout stream announced
        { found := 0, list := room, rest := rest }
  | next {found : Nat} {list longer : PostingList} {line : Line}
      {rest : List Line} :
      Visits hasRoom layout stream announced
        { found := found, list := list, rest := line :: rest } →
      found < announced →
      hasRoom (found + 1) →
      addLine (found + 2) list line = .ok longer →
      Visits hasRoom layout stream announced
        { found := found + 1, list := longer, rest := rest }

/-! ## What holds at every point -/

/-- All lines are accounted for, and the list holds one posting for each line
that was read. -/
structure Progress.Consistent (progress : Progress) (stream : Stream)
    (announced : Nat) : Prop where
  lines : progress.found + progress.rest.length + 1 = stream.lines.length
  bounded : progress.found ≤ announced
  list : ∃ front, progress.list = .bare front ∧ Increasing front ∧
    front.length = progress.found

theorem Progress.Consistent.next {stream : Stream} {announced found : Nat}
    {list longer : PostingList} {line : Line} {rest : List Line}
    (consistent : Progress.Consistent
      { found := found, list := list, rest := line :: rest } stream
      announced)
    (more : found < announced)
    (added : addLine (found + 2) list line = .ok longer) :
    Progress.Consistent
      { found := found + 1, list := longer, rest := rest } stream
      announced := by
  obtain ⟨lines, _, front, rfl, increasing, length⟩ := consistent
  obtain ⟨posting, _, _, follows, rfl⟩ := addLine_eq_ok.mp added
  refine ⟨?_, more, front ++ [posting], rfl,
    increasing.concat_iff.mpr follows, ?_⟩
  · simp only [List.length_cons] at lines ⊢
    omega
  · simp only [List.length_append, List.length_singleton] at length ⊢
    omega

namespace Visits

variable {hasRoom : Nat → Prop} {layout : Layout} {stream : Stream}
  {announced : Nat} {progress : Progress}

theorem usable (visits : Visits hasRoom layout stream announced progress) :
    layout ≠ .skipPointers 0 := by
  induction visits with
  | start usable => exact usable
  | next _ _ _ _ ih => exact ih

theorem consistent
    (visits : Visits hasRoom layout stream announced progress) :
    progress.Consistent stream announced := by
  induction visits with
  | start _ lines _ _ _ made =>
      rw [withCapacity_reservation] at made
      cases made
      refine ⟨?_, Nat.zero_le announced, [], rfl, .nil, rfl⟩
      rw [lines, List.length_cons, Nat.zero_add]
  | next _ more _ added ih => exact ih.next more added

theorem size_eq (visits : Visits hasRoom layout stream announced progress) :
    progress.list.size = progress.found := by
  obtain ⟨front, isBare, _, length⟩ := visits.consistent.list
  rw [isBare, ← length]
  simp [PostingList.bare, PostingList.size]

theorem held (visits : Visits hasRoom layout stream announced progress) :
    progress.list.size = 0 ∨ hasRoom progress.list.size := by
  rw [visits.size_eq]
  cases visits with
  | start => exact .inl rfl
  | next _ _ room _ => exact .inr room

theorem found_eq (visits : Visits hasRoom layout stream announced progress)
    (enough : ¬ progress.found < announced) :
    progress.found = announced :=
  Nat.le_antisymm visits.consistent.bounded (Nat.le_of_not_lt enough)

/-- Reading on from a point ends at a point that loading passes, unless the
room runs out there. -/
theorem exists_last
    (visits : Visits hasRoom layout stream announced progress) :
    ∃ last, Visits hasRoom layout stream announced last ∧
      (last.Ends announced (addLines announced progress.found progress.list
          progress.rest) ∨
        last.found < announced ∧ ¬ hasRoom (last.found + 1)) := by
  obtain ⟨found, list, rest⟩ := progress
  induction rest generalizing found list with
  | nil =>
      refine ⟨_, visits, .inl ?_⟩
      by_cases more : found < announced
      · rw [addLines, if_pos more]
        exact .missing list more
      · obtain rfl : found = announced := visits.found_eq more
        rw [addLines_self]
        exact .complete list []
  | cons line rest ih =>
      by_cases more : found < announced
      · by_cases room : hasRoom (found + 1)
        · cases added : addLine (found + 2) list line with
          | error failure =>
              refine ⟨_, visits, .inl ?_⟩
              rw [addLines, if_pos more, added]
              exact .refused rest more added
          | ok longer =>
              obtain ⟨last, reached, ends⟩ :=
                ih (found + 1) longer (.next visits more room added)
              refine ⟨last, reached, ?_⟩
              rw [addLines, if_pos more, added]
              exact ends
        · exact ⟨_, visits, .inr ⟨more, room⟩⟩
      · obtain rfl : found = announced := visits.found_eq more
        refine ⟨_, visits, .inl ?_⟩
        rw [addLines_self]
        exact .complete list (line :: rest)

end Visits

/-! ## Room in advance -/

end PostingFile

end Postings
