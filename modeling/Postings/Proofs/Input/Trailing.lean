import Postings.Proofs.Input.Loading

/-!
# What follows the announced postings

Once the announced postings are there, the rest of a stream cannot change
the list or make loading fail.  All it can do is to add one warning, which
counts the lines there that are not blank.  Failed reads count, and so do
lines that are not text.
-/

namespace Postings

namespace Line

/-- A line that could be read and has no characters but blanks. -/
def Blank (line : Line) : Prop :=
  ∃ text, line = .ok text ∧ Text.AllBlank text.toList

instance (line : Line) : Decidable line.Blank :=
  match line with
  | .error _ => .isFalse (by
      intro blank
      obtain ⟨text, read, _⟩ := blank
      cases read)
  | .ok text =>
      decidable_of_iff (text.toList.all Text.isBlank = true) (by
        rw [List.all_eq_true]
        constructor
        · intro allBlank
          exact ⟨text, rfl, allBlank⟩
        · intro blank
          obtain ⟨same, read, allBlank⟩ := blank
          cases read
          exact allBlank)

theorem isNotable_iff (line : Line) :
    line.isNotable = true ↔ ¬ line.Blank := by
  cases line with
  | error cause => simp [isNotable, Blank]
  | ok text => simp [isNotable, Blank, Text.trim_eq_nil]

def notBlankCount (lines : List Line) : Nat :=
  lines.countP fun line => ¬ line.Blank

theorem countP_isNotable (lines : List Line) :
    lines.countP isNotable = notBlankCount lines := by
  apply List.countP_congr
  intro line _
  simp [isNotable_iff]

end Line

namespace PostingFile

/-! ## What loading reports -/

/-- The warning about ignored lines, if there are any. -/
def warnings (ignored announced : Nat) : List Event :=
  if ignored = 0 then [] else [.ignoredLines ignored announced]

/-- What is reported when a number of postings has been read: the skip
pointers, if the layout has them, and the end. -/
def closingEvents (size : Nat) : Layout → List Event
  | .skipPointers count =>
      [.builtSkips size (Update.skipGap size count),
       .loaded size (.skipPointers count)]
  | layout => [.loaded size layout]

theorem level_of_mem_closingEvents {size : Nat} {layout : Layout}
    {event : Event} (member : event ∈ closingEvents size layout) :
    event.level = .debug := by
  cases layout with
  | plain =>
      cases List.mem_singleton.mp member
      rfl
  | sentinel =>
      cases List.mem_singleton.mp member
      rfl
  | skipPointers count =>
      rcases List.mem_cons.mp member with first | second
      · cases first
        rfl
      · cases List.mem_singleton.mp second
        rfl

theorem mem_warnings {ignored announced : Nat} {event : Event} :
    event ∈ warnings ignored announced ↔
      ignored ≠ 0 ∧ event = .ignoredLines ignored announced := by
  by_cases none : ignored = 0
  · simp [warnings, none]
  · simp [warnings, none]

theorem reportIgnored_eq (announced : Nat) (rest : List Line) :
    reportIgnored announced rest =
      { outcome := .ok (),
        events := warnings (rest.countP Line.isNotable) announced } := by
  by_cases none : rest.countP Line.isNotable = 0
  · rw [reportIgnored, warnings, if_pos none, if_pos none]
    rfl
  · rw [reportIgnored, warnings, if_neg none, if_neg none]
    rfl

theorem events_arrange_loaded {layout : Layout}
    (usable : layout ≠ .skipPointers 0) (list : PostingList) :
    (list.arrange layout).events ++ [.loaded list.size layout] =
      closingEvents list.size layout := by
  cases layout with
  | plain => rfl
  | sentinel => rfl
  | skipPointers count =>
      have positive : count ≠ 0 := by simpa using usable
      rw [PostingList.arrange, PostingList.buildSkips_events list positive]
      rfl

/-- Lines that can be read decide all of a load: what is left over only
warns. -/
theorem load_of_readLines {layout : Layout}
    (usable : layout ≠ .skipPointers 0) {stream : Stream}
    {list arranged : PostingList} {rest : List Line}
    (read : readLines .plain stream.lines = .ok (list.size, list, rest))
    (succeeded : (list.arrange layout).outcome = .ok arranged) :
    load layout stream =
      { outcome := .ok arranged,
        events := warnings (rest.countP Line.isNotable) list.size ++
          closingEvents list.size layout } := by
  rw [load_eq, if_neg usable, readLines_layout, read,
    ← events_arrange_loaded usable list]
  change (reportIgnored list.size rest >>= fun _ =>
    list.arrange layout >>= fun arranged =>
      Traced.report (.loaded list.size layout) >>= fun _ =>
        pure arranged) = _
  rw [reportIgnored_eq, Traced.bind_of_ok rfl, Traced.bind_of_ok succeeded]
  rfl

/-! ## Continuations -/

theorem readLines_append {lines rest : List Line} {announced : Nat}
    {list : PostingList}
    (read : readLines .plain lines = .ok (announced, list, rest))
    (more : List Line) :
    readLines .plain (lines ++ more) =
      .ok (announced, list, rest ++ more) := by
  obtain ⟨header, rows, postings, rfl, announces, counted, holds,
    increasing, real, same⟩ := readLines_eq_ok.mp read
  apply readLines_eq_ok.mpr
  exact ⟨header, rows, postings, by simp, announces, counted, holds,
    increasing, real, same⟩

/-- If a file is accepted and has no more lines than its header asks for,
nothing is left after reading. -/
theorem readLines_of_accepted {base : Stream} (unfailing : base.Unfailing)
    {header : List UInt8} {rows : List (List UInt8)}
    (cuts : Stream.CutsInto base.bytes (header :: rows))
    (announces : Encodes (Announces · rows.length) header)
    {list : PostingList}
    (accepted : (load .plain base).outcome = .ok list) :
    list.size = rows.length ∧
      readLines .plain base.lines = .ok (list.size, list, []) := by
  obtain ⟨_, announced, found, rest, read, arranged⟩ :=
    load_eq_ok.mp accepted
  cases arranged
  obtain ⟨text, held, postings, shape, written, counted, holds, _, _, same⟩ :=
    readLines_eq_ok.mp read
  obtain ⟨announcedText, encoded, announcesRows⟩ := announces
  rw [Stream.lines_of_cutsInto unfailing cuts, List.map_cons,
    Line.ofBytes_eq_ok.mpr encoded] at shape
  injection shape with sameHeader sameRows
  cases sameHeader
  have number : announced = rows.length := written.unique announcesRows
  have lengths := congrArg List.length sameRows
  have heldLength := holds.length_eq
  rw [List.length_map, List.length_append] at lengths
  have nothing : rest = [] := List.eq_nil_of_length_eq_zero (by omega)
  have size : list.size = announced := by
    rw [same, ← counted]
    simp [PostingList.size, PostingList.bare]
  rw [size]
  exact ⟨number, nothing ▸ read⟩

/-- A file that has exactly the announced lines, all of them ended, may be
continued with anything.  Loading it gives the same list in every layout and
reports the same, after one warning that counts the lines of the
continuation that are not blank.  There is no warning if there are none. -/
theorem load_ignores_continuation {base : Stream}
    (unfailing : base.Unfailing) {header : List UInt8}
    {rows : List (List UInt8)}
    (cuts : Stream.CutsInto base.bytes (header :: rows))
    (announces : Encodes (Announces · rows.length) header)
    (ended : Stream.AllEnded base.bytes) {list : PostingList}
    (accepted : (load .plain base).outcome = .ok list) (more : Stream) :
    (∃ lines, Stream.BreaksInto more.signals lines) ∧
      ∀ lines, Stream.BreaksInto more.signals lines →
        (∀ layout, layout ≠ .skipPointers 0 →
          ∃ arranged,
            load layout base =
              { outcome := .ok arranged,
                events := closingEvents rows.length layout } ∧
            load layout (base ++ more) =
              { outcome := .ok arranged,
                events :=
                  warnings (Line.notBlankCount lines) rows.length ++
                    closingEvents rows.length layout }) ∧
        (∀ event ∈ warnings (Line.notBlankCount lines) rows.length,
          event.level = .warn ∧
            event.message =
              "ignored " ++ toString (Line.notBlankCount lines) ++
                " line(s) after the " ++ toString rows.length ++
                " announced postings") ∧
        ∀ layout, ∀ event ∈ closingEvents rows.length layout,
          event.level = .debug := by
  constructor
  · exact Stream.exists_breaksInto more.signals
  intro lines breaks
  obtain ⟨size, read⟩ :=
    readLines_of_accepted unfailing cuts announces accepted
  have continued : readLines .plain (Stream.lines (base ++ more)) =
      .ok (list.size, list, lines) := by
    have same : more.lines = lines := by
      rw [Stream.lines_eq_linesFrom, breaks.linesFrom_eq]
    rw [Stream.lines_append_of_allEnded unfailing ended, same]
    exact readLines_append read lines
  refine ⟨?_, ?_, ?_⟩
  · intro layout usable
    obtain ⟨arranged, succeeded⟩ := exists_arranged usable list
    refine ⟨arranged, ?_, ?_⟩
    · rw [load_of_readLines usable read succeeded, size]
      rfl
    · rw [load_of_readLines usable continued succeeded, size,
        Line.countP_isNotable]
  · intro event member
    obtain ⟨_, rfl⟩ := mem_warnings.mp member
    exact ⟨rfl, rfl⟩
  · intro layout event member
    exact level_of_mem_closingEvents member

/-- A file of two postings, read with an interruption. -/
def exactSample : Stream :=
  [.data [50, 10, 49, 32], .interrupted, .data [55, 13, 10, 52, 32, 56, 10]]

/-- A line that is no posting, one that is no text, one that a failure breaks
off, a blank one with an ideographic space, and a posting that nothing
ends. -/
def continuationSample : Stream :=
  [.data [57, 32, 120, 10, 255, 10, 53], .failure (.device "lost"),
   .data [227, 128], .data [128, 13, 10, 55, 32, 55]]

theorem load_ignores_continuation_sample :
    load (.skipPointers 2) (exactSample ++ continuationSample) =
      { outcome := .ok { PostingList.bare [⟨1, 7⟩, ⟨4, 8⟩] with
          skips := { slots := #[some 1, none] } },
        events := [.ignoredLines 4 2, .builtSkips 2 1,
          .loaded 2 (.skipPointers 2)] } := by
  have unfailing : exactSample.Unfailing := by
    intro cause member
    simp [exactSample] at member
  have cuts : Stream.CutsInto exactSample.bytes
      [[50], [49, 32, 55], [52, 32, 56]] := by
    apply @Stream.CutsInto.ended [50] _ _ (by decide) (by decide)
    apply @Stream.CutsInto.returned [49, 32, 55] _ _ (by decide)
    apply @Stream.CutsInto.ended [52, 32, 56] _ _ (by decide) (by decide)
    exact .nothing
  have announces : Encodes (Announces · 2) [50] :=
    ⟨"2", rfl, readCount_eq_ok.mp rfl⟩
  have ended : Stream.AllEnded exactSample.bytes := by
    intro last isLast
    cases isLast
    rfl
  have accepted : (load .plain exactSample).outcome =
      .ok (.bare [⟨1, 7⟩, ⟨4, 8⟩]) := by
    rfl
  have skipping : Layout.skipPointers 2 ≠ .skipPointers 0 := by decide
  obtain ⟨⟨lines, breaks⟩, continued⟩ :=
    load_ignores_continuation unfailing cuts announces ended accepted
      continuationSample
  obtain ⟨same, _⟩ := continued lines breaks
  obtain ⟨arranged, alone, longer⟩ := same (.skipPointers 2) skipping
  have list : arranged = { PostingList.bare [⟨1, 7⟩, ⟨4, 8⟩] with
      skips := { slots := #[some 1, none] } } := by
    injection alone with outcome _
    injection outcome with result
    exact result.symm
  have number : Line.notBlankCount lines = 4 := by
    rw [← breaks.linesFrom_eq, ← Line.countP_isNotable]
    rfl
  rw [longer, list, number]
  rfl

end PostingFile

end Postings
