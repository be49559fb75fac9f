import Postings.Command.Intersect
import Postings.Proofs.Input.Loading
import Postings.Proofs.Text.Quoted

/-!
# The answer of the intersect program

What the program answers is settled by the files alone.  If all of them are
accepted, it prints the postings that they have in common; otherwise it
reports why the first of the others is refused.  `Answers` says so without
an algorithm, a layout or a threshold, and it leaves no choice of the exit
code and the results.
-/

namespace Postings

namespace IntersectCommand

/-- The line at the end of a run that complains, in the words of the three
kinds of complaints.  Texts stand in it between quotes. -/
inductive Reports : Failure → String → Prop where
  | argument (cause : ArgumentError) :
      Reports (.argument cause)
        ("Error: Postmerge(InvalidArgument(InvalidArgumentError \x7b arg: " ++
          Text.quote cause.argument ++ ", msg: " ++ Text.quote cause.message ++
          " \x7d))\n")
  | format (cause : FormatError) :
      Reports (.format cause)
        ("Error: Postmerge(InvalidFormat(InvalidFormatError \x7b " ++
          "arg: \"rdr\", msg: " ++ Text.quote cause.message ++ " \x7d))\n")
  | read (cause : ReadError) :
      Reports (.read cause)
        ("Error: Postmerge(StdIo(" ++ cause.render ++ "))\n")

/-- What the program owes for the named files: a line for each common posting,
with its id, a tabulator and its score, or else the complaint about the first
file that is refused. -/
inductive Answers (files : Files) (compressed : Bool)
    (paths : List String) : Transcript → Prop where
  | common {runs : List (List Posting)} {common : List Posting}
      {messages : List String} :
      List.Forall₂ (files.Accepts compressed) paths runs →
      IsCommonToAll runs common →
      Answers files compressed paths
        { code := 0
          results := common.map fun posting =>
            toString posting.id.toInt ++ "\t" ++
              toString posting.score.toInt
          messages }
  | complaint {failure : Failure} {line : String} {messages : List String} :
      files.RejectsFirst compressed paths failure →
      Reports failure line →
      Answers files compressed paths
        { code := 1, results := [], messages := messages ++ [line] }

theorem writeInt64_eq_toString (value : Int64) :
    Decimal.writeInt64 value = toString value.toInt := by
  rw [Decimal.writeInt64, Decimal.writeInt]
  cases value.toInt with
  | ofNat magnitude =>
      have positive : ¬ Int.ofNat magnitude < 0 :=
        Int.not_lt.mpr (Int.natCast_nonneg magnitude)
      rw [if_neg positive]
      rfl
  | negSucc magnitude => simp [toString, Int.repr, Nat.repr]

theorem outputLine_eq (posting : Posting) :
    outputLine posting =
      toString posting.id.toInt ++ "\t" ++ toString posting.score.toInt := by
  rw [outputLine, writeInt64_eq_toString, writeInt64_eq_toString]

theorem failureLine_argument (cause : ArgumentError) :
    Text.ended (Transcript.failureLine (.argument cause)) =
      "Error: Postmerge(InvalidArgument(InvalidArgumentError \x7b arg: " ++
        Text.quote cause.argument ++ ", msg: " ++ Text.quote cause.message ++
        " \x7d))\n" := by
  change "Error: Postmerge(" ++ ("InvalidArgument(InvalidArgumentError" ++
    (" \x7b arg: " ++ Text.quote cause.argument ++ ", msg: " ++
      Text.quote cause.message ++ " \x7d") ++ ")") ++ ")" ++ "\n" = _
  apply String.toList_injective
  simp

theorem failureLine_format (cause : FormatError) :
    Text.ended (Transcript.failureLine (.format cause)) =
      "Error: Postmerge(InvalidFormat(InvalidFormatError \x7b " ++
        "arg: \"rdr\", msg: " ++ Text.quote cause.message ++
        " \x7d))\n" := by
  have name : Text.quote FormatError.argument = "\"rdr\"" :=
    Text.quote_of_isPlain (by decide)
  change "Error: Postmerge(" ++ ("InvalidFormat(InvalidFormatError" ++
    (" \x7b arg: " ++ Text.quote FormatError.argument ++ ", msg: " ++
      Text.quote cause.message ++ " \x7d") ++ ")") ++ ")" ++ "\n" = _
  rw [name]
  apply String.toList_injective
  simp

theorem failureLine_read (cause : ReadError) :
    Text.ended (Transcript.failureLine (.read cause)) =
      "Error: Postmerge(StdIo(" ++ cause.render ++ "))\n" := by
  change "Error: Postmerge(" ++ ("StdIo(" ++ cause.render ++ ")") ++ ")" ++
    "\n" = _
  apply String.toList_injective
  simp

theorem reports_failureLine {failure : Failure}
    (complains : failure.IsComplaint) :
    Reports failure (Text.ended (Transcript.failureLine failure)) := by
  cases failure with
  | fault cause => exact absurd rfl (complains cause)
  | argument cause =>
      rw [failureLine_argument]
      exact .argument cause
  | format cause =>
      rw [failureLine_format]
      exact .format cause
  | read cause =>
      rw [failureLine_read]
      exact .read cause

theorem Answers.unique {files : Files} {compressed : Bool}
    {paths : List String} {first second : Transcript}
    (firstAnswers : Answers files compressed paths first)
    (secondAnswers : Answers files compressed paths second) :
    first.code = second.code ∧ first.results = second.results := by
  cases firstAnswers with
  | common accepts isCommon =>
      cases secondAnswers with
      | common otherAccepts otherIs =>
          rw [Files.accepts_unique otherAccepts accepts] at otherIs
          rw [isCommon.unique otherIs]
          exact ⟨rfl, rfl⟩
      | complaint rejects _ => exact absurd accepts rejects.not_accepts
  | complaint rejects _ =>
      cases secondAnswers with
      | common accepts _ => exact absurd accepts rejects.not_accepts
      | complaint _ _ => exact ⟨rfl, rfl⟩

theorem Reports.unique {failure : Failure} {first second : String}
    (firstReports : Reports failure first)
    (secondReports : Reports failure second) : first = second := by
  cases firstReports <;> cases secondReports <;> rfl

theorem Answers.getLast_messages {files : Files} {compressed : Bool}
    {paths : List String} {transcript : Transcript} {failure : Failure}
    {line : String} (answers : Answers files compressed paths transcript)
    (rejects : files.RejectsFirst compressed paths failure)
    (reports : Reports failure line) :
    transcript.messages.getLast? = some line := by
  cases answers with
  | common accepts _ => exact absurd accepts rejects.not_accepts
  | complaint others otherReports =>
      rw [others.unique rejects] at otherReports
      rw [otherReports.unique reports]
      exact List.getLast?_concat

theorem outcome_loadFile (settings : Settings) (files : Files)
    (path : String) :
    (loadFile settings files path).outcome =
      (files.load settings.compressed settings.layout path).outcome := by
  rw [loadFile, Traced.outcome_bind]
  cases (files.load settings.compressed settings.layout path).outcome with
  | error failure => rfl
  | ok list => rfl

section Runs

variable {settings : Settings} (positive : 1 ≤ settings.skipPointers)
variable (files : Files)

include positive

theorem intersection_of_accepts (named : settings.files ≠ [])
    {runs : List (List Posting)}
    (accepts : List.Forall₂ (files.Accepts settings.compressed)
      settings.files runs) :
    ∃ common result, IsCommonToAll runs common ∧
      (intersection settings files).outcome = .ok result ∧
      result.toList = common := by
  obtain ⟨lists, loaded, arranged⟩ := Files.outcome_mapM_of_accepts accepts
    settings.effectiveAlgorithm positive (outcome_loadFile settings files)
  have present : lists ≠ [] := by
    rw [← List.length_pos_iff, arranged.length_eq, ← accepts.length_eq]
    exact List.length_pos_iff.mpr named
  obtain ⟨common, result, isCommon, _, intersected, holds, _⟩ :=
    Intersection.intersectAll_of_forall₂ arranged present
  refine ⟨common, result, isCommon, ?_, holds.toList_eq⟩
  rw [intersection, Traced.outcome_bind_of_ok loaded,
    Traced.outcome_bind_of_ok intersected]
  rfl

theorem intersection_of_rejectsFirst {failure : Failure}
    (rejects : files.RejectsFirst settings.compressed settings.files
      failure) :
    (intersection settings files).outcome = .error failure := by
  have stopped := rejects.outcome_mapM settings.effectiveAlgorithm positive
    (outcome_loadFile settings files)
  rw [intersection, Traced.outcome_bind, stopped]
  rfl

theorem run_answers (named : settings.files ≠ [])
    (requested : Option Filter) :
    Answers files settings.compressed settings.files
      (run settings requested files) := by
  rcases files.accepts_or_rejectsFirst settings.compressed
      settings.files with ⟨runs, accepts⟩ | ⟨failure, rejects⟩
  · obtain ⟨common, result, isCommon, intersected, rfl⟩ :=
      intersection_of_accepts positive files named accepts
    simp only [run, intersected, Transcript.after, Transcript.done,
      List.append_nil, funext outputLine_eq]
    exact .common accepts isCommon
  · have stopped := intersection_of_rejectsFirst positive files rejects
    have complains := rejects.complains
    have code : Transcript.failureCode failure = 1 := by
      cases failure with
      | fault cause => exact absurd rfl (complains cause)
      | argument cause => rfl
      | format cause => rfl
      | read cause => rfl
    simp only [run, stopped, Transcript.failed, code]
    exact .complaint rejects (reports_failureLine complains)

end Runs

/-- The algorithm, the number of skip pointers and the threshold do not show:
runs on the same files end with the same code and print the same results, and
if a file is refused, both fail for the reason why the first such file is and
end with the line that reports it. -/
theorem run_independent_of_method {first second : Settings}
    (named : first.files ≠ []) (sameFiles : second.files = first.files)
    (sameKind : second.compressed = first.compressed)
    (firstPositive : 1 ≤ first.skipPointers)
    (secondPositive : 1 ≤ second.skipPointers)
    (firstFilter secondFilter : Option Filter) (files : Files) :
    Answers files first.compressed first.files
        (run first firstFilter files) ∧
      Answers files first.compressed first.files
        (run second secondFilter files) ∧
      (run first firstFilter files).code =
        (run second secondFilter files).code ∧
      (run first firstFilter files).results =
        (run second secondFilter files).results ∧
      ∀ failure, files.RejectsFirst first.compressed first.files failure →
        (intersection first files).outcome = .error failure ∧
          (intersection second files).outcome = .error failure ∧
          ∃ line, Reports failure line ∧
            (run first firstFilter files).messages.getLast? = some line ∧
            (run second secondFilter files).messages.getLast? = some line := by
  have firstAnswers := run_answers firstPositive files named firstFilter
  have secondAnswers := run_answers secondPositive files
    (sameFiles ▸ named) secondFilter
  rw [sameFiles, sameKind] at secondAnswers
  obtain ⟨sameCode, sameResults⟩ := firstAnswers.unique secondAnswers
  refine ⟨firstAnswers, secondAnswers, sameCode, sameResults, ?_⟩
  intro failure rejects
  have secondRejects : files.RejectsFirst second.compressed second.files
      failure := by
    rwa [sameFiles, sameKind]
  have reports := reports_failureLine rejects.complains
  exact ⟨intersection_of_rejectsFirst firstPositive files rejects,
    intersection_of_rejectsFirst secondPositive files secondRejects,
    _, reports, firstAnswers.getLast_messages rejects reports,
    secondAnswers.getLast_messages rejects reports⟩

/-- Two files with one id in common and a file that announces more postings
than it has, all of them plain, and no other files. -/
def sampleFiles : Files where
  entry
    | "left" => .ok (.file [50, 10, 51, 32, 53, 10, 56, 32, 49, 10])
    | "right" => .ok (.file [50, 10, 51, 32, 45, 55, 10, 57, 32, 50])
    | "short" => .ok (.file [50, 10, 49, 32, 49, 10])
    | _ => .error .notFound
  decode _ := [.failure .unknownFrame]

def sampleClosing (paths : List String) : Settings :=
  { Settings.forFiles paths with algorithm := .sentinel }

/-- Intersect by way of skip pointers, one in each list. -/
def sampleSkipping (paths : List String) : Settings :=
  { Settings.forFiles paths with
    algorithm := .skipPointers
    skipPointers := 1 }

/-- The two kinds of runs agree on two good files, on a missing file before a
short one, and on a short file before a missing one. -/
theorem run_independent_of_method_sample :
    (run (sampleClosing ["left", "right"]) none sampleFiles).results =
        ["3\t-2"] ∧
      (run (sampleSkipping ["left", "right"]) none sampleFiles).results =
        ["3\t-2"] ∧
      (run (sampleSkipping ["right", "absent", "short"]) none
        sampleFiles).messages.getLast? =
        some ("Error: Postmerge(InvalidArgument(InvalidArgumentError \x7b " ++
          "arg: \"path\", msg: \"Failed to open posting list file absent: " ++
          "No such file or directory (os error 2)\" \x7d))\n") ∧
      (run (sampleSkipping ["right", "short", "absent"]) none
        sampleFiles).messages.getLast? =
        some ("Error: Postmerge(InvalidFormat(InvalidFormatError \x7b " ++
          "arg: \"rdr\", msg: \"expected 2 postings, found 1\" \x7d))\n") ∧
      (intersection (sampleSkipping ["right", "short", "absent"])
        sampleFiles).outcome = .error (.format (.missingPosting 2 1)) := by
  have printed : (run (sampleClosing ["left", "right"]) none
      sampleFiles).results = ["3\t-2"] := by
    decide +kernel
  have same (paths : List String) (named : paths ≠ []) :=
    @run_independent_of_method (sampleClosing paths) (sampleSkipping paths)
      named rfl rfl (by simp [sampleClosing, Settings.forFiles])
      (Nat.le_refl 1) none none sampleFiles
  obtain ⟨_, _, _, sameResults, _⟩ := same ["left", "right"] (by decide)
  obtain ⟨_, _, _, _, absentFirst⟩ :=
    same ["right", "absent", "short"] (by decide)
  obtain ⟨_, _, line, reports, _, missing⟩ :=
    absentFirst (.argument (.cannotOpen "absent" .notFound))
      (.there ⟨_, rfl, rfl⟩ (.here rfl))
  obtain ⟨_, _, _, _, shortFirst⟩ :=
    same ["right", "short", "absent"] (by decide)
  obtain ⟨_, stopped, short, shortReports, _, incomplete⟩ :=
    shortFirst (.format (.missingPosting 2 1))
      (.there ⟨_, rfl, rfl⟩ (.here rfl))
  refine ⟨printed, sameResults ▸ printed, ?_, ?_, stopped⟩
  · cases reports
    rw [missing, Text.quote_of_isPlain (by decide +kernel),
      Text.quote_of_isPlain (by decide +kernel)]
    decide +kernel
  · cases shortReports
    rw [incomplete, Text.quote_of_isPlain (by decide +kernel)]
    decide +kernel

end IntersectCommand

end Postings
