import Mathlib.Algebra.BigOperators.Fin
import Postings.Command.Benchmark
import Postings.Proofs.Input.Loading

/-!
# The counts of the benchmark program

A round meets every pair of lists once.  So it counts, for each pair of
positions, the ids that the two files share, whatever the algorithm is and
in whatever order the files are named.
-/

namespace Postings

namespace BenchmarkCommand

/-! ## The number of matches -/

/-- The number of ids that two runs share. -/
def sharedCount (left right : List Posting) : Nat :=
  ((left.map Posting.id).toFinset ∩ (right.map Posting.id).toFinset).card

/-- The ids that two runs share, counted for every pair of positions. -/
def matchTotal (runs : List (List Posting)) : Nat :=
  ∑ pair : Fin runs.length × Fin runs.length with pair.1 < pair.2,
    sharedCount (runs.get pair.1) (runs.get pair.2)

theorem sharedCount_comm (left right : List Posting) :
    sharedCount left right = sharedCount right left := by
  rw [sharedCount, sharedCount, Finset.inter_comm]

/-- The pairs of the first run come on top of those of the others. -/
theorem matchTotal_cons (run : List Posting) (runs : List (List Posting)) :
    matchTotal (run :: runs) =
      (runs.map (sharedCount run)).sum + matchTotal runs := by
  simp only [matchTotal, Finset.sum_filter, Fintype.sum_prod_type,
    List.length_cons]
  rw [Fin.sum_univ_succ]
  simp [Fin.sum_univ_succ]

theorem matchTotal_perm {runs permuted : List (List Posting)}
    (permutation : permuted.Perm runs) :
    matchTotal permuted = matchTotal runs := by
  induction permutation with
  | nil => rfl
  | cons run permutation ih =>
      rw [matchTotal_cons, matchTotal_cons, ih,
        (permutation.map (sharedCount run)).sum_eq]
  | swap first second runs =>
      simp only [matchTotal_cons, List.map_cons, List.sum_cons,
        sharedCount_comm second first]
      omega
  | trans _ _ firstSame secondSame => exact firstSame.trans secondSame

theorem length_reference {left right : List Posting}
    (leftIncreasing : Increasing left) (rightIncreasing : Increasing right) :
    (reference left right).length = sharedCount left right := by
  have distinct : ((reference left right).map Posting.id).Nodup := by
    rw [List.Nodup, List.pairwise_map]
    apply (reference_increasing leftIncreasing right).imp
    intro first second below
    exact Int64.ne_of_lt below
  have sameIds : ((reference left right).map Posting.id).toFinset =
      (left.map Posting.id).toFinset ∩ (right.map Posting.id).toFinset := by
    ext id
    simp only [List.mem_toFinset, Finset.mem_inter, List.mem_map]
    constructor
    · rintro ⟨posting, member, rfl⟩
      obtain ⟨first, firstMember, second, secondMember, firstId, secondId,
        _⟩ := (mem_reference rightIncreasing posting).mp member
      exact ⟨⟨first, firstMember, firstId.symm⟩,
        ⟨second, secondMember, secondId.symm⟩⟩
    · rintro ⟨⟨first, firstMember, rfl⟩, ⟨second, secondMember, sameId⟩⟩
      refine ⟨first.combine second, ?_, rfl⟩
      exact (mem_reference rightIncreasing _).mpr
        ⟨first, firstMember, second, secondMember, rfl, sameId.symm, rfl⟩
  rw [sharedCount, ← sameIds, List.toFinset_card_of_nodup distinct,
    List.length_map]

/-! ## Rounds -/

section Rounds

variable {algorithm : Algorithm}

theorem intersect_each {list : PostingList} {run : List Posting}
    {earlier : List PostingList} {earlierRuns : List (List Posting)}
    (arranged : Intersection.Arranged algorithm list run)
    (earlierArranged : List.Forall₂ (Intersection.Arranged algorithm) earlier
      earlierRuns) :
    ∃ results,
      (earlier.mapM (algorithm.intersect list)).outcome = .ok results ∧
      results.map PostingList.size = earlierRuns.map (sharedCount run) := by
  have each : List.Forall₂ (fun other others =>
      ∃ result, (algorithm.intersect list other).outcome = .ok result ∧
        result.size = sharedCount run others) earlier earlierRuns := by
    apply earlierArranged.imp
    intro other others otherArranged
    refine ⟨_, arranged.intersect_outcome otherArranged, ?_⟩
    rw [← length_reference arranged.increasing otherArranged.increasing]
    simp [PostingList.bare, PostingList.size]
  obtain ⟨results, intersected, sizes⟩ :=
    Traced.outcome_mapM_of_forall₂ each
  refine ⟨results, intersected, ?_⟩
  rw [← List.forall₂_eq_eq_eq, List.forall₂_map_left_iff,
    List.forall₂_map_right_iff]
  exact sizes

theorem round_cons (algorithm : Algorithm) (earlier : List PostingList)
    (list : PostingList) (lists : List PostingList) :
    round algorithm earlier (list :: lists) =
      earlier.mapM (algorithm.intersect list) >>= fun results =>
        round algorithm (earlier ++ [list]) lists >>= fun later =>
          pure ((results.map PostingList.size).sum + later) := rfl

/-- A round counts what the runs share with those before them and with each
other. -/
theorem round_outcome {earlier lists : List PostingList}
    {earlierRuns runs : List (List Posting)}
    (earlierArranged : List.Forall₂ (Intersection.Arranged algorithm) earlier
      earlierRuns)
    (arranged : List.Forall₂ (Intersection.Arranged algorithm) lists runs) :
    (round algorithm earlier lists).outcome =
      .ok ((runs.map fun run =>
        (earlierRuns.map (sharedCount run)).sum).sum + matchTotal runs) := by
  induction arranged generalizing earlier earlierRuns with
  | nil => rfl
  | cons first _ ih =>
      rename_i list run lists runs _
      obtain ⟨results, intersected, sizes⟩ :=
        intersect_each first earlierArranged
      have later := ih (List.rel_append earlierArranged (.cons first .nil))
      have turned : runs.map (sharedCount run) =
          runs.map fun other => sharedCount other run := by
        apply List.map_congr_left
        intro other _
        exact sharedCount_comm run other
      rw [round_cons, Traced.outcome_bind_of_ok intersected,
        Traced.outcome_bind_of_ok later, sizes, matchTotal_cons, turned]
      simp only [List.map_append, List.map_cons, List.map_nil,
        List.sum_append, List.sum_cons, List.sum_nil, List.sum_map_add,
        Traced.outcome_pure, Nat.add_zero, Nat.add_assoc]

end Rounds

/-! ## Whole runs -/

section Runs

variable {settings : Settings} (positive : 1 ≤ settings.skipPointers)
variable {files : Files} {runs : List (List Posting)}
variable (accepts : List.Forall₂ (files.Accepts settings.compressed)
  settings.files runs)

include positive accepts

theorem stage_outcome (algorithm : Algorithm) :
    (stage settings files algorithm).outcome =
      .ok { algorithm, matchCount := matchTotal runs } := by
  obtain ⟨lists, loaded, arranged⟩ := Files.outcome_mapM_of_accepts accepts
    algorithm positive (fun _ => rfl)
  have loadedAll : (loadAll settings files algorithm).outcome = .ok lists :=
    loaded
  have counted : (round algorithm [] lists).outcome =
      .ok (matchTotal runs) := by
    simpa using round_outcome .nil arranged
  rw [stage, Traced.outcome_bind_of_ok loadedAll,
    Traced.outcome_report_bind, Traced.outcome_bind_of_ok counted]
  rfl

theorem stages_of_accepts (filter : Filter) (time : Algorithm → String)
    (algorithms : List Algorithm) :
    (stages settings filter files time algorithms).code = 0 ∧
      (stages settings filter files time algorithms).results =
        algorithms.map fun algorithm =>
          Row.render (time algorithm)
            { algorithm, matchCount := matchTotal runs } := by
  induction algorithms with
  | nil => exact ⟨rfl, rfl⟩
  | cons algorithm algorithms ih =>
      obtain ⟨code, results⟩ := ih
      simp only [stages, stage_outcome positive accepts algorithm,
        Transcript.after, code, results, List.map_cons,
        List.singleton_append, and_self]

theorem run_of_accepts (repeats : 1 ≤ settings.iterations)
    (requested : Option Filter) (time : Algorithm → String) :
    (run settings requested files time).code = 0 ∧
      (run settings requested files time).results =
        Algorithm.all.map fun algorithm =>
          Row.render (time algorithm)
            { algorithm, matchCount := matchTotal runs } := by
  rw [run, if_neg (by omega)]
  exact stages_of_accepts positive accepts _ time Algorithm.all

end Runs

/-- The seven rows for the measured times and one count: the name of the
algorithm in sixteen columns and a space, then the time and the count. -/
def printedRows (time : Algorithm → String) (count : Nat) : List String :=
  [row "basic            " .basic,
   row "less-conditional " .lessConditional,
   row "sentinel         " .sentinel,
   row "binary-search    " .binarySearch,
   row "galloping        " .galloping,
   row "skip-pointers    " .skipPointers,
   row "hybrid           " (.hybrid 20)]
where
  row (front : String) (algorithm : Algorithm) : String :=
    front ++ time algorithm ++ " per round (" ++ toString count ++ " matches)"

theorem render_eq_row {front : String} {algorithm : Algorithm}
    (padded : Text.column 16 algorithm.name ++ " " = front)
    (time : Algorithm → String) (count : Nat) :
    Row.render (time algorithm) { algorithm, matchCount := count } =
      printedRows.row time count front algorithm := by
  rw [Row.render, padded, printedRows.row]

theorem render_all (time : Algorithm → String) (count : Nat) :
    (Algorithm.all.map fun algorithm =>
      Row.render (time algorithm) { algorithm, matchCount := count }) =
      printedRows time count := by
  simp only [Algorithm.all, Algorithm.defaultThreshold, List.map_cons,
    List.map_nil, printedRows]
  rw [render_eq_row (by decide : _ = "basic            "),
    render_eq_row (by decide : _ = "less-conditional "),
    render_eq_row (by decide : _ = "sentinel         "),
    render_eq_row (by decide : _ = "binary-search    "),
    render_eq_row (by decide : _ = "galloping        "),
    render_eq_row (by decide : _ = "skip-pointers    "),
    render_eq_row (by decide : _ = "hybrid           ")]

/-- The program prints the seven rows, and all of them give the number of ids
that two files share, summed up over the pairs of files; so the order of the
files does not matter. -/
theorem run_counts_shared_ids {settings : Settings}
    (repeats : 1 ≤ settings.iterations)
    (positive : 1 ≤ settings.skipPointers) {files : Files}
    {runs : List (List Posting)}
    (accepts : List.Forall₂ (files.Accepts settings.compressed)
      settings.files runs)
    (requested : Option Filter) (time : Algorithm → String) :
    (run settings requested files time).code = 0 ∧
      (run settings requested files time).results =
        printedRows time (matchTotal runs) ∧
      ∀ permuted : List String, permuted.Perm settings.files →
        (run { settings with files := permuted } requested files time).code =
            0 ∧
          (run { settings with files := permuted } requested files
            time).results = printedRows time (matchTotal runs) := by
  obtain ⟨code, results⟩ :=
    run_of_accepts positive accepts repeats requested time
  refine ⟨code, results.trans (render_all time _), ?_⟩
  intro permuted permutation
  obtain ⟨permutedRuns, permutedAccepts, sameRuns⟩ :=
    List.perm_comp_forall₂ permutation accepts
  obtain ⟨permutedCode, permutedResults⟩ :=
    @run_of_accepts { settings with files := permuted } positive files
      permutedRuns permutedAccepts repeats requested time
  refine ⟨permutedCode, ?_⟩
  rw [permutedResults, render_all, matchTotal_perm sameRuns]

/-- Three files; the pairs of them share two ids, one id and two ids.  None of
them is compressed. -/
def threeFiles : Files where
  entry
    | "first" => .ok (.file [50, 10, 51, 32, 53, 10, 56, 32, 49])
    | "second" =>
        .ok (.file [51, 10, 51, 32, 49, 10, 56, 32, 48, 10, 57, 32, 50])
    | "third" => .ok (.file [50, 10, 56, 32, 49, 10, 57, 32, 52])
    | _ => .error .notFound
  decode _ := [.failure .unknownFrame]

def threeRuns : List (List Posting) :=
  [[⟨3, 5⟩, ⟨8, 1⟩], [⟨3, 1⟩, ⟨8, 0⟩, ⟨9, 2⟩], [⟨8, 1⟩, ⟨9, 4⟩]]

def fiveMatches : List String :=
  ["basic            1ms per round (5 matches)",
   "less-conditional 1ms per round (5 matches)",
   "sentinel         1ms per round (5 matches)",
   "binary-search    1ms per round (5 matches)",
   "galloping        1ms per round (5 matches)",
   "skip-pointers    1ms per round (5 matches)",
   "hybrid           1ms per round (5 matches)"]

theorem run_counts_shared_ids_sample :
    (run (Settings.forFiles ["first", "second", "third"]) none threeFiles
        fun _ => "1ms").results = fiveMatches ∧
      (run (Settings.forFiles ["third", "first", "second"]) none threeFiles
        fun _ => "1ms").results = fiveMatches := by
  have accepts : List.Forall₂ (threeFiles.Accepts false)
      ["first", "second", "third"] threeRuns :=
    .cons ⟨_, rfl, rfl⟩ (.cons ⟨_, rfl, rfl⟩ (.cons ⟨_, rfl, rfl⟩ .nil))
  have total : matchTotal threeRuns = 5 := by
    decide +kernel
  have literal : printedRows (fun _ => "1ms") 5 = fiveMatches := by
    decide +kernel
  obtain ⟨_, results, inAnyOrder⟩ := @run_counts_shared_ids
    (Settings.forFiles ["first", "second", "third"]) (by decide) (by decide)
    threeFiles threeRuns accepts none fun _ => "1ms"
  have turned := (inAnyOrder ["third", "first", "second"] (by decide)).2
  rw [total, literal] at results turned
  exact ⟨results, turned⟩

end BenchmarkCommand

end Postings
