import FeatureRunner.Proofs.Run.Events
import Mathlib

/-!
# The views of a report agree

A report keeps results twice: in one list, in the order in which the steps ended, and step by step
in the records of the rows.  The records are in the order in which the rows began, and a
background begins inside the row that it runs in front of, so that the two orders differ.

What the views of a report have in common survives reordering and regrouping.  This file proves
that it is kept by every callback that the report has a place for: the results are those of the
recorded steps in some order.  From this it follows that lengths, summary and status are the same
whether they are taken from the results or from the records.
-/

namespace FeatureRunner

namespace Status

theorem worst_perm {statuses others : List Status} (same : statuses.Perm others) :
    worst statuses = worst others := by
  simp only [worst, same.mem_iff]

/-- The worst of a list is the worse of its first status and the worst of the rest. -/
theorem worst_cons (status : Status) (rest : List Status) :
    worst (status :: rest) = worst [status, worst rest] := by
  -- The worst of the rest is failing, undefined, pending or passing.
  by_cases failed : failing ∈ rest
  · cases status <;> simp [worst, failed]
  by_cases unknown : undefined ∈ rest
  · cases status <;> simp [worst, failed, unknown]
  by_cases waiting : pending ∈ rest
  · cases status <;> simp [worst, failed, unknown, waiting]
  · cases status <;> simp [worst, failed, unknown, waiting]

theorem worst_assoc (first second third : Status) :
    worst [worst [first, second], third] = worst [first, worst [second, third]] := by
  cases first <;> cases second <;> cases third <;> rfl

theorem worst_append (first second : List Status) :
    worst (first ++ second) = worst [worst first, worst second] := by
  induction first with
  | nil =>
      have neutral (status : Status) : worst [worst [], status] = status := by
        cases status <;> rfl
      exact (neutral _).symm
  | cons status rest ih =>
      rw [List.cons_append, worst_cons, ih, worst_cons status rest, worst_assoc]

theorem worst_eq_passing_iff {statuses : List Status} :
    worst statuses = passing ↔ ∀ status ∈ statuses, status = passing := by
  constructor
  · intro best status among
    unfold worst at best
    split at best
    · cases best
    · split at best
      · cases best
      · split at best
        · cases best
        · cases status with
          | passing => rfl
          | failing | pending | undefined => contradiction
  · intro all
    have absent {status : Status} (other : status ≠ passing) : status ∉ statuses :=
      fun among => other (all status among)
    rw [worst, if_neg (absent (by decide)), if_neg (absent (by decide)),
      if_neg (absent (by decide))]

/-- The worst of groups of statuses, empty ones included, is the worst of all of them. -/
theorem worst_flatMap {Part : Type} (statusesOf : Part → List Status) (parts : List Part) :
    worst (parts.flatMap statusesOf) = worst (parts.map fun part => worst (statusesOf part)) := by
  induction parts with
  | nil => rfl
  | cons part rest ih =>
      rw [List.flatMap_cons, worst_append, ih, List.map_cons]
      exact (worst_cons _ _).symm

end Status

/-- The results of the steps of a record. -/
def ScenarioRecord.results (record : ScenarioRecord) : List Result := record.steps.map (·.result)

namespace Report

/-- All recorded steps, record by record. -/
def steps (report : Report) : List StepRecord := report.records.flatMap (·.steps)

/-- The views of a report agree if its results are as many as its recorded steps, its summary
counts each status as often as it occurs among the recorded steps, once and only if it occurs, the
counts sum to the number of results, and its status is the worst of those of its records. -/
structure ViewsAgree (report : Report) : Prop where
  length_results : report.results.length = (report.records.map (·.steps.length)).sum
  mem_summary : ∀ status count, (status, count) ∈ report.summary ↔
    0 < count ∧ count = report.steps.countP fun step => step.result.status = status
  nodup_summary : (report.summary.map Prod.fst).Nodup
  sum_summary : (report.summary.map Prod.snd).sum = report.results.length
  status_eq : report.status = .worst (report.records.map ScenarioRecord.status)

/-- A report is sound if its open records are among its records, and its results are those of the
recorded steps in some order. -/
structure Sound (report : Report) : Prop where
  opened_lt : ∀ place ∈ report.opened, place < report.records.length
  results_perm : report.results.Perm (report.steps.map (·.result))

theorem empty_sound : empty.Sound where
  opened_lt := by simp [empty]
  results_perm := .nil

section Callbacks

variable {report after : Report}

theorem openRecord?_eq_some_iff {scenario : Scenario} {row : Record} {background : Bool} :
    report.openRecord? scenario row background = some after ↔
      ∃ feature earlier, report.features = feature :: earlier ∧ after = { report with
        records := report.records ++ [⟨earlier.length, scenario.name, row, background, []⟩]
        opened := report.records.length :: report.opened } := by
  unfold openRecord?
  cases report.features with
  | nil => simp
  | cons feature earlier => simp [eq_comm]

theorem closeRecord?_eq_some_iff :
    report.closeRecord? = some after ↔
      ∃ place others, report.opened = place :: others ∧
        after = { report with opened := others } := by
  unfold closeRecord?
  cases report.opened with
  | nil => simp
  | cons place others => simp [eq_comm]

theorem addStep?_eq_some_iff {step : StepRecord} :
    report.addStep? step = some after ↔
      ∃ place others, report.opened = place :: others ∧ after = { report with
        records := report.records.modify place fun record =>
          { record with steps := record.steps ++ [step] }
        results := report.results ++ [step.result] } := by
  unfold addStep?
  cases report.opened with
  | nil => simp
  | cons place others => simp [eq_comm]

theorem Sound.openRecord? (sound : report.Sound) {scenario : Scenario} {row : Record}
    {background : Bool} (told : report.openRecord? scenario row background = some after) :
    after.Sound := by
  obtain ⟨feature, earlier, -, rfl⟩ := openRecord?_eq_some_iff.mp told
  refine ⟨?_, ?_⟩
  · intro place opened
    rw [List.length_append, List.length_singleton]
    rcases List.mem_cons.mp opened with rfl | before
    · exact Nat.lt_succ_self _
    · exact Nat.lt_succ_of_lt (sound.opened_lt place before)
  · simpa [steps] using sound.results_perm

theorem Sound.closeRecord? (sound : report.Sound) (told : report.closeRecord? = some after) :
    after.Sound := by
  obtain ⟨place, others, opened, rfl⟩ := closeRecord?_eq_some_iff.mp told
  refine ⟨fun other among => sound.opened_lt other ?_, sound.results_perm⟩
  rw [opened]
  exact List.mem_cons_of_mem _ among

/-- A step added to one of the records is one more of all steps. -/
theorem steps_modify_perm {records : List ScenarioRecord} {place : Nat}
    (inside : place < records.length) (step : StepRecord) :
    ((records.modify place fun record => { record with steps := record.steps ++ [step] }).flatMap
      (·.steps)).Perm (records.flatMap (·.steps) ++ [step]) := by
  induction records generalizing place with
  | nil => exact absurd inside (Nat.not_lt_zero _)
  | cons record rest ih =>
      cases place with
      | zero =>
          simp only [List.modify_zero_cons, List.flatMap_cons, List.append_assoc]
          exact List.perm_append_comm.append_left record.steps
      | succ place =>
          simp only [List.modify_succ_cons, List.flatMap_cons, List.append_assoc]
          exact (ih (Nat.lt_of_succ_lt_succ inside)).append_left record.steps

theorem Sound.addStep? (sound : report.Sound) {step : StepRecord}
    (told : report.addStep? step = some after) : after.Sound := by
  obtain ⟨place, others, opened, rfl⟩ := addStep?_eq_some_iff.mp told
  refine ⟨?_, ?_⟩
  · intro other among
    rw [List.length_modify]
    exact sound.opened_lt other among
  · have inside : place < report.records.length := by
      apply sound.opened_lt
      rw [opened]
      exact List.mem_cons_self
    have added := (steps_modify_perm inside step).map (·.result)
    rw [List.map_append] at added
    exact (sound.results_perm.append_right _).trans added.symm

/-- Every callback that a report has a place for keeps it sound. -/
theorem Sound.told? (sound : report.Sound) {callback : Callback}
    (told : report.told? callback = some after) : after.Sound := by
  cases callback with
  | featureStarted =>
      cases told
      exact ⟨sound.opened_lt, sound.results_perm⟩
  | featureFinished | stepStarted =>
      cases told
      exact sound
  | scenarioStarted | backgroundStarted => exact sound.openRecord? told
  | scenarioFinished | backgroundFinished => exact sound.closeRecord? told
  | stepFinished => exact sound.addStep? told

end Callbacks

/-- The report after callbacks in order, if it has a place for all of them. -/
def toldAll? (report : Report) (callbacks : List Callback) : Option Report :=
  callbacks.foldlM told? report

@[simp]
theorem toldAll?_nil (report : Report) : report.toldAll? [] = some report :=
  rfl

@[simp]
theorem toldAll?_cons (report : Report) (callback : Callback) (rest : List Callback) :
    report.toldAll? (callback :: rest) = (report.told? callback).bind (·.toldAll? rest) :=
  List.foldlM_cons

theorem toldAll?_append (report : Report) (first second : List Callback) :
    report.toldAll? (first ++ second) = (report.toldAll? first).bind (·.toldAll? second) :=
  List.foldlM_append

/-- Callbacks that a report has a place for keep it sound. -/
theorem Sound.toldAll? {report after : Report} (sound : report.Sound)
    {callbacks : List Callback} (told : report.toldAll? callbacks = some after) :
    after.Sound := by
  induction callbacks generalizing report with
  | nil =>
      cases told
      exact sound
  | cons callback rest ih =>
      rw [toldAll?_cons] at told
      obtain ⟨between, here, later⟩ := Option.bind_eq_some_iff.mp told
      exact ih (sound.told? here) later

section Views

variable {report : Report}

theorem Sound.countP_status (sound : report.Sound) (status : Status) :
    (report.results.countP fun result => result.status = status) =
      report.steps.countP fun step => step.result.status = status := by
  rw [sound.results_perm.countP_eq, List.countP_map]
  rfl

theorem nodup_eraseDups (statuses : List Status) : statuses.eraseDups.Nodup := by
  cases statuses with
  | nil => exact List.nodup_nil
  | cons status rest =>
      rw [List.eraseDups_cons, List.nodup_cons]
      refine ⟨?_, nodup_eraseDups (rest.filter fun other => !other == status)⟩
      simp [List.mem_eraseDups]
termination_by statuses.length
decreasing_by exact Nat.lt_succ_of_le (List.length_filter_le _ _)

theorem map_fst_summary (report : Report) :
    report.summary.map Prod.fst = (report.results.map Result.status).eraseDups := by
  rw [summary, List.map_map]
  exact List.map_id _

theorem countP_status_eq_count (results : List Result) (status : Status) :
    (results.countP fun result => result.status = status) =
      (results.map Result.status).count status := by
  rw [List.count, List.countP_map]
  rfl

theorem sum_map_snd_summary (report : Report) :
    (report.summary.map Prod.snd).sum = report.results.length := by
  -- The library sums the counts over the list without its earlier duplicates, in another order.
  have reordered : (report.results.map Result.status).eraseDups.Perm
      (report.results.map Result.status).dedup := by
    rw [List.perm_ext_iff_of_nodup (nodup_eraseDups _) (List.nodup_dedup _)]
    intro status
    rw [List.mem_eraseDups, List.mem_dedup]
  calc (report.summary.map Prod.snd).sum
      = ((report.results.map Result.status).eraseDups.map fun status =>
          (report.results.map Result.status).count status).sum := by
        rw [summary, List.map_map]
        simp only [Function.comp_def, countP_status_eq_count]
    _ = ((report.results.map Result.status).dedup.map fun status =>
          (report.results.map Result.status).count status).sum := (reordered.map _).sum_eq
    _ = (report.results.map Result.status).length := List.sum_map_count_dedup_eq_length _
    _ = report.results.length := List.length_map ..

/-- The views of a sound report agree. -/
theorem Sound.viewsAgree (sound : report.Sound) : report.ViewsAgree where
  length_results := by
    rw [sound.results_perm.length_eq, List.length_map, steps, List.length_flatMap]
  mem_summary := by
    intro status count
    rw [← sound.countP_status, summary, List.mem_map]
    simp only [List.mem_eraseDups, Prod.mk.injEq]
    constructor
    · rintro ⟨_, occurs, rfl, rfl⟩
      obtain ⟨result, among, rfl⟩ := List.mem_map.mp occurs
      exact ⟨List.countP_pos_iff.mpr ⟨result, among, decide_eq_true rfl⟩, rfl⟩
    · rintro ⟨positive, rfl⟩
      obtain ⟨result, among, same⟩ := List.countP_pos_iff.mp positive
      exact ⟨status, List.mem_map.mpr ⟨result, among, of_decide_eq_true same⟩, rfl, rfl⟩
  nodup_summary := by
    rw [map_fst_summary]
    exact nodup_eraseDups _
  sum_summary := sum_map_snd_summary report
  status_eq := by
    have regrouped := Status.worst_flatMap (fun record : ScenarioRecord =>
      record.steps.map (·.result.status)) report.records
    rw [status, Status.worst_perm (sound.results_perm.map Result.status), List.map_map, steps,
      List.map_flatMap]
    exact regrouped

end Views

end Report

namespace Listener

/-- A listener with a report takes callbacks in as the report does. -/
theorem toldAll?_reporting (report : Report) (callbacks : List Callback) :
    (reporting report).toldAll? callbacks = (report.toldAll? callbacks).map reporting := by
  induction callbacks generalizing report with
  | nil => rfl
  | cons callback rest ih =>
      rw [toldAll?_cons, Report.toldAll?_cons, told?]
      cases report.told? callback with
      | none => rfl
      | some after => exact ih after

end Listener

end FeatureRunner
