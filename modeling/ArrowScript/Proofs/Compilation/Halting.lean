import ArrowScript.Compilation
import ArrowScript.Proofs.Analysis.Programs

/-!
# Where a compilation halts

`Stage.reports` is what a stage reports on its own, about what the stages before it have made of a source. A
compilation gives a program exactly if no stage reports anything, and otherwise halts with the reports of the
first stage that has any, as they are. The log that is written on the way has no part in it, and as the analysis
of a parsed source ends without a fault, there is no other way to fail.
-/

namespace ArrowScript
open Token Grammar Analysis

/-! ## Stages on their own -/

namespace Stage

/-- What a stage reports about what the stages before it make of a source. -/
def reports (file source : String) : Stage → List Diagnostic
  | lex => (scan file source).diagnostics
  | parse => (Grammar.parse (scan file source).tokens).diagnostics
  | analyze => (Analysis.analyze .initial (Grammar.parse (scan file source).tokens).program).diagnostics

/-- The stages that are run before a stage. -/
def earlier : Stage → List Stage
  | lex => []
  | parse => [lex]
  | analyze => [lex, parse]

/-- The kind of what a stage reports. -/
def kind : Stage → Diagnostic.Kind
  | lex => .lexical
  | parse => .syntactic
  | analyze => .semantic

/-- A stage reports diagnostics of its own kind only. -/
lemma kind_of_mem_reports {file source : String} (stage : Stage) {diagnostic : Diagnostic}
    (mem : diagnostic ∈ stage.reports file source) : diagnostic.kind = stage.kind := by
  cases stage with
  | lex | parse | analyze =>
    obtain ⟨finding, -, rfl⟩ := List.mem_map.mp mem
    rfl

end Stage

/-! ## Runs with a log -/

namespace Compilation

variable {α β : Type} {run : Run α} {next : Unit → Run α} {result : Except Failure α}

/-- The result of a run, whatever was logged before. -/
def Results (run : Run α) (result : Except Failure α) : Prop :=
  ∀ log, (run.run.run log).1 = result

namespace Results

/-- A value on its own. -/
lemma pure (value : α) : Results (Pure.pure value) (.ok value) :=
  fun _ => rfl

/-- Logging has no part in the result. -/
lemma log (wanted : Bool) (text : String) (h : Results (next ()) result) :
    Results (Compilation.log wanted text >>= next) result := by
  intro before
  cases wanted with
  | true => exact h (before ++ text)
  | false => exact h before

/-- A stage without reports does not halt. -/
lemma goOn {stage : Stage} {diagnostics : List Diagnostic} (none : diagnostics = [])
    (h : Results (next ()) result) : Results (haltOn stage diagnostics >>= next) result := by
  subst none
  exact h

/-- A stage with reports halts with them. -/
lemma halt {stage : Stage} {diagnostics : List Diagnostic} (some : diagnostics ≠ []) :
    Results (haltOn stage diagnostics >>= next) (.error (.halted stage diagnostics)) := by
  cases diagnostics with
  | nil => exact absurd rfl some
  | cons first rest => exact fun _ => rfl

end Results

end Compilation

/-! ## Halting -/

open Compilation in
/-- A compilation halts with the reports of the first stage that has any. -/
lemma compile_eq (file source : String) (options : LogOptions) : (compile file source options).1 =
    if Stage.lex.reports file source ≠ [] then .error (.halted .lex (Stage.lex.reports file source))
    else if Stage.parse.reports file source ≠ [] then .error (.halted .parse (Stage.parse.reports file source))
    else if Stage.analyze.reports file source ≠ [] then
      .error (.halted .analyze (Stage.analyze.reports file source))
    else
      let analyzed := analyze .initial (parse (scan file source).tokens).program
      .ok ⟨analyzed.program, analyzed.state⟩ := by
  suffices Results (stages file source options) _ from this ""
  refine .log _ _ ?_
  by_cases scanned : Stage.lex.reports file source = []
  · rw [if_neg (not_not.mpr scanned)]
    refine .goOn scanned (.log _ _ ?_)
    by_cases parsed : Stage.parse.reports file source = []
    · rw [if_neg (not_not.mpr parsed)]
      refine .goOn parsed (.log _ _ ?_)
      -- The analysis of a parsed source has no fault, so only its reports are left to halt on.
      have settled := parse_settles fun token (mem : token ∈ (scan file source).tokens) => file_of_mem_scan mem
      simp only [settled.fault]
      refine .log _ _ ?_
      by_cases analyzed : Stage.analyze.reports file source = []
      · rw [if_neg (not_not.mpr analyzed)]
        exact .goOn analyzed (.pure _)
      · rw [if_pos analyzed]
        exact .halt analyzed
    · rw [if_pos parsed]
      exact .halt parsed
  · rw [if_pos scanned]
    exact .halt scanned

/-- If a compilation gives a result no stage reports anything, and the result is what the analysis gives. -/
lemma compile_ok {file source : String} {options : LogOptions} {result : Compilation}
    (compiled : (compile file source options).1 = .ok result) :
    (∀ stage : Stage, stage.reports file source = []) ∧
      let analyzed := analyze .initial (parse (scan file source).tokens).program
      result = ⟨analyzed.program, analyzed.state⟩ := by
  rw [compile_eq] at compiled
  split at compiled
  · cases compiled
  split at compiled
  · cases compiled
  split at compiled
  · cases compiled
  · next scanned parsed analyzed =>
    refine ⟨fun stage => ?_, (Except.ok.inj compiled).symm⟩
    cases stage with
    | lex => exact not_not.mp scanned
    | parse => exact not_not.mp parsed
    | analyze => exact not_not.mp analyzed

/-- A compilation gives the analyzed program exactly if no stage reports anything on its own. Otherwise it halts
at the first stage that does, with what this stage reports on its own; there is no other failure. -/
theorem compile_halts_at_first_report (file source : String) (options : LogOptions) :
    ((∃ result, (compile file source options).1 = .ok result) ↔ ∀ stage : Stage, stage.reports file source = []) ∧
    (∀ result, (compile file source options).1 = .ok result →
      let analyzed := analyze .initial (parse (scan file source).tokens).program
      result = ⟨analyzed.program, analyzed.state⟩) ∧
    ∀ failure, (compile file source options).1 = .error failure → ∃ stage : Stage,
      failure = .halted stage (stage.reports file source) ∧ stage.reports file source ≠ [] ∧
        (∀ before ∈ stage.earlier, before.reports file source = []) ∧
        ∀ diagnostic ∈ stage.reports file source, diagnostic.kind = stage.kind := by
  have kinds (stage : Stage) (diagnostic : Diagnostic) (mem : diagnostic ∈ stage.reports file source) :=
    stage.kind_of_mem_reports mem
  refine ⟨⟨fun ⟨_, compiled⟩ => (compile_ok compiled).1, fun none => ?_⟩,
    fun result compiled => (compile_ok compiled).2, fun failure e => ?_⟩
  · rw [compile_eq, if_neg (not_not.mpr (none .lex)), if_neg (not_not.mpr (none .parse)),
      if_neg (not_not.mpr (none .analyze))]
    exact ⟨_, rfl⟩
  · rw [compile_eq] at e
    split at e
    · next scanned =>
      cases e
      exact ⟨.lex, rfl, scanned, nofun, kinds _⟩
    split at e
    · next scanned parsed =>
      cases e
      exact ⟨.parse, rfl, parsed, by simpa [Stage.earlier] using scanned, kinds _⟩
    split at e
    · next scanned parsed analyzed =>
      cases e
      have earlier := And.intro (not_not.mp scanned) (not_not.mp parsed)
      exact ⟨.analyze, rfl, analyzed, by simpa [Stage.earlier] using earlier, kinds _⟩
    · cases e

/-- Two statements on a line are tokens like any others, but not a program, and the analysis is not asked. -/
theorem compile_halts_at_first_report_shared_line :
    let source := "break break\n"
    Stage.lex.reports "a" source = [] ∧
      (Stage.parse.reports "a" source).map Diagnostic.message = ["Statements must end with a new line."] ∧
      (compile "a" source .quiet).1 = .error (.halted .parse (Stage.parse.reports "a" source)) := by
  intro source
  have scanned : Stage.lex.reports "a" source = [] := by decide +kernel
  have parsed : (Stage.parse.reports "a" source).map Diagnostic.message =
      ["Statements must end with a new line."] := by decide +kernel
  have reported : Stage.parse.reports "a" source ≠ [] := fun none => by simp [none] at parsed
  refine ⟨scanned, parsed, ?_⟩
  obtain ⟨succeeds, -, fails⟩ := compile_halts_at_first_report "a" source .quiet
  cases e : (compile "a" source .quiet).1 with
  | ok result => exact absurd (succeeds.mp ⟨result, e⟩ .parse) reported
  | error failure =>
    obtain ⟨stage, rfl, some, none, -⟩ := fails failure e
    cases stage with
    | lex => exact absurd scanned some
    | parse => rfl
    | analyze => exact absurd (none .parse (by simp [Stage.earlier])) reported

end ArrowScript
