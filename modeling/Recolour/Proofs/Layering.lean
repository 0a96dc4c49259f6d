import Recolour.Command.Run
import Recolour.Proofs.EncoderOptions
import Recolour.Proofs.Presets

/-!
# Options over options

The encoder options of a run are those of its settings, with its own written over them.  This is
what it would do without options of its own, if the settings had them behind a semicolon at the end
of theirs.
-/

namespace Recolour

open Command

namespace Command.Run

variable {m : Type → Type} [Host m] {settings : Settings} {text : String}

theorem job_options (run : Run) (library : Library) (program : Program) :
  { run with options := some text }.job library settings program =
    { run with options := none }.job library
      { settings with options := settings.options ++ ";" ++ text } program
  := by
  simp only [job, Settings.encoderOptions, EncoderOptions.parse_append]

theorem executeUnder_options (library : Library) (run : Run) :
  ({ run with options := some text }.executeUnder library settings : ExceptT Error m Unit) =
    { run with options := none }.executeUnder library
      { settings with options := settings.options ++ ";" ++ text }
  := by
  have hprogram : (run.recipe.program { settings with options := settings.options ++ ";" ++ text } :
      ExceptT Error m Program) = run.recipe.program settings :=
    Recipe.program_congr (fun _ => rfl) run.recipe
  rw [executeUnder, executeUnder, hprogram]
  simp only [carryOut, job_options]
  rfl

end Command.Run

/-- Texts joined by a semicolon spell the options of the first with those of the second merged into
them, and the value of a key is the one that the last piece for it gives.  So a run with options of
its own does what it does without them under settings that have them behind their own. -/
theorem EncoderOptions.parse_composes :
  (∀ first second : String, parse (first ++ ";" ++ second) = (parse first).merge (parse second))
    ∧ (∀ text key value, (parse text).get? key = some value ↔
      ∃ before piece after, text.toList.splitOn ';' = before ++ piece :: after
        ∧ Gives piece key value ∧ ∀ later ∈ after, ∀ other, ¬Gives later key other)
    ∧ (∀ text key, (parse text).get? key = none ↔
      ∀ piece ∈ text.toList.splitOn ';', ∀ value, ¬Gives piece key value)
    ∧ (∀ (m : Type → Type) [Host m] (library : Library) (run : Run),
      (run.execute library : ExceptT Error m Unit) =
          Settings.discover library run.settings >>= run.executeUnder library
        ∧ ∀ settings text,
          ({ run with options := some text }.executeUnder library settings :
            ExceptT Error m Unit) =
            { run with options := none }.executeUnder library
              { settings with options := settings.options ++ ";" ++ text })
  := by
  refine ⟨parse_append, ?_, ?_, ?_⟩
  · intro text key value
    exact get?_parse_eq_some_iff
  · intro text key
    exact get?_parse_eq_none_iff
  · intro m _ library run
    use rfl
    intro settings text
    exact run.executeUnder_options library

end Recolour
