import Recolour.Command.Run
import Recolour.Proofs.Answer

/-!
# Reporting

An action that does nothing but report always succeeds, and what reports come from one after
another is one report.  The lines of a program that are rejected or skipped are reported so.
-/

namespace Recolour

open Command

/-- The session with one more report. -/
def Session.reporting (session : Session) (text : String) : Session :=
  { session with reports := session.reports ++ text }

namespace Session

variable {α : Type}

theorem reporting_reporting (session : Session) (text more : String) :
  (session.reporting text).reporting more = session.reporting (text ++ more)
  := by
  simp only [reporting, String.append_assoc]

theorem reporting_empty (session : Session) :
  session.reporting "" = session
  := by
  simp only [reporting, String.append_empty]

/-- Actions that report one after another report their texts one after another. -/
theorem run_forM_reporting {f : α → Action Unit} {text : α → String}
    (hf : ∀ a session, (f a).run.run session = (.ok (), session.reporting (text a)))
    (xs : List α) (session : Session) :
  (xs.forM f).run.run session = (.ok (), session.reporting (String.join (xs.map text)))
  := by
  induction xs generalizing session with
  | nil =>
    rw [List.map_nil, String.join_nil, session.reporting_empty]
    rfl
  | cons a xs ih =>
    rw [List.map_cons, String.join_cons, ← session.reporting_reporting]
    apply run_bind_eq_ok_iff.mpr
    exact ⟨(), session.reporting (text a), hf a session, ih _⟩

end Session

theorem OnlyReads.of_reporting {x : Session.Action Unit} {text : String}
    (h : ∀ session, x.run.run session = (.ok (), session.reporting text)) :
  OnlyReads x.run
  := by
  apply of_forall fun _ _ _ => .ok ()
  intro session
  rw [h]
  exact ⟨rfl, rfl, rfl, rfl⟩

/-! ### Reports before a run -/

/-- The report about a line that is rejected. -/
def Line.refusal (t : Terminal) (line : Line) : String :=
  line.error?.elim "" fun error =>
    t.diagnostic "warning" error.code false line.location error.message error.help

/-- The report about a number of lines to skip. -/
def Program.skipping (skipped : Nat) (t : Terminal) : String :=
  if 0 < skipped then
    t.statusLine .warning "Skipping" (plural skipped "line" "lines" ++ " without 8 tokens")
  else ""

/-- What is reported about the lines of a program. -/
def Program.remarks (p : Program) (t : Terminal) : String :=
  String.join (p.lines.map (Line.refusal t)) ++ skipping (p.lines.countP Line.isSkipped) t

theorem run_reportLines (p : Program) (session : Session) :
  (reportLines p : Session.Action Unit).run.run session =
    (.ok (), session.reporting (p.remarks ⟨false⟩))
  := by
  rw [Program.remarks, Program.skipping, ← session.reporting_reporting]
  apply run_bind_eq_ok_iff.mpr
  refine ⟨(), session.reporting (String.join (p.lines.map (Line.refusal ⟨false⟩))), ?_, ?_⟩
  · apply Session.run_forM_reporting
    intro line session
    rw [Line.refusal]
    cases line.error? with
    | none =>
      rw [Option.elim_none, session.reporting_empty]
      rfl
    | some error => rfl
  · by_cases hskipped : 0 < p.lines.countP Line.isSkipped
    · simp only [if_pos hskipped]
      rfl
    · simp only [if_neg hskipped, Session.reporting_empty]
      rfl

end Recolour
