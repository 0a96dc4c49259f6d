import Recolour.Command.Check
import Recolour.Proofs.Linting
import Recolour.Proofs.Recipe.Segments
import Recolour.Proofs.Reporting

/-!
# Lint, run and report count the same lines

The errors of a lint are about the lines that a run gives back as rejected, and its warnings
about token counts are as many as the lines that the run skips.  What is reported before a run
names just these lines.  So a check of map files fails exactly if a run of the program that the
files make has a rejected line.
-/

namespace Recolour

open Command

/-! ### Counting diagnostics -/

namespace Report

variable {r s : Report} {severity : Severity}

theorem count_empty (severity : Severity) :
  empty.count severity = 0
  := rfl

theorem count_append (r s : Report) (severity : Severity) :
  (r ++ s).count severity = r.count severity + s.count severity
  := List.countP_append

theorem count_sort (r : Report) (severity : Severity) :
  r.sort.count severity = r.count severity
  := (List.mergeSort_perm r.diagnostics _).countP_eq _

theorem has_iff_count_pos :
  r.has severity = true ↔ 0 < r.count severity
  := by
  rw [has, count, List.any_eq_true, List.countP_pos_iff]

/-- Every diagnostic is an error or a warning. -/
theorem count_add_count (r : Report) :
  r.count .error + r.count .warning = r.diagnostics.length
  := by
  have hwarning : ∀ d : Diagnostic, (d.severity == .warning) = decide ¬(d.severity == .error) := by
    intro d
    cases d.severity <;> rfl
  simp only [count, hwarning]
  exact (List.length_eq_countP_add_countP _).symm

end Report

/-! ### Remarks about a line -/

namespace Line

variable {line : Line} {d : Diagnostic}

/-- The error of a lint about a rejected line: the code, the wording and the hint are those of
the error of the line. -/
def diagnostic? (line : Line) : Option Diagnostic :=
  line.error?.map fun error =>
    ⟨.error, error.code, error.summary, error.help, line.source, line.number⟩

theorem rejection_eq_toList (line : Line) :
  line.rejection = line.diagnostic?.toList
  := by
  rw [rejection, diagnostic?]
  cases line.error? <;> rfl

theorem isSome_diagnostic? (line : Line) :
  line.diagnostic?.isSome = line.error?.isSome
  := Option.isSome_map

theorem length_tokenWarning (line : Line) :
  line.tokenWarning.length = if line.isSkipped then 1 else 0
  := by
  cases houtcome : line.outcome with
  | ignored tokens =>
    by_cases htokens : 0 < tokens <;> simp [tokenWarning, isSkipped, houtcome, htokens]
  | expression e => simp [tokenWarning, isSkipped, houtcome]
  | rejected error => simp [tokenWarning, isSkipped, houtcome]

end Line

/-! ### The lint of a program -/

namespace Program

variable {p : Program}

theorem forall_mem_rejections (p : Program) :
  ∀ d ∈ p.lines.flatMap Line.rejection, d.severity = .error ∧ d.code ≠ "imgmap::token-count"
  := by
  rw [List.forall_mem_flatMap]
  intro line _ d hd
  obtain ⟨error, rfl⟩ := Line.exists_of_mem_rejection hd
  use rfl
  cases error <;> simp [Error.code]

theorem forall_mem_tokenWarnings (p : Program) :
  ∀ d ∈ p.lines.flatMap Line.tokenWarning,
    d.severity = .warning ∧ d.code = "imgmap::token-count"
  := by
  rw [List.forall_mem_flatMap]
  intro line _ d hd
  obtain ⟨message, help, rfl⟩ := Line.exists_of_mem_tokenWarning hd
  exact ⟨rfl, rfl⟩

theorem forall_mem_unreachableWarnings (p : Program) :
  ∀ d ∈ p.lines.flatMap Line.unreachableWarnings,
    d.severity = .warning ∧ d.code = "imgmap::unreachable"
  := by
  rw [List.forall_mem_flatMap]
  intro line _ d hd
  obtain ⟨message, help, rfl⟩ := Line.exists_of_mem_unreachableWarnings hd
  exact ⟨rfl, rfl⟩

theorem forall_mem_identityWarnings (p : Program) :
  ∀ d ∈ p.lines.flatMap Line.identityWarning, d.severity = .warning ∧ d.code = "imgmap::identity"
  := by
  rw [List.forall_mem_flatMap]
  intro line _ d hd
  obtain ⟨message, help, rfl⟩ := Line.exists_of_mem_identityWarning hd
  exact ⟨rfl, rfl⟩

/-- The errors of a lint are those about the rejected lines. -/
theorem filter_error_lint (p : Program) :
  (p.lint.diagnostics.filter (·.severity == .error)).Perm (p.rejected.filterMap Line.diagnostic?)
  := by
  have hwarnings : ∀ {ds : List Diagnostic}, (∀ d ∈ ds, d.severity = .warning) →
      ds.filter (·.severity == .error) = [] := by
    intro ds h
    rw [List.filter_eq_nil_iff]
    intro d hd
    simp [h d hd]
  have herrors : (p.lines.flatMap Line.rejection).filter (·.severity == .error) =
      p.rejected.filterMap Line.diagnostic? := by
    rw [List.filter_eq_self.mpr fun d hd => by simp [(p.forall_mem_rejections d hd).1], rejected,
      List.filterMap_filter, List.filterMap_eq_flatMap_toList]
    congr 1
    funext line
    rw [Line.rejection_eq_toList, Line.diagnostic?]
    cases line.error? <;> rfl
  apply (p.lint_perm.filter _).trans
  rw [List.filter_append, List.filter_append, List.filter_append, herrors,
    hwarnings fun d hd => (p.forall_mem_tokenWarnings d hd).1,
    hwarnings fun d hd => (p.forall_mem_unreachableWarnings d hd).1,
    hwarnings fun d hd => (p.forall_mem_identityWarnings d hd).1, List.append_nil,
    List.append_nil, List.append_nil]

theorem count_error_lint (p : Program) :
  p.lint.count .error = p.rejected.length
  := by
  rw [Report.count, List.countP_eq_length_filter, p.filter_error_lint.length_eq,
    List.length_filterMap_eq_countP, List.countP_eq_length]
  intro line hline
  rw [Line.isSome_diagnostic?]
  apply (List.mem_filter.mp hline).2

/-- The warnings about token counts are as many as the lines to skip. -/
theorem countP_token_lint (p : Program) :
  p.lint.diagnostics.countP (·.code == "imgmap::token-count") = p.lines.countP Line.isSkipped
  := by
  have hother : ∀ {ds : List Diagnostic}, (∀ d ∈ ds, d.code ≠ "imgmap::token-count") →
      ds.countP (·.code == "imgmap::token-count") = 0 := by
    intro ds h
    rw [List.countP_eq_zero]
    intro d hd
    simpa using h d hd
  have htoken : (p.lines.flatMap Line.tokenWarning).countP (·.code == "imgmap::token-count") =
      p.lines.countP Line.isSkipped := by
    rw [List.countP_eq_length.mpr fun d hd => by simp [(p.forall_mem_tokenWarnings d hd).2]]
    induction p.lines with
    | nil => rfl
    | cons line lines ih =>
      rw [List.flatMap_cons, List.length_append, ih, Line.length_tokenWarning, List.countP_cons,
        Nat.add_comm]
  rw [p.lint_perm.countP_eq, List.countP_append, List.countP_append, List.countP_append, htoken,
    hother fun d hd => (p.forall_mem_rejections d hd).2,
    hother fun d hd => by simp [(p.forall_mem_unreachableWarnings d hd).2],
    hother fun d hd => by simp [(p.forall_mem_identityWarnings d hd).2], Nat.zero_add,
    Nat.add_zero]

end Program

/-! ### Reports before a run -/

/-- What is reported about the lines that a run rejects and skips. -/
def Execution.remarks (x : Execution) (t : Terminal) : String :=
  String.join (x.rejected.map (Line.refusal t)) ++ Program.skipping x.skipped t

theorem Line.join_refusals (t : Terminal) (lines : List Line) :
  String.join (lines.map (refusal t)) =
    String.join ((lines.filter fun line => line.error?.isSome).map (refusal t))
  := by
  induction lines with
  | nil => rfl
  | cons line lines ih =>
    cases herror : line.error? with
    | none =>
      rw [List.filter_cons_of_neg (by simp [herror]), List.map_cons, String.join_cons, ih, refusal,
        herror]
      apply String.empty_append
    | some error =>
      rw [List.filter_cons_of_pos (by simp [herror]), List.map_cons, List.map_cons,
        String.join_cons, String.join_cons, ih]

/-- What is reported before a run is about the lines that the run rejects and skips. -/
theorem Program.remarks_eq (p : Program) (image : Image) (t : Terminal) :
  p.remarks t = (p.execution image).remarks t
  := by
  rw [remarks, Line.join_refusals]
  rfl

/-! ### Checks -/

theorem Command.Check.verdict_eq (r : Report) :
  verdict r = if r.count .error = 0 then .ok () else
    .error (.validation (plural (r.count .error) "error" "errors" ++ " found") none)
  := by
  rw [verdict]
  by_cases h : r.count .error = 0
  · have hhas : ¬(r.has .error = true) := by
      rw [Report.has_iff_count_pos, h]
      apply lt_irrefl
    rw [if_neg hhas, if_pos h]
  · rw [if_pos (Report.has_iff_count_pos.mpr (Nat.pos_of_ne_zero h)), if_neg h]

theorem count_foldl_lint (programs : List Program) (start : Report) :
  (programs.foldl (fun sofar p => sofar ++ p.lint) start).count .error =
    start.count .error + (Program.concat programs).rejected.length
  := by
  induction programs generalizing start with
  | nil => rfl
  | cons p programs ih =>
    rw [List.foldl_cons, ih, Report.count_append, Program.count_error_lint, Nat.add_assoc]
    simp only [Program.concat, Program.rejected, List.flatMap_cons, List.filter_append,
      List.length_append]

theorem OnlyReads.writeOutput (bytes : List UInt8) :
  OnlyReads (ExceptT.lift (Host.writeOutput bytes) : Session.Action Unit).run
  := of_forall (fun _ _ _ => .ok ()) fun _ => ⟨rfl, rfl, rfl, rfl⟩

theorem OnlyReads.lint (files : List String) :
  OnlyReads (Check.lint files : Session.Action Report).run
  := by
  apply run_bind
  · apply run_foldlM
    intro sofar path
    apply run_bind (load path)
    intro p
    apply run_pure
  · intro report
    apply run_pure

namespace Session

theorem answer_lint (session : Session) (files : List String) :
  session.answer (Check.lint files) =
    (files.mapM fun path => session.answer (Program.load path)).map fun programs =>
      (programs.foldl (fun sofar p => sofar ++ p.lint) Report.empty).sort
  := by
  have hjoin : session.answer _ = _ := answer_join OnlyReads.load
    (fun (sofar : Report) (p : Program) => sofar ++ p.lint) files Report.empty
  rw [Check.lint, answer_bind, hjoin]
  · cases files.mapM fun path => session.answer (Program.load path) <;> rfl
  · apply OnlyReads.run_foldlM
    intro sofar path
    apply OnlyReads.run_bind (OnlyReads.load path)
    intro p
    apply OnlyReads.run_pure
  · intro report
    apply OnlyReads.run_pure

/-- What a check shows of its report does not count. -/
theorem answer_check (session : Session) (files : List String) (json : Bool) :
  session.answer (Check.execute ⟨files, json⟩) =
    session.answer (Check.lint files) >>= Check.verdict
  := by
  rw [Check.execute, answer_bind (OnlyReads.lint files)]
  · congr 1
    funext report
    cases json with
    | true => rfl
    | false => rfl
  · intro report
    cases json with
    | true =>
      apply OnlyReads.run_bind (OnlyReads.writeOutput _)
      intro done
      apply OnlyReads.settle
    | false =>
      apply OnlyReads.run_bind (OnlyReads.say _)
      intro done
      apply OnlyReads.settle

theorem answer_maps (session : Session) (files : List String) (settings : Settings) :
  session.answer (Recipe.program settings ⟨[], none, files, [], none⟩) =
    (files.mapM fun path => session.answer (Program.load path)).map Program.concat
  := by
  have hingredients : (⟨[], none, files, [], none⟩ : Recipe).ingredients = files.map .map := by
    simp [Recipe.ingredients]
  rw [Recipe.answer_program, hingredients, List.mapM_map]
  rfl

end Session

/-! ### Programs put together -/

/-- The programs that texts, files and lists of expressions make one after another. -/
inductive Program.Composed : Program → Prop
  | text (source text : String) : Composed (.parse source text)
  | bytes {source : String} {bytes : List UInt8} {p : Program} (h : ofBytes source bytes = .ok p) :
      Composed p
  | expressions (source : String) (expressions : List Expression) :
      Composed (.ofExpressions source expressions)
  | append {p q : Program} (hp : p.Composed) (hq : q.Composed) : Composed (p ++ q)

/-- The error is about a rule: it is not read, or not legal. -/
inductive Error.IsAboutRule : Error → Prop
  | parse (detail : String) (help : Option String) : IsAboutRule (.parse detail help)
  | validation (detail : String) (help : Option String) : IsAboutRule (.validation detail help)

namespace Error.IsAboutRule

variable {error : Error}

theorem within (h : error.IsAboutRule) (place : String) :
  (error.within place).IsAboutRule
  := by
  cases h with
  | parse detail help => apply parse
  | validation detail help => apply validation

theorem message_eq (h : error.IsAboutRule) :
  error.message = "Parse error: " ++ error.summary ∨
    error.message = "Validation error: " ++ error.summary
  := by
  cases h with
  | parse detail help =>
    left
    rfl
  | validation detail help =>
    right
    rfl

theorem of_readRule {place : String} {channels : List (List Char)}
    (h : Expression.readRule place channels = .error error) :
  error.IsAboutRule
  := by
  obtain ⟨m, -, rfl⟩ := mapError_eq_error_iff.mp h
  apply (parse m.message m.help).within

theorem of_illegality {place : String} {r : Except Illegality Rule}
    (h : (r.mapError fun i => i.error.within place) = .error error) :
  error.IsAboutRule
  := by
  obtain ⟨i, -, rfl⟩ := mapError_eq_error_iff.mp h
  apply (validation i.message i.help).within

/-- A line is refused for one of its rules. -/
theorem of_ofLine {line : List Char} (h : Expression.ofLine line = .error error) :
  error.IsAboutRule
  := by
  simp only [Expression.ofLine] at h
  split at h
  · simp only [bind_eq_error_iff] at h
    obtain hread | ⟨_, -, hread | ⟨_, -, hmatch | ⟨_, -, hproduce | ⟨_, -, ⟨⟩⟩⟩⟩⟩ := h
    · apply of_readRule hread
    · apply of_readRule hread
    · apply of_illegality hmatch
    · apply of_illegality hproduce
  · cases h

theorem of_ofTexts {source : String} {texts : List (List Char)} {line : Line}
    (hline : line ∈ (Program.ofTexts source texts).lines) (h : line.outcome = .rejected error) :
  error.IsAboutRule
  := by
  obtain ⟨⟨text, number⟩, -, rfl⟩ := List.mem_map.mp hline
  cases hread : Expression.ofLine text with
  | error cause =>
    simp only [Line.ofChars, hread, Outcome.rejected.injEq] at h
    subst h
    apply of_ofLine hread
  | ok answer => cases answer <;> simp [Line.ofChars, hread] at h

theorem of_composed {p : Program} (hp : p.Composed) {line : Line} (hline : line ∈ p.lines)
    (h : line.outcome = .rejected error) :
  error.IsAboutRule
  := by
  induction hp with
  | text source text => apply of_ofTexts hline h
  | bytes hbytes =>
    rw [Program.ofBytes] at hbytes
    split at hbytes
    · obtain rfl := Except.ok.inj hbytes
      apply of_ofTexts hline h
    · cases hbytes
  | expressions source expressions =>
    obtain ⟨_, -, rfl⟩ := List.mem_map.mp hline
    cases h
  | append _ _ ihp ihq =>
    obtain hline | hline := List.mem_append.mp hline
    · apply ihp hline
    · apply ihq hline

end Error.IsAboutRule

/-! ### The agreement -/

theorem Line.isSome_error?_iff {line : Line} :
  line.error?.isSome = true ↔ ∃ error, line.outcome = .rejected error
  := by
  rw [error?]
  cases line.outcome <;> simp

/-- Lint, run and report agree.  The errors of a lint are about the rejected lines of a run, each
with the code, the hint and the bare wording of the error of its line; the warnings about token
counts are as many as the lines that the run skips; and what is reported before a run names
those lines and that number.  So a check of map files ends as the run of the program that the
files make tells: it fails for a file that is not read or for rejected lines, and for nothing
else. -/
theorem Program.lint_agrees_with_run (byRows : Bool) (image : Image) :
  (∀ p : Program, ∃ x, p.run byRows image = .ok x
      ∧ p.lint.count .error = x.rejected.length
      ∧ (p.lint.diagnostics.filter (·.severity == .error)).Perm
        (x.rejected.filterMap Line.diagnostic?)
      ∧ (p.Composed → ∀ line ∈ x.rejected, ∃ error, line.outcome = .rejected error
        ∧ (error.message = "Parse error: " ++ error.summary
          ∨ error.message = "Validation error: " ++ error.summary))
      ∧ p.lint.diagnostics.countP (·.code == "imgmap::token-count") = x.skipped
      ∧ (∀ session, (reportLines p : Session.Action Unit).run.run session =
        (.ok (), session.reporting (x.remarks ⟨false⟩)))
      ∧ (p.lint.has .error = true ↔ ∃ line ∈ p.lines, ∃ error, line.outcome = .rejected error)
      ∧ p.lint.count .error + p.lint.count .warning = p.lint.diagnostics.length)
    ∧ ∀ (session : Session) (files : List String) (json : Bool) (settings : Settings),
      session.answer (Check.execute ⟨files, json⟩) = (do
        let p ← session.answer (Recipe.program settings ⟨[], none, files, [], none⟩)
        let x ← p.run byRows image
        if x.rejected = [] then .ok ()
        else .error (.validation (plural x.rejected.length "error" "errors" ++ " found") none))
  := by
  constructor
  · intro p
    use p.execution image, p.run_eq_execution byRows image, p.count_error_lint, p.filter_error_lint
    constructor
    · intro hp line hline
      obtain ⟨hline, hrejected⟩ := List.mem_filter.mp hline
      obtain ⟨error, herror⟩ := Line.isSome_error?_iff.mp hrejected
      use error, herror
      apply (Error.IsAboutRule.of_composed hp hline herror).message_eq
    · use p.countP_token_lint
      constructor
      · intro session
        rw [run_reportLines, p.remarks_eq image]
      · constructor
        · rw [Report.has_iff_count_pos, p.count_error_lint, rejected, List.length_filter_pos_iff]
          simp only [Line.isSome_error?_iff]
        · apply Report.count_add_count
  · intro session files json settings
    rw [session.answer_check, session.answer_lint, session.answer_maps]
    obtain error | programs := files.mapM fun path => session.answer (Program.load path)
    · rfl
    · have hcount := count_foldl_lint programs Report.empty
      rw [Report.count_empty, Nat.zero_add] at hcount
      simp only [Except.map, bind, Except.bind, Check.verdict_eq, Report.count_sort, hcount,
        run_eq_execution, List.length_eq_zero_iff, execution]

/-- Two texts of one source, each with a rejected line in its first place, and a line to skip. -/
theorem Program.lint_of_one_source :
  ∃ p : Program, p.Composed ∧ ∃ x, p.run true ⟨1, 1, #[1, 2, 3, 4], rfl⟩ = .ok x
    ∧ x.rejected.map Line.location = ["m:1", "m:1"] ∧ p.lint.count .error = 2
    ∧ p.lint.diagnostics.countP (·.code == "imgmap::token-count") = 1
    ∧ ∀ line ∈ x.rejected, ∃ error, line.outcome = .rejected error
      ∧ (error.message = "Parse error: " ++ error.summary
        ∨ error.message = "Validation error: " ++ error.summary)
  := by
  let p := parse "m" "#r ? ? ? 0 0 0 ?\n1 2" ++ parse "m" "? ? ? ? <0 ? ? ?"
  have hcomposed : p.Composed := .append (.text _ _) (.text _ _)
  obtain ⟨x, hrun, herror, -, hmessage, htoken, -⟩ :=
    (lint_agrees_with_run true ⟨1, 1, #[1, 2, 3, 4], rfl⟩).1 p
  have hx : x = p.execution ⟨1, 1, #[1, 2, 3, 4], rfl⟩ :=
    Except.ok.inj (hrun.symm.trans (p.run_eq_execution _ _))
  use p, hcomposed, x, hrun
  rw [herror, htoken, hx]
  use by decide +kernel, by decide +kernel, by decide +kernel
  rw [← hx]
  apply hmessage hcomposed

end Recolour
