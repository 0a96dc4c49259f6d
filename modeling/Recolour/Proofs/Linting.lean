import Mathlib.Data.List.Nodup
import Recolour.Lint
import Recolour.Proofs.Running
import Recolour.Proofs.Unreachable

/-!
# Remarks are about lines without effect

Every remark of a lint is about a line of the program, and that line does nothing in a
run: it is no expression, its match rule accepts no pixel, or its produce rule changes none.
So the lines that a lint remarks on may be deleted from a program whose lines have numbers of
their own, and every run ends with the same image.
-/

namespace Recolour

/-! ### Expressions without effect -/

theorem Rule.eq_wildcard_of_isWildcard {r : Rule} (h : r.isWildcard = true) :
  r = wildcard
  := by
  obtain ⟨red, green, blue, alpha⟩ := r
  simp only [isWildcard, channels, List.all_cons, List.all_nil, Bool.and_true, Bool.and_eq_true,
    beq_iff_eq] at h
  obtain ⟨rfl, rfl, rfl, rfl⟩ := h
  rfl

namespace Line

/-- A run does nothing on the line: it is no expression or one that changes no pixel. -/
def IsInert (line : Line) : Prop :=
  ∀ e, line.expression? = some e → ∀ p, e.recolour p = p

/-- The remarks of all checks about a line. -/
def remarks (line : Line) : List Diagnostic :=
  line.rejection ++ line.tokenWarning ++ line.unreachableWarnings ++ line.identityWarning

variable {line : Line} {d : Diagnostic}

theorem isInert_of_mem_rejection (h : d ∈ line.rejection) :
  line.IsInert
  := by
  intro e he
  cases houtcome : line.outcome <;>
    simp [rejection, error?, expression?, houtcome] at h he

theorem isInert_of_mem_tokenWarning (h : d ∈ line.tokenWarning) :
  line.IsInert
  := by
  intro e he
  cases houtcome : line.outcome <;>
    simp [tokenWarning, expression?, houtcome] at h he

/-- A line with an unreachable channel accepts no pixel. -/
theorem isInert_of_mem_unreachableWarnings (h : d ∈ line.unreachableWarnings) :
  line.IsInert
  := by
  intro e he p
  simp only [unreachableWarnings, he, List.mem_map, List.mem_filter] at h
  obtain ⟨plane, ⟨-, hplane⟩, -⟩ := h
  rw [Expression.recolour, Rule.accepts_of_isUnreachable hplane]
  rfl

/-- A line with a produce rule of wildcards leaves every pixel as it is. -/
theorem isInert_of_mem_identityWarning (h : d ∈ line.identityWarning) :
  line.IsInert
  := by
  intro e he p
  simp only [identityWarning, he] at h
  split at h
  · rename_i hwildcard
    rw [Expression.recolour, Rule.eq_wildcard_of_isWildcard hwildcard]
    split <;> rfl
  · cases h

theorem isInert_of_mem_remarks (h : d ∈ line.remarks) :
  line.IsInert
  := by
  simp only [remarks, List.mem_append] at h
  obtain ((h | h) | h) | h := h
  · apply isInert_of_mem_rejection h
  · apply isInert_of_mem_tokenWarning h
  · apply isInert_of_mem_unreachableWarnings h
  · apply isInert_of_mem_identityWarning h

theorem exists_of_mem_rejection (h : d ∈ line.rejection) :
  ∃ error : Error, d = ⟨.error, error.code, error.summary, error.help, line.source, line.number⟩
  := by
  simp only [rejection] at h
  split at h
  · obtain rfl := List.mem_singleton.mp h
    exact ⟨_, rfl⟩
  · cases h

theorem exists_of_mem_tokenWarning (h : d ∈ line.tokenWarning) :
  ∃ message help, d = line.warning "imgmap::token-count" message help
  := by
  simp only [tokenWarning] at h
  split at h
  · split at h
    · obtain rfl := List.mem_singleton.mp h
      exact ⟨_, _, rfl⟩
    · cases h
  · cases h

theorem exists_of_mem_identityWarning (h : d ∈ line.identityWarning) :
  ∃ message help, d = line.warning "imgmap::identity" message help
  := by
  simp only [identityWarning] at h
  split at h
  · split at h
    · obtain rfl := List.mem_singleton.mp h
      exact ⟨_, _, rfl⟩
    · cases h
  · cases h

/-- A remark about a line has the place of the line. -/
theorem place_of_mem_remarks (h : d ∈ line.remarks) :
  d.place = line.place
  := by
  simp only [remarks, List.mem_append] at h
  obtain ((h | h) | h) | h := h
  · obtain ⟨error, rfl⟩ := exists_of_mem_rejection h
    rfl
  · obtain ⟨message, help, rfl⟩ := exists_of_mem_tokenWarning h
    rfl
  · apply place_of_mem_unreachableWarnings h
  · obtain ⟨message, help, rfl⟩ := exists_of_mem_identityWarning h
    rfl

theorem number_of_mem_remarks (h : d ∈ line.remarks) :
  d.line = line.number
  := congrArg (fun place => (ofLex place).2) (place_of_mem_remarks h)

/-- A line without remarks is a blank line or an expression. -/
theorem not_isSkipped_of_remarks_eq_nil (h : line.remarks = []) :
  line.isSkipped = false ∧ line.error? = none
  := by
  simp only [remarks, List.append_eq_nil_iff] at h
  obtain ⟨⟨⟨hrejection, htoken⟩, -⟩, -⟩ := h
  cases houtcome : line.outcome with
  | expression e => simp [isSkipped, error?, houtcome]
  | ignored tokens => simpa [tokenWarning, isSkipped, error?, houtcome] using htoken
  | rejected error => simp [rejection, error?, houtcome] at hrejection

end Line

/-! ### Deleting lines -/

/-- A diagnostic of the report is about the number of the line. -/
def Report.mentions (r : Report) (line : Line) : Bool :=
  r.diagnostics.any fun d => d.line == line.number

namespace Program

/-- The program without the lines whose number a diagnostic of the report is about. -/
def without (p : Program) (r : Report) : Program :=
  ⟨p.lines.filter fun line => !r.mentions line⟩

/-- A lint holds the remarks of the four checks. -/
theorem lint_perm (p : Program) :
  p.lint.diagnostics.Perm (p.lines.flatMap Line.rejection ++ p.lines.flatMap Line.tokenWarning
    ++ p.lines.flatMap Line.unreachableWarnings ++ p.lines.flatMap Line.identityWarning)
  := List.mergeSort_perm _ _

/-- The diagnostics of a lint are the remarks about the lines. -/
theorem mem_lint {p : Program} {d : Diagnostic} :
  d ∈ p.lint.diagnostics ↔ ∃ line ∈ p.lines, d ∈ line.remarks
  := by
  rw [p.lint_perm.mem_iff]
  simp only [List.mem_append, List.mem_flatMap, Line.remarks, ← exists_or, ← and_or_left]

/-- Lines without effect may be deleted from the lines of a run. -/
theorem recolourAll_filter {lines : List Line} {keep : Line → Bool}
    (h : ∀ line ∈ lines, keep line = false → line.IsInert) (p : Pixel) :
  Expression.recolourAll ((lines.filter keep).filterMap Line.expression?) p
    = Expression.recolourAll (lines.filterMap Line.expression?) p
  := by
  induction lines generalizing p with
  | nil => rfl
  | cons line lines ih =>
    rw [List.forall_mem_cons] at h
    have hrest := ih h.2
    cases hkeep : keep line with
    | true =>
      rw [List.filter_cons_of_pos hkeep]
      cases he : line.expression? with
      | none =>
        rw [List.filterMap_cons_none he, List.filterMap_cons_none he]
        apply hrest
      | some e =>
        rw [List.filterMap_cons_some he, List.filterMap_cons_some he]
        apply hrest
    | false =>
      rw [List.filter_cons_of_neg (by simp [hkeep]), hrest]
      cases he : line.expression? with
      | none => rw [List.filterMap_cons_none he]
      | some e =>
        rw [List.filterMap_cons_some he]
        have hstep := h.1 hkeep e he p
        rw [Expression.recolourAll, Expression.recolourAll, List.foldl_cons, hstep]

/-- No two lines of the program have one number. -/
def HasOwnNumbers (p : Program) : Prop :=
  (p.lines.map Line.number).Nodup

theorem hasOwnNumbers_parse (source text : String) :
  (parse source text).HasOwnNumbers
  := by
  rw [HasOwnNumbers, parse, ofTexts, List.map_map]
  change (List.map Prod.snd _).Nodup
  rw [List.zipIdx_map_snd]
  exact List.nodup_range' 1 Nat.one_pos

/-- A line that a lint mentions does nothing in a run. -/
theorem isInert_of_mentions_lint {p : Program} (hnumbers : p.HasOwnNumbers) {line : Line}
    (hline : line ∈ p.lines) (h : p.lint.mentions line = true) :
  line.IsInert
  := by
  obtain ⟨d, hd, hnumber⟩ := List.any_eq_true.mp h
  obtain ⟨other, hother, hremark⟩ := mem_lint.mp hd
  have hsame : other.number = line.number := by
    rw [← Line.number_of_mem_remarks hremark]
    simpa using hnumber
  obtain rfl := List.inj_on_of_nodup_map hnumbers hother hline hsame
  apply Line.isInert_of_mem_remarks hremark

/-- A line that a lint does not mention has no remarks. -/
theorem remarks_eq_nil_of_mentions_lint {p : Program} {line : Line} (hline : line ∈ p.lines)
    (h : p.lint.mentions line = false) :
  line.remarks = []
  := by
  apply List.eq_nil_iff_forall_not_mem.mpr
  intro d hd
  have hdiagnostic := mem_lint.mpr ⟨line, hline, hd⟩
  have hnumber := Line.number_of_mem_remarks hd
  simp [Report.mentions] at h
  apply h d hdiagnostic hnumber

/-- Deleting the lines that its lint mentions from the program of a text changes the image of no
run, and what is left has no line to skip or to reject. -/
theorem run_without_linted_lines (source text : String) (byRows : Bool) (image : Image) :
  ∃ x y, (parse source text).run byRows image = .ok x
    ∧ ((parse source text).without (parse source text).lint).run byRows image = .ok y
    ∧ y.image = x.image ∧ y.skipped = 0 ∧ y.rejected = []
  := by
  generalize hp : parse source text = p
  have hnumbers : p.HasOwnNumbers := by
    rw [← hp]
    apply hasOwnNumbers_parse
  obtain ⟨x, hx, himage, -⟩ := p.exists_run byRows image
  obtain ⟨y, hy, himage', -, hskipped, hrejected⟩ := (p.without p.lint).exists_run byRows image
  use x, y, hx, hy
  have hremarks : ∀ line ∈ (p.without p.lint).lines, line.remarks = [] := by
    intro line hline
    obtain ⟨hline, hkeep⟩ := List.mem_filter.mp hline
    apply remarks_eq_nil_of_mentions_lint hline
    simpa using hkeep
  constructor
  · rw [himage, himage']
    congr 1
    funext q
    apply recolourAll_filter
    intro line hline hkeep
    apply isInert_of_mentions_lint hnumbers hline
    simpa using hkeep
  · constructor
    · rw [hskipped, List.countP_eq_zero]
      intro line hline
      simp [Line.not_isSkipped_of_remarks_eq_nil (hremarks line hline)]
    · rw [hrejected, rejected, List.filter_eq_nil_iff]
      intro line hline
      simp [Line.not_isSkipped_of_remarks_eq_nil (hremarks line hline)]

end Program

end Recolour
