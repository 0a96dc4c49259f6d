import Mathlib.Data.Prod.Lex
import Mathlib.Data.String.Basic
import Recolour.Lint
import Recolour.Proofs.Sorting

/-!
# Reports place by place

A place is a source with the number of a line.  The order of a report is the order of places,
and a sorted report is determined by its diagnostics about each place.  A check of a program
reports about a place what it remarks on the lines of the program there.
-/

namespace Recolour

/-! ### Places of diagnostics -/

/-- The place a diagnostic is about, first ordered by source and then by line. -/
def Diagnostic.place (d : Diagnostic) : String ×ₗ Nat :=
  toLex (d.source, d.line)

theorem Diagnostic.place_le_iff {d e : Diagnostic} :
  d.place ≤ e.place ↔ d.source < e.source ∨ d.source = e.source ∧ d.line ≤ e.line
  := Prod.Lex.toLex_le_toLex

theorem Diagnostic.before_iff {d e : Diagnostic} :
  d.before e = true ↔ d.place ≤ e.place
  := by
  simp only [place_le_iff, before, Bool.or_eq_true, Bool.and_eq_true, decide_eq_true_iff,
    beq_iff_eq]

namespace Report

variable {r s : Report}

/-- The diagnostics of a report about a place, in order. -/
def about (r : Report) (place : String ×ₗ Nat) : List Diagnostic :=
  Sorting.withKey Diagnostic.place place r.diagnostics

theorem sort_eq (r : Report) :
  r.sort = ⟨Sorting.sortBy Diagnostic.place r.diagnostics⟩
  := by
  have hbefore : Diagnostic.before = fun d e => decide (d.place ≤ e.place) := by
    funext d e
    rw [Bool.eq_iff_iff, Diagnostic.before_iff, decide_eq_true_iff]
  rw [sort, hbefore, Sorting.sortBy]

theorem about_append (r s : Report) (place : String ×ₗ Nat) :
  (r ++ s).about place = r.about place ++ s.about place
  := List.filter_append _ _

theorem about_sort (r : Report) (place : String ×ₗ Nat) :
  r.sort.about place = r.about place
  := by
  rw [sort_eq]
  apply Sorting.withKey_sortBy

theorem sort_eq_sort_iff :
  r.sort = s.sort ↔ ∀ place, r.about place = s.about place
  := by
  rw [sort_eq, sort_eq, Report.mk.injEq]
  apply Sorting.sortBy_eq_sortBy_iff

theorem sort_sort (r : Report) :
  r.sort.sort = r.sort
  := sort_eq_sort_iff.mpr fun place => r.about_sort place

theorem pairwise_sort (r : Report) :
  r.sort.diagnostics.Pairwise
    fun d e => d.source < e.source ∨ d.source = e.source ∧ d.line ≤ e.line
  := by
  simp only [← Diagnostic.place_le_iff, sort_eq]
  apply Sorting.pairwise_sortBy

end Report

/-! ### Places of lines -/

/-- The place of a line in its program. -/
def Line.place (line : Line) : String ×ₗ Nat :=
  toLex (line.source, line.number)

namespace Program

variable {p : Program}

/-- The lines of a program at a place. -/
def linesAt (p : Program) (place : String ×ₗ Nat) : List Line :=
  p.lines.filter fun line => line.place = place

/-- No two lines of the program have one place. -/
def HasOwnPlaces (p : Program) : Prop :=
  (p.lines.map Line.place).Nodup

/-- A check reports about a place what it remarks on the lines there. -/
theorem about_check {remarks : Line → List Diagnostic}
    (h : ∀ line, ∀ d ∈ remarks line, d.place = line.place) (p : Program)
    (place : String ×ₗ Nat) :
  (p.check remarks).about place = (p.linesAt place).flatMap remarks
  := by
  simp only [Report.about, check, linesAt]
  induction p.lines with
  | nil => rfl
  | cons line lines ih =>
    rw [List.flatMap_cons, Sorting.withKey, List.filter_append, ← Sorting.withKey,
      ← Sorting.withKey, ih]
    by_cases hplace : line.place = place
    · have hall : Sorting.withKey Diagnostic.place place (remarks line) = remarks line := by
        apply List.filter_eq_self.mpr
        intro d hd
        simp [h line d hd, hplace]
      rw [hall, List.filter_cons_of_pos (by simp [hplace]), List.flatMap_cons]
    · have hnone : Sorting.withKey Diagnostic.place place (remarks line) = [] := by
        apply List.filter_eq_nil_iff.mpr
        intro d hd
        simp [h line d hd, hplace]
      rw [hnone, List.filter_cons_of_neg (by simp [hplace]), List.nil_append]

theorem HasOwnPlaces.length_linesAt_le (h : p.HasOwnPlaces) (place : String ×ₗ Nat) :
  (p.linesAt place).length ≤ 1
  := by
  have hnodup : ((p.linesAt place).map Line.place).Nodup :=
    List.Nodup.sublist (List.filter_sublist.map _) h
  have hplaces : (p.linesAt place).map Line.place =
      List.replicate (p.linesAt place).length place := by
    rw [List.map_eq_replicate_iff]
    intro line hline
    simpa using (List.mem_filter.mp hline).2
  rw [hplaces, List.nodup_replicate] at hnodup
  apply hnodup

theorem HasOwnPlaces.linesAt_eq (h : p.HasOwnPlaces) {line : Line} (hline : line ∈ p.lines) :
  p.linesAt line.place = [line]
  := by
  have hmem : line ∈ p.linesAt line.place := List.mem_filter.mpr ⟨hline, by simp⟩
  obtain ⟨only, honly⟩ := List.length_eq_one_iff.mp
    (Nat.le_antisymm (h.length_linesAt_le line.place) (List.length_pos_of_mem hmem))
  rw [honly, List.mem_singleton] at hmem
  rw [honly, hmem]

end Program

end Recolour
