import Mathlib.Data.List.Perm.Basic
import Recolour.Proofs.Counting
import Recolour.Proofs.Reading.Outcome

/-!
# Lints of several programs

The lint of a program whose lines have places of their own is the sorted list of its remarks
line by line.  So the lints of programs from different sources, merged and sorted, are the lint
of all their lines together, and the order of the programs does not matter.  Neither does the
order in which a check is given its map files.
-/

namespace Recolour

open Command

namespace Program

variable {p q : Program}

/-! ### One program -/

theorem HasOwnPlaces.linesAt_cases (h : p.HasOwnPlaces) (place : String ×ₗ Nat) :
  p.linesAt place = [] ∨ ∃ line, p.linesAt place = [line]
  := by
  rw [← List.length_eq_zero_iff, ← List.length_eq_one_iff, ← Nat.le_one_iff_eq_zero_or_eq_one]
  apply h.length_linesAt_le

/-- The four checks report about a place what stands there in the remarks line by line. -/
theorem about_lint (h : p.HasOwnPlaces) (place : String ×ₗ Nat) :
  p.lint.about place = (p.linesAt place).flatMap Line.remarks
  := by
  have hpart : ∀ {part : Line → List Diagnostic}, (∀ line, part line ⊆ line.remarks) →
      (p.check part).about place = (p.linesAt place).flatMap part :=
    fun hsubset =>
      about_check (fun line _ hd => Line.place_of_mem_remarks (hsubset line hd)) p place
  rw [lint, Report.about_sort, Report.about_append, Report.about_append, Report.about_append,
    hpart, hpart, hpart, hpart]
  · -- With a single line at the place, it does not matter that the checks come one by one.
    obtain hnone | ⟨line, hone⟩ := h.linesAt_cases place
    · rw [hnone]
      rfl
    · simp [hone, Line.remarks]
  all_goals
    intro line d hd
    simp [Line.remarks, hd]

theorem about_check_remarks (p : Program) (place : String ×ₗ Nat) :
  (p.check Line.remarks).about place = (p.linesAt place).flatMap Line.remarks
  := about_check (fun _ _ => Line.place_of_mem_remarks) p place

theorem sort_lint (p : Program) :
  p.lint.sort = p.lint
  := Report.sort_sort _

theorem lint_eq_sort_check (h : p.HasOwnPlaces) :
  p.lint = (p.check Line.remarks).sort
  := by
  rw [← p.sort_lint, Report.sort_eq_sort_iff]
  intro place
  rw [about_lint h, about_check_remarks]

/-- The order of the lines does not matter if each has a place of its own. -/
theorem sort_check_eq_of_perm (h : p.HasOwnPlaces) (hperm : p.lines.Perm q.lines) :
  (p.check Line.remarks).sort = (q.check Line.remarks).sort
  := by
  rw [Report.sort_eq_sort_iff]
  intro place
  have hlines : (p.linesAt place).Perm (q.linesAt place) := hperm.filter _
  rw [about_check_remarks, about_check_remarks]
  obtain hnone | ⟨line, hone⟩ := h.linesAt_cases place
  · rw [hnone] at hlines ⊢
    rw [hlines.nil_eq]
  · rw [hone] at hlines ⊢
    rw [hlines.singleton_eq]

/-! ### Several programs -/

/-- The lints of some programs, one after another and then sorted. -/
def lintEach (programs : List Program) : Report :=
  (programs.foldl (fun sofar p => sofar ++ p.lint) Report.empty).sort

theorem diagnostics_foldl_lint (programs : List Program) (start : Report) :
  (programs.foldl (fun sofar p => sofar ++ p.lint) start).diagnostics
    = start.diagnostics ++ programs.flatMap fun p => p.lint.diagnostics
  := by
  induction programs generalizing start with
  | nil => simp
  | cons p programs ih =>
    rw [List.foldl_cons, ih, List.flatMap_cons, ← List.append_assoc]
    rfl

theorem diagnostics_lintEach_perm (programs : List Program) :
  (lintEach programs).diagnostics.Perm (programs.flatMap fun p => p.lint.diagnostics)
  := by
  have h := diagnostics_foldl_lint programs Report.empty
  rw [Report.empty, List.nil_append] at h
  rw [← h]
  apply List.mergeSort_perm

/-- Merged lints are the lint of all lines together, if each program has its own places. -/
theorem lintEach_eq_sort_check {programs : List Program}
    (h : ∀ p ∈ programs, p.HasOwnPlaces) :
  lintEach programs = ((concat programs).check Line.remarks).sort
  := by
  rw [lintEach, Report.sort_eq_sort_iff]
  intro place
  have hlines : (concat programs).linesAt place = programs.flatMap fun p => p.linesAt place :=
    List.filter_flatMap
  rw [about_check_remarks, hlines, List.flatMap_assoc, Report.about, diagnostics_foldl_lint,
    Sorting.withKey, List.filter_append, List.filter_flatMap]
  apply List.flatMap_congr
  intro p hp
  rw [← about_lint (h p hp)]
  rfl

theorem HasOwnPlaces.of_concat {programs : List Program} (h : (concat programs).HasOwnPlaces) :
  ∀ p ∈ programs, p.HasOwnPlaces
  := by
  rw [HasOwnPlaces, concat, List.map_flatMap, List.nodup_flatMap] at h
  apply h.1

theorem lint_concat {programs : List Program} (h : (concat programs).HasOwnPlaces) :
  (concat programs).lint = lintEach programs
  := by
  rw [lint_eq_sort_check h, lintEach_eq_sort_check h.of_concat]

theorem lintEach_eq_of_perm {programs others : List Program}
    (h : (concat programs).HasOwnPlaces) (hperm : others.Perm programs) :
  lintEach others = lintEach programs
  := by
  have hlines : (concat programs).lines.Perm (concat others).lines := hperm.symm.flatMap_right _
  have hothers : ∀ p ∈ others, p.HasOwnPlaces := fun p hp => h.of_concat p (hperm.subset hp)
  rw [lintEach_eq_sort_check hothers, lintEach_eq_sort_check h.of_concat,
    sort_check_eq_of_perm h hlines]

/-! ### Texts -/

/-- The programs of some texts, each with the name of its source. -/
def parseEach (texts : List (String × String)) : List Program :=
  texts.map fun (source, text) => parse source text

theorem IsNumbered.hasOwnPlaces {label : String} (h : p.IsNumbered label) :
  p.HasOwnPlaces
  := by
  have hplaces : p.lines.map Line.place
      = (p.lines.map fun line => (line.source, line.number)).map toLex := by
    rw [List.map_map]
    rfl
  rw [HasOwnPlaces, hplaces, h, List.map_map]
  apply List.Nodup.map _ (List.nodup_range' 1 Nat.one_pos)
  intro number number' hequal
  apply (Prod.mk.inj hequal).2

/-- Programs from different sources have their lines in different places. -/
theorem hasOwnPlaces_concat_parseEach {texts : List (String × String)}
    (h : (texts.map Prod.fst).Nodup) :
  (concat (parseEach texts)).HasOwnPlaces
  := by
  rw [HasOwnPlaces, concat, List.map_flatMap, List.nodup_flatMap]
  constructor
  · intro p hp
    obtain ⟨⟨source, text⟩, -, rfl⟩ := List.mem_map.mp hp
    apply (isNumbered_parse source text).hasOwnPlaces
  · rw [parseEach, List.pairwise_map]
    rw [List.Nodup, List.pairwise_map] at h
    apply h.imp
    rintro ⟨source, text⟩ ⟨source', text'⟩ hsources place hplace hplace'
    obtain ⟨line, hline, rfl⟩ := List.mem_map.mp hplace
    obtain ⟨line', hline', hequal⟩ := List.mem_map.mp hplace'
    apply hsources
    rw [← source_of_mem_parse hline, ← source_of_mem_parse hline']
    exact (congrArg (fun place => (ofLex place).1) hequal).symm

/-- The lints of texts from different sources, merged and sorted, do not depend on the order of
the texts, and are the lint of the one program that holds the lines of all texts in any order.
They are ordered by source and line and hold every diagnostic of the lints once.  About a line
they hold what rejects it or the warning about its tokens, the warnings about its channels in the
order of the planes, and the warning that it changes nothing.  Sorting again changes nothing. -/
theorem lint_of_sources {texts : List (String × String)} (h : (texts.map Prod.fst).Nodup) :
  (∀ others : List (String × String), others.Perm texts →
      lintEach (parseEach others) = lintEach (parseEach texts)
      ∧ ((parseEach others).foldl (· ++ ·) empty).lint = lintEach (parseEach texts))
    ∧ (lintEach (parseEach texts)).diagnostics.Pairwise
      (fun d e => d.source < e.source ∨ d.source = e.source ∧ d.line ≤ e.line)
    ∧ (lintEach (parseEach texts)).diagnostics.Perm
      ((parseEach texts).flatMap fun p => p.lint.diagnostics)
    ∧ (∀ p ∈ parseEach texts, ∀ line ∈ p.lines,
      (lintEach (parseEach texts)).about line.place
        = line.rejection ++ line.tokenWarning ++ line.unreachableWarnings ++ line.identityWarning)
    ∧ (lintEach (parseEach texts)).sort = lintEach (parseEach texts)
  := by
  have hplaces := hasOwnPlaces_concat_parseEach h
  constructor
  · intro others hperm
    have hothers : (concat (parseEach others)).HasOwnPlaces :=
      hasOwnPlaces_concat_parseEach ((hperm.map Prod.fst).nodup_iff.mpr h)
    have hsame : lintEach (parseEach others) = lintEach (parseEach texts) :=
      lintEach_eq_of_perm hplaces (hperm.map _)
    use hsame
    rw [foldl_append]
    apply (lint_concat hothers).trans hsame
  · constructor
    · apply Report.pairwise_sort
    · use diagnostics_lintEach_perm _
      constructor
      · intro p hp line hline
        have hmem : line ∈ (concat (parseEach texts)).lines := List.mem_flatMap.mpr ⟨p, hp, hline⟩
        rw [← lint_concat hplaces, about_lint hplaces, hplaces.linesAt_eq hmem,
          List.flatMap_singleton, Line.remarks]
      · apply Report.sort_sort

/-- Two texts that are given against the order of their sources, with a line that has three
remarks. -/
theorem lint_of_two_sources :
  ∃ texts : List (String × String), texts.map Prod.fst = ["b", "a"]
    ∧ lintEach (parseEach texts.reverse) = lintEach (parseEach texts)
    ∧ ((parseEach texts.reverse).foldl (· ++ ·) empty).lint = lintEach (parseEach texts)
    ∧ ((lintEach (parseEach texts)).about (toLex ("b", 1))).map Diagnostic.message
      = ["line has 3 tokens and will be skipped"]
    ∧ ((lintEach (parseEach texts)).about (toLex ("a", 2))).map Diagnostic.message
      = ["<0 on channel R never matches", ">255 on channel A never matches",
        "produce rule `? ? ? ?` leaves every pixel unchanged"]
  := by
  let texts := [("b", "1 2 3"), ("a", "\n<0 ? ? >255 ? ? ? ?")]
  obtain ⟨horder, -, -, habout, -⟩ := @lint_of_sources texts (by decide)
  obtain ⟨heach, hone⟩ := horder texts.reverse texts.reverse_perm
  use texts, rfl, heach, hone
  have hskipped := habout (parse "b" "1 2 3") (by simp [texts, parseEach])
    (Line.ofChars "b" 1 "1 2 3".toList) (by decide +kernel)
  have hunreachable := habout (parse "a" "\n<0 ? ? >255 ? ? ? ?") (by simp [texts, parseEach])
    (Line.ofChars "a" 2 "<0 ? ? >255 ? ? ? ?".toList) (by decide +kernel)
  constructor
  · apply (congrArg (List.map Diagnostic.message) hskipped).trans
    decide +kernel
  · apply (congrArg (List.map Diagnostic.message) hunreachable).trans
    decide +kernel

end Program

/-! ### Map files -/

namespace Session

variable {session : Session} {files others : List String}

/-- Map files that are all read are texts with their paths as sources. -/
theorem exists_texts_of_load {programs : List Program}
    (h : List.Forall₂ (fun path p => session.answer (Program.load path) = .ok p) files programs) :
  ∃ texts : List (String × String), texts.map Prod.fst = files
    ∧ programs = Program.parseEach texts
  := by
  induction h with
  | nil => exact ⟨[], rfl, rfl⟩
  | @cons path p files programs hload _ ih =>
    obtain ⟨text, -, rfl⟩ := answer_load_eq_ok_iff.mp hload
    obtain ⟨texts, rfl, rfl⟩ := ih
    exact ⟨(path, text) :: texts, rfl, rfl⟩

/-- The report on map files does not depend on their order. -/
theorem answer_lint_of_perm (hfiles : files.Nodup) (hperm : others.Perm files) {report : Report}
    (h : session.answer (Check.lint files) = .ok report) :
  session.answer (Check.lint others) = .ok report
  := by
  rw [answer_lint, map_eq_ok_iff] at h ⊢
  obtain ⟨programs, hprograms, rfl⟩ := h
  rw [mapM_eq_ok_iff] at hprograms
  obtain ⟨programs', hothers, hperm'⟩ := List.perm_comp_forall₂ hperm hprograms
  obtain ⟨texts, rfl, rfl⟩ := exists_texts_of_load hprograms
  use programs', mapM_eq_ok_iff.mpr hothers
  apply (Program.lintEach_eq_of_perm _ hperm').symm
  apply Program.hasOwnPlaces_concat_parseEach hfiles

end Session

end Recolour
