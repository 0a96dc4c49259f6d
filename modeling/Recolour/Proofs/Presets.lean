import Mathlib.Data.List.Nodup
import Recolour.Plain
import Recolour.Proofs.Reading.Outcome
import Recolour.Proofs.Recipe.Ingredient

/-!
# Presets by name

A name belongs to a builtin preset, or to a declared one, or to none.  The builtin preset comes
first, so what is declared under its name is never read, neither by a look-up nor by a recipe.  The
entries of a declared preset are the lines of its program, each read by itself, and an entry with
newlines is as good as the entries between them.
-/

namespace Recolour

/-! ### Builtin presets -/

namespace Preset

variable {name : String} {preset : Preset}

theorem nodup_names :
  (builtins.map Preset.name).Nodup
  := by decide

theorem builtin?_eq_some_iff :
  builtin? name = some preset ↔ preset ∈ builtins ∧ preset.name = name
  := by
  constructor
  · intro h
    have hname := List.find?_some h
    rw [beq_iff_eq] at hname
    exact ⟨List.mem_of_find?_eq_some h, hname⟩
  · rintro ⟨hmem, rfl⟩
    cases hfind : builtin? preset.name with
    | none =>
      rw [builtin?, List.find?_eq_none] at hfind
      exact absurd (beq_self_eq_true _) (hfind preset hmem)
    | some found =>
      have hname := List.find?_some hfind
      rw [beq_iff_eq] at hname
      rw [List.inj_on_of_nodup_map nodup_names (List.mem_of_find?_eq_some hfind) hmem hname]

theorem builtin?_eq_none_iff :
  builtin? name = none ↔ ∀ preset ∈ builtins, preset.name ≠ name
  := by
  rw [builtin?, List.find?_eq_none]
  simp only [beq_iff_eq]

theorem sourceOf_injective :
  Function.Injective sourceOf
  := by
  intro name other h
  simpa [sourceOf] using h

/-- The program of a builtin preset has a line. -/
theorem exists_mem_program (h : preset ∈ builtins) :
  ∃ line ∈ preset.program.lines, line.source = sourceOf preset.name
  := by
  revert preset
  decide

end Preset

/-! ### Declared presets -/

namespace Preset

variable {entry piece : String}

/-- The texts between the newlines of an entry. -/
def pieces (entry : String) : List String :=
  (entry.toList.splitOn '\n').map String.ofList

theorem newline_notMem_of_mem_pieces (h : piece ∈ pieces entry) :
  '\n' ∉ piece.toList
  := by
  obtain ⟨chars, hchars, rfl⟩ := List.mem_map.mp h
  intro hmem
  rw [String.toList_ofList] at hmem
  simpa using Text.not_of_mem_splitOnP hchars _ hmem

theorem intercalate_flatMap_pieces (entries : List String) :
  "\n".intercalate (entries.flatMap pieces) = "\n".intercalate entries
  := by
  apply String.toList_inj.mp
  rw [String.toList_intercalate, String.toList_intercalate]
  have hmap : (entries.flatMap pieces).map String.toList =
      (entries.map String.toList).flatMap (List.splitOn '\n') := by
    simp [List.map_flatMap, List.flatMap_map, pieces, Function.comp_def]
  rw [hmap]
  apply Text.intercalate_flatMap_splitOn

end Preset

/-- The lines of the program are the entries of a list, in order and numbered from 1. Each turns
out to be what its entry is by itself. Only a last entry that is empty has no line. -/
structure Program.Lists (p : Program) (source : String) (entries : List String) : Prop where
  length_eq : p.lines.length =
    if entries.getLast? = some "" then entries.length - 1 else entries.length
  line : ∀ i entry line, entries[i]? = some entry → p.lines[i]? = some line →
    line.source = source ∧ line.number = i + 1
      ∧ line.text.toList = (if i + 1 < entries.length then Text.dropLastMark '\r' entry.toList
        else entry.toList)
      ∧ Outcome.IsOf entry line.outcome

theorem Program.lists_parse (source : String) {entries : List String}
    (hnewline : ∀ entry ∈ entries, '\n' ∉ entry.toList) :
  (parse source ("\n".intercalate entries)).Lists source entries
  := by
  have htexts : ∀ text ∈ entries.map String.toList, '\n' ∉ text := by
    simpa using hnewline
  have htoList : ("\n".intercalate entries).toList =
      ['\n'].intercalate (entries.map String.toList) := String.toList_intercalate
  constructor
  · have hlast : (entries.map String.toList).getLast?.any List.isEmpty = true ↔
        entries.getLast? = some "" := by
      rw [List.getLast?_map]
      cases entries.getLast? <;> simp
    rw [length_lines_parse, htoList, Text.lines, Text.length_linesBy_intercalate htexts,
      List.length_map]
    simp only [hlast]
  · intro i entry line hentry hline
    rw [getElem?_lines_parse, htoList] at hline
    obtain ⟨chars, hchars, rfl⟩ := Option.map_eq_some_iff.mp hline
    have htext : (entries.map String.toList)[i]? = some entry.toList := by
      rw [List.getElem?_map, hentry, Option.map_some]
    have heq := Text.eq_of_getElem?_linesBy_intercalate htexts hchars htext
    rw [List.length_map] at heq
    refine ⟨rfl, rfl, (String.toList_ofList).trans heq, Line.isOf_ofChars ?_⟩
    rw [heq]
    split
    · apply Expression.tokens_dropLastMark
    · rfl

/-- An entry with newlines counts as the entries between them. -/
theorem Program.lists_parse_pieces (source : String) (entries : List String) :
  (parse source ("\n".intercalate entries)).Lists source (entries.flatMap Preset.pieces)
  := by
  rw [← Preset.intercalate_flatMap_pieces]
  apply lists_parse
  intro piece hpiece
  obtain ⟨entry, -, hmem⟩ := List.mem_flatMap.mp hpiece
  apply Preset.newline_notMem_of_mem_pieces hmem

namespace Settings

variable {settings other : Settings} {name : String}

/-- Settings that differ at most in what they declare under names of builtin presets have the
same presets. -/
theorem preset?_congr
    (h : ∀ name, (∀ preset ∈ Preset.builtins, preset.name ≠ name) →
      other.presets[name]? = settings.presets[name]?) (name : String) :
  other.preset? name = settings.preset? name
  := by
  rw [preset?, preset?]
  cases hbuiltin : Preset.builtin? name with
  | some preset => rfl
  | none => rw [h name (Preset.builtin?_eq_none_iff.mp hbuiltin)]

theorem mem_shadowed_iff :
  name ∈ settings.shadowed ↔
    name ∈ settings.presets ∧ ∃ preset ∈ Preset.builtins, preset.name = name
  := by
  rw [shadowed, List.mem_filter, Std.ExtTreeMap.mem_keys, isBuiltin, Option.isSome_iff_exists]
  simp only [Preset.builtin?_eq_some_iff]

/-- A program made from declared entries is not that of a builtin preset. -/
theorem exists_builtin_iff :
  (∃ preset ∈ Preset.builtins, settings.preset? name = some preset.program) ↔
    ∃ preset ∈ Preset.builtins, preset.name = name
  := by
  constructor
  · rintro ⟨preset, hmem, hpreset⟩
    cases hbuiltin : Preset.builtin? name with
    | some found => exact ⟨found, Preset.builtin?_eq_some_iff.mp hbuiltin⟩
    | none =>
      rw [Settings.preset?, hbuiltin] at hpreset
      obtain ⟨lines, -, hprogram⟩ := Option.map_eq_some_iff.mp hpreset
      obtain ⟨line, hline, hsource⟩ := Preset.exists_mem_program hmem
      rw [← hprogram] at hline
      have hname : Preset.sourceOf preset.name = Preset.sourceOf name :=
        hsource.symm.trans (Program.source_of_mem_parse hline)
      exact ⟨preset, hmem, Preset.sourceOf_injective hname⟩
  · rintro ⟨preset, hmem, rfl⟩
    use preset, hmem
    rw [Settings.preset?, Preset.builtin?_eq_some_iff.mpr ⟨hmem, rfl⟩]

end Settings

/-! ### Recipes -/

section Congruence

variable {m : Type → Type} [Host m] {settings other : Settings}

/-- An ingredient asks the settings for presets only. -/
theorem Ingredient.program_congr (h : ∀ name, other.preset? name = settings.preset? name)
    (ingredient : Ingredient) :
  (ingredient.program other : ExceptT Error m Program) = ingredient.program settings
  := by
  cases ingredient with
  | preset name => rw [program, presetProgram, h, program, presetProgram]
  | _ => rfl

theorem Recipe.program_congr (h : ∀ name, other.preset? name = settings.preset? name)
    (recipe : Recipe) :
  (recipe.program other : ExceptT Error m Program) = recipe.program settings
  := by
  rw [program, program]
  simp only [Ingredient.program_congr h]

end Congruence

/-! ### Resolution -/

/-- The name of a builtin preset stands for its program, and what settings declare under such names
makes no difference to any recipe.  Any other declared name stands for the program with the
entries as its lines, where an entry with newlines counts as the entries between them, and a name
that is neither builtin nor declared stands for nothing.  The shadowed names are the declared ones
that stand for the program of a builtin preset, each of them once. -/
theorem Settings.preset?_resolves (settings : Settings) :
  (∀ preset ∈ Preset.builtins, settings.preset? preset.name = some preset.program)
    ∧ (∀ other : Settings,
      (∀ name, (∀ preset ∈ Preset.builtins, preset.name ≠ name) →
        other.presets[name]? = settings.presets[name]?) →
      ∀ (m : Type → Type) [Host m] (recipe : Recipe),
        (recipe.program other : ExceptT Error m Program) = recipe.program settings)
    ∧ (∀ name entries, (∀ preset ∈ Preset.builtins, preset.name ≠ name) →
      settings.presets[name]? = some entries → ∃ p, settings.preset? name = some p
        ∧ p.Lists (Preset.sourceOf name) (entries.flatMap Preset.pieces)
        ∧ ((∀ entry ∈ entries, '\n' ∉ entry.toList) → p.Lists (Preset.sourceOf name) entries))
    ∧ (∀ name, settings.preset? name = none ↔
      (∀ preset ∈ Preset.builtins, preset.name ≠ name) ∧ settings.presets[name]? = none)
    ∧ (∀ name, name ∈ settings.shadowed ↔ name ∈ settings.presets
      ∧ ∃ preset ∈ Preset.builtins, settings.preset? name = some preset.program)
    ∧ settings.shadowed.Nodup
  := by
  refine ⟨?_, ?_, ?_, ?_, ?_, ?_⟩
  · intro preset hmem
    rw [preset?, Preset.builtin?_eq_some_iff.mpr ⟨hmem, rfl⟩]
  · intro other h m _ recipe
    apply Recipe.program_congr (preset?_congr h)
  · intro name entries hbuiltin hentries
    use Program.parse (Preset.sourceOf name) ("\n".intercalate entries)
    refine ⟨?_, Program.lists_parse_pieces _ entries, Program.lists_parse _⟩
    rw [preset?, Preset.builtin?_eq_none_iff.mpr hbuiltin, hentries]
    rfl
  · intro name
    rw [Ingredient.preset?_eq_none_iff, Preset.builtin?_eq_none_iff]
  · intro name
    rw [mem_shadowed_iff, exists_builtin_iff]
  · apply settings.presets.nodup_keys.filter

/-- Settings that declare a preset of four entries, one of them with a return at its end, one a
comment and the last one empty. -/
def Settings.nightly : Settings :=
  { Settings.default with
    presets := (∅ : Std.ExtTreeMap String (List String)).insert "night"
      ["? ? ? ?  -40% -40% ? ?\r", "; dusk", "bad line", ""] }

/-- The same settings with a preset under the name of a builtin one. -/
def Settings.nightlyShadowing : Settings :=
  { Settings.nightly with
    presets := Settings.nightly.presets.insert "opaque" ["? ? ? ?  ? ? ? 0"] }

/-- The preset of four entries has three lines, and the shadowed one makes no difference. -/
theorem Settings.preset?_nightly :
  (∃ p, Settings.nightlyShadowing.preset? "night" = some p
      ∧ p.Lists "preset:night" ["? ? ? ?  -40% -40% ? ?\r", "; dusk", "bad line", ""]
      ∧ p.lines.length = 3)
    ∧ Settings.nightlyShadowing.preset? "sepia" = none
    ∧ "opaque" ∈ Settings.nightlyShadowing.shadowed
    ∧ ∀ recipe : Recipe,
      (recipe.program Settings.nightly : ExceptT Error (StateM Session) Program) =
        recipe.program Settings.nightlyShadowing
  := by
  obtain ⟨hbuiltin, hrecipe, hlists, hnone, hshadowed, -⟩ :=
    Settings.nightlyShadowing.preset?_resolves
  refine ⟨?_, ?_, ?_, ?_⟩
  · obtain ⟨p, hp, -, hentries⟩ := hlists "night" _ (by decide) rfl
    have h := hentries (by decide)
    exact ⟨p, hp, h, h.length_eq⟩
  · apply (hnone "sepia").mpr
    exact ⟨by decide, rfl⟩
  · apply (hshadowed "opaque").mpr
    constructor
    · decide
    · exact ⟨_, List.getLast_mem (List.cons_ne_nil _ _), hbuiltin _ (List.getLast_mem _)⟩
  · apply hrecipe
    intro name hname
    have hne : "opaque" ≠ name := hname (Preset.builtins.getLast (List.cons_ne_nil _ _))
      (List.getLast_mem _)
    rw [Settings.nightlyShadowing, Std.ExtTreeMap.getElem?_insert, if_neg]
    rwa [Std.LawfulEqCmp.compare_eq_iff_eq]

/-- Settings that declare a preset whose one entry holds a newline. -/
def Settings.twoInOne : Settings :=
  { Settings.default with
    presets := (∅ : Std.ExtTreeMap String (List String)).insert "night"
      ["? ? ? ?  -40% -40% ? ?\n? ? ? ?  ? ? ? 0"] }

/-- A preset is not missing because an entry of it holds a newline. -/
theorem Settings.preset?_twoInOne :
  Settings.parse .plain
      "presets:\n  night:\n    - \"? ? ? ?  -40% -40% ? ?\\n? ? ? ?  ? ? ? 0\"\n" = .ok .twoInOne
    ∧ (∀ preset ∈ Preset.builtins, preset.name ≠ "night")
    ∧ (¬∃ entries, Settings.twoInOne.presets["night"]? = some entries
      ∧ ∀ entry ∈ entries, '\n' ∉ entry.toList)
    ∧ Settings.twoInOne.preset? "night" ≠ none
  := by
  have hparse : (Settings.parse .plain
      "presets:\n  night:\n    - \"? ? ? ?  -40% -40% ? ?\\n? ? ? ?  ? ? ? 0\"\n").toOption =
        some .twoInOne := by
    decide +kernel
  refine ⟨toOption_eq_some_iff.mp hparse, by decide, ?_, by decide⟩
  rintro ⟨_, ⟨⟩, hnewline⟩
  exact absurd (hnewline _ (List.mem_singleton_self _)) (by decide)

end Recolour
