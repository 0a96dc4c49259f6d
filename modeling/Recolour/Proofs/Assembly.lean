import Recolour.Proofs.Reading.Line
import Recolour.Proofs.StrictRecolouring
import Recolour.Recipe
import Recolour.Session

/-!
# Assembled programs are legal

Every way to put a program together checks its rules: lines are checked as they are read,
brightness and pairs when they are asked for, and the builtin presets are legal as they stand.
So the expressions of an assembled program are legal, and a run of one never meets a channel
without meaning on its side.
-/

namespace Recolour

/-- The programs that can be put together: those that a text or some bytes spell, the presets,
and what any recipe gives in any session. -/
inductive Program.Assembled : Program → Prop where
  | text (source text : String) : Assembled (parse source text)
  | bytes {source : String} {bytes : List UInt8} {p : Program}
      (h : ofBytes source bytes = .ok p) : Assembled p
  | builtin {preset : Preset} (h : preset ∈ Preset.builtins) : Assembled preset.program
  | brightness {c : Channel} {preset : Preset} (h : Preset.brightness c = .ok preset) :
      Assembled preset.program
  | preset {settings : Settings} {name : String} {p : Program}
      (h : settings.preset? name = some p) : Assembled p
  | recipe {settings : Settings} {recipe : Recipe} {session : Session} {p : Program}
      (h : ((recipe.program (m := StateM Session) settings).run.run session).1 = .ok p) :
      Assembled p

/-! ### Texts -/

namespace Program

variable {p q : Program}

theorem isLegal_empty :
  empty.IsLegal
  := by
  intro e he
  cases he

theorem IsLegal.append (hp : p.IsLegal) (hq : q.IsLegal) :
  (p ++ q).IsLegal
  := by
  have hexpressions : (p ++ q).expressions = p.expressions ++ q.expressions :=
    List.filterMap_append
  intro e he
  rw [hexpressions, List.mem_append] at he
  obtain he | he := he
  · apply hp e he
  · apply hq e he

theorem isLegal_ofTexts (source : String) (texts : List (List Char)) :
  (ofTexts source texts).IsLegal
  := by
  intro e he
  obtain ⟨text, -, hread⟩ := mem_expressions_ofTexts.mp he
  apply (Expression.ofLine_eq_ok_some_iff.mp hread).legal

theorem isLegal_parse (source text : String) :
  (parse source text).IsLegal
  := isLegal_ofTexts source _

theorem isLegal_of_ofBytes {source : String} {bytes : List UInt8}
    (h : ofBytes source bytes = .ok p) :
  p.IsLegal
  := by
  rw [ofBytes] at h
  split at h
  · obtain rfl := Except.ok.inj h
    apply isLegal_ofTexts
  · cases h

theorem expressions_ofExpressions (source : String) (expressions : List Expression) :
  (ofExpressions source expressions).expressions = expressions
  := by
  simp only [Program.expressions, ofExpressions, List.filterMap_map, Function.comp_def,
    Line.expression?, List.filterMap_eq_map']
  apply List.zipIdx_map_fst

theorem isLegal_ofExpressions {source : String} {expressions : List Expression}
    (h : ∀ e ∈ expressions, e.IsLegal) :
  (ofExpressions source expressions).IsLegal
  := by
  rw [IsLegal, expressions_ofExpressions]
  apply h

end Program

/-! ### Presets -/

theorem Rule.mayMatch_wildcard (plane : Plane) :
  (wildcard.get plane).MayMatch
  := by
  cases plane <;> trivial

namespace Preset

theorem isLegal_of_mem_builtins {preset : Preset} (h : preset ∈ builtins) :
  preset.program.IsLegal
  := by
  have hlegal : ∀ preset ∈ builtins, ∀ e ∈ preset.expressions, e.IsLegal := by decide
  apply Program.isLegal_ofExpressions (hlegal preset h)

/-- Brightness goes without a check of the match rule, which is a wildcard. -/
theorem isLegal_of_brightness {c : Channel} {preset : Preset} (h : brightness c = .ok preset) :
  preset.program.IsLegal
  := by
  simp only [brightness, bind_eq_ok_iff, pure_eq_ok_iff, Rule.checkProduce_eq_ok_iff] at h
  obtain ⟨_, ⟨rfl, hproduce⟩, rfl⟩ := h
  apply Program.isLegal_ofExpressions
  intro e he
  obtain rfl := List.mem_singleton.mp he
  exact ⟨Rule.mayMatch_wildcard, hproduce⟩

end Preset

theorem Settings.isLegal_of_preset? {settings : Settings} {name : String} {p : Program}
    (h : settings.preset? name = some p) :
  p.IsLegal
  := by
  rw [preset?] at h
  split at h
  · rename_i preset hbuiltin
    obtain rfl := Option.some.inj h
    apply Preset.isLegal_of_mem_builtins (List.mem_of_find?_eq_some hbuiltin)
  · obtain ⟨lines, -, rfl⟩ := Option.map_eq_some_iff.mp h
    apply Program.isLegal_parse

/-! ### Recipes -/

namespace Ingredient

theorem isLegal_of_presetProgram {settings : Settings} {name : String} {p : Program}
    (h : presetProgram settings name = .ok p) :
  p.IsLegal
  := by
  rw [presetProgram] at h
  split at h
  · rename_i program hpreset
    obtain rfl := Except.ok.inj h
    apply Settings.isLegal_of_preset? hpreset
  · cases h

theorem isLegal_of_brightnessProgram {token : String} {p : Program}
    (h : brightnessProgram token = .ok p) :
  p.IsLegal
  := by
  simp only [brightnessProgram, bind_eq_ok_iff, pure_eq_ok_iff, mapError_eq_ok_iff] at h
  obtain ⟨c, -, preset, hbrightness, rfl⟩ := h
  apply Preset.isLegal_of_brightness hbrightness

theorem isLegal_of_pairProgram {filter formula : String} {p : Program}
    (h : pairProgram filter formula = .ok p) :
  p.IsLegal
  := by
  simp only [pairProgram, bind_eq_ok_iff, pure_eq_ok_iff, mapError_eq_ok_iff,
    Rule.checkMatch_eq_ok_iff, Rule.checkProduce_eq_ok_iff] at h
  obtain ⟨_, -, _, ⟨rfl, hmatch⟩, _, -, _, ⟨rfl, hproduce⟩, rfl⟩ := h
  apply Program.isLegal_ofExpressions
  intro e he
  obtain rfl := List.mem_singleton.mp he
  exact ⟨hmatch, hproduce⟩

variable {settings : Settings} {before after : Session} {p : Program}

/-- What an ingredient contributes is legal, whatever files it finds. -/
theorem isLegal_of_program {ingredient : Ingredient}
    (h : (ingredient.program (m := StateM Session) settings).run.run before = (.ok p, after)) :
  p.IsLegal
  := by
  cases ingredient with
  | preset name => apply isLegal_of_presetProgram (congrArg Prod.fst h)
  | brightness token => apply isLegal_of_brightnessProgram (congrArg Prod.fst h)
  | map path =>
    obtain ⟨text, _, -, hparse⟩ := run_bind_eq_ok_iff.mp h
    obtain rfl := Except.ok.inj (congrArg Prod.fst hparse)
    apply Program.isLegal_parse
  | line number text =>
    obtain rfl := Except.ok.inj (congrArg Prod.fst h)
    apply Program.isLegal_parse
  | pair filter formula => apply isLegal_of_pairProgram (congrArg Prod.fst h)

/-- One ingredient after another keeps a program legal. -/
theorem isLegal_of_foldlM {ingredients : List Ingredient} {sofar : Program}
    (hsofar : sofar.IsLegal)
    (h : (ingredients.foldlM
        (fun (sofar : Program) ingredient => return sofar ++ (← ingredient.program settings))
        sofar : ExceptT Error (StateM Session) Program).run.run before = (.ok p, after)) :
  p.IsLegal
  := by
  induction ingredients generalizing sofar before with
  | nil =>
    obtain rfl := Except.ok.inj (congrArg Prod.fst h)
    apply hsofar
  | cons ingredient ingredients ih =>
    rw [List.foldlM_cons] at h
    obtain ⟨next, between, hnext, hrest⟩ := run_bind_eq_ok_iff.mp h
    obtain ⟨more, _, hmore, happend⟩ := run_bind_eq_ok_iff.mp hnext
    obtain rfl := Except.ok.inj (congrArg Prod.fst happend)
    apply ih (hsofar.append (isLegal_of_program hmore)) hrest

end Ingredient

/-! ### Assembled programs -/

theorem Program.Assembled.isLegal {p : Program} (h : p.Assembled) :
  p.IsLegal
  := by
  cases h with
  | text source text => apply isLegal_parse
  | bytes h => apply isLegal_of_ofBytes h
  | builtin h => apply Preset.isLegal_of_mem_builtins h
  | brightness h => apply Preset.isLegal_of_brightness h
  | preset h => apply Settings.isLegal_of_preset? h
  | recipe h => apply Ingredient.isLegal_of_foldlM isLegal_empty (Prod.ext h rfl)

/-- The rules of an assembled program are legal, and its run on any image, by rows or by single
pixels, makes of it what the strict evaluation makes of it, which has no answer at a channel
without meaning on its side. -/
theorem Program.Assembled.runs_strictly {p : Program} (h : p.Assembled) :
  p.IsLegal ∧ ∀ byRows image, ∃ x, p.run byRows image = .ok x ∧ p.recolour? image = some x.image
  := by
  use h.isLegal
  intro byRows image
  obtain ⟨x, hrun, himage, -⟩ := p.exists_run byRows image
  use x, hrun
  rw [recolour?_eq_some h.isLegal, himage]

/-- A recipe with a preset of three expressions, brightness, a map file whose first line has a
reference on the match side, a line with a comparison on the produce side, and a pair. -/
theorem Program.strict_recipe :
  ∃ p : Program, p.Assembled ∧ p.lines.length = 8 ∧ p.expressions.length = 6 ∧ p.IsLegal
    ∧ ∃ x, p.run true ⟨1, 1, #[1, 2, 3, 4], rfl⟩ = .ok x
      ∧ p.recolour? ⟨1, 1, #[1, 2, 3, 4], rfl⟩ = some x.image
  := by
  let recipe : Recipe := ⟨["black-white"], some "-20%", ["m"], ["? ? ? ? 1 >2 3 ?"],
    some ("1 <=2 ? ?", "#r,+1,#b,?")⟩
  let session : Session := .start (FileTree.empty.put ["m"]
    (.file "8 #r ? ? 1 2 3 4\n? ? ? <9 ? ? ? 0".toUTF8.toList)) [] []
  have hrecipe : (((recipe.program (m := StateM Session) .default).run.run
      session).1.toOption.map fun p => (p.lines.length, p.expressions.length)) = some (8, 6) := by
    decide +kernel
  obtain ⟨p, hp, hlengths⟩ := Option.map_eq_some_iff.mp hrecipe
  have hassembled : p.Assembled := .recipe (toOption_eq_some_iff.mp hp)
  obtain ⟨hlegal, hstrict⟩ := hassembled.runs_strictly
  use p, hassembled, (Prod.mk.inj hlengths).1, (Prod.mk.inj hlengths).2, hlegal
  apply hstrict

end Recolour
