import Recolour.Proofs.Recipe.Ingredient
import Recolour.Proofs.Running

/-!
# The segments of a recipe

The program of a recipe is the concatenation of one segment for each ingredient, and there is
one unless some ingredient fails; the first that fails gives the error.  A segment numbers its
lines from 1 under a label of its own.  To run a concatenation is to run the segments one after
another, each on the image the one before it left.
-/

namespace Recolour

/-! ### Running one program after another -/

/-- Two runs one after another as a single one. -/
def Execution.andThen (first second : Execution) : Execution where
  image := second.image
  applied := first.applied + second.applied
  skipped := first.skipped + second.skipped
  rejected := first.rejected ++ second.rejected

namespace Program

/-- Run programs one after another, each on the image the one before it left. -/
def runEach (byRows : Bool) : List Program → Image → Except Error Execution
  | [], image => .ok ⟨image, 0, 0, []⟩
  | p :: segments, image => do
    let first ← p.run byRows image
    let rest ← runEach byRows segments first.image
    return first.andThen rest

/-- The lines of some programs one after another. -/
def concat (segments : List Program) : Program :=
  ⟨segments.flatMap lines⟩

theorem foldl_append (segments : List Program) (start : Program) :
  segments.foldl (· ++ ·) start = ⟨start.lines ++ segments.flatMap lines⟩
  := by
  induction segments generalizing start with
  | nil => simp
  | cons p segments ih =>
    rw [List.foldl_cons, ih, List.flatMap_cons, ← List.append_assoc]
    rfl

theorem execution_concat_cons (p : Program) (segments : List Program) (image : Image) :
  (concat (p :: segments)).execution image =
    (p.execution image).andThen ((concat segments).execution (p.execution image).image)
  := by
  simp only [execution, Execution.andThen, concat, expressions, rejected, List.flatMap_cons,
    List.filterMap_append, List.countP_append, List.filter_append, Image.map_map]
  congr 2
  funext pixel
  apply Expression.recolourAll_append

theorem runEach_eq_execution (byRows : Bool) (segments : List Program) (image : Image) :
  runEach byRows segments image = .ok ((concat segments).execution image)
  := by
  induction segments generalizing image with
  | nil =>
    rw [runEach, execution]
    congr 2
    exact (Image.map_id image).symm
  | cons p segments ih =>
    rw [runEach, run_eq_execution, execution_concat_cons]
    simp only [bind, Except.bind, ih]
    rfl

/-! ### Places of lines -/

/-- The lines are numbered from 1 under one label. -/
def IsNumbered (p : Program) (label : String) : Prop :=
  p.lines.map (fun line => (line.source, line.number)) =
    (List.range' 1 p.lines.length).map fun number => (label, number)

theorem isNumbered_of_map_zipIdx {α : Type} {label : String} {xs : List α} {line : α × Nat → Line}
    (h : ∀ entry, (line entry).source = label ∧ (line entry).number = entry.2) :
  IsNumbered ⟨(xs.zipIdx 1).map line⟩ label
  := by
  have hplace : (fun l : Line => (l.source, l.number)) ∘ line = fun entry => (label, entry.2) := by
    funext entry
    exact Prod.ext (h entry).1 (h entry).2
  rw [IsNumbered, List.map_map, hplace, List.length_map, List.length_zipIdx,
    ← List.zipIdx_map_snd 1 xs, List.map_map]
  rfl

theorem isNumbered_parse (source text : String) :
  (parse source text).IsNumbered source
  := isNumbered_of_map_zipIdx fun _ => ⟨rfl, rfl⟩

theorem isNumbered_ofExpressions (source : String) (expressions : List Expression) :
  (ofExpressions source expressions).IsNumbered source
  := isNumbered_of_map_zipIdx fun _ => ⟨rfl, rfl⟩

/-- The lines of a text that are rejected are those that are read as an error. -/
theorem rejected_mem_parse_iff {source text : String} {number : Nat} {chars : List Char}
    {error : Error} :
  ⟨source, number + 1, String.ofList chars, .rejected error⟩ ∈ (parse source text).lines ↔
    (Text.lines text.toList)[number]? = some chars ∧ Expression.ofLine chars = .error error
  := by
  rw [parse, ofTexts, List.mem_map]
  constructor
  · rintro ⟨⟨other, place⟩, hmem, hline⟩
    obtain ⟨-, rfl, htext, houtcome⟩ := Line.mk.inj hline
    obtain rfl := String.ofList_injective htext
    constructor
    · apply List.mk_add_mem_zipIdx_iff_getElem?.mp
      rwa [Nat.add_comm]
    · cases hread : Expression.ofLine other with
      | error cause =>
        simp only [hread, Outcome.rejected.injEq] at houtcome
        rw [houtcome]
      | ok answer => cases answer <;> simp [hread] at houtcome
  · rintro ⟨hget, hread⟩
    use (chars, number + 1)
    constructor
    · rw [Nat.add_comm]
      apply List.mk_add_mem_zipIdx_iff_getElem?.mpr hget
    · simp only [Line.ofChars, hread]

end Program

/-! ### The segments of a recipe -/

namespace Ingredient

/-- The source of the lines that an ingredient contributes. -/
def label : Ingredient → String
  | preset name => Preset.sourceOf name
  | brightness _ => Preset.sourceOf "brightness"
  | map path => path
  | line number _ => "<expr " ++ toString number ++ ">"
  | pair _ _ => "<from/to>"

variable {settings : Settings} {session : Session} {p : Program}

theorem isNumbered_of_yields {ingredient : Ingredient} (h : ingredient.Yields settings session p) :
  p.IsNumbered ingredient.label
  := by
  cases h with
  | @builtin name preset h =>
    have hname : preset.name = name := by
      simpa using List.find?_some h
    rw [← hname]
    apply Program.isNumbered_ofExpressions
  | declared hbuiltin h => apply Program.isNumbered_parse
  | brightness hread hproduce => apply Program.isNumbered_ofExpressions
  | map h => apply Program.isNumbered_parse
  | line number text => apply Program.isNumbered_parse
  | pair hfilter hmatch hformula hproduce => apply Program.isNumbered_ofExpressions

theorem exists_yields_brightness_iff {token : String} :
  (∃ p, Yields settings session (.brightness token) p) ↔
    ∃ c, Channel.parse token = .ok c ∧ c.MayProduce
  := by
  constructor
  · rintro ⟨_, _ | _ | ⟨hread, hproduce⟩⟩
    exact ⟨_, hread, hproduce⟩
  · rintro ⟨c, hread, hproduce⟩
    exact ⟨_, .brightness hread hproduce⟩

theorem exists_yields_map_iff {path : String} :
  (∃ p, Yields settings session (.map path) p) ↔
    ∃ text : String, session.tree.read session.base path = .ok (Utf8.encode text.toList)
  := by
  constructor
  · rintro ⟨_, _ | _ | _ | hread⟩
    exact ⟨_, hread⟩
  · rintro ⟨text, hread⟩
    exact ⟨_, .map hread⟩

theorem exists_yields_pair_iff {filter formula : String} :
  (∃ p, Yields settings session (.pair filter formula) p) ↔
    (∃ r, Rule.parse filter = .ok r ∧ ∀ plane, (r.get plane).MayMatch) ∧
      ∃ s, Rule.parse formula = .ok s ∧ ∀ plane, (s.get plane).MayProduce
  := by
  constructor
  · rintro ⟨_, _ | _ | _ | _ | _ | ⟨hfilter, hmatch, hformula, hproduce⟩⟩
    exact ⟨⟨_, hfilter, hmatch⟩, _, hformula, hproduce⟩
  · rintro ⟨⟨r, hfilter, hmatch⟩, s, hformula, hproduce⟩
    exact ⟨_, .pair hfilter hmatch hformula hproduce⟩

end Ingredient

namespace Recipe

variable {settings : Settings} {session : Session} {recipe : Recipe} {p : Program} {error : Error}

/-- Nothing in the recipe fails: its presets have lines, its channel and its rules are read and
legal, and its map files hold texts. -/
structure IsSound (recipe : Recipe) (settings : Settings) (session : Session) : Prop where
  presets : ∀ name ∈ recipe.presets, ∃ p, settings.preset? name = some p
  brightness : ∀ token ∈ recipe.brightness, ∃ c, Channel.parse token = .ok c ∧ c.MayProduce
  maps : ∀ path ∈ recipe.maps,
    ∃ text : String, session.tree.read session.base path = .ok (Utf8.encode text.toList)
  pair : ∀ rules ∈ recipe.pair,
    (∃ r, Rule.parse rules.1 = .ok r ∧ ∀ plane, (r.get plane).MayMatch) ∧
      ∃ s, Rule.parse rules.2 = .ok s ∧ ∀ plane, (s.get plane).MayProduce

theorem isSound_iff :
  recipe.IsSound settings session ↔
    ∀ ingredient ∈ recipe.ingredients, ∃ p, ingredient.Yields settings session p
  := by
  have hline : ∀ number text, ∃ p, Ingredient.Yields settings session (.line number text) p :=
    fun number text => ⟨_, .line number text⟩
  simp only [ingredients, List.forall_mem_append, List.forall_mem_map, Option.mem_toList,
    Ingredient.yields_preset_iff, Ingredient.exists_yields_brightness_iff,
    Ingredient.exists_yields_map_iff, Ingredient.exists_yields_pair_iff, hline, implies_true,
    and_true]
  constructor
  · rintro ⟨hpresets, hbrightness, hmaps, hpair⟩
    exact ⟨⟨⟨hpresets, hbrightness⟩, hmaps⟩, hpair⟩
  · rintro ⟨⟨⟨hpresets, hbrightness⟩, hmaps⟩, hpair⟩
    exact ⟨hpresets, hbrightness, hmaps, hpair⟩

theorem answer_program :
  session.answer (recipe.program settings) =
    (recipe.ingredients.mapM fun i => session.answer (i.program settings)).map Program.concat
  := by
  rw [program]
  apply (Session.answer_join (OnlyReads.program settings) (· ++ ·) _ Program.empty).trans
  congr 1
  funext segments
  rw [Program.foldl_append]
  rfl

theorem answer_program_eq_ok_iff :
  session.answer (recipe.program settings) = .ok p ↔
    ∃ segments, p = Program.concat segments
      ∧ List.Forall₂ (fun ingredient q => ingredient.Yields settings session q)
        recipe.ingredients segments
  := by
  rw [answer_program, map_eq_ok_iff]
  simp only [mapM_eq_ok_iff, Ingredient.answer_program_eq_ok_iff, and_comm]

theorem answer_program_eq_error_iff :
  session.answer (recipe.program settings) = .error error ↔
    ∃ before ingredient behind, recipe.ingredients = before ++ ingredient :: behind
      ∧ (∀ earlier ∈ before, ∃ q, earlier.Yields settings session q)
      ∧ ingredient.Fails settings session error
  := by
  rw [answer_program, map_eq_error_iff, mapM_eq_error_iff]
  simp only [Ingredient.answer_program_eq_ok_iff, Ingredient.answer_program_eq_error_iff]

theorem exists_answer_program_iff :
  (∃ p, session.answer (recipe.program settings) = .ok p) ↔ recipe.IsSound settings session
  := by
  rw [answer_program, exists_map_eq_ok_iff, exists_mapM_eq_ok_iff, isSound_iff]
  simp only [Ingredient.answer_program_eq_ok_iff]

end Recipe

end Recolour
