import Recolour.Host
import Recolour.Rule.Parser
import Recolour.Settings
import Recolour.Text.Utf8

/-!
# Recipes

A recipe names the ingredients a program is put together from.  `ingredients` lists them in
the order in which their lines follow one another: presets, brightness, map files, single
lines, and last the pair of a match and a produce rule.  The first ingredient that fails
spoils the recipe.
-/

namespace Recolour

/-- The text in the file at a path. `doing` tells what for. -/
def readText {m : Type → Type} [Host m] (doing path : String) : ExceptT Error m String := do
  match ← (Host.read path : m _) with
  | .error refusal => throw (.file path (doing ++ ": " ++ refusal.message))
  | .ok bytes =>
    match Utf8.decode bytes with
    | some text => return String.ofList text
    | none => throw (.file path (doing ++ ": " ++ Program.invalidText))

/-- The program in the map file at a path. -/
def Program.load {m : Type → Type} [Host m] (path : String) : ExceptT Error m Program :=
  return Program.parse path (← readText "Failed to read map file" path)

/-- What a program is put together from. -/
structure Recipe where
  /-- The names of presets. -/
  presets : List String
  /-- A channel to apply to the three colours. -/
  brightness : Option String
  /-- The paths of map files. -/
  maps : List String
  /-- Texts of lines. -/
  lines : List String
  /-- A match rule and a produce rule. -/
  pair : Option (String × String)

/-- One part of a recipe. -/
inductive Ingredient where
  | preset (name : String)
  | brightness (token : String)
  | map (path : String)
  /-- The line given in the place `number` among the lines, from 1. -/
  | line (number : Nat) (text : String)
  | pair (filter formula : String)
  deriving DecidableEq

namespace Ingredient

/-- The program of a preset in the settings. -/
def presetProgram (settings : Settings) (name : String) : Except Error Program :=
  match settings.preset? name with
  | some program => .ok program
  | none => .error (.validation ("unknown preset " ++ Text.quoted name)
      (some "Run `imgmap presets` to list the available presets"))

/-- The program that applies a channel to the three colours. -/
def brightnessProgram (token : String) : Except Error Program := do
  let channel ← (Channel.parse token).mapError fun m => m.error.within "--brightness"
  return (← (Preset.brightness channel).mapError Illegality.error).program

/-- The program of one expression, given by its rules. -/
def pairProgram (filter formula : String) : Except Error Program := do
  let filter ← (Rule.parse filter).mapError fun m => m.error.within "--from"
  let filter ← filter.checkMatch.mapError fun i => i.error.within "--from"
  let formula ← (Rule.parse formula).mapError fun m => m.error.within "--to"
  let formula ← formula.checkProduce.mapError fun i => i.error.within "--to"
  return Program.ofExpressions "<from/to>" [⟨filter, formula⟩]

/-- The program an ingredient contributes. -/
def program {m : Type → Type} [Host m] (settings : Settings) :
    Ingredient → ExceptT Error m Program
  | preset name => ExceptT.mk (pure (presetProgram settings name))
  | brightness token => ExceptT.mk (pure (brightnessProgram token))
  | map path => Program.load path
  | line number text => pure (Program.parse ("<expr " ++ toString number ++ ">") text)
  | pair filter formula => ExceptT.mk (pure (pairProgram filter formula))

end Ingredient

namespace Recipe

/-- The parts of a recipe in order. -/
def ingredients (recipe : Recipe) : List Ingredient :=
  recipe.presets.map .preset ++ recipe.brightness.toList.map .brightness
    ++ recipe.maps.map .map
    ++ (recipe.lines.zipIdx 1).map (fun (text, number) => .line number text)
    ++ recipe.pair.toList.map (fun (filter, formula) => .pair filter formula)

/-- The program of a recipe: the programs of its ingredients one after another. -/
def program {m : Type → Type} [Host m] (settings : Settings) (recipe : Recipe) :
    ExceptT Error m Program :=
  recipe.ingredients.foldlM
    (fun (sofar : Program) ingredient => return sofar ++ (← ingredient.program settings))
    Program.empty

end Recipe

end Recolour
