import Recolour.Proofs.Answer
import Recolour.Proofs.Legality
import Recolour.Proofs.Text.Utf8
import Recolour.Recipe

/-!
# What an ingredient contributes

In a session an ingredient contributes a program or fails. `Ingredient.Yields` lists the programs
and `Ingredient.Fails` the failures, each with its cause; what the lines of a text say is never
one.
-/

namespace Recolour

/-! ### Texts in files -/

namespace Session

variable {session : Session} {doing path text : String} {p : Program} {error : Error}

theorem answer_readText_of_refusal {refusal : Refusal}
    (h : session.tree.read session.base path = .error refusal) :
  session.answer (readText doing path) = .error (.file path (doing ++ ": " ++ refusal.message))
  := by
  have hread : (ExceptT.lift (Host.read path) : Session.Action _).run.run session =
      (.ok (.error refusal), session) := Prod.ext (congrArg Except.ok h) rfl
  rw [readText]
  apply (answer_bind_of_run hread).trans
  rfl

theorem answer_readText_of_bytes {bytes : List UInt8}
    (h : session.tree.read session.base path = .ok bytes) :
  session.answer (readText doing path) =
    ((Utf8.decode bytes).map String.ofList).elim
      (.error (.file path (doing ++ ": " ++ Program.invalidText))) .ok
  := by
  have hread : (ExceptT.lift (Host.read path) : Session.Action _).run.run session =
      (.ok (.ok bytes), session) := Prod.ext (congrArg Except.ok h) rfl
  rw [readText]
  apply (answer_bind_of_run hread).trans
  dsimp only
  cases Utf8.decode bytes <;> rfl

/-- A text is read from a file that holds its encoding. -/
theorem answer_readText_eq_ok_iff :
  session.answer (readText doing path) = .ok text ↔
    session.tree.read session.base path = .ok (Utf8.encode text.toList)
  := by
  cases hread : session.tree.read session.base path with
  | error refusal => simp [answer_readText_of_refusal hread]
  | ok bytes =>
    rw [answer_readText_of_bytes hread, Except.ok.injEq, ← Utf8.decode_eq_some_iff]
    cases Utf8.decode bytes with
    | none => simp
    | some chars =>
      simp only [Option.map_some, Option.elim_some, Except.ok.injEq, Option.some.injEq]
      constructor
      · rintro rfl
        rw [String.toList_ofList]
      · rintro rfl
        rw [String.ofList_toList]

/-- A text is not read if the file is not, or if it holds no encoding of a text. -/
theorem answer_readText_eq_error_iff :
  session.answer (readText doing path) = .error error ↔
    (∃ refusal, session.tree.read session.base path = .error refusal ∧
      error = .file path (doing ++ ": " ++ refusal.message)) ∨
    ∃ bytes, session.tree.read session.base path = .ok bytes ∧
      (∀ text : String, bytes ≠ Utf8.encode text.toList) ∧
      error = .file path (doing ++ ": " ++ Program.invalidText)
  := by
  cases hread : session.tree.read session.base path with
  | error refusal => simp [answer_readText_of_refusal hread, eq_comm]
  | ok bytes =>
    have hnone : Utf8.decode bytes = none ↔ ∀ text : String, bytes ≠ Utf8.encode text.toList := by
      simp only [ne_eq, ← Utf8.decode_eq_some_iff, Option.eq_none_iff_forall_ne_some]
      constructor
      · intro h text
        apply h
      · intro h chars
        have hchars := h (String.ofList chars)
        rwa [String.toList_ofList] at hchars
    simp only [reduceCtorEq, false_and, exists_false, false_or, Except.ok.injEq, exists_eq_left',
      ← hnone, answer_readText_of_bytes hread]
    cases Utf8.decode bytes with
    | none => simp [eq_comm]
    | some chars => simp

theorem answer_load_eq_ok_iff :
  session.answer (Program.load path) = .ok p ↔
    ∃ text : String, session.tree.read session.base path = .ok (Utf8.encode text.toList) ∧
      p = Program.parse path text
  := by
  rw [Program.load, answer_bind (OnlyReads.readText _ path) fun _ => OnlyReads.run_pure _,
    bind_eq_ok_iff]
  simp only [answer_readText_eq_ok_iff, answer_pure, Except.ok.injEq, eq_comm (a := p)]

theorem answer_load_eq_error_iff :
  session.answer (Program.load path) = .error error ↔
    session.answer (readText "Failed to read map file" path) = .error error
  := by
  rw [Program.load, answer_bind (OnlyReads.readText _ path) fun _ => OnlyReads.run_pure _,
    bind_eq_error_iff]
  simp [answer_pure]

end Session

theorem OnlyReads.load (path : String) :
  OnlyReads (Program.load path : Session.Action Program).run
  := by
  apply run_bind (readText _ path)
  intro text
  apply run_pure

/-! ### Ingredients -/

theorem Rule.mayProduce_gray {c : Channel} (h : c.MayProduce) (plane : Plane) :
  ((gray c).get plane).MayProduce
  := by
  cases plane with
  | alpha => trivial
  | _ => apply h

namespace Ingredient

variable {settings : Settings} {session : Session} {p : Program} {error : Error}

/-- The program that an ingredient contributes in a session. -/
inductive Yields (settings : Settings) (session : Session) : Ingredient → Program → Prop
  | builtin {name : String} {preset : Preset} (h : Preset.builtin? name = some preset) :
      Yields settings session (.preset name) preset.program
  | declared {name : String} {lines : List String} (hbuiltin : Preset.builtin? name = none)
      (h : settings.presets[name]? = some lines) :
      Yields settings session (.preset name)
        (.parse (Preset.sourceOf name) ("\n".intercalate lines))
  | brightness {token : String} {c : Channel} (hread : Channel.parse token = .ok c)
      (hproduce : c.MayProduce) :
      Yields settings session (.brightness token)
        (.ofExpressions (Preset.sourceOf "brightness") [⟨.wildcard, .gray c⟩])
  | map {path text : String}
      (h : session.tree.read session.base path = .ok (Utf8.encode text.toList)) :
      Yields settings session (.map path) (.parse path text)
  | line (number : Nat) (text : String) :
      Yields settings session (.line number text)
        (.parse ("<expr " ++ toString number ++ ">") text)
  | pair {filter formula : String} {r s : Rule} (hfilter : Rule.parse filter = .ok r)
      (hmatch : ∀ plane, (r.get plane).MayMatch) (hformula : Rule.parse formula = .ok s)
      (hproduce : ∀ plane, (s.get plane).MayProduce) :
      Yields settings session (.pair filter formula) (.ofExpressions "<from/to>" [⟨r, s⟩])

/-- The error that an ingredient fails with in a session, and its cause. Of the two rules of a
pair the match rule is read and checked first. -/
inductive Fails (settings : Settings) (session : Session) : Ingredient → Error → Prop
  | preset {name : String} (hbuiltin : Preset.builtin? name = none)
      (h : settings.presets[name]? = none) :
      Fails settings session (.preset name)
        (.validation ("unknown preset " ++ Text.quoted name)
          (some "Run `imgmap presets` to list the available presets"))
  | brightness {token : String} {m : Misreading} (h : Channel.parse token = .error m) :
      Fails settings session (.brightness token) (m.error.within "--brightness")
  | brightnessFault {token : String} {c : Channel} {i : Illegality}
      (hread : Channel.parse token = .ok c) (h : (Rule.gray c).produceFault? = some i) :
      Fails settings session (.brightness token) i.error
  | map {path : String} {refusal : Refusal}
      (h : session.tree.read session.base path = .error refusal) :
      Fails settings session (.map path)
        (.file path ("Failed to read map file: " ++ refusal.message))
  | mapText {path : String} {bytes : List UInt8}
      (h : session.tree.read session.base path = .ok bytes)
      (hbytes : ∀ text : String, bytes ≠ Utf8.encode text.toList) :
      Fails settings session (.map path)
        (.file path ("Failed to read map file: " ++ Program.invalidText))
  | filter {filter formula : String} {m : Misreading} (h : Rule.parse filter = .error m) :
      Fails settings session (.pair filter formula) (m.error.within "--from")
  | filterFault {filter formula : String} {r : Rule} {i : Illegality}
      (hfilter : Rule.parse filter = .ok r) (h : r.matchFault? = some i) :
      Fails settings session (.pair filter formula) (i.error.within "--from")
  | formula {filter formula : String} {r : Rule} {m : Misreading}
      (hfilter : Rule.parse filter = .ok r) (hmatch : r.matchFault? = none)
      (h : Rule.parse formula = .error m) :
      Fails settings session (.pair filter formula) (m.error.within "--to")
  | formulaFault {filter formula : String} {r s : Rule} {i : Illegality}
      (hfilter : Rule.parse filter = .ok r) (hmatch : r.matchFault? = none)
      (hformula : Rule.parse formula = .ok s) (h : s.produceFault? = some i) :
      Fails settings session (.pair filter formula) (i.error.within "--to")

theorem yields_preset_iff {name : String} :
  Yields settings session (.preset name) p ↔ settings.preset? name = some p
  := by
  rw [Settings.preset?]
  constructor
  · rintro (hbuiltin | ⟨hbuiltin, hdeclared⟩)
    · rw [hbuiltin]
    · rw [hbuiltin, hdeclared]
      rfl
  · intro h
    cases hbuiltin : Preset.builtin? name with
    | some preset =>
      rw [hbuiltin] at h
      obtain rfl := Option.some.inj h
      apply Yields.builtin hbuiltin
    | none =>
      rw [hbuiltin] at h
      obtain ⟨lines, hdeclared, rfl⟩ := Option.map_eq_some_iff.mp h
      apply Yields.declared hbuiltin hdeclared

theorem preset?_eq_none_iff {name : String} :
  settings.preset? name = none ↔ Preset.builtin? name = none ∧ settings.presets[name]? = none
  := by
  rw [Settings.preset?]
  cases Preset.builtin? name <;> simp

theorem presetProgram_eq_ok_iff {name : String} :
  presetProgram settings name = .ok p ↔ Yields settings session (.preset name) p
  := by
  rw [yields_preset_iff, presetProgram]
  cases settings.preset? name <;> simp

theorem presetProgram_eq_error_iff {name : String} :
  presetProgram settings name = .error error ↔ Fails settings session (.preset name) error
  := by
  rw [presetProgram]
  cases hpreset : settings.preset? name with
  | some program =>
    simp only [reduceCtorEq, false_iff]
    rintro ⟨hbuiltin, hdeclared⟩
    simp [preset?_eq_none_iff.mpr ⟨hbuiltin, hdeclared⟩] at hpreset
  | none =>
    obtain ⟨hbuiltin, hdeclared⟩ := preset?_eq_none_iff.mp hpreset
    constructor
    · rintro ⟨⟩
      apply Fails.preset hbuiltin hdeclared
    · rintro ⟨⟩
      rfl

theorem brightnessProgram_eq_ok_iff {token : String} :
  brightnessProgram token = .ok p ↔ Yields settings session (.brightness token) p
  := by
  simp only [brightnessProgram, Preset.brightness, bind_eq_ok_iff, pure_eq_ok_iff,
    mapError_eq_ok_iff, Rule.checkProduce_eq_ok_iff]
  constructor
  · rintro ⟨c, hread, _, ⟨_, ⟨rfl, hproduce⟩, rfl⟩, rfl⟩
    apply Yields.brightness hread (hproduce .red)
  · rintro (_ | _ | ⟨hread, hproduce⟩)
    refine ⟨_, hread, _, ⟨_, ⟨rfl, ?_⟩, rfl⟩, rfl⟩
    apply Rule.mayProduce_gray hproduce

theorem brightnessProgram_eq_error_iff {token : String} :
  brightnessProgram token = .error error ↔ Fails settings session (.brightness token) error
  := by
  simp only [brightnessProgram, Preset.brightness, bind_eq_error_iff, bind_eq_ok_iff,
    mapError_eq_ok_iff, mapError_eq_error_iff, Rule.checkProduce_eq_error_iff]
  constructor
  · rintro (⟨m, hm, rfl⟩ | ⟨c, hread, ⟨i, hi | ⟨_, _, ⟨⟩⟩, rfl⟩ | ⟨_, _, ⟨⟩⟩⟩)
    · apply Fails.brightness hm
    · apply Fails.brightnessFault hread hi
  · rintro (_ | hm | ⟨hread, hi⟩)
    · left
      exact ⟨_, hm, rfl⟩
    · right
      exact ⟨_, hread, Or.inl ⟨_, Or.inl hi, rfl⟩⟩

theorem pairProgram_eq_ok_iff {filter formula : String} :
  pairProgram filter formula = .ok p ↔ Yields settings session (.pair filter formula) p
  := by
  simp only [pairProgram, bind_eq_ok_iff, pure_eq_ok_iff, mapError_eq_ok_iff,
    Rule.checkMatch_eq_ok_iff, Rule.checkProduce_eq_ok_iff]
  constructor
  · rintro ⟨r, hfilter, _, ⟨rfl, hmatch⟩, s, hformula, _, ⟨rfl, hproduce⟩, rfl⟩
    apply Yields.pair hfilter hmatch hformula hproduce
  · rintro (_ | _ | _ | _ | _ | ⟨hfilter, hmatch, hformula, hproduce⟩)
    exact ⟨_, hfilter, _, ⟨rfl, hmatch⟩, _, hformula, _, ⟨rfl, hproduce⟩, rfl⟩

theorem pairProgram_eq_error_iff {filter formula : String} :
  pairProgram filter formula = .error error ↔
    Fails settings session (.pair filter formula) error
  := by
  simp only [pairProgram, bind_eq_error_iff, mapError_eq_ok_iff, mapError_eq_error_iff,
    Rule.checkMatch_eq_error_iff, Rule.checkProduce_eq_error_iff, Rule.checkMatch_eq_ok_iff,
    ← Rule.isMatchLegal_iff]
  constructor
  · rintro (⟨m, hm, rfl⟩ | ⟨r, hfilter, ⟨i, hi, rfl⟩ | ⟨_, ⟨rfl, hmatch⟩, ⟨m, hm, rfl⟩ |
      ⟨s, hformula, ⟨i, hi, rfl⟩ | ⟨_, _, ⟨⟩⟩⟩⟩⟩)
    · apply Fails.filter hm
    · apply Fails.filterFault hfilter hi
    · apply Fails.formula hfilter hmatch hm
    · apply Fails.formulaFault hfilter hmatch hformula hi
  · intro h
    cases h with
    | filter hm =>
      left
      exact ⟨_, hm, rfl⟩
    | filterFault hfilter hi =>
      right
      exact ⟨_, hfilter, Or.inl ⟨_, hi, rfl⟩⟩
    | formula hfilter hmatch hm =>
      right
      exact ⟨_, hfilter, Or.inr ⟨_, ⟨rfl, hmatch⟩, Or.inl ⟨_, hm, rfl⟩⟩⟩
    | formulaFault hfilter hmatch hformula hi =>
      right
      refine ⟨_, hfilter, Or.inr ⟨_, ⟨rfl, hmatch⟩, Or.inr ⟨_, hformula, ?_⟩⟩⟩
      left
      exact ⟨_, hi, rfl⟩

/-- An ingredient contributes what it yields. -/
theorem answer_program_eq_ok_iff {ingredient : Ingredient} :
  session.answer (ingredient.program settings) = .ok p ↔ ingredient.Yields settings session p
  := by
  cases ingredient with
  | preset name => apply presetProgram_eq_ok_iff
  | brightness token => apply brightnessProgram_eq_ok_iff
  | map path =>
    apply Session.answer_load_eq_ok_iff.trans
    constructor
    · rintro ⟨text, hread, rfl⟩
      apply Yields.map hread
    · rintro (_ | _ | _ | hread)
      exact ⟨_, hread, rfl⟩
  | line number text =>
    constructor
    · rintro ⟨⟩
      apply Yields.line
    · rintro ⟨⟩
      rfl
  | pair filter formula => apply pairProgram_eq_ok_iff

/-- An ingredient fails where it yields nothing, with the error of its cause. -/
theorem answer_program_eq_error_iff {ingredient : Ingredient} :
  session.answer (ingredient.program settings) = .error error ↔
    ingredient.Fails settings session error
  := by
  cases ingredient with
  | preset name => apply presetProgram_eq_error_iff
  | brightness token => apply brightnessProgram_eq_error_iff
  | map path =>
    rw [program, Session.answer_load_eq_error_iff, Session.answer_readText_eq_error_iff]
    constructor
    · rintro (⟨refusal, hread, rfl⟩ | ⟨bytes, hread, hbytes, rfl⟩)
      · apply Fails.map hread
      · apply Fails.mapText hread hbytes
    · intro h
      cases h with
      | map hread =>
        left
        exact ⟨_, hread, rfl⟩
      | mapText hread hbytes =>
        right
        exact ⟨_, hread, hbytes, rfl⟩
  | line number text =>
    constructor
    · rintro ⟨⟩
    · rintro ⟨⟩
  | pair filter formula => apply pairProgram_eq_error_iff

end Ingredient

theorem OnlyReads.program (settings : Settings) (ingredient : Ingredient) :
  OnlyReads (ingredient.program settings : Session.Action Program).run
  := by
  cases ingredient with
  | map path => apply OnlyReads.load
  | line number text => apply OnlyReads.run_pure
  | _ => apply OnlyReads.settle

theorem OnlyReads.recipe (settings : Settings) (recipe : Recipe) :
  OnlyReads (recipe.program settings : Session.Action Program).run
  := by
  apply run_foldlM
  intro sofar ingredient
  apply run_bind (program settings ingredient)
  intro p
  apply run_pure

end Recolour
