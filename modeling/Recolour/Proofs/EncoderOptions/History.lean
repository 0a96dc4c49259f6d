import Mathlib.Data.List.Basic
import Mathlib.Data.List.Induction
import Recolour.Proofs.EncoderOptions
import Recolour.Proofs.Text.Case

/-!
# Options after any history

Options start out empty.  Then values are set, texts are parsed in place of what was there, and
the options of texts are merged in, in any order.  Each of these keeps all keys in small letters.
So after any history a key has the value that was written last under it since a text was parsed,
and two histories lead to the same options exactly if they write the same last values.
-/

namespace Recolour

namespace EncoderOptions

variable {options others : EncoderOptions} {key value : String}

/-- What is done to options. -/
inductive Operation where
  /-- A value is written under a key. -/
  | set (key value : String)
  /-- The options of a text take the place of those that are there. -/
  | parse (text : String)
  /-- The options of a text are merged into those that are there. -/
  | merge (text : String)

/-- The options after an operation. -/
def apply (options : EncoderOptions) : Operation → EncoderOptions
  | .set key value => options.set key value
  | .parse text => parse text
  | .merge text => options.merge (parse text)

/-- The options that a history leads to, from none and one operation after another. -/
def after (history : List Operation) : EncoderOptions :=
  history.foldl apply empty

/-! ### Small keys -/

/-- All keys are kept in small letters. -/
def HasSmallKeys (options : EncoderOptions) : Prop :=
  ∀ key ∈ options.values, Text.foldCase key = key

theorem hasSmallKeys_empty :
  empty.HasSmallKeys
  := by
  intro key hkey
  exact absurd hkey Std.ExtTreeMap.not_mem_empty

theorem HasSmallKeys.set (h : options.HasSmallKeys) (key value : String) :
  (options.set key value).HasSmallKeys
  := by
  intro other hother
  obtain heq | hother := Std.ExtTreeMap.mem_insert.mp hother
  · rw [← Std.LawfulEqCmp.eq_of_compare heq, Text.foldCase_foldCase]
  · apply h other hother

theorem hasSmallKeys_parse (text : String) :
  (parse text).HasSmallKeys
  := by
  rw [parse]
  apply List.foldlRecOn _ _ hasSmallKeys_empty
  intro options h pair _
  apply h.set

theorem HasSmallKeys.merge (h : options.HasSmallKeys) (h' : others.HasSmallKeys) :
  (options.merge others).HasSmallKeys
  := by
  intro key hkey
  rw [Std.ExtTreeMap.mem_iff_isSome_getElem?, getElem?_merge, Option.isSome_or,
    Bool.or_eq_true, ← Std.ExtTreeMap.mem_iff_isSome_getElem?,
    ← Std.ExtTreeMap.mem_iff_isSome_getElem?] at hkey
  obtain hkey | hkey := hkey
  · apply h' key hkey
  · apply h key hkey

theorem HasSmallKeys.apply (h : options.HasSmallKeys) (operation : Operation) :
  (options.apply operation).HasSmallKeys
  := by
  cases operation with
  | set key value => apply h.set
  | parse text => apply hasSmallKeys_parse
  | merge text => apply h.merge (hasSmallKeys_parse text)

/-- Whatever is done to options, their keys are kept in small letters. -/
theorem hasSmallKeys_after (history : List Operation) :
  (after history).HasSmallKeys
  := by
  apply List.foldlRecOn _ _ hasSmallKeys_empty
  intro options h operation _
  apply h.apply

/-- What is kept under a key is found by looking it up, as no other key is kept. -/
theorem HasSmallKeys.getElem?_eq (h : options.HasSmallKeys) (key : String) :
  options.values[key]? = if Text.foldCase key = key then options.get? key else none
  := by
  split
  · rename_i hkey
    rw [get?, hkey]
  · rename_i hkey
    apply Std.ExtTreeMap.getElem?_eq_none
    intro hmem
    apply hkey (h key hmem)

/-- Options with small keys are the same if all look-ups in them are. -/
theorem HasSmallKeys.eq_iff (h : options.HasSmallKeys) (h' : others.HasSmallKeys) :
  options = others ↔ ∀ key, options.get? key = others.get? key
  := by
  constructor
  · rintro rfl key
    rfl
  · intro hget
    obtain ⟨values⟩ := options
    obtain ⟨otherValues⟩ := others
    rw [mk.injEq]
    apply Std.ExtTreeMap.ext_getElem?
    intro key
    have hvalue := h.getElem?_eq key
    rwa [hget, ← h'.getElem?_eq] at hvalue

theorem get?_empty (key : String) :
  empty.get? key = none
  := Std.ExtTreeMap.getElem?_empty

theorem HasSmallKeys.isEmpty_iff (h : options.HasSmallKeys) :
  options.isEmpty = true ↔ ∀ key, options.get? key = none
  := by
  have hempty : options.isEmpty = true ↔ options = empty := by
    rw [isEmpty, Std.ExtTreeMap.isEmpty_iff]
    constructor
    · intro hvalues
      rw [empty, ← hvalues]
    · rintro rfl
      rfl
  rw [hempty, h.eq_iff hasSmallKeys_empty]
  simp only [get?_empty]

/-! ### Last values -/

/-- Of the pieces of the text that give a value to the key the last one gives it this value. -/
def IsSpelledBy (text key value : String) : Prop :=
  ∃ before piece after, text.toList.splitOn ';' = before ++ piece :: after
    ∧ Gives piece key value ∧ ∀ later ∈ after, ∀ other, ¬Gives later key other

namespace Operation

/-- The operation leaves nothing of what was there before it. -/
def Replaces : Operation → Prop
  | parse _ => True
  | _ => False

/-- The operation writes the value under the key in some letter case, and no other one after
it. -/
def Writes (key value : String) : Operation → Prop
  | set spelling written => Text.sameFolded spelling key ∧ written = value
  | parse text => IsSpelledBy text key value
  | merge text => IsSpelledBy text key value

end Operation

/-- The history writes the value under the key, and no later operation of it replaces the options
or writes under the key again. -/
def LastWrites (history : List Operation) (key value : String) : Prop :=
  ∃ before operation after, history = before ++ operation :: after ∧ operation.Writes key value
    ∧ ∀ later ∈ after, ¬later.Replaces ∧ ∀ other, ¬later.Writes key other

theorem get?_set {spelling : String} :
  (options.set spelling value).get? key
    = if Text.sameFolded spelling key then some value else options.get? key
  := by
  simp only [get?, set, Std.ExtTreeMap.getElem?_insert, Std.LawfulEqCmp.compare_eq_iff_eq,
    Text.sameFolded_iff]

theorem get?_merge :
  (options.merge others).get? key = (others.get? key).or (options.get? key)
  := getElem?_merge _

/-- After an operation a key has the value that is written under it, and keeps the one it had if
nothing is. -/
theorem get?_apply_eq_some_iff {operation : Operation} :
  (options.apply operation).get? key = some value ↔
    operation.Writes key value ∨ ¬operation.Replaces ∧ (∀ other, ¬operation.Writes key other)
      ∧ options.get? key = some value
  := by
  cases operation with
  | set spelling written =>
    rw [apply, get?_set]
    split
    · rename_i hsame
      simp [Operation.Writes, hsame]
    · rename_i hsame
      simp [Operation.Writes, Operation.Replaces, hsame]
  | parse text =>
    simp [apply, get?_parse_eq_some_iff, Operation.Writes, Operation.Replaces, IsSpelledBy]
  | merge text =>
    simp only [apply, get?_merge, Option.or_eq_some_iff, Operation.Writes, Operation.Replaces,
      IsSpelledBy, ← get?_parse_eq_some_iff, ← ne_eq, ← Option.eq_none_iff_forall_ne_some,
      not_false_eq_true, true_and]

/-- A history writes what its last operation writes, and the rest of it what is left there. -/
theorem lastWrites_concat_iff {history : List Operation} {operation : Operation} :
  LastWrites (history ++ [operation]) key value ↔
    operation.Writes key value ∨ ¬operation.Replaces ∧ (∀ other, ¬operation.Writes key other)
      ∧ LastWrites history key value
  := by
  constructor
  · rintro ⟨before, writer, after, hhistory, hwrites, hafter⟩
    obtain rfl | ⟨after, last, rfl⟩ := List.eq_nil_or_concat after
    · left
      obtain rfl := List.singleton_inj.mp (List.append_inj' hhistory rfl).2
      apply hwrites
    · right
      rw [List.concat_eq_append, ← List.cons_append, ← List.append_assoc] at hhistory
      obtain ⟨rfl, hlast⟩ := List.append_inj' hhistory rfl
      obtain rfl := List.singleton_inj.mp hlast
      obtain ⟨hreplaces, hnone⟩ := hafter operation (by simp)
      refine ⟨hreplaces, hnone, before, writer, after, rfl, hwrites, ?_⟩
      intro later hlater
      apply hafter later
      simp [hlater]
  · rintro (hwrites | ⟨hreplaces, hnone, before, writer, after, rfl, hwrites, hafter⟩)
    · exact ⟨history, operation, [], rfl, hwrites, by simp⟩
    · refine ⟨before, writer, after ++ [operation], by simp, hwrites, ?_⟩
      intro later hlater
      obtain hlater | hlater := List.mem_append.mp hlater
      · apply hafter later hlater
      · rw [List.mem_singleton.mp hlater]
        exact ⟨hreplaces, hnone⟩

/-- A key has the value that the history writes last under it. -/
theorem get?_after_eq_some_iff {history : List Operation} :
  (after history).get? key = some value ↔ LastWrites history key value
  := by
  induction history using List.reverseRecOn with
  | nil =>
    constructor
    · intro h
      rw [after, List.foldl_nil, get?_empty] at h
      cases h
    · rintro ⟨before, operation, rest, hhistory, -⟩
      simp at hhistory
  | append_singleton history operation ih =>
    rw [lastWrites_concat_iff, ← ih, ← get?_apply_eq_some_iff, after, List.foldl_concat, after]

/-- Two histories lead to the same options exactly if they write the same last values. -/
theorem after_eq_after_iff {history other : List Operation} :
  after history = after other ↔
    ∀ key value, LastWrites history key value ↔ LastWrites other key value
  := by
  rw [(hasSmallKeys_after history).eq_iff (hasSmallKeys_after other)]
  simp only [← get?_after_eq_some_iff]
  constructor
  · intro h key value
    rw [h]
  · intro h key
    apply Option.ext
    apply h key

/-- After any history all keys are kept in small letters.  A key in any letter case has the value
that was written last under it since the options were replaced, and none if nothing was.  So the
options are determined by these values, and they are empty exactly if there are none. -/
theorem after_holds_last_writes (history : List Operation) :
  (∀ key ∈ (after history).values, Text.foldCase key = key)
    ∧ (∀ key value, (after history).get? key = some value ↔ LastWrites history key value)
    ∧ (∀ key, (after history).get? key = none ↔ ∀ value, ¬LastWrites history key value)
    ∧ (∀ other, after history = after other ↔
      ∀ key value, LastWrites history key value ↔ LastWrites other key value)
    ∧ ((after history).isEmpty = true ↔ ∀ key, (after history).get? key = none)
  := by
  refine ⟨hasSmallKeys_after history, fun _ _ => get?_after_eq_some_iff, ?_,
    fun _ => after_eq_after_iff, (hasSmallKeys_after history).isEmpty_iff⟩
  intro key
  simp only [← get?_after_eq_some_iff, Option.eq_none_iff_forall_ne_some, ne_eq]

example :
  (after [.set "quality" "1", .parse "Speed:9", .merge "QUALITY:2", .set "Quality" "3"]).get?
      "qualitY" = some "3"
  := by decide

end EncoderOptions

end Recolour
