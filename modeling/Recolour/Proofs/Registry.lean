import Mathlib.Data.List.Induction
import Mathlib.Data.List.Pairwise
import Recolour.Format.Builtin
import Recolour.Plain
import Recolour.Proofs.Text.Case

/-!
# Registries after any history

A registry lists, of each name that was registered, the last format registered under it, in the
order of these last registrations.  So a look-up by name finds the format registered last under
the name, and a look-up by extension never finds a format that was replaced.
-/

namespace Recolour

/-- The two formats have names that differ in more than letter case. -/
def Format.DiffersFrom (format other : Format) : Prop :=
  Text.foldCase format.name ≠ Text.foldCase other.name

instance : DecidableRel Format.DiffersFrom :=
  fun format other =>
    inferInstanceAs (Decidable (Text.foldCase format.name ≠ Text.foldCase other.name))

theorem Format.DiffersFrom.symm {format other : Format} (h : format.DiffersFrom other) :
  other.DiffersFrom format
  := Ne.symm h

theorem Format.DiffersFrom.or {format other : Format} (h : format.DiffersFrom other)
    (third : Format) :
  format.DiffersFrom third ∨ third.DiffersFrom other
  := by
  rw [DiffersFrom, DiffersFrom, ← not_and_or]
  rintro ⟨hleft, hright⟩
  apply h (hleft.trans hright)

namespace Registry

/-- The registries that registrations lead to, with the formats registered on the way. -/
inductive IsAfter : List Format → Registry → Prop
  | empty : IsAfter [] .empty
  | builtin (library : Library) :
    IsAfter [Png.format library, Jpeg.format library, Gif.format library, Pnm.format library]
      (.builtin library)
  | register {history : List Format} {registry : Registry} (h : IsAfter history registry)
      (format : Format) : IsAfter (history ++ [format]) (registry.register format)

/-- A place of a history holds the last format registered under its name. -/
def IsLast (history : List Format) (place : ℕ) (format : Format) : Prop :=
  history[place]? = some format ∧ ∀ later other, place < later → history[later]? = some other →
    format.DiffersFrom other

variable {history : List Format} {registry : Registry} {format : Format} {name path : String}

/-! ### The last formats -/

/-- The formats of a history without those that a later one replaces. -/
def latest (history : List Format) : List Format :=
  history.pwFilter Format.DiffersFrom

theorem forall_mem_latest_iff :
  (∀ other ∈ latest history, format.DiffersFrom other)
    ↔ ∀ other ∈ history, format.DiffersFrom other
  := List.forall_mem_pwFilter (fun h => h.or _) format history

theorem latest_cons_of_forall (h : ∀ other ∈ history, format.DiffersFrom other) :
  latest (format :: history) = format :: latest history
  := List.pwFilter_cons_of_pos (forall_mem_latest_iff.mpr h)

theorem latest_cons_of_not_forall (h : ¬∀ other ∈ history, format.DiffersFrom other) :
  latest (format :: history) = latest history
  := List.pwFilter_cons_of_neg (mt forall_mem_latest_iff.mp h)

/-- A format that is registered after a history replaces the one of its name. -/
theorem latest_concat (history : List Format) (format : Format) :
  latest (history ++ [format]) =
    (latest history).filter (fun other => !Text.sameFolded other.name format.name) ++ [format]
  := by
  induction history with
  | nil => rfl
  | cons first history ih =>
    have hconcat : (∀ other ∈ history ++ [format], first.DiffersFrom other)
        ↔ (∀ other ∈ history, first.DiffersFrom other) ∧ first.DiffersFrom format := by
      simp [or_imp, forall_and]
    rw [List.cons_append]
    by_cases hkept : ∀ other ∈ history, first.DiffersFrom other
    · rw [latest_cons_of_forall hkept]
      by_cases hname : first.DiffersFrom format
      · rw [latest_cons_of_forall (hconcat.mpr ⟨hkept, hname⟩), ih, List.filter_cons_of_pos]
        · rfl
        · simpa [Text.sameFolded_eq_false_iff, Format.DiffersFrom] using hname
      · rw [latest_cons_of_not_forall (mt (fun h => (hconcat.mp h).2) hname), ih,
          List.filter_cons_of_neg]
        simpa [Text.sameFolded_iff, Format.DiffersFrom] using hname
    · rw [latest_cons_of_not_forall hkept,
        latest_cons_of_not_forall (mt (fun h => (hconcat.mp h).1) hkept), ih]

theorem formats_ofFormats (formats : List Format) :
  (ofFormats formats).formats = latest formats
  := by
  induction formats using List.reverseRecOn with
  | nil => rfl
  | append_singleton formats format ih =>
    rw [latest_concat, ← ih, ofFormats, List.foldl_append]
    rfl

theorem builtin_formats (library : Library) :
  (builtin library).formats =
    [Png.format library, Jpeg.format library, Gif.format library, Pnm.format library]
  := by
  rw [builtin, formats_ofFormats, latest, List.pwFilter_eq_self]
  simp only [List.pairwise_cons, List.forall_mem_cons, Format.DiffersFrom, Png.format, Jpeg.format,
    Gif.format, Pnm.format]
  decide

/-- After any registrations a registry lists the last format of each name. -/
theorem IsAfter.formats_eq (h : IsAfter history registry) :
  registry.formats = latest history
  := by
  induction h with
  | empty => rfl
  | builtin library => rw [Registry.builtin, formats_ofFormats]
  | register h format ih => rw [Registry.register, ih, latest_concat]

/-! ### Their places -/

theorem isLast_zero_iff {first : Format} :
  IsLast (first :: history) 0 format ↔
    first = format ∧ ∀ other ∈ history, format.DiffersFrom other
  := by
  rw [IsLast, List.getElem?_cons_zero, Option.some.injEq]
  apply and_congr_right
  rintro -
  constructor
  · intro h other hother
    obtain ⟨place, hplace⟩ := List.mem_iff_getElem?.mp hother
    apply h (place + 1) other (Nat.succ_pos place)
    rwa [List.getElem?_cons_succ]
  · rintro h (_ | later) other hlater hother
    · exact absurd hlater (Nat.lt_irrefl 0)
    · rw [List.getElem?_cons_succ] at hother
      apply h other (List.mem_of_getElem? hother)

theorem isLast_succ_iff {first : Format} {place : ℕ} :
  IsLast (first :: history) (place + 1) format ↔ IsLast history place format
  := by
  rw [IsLast, IsLast, List.getElem?_cons_succ]
  apply and_congr_right
  rintro -
  constructor
  · intro h later other hlater hother
    apply h (later + 1) other (Nat.succ_lt_succ hlater)
    rwa [List.getElem?_cons_succ]
  · rintro h (_ | later) other hlater hother
    · exact absurd hlater (Nat.not_lt_zero _)
    · rw [List.getElem?_cons_succ] at hother
      apply h later other (Nat.lt_of_succ_lt_succ hlater) hother

/-- Formats with places, each one place further on. -/
def further (table : List (ℕ × Format)) : List (ℕ × Format) :=
  table.map (Prod.map Nat.succ id)

section Further

variable {table : List (ℕ × Format)} {place : ℕ}

theorem map_snd_further :
  (further table).map Prod.snd = table.map Prod.snd
  := by
  rw [further, List.map_map]
  rfl

theorem zero_notMem_further :
  (0, format) ∉ further table
  := by
  simp [further]

theorem succ_mem_further_iff :
  (place + 1, format) ∈ further table ↔ (place, format) ∈ table
  := by
  simp [further]

theorem pairwise_further (h : table.Pairwise fun entry other => entry.1 < other.1) :
  (further table).Pairwise fun entry other => entry.1 < other.1
  := by
  apply List.pairwise_map.mpr
  apply h.imp
  intro entry other
  apply Nat.succ_lt_succ

end Further

/-- The last formats with their places, sorted by these. -/
theorem exists_table (history : List Format) :
  ∃ table : List (ℕ × Format), latest history = table.map Prod.snd
    ∧ table.Pairwise (fun entry other => entry.1 < other.1)
    ∧ ∀ place format, (place, format) ∈ table ↔ IsLast history place format
  := by
  induction history with
  | nil =>
    use [], rfl, List.Pairwise.nil
    simp [IsLast]
  | cons first history ih =>
    obtain ⟨table, hlatest, hsorted, hmem⟩ := ih
    by_cases hkept : ∀ other ∈ history, first.DiffersFrom other
    · use (0, first) :: further table
      rw [latest_cons_of_forall hkept, hlatest, ← map_snd_further]
      refine ⟨rfl, List.pairwise_cons.mpr ⟨?_, pairwise_further hsorted⟩, ?_⟩
      · rintro ⟨_ | place, format⟩ hentry
        · exact absurd hentry zero_notMem_further
        · apply Nat.succ_pos
      · rintro (_ | place) format
        · rw [isLast_zero_iff, List.mem_cons, Prod.mk.injEq, eq_self, true_and]
          simp only [zero_notMem_further, or_false, eq_comm (a := format)]
          apply (and_iff_left_of_imp _).symm
          rintro rfl
          apply hkept
        · rw [isLast_succ_iff, ← hmem, List.mem_cons, succ_mem_further_iff]
          simp
    · use further table
      rw [latest_cons_of_not_forall hkept, hlatest, ← map_snd_further]
      refine ⟨rfl, pairwise_further hsorted, ?_⟩
      rintro (_ | place) format
      · rw [isLast_zero_iff]
        simp only [zero_notMem_further, false_iff]
        rintro ⟨rfl, hforall⟩
        exact hkept hforall
      · rw [isLast_succ_iff, ← hmem, succ_mem_further_iff]

theorem mem_latest_iff :
  format ∈ latest history ↔ ∃ place, IsLast history place format
  := by
  obtain ⟨table, hlatest, -, hmem⟩ := exists_table history
  rw [hlatest, List.mem_map]
  simp only [← hmem, Prod.exists, exists_eq_right]

/-! ### Look-ups -/

/-- Two formats of one name cannot both be the last of it. -/
theorem eq_of_mem_latest {other : Format} (hformat : format ∈ latest history)
    (hother : other ∈ latest history)
    (hname : Text.foldCase format.name = Text.foldCase other.name) :
  format = other
  := by
  have : Std.Symm Format.DiffersFrom := ⟨fun _ _ h => h.symm⟩
  by_contra hne
  exact (List.pairwise_pwFilter history).forall hformat hother hne hname

/-- A look-up by name finds the last format of the name. -/
theorem IsAfter.get_eq_ok_iff (h : IsAfter history registry) :
  registry.get name = .ok format ↔
    (∃ place, IsLast history place format) ∧ Text.foldCase format.name = Text.foldCase name
  := by
  rw [get, h.formats_eq, ← mem_latest_iff]
  cases hfind : (latest history).find? fun other => Text.sameFolded other.name name with
  | some found =>
    have hmem := List.mem_of_find?_eq_some hfind
    have hsame := List.find?_some hfind
    rw [Text.sameFolded_iff] at hsame
    constructor
    · rintro ⟨⟩
      exact ⟨hmem, hsame⟩
    · rintro ⟨hformat, hname⟩
      rw [eq_of_mem_latest hformat hmem (hname.trans hsame.symm)]
  | none =>
    rw [List.find?_eq_none] at hfind
    constructor
    · rintro ⟨⟩
    · rintro ⟨hformat, hname⟩
      exact absurd (Text.sameFolded_iff.mpr hname) (hfind format hformat)

/-- Every name of a history has a last format. -/
theorem exists_mem_latest (hformat : format ∈ history) :
  ∃ other ∈ latest history, Text.foldCase other.name = Text.foldCase format.name
  := by
  by_contra hnone
  have hforall : ∀ other ∈ latest history, format.DiffersFrom other := by
    intro other hother hname
    apply hnone
    exact ⟨other, hother, hname.symm⟩
  exact forall_mem_latest_iff.mp hforall format hformat rfl

/-- A look-up by a name that was never registered is refused. -/
theorem IsAfter.get_eq_error_iff (h : IsAfter history registry) {error : Error} :
  registry.get name = .error error ↔ error = .unsupportedFormat name ∧
    ∀ format ∈ history, Text.foldCase format.name ≠ Text.foldCase name
  := by
  have hnone : (∀ format ∈ history, Text.foldCase format.name ≠ Text.foldCase name) ↔
      ((latest history).find? fun other => Text.sameFolded other.name name) = none := by
    simp only [List.find?_eq_none, Text.sameFolded_iff]
    constructor
    · intro hhistory format hformat
      apply hhistory format (List.pwFilter_subset history hformat)
    · intro hlatest format hformat hname
      obtain ⟨other, hother, hsame⟩ := exists_mem_latest hformat
      apply hlatest other hother (hsame.trans hname)
  rw [hnone, get, h.formats_eq]
  cases (latest history).find? fun other => Text.sameFolded other.name name with
  | some found => simp
  | none => simp [eq_comm]

theorem forPath?_eq_some_iff :
  registry.forPath? path = some format ↔
    ∃ extension before after, Path.extension? path = some extension
      ∧ registry.formats = before ++ format :: after ∧ format.hasExtension extension
      ∧ ∀ earlier ∈ before, earlier.hasExtension extension = false
  := by
  simp only [forPath?, Option.bind_eq_some_iff, List.find?_eq_some_iff_append, Bool.not_eq_true']
  constructor
  · rintro ⟨extension, hpath, hformat, before, after, hformats, hbefore⟩
    exact ⟨extension, before, after, hpath, hformats, hformat, hbefore⟩
  · rintro ⟨extension, before, after, hpath, hformats, hformat, hbefore⟩
    exact ⟨extension, hpath, hformat, before, after, hformats, hbefore⟩

theorem forPath?_eq_none_iff :
  registry.forPath? path = none ↔
    ∀ extension, Path.extension? path = some extension →
      ∀ format ∈ registry.formats, format.hasExtension extension = false
  := by
  simp only [forPath?, Option.bind_eq_none_iff, List.find?_eq_none, Bool.not_eq_true]

/-- After any registrations the names of a registry are different, a look-up by name finds the
last format registered under it in any letter case and is refused if there was none, and the
formats are listed in the order of the last registrations of their names.  A look-up by path finds
the first of them with the extension of the path, so never one that was replaced. -/
theorem IsAfter.lists_last (h : IsAfter history registry) :
  registry.formats.Pairwise (fun format other =>
      Text.foldCase format.name ≠ Text.foldCase other.name)
    ∧ (∀ name format, registry.get name = .ok format ↔
      (∃ place, IsLast history place format) ∧ Text.foldCase format.name = Text.foldCase name)
    ∧ (∀ name error, registry.get name = .error error ↔ error = .unsupportedFormat name ∧
      ∀ format ∈ history, Text.foldCase format.name ≠ Text.foldCase name)
    ∧ (∃ table : List (ℕ × Format), registry.formats = table.map Prod.snd
      ∧ table.Pairwise (fun entry other => entry.1 < other.1)
      ∧ ∀ place format, (place, format) ∈ table ↔ IsLast history place format)
    ∧ (∀ path format, registry.forPath? path = some format ↔
      ∃ extension before after, Path.extension? path = some extension
        ∧ registry.formats = before ++ format :: after ∧ format.hasExtension extension
        ∧ ∀ earlier ∈ before, earlier.hasExtension extension = false)
    ∧ (∀ path, registry.forPath? path = none ↔ ∀ extension,
      Path.extension? path = some extension →
        ∀ format ∈ registry.formats, format.hasExtension extension = false)
    ∧ ∀ path format, registry.forPath? path = some format →
      ∃ place, IsLast history place format
  := by
  refine ⟨?_, fun _ _ => h.get_eq_ok_iff, fun _ _ => h.get_eq_error_iff, ?_,
    fun _ _ => forPath?_eq_some_iff, fun _ => forPath?_eq_none_iff, ?_⟩
  · rw [h.formats_eq]
    apply List.pairwise_pwFilter
  · rw [h.formats_eq]
    apply exists_table
  · intro path format hpath
    obtain ⟨extension, before, after, -, hformats, -⟩ := forPath?_eq_some_iff.mp hpath
    rw [← mem_latest_iff, ← h.formats_eq, hformats]
    simp

/-- A format with the name of a builtin one and with another extension. -/
def animatedPng : Format := ⟨"PNG", ["apng"], ["compression"], (Png.format .plain).encode⟩

/-- The builtin format of the name is no longer found, neither by its name nor by its extension. -/
theorem get_animatedPng :
  IsAfter ((builtin .plain).formats ++ [animatedPng]) ((builtin .plain).register animatedPng)
    ∧ ((builtin .plain).register animatedPng).get "png" = .ok animatedPng
    ∧ ((builtin .plain).register animatedPng).forPath? "a.png" = none
    ∧ ((builtin .plain).register animatedPng).forPath? "a.APNG" = some animatedPng
  := by
  have hafter : IsAfter ((builtin .plain).formats ++ [animatedPng])
      ((builtin .plain).register animatedPng) :=
    .register (.builtin .plain) animatedPng
  obtain ⟨-, hget, -, -, hsome, hnone, -⟩ := hafter.lists_last
  refine ⟨hafter, (hget _ _).mpr ⟨⟨4, rfl, ?_⟩, by decide⟩, (hnone _).mpr ?_, ?_⟩
  · intro later other hlater hother
    have hlength := (List.getElem?_eq_some_iff.mp hother).1
    exact absurd hlength (Nat.not_lt.mpr hlater)
  · intro extension hextension
    obtain rfl : "png" = extension := Option.some.inj hextension
    decide
  · apply (hsome _ _).mpr
    exact ⟨"APNG", [Jpeg.format .plain, Gif.format .plain, Pnm.format .plain], [], rfl, rfl, rfl,
      by decide⟩

end Registry

end Recolour
