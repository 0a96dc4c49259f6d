import Recolour.Command.Run
import Recolour.Proofs.Encoding
import Recolour.Proofs.FileTree

/-!
# Targets in a directory

The path that the image under some names below a directory is written to leads below the output
directory to the same names, the last of them with another extension if a format is asked for.
So targets differ for images that keep their formats, and otherwise for images whose names differ
when the extension is left out.
-/

namespace Recolour.Command.Job

variable {directory output name extension : String} {names other : List String}
  {library : Library} {format : Option Format} {base location : Location} {tree : FileTree}

/-! ### Paths below a directory -/

/-- Names that lead to a file below a directory. -/
structure AreNames (names : List String) : Prop where
  ne_nil : names ≠ []
  isName : ∀ name ∈ names, Path.IsName name

theorem areNames_concat_iff :
  AreNames (names ++ [name]) ↔ (∀ other ∈ names, Path.IsName other) ∧ Path.IsName name
  := by
  constructor
  · rintro ⟨-, h⟩
    exact ⟨fun other hother => h other (by simp [hother]), h name (by simp)⟩
  · rintro ⟨hnames, hname⟩
    constructor
    · simp
    · simpa [or_imp, forall_and] using ⟨hnames, hname⟩

theorem exists_concat (hnames : AreNames names) :
  ∃ front last, names = front ++ [last] ∧ Path.IsName last
  := by
  obtain rfl | ⟨front, last, rfl⟩ := names.eq_nil_or_concat
  · exact absurd rfl hnames.ne_nil
  · rw [List.concat_eq_append] at hnames ⊢
    exact ⟨front, last, rfl, (areNames_concat_iff.mp hnames).2⟩

theorem pathBelow_concat :
  pathBelow directory (names ++ [name]) = Path.join (pathBelow directory names) name
  := by
  rw [pathBelow, List.foldl_append, List.foldl_cons, List.foldl_nil, pathBelow]

theorem extension?_pathBelow (hnames : AreNames names) :
  Path.extension? (pathBelow directory names) = Path.extension? (pathBelow output names)
  := by
  obtain ⟨front, last, rfl, hlast⟩ := exists_concat hnames
  rw [pathBelow_concat, pathBelow_concat, Path.extension?_join hlast, Path.extension?_join hlast]

theorem place_pathBelow (hnames : ∀ name ∈ names, Path.IsName name) :
  Path.place base (pathBelow directory names) = Path.place base directory ++ names
  := by
  induction names generalizing directory with
  | nil => rw [List.append_nil, pathBelow, List.foldl_nil]
  | cons name names ih =>
    rw [List.forall_mem_cons] at hnames
    rw [show pathBelow directory (name :: names) = pathBelow (Path.join directory name) names from
      rfl, ih hnames.2, Path.place_join hnames.1, List.append_assoc, List.singleton_append]

theorem locate_pathBelow (htree : tree.IsWellFormed)
    (hlocate : tree.locate base directory = .ok location)
    (hget : tree.get? (location ++ names) ≠ none) :
  tree.locate base (pathBelow directory names) = .ok (location ++ names)
  := by
  induction names generalizing directory location with
  | nil => rwa [List.append_nil, pathBelow, List.foldl_nil]
  | cons name names ih =>
    rw [List.append_cons] at hget ⊢
    obtain ⟨hname, hdirectory⟩ := htree.of_get?_concat (htree.get?_ne_none hget)
    apply ih (FileTree.locate_join hname hlocate hdirectory) hget

/-- A file below a directory is read at the path of the names that lead to it. -/
theorem read_pathBelow (htree : tree.IsWellFormed)
    (hlocate : tree.locate base directory = .ok location) {content : List UInt8}
    (hget : tree.get? (location ++ names) = some (.file content)) :
  tree.read base (pathBelow directory names) = .ok content
  := by
  have hsome : tree.get? (location ++ names) ≠ none := by simp [hget]
  have hbelow := locate_pathBelow htree hlocate hsome
  rw [FileTree.read_eq_ok_iff, ← FileTree.place_of_locate hbelow]
  exact ⟨hbelow, hget⟩

/-! ### Targets -/

/-- The names that lead to the target of an image below the output directory. -/
def targetNames (format : Option Format) (names : List String) : List String :=
  match format.bind (·.extensions.head?) with
  | some extension => names.modifyLast (Path.rename extension)
  | none => names

theorem targetNames_some {format : Format} (hhead : format.extensions.head? = some extension) :
  targetNames (some format) names = names.modifyLast (Path.rename extension)
  := by
  rw [targetNames, Option.bind_some, hhead]

section Builtin

variable (hformat : ∀ f ∈ format, f ∈ (Registry.builtin library).formats)

include hformat

theorem areNames_targetNames (hnames : AreNames names) :
  AreNames (targetNames format names)
  := by
  cases format with
  | none => apply hnames
  | some format =>
    obtain ⟨extension, hhead, hne, hslash, -⟩ := exists_extension_of_mem (hformat format rfl)
    obtain ⟨front, last, rfl, hlast⟩ := exists_concat hnames
    rw [targetNames_some hhead, List.modifyLast_concat, areNames_concat_iff]
    exact ⟨(areNames_concat_iff.mp hnames).1, hlast.rename hne hslash⟩

/-- The target of an image is the path of its target names below the output directory. -/
theorem target_eq (hnames : AreNames names) :
  target output format names = pathBelow output (targetNames format names)
  := by
  cases format with
  | none => rfl
  | some format =>
    obtain ⟨extension, hhead, -, hslash, -⟩ := exists_extension_of_mem (hformat format rfl)
    obtain ⟨front, last, rfl, hlast⟩ := exists_concat hnames
    rw [targetNames_some hhead, target, Option.bind_some, hhead, List.modifyLast_concat,
      pathBelow_concat, pathBelow_concat]
    apply Path.withExtension_join hlast hslash

theorem place_target (hnames : AreNames names) :
  Path.place base (target output format names) =
    Path.place base output ++ targetNames format names
  := by
  rw [target_eq hformat hnames, place_pathBelow (areNames_targetNames hformat hnames).isName]

theorem place_target_eq_iff (hnames : AreNames names) (hother : AreNames other) :
  Path.place base (target output format names) = Path.place base (target output format other) ↔
    targetNames format names = targetNames format other
  := by
  rw [place_target hformat hnames, place_target hformat hother, List.append_cancel_left_eq]

theorem target_eq_iff (hnames : AreNames names) (hother : AreNames other) :
  target output format names = target output format other ↔
    targetNames format names = targetNames format other
  := by
  constructor
  · intro h
    rw [← place_target_eq_iff hformat hnames hother, h]
    exact []
  · intro h
    rw [target_eq hformat hnames, target_eq hformat hother, h]

/-- No target lies below a directory when neither that nor the output directory lies in the
other. -/
theorem place_pathBelow_ne_place_target
    (hinput : ¬Path.place base directory <+: Path.place base output)
    (houtput : ¬Path.place base output <+: Path.place base directory)
    (hnames : AreNames names) (hother : AreNames other) :
  Path.place base (pathBelow directory other) ≠ Path.place base (target output format names)
  := by
  intro h
  rw [place_target hformat hnames, place_pathBelow hother.isName] at h
  obtain hprefix | hprefix := List.prefix_or_prefix_of_prefix (List.prefix_append _ _)
    (h ▸ List.prefix_append _ _)
  · exact houtput hprefix
  · exact hinput hprefix

end Builtin

/-- The names without the extension of the last of them. -/
def stemNames (names : List String) : List String :=
  names.modifyLast Path.stem

theorem targetNames_some_eq_iff {format : Format}
    (hformat : format ∈ (Registry.builtin library).formats) (hnames : AreNames names)
    (hother : AreNames other) :
  targetNames (some format) names = targetNames (some format) other ↔
    stemNames names = stemNames other
  := by
  obtain ⟨extension, hhead, -⟩ := exists_extension_of_mem hformat
  obtain ⟨front, last, rfl, -⟩ := exists_concat hnames
  obtain ⟨front', last', rfl, -⟩ := exists_concat hother
  rw [targetNames_some hhead, targetNames_some hhead, stemNames, stemNames]
  simp only [List.modifyLast_concat]
  rw [List.append_singleton_inj, List.append_singleton_inj, Path.rename_eq_iff]

end Recolour.Command.Job
