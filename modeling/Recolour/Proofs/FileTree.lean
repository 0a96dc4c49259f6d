import Recolour.FileTree
import Recolour.Proofs.Path
import Recolour.Proofs.Success

/-!
# Places in file trees

Where a path leads does not depend on what the tree holds: if it leads anywhere, then to its
place, which its pieces spell. What is written at a path is read there, and all else is left as
it was. A tree is well formed when every entry stands under a name in a directory, and stays so
when files are written and directories made; then the files below a directory are the entries
whose location continues it.
-/

namespace Recolour

/-! ### Places -/

/-- The location a piece leads to from another. -/
def Path.step (location : Location) (piece : List Char) : Location :=
  if isVoid piece then location
  else if isParent piece then location.dropLast
  else location ++ [String.ofList piece]

/-- The location that the pieces of a path spell. -/
def Path.place (base : Location) (path : String) : Location :=
  (pieces path).foldl step (FileTree.start base path)

namespace Path

variable {base : Location} {directory name : String}

theorem step_void (location : Location) {piece : List Char} (h : isVoid piece = true) :
  step location piece = location
  := if_pos h

theorem step_name (location : Location) (hname : IsName name) :
  step location name.toList = location ++ [name]
  := by
  rw [step, if_neg (by simp [hname.names]), if_neg (by simp [hname.stays]), String.ofList_toList]

theorem foldl_above (location : Location) (directory : String) :
  (above directory).foldl step location = (pieces directory).foldl step location
  := by
  obtain ⟨rfl, h⟩ | h | h := above_eq_or directory
  · rw [h]
    rfl
  · rw [h]
  · rw [h, List.foldl_append, List.foldl_cons, List.foldl_nil, step_void _ rfl]

theorem start_join (hname : IsName name) :
  FileTree.start base (join directory name) = FileTree.start base directory
  := by
  rw [FileTree.start, FileTree.start, isAbsolute_join hname.whole]

theorem place_join (hname : IsName name) :
  place base (join directory name) = place base directory ++ [name]
  := by
  rw [place, pieces_join _ hname.whole, List.foldl_append, List.foldl_cons, List.foldl_nil,
    step_name _ hname, foldl_above, start_join hname, place]

end Path

namespace FileTree

variable {tree after : FileTree} {base location : Location} {path directory name : String}
  {content : List UInt8}

/-! ### Following paths -/

theorem requireDirectory_eq_ok_iff :
  tree.requireDirectory location = .ok () ↔ tree.get? location = some .directory
  := by
  rw [requireDirectory]
  split <;> simp_all

theorem follow_cons_eq_ok_iff {piece : List Char} {rest : List (List Char)} {place : Location} :
  tree.follow location (piece :: rest) = .ok place ↔
    tree.get? location = some .directory ∧
      tree.follow (Path.step location piece) rest = .ok place
  := by
  rw [follow, bind_eq_ok_iff, ← requireDirectory_eq_ok_iff]
  constructor
  · rintro ⟨⟨⟩, hdirectory, hrest⟩
    exact ⟨hdirectory, hrest⟩
  · rintro ⟨hdirectory, hrest⟩
    exact ⟨(), hdirectory, hrest⟩

theorem follow_append_eq_ok_iff {pieces rest : List (List Char)} {place : Location} :
  tree.follow location (pieces ++ rest) = .ok place ↔
    ∃ between, tree.follow location pieces = .ok between ∧ tree.follow between rest = .ok place
  := by
  induction pieces generalizing location with
  | nil => simp [follow]
  | cons piece pieces ih =>
    rw [List.cons_append, follow_cons_eq_ok_iff, ih]
    simp only [follow_cons_eq_ok_iff, and_assoc, exists_and_left]

theorem eq_foldl_of_follow {pieces : List (List Char)} {place : Location}
    (h : tree.follow location pieces = .ok place) :
  place = pieces.foldl Path.step location
  := by
  induction pieces generalizing location with
  | nil =>
    rw [follow, Except.ok.injEq] at h
    rw [← h, List.foldl_nil]
  | cons piece pieces ih =>
    rw [follow_cons_eq_ok_iff] at h
    rw [List.foldl_cons, ih h.2]

theorem follow_mono
    (hdirectory : ∀ location, tree.get? location = some .directory →
      after.get? location = some .directory)
    {pieces : List (List Char)} {place : Location} (h : tree.follow location pieces = .ok place) :
  after.follow location pieces = .ok place
  := by
  induction pieces generalizing location with
  | nil => apply h
  | cons piece pieces ih =>
    rw [follow_cons_eq_ok_iff] at h ⊢
    exact ⟨hdirectory _ h.1, ih h.2⟩

theorem locate_eq_ok_iff {place : Location} :
  tree.locate base path = .ok place ↔
    path ≠ "" ∧ tree.follow (start base path) (Path.pieces path) = .ok place
  := by
  rw [locate]
  split <;> simp_all

theorem place_of_locate (h : tree.locate base path = .ok location) :
  location = Path.place base path
  := eq_foldl_of_follow (locate_eq_ok_iff.mp h).2

theorem locate_mono
    (hdirectory : ∀ location, tree.get? location = some .directory →
      after.get? location = some .directory)
    (h : tree.locate base path = .ok location) :
  after.locate base path = .ok location
  := by
  rw [locate_eq_ok_iff] at h ⊢
  exact ⟨h.1, follow_mono hdirectory h.2⟩

/-- A name below a directory leads right below the location of the directory. -/
theorem locate_join (hname : Path.IsName name) (h : tree.locate base directory = .ok location)
    (hdirectory : tree.get? location = some .directory) :
  tree.locate base (Path.join directory name) = .ok (location ++ [name])
  := by
  have habove : tree.follow (start base directory) (Path.above directory) = .ok location := by
    rw [locate_eq_ok_iff] at h
    obtain ⟨hempty, -⟩ | hpieces | hpieces := Path.above_eq_or directory
    · exact absurd hempty h.1
    · rw [← hpieces, h.2]
    · rw [hpieces, follow_append_eq_ok_iff] at h
      obtain ⟨-, between, hbetween, hlast⟩ := h
      rw [follow_cons_eq_ok_iff, Path.step_void _ rfl, follow, Except.ok.injEq] at hlast
      rw [hbetween, hlast.2]
  rw [locate_eq_ok_iff, Path.start_join hname, Path.pieces_join _ hname.whole,
    follow_append_eq_ok_iff]
  constructor
  · apply Path.join_ne_empty hname
  · use location, habove
    rw [follow_cons_eq_ok_iff, Path.step_name _ hname]
    exact ⟨hdirectory, rfl⟩

theorem solidPieces_eq (hne : path ≠ "") (hslash : path.toList.getLast? ≠ some '/') :
  solidPieces path = Path.pieces path
  := by
  have hlast := Path.getLast?_pieces_ne hne hslash
  obtain hnil | ⟨init, last, hpieces⟩ := (Path.pieces path).eq_nil_or_concat
  · exact absurd hnil (Path.pieces_ne_nil path)
  · rw [hpieces, List.concat_eq_append, List.getLast?_concat, ne_eq, Option.some.injEq] at hlast
    rw [solidPieces, hpieces, List.concat_eq_append, List.reverse_concat,
      List.dropWhile_cons_of_neg (by simpa using hlast)]
    simp

theorem locateSolid_eq_locate (hslash : path.toList.getLast? ≠ some '/') :
  tree.locateSolid base path = tree.locate base path
  := by
  rw [locateSolid, locate]
  split
  · rfl
  case isFalse hne =>
    rw [solidPieces_eq (by simpa using hne) hslash]

/-! ### Entries -/

theorem get?_nil (tree : FileTree) :
  tree.get? [] = some .directory
  := if_pos rfl

theorem get?_put_self {entry : Entry} (hne : location ≠ []) :
  (tree.put location entry).get? location = some entry
  := by
  simp [get?, put, hne]

theorem get?_put_of_ne {entry : Entry} {other : Location} (hne : other ≠ location) :
  (tree.put location entry).get? other = tree.get? other
  := by
  simp [get?, put, Std.ExtTreeMap.getElem?_insert, hne.symm]

/-- An entry put where no directory stands leaves all directories in place. -/
theorem get?_put_of_directory {entry : Entry} {other : Location}
    (hplace : tree.get? location ≠ some .directory) (h : tree.get? other = some .directory) :
  (tree.put location entry).get? other = some .directory
  := by
  rw [get?_put_of_ne, h]
  rintro rfl
  exact hplace h

theorem read_eq_ok_iff :
  tree.read base path = .ok content ↔
    tree.locate base path = .ok (Path.place base path) ∧
      tree.get? (Path.place base path) = some (.file content)
  := by
  rw [read, bind_eq_ok_iff]
  constructor
  · rintro ⟨location, hlocate, hget⟩
    rw [← place_of_locate hlocate]
    use hlocate
    split at hget <;> simp_all
  · rintro ⟨hlocate, hget⟩
    use Path.place base path, hlocate
    rw [hget]

theorem kind?_eq_directory_iff :
  tree.kind? base path = some .directory ↔
    tree.locate base path = .ok (Path.place base path) ∧
      tree.get? (Path.place base path) = some .directory
  := by
  rw [kind?]
  cases hlocate : tree.locate base path with
  | error refusal => simp
  | ok location =>
    obtain rfl := place_of_locate hlocate
    rw [eq_self, true_and, Option.map_eq_some_iff]
    constructor
    · rintro ⟨_ | _, hget, ⟨⟩⟩
      apply hget
    · intro hget
      exact ⟨.directory, hget, rfl⟩

theorem write_eq_ok_iff :
  tree.write base path content = .ok after ↔
    tree.locate base path = .ok (Path.place base path) ∧ path.toList.getLast? ≠ some '/' ∧
      tree.get? (Path.place base path) ≠ some .directory ∧
      after = tree.put (Path.place base path) (.file content)
  := by
  rw [write, bind_eq_ok_iff]
  constructor
  · rintro ⟨location, hlocate, h⟩
    split at h
    · cases h
    case isFalse hslash =>
      rw [locateSolid_eq_locate hslash] at hlocate
      obtain rfl := place_of_locate hlocate
      use hlocate, hslash
      split at h
      · cases h
      case h_2 hget =>
        rw [Except.ok.injEq] at h
        exact ⟨hget, h.symm⟩
  · rintro ⟨hlocate, hslash, hget, rfl⟩
    use Path.place base path
    rw [locateSolid_eq_locate hslash, if_neg hslash]
    use hlocate
    split
    · contradiction
    · rfl

theorem makeDirectory_eq_ok_iff :
  tree.makeDirectory base path = .ok after ↔
    ∃ location, tree.locateSolid base path = .ok location ∧ tree.get? location = none ∧
      after = tree.put location .directory
  := by
  rw [makeDirectory, bind_eq_ok_iff]
  constructor
  · rintro ⟨location, hlocate, h⟩
    use location, hlocate
    split at h
    · cases h
    case h_2 hget =>
      rw [Except.ok.injEq] at h
      exact ⟨hget, h.symm⟩
  · rintro ⟨location, hlocate, hget, rfl⟩
    use location, hlocate
    rw [hget]

/-- What was written at a path is read there. -/
theorem read_of_write (h : tree.write base path content = .ok after) :
  after.read base path = .ok content
  := by
  rw [write_eq_ok_iff] at h
  obtain ⟨hlocate, -, hget, rfl⟩ := h
  rw [read_eq_ok_iff]
  constructor
  · apply locate_mono _ hlocate
    intro location hlocation
    apply get?_put_of_directory hget hlocation
  · apply get?_put_self
    intro hnil
    rw [hnil, get?_nil] at hget
    contradiction

/-- Where something was written more may be written. -/
theorem exists_write_of_write (h : tree.write base path content = .ok after)
    (more : List UInt8) :
  ∃ last, after.write base path more = .ok last
  := by
  obtain ⟨-, hget⟩ := read_eq_ok_iff.mp (read_of_write h)
  rw [write_eq_ok_iff] at h
  obtain ⟨hlocate, hslash, hdirectory, rfl⟩ := h
  refine ⟨_, write_eq_ok_iff.mpr ⟨?_, hslash, ?_, rfl⟩⟩
  · apply locate_mono _ hlocate
    intro location hlocation
    apply get?_put_of_directory hdirectory hlocation
  · rw [hget]
    simp

/-! ### Well-formed trees -/

/-- Every entry stands under a name in a directory. -/
def IsWellFormed (tree : FileTree) : Prop :=
  ∀ location ∈ tree.entries, ∃ above name,
    location = above ++ [name] ∧ Path.IsName name ∧ tree.get? above = some .directory

theorem isWellFormed_iff_forall_keys :
  tree.IsWellFormed ↔ ∀ location ∈ tree.entries.keys,
    Path.IsName (location.getLastD "") ∧ tree.get? location.dropLast = some .directory
  := by
  simp only [IsWellFormed, Std.ExtTreeMap.mem_keys]
  apply forall₂_congr
  intro location _
  constructor
  · rintro ⟨above, name, rfl, hname, habove⟩
    rw [List.dropLast_concat]
    exact ⟨by simpa using hname, habove⟩
  · rintro ⟨hname, habove⟩
    obtain rfl | ⟨above, name, rfl⟩ := location.eq_nil_or_concat
    · exact absurd hname (by decide)
    · rw [List.concat_eq_append] at *
      rw [List.dropLast_concat] at habove
      exact ⟨above, name, rfl, by simpa using hname, habove⟩

instance (tree : FileTree) : Decidable tree.IsWellFormed :=
  decidable_of_iff' _ isWellFormed_iff_forall_keys

theorem IsWellFormed.of_get?_concat (htree : tree.IsWellFormed)
    (hget : tree.get? (location ++ [name]) ≠ none) :
  Path.IsName name ∧ tree.get? location = some .directory
  := by
  have hmem : location ++ [name] ∈ tree.entries := by
    rw [get?, if_neg (by simp)] at hget
    simpa using hget
  obtain ⟨above, last, hconcat, hlast, habove⟩ := htree _ hmem
  obtain ⟨rfl, hname⟩ := List.append_inj' hconcat rfl
  obtain rfl := List.singleton_inj.mp hname
  exact ⟨hlast, habove⟩

theorem IsWellFormed.get?_ne_none (htree : tree.IsWellFormed) {names : List String}
    (hget : tree.get? (location ++ names) ≠ none) :
  tree.get? location ≠ none
  := by
  induction names generalizing location with
  | nil => rwa [List.append_nil] at hget
  | cons name names ih =>
    rw [List.append_cons] at hget
    rw [(htree.of_get?_concat (ih hget)).2]
    simp

theorem IsWellFormed.isName (htree : tree.IsWellFormed) {names : List String}
    (hget : tree.get? (location ++ names) ≠ none) :
  ∀ name ∈ names, Path.IsName name
  := by
  induction names generalizing location with
  | nil => simp
  | cons name names ih =>
    rw [List.append_cons] at hget
    rw [List.forall_mem_cons]
    exact ⟨(htree.of_get?_concat (htree.get?_ne_none hget)).1, ih hget⟩

/-- The root, or a place for a name in a directory. -/
def IsPlace (tree : FileTree) (location : Location) : Prop :=
  location = [] ∨ ∃ above name,
    location = above ++ [name] ∧ Path.IsName name ∧ tree.get? above = some .directory

theorem IsWellFormed.isPlace (htree : tree.IsWellFormed) (hget : tree.get? location ≠ none) :
  tree.IsPlace location
  := by
  obtain rfl | ⟨above, name, rfl⟩ := location.eq_nil_or_concat
  · left
    rfl
  · right
    rw [List.concat_eq_append] at hget ⊢
    exact ⟨above, name, rfl, htree.of_get?_concat hget⟩

theorem IsWellFormed.isPlace_step (htree : tree.IsWellFormed)
    (hdirectory : tree.get? location = some .directory) {piece : List Char}
    (hslash : '/' ∉ piece) :
  tree.IsPlace (Path.step location piece)
  := by
  have hplace : tree.IsPlace location := htree.isPlace (by simp [hdirectory])
  rw [Path.step]
  split
  case isTrue => apply hplace
  case isFalse hvoid =>
    split
    case isTrue =>
      obtain rfl | ⟨above, name, rfl, -, habove⟩ := hplace
      · left
        rfl
      · rw [List.dropLast_concat]
        apply htree.isPlace (by simp [habove])
    case isFalse hparent =>
      right
      refine ⟨location, String.ofList piece, rfl, ⟨?_, ?_, ?_⟩, hdirectory⟩
      all_goals rw [String.toList_ofList]
      · simpa using hvoid
      · simpa using hparent
      · apply hslash

theorem IsWellFormed.isPlace_of_follow (htree : tree.IsWellFormed) (hplace : tree.IsPlace location)
    {pieces : List (List Char)} (hslash : ∀ piece ∈ pieces, '/' ∉ piece) {place : Location}
    (h : tree.follow location pieces = .ok place) :
  tree.IsPlace place
  := by
  induction pieces generalizing location with
  | nil =>
    rw [follow, Except.ok.injEq] at h
    rwa [← h]
  | cons piece pieces ih =>
    rw [List.forall_mem_cons] at hslash
    rw [follow_cons_eq_ok_iff] at h
    apply ih (htree.isPlace_step h.1 hslash.1) hslash.2 h.2

theorem IsWellFormed.put (htree : tree.IsWellFormed) (hplace : tree.IsPlace location)
    (hnew : tree.get? location ≠ some .directory) (entry : Entry) :
  (tree.put location entry).IsWellFormed
  := by
  have hdirectory {above : Location} (h : tree.get? above = some .directory) :
      (tree.put location entry).get? above = some .directory :=
    get?_put_of_directory hnew h
  intro other hother
  rw [FileTree.put, Std.ExtTreeMap.mem_insert, Std.LawfulEqCmp.compare_eq_iff_eq] at hother
  obtain rfl | hother := hother
  · obtain rfl | ⟨above, name, rfl, hname, habove⟩ := hplace
    · exact absurd (get?_nil tree) hnew
    · exact ⟨above, name, rfl, hname, hdirectory habove⟩
  · obtain ⟨above, name, rfl, hname, habove⟩ := htree other hother
    exact ⟨above, name, rfl, hname, hdirectory habove⟩

theorem solidPieces_ne_nil (hne : path ≠ "") (hrelative : Path.isAbsolute path = false) :
  solidPieces path ≠ []
  := by
  intro hnil
  rw [solidPieces, List.reverse_eq_nil_iff, List.dropWhile_eq_nil_iff] at hnil
  obtain ⟨first, rest, hpieces⟩ := List.exists_cons_of_ne_nil (Path.pieces_ne_nil path)
  obtain rfl : first = [] := by
    simpa using hnil first (by simp [hpieces])
  have hpath := Path.ofPieces_pieces path
  rw [hpieces, Path.ofPieces] at hpath
  cases rest with
  | nil =>
    apply hne
    rw [← hpath]
    rfl
  | cons piece rest =>
    rw [List.intercalate_cons_cons] at hpath
    rw [← hpath, Path.isAbsolute, String.toList_ofList] at hrelative
    contradiction

theorem mem_pieces_of_mem_solidPieces {piece : List Char} (h : piece ∈ solidPieces path) :
  piece ∈ Path.pieces path
  := by
  rw [solidPieces, List.mem_reverse] at h
  rw [← List.mem_reverse]
  apply List.dropWhile_subset _ h

theorem IsWellFormed.isPlace_of_locateSolid (htree : tree.IsWellFormed)
    (h : tree.locateSolid base path = .ok location) :
  tree.IsPlace location
  := by
  rw [locateSolid] at h
  split at h
  · cases h
  case isFalse hne =>
    have hstart : tree.IsPlace (start base path) := by
      rw [start] at h ⊢
      split
      · left
        rfl
      case isFalse habsolute =>
        have hsolid := solidPieces_ne_nil (by simpa using hne) (by simpa using habsolute)
        obtain ⟨piece, rest, hpieces⟩ := List.exists_cons_of_ne_nil hsolid
        rw [if_neg habsolute, hpieces, follow_cons_eq_ok_iff] at h
        apply htree.isPlace (by simp [h.1])
    apply htree.isPlace_of_follow hstart _ h
    intro piece hpiece
    apply Path.slash_not_mem_of_mem_pieces (mem_pieces_of_mem_solidPieces hpiece)

theorem IsWellFormed.write (htree : tree.IsWellFormed)
    (h : tree.write base path content = .ok after) :
  after.IsWellFormed
  := by
  rw [write_eq_ok_iff] at h
  obtain ⟨hlocate, hslash, hget, rfl⟩ := h
  rw [← locateSolid_eq_locate hslash] at hlocate
  apply htree.put (htree.isPlace_of_locateSolid hlocate) hget

theorem IsWellFormed.makeDirectory (htree : tree.IsWellFormed)
    (h : tree.makeDirectory base path = .ok after) :
  after.IsWellFormed
  := by
  rw [makeDirectory_eq_ok_iff] at h
  obtain ⟨location, hlocate, hget, rfl⟩ := h
  apply htree.put (htree.isPlace_of_locateSolid hlocate)
  simp [hget]

/-! ### Walking a tree -/

theorem below?_eq_some_iff {names : Location} :
  below? base location = some names ↔ location = base ++ names
  := by
  fun_induction below? base location with
  | case1 location => simp
  | case2 base name location ih => simp [ih]
  | case3 name base other location hne => simp [Ne.symm hne]
  | case4 name base => simp

theorem IsWellFormed.getElem?_entries (htree : tree.IsWellFormed) :
  tree.entries[location]? = some (.file content) ↔ tree.get? location = some (.file content)
  := by
  rw [get?]
  split
  case isTrue hnil =>
    have hroot : tree.entries[location]? = none := by
      apply Std.ExtTreeMap.getElem?_eq_none
      intro hmem
      obtain ⟨above, name, hconcat, -⟩ := htree location hmem
      simp [hnil] at hconcat
    simp [hroot]
  case isFalse => rfl

theorem eq_of_below? {names place : Location} {entry : Entry}
    (h : (match entry with
      | .file _ => below? location place
      | .directory => none) = some names) :
  place = location ++ names ∧ ∃ content, entry = .file content
  := by
  cases entry with
  | directory => cases h
  | file content => exact ⟨below?_eq_some_iff.mp h, content, rfl⟩

/-- The files below a location are those whose location continues it. -/
theorem IsWellFormed.mem_filesUnder_iff (htree : tree.IsWellFormed) {names : List String} :
  names ∈ tree.filesUnder location ↔
    ∃ content, tree.get? (location ++ names) = some (.file content)
  := by
  rw [filesUnder, List.mem_filterMap]
  constructor
  · rintro ⟨⟨place, entry⟩, hmem, hbelow⟩
    obtain ⟨rfl, content, rfl⟩ := eq_of_below? hbelow
    rw [Std.ExtTreeMap.mem_toList_iff_getElem?_eq_some, htree.getElem?_entries] at hmem
    exact ⟨content, hmem⟩
  · rintro ⟨content, hget⟩
    use (location ++ names, .file content)
    rw [Std.ExtTreeMap.mem_toList_iff_getElem?_eq_some, htree.getElem?_entries]
    exact ⟨hget, below?_eq_some_iff.mpr rfl⟩

theorem nodup_filesUnder (tree : FileTree) (location : Location) :
  (tree.filesUnder location).Nodup
  := by
  rw [filesUnder, List.Nodup, List.pairwise_filterMap]
  apply tree.entries.distinct_keys_toList.imp
  rintro ⟨place, entry⟩ ⟨other, entry'⟩ hne names hnames names' hnames' rfl
  apply hne
  rw [Std.LawfulEqCmp.compare_eq_iff_eq, (eq_of_below? hnames).1, (eq_of_below? hnames').1]

theorem filesBelow_eq_ok_iff {files : List Location} :
  tree.filesBelow base path = .ok files ↔
    ∃ location, tree.locate base path = .ok location ∧
      tree.get? location = some .directory ∧ tree.filesUnder location = files
  := by
  rw [filesBelow, bind_eq_ok_iff]
  constructor
  · rintro ⟨location, hlocate, h⟩
    rw [bind_eq_ok_iff] at h
    obtain ⟨⟨⟩, hdirectory, h⟩ := h
    rw [requireDirectory_eq_ok_iff] at hdirectory
    rw [pure_eq_ok_iff] at h
    exact ⟨location, hlocate, hdirectory, h.symm⟩
  · rintro ⟨location, hlocate, hdirectory, rfl⟩
    use location, hlocate
    rw [bind_eq_ok_iff]
    exact ⟨(), requireDirectory_eq_ok_iff.mpr hdirectory, rfl⟩

end FileTree

end Recolour
