import Mathlib.Data.List.ModifyLast
import Mathlib.Tactic.Use
import Recolour.Path
import Recolour.Proofs.Text.Fields

/-!
# Paths of names

A name joined to a path is the last piece of the joined path, and the pieces before it are those
of the path. So the extension of the joined path is that of the name, and giving the path another
extension is giving it to the name. Two names with the extension changed agree exactly when their
stems do.
-/

namespace Recolour.Path

/-! ### Pieces -/

theorem pieces_ne_nil (path : String) :
  pieces path ≠ []
  := List.splitOn_ne_nil _ _

theorem slash_not_mem_of_mem_pieces {path : String} {piece : List Char}
    (h : piece ∈ pieces path) :
  '/' ∉ piece
  := by
  intro hslash
  simpa using Text.not_of_mem_splitOnP h '/' hslash

theorem ofPieces_pieces (path : String) :
  ofPieces (pieces path) = path
  := by
  rw [ofPieces, pieces, List.intercalate_splitOn, String.ofList_toList]

theorem pieces_ofPieces {ps : List (List Char)} (hne : ps ≠ []) (h : ∀ piece ∈ ps, '/' ∉ piece) :
  pieces (ofPieces ps) = ps
  := by
  rw [ofPieces, pieces, String.toList_ofList]
  apply List.splitOn_intercalate '/' h hne

theorem intercalate_concat {ps : List (List Char)} (hne : ps ≠ []) (piece : List Char) :
  ['/'].intercalate (ps ++ [piece]) = ['/'].intercalate ps ++ '/' :: piece
  := by
  induction ps with
  | nil => contradiction
  | cons p ps ih =>
    cases ps with
    | nil => simp
    | cons q ps =>
      rw [List.cons_append, List.cons_append, List.intercalate_cons_cons, ← List.cons_append,
        ih (by simp), List.intercalate_cons_cons, List.append_assoc, List.append_assoc,
        List.append_assoc]

theorem pieces_of_getLast?_eq {path : String} (h : path.toList.getLast? = some '/') :
  ∃ front, pieces path = front ++ [[]] ∧ front ≠ []
  := by
  obtain ⟨init, hinit⟩ := List.getLast?_eq_some_iff.mp h
  use init.splitOn '/'
  constructor
  · rw [pieces, hinit, List.splitOn_append_cons_self, List.splitOn_nil]
  · apply List.splitOn_ne_nil

theorem getLast?_pieces_ne {path : String} (hne : path ≠ "")
    (h : path.toList.getLast? ≠ some '/') :
  (pieces path).getLast? ≠ some []
  := by
  intro hlast
  obtain ⟨front, hfront⟩ := List.getLast?_eq_some_iff.mp hlast
  have hpath := ofPieces_pieces path
  rw [hfront, ofPieces] at hpath
  cases front with
  | nil =>
    apply hne
    rw [← hpath]
    rfl
  | cons p ps =>
    apply h
    rw [← hpath, intercalate_concat (by simp), String.toList_ofList, List.getLast?_concat]

/-! ### Extensions -/

/-- What follows a dot behind which there is no other is the extension, unless that dot is the
first character. -/
theorem splitExtension_append {stem extension : List Char} (hne : stem ≠ [])
    (hdot : '.' ∉ extension) :
  splitExtension (stem ++ '.' :: extension) = (stem, some extension)
  := by
  have hafter : ((stem ++ '.' :: extension).reverse.takeWhile (· != '.')).reverse = extension := by
    have hplain : ∀ c ∈ extension.reverse, (c != '.') = true := by
      intro c hc
      rw [bne_iff_ne]
      rintro rfl
      exact hdot (List.mem_reverse.mp hc)
    rw [List.reverse_append, List.reverse_cons, List.append_assoc, List.singleton_append,
      List.takeWhile_append_of_pos hplain, List.takeWhile_cons_of_neg (by simp), List.append_nil,
      List.reverse_reverse]
  have hbefore : (stem ++ '.' :: extension).take
      ((stem ++ '.' :: extension).length - extension.length - 1) = stem := by
    apply List.take_left'
    rw [List.length_append, List.length_cons]
    omega
  rw [splitExtension, hafter, hbefore, if_pos]
  have hlength : extension.length < stem.length + (extension.length + 1) := by omega
  simpa [hne] using hlength

/-! ### Names -/

/-- A text that names a file in the directory it is followed from. -/
structure IsName (name : String) : Prop where
  names : isVoid name.toList = false
  stays : isParent name.toList = false
  whole : '/' ∉ name.toList

instance (name : String) : Decidable (IsName name) :=
  decidable_of_iff
    (isVoid name.toList = false ∧ isParent name.toList = false ∧ '/' ∉ name.toList)
    ⟨fun ⟨names, stays, whole⟩ => ⟨names, stays, whole⟩, fun ⟨names, stays, whole⟩ =>
      ⟨names, stays, whole⟩⟩

/-- The stem of a file name. -/
def stem (name : String) : String :=
  String.ofList (splitExtension name.toList).1

/-- The file name with another extension. -/
def rename (extension name : String) : String :=
  String.ofList <|
    if extension.isEmpty then (stem name).toList else (stem name).toList ++ '.' :: extension.toList

theorem rename_eq_iff {extension name other : String} :
  rename extension name = rename extension other ↔ stem name = stem other
  := by
  rw [rename, rename, String.ofList_inj]
  split
  · rw [String.toList_inj]
  · rw [List.append_left_inj, String.toList_inj]

theorem mem_of_mem_stem {name : String} {c : Char} (h : c ∈ (stem name).toList) :
  c ∈ name.toList
  := by
  rw [stem, String.toList_ofList, splitExtension] at h
  split at h
  · apply List.mem_of_mem_take h
  · apply h

theorem stem_ne_nil {name : String} (hname : IsName name) :
  (stem name).toList ≠ []
  := by
  rw [stem, String.toList_ofList, splitExtension]
  split
  case isTrue h =>
    rw [Bool.and_eq_true] at h
    simpa using h.2
  case isFalse =>
    intro hnil
    have hvoid := hname.names
    rw [isVoid, show name.toList = [] from hnil] at hvoid
    simp at hvoid

theorem toList_rename {name extension : String} (hne : extension ≠ "") :
  (rename extension name).toList = (stem name).toList ++ '.' :: extension.toList
  := by
  rw [rename, String.toList_ofList, if_neg (by simpa using hne)]

/-- A name with another extension has that extension and the stem it had. -/
theorem splitExtension_rename {name extension : String} (hname : IsName name)
    (hne : extension ≠ "") (hdot : '.' ∉ extension.toList) :
  splitExtension (rename extension name).toList = ((stem name).toList, some extension.toList)
  := by
  rw [toList_rename hne]
  apply splitExtension_append (stem_ne_nil hname) hdot

theorem stem_rename {name extension : String} (hname : IsName name) (hne : extension ≠ "")
    (hdot : '.' ∉ extension.toList) :
  stem (rename extension name) = stem name
  := by
  rw [stem, splitExtension_rename hname hne hdot, String.ofList_toList]

theorem slash_not_mem_rename {name extension : String} (hname : '/' ∉ name.toList)
    (hslash : '/' ∉ extension.toList) :
  '/' ∉ (rename extension name).toList
  := by
  have hstem : '/' ∉ (stem name).toList := fun h => hname (mem_of_mem_stem h)
  rw [rename, String.toList_ofList]
  split
  · apply hstem
  · rw [List.mem_append, List.mem_cons, not_or, not_or]
    exact ⟨hstem, by decide, hslash⟩

/-- A name with another extension is a name. -/
theorem IsName.rename {name extension : String} (hname : IsName name) (hne : extension ≠ "")
    (hslash : '/' ∉ extension.toList) :
  IsName (rename extension name)
  := by
  have hlength : 3 ≤ (Path.rename extension name).toList.length := by
    have hstem := List.length_pos_iff.mpr (stem_ne_nil hname)
    have hextension : 0 < extension.toList.length := by
      rw [List.length_pos_iff]
      simpa using hne
    rw [toList_rename hne, List.length_append, List.length_cons]
    omega
  constructor
  · rw [isVoid, Bool.or_eq_false_iff, beq_eq_false_iff_ne, beq_eq_false_iff_ne]
    constructor
    all_goals
      intro h
      rw [h] at hlength
      simp at hlength
  · rw [isParent, beq_eq_false_iff_ne]
    intro h
    rw [h] at hlength
    simp at hlength
  · apply slash_not_mem_rename hname.whole hslash

/-! ### Joining a name -/

/-- The pieces before a name that is joined to a path. -/
def above (directory : String) : List (List Char) :=
  if directory.isEmpty then []
  else if directory.toList.getLast? = some '/' then (pieces directory).dropLast
  else pieces directory

theorem slash_not_mem_of_mem_above {directory : String} {piece : List Char}
    (h : piece ∈ above directory) :
  '/' ∉ piece
  := by
  rw [above] at h
  split at h
  · contradiction
  · split at h
    · apply slash_not_mem_of_mem_pieces (List.dropLast_subset _ h)
    · apply slash_not_mem_of_mem_pieces h

theorem isAbsolute_eq_false {name : String} (hname : '/' ∉ name.toList) :
  isAbsolute name = false
  := by
  rw [isAbsolute, beq_eq_false_iff_ne]
  intro h
  apply hname (List.mem_of_mem_head? h)

theorem join_eq {directory name : String} (hname : '/' ∉ name.toList) :
  join directory name = ofPieces (above directory ++ [name.toList])
  := by
  have hdirectory := congrArg String.toList (ofPieces_pieces directory)
  rw [ofPieces, String.toList_ofList] at hdirectory
  apply String.toList_injective
  rw [join, above, isAbsolute_eq_false hname, Bool.false_or, ofPieces, String.toList_ofList]
  split
  · simp
  · split
    case isTrue hslash =>
      obtain ⟨front, hfront, hne⟩ := pieces_of_getLast?_eq hslash
      rw [hfront, intercalate_concat hne] at hdirectory
      rw [hfront, List.dropLast_concat, intercalate_concat hne, String.toList_append, ← hdirectory,
        List.append_assoc]
      rfl
    case isFalse =>
      rw [intercalate_concat (pieces_ne_nil directory), hdirectory, String.toList_append,
        String.toList_append, List.append_assoc]
      rfl

theorem isAbsolute_join {directory name : String} (hname : '/' ∉ name.toList) :
  isAbsolute (join directory name) = isAbsolute directory
  := by
  rw [join, isAbsolute_eq_false hname, Bool.false_or]
  split
  case isTrue h =>
    rw [String.isEmpty_iff] at h
    rw [isAbsolute_eq_false hname, h]
    rfl
  case isFalse h =>
    have hne : directory.toList ≠ [] := by simpa using h
    obtain ⟨c, cs, hcs⟩ := List.exists_cons_of_ne_nil hne
    split <;> simp [isAbsolute, hcs]

theorem above_eq_or (directory : String) :
  directory = "" ∧ above directory = [] ∨ pieces directory = above directory ∨
    pieces directory = above directory ++ [[]]
  := by
  rw [above]
  split
  case isTrue h =>
    left
    simpa using h
  case isFalse =>
    split
    case isTrue hslash =>
      obtain ⟨front, hfront, -⟩ := pieces_of_getLast?_eq hslash
      right; right
      rw [hfront, List.dropLast_concat]
    case isFalse =>
      right; left
      rfl

theorem pieces_join (directory : String) {name : String} (hname : '/' ∉ name.toList) :
  pieces (join directory name) = above directory ++ [name.toList]
  := by
  rw [join_eq hname, pieces_ofPieces (by simp)]
  intro piece hpiece
  rw [List.mem_append, List.mem_singleton] at hpiece
  obtain habove | rfl := hpiece
  · apply slash_not_mem_of_mem_above habove
  · apply hname

theorem join_ne_empty {directory name : String} (hname : IsName name) :
  join directory name ≠ ""
  := by
  intro h
  have hlast := congrArg List.getLast? (pieces_join directory hname.whole)
  rw [h, List.getLast?_concat, show (pieces "").getLast? = some [] from rfl,
    Option.some.injEq] at hlast
  have hvoid := hname.names
  rw [← hlast] at hvoid
  contradiction

theorem significant_join {directory name : String} (hname : IsName name) :
  significant (join directory name) = above directory ++ [name.toList]
  := by
  rw [significant, pieces_join _ hname.whole, List.reverse_concat, List.dropWhile_cons_of_neg]
  · simp
  · simp [hname.names]

theorem fileName?_join {directory name : String} (hname : IsName name) :
  fileName? (join directory name) = some name.toList
  := by
  rw [fileName?, significant_join hname, List.getLast?_concat, Option.filter_some, if_pos]
  simp [hname.stays]

theorem extension?_join {directory name : String} (hname : IsName name) :
  extension? (join directory name) = (splitExtension name.toList).2.map String.ofList
  := by
  rw [extension?, fileName?_join hname, Option.bind_some]

theorem withExtension_join {directory name extension : String} (hname : IsName name)
    (hslash : '/' ∉ extension.toList) :
  withExtension (join directory name) extension = join directory (rename extension name)
  := by
  rw [withExtension, fileName?_join hname, significant_join hname,
    join_eq (slash_not_mem_rename hname.whole hslash), List.dropLast_concat, rename, stem,
    String.toList_ofList, String.toList_ofList]

end Recolour.Path
