import Mathlib.Order.Lattice

/-!
# Stable sorting by a key

A stable sort by a key leaves the elements of one key in the order in which they stood.  Since a
sorted list is determined by its elements of each key, so is what a list is sorted to.
-/

namespace Recolour.Sorting

variable {α κ : Type} [LinearOrder κ] {key : α → κ}

/-- The elements of a list with a given key, in order. -/
def withKey (key : α → κ) (k : κ) (xs : List α) : List α :=
  xs.filter fun x => key x = k

/-- A list sorted by a key, stably. -/
def sortBy (key : α → κ) (xs : List α) : List α :=
  xs.mergeSort fun x y => key x ≤ key y

theorem mem_withKey {k : κ} {xs : List α} {x : α} :
  x ∈ withKey key k xs ↔ x ∈ xs ∧ key x = k
  := by
  simp [withKey]

theorem withKey_cons_of_eq (x : α) (xs : List α) :
  withKey key (key x) (x :: xs) = x :: withKey key (key x) xs
  := by
  simp [withKey]

theorem withKey_cons_of_ne {k : κ} {x : α} (h : key x ≠ k) (xs : List α) :
  withKey key k (x :: xs) = withKey key k xs
  := by
  simp [withKey, h]

theorem decide_le_trans (key : α → κ) (x y z : α) :
  decide (key x ≤ key y) → decide (key y ≤ key z) → decide (key x ≤ key z)
  := by
  simpa using le_trans

theorem decide_le_total (key : α → κ) (x y : α) :
  decide (key x ≤ key y) || decide (key y ≤ key x)
  := by
  simpa using le_total (key x) (key y)

theorem pairwise_sortBy (key : α → κ) (xs : List α) :
  (sortBy key xs).Pairwise fun x y => key x ≤ key y
  := by
  have h := List.pairwise_mergeSort (decide_le_trans key) (decide_le_total key) xs
  simpa [sortBy] using h

/-- A sort keeps the order of the elements of one key. -/
theorem withKey_sortBy (key : α → κ) (k : κ) (xs : List α) :
  withKey key k (sortBy key xs) = withKey key k xs
  := by
  have hsame : (withKey key k xs).Pairwise fun x y => decide (key x ≤ key y) := by
    rw [List.pairwise_iff_forall_sublist]
    intro x y hsublist
    have hx := mem_withKey.mp (hsublist.subset (by simp : x ∈ [x, y]))
    have hy := mem_withKey.mp (hsublist.subset (by simp : y ∈ [x, y]))
    simp [hx.2, hy.2]
  have hsublist : (withKey key k xs).Sublist (sortBy key xs) :=
    List.sublist_mergeSort (decide_le_trans key) (decide_le_total key) hsame List.filter_sublist
  have hkept : (withKey key k xs).Sublist (withKey key k (sortBy key xs)) := by
    have h := hsublist.filter fun x => decide (key x = k)
    rw [List.filter_eq_self.mpr] at h
    · apply h
    · intro x hx
      simp [(mem_withKey.mp hx).2]
  have hlength :=
    ((List.mergeSort_perm xs fun x y => key x ≤ key y).filter fun x => key x = k).length_eq
  apply (hkept.eq_of_length hlength.symm).symm

/-- A sorted list is determined by its elements of each key. -/
theorem eq_of_withKey_eq {xs ys : List α} (hxs : xs.Pairwise fun x y => key x ≤ key y)
    (hys : ys.Pairwise fun x y => key x ≤ key y) (h : ∀ k, withKey key k xs = withKey key k ys) :
  xs = ys
  := by
  induction xs generalizing ys with
  | nil =>
    symm
    rw [List.eq_nil_iff_forall_not_mem]
    intro y hy
    have hmem : y ∈ withKey key (key y) ys := mem_withKey.mpr ⟨hy, rfl⟩
    rw [← h] at hmem
    cases hmem
  | cons x xs ih =>
    -- The first elements have the least keys, hence the same key.
    have hx : x ∈ withKey key (key x) ys := by
      rw [← h, withKey_cons_of_eq]
      apply List.mem_cons_self
    obtain ⟨hx, -⟩ := mem_withKey.mp hx
    cases ys with
    | nil => cases hx
    | cons y ys =>
      have hy : y ∈ withKey key (key y) (x :: xs) := by
        rw [h, withKey_cons_of_eq]
        apply List.mem_cons_self
      obtain ⟨hy, -⟩ := mem_withKey.mp hy
      rw [List.pairwise_cons] at hxs hys
      have hkey : key x = key y := by
        apply le_antisymm
        · obtain rfl | hy := List.mem_cons.mp hy
          · apply le_refl
          · apply hxs.1 y hy
        · obtain rfl | hx := List.mem_cons.mp hx
          · apply le_refl
          · apply hys.1 x hx
      have hhead := h (key x)
      rw [withKey_cons_of_eq, hkey, withKey_cons_of_eq] at hhead
      obtain ⟨rfl, htail⟩ := List.cons.inj hhead
      congr 1
      apply ih hxs.2 hys.2
      intro k
      by_cases hk : key x = k
      · rw [← hk]
        apply htail
      · have hk' := h k
        rw [withKey_cons_of_ne hk, withKey_cons_of_ne hk] at hk'
        apply hk'

/-- What a list is sorted to is determined by its elements of each key. -/
theorem sortBy_eq_sortBy_iff {xs ys : List α} :
  sortBy key xs = sortBy key ys ↔ ∀ k, withKey key k xs = withKey key k ys
  := by
  constructor
  · intro h k
    rw [← withKey_sortBy, h, withKey_sortBy]
  · intro h
    apply eq_of_withKey_eq (pairwise_sortBy key xs) (pairwise_sortBy key ys)
    intro k
    rw [withKey_sortBy, withKey_sortBy, h]

end Recolour.Sorting
