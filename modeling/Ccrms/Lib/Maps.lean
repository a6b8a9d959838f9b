import Mathlib.Logic.Function.Basic
import Mathlib.Algebra.BigOperators.Finprod
import Mathlib.Data.Set.Card

/-!
# Storage maps and bounded vectors

A storage map is a total function to an option. A bounded vector carries the proof of its bound, so a vector
that is too long cannot be built. The sum over a map is finite when the map has finitely many entries.
-/

namespace Ccrms.Lib

/-! ## Maps of one key -/

/-- `StorageMap` with `OptionQuery`: a key that was never inserted reads as `none`. -/
abbrev StorageMap (K V : Type) := K → Option V

namespace StorageMap

variable {K V : Type} [DecidableEq K]

def empty {K V : Type} : StorageMap K V := fun _ => none

def insert (m : StorageMap K V) (k : K) (v : V) : StorageMap K V :=
  fun x => if x = k then some v else m x

def remove (m : StorageMap K V) (k : K) : StorageMap K V :=
  fun x => if x = k then none else m x

@[simp] theorem empty_apply {K V : Type} (k : K) : (empty : StorageMap K V) k = none := rfl

theorem insert_apply (m : StorageMap K V) (k : K) (v : V) (x : K) :
    m.insert k v x = if x = k then some v else m x := rfl

theorem remove_apply (m : StorageMap K V) (k x : K) :
    m.remove k x = if x = k then none else m x := rfl

@[simp] theorem insert_self (m : StorageMap K V) (k : K) (v : V) : m.insert k v k = some v := by
  simp [insert]

@[simp] theorem remove_self (m : StorageMap K V) (k : K) : m.remove k k = none := by
  simp [remove]

theorem insert_of_ne (m : StorageMap K V) {k x : K} (v : V) (h : x ≠ k) : m.insert k v x = m x := by
  simp [insert, h]

theorem remove_of_ne (m : StorageMap K V) {k x : K} (h : x ≠ k) : m.remove k x = m x := by
  simp [remove, h]

/-- An entry of a map after an insertion is the new one, or it was there before under another key. -/
theorem insert_eq_some {m : StorageMap K V} {k x : K} {v y : V} (h : m.insert k v x = some y) :
    (x = k ∧ y = v) ∨ (x ≠ k ∧ m x = some y) := by
  by_cases hx : x = k
  · subst hx
    rw [insert_self] at h
    exact Or.inl ⟨rfl, (Option.some.inj h).symm⟩
  · rw [insert_of_ne m v hx] at h
    exact Or.inr ⟨hx, h⟩

end StorageMap

/-! ## Maps of two keys -/

/-- `StorageDoubleMap` with `OptionQuery`. -/
abbrev StorageDoubleMap (K₁ K₂ V : Type) := K₁ → K₂ → Option V

namespace StorageDoubleMap

variable {K₁ K₂ V : Type} [DecidableEq K₁] [DecidableEq K₂]

def empty {K₁ K₂ V : Type} : StorageDoubleMap K₁ K₂ V := fun _ _ => none

def insert (m : StorageDoubleMap K₁ K₂ V) (k₁ : K₁) (k₂ : K₂) (v : V) : StorageDoubleMap K₁ K₂ V :=
  fun x y => if x = k₁ ∧ y = k₂ then some v else m x y

def remove (m : StorageDoubleMap K₁ K₂ V) (k₁ : K₁) (k₂ : K₂) : StorageDoubleMap K₁ K₂ V :=
  fun x y => if x = k₁ ∧ y = k₂ then none else m x y

@[simp] theorem empty_apply {K₁ K₂ V : Type} (k₁ : K₁) (k₂ : K₂) :
    (empty : StorageDoubleMap K₁ K₂ V) k₁ k₂ = none := rfl

theorem insert_apply (m : StorageDoubleMap K₁ K₂ V) (k₁ : K₁) (k₂ : K₂) (v : V) (x : K₁) (y : K₂) :
    m.insert k₁ k₂ v x y = if x = k₁ ∧ y = k₂ then some v else m x y := rfl

theorem remove_apply (m : StorageDoubleMap K₁ K₂ V) (k₁ : K₁) (k₂ : K₂) (x : K₁) (y : K₂) :
    m.remove k₁ k₂ x y = if x = k₁ ∧ y = k₂ then none else m x y := rfl

@[simp] theorem insert_self (m : StorageDoubleMap K₁ K₂ V) (k₁ : K₁) (k₂ : K₂) (v : V) :
    m.insert k₁ k₂ v k₁ k₂ = some v := by
  simp [insert]

theorem insert_of_ne (m : StorageDoubleMap K₁ K₂ V) {k₁ x : K₁} {k₂ y : K₂} (v : V) (h : (x, y) ≠ (k₁, k₂)) :
    m.insert k₁ k₂ v x y = m x y := by
  rw [insert_apply, if_neg]
  rintro ⟨rfl, rfl⟩
  exact h rfl

theorem insert_insert (m : StorageDoubleMap K₁ K₂ V) (k₁ : K₁) (k₂ : K₂) (v w : V) :
    (m.insert k₁ k₂ v).insert k₁ k₂ w = m.insert k₁ k₂ w := by
  funext x y
  simp only [insert_apply]
  split <;> rfl

@[simp] theorem remove_self (m : StorageDoubleMap K₁ K₂ V) (k₁ : K₁) (k₂ : K₂) :
    m.remove k₁ k₂ k₁ k₂ = none := by
  simp [remove]

theorem remove_of_ne (m : StorageDoubleMap K₁ K₂ V) {k₁ x : K₁} {k₂ y : K₂} (h : (x, y) ≠ (k₁, k₂)) :
    m.remove k₁ k₂ x y = m x y := by
  rw [remove_apply, if_neg]
  rintro ⟨rfl, rfl⟩
  exact h rfl

theorem insert_ne_none {m : StorageDoubleMap K₁ K₂ V} {k₁ x : K₁} {k₂ y : K₂} {v : V}
    (h : m.insert k₁ k₂ v x y ≠ none) : (x = k₁ ∧ y = k₂) ∨ m x y ≠ none := by
  by_cases hk : (x, y) = (k₁, k₂)
  · exact Or.inl (Prod.mk.inj hk)
  · rw [insert_of_ne _ _ hk] at h
    exact Or.inr h

theorem remove_ne_none {m : StorageDoubleMap K₁ K₂ V} {k₁ x : K₁} {k₂ y : K₂} (h : m.remove k₁ k₂ x y ≠ none) :
    (x, y) ≠ (k₁, k₂) ∧ m x y ≠ none := by
  by_cases hk : (x, y) = (k₁, k₂)
  · cases hk
    exact absurd (remove_self m k₁ k₂) h
  · rw [remove_of_ne _ hk] at h
    exact ⟨hk, h⟩

theorem insert_of_eq {m : StorageDoubleMap K₁ K₂ V} {k₁ : K₁} {k₂ : K₂} {v : V} (h : m k₁ k₂ = some v) :
    m.insert k₁ k₂ v = m := by
  funext x y
  rw [insert_apply]
  split
  · rename_i hx; rw [hx.1, hx.2, h]
  · rfl

/-- Every value in the map satisfies `p`. -/
def All {K₁ K₂ V : Type} (p : V → Prop) (m : StorageDoubleMap K₁ K₂ V) : Prop := ∀ x y v, m x y = some v → p v

theorem All.empty {K₁ K₂ V : Type} {p : V → Prop} : (empty : StorageDoubleMap K₁ K₂ V).All p := by
  intro x y v h
  cases h

theorem All.insert {p : V → Prop} {m : StorageDoubleMap K₁ K₂ V} (h : m.All p) {v : V} (hv : p v) (k₁ : K₁) (k₂ : K₂) :
    (m.insert k₁ k₂ v).All p := by
  intro x y v' hv'
  rw [insert_apply] at hv'
  split at hv'
  · cases hv'
    exact hv
  · exact h x y v' hv'

theorem All.remove {p : V → Prop} {m : StorageDoubleMap K₁ K₂ V} (h : m.All p) (k₁ : K₁) (k₂ : K₂) :
    (m.remove k₁ k₂).All p := by
  intro x y v' hv'
  rw [remove_apply] at hv'
  split at hv'
  · cases hv'
  · exact h x y v' hv'

/-! The rows of a double map. -/

theorem insert_row (m : StorageDoubleMap K₁ K₂ V) (k₁ : K₁) (k₂ : K₂) (v : V) :
    m.insert k₁ k₂ v k₁ = StorageMap.insert (m k₁) k₂ v := by
  funext y
  simp [insert_apply, StorageMap.insert_apply]

theorem insert_row_of_ne (m : StorageDoubleMap K₁ K₂ V) {k₁ x : K₁} (k₂ : K₂) (v : V) (h : x ≠ k₁) :
    m.insert k₁ k₂ v x = m x := by
  funext y
  simp [insert_apply, h]

theorem remove_row (m : StorageDoubleMap K₁ K₂ V) (k₁ : K₁) (k₂ : K₂) :
    m.remove k₁ k₂ k₁ = StorageMap.remove (m k₁) k₂ := by
  funext y
  simp [remove_apply, StorageMap.remove_apply]

theorem remove_row_of_ne (m : StorageDoubleMap K₁ K₂ V) {k₁ x : K₁} (k₂ : K₂) (h : x ≠ k₁) :
    m.remove k₁ k₂ x = m x := by
  funext y
  simp [remove_apply, h]

end StorageDoubleMap

/-! ## Bounded vectors -/

/-- `BoundedVec`: a vector of at most `n` elements. -/
structure BoundedVec (α : Type) (n : Nat) where
  toList : List α
  bounded : toList.length ≤ n
  deriving DecidableEq

namespace BoundedVec

variable {α : Type} {n : Nat}

instance : Membership α (BoundedVec α n) := ⟨fun v a => a ∈ v.toList⟩

instance [DecidableEq α] (a : α) (v : BoundedVec α n) : Decidable (a ∈ v) :=
  inferInstanceAs (Decidable (a ∈ v.toList))

def empty : BoundedVec α n := ⟨[], Nat.zero_le n⟩

def length (v : BoundedVec α n) : Nat := v.toList.length

/-- `try_from`: fails when the list is too long. -/
def ofList? (l : List α) : Option (BoundedVec α n) :=
  if h : l.length ≤ n then some ⟨l, h⟩ else none

/-- `try_push`: fails when the vector is full. -/
def tryPush (v : BoundedVec α n) (a : α) : Option (BoundedVec α n) := ofList? (v.toList ++ [a])

theorem mem_def {a : α} {v : BoundedVec α n} : a ∈ v ↔ a ∈ v.toList := Iff.rfl

@[simp] theorem toList_empty : (empty : BoundedVec α n).toList = [] := rfl

@[simp] theorem not_mem_empty (a : α) : a ∉ (empty : BoundedVec α n) := by
  simp [mem_def]

theorem tryPush_some {v w : BoundedVec α n} {a : α} :
    v.tryPush a = some w ↔ v.length < n ∧ w.toList = v.toList ++ [a] := by
  unfold tryPush ofList? length
  constructor
  · intro h
    split at h
    · rename_i hl
      simp only [List.length_append, List.length_cons, List.length_nil] at hl
      cases h
      exact ⟨by omega, rfl⟩
    · cases h
  · rintro ⟨hl, hw⟩
    have hl' : (v.toList ++ [a]).length ≤ n := by simp; omega
    rw [dif_pos hl']
    cases w
    simp only at hw
    simp [hw]

theorem tryPush_none {v : BoundedVec α n} {a : α} : v.tryPush a = none ↔ v.length = n := by
  have hb := v.bounded
  unfold tryPush ofList? length
  constructor
  · intro h
    split at h
    · cases h
    · rename_i hl
      simp only [List.length_append, List.length_cons, List.length_nil] at hl
      omega
  · intro hl
    rw [dif_neg (by simp; omega)]

end BoundedVec

/-! ## Sums over a map -/

namespace StorageMap

variable {K V : Type} [DecidableEq K]

/-- The sum of `f` over the entries of a map. It is meant for maps with finitely many entries. -/
noncomputable def sum {K V : Type} (f : V → Nat) (m : StorageMap K V) : Nat :=
  ∑ᶠ k, (m k).elim 0 f

def keys {K V : Type} (m : StorageMap K V) : Set K := {k | m k ≠ none}

theorem sum_empty {K V : Type} (f : V → Nat) : sum f (empty : StorageMap K V) = 0 := by
  simp [sum]

theorem keys_empty_finite {K V : Type} : (keys (empty : StorageMap K V)).Finite := by
  simp [keys]

theorem keys_insert_finite {m : StorageMap K V} (h : m.keys.Finite) (k : K) (v : V) :
    (m.insert k v).keys.Finite := by
  refine (h.insert k).subset ?_
  intro x hx
  by_cases hk : x = k
  · exact Set.mem_insert_iff.mpr (Or.inl hk)
  · refine Set.mem_insert_of_mem _ ?_
    simpa [keys, insert, hk] using hx

theorem keys_remove_finite {m : StorageMap K V} (h : m.keys.Finite) (k : K) : (m.remove k).keys.Finite := by
  refine h.subset ?_
  intro x hx
  by_cases hk : x = k
  · subst hk; simp [keys] at hx
  · simpa [keys, remove, hk] using hx

private theorem support_finite {K V : Type} {m : StorageMap K V} (h : m.keys.Finite) (f : V → Nat) :
    (Function.support fun k => (m k).elim 0 f).Finite := by
  refine h.subset ?_
  intro k hk hm
  simp [hm] at hk

theorem sum_remove {m : StorageMap K V} (h : m.keys.Finite) (f : V → Nat) {k : K} {v : V} (hk : m k = some v) :
    sum f m = f v + sum f (m.remove k) := by
  have hsplit : (fun x => (m x).elim 0 f) =
      fun x => (if x = k then f v else 0) + ((m.remove k) x).elim 0 f := by
    funext x
    by_cases hx : x = k
    · subst hx; simp [hk]
    · simp [hx, remove_of_ne m hx]
  have hsingle : (Function.support fun x => if x = k then f v else 0).Finite := by
    refine (Set.finite_singleton k).subset ?_
    intro x hx
    by_contra hne
    simp only [Set.mem_singleton_iff] at hne
    simp [hne] at hx
  unfold sum
  rw [hsplit, finsum_add_distrib hsingle (support_finite (keys_remove_finite h k) f)]
  congr 1
  rw [finsum_eq_single _ k (by intro x hx; simp [hx])]
  simp

theorem sum_insert {m : StorageMap K V} (h : m.keys.Finite) (f : V → Nat) {k : K} (v : V) (hk : m k = none) :
    sum f (m.insert k v) = f v + sum f m := by
  have hback : (m.insert k v).remove k = m := by
    funext x
    by_cases hx : x = k
    · subst hx; simp [hk]
    · rw [remove_of_ne _ hx, insert_of_ne _ _ hx]
  rw [sum_remove (keys_insert_finite h k v) f (insert_self m k v), hback]

/-! The number of entries. -/

noncomputable def count {K V : Type} (m : StorageMap K V) : Nat := m.keys.ncard

theorem count_empty {K V : Type} : count (empty : StorageMap K V) = 0 := by
  simp [count, keys]

theorem count_insert {m : StorageMap K V} (h : m.keys.Finite) {k : K} (v : V) (hk : m k = none) :
    count (m.insert k v) = count m + 1 := by
  have hkeys : (m.insert k v).keys = Insert.insert k m.keys := by
    ext x
    by_cases hx : x = k
    · simp [keys, hx]
    · simp [keys, insert_of_ne m v hx, hx]
  rw [count, hkeys, Set.ncard_insert_of_notMem (by simp [keys, hk]) h, count]

theorem count_remove {m : StorageMap K V} (h : m.keys.Finite) {k : K} (hk : m k ≠ none) :
    count (m.remove k) + 1 = count m := by
  have hkeys : (m.remove k).keys = m.keys \ {k} := by
    ext x
    by_cases hx : x = k
    · simp [keys, hx]
    · simp [keys, remove_of_ne m hx, hx]
  rw [count, hkeys, Set.ncard_sdiff_singleton_add_one hk h, count]

end StorageMap

namespace StorageDoubleMap

variable {K₁ K₂ V : Type} [DecidableEq K₁] [DecidableEq K₂] {m : StorageDoubleMap K₁ K₂ V}

theorem rows_insert_finite (h : ∀ k, (StorageMap.keys (m k)).Finite) (k₁ : K₁) (k₂ : K₂) (v : V) (k : K₁) :
    (StorageMap.keys ((m.insert k₁ k₂ v) k)).Finite := by
  by_cases hk : k = k₁
  · subst hk
    rw [insert_row]
    exact StorageMap.keys_insert_finite (h k) k₂ v
  · rw [insert_row_of_ne _ _ _ hk]
    exact h k

theorem rows_remove_finite (h : ∀ k, (StorageMap.keys (m k)).Finite) (k₁ : K₁) (k₂ : K₂) (k : K₁) :
    (StorageMap.keys ((m.remove k₁ k₂) k)).Finite := by
  by_cases hk : k = k₁
  · subst hk
    rw [remove_row]
    exact StorageMap.keys_remove_finite (h k) k₂
  · rw [remove_row_of_ne _ _ hk]
    exact h k

end StorageDoubleMap

end Ccrms.Lib
