import Mathlib.Data.List.DropRight
import Mathlib.Data.List.Induction
import Mathlib.Order.Defs.PartialOrder

/-!
# Windows over a history

A window keeps the newest entries of a history, oldest first and at most `n` of them. An entry is recorded once: one
whose key is in the window is passed over, and a full window drops its oldest entry for a new one. Only the window is
searched for the key, not the history. If the keys of the history never fall and a key stands for one entry, this is
enough: the window holds the last `n` distinct entries.
-/

namespace Ccrms.Lib.Window

variable {α κ : Type} [PartialOrder κ] {key : α → κ} {n : Nat} {l : List α} {a : α}

/-- The window without its oldest entry, if it holds `n` entries. -/
def makeRoom (n : Nat) (w : List α) : List α := if w.length = n then w.drop 1 else w

def record [DecidableEq κ] (key : α → κ) (n : Nat) (w : List α) (a : α) : List α :=
  if key a ∈ w.map key then w else makeRoom n w ++ [a]

/-- The last `n` distinct entries of a history. -/
def recent [BEq α] (n : Nat) (l : List α) : List α := l.eraseDups.rtake n

/-- The keys never fall, and no key stands for two entries. -/
structure Ordered (key : α → κ) (l : List α) : Prop where
  sorted : l.Pairwise fun a b => key a ≤ key b
  unique : ∀ a ∈ l, ∀ b ∈ l, key a = key b → a = b

theorem Ordered.of_append {l' : List α} (h : Ordered key (l ++ l')) : Ordered key l where
  sorted := (List.pairwise_append.mp h.sorted).1
  unique a ha b hb := h.unique a (List.mem_append_left _ ha) b (List.mem_append_left _ hb)

theorem Ordered.le_last (h : Ordered key (l ++ [a])) {b : α} (hb : b ∈ l) : key b ≤ key a :=
  (List.pairwise_append.mp h.sorted).2.2 b hb a (List.mem_singleton_self a)

theorem makeRoom_subset (n : Nat) (w : List α) : makeRoom n w ⊆ w := by
  unfold makeRoom
  split
  · exact List.drop_subset 1 w
  · exact List.Subset.refl w

omit [PartialOrder κ] in
theorem mem_record [DecidableEq κ] {w : List α} {b : α} (h : b ∈ record key n w a) : b ∈ w ∨ b = a := by
  unfold record at h
  split at h
  · exact Or.inl h
  · rcases List.mem_append.mp h with h | h
    · exact Or.inl (makeRoom_subset n w h)
    · exact Or.inr (List.mem_singleton.mp h)

theorem makeRoom_rtake (hn : 0 < n) (l : List α) (a : α) : makeRoom n (l.rtake n) ++ [a] = (l ++ [a]).rtake n := by
  obtain ⟨m, rfl⟩ := Nat.exists_eq_succ_of_ne_zero (Nat.pos_iff_ne_zero.mp hn)
  have hroom : makeRoom (m + 1) (l.rtake (m + 1)) = l.rtake m := by
    unfold makeRoom List.rtake
    rw [List.length_drop]
    split
    · rw [List.drop_drop]
      congr 1
      omega
    · congr 1
      omega
  rw [hroom, List.rtake_concat_succ]

theorem recent_sublist [BEq α] (n : Nat) (l : List α) : (recent n l).Sublist l.eraseDups := List.drop_sublist _ _

section Distinct

variable [BEq α] [LawfulBEq α]

/-! ## Distinct entries -/

theorem eraseDups_snoc_of_mem (h : a ∈ l) : (l ++ [a]).eraseDups = l.eraseDups := by
  rw [List.eraseDups_append]
  simp [List.removeAll, h]

theorem eraseDups_snoc_of_not_mem (h : a ∉ l) : (l ++ [a]).eraseDups = l.eraseDups ++ [a] := by
  rw [List.eraseDups_append]
  simp [List.removeAll, h, List.eraseDups_cons]

/-- Without the repetitions the keys rise. -/
theorem Ordered.strict (h : Ordered key l) : l.eraseDups.Pairwise fun a b => key a < key b := by
  induction l using List.reverseRecOn with
  | nil => simp
  | append_singleton l a ih =>
      by_cases ha : a ∈ l
      · rw [eraseDups_snoc_of_mem ha]
        exact ih h.of_append
      · rw [eraseDups_snoc_of_not_mem ha]
        refine List.pairwise_append.mpr ⟨ih h.of_append, List.pairwise_singleton _ _, ?_⟩
        intro b hb c hc
        rw [List.mem_eraseDups] at hb
        rw [List.mem_singleton.mp hc]
        refine lt_of_le_of_ne (h.le_last hb) fun heq => ha ?_
        rw [← h.unique b (List.mem_append_left _ hb) a (by simp) heq]
        exact hb

/-! ## The window of a history -/

theorem mem_of_mem_recent (h : a ∈ recent n l) : a ∈ l := List.mem_eraseDups.mp ((recent_sublist n l).subset h)

theorem Ordered.recent_strict (h : Ordered key l) (n : Nat) : (recent n l).Pairwise fun a b => key a < key b :=
  h.strict.sublist (recent_sublist n l)

/-- An entry that is repeated at the end of the history is the last distinct one, and so it is in the window. -/
theorem Ordered.last_mem_recent (h : Ordered key (l ++ [a])) (hn : 0 < n) (ha : a ∈ l) : a ∈ recent n l := by
  obtain ⟨before, after, hsplit⟩ := List.append_of_mem (List.mem_eraseDups.mpr ha)
  have hstrict := h.of_append.strict
  rw [hsplit] at hstrict
  have hlast : after = [] := by
    refine List.eq_nil_iff_forall_not_mem.mpr fun b hb => ?_
    have hrises : key a < key b := (List.pairwise_cons.mp (List.pairwise_append.mp hstrict).2.1).1 b hb
    have hmem : b ∈ l := by
      rw [← List.mem_eraseDups, hsplit]
      simp [hb]
    exact absurd (h.le_last hmem) (not_le_of_gt hrises)
  rw [recent, hsplit, hlast, ← makeRoom_rtake hn]
  simp

/-- One entry more: the window of the longer history. -/
theorem record_recent [DecidableEq κ] (h : Ordered key (l ++ [a])) (hn : 0 < n) :
    record key n (recent n l) a = recent n (l ++ [a]) := by
  have hiff : key a ∈ (recent n l).map key ↔ a ∈ l := by
    constructor
    · intro hk
      obtain ⟨b, hb, heq⟩ := List.mem_map.mp hk
      have hmem := mem_of_mem_recent hb
      rw [← h.unique b (List.mem_append_left _ hmem) a (by simp) heq]
      exact hmem
    · intro ha
      exact List.mem_map_of_mem (h.last_mem_recent hn ha)
  by_cases ha : a ∈ l
  · rw [record, if_pos (hiff.mpr ha), recent, recent, eraseDups_snoc_of_mem ha]
  · rw [record, if_neg (hiff.not.mpr ha), recent, recent, eraseDups_snoc_of_not_mem ha, makeRoom_rtake hn]

end Distinct

end Ccrms.Lib.Window
