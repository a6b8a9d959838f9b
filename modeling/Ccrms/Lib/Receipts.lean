import Ccrms.Lib.Maps

/-!
# Books of receipts

A book issues receipts under numbers from one counter. Every holder keeps the number of its receipt, a register lists
the receipts that are held, and the receipt itself is an item with an owner in a store of its own. The three agree as
long as receipts are only issued to holders without one and revoked together with their item. A receipt may also be
lost: its item disappears behind the back of the book. Then the book still agrees for the holders that count.
-/

namespace Ccrms.Lib

/-- A book of receipts over holders `H`, owners `O` and places `P` of the register. -/
@[ext] structure Book (H O P : Type) where
  held : StorageMap H Nat
  listed : StorageMap Nat P
  items : StorageMap Nat O
  next : Nat
  /-- Every number ever issued, oldest first. -/
  issued : List Nat

namespace Book

variable {H O P : Type} [DecidableEq H]

/-- A new book, whose first item belongs to nobody's receipt. -/
def opened (o : O) : Book H O P := ⟨.empty, .empty, StorageMap.insert .empty 0 o, 1, [0]⟩

/-- Issues the next receipt to the holder `h`. -/
def issue (b : Book H O P) (h : H) (o : O) (p : P) : Book H O P where
  held := b.held.insert h b.next
  listed := b.listed.insert b.next p
  items := b.items.insert b.next o
  next := b.next + 1
  issued := b.issued ++ [b.next]

/-- Revokes the receipt `i` of the holder `h`, and removes its item. -/
def revoke (b : Book H O P) (h : H) (i : Nat) : Book H O P :=
  { b with held := b.held.remove h, listed := b.listed.remove i, items := b.items.remove i }

def lose (b : Book H O P) (i : Nat) : Book H O P := { b with items := b.items.remove i }

/-- The book is in order: the register lists exactly the held receipts, each held by one holder, and the items of the
holders that count exist and belong to them. -/
structure Valid (owner : H → O) (home : P) (live : H → Prop) (b : Book H O P) : Prop where
  listed_iff : ∀ i, b.listed i ≠ none ↔ ∃ h, b.held h = some i
  home : ∀ i p, b.listed i = some p → p = home
  injective : ∀ h h' i, b.held h = some i → b.held h' = some i → h = h'
  below : ∀ h i, b.held h = some i → i < b.next
  owned : ∀ h i, live h → b.held h = some i → b.items i = some (owner h)
  fresh : ∀ i, b.next ≤ i → b.items i = none
  issued_lt : ∀ i ∈ b.issued, i < b.next
  issued_nodup : b.issued.Nodup

variable {owner : H → O} {home : P} {live : H → Prop} {b : Book H O P} {h : H} {i : Nat}

omit [DecidableEq H] in
theorem Valid.opened (o : O) : (Book.opened o : Book H O P).Valid owner home live where
  listed_iff := by simp [Book.opened]
  home := by simp [Book.opened]
  injective := by simp [Book.opened]
  below := by simp [Book.opened]
  owned := by simp [Book.opened]
  fresh i hi := StorageMap.insert_of_ne _ _ (Nat.ne_of_gt hi)
  issued_lt := by simp [Book.opened]
  issued_nodup := by simp [Book.opened]

namespace Valid

/-- Who holds what after a receipt was issued. -/
theorem held_issue {o : O} {p : P} {h' : H} : (b.issue h o p).held h' = some i ↔
    (h' = h ∧ i = b.next) ∨ (h' ≠ h ∧ b.held h' = some i) := by
  by_cases hh : h' = h
  · subst hh
    simp [Book.issue, eq_comm]
  · simp [Book.issue, StorageMap.insert_of_ne _ _ hh, hh]

theorem held_revoke {h' : H} {j : Nat} :
    (b.revoke h i).held h' = some j ↔ h' ≠ h ∧ b.held h' = some j := by
  by_cases hh : h' = h
  · subst hh
    simp [Book.revoke]
  · simp [Book.revoke, StorageMap.remove_of_ne _ hh, hh]

theorem issue (hb : b.Valid owner home live) (hn : b.held h = none) :
    (b.issue h (owner h) home).Valid owner home live where
  listed_iff i := by
    by_cases hi : i = b.next
    · subst hi
      refine ⟨fun _ => ⟨h, held_issue.mpr (Or.inl ⟨rfl, rfl⟩)⟩, fun _ => ?_⟩
      simp [Book.issue]
    · have hl : (b.issue h (owner h) home).listed i = b.listed i := StorageMap.insert_of_ne _ _ hi
      rw [hl, hb.listed_iff i]
      constructor
      · rintro ⟨h', hh⟩
        refine ⟨h', held_issue.mpr (Or.inr ⟨?_, hh⟩)⟩
        rintro rfl
        rw [hn] at hh
        cases hh
      · rintro ⟨h', hh⟩
        rcases held_issue.mp hh with ⟨_, rfl⟩ | ⟨_, hh⟩
        · exact absurd rfl hi
        · exact ⟨h', hh⟩
  home i p hp := by
    by_cases hi : i = b.next
    · subst hi
      simpa [Book.issue, eq_comm] using hp
    · exact hb.home i p ((StorageMap.insert_of_ne _ _ hi).symm.trans hp)
  injective h₁ h₂ i e₁ e₂ := by
    -- The next number is above all that are held, so the new receipt is nobody else's.
    rcases held_issue.mp e₁ with ⟨hh₁, hi₁⟩ | ⟨_, hh₁⟩
    · rcases held_issue.mp e₂ with ⟨hh₂, _⟩ | ⟨_, hh₂⟩
      · rw [hh₁, hh₂]
      · exact absurd (hb.below _ _ hh₂) (by omega)
    · rcases held_issue.mp e₂ with ⟨_, hi₂⟩ | ⟨_, hh₂⟩
      · exact absurd (hb.below _ _ hh₁) (by omega)
      · exact hb.injective _ _ _ hh₁ hh₂
  below h' i e := by
    rcases held_issue.mp e with ⟨_, rfl⟩ | ⟨_, e⟩
    · exact Nat.lt_succ_self _
    · exact Nat.lt_succ_of_lt (hb.below _ _ e)
  owned h' i hl e := by
    rcases held_issue.mp e with ⟨rfl, rfl⟩ | ⟨_, e⟩
    · exact StorageMap.insert_self ..
    · exact (StorageMap.insert_of_ne _ _ (Nat.ne_of_lt (hb.below _ _ e))).trans (hb.owned _ _ hl e)
  fresh i hi := by
    have hi : b.next + 1 ≤ i := hi
    exact (StorageMap.insert_of_ne _ _ (by omega)).trans (hb.fresh i (by omega))
  issued_lt i hi := by
    rcases List.mem_append.mp hi with hi | hi
    · exact Nat.lt_succ_of_lt (hb.issued_lt i hi)
    · rw [List.mem_singleton.mp hi]
      exact Nat.lt_succ_self _
  issued_nodup := by
    refine List.nodup_append.mpr ⟨hb.issued_nodup, by simp, ?_⟩
    intro i hi j hj
    rw [List.mem_singleton.mp hj]
    exact Nat.ne_of_lt (hb.issued_lt i hi)

theorem revoke (hb : b.Valid owner home live) (hi : b.held h = some i) : (b.revoke h i).Valid owner home live where
  listed_iff j := by
    by_cases hj : j = i
    · subst hj
      have hl : (b.revoke h j).listed j = none := StorageMap.remove_self ..
      rw [hl]
      simp only [ne_eq, not_true_eq_false, false_iff]
      rintro ⟨h', hh⟩
      obtain ⟨hne, hh⟩ := held_revoke.mp hh
      exact hne (hb.injective _ _ _ hh hi)
    · have hl : (b.revoke h i).listed j = b.listed j := StorageMap.remove_of_ne _ hj
      rw [hl, hb.listed_iff j]
      constructor
      · rintro ⟨h', hh⟩
        refine ⟨h', held_revoke.mpr ⟨?_, hh⟩⟩
        rintro rfl
        rw [hi] at hh
        cases hh
        exact hj rfl
      · rintro ⟨h', hh⟩
        exact ⟨h', (held_revoke.mp hh).2⟩
  home j p hp := by
    by_cases hj : j = i
    · subst hj
      simp [Book.revoke] at hp
    · exact hb.home j p ((StorageMap.remove_of_ne _ hj).symm.trans hp)
  injective h₁ h₂ j e₁ e₂ := hb.injective h₁ h₂ j (held_revoke.mp e₁).2 (held_revoke.mp e₂).2
  below h' j e := hb.below h' j (held_revoke.mp e).2
  owned h' j hl e := by
    obtain ⟨hne, hh⟩ := held_revoke.mp e
    refine (StorageMap.remove_of_ne _ ?_).trans (hb.owned h' j hl hh)
    rintro rfl
    exact hne (hb.injective _ _ _ hh hi)
  fresh j hj := by
    have hlt : i < b.next := hb.below _ _ hi
    exact (StorageMap.remove_of_ne _ (by have hj : b.next ≤ j := hj; omega)).trans (hb.fresh j hj)
  issued_lt := hb.issued_lt
  issued_nodup := hb.issued_nodup

omit [DecidableEq H] in
theorem lose (hb : b.Valid owner home live) (hi : ∀ h, live h → b.held h ≠ some i) :
    (b.lose i).Valid owner home live where
  listed_iff := hb.listed_iff
  home := hb.home
  injective := hb.injective
  below := hb.below
  owned h' j hl e := by
    refine (StorageMap.remove_of_ne _ ?_).trans (hb.owned h' j hl e)
    rintro rfl
    exact hi h' hl e
  fresh j hj := by
    by_cases hji : j = i
    · subst hji
      exact StorageMap.remove_self ..
    · exact (StorageMap.remove_of_ne _ hji).trans (hb.fresh j hj)
  issued_lt := hb.issued_lt
  issued_nodup := hb.issued_nodup

end Valid

end Book

end Ccrms.Lib
