import Ccrms.Lib.Maps
import Mathlib.Combinatorics.Enumerative.DoubleCounting
import Mathlib.Data.Set.Card
import Mathlib.Order.Interval.Finset.Nat

/-!
# Calendar queues with bounded buckets

A calendar queue has one bounded bucket per time. An entry is put into the first bucket, from a given time on,
that already holds it or has room. A bucket never loses an entry before its time, so a bucket passed over by a
search stays full, and a second search from a later time stops at the same place. The bounds on how many buckets
hold one entry rest on this.
-/

namespace Ccrms.Lib

/-- One bounded bucket of entries for each time. -/
abbrev Calendar (α : Type) (n : Nat) := Nat → BoundedVec α n

namespace Calendar

variable {α : Type} {n : Nat}

def empty : Calendar α n := fun _ => BoundedVec.empty

/-- The bucket `b` already holds `x` or has room for it. -/
def Fits (q : Calendar α n) (x : α) (b : Nat) : Prop := x ∈ q b ∨ (q b).length < n

instance [DecidableEq α] (q : Calendar α n) (x : α) (b : Nat) : Decidable (Fits q x b) :=
  inferInstanceAs (Decidable (_ ∨ _))

/-- Puts `x` at the end of the bucket `b`, unless `x` is there already or the bucket is full. -/
def put [DecidableEq α] (q : Calendar α n) (x : α) (b : Nat) : Calendar α n :=
  if x ∈ q b then q
  else
    match (q b).tryPush x with
    | some v => Function.update q b v
    | none => q

def clear (q : Calendar α n) (b : Nat) : Calendar α n := Function.update q b BoundedVec.empty

/-- `b` is the first bucket from `a` on that fits `x`. -/
structure FirstFit (q : Calendar α n) (x : α) (a b : Nat) : Prop where
  le : a ≤ b
  fits : q.Fits x b
  before : ∀ c, a ≤ c → c < b → ¬ q.Fits x c

/-! ## Membership after an operation -/

@[simp] theorem not_mem_empty (y : α) (c : Nat) : y ∉ (empty : Calendar α n) c := by
  simp [empty]

section Put

variable [DecidableEq α] {q : Calendar α n} {x : α} {b : Nat}

theorem put_of_ne {c : Nat} (h : c ≠ b) : q.put x b c = q c := by
  unfold put
  split
  · rfl
  · cases (q b).tryPush x with
    | none => rfl
    | some v => exact Function.update_of_ne h _ _

theorem put_of_mem (h : x ∈ q b) : q.put x b = q := by
  simp [put, h]

theorem toList_put_self (h : q.Fits x b) :
    (q.put x b b).toList = if x ∈ q b then (q b).toList else (q b).toList ++ [x] := by
  unfold put
  by_cases hx : x ∈ q b
  · simp [hx]
  · have hroom := h.resolve_left hx
    simp only [hx, if_false]
    cases hp : (q b).tryPush x with
    | none => rw [BoundedVec.tryPush_none] at hp; omega
    | some v =>
        rw [BoundedVec.tryPush_some] at hp
        simpa using hp.2

theorem mem_put (h : q.Fits x b) {y : α} {c : Nat} : y ∈ q.put x b c ↔ y ∈ q c ∨ (y = x ∧ c = b) := by
  by_cases hc : c = b
  · subst hc
    rw [BoundedVec.mem_def, toList_put_self h]
    by_cases hx : x ∈ q c
    · rw [if_pos hx]
      constructor
      · exact Or.inl
      · rintro (hy | ⟨rfl, _⟩)
        · exact hy
        · exact hx
    · rw [if_neg hx]
      simp [BoundedVec.mem_def]
  · rw [put_of_ne hc]
    simp [hc]

theorem length_le_put (h : q.Fits x b) (c : Nat) : (q c).length ≤ (q.put x b c).length := by
  by_cases hc : c = b
  · subst hc
    unfold BoundedVec.length
    rw [toList_put_self h]
    split <;> simp
  · rw [put_of_ne hc]

theorem nodup_put (h : q.Fits x b) (hq : ∀ c, (q c).toList.Nodup) (c : Nat) : (q.put x b c).toList.Nodup := by
  by_cases hc : c = b
  · subst hc
    rw [toList_put_self h]
    by_cases hx : x ∈ q c
    · rw [if_pos hx]; exact hq c
    · rw [if_neg hx, List.nodup_append]
      refine ⟨hq c, List.nodup_singleton x, ?_⟩
      intro a ha y hy he
      rw [List.mem_singleton] at hy
      exact hx (by rw [BoundedVec.mem_def, ← hy, ← he]; exact ha)
  · rw [put_of_ne hc]; exact hq c

/-- A bucket that does not fit an entry keeps not fitting it when another entry is put somewhere. -/
theorem not_fits_put (h : q.Fits x b) {y : α} {c : Nat} (hy : ¬ q.Fits y c) : ¬ (q.put x b).Fits y c := by
  rintro (hm | hl)
  · rcases (mem_put h).mp hm with hm | ⟨rfl, rfl⟩
    · exact hy (Or.inl hm)
    · exact hy h
  · exact hy (Or.inr (Nat.lt_of_le_of_lt (length_le_put h c) hl))

end Put

theorem clear_self (q : Calendar α n) (b : Nat) : q.clear b b = BoundedVec.empty := by
  simp [clear]

theorem clear_of_ne (q : Calendar α n) {b c : Nat} (h : c ≠ b) : q.clear b c = q c := by
  simp [clear, h]

theorem mem_clear {q : Calendar α n} {b c : Nat} {y : α} : y ∈ q.clear b c ↔ y ∈ q c ∧ c ≠ b := by
  by_cases h : c = b
  · subst h; simp [clear_self]
  · simp [clear_of_ne q h, h]

theorem nodup_clear {q : Calendar α n} (hq : ∀ c, (q c).toList.Nodup) (b c : Nat) :
    (q.clear b c).toList.Nodup := by
  by_cases h : c = b
  · subst h; simp [clear_self]
  · rw [clear_of_ne q h]; exact hq c

/-! ## First fit -/

theorem FirstFit.unique {q : Calendar α n} {x : α} {a b c : Nat} (hb : q.FirstFit x a b) (hc : q.FirstFit x a c) :
    b = c := by
  rcases Nat.lt_trichotomy b c with h | h | h
  · exact absurd hb.fits (hc.before b hb.le h)
  · exact h
  · exact absurd hc.fits (hb.before c hc.le h)

/-- An entry that is already in the first bucket that fits is found there again. -/
theorem FirstFit.of_mem {q : Calendar α n} {x : α} {a b : Nat} (hle : a ≤ b) (hm : x ∈ q b)
    (hbefore : ∀ c, a ≤ c → c < b → ¬ q.Fits x c) : q.FirstFit x a b := ⟨hle, Or.inl hm, hbefore⟩

/-! ## Where the copies of one entry are

An entry has a deadline and is searched a slot from the deadline on, or from the next time on if the deadline has
passed. Moving the deadline leaves the old copies behind. `d` is the span of a search. -/

/-- At time `now` an entry `x` with deadline `e` has at most one copy before the deadline, and a copy from the
deadline on is where a new search would stop. -/
structure Placed (q : Calendar α n) (d now e : Nat) (x : α) : Prop where
  future : ∀ b, x ∈ q b → now < b
  early : ∀ b c, x ∈ q b → x ∈ q c → b < e → c < e → b = c
  late : ∀ b, x ∈ q b → e ≤ b → q.FirstFit x (max e (now + 1)) b ∧ b < max e (now + 1) + d

namespace Placed

variable {d now e : Nat} {q : Calendar α n} {x y : α}

theorem of_not_mem (h : ∀ b, x ∉ q b) : q.Placed d now e x where
  future b hb := absurd hb (h b)
  early b _ hb := absurd hb (h b)
  late b hb := absurd hb (h b)

theorem late_unique (h : q.Placed d now e x) {b c : Nat} (hb : x ∈ q b) (hc : x ∈ q c) (heb : e ≤ b)
    (hec : e ≤ c) : b = c :=
  (h.late b hb heb).1.unique (h.late c hc hec).1

/-- A new search stops at the late copy, if there is one. -/
theorem put_self [DecidableEq α] (h : q.Placed d now e x) {b : Nat} (hb : q.FirstFit x (max e (now + 1)) b)
    (hd : b < max e (now + 1) + d) : (q.put x b).Placed d now e x := by
  have hle := hb.le
  have hmem : ∀ c, x ∈ q.put x b c ↔ x ∈ q c ∨ c = b := by
    intro c
    rw [mem_put hb.fits]
    simp
  have hlate : ∀ c, x ∈ q.put x b c → e ≤ c → c = b := by
    intro c hc hec
    rcases (hmem c).mp hc with hc | hc
    · exact (h.late c hc hec).1.unique hb
    · exact hc
  constructor
  · intro c hc
    rcases (hmem c).mp hc with hc | rfl
    · exact h.future c hc
    · omega
  · intro c c' hc hc' hce hce'
    rcases (hmem c).mp hc with hc | rfl
    · rcases (hmem c').mp hc' with hc' | rfl
      · exact h.early c c' hc hc' hce hce'
      · omega
    · omega
  · intro c hc hec
    rw [hlate c hc hec]
    refine ⟨.of_mem hb.le ((hmem b).mpr (Or.inr rfl)) ?_, hd⟩
    intro c' hle' hlt hfit
    rcases hfit with hm | hl
    · exact absurd (hlate c' hm (by omega)) (by omega)
    · rw [put_of_ne (by omega)] at hl
      exact hb.before c' hle' hlt (Or.inr hl)

/-- Another entry does not move the copies, and it does not free a bucket. -/
theorem put_other [DecidableEq α] (h : q.Placed d now e x) {b : Nat} (hb : q.Fits y b) (hne : x ≠ y) :
    (q.put y b).Placed d now e x := by
  have hmem : ∀ c, x ∈ q.put y b c ↔ x ∈ q c := by
    intro c
    rw [mem_put hb]
    simp [hne]
  constructor
  · intro c hc
    exact h.future c ((hmem c).mp hc)
  · intro c c' hc hc'
    exact h.early c c' ((hmem c).mp hc) ((hmem c').mp hc')
  · intro c hc hec
    obtain ⟨hfit, hd⟩ := h.late c ((hmem c).mp hc) hec
    exact ⟨.of_mem hfit.le hc fun c' hle hlt => not_fits_put hb (hfit.before c' hle hlt), hd⟩

/-- Moving a deadline that has passed by at least the span of a search leaves the late copy before it. -/
theorem extend (h : q.Placed d now e x) (he : e ≤ now) {e' : Nat} (he' : now + d ≤ e') :
    q.Placed d now e' x := by
  have hlate : ∀ b, x ∈ q b → b ≤ now + d := by
    intro b hb
    have := (h.late b hb (by have := h.future b hb; omega)).2
    omega
  constructor
  · exact h.future
  · intro b c hb hc _ _
    have := h.future b hb
    have := h.future c hc
    exact h.late_unique hb hc (by omega) (by omega)
  · intro b hb heb
    have := hlate b hb
    refine ⟨.of_mem ?_ hb ?_, ?_⟩
    · have := h.future b hb
      omega
    · intro c hc hlt
      omega
    · have := h.future b hb
      have := (h.late b hb (by omega)).2
      omega

/-- The bucket of the new time is emptied when the time comes. -/
theorem tick (h : q.Placed d now e x) : (q.clear (now + 1)).Placed d (now + 1) e x := by
  constructor
  · intro b hb
    obtain ⟨hb, hne⟩ := mem_clear.mp hb
    have := h.future b hb
    omega
  · intro b c hb hc
    exact h.early b c (mem_clear.mp hb).1 (mem_clear.mp hc).1
  · intro b hb heb
    obtain ⟨hb', hne⟩ := mem_clear.mp hb
    have := h.future b hb'
    obtain ⟨hfit, hd⟩ := h.late b hb' heb
    refine ⟨.of_mem (by omega) hb ?_, by omega⟩
    intro c hc hlt hfits
    rw [Fits, clear_of_ne q (by omega)] at hfits
    exact hfit.before c (by omega) hlt hfits

/-- If the deadline has passed, the copy in the bucket of the new time was the only one. -/
theorem tick_due (h : q.Placed d now e x) (hm : x ∈ q (now + 1)) (he : e ≤ now + 1) (b : Nat) :
    x ∉ q.clear (now + 1) b := by
  intro hb
  obtain ⟨hb, hne⟩ := mem_clear.mp hb
  have := h.future b hb
  exact hne (h.late_unique hb hm (by omega) he)

theorem encard_le_two (h : q.Placed d now e x) : {b | x ∈ q b}.encard ≤ 2 := by
  have hsub : {b | x ∈ q b} ⊆ {b | x ∈ q b ∧ b < e} ∪ {b | x ∈ q b ∧ e ≤ b} := by
    intro b hb
    rcases Nat.lt_or_ge b e with hlt | hge
    · exact Or.inl ⟨hb, hlt⟩
    · exact Or.inr ⟨hb, hge⟩
  have hearly : {b | x ∈ q b ∧ b < e}.encard ≤ 1 :=
    Set.encard_le_one_iff.mpr fun b c hb hc => h.early b c hb.1 hc.1 hb.2 hc.2
  have hlate : {b | x ∈ q b ∧ e ≤ b}.encard ≤ 1 :=
    Set.encard_le_one_iff.mpr fun b c hb hc => h.late_unique hb.1 hc.1 hb.2 hc.2
  calc {b | x ∈ q b}.encard
      ≤ ({b | x ∈ q b ∧ b < e} ∪ {b | x ∈ q b ∧ e ≤ b}).encard := Set.encard_le_encard hsub
    _ ≤ {b | x ∈ q b ∧ b < e}.encard + {b | x ∈ q b ∧ e ≤ b}.encard := Set.encard_union_le _ _
    _ ≤ 1 + 1 := add_le_add hearly hlate
    _ = 2 := one_add_one_eq_two

theorem encard_le_one (h : q.Placed d now e x) (he : e ≤ now) : {b | x ∈ q b}.encard ≤ 1 := by
  refine Set.encard_le_one_iff.mpr fun b c hb hc => ?_
  have := h.future b hb
  have := h.future c hc
  exact h.late_unique hb hc (by omega) (by omega)

end Placed

/-! ## Full windows -/

/-- If `x` fits into none of `d` buckets in a row and no entry has more than `m` copies, then the queue holds at least
`d * n / m` entries. -/
theorem full_window [DecidableEq α] {q : Calendar α n} {x : α} {a d m : Nat} (hnodup : ∀ b, (q b).toList.Nodup)
    (hfull : ∀ b, a ≤ b → b < a + d → ¬ q.Fits x b) (hcopies : ∀ y b, y ∈ q b → {b | y ∈ q b}.encard ≤ m) :
    ∃ t : Finset α, (∀ y ∈ t, ∃ b, y ∈ q b) ∧ d * n ≤ t.card * m := by
  have hmem : ∀ y, y ∈ (Finset.Ico a (a + d)).biUnion (fun b => (q b).toList.toFinset) → ∃ b, y ∈ q b := by
    intro y hy
    obtain ⟨b, _, hy⟩ := Finset.mem_biUnion.mp hy
    exact ⟨b, List.mem_toFinset.mp hy⟩
  refine ⟨(Finset.Ico a (a + d)).biUnion fun b => (q b).toList.toFinset, hmem, ?_⟩
  have hcard : d * n = (Finset.Ico a (a + d)).card * n := by simp
  -- The pairs of a bucket and an entry in it, counted by the buckets and by the entries.
  refine hcard.trans_le (Finset.card_mul_le_card_mul (fun b y => y ∈ q b) ?_ ?_)
  · intro b hb
    have hlen : n ≤ (q b).toList.toFinset.card := by
      rw [List.toFinset_card_of_nodup (hnodup b)]
      have hnot := hfull b (Finset.mem_Ico.mp hb).1 (Finset.mem_Ico.mp hb).2
      exact Nat.le_of_not_lt fun hlt => hnot (Or.inr hlt)
    refine Nat.le_trans hlen (Finset.card_le_card fun y hy => ?_)
    exact Finset.mem_filter.mpr ⟨Finset.mem_biUnion.mpr ⟨b, hb, hy⟩, List.mem_toFinset.mp hy⟩
  · intro y hy
    obtain ⟨b, hb⟩ := hmem y hy
    have hsub : (↑((Finset.Ico a (a + d)).bipartiteBelow (fun b y => y ∈ q b) y) : Set Nat) ⊆ {b | y ∈ q b} :=
      fun c hc => (Finset.mem_filter.mp hc).2
    have hle := Set.encard_le_encard hsub
    rw [Set.encard_coe_eq_coe_finsetCard] at hle
    exact_mod_cast hle.trans (hcopies y b hb)

end Calendar

end Ccrms.Lib
