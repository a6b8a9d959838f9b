import Mathlib.Order.Interval.Set.Basic

/-!
# Periods that follow one another

A list of starting times, in order, where a period that starts at `t` ends at `stop t`. If no period starts before
the one before it has ended, then the periods are disjoint, and whether a time is covered depends only on the last
one.
-/

namespace Ccrms.Lib

/-- No period starts before the ones before it have ended. -/
def Spaced (stop : Nat → Nat) (ts : List Nat) : Prop := ts.Pairwise fun t t' => stop t ≤ t'

namespace Spaced

variable {stop : Nat → Nat} {ts : List Nat} {l n : Nat}

theorem nil : Spaced stop [] := List.Pairwise.nil

/-- A period that starts after the last one has ended starts after all of them have. -/
theorem snoc (h : Spaced stop ts) {t : Nat} (hl : ∀ l ∈ ts.getLast?, l ≤ t ∧ stop l ≤ t) :
    Spaced stop (ts ++ [t]) := by
  refine List.pairwise_append.mpr ⟨h, List.pairwise_singleton _ _, ?_⟩
  intro u hu t' ht'
  rw [List.mem_singleton.mp ht']
  obtain ⟨l, hlast⟩ : ∃ l, ts.getLast? = some l := by
    cases hlast : ts.getLast? with
    | none => rw [List.getLast?_eq_none_iff.mp hlast] at hu; cases hu
    | some l => exact ⟨l, rfl⟩
  obtain ⟨hle, hstop⟩ := hl l hlast
  obtain ⟨us, rfl⟩ := List.getLast?_eq_some_iff.mp hlast
  rcases List.mem_append.mp hu with hu | hu
  · have := (List.pairwise_append.mp h).2.2 u hu l (by simp)
    omega
  · rw [List.mem_singleton.mp hu]
    exact hstop

/-- A time from the start of the last period on is covered exactly if the last period covers it. -/
theorem covered_iff (h : Spaced stop ts) (hl : ts.getLast? = some l) (hn : l ≤ n) :
    (∃ t ∈ ts, t ≤ n ∧ n < stop t) ↔ n < stop l := by
  obtain ⟨us, rfl⟩ := List.getLast?_eq_some_iff.mp hl
  constructor
  · rintro ⟨t, ht, _, hlt⟩
    rcases List.mem_append.mp ht with ht | ht
    · have := (List.pairwise_append.mp h).2.2 t ht l (by simp)
      omega
    · rwa [List.mem_singleton.mp ht] at hlt
  · intro hlt
    exact ⟨l, by simp, hn, hlt⟩

theorem disjoint (h : Spaced stop ts) :
    ts.Pairwise fun t t' => ∀ n ∈ Set.Ico t (stop t), n ∉ Set.Ico t' (stop t') := by
  refine h.imp ?_
  intro t t' hle n hn hn'
  have := hn.2
  have := hn'.1
  omega

end Spaced

end Ccrms.Lib
