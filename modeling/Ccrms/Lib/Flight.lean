import Mathlib.Data.List.Basic

/-!
# Messages in flight

Messages wait in a list and are delivered in any order: a delivery takes one out at some position. What is left of the
messages of one kind depends only on the kind of the message that was taken.
-/

namespace Ccrms.Lib.Flight

variable {α : Type} {l : List α} {i : Nat} {m x : α} {p : α → Bool}

theorem split (h : l[i]? = some m) : ∃ pre post, l = pre ++ m :: post ∧ l.eraseIdx i = pre ++ post := by
  obtain ⟨hi, hm⟩ := List.getElem?_eq_some_iff.mp h
  refine ⟨l.take i, l.drop (i + 1), ?_, List.eraseIdx_eq_take_drop_succ ..⟩
  rw [← hm, ← List.drop_eq_getElem_cons hi, List.take_append_drop]

/-- Taking a message of another kind. -/
theorem filter_of_not (h : l[i]? = some m) (hp : p m = false) : (l.eraseIdx i).filter p = l.filter p := by
  obtain ⟨pre, post, rfl, herase⟩ := split h
  rw [herase]
  simp [hp]

/-- Taking the only message of its kind. -/
theorem filter_of_single (h : l[i]? = some m) (hp : p m = true) (hs : l.filter p = [x]) :
    x = m ∧ (l.eraseIdx i).filter p = [] := by
  obtain ⟨pre, post, rfl, herase⟩ := split h
  rw [List.filter_append, List.filter_cons_of_pos hp, List.append_eq_singleton_iff] at hs
  rw [herase, List.filter_append]
  rcases hs with ⟨hpre, hpost⟩ | ⟨_, hpost⟩
  · rw [List.cons.injEq] at hpost
    exact ⟨hpost.1.symm, by rw [hpre, hpost.2, List.append_nil]⟩
  · cases hpost

end Ccrms.Lib.Flight
