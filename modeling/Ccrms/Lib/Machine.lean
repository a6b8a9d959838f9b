import Mathlib.Data.List.Induction

/-!
# Machines and their runs

A machine takes one action at a time and reports an observation for each. A run collects the observations into a
trace, oldest first. An invariant is proved once for a step and holds along every run; it may mention the trace,
so a property of the whole history is an invariant as well.
-/

namespace Ccrms.Lib

/-- A deterministic machine. The actions carry every choice of the environment. -/
structure Machine (σ act obs : Type) where
  step : σ → act → obs × σ

namespace Machine

variable {σ act obs : Type} (m : Machine σ act obs)

/-- Runs a list of actions: the trace, oldest observation first, and the last state. -/
def run : σ → List act → List obs × σ
  | s, [] => ([], s)
  | s, a :: as =>
      let r := m.step s a
      let rest := run r.2 as
      (r.1 :: rest.1, rest.2)

/-- Every action of a run meets the condition in the state in which it is taken. -/
def Along (cond : σ → act → Prop) : σ → List act → Prop
  | _, [] => True
  | s, a :: as => cond s a ∧ Along cond (m.step s a).2 as

variable {m}

@[simp] theorem run_nil (s : σ) : m.run s [] = ([], s) := rfl

theorem run_cons (s : σ) (a : act) (as : List act) :
    m.run s (a :: as) = ((m.step s a).1 :: (m.run (m.step s a).2 as).1, (m.run (m.step s a).2 as).2) := rfl

theorem run_append (s : σ) (as bs : List act) :
    m.run s (as ++ bs) =
      ((m.run s as).1 ++ (m.run (m.run s as).2 bs).1, (m.run (m.run s as).2 bs).2) := by
  induction as generalizing s with
  | nil => simp
  | cons a as ih => simp [run_cons, ih]

theorem run_snoc (s : σ) (as : List act) (a : act) :
    m.run s (as ++ [a]) =
      ((m.run s as).1 ++ [(m.step (m.run s as).2 a).1], (m.step (m.run s as).2 a).2) := by
  rw [run_append]
  rfl

theorem along_append {cond : σ → act → Prop} {s : σ} {as bs : List act} :
    m.Along cond s (as ++ bs) ↔ m.Along cond s as ∧ m.Along cond (m.run s as).2 bs := by
  induction as generalizing s with
  | nil => simp [Along]
  | cons a as ih => simp only [List.cons_append, Along, run_cons, ih, and_assoc]

theorem along_snoc {cond : σ → act → Prop} {s : σ} {as : List act} {a : act} :
    m.Along cond s (as ++ [a]) ↔ m.Along cond s as ∧ cond (m.run s as).2 a := by
  rw [along_append]
  simp [Along]

theorem along_of_forall {cond : σ → act → Prop} {p : act → Prop} (h : ∀ s a, p a → cond s a) {s : σ} {as : List act}
    (ha : ∀ a ∈ as, p a) : m.Along cond s as := by
  induction as generalizing s with
  | nil => trivial
  | cons a as ih =>
      exact ⟨h s a (ha a (List.mem_cons_self ..)), ih fun b hb => ha b (List.mem_cons_of_mem _ hb)⟩

theorem along_true (s : σ) (as : List act) : m.Along (fun _ _ => True) s as :=
  along_of_forall (p := fun _ => True) (fun _ _ _ => trivial) fun _ _ => trivial

/-- The invariant rule. A property of the trace and the state that holds before the run, and that every step under
the condition preserves, holds after every run whose steps all meet the condition. -/
theorem run_invariant_along {cond : σ → act → Prop} {P : List obs → σ → Prop} {s₀ : σ} (h₀ : P [] s₀)
    (hstep : ∀ tr s a, P tr s → cond s a → P (tr ++ [(m.step s a).1]) (m.step s a).2)
    (as : List act) (ha : m.Along cond s₀ as) : P (m.run s₀ as).1 (m.run s₀ as).2 := by
  induction as using List.reverseRecOn with
  | nil => exact h₀
  | append_singleton as a ih =>
      rw [along_snoc] at ha
      rw [run_snoc]
      exact hstep _ _ _ (ih ha.1) ha.2

end Machine

end Ccrms.Lib
