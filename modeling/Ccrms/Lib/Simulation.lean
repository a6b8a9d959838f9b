import Ccrms.Lib.Machine

/-!
# Simulation between machines

A machine simulates another one if every step of the other, from related states, is matched by a run of its own to
related states. Then every run is matched, and what was observed in a step can be found in the run that matches it.
-/

namespace Ccrms.Lib.Machine

variable {σ τ act act' obs obs' : Type} {m : Machine σ act obs} {n : Machine τ act' obs'}

/-- The run `as` of `m` from `s` matches the observations `os` one after the other. The label `L` says which actions
match an observation in a state. -/
inductive Matches (m : Machine σ act obs) (L : σ → obs' → List act → Prop) : σ → List obs' → List act → Prop
  | nil {s} : Matches m L s [] []
  | cons {s o as os bs} (h : L s o as) (hrest : Matches m L (m.run s as).2 os bs) :
      Matches m L s (o :: os) (as ++ bs)

/-- The simulation rule. -/
theorem run_simulated {L : σ → obs' → List act → Prop} {R : σ → τ → Prop} {cond : τ → act' → Prop}
    (hstep : ∀ s t b, R s t → cond t b → ∃ as, L s (n.step t b).1 as ∧ R (m.run s as).2 (n.step t b).2)
    {s : σ} {t : τ} (h : R s t) (bs : List act') (hb : n.Along cond t bs) :
    ∃ as, Matches m L s (n.run t bs).1 as ∧ R (m.run s as).2 (n.run t bs).2 := by
  induction bs generalizing s t with
  | nil => exact ⟨[], .nil, h⟩
  | cons b bs ih =>
      obtain ⟨as, hl, hr⟩ := hstep s t b h hb.1
      obtain ⟨as', hmatch, hr'⟩ := ih hr hb.2
      refine ⟨as ++ as', .cons hl hmatch, ?_⟩
      rw [run_append]
      exact hr'

/-- What was observed can be found in the run that matches it, and the rest of the run matches what was observed
afterwards. -/
theorem Matches.split {L : σ → obs' → List act → Prop} {s : σ} {os₁ os₂ : List obs'} {o : obs'} {as : List act}
    (h : Matches m L s (os₁ ++ o :: os₂) as) :
    ∃ before during after, as = before ++ (during ++ after) ∧ L (m.run s before).2 o during ∧
      Matches m L (m.run s (before ++ during)).2 os₂ after := by
  induction os₁ generalizing s as with
  | nil =>
      obtain _ | ⟨hl, hrest⟩ := h
      exact ⟨[], _, _, rfl, hl, hrest⟩
  | cons o' os₁ ih =>
      obtain _ | @⟨_, _, as, _, bs, hl, hrest⟩ := h
      obtain ⟨before, during, after, rfl, hl', hrest'⟩ := ih hrest
      refine ⟨as ++ before, during, after, (List.append_assoc ..).symm, ?_, ?_⟩
      · rw [run_append]
        exact hl'
      · rw [List.append_assoc, run_append]
        exact hrest'

/-- What can be read off the actions, observation by observation, can be read off the whole run. -/
theorem Matches.flatMap {β : Type} {L : σ → obs' → List act → Prop} {f : List act → List β} {g : obs' → List β}
    (hnil : f [] = []) (happend : ∀ as bs, f (as ++ bs) = f as ++ f bs) (hl : ∀ s o as, L s o as → f as = g o) {s : σ}
    {os : List obs'} {as : List act} (h : Matches m L s os as) : f as = os.flatMap g := by
  induction h with
  | nil => exact hnil
  | cons h _ ih => rw [happend, hl _ _ _ h, ih, List.flatMap_cons]

/-- The same for what can be read off the trace of the run. -/
theorem Matches.flatMap_trace {β : Type} {L : σ → obs' → List act → Prop} {f : List obs → List β} {g : obs' → List β}
    (hnil : f [] = []) (happend : ∀ xs ys, f (xs ++ ys) = f xs ++ f ys)
    (hl : ∀ s o as, L s o as → f (m.run s as).1 = g o) {s : σ} {os : List obs'} {as : List act}
    (h : Matches m L s os as) : f (m.run s as).1 = os.flatMap g := by
  induction h with
  | nil => exact hnil
  | cons h _ ih => rw [run_append, happend, hl _ _ _ h, ih, List.flatMap_cons]

end Ccrms.Lib.Machine
