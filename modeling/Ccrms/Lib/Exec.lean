import Mathlib.Tactic.Common

/-!
# Storage computations

A dispatchable function reads and writes the storage and may stop with an error. An error does not undo the
writes made before it: only a storage layer does. Each primitive has a lemma that says when it succeeds, so that
a `do` block is taken apart step by step without unfolding it.
-/

namespace Ccrms.Lib

/-- A computation over the storage `σ` that may stop with an error `ε`. The writes made before the error stay. -/
abbrev Exec (ε σ α : Type) := EStateM ε σ α

namespace Exec

variable {ε σ α β : Type}

def read (f : σ → α) : Exec ε σ α := fun s => .ok (f s) s

def write (f : σ → σ) : Exec ε σ Unit := fun s => .ok () (f s)

def fail (e : ε) : Exec ε σ α := fun s => .error e s

/-- `ensure!`: stops with `e` unless `p` holds. -/
def ensure (p : Prop) [Decidable p] (e : ε) : Exec ε σ Unit := if p then pure () else fail e

/-- `ok_or`: the value of an option, or the error `e`. -/
def okOr (o : Option α) (e : ε) : Exec ε σ α :=
  match o with
  | some a => pure a
  | none => fail e

/-- Runs a fallible operation on the part of the storage that `get` and `set` select. -/
def zoom {τ : Type} (get : σ → τ) (set : τ → σ → σ) (f : τ → Except ε τ) : Exec ε σ Unit := fun s =>
  match f (get s) with
  | .ok t => .ok () (set t s)
  | .error e => .error e s

/-- `with_storage_layer`: an error undoes every write of `x`. -/
def withStorageLayer (x : Exec ε σ α) : Exec ε σ α := fun s =>
  match x s with
  | .ok a s' => .ok a s'
  | .error e _ => .error e s

/-! ## When a computation succeeds -/

theorem bind_ok {x : Exec ε σ α} {f : α → Exec ε σ β} {s s' : σ} {b : β} :
    (x >>= f) s = .ok b s' ↔ ∃ a s₁, x s = .ok a s₁ ∧ f a s₁ = .ok b s' := by
  show EStateM.bind x f s = _ ↔ _
  unfold EStateM.bind
  cases x s with
  | ok a s₁ =>
      constructor
      · intro h; exact ⟨a, s₁, rfl, h⟩
      · rintro ⟨a', s₂, h, hf⟩; cases h; exact hf
  | error e s₁ =>
      constructor
      · intro h; cases h
      · rintro ⟨_, _, h, _⟩; cases h

theorem pure_ok {a b : α} {s s' : σ} : (pure a : Exec ε σ α) s = .ok b s' ↔ a = b ∧ s = s' := by
  show EStateM.Result.ok a s = .ok b s' ↔ _
  simp

theorem write_ok {f : σ → σ} {u : Unit} {s s' : σ} :
    (write f : Exec ε σ Unit) s = .ok u s' ↔ f s = s' := by
  simp [write]

theorem fail_ok {e : ε} {a : α} {s s' : σ} : (fail e : Exec ε σ α) s = .ok a s' ↔ False := by
  simp [fail]

theorem ensure_ok {p : Prop} [Decidable p] {e : ε} {u : Unit} {s s' : σ} :
    (ensure p e : Exec ε σ Unit) s = .ok u s' ↔ p ∧ s = s' := by
  unfold ensure
  split
  · rename_i hp; rw [pure_ok]; simp [hp]
  · rename_i hp; rw [fail_ok]; simp [hp]

theorem okOr_ok {o : Option α} {e : ε} {a : α} {s s' : σ} :
    (okOr o e : Exec ε σ α) s = .ok a s' ↔ o = some a ∧ s = s' := by
  cases o with
  | none => simp [okOr, fail]
  | some b => simp [okOr, pure_ok]

theorem zoom_ok {τ : Type} {get : σ → τ} {set : τ → σ → σ} {f : τ → Except ε τ} {u : Unit} {s s' : σ} :
    zoom get set f s = .ok u s' ↔ ∃ t, f (get s) = .ok t ∧ s' = set t s := by
  unfold zoom
  cases f (get s) with
  | error e => simp
  | ok t =>
      simp only [EStateM.Result.ok.injEq, true_and, Except.ok.injEq, exists_eq_left']
      exact eq_comm

/-- The computation succeeded, with a value and a state that satisfy `p`. -/
def OkWith (p : α → σ → Prop) : EStateM.Result ε σ α → Prop
  | .ok a s => p a s
  | .error _ _ => False

instance {p : α → σ → Prop} [∀ a s, Decidable (p a s)] (r : EStateM.Result ε σ α) : Decidable (OkWith p r) :=
  match r with
  | .ok a s => inferInstanceAs (Decidable (p a s))
  | .error _ _ => inferInstanceAs (Decidable False)

theorem okWith_iff {p : α → σ → Prop} {r : EStateM.Result ε σ α} : OkWith p r ↔ ∃ a s, r = .ok a s ∧ p a s := by
  cases r <;> simp [OkWith]

/-! ## The first step of a sequence

A read or a write always succeeds, so the sequence goes on from a known state. A check leaves its condition. -/

theorem read_bind (f : σ → α) (g : α → Exec ε σ β) (s : σ) : (read f >>= g) s = g (f s) s := rfl

theorem write_bind (f : σ → σ) (g : Unit → Exec ε σ β) (s : σ) : (write f >>= g) s = g () (f s) := rfl

theorem ensure_bind_ok {p : Prop} [Decidable p] {e : ε} {g : Unit → Exec ε σ β} {s s' : σ} {b : β} :
    (ensure p e >>= g) s = .ok b s' ↔ p ∧ g () s = .ok b s' := by
  simp only [bind_ok, ensure_ok]
  constructor
  · rintro ⟨_, _, ⟨hp, rfl⟩, h⟩; exact ⟨hp, h⟩
  · rintro ⟨hp, h⟩; exact ⟨(), s, ⟨hp, rfl⟩, h⟩

theorem ensure_bind_of {p : Prop} [Decidable p] (hp : p) (e : ε) (g : Unit → Exec ε σ β) (s : σ) :
    (ensure p e >>= g) s = g () s := by
  rw [ensure, if_pos hp]
  rfl

theorem ensure_bind_not {p : Prop} [Decidable p] (hp : ¬ p) (e : ε) (g : Unit → Exec ε σ β) (s : σ) :
    (ensure p e >>= g) s = .error e s := by
  rw [ensure, if_neg hp]
  rfl

theorem okOr_bind_ok {o : Option α} {e : ε} {g : α → Exec ε σ β} {s s' : σ} {b : β} :
    (okOr o e >>= g) s = .ok b s' ↔ ∃ a, o = some a ∧ g a s = .ok b s' := by
  simp only [bind_ok, okOr_ok]
  constructor
  · rintro ⟨a, _, ⟨ho, rfl⟩, h⟩; exact ⟨a, ho, h⟩
  · rintro ⟨a, ho, h⟩; exact ⟨a, s, ⟨ho, rfl⟩, h⟩

theorem okOr_bind_of {o : Option α} {a : α} (ho : o = some a) (e : ε) (g : α → Exec ε σ β) (s : σ) :
    (okOr o e >>= g) s = g a s := by
  rw [ho]
  rfl

theorem okOr_bind_not {o : Option α} (ho : o = none) (e : ε) (g : α → Exec ε σ β) (s : σ) :
    (okOr o e >>= g) s = .error e s := by
  rw [ho]
  rfl

theorem bind_of_ok {x : Exec ε σ α} {a : α} {s s' : σ} (h : x s = .ok a s') (g : α → Exec ε σ β) :
    (x >>= g) s = g a s' := by
  show EStateM.bind x g s = _
  rw [EStateM.bind, h]

theorem bind_of_error {x : Exec ε σ α} {e : ε} {s s' : σ} (h : x s = .error e s') (g : α → Exec ε σ β) :
    (x >>= g) s = .error e s' := by
  show EStateM.bind x g s = _
  rw [EStateM.bind, h]

/-! ## Computations with one possible result -/

/-- From the state `s`, the computation returns `a` in the state `s'`, or it stops with an error that satisfies `p`. -/
def Yields (p : ε → Prop) (x : Exec ε σ α) (s : σ) (a : α) (s' : σ) : Prop :=
  match x s with
  | .ok b t => b = a ∧ t = s'
  | .error e _ => p e

namespace Yields

variable {p : ε → Prop} {x : Exec ε σ α} {s s' s'' : σ} {a : α} {b : β}

theorem pure : Yields p (Pure.pure a : Exec ε σ α) s a s := ⟨rfl, rfl⟩

theorem read (f : σ → α) : Yields p (read f : Exec ε σ α) s (f s) s := ⟨rfl, rfl⟩

theorem write (f : σ → σ) : Yields p (write f : Exec ε σ Unit) s () (f s) := ⟨rfl, rfl⟩

theorem bind {f : α → Exec ε σ β} (h : Yields p x s a s') (hf : Yields p (f a) s' b s'') :
    Yields p (x >>= f) s b s'' := by
  unfold Yields at h ⊢
  show match EStateM.bind x f s with | .ok b' t => b' = b ∧ t = s'' | .error e _ => p e
  unfold EStateM.bind
  cases hx : x s with
  | ok a' t =>
      rw [hx] at h
      obtain ⟨rfl, rfl⟩ := h
      exact hf
  | error e t =>
      rw [hx] at h
      exact h

/-- An option that can only hold `a`. -/
theorem okOr {o : Option α} {e : ε} (ho : ∀ a', o = some a' → a' = a) (he : o = none → p e) :
    Yields p (okOr o e : Exec ε σ α) s a s := by
  cases o with
  | none => exact he rfl
  | some a' => exact ⟨ho a' rfl, rfl⟩

theorem okOr_some {o : Option α} {e : ε} (ho : o = some a) : Yields p (Exec.okOr o e : Exec ε σ α) s a s := by
  subst ho
  exact ⟨rfl, rfl⟩

theorem ensure {q : Prop} [Decidable q] {e : ε} (he : p e) : Yields p (ensure q e : Exec ε σ Unit) s () s := by
  unfold Exec.ensure
  split
  · exact ⟨rfl, rfl⟩
  · exact he

theorem ok (h : Yields p x s a s') {b : α} {t : σ} (hx : x s = .ok b t) : b = a ∧ t = s' := by
  unfold Yields at h
  rw [hx] at h
  exact h

theorem error (h : Yields p x s a s') {e : ε} {t : σ} (hx : x s = .error e t) : p e := by
  unfold Yields at h
  rw [hx] at h
  exact h

end Yields

/-! ## Storage layers -/

theorem withStorageLayer_ok {x : Exec ε σ α} {a : α} {s s' : σ} :
    withStorageLayer x s = .ok a s' ↔ x s = .ok a s' := by
  unfold withStorageLayer
  cases x s <;> simp

/-- A storage layer that stops leaves the storage as it was. -/
theorem withStorageLayer_error {x : Exec ε σ α} {e : ε} {s s' : σ}
    (h : withStorageLayer x s = .error e s') : s' = s := by
  unfold withStorageLayer at h
  cases hx : x s with
  | ok a s₁ => rw [hx] at h; cases h
  | error e' s₁ =>
      rw [hx] at h
      simp only [EStateM.Result.error.injEq] at h
      exact h.2.symm

theorem error_of_withStorageLayer {x : Exec ε σ α} {e : ε} {s s' : σ} (h : withStorageLayer x s = .error e s') :
    ∃ s₁, x s = .error e s₁ := by
  unfold withStorageLayer at h
  cases hx : x s with
  | ok a s₁ => rw [hx] at h; cases h
  | error e' s₁ =>
      rw [hx] at h
      cases h
      exact ⟨s₁, rfl⟩

/-! ## Computations that end in related states -/

/-- From every state the two computations stop with the same error in the same state, or return the same value in
related states. -/
def Twins (R : σ → σ → Prop) (x y : Exec ε σ α) : Prop :=
  ∀ s, (∃ e s', x s = .error e s' ∧ y s = .error e s') ∨ ∃ a s₁ s₂, x s = .ok a s₁ ∧ y s = .ok a s₂ ∧ R s₁ s₂

namespace Twins

variable {R : σ → σ → Prop}

/-- Two writes with related results, before the same value is returned. -/
theorem write {f g : σ → σ} (h : ∀ s, R (f s) (g s)) (a : α) :
    Twins (ε := ε) R (Exec.write f >>= fun _ => pure a) (Exec.write g >>= fun _ => pure a) := by
  intro s
  exact Or.inr ⟨a, f s, g s, rfl, rfl, h s⟩

/-- After the same first step it is enough to compare the rest. -/
theorem bind (x : Exec ε σ α) {f g : α → Exec ε σ β} (h : ∀ a, Twins R (f a) (g a)) :
    Twins R (x >>= f) (x >>= g) := by
  intro s
  show (∃ e s', EStateM.bind x f s = .error e s' ∧ EStateM.bind x g s = .error e s') ∨
    ∃ b s₁ s₂, EStateM.bind x f s = .ok b s₁ ∧ EStateM.bind x g s = .ok b s₂ ∧ R s₁ s₂
  unfold EStateM.bind
  cases x s with
  | ok a s₁ => exact h a s₁
  | error e s₁ => exact Or.inl ⟨e, s₁, rfl, rfl⟩

theorem map {x y : Exec ε σ α} (h : Twins R x y) (f : α → β) :
    Twins R (x >>= fun a => pure (f a)) (y >>= fun a => pure (f a)) := by
  intro s
  show (∃ e s', EStateM.bind x _ s = .error e s' ∧ EStateM.bind y _ s = .error e s') ∨
    ∃ b s₁ s₂, EStateM.bind x _ s = .ok b s₁ ∧ EStateM.bind y _ s = .ok b s₂ ∧ R s₁ s₂
  unfold EStateM.bind
  rcases h s with ⟨e, s', hx, hy⟩ | ⟨a, s₁, s₂, hx, hy, hR⟩
  · rw [hx, hy]
    exact Or.inl ⟨e, s', rfl, rfl⟩
  · rw [hx, hy]
    exact Or.inr ⟨f a, s₁, s₂, rfl, rfl, hR⟩

/-- In a storage layer an error leaves both storages as they were. -/
theorem withStorageLayer {x y : Exec ε σ α} (h : Twins R x y) (s : σ) :
    (∃ e, Exec.withStorageLayer x s = .error e s ∧ Exec.withStorageLayer y s = .error e s) ∨
      ∃ a s₁ s₂, Exec.withStorageLayer x s = .ok a s₁ ∧ Exec.withStorageLayer y s = .ok a s₂ ∧ R s₁ s₂ := by
  unfold Exec.withStorageLayer
  rcases h s with ⟨e, s', hx, hy⟩ | ⟨a, s₁, s₂, hx, hy, hR⟩
  · rw [hx, hy]
    exact Or.inl ⟨e, rfl, rfl⟩
  · rw [hx, hy]
    exact Or.inr ⟨a, s₁, s₂, rfl, rfl, hR⟩

end Twins

/-! ## Errors that do not occur -/

/-- The computation never stops with the error `e`. -/
def Avoids (x : Exec ε σ α) (e : ε) : Prop := ∀ s s', x s ≠ .error e s'

namespace Avoids

variable {e e' : ε}

theorem pure (a : α) : (Pure.pure a : Exec ε σ α).Avoids e := by
  intro s s' h
  cases h

theorem read (f : σ → α) : (Exec.read f : Exec ε σ α).Avoids e := by
  intro s s' h
  cases h

theorem write (f : σ → σ) : (Exec.write f : Exec ε σ Unit).Avoids e := by
  intro s s' h
  cases h

theorem fail (he : e' ≠ e) : (Exec.fail e' : Exec ε σ α).Avoids e := by
  intro s s' h
  cases h
  exact he rfl

theorem ensure {p : Prop} [Decidable p] (he : e' ≠ e) : (Exec.ensure p e' : Exec ε σ Unit).Avoids e := by
  unfold Exec.ensure
  split
  · exact pure ()
  · exact fail he

theorem okOr (o : Option α) (he : e' ≠ e) : (Exec.okOr o e' : Exec ε σ α).Avoids e := by
  cases o with
  | none => exact fail he
  | some a => exact pure a

theorem zoom {τ : Type} {get : σ → τ} {set : τ → σ → σ} {f : τ → Except ε τ} (hf : ∀ t, f t ≠ .error e) :
    (Exec.zoom get set f).Avoids e := by
  intro s s' h
  unfold Exec.zoom at h
  split at h
  · cases h
  · rename_i e₁ he
    cases h
    exact hf _ he

theorem bind {x : Exec ε σ α} {f : α → Exec ε σ β} (hx : x.Avoids e) (hf : ∀ a, (f a).Avoids e) :
    (x >>= f).Avoids e := by
  intro s s' h
  have h : EStateM.bind x f s = .error e s' := h
  unfold EStateM.bind at h
  cases hs : x s with
  | ok a s₁ =>
      rw [hs] at h
      exact hf a s₁ s' h
  | error e₁ s₁ =>
      rw [hs] at h
      cases h
      exact hx s s' hs

end Avoids

/-! ## Parts of the storage that a computation leaves alone -/

/-- The computation does not change the part `view` of the storage, whether it succeeds or stops. -/
def Keeps {τ : Type} (view : σ → τ) (x : Exec ε σ α) : Prop := ∀ s,
  match x s with
  | .ok _ s' => view s' = view s
  | .error _ s' => view s' = view s

namespace Keeps

variable {τ : Type} {view : σ → τ} {e : ε}

theorem pure (a : α) : (Pure.pure a : Exec ε σ α).Keeps view := fun _ => rfl

theorem read (f : σ → α) : (Exec.read f : Exec ε σ α).Keeps view := fun _ => rfl

theorem write {f : σ → σ} (h : ∀ s, view (f s) = view s) : (Exec.write f : Exec ε σ Unit).Keeps view := h

theorem fail : (Exec.fail e : Exec ε σ α).Keeps view := fun _ => rfl

theorem ensure (p : Prop) [Decidable p] : (Exec.ensure p e : Exec ε σ Unit).Keeps view := by
  unfold Exec.ensure
  split
  · exact pure ()
  · exact fail

theorem okOr (o : Option α) : (Exec.okOr o e : Exec ε σ α).Keeps view := by
  cases o with
  | none => exact fail
  | some a => exact pure a

theorem bind {x : Exec ε σ α} {f : α → Exec ε σ β} (hx : x.Keeps view) (hf : ∀ a, (f a).Keeps view) :
    (x >>= f).Keeps view := by
  intro s
  show match EStateM.bind x f s with | .ok _ s' => view s' = view s | .error _ s' => view s' = view s
  unfold EStateM.bind
  have hfirst := hx s
  cases hs : x s with
  | error e s₁ =>
      rw [hs] at hfirst
      exact hfirst
  | ok a s₁ =>
      rw [hs] at hfirst
      have hsecond := hf a s₁
      simp only at hfirst ⊢
      rw [hfirst] at hsecond
      exact hsecond

theorem withStorageLayer {x : Exec ε σ α} (hx : x.Keeps view) : (Exec.withStorageLayer x).Keeps view := by
  intro s
  have hbody := hx s
  unfold Exec.withStorageLayer
  cases hs : x s with
  | error e s₁ => rfl
  | ok a s₁ =>
      rw [hs] at hbody
      exact hbody

end Keeps

end Exec

end Ccrms.Lib
