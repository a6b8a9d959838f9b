import Ccrms.Client.Reference
import Ccrms.Client.Escrow

/-!
# Properties of every run of the client

Each theorem is about an arbitrary run of the chain of the client, from the state without requests.
-/

namespace Ccrms.Client

open Ccrms.Lib Ccrms.Frame

variable {AccountId Location Asset W : Type} [DecidableEq Location]

/-! ## Solvency of the escrow account -/

theorem run_sound (cfg : Config AccountId Location Asset W) (hxcm : cfg.xcm.Lawful)
    (hsep : cfg.xcm.Separate cfg.currency) (n₀ : Nat) (w₀ : W) (as : List (Action AccountId Location W))
    (ha : (chain cfg).Along (Undisturbed cfg) (.init n₀ w₀) as) :
    ((chain cfg).run (.init n₀ w₀) as).2.Sound cfg :=
  Machine.run_invariant_along (P := fun _ s => s.Sound cfg) (.init n₀ w₀)
    (fun _ s a hs hc => (step_effect cfg s a).sound hxcm hsep hc hs) as ha

/-- The escrow account covers the pending escrows in every state of a run exactly if no settlement of the run leaves
dust that other requests own. -/
theorem escrow_solvent_iff (cfg : Config AccountId Location Asset W) (hcur : cfg.currency.Lawful)
    (hxcm : cfg.xcm.Lawful) (hsep : cfg.xcm.Separate cfg.currency) (n₀ : Nat) (w₀ : W)
    (as : List (Action AccountId Location W)) (ha : (chain cfg).Along (Undisturbed cfg) (.init n₀ w₀) as) :
    (∀ as', as' <+: as → Solvent cfg ((chain cfg).run (.init n₀ w₀) as').2) ↔
      (chain cfg).Along (LeavesNoDust cfg) (.init n₀ w₀) as := by
  induction as using List.reverseRecOn with
  | nil =>
      refine ⟨fun _ => trivial, ?_⟩
      intro _ as' hpre
      rw [List.prefix_nil.mp hpre]
      exact Nat.le_trans (Nat.le_of_eq (StorageMap.sum_empty _)) (Nat.zero_le _)
  | append_singleton as a ih =>
      obtain ⟨hrest, hlast⟩ := Machine.along_snoc.mp ha
      have hsound := run_sound cfg hxcm hsep n₀ w₀ as hrest
      rw [Machine.along_snoc, ← ih hrest]
      constructor
      · intro h
        have hbefore : ∀ as', as' <+: as → Solvent cfg ((chain cfg).run (.init n₀ w₀) as').2 :=
          fun as' hpre => h as' (hpre.trans (List.prefix_append as [a]))
        have hafter := h (as ++ [a]) (List.prefix_refl _)
        rw [Machine.run_snoc] at hafter
        exact ⟨hbefore, (solvent_step_iff hcur hxcm hsep hlast hsound (hbefore as (List.prefix_refl _))).mp hafter⟩
      · rintro ⟨hbefore, hdust⟩ as' hpre
        rcases List.prefix_concat_iff.mp hpre with rfl | hpre
        · rw [Machine.run_snoc]
          exact (solvent_step_iff hcur hxcm hsep hlast hsound (hbefore as (List.prefix_refl _))).mpr hdust
        · exact hbefore as' hpre

/-- Two users request with escrows of 10 and 5, at an existential deposit of 10, and the first request succeeds. -/
def dustRun : List (Action Nat Nat Reference.World) :=
  [.request (.signed 3) (.subscribe 0) 10, .request (.signed 4) (.subscribe 0) 5,
    .onOutcome (.response 1) 0 (.dispatchResult .success)]

/-- The payment of the first escrow leaves 5 in the escrow account, which is below the existential deposit. The rest is
dropped, and the second request is pending without a cover. -/
theorem dustRun_is_insolvent :
    let s := ((chain (Reference.config 10)).run Reference.init dustRun).2
    s.pending 1 = some ⟨4, 5, .subscribe 0, 1⟩ ∧ s.world.balances.free Reference.escrowAccount = 0 ∧
      ¬ Solvent (Reference.config 10) s := by
  have hp : ((chain (Reference.config 10)).run Reference.init dustRun).2.pending 1 = some ⟨4, 5, .subscribe 0, 1⟩ := by
    decide +kernel
  have hfree : ((chain (Reference.config 10)).run Reference.init dustRun).2.world.balances.free
      Reference.escrowAccount = 0 := by
    decide +kernel
  have hundisturbed : (chain (Reference.config 10)).Along (Undisturbed (Reference.config 10)) Reference.init dustRun :=
    ⟨by simp [Undisturbed, Reference.config, Reference.escrowAccount],
      by simp [Undisturbed, Reference.config, Reference.escrowAccount], trivial, trivial⟩
  have hsound := run_sound (Reference.config 10) Reference.xcm_lawful (Reference.separate 10) 1 Reference.genesis
    dustRun hundisturbed
  refine ⟨hp, hfree, ?_⟩
  intro hsolvent
  have hsum : ((chain (Reference.config 10)).run Reference.init dustRun).2.escrowed = 5 + _ :=
    StorageMap.sum_remove hsound.finite (fun p => p.escrow) hp
  have hzero : ((chain (Reference.config 10)).run Reference.init dustRun).2.escrowed ≤ 0 := hfree ▸ hsolvent
  omega

/-- The refund of the second escrow leaves the first one in the account, which is more than the existential deposit. -/
def wholeRun : List (Action Nat Nat Reference.World) :=
  [.request (.signed 3) (.subscribe 0) 20, .request (.signed 4) (.subscribe 0) 10,
    .onOutcome (.response 1) 1 (.dispatchResult (.error []))]

theorem wholeRun_is_solvent :
    Solvent (Reference.config 10) ((chain (Reference.config 10)).run Reference.init wholeRun).2 := by
  have hundisturbed : (chain (Reference.config 10)).Along (Undisturbed (Reference.config 10)) Reference.init
      wholeRun :=
    ⟨by simp [Undisturbed, Reference.config, Reference.escrowAccount],
      by simp [Undisturbed, Reference.config, Reference.escrowAccount], trivial, trivial⟩
  have hall := escrow_solvent_iff (Reference.config 10) (Reference.currency_lawful 10) Reference.xcm_lawful
    (Reference.separate 10) 1 Reference.genesis wholeRun hundisturbed
  refine hall.mpr ⟨trivial, trivial, ?_, trivial⟩ wholeRun (List.prefix_refl _)
  intro p w _ hp _ _
  have hp' : p = ⟨4, 10, .subscribe 0, 1⟩ := Option.some.inj (hp.symm.trans (by decide +kernel))
  subst hp'
  exact Or.inl (by decide +kernel)

end Ccrms.Client
