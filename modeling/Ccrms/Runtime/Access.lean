import Ccrms.Runtime.Precompiles
import Ccrms.Rights.Lemmas.Access
import Ccrms.Rights.Reference

/-!
# The access queries agree

The view function `access_rights_of`, the extrinsic `check_access` and the precompile answer the same question in three
places of the source.
-/

namespace Ccrms.Runtime

open Ccrms.Lib Ccrms.Frame Ccrms.Rights

variable {AccountId W μ ε : Type}

/-- The numbers of the answers in the Solidity interface. -/
def accessCode : Option RightsType → Nat
  | some .subscription => 0
  | some .payPerView => 1
  | some .ownership => 2
  | none => 3

theorem charge_bind {α : Type} {env : Ext AccountId μ ε} {weight : Nat} {m m' : μ}
    (h : env.chargeWeightToken weight m = .ok m') (g : Unit → PrecompileM μ ε α) :
    (charge env weight >>= g) m = g () m' := by
  show EStateM.bind (charge env weight) g m = g () m'
  simp [EStateM.bind, charge, Exec.zoom, h, Except.mapError]

theorem abiWord_injective {a b : Nat} (ha : a < 256 ^ 32) (hb : b < 256 ^ 32) (h : abiWord a = abiWord b) : a = b := by
  exact Scale.leBytes_inj ha hb (List.reverse_injective h)

theorem abiWord_accessCode_inj {r r' : Option RightsType} (h : abiWord (accessCode r) = abiWord (accessCode r')) :
    r = r' := by
  have hlt : ∀ r, accessCode r < 256 ^ 32 := by
    intro r
    have : accessCode r < 4 := by
      rcases r with _ | r
      · decide
      · cases r <;> decide
    omega
  have hcode := abiWord_injective (hlt r) (hlt r') h
  rcases r with _ | r <;> rcases r' with _ | r'
  · rfl
  · cases r' <;> cases hcode
  · cases r <;> cases hcode
  · cases r <;> cases r' <;> first | rfl | cases hcode

section Queries

variable {env : Ext AccountId μ ε} {s : State AccountId W} {c : U32} {address : Address} {m m' : μ}

/-- With enough gas `checkAccess` answers for a registered content as `access_rights` does. -/
theorem call_checkAccess (hgas : env.chargeWeightToken (storageRead 3) m = .ok m') (hc : s.store.contents c ≠ none) :
    call env s (.checkAccess c address) m =
      .ok (abiWord (accessCode (accessRights s c (env.toAccountId address)))) m' := by
  rw [call, charge_bind hgas, if_neg (by simpa using hc)]
  unfold accessRights
  split
  · rfl
  · by_cases hactive : subscriptionActive s c (env.toAccountId address) = true
    · rw [if_pos hactive]
      exact congrFun (if_pos hactive) m'
    · rw [if_neg hactive]
      refine (congrFun (if_neg hactive) m').trans ?_
      cases s.store.viewPacks c (env.toAccountId address) with
      | none => rfl
      | some pack =>
          by_cases hv : pack.viewsRemaining > 0
          · simp only [if_pos hv]
            rfl
          · simp only [if_neg hv]
            rfl

theorem call_checkAccess_missing (hgas : env.chargeWeightToken (storageRead 3) m = .ok m')
    (hc : s.store.contents c = none) :
    call env s (.checkAccess c address) m = .error (.revert "ContentNotFound") m' := by
  rw [call, charge_bind hgas, if_pos (by simp [hc])]
  rfl

variable [DecidableEq AccountId] {cfg : Config AccountId W} {who : AccountId}

theorem dispatch_checkAccess (hc : s.store.contents c ≠ none) :
    dispatch cfg (.signed who) (.checkAccess c) s =
      .ok () (s.deposit [.accessChecked c who (accessRights s c who).isSome]) := by
  rw [dispatch, Exec.withStorageLayer_ok]
  simp only [Call.body, Rights.checkAccess, ensureSigned_bind, load_bind, Exec.ensure_bind_ok]
  exact ⟨who, rfl, Option.isSome_iff_ne_none.mpr hc, rfl⟩

theorem dispatch_checkAccess_missing (hc : s.store.contents c = none) :
    dispatch cfg (.signed who) (.checkAccess c) s = .error (.pallet .contentNotFound) s := by
  have hbody : (Call.checkAccess c).body cfg (.signed who) s = .error (.pallet .contentNotFound) s := by
    exact Exec.ensure_bind_not (p := (s.store.contents c).isSome = true) (by simp [hc]) _ _ _
  rw [dispatch, Exec.withStorageLayer, hbody]

end Queries

/-- The three queries agree. In every state, with enough gas: for a registered content `checkAccess` returns 2, 0, 1 or
3 exactly when `access_rights_of` is ownership, subscription, pay-per-view or nothing, and `check_access` reports
access exactly when it is something; for an unregistered content they revert, fail and return nothing. In every
reachable state `access_rights` gives rights only in registered contents, and so it is `access_rights_of`. -/
theorem access_queries_agree [DecidableEq AccountId] (cfg : Config AccountId W) (env : Ext AccountId μ ε) (c : U32)
    (address : Address) (who : AccountId) (hwho : env.toAccountId address = who) :
    (∀ (s : State AccountId W) (m m' : μ), env.chargeWeightToken (storageRead 3) m = .ok m' →
      (s.store.contents c ≠ none →
        (∃ out, call env s (.checkAccess c address) m = .ok out m' ∧
          (out = abiWord 2 ↔ accessRightsOf s c who = some .ownership) ∧
          (out = abiWord 0 ↔ accessRightsOf s c who = some .subscription) ∧
          (out = abiWord 1 ↔ accessRightsOf s c who = some .payPerView) ∧
          (out = abiWord 3 ↔ accessRightsOf s c who = none)) ∧
        dispatch cfg (.signed who) (.checkAccess c) s =
          .ok () (s.deposit [.accessChecked c who (accessRightsOf s c who).isSome])) ∧
      (s.store.contents c = none →
        call env s (.checkAccess c address) m = .error (.revert "ContentNotFound") m' ∧
        dispatch cfg (.signed who) (.checkAccess c) s = .error (.pallet .contentNotFound) s ∧
        accessRightsOf s c who = none)) ∧
    (∀ (n₀ : U32) (w₀ : W) (as : List (Action AccountId W)),
      let s := ((chain cfg).run (.init n₀ w₀) as).2
      (accessRights s c who ≠ none → s.store.contents c ≠ none) ∧ accessRights s c who = accessRightsOf s c who) := by
  subst hwho
  refine ⟨?_, ?_⟩
  · intro s m m' hgas
    refine ⟨fun hc => ?_, fun hc => ?_⟩
    · have hof : accessRightsOf s c (env.toAccountId address) = accessRights s c (env.toAccountId address) :=
        if_pos (Option.isSome_iff_ne_none.mpr hc)
      rw [hof]
      have hcode : ∀ r, abiWord (accessCode (accessRights s c (env.toAccountId address))) = abiWord (accessCode r) ↔
          accessRights s c (env.toAccountId address) = r := by
        intro r
        exact ⟨abiWord_accessCode_inj, fun h => by rw [h]⟩
      refine ⟨⟨_, call_checkAccess hgas hc, ?_, ?_, ?_, ?_⟩, dispatch_checkAccess hc⟩
      · exact hcode (some .ownership)
      · exact hcode (some .subscription)
      · exact hcode (some .payPerView)
      · exact hcode none
    · exact ⟨call_checkAccess_missing hgas hc, dispatch_checkAccess_missing hc, if_neg (by simp [hc])⟩
  · intro n₀ w₀ as s
    have hreg : accessRights s c (env.toAccountId address) ≠ none → s.store.contents c ≠ none := by
      intro h
      exact run_rightsRegistered cfg n₀ w₀ as c _ (holdsRight_of_accessRights h)
    refine ⟨hreg, ?_⟩
    unfold accessRightsOf
    split
    · rfl
    · rename_i hc
      by_contra h
      exact hc (Option.isSome_iff_ne_none.mpr (hreg h))

/-- A meter that counts the weight left. The first byte of an address names its account. -/
def countingEnv : Ext Nat Nat Unit where
  chargeWeightToken weight left := if weight ≤ left then .ok (left - weight) else .error ()
  toAccountId address := (address.get 0).toNat
  toAddress account := Vector.ofFn fun i => if i = 0 then UInt8.ofNat account else 0

/-- An owner of a content, queried with the weight of three reads. -/
def ownerRun : List (Action Nat Reference.World) :=
  [Reference.register 1 100 10 500 100, Reference.signed 2 (.purchaseOwnership 0)]

theorem ownerRun_queries :
    let s := ((chain (Reference.config 1 100)).run (.init 1 Reference.genesis) ownerRun).2
    let address : Address := countingEnv.toAddress 2
    accessRightsOf s 0 2 = some .ownership ∧ call countingEnv s (.checkAccess 0 address) 75000 = .ok (abiWord 2) 0 := by
  have howner : accessRightsOf ((chain (Reference.config 1 100)).run (.init 1 Reference.genesis) ownerRun).2 0 2 =
      some .ownership := by
    decide +kernel
  have h := access_queries_agree (Reference.config 1 100) countingEnv 0 (countingEnv.toAddress 2) 2 (by decide)
  obtain ⟨⟨out, hout, htwo, _⟩, _⟩ := (h.1 ((chain (Reference.config 1 100)).run (.init 1 Reference.genesis) ownerRun).2
    75000 0 rfl).1 (by decide +kernel)
  exact ⟨howner, by rw [hout, htwo.mpr howner]⟩

end Ccrms.Runtime
