import Ccrms.Lib.Abi
import Ccrms.Rights.Lemmas.Receipts
import Ccrms.Rights.Stored
import Ccrms.Rights.Terms
import Ccrms.Runtime.Access

/-!
# What contracts read

A Solidity contract reads the answers of the precompile by the types of its interface. In every reachable state they
are the stored values, and the answers of four queries determine the fifth.
-/

namespace Ccrms.Runtime

open Ccrms.Lib Ccrms.Frame Ccrms.Rights

variable {AccountId W μ ε : Type}

/-! ## Reading an answer -/

/-- What a contract reads with the decoder `d`. A call that reverts or runs out of gas, and an answer that is not of the
declared types, give nothing. -/
def answer {α : Type} (d : Scale.Decoder α) (env : Ext AccountId μ ε) (s : State AccountId W) (m : μ)
    (query : IContentRightsCalls) : Option α :=
  match call env s query m with
  | .ok out _ => Scale.decodeAll d out
  | .error _ _ => none

/-- `(address, bytes32, uint128, uint128, uint128, uint32)`. -/
structure ContentAnswer where
  creator : Address
  metadataHash : Bytes32
  subscriptionPrice : U128
  ppvPrice : U128
  ownershipPrice : U128
  periodLength : U32
  deriving DecidableEq

def contentAnswer : Scale.Decoder ContentAnswer := do
  let creator ← Abi.address
  let metadataHash ← Scale.bytes 32
  let subscriptionPrice ← Abi.uint 128
  let ppvPrice ← Abi.uint 128
  let ownershipPrice ← Abi.uint 128
  let periodLength ← Abi.uint 32
  pure ⟨creator, metadataHash, subscriptionPrice, ppvPrice, ownershipPrice, periodLength⟩

/-- `(bool, uint32)`. -/
def flaggedAnswer : Scale.Decoder (Bool × U32) := do
  let known ← Abi.bool
  let value ← Abi.uint 32
  pure (known, value)

section Gas

variable {α : Type} {env : Ext AccountId μ ε} {s : State AccountId W} {m m' : μ} {c : U32} {address : Address}

theorem answer_of_ok {d : Scale.Decoder α} {a : α} {query : IContentRightsCalls} {out : List UInt8}
    (h : call env s query m = .ok out m') (hd : Scale.Decodes d out a) : answer d env s m query = some a := by
  rw [answer, h]
  exact Scale.decodeAll_of_decodes hd

theorem abiWord_decodes {bits : Nat} (hbits : bits ≤ 256) {n : Nat} (hn : n < 2 ^ bits) :
    Scale.Decodes (Abi.uint bits) (abiWord n) ⟨n, hn⟩ :=
  Abi.uint_decodes hbits ⟨n, hn⟩

theorem abiBool_decodes (b : Bool) : Scale.Decodes Abi.bool (abiBool b) b := Abi.bool_decodes b

theorem flaggedAnswer_decodes (known : Bool) {n : Nat} (hn : n < 2 ^ 32) :
    Scale.Decodes flaggedAnswer (abiBool known ++ abiWord n) (known, ⟨n, hn⟩) :=
  (abiBool_decodes known).bind ((abiWord_decodes (by decide) hn).map fun value => (known, value))

theorem answer_isOwner (hgas : env.chargeWeightToken (storageRead 1) m = .ok m') :
    answer Abi.bool env s m (.isOwner c address) = some (s.store.ownership c (env.toAccountId address)).isSome := by
  have hcall : call env s (.isOwner c address) m =
      .ok (abiBool (s.store.ownership c (env.toAccountId address)).isSome) m' := by
    rw [call, charge_bind hgas]
    rfl
  exact answer_of_ok hcall (abiBool_decodes _)

/-- How the precompile answers for an entry that may be missing. -/
def flagged : Option Nat → Bool × Nat
  | some n => (true, n)
  | none => (false, 0)

theorem answer_flagged {query : IContentRightsCalls} {o : Option Nat} (h : ∀ n, o = some n → n ≤ u32Max)
    (hcall : call env s query m = .ok (abiBool (flagged o).1 ++ abiWord (flagged o).2) m') :
    ∃ a, answer flaggedAnswer env s m query = some a ∧ (a.1, a.2.val) = flagged o := by
  have hlt : (flagged o).2 < 2 ^ 32 := by
    cases o with
    | none => exact (by decide : 0 < 2 ^ 32)
    | some n => exact Nat.lt_of_le_of_lt (h n rfl) (by decide)
  exact ⟨((flagged o).1, ⟨(flagged o).2, hlt⟩), answer_of_ok hcall (flaggedAnswer_decodes _ hlt), rfl⟩

theorem answer_getSubscription (hgas : env.chargeWeightToken (storageRead 1) m = .ok m') (hrange : s.store.InRange) :
    ∃ a, answer flaggedAnswer env s m (.getSubscription c address) = some a ∧ (a.1, a.2.val) =
      flagged ((s.store.subscriptions c (env.toAccountId address)).map fun sub => sub.expiryBlock) := by
  have hle : ∀ n, (s.store.subscriptions c (env.toAccountId address)).map (fun sub => sub.expiryBlock) = some n →
      n ≤ u32Max := by
    intro n hn
    obtain ⟨sub, hs, rfl⟩ := Option.map_eq_some_iff.mp hn
    exact (hrange.subscriptions _ _ _ hs).1
  refine answer_flagged hle (?_ : _ = EStateM.Result.ok _ m')
  rw [call, charge_bind hgas]
  cases s.store.subscriptions c (env.toAccountId address) <;> rfl

theorem answer_getViewPack (hgas : env.chargeWeightToken (storageRead 1) m = .ok m') (hrange : s.store.InRange) :
    ∃ a, answer flaggedAnswer env s m (.getViewPack c address) = some a ∧ (a.1, a.2.val) =
      flagged ((s.store.viewPacks c (env.toAccountId address)).map fun pack => pack.viewsRemaining) := by
  have hle : ∀ n, (s.store.viewPacks c (env.toAccountId address)).map (fun pack => pack.viewsRemaining) = some n →
      n ≤ u32Max := by
    intro n hn
    obtain ⟨pack, hp, rfl⟩ := Option.map_eq_some_iff.mp hn
    exact (hrange.viewPacks _ _ _ hp).1
  refine answer_flagged hle (?_ : _ = EStateM.Result.ok _ m')
  rw [call, charge_bind hgas]
  cases s.store.viewPacks c (env.toAccountId address) <;> rfl

/-- The answer tells the terms of a content. -/
structure ContentAnswer.Tells (env : Ext AccountId μ ε) (x : Terms AccountId) (a : ContentAnswer) : Prop where
  creator : a.creator = env.toAddress x.creator
  metadataHash : a.metadataHash = x.metadataHash
  subscriptionPrice : a.subscriptionPrice.val = x.subscriptionPrice
  ppvPrice : a.ppvPrice.val = x.ppvPrice
  ownershipPrice : a.ownershipPrice.val = x.ownershipPrice
  periodLength : a.periodLength.val = x.periodLength

theorem answer_getContent {x : Terms AccountId} (hgas : env.chargeWeightToken (storageRead 1) m = .ok m')
    (hx : s.store.terms c = some x) (hvalid : x.Valid) :
    ∃ a, answer contentAnswer env s m (.getContent c) = some a ∧ a.Tells env x := by
  obtain ⟨content, hc, rfl⟩ := Option.map_eq_some_iff.mp hx
  have h128 : ∀ {n : Nat}, n ≤ u128Max → n < 2 ^ 128 := fun h => Nat.lt_of_le_of_lt h (by decide)
  have h32 : ∀ {n : Nat}, n ≤ u32Max → n < 2 ^ 32 := fun h => Nat.lt_of_le_of_lt h (by decide)
  refine ⟨⟨env.toAddress content.creator, content.metadataHash, ⟨_, h128 hvalid.subscriptionPrice⟩,
    ⟨_, h128 hvalid.ppvPrice⟩, ⟨_, h128 hvalid.ownershipPrice⟩, ⟨_, h32 hvalid.periodLength⟩⟩, ?_,
    rfl, rfl, rfl, rfl, rfl, rfl⟩
  have hcall : call env s (.getContent c) m = .ok (abiAddress (env.toAddress content.creator) ++
      content.metadataHash.toList ++ abiWord content.subscriptionPrice ++ abiWord content.ppvPrice ++
      abiWord content.ownershipPrice ++ abiWord content.periodLength) m' := by
    rw [call, charge_bind hgas, hc]
    rfl
  refine answer_of_ok hcall ?_
  simp only [List.append_assoc]
  refine (Abi.address_decodes _).bind ((Scale.Decodes.bytes _).bind ?_)
  refine (abiWord_decodes (by decide) (h128 hvalid.subscriptionPrice)).bind ?_
  refine (abiWord_decodes (by decide) (h128 hvalid.ppvPrice)).bind ?_
  refine (abiWord_decodes (by decide) (h128 hvalid.ownershipPrice)).bind ?_
  exact (abiWord_decodes (by decide) (h32 hvalid.periodLength)).map _

theorem call_getContent_missing (hgas : env.chargeWeightToken (storageRead 1) m = .ok m')
    (hc : s.store.contents c = none) : call env s (.getContent c) m = .error (.revert "ContentNotFound") m' := by
  rw [call, charge_bind hgas, hc]
  rfl

end Gas

/-! ## Main result -/

/-- How a contract tells the access of an account from the other answers and the block number: an account with a view
pack has views left. -/
def accessFrom (block : Nat) (owned : Bool) (sub pack : Bool × U32) : Nat :=
  if owned then 2
  else if sub.1 ∧ block < sub.2 then 0
  else if pack.1 then 1
  else 3

/-- The access that the answers tell is the access of the pallet. -/
theorem accessFrom_eq {s : State AccountId W} {c : Nat} {who : AccountId} {sub pack : Bool × U32}
    (hblock : s.blockNumber ≤ u32Max) (hpacks : s.store.PacksFilled)
    (hsub : (sub.1, sub.2.val) = flagged ((s.store.subscriptions c who).map fun sub => sub.expiryBlock))
    (hpack : (pack.1, pack.2.val) = flagged ((s.store.viewPacks c who).map fun pack => pack.viewsRemaining)) :
    accessFrom s.blockNumber (s.store.ownership c who).isSome sub pack = accessCode (accessRights s c who) := by
  unfold accessFrom accessRights
  cases ho : (s.store.ownership c who).isSome with
  | true => rfl
  | false =>
      have hactive : (sub.1 = true ∧ s.blockNumber < sub.2) ↔ subscriptionActive s c who = true := by
        unfold subscriptionActive
        cases hs : s.store.subscriptions c who with
        | none =>
            rw [hs] at hsub
            simp [(Prod.mk.inj hsub).1]
        | some info =>
            rw [hs] at hsub
            obtain ⟨hknown, hexpiry⟩ := Prod.mk.inj hsub
            simp [hknown, hexpiry, State.now, toU32OrZero_eq hblock]
      simp only [Bool.false_eq_true, if_false, hactive]
      split
      · rfl
      · -- A stored pack is never empty, so that it exists is enough.
        cases hp : s.store.viewPacks c who with
        | none =>
            rw [hp] at hpack
            simp [(Prod.mk.inj hpack).1, accessCode]
        | some info =>
            rw [hp] at hpack
            simp [(Prod.mk.inj hpack).1, accessCode, hpacks c who info hp]

/-- What a contract reads about a content and an account, if the register holds the terms `xs`. -/
def ReadsRegister (env : Ext AccountId μ ε) (s : State AccountId W) (xs : List (Terms AccountId)) (c : U32)
    (address : Address) (m : μ) : Prop :=
  let who := env.toAccountId address
  ∃ sub pack,
    answer Abi.bool env s m (.isOwner c address) = some (s.store.ownership c who).isSome ∧
    answer flaggedAnswer env s m (.getSubscription c address) = some sub ∧
    (sub.1, sub.2.val) = flagged ((s.store.subscriptions c who).map fun sub => sub.expiryBlock) ∧
    answer flaggedAnswer env s m (.getViewPack c address) = some pack ∧
    (pack.1, pack.2.val) = flagged ((s.store.viewPacks c who).map fun pack => pack.viewsRemaining) ∧
    match xs[c.val]? with
    | some x => (∃ a, answer contentAnswer env s m (.getContent c) = some a ∧ a.Tells env x) ∧
        (answer (Abi.uint 8) env s m (.checkAccess c address)).map Fin.val =
          some (accessFrom s.blockNumber (s.store.ownership c who).isSome sub pack)
    | none => (∃ m', call env s (.getContent c) m = .error (.revert "ContentNotFound") m') ∧
        ∃ m', call env s (.checkAccess c address) m = .error (.revert "ContentNotFound") m'

theorem accessCode_lt (r : Option RightsType) : accessCode r < 2 ^ 8 := by
  rcases r with _ | r
  · decide
  · cases r <;> decide

section Register

variable {env : Ext AccountId μ ε} {s : State AccountId W} {m m' : μ} {c : U32} {address : Address}

theorem answer_checkAccess (hgas : env.chargeWeightToken (storageRead 3) m = .ok m') (hc : s.store.contents c ≠ none) :
    answer (Abi.uint 8) env s m (.checkAccess c address) =
      some ⟨accessCode (accessRights s c (env.toAccountId address)), accessCode_lt _⟩ :=
  answer_of_ok (call_checkAccess hgas hc) (abiWord_decodes (by decide) (accessCode_lt _))

theorem readsRegister {m₁ m₃ : μ} {xs : List (Terms AccountId)}
    (hgas₁ : env.chargeWeightToken (storageRead 1) m = .ok m₁)
    (hgas₃ : env.chargeWeightToken (storageRead 3) m = .ok m₃) (hrange : s.store.InRange)
    (hterms : s.store.OnTerms xs) (hblock : s.blockNumber ≤ u32Max) (hpacks : s.store.PacksFilled) :
    ReadsRegister env s xs c address m := by
  obtain ⟨sub, hsub, hsubv⟩ : ∃ a, answer flaggedAnswer env s m (.getSubscription c address) = some a ∧ _ :=
    answer_getSubscription hgas₁ hrange
  obtain ⟨pack, hpack, hpackv⟩ : ∃ a, answer flaggedAnswer env s m (.getViewPack c address) = some a ∧ _ :=
    answer_getViewPack hgas₁ hrange
  refine ⟨sub, pack, answer_isOwner hgas₁, hsub, hsubv, hpack, hpackv, ?_⟩
  have hx := hterms.terms c
  cases hxs : xs[c.val]? with
  | some x =>
      rw [hxs] at hx
      refine ⟨answer_getContent hgas₁ hx (hterms.valid c x hxs), ?_⟩
      obtain ⟨content, hc, _⟩ := Option.map_eq_some_iff.mp hx
      rw [answer_checkAccess hgas₃ (by rw [hc]; exact Option.some_ne_none _), accessFrom_eq hblock hpacks hsubv hpackv]
      rfl
  | none =>
      rw [hxs] at hx
      have hc : s.store.contents c = none := Option.map_eq_none_iff.mp hx
      exact ⟨⟨m₁, call_getContent_missing hgas₁ hc⟩, m₃, call_checkAccess_missing hgas₃ hc⟩

end Register

/-- In every reachable state a contract with enough gas for each query reads what the register holds: the rights of an
account, and the terms of a content as its creator set them. For a content that is not registered `getContent` and
`checkAccess` both revert with `ContentNotFound`. Otherwise the answer of `checkAccess` is the one that a contract can
tell from the other answers and the block number. -/
theorem contracts_read_the_register [DecidableEq AccountId] (cfg : Config AccountId W) (env : Ext AccountId μ ε)
    (c : U32) (address : Address) (m m₁ m₃ : μ) (hgas₁ : env.chargeWeightToken (storageRead 1) m = .ok m₁)
    (hgas₃ : env.chargeWeightToken (storageRead 3) m = .ok m₃) (n₀ : U32) (w₀ : W) (as : List (Action AccountId W)) :
    let r := (chain cfg).run (.init n₀ w₀) as
    ReadsRegister env r.2 (termsSet r.1) c address m :=
  readsRegister hgas₁ hgas₃ (run_inRange cfg n₀ w₀ as) (run_onTerms cfg n₀ w₀ as) (run_sound cfg n₀ w₀ as).block_le
    (run_packsFilled cfg n₀ w₀ as)

theorem ownerRun_is_read :
    let r := (chain (Reference.config 1 100)).run (.init 1 Reference.genesis) ownerRun
    ReadsRegister countingEnv r.2 (termsSet r.1) 0 (countingEnv.toAddress 2) 75000 ∧
      (termsSet r.1)[0]?.isSome = true ∧
      (r.2.store.ownership 0 (countingEnv.toAccountId (countingEnv.toAddress 2))).isSome = true ∧
      ReadsRegister countingEnv r.2 (termsSet r.1) 1 (countingEnv.toAddress 2) 75000 ∧ (termsSet r.1)[1]? = none :=
  ⟨contracts_read_the_register (Reference.config 1 100) countingEnv 0 (countingEnv.toAddress 2) 75000 50000 0 rfl rfl 1
    Reference.genesis ownerRun, by decide +kernel, by decide +kernel,
    contracts_read_the_register (Reference.config 1 100) countingEnv 1 (countingEnv.toAddress 2) 75000 50000 0 rfl rfl 1
    Reference.genesis ownerRun, by decide +kernel⟩

end Ccrms.Runtime
