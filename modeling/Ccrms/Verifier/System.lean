import Ccrms.Rights.Lemmas.Frame
import Ccrms.Rights.Reference
import Ccrms.Verifier.Window

/-!
# CCRMS, the relay chain and the verifying chain

The three chains run side by side, in any order of their steps. CCRMS finishes blocks, the relay chain includes their
headers, possibly much later, and the validators tell the verifying chain the relay parents of its blocks. Until CCRMS
is onboarded the relay chain holds no header of it. Callers of the verifier may hand in any proofs. What the collators
and the validators vouch for is a condition on the steps.
-/

namespace Ccrms.Verifier

open Ccrms.Lib Ccrms.Frame

variable {AccountId W : Type} {cfg : Config AccountId} {commits : Bytes32 → RawStorage → Prop}

/-! ## The chains -/

/-- A relay block, with the header of CCRMS that its state holds, if it holds one. -/
structure RelayBlock where
  number : U32
  root : Bytes32
  header : Option Header

structure System (cfg : Config AccountId) (W : Type) where
  rights : Rights.State AccountId W
  /-- The headers of the finished blocks of CCRMS. -/
  heads : List Header
  relay : List RelayBlock
  verifier : State cfg

inductive System.Action (AccountId W : Type) where
  | rights (a : Rights.Action AccountId W)
  /-- CCRMS finishes a block. -/
  | author (header : Header)
  | relay (block : RelayBlock)
  | verifier (a : Verifier.Action AccountId)

def System.init (cfg : Config AccountId) (n₀ : U32) (w₀ : W) : System cfg W := ⟨.init n₀ w₀, [], [], .init cfg⟩

/-- The three chains as one machine. Its trace lists the actions. -/
def system [DecidableEq AccountId] (rcfg : Rights.Config AccountId W) (cfg : Config AccountId) :
    Machine (System cfg W) (System.Action AccountId W) (System.Action AccountId W) where
  step s a :=
    (a, match a with
      | .rights a => { s with rights := ((Rights.chain rcfg).step s.rights a).2 }
      | .author header => { s with heads := s.heads ++ [header] }
      | .relay block => { s with relay := s.relay ++ [block] }
      | .verifier a => { s with verifier := ((chain cfg).step s.verifier a).2 })

/-- What a relay state stores for CCRMS in `Paras::Heads`: the encoded header, or nothing. -/
def HoldsHeader (cfg : Config AccountId) (raw : RawStorage) : Option Header → Prop
  | some header => ∃ headData : ByteVec, headData.toList = header.encode ∧
      raw (cfg.hashing.twox64MapKey parasName headsName (Scale.leBytes 4 cfg.rightsParaId)) = some headData.encode
  | none => raw (cfg.hashing.twox64MapKey parasName headsName (Scale.leBytes 4 cfg.rightsParaId)) = none

/-- The root of the relay block commits to a relay state with the header of CCRMS that the block names. -/
def RelayBlock.Holds (cfg : Config AccountId) (commits : Bytes32 → RawStorage → Prop) (block : RelayBlock) : Prop :=
  ∃ raw, commits block.root raw ∧ HoldsHeader cfg raw block.header

/-- What the collators of CCRMS, the relay chain and the validators vouch for: a header is that of the current state of
CCRMS, a relay block holds the header of a finished block or none at all, and a relay parent is a relay block. -/
def Vouched (cfg : Config AccountId) (commits : Bytes32 → RawStorage → Prop) (s : System cfg W) :
    System.Action AccountId W → Prop
  | .author header => HasState cfg commits header s.rights
  | .relay block => (∀ header ∈ block.header, header ∈ s.heads) ∧ block.Holds cfg commits
  | .verifier (.finalize (some p)) => ∃ block ∈ s.relay, p = (block.number, block.root)
  | _ => True

/-- The actions of CCRMS in a run. -/
def rightsActions (as : List (System.Action AccountId W)) : List (Rights.Action AccountId W) :=
  as.filterMap fun
    | .rights a => some a
    | _ => none

/-! ## What a report says -/

/-- The event is true in a state of CCRMS. -/
def Event.TrueIn (s : Rights.State AccountId W) : Event AccountId → Prop
  | .ownershipVerified c w isOwner _ rightsBlock =>
      s.blockNumber = rightsBlock ∧ isOwner = (s.store.ownership c w).isSome
  | .subscriptionVerified c w isActive expiryBlock _ rightsBlock =>
      s.blockNumber = rightsBlock ∧ isActive = Rights.subscriptionActive s c w ∧
        expiryBlock = ((s.store.subscriptions c w).map fun sub => sub.expiryBlock).getD 0
  | .viewPackVerified c w hasViews viewsRemaining _ rightsBlock =>
      s.blockNumber = rightsBlock ∧ hasViews = decide (0 < viewsRemaining) ∧
        viewsRemaining = ((s.store.viewPacks c w).map fun pack => pack.viewsRemaining).getD 0

def Call.relayBlock : Call AccountId → U32
  | .verifyOwnership relayBlock .. => relayBlock
  | .verifySubscription relayBlock .. => relayBlock
  | .verifyViewPack relayBlock .. => relayBlock

def Call.relayProof : Call AccountId → List Bytes
  | .verifyOwnership _ relayProof .. => relayProof
  | .verifySubscription _ relayProof .. => relayProof
  | .verifyViewPack _ relayProof .. => relayProof

/-- A relay proof that the trie reader can read shows that there is no header. -/
theorem rightsState_of_no_head (htrie : TrieSound cfg commits)
    (hparas : cfg.hashing.storagePrefix parasName headsName = paraHeadPrefix) {v : State cfg} {relayBlock : U32}
    {root : Bytes32} (hroot : (relayBlock, root) ∈ v.relayRoots.toList) {raw : RawStorage} (hraw : commits root raw)
    (hnone : HoldsHeader cfg raw none) (relayProof : List Bytes) :
    rightsState cfg relayBlock relayProof v = .error (.pallet
      (if (cfg.readTrieValue root relayProof (paraHeadKey cfg cfg.rightsParaId)).isSome then .noRightsHead
      else .invalidProof)) v := by
  rw [rightsState_of_mem hroot]
  cases hread : cfg.readTrieValue root relayProof (paraHeadKey cfg cfg.rightsParaId) with
  | none => exact Exec.okOr_bind_not hread _ _ v
  | some value =>
      have hvalue := htrie _ _ _ _ _ hraw hread
      rw [paraHeadKey_eq hparas, hnone] at hvalue
      exact (Exec.okOr_bind_of hread _ _ v).trans (Exec.okOr_bind_not hvalue _ _ v)

/-- A call that succeeds has found the state of CCRMS. -/
theorem verifyEntry_state {origin : Origin AccountId} {relayBlock : U32} {relayProof rightsProof : List Bytes}
    {storageName : Bytes} {c : U32} {w : AccountId} {judge : Option Bytes → U32 → Option (Event AccountId)}
    {v v' : State cfg} {u : Unit}
    (h : verifyEntry cfg origin relayBlock relayProof rightsProof storageName c w judge v = .ok u v') :
    ∃ p v₁, rightsState cfg relayBlock relayProof v = .ok p v₁ := by
  cases origin with
  | signed _ =>
      obtain ⟨_, _, hread, _⟩ := Exec.bind_ok.mp h
      obtain ⟨_, hread⟩ := Exec.ensure_bind_ok.mp hread
      obtain ⟨p, v₁, hstate, _⟩ := Exec.bind_ok.mp hread
      exact ⟨p, v₁, hstate⟩
  | root => cases h
  | none => cases h

theorem Call.body_state {origin : Origin AccountId} {call : Call AccountId} {v v' : State cfg} {u : Unit}
    (h : call.body cfg origin v = .ok u v') : ∃ p v₁, rightsState cfg call.relayBlock call.relayProof v = .ok p v₁ := by
  cases call with
  | verifyOwnership =>
      rw [Call.body, Verifier.verifyOwnership] at h
      exact verifyEntry_state h
  | verifySubscription =>
      rw [Call.body, Verifier.verifySubscription] at h
      exact verifyEntry_state h
  | verifyViewPack =>
      rw [Call.body, Verifier.verifyViewPack] at h
      exact verifyEntry_state h

/-- A call that succeeds reports what is true in the state of CCRMS that the relay block leads to. -/
theorem Call.body_true (htrie : TrieSound cfg commits)
    (hparas : cfg.hashing.storagePrefix parasName headsName = paraHeadPrefix) {origin : Origin AccountId}
    {call : Call AccountId} {v v' : State cfg} {header : Header} {s : Rights.State AccountId W} {u : Unit}
    (hincluded : Included cfg commits v call.relayBlock header) (hstate : HasState cfg commits header s)
    (hrange : s.store.InRange) (h : call.body cfg origin v = .ok u v') :
    ∃ e : Event AccountId, v'.events = v.events ++ [e] ∧ e.TrueIn s := by
  have hnumber := hstate.1
  cases call with
  | verifyOwnership relayBlock relayProof rightsProof c w =>
      obtain ⟨_, rfl⟩ :=
        (verifyOwnership_yields htrie hparas hincluded hstate hrange origin relayProof rightsProof c w).ok h
      exact ⟨_, rfl, hnumber, rfl⟩
  | verifySubscription relayBlock relayProof rightsProof c w =>
      obtain ⟨_, rfl⟩ :=
        (verifySubscription_yields htrie hparas hincluded hstate hrange origin relayProof rightsProof c w).ok h
      exact ⟨_, rfl, hnumber, rfl, rfl⟩
  | verifyViewPack relayBlock relayProof rightsProof c w =>
      obtain ⟨_, rfl⟩ :=
        (verifyViewPack_yields htrie hparas hincluded hstate hrange origin relayProof rightsProof c w).ok h
      exact ⟨_, rfl, hnumber, rfl, rfl⟩

/-! ## Runs -/

section Runs

variable [DecidableEq AccountId] {rcfg : Rights.Config AccountId W} {n₀ : U32} {w₀ : W}

/-- What links the chains after a run with the actions `ras` of CCRMS: the headers are those of states that CCRMS went
through, and every report is true in such a state. -/
structure Linked (rcfg : Rights.Config AccountId W) (commits : Bytes32 → RawStorage → Prop) (n₀ : U32) (w₀ : W)
    (ras : List (Rights.Action AccountId W)) (s : System cfg W) : Prop where
  rights : s.rights = ((Rights.chain rcfg).run (.init n₀ w₀) ras).2
  heads : ∀ header ∈ s.heads, ∃ as₁, as₁ <+: ras ∧
    HasState cfg commits header ((Rights.chain rcfg).run (.init n₀ w₀) as₁).2
  relay : ∀ block ∈ s.relay, (∀ header ∈ block.header, header ∈ s.heads) ∧ block.Holds cfg commits
  roots : ∀ p ∈ s.verifier.relayRoots.toList, ∃ block ∈ s.relay, p = (block.number, block.root)
  reports : ∀ e ∈ s.verifier.events, ∃ as₁, as₁ <+: ras ∧
    e.TrueIn ((Rights.chain rcfg).run (.init n₀ w₀) as₁).2

namespace Linked

variable {ras : List (Rights.Action AccountId W)} {s : System cfg W}

/-- What is known of a recorded relay block: if it holds a header, it is that of a state that CCRMS went through. -/
theorem recorded (h : Linked rcfg commits n₀ w₀ ras s) {relayBlock : U32}
    (hr : relayBlock ∈ s.verifier.relayRoots.toList.map Prod.fst) :
    ∃ block ∈ s.relay, relayBlock = block.number ∧ (block.number, block.root) ∈ s.verifier.relayRoots.toList ∧
      block.Holds cfg commits ∧ ∀ header ∈ block.header, ∃ as₁, as₁ <+: ras ∧
        HasState cfg commits header ((Rights.chain rcfg).run (.init n₀ w₀) as₁).2 := by
  obtain ⟨p, hp, rfl⟩ := List.mem_map.mp hr
  obtain ⟨block, hblock, rfl⟩ := h.roots p hp
  obtain ⟨hheads, hholds⟩ := h.relay block hblock
  exact ⟨block, hblock, rfl, hp, hholds, fun header hh => h.heads header (hheads header hh)⟩

/-- A relay block from which a call finds the state of CCRMS is recorded and holds a header. -/
theorem included (h : Linked rcfg commits n₀ w₀ ras s) (htrie : TrieSound cfg commits)
    (hparas : cfg.hashing.storagePrefix parasName headsName = paraHeadPrefix) {relayBlock : U32}
    {relayProof : List Bytes} {p : Bytes32 × U32} {v₁ : State cfg}
    (hfound : rightsState cfg relayBlock relayProof s.verifier = .ok p v₁) :
    ∃ header as₁, Included cfg commits s.verifier relayBlock header ∧ as₁ <+: ras ∧
      HasState cfg commits header ((Rights.chain rcfg).run (.init n₀ w₀) as₁).2 := by
  by_cases hr : relayBlock ∈ s.verifier.relayRoots.toList.map Prod.fst
  · obtain ⟨⟨n, root, header⟩, _, rfl, hroot, ⟨raw, hraw, hheader⟩, hstate⟩ := h.recorded hr
    cases header with
    | none =>
        rw [rightsState_of_no_head htrie hparas hroot hraw hheader] at hfound
        cases hfound
    | some header =>
        obtain ⟨as₁, hpre, hstate⟩ := hstate header rfl
        exact ⟨header, as₁, ⟨root, raw, hroot, hraw, hheader⟩, hpre, hstate⟩
  · rw [rightsState_of_not_mem hr] at hfound
    cases hfound

theorem rights_step (h : Linked rcfg commits n₀ w₀ ras s) (a : Rights.Action AccountId W) :
    Linked rcfg commits n₀ w₀ (ras ++ [a]) { s with rights := ((Rights.chain rcfg).step s.rights a).2 } where
  rights := by rw [Machine.run_snoc, h.rights]
  heads header hh := by
    obtain ⟨as₁, hpre, hstate⟩ := h.heads header hh
    exact ⟨as₁, hpre.trans (List.prefix_append _ _), hstate⟩
  relay := h.relay
  roots := h.roots
  reports e he := by
    obtain ⟨as₁, hpre, htrue⟩ := h.reports e he
    exact ⟨as₁, hpre.trans (List.prefix_append _ _), htrue⟩

theorem author_step (h : Linked rcfg commits n₀ w₀ ras s) {header : Header}
    (hstate : HasState cfg commits header s.rights) :
    Linked rcfg commits n₀ w₀ ras { s with heads := s.heads ++ [header] } where
  rights := h.rights
  heads header' hh := by
    rcases List.mem_append.mp hh with hh | hh
    · exact h.heads header' hh
    · rw [List.mem_singleton.mp hh]
      exact ⟨ras, List.prefix_rfl, h.rights ▸ hstate⟩
  relay block hb := by
    obtain ⟨hheads, hholds⟩ := h.relay block hb
    exact ⟨fun header hh => List.mem_append_left _ (hheads header hh), hholds⟩
  roots := h.roots
  reports := h.reports

theorem relay_step (h : Linked rcfg commits n₀ w₀ ras s) {block : RelayBlock}
    (hheads : ∀ header ∈ block.header, header ∈ s.heads) (hholds : block.Holds cfg commits) :
    Linked rcfg commits n₀ w₀ ras { s with relay := s.relay ++ [block] } where
  rights := h.rights
  heads := h.heads
  relay block' hb := by
    rcases List.mem_append.mp hb with hb | hb
    · exact h.relay block' hb
    · rw [List.mem_singleton.mp hb]
      exact ⟨hheads, hholds⟩
  roots p hp := by
    obtain ⟨block', hb, hp⟩ := h.roots p hp
    exact ⟨block', List.mem_append_left _ hb, hp⟩
  reports := h.reports

/-- A relay parent is recorded, or it was recorded before; nothing else gets into the window. -/
theorem finalize_step (h : Linked rcfg commits n₀ w₀ ras s) {current : Option (U32 × Bytes32)}
    (hcurrent : ∀ p ∈ current, ∃ block ∈ s.relay, p = (block.number, block.root)) :
    Linked rcfg commits n₀ w₀ ras { s with verifier := onFinalize cfg current s.verifier } := by
  cases current with
  | none => exact h
  | some p =>
      refine ⟨h.rights, h.heads, h.relay, ?_, ?_⟩
      · intro q hq
        have hq : q ∈ Window.record Prod.fst cfg.maxRelayRoots s.verifier.relayRoots.toList p :=
          recordRelayRoot_toList p s.verifier ▸ hq
        rcases Window.mem_record hq with hq | rfl
        · exact h.roots q hq
        · exact hcurrent q rfl
      · have hevents : (onFinalize cfg (some p) s.verifier).events = s.verifier.events := by
          unfold onFinalize recordRelayRoot
          dsimp only
          split
          · rfl
          · rfl
        intro e he
        rw [hevents] at he
        exact h.reports e he

theorem call_step (h : Linked rcfg commits n₀ w₀ ras s) (htrie : TrieSound cfg commits)
    (hparas : cfg.hashing.storagePrefix parasName headsName = paraHeadPrefix) (origin : Origin AccountId)
    (call : Call AccountId) :
    Linked rcfg commits n₀ w₀ ras
      { s with verifier := ((chain cfg).step s.verifier (.extrinsic origin call)).2 } := by
  have hroots := step_relayRoots s.verifier (.extrinsic origin call)
  simp only [Action.parent, Option.toList_none, List.foldl_nil] at hroots
  refine ⟨h.rights, h.heads, h.relay, fun p hp => h.roots p (hroots ▸ hp), ?_⟩
  intro e he
  simp only [chain] at he
  cases hd : dispatch cfg origin call s.verifier with
  | error err v' =>
      rw [hd] at he
      rw [Exec.withStorageLayer_error hd] at he
      exact h.reports e he
  | ok u v' =>
      rw [hd] at he
      have hbody := Exec.withStorageLayer_ok.mp hd
      obtain ⟨_, _, hfound⟩ := Call.body_state hbody
      obtain ⟨header, as₁, hincluded, hpre, hstate⟩ := h.included htrie hparas hfound
      obtain ⟨e', hevents, htrue⟩ := Call.body_true htrie hparas hincluded hstate
        (Rights.run_inRange rcfg n₀ w₀ as₁) hbody
      rw [hevents] at he
      rcases List.mem_append.mp he with he | he
      · exact h.reports e he
      · rw [List.mem_singleton.mp he]
        exact ⟨as₁, hpre, htrue⟩

theorem init : Linked rcfg commits n₀ w₀ [] (System.init cfg n₀ w₀) where
  rights := rfl
  heads _ h := by cases h
  relay _ h := by cases h
  roots _ h := by cases h
  reports _ h := by cases h

theorem step (h : Linked rcfg commits n₀ w₀ ras s) (htrie : TrieSound cfg commits)
    (hparas : cfg.hashing.storagePrefix parasName headsName = paraHeadPrefix) {a : System.Action AccountId W}
    (ha : Vouched cfg commits s a) :
    Linked rcfg commits n₀ w₀ (ras ++ rightsActions [a]) ((system rcfg cfg).step s a).2 := by
  have hsame : ras ++ [] = ras := List.append_nil ras
  cases a with
  | rights a => exact h.rights_step a
  | author header => exact hsame.symm ▸ h.author_step ha
  | relay block => exact hsame.symm ▸ h.relay_step ha.1 ha.2
  | verifier a =>
      cases a with
      | extrinsic origin call => exact hsame.symm ▸ h.call_step htrie hparas origin call
      | finalize current =>
          refine hsame.symm ▸ h.finalize_step fun p hp => ?_
          cases hp
          exact ha

end Linked

theorem run_linked (htrie : TrieSound cfg commits)
    (hparas : cfg.hashing.storagePrefix parasName headsName = paraHeadPrefix) (as : List (System.Action AccountId W))
    (ha : (system rcfg cfg).Along (Vouched cfg commits) (.init cfg n₀ w₀) as) :
    Linked rcfg commits n₀ w₀ (rightsActions as) ((system rcfg cfg).run (.init cfg n₀ w₀) as).2 := by
  induction as using List.reverseRecOn with
  | nil => exact .init
  | append_singleton as a ih =>
      rw [Machine.along_snoc] at ha
      rw [Machine.run_snoc, rightsActions, List.filterMap_append]
      exact (ih ha.1).step htrie hparas ha.2

end Runs

/-! ## A report on the reference chains

CCRMS is the pallet over the reference runtime. In block 50 account 2 subscribes to content 0 for 50 blocks, and
account 1 proves it on the verifying chain. -/

namespace Reference

instance instNeZeroAccount : NeZero (2 ^ 64) := ⟨by decide⟩

abbrev World := Frame.Reference.World Account

def rightsConfig : Rights.Config Account World where
  currency := Frame.Reference.currency 1
  maxBalance := u128Max
  nfts := Frame.Reference.nfts 2
  collectionDeposit := 2
  keyLimit := 50
  valueLimit := 50
  minAutoRenewPeriod := 10
  decodeAccount b := ((Rights.Reference.config 1 10).decodeAccount b).map (Fin.ofNat _)

def genesis : World := .genesis fun _ => 1000000

def subscribingRun : List (Rights.Action Account World) :=
  [.extrinsic (.signed 1) (.registerContent (Vector.replicate 32 0) .empty 100 10 500 50),
    .extrinsic (.signed 2) (.subscribe 0)]

def reportingRun : List (System.Action Account World) :=
  subscribingRun.map .rights ++
    [.author header, .relay ⟨1000, relayRoot, some header⟩, .verifier (.finalize (some (1000, relayRoot))),
      .verifier (.extrinsic (.signed 1) (.verifySubscription 1000 relayProof rightsProof 0 2)), .rights .nextBlock]

theorem subscribingRun_hasState :
    HasState config CommitsTo header ((Rights.chain rightsConfig).run (.init 50 genesis) subscribingRun).2 := by
  obtain ⟨_, raw, hraw, hstored⟩ := hasState
  refine ⟨by decide +kernel, raw, hraw, ?_, ?_, ?_⟩
  · exact hstored.subscriptions
  · exact hstored.viewPacks
  · exact hstored.ownership

theorem reportingRun_vouched :
    (system rightsConfig config).Along (Vouched config CommitsTo) (.init config 50 genesis) reportingRun := by
  have hheads : ∀ h ∈ some header, h ∈ [header] := fun h hh => Option.some.inj hh ▸ List.mem_singleton_self _
  have hholds : RelayBlock.Holds config CommitsTo ⟨1000, relayRoot, some header⟩ :=
    ⟨relayRaw, Or.inl ⟨rfl, rfl⟩, headData, rfl, if_pos rfl⟩
  exact ⟨trivial, trivial, subscribingRun_hasState, ⟨hheads, hholds⟩, ⟨_, List.mem_singleton_self _, rfl⟩, trivial,
    trivial, trivial⟩

theorem reportingRun_reports :
    ((system rightsConfig config).run (.init config 50 genesis) reportingRun).2.verifier.events =
      [.subscriptionVerified 0 2 true 100 1000 50] := by
  decide +kernel

end Reference

/-- Every report of the verifier is true in a state that CCRMS went through, at the block that the report names. This
holds in every order of the steps of the three chains and for all proofs that callers hand in, as long as headers,
relay blocks and relay parents are what the collators and the validators vouch for. -/
theorem reports_are_true [DecidableEq AccountId] (rcfg : Rights.Config AccountId W) (cfg : Config AccountId)
    (commits : Bytes32 → RawStorage → Prop) (htrie : TrieSound cfg commits)
    (hparas : cfg.hashing.storagePrefix parasName headsName = paraHeadPrefix) (n₀ : U32) (w₀ : W)
    (as : List (System.Action AccountId W))
    (ha : (system rcfg cfg).Along (Vouched cfg commits) (.init cfg n₀ w₀) as) :
    ∀ e ∈ ((system rcfg cfg).run (.init cfg n₀ w₀) as).2.verifier.events,
      ∃ as₁ as₂, rightsActions as = as₁ ++ as₂ ∧ e.TrueIn ((Rights.chain rcfg).run (.init n₀ w₀) as₁).2 := by
  intro e he
  obtain ⟨as₁, ⟨as₂, heq⟩, htrue⟩ := (run_linked htrie hparas as ha).reports e he
  exact ⟨as₁, as₂, heq.symm, htrue⟩

theorem reportingRun_is_true :
    ∃ as₁ as₂, rightsActions Reference.reportingRun = as₁ ++ as₂ ∧
      (Event.subscriptionVerified 0 2 true 100 1000 50).TrueIn
        ((Rights.chain Reference.rightsConfig).run (.init 50 Reference.genesis) as₁).2 :=
  reports_are_true Reference.rightsConfig Reference.config Reference.CommitsTo Reference.trieSound
    (by decide +kernel) 50 Reference.genesis Reference.reportingRun Reference.reportingRun_vouched _
    (Reference.reportingRun_reports ▸ List.mem_singleton_self _)

/-- A subscription that was reported active is good until the reported expiry. In every later state CCRMS still has it,
with no earlier expiry, and `access_rights` grants access before the reported expiry. -/
theorem active_reports_stay_good [DecidableEq AccountId] (rcfg : Rights.Config AccountId W) (cfg : Config AccountId)
    (commits : Bytes32 → RawStorage → Prop) (htrie : TrieSound cfg commits)
    (hparas : cfg.hashing.storagePrefix parasName headsName = paraHeadPrefix) (n₀ : U32) (w₀ : W)
    (as : List (System.Action AccountId W))
    (ha : (system rcfg cfg).Along (Vouched cfg commits) (.init cfg n₀ w₀) as) (c : Nat) (w : AccountId)
    (expiryBlock relayBlock rightsBlock : Nat) :
    let s := ((system rcfg cfg).run (.init cfg n₀ w₀) as).2
    .subscriptionVerified c w true expiryBlock relayBlock rightsBlock ∈ s.verifier.events →
      (∃ sub, s.rights.store.subscriptions c w = some sub ∧ expiryBlock ≤ sub.expiryBlock) ∧
      (s.rights.blockNumber < expiryBlock → (Rights.accessRights s.rights c w).isSome = true) := by
  intro s he
  have hlinked := run_linked htrie hparas as ha
  obtain ⟨as₁, ⟨as₂, hsplit⟩, _, hactive, hexpiry⟩ := hlinked.reports _ he
  have hrights : s.rights = ((Rights.chain rcfg).run ((Rights.chain rcfg).run (.init n₀ w₀) as₁).2 as₂).2 := by
    rw [hlinked.rights, ← hsplit, Machine.run_append]
  obtain ⟨sub, hsub⟩ : ∃ sub, ((Rights.chain rcfg).run (.init n₀ w₀) as₁).2.store.subscriptions c w = some sub := by
    cases hsub : ((Rights.chain rcfg).run (.init n₀ w₀) as₁).2.store.subscriptions c w with
    | none => simp [Rights.subscriptionActive, hsub] at hactive
    | some sub => exact ⟨sub, rfl⟩
  have hkeeps : Rights.Renewals.Keeps _ ((Rights.chain rcfg).run _ as₂).2.store.renewals :=
    Rights.run_keeps (Rights.run_sound rcfg n₀ w₀ as₁) as₂
  obtain ⟨sub', hsub', hle⟩ := hkeeps c w sub hsub
  have hexpiry : expiryBlock = sub.expiryBlock := by simpa [hsub] using hexpiry
  have hnow : s.rights.now = s.rights.blockNumber := by
    rw [hlinked.rights]
    exact Rights.now_eq (Rights.run_sound rcfg n₀ w₀ _).block_le
  have hsub' : s.rights.store.subscriptions c w = some sub' := by rw [hrights]; exact hsub'
  refine ⟨⟨sub', hsub', by omega⟩, ?_⟩
  intro hlt
  have hgood : Rights.subscriptionActive s.rights c w = true := by
    rw [Rights.subscriptionActive, hsub', hnow, decide_eq_true_eq]
    omega
  rw [Rights.accessRights, hgood]
  split
  · rfl
  · rfl

theorem reportingRun_stays_good :
    let s := ((system Reference.rightsConfig Reference.config).run (.init Reference.config 50 Reference.genesis)
      Reference.reportingRun).2
    s.rights.blockNumber = 51 ∧ (Rights.accessRights s.rights 0 2).isSome = true := by
  have hblock : ((system Reference.rightsConfig Reference.config).run (.init Reference.config 50 Reference.genesis)
      Reference.reportingRun).2.rights.blockNumber = 51 := by
    decide +kernel
  refine ⟨hblock, ?_⟩
  refine (active_reports_stay_good Reference.rightsConfig Reference.config Reference.CommitsTo Reference.trieSound
    (by decide +kernel) 50 Reference.genesis Reference.reportingRun Reference.reportingRun_vouched 0 2 100 1000 50
    (Reference.reportingRun_reports ▸ List.mem_singleton_self _)).2 ?_
  rw [hblock]
  decide

end Ccrms.Verifier
