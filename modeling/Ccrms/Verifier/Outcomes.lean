import Ccrms.Verifier.System

/-!
# When a verification succeeds

On every reachable state of the three chains a call of the verifier is decided by the size of its proofs, the window of
relay roots, the relay block and the trie reader alone. `NoRightsHead` is for relay blocks that hold no header of CCRMS.
Every header and every entry decodes, so the error `DecodingFailed` does not occur.
-/

namespace Ccrms.Verifier

open Ccrms.Lib Ccrms.Frame

variable {AccountId W : Type} {cfg : Config AccountId} {commits : Bytes32 → RawStorage → Prop}

/-! ## What a call asks for -/

def Call.rightsProof : Call AccountId → List Bytes
  | .verifyOwnership _ _ rightsProof .. => rightsProof
  | .verifySubscription _ _ rightsProof .. => rightsProof
  | .verifyViewPack _ _ rightsProof .. => rightsProof

/-- The key of the entry that a call is about. -/
def Call.entryKey (cfg : Config AccountId) : Call AccountId → Bytes
  | .verifyOwnership _ _ _ c w => contentRightsKey cfg Rights.ownershipName c w
  | .verifySubscription _ _ _ c w => contentRightsKey cfg Rights.subscriptionsName c w
  | .verifyViewPack _ _ _ c w => contentRightsKey cfg Rights.viewPacksName c w

/-- The size of the two proofs of a call. -/
def Call.size (call : Call AccountId) : Nat := ((call.relayProof ++ call.rightsProof).map List.length).sum

/-- The trie reader can read the relay proof of a call. -/
def Call.headReadable (cfg : Config AccountId) (relayRoot : Bytes32) (call : Call AccountId) : Bool :=
  (cfg.readTrieValue relayRoot call.relayProof (paraHeadKey cfg cfg.rightsParaId)).isSome

/-- The trie reader can read both proofs of a call. -/
def Call.readable (cfg : Config AccountId) (relayRoot stateRoot : Bytes32) (call : Call AccountId) : Bool :=
  call.headReadable cfg relayRoot && (cfg.readTrieValue stateRoot call.rightsProof (call.entryKey cfg)).isSome

/-- What a call reports if CCRMS is in the state `s` at the block `n`. -/
def Call.report (s : Rights.State AccountId W) (n : Nat) : Call AccountId → Event AccountId
  | .verifyOwnership relayBlock _ _ c w => .ownershipVerified c w (s.store.ownership c w).isSome relayBlock n
  | .verifySubscription relayBlock _ _ c w => .subscriptionVerified c w (Rights.subscriptionActive s c w)
      (((s.store.subscriptions c w).map fun sub => sub.expiryBlock).getD 0) relayBlock n
  | .verifyViewPack relayBlock _ _ c w => .viewPackVerified c w
      (0 < ((s.store.viewPacks c w).map fun pack => pack.viewsRemaining).getD 0)
      (((s.store.viewPacks c w).map fun pack => pack.viewsRemaining).getD 0) relayBlock n

/-! ## The size of the proofs -/

/-- The saturating sum is the sum, up to the bound of the type. -/
theorem foldl_satAdd32 (nodes : List Bytes) (acc : Nat) (hacc : acc ≤ u32Max) :
    nodes.foldl (fun acc node => satAdd32 acc node.length) acc = min (acc + (nodes.map List.length).sum) u32Max := by
  induction nodes generalizing acc with
  | nil => simp [Nat.min_eq_left hacc]
  | cons node nodes ih =>
      rw [List.foldl_cons, ih _ (satAdd32_le_max ..), List.map_cons, List.sum_cons, satAdd32]
      omega

theorem proofBytes_le_iff (call : Call AccountId) :
    proofBytes call.relayProof call.rightsProof ≤ maxProofBytes ↔ call.size ≤ maxProofBytes := by
  rw [proofBytes, foldl_satAdd32 _ _ (Nat.zero_le _), Nat.zero_add, ← Call.size]
  have hmax : maxProofBytes < u32Max := by decide
  omega

/-! ## Reading -/

section Reading

variable {v : State cfg} {relayBlock : U32} {relayProof rightsProof : List Bytes} {storageName : Bytes} {c : U32}
  {w : AccountId}

/-- A relay proof that the trie reader can read leads to the header of CCRMS. -/
theorem rightsState_of_read (htrie : TrieSound cfg commits)
    (hparas : cfg.hashing.storagePrefix parasName headsName = paraHeadPrefix) {root : Bytes32}
    (hroot : (relayBlock, root) ∈ v.relayRoots.toList) {raw : RawStorage} (hraw : commits root raw) {header : Header}
    (hheader : HoldsHeader cfg raw (some header)) {value : Option Bytes}
    (hread : cfg.readTrieValue root relayProof (paraHeadKey cfg cfg.rightsParaId) = some value) :
    rightsState cfg relayBlock relayProof v = .ok (header.stateRoot, header.number) v := by
  obtain ⟨headData, hdata, hhead⟩ := hheader
  have hvalue := htrie _ _ _ _ _ hraw hread
  rw [paraHeadKey_eq hparas, hhead] at hvalue
  have hvec : Scale.decode ByteVec.decoder headData.encode = some headData :=
    Scale.decode_of_decodes headData.decodes
  have hheader : Scale.decode Header.decoder headData.toList = some header := by
    rw [hdata]
    exact Scale.decode_of_decodes header.decodes
  rw [rightsState_of_mem hroot]
  refine (Exec.okOr_bind_of hread _ _ v).trans ((Exec.okOr_bind_of hvalue _ _ v).trans ?_)
  exact (Exec.okOr_bind_of hvec _ _ v).trans (Exec.okOr_bind_of hheader _ _ v)

theorem rightsState_of_unread {root : Bytes32} (hroot : (relayBlock, root) ∈ v.relayRoots.toList)
    (hread : cfg.readTrieValue root relayProof (paraHeadKey cfg cfg.rightsParaId) = none) :
    rightsState cfg relayBlock relayProof v = .error (.pallet .invalidProof) v := by
  rw [rightsState_of_mem hroot]
  exact Exec.okOr_bind_not hread _ _ v

theorem readRightsEntry_of_error (hsize : proofBytes relayProof rightsProof ≤ maxProofBytes)
    {e : DispatchError Error} (hstate : rightsState cfg relayBlock relayProof v = .error e v) :
    readRightsEntry cfg relayBlock relayProof rightsProof storageName c w v = .error e v :=
  (Exec.ensure_bind_of hsize _ _ v).trans (Exec.bind_of_error hstate _)

/-- What a call does with an entry, once it has found the state of CCRMS. -/
theorem readRightsEntry_of_read (hsize : proofBytes relayProof rightsProof ≤ maxProofBytes) {stateRoot : Bytes32}
    {n : U32} (hstate : rightsState cfg relayBlock relayProof v = .ok (stateRoot, n) v) (storageName : Bytes)
    (c : U32) (w : AccountId) :
    readRightsEntry cfg relayBlock relayProof rightsProof storageName c w v =
      match cfg.readTrieValue stateRoot rightsProof (contentRightsKey cfg storageName c w) with
      | some value => .ok (value, n) v
      | none => .error (.pallet .invalidProof) v := by
  refine (Exec.ensure_bind_of hsize _ _ v).trans ((Exec.bind_of_ok hstate _).trans ?_)
  cases hread : cfg.readTrieValue stateRoot rightsProof (contentRightsKey cfg storageName c w) with
  | none => exact Exec.okOr_bind_not hread _ _ v
  | some value => exact Exec.okOr_bind_of hread _ _ v

end Reading

/-! ## Calls -/

section Calls

variable {v : State cfg} {who : AccountId}

/-- The three calls have one body. -/
theorem Call.body_eq (cfg : Config AccountId) (origin : Origin AccountId) (call : Call AccountId) :
    ∃ storageName c w judge, call.entryKey cfg = contentRightsKey cfg storageName c w ∧ call.body cfg origin =
      verifyEntry cfg origin call.relayBlock call.relayProof call.rightsProof storageName c w judge := by
  cases call with
  | verifyOwnership =>
      rw [Call.body, Verifier.verifyOwnership]
      exact ⟨_, _, _, _, rfl, rfl⟩
  | verifySubscription =>
      rw [Call.body, Verifier.verifySubscription]
      exact ⟨_, _, _, _, rfl, rfl⟩
  | verifyViewPack =>
      rw [Call.body, Verifier.verifyViewPack]
      exact ⟨_, _, _, _, rfl, rfl⟩

theorem Call.body_tooLarge {call : Call AccountId} (hsize : maxProofBytes < call.size) :
    call.body cfg (.signed who) v = .error (.pallet .proofTooLarge) v := by
  obtain ⟨storageName, c, w, judge, _, hbody⟩ := Call.body_eq cfg (.signed who) call
  have hsize : ¬ proofBytes call.relayProof call.rightsProof ≤ maxProofBytes := by
    rw [proofBytes_le_iff]
    omega
  rw [hbody]
  exact Exec.bind_of_error (Exec.ensure_bind_not hsize _ _ v) _

/-- A call that does not find the state of CCRMS. -/
theorem Call.body_of_error {call : Call AccountId} (hsize : call.size ≤ maxProofBytes) {e : DispatchError Error}
    (hstate : rightsState cfg call.relayBlock call.relayProof v = .error e v) :
    call.body cfg (.signed who) v = .error e v := by
  obtain ⟨storageName, c, w, judge, _, hbody⟩ := Call.body_eq cfg (.signed who) call
  rw [hbody]
  exact Exec.bind_of_error (readRightsEntry_of_error ((proofBytes_le_iff call).mpr hsize) hstate) _

/-- A call for a recorded relay block with a header succeeds if the trie reader can read its proofs, and fails with
`InvalidProof` if not. The only other error would be one of decoding. -/
theorem Call.body_of_mem {call : Call AccountId} (htrie : TrieSound cfg commits)
    (hparas : cfg.hashing.storagePrefix parasName headsName = paraHeadPrefix) (hsize : call.size ≤ maxProofBytes)
    {root : Bytes32} (hroot : (call.relayBlock, root) ∈ v.relayRoots.toList) {raw : RawStorage}
    (hraw : commits root raw) {header : Header} (hheader : HoldsHeader cfg raw (some header))
    (hdecodes : ∀ e v', call.body cfg (.signed who) v = .error e v' → e ≠ .pallet .decodingFailed) :
    if call.readable cfg root header.stateRoot then ∃ v', call.body cfg (.signed who) v = .ok () v'
    else call.body cfg (.signed who) v = .error (.pallet .invalidProof) v := by
  obtain ⟨storageName, c, w, judge, hkey, hbody⟩ := Call.body_eq cfg (.signed who) call
  have hproofs := (proofBytes_le_iff call).mpr hsize
  simp only [Call.readable, Call.headReadable, hkey]
  cases hrelay : cfg.readTrieValue root call.relayProof (paraHeadKey cfg cfg.rightsParaId) with
  | none =>
      rw [if_neg (by simp)]
      exact Call.body_of_error hsize (rightsState_of_unread hroot hrelay)
  | some head =>
      rw [hbody] at hdecodes ⊢
      have hstate := rightsState_of_read htrie hparas hroot hraw hheader hrelay
      have hentry := readRightsEntry_of_read hproofs hstate storageName c w
      cases hrights : cfg.readTrieValue header.stateRoot call.rightsProof (contentRightsKey cfg storageName c w) with
      | none =>
          rw [hrights] at hentry
          rw [if_neg (by simp)]
          exact Exec.bind_of_error hentry _
      | some value =>
          rw [hrights] at hentry
          rw [if_pos (by simp)]
          cases hevent : judge value header.number with
          | none =>
              refine absurd rfl (hdecodes (.pallet .decodingFailed) v ?_)
              exact (Exec.bind_of_ok hentry _).trans (Exec.okOr_bind_not hevent _ _ v)
          | some event => exact ⟨_, (Exec.bind_of_ok hentry _).trans (Exec.okOr_bind_of hevent _ _ v)⟩

/-- A call ends with its report, or it fails for another reason than decoding. -/
theorem Call.body_yields (htrie : TrieSound cfg commits)
    (hparas : cfg.hashing.storagePrefix parasName headsName = paraHeadPrefix) (call : Call AccountId) {header : Header}
    {s : Rights.State AccountId W} (hincluded : Included cfg commits v call.relayBlock header)
    (hstate : HasState cfg commits header s) (hrange : s.store.InRange) (origin : Origin AccountId) :
    Exec.Yields Decoded (call.body cfg origin) v () { v with events := v.events ++ [call.report s header.number] } := by
  cases call with
  | verifyOwnership relayBlock relayProof rightsProof c w =>
      exact verifyOwnership_yields htrie hparas hincluded hstate hrange origin relayProof rightsProof c w
  | verifySubscription relayBlock relayProof rightsProof c w =>
      exact verifySubscription_yields htrie hparas hincluded hstate hrange origin relayProof rightsProof c w
  | verifyViewPack relayBlock relayProof rightsProof c w =>
      exact verifyViewPack_yields htrie hparas hincluded hstate hrange origin relayProof rightsProof c w

theorem dispatch_of_error {origin : Origin AccountId} {call : Call AccountId} {e : DispatchError Error}
    (h : call.body cfg origin v = .error e v) : dispatch cfg origin call v = .error e v := by
  rw [dispatch, Exec.withStorageLayer, h]

end Calls

/-! ## Main result -/

/-- On every reachable state of the three chains the outcome of a signed call is known. Proofs of more than
`MAX_PROOF_BYTES` are too large. A relay block outside the window is unknown. Otherwise the relay block is one that the
relay chain has produced. If its state holds no header of CCRMS, the call fails with `NoRightsHead` if the trie reader
can read the relay proof, and with `InvalidProof` if not. If it holds one, it is that of a block that CCRMS went
through, and the call reports the state of that block if the trie reader can read both proofs, and fails with
`InvalidProof` if not. A call that fails changes nothing. -/
theorem verifications_are_decided [DecidableEq AccountId] (rcfg : Rights.Config AccountId W) (cfg : Config AccountId)
    (commits : Bytes32 → RawStorage → Prop) (htrie : TrieSound cfg commits)
    (hparas : cfg.hashing.storagePrefix parasName headsName = paraHeadPrefix) (n₀ : U32) (w₀ : W)
    (as : List (System.Action AccountId W))
    (ha : (system rcfg cfg).Along (Vouched cfg commits) (.init cfg n₀ w₀) as) (who : AccountId)
    (call : Call AccountId) :
    let s := ((system rcfg cfg).run (.init cfg n₀ w₀) as).2
    let v := s.verifier
    (maxProofBytes < call.size → dispatch cfg (.signed who) call v = .error (.pallet .proofTooLarge) v) ∧
    (call.size ≤ maxProofBytes → call.relayBlock ∉ v.relayRoots.toList.map Prod.fst →
      dispatch cfg (.signed who) call v = .error (.pallet .unknownRelayBlock) v) ∧
    (call.size ≤ maxProofBytes → call.relayBlock ∈ v.relayRoots.toList.map Prod.fst →
      ∃ block ∈ s.relay, call.relayBlock = block.number ∧ (block.number, block.root) ∈ v.relayRoots.toList ∧
        block.Holds cfg commits ∧
        match block.header with
        | none =>
            dispatch cfg (.signed who) call v =
              .error (.pallet (if call.headReadable cfg block.root then .noRightsHead else .invalidProof)) v
        | some header => ∃ as₁, as₁ <+: rightsActions as ∧
            HasState cfg commits header ((Rights.chain rcfg).run (.init n₀ w₀) as₁).2 ∧
            dispatch cfg (.signed who) call v =
              if call.readable cfg block.root header.stateRoot then
                .ok () { v with events := v.events ++
                  [call.report ((Rights.chain rcfg).run (.init n₀ w₀) as₁).2 header.number] }
              else .error (.pallet .invalidProof) v) := by
  intro s v
  refine ⟨fun hsize => dispatch_of_error (Call.body_tooLarge hsize),
    fun hsize hno => dispatch_of_error (Call.body_of_error hsize (rightsState_of_not_mem hno _)), fun hsize hmem => ?_⟩
  obtain ⟨⟨n, root, header⟩, hblock, hnumber, hroot, hholds, hstates⟩ := (run_linked htrie hparas as ha).recorded hmem
  obtain ⟨raw, hraw, hheader⟩ := hholds
  refine ⟨_, hblock, hnumber, hroot, ⟨raw, hraw, hheader⟩, ?_⟩
  have hrecorded : (call.relayBlock, root) ∈ v.relayRoots.toList := hnumber ▸ hroot
  cases header with
  | none =>
      have hstate := rightsState_of_no_head htrie hparas hrecorded hraw hheader call.relayProof
      exact dispatch_of_error (Call.body_of_error hsize hstate)
  | some header =>
      obtain ⟨as₁, hpre, hstate⟩ := hstates header rfl
      refine ⟨as₁, hpre, hstate, ?_⟩
      have hyields := Call.body_yields htrie hparas call ⟨root, raw, hrecorded, hraw, hheader⟩ hstate
        (Rights.run_inRange rcfg n₀ w₀ as₁) (.signed who)
      have hbody := Call.body_of_mem htrie hparas hsize hrecorded hraw hheader fun e v' h => hyields.error h
      dsimp only
      split
      · rename_i hreadable
        rw [if_pos hreadable] at hbody
        obtain ⟨v', hok⟩ := hbody
        obtain ⟨_, rfl⟩ := hyields.ok hok
        exact Exec.withStorageLayer_ok.mpr hok
      · rename_i hreadable
        rw [if_neg hreadable] at hbody
        exact dispatch_of_error hbody

namespace Reference

/-! A relay block from before CCRMS was onboarded, with an empty state. The proof is the root node of the empty trie. -/

def emptyRoot : Bytes32 :=
  #v[0x03, 0x17, 0x0a, 0x2e, 0x75, 0x97, 0xb7, 0xb7, 0xe3, 0xd8, 0x4c, 0x05, 0x39, 0x1d, 0x13, 0x9a, 0x62, 0xb1, 0x57,
    0xe7, 0x87, 0x86, 0xd8, 0xc0, 0x82, 0xf2, 0x9d, 0xcf, 0x4c, 0x11, 0x13, 0x14]

def emptyProof : List Bytes := [[0x00]]

def EmptyCommitsTo (root : Bytes32) (raw : RawStorage) : Prop := root = emptyRoot ∧ raw = fun _ => none

def emptyConfig : Config Account :=
  { config with
    readTrieValue := fun root proof _ => if root = emptyRoot ∧ proof = emptyProof then some none else none }

theorem emptyTrieSound : TrieSound emptyConfig EmptyCommitsTo := by
  rintro root raw proof key value ⟨rfl, rfl⟩ hread
  simp only [emptyConfig] at hread
  split at hread
  · exact (Option.some.inj hread).symm
  · cases hread

def headlessRun : List (System.Action Account World) :=
  [.relay ⟨1000, emptyRoot, none⟩, .verifier (.finalize (some (1000, emptyRoot)))]

theorem headlessRun_vouched :
    (system rightsConfig emptyConfig).Along (Vouched emptyConfig EmptyCommitsTo) (.init emptyConfig 50 genesis)
      headlessRun :=
  ⟨⟨fun _ h => by (cases h), _, ⟨rfl, rfl⟩, rfl⟩, ⟨_, List.mem_singleton_self _, rfl⟩, trivial⟩

def reportingState : System config World :=
  ((system rightsConfig config).run (.init config 50 genesis) reportingRun).2

def headlessState : System emptyConfig World :=
  ((system rightsConfig emptyConfig).run (.init emptyConfig 50 genesis) headlessRun).2

end Reference

theorem reportingRun_is_decided :
    (∃ v', dispatch Reference.config (.signed 1)
      (.verifySubscription 1000 Reference.relayProof Reference.rightsProof 0 2) Reference.reportingState.verifier =
        .ok () v') ∧
    dispatch Reference.emptyConfig (.signed 1) (.verifySubscription 1000 Reference.emptyProof [] 0 2)
      Reference.headlessState.verifier = .error (.pallet .noRightsHead) Reference.headlessState.verifier := by
  constructor
  · have hrelay : Reference.reportingState.relay = [⟨1000, Reference.relayRoot, some Reference.header⟩] := rfl
    have hreadable : Call.readable Reference.config Reference.relayRoot Reference.header.stateRoot
        (.verifySubscription 1000 Reference.relayProof Reference.rightsProof 0 2) = true := by
      decide +kernel
    obtain ⟨block, hblock, _, _, _, hdecided⟩ := (verifications_are_decided Reference.rightsConfig Reference.config
      Reference.CommitsTo Reference.trieSound (by decide +kernel) 50 Reference.genesis Reference.reportingRun
      Reference.reportingRun_vouched 1
      (.verifySubscription 1000 Reference.relayProof Reference.rightsProof 0 2)).2.2 (by decide +kernel)
      (by decide +kernel)
    have hblock : block ∈ Reference.reportingState.relay := hblock
    rw [hrelay] at hblock
    cases List.mem_singleton.mp hblock
    obtain ⟨as₁, _, _, hok⟩ := hdecided
    rw [if_pos hreadable] at hok
    exact ⟨_, hok⟩
  · have hrelay : Reference.headlessState.relay = [⟨1000, Reference.emptyRoot, none⟩] := rfl
    obtain ⟨block, hblock, _, _, _, hdecided⟩ := (verifications_are_decided Reference.rightsConfig
      Reference.emptyConfig Reference.EmptyCommitsTo Reference.emptyTrieSound (by decide +kernel) 50 Reference.genesis
      Reference.headlessRun Reference.headlessRun_vouched 1
      (.verifySubscription 1000 Reference.emptyProof [] 0 2)).2.2 (by decide +kernel) (by decide +kernel)
    have hblock : block ∈ Reference.headlessState.relay := hblock
    rw [hrelay] at hblock
    cases List.mem_singleton.mp hblock
    exact hdecided

end Ccrms.Verifier
