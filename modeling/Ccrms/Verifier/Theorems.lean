import Ccrms.Rights.Stored
import Ccrms.Verifier.Pallet

/-!
# The verifier agrees with CCRMS

A recorded relay root commits to the relay state, the relay state holds the header of CCRMS, and the state root in the
header commits to the state of CCRMS. Along this chain a call of the verifier reads exactly the entry of the rights map
that pallet-content-rights stored, whatever proofs its caller hands in.
-/

namespace Ccrms.Verifier

open Ccrms.Lib Ccrms.Lib.Exec Ccrms.Frame

variable {AccountId W : Type} {cfg : Config AccountId} {commits : Bytes32 → RawStorage → Prop}

/-! ## What the roots commit to -/

/-- The names of `Paras` and `Heads`. -/
def parasName : Bytes := [80, 97, 114, 97, 115]
def headsName : Bytes := [72, 101, 97, 100, 115]

/-- `read_trie_value` returns a value, or that there is none, only if it is so in the storage that the root commits
to. -/
def TrieSound (cfg : Config AccountId) (commits : Bytes32 → RawStorage → Prop) : Prop :=
  ∀ root raw proof key value, commits root raw → cfg.readTrieValue root proof key = some value → value = raw key

/-- The recorded root of the relay block commits to a relay state in which `Paras::Heads` of CCRMS holds the encoded
header. -/
def Included (cfg : Config AccountId) (commits : Bytes32 → RawStorage → Prop) (v : State cfg) (relayBlock : U32)
    (header : Header) : Prop :=
  ∃ root relay, (relayBlock, root) ∈ v.relayRoots.toList ∧ commits root relay ∧
    ∃ headData : ByteVec, headData.toList = header.encode ∧
      relay (cfg.hashing.twox64MapKey parasName headsName (Scale.leBytes 4 cfg.rightsParaId)) = some headData.encode

/-- The header is that of the CCRMS block whose state is `s`. -/
def HasState (cfg : Config AccountId) (commits : Bytes32 → RawStorage → Prop) (header : Header)
    (s : Rights.State AccountId W) : Prop :=
  s.blockNumber = header.number ∧
    ∃ raw, commits header.stateRoot raw ∧ Rights.Stored cfg.hashing cfg.encodeAccount s.store raw

/-! ## Keys and values -/

theorem paraHeadKey_eq (hparas : cfg.hashing.storagePrefix parasName headsName = paraHeadPrefix) (paraId : U32) :
    paraHeadKey cfg paraId = cfg.hashing.twox64MapKey parasName headsName (Scale.leBytes 4 paraId) := by
  rw [paraHeadKey, Hashing.twox64MapKey, hparas, Hashing.twox64Concat, List.append_assoc]

theorem contentRightsKey_eq (storageName : Bytes) (c : U32) (w : AccountId) :
    contentRightsKey cfg storageName c w = cfg.hashing.blake2DoubleMapKey Rights.palletName storageName
      (Scale.leBytes 4 c) (cfg.encodeAccount w) := rfl

theorem le_u32Max_lt {n : Nat} (h : n ≤ u32Max) : n < 256 ^ 4 := Nat.lt_of_le_of_lt h (by decide)

theorem decode_ownershipInfo {info : Rights.OwnershipInfo} (h : info.childItemId ≤ u32Max) :
    Scale.decode RemoteOwnershipInfo.decoder info.encode = some ⟨info.childItemId⟩ :=
  Scale.decode_of_decodes ((Scale.Decodes.uint (le_u32Max_lt h)).map RemoteOwnershipInfo.mk)

theorem decode_subscriptionInfo {sub : Rights.SubscriptionInfo}
    (h : sub.expiryBlock ≤ u32Max ∧ sub.childItemId ≤ u32Max) :
    Scale.decode RemoteSubscriptionInfo.decoder sub.encode =
      some ⟨sub.expiryBlock, sub.autoRenew, sub.childItemId⟩ := by
  apply Scale.decode_of_decodes
  refine (Scale.Decodes.uint (le_u32Max_lt h.1)).bind ((Scale.Decodes.bool sub.autoRenew).bind ?_)
  exact (Scale.Decodes.uint (le_u32Max_lt h.2)).map (RemoteSubscriptionInfo.mk sub.expiryBlock sub.autoRenew)

theorem decode_viewPackInfo {pack : Rights.ViewPackInfo}
    (h : pack.viewsRemaining ≤ u32Max ∧ pack.childItemId ≤ u32Max) :
    Scale.decode RemoteViewPackInfo.decoder pack.encode = some ⟨pack.viewsRemaining, pack.childItemId⟩ := by
  apply Scale.decode_of_decodes
  refine (Scale.Decodes.uint (le_u32Max_lt h.1)).bind ?_
  exact (Scale.Decodes.uint (le_u32Max_lt h.2)).map (RemoteViewPackInfo.mk pack.viewsRemaining)

/-! ## Reading an entry -/

/-- An error other than a failure to decode. -/
def Decoded (e : DispatchError Error) : Prop := e ≠ .pallet .decodingFailed

section Reading

variable (htrie : TrieSound cfg commits) {v : State cfg} {relayBlock : U32} {header : Header}

include htrie in
theorem readProofValue_yields {root : Bytes32} {raw : RawStorage} (hroot : commits root raw) (proof : List Bytes)
    (key : Bytes) : Yields Decoded (readProofValue cfg root proof key) v (raw key) v := by
  refine .okOr (fun value hread => htrie root raw proof key value hroot hread) fun _ => ?_
  simp [Decoded]

/-- The recorded roots are for distinct relay blocks, so the search finds the root of the relay block. -/
theorem find_relayRoot {root : Bytes32} (h : (relayBlock, root) ∈ v.relayRoots.toList) :
    (v.relayRoots.toList.find? fun r => r.1 = relayBlock) = some (relayBlock, root) := by
  have hdistinct := v.distinct
  generalize v.relayRoots.toList = roots at h hdistinct
  induction roots with
  | nil => cases h
  | cons r rest ih =>
      rw [List.map_cons, List.nodup_cons] at hdistinct
      rcases List.mem_cons.mp h with rfl | h
      · simp
      · have hne : r.1 ≠ relayBlock := by
          rintro rfl
          exact hdistinct.1 (List.mem_map.mpr ⟨_, h, rfl⟩)
        rw [List.find?_cons_of_neg (by simpa using hne)]
        exact ih h hdistinct.2

include htrie in
/-- The relay proof can only lead to the header of CCRMS. -/
theorem rightsState_yields (hparas : cfg.hashing.storagePrefix parasName headsName = paraHeadPrefix)
    (h : Included cfg commits v relayBlock header) (relayProof : List Bytes) :
    Yields Decoded (rightsState cfg relayBlock relayProof) v (header.stateRoot, header.number) v := by
  obtain ⟨root, relay, hroot, hcommits, headData, hdata, hhead⟩ := h
  rw [← paraHeadKey_eq hparas] at hhead
  have hvec : Scale.decode ByteVec.decoder headData.encode = some headData :=
    Scale.decode_of_decodes headData.decodes
  have hheader : Scale.decode Header.decoder headData.toList = some header := by
    rw [hdata]
    exact Scale.decode_of_decodes header.decodes
  have hfound : (v.relayRoots.toList.find? fun r => r.1 = relayBlock).map Prod.snd = some root := by
    rw [find_relayRoot hroot, Option.map_some]
  refine Yields.bind (.read _) (Yields.bind (.okOr_some hfound) ?_)
  refine Yields.bind (readProofValue_yields htrie hcommits relayProof _) (Yields.bind (.okOr_some hhead) ?_)
  exact Yields.bind (.okOr_some hvec) (Yields.bind (.okOr_some hheader) .pure)

include htrie in
theorem readRightsEntry_yields (hparas : cfg.hashing.storagePrefix parasName headsName = paraHeadPrefix)
    (h : Included cfg commits v relayBlock header) {raw : RawStorage} (hraw : commits header.stateRoot raw)
    (relayProof rightsProof : List Bytes) (storageName : Bytes) (c : U32) (w : AccountId) :
    Yields Decoded (readRightsEntry cfg relayBlock relayProof rightsProof storageName c w) v
      (raw (contentRightsKey cfg storageName c w), header.number) v := by
  refine Yields.bind (.ensure (by simp [Decoded])) (Yields.bind (rightsState_yields htrie hparas h relayProof) ?_)
  exact Yields.bind (readProofValue_yields htrie hraw rightsProof _) .pure

end Reading

/-! ## Calls -/

/-- A call ends with the event for the entry that CCRMS stores, or it fails for another reason than decoding. -/
theorem verifyEntry_yields (htrie : TrieSound cfg commits)
    (hparas : cfg.hashing.storagePrefix parasName headsName = paraHeadPrefix) {v : State cfg} {relayBlock : U32}
    {header : Header} (h : Included cfg commits v relayBlock header) {raw : RawStorage}
    (hraw : commits header.stateRoot raw) (origin : Origin AccountId) (relayProof rightsProof : List Bytes)
    {storageName : Bytes} {c : U32} {w : AccountId} {judge : Option Bytes → U32 → Option (Event AccountId)}
    {event : Event AccountId}
    (hevent : judge (raw (contentRightsKey cfg storageName c w)) header.number = some event) :
    Yields Decoded (verifyEntry cfg origin relayBlock relayProof rightsProof storageName c w judge) v ()
      { v with events := v.events ++ [event] } := by
  cases origin with
  | signed _ =>
      refine Yields.bind (readRightsEntry_yields htrie hparas h hraw relayProof rightsProof storageName c w) ?_
      exact Yields.bind (.okOr_some hevent) (.write _)
  | root => simp [Yields, verifyEntry, Exec.fail, Decoded]
  | none => simp [Yields, verifyEntry, Exec.fail, Decoded]

section Calls

variable (htrie : TrieSound cfg commits) (hparas : cfg.hashing.storagePrefix parasName headsName = paraHeadPrefix)
  {v : State cfg} {relayBlock : U32} {header : Header} {s : Rights.State AccountId W}
  (hincluded : Included cfg commits v relayBlock header) (hstate : HasState cfg commits header s)
  (hrange : s.store.InRange) (origin : Origin AccountId) (relayProof rightsProof : List Bytes) (c : U32)
  (w : AccountId)

include htrie hparas hincluded hstate hrange

theorem verifyOwnership_yields :
    Yields Decoded (verifyOwnership cfg origin relayBlock relayProof rightsProof c w) v ()
      { v with events := v.events ++
        [.ownershipVerified c w (s.store.ownership c w).isSome relayBlock header.number] } := by
  obtain ⟨_, raw, hraw, hstored⟩ := hstate
  refine verifyEntry_yields htrie hparas hincluded hraw origin relayProof rightsProof ?_
  rw [contentRightsKey_eq]
  have hentry := hstored.ownership c w
  cases hinfo : s.store.ownership c w with
  | none =>
      rw [hinfo, Option.map_none] at hentry
      simp only [Rights.ownershipName] at hentry
      simp only [hentry, Option.isSome_none]
  | some info =>
      rw [hinfo, Option.map_some] at hentry
      simp only [Rights.ownershipName] at hentry
      simp only [hentry, decode_ownershipInfo (hrange.ownership _ _ _ hinfo), Option.map_some, Option.isSome_some]

theorem verifySubscription_yields :
    Yields Decoded (verifySubscription cfg origin relayBlock relayProof rightsProof c w) v ()
      { v with events := v.events ++
        [.subscriptionVerified c w (Rights.subscriptionActive s c w)
          (((s.store.subscriptions c w).map fun sub => sub.expiryBlock).getD 0) relayBlock header.number] } := by
  obtain ⟨hnumber, raw, hraw, hstored⟩ := hstate
  have hnow : s.now = header.number := by
    rw [Rights.State.now, hnumber]
    exact toU32OrZero_eq (Nat.le_of_lt_succ header.number.isLt)
  refine verifyEntry_yields htrie hparas hincluded hraw origin relayProof rightsProof ?_
  rw [contentRightsKey_eq]
  have hentry := hstored.subscriptions c w
  unfold Rights.subscriptionActive
  cases hsub : s.store.subscriptions c w with
  | none =>
      rw [hsub, Option.map_none] at hentry
      simp only [Rights.subscriptionsName] at hentry
      simp only [hentry, Option.map_none, Option.getD_none]
  | some sub =>
      rw [hsub, Option.map_some] at hentry
      simp only [Rights.subscriptionsName] at hentry
      simp only [hentry, decode_subscriptionInfo (hrange.subscriptions _ _ _ hsub), Option.map_some, Option.getD_some,
        hnow]

theorem verifyViewPack_yields :
    Yields Decoded (verifyViewPack cfg origin relayBlock relayProof rightsProof c w) v ()
      { v with events := v.events ++
        [.viewPackVerified c w (0 < ((s.store.viewPacks c w).map fun pack => pack.viewsRemaining).getD 0)
          (((s.store.viewPacks c w).map fun pack => pack.viewsRemaining).getD 0) relayBlock header.number] } := by
  obtain ⟨_, raw, hraw, hstored⟩ := hstate
  refine verifyEntry_yields htrie hparas hincluded hraw origin relayProof rightsProof ?_
  rw [contentRightsKey_eq]
  have hentry := hstored.viewPacks c w
  cases hpack : s.store.viewPacks c w with
  | none =>
      rw [hpack, Option.map_none] at hentry
      simp only [Rights.viewPacksName] at hentry
      simp only [hentry, Option.map_none, Option.getD_none, Nat.lt_irrefl, decide_false]
  | some pack =>
      rw [hpack, Option.map_some] at hentry
      simp only [Rights.viewPacksName] at hentry
      simp only [hentry, decode_viewPackInfo (hrange.viewPacks _ _ _ hpack), Option.map_some, Option.getD_some,
        gt_iff_lt]

end Calls

/-- Let the recorded relay root of a relay block lead to the header of the CCRMS block with the state `s`. Whatever
proofs a caller hands in, a call of the verifier that succeeds reports the ownership, the subscription with its expiry
and the remaining views as `access_rights` tests them in `s`, and no call fails to decode. -/
theorem verifier_agrees (cfg : Config AccountId) (commits : Bytes32 → RawStorage → Prop)
    (htrie : TrieSound cfg commits) (hparas : cfg.hashing.storagePrefix parasName headsName = paraHeadPrefix)
    (v : State cfg) (relayBlock : U32) (header : Header) (s : Rights.State AccountId W)
    (hincluded : Included cfg commits v relayBlock header) (hstate : HasState cfg commits header s)
    (hrange : s.store.InRange) (origin : Origin AccountId) (relayProof rightsProof : List Bytes) (c : U32)
    (w : AccountId) :
    ((∀ v', verifyOwnership cfg origin relayBlock relayProof rightsProof c w v = .ok () v' →
        ∃ isOwner, v'.events = v.events ++ [.ownershipVerified c w isOwner relayBlock header.number] ∧
          (isOwner = true ↔ s.store.ownership c w ≠ none)) ∧
      (∀ e v', verifyOwnership cfg origin relayBlock relayProof rightsProof c w v = .error e v' →
        e ≠ .pallet .decodingFailed)) ∧
    ((∀ v', verifySubscription cfg origin relayBlock relayProof rightsProof c w v = .ok () v' →
        ∃ isActive expiryBlock, v'.events = v.events ++
            [.subscriptionVerified c w isActive expiryBlock relayBlock header.number] ∧
          (isActive = true ↔ Rights.subscriptionActive s c w = true) ∧
          expiryBlock = ((s.store.subscriptions c w).map fun sub => sub.expiryBlock).getD 0) ∧
      (∀ e v', verifySubscription cfg origin relayBlock relayProof rightsProof c w v = .error e v' →
        e ≠ .pallet .decodingFailed)) ∧
    ((∀ v', verifyViewPack cfg origin relayBlock relayProof rightsProof c w v = .ok () v' →
        ∃ hasViews viewsRemaining, v'.events = v.events ++
            [.viewPackVerified c w hasViews viewsRemaining relayBlock header.number] ∧
          (hasViews = true ↔ ∃ pack, s.store.viewPacks c w = some pack ∧ 0 < pack.viewsRemaining) ∧
          viewsRemaining = ((s.store.viewPacks c w).map fun pack => pack.viewsRemaining).getD 0) ∧
      (∀ e v', verifyViewPack cfg origin relayBlock relayProof rightsProof c w v = .error e v' →
        e ≠ .pallet .decodingFailed)) := by
  have howner := verifyOwnership_yields htrie hparas hincluded hstate hrange origin relayProof rightsProof c w
  have hsub := verifySubscription_yields htrie hparas hincluded hstate hrange origin relayProof rightsProof c w
  have hpack := verifyViewPack_yields htrie hparas hincluded hstate hrange origin relayProof rightsProof c w
  refine ⟨⟨?_, fun e v' hr => howner.error hr⟩, ⟨?_, fun e v' hr => hsub.error hr⟩, ⟨?_, fun e v' hr => hpack.error hr⟩⟩
  · intro v' hr
    obtain ⟨_, rfl⟩ := howner.ok hr
    exact ⟨_, rfl, Option.isSome_iff_ne_none⟩
  · intro v' hr
    obtain ⟨_, rfl⟩ := hsub.ok hr
    exact ⟨_, _, rfl, Iff.rfl, rfl⟩
  · intro v' hr
    obtain ⟨_, rfl⟩ := hpack.ok hr
    refine ⟨_, _, rfl, ?_, rfl⟩
    cases s.store.viewPacks c w with
    | none => simp
    | some pack => simp

/-! ## A proof of a subscription

The hash values, the proof nodes and the roots are those of the real functions, for a relay state and a CCRMS state of
one entry each: account 2 has a subscription to content 0 until block 100, and CCRMS is at block 50. -/

namespace Reference

abbrev Account := Fin (2 ^ 64)

def twox64 (key : Bytes) : Vector UInt8 8 :=
  if key = Scale.leBytes 4 100 then #v[0x42, 0x13, 0xc2, 0x71, 0x3e, 0x48, 0xb4, 0x52] else Vector.replicate 8 0

def twox128 (key : Bytes) : Vector UInt8 16 :=
  if key = parasName then
    #v[0xcd, 0x71, 0x0b, 0x30, 0xbd, 0x2e, 0xab, 0x03, 0x52, 0xdd, 0xcc, 0x26, 0x41, 0x7a, 0xa1, 0x94]
  else if key = headsName then
    #v[0x1b, 0x3c, 0x25, 0x2f, 0xcb, 0x29, 0xd8, 0x8e, 0xff, 0x4f, 0x3d, 0xe5, 0xde, 0x44, 0x76, 0xc3]
  else if key = Rights.palletName then
    #v[0x39, 0x04, 0xf9, 0x11, 0x96, 0xfe, 0xba, 0x57, 0x3c, 0x8a, 0xd6, 0xfc, 0xe9, 0x02, 0xe0, 0x17]
  else if key = Rights.subscriptionsName then
    #v[0x31, 0x21, 0x79, 0x39, 0x01, 0x87, 0x0e, 0x7a, 0x42, 0x81, 0x34, 0x1f, 0x0f, 0x29, 0xaf, 0x2f]
  else if key = Rights.ownershipName then
    #v[0x64, 0x27, 0x7c, 0x41, 0xec, 0xbb, 0x42, 0x43, 0xaa, 0xd6, 0x09, 0x81, 0xd2, 0xde, 0x9a, 0x37]
  else if key = Rights.viewPacksName then
    #v[0x8c, 0x32, 0xfc, 0x17, 0x9b, 0xa3, 0x75, 0x67, 0x5b, 0x03, 0x84, 0xe1, 0x53, 0xf7, 0x76, 0xe7]
  else Vector.replicate 16 0

def blake2_128 (key : Bytes) : Vector UInt8 16 :=
  if key = Scale.leBytes 4 0 then
    #v[0x11, 0xd2, 0xdf, 0x4e, 0x97, 0x9a, 0xa1, 0x05, 0xcf, 0x55, 0x2e, 0x95, 0x44, 0xeb, 0xd2, 0xb5]
  else if key = Scale.leBytes 8 2 then
    #v[0xfc, 0x06, 0x9c, 0x24, 0x35, 0x27, 0x98, 0x85, 0x9c, 0x01, 0x7c, 0xe8, 0x62, 0x81, 0x3d, 0x3b]
  else Vector.replicate 16 0

def hashing : Hashing := ⟨twox64, twox128, blake2_128⟩

def encodeAccount (who : Account) : Bytes := Scale.leBytes 8 who

def subscription : Rights.SubscriptionInfo := ⟨100, false, 1⟩

def rightsRaw : RawStorage := fun key =>
  if key = hashing.blake2DoubleMapKey Rights.palletName Rights.subscriptionsName (Scale.leBytes 4 0) (encodeAccount 2)
  then some subscription.encode
  else none

def stateRoot : Bytes32 :=
  #v[0xe4, 0xf7, 0xc1, 0xcd, 0x2a, 0x8d, 0x82, 0x48, 0x51, 0xd1, 0xbc, 0xb9, 0x04, 0x5c, 0x3b, 0x07, 0x7b, 0x3c, 0xb2,
    0xd8, 0x95, 0x35, 0xc4, 0x21, 0x00, 0xde, 0x06, 0x62, 0x8d, 0x45, 0x05, 0xdd]

def rightsProof : List Bytes :=
  [[0x7f, 0x59, 0x39, 0x04, 0xf9, 0x11, 0x96, 0xfe, 0xba, 0x57, 0x3c, 0x8a, 0xd6, 0xfc, 0xe9, 0x02, 0xe0, 0x17, 0x31,
    0x21, 0x79, 0x39, 0x01, 0x87, 0x0e, 0x7a, 0x42, 0x81, 0x34, 0x1f, 0x0f, 0x29, 0xaf, 0x2f, 0x11, 0xd2, 0xdf, 0x4e,
    0x97, 0x9a, 0xa1, 0x05, 0xcf, 0x55, 0x2e, 0x95, 0x44, 0xeb, 0xd2, 0xb5, 0x00, 0x00, 0x00, 0x00, 0xfc, 0x06, 0x9c,
    0x24, 0x35, 0x27, 0x98, 0x85, 0x9c, 0x01, 0x7c, 0xe8, 0x62, 0x81, 0x3d, 0x3b, 0x02, 0x00, 0x00, 0x00, 0x00, 0x00,
    0x00, 0x00, 0x24, 0x64, 0x00, 0x00, 0x00, 0x00, 0x01, 0x00, 0x00, 0x00]]

def header : Header := ⟨Vector.replicate 32 0, 50, stateRoot, Vector.replicate 32 0, .empty⟩

def headData : ByteVec := ⟨header.encode, by decide⟩

def relayRaw : RawStorage := fun key =>
  if key = hashing.twox64MapKey parasName headsName (Scale.leBytes 4 100) then some headData.encode else none

def relayRoot : Bytes32 :=
  #v[0x7e, 0x21, 0x63, 0x3e, 0xf1, 0xbf, 0x2b, 0x5d, 0xe6, 0x94, 0x3c, 0xf3, 0x19, 0xb5, 0xed, 0x7b, 0x80, 0x10, 0xa8,
    0x34, 0x09, 0x9e, 0xdf, 0x69, 0x06, 0xe7, 0xa6, 0x59, 0xca, 0x2d, 0x20, 0x88]

/-- The value is longer than a hash, so the leaf holds its hash and the value is a node of its own. -/
def relayProof : List Bytes :=
  [[0x3f, 0x39, 0xcd, 0x71, 0x0b, 0x30, 0xbd, 0x2e, 0xab, 0x03, 0x52, 0xdd, 0xcc, 0x26, 0x41, 0x7a, 0xa1, 0x94, 0x1b,
    0x3c, 0x25, 0x2f, 0xcb, 0x29, 0xd8, 0x8e, 0xff, 0x4f, 0x3d, 0xe5, 0xde, 0x44, 0x76, 0xc3, 0x42, 0x13, 0xc2, 0x71,
    0x3e, 0x48, 0xb4, 0x52, 0x64, 0x00, 0x00, 0x00, 0x0b, 0x38, 0x49, 0xb0, 0x8f, 0x2f, 0xc1, 0x1e, 0x56, 0x30, 0xfc,
    0x01, 0xb8, 0x67, 0xe4, 0xee, 0x2d, 0x21, 0x3a, 0xb0, 0xef, 0x2b, 0xbc, 0xf6, 0x31, 0xf5, 0xff, 0xac, 0xb2, 0xfe,
    0x54, 0x93],
    headData.encode]

def CommitsTo (root : Bytes32) (raw : RawStorage) : Prop :=
  (root = relayRoot ∧ raw = relayRaw) ∨ (root = stateRoot ∧ raw = rightsRaw)

def readTrieValue (root : Bytes32) (proof : List Bytes) (key : Bytes) : Option (Option Bytes) :=
  if root = relayRoot ∧ proof = relayProof then some (relayRaw key)
  else if root = stateRoot ∧ proof = rightsProof then some (rightsRaw key)
  else none

def config : Config Account := ⟨100, 4, by decide, encodeAccount, hashing, readTrieValue⟩

/-- The relay root is recorded for the relay block 1000. -/
def state : State config := recordRelayRoot config (some (1000, relayRoot)) ⟨.empty, List.nodup_nil, []⟩

def rightsState : Rights.State Account Unit :=
  ⟨{ Rights.Storage.empty with subscriptions := StorageDoubleMap.empty.insert 0 2 subscription }, 50, [], ()⟩

theorem trieSound : TrieSound config CommitsTo := by
  intro root raw proof key value hroot hread
  have hne : stateRoot ≠ relayRoot := by decide
  simp only [config, readTrieValue] at hread
  rcases hroot with ⟨rfl, rfl⟩ | ⟨rfl, rfl⟩
  · split at hread
    · exact (Option.some.inj hread).symm
    · rw [if_neg (fun h => hne h.1.symm)] at hread
      cases hread
  · rw [if_neg (fun h => hne h.1)] at hread
    split at hread
    · exact (Option.some.inj hread).symm
    · cases hread

theorem included : Included config CommitsTo state 1000 header :=
  ⟨relayRoot, relayRaw, by decide +kernel, Or.inl ⟨rfl, rfl⟩, headData, rfl, if_pos rfl⟩

/-- The raw storage holds the one entry of the subscription, and no other. -/
theorem rightsRaw_apply (item : Bytes) (c : U32) (a : Account) :
    rightsRaw (hashing.blake2DoubleMapKey Rights.palletName item (Scale.leBytes 4 c) (encodeAccount a)) =
      if twox128 item = twox128 Rights.subscriptionsName ∧ (c : Nat) = 0 ∧ a = 2 then some subscription.encode
      else none := by
  unfold rightsRaw
  refine if_congr ⟨fun heq => ?_, ?_⟩ rfl rfl
  · obtain ⟨hitem, hc, ha⟩ := Hashing.blake2DoubleMapKey_inj (by simp only [Scale.length_leBytes]) heq
    refine ⟨hitem, Scale.leBytes_inj (Nat.lt_of_lt_of_le c.isLt (by decide)) (by decide) hc, ?_⟩
    exact Fin.ext (Scale.leBytes_inj (Nat.lt_of_lt_of_le a.isLt (by decide)) (by decide) ha)
  · rintro ⟨hitem, hc, rfl⟩
    have hitem : hashing.twox128 item = hashing.twox128 Rights.subscriptionsName := hitem
    simp only [Hashing.blake2DoubleMapKey, Hashing.storagePrefix, hitem, hc]

theorem hasState : HasState config CommitsTo header rightsState := by
  refine ⟨rfl, rightsRaw, Or.inr ⟨rfl, rfl⟩, fun c a => ?_, fun c a => ?_, fun c a => ?_⟩
  · refine (rightsRaw_apply Rights.subscriptionsName c a).trans ?_
    simp only [rightsState, StorageDoubleMap.insert_apply, true_and]
    split
    · rfl
    · rfl
  · exact (rightsRaw_apply Rights.viewPacksName c a).trans (if_neg fun h => absurd h.1 (by decide))
  · exact (rightsRaw_apply Rights.ownershipName c a).trans (if_neg fun h => absurd h.1 (by decide))

theorem inRange : rightsState.store.InRange :=
  ⟨StorageDoubleMap.All.empty.insert (by decide) _ _, .empty, .empty⟩

end Reference

/-- Account 1 proves the subscription of account 2 with the two proofs. -/
theorem subscription_is_proven :
    ∃ v', verifySubscription Reference.config (.signed 1) 1000 Reference.relayProof Reference.rightsProof 0 2
        Reference.state = .ok () v' ∧
      v'.events = [.subscriptionVerified 0 2 true 100 1000 50] := by
  obtain ⟨_, v', hok, _⟩ : ∃ u v', verifySubscription Reference.config (.signed 1) 1000 Reference.relayProof
      Reference.rightsProof 0 2 Reference.state = .ok u v' ∧ True := by
    rw [← okWith_iff]
    decide +kernel
  have hparas : Reference.config.hashing.storagePrefix parasName headsName = paraHeadPrefix := by
    decide +kernel
  have h := (verifier_agrees Reference.config Reference.CommitsTo Reference.trieSound hparas Reference.state 1000
    Reference.header Reference.rightsState Reference.included Reference.hasState Reference.inRange (.signed 1)
    Reference.relayProof Reference.rightsProof 0 2).2.1.1
  obtain ⟨isActive, expiryBlock, hevents, hactive, rfl⟩ := h v' hok
  obtain rfl : isActive = true := hactive.mpr (by decide)
  exact ⟨v', hok, hevents⟩

end Ccrms.Verifier
