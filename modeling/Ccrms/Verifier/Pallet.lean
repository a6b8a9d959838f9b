import Ccrms.Frame.Header
import Ccrms.Lib.Exec
import Ccrms.Lib.Machine

/-!
# pallet-rights-verifier

A chain that checks rights held on CCRMS. Every block it records the relay-parent number and the relay storage root that
the validators supply. A caller gives two proofs: the first leads from a recorded relay root to the header of CCRMS, the
second from the state root in this header to an entry of a rights map. The trie reader and the hash functions are not
part of the repository and are parameters.
-/

namespace Ccrms.Verifier

open Ccrms.Lib Ccrms.Frame

variable {AccountId : Type}

/-! ## Types -/

/-- `MAX_PROOF_BYTES`, for the two proofs of a call together. -/
def maxProofBytes : Nat := 16384

/-- `PARA_HEAD_PREFIX`, the prefix of `Paras::Heads` in the relay chain. -/
def paraHeadPrefix : Bytes :=
  [0xcd, 0x71, 0x0b, 0x30, 0xbd, 0x2e, 0xab, 0x03, 0x52, 0xdd, 0xcc, 0x26, 0x41, 0x7a, 0xa1,
    0x94, 0x1b, 0x3c, 0x25, 0x2f, 0xcb, 0x29, 0xd8, 0x8e, 0xff, 0x4f, 0x3d, 0xe5, 0xde, 0x44,
    0x76, 0xc3]

inductive Error where
  | invalidProof
  | decodingFailed
  | unknownRelayBlock
  | noRightsHead
  | proofTooLarge
  deriving DecidableEq, Repr

inductive Event (AccountId : Type) where
  | ownershipVerified (contentId : Nat) (who : AccountId) (isOwner : Bool) (relayBlock rightsBlock : Nat)
  | subscriptionVerified (contentId : Nat) (who : AccountId) (isActive : Bool)
      (expiryBlock relayBlock rightsBlock : Nat)
  | viewPackVerified (contentId : Nat) (who : AccountId) (hasViews : Bool)
      (viewsRemaining relayBlock rightsBlock : Nat)
  deriving DecidableEq

structure Config (AccountId : Type) where
  rightsParaId : U32
  maxRelayRoots : Nat
  maxRelayRoots_pos : 0 < maxRelayRoots
  encodeAccount : AccountId → Bytes
  hashing : Hashing
  /-- `read_trie_value` on the nodes of a proof, with the root and the key; `none` is an error. -/
  readTrieValue : Bytes32 → List Bytes → Bytes → Option (Option Bytes)

/-- The storage of the pallet and its events. The recorded relay roots are for distinct relay blocks. -/
structure State (cfg : Config AccountId) where
  relayRoots : BoundedVec (U32 × Bytes32) cfg.maxRelayRoots
  distinct : (relayRoots.toList.map Prod.fst).Nodup
  events : List (Event AccountId)

variable (cfg : Config AccountId)

abbrev VerifierM (α : Type) := Exec (DispatchError Error) (State cfg) α

/-! ## Relay roots -/

/-- The recorded roots after the oldest one was dropped to make room, if there was none. -/
def makeRoom (roots : BoundedVec (U32 × Bytes32) cfg.maxRelayRoots) : BoundedVec (U32 × Bytes32) cfg.maxRelayRoots :=
  if roots.length = cfg.maxRelayRoots then ⟨roots.toList.drop 1, by
    have := roots.bounded
    rw [List.length_drop]
    omega⟩
  else roots

theorem makeRoom_sublist (roots : BoundedVec (U32 × Bytes32) cfg.maxRelayRoots) :
    (makeRoom cfg roots).toList.Sublist roots.toList := by
  unfold makeRoom
  split
  · exact List.drop_sublist _ _
  · exact List.Sublist.refl _

theorem makeRoom_length_lt (roots : BoundedVec (U32 × Bytes32) cfg.maxRelayRoots) :
    (makeRoom cfg roots).toList.length < cfg.maxRelayRoots := by
  have hpos := cfg.maxRelayRoots_pos
  have hle := roots.bounded
  unfold makeRoom
  split
  · simp only [List.length_drop]
    omega
  · rename_i hne
    exact Nat.lt_of_le_of_ne hle hne

/-- `record_relay_root`: records the current relay parent, once, as the newest entry. -/
def recordRelayRoot (current : Option (U32 × Bytes32)) (s : State cfg) : State cfg :=
  match current with
  | none => s
  | some (number, root) =>
      if h : number ∈ s.relayRoots.toList.map Prod.fst then s
      else
        { s with
          relayRoots := ⟨(makeRoom cfg s.relayRoots).toList ++ [(number, root)], by
            simpa using makeRoom_length_lt cfg s.relayRoots⟩
          distinct := by
            have hsub := (makeRoom_sublist cfg s.relayRoots).map Prod.fst
            rw [List.map_append, List.map_singleton]
            refine List.nodup_append.mpr ⟨s.distinct.sublist hsub, List.nodup_singleton _, ?_⟩
            rintro n hn m hm rfl
            rw [List.mem_singleton.mp hm] at hn
            exact h (hsub.subset hn) }

/-! ## Proofs -/

/-- `proof_bytes`: the size of the two proofs, saturating. -/
def proofBytes (relayProof rightsProof : List Bytes) : Nat :=
  (relayProof ++ rightsProof).foldl (fun acc node => satAdd32 acc node.length) 0

def paraHeadKey (paraId : U32) : Bytes :=
  paraHeadPrefix ++ (cfg.hashing.twox64 (Scale.leBytes 4 paraId)).toList ++ Scale.leBytes 4 paraId

/-- `content_rights_key`, with the pallet name `ContentRights`. -/
def contentRightsKey (storageName : Bytes) (contentId : U32) (who : AccountId) : Bytes :=
  (cfg.hashing.twox128 [67, 111, 110, 116, 101, 110, 116, 82, 105, 103, 104, 116, 115]).toList ++
    (cfg.hashing.twox128 storageName).toList ++
    cfg.hashing.blake2_128Concat (Scale.leBytes 4 contentId) ++
    cfg.hashing.blake2_128Concat (cfg.encodeAccount who)

def readProofValue (stateRoot : Bytes32) (proofNodes : List Bytes) (key : Bytes) : VerifierM cfg (Option Bytes) :=
  Exec.okOr (cfg.readTrieValue stateRoot proofNodes key) (.pallet .invalidProof)

/-- `rights_state`: the state root and the number of the CCRMS block that was included at the relay block. -/
def rightsState (relayBlock : U32) (relayProof : List Bytes) : VerifierM cfg (Bytes32 × U32) := do
  let roots ← Exec.read fun s => s.relayRoots.toList
  let relayRoot ← Exec.okOr ((roots.find? fun r => r.1 = relayBlock).map Prod.snd) (.pallet .unknownRelayBlock)
  let value ← readProofValue cfg relayRoot relayProof (paraHeadKey cfg cfg.rightsParaId)
  let head ← Exec.okOr value (.pallet .noRightsHead)
  let headData ← Exec.okOr (Scale.decode ByteVec.decoder head) (.pallet .decodingFailed)
  let header ← Exec.okOr (Scale.decode Header.decoder headData.toList) (.pallet .decodingFailed)
  pure (header.stateRoot, header.number)

def readRightsEntry (relayBlock : U32) (relayProof rightsProof : List Bytes) (storageName : Bytes) (contentId : U32)
    (who : AccountId) : VerifierM cfg (Option Bytes × U32) := do
  Exec.ensure (proofBytes relayProof rightsProof ≤ maxProofBytes) (.pallet .proofTooLarge)
  let (stateRoot, rightsBlock) ← rightsState cfg relayBlock relayProof
  let value ← readProofValue cfg stateRoot rightsProof (contentRightsKey cfg storageName contentId who)
  pure (value, rightsBlock)

/-! ## Calls -/

/-- The types of `remote_types`, which mirror those of pallet-content-rights. -/
structure RemoteOwnershipInfo where
  childItemId : Nat

structure RemoteSubscriptionInfo where
  expiryBlock : Nat
  autoRenew : Bool
  childItemId : Nat

structure RemoteViewPackInfo where
  viewsRemaining : Nat
  childItemId : Nat

def RemoteOwnershipInfo.decoder : Scale.Decoder RemoteOwnershipInfo := do
  let childItemId ← Scale.uint 4
  pure ⟨childItemId⟩

def RemoteSubscriptionInfo.decoder : Scale.Decoder RemoteSubscriptionInfo := do
  let expiryBlock ← Scale.uint 4
  let autoRenew ← Scale.bool
  let childItemId ← Scale.uint 4
  pure ⟨expiryBlock, autoRenew, childItemId⟩

def RemoteViewPackInfo.decoder : Scale.Decoder RemoteViewPackInfo := do
  let viewsRemaining ← Scale.uint 4
  let childItemId ← Scale.uint 4
  pure ⟨viewsRemaining, childItemId⟩

/-- The common body of the three calls. `judge` turns the value of the entry and the CCRMS block into the event, or
fails to decode the value. -/
def verifyEntry (origin : Origin AccountId) (relayBlock : U32) (relayProof rightsProof : List Bytes)
    (storageName : Bytes) (contentId : U32) (who : AccountId)
    (judge : Option Bytes → U32 → Option (Event AccountId)) : VerifierM cfg Unit := do
  match origin with
  | .signed _ =>
      let (raw, rightsBlock) ← readRightsEntry cfg relayBlock relayProof rightsProof storageName contentId who
      let event ← Exec.okOr (judge raw rightsBlock) (.pallet .decodingFailed)
      Exec.write fun s => { s with events := s.events ++ [event] }
  | _ => Exec.fail .badOrigin

def verifyOwnership (origin : Origin AccountId) (relayBlock : U32) (relayProof rightsProof : List Bytes)
    (contentId : U32) (who : AccountId) : VerifierM cfg Unit :=
  verifyEntry cfg origin relayBlock relayProof rightsProof [79, 119, 110, 101, 114, 115, 104, 105, 112] contentId
    who fun raw rightsBlock =>
      match raw with
      | some bytes => (Scale.decode RemoteOwnershipInfo.decoder bytes).map fun _ =>
          .ownershipVerified contentId who true relayBlock rightsBlock
      | none => some (.ownershipVerified contentId who false relayBlock rightsBlock)

def verifySubscription (origin : Origin AccountId) (relayBlock : U32) (relayProof rightsProof : List Bytes)
    (contentId : U32) (who : AccountId) : VerifierM cfg Unit :=
  verifyEntry cfg origin relayBlock relayProof rightsProof
    [83, 117, 98, 115, 99, 114, 105, 112, 116, 105, 111, 110, 115] contentId who fun raw rightsBlock =>
      match raw with
      | some bytes => (Scale.decode RemoteSubscriptionInfo.decoder bytes).map fun info =>
          .subscriptionVerified contentId who ((rightsBlock : Nat) < info.expiryBlock) info.expiryBlock relayBlock
            rightsBlock
      | none => some (.subscriptionVerified contentId who false 0 relayBlock rightsBlock)

def verifyViewPack (origin : Origin AccountId) (relayBlock : U32) (relayProof rightsProof : List Bytes)
    (contentId : U32) (who : AccountId) : VerifierM cfg Unit :=
  verifyEntry cfg origin relayBlock relayProof rightsProof [86, 105, 101, 119, 80, 97, 99, 107, 115] contentId
    who fun raw rightsBlock =>
      match raw with
      | some bytes => (Scale.decode RemoteViewPackInfo.decoder bytes).map fun info =>
          .viewPackVerified contentId who (info.viewsRemaining > 0) info.viewsRemaining relayBlock rightsBlock
      | none => some (.viewPackVerified contentId who false 0 relayBlock rightsBlock)

/-! ## The chain -/

/-- `on_finalize`, with the relay parent of the block if it is known. -/
def onFinalize (current : Option (U32 × Bytes32)) (s : State cfg) : State cfg := recordRelayRoot cfg current s

inductive Call (AccountId : Type) where
  | verifyOwnership (relayBlock : U32) (relayProof rightsProof : List Bytes) (contentId : U32) (who : AccountId)
  | verifySubscription (relayBlock : U32) (relayProof rightsProof : List Bytes) (contentId : U32) (who : AccountId)
  | verifyViewPack (relayBlock : U32) (relayProof rightsProof : List Bytes) (contentId : U32) (who : AccountId)

def Call.body (origin : Origin AccountId) : Call AccountId → VerifierM cfg Unit
  | .verifyOwnership relayBlock relayProof rightsProof contentId who =>
      Verifier.verifyOwnership cfg origin relayBlock relayProof rightsProof contentId who
  | .verifySubscription relayBlock relayProof rightsProof contentId who =>
      Verifier.verifySubscription cfg origin relayBlock relayProof rightsProof contentId who
  | .verifyViewPack relayBlock relayProof rightsProof contentId who =>
      Verifier.verifyViewPack cfg origin relayBlock relayProof rightsProof contentId who

def dispatch (origin : Origin AccountId) (call : Call AccountId) : VerifierM cfg Unit :=
  Exec.withStorageLayer (call.body cfg origin)

/-- A call, or the end of a block. -/
inductive Action (AccountId : Type) where
  | extrinsic (origin : Origin AccountId) (call : Call AccountId)
  | finalize (current : Option (U32 × Bytes32))

/-- The chain, which reports whether a call succeeded. -/
def chain : Machine (State cfg) (Action AccountId) Bool where
  step s
    | .extrinsic origin call =>
        match dispatch cfg origin call s with
        | .ok _ s' => (true, s')
        | .error _ s' => (false, s')
    | .finalize current => (true, onFinalize cfg current s)

def State.init : State cfg := ⟨.empty, List.nodup_nil, []⟩

end Ccrms.Verifier
