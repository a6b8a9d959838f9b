import Ccrms.Frame.Primitives
import Ccrms.Lib.Scale

/-!
# Headers and storage keys

`sp_runtime::generic::Header` with 32-bit block numbers, and the storage keys of FRAME. The hash functions are
parameters. A header is read back from its encoding, field by field.
-/

namespace Ccrms.Frame

open Ccrms.Lib

abbrev Bytes := List UInt8

/-- `Vec<u8>`. The length of an encoded vector is a `u32`. -/
abbrev ByteVec := BoundedVec UInt8 u32Max

def ByteVec.encode (v : ByteVec) : Bytes := Scale.vecBytes (fun b => [b]) v.toList

def ByteVec.decoder : Scale.Decoder ByteVec := Scale.boundedVec u32Max Scale.byte

theorem ByteVec.decodes (v : ByteVec) : Scale.Decodes decoder v.encode v :=
  .boundedVec (by decide) v fun b _ => .byte b

/-! ## Headers -/

abbrev ConsensusEngineId := Vector UInt8 4

/-- `DigestItem`, with the `Seal` of the source named `sealed`. -/
inductive DigestItem where
  | other (data : ByteVec)
  | consensus (engine : ConsensusEngineId) (data : ByteVec)
  | sealed (engine : ConsensusEngineId) (data : ByteVec)
  | preRuntime (engine : ConsensusEngineId) (data : ByteVec)
  | runtimeEnvironmentUpdated
  deriving DecidableEq

/-- `generic::Header<u32, BlakeTwo256>`. -/
structure Header where
  parentHash : Bytes32
  number : U32
  stateRoot : Bytes32
  extrinsicsRoot : Bytes32
  digest : BoundedVec DigestItem u32Max
  deriving DecidableEq

/-- An item is told by its `DigestItemType`. -/
def DigestItem.encode : DigestItem → Bytes
  | .other data => 0 :: data.encode
  | .consensus engine data => 4 :: (engine.toList ++ data.encode)
  | .sealed engine data => 5 :: (engine.toList ++ data.encode)
  | .preRuntime engine data => 6 :: (engine.toList ++ data.encode)
  | .runtimeEnvironmentUpdated => [8]

/-- The block number is encoded in compact form. -/
def Header.encode (h : Header) : Bytes :=
  h.parentHash.toList ++ (Scale.compactBytes h.number ++ (h.stateRoot.toList ++ (h.extrinsicsRoot.toList ++
    Scale.vecBytes DigestItem.encode h.digest.toList)))

def DigestItem.decoder : Scale.Decoder DigestItem := do
  match ← Scale.byte with
  | 0 => do pure (.other (← ByteVec.decoder))
  | 4 => do
      let engine ← Scale.bytes 4
      let data ← ByteVec.decoder
      pure (.consensus engine data)
  | 5 => do
      let engine ← Scale.bytes 4
      let data ← ByteVec.decoder
      pure (.sealed engine data)
  | 6 => do
      let engine ← Scale.bytes 4
      let data ← ByteVec.decoder
      pure (.preRuntime engine data)
  | 8 => pure .runtimeEnvironmentUpdated
  | _ => failure

def Header.decoder : Scale.Decoder Header := do
  let parentHash ← Scale.bytes 32
  let number ← Scale.compact
  let stateRoot ← Scale.bytes 32
  let extrinsicsRoot ← Scale.bytes 32
  let digest ← Scale.boundedVec u32Max DigestItem.decoder
  if hn : number < 2 ^ 32 then pure ⟨parentHash, ⟨number, hn⟩, stateRoot, extrinsicsRoot, digest⟩ else failure

theorem DigestItem.decodes (item : DigestItem) : Scale.Decodes decoder item.encode item := by
  cases item with
  | other data => exact (Scale.Decodes.byte 0).bind (data.decodes.map _)
  | consensus engine data =>
      exact (Scale.Decodes.byte 4).bind ((Scale.Decodes.bytes engine).bind (data.decodes.map _))
  | sealed engine data =>
      exact (Scale.Decodes.byte 5).bind ((Scale.Decodes.bytes engine).bind (data.decodes.map _))
  | preRuntime engine data =>
      exact (Scale.Decodes.byte 6).bind ((Scale.Decodes.bytes engine).bind (data.decodes.map _))
  | runtimeEnvironmentUpdated => exact (Scale.Decodes.byte 8).bind (.pure _)

theorem Header.decodes (h : Header) : Scale.Decodes decoder h.encode h := by
  have hdigest : Scale.Decodes (Scale.boundedVec u32Max DigestItem.decoder)
      (Scale.vecBytes DigestItem.encode h.digest.toList) h.digest :=
    .boundedVec (by decide) h.digest fun item _ => item.decodes
  refine (Scale.Decodes.bytes h.parentHash).bind ((Scale.Decodes.compact h.number.isLt).bind
    ((Scale.Decodes.bytes h.stateRoot).bind ((Scale.Decodes.bytes h.extrinsicsRoot).bind ?_)))
  rw [← List.append_nil (Scale.vecBytes DigestItem.encode h.digest.toList)]
  refine hdigest.bind ?_
  rw [dif_pos h.number.isLt]
  exact .pure h

/-! ## Storage keys -/

structure Hashing where
  twox64 : Bytes → Vector UInt8 8
  twox128 : Bytes → Vector UInt8 16
  blake2_128 : Bytes → Vector UInt8 16

namespace Hashing

variable (h : Hashing)

def twox64Concat (key : Bytes) : Bytes := (h.twox64 key).toList ++ key

def blake2_128Concat (key : Bytes) : Bytes := (h.blake2_128 key).toList ++ key

/-- The prefix of a storage item: its pallet and its name. -/
def storagePrefix (pallet item : Bytes) : Bytes := (h.twox128 pallet).toList ++ (h.twox128 item).toList

/-- The key of a `StorageMap` with the hasher `Twox64Concat`. -/
def twox64MapKey (pallet item key : Bytes) : Bytes := h.storagePrefix pallet item ++ h.twox64Concat key

/-- The key of a `StorageDoubleMap` with the hasher `Blake2_128Concat` for both keys. -/
def blake2DoubleMapKey (pallet item key1 key2 : Bytes) : Bytes :=
  h.storagePrefix pallet item ++ h.blake2_128Concat key1 ++ h.blake2_128Concat key2

variable {h}

/-- Both hashers end in the key itself, so the entries of one map have distinct keys. -/
theorem blake2DoubleMapKey_inj {pallet item item' key1 key1' key2 key2' : Bytes} (hlen : key1.length = key1'.length)
    (heq : h.blake2DoubleMapKey pallet item key1 key2 = h.blake2DoubleMapKey pallet item' key1' key2') :
    h.twox128 item = h.twox128 item' ∧ key1 = key1' ∧ key2 = key2' := by
  simp only [blake2DoubleMapKey, storagePrefix, blake2_128Concat, List.append_assoc] at heq
  have heq := List.append_cancel_left heq
  obtain ⟨hitem, heq⟩ := List.append_inj heq (by simp)
  obtain ⟨_, heq⟩ := List.append_inj heq (by simp)
  obtain ⟨hkey1, heq⟩ := List.append_inj heq hlen
  obtain ⟨_, hkey2⟩ := List.append_inj heq (by simp)
  exact ⟨Vector.toList_inj.mp hitem, hkey1, hkey2⟩

end Hashing

/-- The raw storage of a chain. -/
abbrev RawStorage := Bytes → Option Bytes

end Ccrms.Frame
