import Ccrms.Frame.Reference
import Ccrms.Lib.Canonical
import Ccrms.Rights.Codec

/-!
# The calls and their bytes

The `call_index` of an extrinsic and its arguments in the order of their declaration make the bytes of a call. Every
call is read back from its bytes, and nothing else is read as a call.
-/

namespace Ccrms.Rights

open Ccrms.Lib Ccrms.Frame

variable {AccountId W : Type}

/-! ## Encoding -/

def RoyaltySplit.encode (split : RoyaltySplit) : List UInt8 :=
  split.recipient.toList ++ Scale.leBytes 2 split.basisPoints

/-- The `call_index` attribute. -/
def Call.index : Call AccountId → UInt8
  | .registerContent .. => 0
  | .subscribe _ => 1
  | .renewSubscription _ => 2
  | .purchaseViews .. => 3
  | .consumeView _ => 4
  | .purchaseOwnership _ => 5
  | .checkAccess _ => 6
  | .xcmSubscribe .. => 7
  | .xcmRenewSubscription .. => 8
  | .xcmPurchaseViews .. => 9
  | .xcmPurchaseOwnership .. => 10
  | .transferOwnership .. => 11
  | .xcmTransferOwnership .. => 12
  | .setRoyaltySplits .. => 13
  | .enableAutoRenew _ => 14
  | .disableAutoRenew _ => 15
  | .queryRightsMetadata _ => 16
  | .setMeter .. => 17
  | .consumeViewFor .. => 18

def Call.arguments (encodeAccount : AccountId → Bytes32) : Call AccountId → List UInt8
  | .registerContent h t sp pp op p => h.toList ++ (Scale.vecBytes (fun b => [b]) t.toList ++ (Scale.leBytes 16 sp ++
      (Scale.leBytes 16 pp ++ (Scale.leBytes 16 op ++ Scale.leBytes 4 p))))
  | .subscribe c | .renewSubscription c | .consumeView c | .purchaseOwnership c | .checkAccess c | .enableAutoRenew c
  | .disableAutoRenew c | .queryRightsMetadata c => Scale.leBytes 4 c
  | .purchaseViews c n => Scale.leBytes 4 c ++ Scale.leBytes 4 n
  | .xcmSubscribe c a | .xcmRenewSubscription c a | .xcmPurchaseOwnership c a | .transferOwnership c a
  | .consumeViewFor c a => Scale.leBytes 4 c ++ (encodeAccount a).toList
  | .xcmPurchaseViews c a n => Scale.leBytes 4 c ++ ((encodeAccount a).toList ++ Scale.leBytes 4 n)
  | .xcmTransferOwnership c s r => Scale.leBytes 4 c ++ ((encodeAccount s).toList ++ (encodeAccount r).toList)
  | .setRoyaltySplits c splits => Scale.leBytes 4 c ++ Scale.vecBytes RoyaltySplit.encode splits.toList
  | .setMeter c m => Scale.leBytes 4 c ++ Scale.optionBytes (fun a => (encodeAccount a).toList) m

/-- The bytes of a call of the runtime. -/
def Call.encode (encodeAccount : AccountId → Bytes32) (call : Call AccountId) : List UInt8 :=
  palletIndex :: call.index :: call.arguments encodeAccount

namespace Codec

/-- The 32 bytes of an account are its encoding, as those of an `AccountId32` are. -/
def AccountBytes (cfg : Config AccountId W) (encodeAccount : AccountId → Bytes32) : Prop :=
  ∀ b who, cfg.decodeAccount b = some who ↔ encodeAccount who = b

variable {cfg : Config AccountId W} {encodeAccount : AccountId → Bytes32}

/-! ## Calls are read back -/

theorem royaltySplit_decodes (split : RoyaltySplit) : Scale.Decodes royaltySplit split.encode split :=
  (Scale.Decodes.bytes split.recipient).bind ((Scale.Decodes.fin (by decide) split.basisPoints).map _)

theorem arguments_decodes (haccount : AccountBytes cfg encodeAccount) (call : Call AccountId) :
    Scale.Decodes (arguments cfg call.index) (call.arguments encodeAccount) call := by
  have hwho : ∀ who, Scale.Decodes (account cfg) (encodeAccount who).toList who := fun who =>
    account_decodes ((haccount _ who).mpr rfl)
  cases call with
  | registerContent h t sp pp op p =>
      have htitle := Scale.Decodes.boundedVec (by decide) t fun b _ => Scale.Decodes.byte b
      have hprice : ∀ n : U128, Scale.Decodes u128 (Scale.leBytes 16 n) n := Scale.Decodes.fin (by decide)
      exact (Scale.Decodes.bytes h).bind (htitle.bind ((hprice sp).bind ((hprice pp).bind ((hprice op).bind
        ((u32_decodes p).map _)))))
  | subscribe c | renewSubscription c | consumeView c | purchaseOwnership c | checkAccess c | enableAutoRenew c
  | disableAutoRenew c | queryRightsMetadata c => exact (u32_decodes c).map _
  | purchaseViews c n => exact (u32_decodes c).bind ((u32_decodes n).map _)
  | xcmSubscribe c a | xcmRenewSubscription c a | xcmPurchaseOwnership c a | transferOwnership c a
  | consumeViewFor c a => exact (u32_decodes c).bind ((hwho a).map _)
  | xcmPurchaseViews c a n => exact (u32_decodes c).bind ((hwho a).bind ((u32_decodes n).map _))
  | xcmTransferOwnership c s r => exact (u32_decodes c).bind ((hwho s).bind ((hwho r).map _))
  | setRoyaltySplits c splits =>
      have hsplits := Scale.Decodes.boundedVec (by decide) splits fun split _ => royaltySplit_decodes split
      exact (u32_decodes c).bind (hsplits.map _)
  | setMeter c m =>
      have hmeter : Scale.Decodes _ _ m := Scale.Decodes.option fun a _ => hwho a
      exact (u32_decodes c).bind (hmeter.map _)

/-! ## Nothing else is read as a call -/

theorem u32_canonical : Scale.Canonical u32 fun n => Scale.leBytes 4 n := .fin 4 (2 ^ 32)

theorem u128_canonical : Scale.Canonical u128 fun n => Scale.leBytes 16 n := .fin 16 (2 ^ 128)

theorem royaltySplit_canonical : Scale.Canonical royaltySplit RoyaltySplit.encode := by
  intro bs split rest h
  obtain ⟨recipient, mid, hbs, h⟩ := (Scale.Canonical.bytes 32).field h
  obtain ⟨basisPoints, hmid, rfl⟩ := (Scale.Canonical.fin 2 (2 ^ 16)).last h
  rw [hbs, hmid, RoyaltySplit.encode, List.append_assoc]

theorem account_canonical (haccount : AccountBytes cfg encodeAccount) :
    Scale.Canonical (account cfg) fun who => (encodeAccount who).toList := by
  intro bs who rest h
  obtain ⟨b, mid, hbs, h⟩ := (Scale.Canonical.bytes 32).field h
  cases hwho : cfg.decodeAccount b with
  | none =>
      rw [hwho] at h
      cases h
  | some who' =>
      rw [hwho] at h
      obtain ⟨rfl, rfl⟩ := Scale.pure_some.mp h
      rw [hbs, ← (haccount b who').mp hwho]

section Shapes

variable {bs rest : List UInt8} {call : Call AccountId}

/-- A call with the content as its argument. -/
theorem content_some {g : U32 → Call AccountId} (h : (u32 >>= fun c => pure (g c)) bs = some (call, rest)) :
    ∃ c, call = g c ∧ bs = Scale.leBytes 4 c ++ rest := by
  obtain ⟨c, hbs, rfl⟩ := u32_canonical.last h
  exact ⟨c, rfl, hbs⟩

/-- A call with the content and one more argument. -/
theorem content_and_some {α : Type} {d : Scale.Decoder α} {encode : α → List UInt8} (hd : Scale.Canonical d encode)
    {g : U32 → α → Call AccountId}
    (h : (u32 >>= fun c => d >>= fun a => pure (g c a)) bs = some (call, rest)) :
    ∃ c a, call = g c a ∧ bs = (Scale.leBytes 4 c ++ encode a) ++ rest := by
  obtain ⟨c, mid, hbs, h⟩ := u32_canonical.field h
  obtain ⟨a, hmid, rfl⟩ := hd.last h
  exact ⟨c, a, rfl, by rw [hbs, hmid, List.append_assoc]⟩

end Shapes

theorem arguments_canonical (haccount : AccountBytes cfg encodeAccount) {i : UInt8} {bs rest : List UInt8}
    {call : Call AccountId} (h : arguments cfg i bs = some (call, rest)) :
    i = call.index ∧ bs = call.arguments encodeAccount ++ rest := by
  have hwho := account_canonical haccount
  unfold arguments at h
  split at h
  case h_1 =>
    obtain ⟨hash, mid₁, h₁, h⟩ := (Scale.Canonical.bytes 32).field h
    obtain ⟨title, mid₂, h₂, h⟩ := (Scale.Canonical.byte.boundedVec 128).field h
    obtain ⟨subscriptionPrice, mid₃, h₃, h⟩ := u128_canonical.field h
    obtain ⟨ppvPrice, mid₄, h₄, h⟩ := u128_canonical.field h
    obtain ⟨ownershipPrice, mid₅, h₅, h⟩ := u128_canonical.field h
    obtain ⟨periodLength, h₆, rfl⟩ := u32_canonical.last h
    refine ⟨rfl, ?_⟩
    rw [h₁, h₂, h₃, h₄, h₅, h₆]
    simp only [Call.arguments, List.append_assoc]
  case h_10 =>
    obtain ⟨c, mid₁, h₁, h⟩ := u32_canonical.field h
    obtain ⟨beneficiary, mid₂, h₂, h⟩ := hwho.field h
    obtain ⟨numViews, h₃, rfl⟩ := u32_canonical.last h
    refine ⟨rfl, ?_⟩
    rw [h₁, h₂, h₃]
    simp only [Call.arguments, List.append_assoc]
  case h_13 =>
    obtain ⟨c, mid₁, h₁, h⟩ := u32_canonical.field h
    obtain ⟨sender, mid₂, h₂, h⟩ := hwho.field h
    obtain ⟨recipient, h₃, rfl⟩ := hwho.last h
    refine ⟨rfl, ?_⟩
    rw [h₁, h₂, h₃]
    simp only [Call.arguments, List.append_assoc]
  case h_4 =>
    obtain ⟨c, n, rfl, hbs⟩ := content_and_some u32_canonical h
    exact ⟨rfl, hbs⟩
  case h_14 =>
    obtain ⟨c, splits, rfl, hbs⟩ := content_and_some (royaltySplit_canonical.boundedVec maxRoyaltySplits) h
    exact ⟨rfl, hbs⟩
  case h_18 =>
    obtain ⟨c, meter, rfl, hbs⟩ := content_and_some hwho.option h
    exact ⟨rfl, hbs⟩
  case h_8 | h_9 | h_11 | h_12 | h_19 =>
    obtain ⟨c, who, rfl, hbs⟩ := content_and_some hwho h
    exact ⟨rfl, hbs⟩
  case h_20 => cases h
  all_goals
    obtain ⟨c, rfl, hbs⟩ := content_some h
    exact ⟨rfl, hbs⟩

/-- The bytes of a call in front of others. -/
theorem runtimeCall_some (haccount : AccountBytes cfg encodeAccount) {bs rest : List UInt8} {call : Call AccountId} :
    runtimeCall cfg bs = some (call, rest) ↔ bs = call.encode encodeAccount ++ rest := by
  constructor
  · intro h
    obtain ⟨pallet, mid₁, h₁, h⟩ := Scale.Canonical.byte.field h
    split at h
    · rename_i hpallet
      obtain ⟨i, mid₂, h₂, h⟩ := Scale.Canonical.byte.field h
      obtain ⟨rfl, h₃⟩ := arguments_canonical haccount h
      rw [h₁, hpallet, h₂, h₃]
      rfl
    · cases h
  · rintro rfl
    rw [runtimeCall]
    exact runtimeCallAt_decodes (arguments_decodes haccount call) rest

end Codec

/-! ## Main result -/

/-- The calls of the pallet and their bytes are one to one. For every sequence of bytes, the runtime reads a call from
the front of it if and only if it starts with the encoding of this call; so each call has one encoding, no encoding is
the start of another, and every longer or shorter form of a length and every other index is refused. -/
theorem calls_have_one_encoding (cfg : Config AccountId W) (encodeAccount : AccountId → Bytes32)
    (haccount : Codec.AccountBytes cfg encodeAccount) :
    (∀ bs call rest, Codec.runtimeCall cfg bs = some (call, rest) ↔ bs = call.encode encodeAccount ++ rest) ∧
    (∀ bs call, Scale.decodeAll (Codec.runtimeCall cfg) bs = some call ↔ bs = call.encode encodeAccount) ∧
    ∀ (call call' : Call AccountId), call.encode encodeAccount <+: call'.encode encodeAccount → call = call' := by
  refine ⟨fun bs call rest => Codec.runtimeCall_some haccount, ?_, ?_⟩
  · intro bs call
    constructor
    · intro h
      unfold Scale.decodeAll at h
      split at h
      · rename_i call' hread
        cases h
        rw [(Codec.runtimeCall_some haccount).mp hread, List.append_nil]
      · cases h
    · rintro rfl
      have hread := (Codec.runtimeCall_some haccount).mpr (List.append_nil (call.encode encodeAccount)).symm
      rw [Scale.decodeAll, hread]
  · rintro call call' ⟨rest, hrest⟩
    have hread := (Codec.runtimeCall_some haccount).mpr hrest.symm
    have hread' := (Codec.runtimeCall_some haccount).mpr (List.append_nil (call'.encode encodeAccount)).symm
    cases hread.symm.trans hread'
    rfl

/-- The pallet over the reference runtime, with accounts of 32 bytes. -/
def rawAccounts : Config Bytes32 (Frame.Reference.World Bytes32) where
  currency := Frame.Reference.currency 1
  maxBalance := u128Max
  nfts := Frame.Reference.nfts 2
  collectionDeposit := 2
  keyLimit := 50
  valueLimit := 50
  minAutoRenewPeriod := 10
  decodeAccount b := some b

theorem rawAccounts_have_one_encoding :
    Scale.decodeAll (Codec.runtimeCall rawAccounts) (Call.encode id (.setMeter 7 (some (Vector.replicate 32 1)))) =
      some (.setMeter 7 (some (Vector.replicate 32 1))) := by
  have haccount : Codec.AccountBytes rawAccounts id := fun b who => by simp [rawAccounts, eq_comm]
  exact ((calls_have_one_encoding rawAccounts id haccount).2.1 _ _).mpr rfl

end Ccrms.Rights
