import Ccrms.Client.Reference
import Ccrms.Network.Protocol
import Ccrms.Rights.Reference

/-!
# The call of a request

The client writes the call of the rights chain by hand, with the call indices as literals; the rights chain reads it
with the layout of its runtime. The bytes are read back as the call that the request asks for.
-/

namespace Ccrms.Network

open Ccrms.Lib Ccrms.Frame

variable {UserId AccountId Location Asset WA WB : Type} {rights : Rights.Config AccountId WA}

theorem decodes_remoteCall (client : Client.Config UserId Location Asset WB) (request : Client.RightsRequest)
    {b : Bytes32} {who : AccountId} (h : rights.decodeAccount b = some who) :
    Scale.Decodes (Rights.Codec.runtimeCallAt rights client.rightsPalletIndex) (Client.remoteCall client request b)
      (requestedCall who request) := by
  have hwho := Rights.Codec.account_decodes h
  cases request with
  | subscribe c | renewSubscription c | purchaseOwnership c =>
      simp only [Client.remoteCall]
      rw [List.append_assoc]
      exact Rights.Codec.runtimeCallAt_decodes ((Rights.Codec.u32_decodes c).bind (hwho.map _))
  | purchaseViews c n =>
      simp only [Client.remoteCall]
      rw [List.append_assoc, List.append_assoc]
      exact Rights.Codec.runtimeCallAt_decodes
        ((Rights.Codec.u32_decodes c).bind (hwho.bind ((Rights.Codec.u32_decodes n).map _)))

theorem requestedCall_inj {who who' : AccountId} {request request' : Client.RightsRequest}
    (h : requestedCall who request = requestedCall who' request') : who = who' ∧ request = request' := by
  cases request with
  | subscribe | renewSubscription | purchaseViews | purchaseOwnership =>
      cases request' with
      | subscribe | renewSubscription | purchaseViews | purchaseOwnership =>
          cases h <;> exact ⟨rfl, rfl⟩

/-- Whatever index the client gives the pallet, a runtime with this index reads all the bytes of `remote_call` as the
call of the request, for the account with the 32 bytes of the beneficiary. So no two requests, and no two beneficiaries,
have the same bytes. An account is read from any 32 bytes, which are its encoding. -/
theorem remote_call_is_intended (client : Client.Config UserId Location Asset WB) (rights : Rights.Config AccountId WA)
    (encode : AccountId → Bytes32) (haccount : ∀ b, ∃ who, rights.decodeAccount b = some who ∧ encode who = b) :
    (∀ request b, ∃ who, encode who = b ∧
      Scale.decodeAll (Rights.Codec.runtimeCallAt rights client.rightsPalletIndex)
        (Client.remoteCall client request b) = some (requestedCall who request)) ∧
    ∀ request request' b b', (request, b) ≠ (request', b') →
      Client.remoteCall client request b ≠ Client.remoteCall client request' b' := by
  have hread : ∀ request b, ∃ who, encode who = b ∧
      Scale.decodeAll (Rights.Codec.runtimeCallAt rights client.rightsPalletIndex)
        (Client.remoteCall client request b) = some (requestedCall who request) := by
    intro request b
    obtain ⟨who, hwho, hb⟩ := haccount b
    exact ⟨who, hb, Scale.decodeAll_of_decodes (decodes_remoteCall client request hwho)⟩
  refine ⟨hread, ?_⟩
  intro request request' b b' hne hsame
  obtain ⟨who, rfl, hcall⟩ := hread request b
  obtain ⟨who', rfl, hcall'⟩ := hread request' b'
  rw [hsame, hcall'] at hcall
  obtain ⟨rfl, rfl⟩ := requestedCall_inj (Option.some.inj hcall)
  exact hne rfl

/-- The rights chain with accounts that are their 32 bytes, as in its runtime. -/
def bytesConfig : Rights.Config Bytes32 (Frame.Reference.World Bytes32) where
  currency := Frame.Reference.currency 1
  maxBalance := u128Max
  nfts := Frame.Reference.nfts 2
  collectionDeposit := 2
  keyLimit := 50
  valueLimit := 50
  minAutoRenewPeriod := 100
  decodeAccount := some

theorem view_request_is_intended :
    let client := Client.Reference.config 1
    let user : Bytes32 := Vector.replicate 32 9
    Scale.decodeAll (Rights.Codec.runtimeCall bytesConfig) (Client.remoteCall client (.purchaseViews 7 3) user) =
        some (.xcmPurchaseViews 7 user 3) ∧
      Client.remoteCall client (.purchaseViews 7 3) user ≠ Client.remoteCall client (.purchaseViews 3 7) user := by
  intro client user
  obtain ⟨hread, hdiffer⟩ := remote_call_is_intended client bytesConfig id fun b => ⟨b, rfl, rfl⟩
  obtain ⟨who, rfl, hcall⟩ := hread (.purchaseViews 7 3) user
  exact ⟨hcall, hdiffer _ _ _ _ (by decide)⟩

end Ccrms.Network
