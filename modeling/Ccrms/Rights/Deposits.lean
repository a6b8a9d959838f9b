import Ccrms.Frame.DepositReference
import Ccrms.Rights.Lemmas.Deposits
import Ccrms.Rights.Ownership

/-!
# Deposits and live receipts

Two deposits of the creator stand behind every live child item. A burn returns one of them, and the attribute of the
burned item keeps the other.
-/

namespace Ccrms.Rights

open Ccrms.Lib Ccrms.Frame

variable {AccountId W : Type} [DecidableEq AccountId] {cfg : Config AccountId W} {d : NftDeposits AccountId W}

/-- What is reserved from the creator for a content are the deposits of the collection, of the parent item, and of its
live child items. -/
def DepositsFollow (cfg : Config AccountId W) (d : NftDeposits AccountId W) (s : State AccountId W) (c : Nat) : Prop :=
  ∀ content, s.store.contents c = some content →
    d.held s.world content.collectionId content.creator = cfg.collectionDeposit + d.itemDeposit +
      (d.itemDeposit + rightsDeposit d) * {i | s.store.parent content.collectionId i ≠ none}.ncard

omit [DecidableEq AccountId] in
theorem Storage.Ledger.follow_iff {excess : Nat → Nat} {s : State AccountId W}
    (hL : s.store.Ledger cfg d excess s.world) (c : Nat) : DepositsFollow cfg d s c ↔ excess c = 0 := by
  cases hc : s.store.contents c with
  | none =>
      refine ⟨fun _ => hL.unregistered c hc, fun _ content hsome => ?_⟩
      cases hc.symm.trans hsome
  | some content =>
      have hheld : d.held s.world content.collectionId content.creator = cfg.collectionDeposit + d.itemDeposit +
          (d.itemDeposit + rightsDeposit d) * {i | s.store.parent content.collectionId i ≠ none}.ncard + excess c :=
        hL.held c content hc
      constructor
      · intro h
        have := h content hc
        omega
      · intro hzero content' hc'
        obtain rfl : content = content' := Option.some.inj (hc.symm.trans hc')
        omega

theorem run_follow_iff (cfg : Config AccountId W) (hd : d.Lawful cfg.nfts cfg.currency) (hnfts : cfg.nfts.Lawful)
    (hsep : cfg.nfts.Separate cfg.currency) (n₀ : U32) {w₀ : W} (hw : Unused cfg d w₀) (as : List (Action AccountId W))
    (hown : ∀ a ∈ as, a.own = true) (c : Nat) :
    DepositsFollow cfg d ((chain cfg).run (.init n₀ w₀) as).2 c ↔
      rightsDeposit d = 0 ∨ (chain cfg).Along (KeepsChildren cfg c) (.init n₀ w₀) as := by
  obtain ⟨excess, hL, hzero⟩ := run_ledger cfg hd hnfts hsep n₀ hw as hown
  rw [hL.follow_iff, hzero]

/-- In every state that the pallet reaches on its own, the deposits follow the live child items exactly if no step on
the way burned a child item of the content, by moving an ownership or by consuming the last view of a pack. Every
transfer of an ownership reserves one more attribute deposit from the creator, and takes it from its free balance. -/
theorem deposits_follow_iff (cfg : Config AccountId W) (d : NftDeposits AccountId W)
    (hd : d.Lawful cfg.nfts cfg.currency) (hnfts : cfg.nfts.Lawful) (hsep : cfg.nfts.Separate cfg.currency) (n₀ : U32)
    (w₀ : W) (hw : Unused cfg d w₀) (as : List (Action AccountId W)) (hown : ∀ a ∈ as, a.own = true) (c : U32) :
    let s := ((chain cfg).run (.init n₀ w₀) as).2
    (DepositsFollow cfg d s c ↔
      rightsDeposit d = 0 ∨ (chain cfg).Along (KeepsChildren cfg c) (.init n₀ w₀) as) ∧
    ∀ x sender recipient call content s', call.MovesOwnership c x sender recipient →
      s.store.contents c = some content → dispatch cfg (.signed x) call s = .ok () s' →
      cfg.currency.reserved s'.world content.creator =
          cfg.currency.reserved s.world content.creator + rightsDeposit d ∧
        cfg.currency.free s'.world content.creator + rightsDeposit d = cfg.currency.free s.world content.creator := by
  intro s
  refine ⟨run_follow_iff cfg hd hnfts hsep n₀ hw as hown c, ?_⟩
  intro x sender recipient call content s' hcall hc hok
  obtain ⟨who, hwho, heff, _⟩ := dispatch_ok hok
  cases hwho
  have hop : call.op x = .transferOwnership x sender recipient c := by
    rcases hcall with ⟨rfl, rfl⟩ | rfl
    · rfl
    · rfl
  rw [hop] at heff
  obtain ⟨excess, hL, _⟩ := run_ledger cfg hd hnfts hsep n₀ hw as hown
  exact heff.transfer_reserves hd hnfts hsep (run_own_receipted cfg hnfts hsep n₀ hw hown) hL hc

/-! ## The deposits of the mock runtime -/

namespace Reference

abbrev DepositWorld := DepositReference.World Nat

/-- The deposits of the mock runtime: one for an item, and for an attribute one and one more for every byte. -/
def prices : DepositReference.Prices := ⟨1, fun bytes => 1 + bytes⟩

def depositConfig : Config Nat DepositWorld where
  currency := DepositReference.currency prices 1
  maxBalance := 2 ^ 64 - 1
  nfts := DepositReference.nfts prices 2
  collectionDeposit := 2
  keyLimit := 50
  valueLimit := 50
  minAutoRenewPeriod := 100
  decodeAccount := (config 1 100).decodeAccount

def depositGenesis : DepositWorld := .genesis fun _ => 1000000

theorem unused_genesis : Unused depositConfig (DepositReference.nftDeposits prices) depositGenesis where
  items _ _ _ := rfl
  deposits _ _ := ⟨fun _ => rfl, fun i key h => by
    obtain ⟨_, _, hmem⟩ := h
    cases hmem⟩

end Reference

/-- Account 2 buys the ownership from account 1, and account 3 subscribes. -/
def holdersRun : List (Action Nat Reference.DepositWorld) :=
  [.extrinsic (.signed 1) (.registerContent (Vector.replicate 32 0) Reference.title 100 10 500 100),
    .extrinsic (.signed 2) (.purchaseOwnership 0), .extrinsic (.signed 3) (.subscribe 0)]

def holdersState : State Nat Reference.DepositWorld :=
  ((chain Reference.depositConfig).run (.init 1 Reference.depositGenesis) holdersRun).2

theorem holdersRun_follows :
    DepositsFollow Reference.depositConfig (DepositReference.nftDeposits Reference.prices) holdersState 0 ∧
      ∃ s', dispatch Reference.depositConfig (.signed 2) (.transferOwnership 0 3) holdersState = .ok () s' ∧
        Reference.depositConfig.currency.reserved s'.world 1 =
          Reference.depositConfig.currency.reserved holdersState.world 1 + 13 := by
  have h := deposits_follow_iff Reference.depositConfig (DepositReference.nftDeposits Reference.prices)
    (DepositReference.deposits_lawful _ 1 2) (DepositReference.nfts_lawful _ 2) (DepositReference.separate _ 1 2) 1
    Reference.depositGenesis Reference.unused_genesis holdersRun (by decide) 0
  refine ⟨h.1.mpr (Or.inr ?_), ?_⟩
  · simp only [holdersRun, Machine.Along, KeepsChildren]
    decide +kernel
  · have hc : holdersState.store.contents 0 =
        some ⟨1, Vector.replicate 32 0, 0, 0, Reference.title, 100, 10, 500, 100⟩ := by
      decide +kernel
    have hok : Exec.OkWith (fun _ _ => True)
        (dispatch Reference.depositConfig (.signed 2) (.transferOwnership 0 3) holdersState) := by
      decide +kernel
    obtain ⟨_, s', hok, _⟩ := Exec.okWith_iff.mp hok
    exact ⟨s', hok, (h.2 2 2 3 _ _ s' (Or.inl ⟨rfl, rfl⟩) hc hok).1⟩

/-- The ownership goes to account 3 and back. -/
def backAndForthRun : List (Action Nat Reference.DepositWorld) :=
  [.extrinsic (.signed 1) (.registerContent (Vector.replicate 32 0) Reference.title 100 10 500 100),
    .extrinsic (.signed 2) (.purchaseOwnership 0), .extrinsic (.signed 2) (.transferOwnership 0 3),
    .extrinsic (.signed 3) (.transferOwnership 0 2)]

/-- One child item is alive before and after, and every transfer has cost the creator an attribute deposit. -/
theorem backAndForthRun_drains_creator :
    let cfg := Reference.depositConfig
    let start := (chain cfg).run (.init 1 Reference.depositGenesis) (backAndForthRun.take 2)
    let r := (chain cfg).run (.init 1 Reference.depositGenesis) backAndForthRun
    r.1.map (fun x => x.ok) = [true, true, true, true] ∧
      cfg.currency.reserved start.2.world 1 = 17 ∧ cfg.currency.reserved r.2.world 1 = 17 + 2 * 13 ∧
      cfg.currency.free r.2.world 1 + 2 * 13 = cfg.currency.free start.2.world 1 ∧
      ¬ DepositsFollow cfg (DepositReference.nftDeposits Reference.prices) r.2 0 := by
  refine ⟨by decide +kernel, by decide +kernel, by decide +kernel, by decide +kernel, ?_⟩
  rw [run_follow_iff Reference.depositConfig (DepositReference.deposits_lawful _ 1 2)
    (DepositReference.nfts_lawful _ 2) (DepositReference.separate _ 1 2) 1 Reference.unused_genesis backAndForthRun
    (by decide) 0]
  simp only [backAndForthRun, Machine.Along, KeepsChildren]
  decide +kernel

end Ccrms.Rights
