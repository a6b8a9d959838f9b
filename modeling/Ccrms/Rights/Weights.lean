import Ccrms.Frame.Weights
import Ccrms.Rights.Reports

/-!
# pallet-content-rights: weights

The benchmarked weights of `weights.rs`, the weight that a call declares and the one it corrects to after dispatch, and
the weight of the renewal hook. A paid call and the hook are charged by the number of royalty splits, and the events of
a block tell how many splits its hook was charged with.
-/

namespace Ccrms.Rights

open Ccrms.Lib Ccrms.Frame Ccrms.Lib.Exec

/-! ## Benchmarked weights -/

namespace SubstrateWeight

variable (db : RuntimeDbWeight)

def registerContent : Weight := fixedWeight db ⟨70000000, 4326⟩ 5 11
def subscribe : Nat → Weight := linearWeight db ⟨149138553, 4326⟩ 11 9 ⟨34123328, 1, 1, 2603⟩
def renewSubscription : Nat → Weight := linearWeight db ⟨57524531, 3826⟩ 4 2 ⟨35980855, 1, 1, 2569⟩
def purchaseViews : Nat → Weight := linearWeight db ⟨135930562, 4326⟩ 11 9 ⟨35452972, 1, 1, 2603⟩
def consumeView : Weight := fixedWeight db ⟨71000000, 4326⟩ 8 10
def purchaseOwnership : Nat → Weight := linearWeight db ⟨135114826, 4326⟩ 11 9 ⟨36319286, 1, 1, 2603⟩
def checkAccess : Weight := fixedWeight db ⟨20000000, 3739⟩ 4 0
def xcmSubscribe : Nat → Weight := linearWeight db ⟨134689528, 4326⟩ 11 9 ⟨35943467, 1, 1, 2603⟩
def xcmRenewSubscription : Nat → Weight := linearWeight db ⟨55843599, 3826⟩ 4 2 ⟨36117345, 1, 1, 2569⟩
def xcmPurchaseViews : Nat → Weight := linearWeight db ⟨137227447, 4326⟩ 11 9 ⟨35333308, 1, 1, 2603⟩
def xcmPurchaseOwnership : Nat → Weight := linearWeight db ⟨135054516, 4326⟩ 11 9 ⟨36348115, 1, 1, 2603⟩
def transferOwnership : Weight := fixedWeight db ⟨150000000, 7662⟩ 15 17
def xcmTransferOwnership : Weight := fixedWeight db ⟨151000000, 7662⟩ 15 17
def setRoyaltySplits : Nat → Weight := linearWeight db ⟨11785315, 3739⟩ 1 1 ⟨151, 0, 0, 0⟩
def enableAutoRenew : Weight := fixedWeight db ⟨343000000, 285790⟩ 102 3
def disableAutoRenew : Weight := fixedWeight db ⟨14000000, 3542⟩ 1 2
def queryRightsMetadata : Nat → Weight := linearWeight db ⟨13117364, 3826⟩ 2 0 ⟨3238, 0, 0, 0⟩
def setMeter : Weight := fixedWeight db ⟨12000000, 3739⟩ 1 1
def consumeViewFor : Weight := fixedWeight db ⟨75000000, 4326⟩ 9 10
def onInitializeRenewals : Nat → Weight := linearWeight db ⟨125702887, 191296⟩ 67 2 ⟨215078564, 10, 3, 15235⟩
def onInitializeSplitPayments : Nat → Weight := linearWeight db ⟨2238674613, 288638⟩ 152 32 ⟨33980924, 1, 1, 2600⟩

end SubstrateWeight

variable {AccountId W : Type} [DecidableEq AccountId] (cfg : Config AccountId W) (db : RuntimeDbWeight)

/-! ## The weight of a call -/

/-- The weight of a call for a content with `n` royalty splits. -/
def Call.weightFor (n : Nat) : Call AccountId → Weight
  | .registerContent .. => SubstrateWeight.registerContent db
  | .subscribe _ => SubstrateWeight.subscribe db n
  | .renewSubscription _ => SubstrateWeight.renewSubscription db n
  | .purchaseViews _ _ => SubstrateWeight.purchaseViews db n
  | .consumeView _ => SubstrateWeight.consumeView db
  | .purchaseOwnership _ => SubstrateWeight.purchaseOwnership db n
  | .checkAccess _ => SubstrateWeight.checkAccess db
  | .xcmSubscribe _ _ => SubstrateWeight.xcmSubscribe db n
  | .xcmRenewSubscription _ _ => SubstrateWeight.xcmRenewSubscription db n
  | .xcmPurchaseViews _ _ _ => SubstrateWeight.xcmPurchaseViews db n
  | .xcmPurchaseOwnership _ _ => SubstrateWeight.xcmPurchaseOwnership db n
  | .transferOwnership _ _ => SubstrateWeight.transferOwnership db
  | .xcmTransferOwnership _ _ _ => SubstrateWeight.xcmTransferOwnership db
  | .setRoyaltySplits _ splits => SubstrateWeight.setRoyaltySplits db splits.length
  | .enableAutoRenew _ => SubstrateWeight.enableAutoRenew db
  | .disableAutoRenew _ => SubstrateWeight.disableAutoRenew db
  | .queryRightsMetadata _ => SubstrateWeight.queryRightsMetadata db n
  | .setMeter _ _ => SubstrateWeight.setMeter db
  | .consumeViewFor _ _ => SubstrateWeight.consumeViewFor db

/-- The weight that a call declares before dispatch. -/
def Call.weight (call : Call AccountId) : Weight := call.weightFor db maxRoyaltySplits

/-- `Ok(Some(weight(n)).into())`, from the number `n` that the body of a call returns. -/
def corrected (weight : Nat → Weight) (x : PalletM AccountId W Nat) : PalletM AccountId W (Option Weight) := do
  let n ← x
  pure (some (weight n))

/-- The body of a call with its `actual_weight`, which is `none` where the source returns `DispatchResult`. -/
def Call.bodyWithPostInfo (origin : Origin AccountId) : Call AccountId → PalletM AccountId W (Option Weight)
  | .subscribe c => corrected (SubstrateWeight.subscribe db) (Rights.subscribe cfg origin c)
  | .renewSubscription c => corrected (SubstrateWeight.renewSubscription db) (Rights.renewSubscription cfg origin c)
  | .purchaseViews c n => corrected (SubstrateWeight.purchaseViews db) (Rights.purchaseViews cfg origin c n)
  | .purchaseOwnership c => corrected (SubstrateWeight.purchaseOwnership db) (Rights.purchaseOwnership cfg origin c)
  | .xcmSubscribe c b => corrected (SubstrateWeight.xcmSubscribe db) (Rights.xcmSubscribe cfg origin c b)
  | .xcmRenewSubscription c b =>
      corrected (SubstrateWeight.xcmRenewSubscription db) (Rights.xcmRenewSubscription cfg origin c b)
  | .xcmPurchaseViews c b n =>
      corrected (SubstrateWeight.xcmPurchaseViews db) (Rights.xcmPurchaseViews cfg origin c b n)
  | .xcmPurchaseOwnership c b =>
      corrected (SubstrateWeight.xcmPurchaseOwnership db) (Rights.xcmPurchaseOwnership cfg origin c b)
  | .queryRightsMetadata c =>
      corrected (SubstrateWeight.queryRightsMetadata db) (Rights.queryRightsMetadata origin c)
  | call => do
      call.body cfg origin
      pure none

/-- The weight that a call is charged with: the corrected one, or the declared one if there is none or the call fails.
-/
def Call.chargedWeight (origin : Origin AccountId) (call : Call AccountId) (s : State AccountId W) : Weight :=
  match call.bodyWithPostInfo cfg db origin s with
  | .ok (some weight) _ => weight
  | _ => call.weight db

/-! ## The weight of the hook -/

def renewalsWeight (n p : Nat) : Weight :=
  let base := SubstrateWeight.onInitializeRenewals db n
  let splits := (SubstrateWeight.onInitializeSplitPayments db p).saturatingSub
    (SubstrateWeight.onInitializeSplitPayments db 0)
  base.saturatingAdd splits

/-- What `on_initialize` returns. -/
def onInitializeWeight (s : State AccountId W) : Weight :=
  let r := onInitialize cfg s
  renewalsWeight db r.1.1 r.1.2

/-! ## What a call is charged with -/

/-- The royalty splits in force for the content of a call whose weight is corrected. -/
def Call.splits (st : Storage AccountId) : Call AccountId → Nat
  | .subscribe c | .renewSubscription c | .purchaseViews c _ | .purchaseOwnership c | .xcmSubscribe c _
  | .xcmRenewSubscription c _ | .xcmPurchaseViews c _ _ | .xcmPurchaseOwnership c _ | .queryRightsMetadata c =>
      (st.royaltySplits c).length
  | _ => 0

def royalties (evs : List (Event AccountId)) : Nat := evs.countP Event.isRoyalty

section Calls

variable {cfg db} {s s' : State AccountId W} {origin : Origin AccountId} {call : Call AccountId}

omit [DecidableEq AccountId] in
theorem Call.splits_le (st : Storage AccountId) (call : Call AccountId) : call.splits st ≤ maxRoyaltySplits := by
  cases call with
  | subscribe c | renewSubscription c | purchaseViews c | purchaseOwnership c | xcmSubscribe c
  | xcmRenewSubscription c | xcmPurchaseViews c | xcmPurchaseOwnership c | queryRightsMetadata c =>
      exact (st.royaltySplits c).bounded
  | _ => exact Nat.zero_le _

omit [DecidableEq AccountId] in
theorem royalties_append (xs ys : List (Event AccountId)) : royalties (xs ++ ys) = royalties xs + royalties ys :=
  List.countP_append

omit [DecidableEq AccountId] in
theorem royalties_payReport (st : Storage AccountId) (c amount : Nat) :
    royalties (payReport cfg st c amount) ≤ (st.royaltySplits c).length := by
  refine List.countP_le_length.trans ?_
  rw [payReport, royaltyEvents, List.length_map]
  exact List.length_filterMap_le _ _

omit [DecidableEq AccountId] in
theorem corrected_ok {weight : Nat → Weight} {x : PalletM AccountId W Nat} {n : Nat} (h : x s = .ok n s') :
    corrected weight x s = .ok (some (weight n)) s' :=
  bind_of_ok h _

omit [DecidableEq AccountId] in
theorem corrected_error {weight : Nat → Weight} {x : PalletM AccountId W Nat} {e : DispatchError Error}
    (h : x s = .error e s') : corrected weight x s = .error e s' :=
  bind_of_error h _

omit [DecidableEq AccountId] in
/-- A body without a correction is charged with what was declared. -/
theorem uncorrected_charged (x : PalletM AccountId W Unit) (declared : Weight) (s : State AccountId W) :
    (match (do x; pure none : PalletM AccountId W (Option Weight)) s with
      | .ok (some w) _ => w
      | _ => declared) = declared := by
  cases h : x s with
  | ok _ s' =>
      rw [bind_of_ok h]
      rfl
  | error e s' => rw [bind_of_error h]

omit [DecidableEq AccountId] in
theorem corrected_le {weight : Nat → Weight} {x : PalletM AccountId W Nat} {k : Nat} (hk : k ≤ maxRoyaltySplits)
    (hmono : ∀ {m n}, m ≤ n → (weight m).AllLte (weight n)) (hx : ∀ n s', x s = .ok n s' → n = k) :
    (match corrected weight x s with
      | .ok (some w) _ => w
      | _ => weight maxRoyaltySplits).AllLte (weight maxRoyaltySplits) := by
  cases h : x s with
  | ok n s' =>
      rw [corrected_ok h, hx n s' h]
      exact hmono hk
  | error e s' =>
      rw [corrected_error h]
      exact Weight.AllLte.refl _

/-- The correction of a call never exceeds what it declared. -/
theorem Call.chargedWeight_le (call : Call AccountId) :
    (call.chargedWeight cfg db origin s).AllLte (call.weight db) := by
  have hk := call.splits_le s.store
  cases call with
  | subscribe => exact corrected_le hk (linearWeight_mono db _ _ _ _) fun _ _ h => (subscribe_ok h).1
  | renewSubscription => exact corrected_le hk (linearWeight_mono db _ _ _ _) fun _ _ h => (renewSubscription_ok h).1
  | purchaseViews => exact corrected_le hk (linearWeight_mono db _ _ _ _) fun _ _ h => (purchaseViews_ok h).1
  | purchaseOwnership => exact corrected_le hk (linearWeight_mono db _ _ _ _) fun _ _ h => (purchaseOwnership_ok h).1
  | xcmSubscribe => exact corrected_le hk (linearWeight_mono db _ _ _ _) fun _ _ h => (xcmSubscribe_ok h).1
  | xcmRenewSubscription =>
      exact corrected_le hk (linearWeight_mono db _ _ _ _) fun _ _ h => (xcmRenewSubscription_ok h).1
  | xcmPurchaseViews => exact corrected_le hk (linearWeight_mono db _ _ _ _) fun _ _ h => (xcmPurchaseViews_ok h).1
  | xcmPurchaseOwnership =>
      exact corrected_le hk (linearWeight_mono db _ _ _ _) fun _ _ h => (xcmPurchaseOwnership_ok h).1
  | queryRightsMetadata =>
      exact corrected_le hk (linearWeight_mono db _ _ _ _) fun _ _ h => (queryRightsMetadata_ok cfg h).1
  | _ =>
      unfold Call.chargedWeight Call.bodyWithPostInfo
      rw [uncorrected_charged]
      exact Weight.AllLte.refl _

omit [DecidableEq AccountId] in
theorem corrected_eq {weight : Nat → Weight} {x : PalletM AccountId W Nat} {k : Nat} {u : Unit} {declared : Weight}
    (hx : ∀ n s', x s = .ok n s' → n = k) (h : dropWeight x s = .ok u s') :
    (match corrected weight x s with
      | .ok (some w) _ => w
      | _ => declared) = weight k := by
  obtain ⟨n, hn⟩ := dropWeight_ok.mp h
  rw [corrected_ok hn, hx n s' hn]

/-- A call that succeeds is charged for the splits in force, and makes at most so many royalty transfers. -/
theorem Call.chargedWeight_ok {u : Unit} (h : dispatch cfg origin call s = .ok u s') :
    call.chargedWeight cfg db origin s = call.weightFor db (call.splits s.store) := by
  unfold dispatch at h
  rw [withStorageLayer_ok] at h
  cases call with
  | subscribe => exact corrected_eq (fun _ _ h => (subscribe_ok h).1) h
  | renewSubscription => exact corrected_eq (fun _ _ h => (renewSubscription_ok h).1) h
  | purchaseViews => exact corrected_eq (fun _ _ h => (purchaseViews_ok h).1) h
  | purchaseOwnership => exact corrected_eq (fun _ _ h => (purchaseOwnership_ok h).1) h
  | xcmSubscribe => exact corrected_eq (fun _ _ h => (xcmSubscribe_ok h).1) h
  | xcmRenewSubscription => exact corrected_eq (fun _ _ h => (xcmRenewSubscription_ok h).1) h
  | xcmPurchaseViews => exact corrected_eq (fun _ _ h => (xcmPurchaseViews_ok h).1) h
  | xcmPurchaseOwnership => exact corrected_eq (fun _ _ h => (xcmPurchaseOwnership_ok h).1) h
  | queryRightsMetadata => exact corrected_eq (fun _ _ h => (queryRightsMetadata_ok cfg h).1) h
  | _ => exact uncorrected_charged _ _ s

omit [DecidableEq AccountId] in
theorem royalties_reportOn {st : Storage AccountId} {c n : Nat}
    {report : ContentMetadata AccountId → List (Event AccountId)} (h : ∀ content, royalties (report content) ≤ n) :
    royalties (st.reportOn c report) ≤ n := by
  unfold Storage.reportOn
  split
  · exact h _
  · exact Nat.zero_le n

omit [DecidableEq AccountId] in
/-- A payment that is followed by other reports. -/
theorem royalties_paid {st : Storage AccountId} {c amount : Nat} {rest : List (Event AccountId)}
    (h : royalties rest = 0) : royalties (payReport cfg st c amount ++ rest) ≤ (st.royaltySplits c).length := by
  rw [royalties_append, h]
  exact royalties_payReport st c amount

omit [DecidableEq AccountId] in
/-- A call reports at most one royalty transfer for each split. -/
theorem Call.royalties_report (who : AccountId) (call : Call AccountId) :
    royalties (call.report cfg who s) ≤ call.splits s.store := by
  cases call with
  | subscribe | renewSubscription | purchaseOwnership | xcmSubscribe | xcmRenewSubscription | xcmPurchaseOwnership =>
      exact royalties_reportOn fun _ => royalties_paid rfl
  | purchaseViews | xcmPurchaseViews =>
      refine royalties_reportOn fun _ => ?_
      rw [viewsReport, List.append_assoc]
      refine royalties_paid ?_
      split <;> rfl
  | transferOwnership | xcmTransferOwnership | queryRightsMetadata =>
      exact royalties_reportOn fun _ => Nat.zero_le _
  | _ => exact Nat.zero_le _

end Calls

/-! ## What the hook is charged with -/

/-- The split transfers that the hook charges for an event: those of a paid renewal, and all of them where a payment was
rolled back. -/
def Event.splitCharge (splits : Nat → BoundedVec RoyaltySplit maxRoyaltySplits) : Event AccountId → Nat
  | .autoRenewalProcessed c _ _ => (splits c).length
  | .autoRenewalFailed _ _ .insufficientBalance => maxRoyaltySplits
  | _ => 0

def splitCharges (splits : Nat → BoundedVec RoyaltySplit maxRoyaltySplits) (evs : List (Event AccountId)) : Nat :=
  (evs.map (Event.splitCharge splits)).sum

/-- The hook went from `s` to `s'` and charged for `p` split transfers. -/
structure Charges (s : State AccountId W) (p : Nat) (s' : State AccountId W) : Prop where
  splits : s'.store.royaltySplits = s.store.royaltySplits
  told : ∃ evs, s'.events = s.events ++ evs ∧ p = splitCharges s.store.royaltySplits evs ∧ royalties evs ≤ p

section Hook

variable {s s' s'' : State AccountId W} {p q : Nat}

omit [DecidableEq AccountId] in
theorem splitCharges_append (splits : Nat → BoundedVec RoyaltySplit maxRoyaltySplits) (xs ys : List (Event AccountId)) :
    splitCharges splits (xs ++ ys) = splitCharges splits xs + splitCharges splits ys := by
  simp [splitCharges]

omit [DecidableEq AccountId] in
theorem splitCharges_payReport (splits : Nat → BoundedVec RoyaltySplit maxRoyaltySplits) (st : Storage AccountId)
    (c amount : Nat) : splitCharges splits (payReport cfg st c amount) = 0 := by
  rw [splitCharges, payReport, royaltyEvents, List.map_map, List.sum_eq_zero_iff_forall_eq_nat]
  intro n hn
  obtain ⟨_, _, rfl⟩ := List.mem_map.mp hn
  rfl

omit [DecidableEq AccountId] in
theorem Charges.refl (h : s'.store.royaltySplits = s.store.royaltySplits) (hev : s'.events = s.events) :
    Charges s 0 s' := ⟨h, [], by simp [hev], rfl, Nat.le_refl 0⟩

omit [DecidableEq AccountId] in
theorem Charges.trans (h : Charges s p s') (h' : Charges s' q s'') : Charges s (p + q) s'' := by
  obtain ⟨hsplits, evs, hev, rfl, hle⟩ := h
  obtain ⟨hsplits', evs', hev', rfl, hle'⟩ := h'
  refine ⟨hsplits'.trans hsplits, evs ++ evs', ?_, ?_, ?_⟩
  · rw [hev', hev, List.append_assoc]
  · rw [hsplits, splitCharges_append]
  · rw [royalties_append]
    omega

variable (c : Nat) (who : AccountId)

theorem mutateSubscription_royaltySplits (f : SubscriptionInfo → SubscriptionInfo) (st : Storage AccountId) :
    (st.mutateSubscription c who f).royaltySplits = st.royaltySplits := by
  unfold Storage.mutateSubscription
  split <;> rfl

theorem stopAutoRenew_charges (reason : AutoRenewFailReason) (s : State AccountId W) :
    Charges s (if reason = .insufficientBalance then maxRoyaltySplits else 0) (stopAutoRenew c who reason s) := by
  refine ⟨mutateSubscription_royaltySplits c who _ _, [.autoRenewalFailed c who reason], rfl, ?_, Nat.zero_le _⟩
  cases reason <;> rfl

theorem requeueOrStop_charges (at_ : Nat) (s : State AccountId W) : Charges s 0 (requeueOrStop c who at_ s) := by
  rcases requeueOrStop_cases c who at_ s with ⟨q, _, he⟩ | ⟨_, he⟩
  · rw [he]
    exact .refl rfl rfl
  · rw [he, ← stopAutoRenew_eq]
    exact stopAutoRenew_charges c who .renewalQueueFull s

/-- One entry of the bucket. -/
theorem processEntry_charges (s : State AccountId W) :
    Charges s (processEntry cfg c who s).1 (processEntry cfg c who s).2 ∧
      (processEntry cfg c who s).1 ≤ maxRoyaltySplits := by
  unfold processEntry
  split
  · exact ⟨.refl rfl rfl, Nat.zero_le _⟩
  cases s.store.subscriptions c who with
  | none => exact ⟨.refl rfl rfl, Nat.zero_le _⟩
  | some sub =>
      simp only
      split
      · exact ⟨.refl rfl rfl, Nat.zero_le _⟩
      split
      · exact ⟨requeueOrStop_charges c who sub.expiryBlock s, Nat.zero_le _⟩
      cases s.store.contents c with
      | none => exact ⟨stopAutoRenew_charges c who .contentNotFound s, Nat.zero_le _⟩
      | some content =>
          simp only
          cases hp : withStorageLayer (payWithRoyalties cfg who content.creator c content.subscriptionPrice) s with
          | ok n s₁ =>
              obtain ⟨hn, w, _, rfl⟩ := payWithRoyalties_ok (withStorageLayer_ok.mp hp)
              -- The payment and the paid renewal, and what re-queuing adds.
              have hpaid : Charges s n ((((s.setWorld w).deposit
                  (payReport cfg s.store c content.subscriptionPrice)).mapStore
                  (Storage.mutateSubscription c who fun sub =>
                    { sub with expiryBlock := satAdd32 s.now content.periodLength })).deposit
                      [.autoRenewalProcessed c who (satAdd32 s.now content.periodLength)]) := by
                refine ⟨mutateSubscription_royaltySplits c who _ _, payReport cfg s.store c content.subscriptionPrice ++
                  [.autoRenewalProcessed c who (satAdd32 s.now content.periodLength)], ?_, ?_, ?_⟩
                · simp
                · rw [splitCharges_append, splitCharges_payReport, hn]
                  simp [splitCharges, Event.splitCharge]
                · rw [hn]
                  exact royalties_paid rfl
              exact ⟨hpaid.trans (requeueOrStop_charges c who _ _), hn ▸ (s.store.royaltySplits c).bounded⟩
          | error e s₁ =>
              rw [withStorageLayer_error hp]
              exact ⟨stopAutoRenew_charges c who .insufficientBalance s, Nat.le_refl _⟩

/-- All entries of the bucket. The sum of the charges stays far below the saturation of `u32`. -/
theorem processDue_charges (due : List (Nat × AccountId)) (n : Nat) (s : State AccountId W)
    (hn : n + maxRoyaltySplits * due.length ≤ u32Max) :
    ∃ p, (processDue cfg due n s).1 = n + p ∧ p ≤ maxRoyaltySplits * due.length ∧
      Charges s p (processDue cfg due n s).2 := by
  induction due generalizing n s with
  | nil => exact ⟨0, rfl, Nat.zero_le _, .refl rfl rfl⟩
  | cons entry rest ih =>
      obtain ⟨c, a⟩ := entry
      obtain ⟨hentry, hle⟩ := processEntry_charges cfg c a s
      rw [List.length_cons, Nat.mul_add] at hn
      have hsat : satAdd32 n (processEntry cfg c a s).1 = n + (processEntry cfg c a s).1 := satAdd32_eq (by omega)
      obtain ⟨p, hp, hple, hrest⟩ := ih (n + (processEntry cfg c a s).1) (processEntry cfg c a s).2 (by omega)
      refine ⟨(processEntry cfg c a s).1 + p, ?_, ?_, ?_⟩
      · rw [processDue, hsat, hp, Nat.add_assoc]
      · rw [List.length_cons, Nat.mul_add]
        omega
      · rw [processDue, hsat]
        exact hentry.trans hrest

end Hook

/-! ## Main results -/

/-- The reference time of `MAXIMUM_BLOCK_WEIGHT`, two seconds. -/
def maximumBlockTime : Nat := 2 * 10 ^ 12

/-- `AVERAGE_ON_INITIALIZE_RATIO`, in per cent. -/
def averageOnInitializeRatio : Nat := 5

theorem onInitializeRenewals_eq {n : Nat} (hn : n ≤ 10) :
    SubstrateWeight.onInitializeRenewals rocksDbWeight n = ⟨2000702887 + 765078564 * n, 191296 + 15235 * n⟩ := by
  refine (linearWeight_eq ?_ ?_ ?_ ?_).trans ?_ <;>
    simp only [rocksDbWeight, u64Max, Weight.mk.injEq, and_true] <;>
    omega

theorem onInitializeSplitPayments_eq {p : Nat} (hp : p ≤ 100) :
    SubstrateWeight.onInitializeSplitPayments rocksDbWeight p =
      ⟨9238674613 + 158980924 * p, 288638 + 2600 * p⟩ := by
  refine (linearWeight_eq ?_ ?_ ?_ ?_).trans ?_ <;>
    simp only [rocksDbWeight, u64Max, Weight.mk.injEq, and_true] <;>
    omega

/-- Within the benchmarked ranges nothing saturates: the weight of the hook is linear in both components. -/
theorem renewalsWeight_eq {n p : Nat} (hn : n ≤ 10) (hp : p ≤ 100) :
    renewalsWeight rocksDbWeight n p =
      ⟨2000702887 + 765078564 * n + 158980924 * p, 191296 + 15235 * n + 2600 * p⟩ := by
  rw [renewalsWeight, onInitializeRenewals_eq hn, onInitializeSplitPayments_eq hp,
    onInitializeSplitPayments_eq (Nat.zero_le _)]
  simp only [Weight.saturatingAdd, Weight.saturatingSub, satAdd64, u64Max, Weight.mk.injEq]
  omega

/-- What calls and the hook are charged with, in every state. The weight that a call is charged with is at most the one
it declared; a call that succeeds is charged for the royalty splits in force, and makes at most so many royalty
transfers. The weight of the hook is linear in the entries `n` of the bucket and in the split transfers `p` that its
events tell, which are at least the royalty transfers it made. No part of it saturates, and it stays within the average
share of a block that the runtime sets aside for hooks. -/
theorem weights_tell_work (s : State AccountId W) :
    (∀ origin call, (call.chargedWeight cfg db origin s).AllLte (call.weight db) ∧
      ∀ s', dispatch cfg origin call s = .ok () s' →
        call.chargedWeight cfg db origin s = call.weightFor db (call.splits s.store) ∧
        ∃ evs, s'.events = s.events ++ evs ∧ royalties evs ≤ call.splits s.store) ∧
    ∃ evs, (onInitialize cfg s).2.events = s.events ++ evs ∧
      let n := (s.store.renewalQueue s.now).length
      let p := splitCharges s.store.royaltySplits evs
      onInitializeWeight cfg rocksDbWeight s =
        ⟨2000702887 + 765078564 * n + 158980924 * p, 191296 + 15235 * n + 2600 * p⟩ ∧
      royalties evs ≤ p ∧ p ≤ maxRoyaltySplits * n ∧ n ≤ maxRenewalsPerBlock ∧
      100 * (onInitializeWeight cfg rocksDbWeight s).refTime ≤ averageOnInitializeRatio * maximumBlockTime := by
  refine ⟨?_, ?_⟩
  · intro origin call
    refine ⟨call.chargedWeight_le, ?_⟩
    intro s' h
    obtain ⟨who, _, hex⟩ := dispatch_ok h
    exact ⟨Call.chargedWeight_ok h, _, hex.events, Call.royalties_report who call⟩
  · have hn : (s.store.renewalQueue s.now).length ≤ 10 := (s.store.renewalQueue s.now).bounded
    have hlen : maxRoyaltySplits * (s.store.renewalQueue s.now).toList.length ≤ 100 :=
      Nat.mul_le_mul_left 10 hn
    obtain ⟨p, hp, hple, _, evs, hev, rfl, hroyal⟩ := processDue_charges cfg (s.store.renewalQueue s.now).toList 0
      (s.mapStore fun st => { st with renewalQueue := st.renewalQueue.clear s.now })
      (by rw [Nat.zero_add]; exact hlen.trans (by decide))
    rw [Nat.zero_add] at hp
    have hweight : onInitializeWeight cfg rocksDbWeight s = renewalsWeight rocksDbWeight
        (s.store.renewalQueue s.now).length (splitCharges s.store.royaltySplits evs) := by
      show renewalsWeight rocksDbWeight _ (processDue cfg _ 0 _).1 = _
      rw [hp]
      rfl
    have hpmax : splitCharges s.store.royaltySplits evs ≤ 100 := hple.trans hlen
    rw [renewalsWeight_eq hn hpmax] at hweight
    refine ⟨evs, hev, hweight, hroyal, hple, hn, ?_⟩
    rw [hweight]
    show 100 * (2000702887 + 765078564 * _ + 158980924 * _) ≤ 5 * (2 * 10 ^ 12)
    omega

end Ccrms.Rights
