import Ccrms.Client.Pallet

/-!
# What a step of the client can do

A request that succeeds has taken the escrow, registered a query and sent the message; a settlement that succeeds has
paid the escrow out. Nothing else happens to the pending requests.
-/

namespace Ccrms.Client

open Ccrms.Lib Ccrms.Lib.Exec Ccrms.Frame

variable {AccountId Location Asset W : Type} {cfg : Config AccountId Location Asset W}
  {s s' : State AccountId Location Asset W}

/-- Who gets the escrow of a settled request. -/
def recipient (cfg : Config AccountId Location Asset W) (p : PendingRequest AccountId) (response : Response) :
    AccountId :=
  if Response.success response then cfg.operator else p.who

/-- The effect of one action: its record and the state after it. -/
inductive Effect (cfg : Config AccountId Location Asset W) (s : State AccountId Location Asset W) :
    Record AccountId Location W → State AccountId Location Asset W → Prop
  | failed {a} : Effect cfg s ⟨a, false, []⟩ { s with events := [] }
  | requested {who req escrow beneficiary w₁ queryId w₂ messageId w₃}
      (hb : toBytes32 (cfg.encodeAccount who) = some beneficiary)
      (hpay : cfg.currency.transfer who cfg.escrowAccount escrow .preserve s.world = .ok w₁)
      (hq : cfg.xcm.newNotifyQuery cfg.rightsChain (satAdd32 s.blockNumber cfg.queryTimeout) w₁ = (queryId, w₂))
      (hsend : cfg.xcm.sendXcm cfg.rightsChain (rightsMessage cfg (remoteCall cfg req beneficiary) queryId) w₂ =
        .ok (messageId, w₃)) :
      Effect cfg s ⟨.request (.signed who) req escrow, true, [.requestSent queryId who req escrow messageId]⟩
        ⟨s.pending.insert queryId ⟨who, escrow, req, s.blockNumber⟩, s.blockNumber,
          [.requestSent queryId who req escrow messageId],
          s.outbox ++ [(cfg.rightsChain, rightsMessage cfg (remoteCall cfg req beneficiary) queryId)], w₃⟩
  | settled {queryId response p w'} (hp : s.pending queryId = some p)
      (hpay : cfg.currency.transfer cfg.escrowAccount (recipient cfg p response) p.escrow .expendable s.world =
        .ok w') :
      Effect cfg s
        ⟨.onOutcome (.response cfg.rightsChain) queryId response, true,
          [.outcomeReported queryId p.who (Response.success response)]⟩
        ⟨s.pending.remove queryId, s.blockNumber, [.outcomeReported queryId p.who (Response.success response)],
          s.outbox, w'⟩
  | block : Effect cfg s ⟨.nextBlock, true, []⟩ { s with events := [], blockNumber := s.blockNumber + 1 }
  | other {w'} : Effect cfg s ⟨.other w', true, []⟩ { s with events := [], world := w' }

/-! ## The calls -/

theorem ensureSigned_bind {β : Type} {origin : Origin AccountId Location}
    {g : AccountId → ClientM AccountId Location Asset W β} {b : β} :
    (ensureSigned origin >>= g) s = .ok b s' ↔ ∃ who, origin = .signed who ∧ g who s = .ok b s' := by
  cases origin with
  | signed who =>
      constructor
      · intro h; exact ⟨who, rfl, h⟩
      · rintro ⟨_, he, h⟩; cases he; exact h
  | root | none | response =>
      constructor
      · intro h; cases h
      · rintro ⟨_, he, _⟩; cases he

theorem ensureResponse_bind {β : Type} {origin : Origin AccountId Location}
    {g : Location → ClientM AccountId Location Asset W β} {b : β} :
    (ensureResponse origin >>= g) s = .ok b s' ↔
      ∃ responder, origin = .response responder ∧ g responder s = .ok b s' := by
  cases origin with
  | response responder =>
      constructor
      · intro h; exact ⟨responder, rfl, h⟩
      · rintro ⟨_, he, h⟩; cases he; exact h
  | root | none | signed =>
      constructor
      · intro h; cases h
      · rintro ⟨_, he, _⟩; cases he

theorem transfer_bind {β : Type} {source dest : AccountId} {amount : Nat} {p : Preservation}
    {g : Unit → ClientM AccountId Location Asset W β} {b : β} :
    (transfer cfg source dest amount p >>= g) s = .ok b s' ↔
      ∃ w, cfg.currency.transfer source dest amount p s.world = .ok w ∧ g () { s with world := w } = .ok b s' := by
  rw [bind_ok]
  constructor
  · rintro ⟨u, s₁, h, hg⟩
    obtain ⟨w, hw, rfl⟩ := zoom_ok.mp h
    cases ht : cfg.currency.transfer source dest amount p s.world with
    | error e => rw [ht] at hw; cases hw
    | ok _ =>
        rw [ht] at hw
        cases hw
        exact ⟨w, rfl, hg⟩
  · rintro ⟨w, hw, hg⟩
    refine ⟨(), _, zoom_ok.mpr ⟨w, ?_, rfl⟩, hg⟩
    rw [hw]
    rfl

theorem sendXcm_bind {β : Type} {dest : Location} {message : Program Location Asset}
    {g : XcmHash → ClientM AccountId Location Asset W β} {b : β} :
    (sendXcm cfg dest message >>= g) s = .ok b s' ↔
      ∃ messageId w, cfg.xcm.sendXcm dest message s.world = .ok (messageId, w) ∧
        g messageId { s with outbox := s.outbox ++ [(dest, message)], world := w } = .ok b s' := by
  rw [bind_ok]
  unfold sendXcm
  cases h : cfg.xcm.sendXcm dest message s.world with
  | error e => simp
  | ok r =>
      obtain ⟨messageId, w⟩ := r
      constructor
      · rintro ⟨_, _, he, hg⟩
        cases he
        exact ⟨messageId, w, rfl, hg⟩
      · rintro ⟨_, _, he, hg⟩
        cases he
        exact ⟨messageId, _, rfl, hg⟩

theorem newNotifyQuery_bind {β : Type} (responder : Location) (timeout : Nat)
    (g : QueryId → ClientM AccountId Location Asset W β) (s : State AccountId Location Asset W) :
    (newNotifyQuery cfg responder timeout >>= g) s =
      g (cfg.xcm.newNotifyQuery responder timeout s.world).1
        { s with world := (cfg.xcm.newNotifyQuery responder timeout s.world).2 } := rfl

theorem request_ok {origin : Origin AccountId Location} {req : RightsRequest} {escrow : Nat} {u : Unit}
    (h : request cfg origin req escrow { s with events := [] } = .ok u s') :
    ∃ evs, Effect cfg s ⟨.request origin req escrow, true, evs⟩ s' ∧ s'.events = evs := by
  simp only [request, ensureSigned_bind, okOr_bind_ok, transfer_bind, read_bind, newNotifyQuery_bind, sendXcm_bind,
    write_bind, write_ok] at h
  obtain ⟨who, rfl, beneficiary, hb, w₁, hpay, messageId, w₃, hsend, rfl⟩ := h
  exact ⟨_, .requested hb hpay rfl hsend, rfl⟩

theorem onOutcome_ok [DecidableEq Location] {origin : Origin AccountId Location} {queryId : QueryId}
    {response : Response} {u : Unit}
    (h : onOutcome cfg origin queryId response { s with events := [] } = .ok u s') :
    ∃ evs, Effect cfg s ⟨.onOutcome origin queryId response, true, evs⟩ s' ∧ s'.events = evs := by
  simp only [onOutcome, ensureResponse_bind, ensure_bind_ok, read_bind, okOr_bind_ok, write_bind, transfer_bind,
    write_ok] at h
  obtain ⟨_, rfl, rfl, p, hp, w', hpay, rfl⟩ := h
  exact ⟨_, .settled hp hpay, rfl⟩

theorem step_effect [DecidableEq Location] (cfg : Config AccountId Location Asset W)
    (s : State AccountId Location Asset W) (a : Action AccountId Location W) :
    Effect cfg s ((chain cfg).step s a).1 ((chain cfg).step s a).2 := by
  cases a with
  | request origin req escrow =>
      simp only [chain, apply, dispatch]
      cases h : withStorageLayer (request cfg origin req escrow) { s with events := [] } with
      | ok u s' =>
          obtain ⟨evs, heff, rfl⟩ := request_ok (withStorageLayer_ok.mp h)
          exact heff
      | error e s' =>
          rw [withStorageLayer_error h]
          exact .failed
  | onOutcome origin queryId response =>
      simp only [chain, apply, dispatch]
      cases h : withStorageLayer (onOutcome cfg origin queryId response) { s with events := [] } with
      | ok u s' =>
          obtain ⟨evs, heff, rfl⟩ := onOutcome_ok (withStorageLayer_ok.mp h)
          exact heff
      | error e s' =>
          rw [withStorageLayer_error h]
          exact .failed
  | nextBlock => exact .block
  | other w => exact .other

end Ccrms.Client
