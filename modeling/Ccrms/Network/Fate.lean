import Ccrms.Client.Settlement
import Ccrms.Network.Theorems

/-!
# What becomes of a pending request

The client has no timeout of its own: a request leaves `Pending` only when its answer arrives and the escrow can be
paid out. So a pending request is on its way there or back, or it is lost, and a lost request stays pending for good,
with its escrow.
-/

namespace Ccrms.Network

open Ccrms.Lib Ccrms.Frame

variable {AccountId Location Asset H WA WB : Type} [DecidableEq AccountId] [DecidableEq Location]
  {d : Deployment AccountId Location Asset H WA WB} {tr : List (Obs AccountId Location Asset WA WB)}
  {s : State AccountId Location Asset WA WB} {q : QueryId} {p : Client.PendingRequest AccountId}

/-- The program of the request is in flight. -/
def Waiting (d : Deployment AccountId Location Asset H WA WB) (s : State AccountId Location Asset WA WB) (q : QueryId)
    (p : Client.PendingRequest AccountId) : Prop :=
  reportsFor s q = [] ∧ ∃ b, Client.toBytes32 (d.client.encodeAccount p.who) = some b ∧
    messagesFor s q =
      [(d.client.rightsChain, Client.rightsMessage d.client (Client.remoteCall d.client p.request b) q)]

/-- The answer to the request is in flight. -/
def Answered (d : Deployment AccountId Location Asset H WA WB) (s : State AccountId Location Asset WA WB) (q : QueryId)
    (status : MaybeErrorCode) : Prop :=
  messagesFor s q = [] ∧ reportsFor s q = [⟨d.client.selfLocation, q, .dispatchResult status⟩]

/-- Nothing is in flight for the request, and whatever the two chains do, it stays pending. -/
def Lost (d : Deployment AccountId Location Asset H WA WB) (s : State AccountId Location Asset WA WB) (q : QueryId)
    (p : Client.PendingRequest AccountId) : Prop :=
  messagesFor s q = [] ∧ reportsFor s q = [] ∧
    ∀ as, (system d).Along (KeepsQueries d) s as →
      let r := (system d).run s as
      r.2.b.pending q = some p ∧ dispatchesFor r.1 q = [] ∧ settlementsFor r.1 q = []

/-! ## Lost requests -/

omit [DecidableEq AccountId] [DecidableEq Location] in
/-- A call on the client chain is not about a query that is in use. -/
theorem onB_untouched (hxcm : d.client.xcm.Lawful) (hsep : d.client.xcm.Separate d.client.currency)
    (hissued : d.client.xcm.issued s.b.world q) {r : Client.Record AccountId Location WB}
    {b : Client.State AccountId Location Asset WB} (heff : Client.Effect d.client s.b r b)
    (horigin : ∀ l q x, r.action ≠ .onOutcome (.response l) q x)
    (hother : ∀ w, r.action = .other w → d.client.xcm.issued w q) :
    Untouched d s (.onB r) { s with b := b } q := by
  cases heff with
  | failed | block => exact ⟨rfl, rfl, rfl, id, rfl, rfl, rfl⟩
  | other => exact ⟨rfl, rfl, rfl, fun _ => hother _ rfl, rfl, rfl, rfl⟩
  | settled => exact absurd rfl (horigin _ _ _)
  | @requested who req escrow beneficiary w₁ queryId w₂ messageId w₃ hb hpay hq hsend =>
      obtain ⟨hfresh, hnew⟩ := hxcm.newNotifyQuery hq
      rw [hsep.transfer hpay] at hfresh hnew
      rw [← hxcm.sendXcm hsend] at hnew
      have hne : q ≠ queryId := fun he => hfresh (he ▸ hissued)
      exact {
        messages := by simp [messagesFor, Ne.symm hne]
        reports := rfl
        pending := StorageMap.insert_of_ne _ _ hne
        issued := fun hi => (hnew q).mpr (.inl hi)
        noRequest := by simp [Obs.requests, Ne.symm hne]
        noDispatch := rfl
        noSettlement := rfl }

/-- No action is about a request for which nothing is in flight. -/
theorem Tracks.lost_untouched {xs : List (Dispatch AccountId WA)} (hxcm : d.client.xcm.Lawful)
    (hsep : d.client.xcm.Separate d.client.currency) (hord : Orderly d tr s) (h : Tracks d tr s q (.executed p xs))
    (action : Action AccountId WA WB) (hkeep : KeepsQueries d s action) :
    Untouched d s ((system d).step s action).1 ((system d).step s action).2 q := by
  have hissued : d.client.xcm.issued s.b.world q := h.issued (by simp)
  cases action with
  | onA action => exact ⟨rfl, rfl, rfl, id, rfl, rfl, rfl⟩
  | request origin request escrow =>
      exact onB_untouched hxcm hsep hissued (Client.step_effect ..) (fun _ _ _ he => by cases he)
        fun _ he => by cases he
  | onOutcome origin queryId response =>
      refine onB_untouched hxcm hsep hissued (Client.step_effect ..) ?_ fun _ he => by cases he
      intro l q x he
      cases origin with
      | root | none | signed => cases he
  | nextBlockB =>
      exact onB_untouched hxcm hsep hissued (Client.step_effect ..) (fun _ _ _ he => by cases he)
        fun _ he => by cases he
  | otherB w =>
      refine onB_untouched hxcm hsep hissued (Client.step_effect ..) (fun _ _ _ he => by cases he) ?_
      intro w' he
      cases he
      exact hkeep q hissued
  | execute i =>
      simp only [system, stepExecute]
      split
      · exact ⟨rfl, rfl, rfl, id, rfl, rfl, rfl⟩
      · rename_i dest program hi
        obtain ⟨q', call, hm⟩ := hord.programs _ (List.mem_of_getElem? hi)
        rw [Prod.mk.injEq] at hm
        obtain ⟨rfl, hprogram⟩ := hm
        have hq' : reportsTo q' program = true := by simp [hprogram]
        have hq : reportsTo q program = false := by
          refine Bool.eq_false_iff.mpr fun hq => ?_
          obtain ⟨_, _, he, _⟩ := h.sent_of_message hi hq
          cases he
        have hne : q ≠ q' := fun he => by simp [he, hq'] at hq
        obtain ⟨phase, hphase⟩ := hord.phases q'
        obtain ⟨p', b, rfl, hm, _⟩ := hphase.sent_of_message hi hq'
        rw [Prod.mk.injEq] at hm
        have hx := execute_rightsMessage hphase.valid { s.a with events := [] } q'
        rw [← hm.2] at hx
        rw [if_pos rfl]
        exact {
          messages := Flight.filter_of_not hi hq
          reports := by simp [reportsFor, hx.reports_of_ne hne]
          pending := rfl
          issued := id
          noRequest := rfl
          noDispatch := by simp [Obs.dispatches, hq]
          noSettlement := rfl }
  | deliver i =>
      simp only [system, stepDeliver]
      split
      · exact ⟨rfl, rfl, rfl, id, rfl, rfl, rfl⟩
      · rename_i report hi
        obtain ⟨phase, hphase⟩ := hord.phases report.queryId
        obtain ⟨p', x, rfl, hreport, herase⟩ := hphase.reported_of_report hi rfl
        have hne : q ≠ report.queryId := by
          intro he
          obtain ⟨_, _, he, _⟩ := h.reported_of_report hi he.symm
          cases he
        generalize report.queryId = q' at hphase hreport herase hne
        subst hreport
        rw [if_pos rfl]
        have heff := Client.step_effect d.client s.b
          (.onOutcome (.response d.client.rightsChain) q' (.dispatchResult x.status))
        obtain ⟨_, hpending, houtbox, hissued⟩ := hphase.deliver hsep herase heff rfl
        exact {
          messages := by simp only [messagesFor, houtbox]
          reports := Flight.filter_of_not hi (beq_eq_false_iff_ne.mpr (Ne.symm hne))
          pending := hpending q hne
          issued := hissued q
          noRequest := rfl
          noDispatch := rfl
          noSettlement := by
            rw [hphase.pending]
            dsimp only
            split
            · simp [Obs.settlements, Phase.pending, Ne.symm hne]
            · rfl }

theorem Tracks.lost {xs : List (Dispatch AccountId WA)} (hxcm : d.client.xcm.Lawful)
    (hsep : d.client.xcm.Separate d.client.currency) (hord : Orderly d tr s) (h : Tracks d tr s q (.executed p xs)) :
    Lost d s q p := by
  refine ⟨h.messages, h.reports, fun as ha => ?_⟩
  have hrun : Orderly d (tr ++ ((system d).run s as).1) ((system d).run s as).2 ∧
      Tracks d (tr ++ ((system d).run s as).1) ((system d).run s as).2 q (.executed p xs) := by
    refine Machine.run_invariant_along (P := fun tr' s => Orderly d (tr ++ tr') s ∧
      Tracks d (tr ++ tr') s q (.executed p xs)) ?_ ?_ as ha
    · rw [List.append_nil]
      exact ⟨hord, h⟩
    · rintro tr' s a ⟨hord, h⟩ hkeep
      rw [← List.append_assoc]
      exact ⟨hord.step hxcm hsep a hkeep, h.untouched (h.lost_untouched hxcm hsep hord a hkeep)⟩
  -- The trace of the whole run shows for the query what the first part of it showed.
  have hdispatches := hrun.2.dispatches.trans h.dispatches.symm
  have hsettlements := hrun.2.settlements.trans h.settlements.symm
  rw [dispatchesFor, List.flatMap_append, dispatchesFor, List.append_right_eq_self] at hdispatches
  rw [settlementsFor, List.flatMap_append, settlementsFor, List.append_right_eq_self] at hsettlements
  exact ⟨hrun.2.pending, hdispatches, hsettlements⟩

/-! ## Requests on their way -/

omit [DecidableEq Location] in
/-- A pending request is in one of three phases. -/
theorem Orderly.pending_cases (h : Orderly d tr s) (hp : s.b.pending q = some p) :
    (∃ b, Tracks d tr s q (.sent p b)) ∨ (∃ x, Tracks d tr s q (.reported p x)) ∨
      ∃ xs, Tracks d tr s q (.executed p xs) := by
  obtain ⟨phase, hphase⟩ := h.phases q
  have hpending := hphase.pending.symm.trans hp
  cases phase with
  | unused | settled => cases hpending
  | sent p' b =>
      cases hpending
      exact .inl ⟨b, hphase⟩
  | reported p' x =>
      cases hpending
      exact .inr (.inl ⟨x, hphase⟩)
  | executed p' xs =>
      cases hpending
      exact .inr (.inr ⟨xs, hphase⟩)

/-- The rights chain executes the program of a waiting request: then its answer is in flight, or it is lost. -/
theorem Tracks.execute_sent {b : Bytes32} (hxcm : d.client.xcm.Lawful)
    (hsep : d.client.xcm.Separate d.client.currency) (hord : Orderly d tr s) (h : Tracks d tr s q (.sent p b)) {i : Nat}
    {m : Location × Program Location Asset} (hi : s.b.outbox[i]? = some m) (hm : reportsTo q m.2 = true) :
    let s' := ((system d).step s (.execute i)).2
    s'.b.pending q = some p ∧ ((∃ status, Answered d s' q status) ∨ Lost d s' q p) := by
  intro s'
  have hord' : Orderly d _ s' := hord.step hxcm hsep (.execute i) trivial
  obtain ⟨_, _, _, rfl, herase⟩ := h.sent_of_message hi hm
  have hs' : s'.b = { s.b with outbox := s.b.outbox.eraseIdx i } := by
    simp only [s', system, stepExecute, hi, if_true]
  have hpending : s'.b.pending q = some p := by
    rw [hs']
    exact h.pending
  have hmessages : messagesFor s' q = [] := by
    rw [messagesFor, hs']
    exact herase
  refine ⟨hpending, ?_⟩
  rcases hord'.pending_cases hpending with ⟨b', hsent⟩ | ⟨x, hreported⟩ | ⟨xs, hlost⟩
  · cases hmessages.symm.trans hsent.messages
  · exact .inl ⟨x.status, hmessages, hreported.reports⟩
  · exact .inr (hlost.lost hxcm hsep hord')

/-- The client chain takes the answer to a request: then it is settled if the escrow can be paid out, and lost
otherwise. -/
theorem Tracks.deliver_reported {x : Dispatch AccountId WA} (hxcm : d.client.xcm.Lawful)
    (hsep : d.client.xcm.Separate d.client.currency) (hord : Orderly d tr s) (h : Tracks d tr s q (.reported p x))
    {i : Nat} (hi : s.reports[i]? = some ⟨d.client.selfLocation, q, .dispatchResult x.status⟩) :
    let s' := ((system d).step s (.deliver i)).2
    match d.client.currency.transfer d.client.escrowAccount (Client.recipient d.client p (.dispatchResult x.status))
      p.escrow .expendable s.b.world with
    | .ok w => s'.b.pending q = none ∧ s'.b.world = w
    | .error _ => s'.b.pending q = some p ∧ Lost d s' q p := by
  intro s'
  have hord' : Orderly d _ s' := hord.step hxcm hsep (.deliver i) trivial
  have hp : ({ s.b with events := [] } : Client.State AccountId Location Asset WB).pending q = some p := h.pending
  have hs' : s' = ⟨s.a, (Client.dispatch (Client.onOutcome d.client (.response d.client.rightsChain) q
      (.dispatchResult x.status)) { s.b with events := [] }).2, s.reports.eraseIdx i⟩ := by
    simp only [s', system, stepDeliver, hi, if_true]
    rfl
  cases hreport : Client.report d.client q (.dispatchResult x.status) { s.b with events := [] } with
  | ok u b =>
      obtain ⟨w, hpay, rfl⟩ := (Client.report_ok hp).mp hreport
      rw [Client.report] at hreport
      rw [hpay, hs', Client.dispatch, hreport]
      exact ⟨StorageMap.remove_self .., rfl⟩
  | error e b =>
      have hpay : ∀ w, d.client.currency.transfer d.client.escrowAccount
          (Client.recipient d.client p (.dispatchResult x.status)) p.escrow .expendable s.b.world ≠ .ok w := by
        intro w hpay
        cases hreport.symm.trans ((Client.report_ok hp).mpr ⟨w, hpay, rfl⟩)
      obtain rfl := Exec.withStorageLayer_error hreport
      have hb : s' = ⟨s.a, { s.b with events := [] }, s.reports.eraseIdx i⟩ := by
        rw [Client.report] at hreport
        rw [hs', Client.dispatch, hreport]
      have hpending : s'.b.pending q = some p := hb ▸ hp
      obtain ⟨_, _, _, _, herase⟩ := h.reported_of_report hi rfl
      have hreports : reportsFor s' q = [] := hb ▸ herase
      have hmessages : messagesFor s' q = [] := hb ▸ h.messages
      split
      · rename_i w hw
        exact absurd hw (hpay w)
      · refine ⟨hpending, ?_⟩
        rcases hord'.pending_cases hpending with ⟨b', hsent⟩ | ⟨x, hreported⟩ | ⟨xs, hlost⟩
        · cases hmessages.symm.trans hsent.messages
        · cases hreports.symm.trans hreported.reports
        · exact hlost.lost hxcm hsep hord'

/-! ## Main result -/

/-- Every pending request is on its way or lost. If its program is in flight, nothing was dispatched for it, and the
execution of the program leads to an answer or to its loss. If its answer is in flight, the client chain that takes it
settles the request, or loses it if the escrow cannot be paid out. If nothing is in flight, the request stays pending in
every continuation, and nothing is dispatched or settled for it: its escrow is never paid out. -/
theorem pending_requests_settle_or_are_lost (d : Deployment AccountId Location Asset H WA WB)
    (hxcm : d.client.xcm.Lawful) (hsep : d.client.xcm.Separate d.client.currency) (nA : U32) (wA : WA) (nB : Nat)
    (wB : WB) (as : List (Action AccountId WA WB))
    (ha : (system d).Along (KeepsQueries d) (.init nA wA nB wB) as) (q : QueryId)
    (p : Client.PendingRequest AccountId) :
    let r := (system d).run (.init nA wA nB wB) as
    r.2.b.pending q = some p →
      (Waiting d r.2 q p ∧ dispatchesFor r.1 q = [] ∧
        ∀ i m, r.2.b.outbox[i]? = some m → reportsTo q m.2 = true →
          let s' := ((system d).step r.2 (.execute i)).2
          s'.b.pending q = some p ∧ ((∃ status, Answered d s' q status) ∨ Lost d s' q p)) ∨
      (∃ x, Answered d r.2 q x.status ∧ dispatchesFor r.1 q = [x] ∧
        ∀ i, r.2.reports[i]? = some ⟨d.client.selfLocation, q, .dispatchResult x.status⟩ →
          let s' := ((system d).step r.2 (.deliver i)).2
          match d.client.currency.transfer d.client.escrowAccount
            (Client.recipient d.client p (.dispatchResult x.status)) p.escrow .expendable r.2.b.world with
          | .ok w => s'.b.pending q = none ∧ s'.b.world = w
          | .error _ => s'.b.pending q = some p ∧ Lost d s' q p) ∨
      Lost d r.2 q p := by
  intro r hp
  have hord : Orderly d r.1 r.2 := run_orderly d hxcm hsep nA wA nB wB as ha
  rcases hord.pending_cases hp with ⟨b, hsent⟩ | ⟨x, hreported⟩ | ⟨xs, hlost⟩
  · exact .inl ⟨⟨hsent.reports, b, hsent.valid, hsent.messages⟩, hsent.dispatches,
      fun i m hi hm => hsent.execute_sent hxcm hsep hord hi hm⟩
  · exact .inr (.inl ⟨x, ⟨hreported.messages, hreported.reports⟩, hreported.dispatches,
      fun i hi => hreported.deliver_reported hxcm hsep hord hi⟩)
  · exact .inr (.inr (hlost.lost hxcm hsep hord))

/-- Account 3 asks for a subscription, and the sovereign account of the client chain is empty when the rights chain
executes the program. -/
def unfundedRun : List (Action Nat Rights.Reference.World Client.Reference.World) :=
  [.request (.signed 3) (.subscribe 0) 700, .onA (.other { Rights.Reference.genesis with free := fun _ => 0 }),
    .execute 0]

theorem unfundedRun_loses_request :
    let r := (system Reference.deployment).run (.init 1 Rights.Reference.genesis 1 Client.Reference.genesis) unfundedRun
    Lost Reference.deployment r.2 0 ⟨3, 700, .subscribe 0, 1⟩ := by
  intro r
  have hkeep : (system Reference.deployment).Along (KeepsQueries Reference.deployment)
      (.init 1 Rights.Reference.genesis 1 Client.Reference.genesis) unfundedRun := ⟨trivial, trivial, trivial, trivial⟩
  have hmessages : (messagesFor r.2 0).length = 0 := by decide +kernel
  have hreports : (reportsFor r.2 0).length = 0 := by decide +kernel
  have hpending : r.2.b.pending 0 = some ⟨3, 700, .subscribe 0, 1⟩ := by decide +kernel
  rcases pending_requests_settle_or_are_lost Reference.deployment Client.Reference.xcm_lawful
    (Client.Reference.separate 1) 1 Rights.Reference.genesis 1 Client.Reference.genesis unfundedRun hkeep 0 _
    hpending with ⟨⟨_, b, _, hsent⟩, _⟩ | ⟨x, ⟨_, hanswered⟩, _⟩ | hlost
  · rw [hsent] at hmessages
    cases hmessages
  · rw [hanswered] at hreports
    cases hreports
  · exact hlost

end Ccrms.Network
