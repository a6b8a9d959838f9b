import Ccrms.Client.Effects
import Ccrms.Lib.Flight
import Ccrms.Network.Lemmas.Execution

/-!
# Every action keeps every query in a phase

An action is about one query at most. For this query the phase moves on; every other query stays as it is.
-/

namespace Ccrms.Network

open Ccrms.Lib Ccrms.Frame

variable {AccountId Location Asset H WA WB : Type} [DecidableEq AccountId]
  {d : Deployment AccountId Location Asset H WA WB} {tr : List (Obs AccountId Location Asset WA WB)}
  {o : Obs AccountId Location Asset WA WB} {s s' : State AccountId Location Asset WA WB} {q : QueryId}
  {phase : Phase AccountId WA WB}

/-- Other pallets of the client chain do not take an id back that pallet-xcm has given out. -/
def KeepsQueries (d : Deployment AccountId Location Asset H WA WB) (s : State AccountId Location Asset WA WB) :
    Action AccountId WA WB → Prop
  | .otherB w => ∀ q, d.client.xcm.issued s.b.world q → d.client.xcm.issued w q
  | _ => True

/-! ## Queries that an action is not about -/

omit [DecidableEq AccountId] in
@[simp] theorem requestsFor_snoc : requestsFor (tr ++ [o]) q = requestsFor tr q ++ o.requests q := by
  simp [requestsFor]

omit [DecidableEq AccountId] in
@[simp] theorem dispatchesFor_snoc : dispatchesFor (tr ++ [o]) q = dispatchesFor tr q ++ o.dispatches q := by
  simp [dispatchesFor]

omit [DecidableEq AccountId] in
@[simp] theorem settlementsFor_snoc : settlementsFor (tr ++ [o]) q = settlementsFor tr q ++ o.settlements q := by
  simp [settlementsFor]

omit [DecidableEq AccountId] in
@[simp] theorem reportsTo_rightsMessage (client : Client.Config AccountId Location Asset WB) (call : List UInt8)
    (q q' : QueryId) : reportsTo q (Client.rightsMessage client call q') = (q' == q) := by
  simp [reportsTo, Client.rightsMessage]

/-- The action is not about the query. -/
structure Untouched (d : Deployment AccountId Location Asset H WA WB) (s : State AccountId Location Asset WA WB)
    (o : Obs AccountId Location Asset WA WB) (s' : State AccountId Location Asset WA WB) (q : QueryId) : Prop where
  messages : messagesFor s' q = messagesFor s q
  reports : reportsFor s' q = reportsFor s q
  pending : s'.b.pending q = s.b.pending q
  issued : d.client.xcm.issued s.b.world q → d.client.xcm.issued s'.b.world q
  noRequest : o.requests q = []
  noDispatch : o.dispatches q = []
  noSettlement : o.settlements q = []

theorem Tracks.untouched (h : Tracks d tr s q phase) (hu : Untouched d s o s' q) :
    Tracks d (tr ++ [o]) s' q phase where
  valid := h.valid
  messages := hu.messages.trans h.messages
  reports := hu.reports.trans h.reports
  pending := hu.pending.trans h.pending
  requests := by rw [requestsFor_snoc, hu.noRequest, List.append_nil, h.requests]
  dispatches := by rw [dispatchesFor_snoc, hu.noDispatch, List.append_nil, h.dispatches]
  settlements := by rw [settlementsFor_snoc, hu.noSettlement, List.append_nil, h.settlements]
  issued := fun hne => hu.issued (h.issued hne)

theorem Orderly.untouched (h : Orderly d tr s) (hu : ∀ q, Untouched d s o s' q)
    (hout : ∀ m ∈ s'.b.outbox, m ∈ s.b.outbox) : Orderly d (tr ++ [o]) s' where
  phases := fun q => by
    obtain ⟨phase, hq⟩ := h.phases q
    exact ⟨phase, hq.untouched (hu q)⟩
  programs := fun m hm => h.programs m (hout m hm)

theorem Orderly.touched (h : Orderly d tr s) {phase' : Phase AccountId WA WB}
    (hq : Tracks d (tr ++ [o]) s' q phase') (hu : ∀ q', q' ≠ q → Untouched d s o s' q')
    (hprograms : ∀ m ∈ s'.b.outbox, m ∈ s.b.outbox ∨
      ∃ q call, m = (d.client.rightsChain, Client.rightsMessage d.client call q)) :
    Orderly d (tr ++ [o]) s' where
  phases := fun q' => by
    by_cases hne : q' = q
    · subst hne
      exact ⟨phase', hq⟩
    · obtain ⟨phase, hq'⟩ := h.phases q'
      exact ⟨phase, hq'.untouched (hu q' hne)⟩
  programs := fun m hm => (hprograms m hm).elim (h.programs m) id

/-! ## Actions on one chain -/

theorem Orderly.onA (h : Orderly d tr s) (a : Rights.State AccountId WA) (r : Rights.Record AccountId WA) :
    Orderly d (tr ++ [.onA r]) { s with a := a } :=
  h.untouched (fun _ => ⟨rfl, rfl, rfl, id, rfl, rfl, rfl⟩) fun _ => id

theorem Orderly.idle (h : Orderly d tr s) : Orderly d (tr ++ [.idle]) s :=
  h.untouched (fun _ => ⟨rfl, rfl, rfl, id, rfl, rfl, rfl⟩) fun _ => id

/-- A call on the client chain with an origin that an account can have. -/
theorem Orderly.onB (hxcm : d.client.xcm.Lawful) (hsep : d.client.xcm.Separate d.client.currency)
    (h : Orderly d tr s) {r : Client.Record AccountId Location WB} {b : Client.State AccountId Location Asset WB}
    (heff : Client.Effect d.client s.b r b) (horigin : ∀ l q x, r.action ≠ .onOutcome (.response l) q x)
    (hother : ∀ w, r.action = .other w → ∀ q, d.client.xcm.issued s.b.world q → d.client.xcm.issued w q) :
    Orderly d (tr ++ [.onB r]) { s with b := b } := by
  cases heff with
  | failed => exact h.untouched (fun _ => ⟨rfl, rfl, rfl, id, rfl, rfl, rfl⟩) fun _ => id
  | block => exact h.untouched (fun _ => ⟨rfl, rfl, rfl, id, rfl, rfl, rfl⟩) fun _ => id
  | other => exact h.untouched (fun q => ⟨rfl, rfl, rfl, hother _ rfl q, rfl, rfl, rfl⟩) fun _ => id
  | settled => exact absurd rfl (horigin _ _ _)
  | @requested who req escrow beneficiary w₁ queryId w₂ messageId w₃ hb hpay hq hsend =>
      obtain ⟨hfresh, hissued⟩ := hxcm.newNotifyQuery hq
      rw [hsep.transfer hpay] at hfresh hissued
      rw [← hxcm.sendXcm hsend] at hissued
      obtain ⟨phase, hphase⟩ := h.phases queryId
      have hunused : phase = .unused := Classical.byContradiction fun hne => hfresh (hphase.issued hne)
      subst hunused
      refine h.touched
        (?_ : Tracks d _ _ queryId (.sent ⟨who, escrow, req, s.b.blockNumber⟩ beneficiary)) ?_ ?_
      · exact {
          valid := hb
          messages := by
            have hm := hphase.messages
            simp only [messagesFor, Phase.messages] at hm ⊢
            simp [hm]
          reports := hphase.reports
          pending := by simp [Phase.pending]
          requests := by
            rw [requestsFor_snoc, hphase.requests]
            simp [Obs.requests, Phase.requests, termsOf]
          dispatches := by rw [dispatchesFor_snoc, hphase.dispatches]; rfl
          settlements := by rw [settlementsFor_snoc, hphase.settlements]; rfl
          issued := fun _ => (hissued queryId).mpr (.inr rfl) }
      · intro q' hne
        exact {
          messages := by simp [messagesFor, Ne.symm hne]
          reports := rfl
          pending := StorageMap.insert_of_ne _ _ hne
          issued := fun hi => (hissued q').mpr (.inl hi)
          noRequest := by simp [Obs.requests, Ne.symm hne]
          noDispatch := rfl
          noSettlement := rfl }
      · intro m hm
        rcases List.mem_append.mp hm with hm | hm
        · exact .inl hm
        · exact .inr ⟨queryId, _, List.mem_singleton.mp hm⟩

/-! ## The rights chain executes a program -/

theorem Tracks.sent_of_message (h : Tracks d tr s q phase) {i : Nat} {m : Location × Program Location Asset}
    (hi : s.b.outbox[i]? = some m) (hm : reportsTo q m.2 = true) :
    ∃ p b, phase = .sent p b ∧
      m = (d.client.rightsChain, Client.rightsMessage d.client (Client.remoteCall d.client p.request b) q) ∧
      (s.b.outbox.eraseIdx i).filter (fun m => reportsTo q m.2) = [] := by
  have hmessages := h.messages
  cases phase with
  | sent p b =>
      obtain ⟨he, herase⟩ := Flight.filter_of_single hi hm hmessages
      exact ⟨p, b, rfl, he.symm, herase⟩
  | unused | executed | reported | settled =>
      exact absurd hm (List.filter_eq_nil_iff.mp hmessages m (List.mem_of_getElem? hi))

/-- The rights chain has executed the program of a query. -/
theorem Tracks.execute {p : Client.PendingRequest AccountId} {b : Bytes32} (h : Tracks d tr s q (.sent p b)) {i : Nat}
    {program : Program Location Asset} {dispatched : List (Dispatch AccountId WA)} {reports : List (Report Location)}
    {a : Rights.State AccountId WA} (hprogram : reportsTo q program = true)
    (herase : (s.b.outbox.eraseIdx i).filter (fun m => reportsTo q m.2) = []) (hx : Outcome d p q dispatched reports) :
    ∃ phase, Tracks d (tr ++ [.executed program dispatched])
      ⟨a, { s.b with outbox := s.b.outbox.eraseIdx i }, s.reports ++ reports⟩ q phase := by
  have hreports : s.reports.filter (fun r => r.queryId == q) = [] := h.reports
  have hdispatches : dispatchesFor (tr ++ [.executed program dispatched]) q = dispatched := by
    rw [dispatchesFor_snoc, h.dispatches]
    simp [Obs.dispatches, Phase.dispatches, hprogram]
  have hrequests : requestsFor (tr ++ [.executed program dispatched]) q = [termsOf p] := by
    rw [requestsFor_snoc, h.requests]
    rfl
  have hsettlements : settlementsFor (tr ++ [.executed program dispatched]) q = [] := by
    rw [settlementsFor_snoc, h.settlements]
    rfl
  have hissued : d.client.xcm.issued s.b.world q := h.issued (by simp)
  cases hx with
  | stopped =>
      exact ⟨.executed p [], .inl rfl, herase, by simp [reportsFor, hreports, Phase.reports], h.pending, hrequests,
        hdispatches, hsettlements, fun _ => hissued⟩
  | @unanswered x hx =>
      exact ⟨.executed p [x], .inr ⟨x, rfl, hx⟩, herase, by simp [reportsFor, hreports, Phase.reports], h.pending,
        hrequests, hdispatches, hsettlements, fun _ => hissued⟩
  | @answered x hx =>
      exact ⟨.reported p x, hx, herase, by simp [reportsFor, hreports, Phase.reports], h.pending, hrequests,
        hdispatches, hsettlements, fun _ => hissued⟩

theorem Outcome.reports_of_ne {p : Client.PendingRequest AccountId} {dispatched : List (Dispatch AccountId WA)}
    {reports : List (Report Location)} (h : Outcome d p q dispatched reports) {q' : QueryId} (hne : q' ≠ q) :
    reports.filter (fun r => r.queryId == q') = [] := by
  cases h with
  | stopped | unanswered => rfl
  | answered => simp [Ne.symm hne]

theorem Orderly.execute [DecidableEq Location] (h : Orderly d tr s) (i : Nat) :
    Orderly d (tr ++ [(stepExecute d s i).1]) (stepExecute d s i).2 := by
  unfold stepExecute
  split
  · exact h.idle
  · rename_i dest program hi
    obtain ⟨q, call, hm⟩ := h.programs _ (List.mem_of_getElem? hi)
    rw [Prod.mk.injEq] at hm
    obtain ⟨rfl, hprogram⟩ := hm
    have hq : reportsTo q program = true := by simp [hprogram]
    obtain ⟨phase, hphase⟩ := h.phases q
    obtain ⟨p, b, rfl, hm, herase⟩ := hphase.sent_of_message hi hq
    rw [Prod.mk.injEq] at hm
    have hx := execute_rightsMessage hphase.valid { s.a with events := [] } q
    rw [← hm.2] at hx
    rw [if_pos rfl]
    obtain ⟨phase', hphase'⟩ := hphase.execute hq herase hx
    refine h.touched hphase' ?_ fun m hmem => .inl (List.mem_of_mem_eraseIdx hmem)
    intro q' hne
    have hq' : reportsTo q' program = false := by simp [hprogram, Ne.symm hne]
    exact {
      messages := Flight.filter_of_not hi hq'
      reports := by simp [reportsFor, hx.reports_of_ne hne]
      pending := rfl
      issued := id
      noRequest := rfl
      noDispatch := by simp [Obs.dispatches, hq']
      noSettlement := rfl }

/-! ## The client chain takes an answer -/

theorem Tracks.reported_of_report (h : Tracks d tr s q phase) {i : Nat} {r : Report Location}
    (hi : s.reports[i]? = some r) (hr : r.queryId = q) :
    ∃ p x, phase = .reported p x ∧ r = ⟨d.client.selfLocation, q, .dispatchResult x.status⟩ ∧
      (s.reports.eraseIdx i).filter (fun r => r.queryId == q) = [] := by
  have hreports := h.reports
  have hrq : (r.queryId == q) = true := beq_iff_eq.mpr hr
  cases phase with
  | reported p x =>
      obtain ⟨he, herase⟩ := Flight.filter_of_single hi hrq hreports
      exact ⟨p, x, rfl, he.symm, herase⟩
  | unused | sent | executed | settled =>
      exact absurd hrq (List.filter_eq_nil_iff.mp hreports r (List.mem_of_getElem? hi))

theorem success_dispatchResult {status : MaybeErrorCode} :
    Client.Response.success (.dispatchResult status) = true ↔ status = .success := by
  simp [Client.Response.success]

/-- The client chain has taken the answer to a query: the request is settled, or the payment failed. -/
theorem Tracks.deliver (hsep : d.client.xcm.Separate d.client.currency) {p : Client.PendingRequest AccountId}
    {x : Dispatch AccountId WA} (h : Tracks d tr s q (.reported p x)) {i : Nat}
    (herase : (s.reports.eraseIdx i).filter (fun r => r.queryId == q) = [])
    {r : Client.Record AccountId Location WB} {b : Client.State AccountId Location Asset WB}
    (heff : Client.Effect d.client s.b r b)
    (hr : r.action = .onOutcome (.response d.client.rightsChain) q (.dispatchResult x.status)) :
    let o := Obs.delivered ⟨d.client.selfLocation, q, .dispatchResult x.status⟩
      (if r.ok then
        (s.b.pending q).map fun p =>
          ⟨q, p, Client.Response.success (.dispatchResult x.status), s.b.world, b.world⟩
      else none)
    (∃ phase, Tracks d (tr ++ [o]) ⟨s.a, b, s.reports.eraseIdx i⟩ q phase) ∧
      (∀ q', q' ≠ q → b.pending q' = s.b.pending q') ∧ b.outbox = s.b.outbox ∧
      ∀ q', d.client.xcm.issued s.b.world q' → d.client.xcm.issued b.world q' := by
  have hpending : s.b.pending q = some p := h.pending
  cases heff with
  | requested | block | other => cases hr
  | failed =>
      refine ⟨⟨.executed p [x], ?_⟩, fun _ _ => rfl, rfl, fun _ => id⟩
      exact {
        valid := .inr ⟨x, rfl, h.valid⟩
        messages := h.messages
        reports := herase
        pending := h.pending
        requests := by rw [requestsFor_snoc, h.requests]; rfl
        dispatches := by rw [dispatchesFor_snoc, h.dispatches]; rfl
        settlements := by rw [settlementsFor_snoc, h.settlements]; rfl
        issued := fun _ => h.issued (by simp) }
  | @settled _ _ _ w hp hpay =>
      cases hr
      rw [hpending] at hp
      cases hp
      have hissued := hsep.transfer hpay
      refine ⟨⟨.settled ⟨q, p, Client.Response.success (.dispatchResult x.status), s.b.world, w⟩ x, ?_⟩,
        fun _ hne => StorageMap.remove_of_ne _ hne, rfl, fun _ hi => by rwa [hissued]⟩
      exact {
        valid := ⟨h.valid, success_dispatchResult, hpay⟩
        messages := h.messages
        reports := herase
        pending := StorageMap.remove_self ..
        requests := by rw [requestsFor_snoc, h.requests]; rfl
        dispatches := by rw [dispatchesFor_snoc, h.dispatches]; rfl
        settlements := by
          rw [settlementsFor_snoc, h.settlements, hpending]
          simp [Obs.settlements, Phase.settlements]
        issued := fun _ => by rw [hissued]; exact h.issued (by simp) }

theorem Orderly.deliver [DecidableEq Location] (hsep : d.client.xcm.Separate d.client.currency) (h : Orderly d tr s)
    (i : Nat) : Orderly d (tr ++ [(stepDeliver d s i).1]) (stepDeliver d s i).2 := by
  unfold stepDeliver
  split
  · exact h.idle
  · rename_i report hi
    obtain ⟨phase, hphase⟩ := h.phases report.queryId
    obtain ⟨p, x, rfl, hreport, herase⟩ := hphase.reported_of_report hi rfl
    generalize report.queryId = q at hphase hreport herase
    subst hreport
    rw [if_pos rfl]
    have heff := Client.step_effect d.client s.b
      (.onOutcome (.response d.client.rightsChain) q (.dispatchResult x.status))
    obtain ⟨⟨phase', hphase'⟩, hpending, houtbox, hissued⟩ := hphase.deliver hsep herase heff rfl
    refine h.touched hphase' ?_ fun m hm => .inl (houtbox ▸ hm)
    intro q' hne
    exact {
      messages := by simp only [messagesFor, houtbox]
      reports := Flight.filter_of_not hi (beq_eq_false_iff_ne.mpr (Ne.symm hne))
      pending := hpending q' hne
      issued := hissued q'
      noRequest := rfl
      noDispatch := rfl
      noSettlement := by
        rw [hphase.pending]
        dsimp only
        split
        · simp [Obs.settlements, Phase.pending, Ne.symm hne]
        · rfl }

/-! ## Every action -/

theorem Orderly.step [DecidableEq Location] (hxcm : d.client.xcm.Lawful)
    (hsep : d.client.xcm.Separate d.client.currency) (h : Orderly d tr s) (action : Action AccountId WA WB)
    (hkeep : KeepsQueries d s action) :
    Orderly d (tr ++ [((system d).step s action).1]) ((system d).step s action).2 := by
  cases action with
  | onA action => exact h.onA _ _
  | request origin request escrow =>
      exact h.onB hxcm hsep (Client.step_effect ..) (fun _ _ _ he => by cases he) fun _ he => by cases he
  | onOutcome origin queryId response =>
      refine h.onB hxcm hsep (Client.step_effect ..) ?_ fun _ he => by cases he
      intro l q x he
      cases origin with
      | root | none | signed => cases he
  | nextBlockB => exact h.onB hxcm hsep (Client.step_effect ..) (fun _ _ _ he => by cases he) fun _ he => by cases he
  | otherB w =>
      refine h.onB hxcm hsep (Client.step_effect ..) (fun _ _ _ he => by cases he) ?_
      intro w' he
      cases he
      exact hkeep
  | execute i => exact h.execute i
  | deliver i => exact h.deliver hsep i

end Ccrms.Network
