import Ccrms.Lib.Periods
import Ccrms.Rights.Renewals

/-!
# Payments and the periods they buy

The expiry of a subscription is the end of the period bought by its last payment, and no payment is taken before the
period bought by the one before it has ended. Five paths of the code charge a subscription; each of them checks the
expiry in the state in which it charges.
-/

namespace Ccrms.Rights

open Ccrms.Lib Ccrms.Frame

variable {AccountId W : Type} [DecidableEq AccountId] {cfg : Config AccountId W}

/-- The payments `paid`, the last of them at `now` or before, bought the periods up to `expiry`. -/
def Buys (now period : Nat) (paid : List Nat) (expiry : Nat) : Prop :=
  (∃ t, paid.getLast? = some t ∧ expiry = satAdd32 t period) ∧ (∀ t ∈ paid, t ≤ now) ∧
    Spaced (fun t => satAdd32 t period) paid

theorem Buys.first (now period : Nat) : Buys now period [now] (satAdd32 now period) :=
  ⟨⟨now, rfl, rfl⟩, by simp, List.pairwise_singleton _ _⟩

theorem Buys.again {now period : Nat} {paid : List Nat} {expiry : Nat} (h : Buys now period paid expiry)
    (he : expiry ≤ now) : Buys now period (paid ++ [now]) (satAdd32 now period) := by
  obtain ⟨⟨t, hlast, rfl⟩, hle, hspaced⟩ := h
  refine ⟨⟨now, by simp, rfl⟩, ?_, hspaced.snoc ?_⟩
  · intro u hu
    rcases List.mem_append.mp hu with hu | hu
    · exact hle u hu
    · rw [List.mem_singleton.mp hu]
  · intro l hl
    rw [hlast] at hl
    cases hl
    exact ⟨hle t (List.mem_of_getLast? hlast), he⟩

/-- If the last period does not reach the end of the block numbers, no period was cut short by saturation. -/
theorem spaced_unsaturated {now period t : Nat} {paid : List Nat}
    (h : Spaced (fun t => satAdd32 t period) paid) (hle : ∀ t ∈ paid, t ≤ now) (hnow : now ≤ u32Max)
    (hlast : paid.getLast? = some t) (ht : t + period ≤ u32Max) : Spaced (fun t => t + period) paid := by
  have hearlier : ∀ u ∈ paid, u = t ∨ satAdd32 u period ≤ t := by
    obtain ⟨us, rfl⟩ := List.getLast?_eq_some_iff.mp hlast
    intro u hu
    rcases List.mem_append.mp hu with hu | hu
    · exact Or.inr ((List.pairwise_append.mp h).2.2 u hu t (by simp))
    · exact Or.inl (List.mem_singleton.mp hu)
  refine List.Pairwise.imp_of_mem ?_ h
  intro u u' hu _ hstop
  have := hle u hu
  have := hearlier u hu
  simp only [satAdd32] at hstop this ⊢
  omega

/-- The payments recorded so far, `paid`, account for every subscription. -/
structure PaidUp (now : Nat) (paid : Nat → AccountId → List Nat) (v : Renewals AccountId) : Prop where
  unpaid : ∀ c a, v.subscriptions c a = none → paid c a = []
  buys : ∀ c a sub, v.subscriptions c a = some sub → ∃ content, v.contents c = some content ∧
    Buys now content.periodLength (paid c a) sub.expiryBlock

theorem PaidUp.init {now : Nat} :
    PaidUp now (payments ([] : List (Record AccountId W))) (Storage.empty : Storage AccountId).renewals where
  unpaid _ _ _ := rfl
  buys _ _ _ h := by cases h

namespace PaidUp

variable {minPeriod now contentId : Nat} {who : AccountId} {sub : SubscriptionInfo} {v v' : Renewals AccountId}
  {paid paid' : Nat → AccountId → List Nat} {content : ContentMetadata AccountId}

theorem sets (h : PaidUp now paid v) (hs : v.Sets 0 contentId who sub v')
    (hother : ∀ c a, (c, a) ≠ (contentId, who) → paid' c a = paid c a) (hc : v.contents contentId = some content)
    (hbuys : Buys now content.periodLength (paid' contentId who) sub.expiryBlock) : PaidUp now paid' v' := by
  constructor
  · intro c a hn
    by_cases hx : (c, a) = (contentId, who)
    · cases hx
      rw [hs.self] at hn
      cases hn
    · rw [hs.others c a hx] at hn
      rw [hother c a hx]
      exact h.unpaid c a hn
  · intro c a sub' h'
    rw [hs.contents]
    by_cases hx : (c, a) = (contentId, who)
    · cases hx
      rw [hs.self] at h'
      cases h'
      exact ⟨content, hc, hbuys⟩
    · rw [hs.others c a hx] at h'
      rw [hother c a hx]
      exact h.buys c a sub' h'

omit [DecidableEq AccountId] in
theorem register (h : PaidUp now paid v) {c : Nat} (hf : v.contents c = none) :
    PaidUp now paid { v with contents := v.contents.insert c content } where
  unpaid := h.unpaid
  buys c' a sub' h' := by
    obtain ⟨content', hc', hb⟩ := h.buys c' a sub' h'
    have hne : c' ≠ c := by
      rintro rfl
      simp [hf] at hc'
    exact ⟨content', (StorageMap.insert_of_ne _ _ hne).trans hc', hb⟩

omit [DecidableEq AccountId] in
theorem buys_at (h : PaidUp now paid v) (hs : v.subscriptions contentId who = some sub)
    (hc : v.contents contentId = some content) :
    Buys now content.periodLength (paid contentId who) sub.expiryBlock := by
  obtain ⟨content', hc', hb⟩ := h.buys contentId who sub hs
  rw [hc] at hc'
  cases hc'
  exact hb

/-! ## One step -/

/-- The payments after an operation at block `now`. -/
def after (paid : Nat → AccountId → List Nat) (op : Op AccountId) (now : Nat) (c : Nat) (a : AccountId) : List Nat :=
  paid c a ++ if op.paysFor c a then [now] else []

theorem step {op : Op AccountId} (h : PaidUp now paid v) (hs : v.Step minPeriod now op v') :
    PaidUp now (after paid op now) v' := by
  have hkeep : (∀ c a, op.paysFor c a = false) → after paid op now = paid := by
    intro hop
    funext c a
    simp [after, hop c a]
  cases hs with
  | same hop =>
      rw [hkeep (paysFor_of_not_renewal hop)]
      exact h
  | register hop hf =>
      rw [hkeep (paysFor_of_not_renewal hop)]
      exact h.register hf
  | @subscribe payer beneficiary c content child hc hn =>
      refine h.sets (.insert (fun _ _ => rfl) (Or.inl rfl)) ?_ hc ?_
      · intro c' a' hx
        have : ¬ (c = c' ∧ beneficiary = a') := by
          rintro ⟨rfl, rfl⟩
          exact hx rfl
        simp [after, Op.paysFor, this]
      · simp only [after, h.unpaid c beneficiary hn, Op.paysFor, List.nil_append]
        simpa using Buys.first now content.periodLength
  | @renew payer beneficiary c content sub hc hs he =>
      refine h.sets (.insert (fun _ _ => rfl) (Or.inl rfl)) ?_ hc ?_
      · intro c' a' hx
        have : ¬ (c = c' ∧ beneficiary = a') := by
          rintro ⟨rfl, rfl⟩
          exact hx rfl
        simp [after, Op.paysFor, this]
      · simpa [after, Op.paysFor] using (h.buys_at hs hc).again he
  | @enable subscriber c content sub q hc hp hs hq =>
      rw [hkeep fun _ _ => rfl]
      have hb := h.buys_at hs hc
      exact h.sets (.insert (fun x hx => StorageMap.insert_of_ne _ _ hx) (Or.inr hq.put)) (fun _ _ _ => rfl) hc hb
  | @disable subscriber c sub hs =>
      rw [hkeep fun _ _ => rfl]
      obtain ⟨content, hc, hb⟩ := h.buys c subscriber sub hs
      exact h.sets (.insert (fun x hx => StorageMap.remove_of_ne _ hx) (Or.inl rfl)) (fun _ _ _ => rfl) hc hb

/-- The payments after the hook has deposited `evs` in block `now`. -/
def afterEvents (paid : Nat → AccountId → List Nat) (evs : List (Event AccountId)) (now : Nat) (c : Nat)
    (a : AccountId) : List Nat :=
  paid c a ++ (evs.filter (Event.renews c a)).map fun _ => now

theorem afterEvents_nil : afterEvents paid [] now = paid := by
  funext c a
  simp [afterEvents]

theorem afterEvents_append (xs ys : List (Event AccountId)) :
    afterEvents paid (xs ++ ys) now = afterEvents (afterEvents paid xs now) ys now := by
  funext c a
  simp [afterEvents]

theorem entry {evs : List (Event AccountId)} (h : PaidUp now paid v) (he : v.Entry now contentId who evs v') :
    PaidUp now (afterEvents paid evs now) v' := by
  have hother : ∀ c a, (c, a) ≠ (contentId, who) → ∀ e, Event.renews c a
      (.autoRenewalProcessed contentId who e) = false := by
    intro c a hx e
    have : ¬ (contentId = c ∧ who = a) := by
      rintro ⟨rfl, rfl⟩
      exact hx rfl
    simp [Event.renews, this]
  cases he with
  | dropped | unindexed =>
      rw [afterEvents_nil]
      exact ⟨h.unpaid, h.buys⟩
  | @requeued sub q hi hs ha hn hq =>
      rw [afterEvents_nil]
      exact ⟨h.unpaid, h.buys⟩
  | @stopped sub reason hs =>
      obtain ⟨content, hc, hb⟩ := h.buys contentId who sub hs
      refine h.sets (.insert (fun x hx => StorageMap.remove_of_ne _ hx) (Or.inl rfl)) ?_ hc ?_
      · intro c a _
        simp [afterEvents, Event.renews]
      · simpa [afterEvents, Event.renews] using hb
  | @renewed sub content q hi hs ha hn hc hq =>
      refine h.sets (.insert (fun _ _ => rfl) (Or.inr hq.put)) ?_ hc ?_
      · intro c a hx
        simp [afterEvents, hother c a hx]
      · simpa [afterEvents, Event.renews] using (h.buys_at hs hc).again hn
  | @renewedLast sub content hs ha hn hc =>
      refine h.sets (.insert (fun x hx => StorageMap.remove_of_ne _ hx) (Or.inl rfl)) ?_ hc ?_
      · intro c a hx
        rw [afterEvents, List.filter_cons_of_neg (by simp [hother c a hx])]
        simp [Event.renews]
      · simpa [afterEvents, Event.renews] using (h.buys_at hs hc).again hn

omit [DecidableEq AccountId] in
theorem later (h : PaidUp now paid v) {now' : Nat} (hle : now ≤ now') : PaidUp now' paid v where
  unpaid := h.unpaid
  buys c a sub hs := by
    obtain ⟨content, hc, hlast, hall, hspaced⟩ := h.buys c a sub hs
    exact ⟨content, hc, hlast, fun t ht => Nat.le_trans (hall t ht) hle, hspaced⟩

end PaidUp

/-! ## Blocks and runs -/

theorem filter_renews_autoRenewals (evs : List (Event AccountId)) (c : Nat) (a : AccountId) :
    (autoRenewals evs).filter (Event.renews c a) = evs.filter (Event.renews c a) := by
  rw [autoRenewals, List.filter_filter]
  refine List.filter_congr fun e _ => ?_
  cases e <;> simp [Event.renews, Event.isAutoRenewal]

theorem PaidUp.due {now : Nat} {due : List (Nat × AccountId)} {st st' : Storage AccountId} {w w' : W}
    {evs : List (Event AccountId)} {paid : Nat → AccountId → List Nat} (h : PaidUp now paid st.renewals)
    (hdue : DueEffect cfg now due st w evs st' w') : PaidUp now (PaidUp.afterEvents paid evs now) st'.renewals := by
  refine hdue.invariant (P := fun _ done st _ => PaidUp now (PaidUp.afterEvents paid done now) st.renewals) ?_ ?_
  · intro c who rest done st w evs st' w' h he
    rw [PaidUp.afterEvents_append]
    exact h.entry he.renewals
  · rwa [PaidUp.afterEvents_nil]

theorem PaidUp.action {tr : List (Record AccountId W)} {s s' : State AccountId W} {r : Record AccountId W}
    (hs : s.Sound) (h : PaidUp s.blockNumber (payments tr) s.store.renewals) (he : ChainEffect cfg s r s') :
    PaidUp s'.blockNumber (payments (tr ++ [r])) s'.store.renewals := by
  have hkeep : r.op = none → r.events = [] → payments (tr ++ [r]) = payments tr := by
    intro hop hev
    funext c a
    simp [Record.payments, hop, hev]
  cases he with
  | @call who call evs st' w' heff ha =>
      have hpay : payments (tr ++ [⟨s.blockNumber, .extrinsic (.signed who) call, true, evs⟩]) =
          PaidUp.after (payments tr) (call.op who) s.blockNumber := by
        funext c a
        have hnone := filter_renews_autoRenewals evs c a
        rw [ha] at hnone
        simp only [payments_snoc, Record.payments, Record.op, ← hnone, List.filter_nil, List.map_nil, List.append_nil]
        rfl
      rw [hpay]
      exact h.step (heff.renewals hs.fresh)
  | @block evs st' w' hb hdue hm =>
      have hpay : payments (tr ++ [⟨s.blockNumber + 1, .nextBlock, true, evs⟩]) =
          PaidUp.afterEvents (payments tr) (autoRenewals evs) (s.blockNumber + 1) := by
        funext c a
        simp [PaidUp.afterEvents, Record.payments, Record.op, filter_renews_autoRenewals]
      have hcleared : PaidUp (s.blockNumber + 1) (payments tr)
          { s.store with renewalQueue := s.store.renewalQueue.clear (s.blockNumber + 1) }.renewals :=
        ⟨h.unpaid, (h.later (Nat.le_succ _)).buys⟩
      rw [hpay]
      exact hcleared.due hdue
  | _ =>
      rw [hkeep rfl rfl]
      exact h

end Ccrms.Rights
