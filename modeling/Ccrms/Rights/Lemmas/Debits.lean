import Ccrms.Rights.Lemmas.Frame
import Ccrms.Rights.Lemmas.Royalties

/-!
# Who is debited, and by how much

A payment takes exactly the price from the payer, in shares and a remainder, and nothing from anyone else. The hook
charges a subscriber for a content only if the subscriber consented and the subscription has expired, and at most
once in a block.
-/

namespace Ccrms.Rights

open Ccrms.Lib Ccrms.Frame

variable {AccountId W : Type} [DecidableEq AccountId] {cfg : Config AccountId W}

/-! ## Operations -/

theorem Minted.total_eq (hsep : cfg.nfts.Separate cfg.currency) {creator owner : AccountId} {collection item : Nat}
    {rightsType : RightsType} {w w' : W} (h : Minted cfg creator owner collection item rightsType w w') :
    cfg.currency.total w' = cfg.currency.total w := by
  obtain ⟨w₁, hmint, hattr⟩ := h
  rw [hsep.setAttribute hattr, hsep.mint hmint]

/-- The registered price of what an operation buys; nothing for an operation that buys no right. -/
def Op.price (st : Storage AccountId) : Op AccountId → Nat
  | .subscribe _ _ c => ((st.contents c).map fun content => content.subscriptionPrice).getD 0
  | .renew _ _ c => ((st.contents c).map fun content => content.subscriptionPrice).getD 0
  | .purchaseViews _ _ c n => ((st.contents c).map fun content => n * content.ppvPrice).getD 0
  | .purchaseOwnership _ _ c => ((st.contents c).map fun content => content.ownershipPrice).getD 0
  | _ => 0

def Op.payer : Op AccountId → Option AccountId
  | .subscribe p _ _ => some p
  | .renew p _ _ => some p
  | .purchaseViews p _ _ _ => some p
  | .purchaseOwnership p _ _ => some p
  | _ => none

def SplitsBounded (st : Storage AccountId) : Prop := ∀ c, totalBasisPoints (st.royaltySplits c).toList ≤ 10000

section Effects

variable {now : Nat} {st st' : Storage AccountId} {w w' : W} {op : Op AccountId} {mints : List (Nat × Nat)}

theorem Effect.splitsBounded (h : Effect cfg now st w op mints st' w') (hb : SplitsBounded st) :
    SplitsBounded st' := by
  cases h with
  | @setRoyaltySplits caller contentId splits content hc hcr hbp =>
      intro c
      by_cases hx : c = contentId
      · subst hx
        simpa using hbp
      · simpa [Function.update_of_ne hx] using hb c
  | purchaseViews _ _ _ _ hadd => cases hadd <;> exact hb
  | consumeView h => cases h <;> exact hb
  | consumeViewFor _ h => cases h <;> exact hb
  | _ => exact hb

theorem ViewsAdded.total_eq (hsep : cfg.nfts.Separate cfg.currency) {content : ContentMetadata AccountId}
    {beneficiary : AccountId} {contentId numViews : Nat}
    (h : ViewsAdded cfg content beneficiary contentId numViews st w mints st' w') :
    cfg.currency.total w' = cfg.currency.total w := by
  cases h with
  | topUp => rfl
  | newPack _ _ hm => exact hm.total_eq hsep

theorem ViewConsumed.total_eq (hsep : cfg.nfts.Separate cfg.currency) {viewer : AccountId} {contentId : Nat}
    (h : ViewConsumed cfg viewer contentId st w st' w') : cfg.currency.total w' = cfg.currency.total w := by
  cases h with
  | shrink => rfl
  | last _ _ _ hb => exact hsep.doBurn hb

theorem Effect.total_le (hcur : cfg.currency.Lawful) (hsep : cfg.nfts.Separate cfg.currency)
    (h : Effect cfg now st w op mints st' w') (hb : SplitsBounded st) (x : AccountId) :
    cfg.currency.total w x ≤ cfg.currency.total w' x + if op.payer = some x then op.price st else 0 := by
  have hsame : ∀ {w₁ : W}, cfg.currency.total w₁ = cfg.currency.total w →
      cfg.currency.total w x ≤ cfg.currency.total w₁ x + 0 := by
    intro w₁ he
    rw [he]
    exact Nat.le_refl _
  cases h with
  | register _ _ hcreate hmint => exact hsame (by rw [hsep.mint hmint, hsep.createCollection hcreate])
  | @subscribe payer beneficiary contentId content w₁ w₂ hc hn hpay hi hm =>
      have := hpay.total_le hcur (hb contentId) x
      simp only [Op.payer, Op.price, hc, Option.map_some, Option.getD_some, Option.some.injEq, hm.total_eq hsep,
        eq_comm (a := payer)]
      exact this
  | @renew payer beneficiary contentId content sub w₁ hc hs he hpay =>
      have := hpay.total_le hcur (hb contentId) x
      simp only [Op.payer, Op.price, hc, Option.map_some, Option.getD_some, Option.some.injEq, eq_comm (a := payer)]
      exact this
  | @purchaseViews payer beneficiary contentId numViews content w₁ _ _ _ _ hc hmul hpay hadd =>
      have := hpay.total_le hcur (hb contentId) x
      simp only [Op.payer, Op.price, hc, Option.map_some, Option.getD_some, Option.some.injEq, hadd.total_eq hsep,
        eq_comm (a := payer), Nat.mul_comm numViews]
      exact this
  | @purchaseOwnership payer beneficiary contentId content w₁ w₂ hc hn hpay hi hm =>
      have := hpay.total_le hcur (hb contentId) x
      simp only [Op.payer, Op.price, hc, Option.map_some, Option.getD_some, Option.some.injEq, hm.total_eq hsep,
        eq_comm (a := payer)]
      exact this
  | transferOwnership hc ho hn hburn hi hm => exact hsame (by rw [hm.total_eq hsep, hsep.doBurn hburn])
  | consumeView h => exact hsame (h.total_eq hsep)
  | consumeViewFor _ h => exact hsame (h.total_eq hsep)
  | _ => exact hsame rfl

end Effects

omit [DecidableEq AccountId] in
theorem Call.payer_op (call : Call AccountId) (who : AccountId) :
    (call.op who).payer = some who ∨ (call.op who).payer = none := by
  cases call <;> first | exact Or.inl rfl | exact Or.inr rfl

/-! ## The hook -/

/-- The contents for which a list of events reports a paid auto-renewal of `x`. -/
def renewedContents (evs : List (Event AccountId)) (x : AccountId) : List Nat :=
  evs.filterMap fun
    | .autoRenewalProcessed c a _ => if a = x then some c else none
    | _ => none

def Storage.subscriptionPrice (st : Storage AccountId) (c : Nat) : Nat :=
  ((st.contents c).map fun content => content.subscriptionPrice).getD 0

section Hook

variable {now contentId : Nat} {who : AccountId} {st st' : Storage AccountId} {w w' : W}
  {evs : List (Event AccountId)}

@[simp] theorem renewedContents_append (xs ys : List (Event AccountId)) (x : AccountId) :
    renewedContents (xs ++ ys) x = renewedContents xs x ++ renewedContents ys x := List.filterMap_append

/-- Processing a due entry debits only its subscriber, and only for a paid renewal. -/
theorem EntryEffect.total_le (hcur : cfg.currency.Lawful) (h : EntryEffect cfg now contentId who st w evs st' w')
    (hb : SplitsBounded st) (x : AccountId) :
    cfg.currency.total w x ≤
      cfg.currency.total w' x + ((renewedContents evs x).map st.subscriptionPrice).sum := by
  cases h with
  | renewed _ _ _ _ hc hpay _ | renewedLast _ _ _ _ hc hpay _ =>
      have := hpay.total_le hcur (hb contentId) x
      by_cases hx : who = x
      · subst hx
        simpa [renewedContents, Storage.subscriptionPrice, hc] using this
      · rw [if_neg (Ne.symm hx)] at this
        simpa [renewedContents, hx] using this
  | _ => exact Nat.le_add_right _ _

/-- What an entry reports as renewed for `x` is its own content, and the subscription was due. -/
theorem EntryEffect.renewedContents (h : EntryEffect cfg now contentId who st w evs st' w') (x : AccountId) :
    renewedContents evs x = [] ∨ (who = x ∧ renewedContents evs x = [contentId] ∧
      ∃ sub, st.subscriptions contentId who = some sub ∧ sub.autoRenew = true ∧ sub.expiryBlock ≤ now) := by
  cases h with
  | @renewed sub content w₁ q hi hs ha hn hc hpay hq =>
      by_cases hx : who = x
      · subst hx
        exact Or.inr ⟨rfl, by simp [Rights.renewedContents], sub, hs, ha, hn⟩
      · exact Or.inl (by simp [Rights.renewedContents, hx])
  | @renewedLast sub content w₁ hi hs ha hn hc hpay hq =>
      by_cases hx : who = x
      · subst hx
        exact Or.inr ⟨rfl, by simp [Rights.renewedContents], sub, hs, ha, hn⟩
      · exact Or.inl (by simp [Rights.renewedContents, hx])
  | _ => exact Or.inl rfl

/-- What the loop of the hook has charged `x` since the storage `st`, with the entries `rest` left to process. -/
structure Charged (cfg : Config AccountId W) (now : Nat) (x : AccountId) (st : Storage AccountId) (w : W)
    (rest : List (Nat × AccountId)) (done : List (Event AccountId)) (st' : Storage AccountId) (w' : W) : Prop where
  catalogue : st.SameCatalogue st'
  keeps : st.renewals.Keeps st'.renewals
  autoRenews : ∀ c a, st'.renewals.AutoRenews c a → st.renewals.AutoRenews c a
  total : cfg.currency.total w x ≤
    cfg.currency.total w' x + ((renewedContents done x).map st.subscriptionPrice).sum
  rest_nodup : rest.Nodup
  done_nodup : (renewedContents done x).Nodup
  not_left : ∀ c ∈ renewedContents done x, (c, x) ∉ rest
  due : ∀ c ∈ renewedContents done x, st.renewals.AutoRenews c x ∧
    ∃ sub, st.subscriptions c x = some sub ∧ sub.expiryBlock ≤ now

theorem Charged.entry {x : AccountId} {rest : List (Nat × AccountId)} {done : List (Event AccountId)}
    {st₀ : Storage AccountId} {w₀ : W} (hcur : cfg.currency.Lawful) (hb : SplitsBounded st₀) (hnow : now ≤ u32Max)
    (h : Charged cfg now x st₀ w₀ ((contentId, who) :: rest) done st w)
    (he : EntryEffect cfg now contentId who st w evs st' w') :
    Charged cfg now x st₀ w₀ rest (done ++ evs) st' w' := by
  have hren := he.renewals
  have hprice : st.subscriptionPrice = st₀.subscriptionPrice := by
    funext c
    simp only [Storage.subscriptionPrice, h.catalogue.contents]
  have hsplits : SplitsBounded st := fun c => by rw [h.catalogue.royaltySplits]; exact hb c
  obtain ⟨hnotin, hnodup⟩ := List.nodup_cons.mp h.rest_nodup
  refine ⟨h.catalogue.trans he.catalogue, h.keeps.trans (hren.keeps hnow),
    fun c a ha => h.autoRenews c a (hren.autoRenews ha), ?_, hnodup, ?_, ?_, ?_⟩
  · have hstep := he.total_le hcur hsplits x
    have htotal := h.total
    rw [hprice] at hstep
    rw [renewedContents_append, List.map_append, List.sum_append]
    omega
  all_goals
    rw [renewedContents_append]
    rcases he.renewedContents x with hnil | ⟨rfl, hone, sub, hs, ha, hexp⟩
  · rw [hnil, List.append_nil]
    exact h.done_nodup
  · rw [hone]
    refine List.nodup_append.mpr ⟨h.done_nodup, List.nodup_singleton _, ?_⟩
    rintro c hc d hd rfl
    rw [List.mem_singleton.mp hd] at hc
    exact h.not_left contentId hc List.mem_cons_self
  · rw [hnil, List.append_nil]
    exact fun c hc hm => h.not_left c hc (List.mem_cons_of_mem _ hm)
  · rw [hone]
    intro c hc
    rcases List.mem_append.mp hc with hc | hc
    · exact fun hm => h.not_left c hc (List.mem_cons_of_mem _ hm)
    · rw [List.mem_singleton.mp hc]
      exact hnotin
  · rw [hnil, List.append_nil]
    exact h.due
  · rw [hone]
    intro c hc
    rcases List.mem_append.mp hc with hc | hc
    · exact h.due c hc
    · rw [List.mem_singleton.mp hc]
      -- The expiry has not gone back since the start of the loop.
      obtain ⟨sub₀, hs₀, ha₀⟩ := h.autoRenews contentId who ⟨sub, hs, ha⟩
      obtain ⟨sub', hs', hle⟩ := h.keeps contentId who sub₀ hs₀
      have hsame : sub' = sub := Option.some.inj (hs'.symm.trans hs)
      exact ⟨⟨sub₀, hs₀, ha₀⟩, sub₀, hs₀, by rw [hsame] at hle; omega⟩

theorem DueEffect.charged (hcur : cfg.currency.Lawful) {due : List (Nat × AccountId)} (hdue : due.Nodup)
    (h : DueEffect cfg now due st w evs st' w') (hb : SplitsBounded st) (hnow : now ≤ u32Max) (x : AccountId) :
    Charged cfg now x st w [] evs st' w' := by
  refine h.invariant (P := fun rest done st' w' => Charged cfg now x st w rest done st' w') ?_ ?_
  · intro c who rest done st w evs st' w' hch he
    exact hch.entry hcur hb hnow he
  · exact ⟨.refl st, .refl _, fun _ _ h => h, Nat.le_add_right _ _, hdue, List.nodup_nil, by simp [renewedContents],
      by simp [renewedContents]⟩

end Hook

/-! ## Consent -/

section Consent

variable {now contentId c : Nat} {who a : AccountId} {v v' : Renewals AccountId} {evs : List (Event AccountId)}

theorem any_failsRenewal_autoRenewals (evs : List (Event AccountId)) (c : Nat) (a : AccountId) :
    (autoRenewals evs).any (Event.failsRenewal c a) = evs.any (Event.failsRenewal c a) := by
  rw [autoRenewals, List.any_filter]
  congr 1
  funext e
  cases e <;> simp [Event.failsRenewal, Event.isAutoRenewal]

theorem Renewals.Entry.not_failed (h : v.Entry now contentId who evs v') (ha : v'.AutoRenews c a) :
    evs.any (Event.failsRenewal c a) = false := by
  cases h with
  | dropped => rfl
  | unindexed => rfl
  | requeued => rfl
  | renewed => rfl
  | stopped =>
      by_contra hfail
      obtain ⟨rfl, rfl⟩ : contentId = c ∧ who = a := by simpa [Event.failsRenewal] using hfail
      obtain ⟨sub, hs, ha⟩ := ha
      have hs := (StorageDoubleMap.insert_self ..).symm.trans hs
      cases hs
      cases ha
  | renewedLast =>
      by_contra hfail
      obtain ⟨rfl, rfl⟩ : contentId = c ∧ who = a := by simpa [Event.failsRenewal] using hfail
      obtain ⟨sub, hs, ha⟩ := ha
      have hs := (StorageDoubleMap.insert_self ..).symm.trans hs
      cases hs
      cases ha

theorem DueEffect.not_failed {due : List (Nat × AccountId)} {st st' : Storage AccountId} {w w' : W}
    (h : DueEffect cfg now due st w evs st' w') (ha : st'.renewals.AutoRenews c a) :
    evs.any (Event.failsRenewal c a) = false := by
  refine h.invariant (P := fun _ done st _ => st.renewals.AutoRenews c a →
    done.any (Event.failsRenewal c a) = false) ?_ (fun _ => rfl) ha
  intro c' who rest done st w evs st' w' hdone he ha
  rw [List.any_append, hdone (he.renewals.autoRenews ha), he.renewals.not_failed ha]
  rfl

theorem Renewals.Step.not_disable {minPeriod : Nat} {op : Op AccountId} (h : v.Step minPeriod now op v')
    (ha : v'.AutoRenews c a) : op ≠ .disableAutoRenew a c := by
  rintro rfl
  cases h with
  | same hop => cases hop
  | register hop => cases hop
  | disable =>
      obtain ⟨sub, hs, ha⟩ := ha
      have hs := (StorageDoubleMap.insert_self ..).symm.trans hs
      cases hs
      cases ha

/-- A subscription renews itself only with the consent of its subscriber. -/
theorem ChainEffect.consents {tr : List (Record AccountId W)} {s s' : State AccountId W} {r : Record AccountId W}
    (h : ChainEffect cfg s r s') (hs : s.Sound)
    (hc : ∀ c a, s.store.renewals.AutoRenews c a → Consents tr c a) :
    ∀ c a, s'.store.renewals.AutoRenews c a → Consents (tr ++ [r]) c a := by
  intro c a ha
  have hquiet : r.op = none → r.events.any (Event.failsRenewal c a) = false → ¬ r.EndsConsent c a := by
    rintro hop hev (h | h)
    · rw [hop] at h; cases h
    · rw [hev] at h; cases h
  cases h with
  | @call who call evs st' w' heff hauto =>
      have hren := heff.renewals hs.fresh
      rcases hren.autoRenews ha with hold | hop
      · refine (hc c a hold).snoc ?_
        rintro (hdis | hfail)
        · exact hren.not_disable ha (Option.some.inj hdis)
        · rw [← any_failsRenewal_autoRenewals, hauto] at hfail
          cases hfail
      · exact .of_enable (congrArg some hop)
  | block hb hdue _ =>
      refine (hc c a ((hdue.keeps hb).2 c a ha)).snoc (hquiet rfl ?_)
      rw [← any_failsRenewal_autoRenewals]
      exact hdue.not_failed ha
  | _ => exact (hc c a ha).snoc (hquiet rfl rfl)

/-! ## Buckets without duplicates -/

theorem Renewals.Step.nodup {minPeriod : Nat} {op : Op AccountId} (h : v.Step minPeriod now op v')
    (hn : ∀ b, (v.renewalQueue b).toList.Nodup) : ∀ b, (v'.renewalQueue b).toList.Nodup := by
  cases h with
  | enable _ _ _ hq =>
      obtain ⟨b, _, hfit, rfl⟩ := hq.put
      exact Calendar.nodup_put hfit hn
  | _ => exact hn

theorem Renewals.Entry.nodup (h : v.Entry now contentId who evs v')
    (hn : ∀ b, (v.renewalQueue b).toList.Nodup) : ∀ b, (v'.renewalQueue b).toList.Nodup := by
  cases h with
  | requeued _ _ _ _ hq | renewed _ _ _ _ _ hq =>
      obtain ⟨b, _, hfit, rfl⟩ := hq.put
      exact Calendar.nodup_put hfit hn
  | _ => exact hn

theorem ChainEffect.nodup {s s' : State AccountId W} {r : Record AccountId W} (h : ChainEffect cfg s r s')
    (hs : s.Sound) (hn : ∀ b, (s.store.renewalQueue b).toList.Nodup) :
    ∀ b, (s'.store.renewalQueue b).toList.Nodup := by
  cases h with
  | call heff _ => exact (heff.renewals hs.fresh).nodup hn
  | block _ hdue _ =>
      exact hdue.invariant (P := fun _ _ st _ => ∀ b, (st.renewalQueue b).toList.Nodup)
        (fun _ _ _ _ _ _ _ _ _ hn he => he.renewals.nodup hn) (Calendar.nodup_clear hn _)
  | _ => exact hn

end Consent

structure Accountable (tr : List (Record AccountId W)) (s : State AccountId W) : Prop where
  consents : ∀ c a, s.store.renewals.AutoRenews c a → Consents tr c a
  splits : SplitsBounded s.store
  nodup : ∀ b, (s.store.renewalQueue b).toList.Nodup

theorem run_accountable (cfg : Config AccountId W) (n₀ : U32) (w₀ : W) (as : List (Action AccountId W)) :
    Accountable ((chain cfg).run (.init n₀ w₀) as).1 ((chain cfg).run (.init n₀ w₀) as).2 := by
  refine chain_invariant (P := Accountable) ⟨?_, fun _ => Nat.zero_le _, fun _ => List.nodup_nil⟩ ?_ as
  · rintro c a ⟨sub, hs, _⟩
    cases hs
  · intro tr s r s' hs h he
    refine ⟨he.consents hs h.consents, ?_, he.nodup hs h.nodup⟩
    cases he with
    | call heff _ => exact heff.splitsBounded h.splits
    | block _ hdue _ =>
        intro c
        rw [hdue.catalogue.royaltySplits]
        exact h.splits c
    | _ => exact h.splits

/-! ## One action -/

section Action

variable {tr : List (Record AccountId W)} {s s' : State AccountId W} {r : Record AccountId W} {x : AccountId}

theorem ChainEffect.debit_call (hcur : cfg.currency.Lawful) (hsep : cfg.nfts.Separate cfg.currency)
    (h : ChainEffect cfg s r s') (hb : SplitsBounded s.store) {origin : Origin AccountId} {call : Call AccountId}
    (ha : r.action = .extrinsic origin call)
    (hlt : cfg.currency.total s'.world x < cfg.currency.total s.world x) :
    origin = .signed x ∧
      cfg.currency.total s.world x ≤ cfg.currency.total s'.world x + (call.op x).price s.store := by
  cases h with
  | failed => exact absurd hlt (Nat.lt_irrefl _)
  | @call who call' evs st' w' heff _ =>
      cases ha
      have hle := heff.total_le hcur hsep hb x
      rcases call.payer_op who with hp | hp
      · by_cases hx : who = x
        · subst hx
          rw [if_pos hp] at hle
          exact ⟨rfl, hle⟩
        · rw [if_neg (by rw [hp]; simpa using hx)] at hle
          exact absurd hlt (Nat.not_lt.mpr hle)
      · rw [if_neg (by rw [hp]; simp)] at hle
        exact absurd hlt (Nat.not_lt.mpr hle)
  | block | create | burn | transfer | setPrice | other => cases ha

theorem renewedContents_autoRenewals (evs : List (Event AccountId)) (x : AccountId) :
    renewedContents (autoRenewals evs) x = renewedContents evs x := by
  rw [renewedContents, autoRenewals, List.filterMap_filter]
  refine List.filterMap_congr fun e _ => ?_
  cases e <;> rfl

/-- The hook debits an account only for the contents it reports as renewed. -/
theorem ChainEffect.debit_block (hcur : cfg.currency.Lawful) (h : ChainEffect cfg s r s') (hacc : Accountable tr s)
    (ha : r.action = .nextBlock) :
    (renewedContents r.events x).Nodup ∧
    (∀ c ∈ renewedContents r.events x, Consents tr c x ∧
      ∃ sub, s.store.subscriptions c x = some sub ∧ sub.expiryBlock ≤ s'.blockNumber) ∧
    cfg.currency.total s.world x ≤
      cfg.currency.total s'.world x + ((renewedContents r.events x).map s.store.subscriptionPrice).sum := by
  cases h with
  | failed => exact ⟨List.nodup_nil, by simp [renewedContents], Nat.le_add_right _ _⟩
  | block hb hdue _ =>
      have hch := hdue.charged hcur (hacc.nodup _) hacc.splits hb x
      rw [← renewedContents_autoRenewals]
      refine ⟨hch.done_nodup, ?_, hch.total⟩
      intro c hc
      obtain ⟨hauto, hexp⟩ := hch.due c hc
      exact ⟨hacc.consents c x hauto, hexp⟩
  | call | create | burn | transfer | setPrice | other => cases ha

end Action

/-! ## One entry of the loop -/

/-- The state in which the hook of the next block starts its loop. -/
def State.openBlock (s : State AccountId W) : State AccountId W :=
  ⟨{ s.store with renewalQueue := s.store.renewalQueue.clear (s.blockNumber + 1) }, s.blockNumber + 1, [], s.world⟩

/-- If the entry `(c, who)` debits `x`, then `x` is its subscriber, consented and was due, and pays at most the
price. -/
theorem processEntry_debit (hcur : cfg.currency.Lawful) {tr : List (Record AccountId W)} {s : State AccountId W}
    (h : Accountable tr s) (hb : s.blockNumber < u32Max) {before after : List (Nat × AccountId)} {c : Nat}
    {who x : AccountId}
    (hdue : (s.store.renewalQueue (s.blockNumber + 1)).toList = before ++ (c, who) :: after)
    (hlt : cfg.currency.total (processEntry cfg c who (processDue cfg before 0 s.openBlock).2).2.world x <
      cfg.currency.total (processDue cfg before 0 s.openBlock).2.world x) :
    who = x ∧ Consents tr c x ∧
      (∃ sub, s.store.subscriptions c x = some sub ∧ sub.expiryBlock ≤ s.blockNumber + 1) ∧
      cfg.currency.total (processDue cfg before 0 s.openBlock).2.world x ≤
        cfg.currency.total (processEntry cfg c who (processDue cfg before 0 s.openBlock).2).2.world x +
          s.store.subscriptionPrice c := by
  have hnow : s.openBlock.now = s.blockNumber + 1 := toU32OrZero_eq hb
  have hnodup : before.Nodup := by
    have := h.nodup (s.blockNumber + 1)
    rw [hdue] at this
    exact (List.nodup_append.mp this).1
  obtain ⟨evs, hloop, hblock, _⟩ := processDue_effect cfg before 0 s.openBlock
  rw [hnow] at hloop
  have hch := hloop.charged hcur hnodup h.splits hb x
  obtain ⟨evs', hentry, _⟩ := processEntry_processed cfg c who (processDue cfg before 0 s.openBlock).2
  have hnow' : (processDue cfg before 0 s.openBlock).2.now = s.blockNumber + 1 := by
    rw [State.now, hblock]
    exact hnow
  rw [hnow'] at hentry
  have hsplits : SplitsBounded (processDue cfg before 0 s.openBlock).2.store := by
    intro c
    rw [hch.catalogue.royaltySplits]
    exact h.splits c
  have htotal := hentry.total_le hcur hsplits x
  rcases hentry.renewedContents x with hnil | ⟨rfl, hone, sub, hs, ha, hexp⟩
  · rw [hnil] at htotal
    simp only [List.map_nil, List.sum_nil] at htotal
    omega
  · obtain ⟨sub₀, hs₀, ha₀⟩ := hch.autoRenews c who ⟨sub, hs, ha⟩
    obtain ⟨sub', hs', hle⟩ := hch.keeps c who sub₀ hs₀
    have hsame : sub' = sub := Option.some.inj (hs'.symm.trans hs)
    rw [hsame] at hle
    refine ⟨rfl, h.consents c who ⟨sub₀, hs₀, ha₀⟩, ⟨sub₀, hs₀, by omega⟩, ?_⟩
    have hprice : (processDue cfg before 0 s.openBlock).2.store.subscriptionPrice c = s.store.subscriptionPrice c := by
      simp only [Storage.subscriptionPrice, hch.catalogue.contents]
      rfl
    rw [hone] at htotal
    simpa [hprice] using htotal

end Ccrms.Rights
