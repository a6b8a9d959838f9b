import Ccrms.Rights.Lemmas.Helpers
import Mathlib.Algebra.BigOperators.Finprod

/-!
# Where the money of a payment goes

A payment is a list of transfers from one account. The free balance of every account after it is given by what the
account received, and what it paid. The shares are floors of parts of the amount, clipped at a tenth of a thousandth of
the largest `u128`; as the basis points add up to at most 10,000, the shares and the remainder add up to the amount.
-/

namespace Ccrms.Rights

open Ccrms.Lib Ccrms.Frame

variable {AccountId W : Type} [DecidableEq AccountId] {cfg : Config AccountId W}

/-! ## Lists of transfers -/

def amounts (ts : List (AccountId × Nat)) : Nat := (ts.map Prod.snd).sum

/-- What a list of transfers brings to `x`. -/
def received (ts : List (AccountId × Nat)) (x : AccountId) : Nat := (ts.map fun t => if t.1 = x then t.2 else 0).sum

omit [DecidableEq AccountId] in
@[simp] theorem amounts_cons (t : AccountId × Nat) (ts : List (AccountId × Nat)) :
    amounts (t :: ts) = t.2 + amounts ts := by
  simp [amounts]

omit [DecidableEq AccountId] in
@[simp] theorem amounts_append (ts us : List (AccountId × Nat)) : amounts (ts ++ us) = amounts ts + amounts us := by
  simp [amounts]

omit [DecidableEq AccountId] in
theorem le_amounts {t : AccountId × Nat} {ts : List (AccountId × Nat)} (h : t ∈ ts) : t.2 ≤ amounts ts :=
  List.single_le_sum (by simp) _ (List.mem_map_of_mem h)

@[simp] theorem received_nil (x : AccountId) : received [] x = 0 := rfl

@[simp] theorem received_cons (t : AccountId × Nat) (ts : List (AccountId × Nat)) (x : AccountId) :
    received (t :: ts) x = (if t.1 = x then t.2 else 0) + received ts x := by
  simp [received]

@[simp] theorem received_append (ts us : List (AccountId × Nat)) (x : AccountId) :
    received (ts ++ us) x = received ts x + received us x := by
  simp [received]

theorem received_eq_zero {ts : List (AccountId × Nat)} {x : AccountId} (h : ∀ t ∈ ts, t.1 ≠ x) :
    received ts x = 0 := by
  induction ts with
  | nil => rfl
  | cons t rest ih =>
      rw [received_cons, if_neg (h t List.mem_cons_self), ih fun u hu => h u (List.mem_cons_of_mem _ hu)]

section Transfers

variable {cur : Currency AccountId W} {payer : AccountId} {ts : List (AccountId × Nat)} {w w' : W}

/-- The free balance of every account after a list of transfers. -/
theorem Transfers.free_eq (hcur : cur.Lawful) (h : Transfers cur payer ts w w') (x : AccountId) :
    cur.free w' x + (if x = payer then amounts ts else 0) = cur.free w x + received ts x := by
  induction h with
  | nil => simp [amounts]
  | cons ht _ ih =>
      have hstep := hcur.free_preserve ht x
      rw [amounts_cons, received_cons]
      simp only [eq_comm (b := x)]
      split_ifs at * <;> omega

omit [DecidableEq AccountId] in
theorem Transfers.reserved_eq (hcur : cur.Lawful) (h : Transfers cur payer ts w w') :
    cur.reserved w' = cur.reserved w := by
  induction h with
  | nil => rfl
  | cons ht _ ih => rw [ih, hcur.reserved ht]

theorem Transfers.total_eq (hcur : cur.Lawful) (h : Transfers cur payer ts w w') (x : AccountId) :
    cur.total w' x + (if x = payer then amounts ts else 0) = cur.total w x + received ts x := by
  have hfree := h.free_eq hcur x
  unfold Currency.total
  rw [h.reserved_eq hcur]
  omega

/-- The sum of all free balances is the same before and after. -/
theorem Transfers.finsum_free (hcur : cur.Lawful) (h : Transfers cur payer ts w w')
    (hfin : (Function.support (cur.free w)).Finite) :
    (Function.support (cur.free w')).Finite ∧ ∑ᶠ x, cur.free w' x = ∑ᶠ x, cur.free w x := by
  induction h with
  | nil => exact ⟨hfin, rfl⟩
  | @cons recipient amount ts w w₁ w₂ ht _ ih =>
      have hone : ∀ y : AccountId, (Function.support fun x => if x = y then amount else 0).Finite := by
        intro y
        refine (Set.finite_singleton y).subset ?_
        intro x hx
        by_contra hne
        exact hx (if_neg hne)
      have hstep : ∀ x, cur.free w₁ x + (if x = payer then amount else 0) =
          cur.free w x + (if x = recipient then amount else 0) := hcur.free_preserve ht
      have hfin₁ : (Function.support (cur.free w₁)).Finite := by
        refine (hfin.union (hone recipient)).subset ?_
        intro x hx
        by_contra hno
        simp only [Set.mem_union, Function.mem_support, not_or, not_not] at hno hx
        have := hstep x
        omega
      obtain ⟨hfin₂, hsum⟩ := ih hfin₁
      refine ⟨hfin₂, hsum.trans ?_⟩
      have hboth : ∑ᶠ x, (cur.free w₁ x + if x = payer then amount else 0) =
          ∑ᶠ x, (cur.free w x + if x = recipient then amount else 0) := finsum_congr hstep
      rw [finsum_add_distrib hfin₁ (hone payer), finsum_add_distrib hfin (hone recipient)] at hboth
      have hvalue : ∀ y : AccountId, (∑ᶠ x, if x = y then amount else 0) = amount := by
        intro y
        rw [finsum_eq_single _ y fun x hx => if_neg hx, if_pos rfl]
      rw [hvalue, hvalue] at hboth
      omega

/-- What the later transfers find, told by the balances before the first one. A payer that keeps the existential deposit
finds enough itself. -/
theorem enough_after_iff (hcur : cur.Lawful) {recipient : AccountId} {amount : Nat} {w₁ : W}
    (ht : cur.transfer payer recipient amount .preserve w = .ok w₁)
    (hfunds : amount + cur.existentialDeposit ≤ cur.free w payer) (pre : List (AccountId × Nat)) (t : AccountId × Nat) :
    cur.existentialDeposit ≤ cur.free w₁ t.1 + received (pre ++ [t]) t.1 ↔
      cur.existentialDeposit ≤ cur.free w t.1 + received ((recipient, amount) :: pre ++ [t]) t.1 := by
  have hstep := hcur.free_preserve ht t.1
  simp only [List.cons_append, received_cons, eq_comm (a := recipient)]
  by_cases hp : t.1 = payer
  · rw [hp] at hstep ⊢
    rw [if_pos rfl] at hstep
    omega
  · rw [if_neg hp] at hstep
    omega

/-- A payer with the sum of the transfers and the existential deposit can make all of them, if and only if each of them
finds its recipient with enough, or brings it enough. -/
theorem transfers_exist_iff (hcur : cur.Lawful) {liquid : W → AccountId → Prop} (hcond : cur.Conditions liquid)
    (hliquid : liquid w payer) (hfunds : amounts ts + cur.existentialDeposit ≤ cur.free w payer) :
    (∃ w', Transfers cur payer ts w w') ↔ ∀ pre t post, ts = pre ++ t :: post → 0 < t.2 →
      cur.existentialDeposit ≤ cur.free w t.1 + received (pre ++ [t]) t.1 := by
  induction ts generalizing w with
  | nil => exact ⟨fun _ pre t post h => by simp at h, fun _ => ⟨w, .nil⟩⟩
  | cons t rest ih =>
      obtain ⟨recipient, amount⟩ := t
      rw [amounts_cons] at hfunds
      have hleft : ∀ {w₁}, cur.transfer payer recipient amount .preserve w = .ok w₁ →
          amounts rest + cur.existentialDeposit ≤ cur.free w₁ payer := by
        intro w₁ ht
        have hstep := hcur.free_preserve ht payer
        rw [if_pos rfl] at hstep
        omega
      constructor
      · rintro ⟨w', htr⟩ pre t post heq hpos
        cases htr with
        | @cons _ _ _ _ w₁ _ ht htr =>
            cases pre with
            | nil =>
                obtain ⟨rfl, rfl⟩ := List.cons.inj heq
                have := hcond.below_minimum hpos ht
                simpa using this
            | cons u pre =>
                obtain ⟨rfl, rfl⟩ := List.cons.inj heq
                have hrest := (ih (hcond.liquid_kept ht hliquid) (hleft ht)).mp ⟨w', htr⟩ pre t post rfl hpos
                exact (enough_after_iff hcur ht (by omega) pre t).mp hrest
      · intro h
        have hfirst : 0 < amount → cur.existentialDeposit ≤ cur.free w recipient + amount := by
          intro hpos
          simpa using h [] (recipient, amount) rest rfl hpos
        obtain ⟨w₁, ht⟩ := hcond.preserve_ok hliquid (by omega) hfirst
        have hrest : ∃ w', Transfers cur payer rest w₁ w' := by
          refine (ih (hcond.liquid_kept ht hliquid) (hleft ht)).mpr fun pre t post heq hpos => ?_
          exact (enough_after_iff hcur ht (by omega) pre t).mpr
            (h ((recipient, amount) :: pre) t post (by rw [heq]; rfl) hpos)
        obtain ⟨w', htr⟩ := hrest
        exact ⟨w', .cons ht htr⟩

end Transfers

/-! ## Shares -/

section Shares

variable (amount : Nat)

theorem share_le (split : RoyaltySplit) : 10000 * share amount split ≤ amount * split.basisPoints := by
  have hdiv := Nat.mul_div_le (satMul128 amount split.basisPoints) 10000
  have hmin : satMul128 amount split.basisPoints ≤ amount * split.basisPoints := Nat.min_le_left _ _
  exact Nat.le_trans hdiv hmin

theorem share_le_max (split : RoyaltySplit) : share amount split ≤ u128Max / 10000 :=
  Nat.div_le_div_right (Nat.min_le_right _ _)

variable (cfg)

omit [DecidableEq AccountId] in
theorem amounts_shares_cons_le (split : RoyaltySplit) (rest : List RoyaltySplit) :
    amounts (shares cfg amount (split :: rest)) ≤ share amount split + amounts (shares cfg amount rest) := by
  by_cases hpos : share amount split > 0
  · cases hr : cfg.decodeAccount split.recipient with
    | none => simp [shares, hpos, hr]
    | some r => rw [shares_cons_pos hpos hr, amounts_cons]
  · rw [shares_cons_zero hpos]
    exact Nat.le_add_left _ _

omit [DecidableEq AccountId] in
/-- The shares are at most the basis points of the amount, and small enough for their sum not to saturate. -/
theorem shares_le (splits : List RoyaltySplit) :
    10000 * amounts (shares cfg amount splits) ≤ amount * totalBasisPoints splits ∧
      amounts (shares cfg amount splits) ≤ splits.length * (u128Max / 10000) := by
  induction splits with
  | nil => simp [shares, amounts]
  | cons split rest ih =>
      obtain ⟨hbp, hmax⟩ := ih
      have h1 := share_le amount split
      have h2 := share_le_max amount split
      have hsum := amounts_shares_cons_le cfg amount split rest
      have htotal : amount * totalBasisPoints (split :: rest) =
          amount * split.basisPoints + amount * totalBasisPoints rest := by
        simp [totalBasisPoints, Nat.mul_add]
      have hlen : (split :: rest).length * (u128Max / 10000) =
          u128Max / 10000 + rest.length * (u128Max / 10000) := by
        rw [List.length_cons, Nat.succ_mul, Nat.add_comm]
      omega

omit [DecidableEq AccountId] in
theorem amounts_shares_le {splits : List RoyaltySplit} (h : totalBasisPoints splits ≤ 10000) :
    amounts (shares cfg amount splits) ≤ amount := by
  have hbp := (shares_le cfg amount splits).1
  have := Nat.mul_le_mul_left amount h
  omega

omit [DecidableEq AccountId] in
theorem distributed_eq (ts : List (AccountId × Nat)) (d : Nat) (h : d + amounts ts ≤ u128Max) :
    distributed d ts = d + amounts ts := by
  induction ts generalizing d with
  | nil => rfl
  | cons t rest ih =>
      rw [amounts_cons] at h ⊢
      have hadd : satAdd128 d t.2 = d + t.2 := Nat.min_eq_left (by omega)
      rw [distributed, List.foldl_cons, hadd]
      have := ih (d + t.2) (by omega)
      rw [distributed] at this
      omega

omit [DecidableEq AccountId] in
/-- The running total of at most ten shares does not saturate. -/
theorem distributed_shares {splits : List RoyaltySplit} (hlen : splits.length ≤ maxRoyaltySplits) :
    distributed 0 (shares cfg amount splits) = amounts (shares cfg amount splits) := by
  have hmax := (shares_le cfg amount splits).2
  have hten : splits.length * (u128Max / 10000) ≤ 10 * (u128Max / 10000) := Nat.mul_le_mul_right _ hlen
  have hfit : 10 * (u128Max / 10000) ≤ u128Max := by decide
  rw [distributed_eq _ 0 (by omega), Nat.zero_add]

variable {cfg} in
omit [DecidableEq AccountId] in
/-- What a payment transfers: the shares, and the rest to the creator. -/
theorem royaltyTransfers_eq {splits : List RoyaltySplit} (hlen : splits.length ≤ maxRoyaltySplits)
    (creator : AccountId) :
    royaltyTransfers cfg creator amount splits =
      if splits ≠ [] ∧ amount ≤ amounts (shares cfg amount splits) then shares cfg amount splits
      else shares cfg amount splits ++ [(creator, amount - amounts (shares cfg amount splits))] := by
  unfold royaltyTransfers
  by_cases hnil : splits = []
  · subst hnil
    simp [shares, amounts]
  · simp only [hnil, if_false, distributed_shares cfg amount hlen]
    by_cases hle : amount ≤ amounts (shares cfg amount splits)
    · rw [if_neg (by omega), if_pos ⟨hnil, hle⟩]
    · rw [if_pos (by omega), if_neg (fun h => hle h.2)]

omit [DecidableEq AccountId] in
/-- The transfers of a payment add up to the amount. -/
theorem amounts_royaltyTransfers {splits : List RoyaltySplit} (hlen : splits.length ≤ maxRoyaltySplits)
    (h : totalBasisPoints splits ≤ 10000) (creator : AccountId) :
    amounts (royaltyTransfers cfg creator amount splits) = amount := by
  have hle := amounts_shares_le cfg amount h
  rw [royaltyTransfers_eq amount hlen]
  split
  · omega
  · rw [amounts_append, amounts_cons]
    simp only [amounts, List.map_nil, List.sum_nil] at hle ⊢
    omega

theorem received_royaltyTransfers {splits : List RoyaltySplit} (hlen : splits.length ≤ maxRoyaltySplits)
    (creator x : AccountId) :
    received (royaltyTransfers cfg creator amount splits) x = received (shares cfg amount splits) x +
      if creator = x then amount - amounts (shares cfg amount splits) else 0 := by
  rw [royaltyTransfers_eq amount hlen]
  split
  · rename_i hle
    rw [Nat.sub_eq_zero_of_le hle.2, ite_self, Nat.add_zero]
  · simp

end Shares

/-! ## What the splits of one account add up to -/

/-- The part of a sum over the splits that belongs to those of `x`. -/
def portion (cfg : Config AccountId W) (f : RoyaltySplit → Nat) (splits : List RoyaltySplit) (x : AccountId) : Nat :=
  (splits.map fun split => if cfg.decodeAccount split.recipient = some x then f split else 0).sum

section Portions

variable {amount : Nat} {splits : List RoyaltySplit}

theorem received_shares (cfg : Config AccountId W) (amount : Nat) (splits : List RoyaltySplit) (x : AccountId) :
    received (shares cfg amount splits) x = portion cfg (share amount) splits x := by
  induction splits with
  | nil => rfl
  | cons split rest ih =>
      have hcons : portion cfg (share amount) (split :: rest) x =
          (if cfg.decodeAccount split.recipient = some x then share amount split else 0) +
            portion cfg (share amount) rest x := by
        simp [portion]
      rw [hcons, ← ih]
      by_cases hpos : share amount split > 0
      · cases hr : cfg.decodeAccount split.recipient with
        | none => simp [shares, hpos, hr]
        | some r => simp [shares_cons_pos hpos hr]
      · rw [shares_cons_zero hpos, Nat.eq_zero_of_not_pos hpos, ite_self, Nat.zero_add]

omit [DecidableEq AccountId] in
theorem amounts_shares (hdec : Decodable cfg amount splits) :
    amounts (shares cfg amount splits) = (splits.map (share amount)).sum := by
  induction splits with
  | nil => rfl
  | cons split rest ih =>
      obtain ⟨hr, hrest⟩ := decodable_cons.mp hdec
      rw [List.map_cons, List.sum_cons, ← ih hrest]
      by_cases hpos : share amount split > 0
      · obtain ⟨r, hr⟩ := hr hpos
        rw [shares_cons_pos hpos hr, amounts_cons]
      · rw [shares_cons_zero hpos, Nat.eq_zero_of_not_pos hpos, Nat.zero_add]

/-- A sum over the splits is the part of the creator and the rest. -/
theorem sum_eq_portion_add (cfg : Config AccountId W) (splits : List RoyaltySplit) (creator : AccountId)
    (f : RoyaltySplit → Nat) :
    (splits.map f).sum = portion cfg f splits creator +
      (splits.map fun split => if cfg.decodeAccount split.recipient = some creator then 0 else f split).sum := by
  unfold portion
  rw [← List.sum_map_add]
  congr 1
  refine List.map_congr_left fun split _ => ?_
  split <;> simp

theorem eq_of_sum_map_eq {α : Type} {l : List α} {f g : α → Nat} (hle : ∀ a ∈ l, f a ≤ g a)
    (h : (l.map f).sum = (l.map g).sum) : ∀ a ∈ l, f a = g a := by
  induction l with
  | nil => simp
  | cons b rest ih =>
      have hrest : (rest.map f).sum ≤ (rest.map g).sum :=
        List.sum_le_sum fun a ha => hle a (List.mem_cons_of_mem _ ha)
      have hb := hle b List.mem_cons_self
      simp only [List.map_cons, List.sum_cons] at h
      intro a ha
      rcases List.mem_cons.mp ha with rfl | ha
      · omega
      · exact ih (fun a ha => hle a (List.mem_cons_of_mem _ ha)) (by omega) a ha

theorem portion_congr {f g : RoyaltySplit → Nat} {x : AccountId}
    (h : ∀ split ∈ splits, cfg.decodeAccount split.recipient = some x → f split = g split) :
    portion cfg f splits x = portion cfg g splits x := by
  unfold portion
  congr 1
  refine List.map_congr_left fun split hm => ?_
  split
  · rename_i hr
    exact h split hm hr
  · rfl

/-- Where the creator gets the rest of the amount, two ways to share it give everyone the same if and only if they agree
on the splits of the others. -/
theorem portions_eq_iff {f g : RoyaltySplit → Nat} {creator : AccountId} (hle : ∀ split, f split ≤ g split)
    (hg : (splits.map g).sum ≤ amount)
    (hnone : ∀ split ∈ splits, cfg.decodeAccount split.recipient = none → f split = g split) :
    (∀ x, portion cfg f splits x + (if creator = x then amount - (splits.map f).sum else 0) =
        portion cfg g splits x + if creator = x then amount - (splits.map g).sum else 0) ↔
      ∀ split ∈ splits, cfg.decodeAccount split.recipient ≠ some creator → f split = g split := by
  constructor
  · intro h split hm hne
    cases hr : cfg.decodeAccount split.recipient with
    | none => exact hnone split hm hr
    | some x =>
        have hx : ¬ creator = x := by
          rintro rfl
          exact hne hr
        have hpart := h x
        rw [if_neg hx, if_neg hx, Nat.add_zero, Nat.add_zero] at hpart
        have heq := eq_of_sum_map_eq (fun split _ => by split <;> simp [hle]) hpart split hm
        rwa [if_pos hr, if_pos hr] at heq
  · intro h x
    by_cases hx : creator = x
    · subst hx
      have hf : (splits.map f).sum ≤ (splits.map g).sum := List.sum_le_sum fun split _ => hle split
      have hrest : (splits.map fun split =>
            if cfg.decodeAccount split.recipient = some creator then 0 else f split).sum =
          (splits.map fun split => if cfg.decodeAccount split.recipient = some creator then 0 else g split).sum := by
        congr 1
        refine List.map_congr_left fun split hm => ?_
        split
        · rfl
        · rename_i hne
          exact h split hm hne
      have hsumf := sum_eq_portion_add cfg splits creator f
      have hsumg := sum_eq_portion_add cfg splits creator g
      rw [if_pos rfl, if_pos rfl]
      omega
    · rw [if_neg hx, if_neg hx, Nat.add_zero, Nat.add_zero]
      refine portion_congr fun split hm hr => h split hm ?_
      rw [hr]
      exact fun heq => hx (Option.some.inj heq).symm

end Portions

section Positions

variable {amount : Nat} {splits : List RoyaltySplit}

omit [DecidableEq AccountId] in
theorem shares_append (cfg : Config AccountId W) (amount : Nat) (splits splits' : List RoyaltySplit) :
    shares cfg amount (splits ++ splits') = shares cfg amount splits ++ shares cfg amount splits' :=
  List.filterMap_append

omit [DecidableEq AccountId] in
/-- Every share comes from a split, and the shares before it from the splits before. -/
theorem shares_eq_append_cons {pre post : List (AccountId × Nat)} {t : AccountId × Nat}
    (h : shares cfg amount splits = pre ++ t :: post) :
    ∃ before split after, splits = before ++ split :: after ∧ shares cfg amount before = pre ∧
      share amount split > 0 ∧ cfg.decodeAccount split.recipient = some t.1 ∧ t.2 = share amount split := by
  obtain ⟨l₁, l₂, rfl, hpre, hrest⟩ := List.filterMap_eq_append_iff.mp h
  obtain ⟨m₁, split, m₂, rfl, hnone, hsplit, _⟩ := List.filterMap_eq_cons_iff.mp hrest
  refine ⟨l₁ ++ m₁, split, m₂, by simp, ?_, ?_⟩
  · rw [shares_append, show shares cfg amount l₁ = pre from hpre,
      show shares cfg amount m₁ = [] from List.filterMap_eq_nil_iff.mpr hnone, List.append_nil]
  · by_cases hpos : share amount split > 0
    · cases hr : cfg.decodeAccount split.recipient with
      | none => simp [hpos, hr] at hsplit
      | some r =>
          simp only [hpos, if_true, hr, Option.map_some, Option.some.injEq] at hsplit
          subst hsplit
          exact ⟨hpos, rfl, rfl⟩
    · simp [hpos] at hsplit

omit [DecidableEq AccountId] in
/-- After the shares a payment makes at most one more transfer, to the creator. -/
theorem royaltyTransfers_shares (cfg : Config AccountId W) (amount : Nat)
    (hlen : splits.length ≤ maxRoyaltySplits) (creator : AccountId) :
    ∃ tail, royaltyTransfers cfg creator amount splits = shares cfg amount splits ++ tail ∧
      ∀ t ∈ tail, t.1 = creator := by
  rw [royaltyTransfers_eq amount hlen]
  split
  · exact ⟨[], by simp, by simp⟩
  · exact ⟨_, rfl, by simp⟩

omit [DecidableEq AccountId] in
/-- A transfer of a payment to anyone but the creator is a share. -/
theorem shares_of_royaltyTransfers (hlen : splits.length ≤ maxRoyaltySplits) {creator : AccountId}
    {pre post : List (AccountId × Nat)} {t : AccountId × Nat}
    (h : royaltyTransfers cfg creator amount splits = pre ++ t :: post) (hne : t.1 ≠ creator) :
    ∃ rest, shares cfg amount splits = pre ++ t :: rest := by
  obtain ⟨tail, hts, htail⟩ := royaltyTransfers_shares cfg amount hlen creator
  rw [hts] at h
  rcases List.append_eq_append_iff.mp h with ⟨as, _, hsuffix⟩ | ⟨cs, hshares, hsuffix⟩
  · refine absurd (htail t ?_) hne
    rw [hsuffix]
    simp
  · cases cs with
    | nil =>
        refine absurd (htail t ?_) hne
        rw [← List.nil_append tail, ← hsuffix]
        simp
    | cons u cs =>
        obtain ⟨rfl, _⟩ := List.cons.inj hsuffix
        exact ⟨cs, hshares⟩

end Positions

theorem Paid.total_le (hcur : cfg.currency.Lawful) {payer creator : AccountId} {amount : Nat}
    {splits : BoundedVec RoyaltySplit maxRoyaltySplits} {w w' : W}
    (h : Paid cfg payer creator amount splits w w') (hbp : totalBasisPoints splits.toList ≤ 10000) (x : AccountId) :
    cfg.currency.total w x ≤ cfg.currency.total w' x + if x = payer then amount else 0 := by
  have htr := Transfers.total_eq hcur h x
  rw [amounts_royaltyTransfers cfg amount splits.bounded hbp] at htr
  omega

end Ccrms.Rights
