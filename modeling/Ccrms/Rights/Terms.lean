import Ccrms.Rights.Reports

/-!
# The terms of a content

The creator of a content sets its terms: the metadata and the prices once, at registration, and the royalty splits and
the meter at any time. After every run the register holds for each content what its creator set last, as the records of
the run tell it.
-/

namespace Ccrms.Rights

open Ccrms.Lib Ccrms.Frame Ccrms.Lib.Exec

variable {AccountId W : Type} [DecidableEq AccountId]

/-! ## Terms -/

structure Terms (AccountId : Type) where
  creator : AccountId
  metadataHash : Bytes32
  title : BoundedVec UInt8 128
  subscriptionPrice : Nat
  ppvPrice : Nat
  ownershipPrice : Nat
  periodLength : Nat
  splits : BoundedVec RoyaltySplit maxRoyaltySplits
  meter : Option AccountId

/-- The terms that the register holds for a content. -/
def Storage.terms (st : Storage AccountId) (contentId : Nat) : Option (Terms AccountId) :=
  (st.contents contentId).map fun content =>
    ⟨content.creator, content.metadataHash, content.title, content.subscriptionPrice, content.ppvPrice,
      content.ownershipPrice, content.periodLength, st.royaltySplits contentId, st.meters contentId⟩

/-- What an operation sets, in the terms of the contents in the order of their registration. -/
def Op.setTerms (xs : List (Terms AccountId)) : Op AccountId → List (Terms AccountId)
  | .register creator metadataHash title subscriptionPrice ppvPrice ownershipPrice periodLength =>
      xs ++ [⟨creator, metadataHash, title, subscriptionPrice, ppvPrice, ownershipPrice, periodLength, .empty, none⟩]
  | .setRoyaltySplits _ c splits => xs.modify c fun x => { x with splits := splits }
  | .setMeter _ c meter => xs.modify c fun x => { x with meter := meter }
  | _ => xs

def Record.setTerms (xs : List (Terms AccountId)) (r : Record AccountId W) : List (Terms AccountId) :=
  match r.op with
  | some op => op.setTerms xs
  | none => xs

/-- The terms that the records of a run tell, one entry for each registered content. -/
def termsSet (tr : List (Record AccountId W)) : List (Terms AccountId) := tr.foldl Record.setTerms []

/-- The metadata of a content on these terms. The basis points and the splits are counted without a bound. -/
def Terms.metadata (x : Terms AccountId) (contentId : Nat) : RightsMetadata where
  contentId := contentId
  rightsType :=
    if x.ownershipPrice > 0 then .ownership
    else if x.ppvPrice > 0 then .payPerView
    else .subscription
  metadataHash := x.metadataHash
  title := x.title
  subscriptionPrice := x.subscriptionPrice
  ppvPrice := x.ppvPrice
  ownershipPrice := x.ownershipPrice
  periodLength := x.periodLength
  royaltyTotalBasisPoints := totalBasisPoints x.splits.toList
  numCollaborators := x.splits.length

/-! ## The invariant -/

/-- Terms that a creator can set. -/
structure Terms.Valid (x : Terms AccountId) : Prop where
  basisPoints : totalBasisPoints x.splits.toList ≤ 10000
  subscriptionPrice : x.subscriptionPrice ≤ u128Max
  ppvPrice : x.ppvPrice ≤ u128Max
  ownershipPrice : x.ownershipPrice ≤ u128Max
  periodLength : x.periodLength ≤ u32Max

/-- The register holds exactly the terms `xs`. -/
structure Storage.OnTerms (st : Storage AccountId) (xs : List (Terms AccountId)) : Prop where
  nextContentId : st.nextContentId = xs.length
  terms : ∀ c : Nat, st.terms c = xs[c]?
  unset : ∀ c, xs.length ≤ c → st.royaltySplits c = .empty ∧ st.meters c = none
  valid : ∀ (c : Nat) (x : Terms AccountId), xs[c]? = some x → x.Valid

namespace Storage.OnTerms

variable {st st' : Storage AccountId} {xs : List (Terms AccountId)}

omit [DecidableEq AccountId] in
theorem same (h : st.OnTerms xs) (hnext : st'.nextContentId = st.nextContentId) (hcontents : st'.contents = st.contents)
    (hsplits : st'.royaltySplits = st.royaltySplits) (hmeters : st'.meters = st.meters) : st'.OnTerms xs := by
  have hterms : st'.terms = st.terms := by
    funext c
    rw [Storage.terms, Storage.terms, hcontents, hsplits, hmeters]
  exact ⟨hnext.trans h.nextContentId, by rw [hterms]; exact h.terms, by rw [hsplits, hmeters]; exact h.unset, h.valid⟩

omit [DecidableEq AccountId] in
/-- The terms of one content change. -/
theorem modify {k : Nat} {content : ContentMetadata AccountId} {f : Terms AccountId → Terms AccountId}
    (h : st.OnTerms xs) (hk : st.contents k = some content) (hnext : st'.nextContentId = st.nextContentId)
    (hcontents : st'.contents = st.contents) (hself : st'.terms k = (st.terms k).map f)
    (hother : ∀ c, c ≠ k → st'.royaltySplits c = st.royaltySplits c ∧ st'.meters c = st.meters c)
    (hvalid : ∀ x, x.Valid → (f x).Valid) : st'.OnTerms (xs.modify k f) := by
  have hlt : k < xs.length := by
    have hsome : xs[k]? ≠ none := by
      rw [← h.terms k, Storage.terms, hk]
      exact Option.some_ne_none _
    by_contra hge
    exact hsome (List.getElem?_eq_none (Nat.le_of_not_lt hge))
  refine ⟨?_, ?_, ?_, ?_⟩
  · rw [hnext, h.nextContentId, List.length_modify]
  · intro c
    by_cases hc : c = k
    · subst hc
      rw [hself, h.terms]
      simp
    · obtain ⟨hsplits, hmeters⟩ := hother c hc
      have hterms : st'.terms c = st.terms c := by rw [Storage.terms, hcontents, hsplits, hmeters, Storage.terms]
      rw [hterms, h.terms]
      simp [Ne.symm hc]
  · intro c hc
    rw [List.length_modify] at hc
    obtain ⟨hsplits, hmeters⟩ := hother c (by omega)
    rw [hsplits, hmeters]
    exact h.unset c hc
  · intro c x hx
    rw [List.getElem?_modify] at hx
    obtain ⟨y, hy, rfl⟩ := Option.map_eq_some_iff.mp hx
    have hyvalid := h.valid c y hy
    split
    · exact hvalid y hyvalid
    · exact hyvalid

omit [DecidableEq AccountId] in
/-- A content is registered. Its number is fresh, so nothing was set for it. -/
theorem register {content : ContentMetadata AccountId} {x : Terms AccountId} (h : st.OnTerms xs)
    (hnext : st'.nextContentId = st.nextContentId + 1)
    (hcontents : st'.contents = st.contents.insert st.nextContentId content)
    (hsplits : st'.royaltySplits = st.royaltySplits) (hmeters : st'.meters = st.meters)
    (hx : x = ⟨content.creator, content.metadataHash, content.title, content.subscriptionPrice, content.ppvPrice,
      content.ownershipPrice, content.periodLength, .empty, none⟩) (hvalid : x.Valid) : st'.OnTerms (xs ++ [x]) := by
  have hother : ∀ c, c ≠ xs.length → st'.terms c = st.terms c := by
    intro c hc
    rw [← h.nextContentId] at hc
    rw [Storage.terms, hcontents, hsplits, hmeters, StorageMap.insert_of_ne _ _ hc, Storage.terms]
  refine ⟨?_, ?_, ?_, ?_⟩
  · rw [hnext, h.nextContentId, List.length_append, List.length_singleton]
  · intro c
    rcases Nat.lt_trichotomy c xs.length with hc | rfl | hc
    · rw [List.getElem?_append_left hc, hother c (Nat.ne_of_lt hc), h.terms]
    · obtain ⟨hempty, hnone⟩ := h.unset _ (Nat.le_refl _)
      rw [List.getElem?_concat_length, hx, Storage.terms, hcontents, hsplits, hmeters, hempty, hnone, h.nextContentId,
        StorageMap.insert_self]
      rfl
    · rw [List.getElem?_eq_none (by simpa using hc), hother c (Nat.ne_of_gt hc), h.terms,
        List.getElem?_eq_none (Nat.le_of_lt hc)]
  · intro c hc
    rw [List.length_append] at hc
    rw [hsplits, hmeters]
    exact h.unset c (by omega)
  · intro c y hy
    rcases List.mem_append.mp (List.mem_of_getElem? hy) with hmem | hmem
    · obtain ⟨i, hi⟩ := List.mem_iff_getElem?.mp hmem
      exact h.valid i y hi
    · rw [List.mem_singleton.mp hmem]
      exact hvalid

end Storage.OnTerms

/-! ## Runs -/

section Runs

variable {cfg : Config AccountId W} {st st' : Storage AccountId} {w w' : W} {xs : List (Terms AccountId)}

omit [DecidableEq AccountId] in
theorem Terms.Valid.setSplits {splits : BoundedVec RoyaltySplit maxRoyaltySplits}
    (hbp : totalBasisPoints splits.toList ≤ 10000) {x : Terms AccountId} (h : x.Valid) :
    Terms.Valid { x with splits := splits } :=
  ⟨hbp, h.subscriptionPrice, h.ppvPrice, h.ownershipPrice, h.periodLength⟩

theorem Effect.onTerms {now : Nat} {who : AccountId} {call : Call AccountId} {mints : List (Nat × Nat)}
    (h : Effect cfg now st w (call.op who) mints st' w') (ht : st.OnTerms xs) :
    st'.OnTerms ((call.op who).setTerms xs) := by
  generalize hop : call.op who = op at h
  cases h with
  | register =>
      refine ht.register rfl rfl rfl rfl rfl ?_
      cases call with
      | registerContent _ _ subscriptionPrice ppvPrice ownershipPrice periodLength =>
          cases hop
          exact ⟨Nat.zero_le _, Nat.le_of_lt_succ subscriptionPrice.isLt, Nat.le_of_lt_succ ppvPrice.isLt,
            Nat.le_of_lt_succ ownershipPrice.isLt, Nat.le_of_lt_succ periodLength.isLt⟩
      | _ => cases hop
  | setRoyaltySplits hc _ hbp =>
      refine ht.modify hc rfl rfl ?_ ?_ fun x hx => hx.setSplits hbp
      · simp only [Storage.terms, Function.update_self, Option.map_map]
        rfl
      · intro c hne
        exact ⟨Function.update_of_ne hne _ _, rfl⟩
  | @setMeter caller contentId meter content hc _ =>
      refine ht.modify hc rfl rfl ?_ ?_ fun x hx => ⟨hx.basisPoints, hx.subscriptionPrice, hx.ppvPrice,
        hx.ownershipPrice, hx.periodLength⟩
      · simp only [Storage.terms, hc, Option.map_some]
        cases meter <;> simp
      · intro c hne
        cases meter with
        | some m => exact ⟨rfl, StorageMap.insert_of_ne _ _ hne⟩
        | none => exact ⟨rfl, StorageMap.remove_of_ne _ hne⟩
  | purchaseViews _ _ _ _ hadd => cases hadd <;> exact ht.same rfl rfl rfl rfl
  | consumeView h => cases h <;> exact ht.same rfl rfl rfl rfl
  | consumeViewFor _ h => cases h <;> exact ht.same rfl rfl rfl rfl
  | _ => exact ht.same rfl rfl rfl rfl

omit [DecidableEq AccountId] in
theorem termsSet_snoc (tr : List (Record AccountId W)) (r : Record AccountId W) :
    termsSet (tr ++ [r]) = r.setTerms (termsSet tr) := by
  simp [termsSet]

theorem run_onTerms (cfg : Config AccountId W) (n₀ : U32) (w₀ : W) (as : List (Action AccountId W)) :
    ((chain cfg).run (.init n₀ w₀) as).2.store.OnTerms (termsSet ((chain cfg).run (.init n₀ w₀) as).1) := by
  refine chain_invariant (P := fun tr s => s.store.OnTerms (termsSet tr)) ⟨rfl, fun _ => rfl, fun _ _ => ⟨rfl, rfl⟩,
    fun _ _ h => absurd h (by simp [termsSet])⟩ ?_ as
  intro tr s r s' _ ht he
  rw [termsSet_snoc]
  cases he with
  | call heff _ => exact heff.onTerms ht
  | block _ hdue _ =>
      have hcat := hdue.catalogue
      exact ht.same hcat.nextContentId hcat.contents hcat.royaltySplits hcat.meters
  | _ => exact ht.same rfl rfl rfl rfl

end Runs

/-! ## Main result -/

/-- Only the creator changes the terms: a call that sets the royalty splits or the meter of a content was signed by it.
-/
theorem set_by_creator {cfg : Config AccountId W} {s : State AccountId W} {xs : List (Terms AccountId)}
    (hs : s.blockNumber ≤ u32Max) (ht : s.store.OnTerms xs) {a : Action AccountId W} {who : AccountId} {c : Nat}
    (h : (∃ splits, ((chain cfg).step s a).1.op = some (.setRoyaltySplits who c splits)) ∨
      ∃ meter, ((chain cfg).step s a).1.op = some (.setMeter who c meter)) :
    ∃ x, xs[c]? = some x ∧ x.creator = who := by
  have heff : ChainEffect cfg s _ _ := step_effect hs a
  generalize ((chain cfg).step s a).1 = r at h heff
  generalize ((chain cfg).step s a).2 = s' at heff
  have hcreator : ∀ content, s.store.contents c = some content → who = content.creator →
      ∃ x, xs[c]? = some x ∧ x.creator = who := by
    intro content hc hwho
    have hx := ht.terms c
    rw [Storage.terms, hc] at hx
    exact ⟨_, hx.symm, hwho.symm⟩
  rcases h with ⟨splits, hop⟩ | ⟨meter, hop⟩
  · cases heff with
    | @call _ _ evs _ _ heff _ =>
        rw [Option.some.inj hop] at heff
        generalize mintedItems evs = mints at heff
        cases heff with
        | setRoyaltySplits hc hwho _ => exact hcreator _ hc hwho
    | _ => cases hop
  · cases heff with
    | @call _ _ evs _ _ heff _ =>
        rw [Option.some.inj hop] at heff
        generalize mintedItems evs = mints at heff
        cases heff with
        | setMeter hc hwho => exact hcreator _ hc hwho
    | _ => cases hop

/-- A query for the metadata of a content on the terms `x`. -/
theorem queryRightsMetadata_tells {cfg : Config AccountId W} {s : State AccountId W} {xs : List (Terms AccountId)}
    (ht : s.store.OnTerms xs) (who : AccountId) (c : U32) :
    dispatch cfg (.signed who) (.queryRightsMetadata c) s =
      match xs[c.val]? with
      | some x => .ok () (s.deposit [.rightsMetadataQueried c (x.metadata c)])
      | none => .error (.pallet .contentNotFound) s := by
  have hterms := ht.terms c
  cases hc : s.store.contents c with
  | none =>
      rw [Storage.terms, hc, Option.map_none] at hterms
      rw [← hterms, dispatch, Exec.withStorageLayer]
      have hquery : queryRightsMetadata (.signed who) c s = .error (.pallet .contentNotFound) s := by
        show (Exec.okOr (s.store.contents c) _ >>= _) s = _
        rw [hc]
        rfl
      have hbody : (Call.queryRightsMetadata c).body cfg (.signed who) s = .error (.pallet .contentNotFound) s := by
        show EStateM.bind (queryRightsMetadata (.signed who) c) _ s = _
        rw [EStateM.bind, hquery]
      rw [hbody]
  | some content =>
      rw [Storage.terms, hc, Option.map_some] at hterms
      have hbp := (ht.valid c _ hterms.symm).basisPoints
      have hlen := (s.store.royaltySplits c).bounded
      rw [← hterms, dispatch, withStorageLayer_ok]
      refine dropWeight_ok.mpr ⟨(s.store.royaltySplits c).length % 2 ^ 8, ?_⟩
      simp only [queryRightsMetadata, ensureSigned_bind, load_bind, okOr_bind_ok, depositEvent_bind, pure_ok]
      refine ⟨who, rfl, content, hc, trivial, ?_⟩
      have hsum : totalBasisPoints (s.store.royaltySplits c).toList % 2 ^ 16 =
          totalBasisPoints (s.store.royaltySplits c).toList := Nat.mod_eq_of_lt (Nat.lt_of_le_of_lt hbp (by decide))
      have hcount : (s.store.royaltySplits c).length % 2 ^ 8 = (s.store.royaltySplits c).length :=
        Nat.mod_eq_of_lt (Nat.lt_of_le_of_lt hlen (by decide))
      rw [hsum, hcount]
      rfl

/-- After every run the register holds for each content, in the order of the registrations, the terms that the records
tell: what its creator registered, and the royalty splits and the meter that were set last. A call that sets them was
signed by the creator, and `query_rights_metadata` reports the terms without loss: the sum of the basis points does not
wrap. -/
theorem creators_set_the_terms (cfg : Config AccountId W) (n₀ : U32) (w₀ : W) (as : List (Action AccountId W)) :
    let s := ((chain cfg).run (.init n₀ w₀) as).2
    let xs := termsSet ((chain cfg).run (.init n₀ w₀) as).1
    (∀ c : Nat, s.store.terms c = xs[c]?) ∧
    (∀ a who c, ((∃ splits, ((chain cfg).step s a).1.op = some (.setRoyaltySplits who c splits)) ∨
      ∃ meter, ((chain cfg).step s a).1.op = some (.setMeter who c meter)) →
        ∃ x, xs[c]? = some x ∧ x.creator = who) ∧
    ∀ who (c : U32), dispatch cfg (.signed who) (.queryRightsMetadata c) s =
      match xs[c.val]? with
      | some x => .ok () (s.deposit [.rightsMetadataQueried c (x.metadata c)])
      | none => .error (.pallet .contentNotFound) s := by
  intro s xs
  have ht : s.store.OnTerms xs := run_onTerms cfg n₀ w₀ as
  refine ⟨ht.terms, ?_, queryRightsMetadata_tells ht⟩
  intro a who c
  exact set_by_creator (run_sound cfg n₀ w₀ as).block_le ht

end Ccrms.Rights
