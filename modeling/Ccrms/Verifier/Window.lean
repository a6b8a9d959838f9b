import Ccrms.Lib.Window
import Ccrms.Verifier.Theorems

/-!
# The window of relay roots

The pallet keeps the relay roots of the most recent relay parents. Consecutive blocks may have the same relay parent,
and a later block never has an earlier one, so the recorded roots are the last distinct relay parents that were seen.
-/

namespace Ccrms.Verifier

open Ccrms.Lib Ccrms.Frame

variable {AccountId : Type} {cfg : Config AccountId}

/-! ## What is recorded -/

/-- The relay parent that the end of a block sees. -/
def Action.parent : Action AccountId → Option (U32 × Bytes32)
  | .extrinsic _ _ => none
  | .finalize current => current

/-- The relay parents that a run sees, oldest first and with repetitions. -/
def observed (as : List (Action AccountId)) : List (U32 × Bytes32) := as.filterMap Action.parent

theorem observed_snoc (as : List (Action AccountId)) (a : Action AccountId) :
    observed (as ++ [a]) = observed as ++ a.parent.toList := by
  unfold observed
  rw [List.filterMap_append]
  cases h : a.parent <;> simp [h]

theorem recordRelayRoot_toList (p : U32 × Bytes32) (s : State cfg) :
    (recordRelayRoot cfg (some p) s).relayRoots.toList =
      Window.record Prod.fst cfg.maxRelayRoots s.relayRoots.toList p := by
  obtain ⟨number, root⟩ := p
  unfold recordRelayRoot Window.record
  by_cases h : number ∈ s.relayRoots.toList.map Prod.fst
  · simp only [h, dif_pos, if_pos]
  · simp only [h, dif_neg, if_neg, not_false_eq_true]
    congr 1
    unfold makeRoom Window.makeRoom BoundedVec.length
    split
    · rfl
    · rfl

/-! ## Calls leave the window alone -/

theorem verifyEntry_keeps (cfg : Config AccountId) (origin : Origin AccountId) (relayBlock : U32)
    (relayProof rightsProof : List Bytes) (storageName : Bytes) (contentId : U32) (who : AccountId)
    (judge : Option Bytes → U32 → Option (Event AccountId)) :
    (verifyEntry cfg origin relayBlock relayProof rightsProof storageName contentId who judge).Keeps
      fun s => s.relayRoots := by
  have hstate : (rightsState cfg relayBlock relayProof).Keeps fun s => s.relayRoots := by
    refine .bind (.read _) fun _ => .bind (.okOr _) fun _ => .bind (.okOr _) fun _ => ?_
    exact .bind (.okOr _) fun _ => .bind (.okOr _) fun _ => .bind (.okOr _) fun _ => .pure _
  cases origin with
  | signed _ =>
      refine .bind (.bind (.ensure _) fun _ => .bind hstate fun _ => .bind (.okOr _) fun _ => .pure _) fun _ => ?_
      exact .bind (.okOr _) fun _ => .write fun _ => rfl
  | root => exact .fail
  | none => exact .fail

theorem dispatch_keeps (origin : Origin AccountId) (call : Call AccountId) :
    (dispatch cfg origin call).Keeps fun s => s.relayRoots := by
  refine .withStorageLayer ?_
  unfold Call.body
  cases call with
  | verifyOwnership => exact verifyEntry_keeps cfg _ _ _ _ _ _ _ _
  | verifySubscription => exact verifyEntry_keeps cfg _ _ _ _ _ _ _ _
  | verifyViewPack => exact verifyEntry_keeps cfg _ _ _ _ _ _ _ _

/-! ## Runs -/

/-- A step records the relay parent that it sees, and does nothing else to the window. -/
theorem step_relayRoots (s : State cfg) (a : Action AccountId) :
    ((chain cfg).step s a).2.relayRoots.toList =
      a.parent.toList.foldl (Window.record Prod.fst cfg.maxRelayRoots) s.relayRoots.toList := by
  cases a with
  | extrinsic origin call =>
      have hkeeps := dispatch_keeps origin call s
      simp only [chain, Action.parent, Option.toList_none, List.foldl_nil]
      cases hd : dispatch cfg origin call s with
      | ok _ s' =>
          rw [hd] at hkeeps
          exact congrArg BoundedVec.toList hkeeps
      | error _ s' =>
          rw [hd] at hkeeps
          exact congrArg BoundedVec.toList hkeeps
  | finalize current =>
      cases current with
      | none => rfl
      | some p => exact recordRelayRoot_toList p s

theorem run_relayRoots (cfg : Config AccountId) (as : List (Action AccountId))
    (h : Window.Ordered Prod.fst (observed as)) :
    ((chain cfg).run (.init cfg) as).2.relayRoots.toList = Window.recent cfg.maxRelayRoots (observed as) := by
  induction as using List.reverseRecOn with
  | nil => simp [observed, Window.recent, State.init]
  | append_singleton as a ih =>
      rw [observed_snoc] at h
      rw [Machine.run_snoc, step_relayRoots, ih h.of_append, observed_snoc]
      cases hp : a.parent with
      | none => simp
      | some p =>
          rw [hp] at h
          exact Window.record_recent h cfg.maxRelayRoots_pos

/-! ## What a call finds -/

/-- `rights_state` from the relay root on that it has found. -/
def rightsStateAt (cfg : Config AccountId) (relayRoot : Bytes32) (relayProof : List Bytes) :
    VerifierM cfg (Bytes32 × U32) := do
  let value ← readProofValue cfg relayRoot relayProof (paraHeadKey cfg cfg.rightsParaId)
  let head ← Exec.okOr value (.pallet .noRightsHead)
  let headData ← Exec.okOr (Scale.decode ByteVec.decoder head) (.pallet .decodingFailed)
  let header ← Exec.okOr (Scale.decode Header.decoder headData.toList) (.pallet .decodingFailed)
  pure (header.stateRoot, header.number)

theorem rightsStateAt_avoids (relayRoot : Bytes32) (relayProof : List Bytes) :
    (rightsStateAt cfg relayRoot relayProof).Avoids (.pallet .unknownRelayBlock) := by
  refine .bind (.okOr _ (by decide)) fun _ => .bind (.okOr _ (by decide)) fun _ => ?_
  exact .bind (.okOr _ (by decide)) fun _ => .bind (.okOr _ (by decide)) fun _ => .pure _

theorem rightsState_of_mem {s : State cfg} {relayBlock : U32} {root : Bytes32}
    (h : (relayBlock, root) ∈ s.relayRoots.toList) (relayProof : List Bytes) :
    rightsState cfg relayBlock relayProof s = rightsStateAt cfg root relayProof s := by
  rw [rightsState, Exec.read_bind, find_relayRoot h]
  rfl

theorem rightsState_of_not_mem {s : State cfg} {relayBlock : U32}
    (h : relayBlock ∉ s.relayRoots.toList.map Prod.fst) (relayProof : List Bytes) :
    rightsState cfg relayBlock relayProof s = .error (.pallet .unknownRelayBlock) s := by
  have hnone : (s.relayRoots.toList.find? fun r => r.1 = relayBlock) = none := by
    refine List.find?_eq_none.mpr fun r hr => ?_
    rw [decide_eq_true_eq]
    rintro rfl
    exact h (List.mem_map_of_mem hr)
  rw [rightsState, Exec.read_bind, hnone]
  rfl

/-- After every run whose relay parents have numbers that never fall, with one root for a number, the recorded roots are
the last `MaxRelayRoots` of the distinct relay parents, or all of them, oldest first. Their numbers rise. `rights_state`
knows a relay block exactly if it is among the most recent distinct relay parents, and goes on with the root that was
supplied for it. -/
theorem relay_roots_are_recent (cfg : Config AccountId) (as : List (Action AccountId))
    (hmono : (observed as).Pairwise fun p q => p.1 ≤ q.1)
    (hroots : ∀ p ∈ observed as, ∀ q ∈ observed as, p.1 = q.1 → p.2 = q.2) :
    let s := ((chain cfg).run (.init cfg) as).2
    let distinct := (observed as).eraseDups
    s.relayRoots.toList = distinct.rtake (min cfg.maxRelayRoots distinct.length) ∧
    (s.relayRoots.toList.map Prod.fst).Pairwise (· < ·) ∧
    ∀ relayBlock relayProof,
      (rightsState cfg relayBlock relayProof s ≠ .error (.pallet .unknownRelayBlock) s ↔
        relayBlock ∈ (distinct.rtake cfg.maxRelayRoots).map Prod.fst) ∧
      ∀ root, (relayBlock, root) ∈ observed as → relayBlock ∈ (distinct.rtake cfg.maxRelayRoots).map Prod.fst →
        rightsState cfg relayBlock relayProof s = rightsStateAt cfg root relayProof s := by
  intro s distinct
  have hordered : Window.Ordered Prod.fst (observed as) :=
    ⟨hmono, fun p hp q hq hkey => Prod.ext hkey (hroots p hp q hq hkey)⟩
  have hwindow : s.relayRoots.toList = distinct.rtake cfg.maxRelayRoots := run_relayRoots cfg as hordered
  have hmem : ∀ {relayBlock}, relayBlock ∈ (distinct.rtake cfg.maxRelayRoots).map Prod.fst →
      ∃ root, (relayBlock, root) ∈ s.relayRoots.toList ∧ (relayBlock, root) ∈ observed as := by
    intro relayBlock hr
    obtain ⟨⟨_, root⟩, hp, rfl⟩ := List.mem_map.mp hr
    exact ⟨root, by rwa [hwindow], Window.mem_of_mem_recent hp⟩
  refine ⟨?_, ?_, fun relayBlock relayProof => ⟨⟨?_, ?_⟩, ?_⟩⟩
  · rw [hwindow]
    unfold List.rtake
    congr 1
    omega
  · rw [hwindow, List.pairwise_map]
    exact hordered.recent_strict cfg.maxRelayRoots
  · intro hfound
    by_contra hno
    rw [← hwindow] at hno
    exact hfound (rightsState_of_not_mem hno relayProof)
  · intro hr
    obtain ⟨root, hroot, _⟩ := hmem hr
    rw [rightsState_of_mem hroot]
    exact rightsStateAt_avoids root relayProof s s
  · intro root hseen hr
    obtain ⟨root', hroot, hseen'⟩ := hmem hr
    obtain rfl : root = root' := hroots _ hseen _ hseen' rfl
    exact rightsState_of_mem hroot relayProof

/-- The relay parent `n`, with a root of 32 equal bytes. -/
def numbered (n : U32) : U32 × Bytes32 := (n, Vector.replicate 32 (UInt8.ofNat n))

/-- Two blocks with the relay parent 1, then one block for each of the relay parents 2 to 5, and a block before its
relay parent is known. A window of four has lost the first one. -/
def expiringRun : List (Action Reference.Account) :=
  ([1, 1, 2, 3, 4, 5].map fun n => .finalize (some (numbered n))) ++ [.finalize none]

theorem expiringRun_forgets :
    let s := ((chain Reference.config).run (.init Reference.config) expiringRun).2
    s.relayRoots.toList = [2, 3, 4, 5].map numbered ∧
      rightsState Reference.config 1 [] s = .error (.pallet .unknownRelayBlock) s ∧
      rightsState Reference.config 5 [] s = rightsStateAt Reference.config (numbered 5).2 [] s := by
  intro s
  obtain ⟨hwindow, _, hfinds⟩ := relay_roots_are_recent Reference.config expiringRun (by decide) (by decide +kernel)
  refine ⟨hwindow.trans (by decide +kernel), ?_, ?_⟩
  · by_contra hfound
    exact absurd ((hfinds 1 []).1.mp hfound) (by decide +kernel)
  · exact (hfinds 5 []).2 (numbered 5).2 (by decide +kernel) (by decide +kernel)

end Ccrms.Verifier
