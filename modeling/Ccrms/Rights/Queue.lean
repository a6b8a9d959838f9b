import Ccrms.Rights.Lemmas.Helpers
import Mathlib.Order.Bounds.Basic

/-!
# First fit

The search of `enqueue_renewal`, with the blocks that it saturates at the end of the range of `u32`. All offsets past
the last block stand for the last block, so the first of them decides for the others.
-/

namespace Ccrms.Rights

open Ccrms.Lib Ccrms.Frame

variable {AccountId W : Type}

/-- The offsets of the search that lead to a block of its own, whose bucket holds the entry already or has room. -/
def openOffsets (q : Calendar (Nat × AccountId) maxRenewalsPerBlock) (x : Nat × AccountId) (at_ : U32) : Set Nat :=
  {k | k < maxRenewalSlotSearch ∧ (at_ : Nat) + k < 2 ^ 32 ∧
    (x ∈ q (at_ + k) ∨ (q (at_ + k)).length < maxRenewalsPerBlock)}

/-- The block of an offset is the block of an earlier one that does not saturate, or of the offset itself. -/
theorem satAdd32_reaches (at_ : U32) (k : Nat) : ∃ j ≤ k, (at_ : Nat) + j < 2 ^ 32 ∧ satAdd32 at_ k = at_ + j := by
  have hat := at_.isLt
  refine ⟨min k (u32Max - at_), Nat.min_le_left _ _, ?_, ?_⟩
  · unfold u32Max
    omega
  · unfold satAdd32 u32Max
    omega

section Search

variable {q : Calendar (Nat × AccountId) maxRenewalsPerBlock} {x : Nat × AccountId} {at_ : U32} {k : Nat}

theorem satAdd32_of_lt (h : (at_ : Nat) + k < 2 ^ 32) : satAdd32 at_ k = at_ + k :=
  satAdd32_eq (Nat.le_of_lt_succ h)

theorem fits_of_open (h : k ∈ openOffsets q x at_) : q.Fits x (satAdd32 at_ k) := by
  obtain ⟨_, hlt, hfit⟩ := h
  rw [satAdd32_of_lt hlt]
  exact hfit

/-- The first offset whose saturated block fits does not saturate. -/
theorem first_lt (hfit : q.Fits x (satAdd32 at_ k)) (hbefore : ∀ j < k, ¬ q.Fits x (satAdd32 at_ j)) :
    (at_ : Nat) + k < 2 ^ 32 := by
  obtain ⟨j, hj, hlt, heq⟩ := satAdd32_reaches at_ k
  rcases Nat.lt_or_eq_of_le hj with hj | rfl
  · rw [heq, ← satAdd32_of_lt hlt] at hfit
    exact absurd hfit (hbefore j hj)
  · exact hlt

theorem isLeast_open (hk : k < maxRenewalSlotSearch) (hfit : q.Fits x (satAdd32 at_ k))
    (hbefore : ∀ j < k, ¬ q.Fits x (satAdd32 at_ j)) : IsLeast (openOffsets q x at_) k := by
  have hlt := first_lt hfit hbefore
  rw [satAdd32_of_lt hlt] at hfit
  refine ⟨⟨hk, hlt, hfit⟩, ?_⟩
  intro j hj
  exact Nat.le_of_not_lt fun hjk => hbefore j hjk (fits_of_open hj)

theorem open_eq_empty (h : NoSlot x at_ q) : openOffsets q x at_ = ∅ :=
  Set.eq_empty_iff_forall_notMem.mpr fun k hk => h k hk.1 (fits_of_open hk)

end Search

section Calls

variable [DecidableEq AccountId] {contentId : Nat} {who : AccountId} {at_ : U32} {k : Nat} {s s' : State AccountId W}

theorem enqueueRenewal_ok_iff :
    enqueueRenewal contentId who at_ s = .ok k s' ↔
      IsLeast (openOffsets s.store.renewalQueue (contentId, who) at_) k ∧
        s' = s.mapStore fun st => { st with
          renewalQueue := s.store.renewalQueue.put (contentId, who) (at_ + k) } := by
  rcases enqueueRenewal_search contentId who at_ s with ⟨j, hj, hfit, hbefore, he⟩ | ⟨hnone, he⟩
  · have hleast := isLeast_open hj hfit hbefore
    rw [satAdd32_of_lt hleast.1.2.1] at he
    rw [he]
    constructor
    · intro h
      cases h
      exact ⟨hleast, rfl⟩
    · rintro ⟨hleast', rfl⟩
      obtain rfl := hleast.unique hleast'
      rfl
  · rw [he, open_eq_empty hnone]
    constructor
    · intro h
      cases h
    · rintro ⟨hleast, _⟩
      cases hleast.1

theorem enqueueRenewal_error_iff {e : DispatchError Error} :
    enqueueRenewal contentId who at_ s = .error e s' ↔
      openOffsets s.store.renewalQueue (contentId, who) at_ = ∅ ∧ e = .pallet .renewalQueueFull ∧ s' = s := by
  rcases enqueueRenewal_search contentId who at_ s with ⟨j, hj, hfit, hbefore, he⟩ | ⟨hnone, he⟩
  · have hleast := isLeast_open hj hfit hbefore
    rw [he]
    constructor
    · intro h
      cases h
    · rintro ⟨hempty, _⟩
      rw [hempty] at hleast
      cases hleast.1
  · rw [he]
    constructor
    · intro h
      cases h
      exact ⟨open_eq_empty hnone, rfl, rfl⟩
    · rintro ⟨_, rfl, rfl⟩
      rfl

/-- The entry is found where the first call put it, and the buckets before it still do not fit. -/
theorem enqueueRenewal_again (h : enqueueRenewal contentId who at_ s = .ok k s') :
    enqueueRenewal contentId who at_ s' = .ok k s' := by
  obtain ⟨hleast, rfl⟩ := enqueueRenewal_ok_iff.mp h
  have hfit : s.store.renewalQueue.Fits (contentId, who) (at_ + k) := hleast.1.2.2
  have hmem : (contentId, who) ∈ s.store.renewalQueue.put (contentId, who) (at_ + k) (at_ + k) :=
    (Calendar.mem_put hfit).mpr (Or.inr ⟨rfl, rfl⟩)
  refine enqueueRenewal_ok_iff.mpr ⟨⟨⟨hleast.1.1, hleast.1.2.1, Or.inl hmem⟩, ?_⟩, ?_⟩
  · intro j hj
    refine Nat.le_of_not_lt fun hjk => ?_
    refine Calendar.not_fits_put hfit (fun hbefore => ?_) hj.2.2
    exact Nat.not_lt.mpr (hleast.2 ⟨hj.1, hj.2.1, hbefore⟩) hjk
  · simp only [State.mapStore]
    rw [Calendar.put_of_mem hmem]

end Calls

/-- `enqueue_renewal` returns `k` exactly if `k` is the least open offset. It then leaves all other buckets alone, and
appends the entry to the bucket `k` blocks after `at` exactly if it was not there; a second call returns `k` again and
changes nothing. It fails exactly if there is no open offset, always with `RenewalQueueFull`, and changes nothing. -/
theorem enqueue_renewal_is_first_fit [DecidableEq AccountId] (contentId : Nat) (who : AccountId) (at_ : U32)
    (s : State AccountId W) :
    let q := s.store.renewalQueue
    let x := (contentId, who)
    (∀ k, (∃ s', enqueueRenewal contentId who at_ s = .ok k s') ↔ IsLeast (openOffsets q x at_) k) ∧
    (∀ k s', enqueueRenewal contentId who at_ s = .ok k s' →
      (∃ q' : Calendar (Nat × AccountId) maxRenewalsPerBlock,
        s' = s.mapStore (fun st => { st with renewalQueue := q' }) ∧ (∀ b, b ≠ at_ + k → q' b = q b) ∧
        (q' (at_ + k)).toList = if x ∈ q (at_ + k) then (q (at_ + k)).toList else (q (at_ + k)).toList ++ [x]) ∧
      enqueueRenewal contentId who at_ s' = .ok k s') ∧
    (enqueueRenewal contentId who at_ s = .error (.pallet .renewalQueueFull) s ↔ openOffsets q x at_ = ∅) ∧
    ∀ e s', enqueueRenewal contentId who at_ s = .error e s' → e = .pallet .renewalQueueFull ∧ s' = s := by
  intro q x
  refine ⟨fun k => ⟨?_, ?_⟩, ?_, ?_, ?_⟩
  · rintro ⟨s', h⟩
    exact (enqueueRenewal_ok_iff.mp h).1
  · intro hleast
    exact ⟨_, enqueueRenewal_ok_iff.mpr ⟨hleast, rfl⟩⟩
  · intro k s' h
    obtain ⟨hleast, hs'⟩ := enqueueRenewal_ok_iff.mp h
    have hothers : ∀ b, b ≠ at_ + k → q.put x (at_ + k) b = q b := fun b hb => Calendar.put_of_ne hb
    exact ⟨⟨_, hs', hothers, Calendar.toList_put_self hleast.1.2.2⟩, enqueueRenewal_again h⟩
  · rw [enqueueRenewal_error_iff]
    exact ⟨fun h => h.1, fun hempty => ⟨hempty, rfl, rfl⟩⟩
  · intro e s' h
    exact (enqueueRenewal_error_iff.mp h).2

end Ccrms.Rights
