import Ccrms.Frame.Primitives

/-!
# The currency

pallet-balances is not part of the repository. The pallets reach it through `fungible::Mutate::transfer`, which is
a parameter here, together with the balances it moves. What the pallets rely on is stated as laws.
-/

namespace Ccrms.Frame

/-- `Preservation`: whether a transfer may remove the account it takes from. -/
inductive Preservation where
  | expendable
  | preserve
  deriving DecidableEq, Repr

/-- A currency over the storage `W` of the pallets outside the repository. -/
structure Currency (AccountId W : Type) where
  existentialDeposit : Nat
  free : W → AccountId → Nat
  reserved : W → AccountId → Nat
  /-- `transfer(source, dest, amount, preservation)`. -/
  transfer : AccountId → AccountId → Nat → Preservation → W → Except ModuleError W

namespace Currency

variable {AccountId W : Type} [DecidableEq AccountId]

/-- The total balance of an account, free plus reserved. -/
def total (cur : Currency AccountId W) (w : W) (x : AccountId) : Nat := cur.free w x + cur.reserved w x

/-- What is left of a source account: a rest below the existential deposit is dropped as dust. -/
def afterDust (cur : Currency AccountId W) (rest : Nat) : Nat := if rest < cur.existentialDeposit then 0 else rest

/-- The documented effect of a transfer that succeeds. -/
structure Lawful (cur : Currency AccountId W) : Prop where
  self : ∀ {x : AccountId} {amount : Nat} {p : Preservation} {w w' : W}, cur.transfer x x amount p w = .ok w' →
    cur.free w' = cur.free w
  /-- A transfer that preserves its source takes exactly the amount. -/
  preserve_source : ∀ {src dst : AccountId} {amount : Nat} {w w' : W}, src ≠ dst →
    cur.transfer src dst amount .preserve w = .ok w' → cur.free w' src + amount = cur.free w src
  /-- A transfer that may remove its source drops a rest below the existential deposit. -/
  expendable_source : ∀ {src dst : AccountId} {amount : Nat} {w w' : W}, src ≠ dst →
    cur.transfer src dst amount .expendable w = .ok w' →
      amount ≤ cur.free w src ∧ cur.free w' src = cur.afterDust (cur.free w src - amount)
  dest : ∀ {src dst : AccountId} {amount : Nat} {p : Preservation} {w w' : W}, src ≠ dst →
    cur.transfer src dst amount p w = .ok w' → cur.free w' dst = cur.free w dst + amount
  others : ∀ {src dst x : AccountId} {amount : Nat} {p : Preservation} {w w' : W}, x ≠ src → x ≠ dst →
    cur.transfer src dst amount p w = .ok w' → cur.free w' x = cur.free w x
  reserved : ∀ {src dst : AccountId} {amount : Nat} {p : Preservation} {w w' : W},
    cur.transfer src dst amount p w = .ok w' → cur.reserved w' = cur.reserved w

/-- The documented conditions of a transfer. `liquid w x` says that no freeze and no other use holds the balance of
`x`, so that all of it can be transferred. -/
structure Conditions (cur : Currency AccountId W) (liquid : W → AccountId → Prop) : Prop where
  /-- A transfer that preserves its source leaves the existential deposit in it. -/
  preserve_ok : ∀ {src dst : AccountId} {amount : Nat} {w : W}, liquid w src →
    amount + cur.existentialDeposit ≤ cur.free w src →
    (0 < amount → cur.existentialDeposit ≤ cur.free w dst + amount) →
    ∃ w', cur.transfer src dst amount .preserve w = .ok w'
  expendable_ok : ∀ {src dst : AccountId} {amount : Nat} {w : W}, liquid w src → amount ≤ cur.free w src →
    (0 < amount → cur.existentialDeposit ≤ cur.free w dst + amount) →
    ∃ w', cur.transfer src dst amount .expendable w = .ok w'
  /-- No transfer leaves its destination below the existential deposit. -/
  below_minimum : ∀ {src dst : AccountId} {amount : Nat} {p : Preservation} {w w' : W}, 0 < amount →
    cur.transfer src dst amount p w = .ok w' → cur.existentialDeposit ≤ cur.free w dst + amount
  liquid_kept : ∀ {src dst : AccountId} {amount : Nat} {w w' : W},
    cur.transfer src dst amount .preserve w = .ok w' → liquid w src → liquid w' src

/-- The free balances after a transfer that preserves its source, for every account at once. -/
theorem Lawful.free_preserve {cur : Currency AccountId W} (h : cur.Lawful) {src dst : AccountId} {amount : Nat}
    {w w' : W} (ht : cur.transfer src dst amount .preserve w = .ok w') (x : AccountId) :
    cur.free w' x + (if x = src then amount else 0) = cur.free w x + (if x = dst then amount else 0) := by
  by_cases hsd : src = dst
  · subst hsd
    rw [h.self ht]
  · have hs := h.preserve_source hsd ht
    have hd := h.dest hsd ht
    by_cases hxs : x = src
    · subst hxs
      simp only [if_true, if_neg hsd]
      omega
    · by_cases hxd : x = dst
      · subst hxd
        simp only [if_neg hxs, if_true]
        omega
      · simp only [if_neg hxs, if_neg hxd, h.others hxs hxd ht]

end Currency

end Ccrms.Frame
