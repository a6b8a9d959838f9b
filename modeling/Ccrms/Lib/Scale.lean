import Mathlib.Algebra.Ring.Nat
import Mathlib.Tactic.Common
import Ccrms.Lib.Maps

/-!
# SCALE encoding

Fixed-width integers are little endian, a tuple is the concatenation of its fields, and a vector starts with its
length in compact form. A decoder reads a value from the front of the bytes and leaves the rest. That a decoder reads
an encoding back is proved field by field.
-/

namespace Ccrms.Lib.Scale

/-! ## Encoding -/

def leBytes : Nat → Nat → List UInt8
  | 0, _ => []
  | width + 1, n => UInt8.ofNat n :: leBytes width (n / 256)

def ofLeBytes : List UInt8 → Nat
  | [] => 0
  | b :: bs => b.toNat + 256 * ofLeBytes bs

/-- `Compact<u32>`: the shortest of four forms, told apart by the two low bits. -/
def compactBytes (n : Nat) : List UInt8 :=
  if n < 2 ^ 6 then leBytes 1 (4 * n)
  else if n < 2 ^ 14 then leBytes 2 (4 * n + 1)
  else if n < 2 ^ 30 then leBytes 4 (4 * n + 2)
  else 3 :: leBytes 4 n

def boolBytes (b : Bool) : List UInt8 := [if b then 1 else 0]

/-- `Vec`: its length and its elements. -/
def vecBytes {α : Type} (encode : α → List UInt8) (as : List α) : List UInt8 :=
  compactBytes as.length ++ as.flatMap encode

/-! ## Decoding -/

/-- A decoder reads a value from the front of the bytes, or fails. -/
abbrev Decoder (α : Type) := StateT (List UInt8) Option α

def takeBytes (n : Nat) : Decoder (List UInt8) := fun bs =>
  if bs.length < n then none else some (bs.take n, bs.drop n)

/-- An unsigned integer of `width` bytes. -/
def uint (width : Nat) : Decoder Nat := do
  let bs ← takeBytes width
  pure (ofLeBytes bs)

/-- An unsigned integer of `width` bytes, as a bounded number. -/
def fin (width m : Nat) : Decoder (Fin m) := do
  let n ← uint width
  if h : n < m then pure ⟨n, h⟩ else failure

def byte : Decoder UInt8 := do
  let n ← uint 1
  pure (UInt8.ofNat n)

def bytes (n : Nat) : Decoder (Vector UInt8 n) := do
  let bs ← takeBytes n
  if h : bs.toArray.size = n then pure ⟨bs.toArray, h⟩ else failure

/-- `Option`: a byte that tells whether a value follows. -/
def option {α : Type} (d : Decoder α) : Decoder (Option α) := do
  match ← uint 1 with
  | 0 => pure none
  | 1 => some <$> d
  | _ => failure

/-- `Compact<u32>`: the two low bits of the first byte give the width, and a longer form than needed is refused. -/
def compact : Decoder Nat := fun bs => do
  let (first, _) ← uint 1 bs
  match first % 4 with
  | 0 => (fun n => n / 4) <$> uint 1 |>.run bs
  | 1 => do
      let (n, rest) ← uint 2 bs
      if 63 < n / 4 then some (n / 4, rest) else none
  | 2 => do
      let (n, rest) ← uint 4 bs
      if 16383 < n / 4 then some (n / 4, rest) else none
  | _ => do
      let (_, rest) ← uint 1 bs
      let (n, rest) ← uint 4 rest
      if first = 3 ∧ 2 ^ 30 - 1 < n then some (n, rest) else none

def repeated {α : Type} (d : Decoder α) : Nat → Decoder (List α)
  | 0 => pure []
  | n + 1 => do
      let a ← d
      let as ← repeated d n
      pure (a :: as)

def bool : Decoder Bool := do
  match ← uint 1 with
  | 0 => pure false
  | 1 => pure true
  | _ => failure

/-- `BoundedVec`: its length, which must fit the bound, and its elements. -/
def boundedVec {α : Type} (bound : Nat) (d : Decoder α) : Decoder (BoundedVec α bound) := do
  let n ← compact
  if bound < n then failure
  else
    let as ← repeated d n
    match BoundedVec.ofList? as with
    | some v => pure v
    | none => failure

/-- `decode`: the value, whatever is left over. -/
def decode {α : Type} (d : Decoder α) (bs : List UInt8) : Option α := (d bs).map Prod.fst

/-- `decode_all`: the value, if nothing is left over. -/
def decodeAll {α : Type} (d : Decoder α) (bs : List UInt8) : Option α :=
  match d bs with
  | some (a, []) => some a
  | _ => none

/-! ## Reading an encoding back -/

/-- The decoder reads `bs` as `a`, whatever follows. -/
def Decodes {α : Type} (d : Decoder α) (bs : List UInt8) (a : α) : Prop := ∀ rest, d (bs ++ rest) = some (a, rest)

theorem length_leBytes (width n : Nat) : (leBytes width n).length = width := by
  induction width generalizing n with
  | zero => rfl
  | succ width ih => simp [leBytes, ih]

theorem ofLeBytes_leBytes {width n : Nat} (h : n < 256 ^ width) : ofLeBytes (leBytes width n) = n := by
  induction width generalizing n with
  | zero => simp only [leBytes, ofLeBytes]; simp at h; omega
  | succ width ih =>
      have hdiv : n / 256 < 256 ^ width := by
        rw [Nat.pow_succ] at h
        omega
      simp only [leBytes, ofLeBytes, ih hdiv, UInt8.toNat_ofNat']
      omega

theorem leBytes_inj {width m n : Nat} (hm : m < 256 ^ width) (hn : n < 256 ^ width)
    (h : leBytes width m = leBytes width n) : m = n := by
  rw [← ofLeBytes_leBytes hm, h, ofLeBytes_leBytes hn]

namespace Decodes

variable {α β : Type} {d : Decoder α} {a : α} {bs : List UInt8}

theorem pure (a : α) : Decodes (Pure.pure a : Decoder α) [] a := fun _ => rfl

theorem bind {f : α → Decoder β} {bs' : List UInt8} {b : β} (h : Decodes d bs a) (hf : Decodes (f a) bs' b) :
    Decodes (d >>= f) (bs ++ bs') b := by
  intro rest
  show (d ((bs ++ bs') ++ rest)).bind (fun p => f p.1 p.2) = _
  rw [List.append_assoc, h]
  exact hf rest

theorem map (h : Decodes d bs a) (g : α → β) : Decodes (d >>= fun x => Pure.pure (g x)) bs (g a) := by
  have hpure := h.bind (f := fun x => Pure.pure (g x)) (pure (g a))
  rwa [List.append_nil] at hpure

theorem takeBytes (bs : List UInt8) : Decodes (Scale.takeBytes bs.length) bs bs := by
  intro rest
  simp [Scale.takeBytes]

theorem uint {width n : Nat} (h : n < 256 ^ width) : Decodes (Scale.uint width) (leBytes width n) n := by
  have htake := takeBytes (leBytes width n)
  rw [length_leBytes] at htake
  have hread := htake.map ofLeBytes
  rwa [ofLeBytes_leBytes h] at hread

theorem byte (b : UInt8) : Decodes Scale.byte [b] b := by
  have hb : b.toNat < 256 ^ 1 := b.toNat_lt
  have hread := (uint hb).map UInt8.ofNat
  rwa [leBytes, leBytes, UInt8.ofNat_toNat] at hread

/-- A check at the end of a decoder, on what it has read. -/
theorem dite {p : α → Prop} [DecidablePred p] {g : (a : α) → p a → β} (h : Decodes d bs a) (hp : p a) :
    Decodes (d >>= fun x => if hx : p x then Pure.pure (g x hx) else failure) bs (g a hp) := by
  have hpos : Decodes (if hx : p a then Pure.pure (g a hx) else failure : Decoder β) [] (g a hp) := by
    rw [dif_pos hp]
    exact pure (g a hp)
  have hread := h.bind (f := fun x => if hx : p x then Pure.pure (g x hx) else failure) hpos
  rwa [List.append_nil] at hread

theorem fin {width m : Nat} (hm : m ≤ 256 ^ width) (n : Fin m) : Decodes (Scale.fin width m) (leBytes width n) n :=
  (uint (Nat.lt_of_lt_of_le n.isLt hm)).dite n.isLt

theorem bytes {n : Nat} (v : Vector UInt8 n) : Decodes (Scale.bytes n) v.toList v := by
  have htake := takeBytes v.toList
  rw [Vector.length_toList] at htake
  exact htake.dite (p := fun bs => bs.toArray.size = n) v.size_toArray

theorem bool (b : Bool) : Decodes Scale.bool (boolBytes b) b := by
  cases b with
  | false =>
      have hread : Decodes Scale.bool ([0] ++ []) false := (uint (show 0 < 256 ^ 1 by decide)).bind (pure false)
      exact hread
  | true =>
      have hread : Decodes Scale.bool ([1] ++ []) true := (uint (show 1 < 256 ^ 1 by decide)).bind (pure true)
      exact hread

theorem repeated {encode : α → List UInt8} {as : List α} (h : ∀ a ∈ as, Decodes d (encode a) a) :
    Decodes (Scale.repeated d as.length) (as.flatMap encode) as := by
  induction as with
  | nil => exact pure []
  | cons a as ih =>
      have hhead := h a List.mem_cons_self
      have htail := ih fun b hb => h b (List.mem_cons_of_mem _ hb)
      exact hhead.bind (htail.map (a :: ·))

/-- The first byte of a number, without taking it. -/
theorem peek (width n : Nat) (rest : List UInt8) :
    Scale.uint 1 (leBytes (width + 1) n ++ rest) = some (n % 256, leBytes width (n / 256) ++ rest) := by
  have hread := uint (show n % 256 < 256 ^ 1 by omega) (leBytes width (n / 256) ++ rest)
  have hbyte : UInt8.ofNat (n % 256) = UInt8.ofNat n := by
    rw [← UInt8.toNat_inj]
    simp
  rw [leBytes, leBytes, hbyte] at hread
  exact hread

theorem compact {n : Nat} (h : n < 2 ^ 32) : Decodes Scale.compact (compactBytes n) n := by
  intro rest
  unfold compactBytes Scale.compact
  split
  · have hmode : 4 * n % 256 % 4 = 0 := by omega
    have hread := uint (show 4 * n < 256 ^ 1 by omega) rest
    simp only [peek 0, Option.bind_eq_bind, Option.bind_some, hmode]
    show (Scale.uint 1 (leBytes 1 (4 * n) ++ rest)).map (fun p => (p.1 / 4, p.2)) = _
    rw [hread, Option.map_some, Nat.mul_div_cancel_left n (by decide)]
  split
  · have hmode : (4 * n + 1) % 256 % 4 = 1 := by omega
    have hread := uint (show 4 * n + 1 < 256 ^ 2 by omega) rest
    have hvalue : (4 * n + 1) / 4 = n := by omega
    simp only [peek 1, Option.bind_eq_bind, Option.bind_some, hmode, hread, hvalue]
    exact if_pos (by omega)
  split
  · have hmode : (4 * n + 2) % 256 % 4 = 2 := by omega
    have hread := uint (show 4 * n + 2 < 256 ^ 4 by omega) rest
    have hvalue : (4 * n + 2) / 4 = n := by omega
    simp only [peek 3, Option.bind_eq_bind, Option.bind_some, hmode, hread, hvalue]
    exact if_pos (by omega)
  · have hfirst : Scale.uint 1 (3 :: leBytes 4 n ++ rest) = some (3, leBytes 4 n ++ rest) :=
      peek 0 3 (leBytes 4 n ++ rest)
    have hread := uint (show n < 256 ^ 4 by omega) rest
    simp only [hfirst, Option.bind_eq_bind, Option.bind_some, hread]
    exact if_pos ⟨trivial, by omega⟩

theorem boundedVec {n : Nat} (hn : n < 2 ^ 32) {encode : α → List UInt8} (v : BoundedVec α n)
    (h : ∀ a ∈ v.toList, Decodes d (encode a) a) : Decodes (Scale.boundedVec n d) (vecBytes encode v.toList) v := by
  have hlen := v.bounded
  refine (compact (Nat.lt_of_le_of_lt hlen hn)).bind ?_
  have hself : BoundedVec.ofList? v.toList = some v := dif_pos hlen
  have hlast : Decodes (match (BoundedVec.ofList? v.toList : Option (BoundedVec α n)) with
      | some v => Pure.pure v
      | none => failure) [] v := by
    rw [hself]
    exact pure v
  have hread := (repeated h).bind (f := fun as => match (BoundedVec.ofList? as : Option (BoundedVec α n)) with
    | some v => Pure.pure v
    | none => failure) hlast
  rw [List.append_nil] at hread
  rw [if_neg (Nat.not_lt.mpr hlen)]
  exact hread

end Decodes

theorem decode_of_decodes {α : Type} {d : Decoder α} {bs : List UInt8} {a : α} (h : Decodes d bs a) :
    decode d bs = some a := by
  have hrest := h []
  rw [List.append_nil] at hrest
  simp [decode, hrest]

/-- `decode_all` of an encoding that is read back. -/
theorem decodeAll_of_decodes {α : Type} {d : Decoder α} {bs : List UInt8} {a : α} (h : Decodes d bs a) :
    decodeAll d bs = some a := by
  have hrest := h []
  rw [List.append_nil] at hrest
  simp [decodeAll, hrest]

end Ccrms.Lib.Scale
