import Ccrms.Lib.Scale

/-!
# Canonical decoding

A SCALE decoder accepts nothing but encodings: what it reads is the encoding of the value it returns. With the decoders
that read every encoding back this makes values and their encodings one to one. The form of a length is the point that
could break it, and a decoder refuses a longer form than needed.
-/

namespace Ccrms.Lib.Scale

variable {α β : Type}

/-- The decoder reads the encoding of the value that it returns. -/
def Canonical (d : Decoder α) (encode : α → List UInt8) : Prop :=
  ∀ ⦃bs a rest⦄, d bs = some (a, rest) → bs = encode a ++ rest

/-! ## Sequences -/

theorem bind_some {d : Decoder α} {f : α → Decoder β} {bs rest : List UInt8} {b : β} :
    (d >>= f) bs = some (b, rest) ↔ ∃ a mid, d bs = some (a, mid) ∧ f a mid = some (b, rest) := by
  show (d bs).bind (fun r => f r.1 r.2) = _ ↔ _
  rw [Option.bind_eq_some_iff]
  constructor
  · rintro ⟨⟨a, mid⟩, hd, hf⟩
    exact ⟨a, mid, hd, hf⟩
  · rintro ⟨a, mid, hd, hf⟩
    exact ⟨(a, mid), hd, hf⟩

theorem pure_some {a b : α} {bs rest : List UInt8} :
    (pure a : Decoder α) bs = some (b, rest) ↔ a = b ∧ bs = rest := by
  show some (a, bs) = some (b, rest) ↔ _
  rw [Option.some.injEq, Prod.mk.injEq]

/-! ## Integers -/

theorem leBytes_ofLeBytes (bs : List UInt8) : leBytes bs.length (ofLeBytes bs) = bs := by
  induction bs with
  | nil => rfl
  | cons b bs ih =>
      have hb : b.toNat < 256 := b.toNat_lt
      have hlow : UInt8.ofNat (b.toNat + 256 * ofLeBytes bs) = b := by
        rw [← UInt8.toNat_inj, UInt8.toNat_ofNat']
        omega
      have hhigh : (b.toNat + 256 * ofLeBytes bs) / 256 = ofLeBytes bs := by omega
      rw [List.length_cons, ofLeBytes, leBytes, hlow, hhigh, ih]

theorem ofLeBytes_lt (bs : List UInt8) : ofLeBytes bs < 256 ^ bs.length := by
  induction bs with
  | nil => decide
  | cons b bs ih =>
      have hb : b.toNat < 256 := b.toNat_lt
      rw [ofLeBytes, List.length_cons, Nat.pow_succ]
      omega

theorem takeBytes_some {n : Nat} {bs as rest : List UInt8} (h : takeBytes n bs = some (as, rest)) :
    as.length = n ∧ bs = as ++ rest := by
  unfold takeBytes at h
  split at h
  · cases h
  · cases h
    refine ⟨?_, (List.take_append_drop n bs).symm⟩
    rw [List.length_take]
    omega

theorem uint_some {width n : Nat} {bs rest : List UInt8} (h : uint width bs = some (n, rest)) :
    n < 256 ^ width ∧ bs = leBytes width n ++ rest := by
  obtain ⟨as, mid, htake, h⟩ := bind_some.mp h
  obtain ⟨rfl, rfl⟩ := pure_some.mp h
  obtain ⟨rfl, rfl⟩ := takeBytes_some htake
  rw [leBytes_ofLeBytes]
  exact ⟨ofLeBytes_lt as, rfl⟩

/-! ## Options -/

/-- `Option`: a byte that tells whether a value follows. -/
def optionBytes (encode : α → List UInt8) : Option α → List UInt8
  | none => [0]
  | some a => 1 :: encode a

theorem Decodes.option {d : Decoder α} {encode : α → List UInt8} {o : Option α} (h : ∀ a ∈ o, Decodes d (encode a) a) :
    Decodes (Scale.option d) (optionBytes encode o) o := by
  intro rest
  cases o with
  | none => rfl
  | some a =>
      refine bind_some.mpr ⟨1, encode a ++ rest, rfl, ?_⟩
      show (some <$> d : Decoder (Option α)) (encode a ++ rest) = _
      rw [map_eq_pure_bind]
      exact bind_some.mpr ⟨a, rest, h a rfl rest, rfl⟩

namespace Canonical

variable {d : Decoder α} {encode : α → List UInt8}

/-- Reading a field. -/
theorem field (hd : Canonical d encode) {f : α → Decoder β} {bs rest : List UInt8} {b : β}
    (h : (d >>= f) bs = some (b, rest)) : ∃ a mid, bs = encode a ++ mid ∧ f a mid = some (b, rest) := by
  obtain ⟨a, mid, ha, hf⟩ := bind_some.mp h
  exact ⟨a, mid, hd ha, hf⟩

/-- Reading the last field. -/
theorem last (hd : Canonical d encode) {g : α → β} {bs rest : List UInt8} {b : β}
    (h : (d >>= fun a => Pure.pure (g a)) bs = some (b, rest)) : ∃ a, bs = encode a ++ rest ∧ g a = b := by
  obtain ⟨a, mid, rfl, hf⟩ := hd.field h
  obtain ⟨he, rfl⟩ := pure_some.mp hf
  exact ⟨a, rfl, he⟩

theorem fin (width m : Nat) : Canonical (Scale.fin width m) fun n => leBytes width n := by
  intro bs a rest h
  obtain ⟨n, mid, hread, h⟩ := bind_some.mp h
  split at h
  · obtain ⟨rfl, rfl⟩ := pure_some.mp h
    exact (uint_some hread).2
  · cases h

theorem byte : Canonical Scale.byte fun b => [b] := by
  intro bs a rest h
  obtain ⟨n, mid, hread, h⟩ := bind_some.mp h
  obtain ⟨rfl, rfl⟩ := pure_some.mp h
  exact (uint_some hread).2

theorem bytes (n : Nat) : Canonical (Scale.bytes n) Vector.toList := by
  intro bs a rest h
  obtain ⟨as, mid, htake, h⟩ := bind_some.mp h
  split at h
  · obtain ⟨rfl, rfl⟩ := pure_some.mp h
    exact (takeBytes_some htake).2
  · cases h

theorem option (hd : Canonical d encode) : Canonical (Scale.option d) (optionBytes encode) := by
  intro bs o rest h
  obtain ⟨n, mid, hread, h⟩ := bind_some.mp h
  have hbs := (uint_some hread).2
  split at h
  · obtain ⟨rfl, rfl⟩ := pure_some.mp h
    exact hbs
  · rw [map_eq_pure_bind] at h
    obtain ⟨a, mid', ha, h⟩ := bind_some.mp h
    obtain ⟨rfl, rfl⟩ := pure_some.mp h
    rw [hd ha] at hbs
    exact hbs
  · cases h

/-! ## Lengths and vectors -/

/-- The first byte of a number in a form that was read as a whole. -/
theorem first_eq {width n first : Nat} {bs tail rest : List UInt8} (h : Scale.uint 1 bs = some (first, tail))
    (hread : Scale.uint (width + 1) bs = some (n, rest)) : first = n % 256 := by
  rw [(uint_some hread).2, Decodes.peek] at h
  cases h
  rfl

theorem compact : Canonical Scale.compact compactBytes := by
  intro bs n rest h
  simp only [Scale.compact, Option.bind_eq_bind, Option.bind_eq_some_iff] at h
  obtain ⟨⟨first, tail⟩, hfirst, h⟩ := h
  -- The two low bits of the first byte are those of the whole number, and the bounds single out its form.
  split at h
  · rename_i hmode
    rw [StateT.run_map] at h
    obtain ⟨⟨m, mid⟩, hread, he⟩ := Option.map_eq_some_iff.mp h
    cases he
    have hbits := first_eq hfirst hread
    obtain ⟨hlt, hbs⟩ := uint_some hread
    have hm : 4 * (m / 4) = m := by omega
    rw [compactBytes, if_pos (by omega), hm]
    exact hbs
  · rename_i hmode
    obtain ⟨⟨m, mid⟩, hread, h⟩ := Option.bind_eq_some_iff.mp h
    obtain ⟨hmin, he⟩ := Option.ite_none_right_eq_some.mp h
    cases he
    have hbits := first_eq hfirst hread
    obtain ⟨hlt, hbs⟩ := uint_some hread
    have hm : 4 * (m / 4) + 1 = m := by omega
    rw [compactBytes, if_neg (by omega), if_pos (by omega), hm]
    exact hbs
  · rename_i hmode
    obtain ⟨⟨m, mid⟩, hread, h⟩ := Option.bind_eq_some_iff.mp h
    obtain ⟨hmin, he⟩ := Option.ite_none_right_eq_some.mp h
    cases he
    have hbits := first_eq hfirst hread
    obtain ⟨hlt, hbs⟩ := uint_some hread
    have hm : 4 * (m / 4) + 2 = m := by omega
    rw [compactBytes, if_neg (by omega), if_neg (by omega), if_pos (by omega), hm]
    exact hbs
  · obtain ⟨⟨first', mid⟩, hfirst', h⟩ := Option.bind_eq_some_iff.mp h
    obtain ⟨⟨m, mid'⟩, hread, h⟩ := Option.bind_eq_some_iff.mp h
    obtain ⟨⟨rfl, hmin⟩, he⟩ := Option.ite_none_right_eq_some.mp h
    cases he
    cases hfirst.symm.trans hfirst'
    have htail : tail = leBytes 4 m ++ mid' := (uint_some hread).2
    rw [compactBytes, if_neg (by omega), if_neg (by omega), if_neg (by omega), (uint_some hfirst).2, htail]
    rfl

theorem repeated (hd : Canonical d encode) (n : Nat) {bs rest : List UInt8} {as : List α}
    (h : Scale.repeated d n bs = some (as, rest)) : as.length = n ∧ bs = as.flatMap encode ++ rest := by
  induction n generalizing bs as with
  | zero =>
      obtain ⟨rfl, rfl⟩ := pure_some.mp h
      exact ⟨rfl, rfl⟩
  | succ n ih =>
      obtain ⟨a, mid, ha, h⟩ := bind_some.mp h
      obtain ⟨as', mid', has, h⟩ := bind_some.mp h
      obtain ⟨rfl, rfl⟩ := pure_some.mp h
      obtain ⟨hlen, rfl⟩ := ih has
      rw [hd ha, List.flatMap_cons, List.append_assoc]
      exact ⟨congrArg (· + 1) hlen, rfl⟩

theorem boundedVec (hd : Canonical d encode) (bound : Nat) :
    Canonical (Scale.boundedVec bound d) fun v => vecBytes encode v.toList := by
  intro bs v rest h
  obtain ⟨n, mid, hn, h⟩ := bind_some.mp h
  split at h
  · cases h
  · obtain ⟨as, mid', has, h⟩ := bind_some.mp h
    obtain ⟨hlen, hmid⟩ := hd.repeated n has
    cases hv : (BoundedVec.ofList? as : Option (BoundedVec α bound)) with
    | none =>
        rw [hv] at h
        cases h
    | some v' =>
        rw [hv] at h
        obtain ⟨rfl, rfl⟩ := pure_some.mp h
        obtain ⟨_, he⟩ := Option.dite_none_right_eq_some.mp hv
        cases he
        rw [compact hn, hmid, ← hlen, ← List.append_assoc]
        rfl

end Canonical

end Ccrms.Lib.Scale
