import Ccrms.Frame.Primitives
import Mathlib.Order.MinMax

/-!
# Weights

`Weight` of sp-weights, in reference time and proof size, and the database weights of frame-system. Both parts are `u64`
and every operation saturates.
-/

namespace Ccrms.Frame

def u64Max : Nat := 2 ^ 64 - 1

def satAdd64 (a b : Nat) : Nat := min (a + b) u64Max

def satMul64 (a b : Nat) : Nat := min (a * b) u64Max

theorem satAdd64_mono {a a' b b' : Nat} (ha : a ≤ a') (hb : b ≤ b') : satAdd64 a b ≤ satAdd64 a' b' :=
  min_le_min_right _ (Nat.add_le_add ha hb)

theorem satMul64_mono (a : Nat) {m n : Nat} (h : m ≤ n) : satMul64 a m ≤ satMul64 a n :=
  min_le_min_right _ (Nat.mul_le_mul_left a h)

theorem satAdd64_eq {a b : Nat} (h : a + b ≤ u64Max) : satAdd64 a b = a + b := Nat.min_eq_left h

theorem satMul64_eq {a b : Nat} (h : a * b ≤ u64Max) : satMul64 a b = a * b := Nat.min_eq_left h

structure Weight where
  refTime : Nat
  proofSize : Nat
  deriving DecidableEq, Repr

namespace Weight

def saturatingAdd (a b : Weight) : Weight := ⟨satAdd64 a.refTime b.refTime, satAdd64 a.proofSize b.proofSize⟩

def saturatingSub (a b : Weight) : Weight := ⟨a.refTime - b.refTime, a.proofSize - b.proofSize⟩

def saturatingMul (a : Weight) (n : Nat) : Weight := ⟨satMul64 a.refTime n, satMul64 a.proofSize n⟩

/-- `all_lte`. -/
def AllLte (a b : Weight) : Prop := a.refTime ≤ b.refTime ∧ a.proofSize ≤ b.proofSize

theorem AllLte.refl (a : Weight) : a.AllLte a := ⟨le_refl _, le_refl _⟩

theorem AllLte.saturatingAdd {a a' b b' : Weight} (ha : a.AllLte a') (hb : b.AllLte b') :
    (a.saturatingAdd b).AllLte (a'.saturatingAdd b') := by
  obtain ⟨htime, hproof⟩ := ha
  obtain ⟨htime', hproof'⟩ := hb
  exact ⟨satAdd64_mono htime htime', satAdd64_mono hproof hproof'⟩

theorem AllLte.saturatingMul (a : Weight) {m n : Nat} (h : m ≤ n) : (a.saturatingMul m).AllLte (a.saturatingMul n) :=
  ⟨satMul64_mono _ h, satMul64_mono _ h⟩

end Weight

structure RuntimeDbWeight where
  read : Nat
  write : Nat

namespace RuntimeDbWeight

def reads (db : RuntimeDbWeight) (n : Nat) : Weight := ⟨satMul64 db.read n, 0⟩

def writes (db : RuntimeDbWeight) (n : Nat) : Weight := ⟨satMul64 db.write n, 0⟩

theorem reads_mono (db : RuntimeDbWeight) {m n : Nat} (h : m ≤ n) : (db.reads m).AllLte (db.reads n) :=
  ⟨satMul64_mono _ h, le_refl _⟩

theorem writes_mono (db : RuntimeDbWeight) {m n : Nat} (h : m ≤ n) : (db.writes m).AllLte (db.writes n) :=
  ⟨satMul64_mono _ h, le_refl _⟩

end RuntimeDbWeight

/-- `RocksDbWeight` of the runtime. A nanosecond is a weight of 1,000. -/
def rocksDbWeight : RuntimeDbWeight := ⟨25000 * 1000, 100000 * 1000⟩

/-! ## Benchmarked weights -/

/-- A weight without a component, as the benchmarks print it. -/
def fixedWeight (db : RuntimeDbWeight) (base : Weight) (reads writes : Nat) : Weight :=
  (base.saturatingAdd (db.reads reads)).saturatingAdd (db.writes writes)

/-- What the benchmarks print for a weight with a component: the weight, the reads and the writes at zero, and what one
unit of the component adds to the time, the reads, the writes and the proof size. A term that is not printed is zero. -/
structure Component where
  time : Nat
  reads : Nat
  writes : Nat
  proofSize : Nat

def linearWeight (db : RuntimeDbWeight) (base : Weight) (reads writes : Nat) (c : Component) (n : Nat) : Weight :=
  (((((base.saturatingAdd ((Weight.mk c.time 0).saturatingMul n)).saturatingAdd
    (db.reads reads)).saturatingAdd
    (db.reads (satMul64 c.reads n))).saturatingAdd
    (db.writes writes)).saturatingAdd
    (db.writes (satMul64 c.writes n))).saturatingAdd
    ((Weight.mk 0 c.proofSize).saturatingMul n)

theorem linearWeight_mono (db : RuntimeDbWeight) (base : Weight) (reads writes : Nat) (c : Component) {m n : Nat}
    (h : m ≤ n) : (linearWeight db base reads writes c m).AllLte (linearWeight db base reads writes c n) := by
  have htime := (Weight.AllLte.refl base).saturatingAdd (.saturatingMul ⟨c.time, 0⟩ h)
  have hreads := (htime.saturatingAdd (.refl (db.reads reads))).saturatingAdd
    (db.reads_mono (satMul64_mono c.reads h))
  have hwrites := (hreads.saturatingAdd (.refl (db.writes writes))).saturatingAdd
    (db.writes_mono (satMul64_mono c.writes h))
  exact hwrites.saturatingAdd (.saturatingMul _ h)

/-- Below the bounds of `u64` the weight is linear in its component. -/
theorem linearWeight_eq {db : RuntimeDbWeight} {base : Weight} {reads writes n : Nat} {c : Component}
    (hreads : c.reads * n ≤ u64Max) (hwrites : c.writes * n ≤ u64Max)
    (htime : base.refTime + c.time * n + db.read * reads + db.read * (c.reads * n) + db.write * writes +
      db.write * (c.writes * n) ≤ u64Max)
    (hproof : base.proofSize + c.proofSize * n ≤ u64Max) :
    linearWeight db base reads writes c n =
      ⟨base.refTime + c.time * n + db.read * reads + db.read * (c.reads * n) + db.write * writes +
        db.write * (c.writes * n), base.proofSize + c.proofSize * n⟩ := by
  simp only [linearWeight, Weight.saturatingAdd, Weight.saturatingMul, RuntimeDbWeight.reads, RuntimeDbWeight.writes,
    satMul64_eq hreads, satMul64_eq hwrites]
  -- Every sum on the way is at most the whole, so none of them saturates.
  simp (disch := omega) only [satMul64_eq, satAdd64_eq, Nat.zero_mul, Nat.add_zero]

end Ccrms.Frame
