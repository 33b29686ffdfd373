import ScadaCore.Base.Time
import Mathlib.Data.Rat.Floor
import Mathlib.Tactic.Linarith

/-!
# Base.MinuteTime — minutes since 2001

`TimeToMins` and `MinsToTime` go through the wire encoding of times, which counts
microseconds. Their constants count ticks of 100 nanoseconds: `MinsEpoch` is 2001 in ticks
since 1601, and `60e7` is a minute in ticks. So a minute of the years from 2001 on has no
index, and an index stands for a time ten times as far from 1601 (`minuteIndex_tenfold`).
-/

namespace ScadaCore.Scada

/-- Arithmetic in `double`: results are rounded, the order is kept, and integers of 53 bits
are exact. -/
structure Doubles where
  round : Rat → Rat
  monotone : Monotone round
  exact : ∀ n : Int, |n| ≤ 2 ^ 53 → round n = n

theorem Doubles.round_le (D : Doubles) {x : Rat} {n : Int} (hx : x ≤ n) (hn : |n| ≤ 2 ^ 53) :
    D.round x ≤ n :=
  (D.monotone hx).trans_eq (D.exact n hn)

def minsEpoch : Int64 := 0x01c07385c89dc000

/-- What is left of a `double` in a cast to an integer. -/
def truncate (x : Rat) : Int := if 0 ≤ x then ⌊x⌋ else ⌈x⌉

/-- `static_cast<unsigned>`, which is undefined beyond the range. -/
def castUnsigned (x : Rat) : Option UInt32 :=
  if 0 ≤ truncate x ∧ truncate x < 2 ^ 32 then some (UInt32.ofNat (truncate x).toNat) else none

def timeToMins (D : Doubles) (time : Time) : Option UInt32 := do
  let wire ← encodeWireMicroseconds time
  let ticks ← fits64 (wire.toInt - minsEpoch.toInt)
  castUnsigned (D.round (D.round ticks.toInt / 60e7))

def minsToTime (D : Doubles) (mins : UInt32) : Option Time := do
  let ticks ← fits64 (truncate (D.round (mins.toNat * 60e7)))
  let time ← fits64 (ticks.toInt + minsEpoch.toInt)
  decodeWireTime time

/-- 2001-01-01 00:00:00 UTC, in microseconds since the Unix epoch. -/
def start2001 : Int := 978307200000000

def microsecondsPerMinute : Int := 60000000

theorem castUnsigned_of_le {x : Rat} (hx : x ≤ -1) : castUnsigned x = none := by
  apply if_neg
  rintro ⟨hle, -⟩
  have hneg : ¬ 0 ≤ x := by linarith
  have hceil : ⌈x⌉ ≤ -1 := Int.ceil_le.mpr (by simpa using hx)
  rw [truncate, if_neg hneg] at hle
  omega

theorem truncate_intCast (n : Int) : truncate n = n := by
  unfold truncate
  split <;> simp

theorem exists_fits64 {n : Int} (hlow : -2 ^ 63 ≤ n) (hhigh : n < 2 ^ 63) :
    ∃ c, fits64 n = some c ∧ c.toInt = n :=
  ⟨Int64.ofInt n, fits64_eq_some.mpr (Int64.toInt_ofInt_of_le hlow hhigh),
    Int64.toInt_ofInt_of_le hlow hhigh⟩

theorem toInt_minsEpoch : minsEpoch.toInt = 10 * (start2001 + timeTToMicrosecondsOffset) := by
  decide

variable (D : Doubles) {t : Time} {n : UInt32}

theorem timeToMins_eq_none (hmin : t ≠ minTime) (hmax : t ≠ maxTime)
    (ht : t.toInt - nullTime.toInt + 600000000 ≤ minsEpoch.toInt) : timeToMins D t = none := by
  unfold timeToMins
  cases hwire : encodeWireMicroseconds t with
  | none => rfl
  | some wire =>
    rw [encodeWireMicroseconds, if_neg hmax, if_neg hmin, fits64_eq_some] at hwire
    rw [Option.bind_eq_bind, Option.bind_some, hwire]
    cases hticks : fits64 (t.toInt - nullTime.toInt - minsEpoch.toInt) with
    | none => rfl
    | some ticks =>
      apply castUnsigned_of_le
      rw [fits64_eq_some] at hticks
      -- rounding keeps the order, and both bounds are exact
      have hticks : (ticks.toInt : Rat) ≤ ((-600000000 : Int) : Rat) := by
        exact_mod_cast (by omega : ticks.toInt ≤ -600000000)
      have hround := D.round_le hticks (by decide)
      have hquotient : D.round ticks.toInt / 60e7 ≤ ((-1 : Int) : Rat) := by
        push_cast at hround ⊢
        linarith
      simpa using D.round_le hquotient (by decide)

theorem minsToTime_eq (hn : n.toNat ≤ 10000000) :
    ∃ t : Time, minsToTime D n = some t ∧
      t.toInt - nullTime.toInt = 600000000 * n.toNat + minsEpoch.toInt := by
  have hepoch := toInt_minsEpoch
  have hnull := toInt_nullTime
  have hstart : start2001 = 978307200000000 := rfl
  have hoffset : timeTToMicrosecondsOffset = 11644473600000000 := rfl
  have hproduct : D.round (n.toNat * 60e7) = ((600000000 * n.toNat : Int) : Rat) := by
    rw [← D.exact (600000000 * n.toNat) (by rw [abs_of_nonneg] <;> omega)]
    push_cast
    ring_nf
  obtain ⟨ticks, hticks, hvalue⟩ :=
    exists_fits64 (n := 600000000 * n.toNat) (by omega) (by omega)
  obtain ⟨time, htime, hvalue'⟩ :=
    exists_fits64 (n := ticks.toInt + minsEpoch.toInt) (by omega) (by omega)
  obtain ⟨t, ht, hvalue''⟩ :=
    exists_fits64 (n := nullTime.toInt + time.toInt) (by omega) (by omega)
  have hmax : time ≠ Int64.maxValue := by
    rintro rfl
    have := Int64.toInt_maxValue
    omega
  have hmin : time ≠ Int64.minValue := by
    rintro rfl
    have := Int64.toInt_minValue
    omega
  refine ⟨t, ?_, by omega⟩
  rw [minsToTime, hproduct, truncate_intCast, hticks, Option.bind_eq_bind, Option.bind_some, htime,
    Option.bind_some, decodeWireTime, if_neg hmax, if_neg hmin, ht]

/-- **Minute indices.** A time in the minute `n` since 2001 has no index, and the index `n`
stands for a time that is ten times as far from 1601 as that minute. -/
theorem minuteIndex_tenfold (n : UInt32) (hn : n.toNat ≤ 10000000) (t : Time)
    (hlow : start2001 + microsecondsPerMinute * n.toNat ≤ t.toInt)
    (hhigh : t.toInt < start2001 + microsecondsPerMinute * (n.toNat + 1)) :
    timeToMins D t = none ∧ ∃ t' : Time, minsToTime D n = some t' ∧
      t'.toInt - nullTime.toInt =
        10 * (start2001 + microsecondsPerMinute * n.toNat - nullTime.toInt) := by
  have hepoch := toInt_minsEpoch
  have hnull := toInt_nullTime
  have hstart : start2001 = 978307200000000 := rfl
  have hoffset : timeTToMicrosecondsOffset = 11644473600000000 := rfl
  unfold microsecondsPerMinute at hlow hhigh ⊢
  constructor
  · refine timeToMins_eq_none D ?_ ?_ (by omega)
    · rintro rfl
      have : minTime.toInt = _ := Int64.toInt_minValue
      omega
    · rintro rfl
      have : maxTime.toInt = _ := Int64.toInt_maxValue
      omega
  · obtain ⟨t', ht', hvalue⟩ := minsToTime_eq D hn
    exact ⟨t', ht', by omega⟩

theorem minuteIndex_tenfold_first :
    (978307200000000 : Time).toInt = start2001 ∧
      ∀ D : Doubles, timeToMins D 978307200000000 = none ∧
        ∃ t' : Time, minsToTime D 0 = some t' ∧ t'.toInt - nullTime.toInt =
          10 * (start2001 + microsecondsPerMinute * (0 : UInt32).toNat - nullTime.toInt) :=
  ⟨by decide, fun D => minuteIndex_tenfold D 0 (by decide) _ (by decide) (by decide)⟩

/-- At the beginning of 2001 neither function gives what it should. -/
theorem minuteIndex_wrong :
    (978307200000000 : Time).toInt = start2001 ∧
      ∀ D : Doubles, timeToMins D 978307200000000 ≠ some 0 ∧
        minsToTime D 0 ≠ some 978307200000000 := by
  refine ⟨by decide, fun D => ⟨?_, ?_⟩⟩
  · rw [timeToMins_eq_none D (by decide) (by decide) (by decide)]
    simp
  · obtain ⟨t, ht, hvalue⟩ := minsToTime_eq D (n := 0) (by decide)
    rw [ht]
    rintro ⟨⟩
    revert hvalue
    decide

end ScadaCore.Scada
