import Mathlib.Logic.Basic

/-!
# Base.Time — times and their wire encoding

`scada::Time` counts microseconds from the Unix epoch in a signed 64-bit
integer. On the wire a time is its distance from the 1601 epoch, and the two
ends of the range stand for the unbounded times. The sum or difference of two
counts may leave the range; in the source that is undefined, here it is `none`.

The steady clock, which never goes back, counts nanoseconds; its times are plain integers.
-/

namespace ScadaCore.Scada

/-- `scada::Time`, in microseconds since the Unix epoch. -/
abbrev Time := Int64

/-- The count `n` where it fits into 64 bits, `none` where the computation of
it overflows. -/
def fits64 (n : Int) : Option Int64 :=
  if Int64.minValue.toInt ≤ n ∧ n ≤ Int64.maxValue.toInt then some (Int64.ofInt n) else none

theorem fits64_eq_some {n : Int} {c : Int64} : fits64 n = some c ↔ c.toInt = n := by
  have hmin := Int64.toInt_minValue
  have hmax := Int64.toInt_maxValue
  have hlow := c.le_toInt
  have hhigh := c.toInt_lt
  unfold fits64
  split
  · rename_i hfits
    have hcount : (Int64.ofInt n).toInt = n := by
      apply Int64.toInt_ofInt_of_le <;> omega
    rw [Option.some.injEq, ← Int64.toInt_inj, hcount]
    exact eq_comm
  · rename_i hover
    constructor
    · intro hno
      cases hno
    · intro hcount
      exfalso
      apply hover
      omega

/-- `kTimeTToMicrosecondsOffset`: from the 1601 epoch to the Unix epoch. -/
def timeTToMicrosecondsOffset : Int := 11644473600000000

/-- `kNullTime`: the 1601 epoch, which is the "no timestamp" value. -/
def nullTime : Time := -11644473600000000

/-- `kMaxTime` and `kMinTime`: the unbounded ends of a range. -/
def maxTime : Time := Int64.maxValue
def minTime : Time := Int64.minValue

theorem toInt_nullTime : nullTime.toInt = -timeTToMicrosecondsOffset := by decide

def encodeWireMicroseconds (time : Time) : Option Int64 :=
  if time = maxTime then
    some Int64.maxValue
  else if time = minTime then
    some Int64.minValue
  else
    fits64 (time.toInt - nullTime.toInt)

def decodeWireTime (wire : Int64) : Option Time :=
  if wire = Int64.maxValue then
    some maxTime
  else if wire = Int64.minValue then
    some minTime
  else
    fits64 (nullTime.toInt + wire.toInt)

variable {time : Time} {wire : Int64}

/-- What is decoded is the encoded time, unless the encoding of a time other
than `kMaxTime` happens to be the value that stands for it. -/
theorem decode_of_encode (h : encodeWireMicroseconds time = some wire) :
    decodeWireTime wire = some time ↔ (wire = Int64.maxValue → time = maxTime) := by
  unfold encodeWireMicroseconds at h
  unfold decodeWireTime
  have hnull := toInt_nullTime
  have hoffset : timeTToMicrosecondsOffset = 11644473600000000 := rfl
  have hmin := Int64.toInt_minValue
  split at h
  · -- the upper end
    rename_i hmax
    cases h
    simp [hmax]
  · rename_i hmax
    split at h
    · -- the lower end
      rename_i htime
      cases h
      rw [if_neg (by decide), if_pos rfl, htime]
      exact iff_of_true rfl (fun hno => by cases hno)
    · -- a time in between: only the upper end of the wire range can be hit
      rw [fits64_eq_some] at h
      have hwire : wire ≠ Int64.minValue := by
        intro hno
        rw [hno] at h
        have hlow := time.le_toInt
        omega
      rw [if_neg hwire]
      split
      · rename_i hupper
        rw [Option.some.injEq]
        exact ⟨fun heq _ => heq.symm, fun himp => (himp hupper).symm⟩
      · rename_i hupper
        rw [fits64_eq_some]
        refine iff_of_true ?_ (fun hno => absurd hno hupper)
        omega

/-- The times that survive the wire: `kMaxTime`, and those whose distance from
the 1601 epoch is below the upper end of the range. -/
def Time.OnWire (time : Time) : Prop :=
  time = maxTime ∨ time.toInt + timeTToMicrosecondsOffset < Int64.maxValue.toInt

instance (time : Time) : Decidable time.OnWire :=
  inferInstanceAs (Decidable (_ ∨ _))

theorem onWire_iff (time : Time) :
    (∃ wire, encodeWireMicroseconds time = some wire ∧ decodeWireTime wire = some time) ↔
      time.OnWire := by
  have hnull := toInt_nullTime
  have hmaxValue := Int64.toInt_maxValue
  constructor
  · rintro ⟨wire, hencode, hdecode⟩
    have hunbounded := (decode_of_encode hencode).mp hdecode
    by_cases hmax : time = maxTime
    · exact Or.inl hmax
    · right
      have hwire : wire ≠ Int64.maxValue := fun hno => hmax (hunbounded hno)
      have hbelow : wire.toInt < Int64.maxValue.toInt := by
        have hle := wire.toInt_lt
        have hne : wire.toInt ≠ Int64.maxValue.toInt := fun hno => hwire (Int64.toInt_inj.mp hno)
        omega
      unfold encodeWireMicroseconds at hencode
      rw [if_neg hmax] at hencode
      split at hencode
      · rename_i hmin
        rw [hmin]
        decide
      · rw [fits64_eq_some] at hencode
        omega
  · intro h
    by_cases hmax : time = maxTime
    · exact ⟨Int64.maxValue, by simp [encodeWireMicroseconds, hmax], by simp [decodeWireTime, hmax]⟩
    · have hbelow := h.resolve_left hmax
      by_cases hmin : time = minTime
      · rw [hmin]
        exact ⟨Int64.minValue, by decide, by decide⟩
      · have hlow := time.le_toInt
        have hoffset : timeTToMicrosecondsOffset = 11644473600000000 := rfl
        have hwire : (Int64.ofInt (time.toInt - nullTime.toInt)).toInt =
            time.toInt - nullTime.toInt := by
          apply Int64.toInt_ofInt_of_le <;> omega
        have hencode : encodeWireMicroseconds time =
            some (Int64.ofInt (time.toInt - nullTime.toInt)) := by
          unfold encodeWireMicroseconds
          rw [if_neg hmax, if_neg hmin, fits64_eq_some]
          exact hwire
        refine ⟨_, hencode, (decode_of_encode hencode).mpr ?_⟩
        intro hupper
        exfalso
        rw [hupper] at hwire
        omega

theorem decodeWireTime_of_encode (h : encodeWireMicroseconds time = some wire) :
    decodeWireTime wire = some (if time.OnWire then time else maxTime) := by
  split
  · rename_i honWire
    obtain ⟨wire', hencode, hdecode⟩ := (onWire_iff time).mpr honWire
    cases h.symm.trans hencode
    exact hdecode
  · rename_i hlost
    have hupper : wire = Int64.maxValue := by
      apply Decidable.byContradiction
      intro hne
      exact hlost ((onWire_iff time).mp ⟨wire, h, (decode_of_encode h).mpr (absurd · hne)⟩)
    rw [hupper]
    rfl

/-- Only the null time is encoded as 0, the value of a field that is not set. -/
theorem eq_nullTime_of_encode_zero (h : encodeWireMicroseconds time = some 0) :
    time = nullTime := by
  unfold encodeWireMicroseconds at h
  split at h
  · cases h
  · split at h
    · cases h
    · rw [fits64_eq_some] at h
      have hzero : (0 : Int64).toInt = 0 := rfl
      exact Int64.toInt_inj.mp (by omega)

def Time.Encodable (time : Time) : Prop :=
  time = maxTime ∨ time.toInt + timeTToMicrosecondsOffset ≤ Int64.maxValue.toInt

instance (time : Time) : Decidable time.Encodable :=
  inferInstanceAs (Decidable (_ ∨ _))

theorem encodeWireMicroseconds_isSome_iff (time : Time) :
    (encodeWireMicroseconds time).isSome ↔ time.Encodable := by
  have hnull := toInt_nullTime
  have hoffset : timeTToMicrosecondsOffset = 11644473600000000 := rfl
  have hminValue := Int64.toInt_minValue
  have hlow := time.le_toInt
  unfold encodeWireMicroseconds Time.Encodable
  by_cases hmax : time = maxTime
  · simp [hmax]
  · rw [if_neg hmax]
    by_cases hmin : time = minTime
    · rw [hmin]
      decide
    · rw [if_neg hmin, fits64]
      split
      · rename_i hfits
        exact iff_of_true rfl (Or.inr (by omega))
      · rename_i hover
        refine iff_of_false (by simp) ?_
        rintro (h | h)
        · exact hmax h
        · apply hover
          omega

theorem encodable_of_decode (h : decodeWireTime wire = some time) : time.Encodable := by
  have hnull := toInt_nullTime
  have hmaxValue := Int64.toInt_maxValue
  unfold decodeWireTime at h
  split at h
  · exact Or.inl (Option.some.inj h).symm
  · split at h
    · rw [← Option.some.inj h]
      decide
    · rw [fits64_eq_some] at h
      have hhigh := wire.toInt_lt
      right
      omega

/-! ## The whole domain -/

theorem decodeWireTime_isSome_iff (wire : Int64) :
    (decodeWireTime wire).isSome ↔
      wire = Int64.minValue ∨ Int64.minValue.toInt + timeTToMicrosecondsOffset ≤ wire.toInt := by
  have hnull := toInt_nullTime
  have hoffset : timeTToMicrosecondsOffset = 11644473600000000 := rfl
  have hmin := Int64.toInt_minValue
  have hmax := Int64.toInt_maxValue
  have hhigh := wire.toInt_lt
  unfold decodeWireTime
  by_cases hupper : wire = Int64.maxValue
  · rw [if_pos hupper, hupper]
    decide
  · rw [if_neg hupper]
    by_cases hlower : wire = Int64.minValue
    · rw [if_pos hlower]
      exact iff_of_true rfl (Or.inl hlower)
    · rw [if_neg hlower, or_iff_right hlower, fits64]
      split
      · rename_i hfits
        exact iff_of_true rfl (by omega)
      · rename_i hover
        refine iff_of_false (by simp) ?_
        intro hle
        apply hover
        omega

/-- A wire value other than the ends is the distance of the time that it is decoded
to, in both directions. -/
theorem decodeWireTime_eq_iff (hupper : wire ≠ Int64.maxValue) (hlower : wire ≠ Int64.minValue)
    (time : Time) :
    decodeWireTime wire = some time ↔
      time.toInt + timeTToMicrosecondsOffset = wire.toInt := by
  have hnull := toInt_nullTime
  rw [decodeWireTime, if_neg hupper, if_neg hlower, fits64_eq_some]
  constructor <;> intro h <;> omega

theorem encodeWireMicroseconds_eq_iff (hmax : time ≠ maxTime) (hmin : time ≠ minTime)
    (wire : Int64) :
    encodeWireMicroseconds time = some wire ↔
      time.toInt + timeTToMicrosecondsOffset = wire.toInt := by
  have hnull := toInt_nullTime
  rw [encodeWireMicroseconds, if_neg hmax, if_neg hmin, fits64_eq_some]
  constructor <;> intro h <;> omega

/-- The wire values that come back when their time is encoded: the two ends, and
those that stand for a time above `kMinTime`. -/
def WireExact (wire : Int64) : Prop :=
  wire = Int64.minValue ∨ Int64.minValue.toInt + timeTToMicrosecondsOffset < wire.toInt

instance (wire : Int64) : Decidable (WireExact wire) :=
  inferInstanceAs (Decidable (_ ∨ _))

theorem wireExact_iff (wire : Int64) :
    (∃ time, decodeWireTime wire = some time ∧ encodeWireMicroseconds time = some wire) ↔
      WireExact wire := by
  have hoffset : timeTToMicrosecondsOffset = 11644473600000000 := rfl
  have hmin := Int64.toInt_minValue
  have hmax := Int64.toInt_maxValue
  have hminTime : minTime.toInt = Int64.minValue.toInt := rfl
  have hmaxTime : maxTime.toInt = Int64.maxValue.toInt := rfl
  have hhigh := wire.toInt_lt
  by_cases hupper : wire = Int64.maxValue
  · rw [hupper]
    exact iff_of_true ⟨maxTime, by decide, by decide⟩ (by decide)
  by_cases hlower : wire = Int64.minValue
  · rw [hlower]
    exact iff_of_true ⟨minTime, by decide, by decide⟩ (by decide)
  rw [WireExact, or_iff_right hlower]
  constructor
  · rintro ⟨time, hdecode, hencode⟩
    rw [decodeWireTime_eq_iff hupper hlower] at hdecode
    have hlow := time.le_toInt
    have htime : time ≠ minTime := by
      rintro rfl
      exact hlower (Option.some.inj hencode).symm
    have hne : time.toInt ≠ minTime.toInt := fun heq => htime (Int64.toInt_inj.mp heq)
    omega
  · intro habove
    have hcount : (Int64.ofInt (wire.toInt - timeTToMicrosecondsOffset)).toInt =
        wire.toInt - timeTToMicrosecondsOffset := by
      apply Int64.toInt_ofInt_of_le <;> omega
    have hsum : (Int64.ofInt (wire.toInt - timeTToMicrosecondsOffset)).toInt +
        timeTToMicrosecondsOffset = wire.toInt := by omega
    refine ⟨_, (decodeWireTime_eq_iff hupper hlower _).mpr hsum,
      (encodeWireMicroseconds_eq_iff ?_ ?_ wire).mpr hsum⟩
    · intro heq
      have := congrArg Int64.toInt heq
      omega
    · intro heq
      have := congrArg Int64.toInt heq
      omega

theorem decodeWireTime_eq_maxTime_iff (wire : Int64) :
    decodeWireTime wire = some maxTime ↔ wire = Int64.maxValue := by
  by_cases hupper : wire = Int64.maxValue
  · rw [hupper]
    decide
  · refine iff_of_false ?_ hupper
    by_cases hlower : wire = Int64.minValue
    · rw [hlower]
      decide
    · rw [decodeWireTime_eq_iff hupper hlower]
      have hoffset : timeTToMicrosecondsOffset = 11644473600000000 := rfl
      have hmax : maxTime.toInt = 9223372036854775807 := rfl
      have hhigh := wire.toInt_lt
      omega

theorem decodeWireTime_eq_minTime_iff (wire : Int64) :
    decodeWireTime wire = some minTime ↔
      wire = Int64.minValue ∨
        wire.toInt = Int64.minValue.toInt + timeTToMicrosecondsOffset := by
  by_cases hupper : wire = Int64.maxValue
  · rw [hupper]
    decide
  by_cases hlower : wire = Int64.minValue
  · rw [hlower]
    decide
  rw [decodeWireTime_eq_iff hupper hlower, or_iff_right hlower]
  exact eq_comm

theorem encodeWireMicroseconds_eq_maxValue_iff (time : Time) :
    encodeWireMicroseconds time = some Int64.maxValue ↔
      time = maxTime ∨ time.toInt + timeTToMicrosecondsOffset = Int64.maxValue.toInt := by
  by_cases hmax : time = maxTime
  · rw [hmax]
    decide
  by_cases hmin : time = minTime
  · rw [hmin]
    decide
  rw [encodeWireMicroseconds_eq_iff hmax hmin, or_iff_right hmax]

theorem encodeWireMicroseconds_eq_minValue_iff (time : Time) :
    encodeWireMicroseconds time = some Int64.minValue ↔ time = minTime := by
  by_cases hmax : time = maxTime
  · rw [hmax]
    decide
  by_cases hmin : time = minTime
  · rw [hmin]
    decide
  rw [encodeWireMicroseconds_eq_iff hmax hmin]
  refine iff_of_false ?_ hmin
  have hoffset : timeTToMicrosecondsOffset = 11644473600000000 := rfl
  have hminValue := Int64.toInt_minValue
  have hlow := time.le_toInt
  omega

/-- **The codec of times, exactly.** A wire value is decoded without overflow if it
is not within one offset of the lower end, and it comes back unless it stands for
`kMinTime` besides `INT64_MIN`. A time is encoded without overflow if it is not
within one offset of the upper end, and it comes back unless its distance is the
value that stands for `kMaxTime`. -/
theorem wireTime_exact_iff (wire : Int64) (time : Time) :
    ((decodeWireTime wire).isSome ↔ wire = Int64.minValue ∨
      Int64.minValue.toInt + timeTToMicrosecondsOffset ≤ wire.toInt) ∧
    ((∃ time, decodeWireTime wire = some time ∧ encodeWireMicroseconds time = some wire) ↔
      WireExact wire) ∧
    ((encodeWireMicroseconds time).isSome ↔ time.Encodable) ∧
    ((∃ wire, encodeWireMicroseconds time = some wire ∧ decodeWireTime wire = some time) ↔
      time.OnWire) ∧
    (decodeWireTime wire = some maxTime ↔ wire = Int64.maxValue) ∧
    (decodeWireTime wire = some minTime ↔ wire = Int64.minValue ∨
      wire.toInt = Int64.minValue.toInt + timeTToMicrosecondsOffset) ∧
    (encodeWireMicroseconds time = some Int64.maxValue ↔ time = maxTime ∨
      time.toInt + timeTToMicrosecondsOffset = Int64.maxValue.toInt) ∧
    (encodeWireMicroseconds time = some Int64.minValue ↔ time = minTime) :=
  ⟨decodeWireTime_isSome_iff wire, wireExact_iff wire, encodeWireMicroseconds_isSome_iff time,
    onWire_iff time, decodeWireTime_eq_maxTime_iff wire, decodeWireTime_eq_minTime_iff wire,
    encodeWireMicroseconds_eq_maxValue_iff time, encodeWireMicroseconds_eq_minValue_iff time⟩

/-- The wire value next to the lower end overflows, and one an offset above it
comes back as `INT64_MIN`. The time before `kMaxTime` overflows, and one an offset
below it comes back as `kMaxTime`. -/
theorem wireTime_not_exact :
    decodeWireTime (Int64.minValue + 1) = none ∧
    (decodeWireTime (Int64.minValue + 11644473600000000)).bind encodeWireMicroseconds =
      some Int64.minValue ∧
    encodeWireMicroseconds (maxTime - 1) = none ∧
    (encodeWireMicroseconds (maxTime - 11644473600000000)).bind decodeWireTime =
      some maxTime := by
  decide

end ScadaCore.Scada

namespace ScadaCore.Base

def second : Int := 1000000000

end ScadaCore.Base
