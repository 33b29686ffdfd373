import ScadaCore.Data.Bytes
import ScadaCore.Scada.NodeIdOrder

/-!
# Scada.EventIdCodec — event ids as byte strings

An event id crosses the tiers as a `ByteString` of 8 bytes, the highest first, and is
resolved from it again. The layout is chosen for its order: byte strings are to be in the
order of the ids. But the bytes are `char`s, and where a `char` has a sign the bytes from
128 on are negative: two ids whose first different bytes lie on the two sides of 128 are
ordered the wrong way round.
-/

namespace ScadaCore.Scada

variable (eventId : UInt64)

def encodeEventIdByteString : List UInt8 :=
  (List.range 8).map fun i => ((eventId >>> UInt64.ofNat (8 * (7 - i))) &&& 0xff).toUInt8

def decodeEventIdByteString (bytes : List UInt8) : Option UInt64 :=
  if bytes.length ≠ 8 then none
  else some (bytes.foldl (fun eventId byte => (eventId <<< 8) ||| byte.toUInt64) 0)

/-! ## Big-endian words -/

theorem encodeEventIdByteString_eq :
    encodeEventIdByteString eventId = BigEndian.encode 8 eventId.toNat := by
  apply List.map_congr_left
  intro i hi
  have hlt : i < 8 := List.mem_range.mp hi
  have hshift : (UInt64.ofNat (8 * (7 - i))).toNat % 64 = 8 * (7 - i) := by
    rw [UInt64.toNat_ofNat']
    omega
  have hpow : 2 ^ (8 * (7 - i)) = 256 ^ (8 - 1 - i) := by rw [Nat.pow_mul]
  have hbyte := Nat.and_two_pow_sub_one_eq_mod (eventId.toNat / 256 ^ (8 - 1 - i)) 8
  apply UInt8.toNat_inj.mp
  rw [UInt64.toNat_toUInt8, UInt64.toNat_and, UInt64.toNat_shiftRight, hshift,
    Nat.shiftRight_eq_div_pow, hpow, UInt8.toNat_ofNat']
  exact (congrArg (· % 2 ^ 8) hbyte).trans (Nat.mod_mod _ _)

theorem shiftLeft_or_toNat (byte : UInt8) :
    ((eventId <<< 8) ||| byte.toUInt64).toNat = (eventId.toNat * 256 + byte.toNat) % 2 ^ 64 := by
  have hlow : byte.toNat < 2 ^ 8 := byte.toNat_lt
  have hhigh : (eventId <<< 8).toNat = 2 ^ 8 * (eventId.toNat % 2 ^ 56) := by
    rw [UInt64.toNat_shiftLeft, Nat.shiftLeft_eq]
    show eventId.toNat * 2 ^ 8 % 2 ^ 64 = _
    omega
  rw [UInt64.toNat_or, UInt8.toNat_toUInt64, hhigh, ← Nat.two_pow_add_eq_or_of_lt hlow]
  omega

theorem foldl_toNat (bytes : List UInt8) :
    (bytes.foldl (fun (eventId : UInt64) byte => (eventId <<< 8) ||| byte.toUInt64) 0).toNat =
      BigEndian.decode bytes % 2 ^ 64 := by
  induction bytes using List.reverseRecOn with
  | nil => rfl
  | append_singleton bytes byte ih =>
    rw [List.foldl_concat, shiftLeft_or_toNat, ih, BigEndian.decode_concat]
    omega

theorem decodeEventIdByteString_eq {bytes : List UInt8} (hlength : bytes.length = 8) :
    decodeEventIdByteString bytes = some (UInt64.ofNat (BigEndian.decode bytes)) := by
  rw [decodeEventIdByteString, if_neg (not_not_intro hlength), Option.some_inj]
  apply UInt64.toNat_inj.mp
  rw [foldl_toNat, UInt64.toNat_ofNat']

@[simp] theorem length_encodeEventIdByteString : (encodeEventIdByteString eventId).length = 8 := by
  rw [encodeEventIdByteString_eq, BigEndian.length_encode]

theorem decode_encodeEventIdByteString :
    BigEndian.decode (encodeEventIdByteString eventId) = eventId.toNat := by
  have hlt : eventId.toNat < 256 ^ 8 := eventId.toNat_lt
  rw [encodeEventIdByteString_eq, BigEndian.decode_encode, Nat.mod_eq_of_lt hlt]

/-! ## Round trips and order -/

theorem decode_encode_eventId :
    decodeEventIdByteString (encodeEventIdByteString eventId) = some eventId := by
  rw [decodeEventIdByteString_eq (length_encodeEventIdByteString eventId),
    decode_encodeEventIdByteString, UInt64.ofNat_toNat]

theorem existsUnique_encodeEventIdByteString {bytes : List UInt8} (hlength : bytes.length = 8) :
    ∃! eventId, encodeEventIdByteString eventId = bytes := by
  refine ⟨UInt64.ofNat (BigEndian.decode bytes), ?_, ?_⟩
  · have hlt : BigEndian.decode bytes < 2 ^ 64 := by
      have hlt := BigEndian.decode_lt bytes
      rw [hlength] at hlt
      exact hlt
    show encodeEventIdByteString _ = bytes
    rw [encodeEventIdByteString_eq, UInt64.toNat_ofNat', Nat.mod_eq_of_lt hlt, ← hlength]
    exact BigEndian.encode_decode bytes
  · rintro eventId rfl
    rw [decode_encodeEventIdByteString, UInt64.ofNat_toNat]

theorem eventId_lt_iff (a b : UInt64) :
    a < b ↔ ∃ d ∈ firstDifference (encodeEventIdByteString a) (encodeEventIdByteString b),
      d.1 < d.2 := by
  rw [← BigEndian.decode_lt_iff (by simp), decode_encodeEventIdByteString,
    decode_encodeEventIdByteString]
  exact UInt64.lt_iff_toNat_lt

theorem compareByteString_lt_iff (signedChar : Bool) (a b : UInt64) :
    compareByteString signedChar (encodeEventIdByteString a) (encodeEventIdByteString b) = .lt ↔
      ∃ d ∈ firstDifference (encodeEventIdByteString a) (encodeEventIdByteString b),
        compareChar signedChar d.1 d.2 = .lt :=
  compareLex_eq_lt_iff (compareChar signedChar) (by simp)

theorem toInt_toInt8 (byte : UInt8) :
    byte.toInt8.toInt = if byte.toNat < 128 then (byte.toNat : Int) else byte.toNat - 256 := by
  show byte.toBitVec.toInt = _
  rw [BitVec.toInt_eq_toNat_cond, UInt8.toNat_toBitVec]
  split_ifs <;> omega

/-- The sign turns the order of two bytes around, unless they have the same. -/
theorem compareChar_signed_iff {x y : UInt8} (hne : x ≠ y) :
    (x < y ↔ compareChar true x y = .lt) ↔ (x < 128 ↔ y < 128) := by
  have hsigned : compareChar true x y = .lt ↔ x.toInt8.toInt < y.toInt8.toInt := by
    show compare x.toInt8 y.toInt8 = .lt ↔ _
    rw [Std.compare_eq_lt, Int8.lt_iff_toInt_lt]
  have hx : x.toNat < 256 := x.toNat_lt
  have hy : y.toNat < 256 := y.toNat_lt
  have hnat : x.toNat ≠ y.toNat := fun h => hne (UInt8.toNat_inj.mp h)
  have hhalf : (128 : UInt8).toNat = 128 := rfl
  rw [hsigned, toInt_toInt8, toInt_toInt8]
  simp only [UInt8.lt_iff_toNat_lt, hhalf]
  split_ifs <;> omega

/-- The first of the eight bytes, from the most significant one, in which two ids
differ, if any, have the same sign. -/
abbrev SameSign (a b : UInt64) : Prop :=
  ∀ d ∈ firstDifference (BigEndian.encode 8 a.toNat) (BigEndian.encode 8 b.toNat),
    (d.1 < 128 ↔ d.2 < 128)

/-- **Event ids as byte strings.** Every id is resolved from its byte string, and every
string of 8 bytes is that of one id. The byte strings are ordered as the ids exactly if
the first bytes in which they differ have the same sign. -/
theorem eventIdByteString_order_iff (a b : UInt64) :
    decodeEventIdByteString (encodeEventIdByteString a) = some a ∧
    (∀ bytes : List UInt8, bytes.length = 8 →
      ∃! eventId, encodeEventIdByteString eventId = bytes) ∧
    (∀ bytes : List UInt8, bytes.length ≠ 8 → decodeEventIdByteString bytes = none) ∧
    ((a < b ↔
      compareByteString true (encodeEventIdByteString a) (encodeEventIdByteString b) = .lt) ↔
        SameSign a b) := by
  refine ⟨decode_encode_eventId a, fun _ => existsUnique_encodeEventIdByteString, ?_, ?_⟩
  · intro bytes hlength
    exact if_pos hlength
  · rw [eventId_lt_iff, compareByteString_lt_iff, SameSign, ← encodeEventIdByteString_eq,
      ← encodeEventIdByteString_eq]
    cases hfirst : firstDifference (encodeEventIdByteString a) (encodeEventIdByteString b) with
    | none => simp
    | some d =>
      have hne : d.1 ≠ d.2 := ne_of_mem_firstDifference hfirst
      simpa using compareChar_signed_iff hne

/-- The id `128` comes before the id `127`. -/
theorem eventIdByteString_order_reversed :
    let a : UInt64 := 127
    let b : UInt64 := 128
    a < b ∧ ¬ SameSign a b ∧
    compareByteString true (encodeEventIdByteString b) (encodeEventIdByteString a) = .lt ∧
    ¬ (a < b ↔
      compareByteString true (encodeEventIdByteString a) (encodeEventIdByteString b) = .lt) := by
  refine ⟨by decide, ?_, by decide, by decide⟩
  intro h
  exact absurd (h (127, 128) (by decide)) (by decide)

end ScadaCore.Scada
