import ScadaCore.Data.Bytes
import Mathlib.Data.Vector.Basic

/-!
# Metrics.TraceParent — the header of a trace context

A `W3CTraceParent` as the text `00-<trace id>-<span id>-<flags>`, in lowercase hexadecimal.
Parsing takes every position into account: a header that is accepted is the text of the value
it gives (`decodeHex_spec` for one field). A read beyond the end of a text is `none`, beside
the result of the function, which is optional itself.
-/

namespace ScadaCore.Metrics

def ascii (text : String) : List UInt8 := text.toList.map Char.toUInt8

def kTraceParentLength : Nat := 2 + 1 + 32 + 1 + 16 + 1 + 2

def kHexDigits : List UInt8 := ascii "0123456789abcdef"

def hexValue (c : UInt8) : Option UInt8 :=
  if '0'.toUInt8 ≤ c && c ≤ '9'.toUInt8 then some (c - '0'.toUInt8)
  else if 'a'.toUInt8 ≤ c && c ≤ 'f'.toUInt8 then some (c - 'a'.toUInt8 + 10)
  else none

/-- `DecodeHex`, over what is left of `text`. -/
def decodeHex : (n : Nat) → List UInt8 → Option (Option (List.Vector UInt8 n))
  | 0, _ => some (some .nil)
  | n + 1, high :: low :: text =>
    match hexValue high, hexValue low with
    | some high, some low => (decodeHex n text).map (·.map (.cons (high <<< 4 ||| low)))
    | _, _ => some none
  | _ + 1, _ => none

def encodeByte (byte : UInt8) : List UInt8 :=
  [kHexDigits.getD (byte >>> 4).toNat 0, kHexDigits.getD (byte &&& 0x0f).toNat 0]

def encodeHex (bytes : List UInt8) : List UInt8 := bytes.flatMap encodeByte

@[simp] theorem length_encodeHex (bytes : List UInt8) :
    (encodeHex bytes).length = 2 * bytes.length := by
  induction bytes with
  | nil => rfl
  | cons byte bytes ih =>
    rw [encodeHex, List.flatMap_cons, List.length_append, ← encodeHex, ih, List.length_cons]
    exact Nat.add_comm 2 _

def allZero (bytes : List UInt8) : Bool := bytes.all (· == 0)

structure W3CTraceParent where
  traceId : List.Vector UInt8 16
  spanId : List.Vector UInt8 8
  flags : UInt8

def substr (value : List UInt8) (pos count : Nat) : List UInt8 := (value.drop pos).take count

/-- `ParseTraceParent` from the texts of the three fields on. -/
def parseFields (traceId spanId flags : List UInt8) : Option (Option W3CTraceParent) := do
  let some traceId ← decodeHex 16 traceId | return none
  let some spanId ← decodeHex 8 spanId | return none
  let some flags ← decodeHex 1 flags | return none
  if allZero traceId.toList || allZero spanId.toList then return none
  return some { traceId, spanId, flags := flags.head }

def parseTraceParent (value : List UInt8) : Option (Option W3CTraceParent) :=
  if value.length ≠ kTraceParentLength then some none
  else do
    if (← value[0]?) ≠ '0'.toUInt8 ∨ (← value[1]?) ≠ '0'.toUInt8 then return none
    if (← value[2]?) ≠ '-'.toUInt8 ∨ (← value[35]?) ≠ '-'.toUInt8 ∨
        (← value[52]?) ≠ '-'.toUInt8 then return none
    parseFields (substr value 3 32) (substr value 36 16) (substr value 53 2)

def formatTraceParent (traceParent : W3CTraceParent) : List UInt8 :=
  ascii "00-" ++ encodeHex traceParent.traceId.toList ++ ascii "-" ++
    encodeHex traceParent.spanId.toList ++ ascii "-" ++ encodeHex [traceParent.flags]

/-! ## One field -/

def IsLowerHex (c : UInt8) : Prop := c ∈ kHexDigits

theorem hexValue_eq_some_iff (c : UInt8) : (hexValue c).isSome = true ↔ IsLowerHex c := by
  revert c
  unfold IsLowerHex
  apply Bytes.forall_of_fin
  decide +kernel

theorem decode_encodeByte (byte : UInt8) :
    (encodeByte byte).map hexValue = [some (byte >>> 4), some (byte &&& 0x0f)] ∧
      (byte >>> 4 <<< 4) ||| (byte &&& 0x0f) = byte := by
  revert byte
  apply Bytes.forall_of_fin
  decide +kernel

theorem encodeByte_of_hexValue {high low h l : UInt8} (hhigh : hexValue high = some h)
    (hlow : hexValue low = some l) : encodeByte (h <<< 4 ||| l) = [high, low] := by
  have hmem : high ∈ kHexDigits ∧ low ∈ kHexDigits := by
    constructor
    · exact (hexValue_eq_some_iff high).mp (by rw [hhigh]; rfl)
    · exact (hexValue_eq_some_iff low).mp (by rw [hlow]; rfl)
  have hall : ∀ x ∈ kHexDigits, ∀ y ∈ kHexDigits,
      encodeByte ((hexValue x).getD 0 <<< 4 ||| (hexValue y).getD 0) = [x, y] := by
    decide +kernel
  simpa [hhigh, hlow] using hall high hmem.1 low hmem.2

theorem allZero_iff (bytes : List UInt8) :
    allZero bytes = true ↔ ∀ c ∈ encodeHex bytes, c = '0'.toUInt8 := by
  have hbyte : ∀ byte : UInt8, byte = 0 ↔ ∀ c ∈ encodeByte byte, c = '0'.toUInt8 := by
    apply Bytes.forall_of_fin
    decide +kernel
  simp only [allZero, List.all_eq_true, beq_iff_eq, encodeHex, List.forall_mem_flatMap]
  exact forall₂_congr fun byte _ => hbyte byte

theorem decodeHex_encodeHex {n : Nat} (bytes : List.Vector UInt8 n) :
    decodeHex n (encodeHex bytes.toList) = some (some bytes) := by
  induction bytes with
  | nil => rfl
  | cons ih =>
    next byte bytes =>
    obtain ⟨hvalues, hbyte⟩ := decode_encodeByte byte
    simp only [encodeByte, List.map_cons, List.map_nil, List.cons.injEq, and_true] at hvalues
    simp only [List.Vector.toList_cons, encodeHex, List.flatMap_cons, encodeByte, List.cons_append,
      List.nil_append, decodeHex, hvalues.1, hvalues.2, hbyte]
    rw [← encodeHex, ih]
    rfl

/-- A field of the right length is decoded if it is hexadecimal, to the bytes it stands
for. -/
theorem decodeHex_spec {n : Nat} {text : List UInt8} (hlength : text.length = 2 * n) :
    ∃ result, decodeHex n text = some result ∧
      (result.isSome = true ↔ ∀ c ∈ text, IsLowerHex c) ∧
      ∀ bytes, result = some bytes → encodeHex bytes.toList = text := by
  induction n generalizing text with
  | zero =>
    obtain rfl : text = [] := by simpa using hlength
    exact ⟨some .nil, rfl, by simp, by rintro bytes ⟨⟩; rfl⟩
  | succ n ih =>
    obtain ⟨high, low, text, rfl⟩ : ∃ high low rest, text = high :: low :: rest := by
      rcases text with _ | ⟨high, _ | ⟨low, text⟩⟩
      · cases hlength
      · simp at hlength
        omega
      · exact ⟨high, low, text, rfl⟩
    have hrest : text.length = 2 * n := by simpa [Nat.mul_add] using hlength
    obtain ⟨result, hdecode, hsome, hbytes⟩ := ih hrest
    have hdigits := fun c => hexValue_eq_some_iff c
    cases hhigh : hexValue high with
    | none =>
      refine ⟨none, by simp [decodeHex, hhigh], ?_, by simp⟩
      simp [← hdigits, hhigh]
    | some h =>
      cases hlow : hexValue low with
      | none =>
        refine ⟨none, by simp [decodeHex, hlow], ?_, by simp⟩
        simp [← hdigits, hlow]
      | some l =>
        refine ⟨result.map (.cons (h <<< 4 ||| l)), by simp [decodeHex, hhigh, hlow, hdecode],
          ?_, ?_⟩
        · simpa [← hdigits, hhigh, hlow] using hsome
        · intro bytes heq
          obtain ⟨tail, htail, rfl⟩ := Option.map_eq_some_iff.mp heq
          simp only [List.Vector.toList_cons, encodeHex, List.flatMap_cons,
            encodeByte_of_hexValue hhigh hlow]
          exact congrArg ([high, low] ++ ·) (hbytes tail htail)

/-! ## The whole header -/

def header (traceId spanId flags : List UInt8) : List UInt8 :=
  ascii "00-" ++ traceId ++ ascii "-" ++ spanId ++ ascii "-" ++ flags

/-- The fields of a valid header: as long as they have to be, in lowercase hexadecimal, and
with ids that are not zero. -/
structure Valid (traceId spanId flags : List UInt8) : Prop where
  traceId_length : traceId.length = 32
  spanId_length : spanId.length = 16
  flags_length : flags.length = 2
  hex : (∀ c ∈ traceId, IsLowerHex c) ∧ (∀ c ∈ spanId, IsLowerHex c) ∧ ∀ c ∈ flags, IsLowerHex c
  nonzero : (¬ ∀ c ∈ traceId, c = '0'.toUInt8) ∧ ¬ ∀ c ∈ spanId, c = '0'.toUInt8

/-- The bytes that `ParseTraceParent` looks at one by one, and the fields between them. -/
theorem parse_eq {x y z p q : UInt8} {a b c : List UInt8} (ha : a.length = 32)
    (hb : b.length = 16) (hc : c.length = 2) :
    parseTraceParent (x :: y :: z :: (a ++ p :: (b ++ q :: c))) =
      if [x, y, z, p, q] = ascii "00---" then parseFields a b c else some none := by
  have hlength : (x :: y :: z :: (a ++ p :: (b ++ q :: c))).length = kTraceParentLength := by
    simp [ha, hb, hc, kTraceParentLength]
  unfold parseTraceParent
  rw [if_neg (not_not_intro hlength)]
  have hdrop : a.drop 33 = [] ∧ a.drop 50 = [] ∧ b.drop 17 = [] ∧ c.take 2 = c := by
    refine ⟨?_, ?_, ?_, List.take_of_length_le hc.le⟩ <;> exact List.drop_eq_nil_of_le (by omega)
  have hmarks : [x, y, z, p, q] = ascii "00---" ↔
      (x = '0'.toUInt8 ∧ y = '0'.toUInt8) ∧ z = '-'.toUInt8 ∧ p = '-'.toUInt8 ∧
        q = '-'.toUInt8 := by
    simp [ascii, and_assoc]
  have hlast : (a ++ p :: (b ++ q :: c))[49]? = some q := by
    simp [List.getElem?_append, ha, hb]
  simp only [hmarks]
  simp [substr, List.drop_append, ha, hb, hdrop, hlast]
  split_ifs <;> first | rfl | tauto

theorem header_eq (a b c : List UInt8) :
    header a b c = '0'.toUInt8 :: '0'.toUInt8 :: '-'.toUInt8 ::
      (a ++ '-'.toUInt8 :: (b ++ '-'.toUInt8 :: c)) := by
  simp [header, ascii]

theorem parse_header {a b c : List UInt8} (ha : a.length = 32) (hb : b.length = 16)
    (hc : c.length = 2) : parseTraceParent (header a b c) = parseFields a b c := by
  rw [header_eq, parse_eq ha hb hc, if_pos (by decide)]

/-- A header tells its fields, if these are of one length. -/
theorem eq_header_iff {x y z p q : UInt8} {a b c a' b' c' : List UInt8}
    (ha : a.length = a'.length) (hb : b.length = b'.length) :
    x :: y :: z :: (a ++ p :: (b ++ q :: c)) = header a' b' c' ↔
      [x, y, z, p, q] = ascii "00---" ∧ a = a' ∧ b = b' ∧ c = c' := by
  rw [header_eq]
  constructor
  · intro h
    obtain ⟨rfl, rfl, rfl, htail⟩ : x = _ ∧ y = _ ∧ z = _ ∧ _ = _ := by simpa using h
    obtain ⟨rfl, hrest⟩ := List.append_inj htail ha
    obtain ⟨rfl, hspan⟩ : p = _ ∧ _ = _ := by simpa using hrest
    obtain ⟨rfl, hflags⟩ := List.append_inj hspan hb
    obtain ⟨rfl, rfl⟩ : q = _ ∧ _ = _ := by simpa using hflags
    exact ⟨by decide, rfl, rfl, rfl⟩
  · rintro ⟨hmarks, rfl, rfl, rfl⟩
    simp only [ascii] at hmarks
    simp_all

theorem exists_split {v : List UInt8} {m n : Nat} (hlength : v.length = m + 1 + n) :
    ∃ a p b, v = a ++ p :: b ∧ a.length = m ∧ b.length = n := by
  have hlt : m < v.length := by omega
  refine ⟨v.take m, v[m], v.drop (m + 1), ?_, ?_, ?_⟩
  · rw [List.getElem_cons_drop, List.take_append_drop]
  · rw [List.length_take]
    omega
  · rw [List.length_drop]
    omega

theorem parseFields_spec {a b c : List UInt8} (ha : a.length = 32) (hb : b.length = 16)
    (hc : c.length = 2) :
    ∃ result, parseFields a b c = some result ∧ (result.isSome = true ↔ Valid a b c) ∧
      ∀ p, result = some p → formatTraceParent p = header a b c := by
  obtain ⟨traceId, htrace, htraceHex, htraceText⟩ := decodeHex_spec (n := 16) ha
  obtain ⟨spanId, hspan, hspanHex, hspanText⟩ := decodeHex_spec (n := 8) hb
  obtain ⟨flags, hflags, hflagsHex, hflagsText⟩ := decodeHex_spec (n := 1) hc
  -- a field that cannot be decoded is not hexadecimal
  have hrefused : (traceId.isSome = false ∨ spanId.isSome = false ∨ flags.isSome = false) →
      ¬ Valid a b c := by
    rintro hnone ⟨-, -, -, ⟨hhex₁, hhex₂, hhex₃⟩, -⟩
    simp [htraceHex.mpr hhex₁, hspanHex.mpr hhex₂, hflagsHex.mpr hhex₃] at hnone
  unfold parseFields
  rw [htrace, hspan, hflags]
  rcases traceId with _ | traceId
  · exact ⟨none, rfl, by simp [hrefused], by simp⟩
  rcases spanId with _ | spanId
  · exact ⟨none, rfl, by simp [hrefused], by simp⟩
  rcases flags with _ | flags
  · exact ⟨none, rfl, by simp [hrefused], by simp⟩
  have hzero : (allZero traceId.toList || allZero spanId.toList) = true ↔
      ¬ ((¬ ∀ c ∈ a, c = '0'.toUInt8) ∧ ¬ ∀ c ∈ b, c = '0'.toUInt8) := by
    rw [Bool.or_eq_true, allZero_iff, allZero_iff, htraceText _ rfl, hspanText _ rfl]
    tauto
  by_cases hids : (allZero traceId.toList || allZero spanId.toList) = true
  · refine ⟨none, if_pos hids, ?_, by simp⟩
    exact iff_of_false (by simp) fun h => hzero.mp hids h.nonzero
  · refine ⟨some { traceId, spanId, flags := flags.head }, if_neg hids, ?_, ?_⟩
    · refine iff_of_true rfl ⟨ha, hb, hc, ⟨htraceHex.mp rfl, hspanHex.mp rfl, hflagsHex.mp rfl⟩, ?_⟩
      exact not_not.mp (mt hzero.mpr hids)
    · rintro p ⟨⟩
      rw [formatTraceParent, htraceText _ rfl, hspanText _ rfl, ← List.Vector.toList_singleton,
        hflagsText _ rfl, header]

/-- **The codec of trace contexts.** What is formatted is parsed again; a text is accepted
exactly if it is a valid header, and then it is the text of what it is parsed to. No text makes
the parser read outside it: the outer result is always there. -/
theorem traceParent_codec :
    (∀ p : W3CTraceParent, allZero p.traceId.toList = false → allZero p.spanId.toList = false →
      parseTraceParent (formatTraceParent p) = some (some p)) ∧
    ∀ v : List UInt8, ∃ result, parseTraceParent v = some result ∧
      (result.isSome = true ↔ ∃ traceId spanId flags, v = header traceId spanId flags ∧
        Valid traceId spanId flags) ∧
      ∀ p, result = some p → formatTraceParent p = v := by
  constructor
  · intro p htrace hspan
    have hflags : decodeHex 1 (encodeHex [p.flags]) = some (some (p.flags ::ᵥ .nil)) :=
      decodeHex_encodeHex (p.flags ::ᵥ .nil)
    rw [formatTraceParent, ← header, parse_header (by simp) (by simp) rfl, parseFields,
      decodeHex_encodeHex, decodeHex_encodeHex, hflags]
    exact if_neg (by simp [htrace, hspan])
  · intro v
    by_cases hlength : v.length = kTraceParentLength
    · obtain ⟨w, z, v', rfl, hw, hv'⟩ := exists_split (m := 2) (n := 52) hlength
      obtain ⟨x, y, rfl⟩ := List.length_eq_two.mp hw
      obtain ⟨a, p, v'', rfl, ha, hv''⟩ := exists_split (m := 32) (n := 19) hv'
      obtain ⟨b, q, c, rfl, hb, hc⟩ := exists_split (m := 16) (n := 2) hv''
      obtain ⟨result, hfields, hsome, htext⟩ := parseFields_spec ha hb hc
      have hparse : parseTraceParent ([x, y] ++ z :: (a ++ p :: (b ++ q :: c))) = _ :=
        parse_eq ha hb hc
      have hheader : (∃ a' b' c', [x, y] ++ z :: (a ++ p :: (b ++ q :: c)) = header a' b' c' ∧
          Valid a' b' c') ↔ [x, y, z, p, q] = ascii "00---" ∧ Valid a b c := by
        constructor
        · rintro ⟨a', b', c', heq, hvalid⟩
          obtain ⟨hmarks, rfl, rfl, rfl⟩ := (eq_header_iff (ha.trans hvalid.traceId_length.symm)
            (hb.trans hvalid.spanId_length.symm)).mp heq
          exact ⟨hmarks, hvalid⟩
        · rintro ⟨hmarks, hvalid⟩
          exact ⟨a, b, c, (eq_header_iff rfl rfl).mpr ⟨hmarks, rfl, rfl, rfl⟩, hvalid⟩
      rw [hheader, hparse]
      by_cases hmarks : [x, y, z, p, q] = ascii "00---"
      · refine ⟨result, by rw [if_pos hmarks, hfields], by simp [hsome, hmarks], ?_⟩
        intro p hp
        rw [htext p hp]
        exact ((eq_header_iff rfl rfl).mpr ⟨hmarks, rfl, rfl, rfl⟩).symm
      · exact ⟨none, if_neg hmarks, by simp [hmarks], by simp⟩
    · refine ⟨none, if_pos hlength, ?_, by simp⟩
      refine iff_of_false (by simp) ?_
      rintro ⟨a, b, c, rfl, hvalid⟩
      apply hlength
      simp [header, ascii, kTraceParentLength, hvalid.traceId_length, hvalid.spanId_length,
        hvalid.flags_length]

end ScadaCore.Metrics
