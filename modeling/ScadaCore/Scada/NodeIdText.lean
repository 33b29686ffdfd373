import ScadaCore.Data.Numeral
import ScadaCore.Scada.Types

/-!
# Scada.NodeIdText — node ids as text

`NodeId::ToString` writes the namespace, unless it is 0, and then the identifier with a
letter for its kind. `NodeId::FromString` reads the namespace up to the first `;` and
takes the rest for the identifier. Nothing is escaped, and nothing has to be: the digits
of a namespace hold no `;`, and a string is what stands behind its own `s=`
(`fromString_toString_and_injective`). An opaque identifier is written and never read: it
comes back as a string.

What `boost` does for the two functions is a parameter, `TextLibrary`: base64 and the test
for the letters at the start of a text. Of base64 it is assumed that it tells any two lists
of bytes apart, of the test that it does what it is documented to do (`IgnoresCase`).

The namespace is read as a number of 32 bits and then cut down to 16.
-/

namespace ScadaCore.Scada

open Numeral

/-! ## What is taken from the libraries -/

class TextLibrary where
  /-- `boost::istarts_with`, the text first and then what it has to start with. -/
  istartsWith : List Char → List Char → Bool
  /-- `boost::beast::detail::base64::encode`. -/
  base64Encode : List UInt8 → List Char

/-- The text starts with the test, but for the case of the letters. -/
def TextLibrary.IgnoresCase (library : TextLibrary) : Prop :=
  ∀ str test, library.istartsWith str test = true ↔
    ∃ lead rest, str = lead ++ rest ∧ lead.map Char.toLower = test.map Char.toLower

variable {c d : Char} {k m rest str string test : List Char}

theorem istartsWith_append {library : TextLibrary} (hcase : library.IgnoresCase)
    (test rest : List Char) : library.istartsWith (test ++ rest) test = true :=
  (hcase _ _).mpr ⟨test, rest, rfl, rfl⟩

theorem istartsWith_cons_ne {library : TextLibrary} (hcase : library.IgnoresCase)
    (hne : c.toLower ≠ d.toLower) : library.istartsWith (c :: str) (d :: test) = false := by
  rw [Bool.eq_false_iff]
  intro hstarts
  obtain ⟨lead, rest, hstr, hlead⟩ := (hcase _ _).mp hstarts
  cases lead with
  | nil => cases hlead
  | cons first lead =>
    rw [List.cons_append, List.cons.injEq] at hstr
    rw [List.map_cons, List.map_cons, List.cons.injEq, ← hstr.1] at hlead
    exact hne hlead.1

/-- The letters compared one by one, and bytes written as the characters of their
numbers. -/
abbrev plainText : TextLibrary where
  istartsWith str test := (str.take test.length).map Char.toLower == test.map Char.toLower
  base64Encode bytes := bytes.map fun byte => Char.ofNat byte.toNat

theorem plainText_ignoresCase : plainText.IgnoresCase := by
  intro str test
  refine beq_iff_eq.trans ?_
  constructor
  · intro hlead
    exact ⟨str.take test.length, str.drop test.length, (List.take_append_drop _ _).symm, hlead⟩
  · rintro ⟨lead, rest, rfl, hlead⟩
    have hlength : lead.length = test.length := by simpa using congrArg List.length hlead
    rw [← hlength, List.take_left, hlead]

theorem plainText_base64Encode_injective : Function.Injective plainText.base64Encode := by
  refine List.map_injective_iff.mpr fun a b h => ?_
  have hnumber : ∀ n < 256, (Char.ofNat n).toNat = n := by decide +kernel
  rw [← UInt8.toNat_inj, ← hnumber a.toNat a.toNat_lt, ← hnumber b.toNat b.toNat_lt]
  exact congrArg Char.toNat h

/-! ## Numbers -/

/-- `std::from_chars` for an unsigned integer of 32 bits: the integer, and the text
behind it. -/
def fromChars (str : List Char) : Option (UInt32 × List Char) :=
  let digits := str.takeWhile Char.isDigit
  if digits.isEmpty then none
  else if 2 ^ 32 ≤ value digits then none
  else some (UInt32.ofNat (value digits), str.dropWhile Char.isDigit)

def parseUInt32 (str : List Char) : Option UInt32 :=
  match fromChars str with
  | some (value, []) => some value
  | _ => none

theorem parseUInt32_of_decimal (h : Decimal k) :
    parseUInt32 k = if value k < 2 ^ 32 then some (UInt32.ofNat (value k)) else none := by
  have hne : ¬ k.isEmpty = true := by simpa using h.1
  simp only [parseUInt32, fromChars, h.takeWhile_isDigit, h.dropWhile_isDigit, if_neg hne]
  by_cases hlt : value k < 2 ^ 32
  · rw [if_neg (Nat.not_le.mpr hlt), if_pos hlt]
  · rw [if_pos (Nat.not_lt.mp hlt), if_neg hlt]

theorem parseUInt32_toDigits {n : Nat} (h : n < 2 ^ 32) :
    parseUInt32 (Nat.toDigits 10 n) = some (UInt32.ofNat n) := by
  rw [parseUInt32_of_decimal (decimal_toDigits n), value_toDigits, if_pos h]

theorem toUInt16_ofNat (n : Nat) : (UInt32.ofNat n).toUInt16 = UInt16.ofNat n := by
  rw [← UInt16.toNat_inj, UInt32.toNat_toUInt16, UInt32.toNat_ofNat', UInt16.toNat_ofNat']
  omega

variable (namespaceIndex : UInt16)

section Library

variable [library : TextLibrary]

/-! ## Writing -/

def Identifier.toText : Identifier → List Char
  | .numeric id => ['i', '='] ++ Nat.toDigits 10 id.toNat
  | .string id => ['s', '='] ++ id.toList
  | .opaqueId id => ['b', '='] ++ library.base64Encode id

def namespaceText : List Char :=
  if namespaceIndex ≠ 0 then ['n', 's', '='] ++ Nat.toDigits 10 namespaceIndex.toNat ++ [';']
  else []

def NodeId.toString (n : NodeId) : List Char :=
  namespaceText n.namespaceIndex ++ n.identifier.toText

/-! ## Reading -/

/-- The namespace, and the text behind it; `none` if the text is rejected. -/
def readNamespace (str : List Char) : Option (UInt16 × List Char) :=
  if library.istartsWith str ['n', 's', '='] then
    if ';' ∈ str then
      (parseUInt32 ((str.takeWhile (· != ';')).drop 3)).map fun id =>
        (id.toUInt16, (str.dropWhile (· != ';')).drop 1)
    else none
  else some (0, str)

def readIdentifier (str : List Char) : NodeId :=
  if library.istartsWith str ['i', '='] then
    match parseUInt32 (str.drop 2) with
    | none => {}
    | some numericId => { identifier := .numeric numericId, namespaceIndex }
  else if library.istartsWith str ['s', '='] then
    { identifier := .string (String.ofList (str.drop 2)), namespaceIndex }
  else { identifier := .string (String.ofList str), namespaceIndex }

def NodeId.fromString (string : List Char) : NodeId :=
  if string.isEmpty then {}
  else
    match readNamespace string with
    | none => {}
    | some (namespaceIndex, str) => readIdentifier namespaceIndex str

/-! ## Reading what was written -/

/-- A text that names a namespace. The digits do not hold a `;`. -/
theorem readNamespace_of_decimal (hcase : library.IgnoresCase) (h : Decimal k)
    (rest : List Char) :
    readNamespace (['n', 's', '='] ++ k ++ ';' :: rest) =
      (parseUInt32 k).map fun id => (id.toUInt16, rest) := by
  have hletters : ∀ c ∈ ['n', 's', '='], (c != ';') = true := by simp
  have hne : ∀ c ∈ ['n', 's', '='] ++ k, (c != ';') = true := by
    intro c hc
    rcases List.mem_append.mp hc with hletter | hdigit
    · exact hletters c hletter
    · exact h.ne (by decide) c hdigit
  have hstarts := istartsWith_append hcase ['n', 's', '='] (k ++ ';' :: rest)
  rw [← List.append_assoc] at hstarts
  rw [readNamespace, if_pos hstarts, if_pos (by simp), List.takeWhile_append_of_pos hne,
    List.dropWhile_append_of_pos hne]
  simp

/-- No kind of identifier is written with the letter of a namespace. -/
theorem istartsWith_toText (hcase : library.IgnoresCase) (identifier : Identifier) :
    library.istartsWith identifier.toText ['n', 's', '='] = false := by
  cases identifier with
  | numeric id => exact istartsWith_cons_ne hcase (by decide)
  | string id => exact istartsWith_cons_ne hcase (by decide)
  | opaqueId id => exact istartsWith_cons_ne hcase (by decide)

theorem readNamespace_toString (hcase : library.IgnoresCase) (n : NodeId) :
    readNamespace n.toString = some (n.namespaceIndex, n.identifier.toText) := by
  unfold NodeId.toString namespaceText
  by_cases hzero : n.namespaceIndex = 0
  · rw [if_neg (by simpa using hzero), hzero, List.nil_append, readNamespace,
      istartsWith_toText hcase, if_neg Bool.false_ne_true]
  · have hlt := n.namespaceIndex.toNat_lt
    rw [if_pos hzero, List.append_assoc, List.singleton_append,
      readNamespace_of_decimal hcase (decimal_toDigits _), parseUInt32_toDigits (by omega)]
    rw [Option.map_some, toUInt16_ofNat, UInt16.ofNat_toNat]

theorem fromString_eq (h : string ≠ []) : NodeId.fromString string =
    match readNamespace string with
    | none => {}
    | some (namespaceIndex, str) => readIdentifier namespaceIndex str := by
  rw [NodeId.fromString, if_neg (by simpa using h)]

theorem toText_ne_nil (identifier : Identifier) : identifier.toText ≠ [] := by
  cases identifier <;> simp [Identifier.toText]

/-- The identifier is read with the namespace that was written. -/
theorem fromString_toString_eq (hcase : library.IgnoresCase) (n : NodeId) :
    NodeId.fromString n.toString = readIdentifier n.namespaceIndex n.identifier.toText := by
  rw [fromString_eq, readNamespace_toString hcase]
  exact List.append_ne_nil_of_right_ne_nil _ (toText_ne_nil _)

theorem readIdentifier_numeric (hcase : library.IgnoresCase) (namespaceIndex : UInt16)
    (m : List Char) :
    readIdentifier namespaceIndex (['i', '='] ++ m) =
      match parseUInt32 m with
      | none => {}
      | some numericId => { identifier := .numeric numericId, namespaceIndex } := by
  rw [readIdentifier, if_pos (istartsWith_append hcase ['i', '='] m)]
  rfl

theorem readIdentifier_string (hcase : library.IgnoresCase) (namespaceIndex : UInt16)
    (id : List Char) :
    readIdentifier namespaceIndex (['s', '='] ++ id) =
      { identifier := .string (String.ofList id), namespaceIndex } := by
  have hnumeric : library.istartsWith (['s', '='] ++ id) ['i', '='] = false :=
    istartsWith_cons_ne hcase (by decide)
  rw [readIdentifier, hnumeric, if_neg Bool.false_ne_true,
    if_pos (istartsWith_append hcase ['s', '='] id)]
  rfl

theorem fromString_toString (hcase : library.IgnoresCase) {n : NodeId}
    (h : ∀ id, n.identifier ≠ .opaqueId id) : NodeId.fromString n.toString = n := by
  rw [fromString_toString_eq hcase]
  rcases n with ⟨identifier, namespaceIndex⟩
  cases identifier with
  | numeric id =>
    rw [Identifier.toText, readIdentifier_numeric hcase, parseUInt32_toDigits id.toNat_lt]
    simp
  | string id => rw [Identifier.toText, readIdentifier_string hcase, String.ofList_toList]
  | opaqueId id => exact absurd rfl (h id)

theorem toText_injective (hbase64 : Function.Injective library.base64Encode) :
    Function.Injective Identifier.toText := by
  intro a b h
  cases a with
  | numeric id =>
    cases b with
    | numeric id' =>
      have hdigits := List.append_cancel_left h
      rw [UInt32.toNat_inj.mp (toDigits_injective hdigits)]
    | string id' => cases h
    | opaqueId id' => cases h
  | string id =>
    cases b with
    | numeric id' => cases h
    | string id' =>
      have hchars := List.append_cancel_left h
      rw [String.toList_inj.mp hchars]
    | opaqueId id' => cases h
  | opaqueId id =>
    cases b with
    | numeric id' => cases h
    | string id' => cases h
    | opaqueId id' =>
      have hencoded := List.append_cancel_left h
      rw [hbase64 hencoded]

theorem toString_injective (hcase : library.IgnoresCase)
    (hbase64 : Function.Injective library.base64Encode) :
    Function.Injective NodeId.toString := by
  intro a b h
  have hread := congrArg readNamespace h
  rw [readNamespace_toString hcase, readNamespace_toString hcase, Option.some.injEq,
    Prod.mk.injEq] at hread
  rcases a with ⟨identifier, namespaceIndex⟩
  rcases b with ⟨identifier', namespaceIndex'⟩
  rw [NodeId.mk.injEq]
  exact ⟨toText_injective hbase64 hread.2, hread.1⟩

/-- **The text of a node id.** Numeric and string identifiers are read as they were
written, and no two node ids are written the same. -/
theorem fromString_toString_and_injective (hcase : library.IgnoresCase)
    (hbase64 : Function.Injective library.base64Encode) (n : NodeId)
    (h : ∀ id, n.identifier ≠ .opaqueId id) :
    NodeId.fromString n.toString = n ∧ Function.Injective NodeId.toString :=
  ⟨fromString_toString hcase h, toString_injective hcase hbase64⟩

end Library

theorem fromString_toString_and_injective_prefixes :
    ∃ library : TextLibrary, library.IgnoresCase ∧ Function.Injective library.base64Encode ∧
      let n : NodeId := { identifier := .string "ns=2;i=", namespaceIndex := 7 }
      n.toString = "ns=7;s=ns=2;i=".toList ∧ NodeId.fromString n.toString = n := by
  refine ⟨plainText, plainText_ignoresCase, plainText_base64Encode_injective, by decide, ?_⟩
  exact (@fromString_toString_and_injective plainText plainText_ignoresCase
    plainText_base64Encode_injective _ (by intro id h; cases h)).1

/-! ## The namespace -/

def IsNumeric (n : NodeId) (namespaceIndex id : Nat) : Prop :=
  n.namespaceIndex.toNat = namespaceIndex ∧ ∃ numericId, n.identifier = .numeric numericId ∧
    numericId.toNat = id

theorem isNumeric_iff {namespaceIndex : UInt16} {k m : Nat} (hm : m < 2 ^ 32) :
    IsNumeric { identifier := .numeric (UInt32.ofNat m), namespaceIndex } k m ↔
      namespaceIndex.toNat = k := by
  simp only [IsNumeric, Identifier.numeric.injEq, exists_eq_left', UInt32.toNat_ofNat',
    Nat.mod_eq_of_lt hm, and_true]

section Library

variable [library : TextLibrary]

theorem fromString_of_namespace (hcase : library.IgnoresCase) (h : Decimal k)
    (rest : List Char) :
    NodeId.fromString (['n', 's', '='] ++ k ++ ';' :: rest) =
      if value k < 2 ^ 32 then readIdentifier (UInt16.ofNat (value k)) rest else {} := by
  rw [fromString_eq (by simp), readNamespace_of_decimal hcase h, parseUInt32_of_decimal h]
  split_ifs with hlt
  · rw [Option.map_some, toUInt16_ofNat]
  · rfl

/-- The identifier is one that is rejected, or the null one. -/
def ReadsNull (rest : List Char) : Prop :=
  library.istartsWith rest ['i', '='] = true ∧
    (parseUInt32 (rest.drop 2) = none ∨
      parseUInt32 (rest.drop 2) = some 0 ∧ namespaceIndex = 0)

theorem readIdentifier_eq_null_iff (rest : List Char) :
    readIdentifier namespaceIndex rest = {} ↔ ReadsNull namespaceIndex rest := by
  unfold readIdentifier ReadsNull
  split_ifs with hnumeric hstring
  · cases parseUInt32 (rest.drop 2) with
    | none => simp [hnumeric]
    | some numericId => simp [hnumeric]
  · simp [hnumeric]
  · simp [hnumeric]

theorem namespaceIndex_readIdentifier {namespaceIndex : UInt16}
    (h : ¬ ReadsNull namespaceIndex rest) :
    (readIdentifier namespaceIndex rest).namespaceIndex = namespaceIndex := by
  rw [← readIdentifier_eq_null_iff] at h
  revert h
  unfold readIdentifier
  split_ifs with hnumeric hstring
  · cases parseUInt32 (rest.drop 2) with
    | none => intro h; exact absurd rfl h
    | some numericId => intro _; rfl
  · intro _; rfl
  · intro _; rfl

theorem namespace_kept_iff (hcase : library.IgnoresCase) (h : Decimal k) (rest : List Char) :
    (NodeId.fromString (['n', 's', '='] ++ k ++ ';' :: rest) = {} ∨
      (NodeId.fromString (['n', 's', '='] ++ k ++ ';' :: rest)).namespaceIndex.toNat = value k) ↔
    (value k < 2 ^ 16 ∨ 2 ^ 32 ≤ value k ∨ ReadsNull (UInt16.ofNat (value k)) rest) := by
  rw [fromString_of_namespace hcase h]
  split_ifs with hlt
  · by_cases hnull : ReadsNull (UInt16.ofNat (value k)) rest
    · simp [hnull, readIdentifier_eq_null_iff]
    · rw [readIdentifier_eq_null_iff, namespaceIndex_readIdentifier hnull, UInt16.toNat_ofNat']
      simp only [hnull, false_or, or_false]
      omega
  · simp only [true_or, true_iff]
    omega

theorem readIdentifier_of_decimal (hcase : library.IgnoresCase) (namespaceIndex : UInt16)
    (h : Decimal m) :
    readIdentifier namespaceIndex (['i', '='] ++ m) =
      if value m < 2 ^ 32 then
        { identifier := .numeric (UInt32.ofNat (value m)), namespaceIndex }
      else {} := by
  rw [readIdentifier_numeric hcase, parseUInt32_of_decimal h]
  split_ifs <;> rfl

theorem numeric_kept_iff (hcase : library.IgnoresCase) (hk : Decimal k) (hm : Decimal m) :
    (NodeId.fromString (['n', 's', '='] ++ k ++ ';' :: (['i', '='] ++ m)) = {} ∨
      IsNumeric (NodeId.fromString (['n', 's', '='] ++ k ++ ';' :: (['i', '='] ++ m)))
        (value k) (value m)) ↔
    (value k < 2 ^ 16 ∨ 2 ^ 32 ≤ value k ∨ 2 ^ 32 ≤ value m ∨
      value m = 0 ∧ value k % 2 ^ 16 = 0) := by
  rw [fromString_of_namespace hcase hk]
  split_ifs with hlt
  · rw [readIdentifier_of_decimal hcase _ hm]
    split_ifs with hlt'
    · have hnull : ({ identifier := .numeric (UInt32.ofNat (value m))
                      namespaceIndex := UInt16.ofNat (value k) } : NodeId) = {} ↔
          value m = 0 ∧ value k % 2 ^ 16 = 0 := by
        rw [NodeId.mk.injEq, Identifier.numeric.injEq, ← UInt32.toNat_inj, ← UInt16.toNat_inj,
          UInt32.toNat_ofNat', UInt16.toNat_ofNat', Nat.mod_eq_of_lt hlt']
        rfl
      rw [hnull, isNumeric_iff hlt', UInt16.toNat_ofNat']
      omega
    · simp only [true_or, true_iff]
      omega
  · simp only [true_or, true_iff]
    omega

/-- **The node id that was written.** A node id with a namespace is in that namespace, and
a numeric one has the identifier that was written, unless the namespace is a number of
more than 16 and at most 32 bits. Without a namespace a numeric node id is always the
one that was written. -/
theorem fromString_namespace_iff (hcase : library.IgnoresCase) (k m rest : List Char)
    (hk : Decimal k) (hm : Decimal m) :
    ((NodeId.fromString (['n', 's', '='] ++ k ++ ';' :: rest) = {} ∨
        (NodeId.fromString (['n', 's', '='] ++ k ++ ';' :: rest)).namespaceIndex.toNat =
          value k) ↔
      (value k < 2 ^ 16 ∨ 2 ^ 32 ≤ value k ∨ ReadsNull (UInt16.ofNat (value k)) rest)) ∧
    ((NodeId.fromString (['n', 's', '='] ++ k ++ ';' :: (['i', '='] ++ m)) = {} ∨
        IsNumeric (NodeId.fromString (['n', 's', '='] ++ k ++ ';' :: (['i', '='] ++ m)))
          (value k) (value m)) ↔
      (value k < 2 ^ 16 ∨ 2 ^ 32 ≤ value k ∨ 2 ^ 32 ≤ value m ∨
        value m = 0 ∧ value k % 2 ^ 16 = 0)) ∧
    (NodeId.fromString (['i', '='] ++ m) = {} ∨
      IsNumeric (NodeId.fromString (['i', '='] ++ m)) 0 (value m)) := by
  refine ⟨namespace_kept_iff hcase hk rest, numeric_kept_iff hcase hk hm, ?_⟩
  have hread : NodeId.fromString (['i', '='] ++ m) = readIdentifier 0 (['i', '='] ++ m) := by
    have hnumeric : library.istartsWith (['i', '='] ++ m) ['n', 's', '='] = false :=
      istartsWith_cons_ne hcase (by decide)
    rw [fromString_eq (by simp), readNamespace, hnumeric, if_neg Bool.false_ne_true]
  rw [hread, readIdentifier_of_decimal hcase _ hm]
  split_ifs with hlt
  · right
    rw [isNumeric_iff hlt]
    rfl
  · exact .inl rfl

end Library

theorem fromString_namespace_iff_two :
    ∃ library : TextLibrary, library.IgnoresCase ∧
      (NodeId.fromString "ns=2;i=84".toList = {} ∨
        IsNumeric (NodeId.fromString "ns=2;i=84".toList) 2 84) := by
  refine ⟨plainText, plainText_ignoresCase, ?_⟩
  exact (@fromString_namespace_iff plainText plainText_ignoresCase ['2'] ['8', '4'] []
    (by decide) (by decide)).2.1.mpr (.inl (by decide))

/-- The number 65537 is taken for the namespace 1. -/
theorem fromString_other_namespace :
    value "65537".toList = 65537 ∧
      ∀ [library : TextLibrary], library.IgnoresCase →
        NodeId.fromString "ns=65537;i=84".toList =
          { identifier := .numeric 84, namespaceIndex := 1 } ∧
        NodeId.fromString "ns=65537;s=Root".toList =
          { identifier := .string "Root", namespaceIndex := 1 } := by
  refine ⟨by decide, ?_⟩
  intro library hcase
  have hnumber : Decimal "65537".toList := by decide
  have hnumeric := fromString_of_namespace hcase hnumber "i=84".toList
  have hstring := fromString_of_namespace hcase hnumber "s=Root".toList
  constructor
  · refine hnumeric.trans ((if_pos (by decide)).trans ?_)
    refine (readIdentifier_of_decimal hcase _ (m := "84".toList) (by decide)).trans ?_
    decide
  · refine hstring.trans ((if_pos (by decide)).trans ?_)
    refine (readIdentifier_string hcase _ "Root".toList).trans ?_
    decide

end ScadaCore.Scada
