import ScadaCore.Data.Bytes

/-!
# Base.Uri — escaped paths and query parameters

A `Charmap` says which bytes are escaped, as 256 bits in eight words. Unescaping looks at
each `%` and at the two bytes after it. That it gives back what was escaped, also where the
text looks escaped already, rests on one bit: `%` is in both maps, so that in an escaped text
every `%` begins an escape (`unescape_escapeLoop`).
-/

namespace ScadaCore.Base

def kHexString : List UInt8 := "0123456789ABCDEF".toList.map Char.toUInt8

def intToHex (i : UInt8) : UInt8 := kHexString.getD i.toNat 0

structure Charmap where
  map : List UInt32

def Charmap.contains (charmap : Charmap) (c : UInt8) : Bool :=
  charmap.map.getD (c >>> 5).toNat 0 &&& (1 <<< (c &&& 31).toUInt32) != 0

def isxdigit (c : UInt8) : Bool :=
  ('0'.toUInt8 ≤ c && c ≤ '9'.toUInt8) || ('A'.toUInt8 ≤ c && c ≤ 'F'.toUInt8) ||
    ('a'.toUInt8 ≤ c && c ≤ 'f'.toUInt8)

/-- The loop of `Escape`, over what is left of the text. -/
def escapeLoop (charmap : Charmap) (usePlus keepEscaped : Bool) : List UInt8 → List UInt8
  | [] => []
  | c :: rest =>
    (if usePlus && ' '.toUInt8 == c then ['+'.toUInt8]
    else if keepEscaped && '%'.toUInt8 == c && 2 ≤ rest.length && (rest.take 2).all isxdigit then
      ['%'.toUInt8]
    else if charmap.contains c then ['%'.toUInt8, intToHex (c >>> 4), intToHex (c &&& 0xf)]
    else [c]) ++ escapeLoop charmap usePlus keepEscaped rest

/-- `Escape`. Its counter is an `unsigned int`, which never gets to the end of a longer
text. -/
def escape (text : List UInt8) (charmap : Charmap) (usePlus : Bool) (keepEscaped : Bool := false) :
    Option (List UInt8) :=
  if text.length < 2 ^ 32 then some (escapeLoop charmap usePlus keepEscaped text) else none

def kQueryCharmap : Charmap where
  map := [0xffffffff, 0xfc00987d, 0x78000001, 0xb8000001, 0xffffffff, 0xffffffff, 0xffffffff,
    0xffffffff]

def kPathCharmap : Charmap where
  map := [0xffffffff, 0xd400002d, 0x78000000, 0xb8000001, 0xffffffff, 0xffffffff, 0xffffffff,
    0xffffffff]

def escapeQueryParamValue (text : List UInt8) (usePlus : Bool) : Option (List UInt8) :=
  escape text kQueryCharmap usePlus

def escapePath (path : List UInt8) : Option (List UInt8) := escape path kPathCharmap false

def hexToInt (c : UInt8) : Option UInt8 :=
  if '0'.toUInt8 ≤ c && c ≤ '9'.toUInt8 then some (c - '0'.toUInt8)
  else if 'A'.toUInt8 ≤ c && c ≤ 'F'.toUInt8 then some (c - 'A'.toUInt8 + 10)
  else if 'a'.toUInt8 ≤ c && c ≤ 'f'.toUInt8 then some (c - 'a'.toUInt8 + 10)
  else none

/-- `UnescapeRule::Type`, its bits. -/
structure UnescapeRule where
  spaces : Bool := false
  pathSeparators : Bool := false

/-- The byte that a `%` and the two bytes after it stand for, if it is to be unescaped. -/
def unescapeByte (rules : UnescapeRule) (high low : UInt8) : Option UInt8 :=
  match hexToInt high, hexToInt low with
  | some high, some low =>
    let c := (high <<< 4) ||| low
    if c == ' '.toUInt8 && !rules.spaces then none
    else if (c == '/'.toUInt8 || c == '\\'.toUInt8) && !rules.pathSeparators then none
    else some c
  | _, _ => none

def unescapeURLComponent (rules : UnescapeRule) : List UInt8 → List UInt8
  | c :: high :: low :: rest =>
    match if c = '%'.toUInt8 then unescapeByte rules high low else none with
    | some byte => byte :: unescapeURLComponent rules rest
    | none => c :: unescapeURLComponent rules (high :: low :: rest)
  | c :: rest => c :: unescapeURLComponent rules rest
  | [] => []

/-! ## What is escaped is unescaped -/

/-- `SPACES | PATH_SEPARATORS`. -/
def allRules : UnescapeRule := { spaces := true, pathSeparators := true }

theorem unescapeByte_intToHex (c : UInt8) :
    unescapeByte allRules (intToHex (c >>> 4)) (intToHex (c &&& 0xf)) = some c := by
  revert c
  apply Bytes.forall_of_fin
  decide +kernel

theorem unescape_cons_of_ne {c : UInt8} (hc : c ≠ '%'.toUInt8) (rest : List UInt8) :
    unescapeURLComponent allRules (c :: rest) = c :: unescapeURLComponent allRules rest := by
  rcases rest with _ | ⟨high, _ | ⟨low, rest⟩⟩
  · rfl
  · rfl
  · rw [unescapeURLComponent, if_neg hc]

theorem unescape_escapeLoop {charmap : Charmap} (hpercent : charmap.contains '%'.toUInt8 = true)
    (text : List UInt8) :
    unescapeURLComponent allRules (escapeLoop charmap false false text) = text := by
  induction text with
  | nil => rfl
  | cons c rest ih =>
    simp only [escapeLoop, Bool.false_and, Bool.false_eq_true, if_false]
    by_cases hc : charmap.contains c = true
    · rw [if_pos hc, List.cons_append, List.cons_append, List.cons_append, List.nil_append,
        unescapeURLComponent, if_pos rfl, unescapeByte_intToHex, ih]
    · have hne : c ≠ '%'.toUInt8 := by
        rintro rfl
        exact hc hpercent
      rw [if_neg hc, List.singleton_append, unescape_cons_of_ne hne, ih]

/-- **URI escaping is invertible**: an escaped path and an escaped query parameter are
unescaped to what they were, whatever bytes that has. -/
theorem unescape_escape (s : List UInt8) (hs : s.length < 2 ^ 32) :
    (∃ path, escapePath s = some path ∧ unescapeURLComponent allRules path = s) ∧
      ∃ query, escapeQueryParamValue s false = some query ∧
        unescapeURLComponent allRules query = s :=
  ⟨⟨_, if_pos hs, unescape_escapeLoop (by decide) s⟩,
    ⟨_, if_pos hs, unescape_escapeLoop (by decide) s⟩⟩

/-- A text that is escaped already. -/
theorem unescape_escape_escaped :
    let s := "100%25 a/b".toList.map Char.toUInt8
    (∃ path, escapePath s = some path ∧ unescapeURLComponent allRules path = s) ∧
      ∃ query, escapeQueryParamValue s false = some query ∧
        unescapeURLComponent allRules query = s :=
  unescape_escape _ (by decide)

end ScadaCore.Base
