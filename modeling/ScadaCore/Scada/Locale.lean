import Mathlib.Data.List.TakeWhile
import Mathlib.Logic.Encodable.Basic
import Mathlib.Logic.Equiv.List
import ScadaCore.Scada.Variant

/-!
# Scada.Locale — locale negotiation

What `locale_negotiation.cpp` does to a text that is stored in several languages.
Such a text is packed: its locale is `mul` (or `qst`) and its text a JSON object
that lists the translations. `resolveLocalizedText` picks one translation for a
session, or packs those that the session asked for if it asked for every language.

JSON is read and written by `boost::json`, which is a parameter (`JsonLibrary`). What is
assumed of it, where a packed text is unpacked again, is `JsonLibrary.ReadsPacked`.
-/

namespace ScadaCore.Scada

/-! ## Locale ids -/

def asciiLower (c : Char) : Char := c.toLower

def equalsIgnoreCase (left right : String) : Bool :=
  left.toList.map asciiLower == right.toList.map asciiLower

def primarySubtag (localeId : String) : String :=
  String.ofList (localeId.toList.takeWhile (· != '-'))

def multiLanguageLocale : String := "mul"
def substitutableLocale : String := "qst"
def tierMultiLanguageLocale : String := "x-scada-mul"

def isSpecialLocale (localeId : String) : Bool :=
  equalsIgnoreCase localeId multiLanguageLocale || equalsIgnoreCase localeId substitutableLocale

def requestsEveryLanguage (localeId : String) : Bool :=
  isSpecialLocale localeId || equalsIgnoreCase localeId tierMultiLanguageLocale

def requestsPackedStrings (requested : List String) : Bool :=
  match requested with
  | [] => false
  | lead :: _ => equalsIgnoreCase lead tierMultiLanguageLocale

def localeMatches (available requested : String) : Bool :=
  if available.isEmpty || requested.isEmpty then false
  else
    equalsIgnoreCase available requested ||
      equalsIgnoreCase (primarySubtag available) (primarySubtag requested)

theorem isSpecialLocale_mul : isSpecialLocale multiLanguageLocale = true := by decide

theorem isSpecialLocale_empty : isSpecialLocale "" = false := by decide

/-! ## Translations -/

variable (translations : List LocalizedText)

/-- The translations that the locales behind a leading special one name. -/
def narrow (requested : List String) : List LocalizedText :=
  (requested.filter (!requestsEveryLanguage ·)).flatMap fun locale =>
    translations.filter (localeMatches ·.locale locale)

/-- The translation for one wanted locale: the first that has it, or else the
first that matches it. -/
def preferred (wanted : String) : Option LocalizedText :=
  (translations.find? (equalsIgnoreCase ·.locale wanted)).or
    (translations.find? (localeMatches ·.locale wanted))

/-- The translations for a session that asked for every language. -/
def narrowed (requested : List String) : List LocalizedText :=
  if (narrow translations requested).isEmpty then translations else narrow translations requested

variable {stored translation : LocalizedText} {translations}
  {requested : List String}

theorem mem_of_mem_narrowed (h : translation ∈ narrowed translations requested) :
    translation ∈ translations := by
  unfold narrowed at h
  split at h
  · exact h
  · obtain ⟨locale, -, hmem⟩ := List.mem_flatMap.mp h
    exact List.mem_of_mem_filter hmem

theorem narrowed_ne_nil (h : translations ≠ []) : narrowed translations requested ≠ [] := by
  unfold narrowed
  split
  · exact h
  · rename_i hsome
    exact fun hnil => hsome (List.isEmpty_iff.mpr hnil)

theorem mem_of_preferred {wanted : String} (h : preferred translations wanted = some translation) :
    translation ∈ translations := by
  rcases Option.or_eq_some_iff.mp h with hequal | ⟨-, hmatch⟩
  · exact List.mem_of_find?_eq_some hequal
  · exact List.mem_of_find?_eq_some hmatch

/-- The translation with its locale as a C string holds it. -/
def LocalizedText.throughCString (text : LocalizedText) : LocalizedText :=
  { text with locale := String.ofList (text.locale.toList.takeWhile (· != '\x00')) }

theorem throughCString_of_not_mem (h : '\x00' ∉ translation.locale.toList) :
    translation.throughCString = translation := by
  have hlocale : translation.locale.toList.takeWhile (· != '\x00') = translation.locale.toList := by
    rw [List.takeWhile_eq_self_iff]
    intro c hc
    simpa using fun heq : c = '\x00' => h (heq ▸ hc)
  rw [LocalizedText.throughCString, hlocale, String.ofList_toList]

/-! ## Packed texts -/

def LocalizedText.isEmpty (text : LocalizedText) : Bool :=
  text.locale.isEmpty && text.text.isEmpty

/-- `boost::json::value`, as far as the code asks what it is: a number, a boolean and
null are `other`. -/
inductive Json where
  | string (value : List Char)
  | array (elements : List Json)
  | object (members : List (List Char × Json))
  | other

/-- `boost::json::serialize` and `boost::json::parse`; a text that is no document has no
result. -/
class JsonLibrary where
  serialize : Json → List Char
  parse : List Char → Option Json

def packedDocument (translations : List LocalizedText) : Json :=
  .object [(['t'], .array (translations.map fun translation =>
    .array [.string translation.locale.toList, .string translation.text]))]

/-- The assumption on the library: it reads the document of a packed text as it was
written. -/
def JsonLibrary.ReadsPacked (json : JsonLibrary) : Prop :=
  ∀ translations, json.parse (json.serialize (packedDocument translations)) =
    some (packedDocument translations)

def Json.pairs : Json → List (List Char × List Char)
  | .object [(_, .array elements)] =>
    elements.filterMap fun
      | .array [.string first, .string second] => some (first, second)
      | _ => none
  | _ => []

local instance encodableChar : Encodable Char := .ofLeftInverse Char.toNat Char.ofNat Char.ofNat_toNat

/-- A library that meets the assumption. It writes the number of a list of pairs, in
unary. -/
abbrev unaryJson : JsonLibrary where
  serialize document := List.replicate (Encodable.encode document.pairs) '1'
  parse text :=
    (Encodable.decode (α := List (List Char × List Char)) text.length).map fun pairs =>
      .object [(['t'], .array (pairs.map fun pair => .array [.string pair.1, .string pair.2]))]

theorem unaryJson_readsPacked : unaryJson.ReadsPacked := by
  intro translations
  have hpairs : (packedDocument translations).pairs =
      translations.map fun t => (t.locale.toList, t.text) := by
    rw [packedDocument, Json.pairs, List.filterMap_map, ← List.filterMap_eq_map]
    rfl
  change (Encodable.decode (List.replicate _ '1').length).map _ = _
  rw [List.length_replicate, Encodable.encodek, Option.map_some, hpairs, List.map_map]
  rfl

variable [json : JsonLibrary]

/-! ## Packing -/

def encodeMultiLanguage (translations : List LocalizedText) : LocalizedText :=
  match translations with
  | [] => {}
  | [translation] => translation
  | _ =>
    { locale := multiLanguageLocale
      text := JsonLibrary.serialize (packedDocument translations) }

/-- The translation that an element of the list is; one that is none is skipped.
The locale goes through a C string and ends at the first NUL. -/
def translationOf : Json → Option LocalizedText
  | .array (.string locale :: .string value :: _) =>
    some { locale := String.ofList (locale.takeWhile (· != '\x00')), text := value }
  | _ => none

def translationsOf : Option Json → List LocalizedText
  | some (.object members) =>
    match members.lookup ['t'] with
    | some (.array pairs) => pairs.filterMap translationOf
    | _ => []
  | _ => []

def decodeMultiLanguage (text : LocalizedText) : List LocalizedText :=
  if text.isEmpty then []
  else if !isSpecialLocale text.locale then [text]
  else if (translationsOf (JsonLibrary.parse text.text)).isEmpty then [text]
  else translationsOf (JsonLibrary.parse text.text)

/-! ## Selecting -/

def selectLocalizedText (translations : List LocalizedText) (requested : List String) :
    LocalizedText :=
  match translations, requested with
  | [], _ => {}
  | first :: _, [] => first
  | first :: _, lead :: rest =>
    if requestsEveryLanguage lead then encodeMultiLanguage (narrowed translations rest)
    else
      ((lead :: rest).findSome? fun wanted =>
        if requestsEveryLanguage wanted then none else preferred translations wanted).getD first

def resolveLocalizedText (stored : LocalizedText) (requested : List String) : LocalizedText :=
  selectLocalizedText (decodeMultiLanguage stored) requested

/-! ## What is selected -/

def packs (requested : List String) (stored : LocalizedText) : Bool :=
  match requested with
  | [] => false
  | lead :: rest =>
    requestsEveryLanguage lead && 2 ≤ (narrowed (decodeMultiLanguage stored) rest).length

/-- No translation has a special locale. For a packed text this says also that it
could be unpacked, for one that could not is its own only translation. -/
def Translated (stored : LocalizedText) : Prop :=
  ∀ translation ∈ decodeMultiLanguage stored, isSpecialLocale translation.locale = false

theorem encodeMultiLanguage_of_two (h : 2 ≤ translations.length) :
    encodeMultiLanguage translations =
      { locale := multiLanguageLocale
        text := JsonLibrary.serialize (packedDocument translations) } := by
  match translations, h with
  | _ :: _ :: _, _ => rfl

/-- What is not packed is one of the translations, or nothing if there is none. -/
theorem resolveLocalizedText_mem (h : packs requested stored = false) :
    resolveLocalizedText stored requested ∈ decodeMultiLanguage stored ∨
      decodeMultiLanguage stored = [] ∧ resolveLocalizedText stored requested = {} := by
  unfold resolveLocalizedText
  unfold packs at h
  generalize decodeMultiLanguage stored = translations at h ⊢
  cases translations with
  | nil => exact Or.inr ⟨rfl, rfl⟩
  | cons first others =>
    left
    cases requested with
    | nil => exact List.mem_cons_self
    | cons lead rest =>
      simp only [selectLocalizedText]
      split
      · -- the session asked for every language, and one is left
        rename_i hlead
        simp only [hlead, Bool.true_and, decide_eq_false_iff_not, Nat.not_le] at h
        match hnarrowed : narrowed (first :: others) rest, h with
        | [], _ => exact absurd hnarrowed (narrowed_ne_nil (by simp))
        | [only], _ =>
          have honly : only ∈ narrowed (first :: others) rest := by
            rw [hnarrowed]
            exact List.mem_cons_self
          exact mem_of_mem_narrowed honly
      · -- a translation for some preference, or else the first one
        cases hfound : (lead :: rest).findSome? fun wanted =>
            if requestsEveryLanguage wanted then none
            else preferred (first :: others) wanted with
        | none => exact List.mem_cons_self
        | some translation =>
          obtain ⟨wanted, -, hwanted⟩ := List.exists_of_findSome?_eq_some hfound
          split at hwanted
          · cases hwanted
          · exact mem_of_preferred hwanted

theorem resolveLocalizedText_of_packs (h : packs requested stored = true) :
    ∃ ts, 2 ≤ ts.length ∧ (∀ t ∈ ts, t ∈ decodeMultiLanguage stored) ∧
      resolveLocalizedText stored requested = encodeMultiLanguage ts := by
  unfold packs at h
  unfold resolveLocalizedText
  cases requested with
  | nil => cases h
  | cons lead rest =>
    simp only [Bool.and_eq_true, decide_eq_true_eq] at h
    refine ⟨narrowed (decodeMultiLanguage stored) rest, h.2, fun t => mem_of_mem_narrowed, ?_⟩
    generalize decodeMultiLanguage stored = translations at h ⊢
    cases translations with
    | nil => exact absurd h.2 (by simp [narrowed, narrow])
    | cons first others => simp [selectLocalizedText, h.1]

/-- **Packing, exactly.** -/
theorem packs_iff (h : Translated stored) :
    isSpecialLocale (resolveLocalizedText stored requested).locale = packs requested stored := by
  cases hpacks : packs requested stored with
  | true =>
    obtain ⟨ts, hlen, -, heq⟩ := resolveLocalizedText_of_packs hpacks
    rw [heq, encodeMultiLanguage_of_two hlen]
    exact isSpecialLocale_mul
  | false =>
    rcases resolveLocalizedText_mem hpacks with hmem | ⟨-, hnothing⟩
    · exact h _ hmem
    · rw [hnothing]
      exact isSpecialLocale_empty

theorem decodeMultiLanguage_of_plain (h : isSpecialLocale stored.locale = false) :
    decodeMultiLanguage stored = if stored.isEmpty then [] else [stored] := by
  simp [decodeMultiLanguage, h]

theorem resolveLocalizedText_of_plain (h : isSpecialLocale stored.locale = false)
    (hpacks : packs requested stored = false) : resolveLocalizedText stored requested = stored := by
  have hdecode := decodeMultiLanguage_of_plain h
  rcases resolveLocalizedText_mem hpacks with hmem | ⟨hnone, hnothing⟩
  · rw [hdecode] at hmem
    split at hmem
    · cases hmem
    · exact List.mem_singleton.mp hmem
  · rw [hnothing]
    rw [hdecode] at hnone
    split at hnone
    · rename_i hempty
      obtain ⟨hlocale, htext⟩ : stored.locale = "" ∧ stored.text = [] := by
        simpa [LocalizedText.isEmpty] using hempty
      cases stored
      simp_all
    · cases hnone

/-! ## Packing and unpacking -/

section ReadsPacked

variable (hjson : json.ReadsPacked)

include hjson

theorem decodeMultiLanguage_of_two (hlen : 2 ≤ translations.length) :
    decodeMultiLanguage (encodeMultiLanguage translations) =
      translations.map LocalizedText.throughCString := by
  have hall : (translations.map fun translation =>
      Json.array [.string translation.locale.toList, .string translation.text]).filterMap
        translationOf = translations.map LocalizedText.throughCString := by
    rw [List.filterMap_map, ← List.filterMap_eq_map]
    rfl
  have hne : translations.isEmpty = false := by
    cases translations with
    | nil => simp at hlen
    | cons t ts => rfl
  have hnonempty : (encodeMultiLanguage translations).isEmpty = false := by
    simp [encodeMultiLanguage_of_two hlen, LocalizedText.isEmpty, multiLanguageLocale]
  have htranslations : translationsOf (some (packedDocument translations)) =
      translations.map LocalizedText.throughCString := by
    simpa [packedDocument, translationsOf] using hall
  rw [decodeMultiLanguage, hnonempty, encodeMultiLanguage_of_two hlen]
  simp [isSpecialLocale_mul, hjson translations, htranslations, hne]

/-- **Round trip** of several translations. -/
theorem decodeMultiLanguage_encodeMultiLanguage (hlen : 2 ≤ translations.length)
    (hnul : ∀ t ∈ translations, '\x00' ∉ t.locale.toList) :
    decodeMultiLanguage (encodeMultiLanguage translations) = translations := by
  rw [decodeMultiLanguage_of_two hjson hlen]
  refine (List.map_congr_left fun t ht => ?_).trans (List.map_id _)
  exact throughCString_of_not_mem (hnul t ht)

end ReadsPacked

end ScadaCore.Scada
