import ScadaCore.Scada.ResolvingTwice

/-!
# Scada.Translations — which translation a session gets, and texts put together

Three results about `locale_negotiation.cpp`. A session that names its languages
gets the translation that it prefers most (`selectLocalizedText_mostPreferred`). A
text can be appended to a packed text, and two packed texts can be joined, without a
change to what a session gets: resolving comes to the same before and after, language
by language.
-/

namespace ScadaCore.Scada

open Selection

variable {translations : List LocalizedText} {requested : List String}

/-! ## Putting texts together -/

variable (text : LocalizedText)

def LocalizedText.append (suffix : List Char) : LocalizedText :=
  { text with text := text.text ++ suffix }

def tailFor (right : List LocalizedText) (locale : String) : LocalizedText :=
  -- `right.front()`, for `right` is not empty
  (right.find? (equalsIgnoreCase ·.locale locale)).getD (right.headD {})

def combined (separator : List Char) (right : List LocalizedText) (piece : LocalizedText) :
    LocalizedText :=
  (piece.append separator).append (tailFor right piece.locale).text

/-! ## The most preferred translation -/

/-- The locales are equal or have the same primary subtag, ignoring case. -/
def Suits (available wanted : String) : Prop :=
  equalsIgnoreCase available wanted = true ∨
    equalsIgnoreCase (primarySubtag available) (primarySubtag wanted) = true

/-- The first language of the request that some translation suits. -/
def FirstWish (translations : List LocalizedText) (requested : List String) (wanted : String) :
    Prop :=
  IsFirst (fun w => requestsEveryLanguage w = false ∧ ∃ t ∈ translations, Suits t.locale w)
    requested wanted

/-- What Part 4 asks for: the translation for the first wish that can be met, and of
several for the same wish the first that has its locale, or else the first that has
its language. Some translation, if no wish can be met. -/
structure MostPreferred (translations : List LocalizedText) (requested : List String)
    (chosen : LocalizedText) : Prop where
  mem : chosen ∈ translations
  sameLocale : ∀ wanted, FirstWish translations requested wanted →
    (∃ t ∈ translations, equalsIgnoreCase t.locale wanted = true) →
    IsFirst (fun t => equalsIgnoreCase t.locale wanted = true) translations chosen
  sameLanguage : ∀ wanted, FirstWish translations requested wanted →
    (∀ t ∈ translations, equalsIgnoreCase t.locale wanted = false) →
    IsFirst (fun t => equalsIgnoreCase (primarySubtag t.locale) (primarySubtag wanted) = true)
      translations chosen
  fallback : (∀ w ∈ requested, requestsEveryLanguage w = false →
    ∀ t ∈ translations, ¬ Suits t.locale w) → translations.head? = some chosen

variable {wanted locale : String}

theorem localeMatches_iff {available : String} (ha : available ≠ "") (hw : wanted ≠ "") :
    localeMatches available wanted = true ↔ Suits available wanted := by
  simp [localeMatches, Suits, ha, hw]

theorem preferred_eq_none_iff (hlocales : ∀ t ∈ translations, t.locale ≠ "") (hw : wanted ≠ "") :
    preferred translations wanted = none ↔ ∀ t ∈ translations, ¬ Suits t.locale wanted := by
  rw [preferred, Option.or_eq_none_iff, List.find?_eq_none, List.find?_eq_none]
  constructor
  · rintro ⟨-, hmatch⟩ t ht hsuits
    exact hmatch t ht ((localeMatches_iff (hlocales t ht) hw).mpr hsuits)
  · intro h
    constructor
    · intro t ht hequal
      exact h t ht (.inl hequal)
    · intro t ht hmatch
      exact h t ht ((localeMatches_iff (hlocales t ht) hw).mp hmatch)

/-- Of one wish: the first translation with its locale, or else the first with its
language. -/
theorem isFirst_of_preferred {chosen : LocalizedText} (hlocales : ∀ t ∈ translations, t.locale ≠ "")
    (hw : wanted ≠ "") (h : preferred translations wanted = some chosen) :
    ((∃ t ∈ translations, equalsIgnoreCase t.locale wanted = true) →
      IsFirst (fun t => equalsIgnoreCase t.locale wanted = true) translations chosen) ∧
    ((∀ t ∈ translations, equalsIgnoreCase t.locale wanted = false) →
      IsFirst (fun t => equalsIgnoreCase (primarySubtag t.locale) (primarySubtag wanted) = true)
        translations chosen) := by
  rcases Option.or_eq_some_iff.mp h with hequal | ⟨hnone, hmatch⟩
  · constructor
    · intro _
      exact isFirst_of_find? hequal fun _ _ => Iff.rfl
    · intro hno
      have hchosen := List.find?_some hequal
      rw [hno chosen (List.mem_of_find?_eq_some hequal)] at hchosen
      cases hchosen
  · have hno : ∀ t ∈ translations, equalsIgnoreCase t.locale wanted = false := by
      intro t ht
      exact Bool.not_eq_true _ ▸ List.find?_eq_none.mp hnone t ht
    constructor
    · rintro ⟨t, ht, hequal⟩
      rw [hno t ht] at hequal
      cases hequal
    · -- no locale is equal, so that a match is one of the primary subtags
      intro _
      apply isFirst_of_find? hmatch
      intro t ht
      rw [localeMatches_iff (hlocales t ht) hw, Suits, hno t ht]
      simp

theorem wish_eq_none_iff (hlocales : ∀ t ∈ translations, t.locale ≠ "") (hw : wanted ≠ "") :
    (if requestsEveryLanguage wanted then none else preferred translations wanted) = none ↔
      ¬ (requestsEveryLanguage wanted = false ∧ ∃ t ∈ translations, Suits t.locale wanted) := by
  cases hevery : requestsEveryLanguage wanted with
  | true => simp
  | false =>
    simp only [Bool.false_eq_true, if_false, true_and, not_exists, not_and]
    exact preferred_eq_none_iff hlocales hw

/-- The walk ends at the first wish that can be met. -/
theorem firstWish_of_walk {chosen : LocalizedText} (hlocales : ∀ t ∈ translations, t.locale ≠ "")
    (hrequested : ∀ w ∈ requested, w ≠ "")
    (h : (requested.findSome? fun wanted =>
      if requestsEveryLanguage wanted then none else preferred translations wanted) =
        some chosen) :
    ∃ w, FirstWish translations requested w ∧ preferred translations w = some chosen := by
  rcases List.findSome?_eq_some_iff.mp h with ⟨before, w, after, rfl, hw, hbefore⟩
  have hmet : requestsEveryLanguage w = false ∧ ∃ t ∈ translations, Suits t.locale w := by
    by_contra hnot
    rw [(wish_eq_none_iff hlocales (hrequested w (by simp))).mpr hnot] at hw
    cases hw
  refine ⟨w, ⟨before, after, rfl, hmet, ?_⟩, ?_⟩
  · intro w' hw'
    exact (wish_eq_none_iff hlocales (hrequested w' (by simp [hw']))).mp (hbefore w' hw')
  · rw [hmet.1] at hw
    exact hw

/-- The walk ends without a translation only if no wish can be met. -/
theorem not_firstWish_of_walk (hlocales : ∀ t ∈ translations, t.locale ≠ "")
    (hrequested : ∀ w ∈ requested, w ≠ "")
    (h : (requested.findSome? fun wanted =>
      if requestsEveryLanguage wanted then none else preferred translations wanted) = none)
    (wanted : String) : ¬ FirstWish translations requested wanted := by
  intro hfirst
  have hmem : wanted ∈ requested := hfirst.mem
  rcases hfirst with ⟨-, -, -, hmet, -⟩
  exact (wish_eq_none_iff hlocales (hrequested wanted hmem)).mp
    (List.findSome?_eq_none_iff.mp h wanted hmem) hmet

/-! ## Selecting looks at locales only -/

section Map

variable {f : LocalizedText → LocalizedText} (hf : ∀ t, (f t).locale = t.locale)

include hf

theorem narrow_map : narrow (translations.map f) requested =
    (narrow translations requested).map f := by
  unfold narrow
  rw [List.map_flatMap]
  apply List.flatMap_congr
  intro locale _
  rw [List.filter_map]
  simp only [Function.comp_def, hf]

theorem narrowed_map : narrowed (translations.map f) requested =
    (narrowed translations requested).map f := by
  unfold narrowed
  rw [narrow_map hf, List.isEmpty_map]
  split <;> rfl

theorem preferred_map (wanted : String) :
    preferred (translations.map f) wanted = (preferred translations wanted).map f := by
  unfold preferred
  rw [List.find?_map, List.find?_map, Option.map_or]
  simp only [Function.comp_def, hf]

end Map

/-! ## Appended texts -/

@[simp]
theorem LocalizedText.append_locale (suffix : List Char) :
    (text.append suffix).locale = text.locale :=
  rfl

theorem LocalizedText.append_nil : text.append [] = text := by
  rw [LocalizedText.append, List.append_nil]

theorem isSpecialLocale_of_named (h : requestsEveryLanguage locale = false) :
    isSpecialLocale locale = false := by
  rw [requestsEveryLanguage, Bool.or_eq_false_iff] at h
  exact h.1

theorem equalsIgnoreCase_iff {left right : String} : equalsIgnoreCase left right = true ↔
    left.toList.map asciiLower = right.toList.map asciiLower := by
  simp [equalsIgnoreCase]

theorem tailFor_congr {locale' : String} (h : equalsIgnoreCase locale locale' = true)
    (right : List LocalizedText) : tailFor right locale = tailFor right locale' := by
  have hsame : locale.toList.map asciiLower = locale'.toList.map asciiLower :=
    equalsIgnoreCase_iff.mp h
  simp only [tailFor, equalsIgnoreCase, hsame]

/-- The translation with an equal locale, or the first one. -/
def TailOf (right : List LocalizedText) (locale : String) (tail : LocalizedText) : Prop :=
  IsFirst (fun t => equalsIgnoreCase t.locale locale = true) right tail ∨
    (∀ t ∈ right, equalsIgnoreCase t.locale locale = false) ∧ right.head? = some tail

theorem tailOf_tailFor {right : List LocalizedText} (hne : right ≠ []) (locale : String) :
    TailOf right locale (tailFor right locale) := by
  unfold tailFor
  cases hfind : right.find? (equalsIgnoreCase ·.locale locale) with
  | some tail => exact .inl (isFirst_of_find? hfind fun _ _ => Iff.rfl)
  | none =>
    right
    constructor
    · intro t ht
      simpa using List.find?_eq_none.mp hfind t ht
    · rcases right with _ | ⟨tail, others⟩
      · exact absurd rfl hne
      · rfl

/-- Translations that are packed without loss. -/
structure Packable (translations : List LocalizedText) : Prop where
  ne_nil : translations ≠ []
  plain : ∀ t ∈ translations, isSpecialLocale t.locale = false
  noNul : ∀ t ∈ translations, '\x00' ∉ t.locale.toList
  ne_empty : translations ≠ [{}]

/-- What is appended to is packed without loss again. -/
theorem Packable.append (h : Packable translations) (suffix : List Char) :
    Packable (translations.map (·.append suffix)) where
  ne_nil := by simpa using h.ne_nil
  plain := by simpa using h.plain
  noNul := by simpa using h.noNul
  ne_empty := by
    intro heq
    rcases translations with _ | ⟨translation, _ | ⟨second, others⟩⟩
    · exact h.ne_nil rfl
    · simp only [List.map_cons, List.map_nil, List.cons.injEq, and_true, LocalizedText.append,
        LocalizedText.mk.injEq, List.append_eq_nil_iff] at heq
      rcases translation with ⟨locale, text⟩
      rcases heq with ⟨rfl, rfl, _⟩
      exact h.ne_empty rfl
    · simp at heq

/-! ## Selecting -/

section Selecting

variable [JsonLibrary]

theorem selectLocalizedText_cons (first : LocalizedText) (others : List LocalizedText)
    (hlead : ∀ lead ∈ requested.head?, requestsEveryLanguage lead = false) :
    selectLocalizedText (first :: others) requested =
      (requested.findSome? fun wanted =>
        if requestsEveryLanguage wanted then none
        else preferred (first :: others) wanted).getD first := by
  cases requested with
  | nil => rfl
  | cons lead rest =>
    have hnot : requestsEveryLanguage lead = false := hlead lead rfl
    simp [selectLocalizedText, hnot]

/-- **The most preferred translation.** -/
theorem selectLocalizedText_mostPreferred (translations : List LocalizedText)
    (requested : List String) (hne : translations ≠ [])
    (hlocales : ∀ t ∈ translations, t.locale ≠ "") (hrequested : ∀ w ∈ requested, w ≠ "")
    (hlead : ∀ lead ∈ requested.head?, requestsEveryLanguage lead = false) :
    MostPreferred translations requested (selectLocalizedText translations requested) := by
  rcases translations with _ | ⟨first, others⟩
  · exact absurd rfl hne
  rw [selectLocalizedText_cons first others hlead]
  cases hfound : requested.findSome? fun wanted =>
      if requestsEveryLanguage wanted then none else preferred (first :: others) wanted with
  | none =>
    have hno := not_firstWish_of_walk hlocales hrequested hfound
    exact {
      mem := List.mem_cons_self
      sameLocale := fun wanted hfirst => absurd hfirst (hno wanted)
      sameLanguage := fun wanted hfirst => absurd hfirst (hno wanted)
      fallback := fun _ => rfl }
  | some chosen =>
    rcases firstWish_of_walk hlocales hrequested hfound with ⟨w, hfirst, hchosen⟩
    have hmem : w ∈ requested := hfirst.mem
    have hof := isFirst_of_preferred hlocales (hrequested w hmem) hchosen
    refine ⟨mem_of_preferred hchosen, ?_, ?_, ?_⟩
    · intro wanted hwanted
      rw [← hfirst.unique hwanted]
      exact hof.1
    · intro wanted hwanted
      rw [← hfirst.unique hwanted]
      exact hof.2
    · intro hnone
      rcases hfirst with ⟨-, -, -, ⟨hlanguage, t, ht, hsuits⟩, -⟩
      exact absurd hsuits (hnone w hmem hlanguage t ht)

theorem selectLocalizedText_map {f : LocalizedText → LocalizedText}
    (hf : ∀ t, (f t).locale = t.locale) (hne : translations ≠ [])
    (hlead : ∀ lead ∈ requested.head?, requestsEveryLanguage lead = false) :
    selectLocalizedText (translations.map f) requested =
      f (selectLocalizedText translations requested) := by
  rcases translations with _ | ⟨first, others⟩
  · exact absurd rfl hne
  rw [List.map_cons, selectLocalizedText_cons _ _ hlead, selectLocalizedText_cons _ _ hlead,
    ← List.map_cons]
  have hwalk : (requested.findSome? fun wanted =>
      if requestsEveryLanguage wanted then none
      else preferred ((first :: others).map f) wanted) =
      (requested.findSome? fun wanted =>
        if requestsEveryLanguage wanted then none
        else preferred (first :: others) wanted).map f := by
    rw [List.map_findSome?]
    congr 1
    funext wanted
    rw [preferred_map hf]
    simp only [Function.comp_apply]
    split <;> rfl
  rw [hwalk, Option.getD_map]

end Selecting

theorem selectLocalizedText_mostPreferred_englishUs :
    let translations : List LocalizedText :=
      [{ locale := "ru", text := ['1'] }, { locale := "en-US", text := ['2'] }]
    ∃ _ : JsonLibrary, selectLocalizedText translations ["de", "qst", "EN-gb", "ru"] =
        { locale := "en-US", text := ['2'] } ∧
      MostPreferred translations ["de", "qst", "EN-gb", "ru"]
        (selectLocalizedText translations ["de", "qst", "EN-gb", "ru"]) :=
  ⟨unaryJson, by decide, @selectLocalizedText_mostPreferred unaryJson _ _ (by decide) (by decide)
    (by decide) (by simp; decide)⟩

/-! ## Packing is undone by unpacking -/

section Packing

variable [json : JsonLibrary]

def appendToEachLanguage (suffix : List Char) : LocalizedText :=
  if suffix.isEmpty then text
  else if !isSpecialLocale text.locale then text.append suffix
  else encodeMultiLanguage ((decodeMultiLanguage text).map (·.append suffix))

def joinLanguages (first : LocalizedText) (separator : List Char) (second : LocalizedText) :
    LocalizedText :=
  if first.isEmpty then second
  else if second.isEmpty then first
  else
    encodeMultiLanguage
      ((decodeMultiLanguage first).map (combined separator (decodeMultiLanguage second)))

theorem appendToEachLanguage_of_plain {text : LocalizedText}
    (h : isSpecialLocale text.locale = false) (suffix : List Char) :
    appendToEachLanguage text suffix = text.append suffix := by
  unfold appendToEachLanguage
  cases hsuffix : suffix.isEmpty with
  | true =>
    rw [List.isEmpty_iff.mp hsuffix, LocalizedText.append_nil]
    rfl
  | false => simp [h]

theorem packs_of_named (stored : LocalizedText)
    (hlead : ∀ lead ∈ requested.head?, requestsEveryLanguage lead = false) :
    packs requested stored = false := by
  cases requested with
  | nil => rfl
  | cons lead rest => rw [packs, hlead lead rfl, Bool.false_and]

variable (hjson : json.ReadsPacked)

include hjson

/-- One translation is not packed, and several are. Both are read back, unless it is
one that says nothing. -/
theorem decodeMultiLanguage_encodeMultiLanguage_of_plain (hne : translations ≠ [])
    (hplain : ∀ t ∈ translations, isSpecialLocale t.locale = false)
    (hnul : 2 ≤ translations.length → ∀ t ∈ translations, '\x00' ∉ t.locale.toList)
    (hempty : translations ≠ [{}]) :
    decodeMultiLanguage (encodeMultiLanguage translations) = translations := by
  by_cases hlen : 2 ≤ translations.length
  · exact decodeMultiLanguage_encodeMultiLanguage hjson hlen (hnul hlen)
  · rcases translations with _ | ⟨translation, _ | ⟨second, others⟩⟩
    · exact absurd rfl hne
    · rw [encodeMultiLanguage, decodeMultiLanguage_of_plain (hplain _ (by simp)), if_neg]
      intro hnothing
      rw [eq_of_isEmpty hnothing] at hempty
      exact hempty rfl
    · simp at hlen

/-- Appending to a packed text appends to each of its translations. -/
theorem appendToEachLanguage_encodeMultiLanguage (hne : translations ≠ [])
    (hplain : ∀ t ∈ translations, isSpecialLocale t.locale = false)
    (hnul : ∀ t ∈ translations, '\x00' ∉ t.locale.toList) (suffix : List Char) :
    appendToEachLanguage (encodeMultiLanguage translations) suffix =
      encodeMultiLanguage (translations.map (·.append suffix)) := by
  unfold appendToEachLanguage
  cases hsuffix : suffix.isEmpty with
  | true =>
    have hsame : translations.map (·.append []) = translations := by
      simp only [LocalizedText.append_nil, List.map_id']
    rw [List.isEmpty_iff.mp hsuffix, hsame]
    rfl
  | false =>
    rcases translations with _ | ⟨translation, _ | ⟨second, others⟩⟩
    · exact absurd rfl hne
    · have hlocale := hplain translation (by simp)
      simp [encodeMultiLanguage, hlocale]
    · -- the text is packed, and unpacked again before the suffix is appended
      have hdecode : decodeMultiLanguage
          (encodeMultiLanguage (translation :: second :: others)) = _ :=
        decodeMultiLanguage_encodeMultiLanguage hjson (by simp) hnul
      rw [hdecode]
      simp [encodeMultiLanguage, isSpecialLocale_mul]

theorem Packable.decode (h : Packable translations) :
    decodeMultiLanguage (encodeMultiLanguage translations) = translations :=
  decodeMultiLanguage_encodeMultiLanguage_of_plain hjson h.ne_nil h.plain (fun _ => h.noNul) h.ne_empty

theorem Packable.resolve_plain (h : Packable translations)
    (hlead : ∀ lead ∈ requested.head?, requestsEveryLanguage lead = false) :
    isSpecialLocale (resolveLocalizedText (encodeMultiLanguage translations) requested).locale =
      false := by
  rcases resolveLocalizedText_mem (packs_of_named _ hlead) with hmem | ⟨hnone, -⟩
  · rw [h.decode hjson] at hmem
    exact h.plain _ hmem
  · rw [h.decode hjson] at hnone
    exact absurd hnone h.ne_nil

/-- **Appending commutes with resolving**, whatever the session asks for. -/
theorem resolveLocalizedText_appendToEachLanguage (h : Packable translations)
    (suffix : List Char) (requested : List String) :
    resolveLocalizedText (appendToEachLanguage (encodeMultiLanguage translations) suffix)
        requested =
      appendToEachLanguage (resolveLocalizedText (encodeMultiLanguage translations) requested)
        suffix := by
  have happend :=
    appendToEachLanguage_encodeMultiLanguage hjson h.ne_nil h.plain h.noNul suffix
  by_cases hlead : ∀ lead ∈ requested.head?, requestsEveryLanguage lead = false
  · rw [happend, appendToEachLanguage_of_plain (h.resolve_plain hjson hlead),
      resolveLocalizedText, resolveLocalizedText, (h.append suffix).decode hjson, h.decode hjson]
    exact selectLocalizedText_map (fun _ => rfl) h.ne_nil hlead
  · -- what is packed for the session are some of the translations
    rcases requested with _ | ⟨lead, rest⟩
    · simp at hlead
    have hevery : requestsEveryLanguage lead = true := by simpa using hlead
    rw [happend, resolveLocalizedText_of_every hevery, resolveLocalizedText_of_every hevery,
      (h.append suffix).decode hjson, h.decode hjson, narrowed_map fun t => t.append_locale suffix]
    symm
    apply appendToEachLanguage_encodeMultiLanguage hjson (narrowed_ne_nil h.ne_nil)
    · intro t ht
      exact h.plain t (mem_of_mem_narrowed ht)
    · intro t ht
      exact h.noNul t (mem_of_mem_narrowed ht)

end Packing

section Joining

variable [json : JsonLibrary]

/-- A text that says something, in languages that a session can name: a plain one, or
one that is packed from two translations or more. -/
inductive Joinable : LocalizedText → Prop
  | plain {text : LocalizedText} (hnonempty : text.isEmpty = false)
      (hnamed : requestsEveryLanguage text.locale = false) : Joinable text
  | packed {translations : List LocalizedText} (hlen : 2 ≤ translations.length)
      (hnamed : ∀ t ∈ translations, requestsEveryLanguage t.locale = false)
      (hnul : ∀ t ∈ translations, '\x00' ∉ t.locale.toList) :
      Joinable (encodeMultiLanguage translations)

theorem decodeMultiLanguage_ne_nil {text : LocalizedText} (h : text.isEmpty = false) :
    decodeMultiLanguage text ≠ [] := by
  unfold decodeMultiLanguage
  rw [h]
  split_ifs with hplain hnone <;> simp_all

theorem Joinable.nonempty {text : LocalizedText} (h : Joinable text) : text.isEmpty = false := by
  cases h with
  | plain hnonempty _ => exact hnonempty
  | packed hlen _ _ =>
    simp [encodeMultiLanguage_of_two hlen, LocalizedText.isEmpty, multiLanguageLocale]

theorem selectLocalizedText_one (hnamed : requestsEveryLanguage locale = false)
    (hmem : ∃ t ∈ translations, t.locale = locale) :
    equalsIgnoreCase (selectLocalizedText translations [locale]).locale locale = true := by
  rcases hmem with ⟨t, ht, rfl⟩
  rcases translations with _ | ⟨first, others⟩
  · cases ht
  have hsome : ((first :: others).find? (equalsIgnoreCase ·.locale t.locale)).isSome := by
    rw [List.find?_isSome]
    exact ⟨t, ht, equalsIgnoreCase_iff.mpr rfl⟩
  rcases Option.isSome_iff_exists.mp hsome with ⟨found, hfound⟩
  rw [selectLocalizedText_cons first others (by simpa using hnamed)]
  simp only [List.findSome?_singleton, hnamed, Bool.false_eq_true, if_false, preferred, hfound,
    Option.some_or, Option.getD_some]
  have hequal := List.find?_some hfound
  exact hequal

variable (hjson : json.ReadsPacked)

include hjson

/-- What is unpacked is the text itself, or what it was packed from: in either case there
is something to say in every language, and a session can name it. -/
theorem Joinable.decode {text : LocalizedText} (h : Joinable text) :
    decodeMultiLanguage text ≠ [{}] ∧
      ∀ t ∈ decodeMultiLanguage text, requestsEveryLanguage t.locale = false := by
  cases h with
  | plain hnonempty hnamed =>
    rw [decodeMultiLanguage_of_plain (isSpecialLocale_of_named hnamed), hnonempty]
    constructor
    · intro hnothing
      rw [show text = {} by simpa using hnothing] at hnonempty
      cases hnonempty
    · simpa using hnamed
  | packed hlen hnamed hnul =>
    rw [decodeMultiLanguage_encodeMultiLanguage hjson hlen hnul]
    refine ⟨?_, hnamed⟩
    rintro rfl
    simp at hlen

/-- The translations of the joined text are those of the first one, each with that of
the second behind it. -/
theorem decodeMultiLanguage_joinLanguages {first second : LocalizedText}
    (hfirst : Joinable first) (hsecond : second.isEmpty = false) (separator : List Char) :
    decodeMultiLanguage (joinLanguages first separator second) =
      (decodeMultiLanguage first).map (combined separator (decodeMultiLanguage second)) := by
  rcases hfirst.decode hjson with ⟨hsaid, hnamed⟩
  rw [joinLanguages, if_neg (by simp [hfirst.nonempty]), if_neg (by simp [hsecond])]
  apply decodeMultiLanguage_encodeMultiLanguage_of_plain hjson
  · simpa using decodeMultiLanguage_ne_nil hfirst.nonempty
  · intro t ht
    rcases List.mem_map.mp ht with ⟨piece, hpiece, rfl⟩
    exact isSpecialLocale_of_named (hnamed piece hpiece)
  · intro hlen t ht
    rcases List.mem_map.mp ht with ⟨piece, hpiece, rfl⟩
    rcases noNul_or_plain first with hnul | hplain
    · exact hnul piece hpiece
    · rw [hplain] at hlen
      simp at hlen
  · intro hnothing
    rcases List.map_eq_singleton_iff.mp hnothing with ⟨⟨locale, text⟩, honly, hempty⟩
    simp only [combined, LocalizedText.append, LocalizedText.mk.injEq,
      List.append_eq_nil_iff] at hempty
    rcases hempty with ⟨rfl, ⟨rfl, -⟩, -⟩
    exact hsaid honly

/-- **Joining, language by language.** -/
theorem joinLanguages_byLanguage (first second : LocalizedText) (separator : List Char)
    (hfirst : Joinable first) (hsecond : second.isEmpty = false) :
    (decodeMultiLanguage (joinLanguages first separator second)).map (·.locale) =
      (decodeMultiLanguage first).map (·.locale) ∧
    ∀ locale ∈ (decodeMultiLanguage first).map (·.locale),
      ∃ tail, TailOf (decodeMultiLanguage second) locale tail ∧
        (resolveLocalizedText (joinLanguages first separator second) [locale]).text =
          (resolveLocalizedText first [locale]).text ++ separator ++ tail.text := by
  have hdecode := decodeMultiLanguage_joinLanguages hjson hfirst hsecond separator
  constructor
  · rw [hdecode, List.map_map]
    rfl
  · intro locale hlocale
    rcases List.mem_map.mp hlocale with ⟨piece, hpiece, rfl⟩
    have hnamed := (hfirst.decode hjson).2 piece hpiece
    refine ⟨_, tailOf_tailFor (decodeMultiLanguage_ne_nil hsecond) piece.locale, ?_⟩
    have hchosen := selectLocalizedText_one hnamed ⟨piece, hpiece, rfl⟩
    have hkeeps : ∀ t, (combined separator (decodeMultiLanguage second) t).locale = t.locale :=
      fun _ => rfl
    rw [resolveLocalizedText, hdecode, selectLocalizedText_map hkeeps
      (decodeMultiLanguage_ne_nil hfirst.nonempty) (by simpa using hnamed),
      ← tailFor_congr hchosen]
    rfl

end Joining

theorem joinLanguages_byLanguage_twoLanguages :
    let translations : List LocalizedText :=
      [{ locale := "ru", text := ['1'] }, { locale := "en", text := ['2'] }]
    let second : LocalizedText := { locale := "EN", text := ['3'] }
    ∃ json : JsonLibrary, json.ReadsPacked ∧ Joinable (encodeMultiLanguage translations) ∧
      (decodeMultiLanguage (joinLanguages (encodeMultiLanguage translations) [':'] second)).map
        (·.locale) = ["ru", "en"] := by
  intro translations second
  refine ⟨unaryJson, unaryJson_readsPacked, ?_⟩
  have hfirst : @Joinable unaryJson (@encodeMultiLanguage unaryJson translations) :=
    @Joinable.packed unaryJson _ (by decide) (by decide) (by decide)
  have hlocales := (@joinLanguages_byLanguage unaryJson unaryJson_readsPacked _ second [':']
    hfirst (by decide)).1
  rw [@decodeMultiLanguage_encodeMultiLanguage translations unaryJson unaryJson_readsPacked
    (by decide) (by decide)] at hlocales
  exact ⟨hfirst, hlocales⟩

end ScadaCore.Scada
