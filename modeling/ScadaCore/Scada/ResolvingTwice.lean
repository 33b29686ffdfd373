import ScadaCore.Data.Selection
import ScadaCore.Scada.Locale

/-!
# Scada.ResolvingTwice — texts that pass several tiers with the same preferences

A tier that asks for every language names behind that the languages it wants. The
walk over them takes a translation once for every locale that it matches, and `en`
and `en-US` match each other. So with overlapping preferences a text is packed with
the same translation twice, and the next tier, which does the same to each of the
two, packs it four times.
-/

namespace ScadaCore.Scada

open Selection

variable {stored translation : LocalizedText} {translations : List LocalizedText}
  {rest : List String}

/-- The locales behind a leading special one that name a language. -/
def languages (rest : List String) : List String := rest.filter (!requestsEveryLanguage ·)

def LocalizedText.meets (translation : LocalizedText) (locale : String) : Bool :=
  localeMatches translation.locale locale

/-! ## Narrowing -/

theorem narrow_eq_select (translations : List LocalizedText) (rest : List String) :
    narrow translations rest = select LocalizedText.meets translations (languages rest) := rfl

theorem disjoint_of_narrow_eq_nil (h : narrow translations rest = []) :
    Disjoint LocalizedText.meets translations (languages rest) := by
  intro translation hmem
  by_contra hmany
  have hselected : translation ∈ select LocalizedText.meets translations (languages rest) :=
    mem_select_iff.mpr ⟨hmem, by omega⟩
  rw [← narrow_eq_select, h] at hselected
  cases hselected

theorem narrowed_of_nil (h : narrow translations rest = []) :
    narrowed translations rest = translations := by
  rw [narrowed, h]
  rfl

theorem narrowed_of_ne_nil (h : narrow translations rest ≠ []) :
    narrowed translations rest = narrow translations rest := by
  rw [narrowed, if_neg (by simpa using h)]

theorem nodup_narrowed_iff (hnodup : translations.Nodup) :
    (narrowed translations rest).Nodup ↔
      Disjoint LocalizedText.meets translations (languages rest) := by
  by_cases h : narrow translations rest = []
  · rw [narrowed_of_nil h]
    exact iff_of_true hnodup (disjoint_of_narrow_eq_nil h)
  · rw [narrowed_of_ne_nil h, narrow_eq_select]
    exact nodup_select_iff hnodup

theorem narrowed_narrowed_iff :
    narrowed (narrowed translations rest) rest = narrowed translations rest ↔
      Disjoint LocalizedText.meets translations (languages rest) := by
  by_cases h : narrow translations rest = []
  · rw [narrowed_of_nil h, narrowed_of_nil h]
    exact iff_of_true rfl (disjoint_of_narrow_eq_nil h)
  · rw [narrowed_of_ne_nil h]
    -- what was selected matches something, so it is selected again
    have hagain : narrow (narrow translations rest) rest ≠ [] := by
      rcases List.exists_mem_of_ne_nil _ h with ⟨translation, hmem⟩
      have hselected : translation ∈ narrow (narrow translations rest) rest :=
        mem_select_iff.mpr ⟨hmem, (mem_select_iff.mp hmem).2⟩
      exact List.ne_nil_of_mem hselected
    rw [narrowed_of_ne_nil hagain]
    exact select_select_iff

theorem le_length_narrowed_replicate (n : Nat) :
    n ≤ (narrowed (List.replicate n translation) rest).length := by
  by_cases h : narrow (List.replicate n translation) rest = []
  · rw [narrowed_of_nil h, List.length_replicate]
  · rw [narrowed_of_ne_nil h]
    rcases List.exists_mem_of_ne_nil _ h with ⟨other, hmem⟩
    rcases mem_select_iff.mp hmem with ⟨hother, hwanted⟩
    rw [List.eq_of_mem_replicate hother] at hwanted
    calc n = 1 * (List.replicate n translation).count translation := by simp
      _ ≤ wanted LocalizedText.meets (languages rest) translation *
          (List.replicate n translation).count translation := Nat.mul_le_mul_right _ hwanted
      _ = (narrow (List.replicate n translation) rest).count translation := by
        rw [narrow_eq_select, count_select]
      _ ≤ (narrow (List.replicate n translation) rest).length := List.count_le_length

theorem eq_of_isEmpty (h : stored.isEmpty = true) : stored = {} := by
  rcases stored with ⟨locale, text⟩
  simp only [LocalizedText.isEmpty, Bool.and_eq_true, String.isEmpty_iff, List.isEmpty_iff] at h
  rw [h.1, h.2]

section Library

variable [json : JsonLibrary]

/-- If the session asks for every language, no translation matches two of the
languages that it names. -/
def NoOverlap (requested : List String) (stored : LocalizedText) : Prop :=
  match requested with
  | [] => True
  | lead :: rest =>
    requestsEveryLanguage lead = true →
      ∀ translation ∈ decodeMultiLanguage stored,
        (languages rest).countP (localeMatches translation.locale) ≤ 1

instance : (requested : List String) → (stored : LocalizedText) →
    Decidable (NoOverlap requested stored)
  | [], _ => .isTrue trivial
  | _ :: _, _ => inferInstanceAs (Decidable (_ → _))

/-! ## Packed texts -/

theorem encodeMultiLanguage_inj (hjson : json.ReadsPacked) {ts ts' : List LocalizedText}
    (hlen : 2 ≤ ts.length) (hlen' : 2 ≤ ts'.length)
    (h : encodeMultiLanguage ts = encodeMultiLanguage ts') : ts = ts' := by
  rw [encodeMultiLanguage_of_two hlen, encodeMultiLanguage_of_two hlen',
    LocalizedText.mk.injEq] at h
  have hparse := congrArg JsonLibrary.parse h.2
  rw [hjson ts, hjson ts', Option.some.injEq] at hparse
  simp only [packedDocument, Json.object.injEq, List.cons.injEq, Prod.mk.injEq, Json.array.injEq,
    true_and, and_true] at hparse
  refine List.map_injective_iff.mpr ?_ hparse
  rintro ⟨locale, text⟩ ⟨locale', text'⟩ heq
  simp only [Json.array.injEq, List.cons.injEq, Json.string.injEq, and_true] at heq
  rw [String.toList_inj.mp heq.1, heq.2]

/-- Where all of the translations have a language, a packed text is none of them. -/
theorem two_le_of_encodeMultiLanguage_eq {ts ts' : List LocalizedText} (hlen : 2 ≤ ts.length)
    (hne : ts' ≠ []) (hplain : ∀ t ∈ ts', isSpecialLocale t.locale = false)
    (h : encodeMultiLanguage ts' = encodeMultiLanguage ts) : 2 ≤ ts'.length := by
  rcases ts' with _ | ⟨t, _ | ⟨t', ts'⟩⟩
  · exact absurd rfl hne
  · have hlocale := congrArg LocalizedText.locale h
    rw [encodeMultiLanguage_of_two hlen] at hlocale
    have hspecial := hplain t (List.mem_singleton.mpr rfl)
    rw [show t.locale = multiLanguageLocale from hlocale, isSpecialLocale_mul] at hspecial
    cases hspecial
  · simp

/-- Only a text that is not packed can have a locale with NUL. -/
theorem noNul_or_plain (stored : LocalizedText) :
    (∀ t ∈ decodeMultiLanguage stored, '\x00' ∉ t.locale.toList) ∨
      decodeMultiLanguage stored = [stored] := by
  unfold decodeMultiLanguage
  split_ifs with hempty hplain hnone
  · left
    intro t ht
    cases ht
  · exact .inr rfl
  · exact .inr rfl
  · left
    intro t ht
    -- every translation of a document has come through a C string
    unfold translationsOf at ht
    split at ht
    · split at ht
      · rcases List.mem_filterMap.mp ht with ⟨pair, -, hpair⟩
        unfold translationOf at hpair
        split at hpair
        · rw [← Option.some.inj hpair, String.toList_ofList]
          intro hnul
          exact absurd (List.mem_takeWhile_imp hnul) (by decide)
        · cases hpair
      · cases ht
    · cases ht

/-! ## Resolving -/

theorem resolveLocalizedText_of_every {lead : String} (hlead : requestsEveryLanguage lead = true)
    (stored : LocalizedText) (rest : List String) :
    resolveLocalizedText stored (lead :: rest) =
      encodeMultiLanguage (narrowed (decodeMultiLanguage stored) rest) := by
  unfold resolveLocalizedText
  cases decodeMultiLanguage stored with
  | nil => simp [selectLocalizedText, narrowed, narrow, encodeMultiLanguage]
  | cons first others => simp [selectLocalizedText, hlead]

/-- At most one translation is left, which the next tier leaves alone. -/
theorem resolve_again_of_single {lead : String} (hlead : requestsEveryLanguage lead = true)
    (hlanguages : Translated stored) (hnodup : (decodeMultiLanguage stored).Nodup)
    (hsingle : narrowed (decodeMultiLanguage stored) rest = [translation]) :
    Disjoint LocalizedText.meets (decodeMultiLanguage stored) (languages rest) ∧
      resolveLocalizedText translation (lead :: rest) = translation ∧
      (decodeMultiLanguage translation).Nodup := by
  have hdisjoint : Disjoint LocalizedText.meets (decodeMultiLanguage stored) (languages rest) := by
    rw [← nodup_narrowed_iff hnodup, hsingle]
    exact List.nodup_singleton _
  have hagain := narrowed_narrowed_iff.mpr hdisjoint
  rw [hsingle] at hagain
  have hplain : isSpecialLocale translation.locale = false := by
    apply hlanguages
    have hmem : translation ∈ narrowed (decodeMultiLanguage stored) rest := by
      rw [hsingle]
      exact List.mem_singleton.mpr rfl
    exact mem_of_mem_narrowed hmem
  have hdecode := decodeMultiLanguage_of_plain hplain
  rw [resolveLocalizedText_of_every hlead]
  refine ⟨hdisjoint, ?_, ?_⟩
  · rw [hdecode]
    split
    · rename_i hempty
      rw [eq_of_isEmpty hempty]
      simp [narrowed, narrow, encodeMultiLanguage]
    · rw [hagain]
      rfl
  · rw [hdecode]
    split <;> simp

/-- Several translations are left, which the next tier unpacks again. -/
theorem resolve_again_of_packed (hjson : json.ReadsPacked) {lead : String}
    (hlead : requestsEveryLanguage lead = true) (hlanguages : Translated stored)
    (hnodup : (decodeMultiLanguage stored).Nodup)
    (hlen : 2 ≤ (narrowed (decodeMultiLanguage stored) rest).length)
    (hnul : ∀ t ∈ decodeMultiLanguage stored, '\x00' ∉ t.locale.toList) :
    (resolveLocalizedText (encodeMultiLanguage (narrowed (decodeMultiLanguage stored) rest))
        (lead :: rest) = encodeMultiLanguage (narrowed (decodeMultiLanguage stored) rest) ↔
      Disjoint LocalizedText.meets (decodeMultiLanguage stored) (languages rest)) ∧
    ((decodeMultiLanguage
        (encodeMultiLanguage (narrowed (decodeMultiLanguage stored) rest))).Nodup ↔
      Disjoint LocalizedText.meets (decodeMultiLanguage stored) (languages rest)) := by
  have hdecode := decodeMultiLanguage_encodeMultiLanguage hjson hlen
    fun t ht => hnul t (mem_of_mem_narrowed ht)
  rw [resolveLocalizedText_of_every hlead, hdecode, ← narrowed_narrowed_iff]
  constructor
  · constructor
    · intro heq
      -- equal packed texts have equal translations, once both are packed
      have hne : narrowed (narrowed (decodeMultiLanguage stored) rest) rest ≠ [] := by
        apply narrowed_ne_nil
        intro hnil
        rw [hnil] at hlen
        cases hlen
      have hplain : ∀ t ∈ narrowed (narrowed (decodeMultiLanguage stored) rest) rest,
          isSpecialLocale t.locale = false := by
        intro t ht
        exact hlanguages t (mem_of_mem_narrowed (mem_of_mem_narrowed ht))
      exact encodeMultiLanguage_inj hjson (two_le_of_encodeMultiLanguage_eq hlen hne hplain heq) hlen heq
    · intro heq
      rw [heq]
  · rw [nodup_narrowed_iff hnodup, narrowed_narrowed_iff]

/-- A text in one language whose locale has a NUL is packed only if it is taken
twice. Then it is not the same text that comes out. -/
theorem resolve_again_of_nul (hjson : json.ReadsPacked) {lead : String}
    (hlead : requestsEveryLanguage lead = true) (hnul : '\x00' ∈ stored.locale.toList)
    (hlen : 2 ≤ (narrowed [stored] rest).length) :
    ¬ Disjoint LocalizedText.meets [stored] (languages rest) ∧
      resolveLocalizedText (encodeMultiLanguage (narrowed [stored] rest)) (lead :: rest) ≠
        encodeMultiLanguage (narrowed [stored] rest) ∧
      ¬ (decodeMultiLanguage (encodeMultiLanguage (narrowed [stored] rest))).Nodup := by
  have hcopies : narrowed [stored] rest =
      List.replicate (narrowed [stored] rest).length stored := by
    rw [List.eq_replicate_iff]
    exact ⟨rfl, fun t ht => List.mem_singleton.mp (mem_of_mem_narrowed ht)⟩
  generalize (narrowed [stored] rest).length = n at hlen hcopies
  have hdecode : decodeMultiLanguage (encodeMultiLanguage (narrowed [stored] rest)) =
      List.replicate n stored.throughCString := by
    rw [hcopies, decodeMultiLanguage_of_two hjson (by simpa using hlen), List.map_replicate]
  have htwice : ∀ t : LocalizedText, ¬ (List.replicate n t).Nodup := by
    intro t hno
    rw [List.nodup_replicate] at hno
    omega
  refine ⟨?_, ?_, ?_⟩
  · rw [← nodup_narrowed_iff (List.nodup_singleton stored), hcopies]
    exact htwice stored
  · intro heq
    rw [resolveLocalizedText_of_every hlead, hdecode] at heq
    have hmany : n ≤ (narrowed (List.replicate n stored.throughCString) rest).length :=
      le_length_narrowed_replicate n
    have hsame := encodeMultiLanguage_inj hjson (hlen.trans hmany)
      (by rw [hcopies, List.length_replicate]; exact hlen) heq
    -- the locale of one has a NUL, those of the other have none
    have hmem : stored ∈ narrowed (List.replicate n stored.throughCString) rest := by
      rw [hsame, hcopies, List.mem_replicate]
      exact ⟨by omega, rfl⟩
    have hcut := List.eq_of_mem_replicate (mem_of_mem_narrowed hmem)
    rw [hcut, LocalizedText.throughCString, String.toList_ofList] at hnul
    exact absurd (List.mem_takeWhile_imp hnul) (by decide)
  · rw [hdecode]
    exact htwice _

theorem resolve_again_of_one {requested : List String}
    (hpacks : ∀ text, packs requested text = false) (hlanguages : Translated stored) :
    resolveLocalizedText (resolveLocalizedText stored requested) requested =
        resolveLocalizedText stored requested ∧
      (decodeMultiLanguage (resolveLocalizedText stored requested)).Nodup := by
  have hplain : isSpecialLocale (resolveLocalizedText stored requested).locale = false := by
    rw [packs_iff hlanguages]
    exact hpacks stored
  refine ⟨resolveLocalizedText_of_plain hplain (hpacks _), ?_⟩
  rw [decodeMultiLanguage_of_plain hplain]
  split <;> simp

theorem resolve_again_of_every (hjson : json.ReadsPacked) {lead : String}
    (hlead : requestsEveryLanguage lead = true) (hlanguages : Translated stored)
    (hnodup : (decodeMultiLanguage stored).Nodup) :
    (resolveLocalizedText (resolveLocalizedText stored (lead :: rest)) (lead :: rest) =
        resolveLocalizedText stored (lead :: rest) ↔
      Disjoint LocalizedText.meets (decodeMultiLanguage stored) (languages rest)) ∧
    ((decodeMultiLanguage (resolveLocalizedText stored (lead :: rest))).Nodup ↔
      Disjoint LocalizedText.meets (decodeMultiLanguage stored) (languages rest)) := by
  rw [resolveLocalizedText_of_every hlead stored]
  by_cases hlen : 2 ≤ (narrowed (decodeMultiLanguage stored) rest).length
  · -- packed
    by_cases hnul : ∀ t ∈ decodeMultiLanguage stored, '\x00' ∉ t.locale.toList
    · exact resolve_again_of_packed hjson hlead hlanguages hnodup hlen hnul
    · have hone := (noNul_or_plain stored).resolve_left hnul
      rw [hone] at hlen hnul ⊢
      have hnul' : '\x00' ∈ stored.locale.toList := by
        by_contra hno
        apply hnul
        intro t ht
        rw [List.mem_singleton.mp ht]
        exact hno
      rcases resolve_again_of_nul hjson hlead hnul' hlen with ⟨hoverlap, hchanged, htwice⟩
      exact ⟨iff_of_false hchanged hoverlap, iff_of_false htwice hoverlap⟩
  · match hnarrowed : narrowed (decodeMultiLanguage stored) rest, hlen with
    | [], _ =>
      -- there was nothing to translate
      have hnone : decodeMultiLanguage stored = [] := by
        by_contra hsome
        exact narrowed_ne_nil hsome hnarrowed
      have hempty : resolveLocalizedText {} (lead :: rest) = {} := by
        rw [resolveLocalizedText_of_every hlead]
        simp [decodeMultiLanguage, LocalizedText.isEmpty, narrowed, narrow, encodeMultiLanguage]
      have hdisjoint : Disjoint LocalizedText.meets (decodeMultiLanguage stored)
          (languages rest) := by
        rw [hnone]
        intro t ht
        cases ht
      exact ⟨iff_of_true hempty hdisjoint, iff_of_true List.nodup_nil hdisjoint⟩
    | [only], _ =>
      rcases resolve_again_of_single hlead hlanguages hnodup hnarrowed with
        ⟨hdisjoint, hsame, honce⟩
      exact ⟨iff_of_true hsame hdisjoint, iff_of_true honce hdisjoint⟩
    | _ :: _ :: _, hshort => exact absurd (by simp) hshort

/-- **Resolving twice.** For a text in one language, or packed with languages of
which each has one translation, resolving it again for the same session changes
nothing if and only if no translation matches two of the languages that the session
names behind a leading special locale. The same decides whether the result has a
translation twice. -/
theorem resolve_twice_iff (hjson : json.ReadsPacked) (stored : LocalizedText)
    (requested : List String) (hlanguages : Translated stored)
    (honce : ((decodeMultiLanguage stored).map LocalizedText.locale).Nodup) :
    (resolveLocalizedText (resolveLocalizedText stored requested) requested =
        resolveLocalizedText stored requested ↔ NoOverlap requested stored) ∧
      ((decodeMultiLanguage (resolveLocalizedText stored requested)).Nodup ↔
        NoOverlap requested stored) := by
  have hnodup : (decodeMultiLanguage stored).Nodup := List.Nodup.of_map _ honce
  rcases requested with _ | ⟨lead, rest⟩
  · have hnone : ∀ text, packs [] text = false := fun _ => rfl
    rcases resolve_again_of_one hnone hlanguages with ⟨hsame, hunique⟩
    exact ⟨iff_of_true hsame trivial, iff_of_true hunique trivial⟩
  · by_cases hlead : requestsEveryLanguage lead = true
    · have hoverlap : NoOverlap (lead :: rest) stored ↔
          Disjoint LocalizedText.meets (decodeMultiLanguage stored) (languages rest) := by
        exact ⟨fun h => h hlead, fun h _ => h⟩
      rw [hoverlap]
      exact resolve_again_of_every hjson hlead hlanguages hnodup
    · have hoverlap : NoOverlap (lead :: rest) stored := fun h => absurd h hlead
      have hpacks : ∀ text, packs (lead :: rest) text = false := by
        intro text
        simp [packs, hlead]
      rcases resolve_again_of_one hpacks hlanguages with ⟨hsame, hunique⟩
      exact ⟨iff_of_true hsame hoverlap, iff_of_true hunique hoverlap⟩

end Library

/-- English and Russian are wanted, in this order. -/
theorem resolve_twice_english_russian :
    ∃ json : JsonLibrary, json.ReadsPacked ∧
      let stored : LocalizedText := { locale := "en", text := ['P', 'u', 'm', 'p'] }
      let requested := ["mul", "en", "ru"]
      (resolveLocalizedText (resolveLocalizedText stored requested) requested =
          resolveLocalizedText stored requested ↔ NoOverlap requested stored) ∧
        ((decodeMultiLanguage (resolveLocalizedText stored requested)).Nodup ↔
          NoOverlap requested stored) := by
  refine ⟨unaryJson, unaryJson_readsPacked, ?_⟩
  exact @resolve_twice_iff unaryJson unaryJson_readsPacked _ _
    (by unfold Translated; decide) (by decide)

/-- A text in English for a session that wants every language, of these `en` and
`en-US`: it gets the translation twice, and four times from the second tier. -/
theorem resolve_twice_overlapping :
    let stored : LocalizedText := { locale := "en", text := ['P', 'u', 'm', 'p'] }
    let requested := ["mul", "en", "en-US"]
    requestsEveryLanguage "mul" = true ∧ ∀ [json : JsonLibrary], json.ReadsPacked →
      Translated stored ∧ ((decodeMultiLanguage stored).map LocalizedText.locale).Nodup ∧
        decodeMultiLanguage (resolveLocalizedText stored requested) = [stored, stored] ∧
        decodeMultiLanguage
            (resolveLocalizedText (resolveLocalizedText stored requested) requested) =
          [stored, stored, stored, stored] ∧
        resolveLocalizedText (resolveLocalizedText stored requested) requested ≠
          resolveLocalizedText stored requested := by
  intro stored requested
  have hlead : requestsEveryLanguage "mul" = true := by decide
  refine ⟨hlead, ?_⟩
  intro json hjson
  have hplain : decodeMultiLanguage stored = [stored] :=
    decodeMultiLanguage_of_plain (by decide)
  have hone : narrowed [stored] ["en", "en-US"] = [stored, stored] := by decide
  have htwo : narrowed [stored, stored] ["en", "en-US"] = [stored, stored, stored, stored] := by
    decide
  have honce : resolveLocalizedText stored requested = encodeMultiLanguage [stored, stored] := by
    rw [resolveLocalizedText_of_every hlead, hplain, hone]
  have hdecode : decodeMultiLanguage (encodeMultiLanguage [stored, stored]) = [stored, stored] :=
    decodeMultiLanguage_encodeMultiLanguage hjson (by decide) (by decide)
  have hagain : resolveLocalizedText (encodeMultiLanguage [stored, stored]) requested =
      encodeMultiLanguage [stored, stored, stored, stored] := by
    rw [resolveLocalizedText_of_every hlead, hdecode, htwo]
  have hdecode' : decodeMultiLanguage (encodeMultiLanguage [stored, stored, stored, stored]) =
      [stored, stored, stored, stored] :=
    decodeMultiLanguage_encodeMultiLanguage hjson (by decide) (by decide)
  rw [honce, hagain]
  refine ⟨?_, by rw [hplain]; decide, hdecode, hdecode', ?_⟩
  · unfold Translated
    rw [hplain]
    decide
  · intro hsame
    have htranslations := congrArg decodeMultiLanguage hsame
    rw [hdecode, hdecode'] at htranslations
    exact absurd (congrArg List.length htranslations) (by decide)

end ScadaCore.Scada
