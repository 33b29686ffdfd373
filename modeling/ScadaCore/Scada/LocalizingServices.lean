import ScadaCore.Scada.Locale
import ScadaCore.Scada.Services

/-!
# Scada.LocalizingServices — the texts that a session receives

The wrappers of `localizing_services.cpp`, which resolve texts into the language
of a session on their way to it. `Localized` says of the texts of a message what
they are for: each is the one that `resolveLocalizedText` gives for the session,
and none is packed.
-/

namespace ScadaCore.Scada

open MonitoredItem

/-- What the wrappers read of a `ServiceContext`. -/
structure ServiceContext where
  localeIds : List String := []
deriving DecidableEq, Repr

/-! ## The wrappers -/

section Wrappers

variable [JsonLibrary] (localeIds : List String)

def resolveValue : Variant → Variant
  | some (.scalar (.localizedText text)) =>
    some (.scalar (.localizedText (resolveLocalizedText text localeIds)))
  | some (.array (.localizedText texts)) =>
    some (.array (.localizedText (texts.map (resolveLocalizedText · localeIds))))
  | value => value

/-- `ResolveIn`, for the event that an `Event` is and a `DeviceFrameEvent` has. -/
def resolveIn (event : Event) : Event :=
  { event with
    message := resolveLocalizedText event.message localeIds
    sourceName := resolveLocalizedText event.sourceName localeIds }

def resolveEventMessage : Option AnyEvent → Option AnyEvent
  | some (.event event) => some (.event (resolveIn localeIds event))
  | some (.deviceFrame event) =>
    some (.deviceFrame { event with base := resolveIn localeIds event.base })
  | payload => payload

namespace LocalizingViewService

def browse (context : ServiceContext) (inputs : List BrowseDescription) :
    Call (ServiceContext × List BrowseDescription) (StatusOr (List BrowseResult)) where
  sent := (context, inputs)
  resume := Except.map <| List.map fun result =>
    { result with
      references := result.references.map fun reference =>
        { reference with
          displayName := resolveLocalizedText reference.displayName context.localeIds } }

def translateBrowsePaths (inputs : List BrowsePath) :
    Call (List BrowsePath) (StatusOr (List BrowsePathResult)) where
  sent := inputs

end LocalizingViewService

namespace LocalizingAttributeService

def read (context : ServiceContext) (inputs : List ReadValueId) :
    Call (ServiceContext × List ReadValueId) (StatusOr (List (DataValue Value))) where
  sent := (context, inputs)
  resume := Except.map <| List.map fun result =>
    { result with value := resolveValue context.localeIds result.value }

def write (context : ServiceContext) (inputs : List WriteValue) :
    Call (ServiceContext × List WriteValue) (StatusOr (List StatusCode)) where
  sent := (context, inputs)

end LocalizingAttributeService

/-- The subscription that a session gets: that of the wrapped service, or a
`LocalizingSubscription` around it. -/
inductive SessionSubscription (S : Type) where
  | inner (subscription : S)
  | localizing (subscription : S) (localeIds : List String)

namespace LocalizingMonitoredItemService

variable {S : Type}

def createSubscription (inner : ServiceContext → SubscriptionOptions → StatusOr S)
    (context : ServiceContext) (options : SubscriptionOptions) :
    StatusOr (SessionSubscription S) :=
  (inner context options).map fun subscription =>
    if context.localeIds.isEmpty then .inner subscription
    else .localizing subscription context.localeIds

end LocalizingMonitoredItemService

namespace SessionSubscription

variable {S : Type}

/-- One round of the loop of `LocalizingSubscription::ReadNext`. -/
def resolveNotification :
    Notification Value AnyEvent → Notification Value AnyEvent
  | .event itemId clientHandle status payload =>
    .event itemId clientHandle status (resolveEventMessage localeIds payload)
  | notification => notification

def readNext (subscription : SessionSubscription S) (maxCount : Nat) :
    Call Nat (StatusOr (List (Notification Value AnyEvent))) where
  sent := maxCount
  resume :=
    match subscription with
    | .inner _ => id
    | .localizing _ localeIds => Except.map (List.map (resolveNotification localeIds))

end SessionSubscription

end Wrappers

/-! ## The texts of a message -/

def Variant.texts : Variant → List LocalizedText
  | some (.scalar (.localizedText text)) => [text]
  | some (.array (.localizedText texts)) => texts
  | _ => []

def Event.texts (event : Event) : List LocalizedText := [event.message, event.sourceName]

def AnyEvent.texts : AnyEvent → List LocalizedText
  | .event payload => payload.texts
  | .deviceFrame payload => payload.base.texts
  | .modelChange _ | .semanticChange _ => []

def MonitoredItem.Notification.valueTexts : Notification Value AnyEvent → List LocalizedText
  | .dataChange _ _ value => Variant.texts value.value
  | _ => []

def MonitoredItem.Notification.eventTexts : Notification Value AnyEvent → List LocalizedText
  | .event _ _ _ (some payload) => payload.texts
  | _ => []

def BrowseResult.texts (result : BrowseResult) : List LocalizedText :=
  result.references.map (·.displayName)

def answerTexts {A : Type} (texts : A → List LocalizedText) (answer : StatusOr (List A)) :
    List LocalizedText :=
  answer.toOption.toList.flatten.flatMap texts

theorem answerTexts_map_of_kept {A : Type} {texts : A → List LocalizedText} {g : A → A}
    (h : ∀ a, texts (g a) = texts a) (answer : StatusOr (List A)) :
    answerTexts texts (answer.map (List.map g)) = answerTexts texts answer := by
  cases answer with
  | error status => rfl
  | ok entries => simp [answerTexts, Except.map, Except.toOption, List.flatMap_map, h]

/-- What was delivered for the texts that are stored is what the session should
get, and none of it is packed. -/
def Localized [JsonLibrary] (localeIds : List String) (stored delivered : List LocalizedText) : Prop :=
  delivered = stored.map (resolveLocalizedText · localeIds) ∧
    ∀ text ∈ delivered, isSpecialLocale text.locale = false

/-! ## Which texts are resolved -/

section Resolved

variable [JsonLibrary]

variable {localeIds : List String} {stored : List LocalizedText}

theorem packs_eq_false (h : ∀ lead ∈ localeIds.head?, requestsEveryLanguage lead = false)
    (text : LocalizedText) : packs localeIds text = false := by
  cases localeIds with
  | nil => rfl
  | cons lead rest => simp [packs, h lead rfl]

theorem localized_map_iff (h : ∀ text ∈ stored, Translated text) :
    Localized localeIds stored (stored.map (resolveLocalizedText · localeIds)) ↔
      ∀ text ∈ stored, packs localeIds text = false := by
  simp only [Localized, true_and, List.forall_mem_map]
  constructor
  · intro hplain text hmem
    rw [← packs_iff (h text hmem)]
    exact hplain text hmem
  · intro hpacks text hmem
    rw [packs_iff (h text hmem)]
    exact hpacks text hmem

theorem localized_self_iff (h : ∀ text ∈ stored, Translated text) :
    Localized localeIds stored stored ↔
      ∀ text ∈ stored, isSpecialLocale text.locale = false ∧ packs localeIds text = false := by
  constructor
  · rintro ⟨hsame, hplain⟩ text hmem
    have hresolved : resolveLocalizedText text localeIds = text :=
      List.map_eq_self_iff.mp hsame.symm text hmem
    refine ⟨hplain text hmem, ?_⟩
    rw [← packs_iff (h text hmem), hresolved]
    exact hplain text hmem
  · intro hall
    refine ⟨?_, fun text hmem => (hall text hmem).1⟩
    symm
    rw [List.map_eq_self_iff]
    intro text hmem
    exact resolveLocalizedText_of_plain (hall text hmem).1 (hall text hmem).2

theorem answerTexts_map {A : Type} {texts : A → List LocalizedText} {g : A → A}
    (h : ∀ a, texts (g a) = (texts a).map (resolveLocalizedText · localeIds))
    (answer : StatusOr (List A)) :
    answerTexts texts (answer.map (List.map g)) =
      (answerTexts texts answer).map (resolveLocalizedText · localeIds) := by
  cases answer with
  | error status => rfl
  | ok entries =>
    simp [answerTexts, Except.map, Except.toOption, List.flatMap_map, List.map_flatMap, h]

theorem texts_resolveValue (value : Variant) :
    Variant.texts (resolveValue localeIds value) =
      (Variant.texts value).map (resolveLocalizedText · localeIds) := by
  rcases value with _ | scalar | elements
  · rfl
  · cases scalar <;> rfl
  · cases elements <;> rfl

theorem eventTexts_resolveNotification (n : Notification Value AnyEvent) :
    (SessionSubscription.resolveNotification localeIds n).eventTexts =
      n.eventTexts.map (resolveLocalizedText · localeIds) := by
  cases n with
  | event itemId clientHandle status payload =>
    rcases payload with _ | payload
    · rfl
    · cases payload <;> rfl
  | _ => rfl

theorem valueTexts_resolveNotification (n : Notification Value AnyEvent) :
    (SessionSubscription.resolveNotification localeIds n).valueTexts = n.valueTexts := by
  cases n <;> rfl

end Resolved

/-! ## What reaches a session -/

section Session

variable {S : Type} {context : ServiceContext}

variable {inner : ServiceContext → SubscriptionOptions → StatusOr S}
  {options : SubscriptionOptions} {subscription : SessionSubscription S}

theorem createSubscription_spec
    (h : LocalizingMonitoredItemService.createSubscription inner context options =
      .ok subscription) :
    ∃ bare, inner context options = .ok bare ∧
      (context.localeIds = [] ∧ subscription = .inner bare ∨
        context.localeIds ≠ [] ∧ subscription = .localizing bare context.localeIds) := by
  unfold LocalizingMonitoredItemService.createSubscription at h
  cases hinner : inner context options with
  | error status =>
    rw [hinner] at h
    cases h
  | ok bare =>
    rw [hinner] at h
    refine ⟨bare, rfl, ?_⟩
    have hcreated := Except.ok.inj h
    cases hids : context.localeIds with
    | nil => exact Or.inl ⟨rfl, by simpa [hids] using hcreated.symm⟩
    | cons lead rest => exact Or.inr ⟨by simp, by simpa [hids] using hcreated.symm⟩

variable [JsonLibrary]

theorem readTexts_resume (inputs : List ReadValueId)
    (values : StatusOr (List (DataValue Value))) :
    answerTexts (Variant.texts ·.value)
        ((LocalizingAttributeService.read context inputs).resume values) =
      (answerTexts (Variant.texts ·.value) values).map
        (resolveLocalizedText · context.localeIds) :=
  answerTexts_map (fun result => texts_resolveValue result.value) values

theorem browseTexts_resume (inputs : List BrowseDescription)
    (results : StatusOr (List BrowseResult)) :
    answerTexts BrowseResult.texts ((LocalizingViewService.browse context inputs).resume results) =
      (answerTexts BrowseResult.texts results).map (resolveLocalizedText · context.localeIds) := by
  refine answerTexts_map ?_ results
  intro result
  simp [BrowseResult.texts]

theorem valueTexts_resume (maxCount : Nat)
    (notifications : StatusOr (List (Notification Value AnyEvent))) :
    answerTexts Notification.valueTexts ((subscription.readNext maxCount).resume notifications) =
      answerTexts Notification.valueTexts notifications := by
  cases subscription with
  | inner bare => rfl
  | localizing bare localeIds =>
    exact answerTexts_map_of_kept valueTexts_resolveNotification notifications

/-- Texts that the loop resolves are resolved for a session that has locales, and
handed on for one that has none. -/
theorem notificationTexts_resume {texts : Notification Value AnyEvent → List LocalizedText}
    (htexts : ∀ localeIds n, texts (SessionSubscription.resolveNotification localeIds n) =
      (texts n).map (resolveLocalizedText · localeIds))
    (h : LocalizingMonitoredItemService.createSubscription inner context options =
      .ok subscription) (maxCount : Nat)
    (notifications : StatusOr (List (Notification Value AnyEvent))) :
    answerTexts texts ((subscription.readNext maxCount).resume notifications) =
      if context.localeIds = [] then answerTexts texts notifications
      else (answerTexts texts notifications).map (resolveLocalizedText · context.localeIds) := by
  obtain ⟨bare, -, ⟨hnone, rfl⟩ | ⟨hsome, rfl⟩⟩ := createSubscription_spec h
  · rw [if_pos hnone]
    rfl
  · rw [if_neg hsome]
    exact answerTexts_map (htexts context.localeIds) notifications

/-- **What reaches a session, exactly.** What is read and browsed is resolved, and
packed only for a session that asked for every language. A data change must have
been stored in one language, and so must an event for a session without locales. -/
theorem localizing_resolves_iff (inner : ServiceContext → SubscriptionOptions → StatusOr S)
    (context : ServiceContext) (options : SubscriptionOptions)
    (subscription : SessionSubscription S)
    (hcreated : LocalizingMonitoredItemService.createSubscription inner context options =
      .ok subscription)
    (inputs : List ReadValueId) (descriptions : List BrowseDescription) (maxCount : Nat)
    (values : StatusOr (List (DataValue Value))) (results : StatusOr (List BrowseResult))
    (notifications : StatusOr (List (Notification Value AnyEvent)))
    (hvalues : ∀ text ∈ answerTexts (Variant.texts ·.value) values, Translated text)
    (hresults : ∀ text ∈ answerTexts BrowseResult.texts results, Translated text)
    (hchanges : ∀ text ∈ answerTexts Notification.valueTexts notifications, Translated text)
    (hevents : ∀ text ∈ answerTexts Notification.eventTexts notifications, Translated text) :
    (Localized context.localeIds (answerTexts (Variant.texts ·.value) values)
        (answerTexts (Variant.texts ·.value)
          ((LocalizingAttributeService.read context inputs).resume values)) ↔
      ∀ text ∈ answerTexts (Variant.texts ·.value) values,
        packs context.localeIds text = false) ∧
    (Localized context.localeIds (answerTexts BrowseResult.texts results)
        (answerTexts BrowseResult.texts
          ((LocalizingViewService.browse context descriptions).resume results)) ↔
      ∀ text ∈ answerTexts BrowseResult.texts results,
        packs context.localeIds text = false) ∧
    (Localized context.localeIds (answerTexts Notification.valueTexts notifications)
        (answerTexts Notification.valueTexts
          ((subscription.readNext maxCount).resume notifications)) ↔
      ∀ text ∈ answerTexts Notification.valueTexts notifications,
        isSpecialLocale text.locale = false ∧ packs context.localeIds text = false) ∧
    (Localized context.localeIds (answerTexts Notification.eventTexts notifications)
        (answerTexts Notification.eventTexts
          ((subscription.readNext maxCount).resume notifications)) ↔
      ∀ text ∈ answerTexts Notification.eventTexts notifications,
        (context.localeIds = [] → isSpecialLocale text.locale = false) ∧
          packs context.localeIds text = false) ∧
    ((∀ lead ∈ context.localeIds.head?, requestsEveryLanguage lead = false) →
      ∀ text, packs context.localeIds text = false) := by
  refine ⟨?_, ?_, ?_, ?_, packs_eq_false⟩
  · rw [readTexts_resume]
    exact localized_map_iff hvalues
  · rw [browseTexts_resume]
    exact localized_map_iff hresults
  · rw [valueTexts_resume]
    exact localized_self_iff hchanges
  · rw [notificationTexts_resume (fun _ => eventTexts_resolveNotification) hcreated]
    by_cases hnone : context.localeIds = []
    · rw [if_pos hnone]
      simpa [hnone] using localized_self_iff hevents
    · rw [if_neg hnone]
      simpa [hnone] using localized_map_iff hevents

end Session

/-! ## Two sessions -/

def bothLanguages : List LocalizedText :=
  [{ locale := "ru", text := ['a'] }, { locale := "en", text := ['b'] }]

section Library

variable [json : JsonLibrary]

def twoLanguages : LocalizedText := encodeMultiLanguage bothLanguages

def namedValue : DataValue Value := { value := some (.scalar (.localizedText twoLanguages)) }

def namedEvent : Event := { eventId := 1, sourceName := twoLanguages }

theorem isSpecialLocale_twoLanguages : isSpecialLocale twoLanguages.locale = true :=
  isSpecialLocale_mul

variable (hjson : json.ReadsPacked)

include hjson

theorem decodeMultiLanguage_twoLanguages : decodeMultiLanguage twoLanguages = bothLanguages :=
  decodeMultiLanguage_encodeMultiLanguage hjson (by decide) (by decide)

theorem translated_twoLanguages : Translated twoLanguages := by
  unfold Translated
  rw [decodeMultiLanguage_twoLanguages hjson]
  decide

theorem forall_translated_twoLanguages : ∀ text ∈ [twoLanguages], Translated text := by
  intro text hmem
  rw [List.mem_singleton.mp hmem]
  exact translated_twoLanguages hjson

theorem forall_translated_namedEvent : ∀ text ∈ namedEvent.texts, Translated text := by
  intro text hmem
  rcases List.mem_pair.mp hmem with rfl | rfl
  · exact fun translation htranslation => by cases htranslation
  · exact translated_twoLanguages hjson

end Library

/-- An English session gets what it reads and browses and the events in English. -/
theorem localizing_resolves_english :
    ∃ json : JsonLibrary, json.ReadsPacked ∧
      Localized ["en"] [twoLanguages]
        (answerTexts (Variant.texts ·.value)
          ((LocalizingAttributeService.read ⟨["en"]⟩ []).resume (.ok [namedValue]))) ∧
      Localized ["en"] [twoLanguages]
        (answerTexts BrowseResult.texts
          ((LocalizingViewService.browse ⟨["en"]⟩ []).resume
            (.ok [{ references := [{ displayName := twoLanguages }] }]))) ∧
      Localized ["en"] namedEvent.texts
        (answerTexts Notification.eventTexts
          (((SessionSubscription.localizing () ["en"]).readNext 1).resume
            (.ok [.event 0 0 (.ofCode .good) (some (.event namedEvent))]))) := by
  refine ⟨unaryJson, unaryJson_readsPacked, ?_⟩
  let _ := unaryJson
  obtain ⟨hread, hbrowse, -, hevent, hpacks⟩ :=
    localizing_resolves_iff (fun _ _ => .ok ()) ⟨["en"]⟩ {} (.localizing () ["en"]) rfl [] [] 1
      (.ok [namedValue]) (.ok [{ references := [{ displayName := twoLanguages }] }])
      (.ok [.event 0 0 (.ofCode .good) (some (.event namedEvent))])
      (forall_translated_twoLanguages unaryJson_readsPacked)
      (forall_translated_twoLanguages unaryJson_readsPacked)
      (fun _ hmem => by cases hmem) (forall_translated_namedEvent unaryJson_readsPacked)
  have hplain := hpacks (by decide)
  exact ⟨hread.mpr fun text _ => hplain text, hbrowse.mpr fun text _ => hplain text,
    hevent.mpr fun text _ => ⟨fun hnone => (by cases hnone), hplain text⟩⟩

/-- The same session gets a data change with both languages, and a session without
locales the event. -/
theorem localizing_packed :
    LocalizingMonitoredItemService.createSubscription (fun _ _ => .ok ()) ⟨["en"]⟩ {} =
        .ok (.localizing () ["en"]) ∧
      LocalizingMonitoredItemService.createSubscription (fun _ _ => .ok ()) ⟨[]⟩ {} =
        .ok (.inner ()) ∧
      ∀ [json : JsonLibrary], json.ReadsPacked →
        Translated twoLanguages ∧
        ¬ Localized ["en"] [twoLanguages]
          (answerTexts Notification.valueTexts
            (((SessionSubscription.localizing () ["en"]).readNext 1).resume
              (.ok [.dataChange 0 0 namedValue]))) ∧
        ¬ Localized [] namedEvent.texts
          (answerTexts Notification.eventTexts
            (((SessionSubscription.inner ()).readNext 1).resume
              (.ok [.event 0 0 (.ofCode .good) (some (.event namedEvent))]))) := by
  refine ⟨rfl, rfl, ?_⟩
  intro json hjson
  have hspecial : isSpecialLocale twoLanguages.locale ≠ false := by
    rw [isSpecialLocale_twoLanguages]
    decide
  refine ⟨translated_twoLanguages hjson, ?_, ?_⟩
  · rintro ⟨-, hplain⟩
    exact hspecial (hplain twoLanguages List.mem_cons_self)
  · rintro ⟨-, hplain⟩
    exact hspecial (hplain twoLanguages (List.mem_cons_of_mem _ List.mem_cons_self))

end ScadaCore.Scada
