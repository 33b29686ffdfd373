import Mathlib.Data.List.Forall2
import ScadaCore.Remote.EventCodec
import ScadaCore.Scada.LocalizingServices

/-!
# Remote.SourceNames — the name of an event's source on its two ways to a client

`protocol::Event` has a locale beside the message and none beside the source name.
A client can thus not tell a packed source name from a plain one, and the server
has to send one translation (`OneTranslation`).

Events reach a session from the history (`HistoryStub`) and live (the subscription
of `LocalizingMonitoredItemService`). The history resolves the name a second time,
with no locales at all, unless the session asked for packed strings.
-/

namespace ScadaCore

open Scada

/-! ## The history -/

/-- `protocol::Response`, as far as the answer to a read of events sets it. -/
structure Remote.Wire.HistoryReadEventsResponse where
  requestId : Nat
  statusCode : Wire.StatusCode
  events : List Wire.Event := []

theorem Scada.Event.sourceName_convert {event : Event} {wire : Remote.Wire.Event}
    (h : event.convert = some wire) : wire.sourceName = utf8OfUtf16 event.sourceName.text := by
  simp only [Event.convert, Option.bind_eq_bind, Option.bind_eq_some_iff] at h
  obtain ⟨-, -, time, -, value, -, acknowledgeTime, -, hwire⟩ := h
  rw [← Option.some.inj hwire]

namespace Remote.HistoryStub

theorem sourceNames_convert {events : List Event} {wires : List Wire.Event}
    (h : events.mapM Event.convert = some wires) :
    wires.map (·.sourceName) = events.map fun event => utf8OfUtf16 event.sourceName.text := by
  induction events generalizing wires with
  | nil =>
    cases h
    rfl
  | cons event events ih =>
    simp only [List.mapM_cons, Option.bind_eq_bind, Option.bind_eq_some_iff] at h
    obtain ⟨wire, hwire, rest, hrest, hall⟩ := h
    rw [← Option.some.inj hall, List.map_cons, List.map_cons, ih hrest,
      Event.sourceName_convert hwire]

section Library

variable [JsonLibrary] (localeIds : List String)

/-- One round of the loop of `OnHistoryReadEventsAsync`. -/
def resolveEvent (event : Event) : Event :=
  let sourceName := resolveLocalizedText event.sourceName localeIds
  { event with
    message := resolveLocalizedText event.message localeIds
    sourceName :=
      if requestsPackedStrings localeIds then sourceName else resolveLocalizedText sourceName [] }

def resolvedEvents (result : StatusOr HistoryReadEventsResult) : List Event :=
  match result with
  | .ok result => result.events.map (resolveEvent localeIds)
  | .error _ => []

def onHistoryReadEvents (requestId : Nat)
    (result : StatusOr HistoryReadEventsResult) : Option Wire.HistoryReadEventsResponse := do
  let events ← (resolvedEvents localeIds result).mapM Event.convert
  return { requestId, statusCode := (StatusOr.status result).code.convert, events }

theorem onHistoryReadEvents_sourceNames {localeIds : List String} {requestId : Nat}
    {result : StatusOr HistoryReadEventsResult} {response : Wire.HistoryReadEventsResponse}
    (h : onHistoryReadEvents localeIds requestId result = some response) :
    response.events.map (·.sourceName) =
      (resolvedEvents localeIds result).map fun event => utf8OfUtf16 event.sourceName.text := by
  simp only [onHistoryReadEvents, Option.bind_eq_bind, Option.bind_eq_some_iff] at h
  obtain ⟨wires, hwires, hresponse⟩ := h
  rw [← Option.some.inj hresponse]
  exact sourceNames_convert hwires

end Library

end Remote.HistoryStub

/-! ## One translation -/

namespace Remote

def sourceNames : MonitoredItem.Notification Value AnyEvent → List LocalizedText
  | .event _ _ _ (some (.event payload)) => [payload.sourceName]
  | .event _ _ _ (some (.deviceFrame payload)) => [payload.base.sourceName]
  | _ => []

section Library

variable [json : JsonLibrary]

/-- A text whose translations are in languages, under locales that are C strings. -/
structure WellFormed (stored : LocalizedText) : Prop where
  translated : Translated stored
  noNul : ∀ translation ∈ decodeMultiLanguage stored, '\x00' ∉ translation.locale.toList

/-- What was delivered is a translation of what is stored and not packed. Nothing
is the translation of nothing. -/
def OneTranslation (stored delivered : LocalizedText) : Prop :=
  (delivered ∈ decodeMultiLanguage stored ∨
    decodeMultiLanguage stored = [] ∧ delivered = {}) ∧
  isSpecialLocale delivered.locale = false

section Text

variable {stored : LocalizedText} {localeIds : List String}

theorem oneTranslation_resolve_iff (h : WellFormed stored) :
    OneTranslation stored (resolveLocalizedText stored localeIds) ↔
      packs localeIds stored = false := by
  rw [← packs_iff h.translated]
  constructor
  · exact fun hone => hone.2
  · intro hplain
    refine ⟨resolveLocalizedText_mem ?_, hplain⟩
    rw [← packs_iff h.translated]
    exact hplain

theorem oneTranslation_self_iff :
    OneTranslation stored stored ↔ isSpecialLocale stored.locale = false := by
  constructor
  · exact fun hone => hone.2
  · intro hplain
    have hnone : packs [] stored = false := rfl
    have hmem := resolveLocalizedText_mem hnone
    rw [resolveLocalizedText_of_plain hplain hnone] at hmem
    exact ⟨hmem, hplain⟩

/-- Resolved a second time, with no locales, even a packed text is one translation. -/
theorem oneTranslation_resolve_resolve (hjson : json.ReadsPacked) (h : WellFormed stored) :
    OneTranslation stored (resolveLocalizedText (resolveLocalizedText stored localeIds) []) := by
  cases hpacks : packs localeIds stored with
  | false =>
    -- the first time left one translation, and the second leaves that
    have hone := (oneTranslation_resolve_iff h).mpr hpacks
    rw [resolveLocalizedText_of_plain hone.2 rfl]
    exact hone
  | true =>
    -- the second time takes the first of those that were packed
    obtain ⟨ts, hlen, hmem, heq⟩ := resolveLocalizedText_of_packs hpacks
    have hdecode : decodeMultiLanguage (encodeMultiLanguage ts) = ts :=
      decodeMultiLanguage_encodeMultiLanguage hjson hlen fun t ht => h.noNul t (hmem t ht)
    rw [heq, resolveLocalizedText, hdecode]
    cases ts with
    | nil => cases hlen
    | cons first others =>
      have hfirst := hmem first List.mem_cons_self
      exact ⟨Or.inl hfirst, h.translated first hfirst⟩

end Text

/-! ## The two ways -/

theorem sourceNames_resolveNotification (localeIds : List String)
    (n : MonitoredItem.Notification Value AnyEvent) :
    sourceNames (SessionSubscription.resolveNotification localeIds n) =
      (sourceNames n).map (resolveLocalizedText · localeIds) := by
  cases n with
  | event itemId clientHandle status payload =>
    rcases payload with _ | payload
    · rfl
    · cases payload <;> rfl
  | _ => rfl

theorem oneTranslation_resolveEvent_iff (hjson : json.ReadsPacked) {localeIds : List String}
    {event : Event} (h : WellFormed event.sourceName) :
    OneTranslation event.sourceName (HistoryStub.resolveEvent localeIds event).sourceName ↔
      ¬ (requestsPackedStrings localeIds = true ∧ packs localeIds event.sourceName = true) := by
  cases hlicence : requestsPackedStrings localeIds with
  | true =>
    simp only [HistoryStub.resolveEvent, hlicence, if_true, true_and, Bool.not_eq_true]
    exact oneTranslation_resolve_iff h
  | false =>
    simp only [HistoryStub.resolveEvent, hlicence, Bool.false_eq_true, if_false, false_and,
      not_false_eq_true, iff_true]
    exact oneTranslation_resolve_resolve hjson h

/-- **Source names, exactly.** The history takes one translation unless the session
has the licence for packed strings, and what is sent are their texts. The live
way does so for a session with locales if resolving leaves one, and for one without if one was stored. -/
theorem sourceName_oneTranslation_iff (hjson : json.ReadsPacked) {S : Type}
    (inner : ServiceContext → MonitoredItem.SubscriptionOptions → StatusOr S)
    (context : ServiceContext) (options : MonitoredItem.SubscriptionOptions)
    (subscription : SessionSubscription S)
    (hcreated : LocalizingMonitoredItemService.createSubscription inner context options =
      .ok subscription)
    (requestId maxCount : Nat) (events : List Event)
    (notifications : StatusOr (List (MonitoredItem.Notification Value AnyEvent)))
    (hevents : ∀ event ∈ events, WellFormed event.sourceName)
    (hnotifications : ∀ name ∈ answerTexts sourceNames notifications, WellFormed name) :
    (List.Forall₂ OneTranslation (events.map (·.sourceName))
        ((HistoryStub.resolvedEvents context.localeIds (.ok { events })).map (·.sourceName)) ↔
      ∀ event ∈ events, ¬ (requestsPackedStrings context.localeIds = true ∧
        packs context.localeIds event.sourceName = true)) ∧
    (∀ response,
      HistoryStub.onHistoryReadEvents context.localeIds requestId (.ok { events }) =
        some response →
      response.events.map (·.sourceName) =
        (HistoryStub.resolvedEvents context.localeIds (.ok { events })).map fun event =>
          utf8OfUtf16 event.sourceName.text) ∧
    (List.Forall₂ OneTranslation (answerTexts sourceNames notifications)
        (answerTexts sourceNames ((subscription.readNext maxCount).resume notifications)) ↔
      ∀ name ∈ answerTexts sourceNames notifications,
        if context.localeIds = [] then isSpecialLocale name.locale = false
        else packs context.localeIds name = false) := by
  refine ⟨?_, fun _ => HistoryStub.onHistoryReadEvents_sourceNames, ?_⟩
  · simp only [HistoryStub.resolvedEvents, List.map_map, List.forall₂_map_left_iff,
      List.forall₂_map_right_iff, List.forall₂_same, Function.comp_apply]
    exact forall₂_congr fun event hmem =>
      oneTranslation_resolveEvent_iff hjson (hevents event hmem)
  · rw [notificationTexts_resume sourceNames_resolveNotification hcreated]
    by_cases hnone : context.localeIds = []
    · simp only [if_pos hnone, List.forall₂_same]
      exact forall₂_congr fun name _ => oneTranslation_self_iff
    · simp only [if_neg hnone, List.forall₂_map_right_iff, List.forall₂_same]
      exact forall₂_congr fun name hmem => oneTranslation_resolve_iff (hnotifications name hmem)

theorem wellFormed_twoLanguages (hjson : json.ReadsPacked) : WellFormed twoLanguages where
  translated := translated_twoLanguages hjson
  noNul := by
    rw [decodeMultiLanguage_twoLanguages hjson]
    decide

/-- Nothing is picked out of the name for a session that asked for `mul` alone. -/
theorem resolveLocalizedText_twoLanguages (hjson : json.ReadsPacked) :
    resolveLocalizedText twoLanguages ["mul"] = twoLanguages := by
  rw [resolveLocalizedText, decodeMultiLanguage_twoLanguages hjson]
  rfl

end Library

/-- An English session gets one translation on both ways. -/
theorem sourceName_english :
    ∃ json : JsonLibrary, json.ReadsPacked ∧
      List.Forall₂ OneTranslation [twoLanguages]
        ((HistoryStub.resolvedEvents ["en"] (.ok { events := [namedEvent] })).map (·.sourceName)) ∧
      List.Forall₂ OneTranslation [twoLanguages]
        (answerTexts sourceNames
          (((SessionSubscription.localizing () ["en"]).readNext 1).resume
            (.ok [.event 0 0 (.ofCode .good) (some (.event namedEvent))]))) := by
  refine ⟨unaryJson, unaryJson_readsPacked, ?_⟩
  let _ := unaryJson
  have hwell : ∀ name ∈ [twoLanguages], WellFormed name := by
    intro name hmem
    rw [List.mem_singleton.mp hmem]
    exact wellFormed_twoLanguages unaryJson_readsPacked
  obtain ⟨hhistory, -, hlive⟩ :=
    sourceName_oneTranslation_iff unaryJson_readsPacked (fun _ _ => .ok ()) ⟨["en"]⟩ {}
      (.localizing () ["en"]) rfl 0 1 [namedEvent]
      (.ok [.event 0 0 (.ofCode .good) (some (.event namedEvent))])
      (fun event hmem => hwell _ (List.mem_map_of_mem (f := Event.sourceName) hmem)) hwell
  have hlead : ∀ lead ∈ ["en"].head?, requestsEveryLanguage lead = false := by decide
  refine ⟨hhistory.mpr fun event _ hpacked => ?_, hlive.mpr fun name _ => ?_⟩
  · rw [packs_eq_false hlead] at hpacked
    cases hpacked.2
  · exact packs_eq_false hlead name

/-- A session that asked for `mul` has no licence for packed strings and gets the
live event with one, and so does a session without locales. On the wire it is the
bare document. -/
theorem sourceName_packed :
    requestsPackedStrings ["mul"] = false ∧
      LocalizingMonitoredItemService.createSubscription (fun _ _ => .ok ()) ⟨["mul"]⟩ {} =
        .ok (.localizing () ["mul"]) ∧
      LocalizingMonitoredItemService.createSubscription (fun _ _ => .ok ()) ⟨[]⟩ {} =
        .ok (.inner ()) ∧
      ∀ [json : JsonLibrary], json.ReadsPacked →
        WellFormed twoLanguages ∧
        ¬ List.Forall₂ OneTranslation [twoLanguages]
          (answerTexts sourceNames
            (((SessionSubscription.localizing () ["mul"]).readNext 1).resume
              (.ok [.event 0 0 (.ofCode .good) (some (.event namedEvent))]))) ∧
        ¬ List.Forall₂ OneTranslation [twoLanguages]
          (answerTexts sourceNames
            (((SessionSubscription.inner ()).readNext 1).resume
              (.ok [.event 0 0 (.ofCode .good) (some (.event namedEvent))]))) ∧
        (Event.convert (resolveIn ["mul"] namedEvent)).map (·.sourceName) =
          some (utf8OfUtf16 (json.serialize (packedDocument bothLanguages))) := by
  refine ⟨by decide, rfl, rfl, ?_⟩
  intro json hjson
  have hname := resolveLocalizedText_twoLanguages hjson
  have hspecial : ¬ OneTranslation twoLanguages twoLanguages := by
    rw [oneTranslation_self_iff, isSpecialLocale_twoLanguages]
    decide
  refine ⟨wellFormed_twoLanguages hjson, ?_, ?_, ?_⟩
  · intro hall
    have hone := (List.forall₂_cons.mp hall).1
    exact hspecial (hname ▸ hone)
  · intro hall
    exact hspecial (List.forall₂_cons.mp hall).1
  · obtain ⟨wire, hwire⟩ : ∃ wire, Event.convert (resolveIn ["mul"] namedEvent) = some wire :=
      ⟨_, rfl⟩
    rw [hwire, Option.map_some, Event.sourceName_convert hwire]
    exact congrArg (fun name : LocalizedText => some (utf8OfUtf16 name.text)) hname

end Remote

end ScadaCore
