import ScadaCore.Remote.Protocol
import Mathlib.Logic.Function.Basic

/-!
# Remote.SubscriptionStub — the server side of a subscription

`SubscriptionStub` keeps one entry per monitored item it serves. Items come
with `onCreateMonitoredItem`, and go with `onDeleteMonitoredItem` or
unilaterally, when the backend delivers a Bad status. The name of the attribute is
looked up, for the log, in a table that knows the attributes of the protocol only.
-/

namespace ScadaCore.Remote

open Scada

structure SubscriptionStub where
  subscriptionId : Nat
  nextMonitoredItemId : Nat := 1
  monitoredItems : Nat → Option ReadValueId := fun _ => none

namespace SubscriptionStub

variable {V : Type} (stub : SubscriptionStub)

/-- `OnCreateMonitoredItem`; `none` is the read past the table of attribute names.
`created` says whether the adapter returned an item; without one the request is
refused with `Bad` and no entry is made. -/
def onCreateMonitoredItem (requestId : Nat)
    (readValueId : ReadValueId) (created : Bool) : Option (SubscriptionStub × Response) :=
  if !readValueId.attributeId.isNamed then
    none
  else if created then
    let monitoredItemId := stub.nextMonitoredItemId
    some ({ stub with
        nextMonitoredItemId := monitoredItemId + 1
        monitoredItems := Function.update stub.monitoredItems monitoredItemId (some readValueId) },
      { requestId, status := StatusCode.good, result := .createMonitoredItem monitoredItemId })
  else
    -- the empty result message is still set: it routes the response
    some (stub, { requestId, status := StatusCode.bad, result := .createMonitoredItem 0 })

/-- `OnDeleteMonitoredItem`: always `Good`, whether or not there was an entry. -/
def onDeleteMonitoredItem (requestId monitoredItemId : Nat) : SubscriptionStub × Response :=
  ({ stub with monitoredItems := Function.update stub.monitoredItems monitoredItemId none },
    { requestId, status := StatusCode.good })

/-- `OnDataChange`; `none` is the failed `base::Check` on the qualifier. -/
def onDataChange (monitoredItemId : Nat) (dataValue : DataValue V) :
    Option (SubscriptionStub × List (Notification V)) :=
  match stub.monitoredItems monitoredItemId with
  | none => some (stub, [])
  | some _ =>
    if dataValue.qualifier.failed && !dataValue.statusCode.isBad then
      none
    else
      let stub' :=
        if dataValue.statusCode.isBad then
          { stub with monitoredItems := Function.update stub.monitoredItems monitoredItemId none }
        else
          stub
      some (stub',
        [{ subscriptionId := stub.subscriptionId
           monitoredItemId
           dataChanges := [(monitoredItemId, dataValue)] }])

/-- The payload `OnEvent` puts in the notification, or `none` where it returns
before sending: an event without an id is dropped. -/
def eventPayload : EventPayload → Option (List EventPayload)
  | .event eventId => if eventId = 0 then none else some [.event eventId]
  | .modelChange => some [.modelChange]
  | .semanticChange => some [.semanticChange]
  | .other => some []

/-- `OnEvent`. The entry of a Bad status is erased before the payload is looked
at, so it is gone even where nothing is sent. -/
def onEvent (monitoredItemId : Nat) (statusCode : StatusCode)
    (event : EventPayload) : SubscriptionStub × List (Notification V) :=
  match stub.monitoredItems monitoredItemId with
  | none => (stub, [])
  | some _ =>
    let stub' :=
      if statusCode.isBad then
        { stub with monitoredItems := Function.update stub.monitoredItems monitoredItemId none }
      else
        stub
    match eventPayload event with
    | none => (stub', [])
    | some events =>
      (stub',
        [{ subscriptionId := stub.subscriptionId
           monitoredItemId
           statusCode := if statusCode = .good then none else some statusCode
           events }])

end SubscriptionStub

end ScadaCore.Remote
