import ScadaCore.Remote.ServiceCodec

/-!
# Remote.Protocol — the messages of the remote protocol

`protocol::Request`, `Response` and `Notification` as `scada.proto` declares
them. A message-typed field has a presence bit and is an `Option` (or a `Bool`
where the message is empty); a repeated field has none and is a list, so an
empty batch and an absent operation are the same request.
-/

namespace ScadaCore.Remote

open Scada

/-- `PROTOCOL_VERSION_MAJOR` and `PROTOCOL_VERSION_MINOR`. -/
def protocolVersionMajor : Int32 := 20
def protocolVersionMinor : Int32 := 0

structure CreateSession where
  userName : String := ""
  password : String := ""
  deleteExisting : Bool := false
  versionMajor : UInt32 := 0
  versionMinor : UInt32 := 0
  localeIds : List String := []
deriving DecidableEq, Repr

/-- `protocol::CreateMonitoredItem`, with the node and attribute ids as they are
read. -/
structure CreateMonitoredItem where
  subscriptionId : Nat
  readValueId : ReadValueId
  monitoringParameters : Option Wire.MonitoringParameters := none
deriving DecidableEq, Repr

structure DeleteMonitoredItem where
  subscriptionId : Nat
  monitoredItemId : Nat
deriving DecidableEq, Repr

structure Request where
  requestId : Nat := 0
  createSession : Option CreateSession := none
  deleteSession : Bool := false
  ping : Bool := false
  read : Option (List Wire.ReadValueId) := none
  write : List Wire.Write := []
  /-- The `Call` message; its only field, the device command, is optional. -/
  call : Option (Option Wire.DeviceCommand) := none
  createSubscription : Bool := false
  deleteSubscription : Option Nat := none
  createMonitoredItem : Option CreateMonitoredItem := none
  deleteMonitoredItem : Option DeleteMonitoredItem := none
  historyReadRaw : Option Wire.HistoryReadRaw := none
  historyReadEvents : Option Wire.HistoryReadEvents := none
  addNode : List Wire.AddNode := []
  deleteNode : List Wire.DeleteNode := []
  addReference : List Wire.AddReference := []
  deleteReference : List Wire.DeleteReference := []
  browse : Option (List Wire.BrowseDescription) := none
  browsePath : List Wire.BrowsePath := []

/-- The result message of a response; `nothing` is a response that carries its
status only. -/
inductive Result where
  | nothing
  | createSubscription (subscriptionId : Nat)
  | createMonitoredItem (monitoredItemId : Nat)
  | read (values : List Wire.DataValue)
  | write (statusCodes : List Wire.StatusCode)
  | callOutputArgument (values : List Wire.Variant)
  | browse (results : List Wire.BrowseResult)
  | browsePath (results : List Wire.BrowsePathResult)
  | addNode (results : List Wire.AddNodeResult)
  | deleteNode (statusCodes : List Wire.StatusCode)
  | addReference (statusCodes : List Wire.StatusCode)
  | deleteReference (statusCodes : List Wire.StatusCode)
  | historyReadRaw (values : List Wire.DataValue) (continuationPoint : ByteString)
  | historyReadEvents (events : List Wire.Event)

structure Response where
  requestId : Nat
  status : Status
  result : Result := .nothing

/-- What a `std::any` event argument holds, as far as anybody looks at it. -/
inductive EventPayload where
  | event (eventId : Nat)
  | modelChange
  | semanticChange
  | other
deriving DecidableEq, Repr

/-- `protocol::Notification`. The model changes, semantic changes and system
events are one list, in the order in which the receiver goes through them. -/
structure Notification (V : Type) where
  subscriptionId : Nat := 0
  monitoredItemId : Nat := 0
  statusCode : Option StatusCode := none
  dataChanges : List (Nat × DataValue V) := []
  events : List EventPayload := []
  sessionDeleted : Bool := false

end ScadaCore.Remote
