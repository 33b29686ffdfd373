import ScadaCore.Base.AsyncCache
import ScadaCore.Base.AsyncCompletion
import ScadaCore.Base.CsvRoundTrip
import ScadaCore.Base.MinuteTime
import ScadaCore.Base.MruCache
import ScadaCore.Base.ObserverList
import ScadaCore.Base.RateLimiter
import ScadaCore.Base.ThreadShutdown
import ScadaCore.Base.TimedCache
import ScadaCore.Base.Uri
import ScadaCore.Metrics.TraceParent
import ScadaCore.Remote.Framing
import ScadaCore.Remote.HistoryChains
import ScadaCore.Remote.ItemAgreement
import ScadaCore.Remote.Outbox
import ScadaCore.Remote.Relay
import ScadaCore.Remote.ResultCodec
import ScadaCore.Remote.Revocation
import ScadaCore.Remote.RoundTrip
import ScadaCore.Remote.SessionSignals
import ScadaCore.Remote.SourceNames
import ScadaCore.Remote.Symmetry
import ScadaCore.Remote.ViewEventQueue
import ScadaCore.Scada.AdapterFailures
import ScadaCore.Scada.BackendItems
import ScadaCore.Scada.DoubleBindings
import ScadaCore.Scada.EventIdCodec
import ScadaCore.Scada.GateLeaks
import ScadaCore.Scada.InitialValues
import ScadaCore.Scada.NodeAttributes
import ScadaCore.Scada.NodeIdText
import ScadaCore.Scada.ReadLoops
import ScadaCore.Scada.RemappingServices
import ScadaCore.Scada.RolePermissions
import ScadaCore.Scada.SharedNamespaces
import ScadaCore.Scada.Translations
import ScadaCore.Scada.WakeUps
