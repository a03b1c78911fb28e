import VoiceAssistants.Async.Program
import VoiceAssistants.Async.Safety
import VoiceAssistants.Async.Monitor
import VoiceAssistants.Async.Discipline
import VoiceAssistants.Async.Turns
import VoiceAssistants.Async.Run
import VoiceAssistants.Async.Trace
import VoiceAssistants.Async.EarlyReturn
import VoiceAssistants.Async.Keeping
import VoiceAssistants.Text
import VoiceAssistants.UuidText
import VoiceAssistants.Collections.OrderedMap
import VoiceAssistants.Collections.InverseMaps
import VoiceAssistants.Collections.Pieces
import VoiceAssistants.Sql.Table
import VoiceAssistants.ThreeCx.CallState
import VoiceAssistants.Db.ThreeCxCalls
import VoiceAssistants.Db.ThreeCxCallInvariants
import VoiceAssistants.Connector.CallOperations
import VoiceAssistants.Connector.CallController
import VoiceAssistants.Connector.CallLedger
import VoiceAssistants.Connector.CallFacts
import VoiceAssistants.Connector.CallRules
import VoiceAssistants.Connector.CallSafety
import VoiceAssistants.Connector.JoinSafety
import VoiceAssistants.Connector.CellInvariant
import VoiceAssistants.Connector.ControllerInvariants
import VoiceAssistants.Connector.OwnershipFence
import VoiceAssistants.Connector.CallerHandover
import VoiceAssistants.Connector.CallResources
import VoiceAssistants.Connector.CallLease
import VoiceAssistants.Connector.Shutdown
import VoiceAssistants.Connector.Workers
import VoiceAssistants.Connector.LegalTransitions
import VoiceAssistants.Connector.OneDispatch
import VoiceAssistants.Connector.MultiTenantSupervisor
import VoiceAssistants.Connector.SupervisorInvariants
import VoiceAssistants.Connector.SupervisorShutdown
import VoiceAssistants.Connector.TenantDrain
import VoiceAssistants.Connector.TenantRuntime
import VoiceAssistants.Connector.TenantRuntimeInvariants
import VoiceAssistants.Connector.BrokerBoundRuntime
import VoiceAssistants.Connector.LeaseRelease
import VoiceAssistants.Connector.SdkEventAdapter
import VoiceAssistants.Connector.AdapterSteps
import VoiceAssistants.Connector.IntakeGate
import VoiceAssistants.Connector.AdapterMaps
import VoiceAssistants.Connector.Reconciliation
import VoiceAssistants.Connector.ReconciliationResult
import VoiceAssistants.Connector.StoppedController
import VoiceAssistants.Connector.CallForgetting
import VoiceAssistants.Connector.EventRouting
import VoiceAssistants.Connector.StoppedRuntime
import VoiceAssistants.Connector.ServedJoins
import VoiceAssistants.Connector.EndableCalls
import VoiceAssistants.Media.Pcm16
import VoiceAssistants.Media.PcmStreams
import VoiceAssistants.Connector.DispatchVerifier
import VoiceAssistants.Connector.MediaBridge
import VoiceAssistants.Connector.MediaBridgeSteps
import VoiceAssistants.Connector.UntrustedMedia
import VoiceAssistants.Connector.MediaFailures
import VoiceAssistants.Connector.PbxAudio
import VoiceAssistants.Db.Idempotency
import VoiceAssistants.Backend.ToolExecution
import VoiceAssistants.Backend.ZeroDuplication
import VoiceAssistants.Backend.KeyResolution
import VoiceAssistants.Backend.Replays
import VoiceAssistants.Db.Confirmation
import VoiceAssistants.Backend.ConfirmedExecution
import VoiceAssistants.Json
import VoiceAssistants.Db.BookingRequests
import VoiceAssistants.Backend.CalendarTools
import VoiceAssistants.Backend.BookingWorker
import VoiceAssistants.Backend.BookingLease
import VoiceAssistants.Backend.BookingAttempts
import VoiceAssistants.Backend.GoogleCalendar
import VoiceAssistants.Backend.BookingRetries
import VoiceAssistants.Backend.FreeSlots
import VoiceAssistants.Backend.DeferredAgreement
import VoiceAssistants.Backend.MirrorAgreement
import VoiceAssistants.Backend.SlotCoverage
import VoiceAssistants.Backend.MirrorUpdates
import VoiceAssistants.Backend.BookingOutcome
import VoiceAssistants.Python.Integers
import VoiceAssistants.Backend.BrokerProtocol
import VoiceAssistants.Python.JsonText
import VoiceAssistants.Python.JsonRoundTrip
import VoiceAssistants.Python.Percent
import VoiceAssistants.Backend.OAuthState
import VoiceAssistants.Backend.CalendarReadCache
import VoiceAssistants.Backend.ReadCacheStaleness
import VoiceAssistants.Backend.QueuedBookings
import VoiceAssistants.Backend.GoogleTokens
import VoiceAssistants.Backend.MirrorSync
import VoiceAssistants.Backend.MirrorReads
import VoiceAssistants.Python.IsoTime
import VoiceAssistants.Backend.BusinessHours
import VoiceAssistants.Python.Pydantic
import VoiceAssistants.Backend.ToolSchemas
import VoiceAssistants.Backend.AgentSession
import VoiceAssistants.Python.Coercions
import VoiceAssistants.Backend.SessionContext
import VoiceAssistants.JavaScript.JsonText
import VoiceAssistants.Frontend.RequestContext
import VoiceAssistants.Backend.LiveKitSessions
import VoiceAssistants.Db.ThreeCxIntegrations
import VoiceAssistants.Backend.BrokerRoutes
import VoiceAssistants.Connector.SupervisorWiring
import VoiceAssistants.JavaScript.TextOrder
import VoiceAssistants.Connector.Fingerprints
import VoiceAssistants.Connector.LeaseReleasedOnce
import VoiceAssistants.Backend.ThreeCxRequests
import VoiceAssistants.Connector.ControllerBinding
import VoiceAssistants.Db.AgentProfiles
import VoiceAssistants.Db.AgentProfileInvariants
import VoiceAssistants.Db.DraftLifecycle
import VoiceAssistants.Db.LegacyProjection
import VoiceAssistants.Db.Companies
import VoiceAssistants.Db.CompanyMembership
import VoiceAssistants.Backend.ToolDispatch
import VoiceAssistants.Backend.TenantIdentity
import VoiceAssistants.Python.Base64
import VoiceAssistants.Sql.MergeUpsert
import VoiceAssistants.Backend.CredentialEnvelope
import VoiceAssistants.Db.Tokens
import VoiceAssistants.Python.Regex
import VoiceAssistants.Async.Alone
import VoiceAssistants.Agent.AssistantPolicy
import VoiceAssistants.Python.Splitting
import VoiceAssistants.Agent.CompanyFacts
import VoiceAssistants.Agent.FactQuotations
import VoiceAssistants.Agent.TurnGate
import VoiceAssistants.Agent.CompanyInstructions
import VoiceAssistants.Agent.FactFocus
import VoiceAssistants.Agent.Lifecycle
import VoiceAssistants.Exceptions
import VoiceAssistants.Backend.CapabilityPolicy
import VoiceAssistants.Python.Decoder
import VoiceAssistants.Backend.UnsignedInput
import VoiceAssistants.Collections.Slots
import VoiceAssistants.Async.Permits
import VoiceAssistants.Backend.ThreeCxProbe
import VoiceAssistants.Db.CallIdentifiers
import VoiceAssistants.Collections.FixedWindows
import VoiceAssistants.Db.IntegrationLimits
import VoiceAssistants.Frontend.WorkspaceCache
import VoiceAssistants.Async.Fence
import VoiceAssistants.Mobile.VoiceCall
import VoiceAssistants.Frontend.LiveKitRuntime
import VoiceAssistants.Frontend.LiveKitSession
import VoiceAssistants.Frontend.SessionFence
import VoiceAssistants.Backend.ProfileCache
