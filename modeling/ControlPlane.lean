import ControlPlane.ForStd.Script
import ControlPlane.ForStd.Pool
import ControlPlane.ForStd.Table
import ControlPlane.ForStd.Run
import ControlPlane.ForStd.TwoPools
import ControlPlane.ForStd.JsString
import ControlPlane.ForStd.Utf16
import ControlPlane.ForStd.JsonText
import ControlPlane.ForStd.Base64
import ControlPlane.ForStd.DataUrl
import ControlPlane.ForStd.TextDecoder
import ControlPlane.ForStd.Steps
import ControlPlane.Model.Store
import ControlPlane.Model.ChatRequest
import ControlPlane.Model.Clock
import ControlPlane.Model.StoreD1
import ControlPlane.Model.Balance
import ControlPlane.Model.Plans
import ControlPlane.Model.Catalog
import ControlPlane.Model.Doors
import ControlPlane.Model.Http
import ControlPlane.Model.Meter
import ControlPlane.Model.Inference
import ControlPlane.Model.Stream
import ControlPlane.Model.AnthropicSse
import ControlPlane.Model.Upstream
import ControlPlane.Model.VideoDuration
import ControlPlane.Model.NonChatUpstream
import ControlPlane.Model.NonChatRunner
import ControlPlane.Model.StoreProducts
import ControlPlane.Model.StoreJobs
import ControlPlane.Model.AppleJws
import ControlPlane.Model.AigLogs
import ControlPlane.Model.Reconcile
import ControlPlane.Model.ReconcileRun
import ControlPlane.Model.RateLimit
import ControlPlane.Model.StreamRelay
import ControlPlane.Model.StoreClients
import ControlPlane.Model.Routes.Clients
import ControlPlane.Model.Routes.Store
import ControlPlane.Model.Routes.Admin
import ControlPlane.Model.Routes.Chat
import ControlPlane.Model.Routes.NonChat
import ControlPlane.Model.Routes.LongrunWorkflow
import ControlPlane.Spec.LedgerConservation
import ControlPlane.Spec.LedgerCounters
import ControlPlane.Spec.Grants
import ControlPlane.Spec.GrantRetry
import ControlPlane.Spec.Adjustments
import ControlPlane.Spec.GrantTrail
import ControlPlane.Spec.OvershootBound
import ControlPlane.Spec.SpendGate
import ControlPlane.Spec.StoreRedeem
import ControlPlane.Spec.LastWrite
import ControlPlane.Spec.FeedReading
import ControlPlane.Spec.ReconcileMoney
import ControlPlane.Spec.TrueUpTotal
import ControlPlane.Spec.AllowanceTrueUp
import ControlPlane.Spec.WatermarkOverlap
import ControlPlane.Spec.WatermarkCover
import ControlPlane.Spec.ChatRecorded
import ControlPlane.Spec.ChatBody
import ControlPlane.Spec.OutputLimit
import ControlPlane.Spec.AlternatingTurns
import ControlPlane.Spec.ChatCarried
import ControlPlane.Spec.BufferedStream
import ControlPlane.Spec.NonChatRecorded
import ControlPlane.Spec.NonChatCalls
import ControlPlane.Spec.GatewayJoin
import ControlPlane.Spec.AsyncParams
import ControlPlane.Spec.SpeechUnits
import ControlPlane.Spec.WrappedAnswer
import ControlPlane.Spec.ScannerChunks
import ControlPlane.Spec.RelaySettlement
import ControlPlane.Spec.EnrollSingleUse
import ControlPlane.Spec.RateWindows
import ControlPlane.Spec.ChatSequence
import ControlPlane.Spec.PeriodCharges
import ControlPlane.Spec.CreditPosition
import ControlPlane.Model.Prices
import ControlPlane.Model.Routes.Account
import ControlPlane.Spec.ModelListing
import ControlPlane.Model.CatalogRefresh
import ControlPlane.Model.Routes.AdminPrices
import ControlPlane.Spec.OperatorRate
import ControlPlane.Model.X509
import ControlPlane.Spec.CertificateNesting
import ControlPlane.ForStd.Among
import ControlPlane.Model.SttSession
import ControlPlane.Spec.SttRecorded
import ControlPlane.ForStd.Utf16Cuts
import ControlPlane.Spec.TextDeltas
import ControlPlane.Model.DeferredStream
import ControlPlane.Spec.DeferredStreamEnd
import ControlPlane.ForStd.BigEndian
import ControlPlane.ForStd.Der
import ControlPlane.Spec.SignatureConversion
import ControlPlane.ForStd.DecimalText
import ControlPlane.Model.UsdText
import ControlPlane.Spec.ExactUsd
import ControlPlane.Spec.RateHalves
import ControlPlane.Spec.RefreshContract
import ControlPlane.Model.GeminiContents
import ControlPlane.Spec.TurnGroups
import ControlPlane.Spec.CarriedFields
import ControlPlane.Spec.DroppedFields
import ControlPlane.Spec.DryRun
import ControlPlane.Spec.ReverseCheck
import ControlPlane.Spec.LongRunRun
import ControlPlane.ForStd.Double
import ControlPlane.ForStd.NumberText
import ControlPlane.Model.Media
import ControlPlane.Spec.MediaTokens
import ControlPlane.Model.Routes.Media
import ControlPlane.Spec.MediaRange
import ControlPlane.Model.RequestBody
import ControlPlane.Spec.BodyCap
import ControlPlane.ForStd.Rely
import ControlPlane.Model.Crypto
import ControlPlane.Model.StoreAccess
import ControlPlane.Model.Auth
import ControlPlane.Model.Routes.AdminClients
import ControlPlane.ForStd.Calendar
import ControlPlane.Model.Period
import ControlPlane.Spec.Periods
import ControlPlane.Model.SttHandoff
import ControlPlane.Model.Routes.SttStream
import ControlPlane.Spec.KeyFormat
import ControlPlane.ForStd.Rows
import ControlPlane.Spec.AccessSystem
import ControlPlane.Spec.AccessStatements
import ControlPlane.Spec.CallerResolution
import ControlPlane.Spec.AccessCalls
import ControlPlane.ForStd.Once
import ControlPlane.Spec.ClientKeys
import ControlPlane.Spec.Revocation
import ControlPlane.Spec.SttTickets
import ControlPlane.Spec.SttHandoffSeal
import ControlPlane.ForStd.Utf8Text
import ControlPlane.Model.AnthropicTransform
import ControlPlane.Spec.ChatFrames
import ControlPlane.Spec.AnthropicTranslated
import ControlPlane.Spec.AnthropicRelayed
import ControlPlane.Spec.StreamsAlike
import ControlPlane.Model.Routes.Gates
import ControlPlane.Spec.PlaneSystem
import ControlPlane.Spec.PlaneLedger
import ControlPlane.Spec.Attribution
import ControlPlane.Spec.RevokedLedger
