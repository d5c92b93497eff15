import MiGate.Go.Strings
import MiGate.Go.Time
import MiGate.Go.Rfc3339
import MiGate.Relational.Table
import MiGate.Relational.Serial
import MiGate.Relational.OrderBy
import MiGate.Relational.Overwrite
import MiGate.Db.Events
import MiGate.Db.OutboundsFrame
import MiGate.Db.Tags
import MiGate.Db.Precedence
import MiGate.Db.Rebalance
import MiGate.Db.DefaultRoute
import MiGate.Config.DefaultRoute
import MiGate.Db.Models
import MiGate.Db.Store
import MiGate.Db.Traffic
import MiGate.Db.TrafficRow
import MiGate.Db.TrafficUsage
import MiGate.Traffic.Ledger
import MiGate.Traffic.ResetRace
import MiGate.Db.Core
import MiGate.Db.Clients
import MiGate.Db.Inbounds
import MiGate.Db.Outbounds
import MiGate.Db.OutboundSubscriptions
import MiGate.Db.Routing
import MiGate.Config.ManagementDirect
import MiGate.Xray.Config
import MiGate.Singbox.Config
import MiGate.Db.Operations
import MiGate.Db.Invariant
import MiGate.Db.InboundsInv
import MiGate.Db.ClientsInv
import MiGate.Db.OutboundsInv
import MiGate.Db.RoutingInv
import MiGate.Db.RuleScope
import MiGate.Db.Refinement
import MiGate.Config.Totality
import MiGate.Config.Connection
import MiGate.Config.Tags
import MiGate.Xray.Emission
import MiGate.Xray.Narrowing
import MiGate.Singbox.Emission
import MiGate.Singbox.Narrowing
import MiGate.Config.References
import MiGate.Web.Subscription
import MiGate.Traffic.Limit
import MiGate.Traffic.Samples
import MiGate.Db.TrafficAnalytics
import MiGate.Traffic.Retention
import MiGate.Db.Sessions
import MiGate.Web.Auth
import MiGate.Web.Revocation
import MiGate.Lockout.Window
import MiGate.Web.RateLimit
import MiGate.Login.Entries
import MiGate.Login.BruteForce
import MiGate.Go.ParseTime
import MiGate.Db.LoginRateLimits
import MiGate.Web.RateLimitPersistent
import MiGate.Login.Stored
import MiGate.Login.AfterReset
import MiGate.Login.Blocks
import MiGate.Login.Mirror
import MiGate.Login.Persistence
import MiGate.Go.Bytes
import MiGate.Go.URL
import MiGate.Subscription.Links
import MiGate.Subscription.Materialize
import MiGate.Web.OutboundSubscriptions
import MiGate.Subscription.Loop
import MiGate.Subscription.Reconcile
import MiGate.Subscription.Claims
import MiGate.Subscription.Success
import MiGate.Subscription.Tags
import MiGate.Subscription.Refresh
import MiGate.Web.RefreshSafety
import MiGate.Subscription.Identity
import MiGate.Db.Owners
import MiGate.Relational.Transaction
import MiGate.Db.RefreshTx
import MiGate.Subscription.Ownership
import MiGate.Db.ClientsSound
import MiGate.Config.ClientEdits
import MiGate.Db.RuleCopies
import MiGate.Db.Renames
import MiGate.Config.Renames
import MiGate.Go.Base64
import MiGate.Xray.Reality
import MiGate.Web.Inbounds
import MiGate.Db.RealityPairs
import MiGate.Web.RealityKeys
import MiGate.Relational.Firing
import MiGate.Db.ConfigVersion
import MiGate.Config.Version
import MiGate.Web.Validation
import MiGate.Web.DashboardSummary
import MiGate.Web.DashboardValidation
import MiGate.Relational.Keyed
import MiGate.Web.TrafficMetrics
import MiGate.Web.TrafficPatch
import MiGate.Web.TrafficStream
import MiGate.Web.TrafficConvergence
import MiGate.Wire.Drain
import MiGate.Xray.Varint
import MiGate.Xray.Stats
import MiGate.Xray.StatsSafety
import MiGate.Go.Utf8
import MiGate.Relational.Gather
import MiGate.Xray.StatsCodec
import MiGate.Go.Split
import MiGate.Fallible.Attempt
import MiGate.Disk.Files
import MiGate.Cert.Assets
import MiGate.Config.Apply
import MiGate.Singbox.Manager
import MiGate.Web.SingboxApply
import MiGate.Web.XrayController
import MiGate.Disk.Replace
import MiGate.Xray.TrafficStats
import MiGate.Xray.StatsRoundTrip
import MiGate.Cert.Service
import MiGate.Cert.Writes
import MiGate.Cert.Placement
import MiGate.Cert.Upsert
import MiGate.Cert.Storing
import MiGate.Cert.Consistency
import MiGate.Cert.Names
import MiGate.Traffic.Repair
import MiGate.Web.TrafficSummary
import MiGate.Web.TrafficLimits
import MiGate.Go.Int64
import MiGate.Relational.Tally
import MiGate.Web.TrafficAnalytics
import MiGate.Web.TrafficFallback
import MiGate.Web.TrafficTotals
import MiGate.Go.Fractions
import MiGate.Db.TrafficWindow
import MiGate.Config.RuleOrder
import MiGate.Config.TagMeaning
import MiGate.Go.JsonText
import MiGate.Db.OutboundColumns
import MiGate.Web.Fingerprint
import MiGate.Db.InboundDeletion
import MiGate.Go.Host
import MiGate.Subscription.NodeIdentity
import MiGate.Relational.Numbering
import MiGate.Db.Reorder
import MiGate.Db.Standing
import MiGate.Db.Canonical
import MiGate.Web.TrafficCumulative
import MiGate.Web.TrafficGrowth
import MiGate.Web.ProxyPool
import MiGate.Web.SessionTokens
import MiGate.Go.Base64Forms
import MiGate.Subscription.Bodies
import MiGate.Subscription.FreshTags
import MiGate.Go.HostPort
import MiGate.Go.Json
import MiGate.Go.IP
import MiGate.Go.IPForm
import MiGate.Panel.Config
import MiGate.Panel.Hosts
import MiGate.Panel.ReadBack
import MiGate.Apply.Marks
import MiGate.Apply.Progress
import MiGate.Web.Routes
import MiGate.Scheduler.Markers
