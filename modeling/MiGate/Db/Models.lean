import Mathlib.Data.Rat.Defs

namespace MiGate.Db

/-! The records of the store, column by column.  A nullable reference column holds `0` for
`NULL`, as the records Go reads it into do. -/

def outboundSourceManual : String := "manual"

def outboundSourceSubscription : String := "subscription"

def outboundSourceProxyPool : String := "proxy_pool"

def defaultOutboundSubscriptionUpdateIntervalSeconds : Int := 21600

structure RoutingRule where
  id : Int
  inboundID : Int
  inboundTag : String
  clientID : Int
  clientEmail : String
  outboundID : Int
  outboundTag : String
  domain : String
  ip : String
  ruleSet : String
  protocol : String
  enabled : Bool
  sort : Int
deriving DecidableEq, Repr, Inhabited

/-- The parameters of both `CreateRoutingRule` and `UpdateRoutingRule`. -/
structure RoutingRuleParams where
  inboundID : Int
  inboundTag : String
  clientID : Int
  clientEmail : String
  outboundID : Int
  outboundTag : String
  domain : String
  ip : String
  ruleSet : String
  protocol : String
  enabled : Bool
deriving DecidableEq, Repr, Inhabited

structure Client where
  id : Int
  inboundID : Int
  uuid : String
  credentialID : String
  password : String
  subscriptionToken : String
  statsKey : String
  email : String
  enabled : Bool
  trafficLimit : Int
  expiryAt : Int
deriving DecidableEq, Repr, Inhabited

/-- The columns of an inbound that its creation and its update both carry. -/
structure InboundSettings where
  uuid : String
  remark : String
  protocol : String
  port : Int
  network : String
  security : String
  wsPath : String
  wsHost : String
  grpcServiceName : String
  realityDest : String
  realityServerNames : String
  realityShortID : String
  realityPrivateKey : String
  realityPublicKey : String
  ssMethod : String
  tlsCertFile : String
  tlsKeyFile : String
  tlsSNI : String
  tlsFingerprint : String
  tlsALPN : String
  xhttpPath : String
  xhttpMode : String
  hy2UpMbps : Int
  hy2DownMbps : Int
  hy2Obfs : String
  hy2ObfsPassword : String
  hy2MPort : String
  tuicCongestionControl : String
  tuicZeroRTT : Bool
  wgPrivateKey : String
  wgAddress : String
  wgPeerPublicKey : String
  wgAllowedIPs : String
  wgEndpoint : String
  wgPresharedKey : String
  wgMTU : Int
  shadowTLSVersion : Int
  shadowTLSPassword : String
deriving DecidableEq, Repr, Inhabited

/-- A row of the table `inbounds`. -/
structure InboundRow extends InboundSettings where
  id : Int
  core : String
  enabled : Bool
deriving DecidableEq, Repr, Inhabited

/-- An inbound as it is listed, with its clients. -/
structure Inbound extends InboundRow where
  clients : List Client
deriving DecidableEq, Repr, Inhabited

structure CreateClientParams where
  inboundID : Int
  uuid : String
  credentialID : String
  password : String
  email : String
  enabled : Option Bool
  trafficLimit : Int
  expiryAt : Int
deriving DecidableEq, Repr, Inhabited

structure UpdateClientParams where
  uuid : String
  credentialID : String
  password : String
  email : String
  enabled : Bool
  trafficLimit : Int
  expiryAt : Int
deriving DecidableEq, Repr, Inhabited

structure CreateInboundParams extends InboundSettings where
  initialClient : Option CreateClientParams
deriving DecidableEq, Repr, Inhabited

structure UpdateInboundParams extends InboundSettings where
  enabled : Bool
deriving DecidableEq, Repr, Inhabited

structure Outbound where
  id : Int
  tag : String
  remark : String
  protocol : String
  address : String
  port : Int
  username : String
  password : String
  enabled : Bool
  sort : Int
  source : String
  subscriptionID : Int
  subscriptionIdentity : String
  rawLink : String
  settingsJSON : String
  lastSeenAt : String
deriving DecidableEq, Repr, Inhabited

structure CreateOutboundParams where
  tag : String
  remark : String
  protocol : String
  address : String
  port : Int
  username : String
  password : String
  source : String
  subscriptionID : Int
  subscriptionIdentity : String
  rawLink : String
  settingsJSON : String
deriving DecidableEq, Repr, Inhabited

structure UpdateOutboundParams where
  tag : String
  remark : String
  protocol : String
  address : String
  port : Int
  username : String
  password : String
  enabled : Bool
  settingsJSON : String
deriving DecidableEq, Repr, Inhabited

structure OutboundSubscription where
  id : Int
  remark : String
  url : String
  tagPrefix : String
  updateIntervalSeconds : Int
  enabled : Bool
  allowPrivate : Bool
  prepend : Bool
  priority : Int
  lastFetchedAt : String
  lastAttemptAt : String
  lastError : String
  linkIdentitiesJSON : String
  deletedAt : String
  createdAt : String
  updatedAt : String
deriving DecidableEq, Repr, Inhabited

/-- The parameters of both `CreateOutboundSubscription` and `UpdateOutboundSubscription`. -/
structure OutboundSubscriptionParams where
  remark : String
  url : String
  tagPrefix : String
  updateIntervalSeconds : Int
  enabled : Bool
  allowPrivate : Bool
  prepend : Bool
deriving DecidableEq, Repr, Inhabited

structure MaterializedSubscriptionOutbound where
  id : Int
  tag : String
  remark : String
  protocol : String
  address : String
  port : Int
  username : String
  password : String
  subscriptionIdentity : String
  rawLink : String
  settingsJSON : String
  position : Int
deriving DecidableEq, Repr, Inhabited

structure OutboundSettings where
  security : String
  network : String
  tls : Bool
  reality : Bool
  sni : String
  host : String
  path : String
  flow : String
  fingerprint : String
  publicKey : String
  shortID : String
  alpn : List String
  method : String
  serviceName : String
  allowInsecure : Bool
deriving DecidableEq, Repr, Inhabited

/-- What names a counter: a core, the kind of thing it counts and that thing's key. -/
structure TrafficKey where
  engine : String
  scopeType : String
  scopeKey : String
deriving DecidableEq, Repr, Inhabited

structure TrafficRawStat where
  engine : String
  scopeType : String
  scopeKey : String
  rawUp : Int64
  rawDown : Int64
  status : String
  message : String
deriving DecidableEq, Repr, Inhabited

structure TrafficStatusMarker where
  engine : String
  scopeType : String
  scopeKey : String
  status : String
  message : String
deriving DecidableEq, Repr, Inhabited

/-- A row of `traffic_states`.  `lastSeenAt` is the instant its text stands for, and `none`
for the empty text. -/
structure TrafficState where
  engine : String
  scopeType : String
  scopeKey : String
  totalUp : Int64
  totalDown : Int64
  lastRawUp : Int64
  lastRawDown : Int64
  deltaUp : Int64
  deltaDown : Int64
  rateUp : ℚ
  rateDown : ℚ
  windowSeconds : ℚ
  lastSeenAt : Option Int
  status : String
  message : String
deriving DecidableEq, Repr, Inhabited

structure TrafficSample where
  sampledAt : Int
  engine : String
  scopeType : String
  scopeKey : String
  totalUp : Int64
  totalDown : Int64
  deltaUp : Int64
  deltaDown : Int64
  rateUp : ℚ
  rateDown : ℚ
  windowSeconds : ℚ
  status : String
deriving DecidableEq, Repr, Inhabited

structure CoreApplyState where
  core : String
  lastAppliedHash : String
  lastAppliedAt : String
  pendingDirty : Bool
  pendingReason : String
  pendingUpdatedAt : String
deriving DecidableEq, Repr, Inhabited

def TrafficRawStat.key (raw : TrafficRawStat) : TrafficKey :=
  ⟨raw.engine, raw.scopeType, raw.scopeKey⟩

def TrafficStatusMarker.key (marker : TrafficStatusMarker) : TrafficKey :=
  ⟨marker.engine, marker.scopeType, marker.scopeKey⟩

def TrafficState.key (state : TrafficState) : TrafficKey :=
  ⟨state.engine, state.scopeType, state.scopeKey⟩

def TrafficSample.key (sample : TrafficSample) : Int × TrafficKey :=
  (sample.sampledAt, ⟨sample.engine, sample.scopeType, sample.scopeKey⟩)

end MiGate.Db
