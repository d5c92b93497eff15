import Mathlib.Data.Finmap
import MiGate.Db.Inbounds
import MiGate.Go.ParseTime
import MiGate.Relational.Keyed

namespace MiGate.Web

open Go Db Relational

/-! The traffic snapshot of the overview page. -/

structure TrafficCumulativeMetric where
  up : Int64
  down : Int64
  total : Int64
  status : String
  source : String
  message : String
deriving DecidableEq

structure TrafficRealtimeMetric where
  deltaUp : Int64
  deltaDown : Int64
  deltaTotal : Int64
  rateUp : ℚ
  rateDown : ℚ
  rateTotal : ℚ
  observedAt : String
  windowSeconds : ℚ
  status : String
  source : String
  message : String
deriving DecidableEq

structure ClientTrafficSummary where
  up : Int64
  down : Int64
  deltaUp : Int64
  deltaDown : Int64
  rateUp : ℚ
  rateDown : ℚ
  windowSeconds : ℚ
  status : String
  message : String
  lastSampledAt : String
  source : String
deriving Inhabited

structure InboundTrafficSummary extends ClientTrafficSummary where
  engine : String
deriving Inhabited

/-- The inbounds with their clients, and what is known of the traffic of each. -/
structure TrafficView where
  inbounds : List Inbound
  trafficByInbound : Table (Prod.fst : Int × InboundTrafficSummary → Int)
  trafficByClient : Table (Prod.fst : Int × ClientTrafficSummary → Int)
  distinctInbounds : (inbounds.map fun inbound => inbound.id).Nodup
  distinctClients : ((inbounds.flatMap fun inbound => inbound.clients).map Client.id).Nodup

/-- The columns of a client that `ListInboundTraffic` reads. -/
def trafficClient (client : Client) : Client :=
  { (default : Client) with
    id := client.id, inboundID := client.inboundID, statsKey := client.statsKey, email := client.email
    enabled := client.enabled, trafficLimit := client.trafficLimit, expiryAt := client.expiryAt }

def trafficInbound (row : InboundRow) (clients : List Client) : Inbound :=
  { (default : Inbound) with
    id := row.id, uuid := row.uuid, remark := row.remark, protocol := row.protocol, core := (loadInbound row).core
    port := row.port, network := row.network, security := row.security, enabled := row.enabled
    clients := (clients.filter fun client => client.inboundID == row.id).map trafficClient }

/-- `ListInboundTraffic`, whose two queries may see different moments. -/
def listInboundTraffic (inbounds : Serial InboundRow.id) (clients : Serial Client.id) : List Inbound :=
  inbounds.rows.map fun row => trafficInbound row clients.rows

theorem listInboundTraffic_ids (inbounds : Serial InboundRow.id) (clients : Serial Client.id) :
    (listInboundTraffic inbounds clients).map (fun inbound => inbound.id) = inbounds.rows.map InboundRow.id := by
  rw [listInboundTraffic, List.map_map]
  rfl

/-- A client is listed under its own inbound only. -/
theorem listInboundTraffic_clients (inbounds : Serial InboundRow.id) (clients : Serial Client.id) :
    (((listInboundTraffic inbounds clients).flatMap fun inbound => inbound.clients).map Client.id).Nodup := by
  have listed : ((listInboundTraffic inbounds clients).flatMap fun inbound => inbound.clients).map Client.id =
      inbounds.rows.flatMap fun row =>
        (clients.rows.filter fun client => client.inboundID == row.id).map Client.id := by
    rw [listInboundTraffic, List.flatMap_map, List.map_flatMap]
    simp only [trafficInbound, List.map_map]
    rfl
  rw [listed, List.nodup_flatMap]
  constructor
  · exact fun row _ => clients.ids_nodup.sublist (List.filter_sublist.map Client.id)
  · refine inbounds.ascending.imp fun {left right} less => ?_
    rintro id leftMember rightMember
    obtain ⟨first, inLeft, rfl⟩ := List.mem_map.mp leftMember
    obtain ⟨second, inRight, same⟩ := List.mem_map.mp rightMember
    obtain ⟨firstStored, firstHome⟩ := List.mem_filter.mp inLeft
    obtain ⟨secondStored, secondHome⟩ := List.mem_filter.mp inRight
    have one := List.inj_on_of_nodup_map clients.ids_nodup firstStored secondStored same.symm
    rw [one] at firstHome
    have home : left.id = right.id := (eq_of_beq firstHome).symm.trans (eq_of_beq secondHome)
    omega

def buildTrafficView (inbounds : Serial InboundRow.id) (clients : Serial Client.id)
    (trafficByInbound : Table (Prod.fst : Int × InboundTrafficSummary → Int))
    (trafficByClient : Table (Prod.fst : Int × ClientTrafficSummary → Int)) : TrafficView where
  inbounds := listInboundTraffic inbounds clients
  trafficByInbound
  trafficByClient
  distinctInbounds := by
    rw [listInboundTraffic_ids]
    exact inbounds.ids_nodup
  distinctClients := listInboundTraffic_clients inbounds clients

structure TrafficMetricSet where
  totalCumulative : TrafficCumulativeMetric
  totalRealtime : TrafficRealtimeMetric
  inboundCumulative : List (Int × TrafficCumulativeMetric)
  inboundRealtime : List (Int × TrafficRealtimeMetric)
  clientCumulative : List (Int × TrafficCumulativeMetric)
  clientRealtime : List (Int × TrafficRealtimeMetric)

def normalizedMetricStatus (status : String) : String :=
  orElse status "waiting"

def normalizedMetricSource (source : String) : String :=
  orElse source "migate"

def newTrafficCumulativeMetric (up down : Int64) (status source message : String) : TrafficCumulativeMetric where
  up
  down
  total := up + down
  status := normalizedMetricStatus status
  source := normalizedMetricSource source
  message

def newTrafficRealtimeMetric (deltaUp deltaDown : Int64) (rateUp rateDown windowSeconds : ℚ)
    (observedAt status source message : String) : TrafficRealtimeMetric where
  deltaUp
  deltaDown
  deltaTotal := deltaUp + deltaDown
  rateUp
  rateDown
  rateTotal := rateUp + rateDown
  observedAt
  windowSeconds
  status := normalizedMetricStatus status
  source := normalizedMetricSource source
  message

def ClientTrafficSummary.cumulative (traffic : ClientTrafficSummary) : TrafficCumulativeMetric :=
  newTrafficCumulativeMetric traffic.up traffic.down traffic.status traffic.source traffic.message

def ClientTrafficSummary.realtime (traffic : ClientTrafficSummary) : TrafficRealtimeMetric :=
  newTrafficRealtimeMetric traffic.deltaUp traffic.deltaDown traffic.rateUp traffic.rateDown traffic.windowSeconds
    traffic.lastSampledAt traffic.status traffic.source traffic.message

structure TrafficCoverageCounts where
  total : Nat
  ok : Nat
  partialCount : Nat
  unsupported : Nat
  notConfigured : Nat
  unavailable : Nat
  stale : Nat
  waiting : Nat
deriving Inhabited

def TrafficCoverageCounts.add (counts : TrafficCoverageCounts) (status : String) : TrafficCoverageCounts :=
  let counts := { counts with total := counts.total + 1 }
  if status = "ok" then { counts with ok := counts.ok + 1 }
  else if status = "partial" then { counts with partialCount := counts.partialCount + 1 }
  else if status = "unsupported" then { counts with unsupported := counts.unsupported + 1 }
  else if status = "not_configured" then { counts with notConfigured := counts.notConfigured + 1 }
  else if status = "unavailable" then { counts with unavailable := counts.unavailable + 1 }
  else if status = "stale" then { counts with stale := counts.stale + 1 }
  else { counts with waiting := counts.waiting + 1 }

def TrafficCoverageCounts.ofStatuses (statuses : List String) : TrafficCoverageCounts :=
  statuses.foldl TrafficCoverageCounts.add default

def TrafficCoverageCounts.status (counts : TrafficCoverageCounts) : String :=
  if counts.total = 0 then "not_configured"
  else if counts.notConfigured = counts.total then "not_configured"
  else if counts.ok = counts.total then "ok"
  else if 0 < counts.ok then
    if 0 < counts.partialCount ∨ 0 < counts.unsupported ∨ 0 < counts.unavailable ∨ 0 < counts.stale ∨
        0 < counts.waiting then "partial"
    else "ok"
  else if 0 < counts.partialCount then "partial"
  else if 0 < counts.unsupported ∧ counts.unavailable = 0 then "unsupported"
  else if 0 < counts.stale ∧ counts.unavailable = 0 then "stale"
  else if 0 < counts.unavailable then "unavailable"
  else "waiting"

/-- A `map[string]string`. -/
abbrev EngineStatuses := Finmap fun _ : String => String

structure TrafficV2Coverage where
  overall : String
  engines : EngineStatuses
  ok : Nat
  waiting : Nat
  stale : Nat
  unavailable : Nat
  unsupported : Nat
  partialCount : Nat
  notConfigured : Nat
deriving DecidableEq

def coverageEngineKey (engine : String) : String :=
  let engine := toLower (trimSpace engine)
  if engine = "sing-box" then "singbox" else engine

/-- The status of every engine that serves an inbound. -/
def engineStatuses (summaries : List InboundTrafficSummary) : EngineStatuses :=
  let served := summaries.filter fun summary => summary.engine != ""
  (served.map fun summary => coverageEngineKey summary.engine).foldl (fun engines engine =>
      let own := served.filter fun summary => coverageEngineKey summary.engine = engine
      engines.insert engine (TrafficCoverageCounts.ofStatuses (own.map fun summary => summary.status)).status)
    ((Finmap.singleton "xray" "not_configured").insert "singbox" "not_configured")

/-- `trafficV2Coverage` of `buildTrafficCoverage`. -/
def trafficV2Coverage (summaries : List InboundTrafficSummary) : TrafficV2Coverage :=
  let counts := TrafficCoverageCounts.ofStatuses (summaries.map fun summary => summary.status)
  { overall := counts.status, engines := engineStatuses summaries, ok := counts.ok, waiting := counts.waiting
    stale := counts.stale, unavailable := counts.unavailable, unsupported := counts.unsupported
    partialCount := counts.partialCount, notConfigured := counts.notConfigured }

/-- The one source of all metrics, or `mixed`. -/
def totalMetadata (sources : List String) : String :=
  if sources = [] then "migate"
  else
    match (sources.map normalizedMetricSource).dedup with
    | [source] => source
    | _ => "mixed"

def lastTrafficSampledAt (values : List String) : String :=
  let latest := values.foldl (fun latest value =>
    if trimSpace value = "" then latest
    else
      match parseRfc3339 value with
      | some parsed => max latest parsed
      | none => latest) zeroInstant
  if isZero latest then "" else rfc3339 latest

def TrafficView.inboundTraffic (view : TrafficView) (id : Int) : InboundTrafficSummary :=
  ((view.trafficByInbound.find? id).map Prod.snd).getD default

def TrafficView.clientTraffic (view : TrafficView) (id : Int) : ClientTrafficSummary :=
  ((view.trafficByClient.find? id).map Prod.snd).getD default

def TrafficView.summaries (view : TrafficView) : List InboundTrafficSummary :=
  view.trafficByInbound.rows.map Prod.snd

def buildTrafficMetricSet (view : TrafficView) : TrafficMetricSet :=
  let cumulative := view.inbounds.map fun inbound => (inbound.id, (view.inboundTraffic inbound.id).cumulative)
  let realtime := view.inbounds.map fun inbound => (inbound.id, (view.inboundTraffic inbound.id).realtime)
  let clients := view.inbounds.flatMap fun inbound => inbound.clients
  let totals := cumulative.map Prod.snd
  let rates := realtime.map Prod.snd
  { totalCumulative :=
      newTrafficCumulativeMetric (totals.foldl (fun sum metric => sum + metric.up) 0)
        (totals.foldl (fun sum metric => sum + metric.down) 0) (trafficV2Coverage view.summaries).overall
        (totalMetadata (totals.map fun metric => metric.source)) ""
    totalRealtime :=
      newTrafficRealtimeMetric (rates.foldl (fun sum metric => sum + metric.deltaUp) 0)
        (rates.foldl (fun sum metric => sum + metric.deltaDown) 0)
        (rates.foldl (fun sum metric => sum + metric.rateUp) 0)
        (rates.foldl (fun sum metric => sum + metric.rateDown) 0)
        (rates.foldl (fun widest metric => if widest < metric.windowSeconds then metric.windowSeconds else widest) 0)
        (lastTrafficSampledAt (view.summaries.map fun summary => summary.lastSampledAt))
        (TrafficCoverageCounts.ofStatuses (rates.map fun metric => metric.status)).status
        (totalMetadata (rates.map fun metric => metric.source)) ""
    inboundCumulative := cumulative
    inboundRealtime := realtime
    clientCumulative := clients.map fun client => (client.id, (view.clientTraffic client.id).cumulative)
    clientRealtime := clients.map fun client => (client.id, (view.clientTraffic client.id).realtime) }

def metricOrZero (metrics : List (Int × TrafficCumulativeMetric)) (id : Int) : TrafficCumulativeMetric :=
  (lastWrite metrics id).getD (newTrafficCumulativeMetric 0 0 "waiting" "migate" "")

def realtimeMetricOrZero (metrics : List (Int × TrafficRealtimeMetric)) (id : Int) : TrafficRealtimeMetric :=
  (lastWrite metrics id).getD (newTrafficRealtimeMetric 0 0 0 0 0 "" "waiting" "migate" "")

structure TrafficV2Total where
  cumulative : TrafficCumulativeMetric
  realtime : TrafficRealtimeMetric
deriving DecidableEq

structure TrafficV2Inbound where
  id : Int
  remark : String
  protocol : String
  port : Int
  enabled : Bool
  cumulative : TrafficCumulativeMetric
  realtime : TrafficRealtimeMetric
deriving DecidableEq

structure TrafficV2Client where
  id : Int
  inboundID : Int
  email : String
  enabled : Bool
  trafficLimit : Int
  expiryAt : Int
  cumulative : TrafficCumulativeMetric
  realtime : TrafficRealtimeMetric
deriving DecidableEq

structure TrafficV2Snapshot where
  generatedAt : String
  observedAt : String
  windowSeconds : ℚ
  total : TrafficV2Total
  inbounds : List TrafficV2Inbound
  clients : List TrafficV2Client
  coverage : TrafficV2Coverage
deriving DecidableEq

def buildTrafficV2Snapshot (view : TrafficView) (now : Int) : TrafficV2Snapshot :=
  let metrics := buildTrafficMetricSet view
  { generatedAt := rfc3339 now
    observedAt := metrics.totalRealtime.observedAt
    windowSeconds := metrics.totalRealtime.windowSeconds
    total := { cumulative := metrics.totalCumulative, realtime := metrics.totalRealtime }
    inbounds := view.inbounds.map fun inbound =>
      { id := inbound.id, remark := inbound.remark, protocol := inbound.protocol, port := inbound.port
        enabled := inbound.enabled, cumulative := metricOrZero metrics.inboundCumulative inbound.id
        realtime := realtimeMetricOrZero metrics.inboundRealtime inbound.id }
    clients := view.inbounds.flatMap fun inbound => inbound.clients.map fun client =>
      { id := client.id, inboundID := inbound.id, email := client.email, enabled := client.enabled
        trafficLimit := client.trafficLimit, expiryAt := client.expiryAt
        cumulative := metricOrZero metrics.clientCumulative client.id
        realtime := realtimeMetricOrZero metrics.clientRealtime client.id }
    coverage := trafficV2Coverage view.summaries }

end MiGate.Web
