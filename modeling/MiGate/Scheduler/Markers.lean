import MiGate.Config.References
import MiGate.Config.Totality
import MiGate.Db.ClientsSound
import MiGate.Singbox.Emission
import MiGate.Web.TrafficLimits

namespace MiGate.Scheduler

open Go Db Fallible MiGate.Config Relational Transition

/-! The markers of the traffic scheduler, and the names under which the cores count traffic.  A core
counts an inbound under its tag and a user under the email, account or name it was given. -/

def normalizeTrafficToken (value : String) : String :=
  if toLower (trimSpace value) = "sing-box" then "singbox" else toLower (trimSpace value)

/-- Whether Xray's answer has a counter of a scope. -/
def seen (observed : List TrafficRawStat) (scopeType scopeKey : String) : Bool :=
  observed.any fun stat => normalizeTrafficToken stat.engine == "xray" &&
    normalizeTrafficToken stat.scopeType == scopeType && trimSpace stat.scopeKey != "" &&
    trimSpace stat.scopeKey == scopeKey

def clientKey (client : Client) : String :=
  if trimSpace client.statsKey ≠ "" then trimSpace client.statsKey else trimSpace client.email

def xrayMissingTrafficStatusMarkers (inbounds : List Inbound) (observed : List TrafficRawStat)
    (status message : String) (includeInbounds : Bool) : List TrafficStatusMarker :=
  (inbounds.filter (inboundServes coreXray)).flatMap fun inbound =>
    let inboundKey := generatedInboundTag inbound.toInboundRow
    (if includeInbounds && inboundKey != "" && !seen observed "inbound" inboundKey then
      [⟨"xray", "inbound", inboundKey, status, message⟩] else []) ++
    ((inbound.clients.filter fun client =>
      client.enabled && clientKey client != "" && !seen observed "client" (clientKey client)).map fun client =>
        ⟨"xray", "client", clientKey client, status, message⟩)

def singboxTrafficStatusMarkersForScopes (inbounds : List Inbound) (status message : String)
    (includeInbounds : Bool) : List TrafficStatusMarker :=
  (inbounds.filter fun inbound => inbound.enabled && Web.isSingboxProtocol inbound.protocol).flatMap fun inbound =>
    (if includeInbounds then
      [⟨"singbox", "inbound", Singbox.inboundStatsTag inbound.toInboundRow, status, message⟩] else []) ++
    ((inbound.clients.filter fun client => client.enabled && Singbox.userStatsKey client != "").map fun client =>
      ⟨"singbox", "client", Singbox.userStatsKey client, status, message⟩)

/-! ### The names in the configurations -/

/-- The texts that the objects of a list have under a key. -/
def textsOf (settings : List (String × Json)) (list key : String) : List String :=
  match settings.lookup list with
  | some (.array items) => items.filterMap fun item =>
      match item with
      | .object fields =>
          match fields.lookup key with
          | some (.string text) => some text
          | _ => none
      | _ => none
  | _ => []

def reportedUsers (config : Xray.InboundConfig) : List String :=
  textsOf config.settings "clients" "email" ++ textsOf config.settings "accounts" "user"

variable {platform : Platform} {store : Store} {inbound : Inbound} {client : Client} {name : String}

/-- The inbound is in the configuration that Xray is given, as `built`. -/
def XrayEmits (platform : Platform) (store : Store) (inbound : Inbound) (built : Xray.InboundConfig) : Prop :=
  ∃ config, Xray.buildConfigWithOutbounds platform (listInbounds store) (listOutbounds store)
      (listRoutingRules store) = .ok config ∧
    inbound ∈ Xray.servedInbounds coreXray (listInbounds store) ∧
    Xray.buildInbound platform inbound = .ok built ∧ built ∈ config.inbounds

def SingboxEmits (platform : Platform) (store : Store) (inbound : Inbound) (built : Singbox.InboundConfig) : Prop :=
  ∃ config i, Singbox.buildConfigWithOutbounds platform (listInbounds store) (listOutbounds store)
      (listRoutingRules store) = .ok config ∧
    (inbound, i) ∈ (listInbounds store).zipIdx ∧
    Singbox.buildInbound platform inbound i = some built ∧ built ∈ config.inbounds

/-- The name Xray counts an enabled client under: the one at its place. -/
def XrayCounts (platform : Platform) (store : Store) (inbound : Inbound) (client : Client) (name : String) : Prop :=
  ∃ built, XrayEmits platform store inbound built ∧
    (client, name) ∈ (Xray.enabledClients inbound.clients).zip (reportedUsers built)

def SingboxCounts (platform : Platform) (store : Store) (inbound : Inbound) (client : Client) (name : String) :
    Prop :=
  ∃ built, SingboxEmits platform store inbound built ∧
    (client, name) ∈ (Singbox.enabledClients inbound.clients).zip (built.users.map Singbox.UserConfig.name)

/-- The views and the lookup of a client's usage, by which its limit is enforced, read this name. -/
structure ReadUnder (store : Store) (inbound : Inbound) (client : Client) (name : String) : Prop where
  view : Web.clientTrafficStatsKey client = name
  usage : getClientTrafficUsageForClient store client.id = some (chooseClientTrafficUsage client.id name
    (expectedTrafficEngineForProtocol inbound.protocol) (trafficStatesForClient store name))

/-- Every name a core counts under is the one that the markers, the views and the usage lookup have. -/
structure NamesAgree (platform : Platform) (store : Store) : Prop where
  xrayInbound : ∀ inbound built, XrayEmits platform store inbound built →
    built.tag = Web.inboundStatsKey inbound.id inbound.protocol ∧ ∀ observed status message,
      ⟨"xray", "inbound", built.tag, status, message⟩ ∈
        xrayMissingTrafficStatusMarkers (listInbounds store) observed status message true ↔
        seen observed "inbound" built.tag = false
  singboxInbound : ∀ inbound built, SingboxEmits platform store inbound built →
    built.tag = Web.inboundStatsKey inbound.id inbound.protocol ∧ ∀ status message,
      ⟨"singbox", "inbound", built.tag, status, message⟩ ∈
        singboxTrafficStatusMarkersForScopes (listInbounds store) status message true
  xrayClient : ∀ inbound client name, XrayCounts platform store inbound client name →
    ReadUnder store inbound client name ∧ ∀ observed status message includeInbounds,
      ⟨"xray", "client", name, status, message⟩ ∈
        xrayMissingTrafficStatusMarkers (listInbounds store) observed status message includeInbounds ↔
        seen observed "client" name = false
  singboxClient : ∀ inbound client name, SingboxCounts platform store inbound client name →
    ReadUnder store inbound client name ∧ ∀ status message includeInbounds,
      ⟨"singbox", "client", name, status, message⟩ ∈
        singboxTrafficStatusMarkersForScopes (listInbounds store) status message includeInbounds
  distinct : ∀ first left second right name,
    XrayCounts platform store first left name ∨ SingboxCounts platform store first left name →
    XrayCounts platform store second right name ∨ SingboxCounts platform store second right name →
    left.id = right.id

/-! ### The markers of what is emitted -/

theorem clientKey_eq (sound : client.Sound) : clientKey client = client.statsKey := by
  simp only [clientKey, sound.statsKey, if_pos sound.statsKeyGiven, ne_eq]

theorem view_eq (sound : client.Sound) : Web.clientTrafficStatsKey client = client.statsKey := by
  simp only [Web.clientTrafficStatsKey, sound.statsKey, if_pos sound.statsKeyGiven, ne_eq]

theorem userStatsKey_eq (sound : client.Sound) : Singbox.userStatsKey client = client.statsKey := by
  simp only [Singbox.userStatsKey, sound.statsKey, if_pos sound.statsKeyGiven, ne_eq]

theorem mem_xrayClientMarkers {inbounds : List Inbound} {observed : List TrafficRawStat} {status message : String}
    {includeInbounds : Bool} (served : inbound ∈ inbounds.filter (inboundServes coreXray))
    (member : client ∈ inbound.clients) (enabled : client.enabled = true) (given : clientKey client ≠ "") :
    ⟨"xray", "client", clientKey client, status, message⟩ ∈
      xrayMissingTrafficStatusMarkers inbounds observed status message includeInbounds ↔
      seen observed "client" (clientKey client) = false := by
  unfold xrayMissingTrafficStatusMarkers
  constructor
  · intro marked
    obtain ⟨other, _, inside⟩ := List.mem_flatMap.mp marked
    rcases List.mem_append.mp inside with asInbound | asClient
    · split at asInbound
      · rw [List.mem_singleton, TrafficStatusMarker.mk.injEq] at asInbound
        exact absurd asInbound.2.1 (by decide)
      · cases asInbound
    · obtain ⟨another, kept, same⟩ := List.mem_map.mp asClient
      rw [TrafficStatusMarker.mk.injEq] at same
      have unseen := (List.mem_filter.mp kept).2
      rw [same.2.2.1, Bool.and_eq_true, Bool.not_eq_true'] at unseen
      exact unseen.2
  · intro unseen
    refine List.mem_flatMap.mpr ⟨inbound, served, List.mem_append_right _ (List.mem_map.mpr ⟨client, ?_, rfl⟩)⟩
    refine List.mem_filter.mpr ⟨member, ?_⟩
    simp only [enabled, unseen, Bool.true_and, Bool.not_false, Bool.and_true, bne_iff_ne, ne_eq, given,
      not_false_eq_true]

theorem mem_xrayInboundMarkers {inbounds : List Inbound} {observed : List TrafficRawStat} {status message : String}
    (served : inbound ∈ inbounds.filter (inboundServes coreXray))
    (given : generatedInboundTag inbound.toInboundRow ≠ "") :
    ⟨"xray", "inbound", generatedInboundTag inbound.toInboundRow, status, message⟩ ∈
      xrayMissingTrafficStatusMarkers inbounds observed status message true ↔
      seen observed "inbound" (generatedInboundTag inbound.toInboundRow) = false := by
  unfold xrayMissingTrafficStatusMarkers
  constructor
  · intro marked
    obtain ⟨other, _, inside⟩ := List.mem_flatMap.mp marked
    rcases List.mem_append.mp inside with asInbound | asClient
    · split at asInbound
      · rename_i unseen
        rw [List.mem_singleton, TrafficStatusMarker.mk.injEq] at asInbound
        rw [asInbound.2.2.1]
        simpa using (Bool.and_eq_true_iff.mp unseen).2
      · cases asInbound
    · obtain ⟨another, _, same⟩ := List.mem_map.mp asClient
      rw [TrafficStatusMarker.mk.injEq] at same
      exact absurd same.2.1 (by decide)
  · intro unseen
    refine List.mem_flatMap.mpr ⟨inbound, served, List.mem_append_left _ ?_⟩
    have taken : (true && generatedInboundTag inbound.toInboundRow != "" &&
        !seen observed "inbound" (generatedInboundTag inbound.toInboundRow)) = true := by
      simp only [unseen, Bool.true_and, Bool.not_false, Bool.and_true, bne_iff_ne, ne_eq, given, not_false_eq_true]
    rw [if_pos taken]
    exact List.mem_singleton_self _

theorem mem_singboxClientMarkers {inbounds : List Inbound} {status message : String} {includeInbounds : Bool}
    (member : inbound ∈ inbounds) (active : inbound.enabled = true)
    (speaks : Web.isSingboxProtocol inbound.protocol = true)
    (listed : client ∈ Singbox.enabledClients inbound.clients)
    (given : Singbox.userStatsKey client ≠ "") :
    ⟨"singbox", "client", Singbox.userStatsKey client, status, message⟩ ∈
      singboxTrafficStatusMarkersForScopes inbounds status message includeInbounds := by
  obtain ⟨present, enabled⟩ := List.mem_filter.mp listed
  refine List.mem_flatMap.mpr ⟨inbound, List.mem_filter.mpr ⟨member, ?_⟩,
    List.mem_append_right _ (List.mem_map.mpr ⟨client, List.mem_filter.mpr ⟨present, ?_⟩, rfl⟩)⟩
  · rw [active, speaks]
    rfl
  · simp only [enabled, Bool.true_and, bne_iff_ne, ne_eq, given, not_false_eq_true]

theorem mem_singboxInboundMarkers {inbounds : List Inbound} {status message : String} (member : inbound ∈ inbounds)
    (active : inbound.enabled = true) (speaks : Web.isSingboxProtocol inbound.protocol = true) :
    ⟨"singbox", "inbound", Singbox.inboundStatsTag inbound.toInboundRow, status, message⟩ ∈
      singboxTrafficStatusMarkersForScopes inbounds status message true := by
  refine List.mem_flatMap.mpr ⟨inbound, List.mem_filter.mpr ⟨member, ?_⟩,
    List.mem_append_left _ (List.mem_singleton_self _)⟩
  rw [active, speaks]
  rfl

/-! ### What is emitted -/

theorem textsOf_objects {α : Type} {settings : List (String × Json)} {list key : String} {items : List α}
    {fields : α → List (String × Json)} {text : α → String}
    (found : settings.lookup list = some (.array (items.map fun item => .object (fields item))))
    (named : ∀ item, (fields item).lookup key = some (.string (text item))) :
    textsOf settings list key = items.map text := by
  simp only [textsOf, found]
  clear found
  induction items with
  | nil => rfl
  | cons item rest ih => simp only [List.map_cons, List.filterMap_cons, named, ih]

theorem textsOf_missing {settings : List (String × Json)} {list key : String} (missing : settings.lookup list = none) :
    textsOf settings list key = [] := by
  simp only [textsOf, missing]

theorem reported_clients {settings : List (String × Json)} {clients : List Client}
    {fields : Client → List (String × Json)}
    (found : settings.lookup "clients" = some (.array (clients.map fun client => .object (fields client))))
    (named : ∀ client, (fields client).lookup "email" = some (.string (Xray.clientStatsName client)))
    (noAccounts : settings.lookup "accounts" = none) :
    textsOf settings "clients" "email" ++ textsOf settings "accounts" "user" =
      clients.map Xray.clientStatsName := by
  rw [textsOf_objects found named, textsOf_missing noAccounts, List.append_nil]

theorem reported_accounts {settings : List (String × Json)} {clients : List Client} {user : Client → String}
    {fields : Client → List (String × Json)} (noClients : settings.lookup "clients" = none)
    (found : settings.lookup "accounts" = some (.array (clients.map fun client => .object (fields client))))
    (named : ∀ client, (fields client).lookup "user" = some (.string (user client))) :
    textsOf settings "clients" "email" ++ textsOf settings "accounts" "user" = clients.map user := by
  rw [textsOf_objects found named, textsOf_missing noClients, List.nil_append]

theorem xray_built {built : Xray.InboundConfig} (done : Xray.buildInbound platform inbound = .ok built) :
    built.tag = generatedInboundTag inbound.toInboundRow ∧
      ∃ stream, Xray.buildInboundSettings platform (toLower (trimSpace inbound.protocol)) inbound =
        some (built.settings, stream) := by
  simp only [Xray.buildInbound, bind_eq_ok, require_eq_ok, expect_eq_ok, pure_eq_ok] at done
  obtain ⟨_, _, ⟨settings, stream⟩, settled, rfl⟩ := done
  exact ⟨rfl, stream, settled⟩

/-- Xray counts the users of an inbound under their route names; those of Shadowsocks have none. -/
theorem reportedUsers_eq {built : Xray.InboundConfig} (normal : toLower (trimSpace inbound.protocol) = inbound.protocol)
    (done : Xray.buildInbound platform inbound = .ok built) :
    reportedUsers built = if inbound.protocol = "shadowsocks" then []
      else (Xray.enabledClients inbound.clients).map (Xray.clientRouteUser inbound.protocol) := by
  obtain ⟨_, stream, settled⟩ := xray_built done
  rw [normal] at settled
  have byName : ¬(inbound.protocol = "socks" ∨ inbound.protocol = "http") →
      Xray.clientRouteUser inbound.protocol = Xray.clientStatsName := by
    intro other
    funext client
    rw [Xray.clientRouteUser, normal]
    exact if_neg other
  simp only [Xray.buildInboundSettings] at settled
  rw [reportedUsers]
  split at settled
  · rename_i vless
    rw [if_neg (by rw [vless]; decide), byName (by rw [vless]; decide), ← (Prod.mk.inj (Option.some.inj settled)).1]
    exact reported_clients rfl (fun _ => rfl) rfl
  split at settled
  · rename_i vmess
    rw [if_neg (by rw [vmess]; decide), byName (by rw [vmess]; decide), ← (Prod.mk.inj (Option.some.inj settled)).1]
    exact reported_clients rfl (fun _ => rfl) rfl
  split at settled
  · rename_i trojan
    rw [if_neg (by rw [trojan]; decide), byName (by rw [trojan]; decide), ← (Prod.mk.inj (Option.some.inj settled)).1]
    exact reported_clients rfl (fun _ => rfl) rfl
  split at settled
  · rename_i shadowsocks
    rw [← (Prod.mk.inj (Option.some.inj settled)).1, if_pos shadowsocks]
    exact congrArg₂ (· ++ ·) (textsOf_missing rfl) (textsOf_missing rfl)
  rename_i other
  rw [if_neg other]
  split at settled
  · rw [← (Prod.mk.inj (Option.some.inj settled)).1]
    exact reported_accounts rfl rfl fun _ => rfl
  split at settled
  · rw [← (Prod.mk.inj (Option.some.inj settled)).1]
    exact reported_accounts rfl rfl fun _ => rfl
  · cases settled

theorem exists_related {α β : Type} {related : α → β → Prop} {items : List α} {results : List β}
    (all : List.Forall₂ related items results) {item : α} (member : item ∈ items) :
    ∃ result ∈ results, related item result := by
  induction all with
  | nil => cases member
  | cons first _ ih =>
      rcases List.mem_cons.mp member with rfl | later
      · exact ⟨_, List.mem_cons_self, first⟩
      · obtain ⟨result, inside, holds⟩ := ih later
        exact ⟨result, List.mem_cons_of_mem _ inside, holds⟩

/-- What is stored of an inbound that a core serves. -/
structure Stored (store : Store) (core : String) (inbound : Inbound) : Prop where
  row : inbound.toInboundRow ∈ store.inbounds.rows
  sound : inbound.toInboundRow.Sound
  core : inbound.core = core
  enabled : inbound.enabled = true
  clients : inbound.clients = store.clients.rows.filter fun client => client.inboundID == inbound.id

theorem stored_of_served (inv : StoreInv store) {core : String}
    (served : inbound ∈ Xray.servedInbounds core (listInbounds store)) : Stored store core inbound := by
  obtain ⟨row, stored, serves, rfl⟩ := Xray.mem_servedInbounds.mp served
  have sound := inv.rows.inbounds row stored
  obtain ⟨enabled, core⟩ := (inboundServes_listed sound core).mp serves
  have same : (listed store row).toInboundRow = row := by
    simp only [listed, sound.loadInbound_eq]
  exact ⟨by rwa [same], by rwa [same], (congrArg InboundRow.core same).trans core,
    (congrArg InboundRow.enabled same).trans enabled, rfl⟩

theorem Stored.normal {core : String} (stored : Stored store core inbound) :
    toLower (trimSpace inbound.protocol) = inbound.protocol :=
  stored.sound.normal

theorem Stored.member {core : String} (stored : Stored store core inbound) (member : client ∈ inbound.clients) :
    client ∈ store.clients.rows ∧ client.inboundID = inbound.id := by
  rw [stored.clients] at member
  obtain ⟨present, home⟩ := List.mem_filter.mp member
  exact ⟨present, eq_of_beq home⟩

/-- Xray counts the enabled clients of the inbounds it serves, those of Shadowsocks apart, by their
route users. -/
theorem xrayCounts_iff (inv : StoreInv store) :
    XrayCounts platform store inbound client name ↔
      (∃ config, Xray.buildConfigWithOutbounds platform (listInbounds store) (listOutbounds store)
        (listRoutingRules store) = .ok config) ∧
      inbound ∈ Xray.servedInbounds coreXray (listInbounds store) ∧ inbound.protocol ≠ "shadowsocks" ∧
      client ∈ Xray.enabledClients inbound.clients ∧ Xray.clientRouteUser inbound.protocol client = name := by
  constructor
  · rintro ⟨built, ⟨config, done, served, emitted, _⟩, place⟩
    rw [reportedUsers_eq (stored_of_served inv served).normal emitted] at place
    split at place
    · cases (List.of_mem_zip place).2
    · rename_i other
      rw [← List.map_prod_left_eq_zip, List.mem_map] at place
      obtain ⟨found, member, same⟩ := place
      cases same
      exact ⟨⟨config, done⟩, served, other, member, rfl⟩
  · rintro ⟨⟨config, done⟩, served, other, member, rfl⟩
    obtain ⟨all, placed, related⟩ := (Xray.built_of_ok done).inbounds
    obtain ⟨built, inside, emitted⟩ := exists_related related served
    refine ⟨built, ⟨config, done, served, emitted, ?_⟩, ?_⟩
    · rw [placed]
      exact List.mem_append_left _ inside
    · rw [reportedUsers_eq (stored_of_served inv served).normal emitted, if_neg other, ← List.map_prod_left_eq_zip]
      exact List.mem_map_of_mem member

theorem singbox_built {i : Nat} {built : Singbox.InboundConfig}
    (emitted : Singbox.buildInbound platform inbound i = some built) :
    inboundServes coreSingbox inbound = true ∧ inbound.protocol ∈ ["hysteria2", "tuic", "shadowtls"] ∧
      built.users.map Singbox.UserConfig.name =
        (Singbox.enabledClients inbound.clients).map Singbox.userStatsKey := by
  simp only [Singbox.buildInbound] at emitted
  split at emitted
  · cases emitted
  rename_i serves
  rw [Bool.not_eq_true, Bool.not_eq_false'] at serves
  refine ⟨serves, ?_⟩
  split at emitted
  · rename_i hysteria2
    cases emitted
    exact ⟨by simp [hysteria2], by simp only [Singbox.buildHysteria2, List.map_map]; rfl⟩
  split at emitted
  · rename_i tuic
    cases emitted
    exact ⟨by simp [tuic], by simp only [Singbox.buildTUIC, List.map_map]; rfl⟩
  split at emitted
  · rename_i shadowtls
    cases emitted
    exact ⟨by simp [shadowtls], by simp only [Singbox.buildShadowTLS, List.map_map]; rfl⟩
  · cases emitted

/-- What sing-box emits is of an inbound it serves, under the keys of the clients. -/
theorem singboxEmits_served {built : Singbox.InboundConfig} (inv : StoreInv store)
    (emits : SingboxEmits platform store inbound built) :
    inbound ∈ Xray.servedInbounds coreSingbox (listInbounds store) ∧
      Web.isSingboxProtocol inbound.protocol = true ∧
      built.tag = Singbox.inboundStatsTag inbound.toInboundRow ∧
      built.users.map Singbox.UserConfig.name =
        (Singbox.enabledClients inbound.clients).map Singbox.userStatsKey := by
  obtain ⟨config, i, _, listed, emitted, _⟩ := emits
  obtain ⟨serves, speaks, users⟩ := singbox_built emitted
  have served : inbound ∈ Xray.servedInbounds coreSingbox (listInbounds store) :=
    List.mem_filter.mpr ⟨List.fst_mem_of_mem_zipIdx listed, serves⟩
  have normal : toLower (trimSpace inbound.protocol) = inbound.protocol := (stored_of_served inv served).normal
  refine ⟨served, ?_, Singbox.buildInbound_tag emitted, users⟩
  rw [Web.isSingboxProtocol, normal]
  exact List.elem_iff.mpr speaks

theorem singboxCounts_name (inv : StoreInv store) (counts : SingboxCounts platform store inbound client name) :
    inbound ∈ Xray.servedInbounds coreSingbox (listInbounds store) ∧
      Web.isSingboxProtocol inbound.protocol = true ∧
      client ∈ Singbox.enabledClients inbound.clients ∧ Singbox.userStatsKey client = name := by
  obtain ⟨built, emits, place⟩ := counts
  obtain ⟨served, speaks, _, users⟩ := singboxEmits_served inv emits
  rw [users, ← List.map_prod_left_eq_zip, List.mem_map] at place
  obtain ⟨found, member, same⟩ := place
  cases same
  exact ⟨served, speaks, member, rfl⟩

/-! ### When the names agree -/

/-- The clients of the SOCKS and HTTP inbounds log in under their stats keys. -/
def LogInByKey (store : Store) : Prop :=
  ∀ inbound ∈ Xray.servedInbounds coreXray (listInbounds store),
    inbound.protocol = "socks" ∨ inbound.protocol = "http" →
      ∀ client ∈ Xray.enabledClients inbound.clients, client.credentialID = client.statsKey

theorem xrayTag_eq {row : InboundRow} (sound : row.Sound) (core : row.core = coreXray) :
    generatedInboundTag row = Web.inboundStatsKey row.id row.protocol := by
  have protocols : ∀ capability ∈ inboundCapabilities, capability.core = coreXray →
      toLower (trimSpace capability.protocol) ∈ ["vless", "vmess", "trojan", "shadowsocks", "socks", "http"] := by
    with_unfolding_all decide
  obtain ⟨capability, member, named, served⟩ := sound.capability
  have known := protocols capability member (served.trans core)
  rw [named] at known
  unfold generatedInboundTag Web.inboundStatsKey
  generalize toLower (trimSpace row.protocol) = protocol at known
  simp only [List.mem_cons, List.not_mem_nil, or_false] at known
  rcases known with rfl | rfl | rfl | rfl | rfl | rfl <;> rfl

theorem readUnder_statsKey (inv : StoreInv store) {core : String} (stored : Stored store core inbound)
    (member : client ∈ inbound.clients) : ReadUnder store inbound client client.statsKey := by
  obtain ⟨present, home⟩ := stored.member member
  have found : store.clients.find? client.id = some client := Serial.find?_of_mem present
  have there : store.inbounds.find? client.inboundID = some inbound.toInboundRow := by
    rw [home]
    exact Serial.find?_of_mem stored.row
  have positive := store.clients.positive client present
  refine ⟨view_eq (inv.rows.clients client present), ?_⟩
  rw [getClientTrafficUsageForClient, if_neg (by omega)]
  simp only [found, there, Option.bind_eq_bind, Option.bind_some]
  rfl

/-- A client that Xray counts under its stats key if it logs in by it. -/
theorem xrayCounts_statsKey (inv : StoreInv store) (counts : XrayCounts platform store inbound client name)
    (byKey : (∃ config, Xray.buildConfigWithOutbounds platform (listInbounds store) (listOutbounds store)
      (listRoutingRules store) = .ok config) → LogInByKey store) :
    inbound ∈ Xray.servedInbounds coreXray (listInbounds store) ∧ client ∈ Xray.enabledClients inbound.clients ∧
      client.statsKey = name := by
  obtain ⟨built, served, _, member, rfl⟩ := (xrayCounts_iff inv).mp counts
  have stored := stored_of_served inv served
  have sound := inv.rows.clients client (stored.member (List.mem_filter.mp member).1).1
  refine ⟨served, member, ?_⟩
  rw [(Xray.clientRouteUser_spec sound inbound.protocol).1, stored.normal]
  split
  · rename_i named
    exact (byKey built inbound served named client member).symm
  · rfl

theorem NamesAgree.logInByKey (inv : StoreInv store) (agree : NamesAgree platform store)
    (built : ∃ config, Xray.buildConfigWithOutbounds platform (listInbounds store) (listOutbounds store)
      (listRoutingRules store) = .ok config) : LogInByKey store := by
  intro inbound served named client member
  have stored := stored_of_served inv served
  have sound := inv.rows.clients client (stored.member (List.mem_filter.mp member).1).1
  have other : inbound.protocol ≠ "shadowsocks" := by
    rcases named with named | named <;> rw [named] <;> decide
  have counts := (xrayCounts_iff inv).mpr ⟨built, served, other, member, rfl⟩
  have view := (agree.xrayClient _ _ _ counts).1.view
  rw [view_eq sound, (Xray.clientRouteUser_spec sound inbound.protocol).1, stored.normal, if_pos named] at view
  exact view.symm

/-- In every store that is reached, the names agree exactly when the clients of the SOCKS and HTTP
inbounds log in under their stats keys, or Xray's configuration is not generated. -/
theorem names_agree_iff (platform : Platform) (store : Store)
    (reached : Reach (Steps (eventStep platform)) Store.initial store) :
    NamesAgree platform store ↔
      ((∃ config, Xray.buildConfigWithOutbounds platform (listInbounds store) (listOutbounds store)
        (listRoutingRules store) = .ok config) → LogInByKey store) := by
  have inv := events_inv reached
  constructor
  · exact fun agree built => agree.logInByKey inv built
  · intro byKey
    have counted : ∀ inbound client name,
        XrayCounts platform store inbound client name ∨ SingboxCounts platform store inbound client name →
        client ∈ store.clients.rows ∧ client.statsKey = name := by
      rintro inbound client name (counts | counts)
      · obtain ⟨served, member, named⟩ := xrayCounts_statsKey inv counts byKey
        exact ⟨((stored_of_served inv served).member (List.mem_filter.mp member).1).1, named⟩
      · obtain ⟨served, _, member, named⟩ := singboxCounts_name inv counts
        have present := ((stored_of_served inv served).member (List.mem_filter.mp member).1).1
        rw [userStatsKey_eq (inv.rows.clients client present)] at named
        exact ⟨present, named⟩
    refine ⟨?_, ?_, ?_, ?_, ?_⟩
    · rintro inbound built ⟨_, _, served, emitted, _⟩
      have stored := stored_of_served inv served
      have tag := (xray_built emitted).1
      have key : built.tag = Web.inboundStatsKey inbound.id inbound.protocol := tag.trans (xrayTag_eq stored.sound stored.core)
      refine ⟨key, fun observed status message => ?_⟩
      rw [tag]
      refine mem_xrayInboundMarkers served ?_
      rw [← tag, key]
      exact Web.inboundStatsKey_given _ _
    · intro inbound built emits
      obtain ⟨served, speaks, tag, _⟩ := singboxEmits_served inv emits
      refine ⟨tag, fun status message => ?_⟩
      rw [tag]
      exact mem_singboxInboundMarkers (List.mem_filter.mp served).1 (stored_of_served inv served).enabled speaks
    · intro inbound client name counts
      obtain ⟨served, member, rfl⟩ := xrayCounts_statsKey inv counts byKey
      obtain ⟨present, enabled⟩ := List.mem_filter.mp member
      have stored := stored_of_served inv served
      have sound := inv.rows.clients client (stored.member present).1
      refine ⟨readUnder_statsKey inv stored present, fun observed status message includeInbounds => ?_⟩
      rw [← clientKey_eq sound]
      refine mem_xrayClientMarkers served present enabled ?_
      rw [clientKey_eq sound]
      exact sound.statsKeyGiven
    · intro inbound client name counts
      obtain ⟨served, speaks, member, named⟩ := singboxCounts_name inv counts
      have stored := stored_of_served inv served
      have present := (List.mem_filter.mp member).1
      have sound := inv.rows.clients client (stored.member present).1
      have key := userStatsKey_eq sound
      rw [← named]
      refine ⟨key ▸ readUnder_statsKey inv stored present, fun status message includeInbounds => ?_⟩
      refine mem_singboxClientMarkers (List.mem_filter.mp served).1 stored.enabled speaks member ?_
      rw [key]
      exact sound.statsKeyGiven
    · intro first left second right name leftCounts rightCounts
      obtain ⟨leftStored, leftNamed⟩ := counted first left name leftCounts
      obtain ⟨rightStored, rightNamed⟩ := counted second right name rightCounts
      rw [List.inj_on_of_nodup_map inv.rows.statsKeys leftStored rightStored (leftNamed.trans rightNamed.symm)]

def exampleLogin (protocol : String) : List StoreEvent :=
  [.operate (.createInbound (exampleEntropy 1) { (default : CreateInboundParams) with
    protocol, port := 20001, initialClient := some { (default : CreateClientParams) with
      email := "alice", credentialID := "alice", password := "secret" } })]

def exampleLoginStore (protocol : String) : Store :=
  arrive (eventStep examplePlatform) (exampleLogin protocol) Store.initial

theorem trojan_names_agree : (∃ inbound ∈ Xray.servedInbounds coreXray (listInbounds (exampleLoginStore "trojan")),
    (Xray.enabledClients inbound.clients).length = 1) ∧ NamesAgree examplePlatform (exampleLoginStore "trojan") := by
  refine ⟨by with_unfolding_all decide, (names_agree_iff examplePlatform _ (Reach.arrive _ _ _)).mpr fun _ => ?_⟩
  unfold LogInByKey
  with_unfolding_all decide

theorem socks_names_differ : ¬ ∀ (platform : Platform) (store : Store),
    Reach (Steps (eventStep platform)) Store.initial store → NamesAgree platform store := by
  intro claimed
  have reached : Reach (Steps (eventStep examplePlatform)) Store.initial (exampleLoginStore "socks") :=
    Reach.arrive _ _ _
  have builds : (Xray.buildConfigWithOutbounds examplePlatform (listInbounds (exampleLoginStore "socks"))
      (listOutbounds (exampleLoginStore "socks")) (listRoutingRules (exampleLoginStore "socks"))).isOk = true := by
    with_unfolding_all decide
  have differs : ¬LogInByKey (exampleLoginStore "socks") := by
    unfold LogInByKey
    with_unfolding_all decide
  exact differs ((claimed examplePlatform _ reached).logInByKey (events_inv reached) (eq_ok_of_isOk builds))

end MiGate.Scheduler
