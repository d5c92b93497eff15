import MiGate.Db.ConfigVersion
import MiGate.Config.Totality

namespace MiGate.Config

open Go Db Relational Transition

variable {platform : Platform}

/-! The generators read the columns a trigger watches and no others. -/

/-- An inbound without the columns of its clients that go into no configuration. -/
def configInbound (inbound : Inbound) : Inbound :=
  { inbound with clients := inbound.clients.map configClient }

@[simp] theorem configInbound_row (inbound : Inbound) :
    (configInbound inbound).toInboundRow = inbound.toInboundRow := rfl

@[simp] theorem configInbound_clients (inbound : Inbound) :
    (configInbound inbound).clients = inbound.clients.map configClient := rfl

theorem enabledClients_config (clients : List Client) :
    Xray.enabledClients (clients.map configClient) = (Xray.enabledClients clients).map configClient :=
  List.filter_map

theorem map_config {α : Type} {read : Client → α} (same : ∀ client, read (configClient client) = read client)
    (clients : List Client) : (clients.map configClient).map read = clients.map read := by
  rw [List.map_map]
  exact List.map_congr_left fun client _ => same client

theorem servedInbounds_config (core : String) (inbounds : List Inbound) :
    Xray.servedInbounds core (inbounds.map configInbound) =
      (Xray.servedInbounds core inbounds).map configInbound :=
  List.filter_map

theorem routingRuleAppliesToCore_config (rule : RoutingRule) (inbounds : List Inbound) (core : String) :
    routingRuleAppliesToCore rule (inbounds.map configInbound) core =
      routingRuleAppliesToCore rule inbounds core := by
  have owns : ∀ inbound : Inbound, ((configInbound inbound).clients.any fun client => client.id == rule.clientID) =
      inbound.clients.any fun client => client.id == rule.clientID := by
    intro inbound
    rw [configInbound_clients, List.any_map]
    rfl
  have any : (inbounds.map configInbound).any (inboundServes (normalizeCore core)) =
      inbounds.any (inboundServes (normalizeCore core)) := List.any_map
  have found : ∀ select : Inbound → Bool, (∀ inbound, select (configInbound inbound) = select inbound) →
      (inbounds.map configInbound).find? select = (inbounds.find? select).map configInbound := by
    intro select same
    rw [List.find?_map, show select ∘ configInbound = select from funext same]
  unfold routingRuleAppliesToCore
  refine ite_congr rfl (fun _ => ?_) fun _ => ite_congr rfl (fun _ => ?_) fun _ => ite_congr rfl (fun _ => ?_)
    fun _ => ?_
  · rw [found _ owns]
    cases inbounds.find? _ <;> rfl
  · rw [found _ fun _ => rfl]
    cases inbounds.find? _ <;> rfl
  · rw [any, List.isEmpty_map]
  · rw [found _ fun _ => rfl]
    cases inbounds.find? _ <;> rfl

/-! ### Xray -/

theorem xray_buildInboundSettings_config (protocol : String) (inbound : Inbound) :
    Xray.buildInboundSettings platform protocol (configInbound inbound) =
      Xray.buildInboundSettings platform protocol inbound := by
  have idEmail : ∀ clients flow, Xray.clientsAsIDEmail (clients.map configClient) flow =
      Xray.clientsAsIDEmail clients flow :=
    fun clients _ => congrArg Json.array (map_config (fun _ => rfl) clients)
  have alterID : ∀ clients, Xray.clientsAsAlterIDEmail (clients.map configClient) =
      Xray.clientsAsAlterIDEmail clients :=
    fun clients => congrArg Json.array (map_config (fun _ => rfl) clients)
  have password : ∀ clients, Xray.clientsAsPasswordEmail (clients.map configClient) =
      Xray.clientsAsPasswordEmail clients :=
    fun clients => congrArg Json.array (map_config (fun _ => rfl) clients)
  have userPass : ∀ clients, Xray.clientsAsUserPass protocol (clients.map configClient) =
      Xray.clientsAsUserPass protocol clients :=
    fun clients => congrArg Json.array (map_config (fun _ => rfl) clients)
  simp only [Xray.buildInboundSettings, configInbound_clients, enabledClients_config, idEmail, alterID, password,
    userPass]
  rfl

theorem xray_buildInbound_config (inbound : Inbound) :
    Xray.buildInbound platform (configInbound inbound) = Xray.buildInbound platform inbound := by
  simp only [Xray.buildInbound, xray_buildInboundSettings_config]
  rfl

theorem lastWrite_map {κ ν ν' : Type} [BEq κ] (change : ν → ν') (writes : List (κ × ν)) (key : κ) :
    lastWrite (writes.map fun write => (write.1, change write.2)) key = (lastWrite writes key).map change := by
  induction writes with
  | nil => rfl
  | cons write rest ih =>
      obtain ⟨written, value⟩ := write
      rw [List.map_cons, lastWrite_cons, lastWrite_cons, ih]
      cases lastWrite rest key with
      | some _ => rfl
      | none => cases key == written <;> rfl

theorem xray_clientsByID_config (inbounds : List Inbound) (id : Int) :
    (Xray.ruleMaps (inbounds.map configInbound)).clientsByID id =
      ((Xray.ruleMaps inbounds).clientsByID id).map fun owner => (configClient owner.1, owner.2) := by
  have owned : ∀ inbound : Inbound, ((Xray.enabledClients (configInbound inbound).clients).map fun client =>
        (client.id, client, toLower (trimSpace inbound.protocol))) =
      ((Xray.enabledClients inbound.clients).map fun client =>
        (client.id, client, toLower (trimSpace inbound.protocol))).map fun write =>
          (write.1, configClient write.2.1, write.2.2) := by
    intro inbound
    rw [configInbound_clients, enabledClients_config, List.map_map, List.map_map]
    rfl
  simp only [Xray.ruleMaps, servedInbounds_config, List.flatMap_map]
  rw [← lastWrite_map, List.map_flatMap]
  exact congrArg (lastWrite · id) (List.flatMap_congr fun inbound _ => owned inbound)

theorem xray_ruleUsers_config (inbounds : List Inbound) (rule : RoutingRule) :
    Xray.ruleUsers (Xray.ruleMaps (inbounds.map configInbound)) rule =
      Xray.ruleUsers (Xray.ruleMaps inbounds) rule := by
  have user : ∀ protocol client, Xray.clientRouteUser protocol (configClient client) =
      Xray.clientRouteUser protocol client := fun _ _ => rfl
  simp only [Xray.ruleUsers, xray_clientsByID_config]
  cases (Xray.ruleMaps inbounds).clientsByID rule.clientID with
  | none => rfl
  | some owner => simp only [Option.map_some, Option.bind_eq_bind, Option.bind_some, user]

theorem xray_tags_config (inbounds : List Inbound) :
    (Xray.ruleMaps (inbounds.map configInbound)).inboundTagsByID = (Xray.ruleMaps inbounds).inboundTagsByID ∧
      (Xray.ruleMaps (inbounds.map configInbound)).inboundTagAliases =
        (Xray.ruleMaps inbounds).inboundTagAliases := by
  simp only [Xray.ruleMaps, servedInbounds_config, List.map_map, List.flatMap_map]
  exact ⟨rfl, rfl⟩

theorem xray_buildRule_config (inbounds : List Inbound) (outbounds : List Outbound) (rule : RoutingRule) :
    Xray.buildRule (Xray.ruleMaps (inbounds.map configInbound)) (inbounds.map configInbound) outbounds rule =
      Xray.buildRule (Xray.ruleMaps inbounds) inbounds outbounds rule := by
  obtain ⟨tags, aliases⟩ := xray_tags_config inbounds
  simp only [Xray.buildRule, routingRuleAppliesToCore_config, xray_ruleUsers_config, tags, aliases]

theorem xray_config (inbounds : List Inbound) (outbounds : List Outbound) (rules : List RoutingRule)
    (opts : ManagementDirectOptions) :
    Xray.buildConfigWithOutboundsOptions platform (inbounds.map configInbound) outbounds rules opts =
      Xray.buildConfigWithOutboundsOptions platform inbounds outbounds rules opts := by
  have built : ((Xray.servedInbounds coreXray inbounds).map configInbound).mapM (Xray.buildInbound platform) =
      (Xray.servedInbounds coreXray inbounds).mapM (Xray.buildInbound platform) := by
    rw [List.mapM_map]
    exact congrArg (fun build => List.mapM build _) (funext xray_buildInbound_config)
  have emitted : Xray.buildRule (Xray.ruleMaps (inbounds.map configInbound)) (inbounds.map configInbound) outbounds =
      Xray.buildRule (Xray.ruleMaps inbounds) inbounds outbounds :=
    funext (xray_buildRule_config inbounds outbounds)
  simp only [Xray.buildConfigWithOutboundsOptions, servedInbounds_config, built, emitted]

/-! ### sing-box -/

theorem singbox_buildInbound_config (inbound : Inbound) (i : Nat) :
    Singbox.buildInbound platform (configInbound inbound) i = Singbox.buildInbound platform inbound i := by
  have users : ∀ read : Client → Singbox.UserConfig, (∀ client, read (configClient client) = read client) →
      (Singbox.enabledClients (inbound.clients.map configClient)).map read =
        (Singbox.enabledClients inbound.clients).map read := by
    intro read same
    rw [show Singbox.enabledClients (inbound.clients.map configClient) =
      (Singbox.enabledClients inbound.clients).map configClient from List.filter_map]
    exact map_config same _
  simp only [Singbox.buildInbound, Singbox.buildHysteria2, Singbox.buildTUIC, Singbox.buildShadowTLS,
    configInbound_clients]
  rw [users _ fun _ => rfl, users _ fun _ => rfl]
  rfl

theorem singbox_buildRule_config (inbounds : List Inbound) (outbounds : List Outbound) (rule : RoutingRule) :
    Singbox.buildRule (Singbox.ruleMaps (inbounds.map configInbound)) (inbounds.map configInbound) outbounds rule =
      Singbox.buildRule (Singbox.ruleMaps inbounds) inbounds outbounds rule := by
  have maps : Singbox.ruleMaps (inbounds.map configInbound) = Singbox.ruleMaps inbounds := by
    simp only [Singbox.ruleMaps, servedInbounds_config, List.map_map, List.flatMap_map]
    rfl
  simp only [Singbox.buildRule, routingRuleAppliesToCore_config, maps]

theorem singbox_options_config (inbounds : List Inbound) (opts : Singbox.BuildOptions) :
    Singbox.buildConfigWithOptions platform (inbounds.map configInbound) opts =
      Singbox.buildConfigWithOptions platform inbounds opts := by
  simp only [Singbox.buildConfigWithOptions, List.zipIdx_map, List.filterMap_map]
  simp only [Function.comp_def, Prod.map, singbox_buildInbound_config, id]

theorem singbox_config (inbounds : List Inbound) (outbounds : List Outbound) (rules : List RoutingRule)
    (opts : Singbox.BuildOptions) :
    Singbox.buildConfigWithOutboundsOptions platform (inbounds.map configInbound) outbounds rules opts =
      Singbox.buildConfigWithOutboundsOptions platform inbounds outbounds rules opts := by
  have emitted : Singbox.buildRule (Singbox.ruleMaps (inbounds.map configInbound)) (inbounds.map configInbound)
      outbounds = Singbox.buildRule (Singbox.ruleMaps inbounds) inbounds outbounds :=
    funext (singbox_buildRule_config inbounds outbounds)
  simp only [Singbox.buildConfigWithOutboundsOptions, singbox_options_config, emitted]

/-! ### The version of a store -/

theorem listInbounds_config (store : Store) :
    (listInbounds store).map configInbound = store.configColumns.inbounds.map fun row =>
      { loadInbound row with clients := store.configColumns.clients.filter fun client => client.inboundID == row.id } := by
  rw [listInbounds, List.map_map]
  refine List.map_congr_left fun row _ => ?_
  have clients : store.configColumns.clients.filter (fun client => client.inboundID == row.id) =
      (store.clients.rows.filter fun client => client.inboundID == row.id).map configClient := List.filter_map
  rw [clients]
  rfl

/-- Two states of a run with the same version have the same rows in the columns the generators
read, and so the same configurations. -/
theorem config_follows_version {earlier later : VersionedStore} (run : Reach (VersionStep platform) earlier later)
    (same : later.validationConfigVersion = earlier.validationConfigVersion) :
    later.store.configColumns = earlier.store.configColumns ∧
      (∀ opts, Xray.buildConfigWithOutboundsOptions platform (listInbounds later.store) (listOutbounds later.store)
          (listRoutingRules later.store) opts =
        Xray.buildConfigWithOutboundsOptions platform (listInbounds earlier.store) (listOutbounds earlier.store)
          (listRoutingRules earlier.store) opts) ∧
      ∀ opts, Singbox.buildConfigWithOutboundsOptions platform (listInbounds later.store) (listOutbounds later.store)
          (listRoutingRules later.store) opts =
        Singbox.buildConfigWithOutboundsOptions platform (listInbounds earlier.store) (listOutbounds earlier.store)
          (listRoutingRules earlier.store) opts := by
  have columns := configColumns_of_version run same
  have inbounds : (listInbounds later.store).map configInbound = (listInbounds earlier.store).map configInbound := by
    rw [listInbounds_config, listInbounds_config, columns]
  have outbounds : listOutbounds later.store = listOutbounds earlier.store := by
    have rows : later.store.outbounds.rows = earlier.store.outbounds.rows :=
      congrArg ConfigColumns.outbounds columns
    rw [listOutbounds, listOutbounds, rows]
  have rules : listRoutingRules later.store = listRoutingRules earlier.store := by
    have rows : later.store.routingRules.rows = earlier.store.routingRules.rows :=
      congrArg ConfigColumns.routingRules columns
    rw [listRoutingRules, listRoutingRules, rows]
  refine ⟨columns, fun opts => ?_, fun opts => ?_⟩
  · rw [← xray_config, ← xray_config (listInbounds earlier.store), inbounds, outbounds, rules]
  · rw [← singbox_config, ← singbox_config (listInbounds earlier.store), inbounds, outbounds, rules]

/-- A subscription is created, for which there is no trigger. -/
def exampleSubscribed : VersionedStore where
  store := arrive (eventStep examplePlatform) [.operate (.createOutboundSubscription "" { (default : OutboundSubscriptionParams) with
    url := "https://example.com/sub", enabled := true })] Store.initial
  version := VersionedStore.initial.version

theorem subscription_keeps_config :
    exampleSubscribed.store.configColumns = VersionedStore.initial.store.configColumns := by
  have step : VersionStep examplePlatform (.event (.operate (.createOutboundSubscription ""
      { (default : OutboundSubscriptionParams) with url := "https://example.com/sub", enabled := true })))
        VersionedStore.initial exampleSubscribed := by
    refine ⟨arrive_single (by with_unfolding_all decide), ?_⟩
    have silent : configFirings VersionedStore.initial.store exampleSubscribed.store = 0 := by with_unfolding_all decide
    rw [silent]
    exact Int.le_of_eq (Int.add_zero _)
  exact (config_follows_version (.step .start step) rfl).1

end MiGate.Config
