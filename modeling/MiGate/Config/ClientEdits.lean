import MiGate.Config.Totality
import MiGate.Db.ClientsSound

namespace MiGate.Config

open Go Db Fallible Relational Routing Transition

variable {platform : Platform} {entropy : Entropy} {store after : Store}

/-! An edit of a client that supplies no new credentials. -/

/-- An inbound with one client, both enabled. -/
def loneInbound (row : InboundRow) (client : Client) : Inbound :=
  { loadInbound row with enabled := true, clients := [enableClient true client] }

/-- What the generators make of an inbound with this client alone. -/
def emittedFor (platform : Platform) (row : InboundRow) (client : Client) :
    Option (List (String × Json) × List (String × Json)) × Option Singbox.InboundConfig :=
  (Xray.buildInboundSettings platform (toLower (trimSpace row.protocol)) (loneInbound row client),
    Singbox.buildInbound platform (loneInbound row client) 0)

@[simp] theorem enableClient_enabled (enabled : Bool) (client : Client) :
    (enableClient enabled client).enabled = enabled := rfl

@[simp] theorem enableClient_credentialIDValue (enabled : Bool) (client : Client) :
    (enableClient enabled client).credentialIDValue = client.credentialIDValue := rfl

@[simp] theorem enableClient_passwordValue (enabled : Bool) (client : Client) :
    (enableClient enabled client).passwordValue = client.passwordValue := rfl

@[simp] theorem clientStatsName_enableClient (enabled : Bool) (client : Client) :
    Xray.clientStatsName (enableClient enabled client) = Xray.clientStatsName client := rfl

@[simp] theorem userStatsKey_enableClient (enabled : Bool) (client : Client) :
    Singbox.userStatsKey (enableClient enabled client) = Singbox.userStatsKey client := rfl

@[simp] theorem xray_enabledClients_lone (row : InboundRow) (client : Client) :
    Xray.enabledClients (loneInbound row client).clients = [enableClient true client] := rfl

@[simp] theorem singbox_enabledClients_lone (row : InboundRow) (client : Client) :
    Singbox.enabledClients (loneInbound row client).clients = [enableClient true client] := rfl

@[simp] theorem trimSpace_credentialIDValue (client : Client) :
    trimSpace client.credentialIDValue = client.credentialIDValue := by
  unfold Client.credentialIDValue
  split
  · exact trimSpace_trimSpace _
  · exact trimSpace_trimSpace _

@[simp] theorem loneInbound_toInboundSettings (row : InboundRow) (client : Client) :
    (loneInbound row client).toInboundSettings = row.toInboundSettings := rfl

/-- The payload leaves each credential out or repeats the stored one. -/
def repeatsCredentials (params : UpdateClientParams) (client : Client) : Prop :=
  (trimSpace params.uuid = "" ∨ trimSpace params.uuid = client.uuid) ∧
    (trimSpace params.credentialID = "" ∨ trimSpace params.credentialID = client.credentialID) ∧
    (trimSpace params.password = "" ∨ trimSpace params.password = client.password)

/-- The payload repeats the UUID and leaves out the column the protocol reads. -/
def uuidStandsFor (field : String) (params : UpdateClientParams) : Bool :=
  trimSpace field == "" && trimSpace params.uuid != ""

/-- Which clients an edit that supplies no new credentials leaves as they are. -/
def editKeepsClient (store : Store) (protocol : String) (params : UpdateClientParams) (client : Client) : Bool :=
  let others := store.clients.rows.filter fun row => row.id != client.id
  match (getInboundCapability protocol).map InboundCapability.credentialType with
  | some .uuid => client.uuid == client.credentialID
  | some .password =>
      if uuidStandsFor params.password params then client.uuid == client.password
      else !others.any fun other => other.uuid == client.password
  | some .credentialIDPassword | some .usernamePassword =>
      if uuidStandsFor params.credentialID params then client.uuid == client.credentialID
      else !others.any fun other => other.uuid == client.credentialID
  | some .none => !others.any fun other => other.credentialID == client.uuid
  | none => false

/-- What the generators read of the credentials, by the kind the protocol asks for. -/
def sameEmission (platform : Platform) (protocol : String) (left right : Client) : Prop :=
  match (getInboundCapability protocol).map InboundCapability.credentialType with
  | some .uuid => left.credentialIDValue = right.credentialIDValue
  | some .password => left.passwordValue = right.passwordValue
  | some .credentialIDPassword =>
      left.passwordValue = right.passwordValue ∧
        Singbox.stableTUICUUID platform left.credentialIDValue = Singbox.stableTUICUUID platform right.credentialIDValue
  | some .usernamePassword =>
      left.credentialIDValue = right.credentialIDValue ∧ left.passwordValue = right.passwordValue
  | _ => True

theorem supported_protocol {row : InboundRow} (sound : row.Sound) :
    row.protocol ∈ ["vless", "vmess", "trojan", "shadowsocks", "socks", "http", "hysteria2", "tuic", "shadowtls"] := by
  have supported := sound.supported
  rw [supportedInboundProtocol, getInboundCapability, sound.normal, List.find?_isSome] at supported
  obtain ⟨capability, member, named⟩ := supported
  rw [← beq_iff_eq.mp named]
  exact List.mem_map_of_mem (f := InboundCapability.protocol) member

theorem singbox_foreign {row : InboundRow} (foreign : row.protocol ∉ ["hysteria2", "tuic", "shadowtls"])
    (client : Client) : Singbox.buildInbound platform (loneInbound row client) 0 = none := by
  simp only [List.mem_cons, List.not_mem_nil, or_false, not_or] at foreign
  simp [Singbox.buildInbound, foreign]

theorem singbox_serves {row : InboundRow} (sound : row.Sound) (core : inferInboundCore row.protocol = coreSingbox)
    (client : Client) : inboundServes coreSingbox (loneInbound row client) = true := by
  have stored : row.core = coreSingbox := sound.core.trans core
  have normal : normalizeCore coreSingbox = coreSingbox := by with_unfolding_all decide
  have given : trimSpace coreSingbox ≠ "" := by with_unfolding_all decide
  have named : coreSingbox ≠ "" := by decide
  simp [inboundServes, loneInbound, inboundCore, loadInbound, stored, normal, given, named]

theorem users_eq_iff {config : Singbox.InboundConfig} {left right : Singbox.UserConfig} :
    some { config with users := [left] } = some { config with users := [right] } ↔ left = right := by
  constructor
  · intro same
    exact List.singleton_injective (congrArg Singbox.InboundConfig.users (Option.some.inj same))
  · intro same
    rw [same]

theorem emittedFor_eq_iff {row : InboundRow} (sound : row.Sound) {left right : Client}
    (statsKey : left.statsKey = right.statsKey) (email : left.email = right.email) :
    emittedFor platform row left = emittedFor platform row right ↔ sameEmission platform row.protocol left right := by
  have normal : toLower (trimSpace row.protocol) = row.protocol := sound.normal
  have name : Xray.clientStatsName left = Xray.clientStatsName right := by
    rw [Xray.clientStatsName, Xray.clientStatsName, statsKey, email]
  have user : Singbox.userStatsKey left = Singbox.userStatsKey right := by
    rw [Singbox.userStatsKey, Singbox.userStatsKey, statsKey, email]
  have protocols := supported_protocol sound
  have serves := singbox_serves sound
  simp only [List.mem_cons, List.not_mem_nil, or_false] at protocols
  unfold emittedFor
  rw [normal]
  rcases protocols with named | named | named | named | named | named | named | named | named
  · have capability : (getInboundCapability "vless").map InboundCapability.credentialType = some .uuid := by
      with_unfolding_all decide
    rw [singbox_foreign (by simp [named]), singbox_foreign (by simp [named])]
    have shape : ∀ client, Xray.buildInboundSettings platform "vless" (loneInbound row client) =
        some ([("clients", Xray.clientsAsIDEmail [enableClient true client]
            (if toLower (trimSpace row.security) = "reality" ∧ toLower (trimSpace row.network) ≠ "xhttp" then
              "xtls-rprx-vision"
            else "")), ("decryption", .string "none")], Xray.buildStreamSettings row.toInboundSettings) := fun _ => rfl
    rw [named, shape, shape]
    simp [sameEmission, capability, Xray.clientsAsIDEmail, name]
  · have capability : (getInboundCapability "vmess").map InboundCapability.credentialType = some .uuid := by
      with_unfolding_all decide
    rw [singbox_foreign (by simp [named]), singbox_foreign (by simp [named])]
    simp [sameEmission, named, capability, Xray.buildInboundSettings, Xray.clientsAsAlterIDEmail, name]
  · have capability : (getInboundCapability "trojan").map InboundCapability.credentialType = some .password := by
      with_unfolding_all decide
    rw [singbox_foreign (by simp [named]), singbox_foreign (by simp [named])]
    simp [sameEmission, named, capability, Xray.buildInboundSettings, Xray.clientsAsPasswordEmail, name]
  · have capability : (getInboundCapability "shadowsocks").map InboundCapability.credentialType = some .none := by
      with_unfolding_all decide
    rw [singbox_foreign (by simp [named]), singbox_foreign (by simp [named])]
    simp [sameEmission, named, capability, Xray.buildInboundSettings]
  · have capability : (getInboundCapability "socks").map InboundCapability.credentialType =
        some .usernamePassword := by with_unfolding_all decide
    have token : toLower (trimSpace "socks") = "socks" := by with_unfolding_all decide
    rw [singbox_foreign (by simp [named]), singbox_foreign (by simp [named])]
    simp [sameEmission, named, capability, Xray.buildInboundSettings, Xray.clientsAsUserPass, Xray.clientRouteUser,
      token]
  · have capability : (getInboundCapability "http").map InboundCapability.credentialType =
        some .usernamePassword := by with_unfolding_all decide
    have token : toLower (trimSpace "http") = "http" := by with_unfolding_all decide
    rw [singbox_foreign (by simp [named]), singbox_foreign (by simp [named])]
    simp [sameEmission, named, capability, Xray.buildInboundSettings, Xray.clientsAsUserPass, Xray.clientRouteUser,
      token]
  · have capability : (getInboundCapability "hysteria2").map InboundCapability.credentialType = some .password := by
      with_unfolding_all decide
    have core : inferInboundCore row.protocol = coreSingbox := by rw [named]; with_unfolding_all decide
    have shape : ∀ client, Singbox.buildInbound platform (loneInbound row client) 0 =
        some { Singbox.buildHysteria2 platform (if row.port ≤ 0 then Singbox.nextPort 0 else row.port) (loneInbound row left) with
          users := [⟨Singbox.userStatsKey client, client.passwordValue, ""⟩] } := by
      intro client
      simp only [Singbox.buildInbound, serves core, loneInbound_toInboundSettings, named]
      rfl
    rw [shape, shape, Prod.mk.injEq, users_eq_iff]
    simp [sameEmission, named, capability, Xray.buildInboundSettings, user]
  · have capability : (getInboundCapability "tuic").map InboundCapability.credentialType =
        some .credentialIDPassword := by with_unfolding_all decide
    have core : inferInboundCore row.protocol = coreSingbox := by rw [named]; with_unfolding_all decide
    have shape : ∀ client, Singbox.buildInbound platform (loneInbound row client) 0 =
        some { Singbox.buildTUIC platform (if row.port ≤ 0 then Singbox.nextPort 0 else row.port) (loneInbound row left) with
          users := [⟨Singbox.userStatsKey client, client.passwordValue, Singbox.stableTUICUUID platform client.credentialIDValue⟩] } := by
      intro client
      simp only [Singbox.buildInbound, serves core, loneInbound_toInboundSettings, named]
      rfl
    rw [shape, shape, Prod.mk.injEq, users_eq_iff]
    simp [sameEmission, named, capability, Xray.buildInboundSettings, user]
  · have capability : (getInboundCapability "shadowtls").map InboundCapability.credentialType = some .password := by
      with_unfolding_all decide
    have core : inferInboundCore row.protocol = coreSingbox := by rw [named]; with_unfolding_all decide
    have shape : ∀ client, Singbox.buildInbound platform (loneInbound row client) 0 =
        some { Singbox.buildShadowTLS (if row.port ≤ 0 then Singbox.nextPort 0 else row.port) (loneInbound row left) with
          users := [⟨Singbox.userStatsKey client, client.passwordValue, ""⟩] } := by
      intro client
      simp only [Singbox.buildInbound, serves core, loneInbound_toInboundSettings, named]
      rfl
    rw [shape, shape, Prod.mk.injEq, users_eq_iff]
    simp [sameEmission, named, capability, Xray.buildInboundSettings, user]

/-! What the update makes of credentials that are repeated or left out. -/

theorem firstNonEmpty_cons (value : String) (rest : List String) :
    firstNonEmpty (value :: rest) = if trimSpace value = "" then firstNonEmpty rest else trimSpace value := by
  unfold firstNonEmpty
  by_cases blank : trimSpace value = ""
  · rw [List.find?_cons_of_neg (by simp [blank]), if_pos blank]
  · rw [List.find?_cons_of_pos (by simp [blank]), if_neg blank]

theorem firstNonEmpty_repeated {asked stored : String} {rest : List String} (trimmed : trimSpace stored = stored)
    (given : stored ≠ "") (repeated : trimSpace asked = "" ∨ trimSpace asked = stored) :
    firstNonEmpty (asked :: stored :: rest) = stored := by
  rw [firstNonEmpty_cons, firstNonEmpty_cons, trimmed, if_neg given]
  split
  · rfl
  · rename_i nonblank
    exact repeated.resolve_left nonblank

theorem firstNonEmpty_password {asked stored : String} (trimmed : trimSpace stored = stored)
    (repeated : trimSpace asked = "" ∨ trimSpace asked = stored) : firstNonEmpty [asked, stored] = stored := by
  have last : firstNonEmpty [] = "" := rfl
  rw [firstNonEmpty_cons, firstNonEmpty_cons, trimmed, last]
  split
  · split
    · rename_i blank
      exact blank.symm
    · rfl
  · rename_i nonblank
    exact repeated.resolve_left nonblank

/-- The credentials after the update, by the kind the protocol asks for. -/
def repeatedCredentials (protocol : String) (params : UpdateClientParams) (client : Client) : ClientCredentials :=
  match (getInboundCapability protocol).map InboundCapability.credentialType with
  | some .uuid => ⟨client.uuid, client.uuid, ""⟩
  | some .password =>
      let password := if uuidStandsFor params.password params then client.uuid else client.password
      ⟨password, client.credentialID, password⟩
  | some .credentialIDPassword | some .usernamePassword =>
      let credentialID := if uuidStandsFor params.credentialID params then client.uuid else client.credentialID
      ⟨credentialID, credentialID, client.password⟩
  | some .none => ⟨client.uuid, client.uuid, ""⟩
  | none => ⟨client.uuid, client.uuid, client.password⟩

theorem updatedClientCredentials_repeated {protocol : String} {params : UpdateClientParams} {client : Client}
    (sound : client.Sound) (tidy : client.Tidy) (repeats : repeatsCredentials params client)
    (valid : validateClientCredential protocol client = .ok ()) :
    updatedClientCredentials entropy protocol params client = repeatedCredentials protocol params client := by
  obtain ⟨uuid, credentialID, password⟩ := repeats
  have kept : firstNonEmpty [params.uuid, client.uuid] = client.uuid :=
    firstNonEmpty_repeated tidy.uuid tidy.uuidGiven uuid
  have named : firstNonEmpty [params.credentialID, client.credentialID, client.uuid] = client.credentialID :=
    firstNonEmpty_repeated sound.credentialID sound.credentialIDGiven credentialID
  have secret : firstNonEmpty [params.password, client.password] = client.password :=
    firstNonEmpty_password tidy.password password
  have blank : trimSpace "" = "" := trimSpace_empty
  -- The column the UUID stands for, once it is trimmed.
  have chosen : ∀ {field stored : String}, trimSpace stored = stored →
      trimSpace (if trimSpace field = "" ∧ trimSpace params.uuid ≠ "" then params.uuid else stored) =
        if uuidStandsFor field params then client.uuid else stored := by
    intro field stored trimmed
    by_cases stands : trimSpace field = "" ∧ trimSpace params.uuid ≠ ""
    · have alone : uuidStandsFor field params = true := by simp [uuidStandsFor, stands]
      rw [if_pos stands, if_pos alone]
      exact uuid.resolve_left stands.2
    · have present : ¬uuidStandsFor field params = true := by
        rw [uuidStandsFor, Bool.and_eq_true, beq_iff_eq, bne_iff_ne]
        exact stands
      rw [if_neg stands, if_neg present, trimmed]
  simp only [validateClientCredential, bind_eq_ok, expect_eq_ok] at valid
  obtain ⟨capability, supported, checked⟩ := valid
  unfold updatedClientCredentials repeatedCredentials
  dsimp only
  rw [kept, named, secret, supported, Option.map_some]
  cases kind : capability.credentialType with
  | uuid =>
      simp only [normalizeClientCredentials, supported, Option.map_some, kind, tidy.uuid, orElse, tidy.uuidGiven,
        if_false]
  | password =>
      rw [kind] at checked
      simp only [require_eq_ok, bne_iff_ne, tidy.password] at checked
      have given : (if uuidStandsFor params.password params then client.uuid else client.password) ≠ "" := by
        split
        · exact tidy.uuidGiven
        · exact checked
      simp only [normalizeClientCredentials, supported, Option.map_some, kind, tidy.uuid, orElse, sound.credentialID,
        sound.credentialIDGiven, chosen tidy.password, given, if_false]
  | credentialIDPassword =>
      rw [kind] at checked
      simp only [bind_eq_ok, require_eq_ok, bne_iff_ne, tidy.password] at checked
      have given : (if uuidStandsFor params.credentialID params then client.uuid else client.credentialID) ≠ "" := by
        split
        · exact tidy.uuidGiven
        · exact sound.credentialIDGiven
      obtain ⟨_, _, secretGiven⟩ := checked
      simp only [normalizeClientCredentials, supported, Option.map_some, kind, orElse, tidy.password,
        chosen sound.credentialID, given, secretGiven, if_false]
  | usernamePassword =>
      rw [kind] at checked
      simp only [bind_eq_ok, require_eq_ok, bne_iff_ne, tidy.password] at checked
      have given : (if uuidStandsFor params.credentialID params then client.uuid else client.credentialID) ≠ "" := by
        split
        · exact tidy.uuidGiven
        · exact sound.credentialIDGiven
      obtain ⟨_, _, secretGiven⟩ := checked
      simp only [normalizeClientCredentials, supported, Option.map_some, kind, orElse, tidy.password,
        chosen sound.credentialID, given, secretGiven, if_false]
  | none =>
      simp only [normalizeClientCredentials, supported, Option.map_some, kind, tidy.uuid, orElse, tidy.uuidGiven,
        if_false]

/-- An update succeeds if its credentials are valid and no other client has them or the email. -/
theorem updateClient_eq_ok_iff {id : Int} {params : UpdateClientParams} {client updated : Client}
    {inbound : InboundRow} (found : store.clients.find? id = some client)
    (loaded : getInboundBasic store client.inboundID = .ok inbound) :
    updateClient entropy id params store = .ok (after, updated) ↔
      let email := clientEmail params.email
      let credentials := updatedClientCredentials entropy inbound.protocol params client
      validateClientCredential inbound.protocol credentials.asClient = .ok () ∧
        checkClientDuplicates (store.clients.rows.filter fun row => row.id != id) client.inboundID email
          credentials = .ok () ∧
        updated = updateClientRow email credentials params client ∧
        after = { store with
          clients := store.clients.modifyWhere (fun row => row.id == id)
            (updateClientRow email credentials params) (updateClientRow_id email credentials params)
          routingRules :=
            if trimSpace client.email ≠ email then
              store.routingRules.modifyWhere (fun rule => rule.clientID == id) (renameRuleClient email)
                (renameRuleClient_id email)
            else store.routingRules } := by
  simp only [updateClient, found, loaded, expect, bind_eq_ok, pure_eq_ok, Except.ok.injEq, exists_eq_left',
    Prod.mk.injEq]
  constructor
  · rintro ⟨_, valid, _, checked, rfl, rfl⟩
    exact ⟨valid, checked, rfl, rfl⟩
  · rintro ⟨valid, checked, rfl, rfl⟩
    exact ⟨(), valid, (), checked, rfl, rfl⟩

theorem checkClientDuplicates_iff {others : List Client} {inboundID : Int} {email : String}
    {credentials : ClientCredentials} (given : credentials.credentialID ≠ "") :
    checkClientDuplicates others inboundID email credentials = .ok () ↔
      (∀ other ∈ others, other.inboundID = inboundID → other.email ≠ email) ∧
        (∀ other ∈ others, other.uuid ≠ credentials.uuid) ∧
        ∀ other ∈ others, other.credentialID ≠ credentials.credentialID := by
  simp only [checkClientDuplicates, bind_eq_ok, require_eq_ok, Bool.not_eq_true', List.any_eq_false,
    Bool.and_eq_true, Bool.or_eq_true, beq_iff_eq, not_and, given, false_or]
  constructor
  · rintro ⟨_, emails, _, uuids, ids⟩
    exact ⟨emails, uuids, ids⟩
  · rintro ⟨emails, uuids, ids⟩
    exact ⟨(), emails, (), uuids, ids⟩

theorem credentialIDValue_given {client : Client} (trimmed : trimSpace client.credentialID = client.credentialID)
    (given : client.credentialID ≠ "") : client.credentialIDValue = client.credentialID := by
  rw [Client.credentialIDValue, trimmed, if_pos given]

theorem passwordValue_given {client : Client} (trimmed : trimSpace client.password = client.password)
    (given : client.password ≠ "") : client.passwordValue = client.password := by
  rw [Client.passwordValue, trimmed, if_pos given]

theorem stableTUICUUID_uuid {id : String} (trimmed : trimSpace id = id) (uuid : isUUID id = true) :
    Singbox.stableTUICUUID platform id = id := by
  rw [isUUID, trimmed] at uuid
  rw [Singbox.stableTUICUUID, trimmed, if_pos uuid]

/-- No two clients share what identifies them. -/
structure Apart (store : Store) (client : Client) : Prop where
  uuid : ∀ other ∈ store.clients.rows.filter (fun row => row.id != client.id), other.uuid ≠ client.uuid
  credentialID : ∀ other ∈ store.clients.rows.filter (fun row => row.id != client.id),
    other.credentialID ≠ client.credentialID
  email : ∀ other ∈ store.clients.rows.filter (fun row => row.id != client.id),
    other.inboundID = client.inboundID → other.email ≠ client.email

theorem apart_of_sound (rows : RowsSound store) (sound : ClientsSound store) {client : Client}
    (stored : client ∈ store.clients.rows) : Apart store client := by
  have distinct : ∀ other ∈ store.clients.rows.filter (fun row => row.id != client.id),
      other ∈ store.clients.rows ∧ other ≠ client := by
    intro other member
    obtain ⟨inside, different⟩ := List.mem_filter.mp member
    exact ⟨inside, fun same => bne_iff_ne.mp different (congrArg Client.id same)⟩
  constructor
  · intro other member same
    exact (distinct other member).2 (List.inj_on_of_nodup_map sound.uuids (distinct other member).1 stored same)
  · intro other member same
    exact (distinct other member).2 (List.inj_on_of_nodup_map rows.credentialIDs (distinct other member).1 stored same)
  · intro other member bound same
    exact (distinct other member).2
      (List.inj_on_of_nodup_map sound.emails (distinct other member).1 stored (Prod.ext bound same))

theorem editKeepsClient_iff {protocol email : String} {params : UpdateClientParams} {client : Client}
    (sound : client.Sound) (tidy : client.Tidy) (apart : Apart store client)
    (valid : validateClientCredential protocol client = .ok ()) :
    let credentials := repeatedCredentials protocol params client
    let others := store.clients.rows.filter fun row => row.id != client.id
    (validateClientCredential protocol credentials.asClient = .ok () ∧
        (∀ other ∈ others, other.uuid ≠ credentials.uuid) ∧
        (∀ other ∈ others, other.credentialID ≠ credentials.credentialID) ∧
        sameEmission platform protocol (updateClientRow email credentials params client) client) ↔
      editKeepsClient store protocol params client = true := by
  have id := credentialIDValue_given sound.credentialID sound.credentialIDGiven
  have blank : trimSpace "" = "" := trimSpace_empty
  simp only [validateClientCredential, bind_eq_ok, expect_eq_ok] at valid
  obtain ⟨capability, supported, checked⟩ := valid
  dsimp only
  unfold editKeepsClient repeatedCredentials sameEmission
  simp only [validateClientCredential, bind_eq_ok, expect_eq_ok, supported, Option.map_some, Option.some.injEq,
    exists_eq_left']
  cases kind : capability.credentialType with
  | uuid =>
      rw [kind] at checked
      dsimp only at checked ⊢
      rw [require_eq_ok, id, sound.credentialID] at checked
      have written : (ClientCredentials.asClient ⟨client.uuid, client.uuid, ""⟩).credentialIDValue = client.uuid :=
        credentialIDValue_given tidy.uuid tidy.uuidGiven
      have updated : (updateClientRow email ⟨client.uuid, client.uuid, ""⟩ params client).credentialIDValue =
          client.uuid := credentialIDValue_given tidy.uuid tidy.uuidGiven
      rw [written, updated, id, tidy.uuid, require_eq_ok, beq_iff_eq]
      constructor
      · exact fun kept => kept.2.2.2
      · intro same
        rw [same]
        refine ⟨checked, ?_, apart.credentialID, rfl⟩
        rw [← same]
        exact apart.uuid
  | password =>
      rw [kind] at checked
      dsimp only at checked ⊢
      rw [require_eq_ok, tidy.password, bne_iff_ne] at checked
      have held := passwordValue_given tidy.password checked
      -- Whatever becomes the password is written, and is what is emitted.
      have emits : ∀ password : String, trimSpace password = password → password ≠ "" →
          (updateClientRow email ⟨password, client.credentialID, password⟩ params client).passwordValue = password :=
        fun _ trimmed given => passwordValue_given trimmed given
      cases stands : uuidStandsFor params.password params with
      | true =>
          simp only [if_true, emits _ tidy.uuid tidy.uuidGiven, held, ClientCredentials.asClient, tidy.uuid,
            require_eq_ok, bne_iff_ne, beq_iff_eq]
          exact ⟨fun kept => kept.2.2.2, fun same => ⟨tidy.uuidGiven, apart.uuid, apart.credentialID, same⟩⟩
      | false =>
          simp only [Bool.false_eq_true, if_false, emits _ tidy.password checked, held, ClientCredentials.asClient,
            tidy.password, require_eq_ok, bne_iff_ne, Bool.not_eq_true', List.any_eq_false, beq_iff_eq]
          exact ⟨fun kept => kept.2.1, fun free => ⟨checked, free, apart.credentialID, trivial⟩⟩
  | credentialIDPassword =>
      rw [kind] at checked
      dsimp only at checked ⊢
      simp only [bind_eq_ok, require_eq_ok, id, sound.credentialID, tidy.password, bne_iff_ne] at checked
      obtain ⟨_, uuid, given⟩ := checked
      have held := passwordValue_given tidy.password given
      have emits : ∀ credentialID : String,
          (updateClientRow email ⟨credentialID, credentialID, client.password⟩ params client).passwordValue =
            client.password := fun _ => passwordValue_given tidy.password given
      have written : ∀ credentialID : String, trimSpace credentialID = credentialID → credentialID ≠ "" →
          (ClientCredentials.asClient ⟨credentialID, credentialID, client.password⟩).credentialIDValue =
            credentialID := fun _ trimmed given => credentialIDValue_given trimmed given
      have updated : ∀ credentialID : String, trimSpace credentialID = credentialID → credentialID ≠ "" →
          (updateClientRow email ⟨credentialID, credentialID, client.password⟩ params client).credentialIDValue =
            credentialID := fun _ trimmed given => credentialIDValue_given trimmed given
      cases stands : uuidStandsFor params.credentialID params with
      | true =>
          simp only [if_true, emits, held, written _ tidy.uuid tidy.uuidGiven, updated _ tidy.uuid tidy.uuidGiven, id,
            bind_eq_ok, require_eq_ok, tidy.uuid, beq_iff_eq]
          constructor
          · rintro ⟨⟨_, given, _⟩, _, _, _, same⟩
            rwa [stableTUICUUID_uuid tidy.uuid given, stableTUICUUID_uuid sound.credentialID uuid] at same
          · intro same
            rw [same]
            refine ⟨⟨(), uuid, ?_⟩, ?_, apart.credentialID, trivial, rfl⟩
            · rw [ClientCredentials.asClient, tidy.password]
              exact bne_iff_ne.mpr given
            · rw [← same]
              exact apart.uuid
      | false =>
          simp only [Bool.false_eq_true, if_false, emits, held, written _ sound.credentialID sound.credentialIDGiven,
            updated _ sound.credentialID sound.credentialIDGiven, id, bind_eq_ok, require_eq_ok, sound.credentialID,
            Bool.not_eq_true', List.any_eq_false, beq_iff_eq]
          refine ⟨fun kept => kept.2.1, fun free => ⟨⟨(), uuid, ?_⟩, free, apart.credentialID, trivial, trivial⟩⟩
          rw [ClientCredentials.asClient, tidy.password]
          exact bne_iff_ne.mpr given
  | usernamePassword =>
      rw [kind] at checked
      dsimp only at checked ⊢
      simp only [bind_eq_ok, require_eq_ok, id, sound.credentialID, tidy.password, bne_iff_ne] at checked
      obtain ⟨_, named, given⟩ := checked
      have held := passwordValue_given tidy.password given
      have emits : ∀ credentialID : String,
          (updateClientRow email ⟨credentialID, credentialID, client.password⟩ params client).passwordValue =
            client.password := fun _ => passwordValue_given tidy.password given
      have written : ∀ credentialID : String, trimSpace credentialID = credentialID → credentialID ≠ "" →
          (ClientCredentials.asClient ⟨credentialID, credentialID, client.password⟩).credentialIDValue =
            credentialID := fun _ trimmed given => credentialIDValue_given trimmed given
      have updated : ∀ credentialID : String, trimSpace credentialID = credentialID → credentialID ≠ "" →
          (updateClientRow email ⟨credentialID, credentialID, client.password⟩ params client).credentialIDValue =
            credentialID := fun _ trimmed given => credentialIDValue_given trimmed given
      cases stands : uuidStandsFor params.credentialID params with
      | true =>
          simp only [if_true, emits, held, written _ tidy.uuid tidy.uuidGiven, updated _ tidy.uuid tidy.uuidGiven, id,
            bind_eq_ok, require_eq_ok, tidy.uuid, beq_iff_eq]
          constructor
          · exact fun kept => kept.2.2.2.1
          · intro same
            rw [same]
            refine ⟨⟨(), bne_iff_ne.mpr named, ?_⟩, ?_, apart.credentialID, rfl, trivial⟩
            · rw [ClientCredentials.asClient, tidy.password]
              exact bne_iff_ne.mpr given
            · rw [← same]
              exact apart.uuid
      | false =>
          simp only [Bool.false_eq_true, if_false, emits, held, written _ sound.credentialID sound.credentialIDGiven,
            updated _ sound.credentialID sound.credentialIDGiven, id, bind_eq_ok, require_eq_ok, sound.credentialID,
            Bool.not_eq_true', List.any_eq_false, beq_iff_eq]
          refine ⟨fun kept => kept.2.1, fun free =>
            ⟨⟨(), bne_iff_ne.mpr named, ?_⟩, free, apart.credentialID, trivial, trivial⟩⟩
          rw [ClientCredentials.asClient, tidy.password]
          exact bne_iff_ne.mpr given
  | none =>
      dsimp only
      simp only [Bool.not_eq_true', List.any_eq_false, beq_iff_eq]
      exact ⟨fun kept => kept.2.2.1, fun free => ⟨rfl, apart.uuid, free, trivial⟩⟩

/-- An edit with no new credentials succeeds and leaves what is emitted exactly for the clients the
condition names. -/
theorem client_edit_iff (reached : Reach (Steps (eventStep platform)) Store.initial store) (entropy : Entropy)
    {client : Client} (stored : client ∈ store.clients.rows) {row : InboundRow} (dwelling : row ∈ store.inbounds.rows)
    (bound : row.id = client.inboundID) {params : UpdateClientParams} (email : clientEmail params.email = client.email)
    (repeats : repeatsCredentials params client) :
    (∃ after updated, updateClient entropy client.id params store = .ok (after, updated) ∧
        updated ∈ after.clients.rows ∧ emittedFor platform row updated = emittedFor platform row client) ↔
      editKeepsClient store row.protocol params client = true := by
  have rows := (events_inv reached).rows
  have sound := events_clients reached
  have clientSound := rows.clients client stored
  have tidy := sound.tidy client stored
  have valid := sound.valid client stored row dwelling bound
  have apart := apart_of_sound rows sound stored
  have found := Serial.find?_of_mem stored
  have loaded : getInboundBasic store client.inboundID = .ok (loadInbound row) := by
    rw [getInboundBasic, ← bound, Serial.find?_of_mem dwelling]
    rfl
  have credentials : updatedClientCredentials entropy (loadInbound row).protocol params client =
      repeatedCredentials row.protocol params client :=
    updatedClientCredentials_repeated clientSound tidy repeats valid
  have given : (repeatedCredentials row.protocol params client).credentialID ≠ "" := by
    rw [← credentials]
    exact (updatedClientCredentials_id entropy row.protocol params client).2
  have kept := @editKeepsClient_iff platform store row.protocol client.email params client clientSound tidy apart valid
  dsimp only at kept
  have emission := @emittedFor_eq_iff platform row (rows.inbounds row dwelling)
    (updateClientRow client.email (repeatedCredentials row.protocol params client) params client) client rfl rfl
  rw [← kept, ← emission]
  constructor
  · rintro ⟨after, updated, done, _, same⟩
    obtain ⟨checked, fresh, rfl, _⟩ := (updateClient_eq_ok_iff found loaded).mp done
    rw [credentials] at checked fresh same
    rw [email] at same
    obtain ⟨_, uuids, ids⟩ := (checkClientDuplicates_iff given).mp fresh
    exact ⟨checked, uuids, ids, same⟩
  · rintro ⟨checked, uuids, ids, same⟩
    refine ⟨_, _, (updateClient_eq_ok_iff found loaded).mpr ⟨?_, ?_, rfl, rfl⟩, ?_, ?_⟩
    · rw [credentials]
      exact checked
    · rw [credentials, email]
      exact (checkClientDuplicates_iff given).mpr ⟨apart.email, uuids, ids⟩
    · exact List.mem_map.mpr ⟨client, stored, if_pos (beq_iff_eq.mpr rfl)⟩
    · rw [credentials, email]
      exact same

/-- A trojan inbound with a client, whose password and credential identifier are generated. -/
def exampleTrojan : StoreOp :=
  .createInbound (exampleEntropy 1) { (default : CreateInboundParams) with
    protocol := "trojan", port := 20001, initialClient := some { (default : CreateClientParams) with
      email := "alice" } }

def exampleTrojanStore : Store :=
  arrive (eventStep examplePlatform) [.operate exampleTrojan] Store.initial

/-- An edit that switches the client off and says nothing of its credentials. -/
def exampleEdit : UpdateClientParams :=
  { (default : UpdateClientParams) with email := "alice" }

theorem trojan_client_edited :
    ∃ client ∈ exampleTrojanStore.clients.rows, ∃ row ∈ exampleTrojanStore.inbounds.rows,
      ∃ after updated, updateClient (exampleEntropy 2) client.id exampleEdit exampleTrojanStore =
          .ok (after, updated) ∧
        updated ∈ after.clients.rows ∧ emittedFor examplePlatform row updated = emittedFor examplePlatform row client := by
  have present : ∃ client ∈ exampleTrojanStore.clients.rows, ∃ row ∈ exampleTrojanStore.inbounds.rows,
      row.id = client.inboundID ∧ clientEmail exampleEdit.email = client.email ∧
        editKeepsClient exampleTrojanStore row.protocol exampleEdit client = true := by with_unfolding_all decide
  obtain ⟨client, stored, row, dwelling, bound, email, keeps⟩ := present
  have blank : trimSpace "" = "" := trimSpace_empty
  exact ⟨client, stored, row, dwelling, (client_edit_iff
    (Reach.arrive (eventStep examplePlatform) [.operate exampleTrojan] Store.initial) (exampleEntropy 2) stored
    dwelling bound email ⟨.inl blank, .inl blank, .inl blank⟩).mpr keeps⟩

/-- The inbound is changed to VLESS, which its client's credential identifier allows. -/
def exampleConvertedStore : Store :=
  arrive (eventStep examplePlatform)
    [.operate exampleTrojan, .operate (.updateInbound (exampleEntropy 2) 1 { (default : UpdateInboundParams) with
      remark := "trojan", protocol := "vless", security := "none", port := 20001, enabled := true })] Store.initial

theorem converted_client_not_editable :
    ¬ ∀ (platform : Platform) (store : Store), Reach (Steps (eventStep platform)) Store.initial store →
      ∀ (entropy : Entropy), ∀ client ∈ store.clients.rows, ∀ row ∈ store.inbounds.rows, row.id = client.inboundID →
        ∀ params : UpdateClientParams, clientEmail params.email = client.email → repeatsCredentials params client →
          ∃ after updated, updateClient entropy client.id params store = .ok (after, updated) ∧
            emittedFor platform row updated = emittedFor platform row client := by
  intro claimed
  have present : ∃ client ∈ exampleConvertedStore.clients.rows, ∃ row ∈ exampleConvertedStore.inbounds.rows,
      row.protocol = "vless" ∧ row.id = client.inboundID ∧ clientEmail exampleEdit.email = client.email ∧
        (updateClient (exampleEntropy 3) client.id exampleEdit exampleConvertedStore).isOk = false := by decide +kernel
  obtain ⟨client, stored, row, dwelling, _, bound, email, refused⟩ := present
  have blank : trimSpace "" = "" := trimSpace_empty
  obtain ⟨after, updated, done, _⟩ := claimed examplePlatform exampleConvertedStore (Reach.arrive _ _ _)
    (exampleEntropy 3) client stored row dwelling bound exampleEdit email ⟨.inl blank, .inl blank, .inl blank⟩
  rw [done] at refused
  cases refused

end MiGate.Config
