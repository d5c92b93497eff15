import MiGate.Db.ClientsSound
import MiGate.Go.Base64

namespace MiGate.Db

open Go Fallible Relational

variable {platform : Platform} {entropy : Entropy} {store after : Store}

/-! The REALITY keys of the inbounds: a public key that is stored belongs to its private key. -/

def realityPair (platform : Platform) (privateKey publicKey : String) : Bool :=
  deriveRealityPublicKey platform privateKey == some publicKey

/-- Nothing, a private key alone, or a pair. -/
def InboundSettings.suppliesKeys (platform : Platform) (settings : InboundSettings) : Bool :=
  trimSpace settings.realityPublicKey == "" ||
    realityPair platform settings.realityPrivateKey settings.realityPublicKey

/-- The security an inbound gets, as both layers compare it. -/
def effectiveSecurity (protocol security : String) : String :=
  toLower (trimSpace (normalizeInboundSecurity protocol security))

/-- An update that leaves the private key out keeps the security REALITY where there is a pair, and
one that brings a private key alone finds no public key that does not belong to it. -/
def UpdateInboundParams.keepsRealityPair (platform : Platform) (params : UpdateInboundParams) (row : InboundRow) :
    Bool :=
  let reality :=
    effectiveSecurity (orElse (normalizeInboundProtocol params.protocol) "vless") params.security == "reality"
  if trimSpace params.realityPrivateKey = "" then
    reality || !realityPair platform row.realityPrivateKey row.realityPublicKey
  else
    !reality || trimSpace params.realityPublicKey != "" || trimSpace row.realityPublicKey == "" ||
      realityPair platform params.realityPrivateKey row.realityPublicKey

theorem realityPair_iff {privateKey publicKey : String} :
    realityPair platform privateKey publicKey = true ↔
      deriveRealityPublicKey platform privateKey = some publicKey :=
  beq_iff_eq

theorem deriveRealityPublicKey_blank {privateKey : String} (blank : trimSpace privateKey = "") :
    deriveRealityPublicKey platform privateKey = none := by
  have nothing : decodeBase64RawURL "" = some [] := by decide
  rw [deriveRealityPublicKey, blank, nothing]
  rfl

theorem realityPair_given {privateKey publicKey : String} (pair : realityPair platform privateKey publicKey = true) :
    trimSpace privateKey ≠ "" := by
  intro blank
  rw [realityPair_iff, deriveRealityPublicKey_blank blank] at pair
  cases pair

theorem generateRealityKeyPair_pair {privateKey publicKey : String}
    (generated : generateRealityKeyPair platform entropy = .ok (privateKey, publicKey)) :
    realityPair platform privateKey publicKey = true := by
  simp only [generateRealityKeyPair, bind_eq_ok, pure_eq_ok, Prod.mk.injEq] at generated
  obtain ⟨publicBytes, derived, rfl, rfl⟩ := generated
  have length : entropy.realityPrivateKey.toList.length = 32 := Vector.length_toList
  rw [realityPair_iff, deriveRealityPublicKey, (spaceless_encodeBase64RawURL _).trimSpace, decodeBase64RawURL_encode]
  simp only [Option.bind_eq_bind, Option.bind_some, length, ne_eq, not_true_eq_false, if_false, derived]

/-- The keys are a pair once they are complete, and those that are a pair already stay. -/
theorem completeRealityKeys_pair {settings completed : InboundSettings}
    (supplied : settings.suppliesKeys platform = true)
    (done : completeRealityKeys platform entropy settings = .ok completed) :
    realityPair platform completed.realityPrivateKey completed.realityPublicKey = true ∧
      (realityPair platform settings.realityPrivateKey settings.realityPublicKey = true →
        completed.realityPrivateKey = settings.realityPrivateKey ∧
          completed.realityPublicKey = settings.realityPublicKey) := by
  have generates : ∀ {made : InboundSettings}, generateRealityKeys platform entropy settings = .ok made →
      realityPair platform made.realityPrivateKey made.realityPublicKey = true := by
    intro made generated
    simp only [generateRealityKeys, bind_eq_ok, pure_eq_ok, Prod.exists] at generated
    obtain ⟨_, _, pair, rfl⟩ := generated
    exact generateRealityKeyPair_pair pair
  rw [completeRealityKeys] at done
  split at done
  · rename_i blank
    exact ⟨generates done, fun pair => absurd blank (realityPair_given pair)⟩
  · split at done
    · cases derived : deriveRealityPublicKey platform settings.realityPrivateKey with
      | some publicKey =>
          rw [derived] at done
          rw [← Except.ok.inj done]
          refine ⟨realityPair_iff.mpr derived, fun pair => ⟨rfl, ?_⟩⟩
          rw [realityPair_iff, derived] at pair
          exact Option.some.inj pair
      | none =>
          rw [derived] at done
          refine ⟨generates done, fun pair => ?_⟩
          rw [realityPair_iff, derived] at pair
          cases pair
    · rename_i given
      rw [← Except.ok.inj done]
      rw [InboundSettings.suppliesKeys, beq_eq_false_iff_ne.mpr given, Bool.false_or] at supplied
      exact ⟨supplied, fun _ => ⟨rfl, rfl⟩⟩

theorem completeRealityMaterial_keys {settings completed : InboundSettings}
    (done : completeRealityMaterial platform entropy settings = .ok completed) :
    ∃ keyed, completeRealityKeys platform entropy settings = .ok keyed ∧
      completed.realityPrivateKey = keyed.realityPrivateKey ∧ completed.realityPublicKey = keyed.realityPublicKey := by
  simp only [completeRealityMaterial, bind_eq_ok] at done
  obtain ⟨keyed, keys, rest⟩ := done
  refine ⟨keyed, keys, ?_⟩
  split at rest
  · rw [← Except.ok.inj rest]
    exact ⟨rfl, rfl⟩
  · rw [← Except.ok.inj rest]
    exact ⟨rfl, rfl⟩

/-- What the keys of a row are: a pair, if it is a REALITY inbound, and otherwise what a request
may supply. -/
structure InboundRow.KeysSound (platform : Platform) (row : InboundRow) : Prop where
  supplied : row.toInboundSettings.suppliesKeys platform = true
  pair : row.security = "reality" → realityPair platform row.realityPrivateKey row.realityPublicKey = true

def KeysSound (platform : Platform) (store : Store) : Prop :=
  ∀ row ∈ store.inbounds.rows, row.KeysSound platform

theorem InboundSettings.suppliesKeys_of_pair {settings : InboundSettings}
    (pair : realityPair platform settings.realityPrivateKey settings.realityPublicKey = true) :
    settings.suppliesKeys platform = true := by
  rw [suppliesKeys, pair, Bool.or_true]

theorem InboundSettings.suppliesKeys_congr {settings other : InboundSettings}
    (privateKey : other.realityPrivateKey = settings.realityPrivateKey)
    (publicKey : other.realityPublicKey = settings.realityPublicKey) :
    other.suppliesKeys platform = settings.suppliesKeys platform := by
  rw [suppliesKeys, suppliesKeys, privateKey, publicKey]

theorem InboundRow.KeysSound.congr {row other : InboundRow} (sound : row.KeysSound platform)
    (privateKey : other.realityPrivateKey = row.realityPrivateKey)
    (publicKey : other.realityPublicKey = row.realityPublicKey) (security : other.security = row.security) :
    other.KeysSound platform where
  supplied := (InboundSettings.suppliesKeys_congr privateKey publicKey).trans sound.supplied
  pair := by
    rw [privateKey, publicKey, security]
    exact sound.pair

theorem toLower_reality : toLower (trimSpace "reality") = "reality" := by
  with_unfolding_all decide

theorem CreateInboundParams.prepare_keys {params : CreateInboundParams} {row : InboundRow}
    (supplied : params.suppliesKeys platform = true) (prepared : params.prepare platform entropy store = .ok row) :
    row.KeysSound platform := by
  simp only [CreateInboundParams.prepare, bind_eq_ok, pure_eq_ok] at prepared
  obtain ⟨_, _, _, _, _, _, settings, completing, _, _, rfl⟩ := prepared
  rw [prepareCreateInboundRealityMaterial] at completing
  split at completing
  · rename_i other
    rw [← Except.ok.inj completing]
    refine ⟨supplied, fun reality => ?_⟩
    dsimp only at reality
    rw [reality] at other
    exact absurd toLower_reality other
  · obtain ⟨keyed, keys, privateKey, publicKey⟩ := completeRealityMaterial_keys completing
    have given : (defaultRealityTarget params.toInboundSettings).suppliesKeys platform = true := supplied
    have pair := (completeRealityKeys_pair given keys).1
    rw [← privateKey, ← publicKey] at pair
    exact ⟨InboundSettings.suppliesKeys_of_pair pair, fun _ => pair⟩

/-- The keys of settings that bring nothing, or what the row has. -/
def InboundSettings.repeatsKeys (settings : InboundSettings) (row : InboundRow) : Prop :=
  trimSpace settings.realityPrivateKey = "" ∨
    (settings.realityPrivateKey = row.realityPrivateKey ∧ settings.realityPublicKey = row.realityPublicKey)

/-- What settings leave out is taken from the row. -/
theorem keepRealityMaterial_supplies {settings : InboundSettings} {stored : InboundRow}
    (sound : stored.KeysSound platform) (supplied : settings.suppliesKeys platform = true)
    (fits : trimSpace settings.realityPrivateKey ≠ "" → trimSpace settings.realityPublicKey = "" →
      trimSpace stored.realityPublicKey = "" ∨
        realityPair platform settings.realityPrivateKey stored.realityPublicKey = true) :
    (keepRealityMaterial (some stored) settings).suppliesKeys platform = true := by
  rw [InboundSettings.suppliesKeys, Bool.or_eq_true, beq_iff_eq] at supplied
  dsimp only [keepRealityMaterial]
  by_cases absent : trimSpace settings.realityPrivateKey = ""
  · have publicAbsent : trimSpace settings.realityPublicKey = "" :=
      supplied.resolve_right fun pair => realityPair_given pair absent
    rw [if_pos absent, if_pos publicAbsent]
    exact sound.supplied
  · rw [if_neg absent]
    by_cases publicAbsent : trimSpace settings.realityPublicKey = ""
    · rw [if_pos publicAbsent, InboundSettings.suppliesKeys, Bool.or_eq_true, beq_iff_eq]
      exact fits absent publicAbsent
    · rw [if_neg publicAbsent]
      exact InboundSettings.suppliesKeys_of_pair (supplied.resolve_left publicAbsent)

theorem keepRealityMaterial_repeats {settings : InboundSettings} {stored : InboundRow}
    (supplied : settings.suppliesKeys platform = true) (repeats : settings.repeatsKeys stored) :
    (keepRealityMaterial (some stored) settings).realityPrivateKey = stored.realityPrivateKey ∧
      (keepRealityMaterial (some stored) settings).realityPublicKey = stored.realityPublicKey := by
  rw [InboundSettings.suppliesKeys, Bool.or_eq_true, beq_iff_eq] at supplied
  dsimp only [keepRealityMaterial]
  rcases repeats with absent | ⟨samePrivate, samePublic⟩
  · have publicAbsent : trimSpace settings.realityPublicKey = "" :=
      supplied.resolve_right fun pair => realityPair_given pair absent
    rw [if_pos absent, if_pos publicAbsent]
    exact ⟨rfl, rfl⟩
  · rw [samePrivate, samePublic]
    exact ⟨ite_self _, ite_self _⟩

theorem UpdateInboundParams.keepsRealityPair_fits {params : UpdateInboundParams} {row : InboundRow}
    (reality : effectiveSecurity (orElse (normalizeInboundProtocol params.protocol) "vless") params.security = "reality")
    (keeps : params.keepsRealityPair platform row = true) :
    trimSpace params.realityPrivateKey ≠ "" → trimSpace params.realityPublicKey = "" →
      trimSpace row.realityPublicKey = "" ∨
        realityPair platform params.realityPrivateKey row.realityPublicKey = true := by
  intro given absent
  rw [keepsRealityPair, if_neg given, reality, absent, beq_self_eq_true, bne_self_eq_false, Bool.not_true,
    Bool.false_or, Bool.false_or, Bool.or_eq_true, beq_iff_eq] at keeps
  exact keeps

theorem UpdateInboundParams.prepare_keys {id : Int} {params : UpdateInboundParams} {row stored : InboundRow}
    (found : store.inbounds.find? id = some stored) (sound : stored.KeysSound platform)
    (supplied : params.suppliesKeys platform = true) (keeps : params.keepsRealityPair platform stored = true)
    (prepared : params.prepare platform entropy id store = .ok row) :
    row.KeysSound platform ∧ (params.repeatsKeys stored →
      realityPair platform stored.realityPrivateKey stored.realityPublicKey = true →
        row.realityPrivateKey = stored.realityPrivateKey ∧ row.realityPublicKey = stored.realityPublicKey) := by
  simp only [UpdateInboundParams.prepare, bind_eq_ok, pure_eq_ok] at prepared
  obtain ⟨_, _, _, _, _, _, _, _, settings, completing, _, _, rfl⟩ := prepared
  rw [prepareUpdateInboundRealityMaterial, found] at completing
  split at completing
  · rename_i other
    rw [← Except.ok.inj completing]
    refine ⟨⟨supplied, fun reality => ?_⟩, ?_⟩
    · dsimp only at reality
      rw [reality] at other
      exact absurd toLower_reality other
    · rintro (absent | same) pair
      · rw [UpdateInboundParams.keepsRealityPair, if_pos absent, pair, Bool.not_true, Bool.or_false,
          beq_iff_eq] at keeps
        exact absurd keeps other
      · exact same
  · rename_i reality
    have target : (defaultRealityTarget params.toInboundSettings).suppliesKeys platform = true := supplied
    have fits := UpdateInboundParams.keepsRealityPair_fits (not_not.mp reality) keeps
    have given := keepRealityMaterial_supplies sound target fits
    obtain ⟨keyed, keys, privateKey, publicKey⟩ := completeRealityMaterial_keys completing
    obtain ⟨pair, stays⟩ := completeRealityKeys_pair given keys
    rw [← privateKey, ← publicKey] at pair stays
    refine ⟨⟨InboundSettings.suppliesKeys_of_pair pair, fun _ => pair⟩, fun repeats owned => ?_⟩
    obtain ⟨samePrivate, samePublic⟩ := keepRealityMaterial_repeats target repeats
    rw [samePrivate, samePublic] at stays
    exact stays owned

theorem insertInbound_keys {row inserted : InboundRow} (sound : KeysSound platform store)
    (keys : row.KeysSound platform) (done : insertInbound entropy row store = .ok (after, inserted)) :
    KeysSound platform after := by
  obtain ⟨rfl, _⟩ := insertInbound_spec done
  intro other member
  rcases Serial.mem_insert.mp member with old | new
  · exact sound other old
  · rw [new]
    exact keys.congr rfl rfl rfl

theorem createInbound_keys {params : CreateInboundParams} {inbound : Inbound} (sound : KeysSound platform store)
    (supplied : params.suppliesKeys platform = true)
    (done : createInbound platform entropy params store = .ok (after, inbound)) : KeysSound platform after := by
  simp only [createInbound, bind_eq_ok] at done
  obtain ⟨row, preparing, rest⟩ := done
  have keys := CreateInboundParams.prepare_keys supplied preparing
  cases initial : params.initialClient with
  | none =>
      simp only [initial, bind_eq_ok, pure_eq_ok, Prod.mk.injEq, Prod.exists] at rest
      obtain ⟨_, _, inserted, rfl, _⟩ := rest
      exact insertInbound_keys sound keys inserted
  | some initialClient =>
      simp only [initial, bind_eq_ok, pure_eq_ok, Prod.mk.injEq, Prod.exists] at rest
      obtain ⟨_, _, _, _, inserted, _, _, added, rfl, _⟩ := rest
      have entered := insertInbound_keys sound keys inserted
      rw [(insertClient_spec added).1]
      exact entered

/-- The rows an update of an inbound leaves. -/
theorem updateInbound_rows {id : Int} {params : UpdateInboundParams} {inbound : Inbound}
    (done : updateInbound platform entropy id params store = .ok (after, inbound)) :
    ∃ row stored, params.prepare platform entropy id store = .ok row ∧ store.inbounds.find? id = some stored ∧
      after.inbounds = store.inbounds.modifyWhere (fun other => other.id == id)
        (updateInboundRow row.toInboundSettings row.core row.enabled)
        (updateInboundRow_id row.toInboundSettings row.core row.enabled) := by
  simp only [updateInbound, bind_eq_ok, expect_eq_ok, pure_eq_ok, Prod.mk.injEq] at done
  obtain ⟨row, preparing, stored, found, _, _, _, _, _, _, rfl, _⟩ := done
  exact ⟨row, stored, preparing, found, rfl⟩

theorem updateInbound_keys {id : Int} {params : UpdateInboundParams} {inbound : Inbound}
    (sound : KeysSound platform store) (supplied : params.suppliesKeys platform = true)
    (keeps : ∀ row ∈ store.inbounds.rows, row.id = id → params.keepsRealityPair platform row = true)
    (done : updateInbound platform entropy id params store = .ok (after, inbound)) :
    KeysSound platform after ∧ ∀ row ∈ store.inbounds.rows, row.id = id → params.repeatsKeys row →
      realityPair platform row.realityPrivateKey row.realityPublicKey = true → ∃ other ∈ after.inbounds.rows,
        other.id = id ∧ other.realityPrivateKey = row.realityPrivateKey ∧
          other.realityPublicKey = row.realityPublicKey := by
  obtain ⟨written, stored, preparing, found, rows⟩ := updateInbound_rows done
  have there := Serial.mem_of_find? found
  have numbered := Serial.id_of_find? found
  obtain ⟨keys, unchanged⟩ :=
    UpdateInboundParams.prepare_keys found (sound stored there) supplied (keeps stored there numbered) preparing
  constructor
  · intro row member
    rw [rows] at member
    obtain ⟨old, inside, rfl⟩ := Serial.mem_modifyWhere.mp member
    split
    · exact keys.congr rfl rfl rfl
    · exact sound old inside
  · intro row member named repeats pair
    have same : row = stored := Serial.eq_of_id_eq member there (named.trans numbered.symm)
    rw [same] at repeats pair member ⊢
    refine ⟨updateInboundRow written.toInboundSettings written.core written.enabled stored, ?_, numbered,
      unchanged repeats pair⟩
    rw [rows]
    exact List.mem_map.mpr ⟨stored, member, if_pos (beq_iff_eq.mpr numbered)⟩

theorem KeysSound.modifyInbounds {selected : InboundRow → Bool} {change : InboundRow → InboundRow}
    (keeps : ∀ row, (change row).id = row.id) (sound : KeysSound platform store)
    (same : ∀ row, (change row).realityPrivateKey = row.realityPrivateKey ∧
      (change row).realityPublicKey = row.realityPublicKey ∧ (change row).security = row.security) :
    KeysSound platform { store with inbounds := store.inbounds.modifyWhere selected change keeps } := by
  intro row member
  dsimp only at member
  obtain ⟨old, stored, rfl⟩ := Serial.mem_modifyWhere.mp member
  split
  · exact (sound old stored).congr (same old).1 (same old).2.1 (same old).2.2
  · exact sound old stored

/-- Whether an operation supplies the keys of an inbound in one of the ways a request may. -/
def StoreOp.suppliesKeys (platform : Platform) : StoreOp → Bool
  | .createInbound _ params => params.toInboundSettings.suppliesKeys platform
  | .updateInbound _ _ params => params.toInboundSettings.suppliesKeys platform
  | _ => true

def StoreOp.keepsRealityPairs (platform : Platform) (op : StoreOp) (store : Store) : Bool :=
  match op with
  | .updateInbound _ id params =>
      store.inbounds.rows.all fun row => row.id != id || params.keepsRealityPair platform row
  | _ => true

theorem operate_keys {op : StoreOp} (sound : KeysSound platform store) (supplied : op.suppliesKeys platform = true)
    (keeps : op.keepsRealityPairs platform store = true) (done : op.run platform store = .ok after) :
    KeysSound platform after := by
  cases op with
  | createInbound entropy params =>
      obtain ⟨_, created⟩ := map_fst_eq_ok.mp done
      exact createInbound_keys sound supplied created
  | updateInbound entropy id params =>
      obtain ⟨_, updated⟩ := map_fst_eq_ok.mp done
      refine (updateInbound_keys sound supplied (fun row member named => ?_) updated).1
      have kept := List.all_eq_true.mp keeps row member
      rwa [named, bne_self_eq_false, Bool.false_or] at kept
  | deleteInbound id =>
      simp only [StoreOp.run, Db.deleteInbound, bind_eq_ok, pure_eq_ok] at done
      obtain ⟨_, _, rfl⟩ := done
      exact fun row member => sound row (Serial.mem_deleteWhere.mp member).1
  | setInboundEnabled id enabled =>
      simp only [StoreOp.run, map_fst_eq_ok, Db.setInboundEnabled, bind_eq_ok, pure_eq_ok, Prod.mk.injEq] at done
      obtain ⟨_, _, _, rfl, _⟩ := done
      exact sound.modifyInbounds (enableInbound_id enabled) fun _ => ⟨rfl, rfl, rfl⟩
  | applyCertificateToInbounds cert inboundIDs =>
      obtain ⟨_, applied⟩ := map_fst_eq_ok.mp done
      refine foldlM_invariant (fun state : Store × List Inbound => KeysSound platform state.1) sound ?_ applied
      intro id _ before next kept turned
      simp only [applyCertificateToInbound, bind_eq_ok, pure_eq_ok] at turned
      obtain ⟨_, _, _, _, _, _, rfl⟩ := turned
      exact kept.modifyInbounds (certifyInbound_id cert) fun _ => ⟨rfl, rfl, rfl⟩
  | _ =>
      have same : after.inbounds = store.inbounds := (congrArg Store.inbounds (run_onlyWrites done)).symm
      intro row member
      rw [same] at member
      exact sound row member

theorem reopen_keys (sound : KeysSound platform store) : KeysSound platform store.reopen := by
  have seeded : ∀ {before : Store} (row : Outbound), KeysSound platform before →
      KeysSound platform (seedOutbound row before) := by
    intro before row kept
    unfold seedOutbound
    split
    · exact kept
    · exact kept
  rw [reopen_eq]
  exact seeded _ (seeded _ (seeded _ sound))

end MiGate.Db
