import MiGate.Config.Totality
import MiGate.Db.RealityPairs
import MiGate.Web.Inbounds

namespace MiGate.Xray

open Go Db Fallible

variable {platform : Platform}

theorem deriveRealityPublicKey_pair {privateKey publicKey : String}
    (derived : deriveRealityPublicKey platform privateKey = .ok publicKey) :
    realityPair platform privateKey publicKey = true := by
  rw [deriveRealityPublicKey, deriveRealityPublicKeyLocal] at derived
  cases decoded : decodeBase64RawURL privateKey with
  | none =>
      rw [decoded] at derived
      cases derived
  | some privateBytes =>
      rw [decoded] at derived
      dsimp only at derived
      split at derived
      · cases derived
      · rename_i length
        simp only [bind_eq_ok, pure_eq_ok] at derived
        obtain ⟨publicBytes, computed, rfl⟩ := derived
        rw [realityPair_iff, Db.deriveRealityPublicKey, decodeBase64RawURL_trimSpace decoded]
        simp only [Option.bind_eq_bind, Option.bind_some, if_neg length, computed]

theorem generateRealityKey_pair {bytes : Vector UInt8 32} {privateKey publicKey : String}
    (generated : generateRealityKey platform bytes = .ok (privateKey, publicKey)) :
    realityPair platform privateKey publicKey = true := by
  cases computed : platform.x25519 bytes.toList with
  | error error =>
      rw [generateRealityKey, computed] at generated
      cases generated
  | ok publicBytes =>
      rw [generateRealityKey, computed, Except.ok.injEq, Prod.mk.injEq] at generated
      obtain ⟨rfl, rfl⟩ := generated
      have length : bytes.toList.length = 32 := Vector.length_toList
      rw [realityPair_iff, Db.deriveRealityPublicKey, (spaceless_encodeBase64RawURL _).trimSpace,
        decodeBase64RawURL_encode]
      simp only [Option.bind_eq_bind, Option.bind_some, length, ne_eq, not_true_eq_false, if_false, computed]

end MiGate.Xray

namespace MiGate.Web

open Go Db Fallible Relational Transition

variable {platform : Platform} {handler entropy : Entropy} {store after : Store}

/-! The REALITY keys under the requests, which complete them before the store does. -/

/-- The keys are a pair once they are filled in, and those that are one already stay; the public one
changes only where a key was missing. -/
theorem fillRealityKeys_pair {settings filled : InboundSettings} (supplied : settings.suppliesKeys platform = true)
    (done : fillRealityKeys platform entropy settings = .ok filled) :
    realityPair platform filled.realityPrivateKey filled.realityPublicKey = true ∧
      (realityPair platform settings.realityPrivateKey settings.realityPublicKey = true →
        filled.realityPrivateKey = settings.realityPrivateKey ∧
          filled.realityPublicKey = settings.realityPublicKey) ∧
      (trimSpace settings.realityPublicKey = "" ∨ filled.realityPublicKey = settings.realityPublicKey) := by
  rw [fillRealityKeys] at done
  dsimp only at done
  split at done
  · rename_i blank
    simp only [bind_eq_ok, pure_eq_ok, Prod.exists] at done
    obtain ⟨_, _, generated, rfl⟩ := done
    refine ⟨Xray.generateRealityKey_pair generated, fun pair => absurd blank (realityPair_given pair), .inl ?_⟩
    rw [InboundSettings.suppliesKeys, Bool.or_eq_true, beq_iff_eq] at supplied
    exact supplied.resolve_right fun pair => realityPair_given pair blank
  · split at done
    · rename_i blank
      simp only [bind_eq_ok, pure_eq_ok] at done
      obtain ⟨publicKey, derived, rfl⟩ := done
      have pair := Xray.deriveRealityPublicKey_pair derived
      refine ⟨pair, fun owned => ⟨rfl, ?_⟩, .inl blank⟩
      rw [realityPair_iff] at pair owned
      rw [pair] at owned
      exact Option.some.inj owned
    · rename_i given
      rw [← Except.ok.inj done]
      rw [InboundSettings.suppliesKeys, beq_eq_false_iff_ne.mpr given, Bool.false_or] at supplied
      exact ⟨supplied, fun _ => ⟨rfl, rfl⟩, .inr rfl⟩

theorem storedRealityKeys_eq {inboundID : Int} {stored : InboundRow}
    (found : store.inbounds.find? inboundID = some stored) (settings : InboundSettings) :
    storedRealityKeys (listInbounds store) inboundID settings = keepRealityMaterial (some stored) settings := by
  have listed : ((listInbounds store).find? fun inbound => inbound.id == inboundID) =
      some { loadInbound stored with
        clients := store.clients.rows.filter fun client => client.inboundID == stored.id } := by
    have row : (store.inbounds.rows.find? fun row => row.id == inboundID) = some stored := found
    rw [listInbounds, List.find?_map, Option.map_eq_some_iff]
    exact ⟨stored, row, rfl⟩
  rw [storedRealityKeys, listed]
  rfl

theorem prepareInboundRealityKeys_supplies {payload prepared : CreateInboundParams}
    (supplied : payload.suppliesKeys platform = true)
    (done : prepareInboundRealityKeys platform handler payload = .ok prepared) :
    prepared.suppliesKeys platform = true := by
  rw [prepareInboundRealityKeys] at done
  split at done
  · rw [← Except.ok.inj done]
    exact supplied
  · simp only [bind_eq_ok, pure_eq_ok] at done
    obtain ⟨settings, filled, rfl⟩ := done
    exact InboundSettings.suppliesKeys_of_pair (fillRealityKeys_pair supplied filled).1

theorem effectiveSecurity_reality {protocol security : String} (reality : toLower (trimSpace security) = "reality") :
    effectiveSecurity protocol security = "reality" := by
  have same : normalizeInboundSecurity protocol security = "reality" := by
    rw [normalizeInboundSecurity]
    split
    · exact reality
    · rw [reality]
      exact if_neg (by decide)
  rw [effectiveSecurity, same, toLower_reality]

/-- What the handler passes on to the store for the inbound `stored`. -/
theorem prepareUpdateInboundRealityKeys_keeps {inboundID : Int} {payload prepared : UpdateInboundParams}
    {stored : InboundRow} (found : store.inbounds.find? inboundID = some stored) (sound : stored.KeysSound platform)
    (supplied : payload.suppliesKeys platform = true) (keeps : payload.keepsRealityPair platform stored = true)
    (done : prepareUpdateInboundRealityKeys platform handler store inboundID payload = .ok prepared) :
    prepared.suppliesKeys platform = true ∧ prepared.keepsRealityPair platform stored = true ∧
      (trimSpace payload.realityPrivateKey = "" →
        realityPair platform stored.realityPrivateKey stored.realityPublicKey = true →
          prepared.repeatsKeys stored) := by
  rw [prepareUpdateInboundRealityKeys] at done
  split at done
  · rw [← Except.ok.inj done]
    exact ⟨supplied, keeps, fun absent _ => .inl absent⟩
  · rename_i reality
    simp only [bind_eq_ok, pure_eq_ok] at done
    obtain ⟨settings, filled, rfl⟩ := done
    rw [storedRealityKeys_eq found] at filled
    have effective := @effectiveSecurity_reality (orElse (normalizeInboundProtocol payload.protocol) "vless")
      payload.security (not_not.mp reality)
    have fits := UpdateInboundParams.keepsRealityPair_fits effective keeps
    have kept := keepRealityMaterial_supplies sound supplied fits
    obtain ⟨pair, unchanged, publicKey⟩ := fillRealityKeys_pair kept filled
    refine ⟨InboundSettings.suppliesKeys_of_pair pair, ?_, fun absent owned => .inr ?_⟩
    · have missing : trimSpace settings.realityPublicKey = "" → trimSpace stored.realityPublicKey = "" := by
        intro blank
        have keptBlank := publicKey.elim id fun same => by rwa [same] at blank
        dsimp only [keepRealityMaterial] at keptBlank
        split at keptBlank
        · exact keptBlank
        · rename_i given
          exact absurd keptBlank given
      rw [UpdateInboundParams.keepsRealityPair, if_neg (realityPair_given pair)]
      simp only [Bool.or_eq_true, bne_iff_ne, beq_iff_eq]
      by_cases blank : trimSpace settings.realityPublicKey = ""
      · exact .inl (.inr (missing blank))
      · exact .inl (.inl (.inr blank))
    · obtain ⟨samePrivate, samePublic⟩ := keepRealityMaterial_repeats supplied (.inl absent)
      rw [samePrivate, samePublic] at unchanged
      exact unchanged owned

/-! Runs of requests and of whatever else happens to the store. -/

inductive InboundAction where
  | create (handler entropy : Entropy) (payload : CreateInboundParams)
  | update (handler entropy : Entropy) (inboundID : Int) (payload : UpdateInboundParams)
  | event (event : StoreEvent)

def inboundStep (platform : Platform) (action : InboundAction) (store : Store) : Option Store :=
  match action with
  | .create handler entropy payload => (createInbound platform handler entropy payload store).toOption.map Prod.fst
  | .update handler entropy inboundID payload =>
      (updateInbound platform handler entropy inboundID payload store).toOption.map Prod.fst
  | .event event => eventStep platform event store

/-- The creations and updates of inbounds supply nothing, a private key alone, or a pair. -/
def InboundAction.suppliesKeys (platform : Platform) : InboundAction → Bool
  | .create _ _ payload => payload.toInboundSettings.suppliesKeys platform
  | .update _ _ _ payload => payload.toInboundSettings.suppliesKeys platform
  | .event (.operate op) => op.suppliesKeys platform
  | .event .reopen => true

def InboundAction.keepsRealityPairs (platform : Platform) (action : InboundAction) (store : Store) : Bool :=
  match action with
  | .update _ _ inboundID payload =>
      store.inbounds.rows.all fun row => row.id != inboundID || payload.keepsRealityPair platform row
  | .event (.operate op) => op.keepsRealityPairs platform store
  | _ => true

/-- The inbound an action updates without supplying a private key. -/
def InboundAction.keepsKeysOf : InboundAction → Option Int
  | .update _ _ inboundID payload => if trimSpace payload.realityPrivateKey = "" then some inboundID else none
  | .event (.operate (.updateInbound _ id params)) => if trimSpace params.realityPrivateKey = "" then some id else none
  | _ => none

/-- The keys an inbound holds are those it held before. -/
def keysUnchanged (platform : Platform) (id : Int) (store after : Store) : Prop :=
  ∀ row ∈ store.inbounds.rows, row.id = id → realityPair platform row.realityPrivateKey row.realityPublicKey = true →
    ∃ other ∈ after.inbounds.rows, other.id = id ∧ other.realityPrivateKey = row.realityPrivateKey ∧
      other.realityPublicKey = row.realityPublicKey

theorem toOption_map_fst {ε α β : Type} {result : Except ε (α × β)} {value : α} :
    result.toOption.map Prod.fst = some value ↔ ∃ other, result = .ok (value, other) := by
  cases result with
  | error error => simp [Except.toOption]
  | ok pair =>
      obtain ⟨first, second⟩ := pair
      simp [Except.toOption]

theorem createInbound_request {payload : CreateInboundParams} {inbound : Inbound}
    (done : createInbound platform handler entropy payload store = .ok (after, inbound)) :
    ∃ prepared, prepareInboundRealityKeys platform handler payload = .ok prepared ∧
      Db.createInbound platform entropy prepared store = .ok (after, inbound) := by
  rw [createInbound] at done
  cases preparing : prepareInboundRealityKeys platform handler payload with
  | error error =>
      rw [preparing] at done
      cases done
  | ok prepared =>
      rw [preparing] at done
      simp only [bind_eq_ok] at done
      obtain ⟨_, _, rest⟩ := done
      refine ⟨prepared, rfl, ?_⟩
      cases created : Db.createInbound platform entropy prepared store with
      | error error =>
          rw [created] at rest
          cases rest
      | ok pair =>
          rw [created] at rest
          exact congrArg Except.ok (Except.ok.inj rest)

theorem updateInbound_request {inboundID : Int} {payload : UpdateInboundParams} {inbound : Inbound}
    (done : updateInbound platform handler entropy inboundID payload store = .ok (after, inbound)) :
    ∃ prepared, prepareUpdateInboundRealityKeys platform handler store inboundID payload = .ok prepared ∧
      Db.updateInbound platform entropy inboundID prepared store = .ok (after, inbound) := by
  rw [updateInbound] at done
  split at done
  · cases done
  · split at done
    · cases done
    · cases preparing : prepareUpdateInboundRealityKeys platform handler store inboundID payload with
      | error error =>
          rw [preparing] at done
          cases done
      | ok prepared =>
          rw [preparing] at done
          simp only [bind_eq_ok] at done
          obtain ⟨_, _, rest⟩ := done
          refine ⟨prepared, rfl, ?_⟩
          cases updated : Db.updateInbound platform entropy inboundID prepared store with
          | error error =>
              rw [updated] at rest
              dsimp only at rest
              split at rest <;> cases rest
          | ok pair =>
              rw [updated] at rest
              exact congrArg Except.ok (Except.ok.inj rest)

theorem inboundStep_keys {action : InboundAction} (sound : KeysSound platform store)
    (supplied : action.suppliesKeys platform = true) (keeps : action.keepsRealityPairs platform store = true)
    (stepped : inboundStep platform action store = some after) :
    KeysSound platform after ∧ ∀ id, action.keepsKeysOf = some id → keysUnchanged platform id store after := by
  have selected : ∀ {id : Int} {params : UpdateInboundParams},
      (store.inbounds.rows.all fun row => row.id != id || params.keepsRealityPair platform row) = true →
      ∀ row ∈ store.inbounds.rows, row.id = id → params.keepsRealityPair platform row = true := by
    intro id params all row member named
    have kept := List.all_eq_true.mp all row member
    rwa [named, bne_self_eq_false, Bool.false_or] at kept
  cases action with
  | create handler entropy payload =>
      obtain ⟨_, requested⟩ := toOption_map_fst.mp stepped
      obtain ⟨prepared, preparing, created⟩ := createInbound_request requested
      refine ⟨createInbound_keys sound (prepareInboundRealityKeys_supplies supplied preparing) created, ?_⟩
      intro id none
      cases none
  | update handler entropy inboundID payload =>
      obtain ⟨_, requested⟩ := toOption_map_fst.mp stepped
      obtain ⟨prepared, preparing, updated⟩ := updateInbound_request requested
      obtain ⟨_, stored, _, found, _⟩ := updateInbound_rows updated
      have there := Serial.mem_of_find? found
      have numbered := Serial.id_of_find? found
      obtain ⟨given, fits, repeats⟩ := prepareUpdateInboundRealityKeys_keeps found (sound stored there) supplied
        (selected keeps stored there numbered) preparing
      have only : ∀ row ∈ store.inbounds.rows, row.id = inboundID → row = stored := fun row member named =>
        Serial.eq_of_id_eq member there (named.trans numbered.symm)
      obtain ⟨kept, unchanged⟩ := updateInbound_keys sound given
        (fun row member named => by rw [only row member named]; exact fits) updated
      refine ⟨kept, fun id named row member same pair => ?_⟩
      simp only [InboundAction.keepsKeysOf, Option.ite_none_right_eq_some, Option.some.injEq] at named
      obtain ⟨absent, rfl⟩ := named
      refine unchanged row member same ?_ pair
      rw [only row member same] at pair ⊢
      exact repeats absent pair
  | event event =>
      cases event with
      | reopen =>
          rw [← Option.some.inj stepped]
          exact ⟨reopen_keys sound, fun id none => by cases none⟩
      | operate op =>
          have done := storeStep_eq_some.mp stepped
          refine ⟨operate_keys sound supplied keeps done, fun id named => ?_⟩
          cases op with
          | updateInbound entropy updatedID params =>
              obtain ⟨_, updated⟩ := map_fst_eq_ok.mp done
              simp only [InboundAction.keepsKeysOf, Option.ite_none_right_eq_some, Option.some.injEq] at named
              obtain ⟨absent, rfl⟩ := named
              intro row member same pair
              exact (updateInbound_keys sound supplied (selected keeps) updated).2 row member same (.inl absent) pair
          | _ => cases named

theorem reached_keys
    (reached : Reach (Guarded (fun action state =>
      action.suppliesKeys platform = true ∧ action.keepsRealityPairs platform state = true)
      (Steps (inboundStep platform))) Store.initial store) : KeysSound platform store := by
  induction reached with
  | start =>
      have nothing : KeysSound platform Store.empty := fun row member => absurd member List.not_mem_nil
      exact reopen_keys nothing
  | step _ stepped ih =>
      obtain ⟨⟨supplied, keeps⟩, moved⟩ := stepped
      exact (inboundStep_keys ih supplied keeps moved).1

/-- In a run whose requests supply keys in one of the three ways and meet the condition, every
REALITY inbound has a pair, and an update without a private key leaves a pair as it is. -/
theorem reality_keys_stay_pairs
    (reached : Reach (Guarded (fun action state =>
      action.suppliesKeys platform = true ∧ action.keepsRealityPairs platform state = true)
      (Steps (inboundStep platform))) Store.initial store) :
    (∀ row ∈ store.inbounds.rows, row.security = "reality" →
      realityPair platform row.realityPrivateKey row.realityPublicKey = true) ∧
    ∀ action after, action.suppliesKeys platform = true → action.keepsRealityPairs platform store = true →
      inboundStep platform action store = some after →
        ∀ id, action.keepsKeysOf = some id → keysUnchanged platform id store after := by
  have sound := reached_keys reached
  exact ⟨fun row member => (sound row member).pair,
    fun action after supplied keeps stepped => (inboundStep_keys sound supplied keeps stepped).2⟩

/-- Two key pairs of X25519; of other keys the examples ask nothing. -/
def exampleKeyPairs : List (List UInt8 × List UInt8) :=
  [([0x77, 0x07, 0x6d, 0x0a, 0x73, 0x18, 0xa5, 0x7d, 0x3c, 0x16, 0xc1, 0x72, 0x51, 0xb2, 0x66, 0x45,
      0xdf, 0x4c, 0x2f, 0x87, 0xeb, 0xc0, 0x99, 0x2a, 0xb1, 0x77, 0xfb, 0xa5, 0x1d, 0xb9, 0x2c, 0x2a],
    [0x85, 0x20, 0xf0, 0x09, 0x89, 0x30, 0xa7, 0x54, 0x74, 0x8b, 0x7d, 0xdc, 0xb4, 0x3e, 0xf7, 0x5a,
      0x0d, 0xbf, 0x3a, 0x0d, 0x26, 0x38, 0x1a, 0xf4, 0xeb, 0xa4, 0xa9, 0x8e, 0xaa, 0x9b, 0x4e, 0x6a]),
    ([0x5d, 0xab, 0x08, 0x7e, 0x62, 0x4a, 0x8a, 0x4b, 0x79, 0xe1, 0x7f, 0x8b, 0x83, 0x80, 0x0e, 0xe6,
      0x6f, 0x3b, 0xb1, 0x29, 0x26, 0x18, 0xb6, 0xfd, 0x1c, 0x2f, 0x8b, 0x27, 0xff, 0x88, 0xe0, 0xeb],
    [0xde, 0x9e, 0xdb, 0x7d, 0x7b, 0x7d, 0xc1, 0xb4, 0xd3, 0x5b, 0x61, 0xc2, 0xec, 0xe4, 0x35, 0x37,
      0x3f, 0x83, 0x43, 0xc8, 0x5b, 0x78, 0x67, 0x4d, 0xad, 0xfc, 0x7e, 0x14, 0x6f, 0x88, 0x2b, 0x4f])]

def exampleRealityPlatform : Platform :=
  { Config.examplePlatform with
    x25519 := fun bytes => match exampleKeyPairs.lookup bytes with
      | some publicBytes => .ok publicBytes
      | none => .error "unknown key" }

/-- The random source gives the first private key. -/
def exampleRealityEntropy : Entropy :=
  { Config.exampleEntropy 1 with
    realityPrivateKey := Vector.ofFn fun i => (exampleKeyPairs.head?.elim [] Prod.fst).getD i 0 }

/-- A VLESS inbound with generated keys. -/
def exampleRealityCreation : InboundAction :=
  .create exampleRealityEntropy exampleRealityEntropy { (default : CreateInboundParams) with
    protocol := "vless", security := "reality", port := 20001 }

/-- An update of the inbound that may bring a private key. -/
def exampleRealityUpdate (privateKey : String) : InboundAction :=
  .update exampleRealityEntropy exampleRealityEntropy 1 { (default : UpdateInboundParams) with
    remark := "edge", protocol := "vless", security := "reality", port := 20001, enabled := true
    realityPrivateKey := privateKey }

def exampleGuard (action : InboundAction) (store : Store) : Bool :=
  action.suppliesKeys exampleRealityPlatform && action.keepsRealityPairs exampleRealityPlatform store

def exampleRealityStore : Store :=
  arrive (restrict exampleGuard (inboundStep exampleRealityPlatform)) [exampleRealityCreation] Store.initial

def exampleUpdatedStore : Store :=
  arrive (inboundStep exampleRealityPlatform) [exampleRealityUpdate ""] exampleRealityStore

theorem updated_inbound_keeps_pair :
    exampleRealityStore.inbounds.rows.map InboundRow.id = [1] ∧
      (∀ row ∈ exampleRealityStore.inbounds.rows, row.security = "reality" →
        realityPair exampleRealityPlatform row.realityPrivateKey row.realityPublicKey = true) ∧
      keysUnchanged exampleRealityPlatform 1 exampleRealityStore exampleUpdatedStore := by
  have reached := (Reach.arrive_restrict exampleGuard (inboundStep exampleRealityPlatform)
    [exampleRealityCreation] Store.initial).mono fun action before after guarded =>
      (⟨by simpa [exampleGuard] using guarded.1, guarded.2⟩ :
        Guarded (fun action state => action.suppliesKeys exampleRealityPlatform = true ∧
          action.keepsRealityPairs exampleRealityPlatform state = true)
          (Steps (inboundStep exampleRealityPlatform)) action before after)
  obtain ⟨pairs, unchanged⟩ := reality_keys_stay_pairs reached
  have accepted : (inboundStep exampleRealityPlatform (exampleRealityUpdate "") exampleRealityStore).isSome = true := by
    with_unfolding_all decide
  obtain ⟨next, stepped⟩ := Option.isSome_iff_exists.mp accepted
  have arrived : exampleUpdatedStore = next := by
    rw [exampleUpdatedStore, arrive, perform, stepped]
    rfl
  rw [← arrived] at stepped
  exact ⟨by with_unfolding_all decide, pairs, unchanged (exampleRealityUpdate "") exampleUpdatedStore (by with_unfolding_all decide)
    (by with_unfolding_all decide) stepped 1 (by with_unfolding_all decide)⟩

/-- The inbound is given another private key, and keeps the public key of the first. -/
def exampleMismatchedStore : Store :=
  arrive (restrict (fun action _ => action.suppliesKeys exampleRealityPlatform) (inboundStep exampleRealityPlatform))
    [exampleRealityCreation, exampleRealityUpdate "XasIfmJKikt54X-Lg4AO5m87sSkmGLb9HC-LJ_-I4Os"] Store.initial

theorem new_private_key_left_unmatched :
    ¬ ∀ (platform : Platform) (store : Store),
      Reach (Guarded (fun action _ => action.suppliesKeys platform = true) (Steps (inboundStep platform)))
        Store.initial store →
      (∀ row ∈ store.inbounds.rows, row.security = "reality" →
        realityPair platform row.realityPrivateKey row.realityPublicKey = true) ∧
      ∀ action after, action.suppliesKeys platform = true → inboundStep platform action store = some after →
        ∀ id, action.keepsKeysOf = some id → keysUnchanged platform id store after := by
  intro claimed
  have mismatch : ∃ row ∈ exampleMismatchedStore.inbounds.rows, row.security = "reality" ∧
      realityPair exampleRealityPlatform row.realityPrivateKey row.realityPublicKey = false := by with_unfolding_all decide
  obtain ⟨row, stored, reality, unmatched⟩ := mismatch
  have pair := (claimed exampleRealityPlatform exampleMismatchedStore
    (Reach.arrive_restrict _ _ _ _)).1 row stored reality
  rw [unmatched] at pair
  cases pair

end MiGate.Web
