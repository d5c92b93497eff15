import MiGate.Subscription.Identity
import MiGate.Web.OutboundSubscriptions

namespace MiGate.Web

open Go Db Fallible Subscription Relational Transition

variable {platform : Platform} {now : String} {body : List UInt8} {id : Int} {store : Store}

/-! What a refresh makes of whatever the upstream answers. -/

/-- The links of a body that the parser accepts. -/
def bodyLinks (platform : Platform) (body : List UInt8) : List ParsedLink :=
  acceptedLinks platform (decodeBody body)

theorem bodyLinks_plain : ∀ link ∈ bodyLinks platform body, plainProtocol (linkServer platform link).protocol := by
  intro link member
  obtain ⟨raw, _, parsed⟩ := List.mem_filterMap.mp member
  cases result : parseLink platform raw with
  | error reason =>
      rw [result] at parsed
      cases parsed
  | ok found =>
      rw [result] at parsed
      cases parsed
      exact plain_of_parsed result

/-- The subscription is there and enabled. -/
def isRefreshable (id : Int) (store : Store) : Prop :=
  ∃ subscription, findLiveSubscription store id = some subscription ∧ subscription.enabled = true

@[simp] theorem markFetch_outbounds {lastErr : String} {identities : Option (List String)} :
    (markFetch now id lastErr identities store).outbounds = store.outbounds := by
  unfold markFetch
  cases marked : markOutboundSubscriptionFetch now id now lastErr identities store with
  | error _ => rfl
  | ok after =>
      simp only [markOutboundSubscriptionFetch, bind_eq_ok, pure_eq_ok] at marked
      obtain ⟨_, _, rfl⟩ := marked
      rfl

@[simp] theorem markFetch_routingRules {lastErr : String} {identities : Option (List String)} :
    (markFetch now id lastErr identities store).routingRules = store.routingRules := by
  unfold markFetch
  cases marked : markOutboundSubscriptionFetch now id now lastErr identities store with
  | error _ => rfl
  | ok after =>
      simp only [markOutboundSubscriptionFetch, bind_eq_ok, pure_eq_ok] at marked
      obtain ⟨_, _, rfl⟩ := marked
      rfl

theorem subscriptionOutbounds_markFetch {lastErr : String} {identities : Option (List String)} {subscriptionID : Int} :
    subscriptionOutbounds subscriptionID (markFetch now id lastErr identities store) =
      subscriptionOutbounds subscriptionID store := by
  unfold subscriptionOutbounds listOutbounds
  rw [markFetch_outbounds]

/-- What the body of a refresh leads to. -/
structure RefreshOutcome (platform : Platform) (now : String) (body : List UInt8) (id : Int) (store after : Store)
    (result : Except String Refreshed) : Prop where
  isOk_iff : result.isOk = true ↔ isRefreshable id store ∧ (decodeBody body ≠ [] → bodyLinks platform body ≠ []) ∧
    ∀ link ∈ bodyLinks platform body, storeAccepts link = true
  holds : result.isOk = true → ∀ row ∈ subscriptionOutbounds id after,
    ∃ link ∈ bodyLinks platform body, server row = linkServer platform link
  servers : result.isOk = true → ClaimsApart platform id (listOutbounds store) (bodyLinks platform body) →
    (subscriptionOutbounds id after).map server = (bodyLinks platform body).map (linkServer platform)
  unchanged : result.isOk = false →
    after.outbounds = store.outbounds ∧ after.routingRules = store.routingRules

theorem RefreshOutcome.failed {after : Store} {error : String} (refused : ¬(isRefreshable id store ∧
      (decodeBody body ≠ [] → bodyLinks platform body ≠ []) ∧ ∀ link ∈ bodyLinks platform body, storeAccepts link = true))
    (outbounds : after.outbounds = store.outbounds) (rules : after.routingRules = store.routingRules) :
    RefreshOutcome platform now body id store after (.error error) where
  isOk_iff := by
    constructor
    · intro succeeded
      cases succeeded
    · exact fun accepted => absurd accepted refused
  holds := by
    intro succeeded
    cases succeeded
  servers := by
    intro succeeded
    cases succeeded
  unchanged := fun _ => ⟨outbounds, rules⟩

theorem RefreshOutcome.succeeded {taken after : Store} {identities : Option (List String)} {tagPrefix : String}
    {outbounds : List Outbound} {result : Refreshed} (sized : ∀ text, (platform.sha256 text).length = 32)
    (sound : TagsSound store.outbounds) (refreshable : isRefreshable id store)
    (anyParsed : decodeBody body ≠ [] → bodyLinks platform body ≠ [])
    (valid : ∀ link ∈ bodyLinks platform body, storeAccepts link = true)
    (done : materializeSubscriptionOutbounds now id
      (linkNodes platform id (bodyLinks platform body) (listOutbounds store) tagPrefix) identities store =
        .ok (taken, outbounds))
    (same : subscriptionOutbounds id after = subscriptionOutbounds id taken) :
    RefreshOutcome platform now body id store after (.ok result) where
  isOk_iff := ⟨fun _ => ⟨refreshable, anyParsed, valid⟩, fun _ => rfl⟩
  holds := by
    intro _ row member
    rw [same] at member
    exact materialize_holds done member
  servers := by
    intro _ apart
    rw [same]
    exact materialize_servers (digest_given sized) sound done bodyLinks_plain apart
  unchanged := by
    intro failed
    cases failed

theorem refreshFromBody_outcome (sized : ∀ text, (platform.sha256 text).length = 32) (sound : TagsSound store.outbounds)
    {subscription : OutboundSubscription} (found : findLiveSubscription store id = some subscription)
    (enabled : subscription.enabled = true) (named : subscription.id = id) :
    RefreshOutcome platform now body id store (refreshFromBody platform now subscription body store).1
      (refreshFromBody platform now subscription body store).2 := by
  have digest := digest_given sized
  unfold refreshFromBody parseLinks
  rw [named]
  by_cases unparsed : (acceptedLinks platform (decodeBody body)).isEmpty = true ∧ (!(decodeBody body).isEmpty) = true
  · simp only [if_pos unparsed]
    refine .failed ?_ markFetch_outbounds markFetch_routingRules
    rintro ⟨_, anyParsed, _⟩
    rw [List.isEmpty_iff, Bool.not_eq_true', List.isEmpty_eq_false_iff] at unparsed
    exact anyParsed unparsed.2 unparsed.1
  · have anyParsed : decodeBody body ≠ [] → bodyLinks platform body ≠ [] := by
      intro lines none
      exact unparsed ⟨List.isEmpty_iff.mpr none, by rwa [Bool.not_eq_true', List.isEmpty_eq_false_iff]⟩
    simp only [if_neg unparsed]
    cases taken : materializeSubscriptionOutbounds now id
        (materialize platform id (acceptedLinks platform (decodeBody body)) (listOutbounds store)
          subscription.tagPrefix).1
        (some (materialize platform id (acceptedLinks platform (decodeBody body)) (listOutbounds store)
          subscription.tagPrefix).2) store with
    | error error =>
        refine .failed ?_ markFetch_outbounds markFetch_routingRules
        rintro ⟨_, _, valid⟩
        obtain ⟨result, done⟩ := (materialize_isOk_iff digest sound found enabled).mpr valid
        have both := done.symm.trans taken
        cases both
    | ok result =>
        obtain ⟨after, outbounds⟩ := result
        refine .succeeded sized sound ⟨subscription, found, enabled⟩ anyParsed
          ((materialize_isOk_iff digest sound found enabled).mp ⟨_, taken⟩) taken ?_
        dsimp only
        split
        · rfl
        · exact subscriptionOutbounds_markFetch

/-- For every body: the refresh takes in the links, or fails and leaves the outbounds and rules as
they are. -/
theorem refresh_takes_all_or_nothing (sized : ∀ text, (platform.sha256 text).length = 32)
    (reached : Reach (Steps (eventStep platform)) Store.initial store) (now : String) (body : List UInt8) (id : Int) :
    RefreshOutcome platform now body id store (refreshOutboundSubscription platform now (.ok body) id store).1
      (refreshOutboundSubscription platform now (.ok body) id store).2 := by
  unfold refreshOutboundSubscription
  cases found : findLiveSubscription store id with
  | none =>
      refine .failed ?_ rfl rfl
      rintro ⟨⟨subscription, live, _⟩, _⟩
      rw [found] at live
      cases live
  | some subscription =>
      dsimp only
      cases enabled : subscription.enabled with
      | false =>
          refine .failed ?_ rfl rfl
          rintro ⟨⟨other, live, on⟩, _⟩
          rw [found, Option.some.injEq] at live
          rw [← live, enabled] at on
          cases on
      | true =>
          have live := (Option.filter_eq_some_iff.mp found).1
          exact refreshFromBody_outcome sized (events_tags reached) found enabled (Serial.id_of_find? live)

/-- The expectation: the links that are acceptable to both are taken in, whatever stands beside
them, and without any nothing is touched. -/
def TakesAcceptable (platform : Platform) (now : String) (body : List UInt8) (id : Int) (store : Store) : Prop :=
  let refreshed := refreshOutboundSubscription platform now (.ok body) id store
  let acceptable := (bodyLinks platform body).filter storeAccepts
  (refreshed.2.isOk = true ∧ acceptable ≠ [] ∧
      ((subscriptionOutbounds id refreshed.1).map server).Perm (acceptable.map (linkServer platform)) ∨
    refreshed.2.isOk = false ∧ refreshed.1.outbounds = store.outbounds ∧
      refreshed.1.routingRules = store.routingRules) ∧
    (isRefreshable id store → acceptable ≠ [] → refreshed.2.isOk = true)

def exampleBody (text : String) : List UInt8 :=
  text.toList.map fun rune => UInt8.ofNat rune.toNat

/-- A subscription with one outbound, and a rule that leads to it. -/
def exampleSubscribed : List StoreEvent :=
  [.operate (.createOutboundSubscription "" { (default : OutboundSubscriptionParams) with
      url := "https://example.com/sub", enabled := true }),
    .operate (.materializeSubscriptionOutbounds "" 1 [Config.exampleNode] none),
    .operate (.createRoutingRule { (default : RoutingRuleParams) with
      outboundID := 4, domain := "example.com", enabled := true })]

def exampleSubscribedStore : Store :=
  arrive (eventStep examplePrinted) exampleSubscribed Store.initial

/-- The refresh of a body that holds the server of this outbound. -/
theorem refresh_takes_server : (∀ text, (examplePrinted.sha256 text).length = 32) ∧
    RefreshOutcome examplePrinted "" (exampleBody "trojan://secret@hk.example.com:443#hk") 1 exampleSubscribedStore
      (refreshOutboundSubscription examplePrinted "" (.ok (exampleBody "trojan://secret@hk.example.com:443#hk")) 1
        exampleSubscribedStore).1
      (refreshOutboundSubscription examplePrinted "" (.ok (exampleBody "trojan://secret@hk.example.com:443#hk")) 1
        exampleSubscribedStore).2 := by
  exact ⟨examplePrinted_sized, refresh_takes_all_or_nothing examplePrinted_sized (Reach.arrive _ _ _) _ _ _⟩

/-- An empty body takes the outbound and its rule away; a link the store refuses keeps out the
others. -/
theorem refresh_departs : Reach (Steps (eventStep examplePrinted)) Store.initial exampleSubscribedStore ∧
    ¬TakesAcceptable examplePrinted "" [] 1 exampleSubscribedStore ∧
    ¬TakesAcceptable examplePrinted ""
      (exampleBody "trojan://secret@hk.example.com:443#hk\nvless://nobody@hk.example.com:443#x") 1
      exampleSubscribedStore := by
  refine ⟨Reach.arrive _ _ _, ?_, ?_⟩
  · rintro ⟨⟨_, some, _⟩ | ⟨failed, _⟩, _⟩
    · exact some (by with_unfolding_all decide)
    · revert failed
      with_unfolding_all decide
  · rintro ⟨_, unblocked⟩
    have refreshable : isRefreshable 1 exampleSubscribedStore := by
      have live : (findLiveSubscription exampleSubscribedStore 1).map OutboundSubscription.enabled = some true := by
        with_unfolding_all decide
      exact Option.map_eq_some_iff.mp live
    have succeeded := unblocked refreshable (by decide +kernel)
    revert succeeded
    decide +kernel

end MiGate.Web
