import MiGate.Transition.Reach
import MiGate.Web.Auth

namespace MiGate.Web

open Db Go Relational Transition

/-! Whether a revoked session stays refused. -/

structure Panel where
  sessions : Sessions
  clock : Int

/-- A clock reading whose text, and the text of the expiry counted from it, have a year of
four digits. -/
def Readable (instant : Int) : Prop :=
  InYears instant ∧ InYears (instant + sessionLifetime)

/-- An action reads the clock, which never goes back. -/
def SessionStep (crypto : SessionCrypto) (action : SessionAction) (before after : Panel) : Prop :=
  (before.clock :: action.readings).Pairwise (· ≤ ·) ∧ (∀ reading ∈ action.readings, Readable reading) ∧
    after.sessions = action.run crypto before.sessions ∧ after.clock ∈ action.readings ∧
    ∀ reading ∈ action.readings, reading ≤ after.clock

/-- No login issues a token with this one's hash: its nonce is random. -/
def NeverReissued (crypto : SessionCrypto) (token : String) (action : SessionAction) (_ : Panel) : Prop :=
  ∀ issued, action.issued crypto = some issued → crypto.hashToken issued ≠ crypto.hashToken token

/-- The expiry second of a token whose signature is right. -/
def signedExpiry (crypto : SessionCrypto) (token : String) : Option Int :=
  match cut '.' token.toList with
  | (_, none) => none
  | (encoded, some signature) =>
      match decodeHex encoded with
      | none => none
      | some payload => if String.ofList signature = crypto.signMessage payload then payloadExpiry payload else none

theorem validateSessionToken_eq (crypto : SessionCrypto) (now : Int) (token : String) :
    validateSessionToken crypto now token = (signedExpiry crypto token).any fun expiry => unix now ≤ expiry := by
  unfold validateSessionToken signedExpiry
  rcases cut '.' token.toList with ⟨encoded, _ | signature⟩
  · rfl
  cases decoded : decodeHex encoded with
  | none => simp [decoded]
  | some payload =>
      by_cases signed : String.ofList signature = crypto.signMessage payload
      · simp [decoded, signed]
      · simp [decoded, signed]

/-! ### The table of any run -/

structure Tracked (sessions : Sessions) : Prop where
  unique : (sessions.rows.map (·.tokenHash)).Nodup
  stamped : ∀ session ∈ sessions.rows, ∃ expiresAt, InYears expiresAt ∧ session.expiresAt = rfc3339 expiresAt

theorem Tracked.empty : Tracked (Serial.empty : Sessions) where
  unique := .nil
  stamped := by simp [Serial.empty]

theorem Tracked.modifyWhere {sessions : Sessions} {change : BlacklistedSession → BlacklistedSession}
    (tracked : Tracked sessions) (selected : BlacklistedSession → Bool)
    (keeps : ∀ session, (change session).id = session.id) (hash : ∀ session, (change session).tokenHash = session.tokenHash)
    (expires : ∀ session, (change session).expiresAt = session.expiresAt) :
    Tracked (sessions.modifyWhere selected change keeps) where
  unique := by
    rw [Serial.map_modifyWhere _ _ _ _ _ fun session _ _ => hash session]
    exact tracked.unique
  stamped := by
    intro session member
    obtain ⟨old, oldMember, rfl⟩ := Serial.mem_modifyWhere.mp member
    split
    · rw [expires]
      exact tracked.stamped old oldMember
    · exact tracked.stamped old oldMember

theorem Tracked.deleteWhere {sessions : Sessions} {selected : BlacklistedSession → Bool}
    (tracked : Tracked sessions) : Tracked (sessions.deleteWhere selected) where
  unique := tracked.unique.sublist (List.filter_sublist.map _)
  stamped := fun session member => tracked.stamped session (Serial.mem_deleteWhere.mp member).1

theorem Tracked.addToBlacklist {sessions : Sessions} {expiresAt : Int} (tracked : Tracked sessions)
    (now : Int) (hash : String) (revoked : Bool) (years : InYears expiresAt) :
    Tracked (addToBlacklist now hash expiresAt revoked sessions) := by
  unfold Db.addToBlacklist
  split
  · exact tracked.modifyWhere _ _ (remarkSession_tokenHash _ _) (remarkSession_expiresAt _ _)
  · rename_i absent
    simp only [List.any_eq_true, decide_eq_true_eq, not_exists, not_and] at absent
    constructor
    · rw [Serial.map_insert, List.nodup_append]
      refine ⟨tracked.unique, List.nodup_singleton _, ?_⟩
      intro stored member other otherMember
      obtain ⟨session, sessionMember, rfl⟩ := List.mem_map.mp member
      rw [List.mem_singleton.mp otherMember]
      exact absent session sessionMember
    · intro session member
      rcases Serial.mem_insert.mp member with old | new
      · exact tracked.stamped session old
      · refine ⟨expiresAt, years, ?_⟩
        rw [new, newSession]

theorem Tracked.run {crypto : SessionCrypto} {sessions : Sessions} {action : SessionAction}
    (tracked : Tracked sessions) (readable : ∀ reading ∈ action.readings, Readable reading) :
    Tracked (action.run crypto sessions) := by
  cases action with
  | login username nonce createdAt trackedAt cleanedAt prunedAt =>
      have added := tracked.addToBlacklist trackedAt
        (crypto.hashToken (createSessionToken crypto createdAt username nonce)) false
        (readable trackedAt (by simp [SessionAction.readings])).2
      exact added.deleteWhere.modifyWhere _ (setRevoked_id true) (setRevoked_tokenHash true) (setRevoked_expiresAt true)
  | logout token at_ =>
      simp only [SessionAction.run]
      split
      · exact tracked
      · exact tracked.addToBlacklist _ _ _ (readable at_ (by simp [SessionAction.readings])).2
  | revoke id at_ =>
      simp only [SessionAction.run, revokeSession]
      split
      · exact tracked.modifyWhere _ (setRevoked_id true) (setRevoked_tokenHash true) (setRevoked_expiresAt true)
      · exact tracked
  | revokeOthers current at_ =>
      simp only [SessionAction.run]
      split
      · exact tracked.modifyWhere _ (setRevoked_id true) (setRevoked_tokenHash true) (setRevoked_expiresAt true)
      · exact tracked
  | list cleanedAt readAt => exact tracked.deleteWhere
  | request token validatedAt checkedAt touchedAt =>
      simp only [SessionAction.run, touchSessionOf]
      split
      · split
        · split
          · exact tracked
          · exact tracked.modifyWhere _ _ (touchSession_tokenHash _) (touchSession_expiresAt _)
        · exact tracked
      · exact tracked

theorem Tracked.reach {crypto : SessionCrypto} {start panel : Panel} (empty : start.sessions = .empty)
    (reached : Reach (SessionStep crypto) start panel) : Tracked panel.sessions := by
  induction reached with
  | start =>
      rw [empty]
      exact .empty
  | step _ step ih =>
      rw [step.2.2.1]
      exact ih.run step.2.1

/-! ### A revoked row stays as long as its expiry allows -/

/-- Every row of a token is revoked, and the row that was revoked first is still there
unless its expiry second is over. -/
structure RevokedUntil (hash : String) (expiresAt clock : Int) (sessions : Sessions) : Prop where
  dead : ∀ session ∈ sessions.rows, session.tokenHash = hash → session.revoked = true
  kept : (∃ session ∈ sessions.rows, session.tokenHash = hash ∧ session.expiresAt = rfc3339 expiresAt) ∨
    unix expiresAt < unix clock

variable {hash : String} {expiresAt clock : Int} {sessions : Sessions}

theorem unix_mono {left right : Int} (le : left ≤ right) : unix left ≤ unix right :=
  Int.ediv_le_ediv (by decide) le

theorem RevokedUntil.later {later : Int} (revoked : RevokedUntil hash expiresAt clock sessions)
    (le : clock ≤ later) : RevokedUntil hash expiresAt later sessions where
  dead := revoked.dead
  kept := revoked.kept.imp_right fun ended => Int.lt_of_lt_of_le ended (unix_mono le)

theorem RevokedUntil.modifyWhere {change : BlacklistedSession → BlacklistedSession}
    (revoked : RevokedUntil hash expiresAt clock sessions) (selected : BlacklistedSession → Bool)
    (keeps : ∀ session, (change session).id = session.id)
    (sameHash : ∀ session, (change session).tokenHash = session.tokenHash)
    (sameExpiry : ∀ session, (change session).expiresAt = session.expiresAt)
    (stays : ∀ session, selected session = true → session.tokenHash = hash → session.revoked = true →
      (change session).revoked = true) :
    RevokedUntil hash expiresAt clock (sessions.modifyWhere selected change keeps) where
  dead := by
    intro session member named
    obtain ⟨old, oldMember, rfl⟩ := Serial.mem_modifyWhere.mp member
    by_cases chosen : selected old = true
    · rw [if_pos chosen] at named ⊢
      rw [sameHash] at named
      exact stays old chosen named (revoked.dead old oldMember named)
    · rw [if_neg chosen] at named ⊢
      exact revoked.dead old oldMember named
  kept := by
    rcases revoked.kept with ⟨session, member, named, expires⟩ | ended
    · left
      refine ⟨_, Serial.mem_modifyWhere.mpr ⟨session, member, rfl⟩, ?_⟩
      split
      · exact ⟨(sameHash session).trans named, (sameExpiry session).trans expires⟩
      · exact ⟨named, expires⟩
    · exact .inr ended

theorem RevokedUntil.cleanup {now : Int} (revoked : RevokedUntil hash expiresAt clock sessions)
    (years : InYears expiresAt) (nowYears : InYears now) (reading : now ≤ clock) :
    RevokedUntil hash expiresAt clock (cleanupExpiredSessions now sessions) where
  dead := fun session member => revoked.dead session (Serial.mem_deleteWhere.mp member).1
  kept := by
    rcases revoked.kept with ⟨session, member, named, expires⟩ | ended
    · by_cases gone : unix expiresAt < unix now
      · exact .inr (Int.lt_of_lt_of_le gone (unix_mono reading))
      · left
        refine ⟨session, Serial.mem_deleteWhere.mpr ⟨member, ?_⟩, named, expires⟩
        rw [decide_eq_false_iff_not, expires, rfc3339_lt_iff years nowYears]
        exact gone
    · exact .inr ended

theorem RevokedUntil.addToBlacklist {added : String} {flag : Bool}
    (revoked : RevokedUntil hash expiresAt clock sessions) (now other : Int) (allowed : added = hash → flag = true) :
    RevokedUntil hash expiresAt clock (addToBlacklist now added other flag sessions) := by
  unfold Db.addToBlacklist
  split
  · refine revoked.modifyWhere _ _ (remarkSession_tokenHash _ _) (remarkSession_expiresAt _ _) ?_
    intro session chosen named _
    exact allowed ((of_decide_eq_true chosen).symm.trans named)
  · constructor
    · intro session member named
      rcases Serial.mem_insert.mp member with old | new
      · exact revoked.dead session old named
      · rw [new] at named ⊢
        exact allowed named
    · refine revoked.kept.imp_left ?_
      rintro ⟨session, member, named⟩
      exact ⟨session, Serial.mem_insert.mpr (.inl member), named⟩

/-- Setting rows revoked or touching them leaves the revoked ones revoked. -/
theorem RevokedUntil.setRevoked (revoked : RevokedUntil hash expiresAt clock sessions)
    (selected : BlacklistedSession → Bool) :
    RevokedUntil hash expiresAt clock (sessions.modifyWhere selected (Db.setRevoked true) (setRevoked_id true)) :=
  revoked.modifyWhere _ _ (setRevoked_tokenHash true) (setRevoked_expiresAt true) fun _ _ _ _ => rfl

theorem RevokedUntil.run {crypto : SessionCrypto} {token : String} {action : SessionAction} {panel : Panel}
    (revoked : RevokedUntil (crypto.hashToken token) expiresAt clock sessions) (years : InYears expiresAt)
    (readable : ∀ reading ∈ action.readings, Readable reading)
    (read : ∀ reading ∈ action.readings, reading ≤ clock) (other : NeverReissued crypto token action panel) :
    RevokedUntil (crypto.hashToken token) expiresAt clock (action.run crypto sessions) := by
  cases action with
  | login username nonce createdAt trackedAt cleanedAt prunedAt =>
      have added : RevokedUntil (crypto.hashToken token) expiresAt clock (Db.addToBlacklist trackedAt
          (crypto.hashToken (createSessionToken crypto createdAt username nonce)) (trackedAt + sessionLifetime)
          false sessions) :=
        revoked.addToBlacklist _ _ fun same => absurd same (other _ rfl)
      have cleaned : cleanedAt ∈ (SessionAction.login username nonce createdAt trackedAt cleanedAt prunedAt).readings := by
        simp [SessionAction.readings]
      exact (added.cleanup years (readable cleanedAt cleaned).1 (read cleanedAt cleaned)).setRevoked _
  | logout token at_ =>
      simp only [SessionAction.run]
      split
      · exact revoked
      · exact revoked.addToBlacklist _ _ fun _ => rfl
  | revoke id at_ =>
      simp only [SessionAction.run, revokeSession]
      split
      · exact revoked.setRevoked _
      · exact revoked
  | revokeOthers current at_ =>
      simp only [SessionAction.run]
      split
      · exact revoked.setRevoked _
      · exact revoked
  | list cleanedAt readAt =>
      have cleaned : cleanedAt ∈ (SessionAction.list cleanedAt readAt).readings := by simp [SessionAction.readings]
      exact revoked.cleanup years (readable cleanedAt cleaned).1 (read cleanedAt cleaned)
  | request token validatedAt checkedAt touchedAt =>
      simp only [SessionAction.run, touchSessionOf]
      split
      · split
        · split
          · exact revoked
          · exact revoked.modifyWhere _ _ (touchSession_tokenHash _) (touchSession_expiresAt _)
              fun _ _ _ flag => flag
        · exact revoked
      · exact revoked

theorem SessionStep.clock_le {crypto : SessionCrypto} {action : SessionAction} {before after : Panel}
    (step : SessionStep crypto action before after) : before.clock ≤ after.clock :=
  (List.pairwise_cons.mp step.1).1 _ step.2.2.2.1

theorem RevokedUntil.reach {crypto : SessionCrypto} {token : String} {before later : Panel}
    (revoked : RevokedUntil (crypto.hashToken token) expiresAt before.clock before.sessions) (years : InYears expiresAt)
    (reached : Reach (Guarded (NeverReissued crypto token) (SessionStep crypto)) before later) :
    RevokedUntil (crypto.hashToken token) expiresAt later.clock later.sessions := by
  induction reached with
  | start => exact revoked
  | step _ guarded ih =>
      obtain ⟨other, step⟩ := guarded
      rw [step.2.2.1]
      exact (ih.later step.clock_le).run years step.2.1 step.2.2.2.2 other

/-- Among rows that are all revoked, a token is blacklisted when one has not run out. -/
theorem RevokedUntil.isBlacklisted (revoked : RevokedUntil hash expiresAt clock sessions) (now : Int) :
    isBlacklisted now hash sessions = true ↔
      ∃ session ∈ sessions.rows, session.tokenHash = hash ∧ rfc3339 now < session.expiresAt := by
  simp only [Db.isBlacklisted, Option.any_eq_true]
  constructor
  · rintro ⟨session, found, -⟩
    have running := List.find?_some found
    simp only [Bool.and_eq_true, decide_eq_true_eq] at running
    exact ⟨session, List.mem_of_find?_eq_some found, running⟩
  · rintro ⟨session, member, running⟩
    have present : (sessions.rows.find? fun session =>
        session.tokenHash = hash && rfc3339 now < session.expiresAt).isSome := by
      rw [List.find?_isSome]
      exact ⟨session, member, by simpa using running⟩
    obtain ⟨first, found⟩ := Option.isSome_iff_exists.mp present
    have firstRunning := List.find?_some found
    simp only [Bool.and_eq_true, decide_eq_true_eq] at firstRunning
    exact ⟨first, found, revoked.dead first (List.mem_of_find?_eq_some found) firstRunning.1⟩

theorem Tracked.revokedUntil {session : BlacklistedSession} (tracked : Tracked sessions)
    (member : session ∈ sessions.rows) (dead : session.revoked = true)
    (expires : session.expiresAt = rfc3339 expiresAt) :
    RevokedUntil session.tokenHash expiresAt clock sessions where
  dead := by
    intro other otherMember same
    have equal := List.inj_on_of_nodup_map tracked.unique otherMember member same
    rw [equal]
    exact dead
  kept := .inl ⟨session, member, rfl, expires⟩

/-- A logout leaves a revoked row for the token, whether it was tracked or not. -/
theorem logout_revokes (crypto : SessionCrypto) {token : String} (present : token ≠ "") (at_ : Int)
    (sessions : Sessions) :
    ∃ session ∈ ((SessionAction.logout token at_).run crypto sessions).rows,
      session.tokenHash = crypto.hashToken token ∧ session.revoked = true := by
  simp only [SessionAction.run, if_neg present, addToBlacklist]
  split
  · rename_i tracked
    obtain ⟨session, member, named⟩ := List.any_eq_true.mp tracked
    refine ⟨remarkSession true (rfc3339 at_) session, Serial.mem_modifyWhere.mpr ⟨session, member, if_pos named⟩, ?_⟩
    rw [remarkSession_tokenHash, remarkSession_revoked]
    exact ⟨of_decide_eq_true named, rfl⟩
  · refine ⟨newSession at_ (crypto.hashToken token) (at_ + sessionLifetime) true sessions.next, ?_⟩
    rw [Serial.mem_insert]
    exact ⟨.inr rfl, rfl, rfl⟩

/-- No later request with the token passes up to and including its expiry second. -/
def StaysDead (crypto : SessionCrypto) (token : String) (panel : Panel) : Prop :=
  ∀ validatedAt checkedAt expiry, panel.clock ≤ validatedAt → validatedAt ≤ checkedAt → InYears checkedAt →
    signedExpiry crypto token = some expiry → unix checkedAt ≤ expiry →
    authMiddleware crypto validatedAt checkedAt token panel.sessions = false

theorem RevokedUntil.staysDead {crypto : SessionCrypto} {token : String} {panel : Panel}
    (revoked : RevokedUntil (crypto.hashToken token) expiresAt panel.clock panel.sessions) (years : InYears expiresAt)
    (outlives : ∀ expiry, signedExpiry crypto token = some expiry → expiry < unix expiresAt ∨ expiry < unix panel.clock) :
    StaysDead crypto token panel := by
  intro validatedAt checkedAt expiry validated ordered checkedYears signed within
  have later : unix panel.clock ≤ unix checkedAt := unix_mono (Int.le_trans validated ordered)
  have running : expiry < unix expiresAt := (outlives expiry signed).resolve_right (by omega)
  obtain ⟨session, member, named, expires⟩ := revoked.kept.resolve_right (by omega)
  have blacklisted : Db.isBlacklisted checkedAt (crypto.hashToken token) panel.sessions = true := by
    rw [revoked.isBlacklisted]
    refine ⟨session, member, named, ?_⟩
    rw [expires, rfc3339_lt_iff checkedYears years]
    exact Int.lt_of_le_of_lt within running
  simp [authMiddleware, blacklisted]

theorem Reach.clock_le {crypto : SessionCrypto} {start panel : Panel}
    (reached : Reach (SessionStep crypto) start panel) : start.clock ≤ panel.clock := by
  induction reached with
  | start => exact Int.le_refl _
  | step _ step ih => exact Int.le_trans ih step.clock_le

theorem Reach.clock_inYears {crypto : SessionCrypto} {start panel : Panel}
    (reached : Reach (SessionStep crypto) start panel) : panel = start ∨ InYears panel.clock := by
  cases reached with
  | start => exact .inl rfl
  | step _ step => exact .inr (step.2.1 _ step.2.2.2.1).1

/-- A revoked token stays refused in every later run exactly when its row outlives it: the
row expires in a later second than the token, unless that second is already over. -/
theorem revoked_stays_dead {crypto : SessionCrypto} {token : String} {start panel : Panel}
    {session : BlacklistedSession} (empty : start.sessions = .empty) (reached : Reach (SessionStep crypto) start panel)
    (member : session ∈ panel.sessions.rows) (named : session.tokenHash = crypto.hashToken token)
    (dead : session.revoked = true) (expires : session.expiresAt = rfc3339 expiresAt) (years : InYears expiresAt) :
    (∀ later, Reach (Guarded (NeverReissued crypto token) (SessionStep crypto)) panel later →
      StaysDead crypto token later) ↔
    ∀ expiry, signedExpiry crypto token = some expiry → expiry < unix expiresAt ∨ expiry < unix panel.clock := by
  have tracked := Tracked.reach empty reached
  have revoked : RevokedUntil (crypto.hashToken token) expiresAt panel.clock panel.sessions :=
    named ▸ tracked.revokedUntil member dead expires
  constructor
  · intro staysDead expiry signed
    by_contra! outlived
    obtain ⟨rowOver, notOver⟩ := outlived
    have clockYears : InYears panel.clock := by
      rcases Reach.clock_inYears reached with same | inYears
      · rw [same, empty] at member
        cases member
      · exact inYears
    -- the request comes as soon as the row has run out
    let moment := max panel.clock expiresAt
    have momentYears : InYears moment := max_rec (fun _ => clockYears) fun _ => years
    have within : unix moment ≤ expiry := max_rec (p := fun moment => unix moment ≤ expiry) (fun _ => notOver) fun _ => rowOver
    have refused := staysDead panel .start moment moment expiry (le_max_left _ _) (le_refl _) momentYears signed within
    have valid : validateSessionToken crypto moment token = true := by
      simp [validateSessionToken_eq, signed, within]
    have blacklisted : Db.isBlacklisted moment (crypto.hashToken token) panel.sessions = true := by
      simpa [authMiddleware, valid] using refused
    obtain ⟨other, otherMember, otherNamed, running⟩ := (revoked.isBlacklisted moment).mp blacklisted
    have same : other = session :=
      List.inj_on_of_nodup_map tracked.unique otherMember member (otherNamed.trans named.symm)
    rw [same, expires, rfc3339_lt_iff momentYears years] at running
    exact absurd (unix_mono (le_max_right panel.clock expiresAt)) (Int.not_le.mpr running)
  · intro outlives later run
    have ordered : panel.clock ≤ later.clock := Reach.clock_le run.unguarded
    refine (revoked.reach years run).staysDead years fun expiry signed => ?_
    exact (outlives expiry signed).imp_right fun ended => Int.lt_of_lt_of_le ended (unix_mono ordered)

/-! ### A token whose row runs out with it -/

def exampleCrypto : SessionCrypto where
  signMessage _ := "5160"
  hashToken token := token

def exampleToken (createdAt : Int) : String :=
  createSessionToken exampleCrypto createdAt "admin" (Vector.replicate 8 0)

def examplePanel : Panel where
  sessions := .empty
  clock := 0

def exampleLogin (createdAt trackedAt : Int) : SessionAction :=
  .login "admin" (Vector.replicate 8 0) createdAt trackedAt trackedAt trackedAt

/-- The panel after a login and a logout a minute later. -/
def exampleLogout (createdAt trackedAt : Int) : Panel where
  sessions :=
    (SessionAction.logout (exampleToken createdAt) (trackedAt + minute)).run exampleCrypto
      ((exampleLogin createdAt trackedAt).run exampleCrypto examplePanel.sessions)
  clock := trackedAt + minute

theorem exampleLogout_reached {createdAt trackedAt : Int} (started : 0 ≤ createdAt) (ordered : createdAt ≤ trackedAt)
    (early : trackedAt ≤ hour) : Reach (SessionStep exampleCrypto) examplePanel (exampleLogout createdAt trackedAt) := by
  have readable : ∀ reading, 0 ≤ reading → reading ≤ hour + minute → Readable reading := by
    intro reading lower upper
    simp only [Readable, InYears, sessionLifetime, hour, minute, second] at upper ⊢
    omega
  have oneMinute : 0 ≤ minute := by decide
  let loggedIn : Panel := ⟨(exampleLogin createdAt trackedAt).run exampleCrypto examplePanel.sessions, trackedAt⟩
  have login : SessionStep exampleCrypto (exampleLogin createdAt trackedAt) examplePanel loggedIn := by
    refine ⟨?_, ?_, rfl, ?_, ?_⟩
    · simp [exampleLogin, SessionAction.readings, examplePanel]
      omega
    · simp only [exampleLogin, SessionAction.readings, List.mem_cons, List.not_mem_nil, or_false]
      rintro reading (rfl | rfl | rfl | rfl)
      all_goals exact readable _ (by omega) (by omega)
    · simp [exampleLogin, SessionAction.readings, loggedIn]
    · simp [exampleLogin, SessionAction.readings, loggedIn, ordered]
  have logout : SessionStep exampleCrypto (.logout (exampleToken createdAt) (trackedAt + minute)) loggedIn
      (exampleLogout createdAt trackedAt) := by
    refine ⟨?_, ?_, rfl, ?_, ?_⟩
    · simp [SessionAction.readings, loggedIn, oneMinute]
    · simp only [SessionAction.readings, List.mem_singleton]
      rintro reading rfl
      exact readable _ (by omega) (by omega)
    · simp [SessionAction.readings, exampleLogout]
    · simp [SessionAction.readings, exampleLogout]
  exact .step (.step .start login) logout

/-- The token of a login that was tracked in the second it was issued in passes again in
its last second, a week after it was revoked. -/
theorem revoked_session_returns :
    ∃ (crypto : SessionCrypto) (start panel : Panel) (token : String) (request : Int),
      start.sessions = .empty ∧ Reach (SessionStep crypto) start panel ∧
      (panel.sessions.rows.any fun session => session.tokenHash = crypto.hashToken token && session.revoked) = true ∧
      panel.clock ≤ request ∧ signedExpiry crypto token = some (unix request) ∧
      authMiddleware crypto request request token panel.sessions = true := by
  refine ⟨exampleCrypto, examplePanel, exampleLogout 0 0, exampleToken 0, sessionLifetime, rfl,
    exampleLogout_reached (by decide) (by decide) (by decide), ?_⟩
  with_unfolding_all decide

/-- Tracked a second later, it stays dead. -/
theorem late_tracking_stays_dead : signedExpiry exampleCrypto (exampleToken 0) = some (unix sessionLifetime) ∧
    ∀ later, Reach (Guarded (NeverReissued exampleCrypto (exampleToken 0)) (SessionStep exampleCrypto))
      (exampleLogout 0 second) later → StaysDead exampleCrypto (exampleToken 0) later := by
  let row := remarkSession true (rfc3339 (second + minute))
    (newSession second (exampleToken 0) (second + sessionLifetime) false 1)
  have reached : Reach (SessionStep exampleCrypto) examplePanel (exampleLogout 0 second) :=
    exampleLogout_reached (by decide) (by decide) (by decide)
  have member : row ∈ (exampleLogout 0 second).sessions.rows := by with_unfolding_all decide
  have lifetime : signedExpiry exampleCrypto (exampleToken 0) = some (unix sessionLifetime) := by with_unfolding_all decide
  refine ⟨lifetime, (revoked_stays_dead rfl reached member rfl rfl rfl (by decide)).mpr fun expiry signed => ?_⟩
  cases lifetime.symm.trans signed
  exact .inl (by decide)

end MiGate.Web
