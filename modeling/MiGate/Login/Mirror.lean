import MiGate.Login.BruteForce
import MiGate.Login.Blocks

namespace MiGate.Web

open Db Go Relational

/-! The persistent limiter against one that keeps its memory when the process restarts. -/

/-! ### Attempts at the persistent limiter -/

/-- A login attempt with the readings and faults of the calls it makes. -/
structure PersistentAttempt extends LoginAttempt where
  prunedAt : Int
  loadedAt : Int
  reloadedAt : Int
  persistedAt : Int
  faults : StoreFaults

inductive LoginEvent where
  | attempt (attempt : PersistentAttempt)
  | restart

namespace PersistentLoginLimiter

variable (limits : LoginLimits)

/-- What `loginHandler` asks of its limiter. -/
def attempt (attempt : PersistentAttempt) (limiter : PersistentLoginLimiter) : LoginVerdict × PersistentLoginLimiter :=
  let (allowed, limiter) :=
    limiter.allow limits attempt.keys attempt.prunedAt attempt.loadedAt attempt.checkedAt attempt.faults
  if !allowed then (.rateLimited, limiter)
  else if !attempt.correct then
    (.failure, (limiter.recordFailure limits attempt.keys attempt.reloadedAt attempt.recordedAt attempt.persistedAt
      attempt.faults).2)
  else (.success, limiter.reset attempt.keys attempt.persistedAt attempt.faults)

/-- The verdicts of some attempts between restarts, and the limiter after them. -/
def events : List LoginEvent → PersistentLoginLimiter → List LoginVerdict × PersistentLoginLimiter
  | [], limiter => ([], limiter)
  | .attempt attempt :: rest, limiter =>
      let (verdict, limiter) := limiter.attempt limits attempt
      let (verdicts, limiter) := limiter.events rest
      (verdict :: verdicts, limiter)
  | .restart :: rest, limiter => limiter.restart.events rest

end PersistentLoginLimiter

def PersistentAttempt.readings (attempt : PersistentAttempt) : List Int :=
  [attempt.prunedAt, attempt.loadedAt, attempt.checkedAt, attempt.reloadedAt, attempt.recordedAt, attempt.persistedAt]

/-- No read and no write of the attempt's keys fails; a prune may. -/
def PersistentAttempt.Healthy (attempt : PersistentAttempt) : Prop :=
  ∀ key ∈ attempt.keys, attempt.faults.read key = false ∧ attempt.faults.write key = false

/-! ### A limiter whose memory survives -/

/-- An entry as the store can hold it. -/
def LoginLimitEntry.rounded (entry : LoginLimitEntry) : LoginLimitEntry :=
  { entry with blockedAt := wholeSecond entry.blockedAt }

/-- A `loginLimiter` whose entries outlive the process: a restart rounds the times of its
blocks down to the second. -/
structure SurvivingLimiter where
  entries : LoginLimitEntries
  /-- When a failure was last recorded for a key. -/
  touchedAt : String → Int
  /-- Whether no attempt has named a key since the last restart. -/
  carried : String → Bool

namespace SurvivingLimiter

def fresh : SurvivingLimiter where
  entries _ := none
  touchedAt _ := zeroInstant
  carried _ := false

def restart (survivor : SurvivingLimiter) : SurvivingLimiter where
  entries key := (survivor.entries key).map LoginLimitEntry.rounded
  touchedAt := survivor.touchedAt
  carried _ := true

/-- An attempt at the entries that are recalled. -/
def attempt (limits : LoginLimits) (attempt : LoginAttempt) (recalled : LoginLimitEntries)
    (survivor : SurvivingLimiter) : LoginVerdict × SurvivingLimiter :=
  let (verdict, limiter) := (LoginLimiter.mk limits recalled).attempt attempt
  (verdict, {
    entries := limiter.entries
    touchedAt := fun key =>
      if verdict = .failure ∧ key ∈ attempt.keys then attempt.recordedAt else survivor.touchedAt key
    carried := fun key => survivor.carried key && key ∉ attempt.keys })

/-- What may be recalled when a key is first named after a restart: its entry, or nothing
when no failure was recorded for two cooldowns. -/
def Recalls (limits : LoginLimits) (attempt : LoginAttempt) (survivor : SurvivingLimiter)
    (recalled : LoginLimitEntries) : Prop :=
  ∀ key, recalled key = survivor.entries key ∨
    recalled key = none ∧ key ∈ attempt.keys ∧ survivor.carried key = true ∧
      survivor.touchedAt key + 2 * limits.cooldown < attempt.checkedAt

end SurvivingLimiter

/-- The verdicts a surviving limiter can give. -/
inductive Survives (limits : LoginLimits) : SurvivingLimiter → List LoginEvent → List LoginVerdict → Prop where
  | done {survivor : SurvivingLimiter} : Survives limits survivor [] []
  | restart {survivor : SurvivingLimiter} {events : List LoginEvent} {verdicts : List LoginVerdict}
      (rest : Survives limits survivor.restart events verdicts) :
      Survives limits survivor (.restart :: events) verdicts
  | attempt {survivor : SurvivingLimiter} {attempt : PersistentAttempt} {events : List LoginEvent}
      {verdicts : List LoginVerdict} {recalled : LoginLimitEntries}
      (recalls : survivor.Recalls limits attempt.toLoginAttempt recalled)
      (rest : Survives limits (survivor.attempt limits attempt.toLoginAttempt recalled).2 events verdicts) :
      Survives limits survivor (.attempt attempt :: events)
        ((survivor.attempt limits attempt.toLoginAttempt recalled).1 :: verdicts)

/-! ### What the two say of one key -/

variable {limits : LoginLimits} {now clock : Int} {key : String} {keys : List String} {fails : String → Bool}
  {limiter : PersistentLoginLimiter} {survivor : SurvivingLimiter}

theorem live_some_of_full {entry : LoginLimitEntry} (ended : entry.blockedAt + limits.cooldown ≤ now)
    (full : limits.full entry = true) : limits.live now (some entry) = none := by
  simp [LoginLimits.live, full, ended]

/-- A rounded block is over whenever the block is. -/
theorem live_rounded (now : Int) (entry : Option LoginLimitEntry) :
    limits.live now ((limits.live now entry).map LoginLimitEntry.rounded) =
      limits.live now (entry.map LoginLimitEntry.rounded) := by
  cases entry with
  | none => rfl
  | some entry =>
      by_cases ended : limits.full entry ∧ entry.blockedAt + limits.cooldown ≤ now
      · have earlier := wholeSecond_le entry.blockedAt
        have roundedOver : limits.live now (some entry.rounded) = none :=
          live_some_of_full (by simp only [LoginLimitEntry.rounded]; omega) ended.1
        rw [live_some_of_full ended.2 ended.1]
        exact roundedOver.symm
      · simp [LoginLimits.live, ended]

/-- A row says what is expected, or it is gone since nothing was recorded for two cooldowns. -/
def RowMatches (limits : LoginLimits) (clock : Int) (stored expected : Option LoginLimitEntry) (touchedAt : Int) : Prop :=
  limits.live clock stored = limits.live clock expected ∨
    stored = none ∧ touchedAt + 2 * limits.cooldown < clock

structure MirrorsKey (limits : LoginLimits) (clock : Int) (limiter : PersistentLoginLimiter)
    (survivor : SurvivingLimiter) (key : String) : Prop where
  entries : ∀ entry, survivor.entries key = some entry → ProperEntry clock entry
  touched : ∀ row, limiter.store.find? key = some row →
    ∃ updatedAt, row.updatedAt = rfc3339 updatedAt ∧ InYears updatedAt ∧ survivor.touchedAt key ≤ updatedAt
  row : RowMatches limits clock (storedEntry key limiter.store) ((survivor.entries key).map LoginLimitEntry.rounded)
    (survivor.touchedAt key)
  used : survivor.carried key = false → limits.live clock (limiter.memory key) = limits.live clock (survivor.entries key)
  unused : survivor.carried key = true → limiter.loaded key = false ∧ limiter.memory key = none ∧
    (survivor.entries key).map LoginLimitEntry.rounded = survivor.entries key

theorem RowMatches.later {later : Int} {stored expected : Option LoginLimitEntry} {touchedAt : Int}
    (matches_ : RowMatches limits clock stored expected touchedAt) (ordered : clock ≤ later) :
    RowMatches limits later stored expected touchedAt := by
  rcases matches_ with same | ⟨absent, old⟩
  · left
    rw [← LoginLimits.live_live ordered stored, same, LoginLimits.live_live ordered]
  · exact .inr ⟨absent, by omega⟩

namespace MirrorsKey

theorem later {later : Int} (mirrors : MirrorsKey limits clock limiter survivor key) (ordered : clock ≤ later) :
    MirrorsKey limits later limiter survivor key where
  entries := fun entry found => (mirrors.entries entry found).later ordered
  touched := mirrors.touched
  row := mirrors.row.later ordered
  used := by
    intro used
    rw [← LoginLimits.live_live ordered, mirrors.used used, LoginLimits.live_live ordered]
  unused := mirrors.unused

theorem restart (mirrors : MirrorsKey limits clock limiter survivor key) :
    MirrorsKey limits clock limiter.restart survivor.restart key where
  entries := by
    intro entry found
    obtain ⟨old, present, rfl⟩ := Option.map_eq_some_iff.mp found
    have proper := mirrors.entries old present
    exact ⟨proper.failures, zeroInstant_le_wholeSecond proper.lower,
      Int.le_trans (wholeSecond_le _) proper.upper⟩
  touched := mirrors.touched
  row := by
    have twice : ((survivor.entries key).map LoginLimitEntry.rounded).map LoginLimitEntry.rounded =
        (survivor.entries key).map LoginLimitEntry.rounded := by
      rw [Option.map_map]
      congr 1
      funext entry
      simp [LoginLimitEntry.rounded, wholeSecond_wholeSecond]
    have same := mirrors.row
    rw [← twice] at same
    exact same
  used := nofun
  unused := by
    intro _
    refine ⟨rfl, rfl, ?_⟩
    simp only [SurvivingLimiter.restart, Option.map_map]
    congr 1
    funext entry
    simp [LoginLimitEntry.rounded, wholeSecond_wholeSecond]

theorem maybePrune (mirrors : MirrorsKey limits now limiter survivor key) (storable : Storable limits now)
    (short : 2 * limits.cooldown < 2 ^ 63) (fails : Bool) :
    MirrorsKey limits now (limits.maybePrune now fails limiter) survivor key := by
  obtain ⟨memory, ⟨store, loaded⟩ | ⟨store, loaded⟩⟩ := LoginLimits.maybePrune_cases limits now fails limiter
  · exact ⟨mirrors.entries, store ▸ mirrors.touched, store ▸ mirrors.row, memory ▸ mirrors.used,
      memory ▸ loaded ▸ mirrors.unused⟩
  · have used := memory ▸ mirrors.used
    have unused : survivor.carried key = true → (limits.maybePrune now fails limiter).loaded key = false ∧
        (limits.maybePrune now fails limiter).memory key = none ∧
        (survivor.entries key).map LoginLimitEntry.rounded = survivor.entries key := by
      rw [loaded, memory]
      exact fun carried => ⟨rfl, (mirrors.unused carried).2⟩
    have rows : (limits.maybePrune now fails limiter).store.find? key = limiter.store.find? key ∨
        (limits.maybePrune now fails limiter).store.find? key = none ∧
          survivor.touchedAt key + 2 * limits.cooldown < now := by
      rw [store]
      cases found : limiter.store.find? key with
      | none => exact .inl (find?_pruneLoginRateLimits_none found)
      | some row =>
          obtain ⟨updatedAt, text, years, touched⟩ := mirrors.touched row found
          rcases @find?_pruneLoginRateLimits _ (now + limits.pruneAge) _ _ found with kept | ⟨gone, old⟩
          · exact .inl kept
          · have before := before_cutoff years storable short (text ▸ old)
            exact .inr ⟨gone, by omega⟩
    rcases rows with kept | ⟨gone, old⟩
    · refine ⟨mirrors.entries, kept ▸ mirrors.touched, ?_, used, unused⟩
      rw [storedEntry, kept]
      exact mirrors.row
    · refine ⟨mirrors.entries, fun row found => ?_, .inr ⟨?_, old⟩, used, unused⟩
      · cases gone.symm.trans found
      · rw [storedEntry, gone]
        rfl

end MirrorsKey

/-! ### Reading rows -/

theorem Proper.storedEntry (proper : Proper clock limiter) {entry : LoginLimitEntry}
    (stored : storedEntry key limiter.store = some entry) : ProperEntry clock entry := by
  obtain ⟨row, found, rfl⟩ := Option.map_eq_some_iff.mp stored
  exact (proper.stored key row found).entry

/-- Reading a row into an empty memory gives what the row says. -/
theorem live_seeded_none {stored : Option LoginLimitEntry}
    (proper : ∀ entry, stored = some entry → ProperEntry clock entry) :
    limits.live now (limits.seeded now stored none) = limits.live now stored := by
  cases stored with
  | none => rfl
  | some entry =>
      have positive := (proper entry rfl).failures
      have lower := (proper entry rfl).lower
      have merged : LoginLimitEntry.zero.merge entry = entry := by
        simp [LoginLimitEntry.merge, LoginLimitEntry.zero, Int.max_eq_right (Int.le_of_lt positive),
          Int.max_eq_right lower]
      simp only [LoginLimits.seeded, Int.not_le.mpr positive, false_or, Option.getD_none, merged]
      split
      · rename_i ended
        simp [LoginLimits.live, ended]
      · rfl

/-- Reading the row of an entry that memory already has changes nothing. -/
theorem live_seeded {stored memory entry : Option LoginLimitEntry} {touchedAt : Int}
    (same : limits.live now memory = limits.live now entry)
    (row : RowMatches limits now stored (entry.map LoginLimitEntry.rounded) touchedAt) :
    limits.live now (limits.seeded now stored memory) = limits.live now memory := by
  cases stored with
  | none => rfl
  | some stored =>
      simp only [LoginLimits.seeded]
      split
      · rfl
      · rename_i kept
        rw [not_or] at kept
        have alive : limits.live now (some stored) = some stored := if_neg kept.2
        have expected : limits.live now (entry.map LoginLimitEntry.rounded) = some stored := by
          rcases row with matches_ | ⟨absent, -⟩
          · rw [← matches_, alive]
          · cases absent
        obtain ⟨original, present, rounded⟩ := Option.map_eq_some_iff.mp (LoginLimits.eq_of_live_eq_some expected)
        have standing : limits.live now (some original) = some original := by
          refine if_neg fun ended => kept.2 ?_
          have earlier := wholeSecond_le original.blockedAt
          rw [← rounded]
          exact ⟨ended.1, by simp only [LoginLimitEntry.rounded]; omega⟩
        rw [present, standing] at same
        have remembered : memory = some original := LoginLimits.eq_of_live_eq_some same
        have merged : original.merge stored = original := by
          rw [← rounded]
          simp [LoginLimitEntry.merge, LoginLimitEntry.rounded, wholeSecond_le]
        rw [remembered, Option.getD_some, merged]

namespace SurvivingLimiter

/-- What is recalled of the keys an attempt names: nothing of a key whose row is gone. -/
def remember (limits : LoginLimits) (now : Int) (keys : List String) (store : LoginRateLimits)
    (survivor : SurvivingLimiter) : LoginLimitEntries :=
  fun key =>
    if key ∈ keys ∧ survivor.carried key = true ∧ storedEntry key store = none ∧
        survivor.touchedAt key + 2 * limits.cooldown < now then none
    else survivor.entries key

/-- The survivor once some keys were named and their entries recalled. -/
def named (keys : List String) (recalled : LoginLimitEntries) (survivor : SurvivingLimiter) : SurvivingLimiter where
  entries := recalled
  touchedAt := survivor.touchedAt
  carried key := survivor.carried key && key ∉ keys

end SurvivingLimiter

namespace MirrorsKey

/-- A key that is named for the first time since a restart, with what its row says. -/
theorem live_recalled (mirrors : MirrorsKey limits now limiter survivor key) (proper : Proper now limiter)
    (member : key ∈ keys) (carried : survivor.carried key = true) :
    limits.live now (limits.seeded now (storedEntry key limiter.store) (limiter.memory key)) =
        limits.live now (survivor.remember limits now keys limiter.store key) ∧
      RowMatches limits now (storedEntry key limiter.store)
        ((survivor.remember limits now keys limiter.store key).map LoginLimitEntry.rounded) (survivor.touchedAt key) := by
  obtain ⟨-, unknown, fixed⟩ := mirrors.unused carried
  have row := mirrors.row
  rw [fixed] at row
  rw [unknown, live_seeded_none fun entry stored => proper.storedEntry stored]
  by_cases gone : storedEntry key limiter.store = none ∧ survivor.touchedAt key + 2 * limits.cooldown < now
  · have forgotten : survivor.remember limits now keys limiter.store key = none := if_pos ⟨member, carried, gone⟩
    rw [forgotten, gone.1]
    exact ⟨rfl, .inl rfl⟩
  · have kept : survivor.remember limits now keys limiter.store key = survivor.entries key :=
      if_neg fun forgets => gone forgets.2.2
    rw [kept, fixed]
    exact ⟨row.resolve_right gone, row⟩

theorem load (mirrors : MirrorsKey limits now limiter survivor key) (proper : Proper now limiter)
    (readable : key ∈ keys → fails key = false) :
    MirrorsKey limits now (limits.load now fails keys limiter)
      (survivor.named keys (survivor.remember limits now keys limiter.store)) key := by
  have store := limits.load_store now fails keys limiter
  have entries : ∀ entry, survivor.remember limits now keys limiter.store key = some entry → ProperEntry now entry := by
    intro entry recalled
    rw [SurvivingLimiter.remember] at recalled
    split at recalled
    · cases recalled
    · exact mirrors.entries entry recalled
  by_cases member : key ∈ keys
  · have memory : (limits.load now fails keys limiter).memory key = _ := limits.load_memory (readable member) now limiter
    have recalled : limits.live now ((limits.load now fails keys limiter).memory key) =
          limits.live now (survivor.remember limits now keys limiter.store key) ∧
        RowMatches limits now (storedEntry key limiter.store)
          ((survivor.remember limits now keys limiter.store key).map LoginLimitEntry.rounded)
          (survivor.touchedAt key) := by
      cases carried : survivor.carried key with
      | true =>
          rw [memory, if_pos ⟨member, (mirrors.unused carried).1⟩]
          exact mirrors.live_recalled proper member carried
      | false =>
          have kept : survivor.remember limits now keys limiter.store key = survivor.entries key :=
            if_neg fun forgets => Bool.false_ne_true (carried.symm.trans forgets.2.1)
          rw [kept, memory, ← mirrors.used carried]
          refine ⟨?_, mirrors.row⟩
          split
          · exact live_seeded (mirrors.used carried) mirrors.row
          · rfl
    refine ⟨entries, store ▸ mirrors.touched, store ▸ recalled.2, fun _ => recalled.1, fun carried => ?_⟩
    simp [SurvivingLimiter.named, member] at carried
  · obtain ⟨memory, loaded⟩ := @LoginLimits.load_of_notMem limits key keys fails member now limiter
    have kept : survivor.remember limits now keys limiter.store key = survivor.entries key :=
      if_neg fun forgets => member forgets.1
    have carried : (survivor.named keys (survivor.remember limits now keys limiter.store)).carried key =
        survivor.carried key := by
      simp [SurvivingLimiter.named, member]
    refine ⟨entries, store ▸ mirrors.touched, ?_, ?_, ?_⟩
    · simp only [SurvivingLimiter.named, kept, store]
      exact mirrors.row
    · rw [carried, memory]
      simp only [SurvivingLimiter.named, kept]
      exact mirrors.used
    · rw [carried, memory, loaded]
      simp only [SurvivingLimiter.named, kept]
      exact mirrors.unused

/-- Both drop the blocks that are over. -/
theorem allow (mirrors : MirrorsKey limits now limiter survivor key) (used : key ∈ keys → survivor.carried key = false) :
    MirrorsKey limits now { limiter with memory := (limits.allow now keys limiter.memory).2 }
      { survivor with entries := (limits.allow now keys survivor.entries).2 } key where
  entries := fun entry after => mirrors.entries entry (LoginLimits.eq_of_allow_eq_some after)
  touched := mirrors.touched
  row := by
    have live := @LoginLimits.live_allow limits now keys survivor.entries key
    have rounded : limits.live now (((limits.allow now keys survivor.entries).2 key).map LoginLimitEntry.rounded) =
        limits.live now ((survivor.entries key).map LoginLimitEntry.rounded) := by
      rw [← live_rounded, live, live_rounded]
    have row := mirrors.row
    rw [RowMatches, ← rounded] at row
    exact row
  used := by
    intro carried
    dsimp only
    rw [LoginLimits.live_allow, LoginLimits.live_allow]
    exact mirrors.used carried
  unused := by
    intro carried
    have absent : key ∉ keys := fun member => Bool.false_ne_true ((used member).symm.trans carried)
    dsimp only
    rw [LoginLimits.allow_of_notMem absent, LoginLimits.allow_of_notMem absent]
    exact mirrors.unused carried

/-- Only what the two say of the key matters. -/
theorem congr {limiter' : PersistentLoginLimiter} {survivor' : SurvivingLimiter}
    (mirrors : MirrorsKey limits clock limiter survivor key) (memory : limiter'.memory key = limiter.memory key)
    (loaded : limiter'.loaded key = limiter.loaded key)
    (row : limiter'.store.find? key = limiter.store.find? key)
    (entries : survivor'.entries key = survivor.entries key)
    (touched : survivor'.touchedAt key = survivor.touchedAt key)
    (carried : survivor'.carried key = survivor.carried key) :
    MirrorsKey limits clock limiter' survivor' key where
  entries := entries ▸ mirrors.entries
  touched := row ▸ touched ▸ mirrors.touched
  row := by
    rw [storedEntry, row, entries, touched]
    exact mirrors.row
  used := by
    rw [carried, memory, entries]
    exact mirrors.used
  unused := by
    rw [carried, memory, loaded, entries]
    exact mirrors.unused

/-- Of the keys a call names without failing, memory and row follow the survivor. -/
theorem recordFailure {reloadedAt recordedAt persistedAt : Int} {faults : StoreFaults}
    (mirrors : MirrorsKey limits recordedAt limiter survivor key) (ordered : recordedAt ≤ persistedAt)
    (recordable : Storable limits recordedAt) (storable : Storable limits persistedAt)
    (healthy : key ∈ keys → faults.read key = false ∧ faults.write key = false)
    (named : key ∈ keys → limiter.loaded key = true ∧ limiter.memory key = survivor.entries key ∧
      survivor.carried key = false) :
    MirrorsKey limits persistedAt (limiter.recordFailure limits keys reloadedAt recordedAt persistedAt faults).2
      { survivor with
        entries := (limits.recordFailure recordedAt keys survivor.entries).2
        touchedAt := fun key => if key ∈ keys then recordedAt else survivor.touchedAt key } key := by
  have store := limits.load_store reloadedAt faults.read keys limiter
  obtain ⟨memory, loaded⟩ := persist_memory persistedAt faults.write keys
    { limits.load reloadedAt faults.read keys limiter with
      memory := (limits.recordFailure recordedAt keys (limits.load reloadedAt faults.read keys limiter).memory).2 }
  by_cases member : key ∈ keys
  · obtain ⟨isLoaded, same, used⟩ := named member
    obtain ⟨readable, writable⟩ := healthy member
    have reloaded : (limits.load reloadedAt faults.read keys limiter).memory key = survivor.entries key := by
      rw [limits.load_memory readable, if_neg (fun unread => by simp [isLoaded] at unread), same]
    have stillLoaded := limits.loaded_load member readable reloadedAt limiter
    let entry := limits.failed recordedAt (keys.count key) ((survivor.entries key).getD .zero)
    have proper : ProperEntry recordedAt entry := by
      refine Proper.failed (List.count_pos_iff.mpr member) ?_ recordable.positive
      cases present : survivor.entries key with
      | none => exact .inl rfl
      | some old => exact .inr (mirrors.entries old present)
    have recorded : (limits.recordFailure recordedAt keys survivor.entries).2 key = some entry :=
      LoginLimits.recordFailure_of_mem member _
    have remembered : (limiter.recordFailure limits keys reloadedAt recordedAt persistedAt faults).2.memory key =
        some entry := by
      rw [PersistentLoginLimiter.recordFailure, memory]
      dsimp only
      rw [LoginLimits.recordFailure_of_mem member, reloaded]
    have row : (limiter.recordFailure limits keys reloadedAt recordedAt persistedAt faults).2.store.find? key =
        some ⟨key, entry.failures, formatLoginRateLimitTime entry.blockedAt, formatLoginRateLimitTime persistedAt⟩ := by
      rw [PersistentLoginLimiter.recordFailure, find?_persist writable, if_pos member]
      simp only [mirroredRow, LoginLimits.recordFailure_of_mem member, reloaded, stillLoaded, if_true]
      rfl
    obtain ⟨back, properRow⟩ := (proper.later ordered).row storable key
    refine ⟨fun found after => ?_, fun found after => ?_, .inl ?_, fun _ => ?_, fun carried => ?_⟩
    · cases recorded.symm.trans after
      exact proper.later ordered
    · cases row.symm.trans after
      refine ⟨persistedAt, formatLoginRateLimitTime_of_pos storable.positive, storable.inYears, ?_⟩
      simp only [member, if_true]
      exact ordered
    · dsimp only
      rw [storedEntry, row, recorded, Option.map_some, Option.map_some, back]
      rfl
    · rw [remembered]
      exact congrArg _ recorded.symm
    · cases used.symm.trans carried
  · obtain ⟨unread, unloaded⟩ := @LoginLimits.load_of_notMem limits key keys faults.read member reloadedAt limiter
    have row : (limiter.recordFailure limits keys reloadedAt recordedAt persistedAt faults).2.store.find? key =
        limiter.store.find? key := by
      rw [PersistentLoginLimiter.recordFailure, find?_persist_of_notMem member, ← store]
    refine (mirrors.later ordered).congr ?_ ?_ row (LoginLimits.recordFailure_of_notMem member _) ?_ rfl
    · rw [PersistentLoginLimiter.recordFailure, memory]
      dsimp only
      rw [LoginLimits.recordFailure_of_notMem member, unread]
    · rw [PersistentLoginLimiter.recordFailure, loaded]
      exact unloaded
    · simp [member]

theorem reset {persistedAt : Int} {faults : StoreFaults} (mirrors : MirrorsKey limits persistedAt limiter survivor key)
    (writable : key ∈ keys → faults.write key = false) (used : key ∈ keys → survivor.carried key = false) :
    MirrorsKey limits persistedAt (limiter.reset keys persistedAt faults)
      { survivor with entries := resetEntries keys survivor.entries } key := by
  obtain ⟨memory, loaded⟩ := persist_memory persistedAt faults.write keys
    { limiter with memory := resetEntries keys limiter.memory }
  by_cases member : key ∈ keys
  · have forgotten : resetEntries keys limiter.memory key = none := by
      rw [resetEntries_eq, if_pos member]
    have dropped : resetEntries keys survivor.entries key = none := by
      rw [resetEntries_eq, if_pos member]
    have absent : (limiter.reset keys persistedAt faults).store.find? key = none := by
      rw [PersistentLoginLimiter.reset, find?_persist (writable member), if_pos member]
      simp only [mirroredRow, forgotten]
    refine ⟨fun entry found => ?_, fun row found => ?_, .inl ?_, fun _ => ?_, fun carried => ?_⟩
    · cases dropped.symm.trans found
    · cases absent.symm.trans found
    · simp only [storedEntry, absent, dropped, Option.map_none]
    · rw [PersistentLoginLimiter.reset, memory]
      dsimp only
      rw [forgotten, dropped]
    · cases (used member).symm.trans carried
  · have kept : resetEntries keys limiter.memory key = limiter.memory key := by
      rw [resetEntries_eq, if_neg member]
    have survives : resetEntries keys survivor.entries key = survivor.entries key := by
      rw [resetEntries_eq, if_neg member]
    have row : (limiter.reset keys persistedAt faults).store.find? key = limiter.store.find? key :=
      find?_persist_of_notMem member persistedAt _
    refine mirrors.congr ?_ ?_ row survives rfl rfl
    · rw [PersistentLoginLimiter.reset, memory]
      exact kept
    · rw [PersistentLoginLimiter.reset, loaded]

end MirrorsKey

/-! ### Attempts and runs -/

/-- What both say after an attempt, with the same verdict. -/
structure Mirrors (limits : LoginLimits) (clock : Int) (limiter : PersistentLoginLimiter)
    (survivor : SurvivingLimiter) : Prop where
  proper : Proper clock limiter
  keys : ∀ key, MirrorsKey limits clock limiter survivor key

variable (limits) in
/-- An attempt whose calls read the clock after a time, and never backwards. -/
structure AttemptTimely (clock : Int) (attempt : PersistentAttempt) : Prop where
  ordered : (clock :: attempt.readings).Pairwise (· ≤ ·)
  storable : ∀ reading ∈ attempt.readings, Storable limits reading
  healthy : attempt.Healthy

theorem Mirrors.restart (mirrors : Mirrors limits clock limiter survivor) :
    Mirrors limits clock limiter.restart survivor.restart where
  proper := mirrors.proper.restart
  keys := fun key => (mirrors.keys key).restart

namespace SurvivingLimiter

theorem attempt_refused {attempt : LoginAttempt} {recalled : LoginLimitEntries}
    (refused : (limits.allow attempt.checkedAt attempt.keys recalled).1 = false) :
    survivor.attempt limits attempt recalled = (.rateLimited, { survivor.named attempt.keys recalled with
      entries := (limits.allow attempt.checkedAt attempt.keys recalled).2 }) := by
  simp [SurvivingLimiter.attempt, LoginLimiter.attempt, LoginLimiter.allow, refused, named]

theorem attempt_failure {attempt : LoginAttempt} {recalled : LoginLimitEntries}
    (allowed : (limits.allow attempt.checkedAt attempt.keys recalled).1 = true) (wrong : attempt.correct = false) :
    survivor.attempt limits attempt recalled = (.failure, { survivor.named attempt.keys recalled with
      entries := (limits.recordFailure attempt.recordedAt attempt.keys
        (limits.allow attempt.checkedAt attempt.keys recalled).2).2
      touchedAt := fun key => if key ∈ attempt.keys then attempt.recordedAt else survivor.touchedAt key }) := by
  simp [SurvivingLimiter.attempt, LoginLimiter.attempt, LoginLimiter.allow, LoginLimiter.recordFailure, allowed, wrong,
    named]

theorem attempt_success {attempt : LoginAttempt} {recalled : LoginLimitEntries}
    (allowed : (limits.allow attempt.checkedAt attempt.keys recalled).1 = true) (right : attempt.correct = true) :
    survivor.attempt limits attempt recalled = (.success, { survivor.named attempt.keys recalled with
      entries := resetEntries attempt.keys (limits.allow attempt.checkedAt attempt.keys recalled).2 }) := by
  simp [SurvivingLimiter.attempt, LoginLimiter.attempt, LoginLimiter.allow, LoginLimiter.reset, allowed, right, named]

theorem recalls_recall (attempt : LoginAttempt) (store : LoginRateLimits) {loadedAt : Int}
    (ordered : loadedAt ≤ attempt.checkedAt) :
    survivor.Recalls limits attempt (survivor.remember limits loadedAt attempt.keys store) := by
  intro key
  unfold remember
  split
  · rename_i forgets
    exact .inr ⟨rfl, forgets.1, forgets.2.1, by omega⟩
  · exact .inl rfl

end SurvivingLimiter

theorem Mirrors.attempt {attempt : PersistentAttempt} (mirrors : Mirrors limits clock limiter survivor)
    (short : 2 * limits.cooldown < 2 ^ 63) (timely : AttemptTimely limits clock attempt) :
    ∃ recalled, survivor.Recalls limits attempt.toLoginAttempt recalled ∧
      (limiter.attempt limits attempt).1 = (survivor.attempt limits attempt.toLoginAttempt recalled).1 ∧
      Mirrors limits attempt.persistedAt (limiter.attempt limits attempt).2
        (survivor.attempt limits attempt.toLoginAttempt recalled).2 := by
  obtain ⟨ordered, storable, healthy⟩ := timely
  simp only [PersistentAttempt.readings, List.mem_cons, List.not_mem_nil, or_false, forall_eq_or_imp, forall_eq,
    List.pairwise_cons] at ordered storable
  -- both sides up to the answer of `allow`
  let pruned := limits.maybePrune attempt.prunedAt attempt.faults.prune limiter
  let loaded := limits.load attempt.loadedAt attempt.faults.read attempt.keys pruned
  let recalled := survivor.remember limits attempt.loadedAt attempt.keys pruned.store
  have prunedProper : Proper attempt.loadedAt pruned :=
    (mirrors.proper.maybePrune attempt.prunedAt attempt.faults.prune).later (by omega)
  have named : ∀ key, MirrorsKey limits attempt.checkedAt loaded (survivor.named attempt.keys recalled) key := by
    intro key
    have prunedKey := (((mirrors.keys key).later ordered.1.1).maybePrune storable.1 short attempt.faults.prune)
    exact ((prunedKey.later ordered.2.1.1).load prunedProper fun member => (healthy key member).1).later (by omega)
  have used : ∀ key ∈ attempt.keys, (survivor.named attempt.keys recalled).carried key = false := by
    intro key member
    simp [SurvivingLimiter.named, member]
  have answers : (limits.allow attempt.checkedAt attempt.keys loaded.memory).1 =
      (limits.allow attempt.checkedAt attempt.keys recalled).1 := by
    rw [LoginLimits.allow_fst, LoginLimits.allow_fst, Bool.eq_iff_iff, List.all_eq_true, List.all_eq_true]
    refine forall₂_congr fun key member => ?_
    rw [← LoginLimits.blocks_live, (named key).used (used key member), LoginLimits.blocks_live]
    rfl
  let allowed := limiter.allow limits attempt.keys attempt.prunedAt attempt.loadedAt attempt.checkedAt attempt.faults
  let admitted : SurvivingLimiter := { survivor.named attempt.keys recalled with
    entries := (limits.allow attempt.checkedAt attempt.keys recalled).2 }
  have both : ∀ key, MirrorsKey limits attempt.checkedAt allowed.2 admitted key :=
    fun key => (named key).allow (used key)
  have allowTimely : Timely limits clock (.allow attempt.keys attempt.prunedAt attempt.loadedAt attempt.checkedAt
      attempt.faults) := by
    refine ⟨?_, ?_⟩
    · simp only [LoginCall.readings, List.pairwise_cons, List.mem_cons, List.not_mem_nil, or_false, forall_eq_or_imp,
        forall_eq, false_imp_iff, implies_true, List.Pairwise.nil, and_true]
      omega
    · simpa [LoginCall.readings] using ⟨storable.1, storable.2.1, storable.2.2.1⟩
  have allowedProper : Proper attempt.checkedAt allowed.2 := mirrors.proper.call allowTimely
  refine ⟨recalled, SurvivingLimiter.recalls_recall _ _ (by omega), ?_⟩
  cases answer : (limits.allow attempt.checkedAt attempt.keys recalled).1 with
  | false =>
      have refused : limiter.attempt limits attempt = (.rateLimited, allowed.2) := by
        have said : allowed.1 = false := answers.trans answer
        simp only [PersistentLoginLimiter.attempt, allowed] at said ⊢
        simp [said]
      rw [refused, SurvivingLimiter.attempt_refused answer]
      exact ⟨rfl, allowedProper.later (by omega), fun key => (both key).later (by omega)⟩
  | true =>
      have said : allowed.1 = true := answers.trans answer
      have settled : ∀ key ∈ attempt.keys, allowed.2.loaded key = true ∧
          allowed.2.memory key = admitted.entries key ∧ admitted.carried key = false := by
        intro key member
        refine ⟨LoginLimits.loaded_load member (healthy key member).1 _ _, ?_, used key member⟩
        have left := LoginLimits.allow_of_mem (answers.trans answer) member
        have right := LoginLimits.allow_of_mem answer member
        exact left.trans (((named key).used (used key member)).trans right.symm)
      cases right : attempt.correct with
      | false =>
          have failure : limiter.attempt limits attempt = (.failure,
              (allowed.2.recordFailure limits attempt.keys attempt.reloadedAt attempt.recordedAt attempt.persistedAt
                attempt.faults).2) := by
            simp only [PersistentLoginLimiter.attempt, allowed] at said ⊢
            simp [said, right]
          rw [failure, SurvivingLimiter.attempt_failure answer right]
          have recordTimely : Timely limits attempt.checkedAt (.recordFailure attempt.keys attempt.reloadedAt
              attempt.recordedAt attempt.persistedAt attempt.faults) := by
            refine ⟨?_, by simpa [LoginCall.readings] using storable.2.2.2⟩
            simp only [LoginCall.readings, List.pairwise_cons, List.mem_cons, List.not_mem_nil, or_false,
              forall_eq_or_imp, forall_eq, false_imp_iff, implies_true, List.Pairwise.nil, and_true]
            omega
          refine ⟨rfl, ?_, fun key => ?_⟩
          · exact allowedProper.call recordTimely
          · exact ((both key).later (by omega)).recordFailure (by omega) storable.2.2.2.2.1 storable.2.2.2.2.2
              (healthy key) (settled key)
      | true =>
          have success : limiter.attempt limits attempt =
              (.success, allowed.2.reset attempt.keys attempt.persistedAt attempt.faults) := by
            simp only [PersistentLoginLimiter.attempt, allowed] at said ⊢
            simp [said, right]
          rw [success, SurvivingLimiter.attempt_success answer right]
          have resetTimely : Timely limits attempt.checkedAt (.reset attempt.keys attempt.persistedAt attempt.faults) := by
            refine ⟨?_, by simpa [LoginCall.readings] using storable.2.2.2.2.2⟩
            simp only [LoginCall.readings, List.pairwise_cons, List.mem_singleton, forall_eq]
            refine ⟨by omega, ?_, List.Pairwise.nil⟩
            intro later member
            cases member
          refine ⟨rfl, ?_, fun key => ?_⟩
          · exact allowedProper.call resetTimely
          · exact ((both key).later (by omega)).reset (fun member => (healthy key member).2) fun member => used key member

variable (limits) in
/-- Attempts and restarts in the order of their readings. -/
inductive Happened : Int → List LoginEvent → Prop where
  | done {clock : Int} : Happened clock []
  | restart {clock : Int} {events : List LoginEvent} (rest : Happened clock events) : Happened clock (.restart :: events)
  | attempt {clock : Int} {attempt : PersistentAttempt} {events : List LoginEvent}
      (timely : AttemptTimely limits clock attempt) (rest : Happened attempt.persistedAt events) :
      Happened clock (.attempt attempt :: events)

theorem Mirrors.survives {events : List LoginEvent} (mirrors : Mirrors limits clock limiter survivor)
    (short : 2 * limits.cooldown < 2 ^ 63) (happened : Happened limits clock events) :
    Survives limits survivor events (limiter.events limits events).1 := by
  induction happened generalizing limiter survivor with
  | done => exact .done
  | restart _ ih => exact .restart (ih mirrors.restart)
  | attempt timely _ ih =>
      obtain ⟨recalled, recalls, same, after⟩ := mirrors.attempt short timely
      have survives := Survives.attempt recalls (ih after)
      rw [← same] at survives
      exact survives

theorem Mirrors.fresh (clock : Int) : Mirrors limits clock (newPersistentLoginLimiter .empty) .fresh where
  proper := .fresh clock
  keys := fun _ => ⟨nofun, nofun, .inl rfl, fun _ => rfl, nofun⟩

end MiGate.Web
