import MiGate.Login.Entries
import MiGate.Web.RateLimitPersistent

namespace MiGate.Web

open Db Go Relational

/-! What the calls of the persistent limiter do to the memory and the row of one key. -/

variable {limits : LoginLimits} {now : Int} {key other : String} {keys : List String} {fails : String → Bool}
  {limiter : PersistentLoginLimiter}

/-- The entry a stored row is read back as. -/
def rowEntry (row : LoginRateLimitRow) : LoginLimitEntry where
  failures := row.failures
  blockedAt := parseLoginRateLimitTime row.blockedAt

/-- What the store says of a key. -/
def storedEntry (key : String) (store : LoginRateLimits) : Option LoginLimitEntry :=
  (store.find? key).map rowEntry

theorem storedEntry_eq (key : String) (store : LoginRateLimits) :
    storedEntry key store = (getLoginRateLimit key store).map fun rec => ⟨rec.failures, rec.blockedAt⟩ := by
  simp only [storedEntry, getLoginRateLimit, Option.map_map]
  rfl

theorem find?_saveLoginRateLimit (rec : LoginRateLimit) (store : LoginRateLimits) (wanted : String) :
    (saveLoginRateLimit rec store).find? wanted =
      if rec.key = wanted then
        some ⟨rec.key, rec.failures, formatLoginRateLimitTime rec.blockedAt, formatLoginRateLimitTime rec.updatedAt⟩
      else store.find? wanted :=
  Table.find?_upsert store _ wanted

theorem find?_deleteLoginRateLimit (key : String) (store : LoginRateLimits) (wanted : String) :
    (deleteLoginRateLimit key store).find? wanted = if key = wanted then none else store.find? wanted := by
  rw [deleteLoginRateLimit, Table.find?_deleteWhere]
  cases found : store.find? wanted with
  | none => simp
  | some row =>
      have named : row.key = wanted := Table.key_of_find? found
      by_cases same : key = wanted
      · simp [Option.filter, named, same]
      · simp [Option.filter, named, same, Ne.symm same]

/-! ### Seeding -/

/-- The greater count and the later block. -/
def LoginLimitEntry.merge (entry stored : LoginLimitEntry) : LoginLimitEntry where
  failures := max entry.failures stored.failures
  blockedAt := max entry.blockedAt stored.blockedAt

variable (limits) in
/-- The entry a key has after its row was read. -/
def LoginLimits.seeded (now : Int) (stored entry : Option LoginLimitEntry) : Option LoginLimitEntry :=
  match stored with
  | none => entry
  | some stored =>
      if stored.failures ≤ 0 ∨ limits.full stored ∧ stored.blockedAt + limits.cooldown ≤ now then entry
      else some ((entry.getD .zero).merge stored)

theorem LoginLimits.seed_eq (now : Int) (key : String) (stored : LoginLimitEntry) (entries : LoginLimitEntries) :
    limits.seed now key stored entries =
      Function.update entries key (limits.seeded now (some stored) (entries key)) := by
  have elapsed : limits.cooldown ≤ sub now stored.blockedAt ↔ stored.blockedAt + limits.cooldown ≤ now := by
    rw [← Int.not_lt, sub_lt_iff limits.cooldown_pos limits.cooldown_lt, Int.not_lt]
  have same : Function.update entries key (entries key) = entries := Function.update_eq_self key entries
  simp only [seed, seeded, elapsed, full, decide_eq_true_eq]
  split
  · exact same.symm
  · simp only [LoginLimitEntry.merge, Int.max_def]
    congr 3
    · split <;> split <;> omega
    · split <;> split <;> omega

namespace LoginLimits

theorem loadKey_eq (unloaded : limiter.loaded key = false) (now : Int) :
    limits.loadKey now false key limiter =
      { limiter with
        memory := Function.update limiter.memory key
          (limits.seeded now (storedEntry key limiter.store) (limiter.memory key))
        loaded := Function.update limiter.loaded key true } := by
  simp only [loadKey, unloaded, Bool.false_eq_true, if_false]
  rw [storedEntry_eq]
  cases found : getLoginRateLimit key limiter.store with
  | none => simp [seeded]
  | some rec => simp [seed_eq]

/-- A key is read from the store unless it was read before or the read fails. -/
theorem loadKey_cases (now : Int) (fails : Bool) (key : String) (limiter : PersistentLoginLimiter) :
    limits.loadKey now fails key limiter = limiter ∧ (limiter.loaded key = true ∨ fails = true) ∨
      limiter.loaded key = false ∧ fails = false ∧
        limits.loadKey now fails key limiter =
          { limiter with
            memory := Function.update limiter.memory key
              (limits.seeded now (storedEntry key limiter.store) (limiter.memory key))
            loaded := Function.update limiter.loaded key true } := by
  cases loaded : limiter.loaded key with
  | true => exact .inl ⟨if_pos loaded, .inl rfl⟩
  | false =>
      cases fails with
      | true => exact .inl ⟨by simp [loadKey, loaded], .inr rfl⟩
      | false => exact .inr ⟨rfl, rfl, loadKey_eq loaded now⟩

/-- What reading each key preserves, reading them one after the other does. -/
theorem load_preserves {P : PersistentLoginLimiter → Prop}
    (step : ∀ key ∈ keys, ∀ limiter, P limiter → P (limits.loadKey now (fails key) key limiter))
    (holds : P limiter) : P (limits.load now fails keys limiter) := by
  induction keys generalizing limiter with
  | nil => exact holds
  | cons key keys ih =>
      refine ih (fun other member => step other (List.mem_cons_of_mem key member)) ?_
      exact step key List.mem_cons_self limiter holds

theorem load_store (now : Int) (fails : String → Bool) (keys : List String) (limiter : PersistentLoginLimiter) :
    (limits.load now fails keys limiter).store = limiter.store := by
  refine load_preserves (P := fun after => after.store = limiter.store) (fun key _ before same => ?_) rfl
  rcases loadKey_cases now (fails key) key before with ⟨skipped, -⟩ | ⟨-, -, read⟩
  · rw [skipped, same]
  · rw [read]
    exact same

/-- A call leaves the keys it does not name alone. -/
theorem load_of_notMem (absent : key ∉ keys) (now : Int) (limiter : PersistentLoginLimiter) :
    (limits.load now fails keys limiter).memory key = limiter.memory key ∧
      (limits.load now fails keys limiter).loaded key = limiter.loaded key := by
  refine load_preserves (P := fun after => after.memory key = limiter.memory key ∧
    after.loaded key = limiter.loaded key) (fun first member before same => ?_) ⟨rfl, rfl⟩
  have apart : key ≠ first := fun equal => absent (equal ▸ member)
  rcases @loadKey_cases limits now (fails first) first before with ⟨skipped, -⟩ | ⟨-, -, read⟩
  · rw [skipped]
    exact same
  · rw [read]
    exact ⟨(Function.update_of_ne apart ..).trans same.1, (Function.update_of_ne apart ..).trans same.2⟩

/-- The entry of a key after a call read its keys, if no read of that key failed. -/
theorem load_memory (readable : fails key = false) (now : Int) (limiter : PersistentLoginLimiter) :
    (limits.load now fails keys limiter).memory key =
      if key ∈ keys ∧ limiter.loaded key = false then
        limits.seeded now (storedEntry key limiter.store) (limiter.memory key)
      else limiter.memory key := by
  induction keys generalizing limiter with
  | nil => simp [load]
  | cons first keys ih =>
      rw [load, ih]
      rcases @loadKey_cases limits now (fails first) first limiter with ⟨skipped, reason⟩ | ⟨unloaded, -, read⟩
      · rw [skipped]
        by_cases same : first = key
        · subst same
          have loaded : limiter.loaded first = true := by
            rcases reason with loaded | failing
            · exact loaded
            · cases readable.symm.trans failing
          simp [loaded]
        · simp [Ne.symm same]
      · rw [read]
        by_cases same : first = key
        · subst same
          simp [unloaded]
        · simp [Ne.symm same]

/-- A call that reads a key without failing has it loaded. -/
theorem loaded_load (member : key ∈ keys) (readable : fails key = false) (now : Int) (limiter : PersistentLoginLimiter) :
    (limits.load now fails keys limiter).loaded key = true := by
  have stays : ∀ (rest : List String) (before : PersistentLoginLimiter), before.loaded key = true →
      (limits.load now fails rest before).loaded key = true := by
    intro rest before loaded
    refine load_preserves (P := fun after => after.loaded key = true) (fun first _ before loaded => ?_) loaded
    rcases loadKey_cases now (fails first) first before with ⟨skipped, -⟩ | ⟨-, -, read⟩
    · rw [skipped, loaded]
    · rw [read]
      by_cases same : key = first
      · rw [same]
        exact Function.update_self ..
      · exact (Function.update_of_ne same ..).trans loaded
  induction keys generalizing limiter with
  | nil => cases member
  | cons first keys ih =>
      by_cases same : first = key
      · subst same
        refine stays keys _ ?_
        rcases loadKey_cases now (fails first) first limiter with ⟨skipped, loaded | failing⟩ | ⟨-, -, read⟩
        · rw [skipped, loaded]
        · cases readable.symm.trans failing
        · rw [read]
          exact Function.update_self ..
      · exact ih ((List.mem_cons.mp member).resolve_left (Ne.symm same)) _

end LoginLimits

theorem persist_preserves {P : PersistentLoginLimiter → Prop}
    (step : ∀ key ∈ keys, ∀ limiter, P limiter → P (persistKey now (fails key) key limiter))
    (holds : P limiter) : P (persist now fails keys limiter) := by
  induction keys generalizing limiter with
  | nil => exact holds
  | cons key keys ih =>
      refine ih (fun other member => step other (List.mem_cons_of_mem key member)) ?_
      exact step key List.mem_cons_self limiter holds

/-- Mirroring a key changes the store at most: its row is written, deleted or left alone. -/
theorem persistKey_cases (now : Int) (fails : Bool) (key : String) (limiter : PersistentLoginLimiter) :
    persistKey now fails key limiter = limiter ∧
        (fails = true ∨ ∃ entry, limiter.memory key = some entry ∧ limiter.loaded key = false) ∨
      limiter.memory key = none ∧ fails = false ∧
        persistKey now fails key limiter = { limiter with store := deleteLoginRateLimit key limiter.store } ∨
      ∃ entry, limiter.memory key = some entry ∧ limiter.loaded key = true ∧ fails = false ∧
        persistKey now fails key limiter = { limiter with
          store := saveLoginRateLimit
            { key, failures := entry.failures, blockedAt := entry.blockedAt, updatedAt := now } limiter.store } := by
  cases stored : limiter.memory key with
  | none =>
      cases fails with
      | true => exact .inl ⟨by simp [persistKey, stored], .inl rfl⟩
      | false => exact .inr (.inl ⟨rfl, rfl, by simp [persistKey, stored]⟩)
  | some entry =>
      cases loaded : limiter.loaded key with
      | false => exact .inl ⟨by simp [persistKey, stored, loaded], .inr ⟨entry, rfl, rfl⟩⟩
      | true =>
          cases fails with
          | true => exact .inl ⟨by simp [persistKey, stored, loaded], .inl rfl⟩
          | false => exact .inr (.inr ⟨entry, rfl, rfl, rfl, by simp [persistKey, stored, loaded]⟩)

theorem persistKey_memory (now : Int) (fails : Bool) (key : String) (limiter : PersistentLoginLimiter) :
    (persistKey now fails key limiter).memory = limiter.memory ∧
      (persistKey now fails key limiter).loaded = limiter.loaded := by
  rcases persistKey_cases now fails key limiter with ⟨skipped, -⟩ | ⟨-, -, deleted⟩ | ⟨entry, -, -, -, saved⟩
  · rw [skipped]
    exact ⟨rfl, rfl⟩
  · rw [deleted]
    exact ⟨rfl, rfl⟩
  · rw [saved]
    exact ⟨rfl, rfl⟩

theorem persist_memory (now : Int) (fails : String → Bool) (keys : List String) (limiter : PersistentLoginLimiter) :
    (persist now fails keys limiter).memory = limiter.memory ∧
      (persist now fails keys limiter).loaded = limiter.loaded := by
  refine persist_preserves (P := fun after => after.memory = limiter.memory ∧ after.loaded = limiter.loaded)
    (fun key _ before same => ?_) ⟨rfl, rfl⟩
  obtain ⟨memory, loaded⟩ := persistKey_memory now (fails key) key before
  exact ⟨memory.trans same.1, loaded.trans same.2⟩

/-- The row a key has after it was mirrored without failing. -/
def mirroredRow (now : Int) (key : String) (limiter : PersistentLoginLimiter) : Option LoginRateLimitRow :=
  match limiter.memory key with
  | none => none
  | some entry =>
      if limiter.loaded key then
        some ⟨key, entry.failures, formatLoginRateLimitTime entry.blockedAt, formatLoginRateLimitTime now⟩
      else limiter.store.find? key

theorem find?_persistKey_self (now : Int) (key : String) (limiter : PersistentLoginLimiter) :
    (persistKey now false key limiter).store.find? key = mirroredRow now key limiter := by
  rcases persistKey_cases now false key limiter with ⟨skipped, failing | ⟨entry, present, unloaded⟩⟩ |
    ⟨absent, -, deleted⟩ | ⟨entry, present, loaded, -, saved⟩
  · cases failing
  · rw [skipped]
    simp [mirroredRow, present, unloaded]
  · rw [deleted]
    simp [mirroredRow, absent, find?_deleteLoginRateLimit]
  · rw [saved]
    simp [mirroredRow, present, loaded, find?_saveLoginRateLimit]

theorem find?_persistKey_of_ne (apart : other ≠ key) (now : Int) (fails : Bool) (limiter : PersistentLoginLimiter) :
    (persistKey now fails other limiter).store.find? key = limiter.store.find? key := by
  rcases persistKey_cases now fails other limiter with ⟨skipped, -⟩ | ⟨-, -, deleted⟩ | ⟨entry, -, -, -, saved⟩
  · rw [skipped]
  · rw [deleted]
    simp [find?_deleteLoginRateLimit, apart]
  · rw [saved]
    simp [find?_saveLoginRateLimit, apart]

theorem find?_persist_of_notMem (absent : key ∉ keys) (now : Int) (limiter : PersistentLoginLimiter) :
    (persist now fails keys limiter).store.find? key = limiter.store.find? key := by
  refine persist_preserves (P := fun after => after.store.find? key = limiter.store.find? key)
    (fun first member before same => ?_) rfl
  have apart : first ≠ key := fun equal => absent (equal ▸ member)
  exact (find?_persistKey_of_ne apart now (fails first) before).trans same

/-- The row of a key after a call mirrored its keys, if no write of that key failed. -/
theorem find?_persist (writable : fails key = false) (now : Int) (limiter : PersistentLoginLimiter) :
    (persist now fails keys limiter).store.find? key =
      if key ∈ keys then mirroredRow now key limiter else limiter.store.find? key := by
  induction keys generalizing limiter with
  | nil => rfl
  | cons first keys ih =>
      obtain ⟨memory, loaded⟩ := persistKey_memory now (fails first) first limiter
      rw [persist, ih]
      by_cases same : first = key
      · subst same
        rw [writable] at memory loaded ⊢
        have again : mirroredRow now first (persistKey now false first limiter) = mirroredRow now first limiter := by
          rw [mirroredRow, memory, loaded, find?_persistKey_self, mirroredRow]
          cases limiter.memory first with
          | none => rfl
          | some entry => cases limiter.loaded first <;> rfl
        rw [again, find?_persistKey_self, ite_self, if_pos List.mem_cons_self]
      · have mirrored : mirroredRow now key (persistKey now (fails first) first limiter) = mirroredRow now key limiter := by
          rw [mirroredRow, memory, loaded, find?_persistKey_of_ne same, mirroredRow]
        rw [mirrored, find?_persistKey_of_ne same]
        simp [Ne.symm same]

variable (limits) in
/-- Pruning forgets what was read, and deletes the rows last updated before its cutoff. -/
theorem LoginLimits.maybePrune_cases (now : Int) (fails : Bool) (limiter : PersistentLoginLimiter) :
    (limits.maybePrune now fails limiter).memory = limiter.memory ∧
      ((limits.maybePrune now fails limiter).store = limiter.store ∧
          (limits.maybePrune now fails limiter).loaded = limiter.loaded ∨
        (limits.maybePrune now fails limiter).store = pruneLoginRateLimits (now + limits.pruneAge) limiter.store ∧
          (limits.maybePrune now fails limiter).loaded = fun _ => false) := by
  unfold maybePrune
  split
  · exact ⟨rfl, .inl ⟨rfl, rfl⟩⟩
  · split
    · exact ⟨rfl, .inl ⟨rfl, rfl⟩⟩
    · exact ⟨rfl, .inr ⟨rfl, rfl⟩⟩

/-- A row that a prune deletes was last updated before the cutoff. -/
theorem find?_pruneLoginRateLimits {cutoff : Int} {store : LoginRateLimits} {row : LoginRateLimitRow}
    (found : store.find? key = some row) :
    (pruneLoginRateLimits cutoff store).find? key = some row ∨
      (pruneLoginRateLimits cutoff store).find? key = none ∧ row.updatedAt < rfc3339 cutoff := by
  rw [pruneLoginRateLimits, Table.find?_deleteWhere, found]
  by_cases old : row.updatedAt < rfc3339 cutoff
  · exact .inr ⟨by simp [Option.filter, old], old⟩
  · exact .inl (by simp [Option.filter, old])

theorem find?_pruneLoginRateLimits_none {cutoff : Int} {store : LoginRateLimits} (absent : store.find? key = none) :
    (pruneLoginRateLimits cutoff store).find? key = none := by
  rw [pruneLoginRateLimits, Table.find?_deleteWhere, absent]
  rfl

end MiGate.Web
