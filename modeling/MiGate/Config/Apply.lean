import MiGate.Disk.Replace
import MiGate.Go.Strings

namespace MiGate.Config

open Go Fallible Attempt Disk

/-! What the applications of the two cores' configurations share: how a configuration is written down and
tested, and what is to hold of the file that is in use. -/

/-- The packages that write a configuration down, and the core's own test of a file. -/
structure CoreTools (κ : Type) where
  /-- `json.MarshalIndent`. -/
  marshalIndent : κ → Except String Content
  /-- `normalizedJSON`: what is read back from a text is written without spaces. -/
  normalizedJSON : Content → Except String Content
  hashBytes : Content → String
  /-- What the core says of a configuration: an error comes with what has been printed. -/
  accepts : Content → Except (String × String) Unit

variable {κ φ : Type}

/-- The hash that stands for a configuration, whatever its layout. -/
def CoreTools.hashOf (tools : CoreTools κ) (data : Content) : Except String String :=
  tools.hashBytes <$> tools.normalizedJSON data

/-- What is written down, and the hash of it. -/
def encodeConfig (tools : CoreTools κ) (config : κ) : Except String (Content × String) := do
  let data ← tools.marshalIndent config
  let hash ← tools.hashOf data
  pure (data, hash)

def commandDetail (failure : String × String) : String :=
  if trimSpace failure.1 = "" then failure.2 else trimSpace failure.1

/-- The core's test of the file at a path. -/
def testConfig (tools : CoreTools κ) (path : String) : Call (String × String) Unit :=
  step fun outcome files =>
    match outcome.fault, files path with
    | some reason, _ => (.error (outcome.output, reason), files)
    | none, some content => (tools.accepts content, files)
    | none, none => (.error ("open " ++ path ++ ": no such file or directory", "exit status 23"), files)

/-- `systemctl restart`. -/
def restartService : Call (String × String) Unit := do
  let _ ← command
  pure ()

/-! ### Steps -/

variable {accepts : Content → Except (String × String) Unit} {files : Files} {path live : String} {data : Content}

theorem testConfig_triple (tools : CoreTools κ) (present : files path = some data) :
    Triple (fun state => state = files) (testConfig tools path)
      (fun _ state => state = files ∧ tools.accepts data = .ok ()) fun _ state => state = files := by
  apply Triple.step
  · intro outcome state _ after given ran
    cases given
    split at ran
    · cases ran
    · rename_i held
      rw [present] at held
      cases held
      obtain ⟨accepted, rfl⟩ := Prod.mk.inj ran
      exact ⟨rfl, accepted⟩
    · cases ran
  · intro outcome state _ after given ran
    cases given
    split at ran
    · cases ran
      rfl
    · exact (Prod.mk.inj ran).2.symm
    · cases ran
      rfl

theorem restartService_triple (P : Files → Prop) : Triple P restartService (fun _ => P) fun _ => P :=
  command_triple.bind fun _ => (Triple.pure ()).weaken (fun _ => id) (fun _ _ => id) fun _ _ => id

/-- A path that is not one of the temporary files beside it. -/
def PlainPath (configPath before after : String) : Prop :=
  ∀ random, configPath ≠ tempPath (dirOf configPath) before after random

/-- A name that starts otherwise than those of the temporary files. -/
theorem PlainPath.of_head {dir name before after : String} (inside : dirOf (dir ++ "/" ++ name) = dir)
    (dirEnd : dir.toList.getLast? ≠ some '/') (given : before.toList ≠ [])
    (apart : name.toList.head? ≠ before.toList.head?) : PlainPath (dir ++ "/" ++ name) before after := by
  intro random same
  rw [inside, tempPath, joinPath, if_neg dirEnd, ← String.toList_inj] at same
  simp only [String.toList_append, List.append_assoc, List.append_cancel_left_eq] at same
  apply apart
  rw [same, List.head?_append]
  cases start : before.toList with
  | nil => exact absurd start given
  | cons rune rest => rfl

theorem encodeConfig_eq_ok {tools : CoreTools κ} {config : κ} {hash : String} :
    encodeConfig tools config = .ok (data, hash) ↔ tools.marshalIndent config = .ok data ∧ tools.hashOf data = .ok hash := by
  simp only [encodeConfig, bind_eq_ok, pure_eq_ok, Prod.mk.injEq]
  constructor
  · intro encoded
    obtain ⟨_, written, _, hashed, rfl, rfl⟩ := encoded
    exact ⟨written, hashed⟩
  · intro encoded
    exact ⟨data, encoded.1, hash, encoded.2, rfl, rfl⟩

/-! ### The file in use -/

/-- What a failure tells of the file at the live path. -/
structure Accounts (accepts : Content → Except (String × String) Unit) (data : Content) (live : String) (files : Files)
    (aftermath : Option (Aftermath φ)) (state : Files) : Prop where
  untouched : aftermath = none → Kept live files state
  replaced : ∀ happened, aftermath = some happened → accepts data = .ok () ∧ happened.Describes data live files state

theorem Accounts.of_kept {state : Files} (kept : Kept live files state) :
    Accounts accepts data live files (none : Option (Aftermath φ)) state where
  untouched _ := kept
  replaced := nofun

theorem Accounts.of_aftermath {state : Files} {happened : Aftermath φ} (accepted : accepts data = .ok ())
    (described : happened.Describes data live files state) : Accounts accepts data live files (some happened) state where
  untouched := nofun
  replaced _ same := by
    cases same
    exact ⟨accepted, described⟩

theorem Accounts.congr {aftermath : Option (Aftermath φ)} {state after : Files}
    (accounts : Accounts accepts data live files aftermath state) (same : Kept live state after) :
    Accounts accepts data live files aftermath after where
  untouched none := same.trans (accounts.untouched none)
  replaced happened given := by
    obtain ⟨accepted, described⟩ := accounts.replaced happened given
    refine ⟨accepted, ?_⟩
    cases happened with
    | unbacked failure => exact ⟨described.1, same.trans described.2⟩
    | unrestored failure reason => exact same.trans described
    | restored failure again => exact same.trans described

/-- What holds of the result of an application and the file at the live path. -/
structure AtomicOnDisk (tools : CoreTools κ) (generated : Except String κ) (live : String) (files : Files)
    (applied : Bool) (hash : String) (aftermath : Option (Aftermath φ)) (state : Files) : Prop where
  /-- What is said to be applied has been tested, is in use, and has the hash. -/
  inUse : applied = true → ∃ config data, generated = .ok config ∧ tools.marshalIndent config = .ok data ∧
    tools.accepts data = .ok () ∧ state live = some data ∧ tools.hashOf data = .ok hash
  /-- What is not applied leaves the previous file, unless that could not be renamed. -/
  refused : applied = false → ∀ previous, files live = some previous →
    (∀ failure reason, aftermath ≠ some (.unrestored failure reason)) → state live = some previous
  /-- What fails before the restart has changed nothing. -/
  unmoved : applied = false → aftermath = none → state live = files live
  /-- What does not pass the test is not applied, and has changed nothing. -/
  rejected : ∀ config data, generated = .ok config → tools.marshalIndent config = .ok data →
    (∀ accepted, tools.accepts data ≠ .ok accepted) → applied = false ∧ state live = files live

theorem AtomicOnDisk.of_unmoved {tools : CoreTools κ} {generated : Except String κ} {hash : String} {state : Files}
    (kept : Kept live files state) :
    AtomicOnDisk tools generated live files false hash (none : Option (Aftermath φ)) state where
  inUse := nofun
  refused _ _ present _ := kept.trans present
  unmoved _ _ := kept
  rejected _ _ _ _ _ := ⟨rfl, kept⟩

theorem AtomicOnDisk.of_accounts {tools : CoreTools κ} {generated : Except String κ} {config : κ} {hash : String}
    {aftermath : Option (Aftermath φ)} {state : Files} (built : generated = .ok config)
    (written : tools.marshalIndent config = .ok data) (accounts : Accounts tools.accepts data live files aftermath state) :
    AtomicOnDisk tools generated live files false hash aftermath state where
  inUse := nofun
  refused _ previous present renamed := by
    cases aftermath with
    | none => exact (accounts.untouched rfl).trans present
    | some happened =>
        have described := (accounts.replaced happened rfl).2
        cases happened with
        | unbacked failure =>
            have absent := present.symm.trans described.1
            cases absent
        | unrestored failure reason => exact absurd rfl (renamed failure reason)
        | restored failure again => exact Eq.trans described present
  unmoved _ none := accounts.untouched none
  rejected other text built' written' refuses := by
    rw [built] at built'
    cases built'
    rw [written] at written'
    cases written'
    refine ⟨rfl, ?_⟩
    cases aftermath with
    | none => exact accounts.untouched rfl
    | some happened => exact absurd (accounts.replaced happened rfl).1 (refuses ())

theorem AtomicOnDisk.of_inUse {tools : CoreTools κ} {generated : Except String κ} {config : κ} {hash : String}
    {state : Files} (built : generated = .ok config) (written : tools.marshalIndent config = .ok data)
    (accepted : tools.accepts data = .ok ()) (current : state live = some data) (hashed : tools.hashOf data = .ok hash) :
    AtomicOnDisk tools generated live files true hash (none : Option (Aftermath φ)) state where
  inUse _ := ⟨config, data, built, written, accepted, current, hashed⟩
  refused := nofun
  unmoved := nofun
  rejected other text built' written' refuses := by
    rw [built] at built'
    cases built'
    rw [written] at written'
    cases written'
    exact absurd accepted (refuses ())

end MiGate.Config
