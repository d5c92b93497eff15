import MiGate.Disk.Files

namespace Disk

open Fallible Attempt

/-! A file is replaced by one written beside it; a copy of the old one is kept to go back to. -/

variable {ε : Type} {files : Files} {path live : String} {data content : Content}

/-- Fills a new file, and closes it. -/
def fill (path : String) (data : Content) (atWrite atChmod atClose : String → ε) : Call ε Unit := do
  (write path data).orFail atWrite
  settle.orFail atChmod
  settle.orFail atClose

/-- Copies a file to a new one. -/
def backUp (path before after : String) (atCreate atRead : String → ε) (atWrite atClose : String → String → ε) :
    Call ε String := do
  let backup ← (createTemp (dirOf path) before after).orFail atCreate
  let current ← (readFile path).orFail atRead
  (write backup current).orFail (atWrite backup)
  settle.orFail (atClose backup)
  pure backup

/-- Copies a file if there is one. -/
def backUpIf (found : Bool) (path before after : String) (atCreate atRead : String → ε)
    (atWrite atClose : String → String → ε) : Call ε (Option String) :=
  if found then do
    let backup ← backUp path before after atCreate atRead atWrite atClose
    pure (some backup)
  else pure none

/-- What has become of the file when what uses it could not be started. -/
inductive Aftermath (φ : Type) where
  /-- It is the new one, for want of a copy of an old one. -/
  | unbacked (failure : φ)
  /-- It is the new one, as the copy could not be renamed. -/
  | unrestored (failure : φ) (reason : String)
  /-- It is the old one; what uses it may have failed to start once more. -/
  | restored (failure : φ) (again : Option φ)
deriving DecidableEq, Repr

/-- Starts what uses the file; if that fails, the old file is brought back. -/
def startOrRestore {φ : Type} (start : Call φ Unit) (live : String) (backup : Option String) : Call (Aftermath φ) Unit := do
  let started ← start.result
  match started, backup with
  | .ok _, none => pure ()
  | .ok _, some copy => do
      let _ ← (remove copy).result
      pure ()
  | .error failure, none => check (.error (.unbacked failure))
  | .error failure, some copy => do
      (rename copy live).orFail (.unrestored failure)
      let again ← start.result
      match again with
      | .ok _ => check (.error (.restored failure none))
      | .error second => check (.error (.restored failure (some second)))

/-- What is asked of a state after a call that has failed: the file is as it was. -/
def Kept (live : String) (files state : Files) : Prop :=
  state live = files live

/-- The new file is filled, and the old one, if there is one, has a copy. -/
structure Staged (data : Content) (live path : String) (files : Files) (backup : Option String) (state : Files) : Prop where
  apart : live ≠ path
  filled : state path = some data
  kept : Kept live files state
  backed : ∀ copy, backup = some copy → live ≠ copy ∧ path ≠ copy ∧ state copy = files live
  unbacked : backup = none → files live = none

/-- The new file stands in the place of the old one. -/
structure Installed (data : Content) (live : String) (files : Files) (backup : Option String) (state : Files) : Prop where
  current : state live = some data
  backed : ∀ copy, backup = some copy → live ≠ copy ∧ state copy = files live
  unbacked : backup = none → files live = none

theorem Kept.update (apart : live ≠ path) (content : Option Content) :
    Kept live files (Function.update files path content) :=
  Function.update_of_ne apart _ _

theorem Kept.remove (apart : live ≠ path) :
    Triple (Kept live files) (Disk.remove path) (fun _ => Kept live files) fun _ => Kept live files := by
  apply Triple.each
  intro state kept
  refine (remove_triple state path).weaken (fun _ => id) ?_ ?_
  · intro _ after same
    rw [same]
    exact (Kept.update apart none).trans kept
  · intro _ after same
    rw [same]
    exact kept

theorem Installed.congr {other state : Files} {backup : Option String} (installed : Installed data live files backup state)
    (same : files live = other live) : Installed data live other backup state where
  current := installed.current
  backed copy given := ⟨(installed.backed copy given).1, (installed.backed copy given).2.trans same⟩
  unbacked none := same.symm.trans (installed.unbacked none)

section Marked

/-! Every error carries a mark that all errors of the caller carry. -/

variable {Mark : ε → Prop}

theorem fill_triple {atWrite atChmod atClose : String → ε} (new : files path = some [])
    (markWrite : ∀ reason, Mark (atWrite reason)) (markChmod : ∀ reason, Mark (atChmod reason))
    (markClose : ∀ reason, Mark (atClose reason)) :
    Triple (fun state => state = files) (fill path data atWrite atChmod atClose)
      (fun _ state => state = Function.update files path (some data))
      fun reason state => Mark reason ∧ ∃ content, state = Function.update files path content := by
  have filled : (files path).getD [] ++ data = data := by rw [new, Option.getD_some, List.nil_append]
  have settled : ∀ {convert : String → ε}, (∀ reason, Mark (convert reason)) →
      Triple (fun state => state = Function.update files path (some data))
        (settle.orFail convert) (fun _ state => state = Function.update files path (some data))
        fun reason state => Mark reason ∧ ∃ content, state = Function.update files path content := by
    intro convert mark
    exact (settle_triple.weaken (fun _ => id) (fun _ _ => id) fun reason _ same => ⟨mark reason, _, same⟩).orFail
  have written := write_triple files path data
  rw [filled] at written
  refine Triple.bind (Triple.orFail (written.weaken (fun _ => id) (fun _ _ => id) ?_)) fun _ => ?_
  · exact fun reason _ changed => ⟨markWrite reason, changed⟩
  · exact (settled markChmod).bind fun _ => settled markClose

/-- A copy has its own place, and the content of the file. -/
theorem backUp_triple {atCreate atRead : String → ε} {atWrite atClose : String → String → ε} {before after : String}
    (present : files live = some content) (markCreate : ∀ reason, Mark (atCreate reason))
    (markRead : ∀ reason, Mark (atRead reason)) (markWrite : ∀ backup reason, Mark (atWrite backup reason))
    (markClose : ∀ backup reason, Mark (atClose backup reason)) :
    Triple (fun state => state = files) (backUp live before after atCreate atRead atWrite atClose)
      (fun backup state => files backup = none ∧ state = Function.update files backup (some content))
      fun reason state => Mark reason ∧ Kept live files state := by
  have apart : ∀ {backup}, files backup = none → live ≠ backup := by
    intro backup free same
    rw [← same, present] at free
    cases free
  refine @Triple.bind _ _ _ _ _ _ _ _ _ (fun backup state => files backup = none ∧ state = Function.update files backup (some [])) _
    (Triple.orFail ((createTemp_triple files (dirOf live) before after).weaken (fun _ => id) ?_ ?_)) fun backup => ?_
  · intro backup state made
    exact made.2
  · intro reason state same
    exact ⟨markCreate reason, congrFun same live⟩
  · apply Triple.each
    intro opened made
    obtain ⟨free, rfl⟩ := made
    refine Triple.bind (Triple.orFail ((readFile_triple _).weaken (fun _ => id) (fun _ _ => id) ?_)) fun current => ?_
    · intro reason state same
      rw [same]
      exact ⟨markRead reason, Kept.update (apart free) (some [])⟩
    · apply Triple.each
      intro state given
      obtain ⟨rfl, read⟩ := given
      have same : content = current := by
        rw [Function.update_of_ne (apart free), present] at read
        exact Option.some.inj read
      cases same
      have written := write_triple (Function.update files backup (some [])) backup content
      rw [Function.update_self, Option.getD_some, List.nil_append, Function.update_idem] at written
      refine Triple.bind (Triple.orFail (written.weaken (fun _ => id) (fun _ _ => id) ?_)) fun _ => ?_
      · intro reason state changed
        obtain ⟨left, rfl⟩ := changed
        rw [Function.update_idem]
        exact ⟨markWrite backup reason, Kept.update (apart free) left⟩
      · refine Triple.bind (Triple.orFail (settle_triple.weaken (fun _ => id) (fun _ _ => id) ?_)) fun _ => ?_
        · intro reason state same
          rw [same]
          exact ⟨markClose backup reason, Kept.update (apart free) (some content)⟩
        · exact (Triple.pure backup).weaken (fun state same => ⟨free, same⟩) (fun _ _ => id) fun _ _ => id

theorem backUpIf_triple {atCreate atRead : String → ε} {atWrite atClose : String → String → ε} {before after : String}
    {found : Bool} (apart : live ≠ path) (filled : files path = some data) (known : found = (files live).isSome)
    (markCreate : ∀ reason, Mark (atCreate reason)) (markRead : ∀ reason, Mark (atRead reason))
    (markWrite : ∀ backup reason, Mark (atWrite backup reason))
    (markClose : ∀ backup reason, Mark (atClose backup reason)) :
    Triple (fun state => state = files) (backUpIf found live before after atCreate atRead atWrite atClose)
      (Staged data live path files) fun reason state => Mark reason ∧ Kept live files state := by
  cases present : files live with
  | none =>
      rw [present, Option.isSome_none] at known
      rw [backUpIf, known]
      refine (Triple.pure none).weaken ?_ (fun _ _ => id) fun _ _ => id
      intro state same
      rw [same]
      exact ⟨apart, filled, rfl, nofun, fun _ => present⟩
  | some content =>
      rw [present, Option.isSome_some] at known
      rw [backUpIf, known, if_pos rfl]
      refine Triple.bind (backUp_triple present markCreate markRead markWrite markClose) fun copy => ?_
      refine (Triple.pure (some copy)).weaken ?_ (fun _ _ => id) fun _ _ => id
      intro state made
      obtain ⟨free, rfl⟩ := made
      have notLive : live ≠ copy := by
        intro same
        rw [← same, present] at free
        cases free
      have notPath : path ≠ copy := by
        intro same
        rw [← same, filled] at free
        cases free
      refine ⟨apart, ?_, Kept.update notLive _, ?_, nofun⟩
      · rw [Function.update_of_ne notPath, filled]
      · intro other same
        cases same
        rw [Function.update_self, present]
        exact ⟨notLive, notPath, rfl⟩

end Marked

theorem Staged.rename {backup : Option String} :
    Triple (Staged data live path files backup) (rename path live) (fun _ => Installed data live files backup)
      fun _ => Kept live files := by
  apply Triple.each
  intro state staged
  refine (rename_triple state path live).weaken (fun _ => id) ?_ ?_
  · intro _ after changed
    obtain ⟨content, held, rfl⟩ := changed
    rw [staged.filled] at held
    cases held
    refine ⟨Function.update_self _ _ _, ?_, staged.unbacked⟩
    intro copy same
    obtain ⟨notLive, notPath, saved⟩ := staged.backed copy same
    rw [Function.update_of_ne (Ne.symm notLive), Function.update_of_ne (Ne.symm notPath)]
    exact ⟨notLive, saved⟩
  · intro _ after same
    rw [same]
    exact staged.kept

/-- The way back: the old file stands in its place again, or the new one still does. -/
theorem Installed.restore {copy : String} :
    Triple (Installed data live files (some copy)) (Disk.rename copy live) (fun _ => Kept live files)
      fun _ state => state live = some data := by
  apply Triple.each
  intro state installed
  refine (rename_triple state copy live).weaken (fun _ => id) ?_ ?_
  · intro _ after changed
    obtain ⟨content, held, rfl⟩ := changed
    obtain ⟨_, saved⟩ := installed.backed copy rfl
    rw [Kept, Function.update_self, ← held, saved]
  · intro _ after same
    rw [same]
    exact installed.current

theorem Installed.remove {copy : String} :
    Triple (Installed data live files (some copy)) (Disk.remove copy) (fun _ state => state live = some data)
      fun _ state => state live = some data := by
  apply Triple.each
  intro state installed
  refine (remove_triple state copy).weaken (fun _ => id) ?_ ?_
  · intro _ after same
    rw [same, Function.update_of_ne (installed.backed copy rfl).1]
    exact installed.current
  · intro _ after same
    rw [same]
    exact installed.current

/-- Each failure tells what the live path holds. -/
def Aftermath.Describes {φ : Type} (data : Content) (live : String) (files : Files) (aftermath : Aftermath φ)
    (state : Files) : Prop :=
  match aftermath with
  | .unbacked _ => files live = none ∧ state live = some data
  | .unrestored _ _ => state live = some data
  | .restored _ _ => Kept live files state

theorem startOrRestore_triple {φ : Type} {start : Call φ Unit} {backup : Option String}
    (harmless : ∀ P : Files → Prop, Triple P start (fun _ => P) fun _ => P) :
    Triple (Installed data live files backup) (startOrRestore start live backup) (fun _ state => state live = some data)
      (Aftermath.Describes data live files) := by
  refine Triple.bind (Triple.result (fun _ => Installed data live files backup) (harmless _)) fun started => ?_
  cases started with
  | ok _ =>
      cases backup with
      | none => exact (Triple.pure ()).weaken (fun _ installed => installed.current) (fun _ _ => id) fun _ _ => id
      | some copy =>
          refine Triple.bind (Triple.result (fun _ state => state live = some data) Installed.remove) fun _ => ?_
          exact (Triple.pure ()).weaken (fun _ current => current) (fun _ _ => id) fun _ _ => id
  | error failure =>
      cases backup with
      | none =>
          refine Triple.check nofun fun aftermath same state installed => ?_
          cases same
          exact ⟨installed.unbacked rfl, installed.current⟩
      | some copy =>
          refine Triple.bind (Triple.orFail Installed.restore) fun _ => ?_
          refine Triple.bind (Triple.result (fun _ => Kept live files) (harmless _)) fun again => ?_
          cases again with
          | ok _ =>
              refine Triple.check nofun fun aftermath same state kept => ?_
              cases same
              exact kept
          | error second =>
              refine Triple.check nofun fun aftermath same state kept => ?_
              cases same
              exact kept

end Disk
