import Mathlib.Logic.Function.Basic
import MiGate.Fallible.Attempt

namespace Disk

open Fallible Attempt

/-! Files by their paths, and the calls that work on them. Directories are there as far as no call
fails for want of one; links and rights are not modelled but for the errors they lead to. -/

abbrev Content := List UInt8

abbrev Files := String → Option Content

/-- What the surroundings do to one call. -/
structure Outcome where
  /-- The error the call ends with. -/
  fault : Option String
  /-- What a write that fails has written. -/
  left : Content
  /-- What a command prints. -/
  output : String
  /-- The number that makes the name of a temporary file. -/
  random : Nat
deriving DecidableEq, Repr

variable {ε : Type}

abbrev Call (ε α : Type) := Attempt Outcome Files ε α

/-- A path in a directory. -/
def joinPath (dir name : String) : String :=
  if dir.toList.getLast? = some '/' then dir ++ name else dir ++ "/" ++ name

/-- `filepath.Dir` of a path that is clean. -/
def dirOf (path : String) : String :=
  match (path.toList.reverse.dropWhile (· != '/')) with
  | [] => "."
  | [_] => "/"
  | _ :: parents => String.ofList parents.reverse

/-- A call that changes no file: on a directory, a right, or an open file. -/
def settle : Call String Unit :=
  step fun outcome files =>
    match outcome.fault with
    | some reason => (.error reason, files)
    | none => (.ok (), files)

/-- The path of a temporary file with a number. -/
def tempPath (dir before after : String) (random : Nat) : String :=
  joinPath dir (before ++ toString random ++ after)

/-- `os.CreateTemp` with a pattern that has one star. A number that is taken stands for the last one tried. -/
def createTemp (dir before after : String) : Call String String :=
  step fun outcome files =>
    match outcome.fault with
    | some reason => (.error reason, files)
    | none =>
        if (files (tempPath dir before after outcome.random)).isSome then
          (.error ("createtemp " ++ joinPath dir (before ++ "*" ++ after) ++ ": file exists"), files)
        else
          (.ok (tempPath dir before after outcome.random),
            Function.update files (tempPath dir before after outcome.random) (some []))

/-- Writes to an open file at its end. -/
def write (path : String) (data : Content) : Call String Unit :=
  step fun outcome files =>
    match outcome.fault with
    | some reason => (.error reason, Function.update files path (some ((files path).getD [] ++ outcome.left)))
    | none => (.ok (), Function.update files path (some ((files path).getD [] ++ data)))

/-- `os.ReadFile`. -/
def readFile (path : String) : Call String Content :=
  step fun outcome files =>
    match outcome.fault, files path with
    | some reason, _ => (.error reason, files)
    | none, some content => (.ok content, files)
    | none, none => (.error ("open " ++ path ++ ": no such file or directory"), files)

/-- `os.Stat`: whether there is a file, if that can be told. -/
def stat (path : String) : Call String Bool :=
  step fun outcome files =>
    match outcome.fault with
    | some reason => (.error reason, files)
    | none => (.ok (files path).isSome, files)

/-- `os.Rename`, which replaces the file that is there, or fails and changes nothing. -/
def rename (source target : String) : Call String Unit :=
  step fun outcome files =>
    match outcome.fault, files source with
    | some reason, _ => (.error reason, files)
    | none, some content => (.ok (), Function.update (Function.update files source none) target (some content))
    | none, none => (.error ("rename " ++ source ++ " " ++ target ++ ": no such file or directory"), files)

/-- `os.Remove`. -/
def remove (path : String) : Call String Unit :=
  step fun outcome files =>
    match outcome.fault, files path with
    | some reason, _ => (.error reason, files)
    | none, some _ => (.ok (), Function.update files path none)
    | none, none => (.error ("remove " ++ path ++ ": no such file or directory"), files)

/-- A command that changes no file: its error comes with what it has printed. -/
def command : Call (String × String) String :=
  step fun outcome files =>
    match outcome.fault with
    | some reason => (.error (outcome.output, reason), files)
    | none => (.ok outcome.output, files)

/-! ### What the calls do -/

variable {path other source target : String} {data content : Content} {P : Files → Prop}

theorem settle_triple : Triple P settle (fun _ => P) fun _ => P := by
  apply Triple.step
  · intro outcome files _ after given ran
    split at ran <;> cases ran
    exact given
  · intro outcome files _ after given ran
    split at ran <;> cases ran
    exact given

theorem stat_triple (files : Files) :
    Triple (fun state => state = files) (stat path)
      (fun found state => state = files ∧ found = (files path).isSome) fun _ state => state = files := by
  apply Triple.step
  · intro outcome state _ after given ran
    split at ran <;> cases ran
    exact ⟨given, by rw [given]⟩
  · intro outcome state _ after given ran
    split at ran <;> cases ran
    exact given

theorem readFile_triple (files : Files) :
    Triple (fun state => state = files) (readFile path)
      (fun found state => state = files ∧ files path = some found) fun _ state => state = files := by
  apply Triple.step
  · intro outcome state _ after given ran
    split at ran <;> cases ran
    rename_i held
    exact ⟨given, given ▸ held⟩
  · intro outcome state _ after given ran
    split at ran <;> cases ran
    · exact given
    · exact given

theorem createTemp_triple (files : Files) (dir before after : String) :
    Triple (fun state => state = files) (createTemp dir before after)
      (fun path state => (∃ random, path = tempPath dir before after random) ∧ files path = none ∧
        state = Function.update files path (some []))
      fun _ state => state = files := by
  apply Triple.step
  · intro outcome state path next given ran
    split at ran
    · cases ran
    · split at ran
      · cases ran
      · rename_i free
        cases ran
        rw [given] at free ⊢
        rw [Option.not_isSome_iff_eq_none] at free
        exact ⟨⟨_, rfl⟩, free, rfl⟩
  · intro outcome state _ next given ran
    split at ran
    · cases ran
      exact given
    · split at ran <;> cases ran
      exact given

theorem write_triple (files : Files) (path : String) (data : Content) :
    Triple (fun state => state = files) (write path data)
      (fun _ state => state = Function.update files path (some ((files path).getD [] ++ data)))
      fun _ state => ∃ content, state = Function.update files path content := by
  apply Triple.step
  · intro outcome state _ after given ran
    split at ran <;> cases ran
    rw [given]
  · intro outcome state _ after given ran
    split at ran <;> cases ran
    exact ⟨_, by rw [given]⟩

theorem rename_triple (files : Files) (source target : String) :
    Triple (fun state => state = files) (rename source target)
      (fun _ state => ∃ content, files source = some content ∧
        state = Function.update (Function.update files source none) target (some content))
      fun _ state => state = files := by
  apply Triple.step
  · intro outcome state _ after given ran
    split at ran <;> cases ran
    rename_i held
    rw [given] at held ⊢
    exact ⟨_, held, rfl⟩
  · intro outcome state _ after given ran
    split at ran <;> cases ran
    · exact given
    · exact given

theorem remove_triple (files : Files) (path : String) :
    Triple (fun state => state = files) (remove path) (fun _ state => state = Function.update files path none)
      fun _ state => state = files := by
  apply Triple.step
  · intro outcome state _ after given ran
    split at ran <;> cases ran
    rw [given]
  · intro outcome state _ after given ran
    split at ran <;> cases ran
    · exact given
    · exact given

theorem command_triple : Triple P command (fun _ => P) fun _ => P := by
  apply Triple.step
  · intro outcome files _ after given ran
    split at ran <;> cases ran
    exact given
  · intro outcome files _ after given ran
    split at ran <;> cases ran
    exact given

/-! ### Calls without a fault -/

/-- What is asked of most calls. -/
def Faultless (outcome : Outcome) : Prop :=
  outcome.fault = none

theorem settle_succeeds : Succeeds [Faultless] P settle fun _ => P := by
  apply Succeeds.step
  intro outcome files good given
  exact ⟨(), files, by rw [good], given⟩

/-- The call has a number that is not taken. -/
theorem createTemp_succeeds (files : Files) (dir before after : String) :
    Succeeds [fun outcome => Faultless outcome ∧ files (tempPath dir before after outcome.random) = none]
      (fun state => state = files) (createTemp dir before after) fun path state =>
        (∃ random, path = tempPath dir before after random) ∧ state = Function.update files path (some []) := by
  apply Succeeds.step
  intro outcome state good given
  obtain ⟨smooth, free⟩ := good
  cases given
  have empty : (files (tempPath dir before after outcome.random)).isSome = false := by
    rw [free, Option.isSome_none]
  refine ⟨_, _, ?_, ⟨outcome.random, rfl⟩, rfl⟩
  rw [smooth]
  dsimp only
  rw [empty, if_neg Bool.false_ne_true]

theorem write_succeeds (files : Files) (path : String) (data : Content) :
    Succeeds [Faultless] (fun state => state = files) (write path data)
      fun _ state => state = Function.update files path (some ((files path).getD [] ++ data)) := by
  apply Succeeds.step
  intro outcome state good given
  cases given
  exact ⟨(), _, by rw [good], rfl⟩

theorem rename_succeeds (files : Files) (present : files source = some content) (target : String) :
    Succeeds [Faultless] (fun state => state = files) (rename source target)
      fun _ state => state = Function.update (Function.update files source none) target (some content) := by
  apply Succeeds.step
  intro outcome state good given
  cases given
  exact ⟨(), _, by rw [good, present], rfl⟩

end Disk
