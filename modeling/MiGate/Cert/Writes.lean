import MiGate.Cert.Service

namespace MiGate.Cert

open Go Disk Fallible Attempt

/-! What a file that is written beside its place and then renamed does to the other files. -/

variable {dir name path other : String} {files before after : Files} {data : Content} {state : State}

/-- A file with a name that no certificate and no key has. -/
def Temporary (path : String) : Prop :=
  (baseName path).toList.head? = some '.'

/-- What is the same but for temporary files. -/
def Unaffected (before after : Files) : Prop :=
  ∀ path, ¬ Temporary path → after path = before path

theorem Unaffected.refl (files : Files) : Unaffected files files :=
  fun _ _ => rfl

theorem Unaffected.trans {between : Files} (first : Unaffected before between) (second : Unaffected between after) :
    Unaffected before after :=
  fun path lasting => (second path lasting).trans (first path lasting)

theorem Unaffected.update (temporary : Temporary path) (content : Option Content) :
    Unaffected files (Function.update files path content) := by
  intro other lasting
  have apart : other ≠ path := fun same => lasting (same ▸ temporary)
  exact Function.update_of_ne apart _ _

/-- The same change on both sides. -/
theorem Unaffected.congr (same : Unaffected before after) (path : String) (content : Option Content) :
    Unaffected (Function.update before path content) (Function.update after path content) := by
  intro other lasting
  by_cases there : other = path
  · rw [there, Function.update_self, Function.update_self]
  · rw [Function.update_of_ne there, Function.update_of_ne there]
    exact same other lasting

/-- A name of a file of its own: it is not hidden. -/
structure Lasting (name : String) : Prop where
  plain : Plain name
  shown : name.toList.head? ≠ some '.'

theorem Lasting.joinPath (clean : CleanDir dir) (lasting : Lasting name) : ¬ Temporary (Disk.joinPath dir name) := by
  rw [Temporary, baseName_joinPath clean lasting.plain]
  exact lasting.shown

theorem plain_digits (random : Nat) : Plain (toString random) := by
  intro inside
  have digits : (toString random).toList = Nat.toDigits 10 random := Nat.toList_repr
  have digit := Nat.isDigit_of_mem_toDigits (by decide) (by decide) (digits ▸ inside)
  exact absurd digit (by decide)

/-- The start of the name of a temporary file. -/
structure Hidden (before : String) : Prop where
  plain : Plain before
  dotted : before.toList.head? = some '.'

theorem Hidden.tempPath {before : String} (hidden : Hidden before) (clean : CleanDir dir) (random : Nat) :
    Temporary (tempPath dir before "" random) := by
  have plain : Plain (before ++ toString random ++ "") := by
    unfold Plain
    rw [String.append_empty, String.toList_append, List.mem_append, not_or]
    exact ⟨hidden.plain, plain_digits random⟩
  rw [Temporary, Disk.tempPath, baseName_joinPath clean plain, String.append_empty, String.toList_append,
    List.head?_append, hidden.dotted, Option.some_or]

theorem hidden_writeTest : Hidden ".write-test-" where
  plain := by
    unfold Plain
    decide
  dotted := by decide

theorem Hidden.of_plain (plain : Plain name) : Hidden ("." ++ name ++ "-") where
  plain := by
    have dot : '/' ∉ ".".toList := by decide
    have dash : '/' ∉ "-".toList := by decide
    unfold Plain
    simp only [String.toList_append, List.mem_append, not_or]
    exact ⟨⟨dot, plain⟩, dash⟩
  dotted := by
    have dot : ".".toList = ['.'] := by decide
    simp only [String.toList_append, dot, List.cons_append, List.nil_append, List.head?_cons]

/-- The temporary file of a path with a number. -/
def besidePath (path : String) (random : Nat) : String :=
  tempPath (dirOf path) ("." ++ baseName path ++ "-") "" random

theorem besidePath_temporary (clean : CleanDir dir) (plain : Plain name) (random : Nat) :
    Temporary (besidePath (joinPath dir name) random) := by
  rw [besidePath, dirOf_joinPath clean plain, baseName_joinPath clean plain]
  exact (Hidden.of_plain plain).tempPath clean random

theorem remove_unaffected (temporary : Temporary path) :
    Triple (Unaffected files) (remove path) (fun _ => Unaffected files) fun _ => Unaffected files := by
  apply Triple.each
  intro start kept
  refine (remove_triple start path).weaken (fun _ => id) ?_ ?_
  · intro _ state removed
    rw [removed]
    exact kept.trans (.update temporary none)
  · intro _ state same
    rw [same]
    exact kept

/-- The file is replaced by the new one, or nothing has changed. -/
theorem writeFileAtomic_triple (clean : CleanDir dir) (lasting : Lasting name) (files : Files) (data : Content) :
    Triple (fun start => start = files) (writeFileAtomic (joinPath dir name) data)
      (fun _ => Unaffected (Function.update files (joinPath dir name) (some data)))
      fun _ => Unaffected files := by
  refine settle_triple.weaken (fun _ => id) (fun _ _ => id) (fun _ start same => same ▸ Unaffected.refl _) |>.bind fun _ => ?_
  refine Triple.bind ((createTemp_triple files _ _ _).weaken (fun _ => id) (fun _ _ => id) ?_) fun tmpName => ?_
  · intro _ state same
    rw [same]
    exact .refl files
  apply Triple.each
  intro opened made
  obtain ⟨⟨random, named⟩, _, rfl⟩ := made
  have temporary : Temporary tmpName := named ▸ besidePath_temporary clean lasting.plain random
  let filled := Function.update files tmpName (some data)
  have kept : ∀ content, Unaffected files (Function.update files tmpName content) := .update temporary
  have settled : Triple (fun state => state = filled) settle (fun _ state => state = filled) fun _ => Unaffected files :=
    settle_triple.weaken (fun _ => id) (fun _ _ => id) fun _ state same => same ▸ kept (some data)
  have body : Triple (fun state => state = Function.update files tmpName (some []))
      (do write tmpName data; settle; settle; settle; rename tmpName (joinPath dir name))
      (fun _ => Unaffected (Function.update files (joinPath dir name) (some data))) fun _ => Unaffected files := by
    refine Triple.bind ((write_triple _ tmpName data).weaken (fun _ => id) ?_ ?_)
      fun _ => settled.bind fun _ => settled.bind fun _ => settled.bind fun _ => ?_
    · intro _ state written
      rw [written, Function.update_self, Function.update_idem, Option.getD_some, List.nil_append]
    · intro _ state broken
      obtain ⟨content, rfl⟩ := broken
      rw [Function.update_idem]
      exact kept content
    · refine (rename_triple filled tmpName _).weaken (fun _ => id) ?_ ?_
      · intro _ state renamed
        obtain ⟨content, held, rfl⟩ := renamed
        have content : some content = some data := held.symm.trans (Function.update_self ..)
        rw [content]
        rw [show Function.update filled tmpName none = Function.update files tmpName none from Function.update_idem ..]
        exact (kept none).congr _ _
      · intro _ state same
        rw [same]
        exact kept (some data)
  exact Triple.deferring body (fun _ => remove_unaffected temporary) fun _ => remove_unaffected temporary

/-- What makes every call of `writeFileAtomic` go well but for that which removes the temporary file. -/
def writeConditions (files : Files) (path : String) : List (Outcome → Prop) :=
  [Faultless, fun outcome => Faultless outcome ∧ files (besidePath path outcome.random) = none,
    Faultless, Faultless, Faultless, Faultless, Faultless, fun _ => True]

theorem writeFileAtomic_succeeds (clean : CleanDir dir) (lasting : Lasting name) (files : Files) (data : Content) :
    Succeeds (writeConditions files (joinPath dir name)) (fun start => start = files)
      (writeFileAtomic (joinPath dir name) data)
      fun _ => Unaffected (Function.update files (joinPath dir name) (some data)) := by
  refine settle_succeeds.bind fun _ => ?_
  refine Succeeds.bind (createTemp_succeeds files _ _ _) fun tmpName => ?_
  apply Succeeds.each
  intro opened made
  obtain ⟨⟨random, named⟩, rfl⟩ := made
  have temporary : Temporary tmpName := named ▸ besidePath_temporary clean lasting.plain random
  let filled := Function.update files tmpName (some data)
  have settled : Succeeds [Faultless] (fun state => state = filled) settle fun _ state => state = filled := settle_succeeds
  have body : Succeeds [Faultless, Faultless, Faultless, Faultless, Faultless]
      (fun state => state = Function.update files tmpName (some []))
      (do write tmpName data; settle; settle; settle; rename tmpName (joinPath dir name))
      fun _ => Unaffected (Function.update files (joinPath dir name) (some data)) := by
    refine Succeeds.bind ((write_succeeds _ tmpName data).weaken (fun _ => id) ?_)
      fun _ => settled.bind fun _ => settled.bind fun _ => settled.bind fun _ => ?_
    · intro _ state written
      rw [written, Function.update_self, Function.update_idem, Option.getD_some, List.nil_append]
    · refine (rename_succeeds filled (Function.update_self ..) _).weaken (fun _ => id) ?_
      intro _ state renamed
      rw [renamed, show Function.update filled tmpName none = Function.update files tmpName none from
        Function.update_idem ..]
      exact (Unaffected.update temporary none).congr _ _
  exact Succeeds.deferring body (takes_step _) fun _ => remove_unaffected temporary

end MiGate.Cert
