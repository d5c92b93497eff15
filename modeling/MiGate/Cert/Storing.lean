import MiGate.Cert.Upsert

namespace MiGate.Cert

open Disk Fallible Attempt Relational

/-! The end of every operation. Both files are replaced, the certificate first, and then the row is written. -/

variable {around : Surroundings} {start state after : State} {asset : Asset}

theorem onFiles_succeeds {ε α : Type} {call : Call ε α} {conditions : List (Outcome → Prop)} {post : α → Files → Prop}
    (shown : Succeeds conditions (fun files => files = state.files) call post) :
    Succeeds conditions (fun begun => begun = state) (onFiles call)
      fun value ended => ended.certificates = state.certificates ∧ post value ended.files :=
  Succeeds.within (shown.weaken (fun _ => id) fun _ _ held => ⟨rfl, held⟩) rfl

theorem onFiles_bind {ε α β : Type} (first : Call ε α) (next : α → Call ε β) :
    onFiles (first >>= next) = onFiles first >>= fun value => onFiles (next value) :=
  @within_bind _ _ _ _ _ _ State.files (fun files state => { state with files }) (fun _ _ => rfl) (fun _ _ _ => rfl) first next

/-- The certificate's file is replaced. -/
def replaceCertificate (asset : Asset) : Action Unit :=
  (onFiles (do settle; writeFileAtomic asset.params.certPath asset.certPEM)).orFail certDirNotWritable

/-- What is left to be done then. -/
def finish (asset : Asset) : Action Certificate := do
  (onFiles (writeFileAtomic asset.params.keyPath asset.keyPEM)).orFail certDirNotWritable
  (upsertCertificate asset.params).orFail asset.atUpsert

theorem storeAsset_eq (asset : Asset) : storeAsset asset = replaceCertificate asset >>= fun _ => finish asset := by
  have files : writeAssetFiles asset.params.certPath asset.params.keyPath asset.certPEM asset.keyPEM =
      (do settle; writeFileAtomic asset.params.certPath asset.certPEM) >>=
        fun _ => writeFileAtomic asset.params.keyPath asset.keyPEM := by
    rw [bind_assoc]
    rfl
  unfold storeAsset
  rw [files, onFiles_bind, orFail_bind, bind_assoc]
  rfl

/-- What makes every call go well that is left to be done. -/
def finishConditions (asset : Asset) (files : Files) : List (Outcome → Prop) :=
  writeConditions files asset.params.keyPath ++ [Faultless, Faultless, Faultless]

/-- The files and the table when everything has been stored. -/
structure Stored (asset : Asset) (before after : State) : Prop where
  certificates : after.certificates = upserted asset.params before.certificates
  files : Unaffected (Function.update (Function.update before.files asset.params.certPath (some asset.certPEM))
    asset.params.keyPath (some asset.keyPEM)) after.files

/-- The certificate's file has been replaced, and nothing else has changed. -/
structure Replaced (asset : Asset) (before after : State) : Prop where
  certificates : after.certificates = before.certificates
  files : Unaffected (Function.update before.files asset.params.certPath (some asset.certPEM)) after.files

theorem replaceCertificate_triple (prepared : Prepared around start.certificates asset) :
    Triple (Unharmed start) (replaceCertificate asset) (fun _ => Replaced asset start) fun _ => Unharmed start := by
  apply Triple.each
  intro state unharmed
  obtain ⟨dir, name, clean, keyName, certPath, keyPath⟩ := prepared.shaped
  have written := writeFileAtomic_triple clean lasting_fullchain state.files asset.certPEM
  rw [← certPath] at written
  have settled : Triple (fun files => files = state.files) settle (fun _ files => files = state.files)
      fun _ => Unaffected state.files :=
    settle_triple.weaken (fun _ => id) (fun _ _ => id) fun _ files same => same ▸ .refl _
  refine Triple.orFail ((onFiles_triple (settled.bind fun _ => written)).weaken (fun _ => id) ?_ ?_)
  · intro _ after done
    exact ⟨done.1.trans unharmed.certificates, (unharmed.files.congr _ _).trans done.2⟩
  · intro _ after failed
    exact unharmed.trans ⟨failed.1, failed.2⟩

theorem finish_succeeds (prepared : Prepared around start.certificates asset) (replaced : Replaced asset start state) :
    Succeeds (finishConditions asset state.files) (fun begun => begun = state) (finish asset)
      fun _ => Stored asset start := by
  obtain ⟨dir, name, clean, keyName, certPath, keyPath⟩ := prepared.shaped
  have written := writeFileAtomic_succeeds clean keyName.lasting state.files asset.keyPEM
  rw [← keyPath] at written
  refine Succeeds.bind (onFiles_succeeds written).orFail fun _ => ?_
  apply Succeeds.each
  intro between done
  have table : between.certificates = start.certificates := done.1.trans replaced.certificates
  have placed : Placed between.certificates asset.params.id asset.params.certPath asset.params.keyPath :=
    table ▸ prepared.placed
  refine ((upsertCertificate_succeeds placed).weaken (fun _ => id) ?_).orFail
  intro _ ended same
  rw [same]
  exact ⟨by rw [table], (replaced.files.congr _ _).trans done.2⟩

/-! ### Operations -/

/-- The part of an operation that ends when the certificate's file has been replaced. -/
def Operation.begin (around : Surroundings) (operation : Operation) : Action Asset := do
  let asset ← operation.prepare around
  replaceCertificate asset
  pure asset

theorem Operation.run_eq (around : Surroundings) (operation : Operation) :
    operation.run around = operation.begin around >>= finish := by
  have whole : operation.run around = operation.prepare around >>= storeAsset := by
    cases operation with
    | importing random request => rfl
    | issuing request answer => rfl
    | renewing row answer => rfl
  rw [whole, begin, bind_assoc]
  congr 1
  funext asset
  rw [storeAsset_eq, bind_assoc]
  rfl

theorem Operation.begin_triple (apart : Apart start.certificates) {operation : Operation}
    (due : operation.isDue start = true) :
    Triple (Unharmed start) (operation.begin around)
      (fun asset state => Replaced asset start state ∧ Prepared around start.certificates asset ∧
        operation.Locates around start.certificates asset) fun _ => Unharmed start := by
  refine Triple.bind (prepare_harmless apart due) fun asset => ?_
  have replaced : Prepared around start.certificates asset ∧ operation.Locates around start.certificates asset →
      Triple (Unharmed start) (do replaceCertificate asset; pure asset)
        (fun asset state => Replaced asset start state ∧ Prepared around start.certificates asset ∧
          operation.Locates around start.certificates asset) fun _ => Unharmed start :=
    fun both => (replaceCertificate_triple both.1).bind fun _ =>
      (Triple.pure asset).weaken (fun _ held => ⟨held, both⟩) (fun _ _ => id) fun _ _ => id
  exact fun outcomes state met given => replaced given.2 outcomes state met given.1

/-- What may have been changed by an operation that has failed. -/
structure Partial (asset : Asset) (before after : State) : Prop where
  certificates : after.certificates = before.certificates ∨ after.certificates = upserted asset.params before.certificates
  files : ∀ path, ¬ Temporary path → path ≠ asset.params.certPath → path ≠ asset.params.keyPath →
    after.files path = before.files path

theorem finish_triple (prepared : Prepared around start.certificates asset) (replaced : Replaced asset start state) :
    Triple (fun begun => begun = state) (finish asset) (fun _ => Stored asset start) fun _ => Partial asset start := by
  obtain ⟨dir, name, clean, keyName, certPath, keyPath⟩ := prepared.shaped
  have written := writeFileAtomic_triple clean keyName.lasting state.files asset.keyPEM
  rw [← keyPath] at written
  refine Triple.bind (Triple.orFail ((onFiles_triple written).weaken (fun _ => id) (fun _ _ => id) ?_)) fun _ => ?_
  · intro reason after failed
    refine ⟨.inl (failed.1.trans replaced.certificates), fun path lasting apart _ => ?_⟩
    rw [failed.2 path lasting, replaced.files path lasting, Function.update_of_ne apart]
  · apply Triple.each
    intro between done
    have table : between.certificates = start.certificates := done.1.trans replaced.certificates
    have files := (replaced.files.congr asset.params.keyPath (some asset.keyPEM)).trans done.2
    refine Triple.orFail (upsertCertificate_triple.weaken (fun _ => id) ?_ ?_)
    · intro _ after same
      rw [same]
      exact ⟨by rw [table], files⟩
    · intro reason after either
      have others : ∀ path, ¬ Temporary path → path ≠ asset.params.certPath → path ≠ asset.params.keyPath →
          between.files path = start.files path := by
        intro path lasting apart apart'
        rw [files path lasting, Function.update_of_ne apart', Function.update_of_ne apart]
      rcases either with rfl | rfl
      · exact ⟨.inl table, others⟩
      · exact ⟨.inr (by rw [table]), others⟩

/-- What becomes of an operation, whatever becomes of its calls. -/
theorem Operation.run_triple (apart : Apart start.certificates) {operation : Operation}
    (due : operation.isDue start = true) :
    Triple (Unharmed start) (operation.run around)
      (fun _ after => ∃ asset, Prepared around start.certificates asset ∧ operation.Locates around start.certificates asset ∧
        Stored asset start after)
      fun _ after => Unharmed start after ∨ ∃ asset, Prepared around start.certificates asset ∧
        operation.Locates around start.certificates asset ∧ Partial asset start after := by
  rw [run_eq]
  refine Triple.bind ((begin_triple apart due).weaken (fun _ => id) (fun _ _ => id) fun _ _ => .inl) fun asset => ?_
  apply Triple.each
  intro state begun
  obtain ⟨replaced, prepared, locates⟩ := begun
  refine (finish_triple prepared replaced).weaken (fun _ => id) ?_ ?_
  · exact fun _ after stored => ⟨asset, prepared, locates, stored⟩
  · exact fun _ after broken => .inr ⟨asset, prepared, locates, broken⟩

end MiGate.Cert
