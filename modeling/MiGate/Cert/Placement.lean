import MiGate.Cert.Writes

namespace MiGate.Cert

open Go Disk Fallible Attempt Relational

/-! Where an operation is going to put a certificate. Until then it has changed nothing but temporary files. -/

variable {around : Surroundings} {start state after : State} {asset : Asset}

/-- The name of a key, now or in an older version. -/
def KeyName (name : String) : Prop :=
  name = "privkey.key" ∨ name = "privkey.pem"

/-- The paths of a row as the service gives them. -/
def Shaped (certPath keyPath : String) : Prop :=
  ∃ dir name, CleanDir dir ∧ KeyName name ∧ certPath = joinPath dir "fullchain.pem" ∧ keyPath = joinPath dir name

/-- Every row has a directory of its own. -/
structure Apart (certificates : Serial Certificate.id) : Prop where
  shaped : ∀ row ∈ certificates.rows, Shaped row.certPath row.keyPath
  distinct : (certificates.rows.map Certificate.certPath).Nodup

/-- Nothing has changed but temporary files. -/
structure Unharmed (before after : State) : Prop where
  certificates : after.certificates = before.certificates
  files : Unaffected before.files after.files

theorem Unharmed.refl (state : State) : Unharmed state state :=
  ⟨rfl, .refl _⟩

theorem Unharmed.trans {between : State} (first : Unharmed start between) (second : Unharmed between state) :
    Unharmed start state :=
  ⟨second.certificates.trans first.certificates, first.files.trans second.files⟩

/-! ### Paths of rows -/

theorem lasting_fullchain : Lasting "fullchain.pem" :=
  ⟨plain_fullchain, by decide⟩

theorem KeyName.lasting {name : String} (keyName : KeyName name) : Lasting name := by
  rcases keyName with rfl | rfl
  · exact ⟨plain_privkey, by decide⟩
  · exact ⟨plain_legacy, by decide⟩

theorem KeyName.ne_fullchain {name : String} (keyName : KeyName name) : name ≠ "fullchain.pem" := by
  rcases keyName with rfl | rfl
  · decide
  · decide

theorem Shaped.not_temporary {certPath keyPath : String} (shaped : Shaped certPath keyPath) :
    ¬ Temporary certPath ∧ ¬ Temporary keyPath := by
  obtain ⟨dir, name, clean, keyName, rfl, rfl⟩ := shaped
  exact ⟨lasting_fullchain.joinPath clean, keyName.lasting.joinPath clean⟩

/-- Certificates and keys have different names. -/
theorem Shaped.cert_ne_key {certPath keyPath certPath' keyPath' : String} (shaped : Shaped certPath keyPath)
    (shaped' : Shaped certPath' keyPath') : certPath ≠ keyPath' := by
  obtain ⟨dir, name, clean, keyName, rfl, rfl⟩ := shaped
  obtain ⟨dir', name', clean', keyName', rfl, rfl⟩ := shaped'
  intro same
  exact keyName'.ne_fullchain (joinPath_inj clean clean' plain_fullchain keyName'.lasting.plain same).2.symm

/-- Different certificates are in different directories, and so are their keys. -/
theorem Shaped.key_ne_key {certPath keyPath certPath' keyPath' : String} (shaped : Shaped certPath keyPath)
    (shaped' : Shaped certPath' keyPath') (apart : certPath ≠ certPath') : keyPath ≠ keyPath' := by
  obtain ⟨dir, name, clean, keyName, rfl, rfl⟩ := shaped
  obtain ⟨dir', name', clean', keyName', rfl, rfl⟩ := shaped'
  intro same
  have directory := (joinPath_inj clean clean' keyName.lasting.plain keyName'.lasting.plain same).1
  exact apart (directory ▸ rfl)

/-! ### Preparation -/

/-- The row is one of the table with its paths, or a new one with a path that no row has. -/
inductive Placed (certificates : Serial Certificate.id) (id : Int) (certPath keyPath : String) : Prop where
  | existing (row : Certificate) (member : row ∈ certificates.rows) (named : row.id = id)
      (cert : row.certPath = certPath) (key : row.keyPath = keyPath)
  | new (unnamed : id = 0) (fresh : ∀ row ∈ certificates.rows, row.certPath ≠ certPath)

/-- What is handed over to be stored. -/
structure Prepared (around : Surroundings) (certificates : Serial Certificate.id) (asset : Asset) : Prop where
  placed : Placed certificates asset.params.id asset.params.certPath asset.params.keyPath
  shaped : Shaped asset.params.certPath asset.params.keyPath
  matching : ∃ found, around.parseCertificatePair asset.certPEM asset.keyPEM = .ok found ∧
    found.fingerprint = asset.params.fingerprint

/-- A statement that only reads. -/
theorem statement_reads {α : Type} {effect : State → Except String α × State} (reads : ∀ state, (effect state).2 = state) :
    Triple (fun begun => begun = state) (statement effect)
      (fun value after => after = state ∧ (effect state).1 = .ok value) fun _ after => after = state := by
  apply Triple.step
  · intro outcome begun value after given ran
    cases given
    cases faulty : outcome.fault with
    | some reason =>
        rw [faulty] at ran
        cases ran
    | none =>
        rw [faulty] at ran
        dsimp only at ran
        exact ⟨by rw [← reads state, ran], by rw [ran]⟩
  · intro outcome begun reason after given ran
    cases given
    cases faulty : outcome.fault with
    | some reason =>
        rw [faulty] at ran
        cases ran
        rfl
    | none =>
        rw [faulty] at ran
        dsimp only at ran
        rw [← reads state, ran]

/-- A call on the files, seen from the state. -/
theorem onFiles_triple {ε α : Type} {call : Call ε α} {post : α → Files → Prop} {failed : ε → Files → Prop}
    (shown : Triple (fun files => files = state.files) call post failed) :
    Triple (fun begun => begun = state) (onFiles call)
      (fun value after => after.certificates = state.certificates ∧ post value after.files)
      fun reason after => after.certificates = state.certificates ∧ failed reason after.files :=
  Triple.within (shown.weaken (fun _ => id) (fun _ _ held => ⟨rfl, held⟩) fun _ _ held => ⟨rfl, held⟩) rfl

/-- Work that changes nothing but temporary files. -/
def Harmless {ε α : Type} (start : State) (attempt : Attempt Outcome State ε α) (Result : α → Prop) : Prop :=
  Triple (Unharmed start) attempt (fun value after => Unharmed start after ∧ Result value) fun _ => Unharmed start

namespace Harmless

variable {ε ε' α β : Type} {attempt : Attempt Outcome State ε α} {Result Result' : α → Prop}

theorem weaken (harmless : Harmless start attempt Result) (weaker : ∀ value, Result value → Result' value) :
    Harmless start attempt Result' :=
  Triple.weaken harmless (fun _ => id) (fun value _ both => ⟨both.1, weaker value both.2⟩) fun _ _ => id

theorem pure {value : α} (held : Result value) : Harmless start (pure value : Attempt Outcome State ε α) Result :=
  (Triple.pure value).weaken (fun _ unharmed => ⟨unharmed, held⟩) (fun _ _ both => both) fun _ _ => id

theorem check {checked : Except ε α} (ends : ∀ value, checked = .ok value → Result value) :
    Harmless start (Attempt.check checked) Result :=
  Triple.check (fun value passed _ unharmed => ⟨unharmed, ends value passed⟩) fun _ _ _ unharmed => unharmed

theorem bind {next : α → Attempt Outcome State ε β} {Last : β → Prop} (first : Harmless start attempt Result)
    (continues : ∀ value, Result value → Harmless start (next value) Last) : Harmless start (attempt >>= next) Last :=
  Triple.bind first fun value outcomes state met given => continues value given.2 outcomes state met given.1

theorem orFail {convert : ε → ε'} (harmless : Harmless start attempt Result) :
    Harmless start (attempt.orFail convert) Result :=
  Triple.orFail harmless

theorem result (harmless : Harmless start attempt Result) :
    Harmless start (attempt.result : Attempt Outcome State ε' (Except ε α)) fun _ => True :=
  Triple.result (fun _ after => Unharmed start after ∧ True)
    (Triple.weaken harmless (fun _ => id) (fun _ _ both => ⟨both.1, trivial⟩) fun _ _ unharmed => ⟨unharmed, trivial⟩)

theorem onFiles {call : Call ε α} (shown : ∀ files, Triple (fun begun => begun = files) call
    (fun value after => Unaffected files after ∧ Result value) fun _ => Unaffected files) :
    Harmless start (onFiles call) Result := by
  apply Triple.each
  intro state unharmed
  refine (onFiles_triple (shown state.files)).weaken (fun _ => id) ?_ ?_
  · intro value after done
    exact ⟨unharmed.trans ⟨done.1, done.2.1⟩, done.2.2⟩
  · intro reason after failed
    exact unharmed.trans ⟨failed.1, failed.2⟩

end Harmless

theorem ensureCertDirWritable_triple (certDir : Directory) (files : Files) :
    Triple (fun begun => begun = files) (ensureCertDirWritable certDir) (fun _ => Unaffected files)
      fun _ => Unaffected files := by
  have unchanged : ∀ begun, begun = files → Unaffected files begun := fun begun same => same ▸ .refl files
  refine Triple.bind (settle_triple.weaken (fun _ => id) (fun _ _ => id) fun _ => unchanged) fun _ => ?_
  refine Triple.bind ((createTemp_triple files _ _ _).weaken (fun _ => id) (fun _ _ => id) fun _ => unchanged) fun name => ?_
  apply Triple.each
  intro opened made
  obtain ⟨⟨random, named⟩, _, rfl⟩ := made
  have temporary : Temporary name := named ▸ hidden_writeTest.tempPath certDir.cleanDir random
  have opened : ∀ begun, begun = Function.update files name (some []) → Unaffected files begun :=
    fun begun same => same ▸ .update temporary (some [])
  refine Triple.bind (Triple.onError (settle_triple.weaken (fun _ => id) (fun _ _ => id) fun _ => opened)
    fun _ => remove_unaffected temporary) fun _ => ?_
  exact (remove_unaffected temporary).weaken opened (fun _ _ => id) fun _ _ => id

theorem preflight_harmless (domains : List String) : Harmless start (preflight around domains) fun _ => True := by
  have checking : ∀ {call : Call String Unit} {okCode failedCode okDetail : String} {failedDetail : String → String},
      (∀ files, Triple (fun begun => begun = files) call (fun _ => Unaffected files) fun _ => Unaffected files) →
      Harmless start (preflightCheck call okCode failedCode okDetail failedDetail) fun _ => True := by
    intro call okCode failedCode okDetail failedDetail shown
    have harmless : Harmless start (onFiles call) fun _ => True :=
      .onFiles fun files => (shown files).weaken (fun _ => id) (fun _ _ held => ⟨held, trivial⟩) fun _ _ => id
    refine harmless.result.bind fun done _ => ?_
    cases done with
    | ok _ => exact .pure trivial
    | error _ => exact .pure trivial
  have settled : ∀ files, Triple (fun begun => begun = files) settle (fun _ => Unaffected files) fun _ => Unaffected files :=
    fun files => settle_triple.weaken (fun _ same => same ▸ Unaffected.refl files) (fun _ _ => id) fun _ _ => id
  have resolving : ∀ checks, Harmless start (domains.foldlM (fun checks domain => do
      let check ← preflightCheck settle "domain_resolved" "domain_not_resolved" domain fun reason => domain ++ ": " ++ reason
      Pure.pure (checks ++ [check])) checks) fun _ => True := by
    induction domains with
    | nil => exact fun checks => .pure trivial
    | cons domain rest ih =>
        intro checks
        rw [List.foldlM_cons]
        have one : Harmless start (do
            let check ← preflightCheck settle "domain_resolved" "domain_not_resolved" domain fun reason =>
              domain ++ ": " ++ reason
            Pure.pure (checks ++ [check])) fun _ => True := (checking settled).bind fun _ _ => .pure trivial
        exact one.bind fun checks _ => ih checks
  refine (resolving []).bind fun _ _ => ?_
  refine (checking settled).bind fun _ _ => ?_
  refine (checking (ensureCertDirWritable_triple around.certDir)).bind fun _ _ => ?_
  exact .pure trivial

theorem statement_harmless {α : Type} {effect : State → Except String α × State} {Result : α → Prop}
    (reads : ∀ state, (effect state).2 = state)
    (ends : ∀ state value, state.certificates = start.certificates → (effect state).1 = .ok value → Result value) :
    Harmless start (statement effect) Result := by
  apply Triple.each
  intro state unharmed
  refine (statement_reads reads).weaken (fun _ => id) ?_ ?_
  · intro value after done
    obtain ⟨rfl, produced⟩ := done
    exact ⟨unharmed, ends _ value unharmed.certificates produced⟩
  · intro reason after same
    rw [same]
    exact unharmed

theorem existingAssetCertificate_mem {rows : List Certificate} {paths : AssetPaths} {row : Certificate}
    (found : existingAssetCertificate rows paths = some row) : row ∈ rows := by
  rcases Option.or_eq_some_iff.mp found with exact | older
  · exact List.mem_of_find?_eq_some exact
  · split at older
    · cases older.2
    · exact List.mem_of_find?_eq_some older.2

theorem certPath_of_existing {rows : List Certificate} {paths : AssetPaths} {row : Certificate}
    (found : existingAssetCertificate rows paths = some row) : row.certPath = paths.certPath := by
  rcases Option.or_eq_some_iff.mp found with exact | older
  · have met := List.find?_some exact
    exact (decide_eq_true_iff.mp met).1
  · split at older
    · cases older.2
    · have met := List.find?_some older.2
      exact (decide_eq_true_iff.mp met).1

/-- Rows that have none of the two pairs of paths do not have the certificate's path. -/
theorem fresh_of_existing_none {rows : List Certificate} {dir : String} (clean : CleanDir dir)
    (shaped : ∀ row ∈ rows, Shaped row.certPath row.keyPath)
    (absent : existingAssetCertificate rows (pathsIn dir) = none) :
    ∀ row ∈ rows, row.certPath ≠ (pathsIn dir).certPath := by
  intro row member same
  obtain ⟨exact, older⟩ := Option.or_eq_none_iff.mp absent
  obtain ⟨other, name, clean', keyName, certPath, keyPath⟩ := shaped row member
  have directory : other = dir := (joinPath_inj clean' clean plain_fullchain plain_fullchain (certPath.symm.trans same)).1
  subst directory
  rcases keyName with rfl | rfl
  · have differs := List.find?_eq_none.mp exact row member
    exact differs (decide_eq_true ⟨certPath, keyPath⟩)
  · rw [legacyPrivateKeyPath_pathsIn clean, if_neg] at older
    · have differs := List.find?_eq_none.mp older row member
      exact differs (decide_eq_true ⟨certPath, keyPath⟩)
    · intro empty
      have runes := congrArg (List.length ∘ String.toList) empty
      simp [joinPath_toList clean] at runes

theorem shaped_pathsIn {dir : String} (clean : CleanDir dir) : Shaped (pathsIn dir).certPath (pathsIn dir).keyPath :=
  ⟨dir, "privkey.key", clean, .inl rfl, rfl, rfl⟩

theorem findPlace_harmless (apart : Apart start.certificates) (random name : String) :
    Harmless start (findPlace around random name) fun place =>
      Placed start.certificates place.id place.paths.certPath place.paths.keyPath ∧
        Shaped place.paths.certPath place.paths.keyPath ∧
          place.paths.certPath = (assetPaths around.certDir random name).certPath := by
  have clean := around.certDir.join_clean (plain_sanitizeAssetName random name)
  have listed : Harmless start listCertificates fun rows => rows = start.certificates.rows.reverse :=
    statement_harmless (fun _ => rfl) fun state rows same produced => by
      rw [← Except.ok.inj produced, same]
  refine listed.orFail.bind fun rows known => ?_
  cases known
  split
  · rename_i row found
    have member := List.mem_reverse.mp (existingAssetCertificate_mem found)
    exact .pure ⟨.existing row member rfl rfl rfl, apart.shaped row member, certPath_of_existing found⟩
  · rename_i absent
    have fresh := fresh_of_existing_none clean
      (fun row member => apart.shaped row (List.mem_reverse.mp member)) absent
    let paths := assetPaths around.certDir random name
    have placed : Placed start.certificates 0 paths.certPath paths.keyPath :=
      .new rfl fun row member => fresh row (List.mem_reverse.mpr member)
    exact .pure ⟨placed, shaped_pathsIn clean, rfl⟩

/-- The certificate is put where its name says, or where it is already. -/
structure Operation.Locates (around : Surroundings) (operation : Operation) (certificates : Serial Certificate.id)
    (asset : Asset) : Prop where
  labelled : ∀ label, operation.label? around = some label →
    asset.params.certPath = (assetPaths around.certDir label.random label.name).certPath
  unlabelled : operation.label? around = none → ∃ row ∈ certificates.rows,
    row.certPath = asset.params.certPath ∧ row.keyPath = asset.params.keyPath

theorem prepareImport_harmless (apart : Apart start.certificates) (random : String) (request : ImportRequest) :
    Harmless start (prepareImport around random request) fun asset =>
      Prepared around start.certificates asset ∧ (Operation.importing random request).Locates around start.certificates asset := by
  refine Harmless.bind (Harmless.check fun _ => id) fun found parsed => ?_
  refine (findPlace_harmless apart random _).bind fun place all => ?_
  refine .pure ⟨{ placed := all.1, shaped := all.2.1, matching := ⟨found, parsed, rfl⟩ }, ?_, ?_⟩
  · intro label labelled
    simp only [Operation.label?, parsed, Option.some.injEq] at labelled
    subst labelled
    exact all.2.2
  · intro unlabelled
    simp only [Operation.label?, parsed] at unlabelled
    cases unlabelled

theorem issuedContent_harmless (content : Content) (path : String) (convert : String → Error) :
    Harmless start (issuedContent content path convert) fun _ => True := by
  unfold issuedContent
  split
  · refine Harmless.orFail (Harmless.onFiles fun files => (readFile_triple files).weaken (fun _ => id) ?_ ?_)
    · exact fun _ state same => ⟨same.1 ▸ .refl files, trivial⟩
    · exact fun _ state same => same ▸ .refl files
  · exact .pure trivial

theorem prepareIssue_harmless (apart : Apart start.certificates) (request : IssueRequest)
    (answer : Except String IssueResult) :
    Harmless start (prepareIssue around request answer) fun asset =>
      Prepared around start.certificates asset ∧ (Operation.issuing request answer).Locates around start.certificates asset := by
  refine Harmless.bind (Harmless.check fun _ => id) fun domains normalized => ?_
  refine Harmless.bind (Harmless.check fun _ => id) fun _ _ => ?_
  refine (preflight_harmless domains).bind fun checks _ => ?_
  refine Harmless.bind (Harmless.check fun _ => id) fun _ _ => ?_
  refine (findPlace_harmless apart "" _).bind fun place all => ?_
  refine Harmless.bind (Harmless.check fun _ => id) fun issued _ => ?_
  refine (issuedContent_harmless _ _ _).bind fun certPEM _ => ?_
  refine (issuedContent_harmless _ _ _).bind fun keyPEM _ => ?_
  refine Harmless.bind (Harmless.check fun _ => id) fun found parsed => ?_
  refine .pure ⟨{ placed := all.1, shaped := all.2.1, matching := ⟨found, parsed, rfl⟩ }, ?_, ?_⟩
  · intro label labelled
    simp only [Operation.label?, normalized, Option.some.injEq] at labelled
    subst labelled
    exact all.2.2
  · intro unlabelled
    simp only [Operation.label?, normalized] at unlabelled
    cases unlabelled

theorem prepareRenewal_harmless (apart : Apart start.certificates) {row : Certificate}
    (member : row ∈ start.certificates.rows) (answer : Except String IssueResult) :
    Harmless start (prepareRenewal around row answer) fun asset =>
      Prepared around start.certificates asset ∧ (Operation.renewing row answer).Locates around start.certificates asset := by
  refine Harmless.bind (Harmless.check fun _ => id) fun _ _ => ?_
  refine Harmless.bind (Harmless.check fun _ => id) fun issued _ => ?_
  refine (issuedContent_harmless _ _ _).bind fun certPEM _ => ?_
  refine (issuedContent_harmless _ _ _).bind fun keyPEM _ => ?_
  refine Harmless.bind (Harmless.check fun _ => id) fun found parsed => ?_
  exact .pure ⟨{ placed := .existing row member rfl rfl rfl, shaped := apart.shaped row member
                 matching := ⟨found, parsed, rfl⟩ }, nofun, fun _ => ⟨row, member, rfl, rfl⟩⟩

theorem Operation.prepare_harmless (apart : Apart start.certificates) {operation : Operation}
    (due : operation.isDue start = true) :
    Harmless start (operation.prepare around) fun asset =>
      Prepared around start.certificates asset ∧ operation.Locates around start.certificates asset := by
  cases operation with
  | importing random request => exact prepareImport_harmless apart random request
  | issuing request answer => exact prepareIssue_harmless apart request answer
  | renewing row answer => exact prepareRenewal_harmless apart (of_decide_eq_true due) answer

end MiGate.Cert
