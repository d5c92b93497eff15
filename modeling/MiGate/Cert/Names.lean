import MiGate.Cert.Consistency

namespace MiGate.Cert

open Go Disk Fallible Attempt Relational Transition

/-! A certificate is kept apart from the others if its name leaves something of a file name, and no other
certificate is kept under that. -/

variable {around : Surroundings} {start state after : State} {asset : Asset}

def Label.slug (label : Label) : String :=
  sanitizeAssetName label.random label.name

def Label.paths (around : Surroundings) (label : Label) : AssetPaths :=
  assetPaths around.certDir label.random label.name

/-- The name is that of no stored certificate, but for spaces and case. -/
def Unnamed (label : Label) (state : State) : Prop :=
  ∀ row ∈ state.certificates.rows, toLower (trimSpace row.name) ≠ toLower (trimSpace label.name)

/-- The name leaves a directory of its own. -/
structure Distinct (around : Surroundings) (label : Label) (state : State) : Prop where
  given : label.slug ≠ ""
  free : ∀ row ∈ state.certificates.rows, row.certPath ≠ (label.paths around).certPath

/-- The files of a row are in a proper subdirectory of the directory of certificates. -/
def Housed (around : Surroundings) (row : Certificate) : Prop :=
  ∃ slug name, Plain slug ∧ slug ∉ ["", ".", ".."] ∧ KeyName name ∧
    row.certPath = joinPath (joinPath around.certDir.path slug) "fullchain.pem" ∧
    row.keyPath = joinPath (joinPath around.certDir.path slug) name

/-- The rows that are there stay as they are, and so do their files. -/
def LeavesAlone (before after : State) : Prop :=
  ∀ row ∈ before.certificates.rows, row ∈ after.certificates.rows ∧
    after.files row.certPath = before.files row.certPath ∧ after.files row.keyPath = before.files row.keyPath

/-- A new row is added, with files of its own. -/
def AddsAlone (around : Surroundings) (before after : State) : Prop :=
  ∃ row, after.certificates.rows = before.certificates.rows ++ [row] ∧ Housed around row ∧
    (after.files row.certPath).isSome ∧ (after.files row.keyPath).isSome ∧
    (∀ other ∈ before.certificates.rows, other.certPath ≠ row.certPath ∧ other.keyPath ≠ row.keyPath) ∧
    LeavesAlone before after

/-! ### Slugs -/

/-- Nothing is left to be trimmed. -/
theorem Label.slug_trimmed (label : Label) : trimList isMark label.slug.toList = label.slug.toList := by
  rw [slug, sanitizeAssetName, String.toList_ofList, trimList_idempotent]

theorem Label.slug_proper (label : Label) (given : label.slug ≠ "") : label.slug ∉ ["", ".", ".."] := by
  have trimmed := label.slug_trimmed
  intro among
  simp only [List.mem_cons, List.not_mem_nil, or_false] at among
  rcases among with empty | dot | dots
  · exact given empty
  · rw [dot] at trimmed
    exact absurd trimmed (by decide)
  · rw [dots] at trimmed
    exact absurd trimmed (by decide)

theorem Label.certPath_eq (label : Label) :
    (label.paths around).certPath = joinPath (around.certDir.join label.slug) "fullchain.pem" := by
  rw [paths, assetPaths, pathsIn, slug]

theorem Label.clean (around : Surroundings) (label : Label) : CleanDir (around.certDir.join label.slug) :=
  around.certDir.join_clean (plain_sanitizeAssetName _ _)

/-- A row that is where a name puts it is in a subdirectory if the name leaves something. -/
theorem Housed.of_slug {row : Certificate} {label : Label} (shaped : Shaped row.certPath row.keyPath)
    (located : row.certPath = (label.paths around).certPath) (given : label.slug ≠ "") : Housed around row := by
  obtain ⟨dir, name, clean, keyName, certPath, keyPath⟩ := shaped
  have inside : around.certDir.join label.slug = joinPath around.certDir.path label.slug := if_neg given
  have same : joinPath dir "fullchain.pem" = joinPath (around.certDir.join label.slug) "fullchain.pem" := by
    rw [← certPath, located, label.certPath_eq]
  have directory := (joinPath_inj clean (label.clean around) plain_fullchain plain_fullchain same).1
  rw [inside] at directory
  refine ⟨label.slug, name, plain_sanitizeAssetName _ _, label.slug_proper given, keyName, ?_, ?_⟩
  · rw [certPath, directory]
  · rw [keyPath, directory]

/-- A row in a subdirectory is not where a name puts it that leaves nothing. -/
theorem Housed.given {row : Certificate} {label : Label} (housed : Housed around row)
    (located : row.certPath = (label.paths around).certPath) : label.slug ≠ "" := by
  intro empty
  obtain ⟨slug, name, plain, proper, keyName, certPath, keyPath⟩ := housed
  have root : around.certDir.join label.slug = around.certDir.path := if_pos empty
  have some : slug ≠ "" := fun none => proper (none ▸ List.mem_cons_self)
  have clean := around.certDir.cleanDir
  have same : joinPath (joinPath around.certDir.path slug) "fullchain.pem" = joinPath around.certDir.path "fullchain.pem" := by
    rw [← certPath, located, label.certPath_eq, root]
  have directory := (joinPath_inj (clean.joinPath plain some) clean plain_fullchain plain_fullchain same).1
  have runes := joinPath_toList clean slug
  rw [directory] at runes
  split at runes
  · rename_i slash
    have one : slug.toList = [] := by simpa [slash, show "/".toList = ['/'] by decide] using runes.symm
    exact some (String.toList_eq_nil_iff.mp one)
  · have length := congrArg List.length runes
    simp at length

/-! ### Operations -/

theorem Stored.changed (stored : Stored asset start after) : Partial asset start after where
  certificates := .inr stored.certificates
  files path lasting apart apart' := by
    rw [stored.files path lasting, Function.update_of_ne apart', Function.update_of_ne apart]

/-- The asset is a new one if no row has the path. -/
theorem Prepared.unnamed (prepared : Prepared around start.certificates asset)
    (free : ∀ row ∈ start.certificates.rows, row.certPath ≠ asset.params.certPath) : asset.params.id = 0 := by
  cases prepared.placed with
  | existing row member named cert key => exact absurd cert (free row member)
  | new unnamed fresh => exact unnamed

theorem upserted_of_unnamed {params : UpsertCertificateParams} {certificates : Serial Certificate.id}
    (unnamed : params.id = 0) :
    (upserted params certificates).rows = certificates.rows ++ [params.row certificates.next] := by
  rw [upserted, if_neg (by omega)]
  rfl

theorem LeavesAlone.of_changed (apart : Apart start.certificates) (prepared : Prepared around start.certificates asset)
    (free : ∀ row ∈ start.certificates.rows, row.certPath ≠ asset.params.certPath)
    (changed : Partial asset start after) : LeavesAlone start after := by
  intro row member
  have shaped := apart.shaped row member
  have other := free row member
  refine ⟨?_, ?_, ?_⟩
  · rcases changed.certificates with same | added
    · rw [same]
      exact member
    · rw [added, upserted_of_unnamed (prepared.unnamed free)]
      exact List.mem_append_left _ member
  · exact changed.files _ shaped.not_temporary.1 other (shaped.cert_ne_key prepared.shaped)
  · exact changed.files _ shaped.not_temporary.2 (Ne.symm (prepared.shaped.cert_ne_key shaped))
      (shaped.key_ne_key prepared.shaped other)

theorem Partial.apart (apart : Apart start.certificates) (prepared : Prepared around start.certificates asset)
    (changed : Partial asset start after) : Apart after.certificates := by
  rcases changed.certificates with same | added
  · rw [same]
    exact apart
  · rw [added]
    exact apart.upserted prepared.placed prepared.shaped

/-- An asset that has been stored is new and apart just if its name leaves a directory of its own. -/
theorem addsAlone_iff {label : Label} (apart : Apart start.certificates)
    (prepared : Prepared around start.certificates asset)
    (located : asset.params.certPath = (label.paths around).certPath) (stored : Stored asset start after) :
    AddsAlone around start after ↔ Distinct around label start := by
  constructor
  · intro added
    obtain ⟨row, rows, housed, _⟩ := added
    rw [stored.certificates] at rows
    cases prepared.placed with
    | existing own member named cert key =>
        have positive : 0 < asset.params.id := named ▸ start.certificates.positive own member
        have length := congrArg List.length rows
        rw [upserted, if_pos positive] at length
        simp [Serial.modifyWhere] at length
    | new unnamed fresh =>
        rw [upserted_of_unnamed unnamed, List.append_cancel_left_eq, List.singleton_inj] at rows
        have place : row.certPath = (label.paths around).certPath := by
          rw [← rows]
          exact located
        exact ⟨housed.given place, fun other member => located ▸ fresh other member⟩
  · intro distinct
    have free : ∀ row ∈ start.certificates.rows, row.certPath ≠ asset.params.certPath :=
      fun row member => located ▸ distinct.free row member
    have certNeKey := prepared.shaped.cert_ne_key prepared.shaped
    obtain ⟨lastingCert, lastingKey⟩ := prepared.shaped.not_temporary
    refine ⟨asset.params.row start.certificates.next, ?_, .of_slug prepared.shaped located distinct.given, ?_, ?_, ?_, ?_⟩
    · rw [stored.certificates, upserted_of_unnamed (prepared.unnamed free)]
    · change (after.files asset.params.certPath).isSome
      rw [stored.files _ lastingCert, Function.update_of_ne certNeKey, Function.update_self, Option.isSome_some]
    · change (after.files asset.params.keyPath).isSome
      rw [stored.files _ lastingKey, Function.update_self, Option.isSome_some]
    · exact fun other member => ⟨free other member, (apart.shaped other member).key_ne_key prepared.shaped (free other member)⟩
    · exact .of_changed apart prepared free stored.changed

/-! ### Runs -/

/-- What becomes of the table and the files in a turn. -/
inductive Ended (around : Surroundings) (turn : Turn) (start : State) : Except Error Certificate × State → Prop where
  | stored (certificate : Certificate) (after : State) (asset : Asset)
      (prepared : Prepared around start.certificates asset)
      (locates : turn.operation.Locates around start.certificates asset) (stored : Stored asset start after) :
      Ended around turn start (.ok certificate, after)
  | unharmed (reason : Error) (after : State) (unharmed : Unharmed start after) : Ended around turn start (.error reason, after)
  | broken (reason : Error) (after : State) (asset : Asset)
      (prepared : Prepared around start.certificates asset)
      (locates : turn.operation.Locates around start.certificates asset) (changed : Partial asset start after) :
      Ended around turn start (.error reason, after)

theorem Prepared.at {now : Int} (prepared : Prepared { around with now } start.certificates asset) :
    Prepared around start.certificates asset :=
  ⟨prepared.placed, prepared.shaped, prepared.matching⟩

theorem Operation.Locates.at {operation : Operation} {now : Int}
    (locates : operation.Locates { around with now } start.certificates asset) :
    operation.Locates around start.certificates asset := by
  cases operation with
  | importing random request => exact ⟨locates.labelled, locates.unlabelled⟩
  | issuing request answer => exact ⟨locates.labelled, locates.unlabelled⟩
  | renewing row answer => exact ⟨locates.labelled, locates.unlabelled⟩

theorem Turn.run_ended (apart : Apart start.certificates) {turn : Turn} (due : turn.operation.isDue start = true) :
    Ended around turn start (turn.run around start) := by
  let current := { around with now := turn.now }
  have ran := @Operation.run_triple current start apart turn.operation due turn.outcomes start 0 (.refl start)
  unfold Turn.run
  dsimp only
  cases done : turn.operation.run current turn.outcomes (start, 0) with
  | mk result session =>
      obtain ⟨after, met⟩ := session
      rw [done] at ran
      cases result with
      | ok certificate =>
          obtain ⟨asset, prepared, locates, stored⟩ := ran
          exact .stored certificate after asset prepared.at locates.at stored
      | error reason =>
          rcases ran with unharmed | ⟨asset, prepared, locates, changed⟩
          · exact .unharmed reason after unharmed
          · exact .broken reason after asset prepared.at locates.at changed

theorem Ended.apart (apart : Apart start.certificates) {turn : Turn} {ended : Except Error Certificate × State}
    (done : Ended around turn start ended) : Apart ended.2.certificates := by
  cases done with
  | stored certificate after asset prepared locates stored => exact stored.changed.apart apart prepared
  | unharmed reason after unharmed => exact unharmed.certificates ▸ apart
  | broken reason after asset prepared locates changed => exact changed.apart apart prepared

theorem serve_ended (apart : Apart start.certificates) {turn : Turn} (served : serve around turn start = some after) :
    ∃ result, Ended around turn start (result, after) := by
  unfold serve at served
  split at served
  · rename_i due
    cases served
    exact ⟨_, Turn.run_ended apart due⟩
  · cases served

theorem reach_apart (apart : Apart start.certificates) (reached : Reach (Steps (serve around)) start state) :
    Apart state.certificates := by
  induction reached with
  | start => exact apart
  | step earlier served held =>
      obtain ⟨result, done⟩ := serve_ended held served
      exact done.apart held

/-- Every name leaves something. -/
def Named (around : Surroundings) (turn : Turn) (_ : State) : Prop :=
  ∀ label, turn.operation.label? around = some label → label.slug ≠ ""

theorem Prepared.housed {operation : Operation} (apart : Apart start.certificates)
    (housed : ∀ row ∈ start.certificates.rows, Housed around row)
    (named : ∀ label, operation.label? around = some label → label.slug ≠ "")
    (prepared : Prepared around start.certificates asset) (locates : operation.Locates around start.certificates asset) :
    ∀ row ∈ (upserted asset.params start.certificates).rows, Housed around row := by
  intro row member
  rcases mem_upserted apart prepared.placed member with new | old
  · obtain ⟨number, rfl⟩ := new
    cases labelled : operation.label? around with
    | some label => exact .of_slug prepared.shaped (locates.labelled label labelled) (named label labelled)
    | none =>
        obtain ⟨own, member, cert, key⟩ := locates.unlabelled labelled
        obtain ⟨slug, name, plain, proper, keyName, certPath, keyPath⟩ := housed own member
        exact ⟨slug, name, plain, proper, keyName, cert.symm.trans certPath, key.symm.trans keyPath⟩
  · exact housed row old.1

/-- A name that leaves something keeps the rows in subdirectories. -/
theorem Ended.housed {turn : Turn} {ended : Except Error Certificate × State} (apart : Apart start.certificates)
    (housed : ∀ row ∈ start.certificates.rows, Housed around row) (named : Named around turn start)
    (done : Ended around turn start ended) : ∀ row ∈ ended.2.certificates.rows, Housed around row := by
  cases done with
  | stored certificate after asset prepared locates stored =>
      exact stored.certificates ▸ prepared.housed apart housed named locates
  | unharmed reason after unharmed => exact unharmed.certificates ▸ housed
  | broken reason after asset prepared locates changed =>
      rcases changed.certificates with same | added
      · exact same ▸ housed
      · exact added ▸ prepared.housed apart housed named locates

theorem isDue_of_label {operation : Operation} {label : Label} (labelled : operation.label? around = some label)
    (state : State) : operation.isDue state = true := by
  cases operation with
  | importing random request => rfl
  | issuing request answer => rfl
  | renewing row answer => cases labelled

theorem reach_housed (apart : Apart start.certificates) (housed : ∀ row ∈ start.certificates.rows, Housed around row)
    (reached : Reach (Guarded (Named around) (Steps (serve around))) start state) :
    ∀ row ∈ state.certificates.rows, Housed around row := by
  induction reached with
  | start => exact housed
  | @step before after turn earlier taken ih =>
      have held := reach_apart apart earlier.unguarded
      obtain ⟨named, served⟩ := taken
      obtain ⟨result, done⟩ := serve_ended held served
      exact done.housed held ih named

theorem named_certificates_apart {around : Surroundings} {start state : State} (apart : Apart start.certificates)
    (reached : Reach (Steps (serve around)) start state) :
    (∀ (turn : Turn) (label : Label), turn.operation.label? around = some label →
      (∀ certificate after, turn.run around state = (.ok certificate, after) →
        (AddsAlone around state after ↔ Distinct around label state)) ∧
      (Distinct around label state → ∀ result after, turn.run around state = (result, after) → LeavesAlone state after)) ∧
    ((∀ row ∈ start.certificates.rows, Housed around row) →
      Reach (Guarded (Named around) (Steps (serve around))) start state → ∀ row ∈ state.certificates.rows, Housed around row) := by
  refine ⟨fun turn label labelled => ?_, fun housed named => reach_housed apart housed named⟩
  have held := reach_apart apart reached
  have done := @Turn.run_ended around state held turn (isDue_of_label labelled state)
  constructor
  · intro certificate after ran
    rw [ran] at done
    cases done with
    | stored _ _ asset prepared locates stored =>
        exact addsAlone_iff held prepared (locates.labelled label labelled) stored
  · intro distinct result after ran
    have free : ∀ asset, turn.operation.Locates around state.certificates asset →
        ∀ row ∈ state.certificates.rows, row.certPath ≠ asset.params.certPath :=
      fun asset locates row member => locates.labelled label labelled ▸ distinct.free row member
    rw [ran] at done
    cases done with
    | stored certificate _ asset prepared locates stored =>
        exact .of_changed held prepared (free asset locates) stored.changed
    | unharmed reason _ unharmed =>
        intro row member
        have shaped := held.shaped row member
        exact ⟨unharmed.certificates ▸ member, unharmed.files _ shaped.not_temporary.1,
          unharmed.files _ shaped.not_temporary.2⟩
    | broken reason _ asset prepared locates changed => exact .of_changed held prepared (free asset locates) changed

def exampleNamed (name text : String) : Turn where
  operation := .importing "" { name, fullchain := text, key := text }
  now := 0
  outcomes := exampleOutcomes none

/-- Where the import of one certificate leads to. -/
def exampleStored (name : String) : State :=
  arrive (serve exampleAround) [exampleNamed name "A"] exampleEmpty

theorem example_named_certificates_apart :
    (∀ (turn : Turn) (label : Label), turn.operation.label? exampleAround = some label →
      (∀ certificate after, turn.run exampleAround (exampleStored "a b") = (.ok certificate, after) →
        (AddsAlone exampleAround (exampleStored "a b") after ↔ Distinct exampleAround label (exampleStored "a b"))) ∧
      (Distinct exampleAround label (exampleStored "a b") → ∀ result after,
        turn.run exampleAround (exampleStored "a b") = (result, after) → LeavesAlone (exampleStored "a b") after)) ∧
    ((∀ row ∈ exampleEmpty.certificates.rows, Housed exampleAround row) →
      Reach (Guarded (Named exampleAround) (Steps (serve exampleAround))) exampleEmpty (exampleStored "a b") →
        ∀ row ∈ (exampleStored "a b").certificates.rows, Housed exampleAround row) :=
  named_certificates_apart { shaped := nofun, distinct := List.nodup_nil } (Reach.arrive _ _ _)

/-- A name with another mark replaces the first certificate; one without a letter or digit has no subdirectory. -/
theorem similar_name_replaces :
    (∃ (state : State) (turn : Turn) (label : Label), Reach (Steps (serve exampleAround)) exampleEmpty state ∧
      turn.operation.label? exampleAround = some label ∧ Unnamed label state ∧
      (turn.run exampleAround state).1.toOption.isSome ∧ ¬ LeavesAlone state (turn.run exampleAround state).2) ∧
    ∃ state, Reach (Steps (serve exampleAround)) exampleEmpty state ∧
      ∃ row ∈ state.certificates.rows, ¬ Housed exampleAround row := by
  constructor
  · refine ⟨exampleStored "a b", exampleNamed "a-b" "B", ⟨"a-b", ""⟩, Reach.arrive _ _ _, ?_, ?_, ?_, ?_⟩
    · decide +kernel
    · unfold Unnamed
      decide +kernel
    · decide +kernel
    · intro alone
      have replaced : ∃ row ∈ (exampleStored "a b").certificates.rows,
          row ∉ ((exampleNamed "a-b" "B").run exampleAround (exampleStored "a b")).2.certificates.rows := by
        decide +kernel
      obtain ⟨row, member, missing⟩ := replaced
      exact missing (alone row member).1
  · refine ⟨exampleStored "中文", Reach.arrive _ _ _, ?_⟩
    have located : ∃ row ∈ (exampleStored "中文").certificates.rows,
        row.certPath = ((⟨"中文", ""⟩ : Label).paths exampleAround).certPath := by
      decide +kernel
    obtain ⟨row, member, place⟩ := located
    exact ⟨row, member, fun housed => housed.given place (by decide +kernel)⟩

end MiGate.Cert
