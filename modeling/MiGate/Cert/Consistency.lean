import MiGate.Cert.Storing
import MiGate.Transition.Reach

namespace MiGate.Cert

open Disk Fallible Attempt Relational Transition

/-! The files and the row of a certificate belong together after every operation none of whose calls fails
once the certificate's file has been replaced. -/

variable {around : Surroundings} {start state after : State} {asset : Asset}
/-- The files of a row are a certificate and its key, and the fingerprint is theirs. -/
def Agrees (around : Surroundings) (files : Files) (row : Certificate) : Prop :=
  ∃ certPEM keyPEM found, files row.certPath = some certPEM ∧ files row.keyPath = some keyPEM ∧
    around.parseCertificatePair certPEM keyPEM = .ok found ∧ found.fingerprint = row.fingerprint

/-- What holds between the operations. -/
structure Sound (around : Surroundings) (state : State) : Prop where
  apart : Apart state.certificates
  agrees : ∀ row ∈ state.certificates.rows, Agrees around state.files row

theorem Sound.stored (sound : Sound around start) (prepared : Prepared around start.certificates asset)
    (stored : Stored asset start after) : Sound around after where
  apart := stored.certificates ▸ sound.apart.upserted prepared.placed prepared.shaped
  agrees := by
    intro row member
    rw [stored.certificates] at member
    obtain ⟨lastingCert, lastingKey⟩ := prepared.shaped.not_temporary
    have certNeKey := prepared.shaped.cert_ne_key prepared.shaped
    rcases mem_upserted sound.apart prepared.placed member with written | old
    · obtain ⟨number, rfl⟩ := written
      obtain ⟨found, parsed, fingerprint⟩ := prepared.matching
      have cert : after.files asset.params.certPath = some asset.certPEM := by
        rw [stored.files _ lastingCert, Function.update_of_ne certNeKey, Function.update_self]
      have key : after.files asset.params.keyPath = some asset.keyPEM := by
        rw [stored.files _ lastingKey, Function.update_self]
      exact ⟨_, _, found, cert, key, parsed, fingerprint⟩
    · obtain ⟨oldMember, apart⟩ := old
      have shaped := sound.apart.shaped row oldMember
      obtain ⟨certPEM, keyPEM, found, cert, key, parsed, fingerprint⟩ := sound.agrees row oldMember
      have cert' : after.files row.certPath = some certPEM := by
        rw [stored.files _ shaped.not_temporary.1, Function.update_of_ne (shaped.cert_ne_key prepared.shaped),
          Function.update_of_ne apart, cert]
      have key' : after.files row.keyPath = some keyPEM := by
        rw [stored.files _ shaped.not_temporary.2, Function.update_of_ne (shaped.key_ne_key prepared.shaped apart),
          Function.update_of_ne (Ne.symm (prepared.shaped.cert_ne_key shaped)), key]
      exact ⟨certPEM, keyPEM, found, cert', key', parsed, fingerprint⟩

theorem Sound.unharmed (sound : Sound around start) (unharmed : Unharmed start after) : Sound around after where
  apart := unharmed.certificates ▸ sound.apart
  agrees := by
    intro row member
    rw [unharmed.certificates] at member
    have shaped := sound.apart.shaped row member
    obtain ⟨certPEM, keyPEM, found, cert, key, matching⟩ := sound.agrees row member
    exact ⟨certPEM, keyPEM, found, (unharmed.files _ shaped.not_temporary.1).trans cert,
      (unharmed.files _ shaped.not_temporary.2).trans key, matching⟩

/-- If the certificate's file is replaced, every later call goes well but for that which removes a file that is
not there any more. -/
def Undisturbed (around : Surroundings) (turn : Turn) (state : State) : Prop :=
  ∀ asset between met, turn.operation.begin { around with now := turn.now } turn.outcomes (state, 0) =
    (.ok asset, between, met) → Meets turn.outcomes met (finishConditions asset between.files)

/-- What becomes of one operation. -/
theorem Turn.run_sound {turn : Turn} (sound : Sound around start) (due : turn.operation.isDue start = true)
    (undisturbed : Undisturbed around turn start) :
    Sound around (turn.run around start).2 ∧
      ∀ reason, (turn.run around start).1 = .error reason → Unharmed start (turn.run around start).2 := by
  let current := { around with now := turn.now }
  have begun := @Operation.begin_triple current start sound.apart turn.operation due turn.outcomes start 0 (.refl start)
  unfold Turn.run
  dsimp only
  rw [Operation.run_eq]
  cases ran : turn.operation.begin current turn.outcomes (start, 0) with
  | mk result session =>
      obtain ⟨between, met⟩ := session
      rw [ran] at begun
      cases result with
      | error reason =>
          rw [bind_eq_of_error ran]
          exact ⟨sound.unharmed begun, fun _ _ => begun⟩
      | ok asset =>
          obtain ⟨replaced, prepared, _⟩ := begun
          obtain ⟨certificate, after, ended, stored⟩ := finish_succeeds prepared replaced turn.outcomes between met
            (undisturbed asset between met ran) rfl
          rw [bind_eq_of_ok ran, ended]
          have known : Sound current start := ⟨sound.apart, sound.agrees⟩
          have now := known.stored prepared stored
          exact ⟨⟨now.apart, now.agrees⟩, nofun⟩

theorem files_and_rows_agree {around : Surroundings} {start state : State} (sound : Sound around start)
    (reached : Reach (Guarded (Undisturbed around) (Steps (serve around))) start state) :
    (∀ row ∈ state.certificates.rows, Agrees around state.files row) ∧
      ∀ turn, turn.operation.isDue state = true → Undisturbed around turn state →
        ∀ reason after, turn.run around state = (.error reason, after) →
          after.certificates = state.certificates ∧ Unaffected state.files after.files := by
  have holds : Sound around state := by
    induction reached with
    | start => exact sound
    | step _ taken ih =>
        obtain ⟨undisturbed, served⟩ := taken
        unfold Steps serve at served
        split at served
        · rename_i due
          cases served
          exact (Turn.run_sound ih due undisturbed).1
        · cases served
  refine ⟨holds.agrees, fun turn due undisturbed reason after failed => ?_⟩
  have unharmed := (Turn.run_sound holds due undisturbed).2 reason (by rw [failed])
  rw [failed] at unharmed
  exact ⟨unharmed.certificates, unharmed.files⟩

/-- A certificate is its own key, and its text is its fingerprint. -/
def exampleAround : Surroundings where
  parseCertificatePair certPEM keyPEM :=
    if certPEM = keyPEM then
      .ok { domains := [], notBefore := 0, notAfter := 0, serial := ""
            fingerprint := String.ofList (certPEM.map fun byte => Char.ofNat byte.toNat) }
    else .error { code := "private_key_mismatch", detail := "" }
  addressError _ := none
  now := 0
  certDir := { path := "/etc/migate/certs", given := by decide, clean := .inr (by decide) }

/-- Every call works but for one, if there is one. -/
def exampleOutcomes (broken : Option Nat) (number : Nat) : Outcome :=
  { fault := if broken = some number then some "no space left on device" else none, left := [], output := "", random := number }

def exampleImport (text : String) (broken : Option Nat) : Turn where
  operation := .importing "" { name := "main", fullchain := text, key := text }
  now := 0
  outcomes := exampleOutcomes broken

def exampleEmpty : State :=
  { files := fun _ => none, certificates := .empty }

theorem exampleImport_undisturbed : Undisturbed exampleAround (exampleImport "A" none) exampleEmpty := by
  intro asset between met ran
  let begun := (exampleImport "A" none).operation.begin { exampleAround with now := 0 } (exampleOutcomes none)
    (exampleEmpty, 0)
  have path : begun.1.map (fun asset => asset.params.keyPath) = .ok "/etc/migate/certs/main/privkey.key" := by
    with_unfolding_all decide
  have free : ∀ number ∈ [11], begun.2.1.files (besidePath "/etc/migate/certs/main/privkey.key" number) = none := by
    with_unfolding_all decide
  have count : begun.2.2 = 10 := by with_unfolding_all decide
  have reached : begun = (.ok asset, between, met) := ran
  rw [reached] at path free count
  have smooth : ∀ number, Faultless (exampleOutcomes none number) := fun number => rfl
  have keyPath : asset.params.keyPath = "/etc/migate/certs/main/privkey.key" := Except.ok.inj path
  dsimp only at count
  subst count
  refine ⟨smooth _, ⟨smooth _, ?_⟩, smooth _, smooth _, smooth _, smooth _, smooth _, trivial, smooth _, smooth _,
    smooth _, trivial⟩
  rw [keyPath]
  exact free 11 (List.mem_singleton_self 11)

/-- Where an import leads to. -/
def exampleImported : State :=
  arrive (serve exampleAround) [exampleImport "A" none] exampleEmpty

theorem example_files_and_rows_agree :
    (∀ row ∈ exampleImported.certificates.rows, Agrees exampleAround exampleImported.files row) ∧
      ∀ turn, turn.operation.isDue exampleImported = true → Undisturbed exampleAround turn exampleImported →
        ∀ reason after, turn.run exampleAround exampleImported = (.error reason, after) →
          after.certificates = exampleImported.certificates ∧ Unaffected exampleImported.files after.files := by
  have sound : Sound exampleAround exampleEmpty :=
    { apart := { shaped := nofun, distinct := List.nodup_nil }, agrees := nofun }
  have served : Steps (serve exampleAround) (exampleImport "A" none) exampleEmpty exampleImported :=
    arrive_single (by decide)
  exact files_and_rows_agree sound (.step .start ⟨exampleImport_undisturbed, served⟩)

/-- The disk is full when the second key is written. -/
def exampleInterrupted : State :=
  arrive (serve exampleAround) [exampleImport "A" none, exampleImport "B" (some 12)] exampleEmpty

theorem interrupted_key_left_behind :
    ∃ state, Reach (Steps (serve exampleAround)) exampleEmpty state ∧
      ∃ row ∈ state.certificates.rows, ¬ Agrees exampleAround state.files row := by
  refine ⟨exampleInterrupted, Reach.arrive _ _ _, ?_⟩
  have kept : ∃ row ∈ exampleInterrupted.certificates.rows,
      exampleInterrupted.files row.certPath = some [66] ∧ exampleInterrupted.files row.keyPath = some [65] := by
    with_unfolding_all decide
  obtain ⟨row, member, certFile, keyFile⟩ := kept
  refine ⟨row, member, fun agrees => ?_⟩
  obtain ⟨certPEM, keyPEM, found, cert, key, parsed, _⟩ := agrees
  cases certFile.symm.trans cert
  cases keyFile.symm.trans key
  have mismatch : exampleAround.parseCertificatePair [66] [65] = .error { code := "private_key_mismatch", detail := "" } := by
    decide
  cases mismatch.symm.trans parsed

end MiGate.Cert
