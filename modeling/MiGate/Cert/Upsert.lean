import MiGate.Cert.Placement

namespace MiGate.Cert

open Disk Fallible Attempt Relational

/-! The row of a certificate. -/

variable {state after : State}

/-- What the table is after an upsert. -/
def upserted (params : UpsertCertificateParams) (certificates : Serial Certificate.id) : Serial Certificate.id :=
  if 0 < params.id then
    certificates.modifyWhere (fun row => row.id == params.id) (fun row => params.row row.id) params.keeps_id
  else certificates.insert params.row params.row_id

theorem statement_succeeds {α : Type} {effect : State → Except String α × State} {value : α}
    (effective : effect state = (.ok value, after)) :
    Succeeds [Faultless] (fun begun => begun = state) (statement effect) fun result ended => result = value ∧ ended = after := by
  apply Succeeds.step
  intro outcome begun smooth given
  cases given
  exact ⟨value, after, by rw [smooth]; exact effective, rfl, rfl⟩

theorem driverResult_succeeds : Succeeds [Faultless] (fun begun => begun = state) driverResult fun _ ended => ended = state := by
  have settled : Succeeds [Faultless] (fun files => files = state.files) settle fun _ files => files = state.files :=
    settle_succeeds
  unfold driverResult onFiles
  refine Succeeds.within (settled.weaken (fun _ => id) fun _ files same => ?_) rfl
  rw [same]

theorem updateCertificate_succeeds {params : UpsertCertificateParams} (positive : 0 < params.id) :
    Succeeds [Faultless] (fun begun => begun = state) (updateCertificate params) fun affected ended =>
      affected = (state.certificates.rows.countP fun row => row.id == params.id) ∧
        ended = { state with certificates := upserted params state.certificates } := by
  rw [upserted, if_pos positive]
  exact statement_succeeds rfl

theorem insertCertificate_succeeds {params : UpsertCertificateParams} (unnamed : ¬ 0 < params.id) :
    Succeeds [Faultless] (fun begun => begun = state) (insertCertificate params) fun id ended =>
      id = state.certificates.next ∧ ended = { state with certificates := upserted params state.certificates } := by
  rw [upserted, if_neg unnamed]
  exact statement_succeeds rfl

theorem getCertificate_succeeds {wanted : Int} (present : wanted ∈ state.certificates.rows.map Certificate.id) :
    Succeeds [Faultless] (fun begun => begun = state) (getCertificate wanted) fun _ ended => ended = state := by
  obtain ⟨row, found⟩ := Option.isSome_iff_exists.mp (Serial.find?_isSome.mpr present)
  have read : Succeeds [Faultless] (fun begun => begun = state) (getCertificate wanted) fun result ended =>
      result = row ∧ ended = state := by
    refine statement_succeeds ?_
    rw [found]
  exact read.weaken (fun _ => id) fun _ _ both => both.2

/-- The row that has been written is found under its number. -/
theorem id_mem_upserted {params : UpsertCertificateParams} {certificates : Serial Certificate.id}
    (placed : Placed certificates params.id params.certPath params.keyPath) :
    (if 0 < params.id then params.id else certificates.next) ∈ (upserted params certificates).rows.map Certificate.id := by
  unfold upserted
  cases placed with
  | existing row member named cert key =>
      have positive : 0 < params.id := named ▸ certificates.positive row member
      rw [if_pos positive, if_pos positive, Serial.map_modifyWhere Certificate.id _ _ _ _ fun row _ _ => params.row_id row.id]
      exact named ▸ List.mem_map_of_mem member
  | new unnamed fresh =>
      rw [unnamed, if_neg (by decide), if_neg (by decide), Serial.map_insert, params.row_id]
      exact List.mem_append_right _ (List.mem_singleton_self _)

theorem upsertCertificate_succeeds {params : UpsertCertificateParams}
    (placed : Placed state.certificates params.id params.certPath params.keyPath) :
    Succeeds [Faultless, Faultless, Faultless] (fun begun => begun = state) (upsertCertificate params)
      fun _ ended => ended = { state with certificates := upserted params state.certificates } := by
  have present := id_mem_upserted placed
  unfold upsertCertificate
  cases placed with
  | existing row member named cert key =>
      have positive : 0 < params.id := named ▸ state.certificates.positive row member
      rw [if_pos positive] at present ⊢
      have found : 0 < state.certificates.rows.countP fun row => row.id == params.id :=
        List.countP_pos_iff.mpr ⟨row, member, beq_iff_eq.mpr named⟩
      refine Succeeds.bind (updateCertificate_succeeds positive) fun affected => ?_
      apply Succeeds.each
      intro written both
      obtain ⟨rfl, rfl⟩ := both
      refine driverResult_succeeds.bind fun _ => ?_
      have met : require (state.certificates.rows.countP (fun row => row.id == params.id) != 0)
          (certificateNotFound params.id) = .ok () := by
        rw [require, if_pos (bne_iff_ne.mpr (Nat.ne_of_gt found))]
      rw [met]
      refine Succeeds.check.bind fun _ => getCertificate_succeeds present
  | new unnamed fresh =>
      have zero : ¬ 0 < params.id := by omega
      rw [if_neg zero] at present ⊢
      refine Succeeds.bind (insertCertificate_succeeds zero) fun id => ?_
      apply Succeeds.each
      intro written both
      obtain ⟨rfl, rfl⟩ := both
      exact driverResult_succeeds.bind fun _ => getCertificate_succeeds present

theorem statement_triple {α : Type} {effect : State → Except String α × State} :
    Triple (fun begun => begun = state) (statement effect) (fun value ended => effect state = (.ok value, ended))
      fun reason ended => ended = state ∨ effect state = (.error reason, ended) := by
  apply Triple.step
  · intro outcome begun value ended given ran
    cases given
    split at ran
    · cases ran
    · exact ran
  · intro outcome begun reason ended given ran
    cases given
    split at ran
    · cases ran
      exact .inl rfl
    · exact .inr ran

/-- Also a failure leaves the table as it was, or as it is to be. -/
theorem upsertCertificate_triple {params : UpsertCertificateParams} :
    Triple (fun begun => begun = state) (upsertCertificate params)
      (fun _ ended => ended = { state with certificates := upserted params state.certificates })
      fun _ ended => ended = state ∨ ended = { state with certificates := upserted params state.certificates } := by
  let written := { state with certificates := upserted params state.certificates }
  have result : Triple (fun begun => begun = written) driverResult (fun _ ended => ended = written)
      fun _ ended => ended = state ∨ ended = written := by
    have settled : Triple (fun files => files = written.files) settle (fun _ files => files = written.files)
        fun _ files => files = written.files := settle_triple
    unfold driverResult onFiles
    refine Triple.within (settled.weaken (fun _ => id) ?_ ?_) rfl
    · intro _ files same
      rw [same]
    · intro _ files same
      rw [same]
      exact .inr rfl
  have reading : ∀ wanted, Triple (fun begun => begun = written) (getCertificate wanted) (fun _ ended => ended = written)
      fun _ ended => ended = state ∨ ended = written := by
    intro wanted
    refine (statement_reads fun state => ?_).weaken (fun _ => id) (fun _ _ both => both.1) fun _ _ same => .inr same
    cases state.certificates.find? wanted with
    | some row => rfl
    | none => rfl
  unfold upsertCertificate
  by_cases positive : 0 < params.id
  · have updated : Triple (fun begun => begun = state) (updateCertificate params) (fun _ ended => ended = written)
        fun _ ended => ended = state ∨ ended = written := by
      refine statement_triple.weaken (fun _ => id) ?_ ?_
      · intro affected ended ran
        rw [show written = { state with certificates := upserted params state.certificates } from rfl, upserted,
          if_pos positive]
        exact (Prod.mk.inj ran).2.symm
      · intro reason ended either
        rcases either with same | ran
        · exact .inl same
        · cases ran
    rw [if_pos positive]
    refine updated.bind fun affected => result.bind fun _ => ?_
    refine Triple.bind (Triple.check (fun _ _ _ => id) fun _ _ _ => .inr) fun _ => reading params.id
  · have inserted : Triple (fun begun => begun = state) (insertCertificate params) (fun _ ended => ended = written)
        fun _ ended => ended = state ∨ ended = written := by
      refine statement_triple.weaken (fun _ => id) ?_ ?_
      · intro number ended ran
        rw [show written = { state with certificates := upserted params state.certificates } from rfl, upserted,
          if_neg positive]
        exact (Prod.mk.inj ran).2.symm
      · intro reason ended either
        rcases either with same | ran
        · exact .inl same
        · cases ran
    rw [if_neg positive]
    exact inserted.bind fun number => result.bind fun _ => reading number

section Upserted

variable {params : UpsertCertificateParams} {certificates : Serial Certificate.id}

/-- Every row is the one that has been written, or an old one with another path. -/
theorem mem_upserted (apart : Apart certificates) (placed : Placed certificates params.id params.certPath params.keyPath)
    {row : Certificate} (member : row ∈ (upserted params certificates).rows) :
    (∃ number, row = params.row number) ∨ row ∈ certificates.rows ∧ row.certPath ≠ params.certPath := by
  unfold upserted at member
  cases placed with
  | existing own ownMember named cert key =>
      have positive : 0 < params.id := named ▸ certificates.positive own ownMember
      rw [if_pos positive, Serial.mem_modifyWhere] at member
      obtain ⟨old, oldMember, changed⟩ := member
      split at changed
      · exact .inl ⟨_, changed.symm⟩
      · rename_i other
        subst changed
        refine .inr ⟨oldMember, fun same => other ?_⟩
        have one : old = own := List.inj_on_of_nodup_map apart.distinct oldMember ownMember (same.trans cert.symm)
        rw [one, named, beq_self_eq_true]
  | new unnamed fresh =>
      have zero : ¬ 0 < params.id := by omega
      rw [if_neg zero, Serial.mem_insert] at member
      rcases member with old | written
      · exact .inr ⟨old, fresh row old⟩
      · exact .inl ⟨_, written⟩

theorem nodup_upserted (apart : Apart certificates)
    (placed : Placed certificates params.id params.certPath params.keyPath) :
    ((upserted params certificates).rows.map Certificate.certPath).Nodup := by
  unfold upserted
  cases placed with
  | existing own ownMember named cert key =>
      have positive : 0 < params.id := named ▸ certificates.positive own ownMember
      rw [if_pos positive, Serial.map_modifyWhere Certificate.certPath]
      · exact apart.distinct
      · intro row member chosen
        have same : row.id = own.id := (beq_iff_eq.mp chosen).trans named.symm
        rw [Serial.eq_of_id_eq member ownMember same]
        exact cert.symm
  | new unnamed fresh =>
      have zero : ¬ 0 < params.id := by omega
      rw [if_neg zero, Serial.map_insert, ← List.concat_eq_append, List.nodup_concat]
      refine ⟨fun taken => ?_, apart.distinct⟩
      obtain ⟨row, member, same⟩ := List.mem_map.mp taken
      exact fresh row member same

theorem Apart.upserted (apart : Apart certificates)
    (placed : Placed certificates params.id params.certPath params.keyPath)
    (shaped : Shaped params.certPath params.keyPath) : Apart (upserted params certificates) where
  shaped row member := by
    rcases mem_upserted apart placed member with written | old
    · obtain ⟨number, rfl⟩ := written
      exact shaped
    · exact apart.shaped row old.1
  distinct := nodup_upserted apart placed

end Upserted

end MiGate.Cert
