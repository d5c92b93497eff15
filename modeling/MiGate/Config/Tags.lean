import MiGate.Singbox.Config

namespace MiGate.Config

open Go Db

/-! The generated tags tell inbounds and outbounds apart. -/

theorem endsNumber_empty : EndsNumber "" := by
  simp [EndsNumber]

theorem endsNumber_dash (rest : String) : EndsNumber ("-" ++ rest) := by
  intro rune first
  rw [String.toList_append] at first
  have dash : rune = '-' := by simpa using first.symm
  rw [dash]
  decide

theorem tag_inj {lead : String} {left right : Int} (leftPositive : 0 < left) (rightPositive : 0 < right)
    (same : lead ++ itoa left = lead ++ itoa right) : left = right := by
  have read : lead ++ itoa left ++ "" = lead ++ itoa right ++ "" := by rw [same]
  exact numbered_inj leftPositive.le rightPositive.le endsNumber_empty endsNumber_empty read

theorem generatedInboundTag_inj {left right : InboundRow} (leftPositive : 0 < left.id)
    (rightPositive : 0 < right.id) (same : generatedInboundTag left = generatedInboundTag right) :
    left.id = right.id := by
  have read : "inbound-" ++ itoa left.id ++ ("-" ++ toLower (trimSpace left.protocol)) =
      "inbound-" ++ itoa right.id ++ ("-" ++ toLower (trimSpace right.protocol)) := by
    rw [← String.append_assoc, ← String.append_assoc]
    exact same
  exact numbered_inj leftPositive.le rightPositive.le (endsNumber_dash _) (endsNumber_dash _) read

/-- Texts that start with different runes are different, whatever follows. -/
theorem lead_ne {left right : String} {first other : Char} (leftFirst : left.toList.head? = some first)
    (rightFirst : right.toList.head? = some other) (different : first ≠ other) (rest rest' : String) :
    left ++ rest ≠ right ++ rest' := by
  intro same
  have runes := congrArg (fun text : String => text.toList.head?) same
  simp only [String.toList_append, List.head?_append, leftFirst, rightFirst, Option.some_or,
    Option.some.injEq] at runes
  exact different runes

/-- What the tags of inbounds begin with in a sing-box configuration. -/
def singboxInboundLeads : List String :=
  ["hy2-inbound-", "tuic-inbound-", "shadowtls-inbound-", "inbound-"]

theorem inboundStatsTag_form (row : InboundRow) :
    ∃ lead ∈ singboxInboundLeads, ∃ tail, EndsNumber tail ∧
      Singbox.inboundStatsTag row = lead ++ itoa row.id ++ tail := by
  unfold Singbox.inboundStatsTag singboxInboundLeads
  generalize toLower (trimSpace row.protocol) = protocol
  by_cases hysteria2 : protocol = "hysteria2"
  · exact ⟨"hy2-inbound-", by simp, "", endsNumber_empty, by simp [hysteria2]⟩
  · by_cases tuic : protocol = "tuic"
    · exact ⟨"tuic-inbound-", by simp, "", endsNumber_empty, by simp [tuic]⟩
    · by_cases shadowtls : protocol = "shadowtls"
      · exact ⟨"shadowtls-inbound-", by simp, "", endsNumber_empty, by simp [shadowtls]⟩
      · refine ⟨"inbound-", by simp, "-" ++ protocol, endsNumber_dash _, ?_⟩
        simp [hysteria2, tuic, shadowtls, String.append_assoc]

theorem singboxInboundLeads_apart :
    ∀ left ∈ singboxInboundLeads, ∀ right ∈ singboxInboundLeads,
      left.toList.head? = right.toList.head? → left = right := by
  decide

theorem singboxInboundLeads_first : ∀ lead ∈ singboxInboundLeads, lead.toList.head?.isSome = true := by
  decide

theorem inboundStatsTag_inj {left right : InboundRow} (leftPositive : 0 < left.id) (rightPositive : 0 < right.id)
    (same : Singbox.inboundStatsTag left = Singbox.inboundStatsTag right) : left.id = right.id := by
  obtain ⟨lead, leadKnown, tail, ends, leftForm⟩ := inboundStatsTag_form left
  obtain ⟨lead', leadKnown', tail', ends', rightForm⟩ := inboundStatsTag_form right
  rw [leftForm, rightForm] at same
  have leads : lead = lead' := by
    apply singboxInboundLeads_apart lead leadKnown lead' leadKnown'
    obtain ⟨first, leftFirst⟩ := Option.isSome_iff_exists.mp (singboxInboundLeads_first lead leadKnown)
    obtain ⟨other, rightFirst⟩ := Option.isSome_iff_exists.mp (singboxInboundLeads_first lead' leadKnown')
    rw [leftFirst, rightFirst, Option.some.injEq]
    by_contra different
    rw [String.append_assoc, String.append_assoc] at same
    exact lead_ne leftFirst rightFirst different _ _ same
  rw [leads] at same
  exact numbered_inj leftPositive.le rightPositive.le ends ends' same

end MiGate.Config
