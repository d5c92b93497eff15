import Mathlib.Data.List.Infix
import MiGate.Go.Base64Forms
import MiGate.Subscription.Links

namespace MiGate.Subscription

open Go

/-! A body is the same links in plain text and in any form of base64. -/

/-- The lines of a text that look like links. -/
def linkLines (text : String) : List String :=
  ((fieldsFunc text fun rune => rune == '\n' || rune == '\r').map trimSpace).filter fun line =>
    line != "" && !hasPrefix line "#" && contains line "://"

theorem decodeBody_eq (body : List UInt8) : decodeBody body =
    linkLines (((tryDecodeBase64 (trimSpace (stringOfBytes body))).map trimSpace).getD (trimSpace (stringOfBytes body))) :=
  rfl

/-- The text has `://` in it, as every link does. -/
def HoldsLink (bytes : List UInt8) : Prop :=
  contains (stringOfBytes bytes) "://" = true

instance (bytes : List UInt8) : Decidable (HoldsLink bytes) :=
  inferInstanceAs (Decidable (_ = true))

/-- The blanks the decoder drops, wherever lines are broken. -/
def isBreak (rune : Char) : Bool :=
  [' ', '\n', '\r', '\t'].contains rune

/-- The body is an encoding of the bytes in one of the two alphabets, with padding or without, and may be broken
into lines. -/
def Base64Form (body bytes : List UInt8) : Prop :=
  ∃ alphabet ∈ base64Alphabets, ∃ given ∈ [[], ['=']],
    (stringOfBytes body).toList.filter (fun rune => !isBreak rune) = encodeBase64List alphabet given bytes

/-- A character that is neither dropped nor white space survives the cleaning of a text. -/
theorem mem_clean {text : String} {rune : Char} (member : rune ∈ text.toList) (solid : isSpace rune = false)
    (kept : isBreak rune = false) : rune ∈ (trimSpace text).toList.filter fun rune => !isBreak rune := by
  have dropped : ∀ other ∈ text.toList, isSpace other = true → (other == rune) = false := by
    intro other _ blank
    rw [beq_eq_false_iff_ne]
    intro same
    rw [same, solid] at blank
    cases blank
  have survives : rune ∈ (trimSpace text).toList := by
    have same := filter_trimList dropped
    rw [trimSpace, String.toList_ofList]
    have inside : rune ∈ text.toList.filter (· == rune) := List.mem_filter.mpr ⟨member, beq_self_eq_true rune⟩
    rw [← same] at inside
    exact (List.mem_filter.mp inside).1
  exact List.mem_filter.mpr ⟨survives, by rw [kept]; rfl⟩

theorem mem_rdropWhile_padding {runes : List Char} {rune : Char} (member : rune ∈ runes) (solid : rune ≠ '=') :
    rune ∈ runes.rdropWhile (· == '=') := by
  have whole := List.rdropWhile_append_rtakeWhile (p := (· == '=')) (l := runes)
  rw [← whole] at member
  rcases List.mem_append.mp member with kept | padding
  · exact kept
  · have equal := List.mem_rtakeWhile_imp padding
    exact absurd (beq_iff_eq.mp equal) solid

theorem tryDecodeBase64_eq {text : String} {clean : List Char}
    (cleaned : (trimSpace text).toList.filter (fun rune => !isBreak rune) = clean) : tryDecodeBase64 text =
      if clean = [] then none
      else (decodeBase64Std (String.ofList (clean ++ padding clean.length)) <|>
        decodeBase64RawURL (String.ofList (clean.rdropWhile (· == '='))) <|>
        decodeBase64RawStd (String.ofList (clean.rdropWhile (· == '=')))).map stringOfBytes := by
  subst cleaned
  have empty : ∀ runes : List Char, String.ofList runes = "" ↔ runes = [] := by
    intro runes
    rw [← String.toList_inj, String.toList_ofList]
    rfl
  rw [tryDecodeBase64]
  simp only [trimPadding, String.toList_ofList, ← String.ofList_append, String.length_ofList, empty]
  rfl

/-- A text with a colon is no base64. -/
theorem tryDecodeBase64_colon {text : String} (colon : ':' ∈ text.toList) : tryDecodeBase64 text = none := by
  have clean : ':' ∈ (trimSpace text).toList.filter fun rune => !isBreak rune := mem_clean colon (by decide) (by decide)
  generalize cleaned : (trimSpace text).toList.filter (fun rune => !isBreak rune) = runes at clean
  have bare := mem_rdropWhile_padding clean (by decide)
  have std : decodeBase64Std (String.ofList (runes ++ padding runes.length)) = none := by
    have padded := mem_rdropWhile_padding (List.mem_append_left (padding runes.length) clean) (by decide)
    rw [decodeBase64Std, String.toList_ofList, decodeBase64Letters_foreign padded (by decide), ite_self]
  have rawURL : decodeBase64RawURL (String.ofList (runes.rdropWhile (· == '='))) = none := by
    have kept : ':' ∈ (runes.rdropWhile (· == '=')).filter fun rune => rune != '\r' && rune != '\n' :=
      List.mem_filter.mpr ⟨bare, by decide⟩
    have foreign := decodeBase64Letters_foreign kept (show ':' ∉ base64URLAlphabet by decide)
    rw [decodeBase64RawURL, String.toList_ofList]
    exact foreign
  have rawStd : decodeBase64RawStd (String.ofList (runes.rdropWhile (· == '='))) = none := by
    rw [decodeBase64RawStd, String.toList_ofList, decodeBase64Letters_foreign bare (by decide)]
  rw [tryDecodeBase64_eq cleaned, std, rawURL, rawStd]
  exact ite_self _

theorem colon_of_holdsLink {bytes : List UInt8} (holds : HoldsLink bytes) : ':' ∈ (stringOfBytes bytes).toList := by
  rw [HoldsLink, contains, List.any_eq_true] at holds
  obtain ⟨rest, suffix, leads⟩ := holds
  have first : ':' ∈ rest := (List.isPrefixOf_iff_prefix.mp leads).subset (by decide)
  exact ((List.mem_tails _ _).mp suffix).subset first

theorem encodeBase64List_ne_nil {alphabet given : List Char} {bytes : List UInt8} (content : bytes ≠ []) :
    encodeBase64List alphabet given bytes ≠ [] := by
  match bytes with
  | [] => exact absurd rfl content
  | [_] => exact List.cons_ne_nil _ _
  | [_, _] => exact List.cons_ne_nil _ _
  | _ :: _ :: _ :: _ => exact List.cons_ne_nil _ _

/-- A form of base64 is decoded to what was encoded. -/
theorem tryDecodeBase64_form {alphabet given : List Char} {bytes : List UInt8} {text : String}
    (known : alphabet ∈ base64Alphabets) (padded : given = [] ∨ given = ['=']) (content : bytes ≠ [])
    (form : (trimSpace text).toList.filter (fun rune => !isBreak rune) = encodeBase64List alphabet given bytes) :
    tryDecodeBase64 text = some (stringOfBytes bytes) := by
  have letters : (encodeBase64List alphabet given bytes).rdropWhile (· == '=') = encodeBase64List alphabet [] bytes := by
    rcases padded with rfl | rfl
    · have bare := @rdropWhile_padding alphabet bytes known 0
      rwa [List.replicate_zero, List.append_nil] at bare
    · rw [encodeBase64List_padded]
      exact rdropWhile_padding known _
  rw [tryDecodeBase64_eq form, if_neg (encodeBase64List_ne_nil content), padded_form padded, decodeBase64Std_form known, letters]
  rcases @decodeBase64Letters_encode alphabet bytes known with decoded | ⟨rfl, undecoded⟩
  · rw [decoded]
    rfl
  · have url : decodeBase64RawURL (String.ofList (encodeBase64List base64URLAlphabet [] bytes)) = some bytes :=
      decodeBase64RawURL_encode bytes
    rw [undecoded, url]
    rfl

/-- Trimming takes away no letter of a form. -/
theorem filter_trimSpace_form {alphabet given : List Char} {bytes : List UInt8} {text : String}
    (known : alphabet ∈ base64Alphabets) (padded : given = [] ∨ given = ['='])
    (form : text.toList.filter (fun rune => !isBreak rune) = encodeBase64List alphabet given bytes) :
    (trimSpace text).toList.filter (fun rune => !isBreak rune) = encodeBase64List alphabet given bytes := by
  rw [← form, trimSpace, String.toList_ofList]
  refine filter_trimList fun rune member blank => ?_
  by_contra kept
  have inside : rune ∈ encodeBase64List alphabet given bytes := form ▸ List.mem_filter.mpr ⟨member, by simpa using kept⟩
  have solid : isSpace rune = false := by
    have bare : ∀ letter ∈ encodeBase64List alphabet [] bytes, isSpace letter = false := by
      intro letter found
      rw [encodeBase64List_eq] at found
      obtain ⟨code, within, rfl⟩ := List.mem_map.mp found
      exact (base64_letters known (splitSextets_lt bytes code within)).1
    rcases padded with rfl | rfl
    · exact bare rune inside
    · rw [encodeBase64List_padded] at inside
      rcases List.mem_append.mp inside with letter | pad
      · exact bare rune letter
      · rw [(List.mem_replicate.mp pad).2]
        decide
  rw [solid] at blank
  cases blank

/-- A text with links is read as it stands, and so is every form of base64 of it. -/
theorem body_decodes_to_links {bytes : List UInt8} (holds : HoldsLink bytes) :
    (∀ body, Base64Form body bytes → decodeBody body = decodeBody bytes) ∧
      tryDecodeBase64 (trimSpace (stringOfBytes bytes)) = none ∧
      decodeBody bytes = linkLines (trimSpace (stringOfBytes bytes)) := by
  have colon := colon_of_holdsLink holds
  have plain : tryDecodeBase64 (trimSpace (stringOfBytes bytes)) = none :=
    tryDecodeBase64_colon (List.mem_filter.mp (mem_clean colon (by decide) (by decide))).1
  have lines : decodeBody bytes = linkLines (trimSpace (stringOfBytes bytes)) := by
    rw [decodeBody_eq, plain]
    rfl
  have content : bytes ≠ [] := by
    rintro rfl
    exact absurd colon (by decide)
  refine ⟨fun body ⟨alphabet, known, given, padded, form⟩ => ?_, plain, lines⟩
  have padding : given = [] ∨ given = ['='] := by simpa using padded
  have decoded : tryDecodeBase64 (trimSpace (stringOfBytes body)) = some (stringOfBytes bytes) := by
    refine tryDecodeBase64_form known padding content ?_
    rw [trimSpace_trimSpace]
    exact filter_trimSpace_form known padding form
  rw [decodeBody_eq, decoded, lines]
  rfl

/-- A link in the URL alphabet, with padding, on two lines. -/
theorem broken_lines_decode : decodeBody (bytesOfString "c3M6Ly9hQGg6\r\nMSN-fg==\n") = decodeBody (bytesOfString "ss://a@h:1#~~") :=
  (body_decodes_to_links (show HoldsLink (bytesOfString "ss://a@h:1#~~") by decide +kernel)).1 _
    ⟨base64URLAlphabet, by decide, ['='], by decide, by decide +kernel⟩

end MiGate.Subscription
