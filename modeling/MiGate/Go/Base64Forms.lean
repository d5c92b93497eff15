import MiGate.Go.Base64

namespace MiGate.Go

/-! The four forms of base64: either alphabet, with padding or without. -/

def base64Alphabets : List (List Char) :=
  [base64StdAlphabet, base64URLAlphabet]

theorem base64Std_letters : ∀ code < 64, base64StdAlphabet.idxOf? (base64StdAlphabet.getD code '=') = some code ∧
    isSpace (base64StdAlphabet.getD code '=') = false := by
  decide

theorem base64URL_letters_std :
    ∀ code < 62, base64StdAlphabet.idxOf? (base64URLAlphabet.getD code '=') = some code := by
  decide

theorem base64URL_letters_foreign : ∀ code ∈ [62, 63], base64StdAlphabet.idxOf? (base64URLAlphabet.getD code '=') = none := by
  decide

theorem base64_letters_solid {alphabet : List Char} (known : alphabet ∈ base64Alphabets) {code : Nat} (small : code < 64) :
    alphabet.getD code '=' ≠ '=' := by
  have alphabets : ∀ alphabet ∈ base64Alphabets, alphabet.length = 64 ∧ '=' ∉ alphabet := by decide
  obtain ⟨size, foreign⟩ := alphabets alphabet known
  have inside : code < alphabet.length := by omega
  rw [List.getD_eq_getElem?_getD, List.getElem?_eq_getElem inside, Option.getD_some]
  exact fun same => foreign (same ▸ List.getElem_mem _)

/-- The letters of either alphabet are neither padding nor white space. -/
theorem base64_letters {alphabet : List Char} (known : alphabet ∈ base64Alphabets) {code : Nat} (small : code < 64) :
    isSpace (alphabet.getD code '=') = false ∧ alphabet.getD code '=' ≠ '=' := by
  rcases List.mem_cons.mp known with rfl | other
  · exact ⟨(base64Std_letters code small).2, base64_letters_solid known small⟩
  · obtain rfl := List.mem_singleton.mp other
    exact ⟨(base64URL_letters code small).2, base64_letters_solid known small⟩

/-- How much padding brings a text to a multiple of four letters. -/
def padding (length : Nat) : List Char :=
  List.replicate ((4 - length % 4) % 4) '='

variable {alphabet : List Char} {bytes : List UInt8}

theorem length_splitSextets_mod (bytes : List UInt8) : (splitSextets bytes).length % 4 ≠ 1 := by
  induction bytes using splitSextets.induct with
  | case1 => decide
  | case2 first => simp [splitSextets]
  | case3 first second => simp [splitSextets]
  | case4 first second third rest ih =>
      simp only [splitSextets, List.length_cons]
      omega

theorem length_encodeBase64List (alphabet : List Char) (bytes : List UInt8) :
    (encodeBase64List alphabet [] bytes).length = (splitSextets bytes).length := by
  rw [encodeBase64List_eq, List.length_map]

/-- A padded encoding is the letters and the padding they need. -/
theorem encodeBase64List_padded (alphabet : List Char) (bytes : List UInt8) :
    encodeBase64List alphabet ['='] bytes =
      encodeBase64List alphabet [] bytes ++ padding (encodeBase64List alphabet [] bytes).length := by
  induction bytes using splitSextets.induct with
  | case1 => simp [encodeBase64List, padding]
  | case2 first => simp [encodeBase64List, padding]
  | case3 first second => simp [encodeBase64List, padding]
  | case4 first second third rest ih =>
      simp only [encodeBase64List, ih, List.cons_append, List.length_cons]
      have same : padding ((encodeBase64List alphabet [] rest).length + 1 + 1 + 1 + 1) =
          padding (encodeBase64List alphabet [] rest).length := by
        rw [padding, padding]
        congr 1
        omega
      rw [same]

/-- Whichever padding a form has, padded to a multiple of four it is the padded form. -/
theorem padded_form {given : List Char} (form : given = [] ∨ given = ['=']) :
    encodeBase64List alphabet given bytes ++ padding (encodeBase64List alphabet given bytes).length =
      encodeBase64List alphabet [] bytes ++ padding (encodeBase64List alphabet [] bytes).length := by
  rcases form with rfl | rfl
  · rfl
  · have whole : padding (encodeBase64List alphabet ['='] bytes).length = [] := by
      rw [encodeBase64List_padded, List.length_append, padding, padding, List.length_replicate]
      have multiple : (4 - ((encodeBase64List alphabet [] bytes).length +
          (4 - (encodeBase64List alphabet [] bytes).length % 4) % 4) % 4) % 4 = 0 := by omega
      rw [multiple]
      rfl
    rw [whole, List.append_nil, encodeBase64List_padded]

/-- The letters of a form, without the padding. -/
theorem rdropWhile_padding (known : alphabet ∈ base64Alphabets) (count : Nat) :
    (encodeBase64List alphabet [] bytes ++ List.replicate count '=').rdropWhile (· == '=') = encodeBase64List alphabet [] bytes := by
  have letters : ∀ rune ∈ encodeBase64List alphabet [] bytes, rune ≠ '=' := by
    intro rune member
    rw [encodeBase64List_eq] at member
    obtain ⟨code, inside, rfl⟩ := List.mem_map.mp member
    exact (base64_letters known (splitSextets_lt bytes code inside)).2
  have bare : (encodeBase64List alphabet [] bytes).rdropWhile (· == '=') = encodeBase64List alphabet [] bytes := by
    rw [List.rdropWhile_eq_self_iff]
    intro given
    simp [letters _ (List.getLast_mem given)]
  induction count with
  | zero => rw [List.replicate_zero, List.append_nil, bare]
  | succ count ih => rw [List.replicate_succ', ← List.append_assoc, List.rdropWhile_concat_pos _ _ _ (by decide), ih]

/-- Letters that are read as what they were written for, or not at all, are read as that or not at all. -/
theorem eq_of_mapM_idxOf? {read written : List Char} {codes found : List Nat}
    (agree : ∀ code ∈ codes, ∀ other, read.idxOf? (written.getD code '=') = some other → other = code)
    (all : (codes.map fun code => written.getD code '=').mapM (fun rune => read.idxOf? rune) = some found) : found = codes := by
  induction codes generalizing found with
  | nil =>
      cases all
      rfl
  | cons code rest ih =>
      obtain ⟨first, others⟩ := List.forall_mem_cons.mp agree
      rw [List.map_cons, List.mapM_cons] at all
      obtain ⟨head, headRead, later⟩ := Option.bind_eq_some_iff.mp all
      obtain ⟨tail, tailRead, whole⟩ := Option.bind_eq_some_iff.mp later
      cases whole
      rw [first head headRead, ih others tailRead]

/-- Read by the standard alphabet, the letters of an encoding are what was encoded, or nothing at all. -/
theorem decodeBase64Letters_encode (known : alphabet ∈ base64Alphabets) :
    decodeBase64Letters base64StdAlphabet (encodeBase64List alphabet [] bytes) = some bytes ∨
      alphabet = base64URLAlphabet ∧ decodeBase64Letters base64StdAlphabet (encodeBase64List alphabet [] bytes) = none := by
  rw [encodeBase64List_eq, decodeBase64Letters]
  have bound := splitSextets_lt bytes
  rcases List.mem_cons.mp known with rfl | other
  · rw [mapM_idxOf? fun code inside => (base64Std_letters code (bound code inside)).1]
    exact .inl (joinSextets_splitSextets bytes)
  · obtain rfl := List.mem_singleton.mp other
    cases all : ((splitSextets bytes).map fun code => base64URLAlphabet.getD code '=').mapM
        (fun rune => base64StdAlphabet.idxOf? rune) with
    | none => exact .inr ⟨rfl, rfl⟩
    | some found =>
        have agree : ∀ code ∈ splitSextets bytes, ∀ other,
            base64StdAlphabet.idxOf? (base64URLAlphabet.getD code '=') = some other → other = code := by
          intro code inside other same
          have small := bound code inside
          by_cases common : code < 62
          · rw [base64URL_letters_std code common] at same
            exact (Option.some.inj same).symm
          · have last : code ∈ [62, 63] := by
              rw [List.mem_pair]
              omega
            rw [base64URL_letters_foreign code last] at same
            cases same
        rw [eq_of_mapM_idxOf? agree all]
        exact .inl (joinSextets_splitSextets bytes)

/-- The standard decoder finds what was encoded in any form that is padded, or nothing. -/
theorem decodeBase64Std_form (known : alphabet ∈ base64Alphabets) :
    decodeBase64Std (String.ofList (encodeBase64List alphabet [] bytes ++
        padding (encodeBase64List alphabet [] bytes).length)) =
      decodeBase64Letters base64StdAlphabet (encodeBase64List alphabet [] bytes) := by
  have length := length_encodeBase64List alphabet bytes
  have rest := length_splitSextets_mod bytes
  rw [decodeBase64Std, String.toList_ofList]
  rw [padding, rdropWhile_padding known, List.length_append, List.length_replicate]
  exact if_pos (by omega)

/-- Letters that are foreign to an alphabet are not decoded by it. -/
theorem decodeBase64Letters_foreign {letters : List Char} {rune : Char} (member : rune ∈ letters) (foreign : rune ∉ alphabet) :
    decodeBase64Letters alphabet letters = none := by
  rw [decodeBase64Letters]
  cases all : letters.mapM fun rune => alphabet.idxOf? rune with
  | none => rfl
  | some codes => exact absurd (mem_of_mapM_idxOf? all rune member) foreign

end MiGate.Go
