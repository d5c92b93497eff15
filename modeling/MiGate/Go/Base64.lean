import MiGate.Go.Bytes

namespace MiGate.Go

/-! What is encoded in base64 without padding is decoded again. -/

/-- The sextets an encoding writes its letters for. -/
def splitSextets : List UInt8 → List Nat
  | [] => []
  | [first] => [first.toNat / 4, first.toNat % 4 * 16]
  | [first, second] =>
      [first.toNat / 4, first.toNat % 4 * 16 + second.toNat / 16, second.toNat % 16 * 4]
  | first :: second :: third :: rest =>
      first.toNat / 4 :: (first.toNat % 4 * 16 + second.toNat / 16) ::
        (second.toNat % 16 * 4 + third.toNat / 64) :: third.toNat % 64 :: splitSextets rest

theorem encodeBase64List_eq (alphabet : List Char) (bytes : List UInt8) :
    encodeBase64List alphabet [] bytes = (splitSextets bytes).map fun code => alphabet.getD code '=' := by
  induction bytes using splitSextets.induct with
  | case1 => rfl
  | case2 first => rfl
  | case3 first second => rfl
  | case4 first second third rest ih => simp only [encodeBase64List, splitSextets, ih, List.map_cons]

theorem splitSextets_lt (bytes : List UInt8) : ∀ code ∈ splitSextets bytes, code < 64 := by
  induction bytes using splitSextets.induct with
  | case1 => exact fun code member => absurd member List.not_mem_nil
  | case2 first =>
      have bound := first.toNat_lt
      simp only [splitSextets, List.forall_mem_cons, List.not_mem_nil, false_implies, implies_true, and_true]
      omega
  | case3 first second =>
      have bound := first.toNat_lt
      have bound' := second.toNat_lt
      simp only [splitSextets, List.forall_mem_cons, List.not_mem_nil, false_implies, implies_true, and_true]
      omega
  | case4 first second third rest ih =>
      have bound := first.toNat_lt
      have bound' := second.toNat_lt
      have bound'' := third.toNat_lt
      simp only [splitSextets, List.forall_mem_cons]
      exact ⟨by omega, by omega, by omega, by omega, ih⟩

theorem joinSextets_splitSextets (bytes : List UInt8) : joinSextets (splitSextets bytes) = some bytes := by
  have joined : ∀ (byte : UInt8) (code : Nat), code = byte.toNat → UInt8.ofNat code = byte := by
    intro byte code same
    rw [same, UInt8.ofNat_toNat]
  induction bytes using splitSextets.induct with
  | case1 => rfl
  | case2 first =>
      have bound := first.toNat_lt
      rw [splitSextets, joinSextets, joined first _ (by omega)]
  | case3 first second =>
      have bound := first.toNat_lt
      have bound' := second.toNat_lt
      rw [splitSextets, joinSextets, joined first _ (by omega), joined second _ (by omega)]
  | case4 first second third rest ih =>
      have bound := first.toNat_lt
      have bound' := second.toNat_lt
      have bound'' := third.toNat_lt
      rw [splitSextets, joinSextets, ih, Option.map_some, joined first _ (by omega), joined second _ (by omega),
        joined third _ (by omega)]

/-- The letters of an alphabet stand for their places in it. -/
theorem mapM_idxOf? {alphabet : List Char} {codes : List Nat}
    (letters : ∀ code ∈ codes, alphabet.idxOf? (alphabet.getD code '=') = some code) :
    (codes.map fun code => alphabet.getD code '=').mapM (fun rune => alphabet.idxOf? rune) = some codes := by
  induction codes with
  | nil => rfl
  | cons code rest ih =>
      obtain ⟨first, others⟩ := List.forall_mem_cons.mp letters
      rw [List.map_cons, List.mapM_cons, first, ih others]
      rfl

theorem base64URL_letters : ∀ code < 64, base64URLAlphabet.idxOf? (base64URLAlphabet.getD code '=') = some code ∧
    isSpace (base64URLAlphabet.getD code '=') = false := by
  decide

theorem spaceless_encodeBase64RawURL (bytes : List UInt8) : Spaceless (encodeBase64RawURL bytes) := by
  intro rune member
  rw [encodeBase64RawURL, String.toList_ofList, encodeBase64List_eq] at member
  obtain ⟨code, inside, rfl⟩ := List.mem_map.mp member
  exact (base64URL_letters code (splitSextets_lt bytes code inside)).2

theorem decodeBase64RawURL_encode (bytes : List UInt8) : decodeBase64RawURL (encodeBase64RawURL bytes) = some bytes := by
  have kept : (encodeBase64RawURL bytes).toList.filter (fun rune => rune != '\r' && rune != '\n') =
      (encodeBase64RawURL bytes).toList := by
    rw [List.filter_eq_self]
    intro rune member
    have solid := spaceless_encodeBase64RawURL bytes rune member
    have breaks : isSpace '\r' = true ∧ isSpace '\n' = true := by decide
    rw [Bool.and_eq_true, bne_iff_ne, bne_iff_ne]
    refine ⟨fun same => ?_, fun same => ?_⟩
    · rw [same, breaks.1] at solid
      cases solid
    · rw [same, breaks.2] at solid
      cases solid
  rw [decodeBase64RawURL, kept, encodeBase64RawURL, String.toList_ofList, encodeBase64List_eq,
    mapM_idxOf? fun code inside => (base64URL_letters code (splitSextets_lt bytes code inside)).1]
  exact joinSextets_splitSextets bytes

theorem filter_dropWhile {α : Type} {drop keep : α → Bool} {runes : List α}
    (dropped : ∀ rune ∈ runes, drop rune = true → keep rune = false) :
    (runes.dropWhile drop).filter keep = runes.filter keep := by
  induction runes with
  | nil => rfl
  | cons rune rest ih =>
      obtain ⟨first, others⟩ := List.forall_mem_cons.mp dropped
      cases drops : drop rune with
      | true =>
          rw [List.dropWhile_cons_of_pos drops, ih others, List.filter_cons_of_neg]
          rw [first drops]
          exact Bool.false_ne_true
      | false =>
          rw [List.dropWhile_cons_of_neg]
          rw [drops]
          exact Bool.false_ne_true

theorem filter_trimList {α : Type} {drop keep : α → Bool} {runes : List α}
    (dropped : ∀ rune ∈ runes, drop rune = true → keep rune = false) :
    (trimList drop runes).filter keep = runes.filter keep := by
  have inner : ∀ rune ∈ (runes.dropWhile drop).reverse, drop rune = true → keep rune = false :=
    fun rune member => dropped rune ((List.dropWhile_sublist drop).subset (List.mem_reverse.mp member))
  rw [trimList, List.rdropWhile, List.filter_reverse, filter_dropWhile inner, List.filter_reverse,
    List.reverse_reverse, filter_dropWhile dropped]

theorem mem_of_mapM_idxOf? {alphabet letters : List Char} {codes : List Nat}
    (found : letters.mapM (fun rune => alphabet.idxOf? rune) = some codes) : ∀ rune ∈ letters, rune ∈ alphabet := by
  induction letters generalizing codes with
  | nil => exact fun rune member => absurd member List.not_mem_nil
  | cons letter rest ih =>
      rw [List.mapM_cons] at found
      obtain ⟨code, first, others⟩ := Option.bind_eq_some_iff.mp found
      obtain ⟨_, later, _⟩ := Option.bind_eq_some_iff.mp others
      refine List.forall_mem_cons.mpr ⟨?_, ih later⟩
      by_contra absent
      rw [List.idxOf?_eq_none_iff.mpr absent] at first
      cases first

/-- The blanks around what is decoded are line breaks, which decoding skips anyway. -/
theorem decodeBase64RawURL_trimSpace {text : String} {bytes : List UInt8}
    (decoded : decodeBase64RawURL text = some bytes) : decodeBase64RawURL (trimSpace text) = some bytes := by
  have letters : base64URLAlphabet.all (fun rune => isSpace rune = false) = true := by decide
  have codes := decoded
  rw [decodeBase64RawURL] at codes
  obtain ⟨_, found, _⟩ := Option.bind_eq_some_iff.mp codes
  have known := mem_of_mapM_idxOf? found
  rw [decodeBase64RawURL, trimSpace, String.toList_ofList, filter_trimList]
  · exact decoded
  · intro rune member blank
    by_contra kept
    rw [Bool.not_eq_false] at kept
    have letter := List.all_eq_true.mp letters rune (known rune (List.mem_filter.mpr ⟨member, kept⟩))
    rw [decide_eq_true_eq, blank] at letter
    cases letter

end MiGate.Go
