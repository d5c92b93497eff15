import MiGate.Go.IP
import Mathlib.Algebra.Group.Nat.Defs

namespace MiGate.Go

/-! What `ParseIP` reads is an address, whatever the case of its letters, and what `IP.String`
prints has a form of its own. -/

variable {room value : Nat} {ellipsis : Option Nat} {groups : List Nat}

/-! ### What is read is an address -/

theorem hexNumber_lt (digits : List Char) : hexNumber digits < 16 ^ digits.length := by
  induction digits using List.reverseRecOn with
  | nil => decide
  | append_singleton digits rune ih =>
      have digit : (hexValue rune).getD 0 < 16 := by
        cases read : hexValue rune with
        | none => decide
        | some value => exact hexValue_lt read
      rw [hexNumber_append, List.length_append, List.length_singleton, Nat.pow_succ]
      omega

theorem readIPv4_bounded {runes : List Char} {last : List Nat} (read : readIPv4 runes = some last) :
    ∀ group ∈ last, group < 65536 := by
  have byte : ∀ digits value, readByte digits = some value → value ≤ 255 := by
    intro digits value done
    unfold readByte at done
    split at done
    · cases done
    · dsimp only at done
      split at done
      · rename_i small
        cases done
        exact small
      · cases done
  unfold readIPv4 at read
  split at read
  · rename_i first second third fourth fields
    have small : ∀ value, some value ∈ (runes.splitOn '.').map readByte → value ≤ 255 := by
      intro value member
      obtain ⟨digits, _, done⟩ := List.mem_map.mp member
      exact byte digits value done
    rw [fields] at small
    have firstSmall := small first (by simp)
    have secondSmall := small second (by simp)
    have thirdSmall := small third (by simp)
    have fourthSmall := small fourth (by simp)
    cases read
    intro group member
    rcases List.mem_cons.mp member with rfl | later
    · omega
    · rw [List.mem_singleton.mp later]
      omega
  · cases read

theorem readGroups_bounded {runes : List Char} {result : List Nat × Option Nat}
    (bounded : ∀ group ∈ groups, group < 65536) (read : readGroups room ellipsis groups runes = some result) :
    ∀ group ∈ result.1, group < 65536 := by
  have longer : ∀ {groups : List Nat} {digits : List Char}, (∀ group ∈ groups, group < 65536) →
      ¬(digits = [] ∨ 4 < digits.length) → ∀ group ∈ groups ++ [hexNumber digits], group < 65536 := by
    intro groups digits before sized group member
    rcases List.mem_append.mp member with old | new
    · exact before group old
    · have below := hexNumber_lt digits
      have power : 16 ^ digits.length ≤ 16 ^ 4 := Nat.pow_le_pow_right (by decide) (by omega)
      rw [List.mem_singleton.mp new]
      omega
  fun_induction readGroups room ellipsis groups runes with
  | case1 =>
      cases read
      exact bounded
  | case4 =>
      rename_i sized _ _
      cases read
      exact longer bounded sized
  | case6 =>
      obtain ⟨last, done, rfl⟩ := Option.map_eq_some_iff.mp read
      intro group member
      exact (List.mem_append.mp member).elim (bounded group) (readIPv4_bounded done group)
  | case9 =>
      rename_i sized _ _ _
      cases read
      exact longer bounded sized
  | case10 =>
      rename_i sized _ _ _ _ _ ih
      exact ih (longer bounded sized) read
  | case11 =>
      rename_i sized _ _ _ _ _ ih
      exact ih (longer bounded sized) read
  | _ => cases read

theorem expandGroups_address {result : List Nat × Option Nat} (bounded : ∀ group ∈ result.1, group < 65536)
    (expanded : expandGroups result = some groups) : IsAddress groups := by
  unfold expandGroups at expanded
  split at expanded
  · split at expanded
    · rename_i eight
      cases expanded
      exact ⟨eight, bounded⟩
    · cases expanded
  · split at expanded
    · rename_i read place short
      cases expanded
      refine ⟨?_, fun group member => ?_⟩
      · rw [List.length_append, List.length_append, List.length_take, List.length_replicate, List.length_drop]
        omega
      · simp only [List.mem_append] at member
        rcases member with (before | gap) | after
        · exact bounded group (List.mem_of_mem_take before)
        · rw [(List.mem_replicate.mp gap).2]
          decide
        · exact bounded group (List.mem_of_mem_drop after)
    · cases expanded

theorem parseIP_address {text : String} (read : parseIP text = some groups) : IsAddress groups := by
  have none : ∀ group ∈ ([] : List Nat), group < 65536 := fun _ never => nomatch never
  unfold parseIP at read
  split at read
  · obtain ⟨last, done, rfl⟩ := Option.map_eq_some_iff.mp read
    have bounded := readIPv4_bounded done
    have two : last.length = 2 := by
      unfold readIPv4 at done
      split at done
      · cases done
        rfl
      · cases done
    refine ⟨by rw [List.length_append, two]; rfl, fun group member => ?_⟩
    rcases List.mem_append.mp member with before | after
    · have small : ∀ group ∈ [0, 0, 0, 0, 0, 0xFFFF], group < 65536 := by decide
      exact small group before
    · exact bounded group after
  · unfold readIPv6 at read
    split at read
    · cases read
    · split at read
      · cases read
        exact ⟨rfl, by decide⟩
      · obtain ⟨result, done, expanded⟩ := Option.bind_eq_some_iff.mp read
        exact expandGroups_address (readGroups_bounded none done) expanded
      · obtain ⟨result, done, expanded⟩ := Option.bind_eq_some_iff.mp read
        exact expandGroups_address (readGroups_bounded none done) expanded
  · cases read

/-! ### The case of the letters does not matter -/

theorem lowerRune_cases (rune : Char) : lowerRune rune = rune ∨
    (65 ≤ rune.toNat ∧ rune.toNat ≤ 90 ∧ lowerRune rune = Char.ofNat (rune.toNat + 32)) ∨
    128 ≤ rune.toNat ∧ ((lowerRune rune).toNat = 105 ∨ (lowerRune rune).toNat = 107 ∨ 128 ≤ (lowerRune rune).toNat) := by
  -- Two ranges beyond ASCII lead into it: the dotted I and the sign for kelvins.
  have ranges : lowerRanges.all (fun range => Nat.blt range.last 128 ||
      (Nat.ble 128 range.target && (Nat.blt (range.target + (range.last - range.first)) 0xD800 ||
        (Nat.blt 0xDFFF range.target && Nat.blt (range.target + (range.last - range.first)) 0x110000))) ||
      Nat.beq range.first range.last && (Nat.beq range.target 105 || Nat.beq range.target 107)) = true := by
    decide +kernel
  by_cases ascii : rune.toNat < 128
  · unfold lowerRune
    rw [if_pos ascii]
    split
    · rename_i upper
      exact .inr (.inl ⟨upper.1, upper.2, rfl⟩)
    · exact .inl rfl
  · have image : lowerRune rune = Char.ofNat (lowerCode rune.toNat) := lowerRune_eq rune
    cases found : lowerRanges.find? (·.covers rune.toNat) with
    | none =>
        refine .inl ?_
        rw [image, lowerCode, found]
        exact Char.ofNat_toNat rune
    | some range =>
        have covered : range.covers rune.toNat = true := by simpa using List.find?_some found
        have known := List.all_eq_true.mp ranges range (List.mem_of_find?_eq_some found)
        simp only [CaseRange.covers, Bool.and_eq_true, decide_eq_true_eq] at covered
        simp only [Bool.or_eq_true, Bool.and_eq_true, Nat.blt_eq, Nat.ble_eq, Nat.beq_eq] at known
        rw [lowerCode, found] at image
        dsimp only at image
        have valid : (range.target + (rune.toNat - range.first)).isValidChar := by
          unfold Nat.isValidChar
          omega
        have code : (lowerRune rune).toNat = range.target + (rune.toNat - range.first) := by
          rw [image, Char.ofNat, dif_pos valid]
          rfl
        refine .inr (.inr ⟨by omega, ?_⟩)
        rw [code]
        omega

theorem hexValue_none {rune : Char} (outside : rune.toNat < 48 ∨ (57 < rune.toNat ∧ rune.toNat < 65) ∨
    (70 < rune.toNat ∧ rune.toNat < 97) ∨ 102 < rune.toNat) : hexValue rune = none := by
  have order : ∀ {left right : Char}, left ≤ right → left.toNat ≤ right.toNat := fun below => UInt32.le_iff_toNat_le.mp below
  unfold hexValue
  split
  · rename_i digit
    have low : 48 ≤ rune.toNat := order digit.1
    have high : rune.toNat ≤ 57 := order digit.2
    omega
  split
  · rename_i letter
    have low : 97 ≤ rune.toNat := order letter.1
    have high : rune.toNat ≤ 102 := order letter.2
    omega
  split
  · rename_i letter
    have low : 65 ≤ rune.toNat := order letter.1
    have high : rune.toNat ≤ 70 := order letter.2
    omega
  · rfl

theorem hexValue_lowerRune (rune : Char) : hexValue (lowerRune rune) = hexValue rune := by
  rcases lowerRune_cases rune with same | ⟨low, high, lowered⟩ | ⟨wide, image⟩
  · rw [same]
  · have letters : ∀ code < 91, 65 ≤ code → hexValue (Char.ofNat (code + 32)) = hexValue (Char.ofNat code) := by decide
    rw [lowered, letters _ (by omega) low, Char.ofNat_toNat]
  · rw [hexValue_none (by omega), hexValue_none (by omega)]

/-- Digits and marks are no letters, and no letter becomes one. -/
theorem lowerRune_caseless {rune : Char} (caseless : (rune.toNat < 65 ∨ 90 < rune.toNat ∧ rune.toNat < 97) ∨
    (lowerRune rune).toNat < 65 ∨ 90 < (lowerRune rune).toNat ∧ (lowerRune rune).toNat < 97) : lowerRune rune = rune := by
  rcases lowerRune_cases rune with same | ⟨lower, upper, lowered⟩ | ⟨wide, image⟩
  · exact same
  · have letters : ∀ code < 91, 65 ≤ code → 97 ≤ (Char.ofNat (code + 32)).toNat := by decide
    rw [lowered] at caseless
    have high := letters rune.toNat (by omega) lower
    omega
  · omega

theorem lowerRune_eq_iff {mark rune : Char} (caseless : mark.toNat < 65 ∨ 90 < mark.toNat ∧ mark.toNat < 97) :
    lowerRune rune = mark ↔ rune = mark := by
  constructor
  · intro same
    have kept : lowerRune rune = rune := lowerRune_caseless (.inr (same ▸ caseless))
    rw [← kept, same]
  · intro same
    rw [same, lowerRune_caseless (.inl caseless)]

theorem isDigit_lowerRune (rune : Char) : (lowerRune rune).isDigit = rune.isDigit := by
  have below : ∀ {rune : Char}, rune.isDigit = true → rune.toNat < 65 := by
    intro rune digit
    simp only [Char.isDigit, Bool.and_eq_true, decide_eq_true_eq] at digit
    have high : rune.toNat ≤ 57 := UInt32.le_iff_toNat_le.mp digit.2
    omega
  rw [Bool.eq_iff_iff]
  constructor
  · intro digit
    rwa [lowerRune_caseless (.inr (.inl (below digit)))] at digit
  · intro digit
    rwa [lowerRune_caseless (.inl (.inl (below digit)))]

theorem readByte_lower (digits : List Char) : readByte (digits.map lowerRune) = readByte digits := by
  by_cases decimal : digits.all Char.isDigit = true
  · have same : digits.map lowerRune = digits := by
      refine (List.map_congr_left fun rune member => ?_).trans (List.map_id digits)
      have digit := List.all_eq_true.mp decimal rune member
      simp only [Char.isDigit, Bool.and_eq_true, decide_eq_true_eq] at digit
      have high : rune.toNat ≤ 57 := UInt32.le_iff_toNat_le.mp digit.2
      exact lowerRune_caseless (.inl (.inl (by omega)))
    rw [same]
  · have mapped : ¬(digits.map lowerRune).all Char.isDigit = true := by
      rwa [List.all_map, show Char.isDigit ∘ lowerRune = Char.isDigit from funext isDigit_lowerRune]
    simp [readByte, decimal, mapped]

theorem splitOn_lower {mark : Char} (caseless : mark.toNat < 65 ∨ 90 < mark.toNat ∧ mark.toNat < 97) (runes : List Char) :
    (runes.map lowerRune).splitOn mark = (runes.splitOn mark).map (List.map lowerRune) := by
  induction runes with
  | nil => simp
  | cons rune rest ih =>
      rw [List.map_cons, List.splitOn_cons_eq_if_modifyHead, List.splitOn_cons_eq_if_modifyHead, ih]
      by_cases same : rune = mark
      · have kept : lowerRune mark = mark := (lowerRune_eq_iff caseless).mpr rfl
        simp [same, kept]
      · have other : lowerRune rune ≠ mark := fun lowered => same ((lowerRune_eq_iff caseless).mp lowered)
        cases parts : rest.splitOn mark with
        | nil => exact absurd parts (List.splitOn_ne_nil mark rest)
        | cons first others => simp [same, other]

theorem readIPv4_lower (runes : List Char) : readIPv4 (runes.map lowerRune) = readIPv4 runes := by
  have fields : ((runes.map lowerRune).splitOn '.').map readByte = (runes.splitOn '.').map readByte := by
    rw [splitOn_lower (by decide), List.map_map]
    exact List.map_congr_left fun digits _ => readByte_lower digits
  unfold readIPv4
  rw [fields]

theorem hexNumber_lower (digits : List Char) : hexNumber (digits.map lowerRune) = hexNumber digits := by
  simp [hexNumber, List.foldl_map, hexValue_lowerRune]

theorem takeWhile_lower (runes : List Char) :
    (runes.map lowerRune).takeWhile isHexDigitRune = (runes.takeWhile isHexDigitRune).map lowerRune := by
  have same : isHexDigitRune ∘ lowerRune = isHexDigitRune := by
    funext rune
    simp [isHexDigitRune, hexValue_lowerRune]
  rw [List.takeWhile_map, same]

theorem readGroups_lower (room : Nat) (ellipsis : Option Nat) (groups : List Nat) (runes : List Char) :
    readGroups room ellipsis groups (runes.map lowerRune) = readGroups room ellipsis groups runes := by
  induction room generalizing ellipsis groups runes with
  | zero => simp [readGroups]
  | succ room ih =>
      have colon : ∀ {rune}, lowerRune rune = ':' ↔ rune = ':' := lowerRune_eq_iff (by decide)
      have dot : ∀ {rune}, lowerRune rune = '.' ↔ rune = '.' := lowerRune_eq_iff (by decide)
      simp only [readGroups, takeWhile_lower, hexNumber_lower, List.map_eq_nil_iff, List.length_map, ← List.map_drop,
        readIPv4_lower]
      generalize runes.drop (runes.takeWhile isHexDigitRune).length = rest
      generalize groups ++ [hexNumber (runes.takeWhile isHexDigitRune)] = read
      cases rest with
      | nil => rfl
      | cons first rest =>
          by_cases isColon : first = ':'
          · subst isColon
            rw [List.map_cons, colon.mpr rfl]
            cases rest with
            | nil => rfl
            | cons second rest =>
                by_cases again : second = ':'
                · subst again
                  rw [List.map_cons, colon.mpr rfl]
                  simp only [List.map_eq_nil_iff, ih]
                · have other : lowerRune second ≠ ':' := fun same => again (colon.mp same)
                  have tail := ih ellipsis read (second :: rest)
                  rw [List.map_cons] at tail ⊢
                  simp [again, other, tail]
          · have notColon : lowerRune first ≠ ':' := fun same => isColon (colon.mp same)
            rw [List.map_cons]
            by_cases isDot : first = '.'
            · subst isDot
              rw [dot.mpr rfl]
              rfl
            · have notDot : lowerRune first ≠ '.' := fun same => isDot (dot.mp same)
              simp [isColon, isDot, notColon, notDot]

theorem contains_lower {mark : Char} (caseless : mark.toNat < 65 ∨ 90 < mark.toNat ∧ mark.toNat < 97) (runes : List Char) :
    (runes.map lowerRune).contains mark = runes.contains mark := by
  rw [Bool.eq_iff_iff, List.contains_iff_mem, List.contains_iff_mem, List.mem_map]
  constructor
  · rintro ⟨rune, member, same⟩
    exact (lowerRune_eq_iff caseless).mp same ▸ member
  · exact fun member => ⟨mark, member, (lowerRune_eq_iff caseless).mpr rfl⟩

theorem readIPv6_lower (runes : List Char) : readIPv6 (runes.map lowerRune) = readIPv6 runes := by
  have colon : ∀ {rune}, lowerRune rune = ':' ↔ rune = ':' := lowerRune_eq_iff (by decide)
  have whole := readGroups_lower 8 none [] runes
  unfold readIPv6
  rw [contains_lower (by decide), whole]
  match runes with
  | [] => rfl
  | [first] => simp
  | first :: second :: rest =>
      have tail := readGroups_lower 8 (some 0) [] rest
      rw [List.map_cons, List.map_cons]
      by_cases one : first = ':'
      · by_cases two : second = ':'
        · subst one two
          rw [colon.mpr rfl]
          cases rest with
          | nil => rfl
          | cons third rest =>
              rw [List.map_cons] at tail ⊢
              simp only [tail]
        · have other : lowerRune second ≠ ':' := fun same => two (colon.mp same)
          simp [two, other]
      · have other : lowerRune first ≠ ':' := fun same => one (colon.mp same)
        simp [one, other]

theorem parseIP_toLower (text : String) : parseIP (toLower text) = parseIP text := by
  have marks : ∀ rune, ['.', ':', '%'].contains (lowerRune rune) = ['.', ':', '%'].contains rune := by
    intro rune
    have dot : lowerRune rune = '.' ↔ rune = '.' := lowerRune_eq_iff (by decide)
    have colon : lowerRune rune = ':' ↔ rune = ':' := lowerRune_eq_iff (by decide)
    have percent : lowerRune rune = '%' ↔ rune = '%' := lowerRune_eq_iff (by decide)
    rw [Bool.eq_iff_iff, List.contains_iff_mem, List.contains_iff_mem]
    simp only [List.mem_cons, dot, colon, percent, List.not_mem_nil]
  have found : ((text.toList.map lowerRune).find? fun rune => ['.', ':', '%'].contains rune) =
      text.toList.find? fun rune => ['.', ':', '%'].contains rune := by
    rw [List.find?_map]
    have same : (fun rune => ['.', ':', '%'].contains rune) ∘ lowerRune = fun rune => ['.', ':', '%'].contains rune :=
      funext marks
    rw [same]
    cases mark : text.toList.find? fun rune => ['.', ':', '%'].contains rune with
    | none => rfl
    | some rune =>
        have marked : ['.', ':', '%'].contains rune = true := @List.find?_some _ _ _ _ mark
        have low : rune.toNat < 65 := by
          simp only [List.contains_iff_mem, List.mem_cons, List.not_mem_nil, or_false] at marked
          rcases marked with rfl | rfl | rfl
          · decide
          · decide
          · decide
        rw [Option.map_some, lowerRune_caseless (.inl (.inl low))]
  unfold parseIP
  rw [toLower, String.toList_ofList, found, readIPv4_lower, readIPv6_lower]

/-! ### What is printed has the form of an address -/

/-- The runes `IP.String` writes: each is its own lower case, and none is a space or a mark of a URL. -/
def isAddressRune (rune : Char) : Bool :=
  (['0', '1', '2', '3', '4', '5', '6', '7', '8', '9', 'a', 'b', 'c', 'd', 'e', 'f', '.', ':'] : List Char).contains rune

theorem isAddressRune_digit {value : Nat} {base : Nat} (wide : base ≤ 16) (many : 1 < base) :
    ∀ rune ∈ Nat.toDigits base value, isAddressRune rune = true := by
  have digits : ∀ digit < 16, isAddressRune (Nat.digitChar digit) = true := by decide
  induction value using Nat.strongRecOn with
  | ind value ih =>
      rw [Nat.toDigits_eq_if many]
      split
      · rename_i small
        intro rune member
        rw [List.mem_singleton.mp member]
        exact digits value (by omega)
      · rename_i large
        have smaller : value / base < value := Nat.div_lt_self (by omega) many
        have digit : value % base < 16 := Nat.lt_of_lt_of_le (Nat.mod_lt _ (by omega)) wide
        intro rune member
        rcases List.mem_append.mp member with before | last
        · exact ih _ smaller rune before
        · rw [List.mem_singleton.mp last]
          exact digits _ digit

theorem isAddressRune_join (groups : List Nat) : ∀ rune ∈ joinGroups groups, isAddressRune rune = true := by
  induction groups with
  | nil => simp [joinGroups]
  | cons value groups ih =>
      cases groups with
      | nil =>
          rw [joinGroups_single]
          exact isAddressRune_digit le_rfl (by decide)
      | cons next groups =>
          rw [joinGroups_cons]
          intro rune member
          rcases List.mem_append.mp member with before | after
          · exact isAddressRune_digit le_rfl (by decide) rune before
          · rcases List.mem_cons.mp after with rfl | later
            · rfl
            · exact ih rune later

theorem isAddressRune_print (groups : List Nat) : ∀ rune ∈ (printIP groups).toList, isAddressRune rune = true := by
  have decimal : ∀ value, ∀ rune ∈ Nat.toDigits 10 value, isAddressRune rune = true := fun _ =>
    isAddressRune_digit (by decide) (by decide)
  intro rune member
  unfold printIP at member
  split at member
  · rw [toList_join_dotted] at member
    simp only [dotted, List.mem_append, List.mem_cons] at member
    rcases member with first | rfl | second | rfl | third | rfl | fourth
    · exact decimal _ rune first
    · rfl
    · exact decimal _ rune second
    · rfl
    · exact decimal _ rune third
    · rfl
    · exact decimal _ rune fourth
  · split at member
    · rw [String.toList_ofList] at member
      rcases List.mem_append.mp member with before | after
      · exact isAddressRune_join _ rune before
      · simp only [List.mem_cons] at after
        rcases after with rfl | rfl | later
        · rfl
        · rfl
        · exact isAddressRune_join _ rune later
    · rw [String.toList_ofList] at member
      exact isAddressRune_join _ rune member

/-- A printed address has no colon, or two and more. -/
theorem count_printIP (address : IsAddress groups) :
    (printIP groups).toList.count ':' = 0 ∨ 2 ≤ (printIP groups).toList.count ':' := by
  rcases printIP_cases address with ⟨first, second, third, fourth, _, _, written⟩ | ⟨printed, _⟩
  · refine .inl (List.count_eq_zero.mpr ?_)
    have colon : ∀ value, ':' ∉ Nat.toDigits 10 value := fun value => notMark_decimal (by decide)
    rw [written]
    simp [dotted, colon]
  · exact .inr printed.colons

end MiGate.Go
