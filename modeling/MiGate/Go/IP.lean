import MiGate.Go.Host

namespace MiGate.Go

/-! Addresses, as `net.ParseIP` reads them and `IP.String` prints them.  An address is held as its
eight groups of sixteen bits; those of IPv4 are the ones mapped into IPv6. -/

def isHexDigitRune (rune : Char) : Bool :=
  (hexValue rune).isSome

def hexNumber (digits : List Char) : Nat :=
  digits.foldl (fun value rune => value * 16 + (hexValue rune).getD 0) 0

/-- One field of an IPv4 address: a byte without leading zeros. -/
def readByte (digits : List Char) : Option Nat :=
  if digits = [] ∨ !digits.all Char.isDigit ∨ (digits.head? = some '0' ∧ digits.length ≠ 1) then none
  else
    let value := digits.foldl (fun value rune => value * 10 + (rune.toNat - 48)) 0
    if value ≤ 255 then some value else none

/-- `parseIPv4Fields`: the two groups that four bytes make. -/
def readIPv4 (runes : List Char) : Option (List Nat) :=
  match (runes.splitOn '.').map readByte with
  | [some first, some second, some third, some fourth] => some [first * 256 + second, third * 256 + fourth]
  | _ => none

/-- The loop of `parseIPv6` over the groups, with the place of the ellipsis among those read. -/
def readGroups : Nat → Option Nat → List Nat → List Char → Option (List Nat × Option Nat)
  | 0, ellipsis, groups, runes => if runes = [] then some (groups, ellipsis) else none
  | room + 1, ellipsis, groups, runes =>
      let digits := runes.takeWhile isHexDigitRune
      if digits = [] ∨ 4 < digits.length then none
      else
        let read := groups ++ [hexNumber digits]
        match runes.drop digits.length with
        | [] => some (read, ellipsis)
        | '.' :: _ =>
            -- The last two groups may be written as an IPv4 address.
            if (ellipsis = none ∧ groups.length ≠ 6) ∨ room = 0 then none
            else (readIPv4 runes).map fun last => (groups ++ last, ellipsis)
        | [':'] => none
        | ':' :: ':' :: rest =>
            if ellipsis ≠ none then none
            else if rest = [] then some (read, some read.length)
            else readGroups room (some read.length) read rest
        | ':' :: rest => readGroups room ellipsis read rest
        | _ => none

/-- The ellipsis stands for the groups that are missing, at least one. -/
def expandGroups : List Nat × Option Nat → Option (List Nat)
  | (groups, none) => if groups.length = 8 then some groups else none
  | (groups, some place) =>
      if groups.length < 8 then some (groups.take place ++ List.replicate (8 - groups.length) 0 ++ groups.drop place)
      else none

/-- `parseIPv6`; an address with a zone is none to `net.ParseIP`. -/
def readIPv6 (runes : List Char) : Option (List Nat) :=
  if runes.contains '%' then none
  else
    match runes with
    | [':', ':'] => some (List.replicate 8 0)
    | ':' :: ':' :: rest => (readGroups 8 (some 0) [] rest).bind expandGroups
    | _ => (readGroups 8 none [] runes).bind expandGroups

/-- `net.ParseIP`. -/
def parseIP (text : String) : Option (List Nat) :=
  match text.toList.find? fun rune => ['.', ':', '%'].contains rune with
  | some '.' => (readIPv4 text.toList).map fun last => [0, 0, 0, 0, 0, 0xFFFF] ++ last
  | some ':' => readIPv6 text.toList
  | _ => none

def joinGroups (groups : List Nat) : List Char :=
  [':'].intercalate (groups.map (Nat.toDigits 16))

/-- The length of the run of zeros that begins at a group. -/
def zeroRun (groups : List Nat) (start : Nat) : Nat :=
  ((groups.drop start).takeWhile (· == 0)).length

/-- The run that begins at a group, if it has at least two zeros and more than the best so far. -/
def longerZeros (groups : List Nat) (best : Option (Nat × Nat)) (start : Nat) : Option (Nat × Nat) :=
  let length := zeroRun groups start
  if 2 ≤ length ∧ (best.map fun (first, last) => last - first).getD 0 < length then some (start, start + length)
  else best

/-- Where the first of the longest runs of zeros begins and ends. -/
def longestZeros (groups : List Nat) : Option (Nat × Nat) :=
  (List.range 8).foldl (longerZeros groups) none

/-- `IP.String`. -/
def printIP (groups : List Nat) : String :=
  match groups with
  | [0, 0, 0, 0, 0, 0xFFFF, high, low] =>
      join [itoa (high / 256 : Nat), itoa (high % 256 : Nat), itoa (low / 256 : Nat), itoa (low % 256 : Nat)] "."
  | _ =>
      match longestZeros groups with
      | some (first, last) =>
          String.ofList (joinGroups (groups.take first) ++ ':' :: ':' :: joinGroups (groups.drop last))
      | none => String.ofList (joinGroups groups)

/-! ### Groups -/

theorem hexValue_digitChar : ∀ digit < 16, hexValue (Nat.digitChar digit) = some digit := by
  decide

theorem hexNumber_append (digits : List Char) (rune : Char) :
    hexNumber (digits ++ [rune]) = hexNumber digits * 16 + (hexValue rune).getD 0 := by
  rw [hexNumber, List.foldl_append]
  rfl

theorem hexNumber_toDigits (value : Nat) : hexNumber (Nat.toDigits 16 value) = value := by
  induction value using Nat.strongRecOn with
  | ind value ih =>
      rw [Nat.toDigits_eq_if (by decide)]
      split
      · rename_i small
        simp [hexNumber, hexValue_digitChar value small]
      · rename_i large
        rw [hexNumber_append, ih _ (by omega), hexValue_digitChar _ (Nat.mod_lt _ (by decide)), Option.getD_some]
        omega

/-- The digits `IP.String` writes, none of them a capital. -/
theorem toDigits_hex (value : Nat) : ∀ rune ∈ Nat.toDigits 16 value, ∃ digit < 16, rune = Nat.digitChar digit := by
  induction value using Nat.strongRecOn with
  | ind value ih =>
      rw [Nat.toDigits_eq_if (by decide)]
      split
      · rename_i small
        intro rune member
        exact ⟨value, small, List.mem_singleton.mp member⟩
      · rename_i large
        intro rune member
        rcases List.mem_append.mp member with before | last
        · exact ih _ (by omega) rune before
        · exact ⟨value % 16, Nat.mod_lt _ (by decide), List.mem_singleton.mp last⟩

theorem isHexDigitRune_toDigits {value : Nat} : ∀ rune ∈ Nat.toDigits 16 value, isHexDigitRune rune = true := by
  intro rune member
  obtain ⟨digit, small, rfl⟩ := toDigits_hex value rune member
  rw [isHexDigitRune, hexValue_digitChar digit small]
  rfl

theorem takeWhile_toDigits {value : Nat} {rest : List Char} (ends : ∀ rune ∈ rest.head?, isHexDigitRune rune = false) :
    (Nat.toDigits 16 value ++ rest).takeWhile isHexDigitRune = Nat.toDigits 16 value := by
  rw [List.takeWhile_append_of_pos isHexDigitRune_toDigits]
  cases rest with
  | nil => simp
  | cons rune rest => simp [ends rune rfl]

theorem length_group {value : Nat} (bounded : value < 65536) : ¬4 < (Nat.toDigits 16 value).length := by
  rw [Nat.not_lt, Nat.length_toDigits_le_iff (by decide) (by decide)]
  exact bounded

variable {room value : Nat} {ellipsis : Option Nat} {groups left right : List Nat} {rest : List Char}

theorem readGroups_last (bounded : value < 65536) :
    readGroups (room + 1) ellipsis groups (Nat.toDigits 16 value) = some (groups ++ [value], ellipsis) := by
  have taken := @takeWhile_toDigits value [] (by simp)
  rw [List.append_nil] at taken
  simp [readGroups, taken, length_group bounded, hexNumber_toDigits]

theorem readGroups_next (bounded : value < 65536) (given : rest ≠ []) (plain : rest.head? ≠ some ':') :
    readGroups (room + 1) ellipsis groups (Nat.toDigits 16 value ++ ':' :: rest) =
      readGroups room ellipsis (groups ++ [value]) rest := by
  have taken := @takeWhile_toDigits value (':' :: rest) (by simp [isHexDigitRune]; decide)
  cases rest with
  | nil => exact absurd rfl given
  | cons rune rest =>
      have other : rune ≠ ':' := fun same => plain (congrArg some same)
      simp [readGroups, taken, length_group bounded, hexNumber_toDigits, other]

theorem readGroups_gap (bounded : value < 65536) :
    readGroups (room + 1) none groups (Nat.toDigits 16 value ++ ':' :: ':' :: rest) =
      if rest = [] then some (groups ++ [value], some (groups.length + 1))
      else readGroups room (some (groups.length + 1)) (groups ++ [value]) rest := by
  have taken := @takeWhile_toDigits value (':' :: ':' :: rest) (by simp [isHexDigitRune]; decide)
  simp [readGroups, taken, length_group bounded, hexNumber_toDigits]

theorem joinGroups_single : joinGroups [value] = Nat.toDigits 16 value := by
  simp [joinGroups]

theorem joinGroups_cons {next : Nat} :
    joinGroups (value :: next :: groups) = Nat.toDigits 16 value ++ ':' :: joinGroups (next :: groups) := by
  simp [joinGroups, List.intercalate_cons_cons]

theorem joinGroups_opens : ∃ digit < 16, ∃ more, joinGroups (value :: groups) = Nat.digitChar digit :: more := by
  have opens : ∃ digit < 16, ∃ more, Nat.toDigits 16 value = Nat.digitChar digit :: more := by
    cases digits : Nat.toDigits 16 value with
    | nil => exact absurd digits Nat.toDigits_ne_nil
    | cons first more =>
        obtain ⟨digit, small, same⟩ := toDigits_hex value first (digits ▸ List.mem_cons_self)
        exact ⟨digit, small, more, by rw [same]⟩
  obtain ⟨digit, small, more, written⟩ := opens
  cases groups with
  | nil => exact ⟨digit, small, more, joinGroups_single.trans written⟩
  | cons next groups =>
      rw [joinGroups_cons, written]
      exact ⟨digit, small, _, rfl⟩

theorem digitChar_ne_mark : ∀ digit < 16, ∀ mark ∈ [':', '.', '%', '[', ']', '/', ' '], Nat.digitChar digit ≠ mark := by
  have table : ∀ digit < 16, [':', '.', '%', '[', ']', '/', ' '].contains (Nat.digitChar digit) = false := by decide
  intro digit small mark listed same
  have missed := table digit small
  rw [same, List.contains_iff_mem.mpr listed] at missed
  cases missed

theorem joinGroups_plain : joinGroups (value :: groups) ++ rest ≠ [] ∧ (joinGroups (value :: groups) ++ rest).head? ≠ some ':' := by
  obtain ⟨digit, small, more, written⟩ := @joinGroups_opens value groups
  rw [written]
  refine ⟨List.cons_ne_nil _ _, fun same => ?_⟩
  exact digitChar_ne_mark digit small ':' (by simp) (Option.some.inj same)

theorem readGroups_join (bounded : ∀ group ∈ value :: right, group < 65536) (fits : right.length < room) :
    readGroups room ellipsis groups (joinGroups (value :: right)) = some (groups ++ value :: right, ellipsis) := by
  induction right generalizing value groups room with
  | nil =>
      cases room with
      | zero => cases fits
      | succ room =>
          rw [joinGroups_single]
          exact readGroups_last (bounded value List.mem_cons_self)
  | cons next right ih =>
      cases room with
      | zero => cases fits
      | succ room =>
          have plain := @joinGroups_plain next right []
          rw [List.append_nil] at plain
          rw [joinGroups_cons, readGroups_next (bounded value List.mem_cons_self) plain.1 plain.2,
            ih (fun group member => bounded group (List.mem_cons_of_mem _ member)) (Nat.lt_of_succ_lt_succ fits),
            List.append_assoc]
          rfl

theorem readGroups_join_gap (bounded : ∀ group ∈ value :: left, group < 65536) (fits : left.length < room) :
    readGroups room none groups (joinGroups (value :: left) ++ ':' :: ':' :: rest) =
      if rest = [] then some (groups ++ value :: left, some (groups.length + (left.length + 1)))
      else readGroups (room - (left.length + 1)) (some (groups.length + (left.length + 1))) (groups ++ value :: left) rest := by
  induction left generalizing value groups room with
  | nil =>
      cases room with
      | zero => cases fits
      | succ room =>
          rw [joinGroups_single]
          exact readGroups_gap (bounded value List.mem_cons_self)
  | cons next left ih =>
      cases room with
      | zero => cases fits
      | succ room =>
          have plain := @joinGroups_plain next left (':' :: ':' :: rest)
          have size : groups.length + 1 + (left.length + 1) = groups.length + ((next :: left).length + 1) := by
            rw [List.length_cons]
            omega
          rw [joinGroups_cons, List.append_assoc, List.cons_append,
            readGroups_next (bounded value List.mem_cons_self) plain.1 plain.2,
            ih (fun group member => bounded group (List.mem_cons_of_mem _ member)) (Nat.lt_of_succ_lt_succ fits),
            List.append_assoc, List.length_append, List.length_singleton, size, List.length_cons, Nat.add_sub_add_right]
          rfl

/-! ### The longest run of zeros -/

theorem zeroRun_spec (groups : List Nat) (start : Nat) :
    groups = groups.take start ++ List.replicate (zeroRun groups start) 0 ++ groups.drop (start + zeroRun groups start) := by
  have zeros : (groups.drop start).takeWhile (· == 0) = List.replicate (zeroRun groups start) 0 := by
    refine List.eq_replicate_of_mem fun group member => ?_
    exact beq_iff_eq.mp (@List.mem_takeWhile_imp _ (· == 0) _ _ member)
  have after : groups.drop (start + zeroRun groups start) = (groups.drop start).dropWhile (· == 0) := by
    rw [← List.drop_drop]
    calc (groups.drop start).drop (zeroRun groups start)
        = ((groups.drop start).takeWhile (· == 0) ++ (groups.drop start).dropWhile (· == 0)).drop
            (zeroRun groups start) := by rw [List.takeWhile_append_dropWhile]
      _ = (groups.drop start).dropWhile (· == 0) := List.drop_left
  rw [after, ← zeros, List.append_assoc, List.takeWhile_append_dropWhile, List.take_append_drop]

theorem zeroRun_le (groups : List Nat) (start : Nat) : zeroRun groups start ≤ groups.length - start := by
  rw [← List.length_drop]
  exact (List.takeWhile_prefix _).length_le

/-- Taken out, the run leaves what stands before it and behind it. -/
structure ZeroGap (groups : List Nat) (first last : Nat) : Prop where
  wide : first + 2 ≤ last
  within : last ≤ groups.length
  parts : groups = groups.take first ++ List.replicate (last - first) 0 ++ groups.drop last

theorem longerZeros_gap {best : Option (Nat × Nat)} {start : Nat} (sound : ∀ pair ∈ best, ZeroGap groups pair.1 pair.2) :
    ∀ pair ∈ longerZeros groups best start, ZeroGap groups pair.1 pair.2 := by
  intro pair member
  unfold longerZeros at member
  dsimp only at member
  split at member
  · rename_i longer
    have fits := zeroRun_le groups start
    rw [Option.mem_some_iff] at member
    subst member
    refine ⟨Nat.add_le_add_left longer.1 start, ?_, ?_⟩
    · dsimp only
      omega
    · rw [Nat.add_sub_cancel_left]
      exact zeroRun_spec groups start
  · exact sound pair member

theorem longestZeros_gap {first last : Nat} (found : longestZeros groups = some (first, last)) :
    ZeroGap groups first last := by
  have kept : ∀ pair ∈ longestZeros groups, ZeroGap groups pair.1 pair.2 := by
    unfold longestZeros
    refine List.foldlRecOn (motive := fun best : Option (Nat × Nat) => ∀ pair ∈ best, ZeroGap groups pair.1 pair.2)
      _ _ (fun _ never => nomatch never) ?_
    exact fun _ sound _ _ => longerZeros_gap sound
  exact kept (first, last) found

/-! ### What is printed can be read -/

/-- Eight groups of sixteen bits. -/
structure IsAddress (groups : List Nat) : Prop where
  eight : groups.length = 8
  bounded : ∀ group ∈ groups, group < 65536

theorem notMark_joinGroups (groups : List Nat) : ∀ mark ∈ ['.', '%', '[', ']', '/', ' '], mark ∉ joinGroups groups := by
  intro mark listed
  have other : mark ≠ ':' := by
    rintro rfl
    exact absurd listed (by decide)
  induction groups with
  | nil => simp [joinGroups]
  | cons value groups ih =>
      have plain : mark ∉ Nat.toDigits 16 value := by
        intro member
        obtain ⟨digit, small, same⟩ := toDigits_hex value mark member
        exact digitChar_ne_mark digit small mark (List.mem_cons_of_mem _ listed) same.symm
      cases groups with
      | nil =>
          rw [joinGroups_single]
          exact plain
      | cons next groups =>
          rw [joinGroups_cons]
          intro member
          rcases List.mem_append.mp member with before | after
          · exact plain before
          · rcases List.mem_cons.mp after with same | later
            · exact other same
            · exact ih later

theorem readIPv6_join (address : IsAddress groups) : readIPv6 (joinGroups groups) = some groups := by
  have zone : (joinGroups groups).contains '%' = false := by
    rw [List.contains_eq_mem]
    exact decide_eq_false (notMark_joinGroups groups '%' (by simp))
  cases groups with
  | nil => cases address.eight
  | cons value right =>
      have fits : right.length < 8 := by
        have eight := address.eight
        rw [List.length_cons] at eight
        omega
      have whole := @readGroups_join 8 value none [] right address.bounded fits
      obtain ⟨digit, small, more, written⟩ := @joinGroups_opens value right
      have plain : Nat.digitChar digit ≠ ':' := digitChar_ne_mark digit small ':' (by simp)
      rw [written] at zone whole ⊢
      simp only [readIPv6, zone, Bool.false_eq_true, if_false]
      split
      · rename_i same
        exact absurd (List.cons.inj same).1 plain
      · rename_i same
        exact absurd (List.cons.inj same).1 plain
      · rw [whole]
        exact if_pos address.eight

theorem readIPv6_gap (address : IsAddress groups) {first last : Nat} (gap : ZeroGap groups first last) :
    readIPv6 (joinGroups (groups.take first) ++ ':' :: ':' :: joinGroups (groups.drop last)) = some groups := by
  have zone : (joinGroups (groups.take first) ++ ':' :: ':' :: joinGroups (groups.drop last)).contains '%' = false := by
    rw [List.contains_eq_mem]
    refine decide_eq_false fun member => ?_
    rcases List.mem_append.mp member with before | after
    · exact notMark_joinGroups _ '%' (by simp) before
    · simp only [List.mem_cons, Char.reduceEq, false_or] at after
      exact notMark_joinGroups _ '%' (by simp) after
  have eight := address.eight
  have wide := gap.wide
  have within := gap.within
  have leftSize : (groups.take first).length = first := by
    rw [List.length_take]
    omega
  have rightSize : (groups.drop last).length = 8 - last := by rw [List.length_drop, eight]
  have leftBounded : ∀ group ∈ groups.take first, group < 65536 := fun group member =>
    address.bounded group (List.mem_of_mem_take member)
  have rightBounded : ∀ group ∈ groups.drop last, group < 65536 := fun group member =>
    address.bounded group (List.mem_of_mem_drop member)
  have expanded : expandGroups (groups.take first ++ groups.drop last, some first) = some groups := by
    have short : (groups.take first ++ groups.drop last).length = first + (8 - last) := by
      rw [List.length_append, leftSize, rightSize]
    have missing : 8 - (first + (8 - last)) = last - first := by omega
    rw [expandGroups, short, if_pos (by omega), missing, List.take_left' leftSize, List.drop_left' leftSize, ← gap.parts]
  have joined : joinGroups [] = [] := rfl
  generalize groups.take first = left at *
  generalize groups.drop last = right at *
  cases left with
  | nil =>
      subst leftSize
      cases right with
      | nil => simpa [readIPv6, expandGroups, joined] using expanded
      | cons value right =>
          have read := @readGroups_join 8 value (some 0) [] right rightBounded (by rw [List.length_cons] at rightSize; omega)
          have given : joinGroups (value :: right) ≠ [] := by simpa using (@joinGroups_plain value right []).1
          rw [joined, List.nil_append] at zone ⊢
          simp only [readIPv6, zone, Bool.false_eq_true, if_false]
          rw [read]
          exact expanded
  | cons value left =>
      have size : left.length + 1 = first := by rwa [List.length_cons] at leftSize
      obtain ⟨digit, small, more, written⟩ := @joinGroups_opens value left
      have plain : Nat.digitChar digit ≠ ':' := digitChar_ne_mark digit small ':' (by simp)
      have read := @readGroups_join_gap 8 value [] left (joinGroups right) leftBounded (by omega)
      rw [List.length_nil, Nat.zero_add, List.nil_append, size] at read
      have whole : readGroups 8 none [] (joinGroups (value :: left) ++ ':' :: ':' :: joinGroups right) =
          some (value :: left ++ right, some first) := by
        rw [read]
        cases right with
        | nil => rw [joined, if_pos rfl, List.append_nil]
        | cons next right =>
            have given : joinGroups (next :: right) ≠ [] := by simpa using (@joinGroups_plain next right []).1
            rw [if_neg given, readGroups_join rightBounded (by rw [List.length_cons] at rightSize; omega)]
      rw [written] at zone whole ⊢
      rw [List.cons_append] at zone whole ⊢
      simp only [readIPv6, zone, Bool.false_eq_true, if_false]
      split
      · rename_i same
        exact absurd (List.cons.inj same).1 plain
      · rename_i same
        exact absurd (List.cons.inj same).1 plain
      · rw [whole]
        exact expanded

theorem readByte_toDigits : ∀ byte < 256, readByte (Nat.toDigits 10 byte) = some byte := by
  decide +kernel

theorem notMark_decimal {value : Nat} {mark : Char} (other : mark.isDigit = false) : mark ∉ Nat.toDigits 10 value := by
  intro member
  rw [Nat.isDigit_of_mem_toDigits (by decide) (by decide) member] at other
  cases other

/-- Four numbers with dots between them. -/
def dotted (first second third fourth : Nat) : List Char :=
  Nat.toDigits 10 first ++ '.' :: (Nat.toDigits 10 second ++ '.' :: (Nat.toDigits 10 third ++ '.' :: Nat.toDigits 10 fourth))

theorem toList_join_dotted (first second third fourth : Nat) :
    (join [itoa first, itoa second, itoa third, itoa fourth] ".").toList = dotted first second third fourth := by
  simp [join, dotted, toList_itoa]

theorem readIPv4_dotted {first second third fourth : Nat} (small : first < 256 ∧ second < 256 ∧ third < 256 ∧ fourth < 256) :
    readIPv4 (dotted first second third fourth) = some [first * 256 + second, third * 256 + fourth] := by
  have dot : ∀ value, '.' ∉ Nat.toDigits 10 value := fun value => notMark_decimal (by decide)
  have fields : (dotted first second third fourth).splitOn '.' =
      [Nat.toDigits 10 first, Nat.toDigits 10 second, Nat.toDigits 10 third, Nat.toDigits 10 fourth] := by
    rw [dotted, List.splitOn_append_cons_self_of_not_mem (dot _), List.splitOn_append_cons_self_of_not_mem (dot _),
      List.splitOn_append_cons_self_of_not_mem (dot _), List.splitOn_eq_singleton (dot _)]
  simp [readIPv4, fields, readByte_toDigits _ small.1, readByte_toDigits _ small.2.1, readByte_toDigits _ small.2.2.1,
    readByte_toDigits _ small.2.2.2]

theorem find?_mark {runes : List Char} {mark : Char} (listed : mark ∈ ['.', ':', '%']) (present : mark ∈ runes)
    (alone : ∀ other ∈ ['.', ':', '%'], other ∈ runes → other = mark) :
    (runes.find? fun rune => ['.', ':', '%'].contains rune) = some mark := by
  cases found : runes.find? fun rune => ['.', ':', '%'].contains rune with
  | none => exact absurd (List.contains_iff_mem.mpr listed) (List.find?_eq_none.mp found mark present)
  | some rune =>
      have marked : ['.', ':', '%'].contains rune = true := @List.find?_some _ _ _ _ found
      rw [alone rune (List.contains_iff_mem.mp marked) (List.mem_of_find?_eq_some found)]

/-- The runes of an IPv6 address that is printed. -/
structure ColonText (runes : List Char) : Prop where
  unmarked : ∀ mark ∈ ['.', '%', '[', ']', '/', ' '], mark ∉ runes
  colons : 2 ≤ runes.count ':'

theorem count_joinGroups : (joinGroups (value :: groups)).count ':' = groups.length := by
  have none : ∀ value, (Nat.toDigits 16 value).count ':' = 0 := by
    intro value
    rw [List.count_eq_zero]
    intro member
    obtain ⟨digit, small, same⟩ := toDigits_hex value ':' member
    exact digitChar_ne_mark digit small ':' (by simp) same.symm
  induction groups generalizing value with
  | nil => rw [joinGroups_single, none, List.length_nil]
  | cons next groups ih => rw [joinGroups_cons, List.count_append, none, List.count_cons_self, ih, List.length_cons, Nat.zero_add]

theorem colonText_join (address : IsAddress groups) : ColonText (joinGroups groups) where
  unmarked := notMark_joinGroups groups
  colons := by
    cases groups with
    | nil => cases address.eight
    | cons value groups =>
        have eight := address.eight
        rw [List.length_cons] at eight
        rw [count_joinGroups]
        omega

theorem colonText_gap (left right : List Nat) : ColonText (joinGroups left ++ ':' :: ':' :: joinGroups right) where
  unmarked := by
    intro mark listed member
    have other : mark ≠ ':' := by
      rintro rfl
      exact absurd listed (by decide)
    rcases List.mem_append.mp member with before | after
    · exact notMark_joinGroups left mark listed before
    · simp only [List.mem_cons, other, false_or] at after
      exact notMark_joinGroups right mark listed after
  colons := by
    rw [List.count_append, List.count_cons_self, List.count_cons_self]
    omega

theorem ColonText.parseIP {text : String} (printed : ColonText text.toList) : parseIP text = readIPv6 text.toList := by
  have present : ':' ∈ text.toList := List.count_pos_iff.mp (Nat.lt_of_lt_of_le (by decide) printed.colons)
  have found := find?_mark (by simp) present fun other listed member => by
    by_contra different
    refine printed.unmarked other ?_ member
    simp only [List.mem_cons, List.not_mem_nil, or_false] at listed ⊢
    rcases listed with dot | colon | percent
    · exact .inl dot
    · exact absurd colon different
    · exact .inr (.inl percent)
  rw [MiGate.Go.parseIP, found]
  rfl

/-- How an address is printed: four numbers, or groups with colons. -/
theorem printIP_cases (address : IsAddress groups) :
    (∃ first second third fourth, (first < 256 ∧ second < 256 ∧ third < 256 ∧ fourth < 256) ∧
      groups = [0, 0, 0, 0, 0, 0xFFFF, first * 256 + second, third * 256 + fourth] ∧
      (printIP groups).toList = dotted first second third fourth) ∨
    ColonText (printIP groups).toList ∧ readIPv6 (printIP groups).toList = some groups := by
  unfold printIP
  split
  · rename_i high low
    have highSmall := address.bounded high (by simp)
    have lowSmall := address.bounded low (by simp)
    refine .inl ⟨high / 256, high % 256, low / 256, low % 256, by omega, ?_, toList_join_dotted _ _ _ _⟩
    rw [Nat.div_add_mod', Nat.div_add_mod']
  · refine .inr ?_
    cases found : longestZeros groups with
    | some pair =>
        rw [String.toList_ofList]
        exact ⟨colonText_gap _ _, readIPv6_gap address (longestZeros_gap found)⟩
    | none =>
        rw [String.toList_ofList]
        exact ⟨colonText_join address, readIPv6_join address⟩

theorem parseIP_printIP (address : IsAddress groups) : parseIP (printIP groups) = some groups := by
  rcases printIP_cases address with ⟨first, second, third, fourth, small, same, written⟩ | ⟨printed, read⟩
  · have unmarked : ∀ mark ∈ [':', '%'], mark ∉ dotted first second third fourth := by
      intro mark listed
      have digit : mark.isDigit = false := by
        rcases List.mem_pair.mp listed with rfl | rfl
        · rfl
        · rfl
      have dot : mark ≠ '.' := by
        rintro rfl
        exact absurd listed (by decide)
      simp [dotted, notMark_decimal digit, dot]
    have found := @find?_mark (dotted first second third fourth) '.' (by simp) (by simp [dotted]) (by
      intro other listed member
      by_contra different
      refine unmarked other ?_ member
      simpa [different] using listed)
    rw [parseIP, written, found, same]
    simp [readIPv4_dotted small]
  · rw [printed.parseIP, read]

example : (parseIP "2001:DB8::0:1").map printIP = some "2001:db8::1" := by decide +kernel
example : (parseIP "::ffff:10.0.0.7").map printIP = some "10.0.0.7" := by decide +kernel
example : (parseIP "1:0:0:2::").map printIP = some "1:0:0:2::" := by decide +kernel
example : parseIP "1::2::3" = none := by decide +kernel
example : parseIP "10.0.0.07" = none := by decide +kernel

end MiGate.Go
