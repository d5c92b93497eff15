import Mathlib.Data.List.DropRight

namespace MiGate.Go

/-! The parts of Go's `strings`, `unicode` and `strconv` packages the program
relies on.  A Go string holding valid UTF-8 is a Lean `String`; every function
works on its list of runes, so that it evaluates in the kernel. -/

/-- The inclusive spans of code points with the property `White_Space`. -/
def spaceSpans : List (Nat × Nat) :=
  [(9, 13), (0x20, 0x20), (0x85, 0x85), (0xA0, 0xA0), (0x1680, 0x1680), (0x2000, 0x200A),
    (0x2028, 0x2029), (0x202F, 0x202F), (0x205F, 0x205F), (0x3000, 0x3000)]

def isSpaceCode (code : Nat) : Bool :=
  spaceSpans.any fun span => span.1 ≤ code && code ≤ span.2

/-- `unicode.IsSpace`. -/
def isSpace (rune : Char) : Bool :=
  isSpaceCode rune.toNat

/-- The runes of a list without the leading and trailing ones satisfying `drop`. -/
def trimList {α : Type} (drop : α → Bool) (runes : List α) : List α :=
  (runes.dropWhile drop).rdropWhile drop

/-- `strings.TrimSpace`. -/
def trimSpace (text : String) : String :=
  String.ofList (trimList isSpace text.toList)

/-- One entry of the simple lower-case mapping: the runes `first, first + stride, …, last`
map to the runes as far above `target`. -/
structure CaseRange where
  first : Nat
  last : Nat
  stride : Nat
  target : Nat

def CaseRange.covers (range : CaseRange) (code : Nat) : Bool :=
  range.first ≤ code && code ≤ range.last && (code - range.first) % range.stride == 0

/-- The upper- and title-case letters of Unicode with a simple lower-case mapping. -/
def lowerRanges : List CaseRange :=
  [⟨65, 90, 1, 97⟩, ⟨192, 214, 1, 224⟩, ⟨216, 222, 1, 248⟩, ⟨256, 302, 2, 257⟩, ⟨304, 304, 1, 105⟩,
    ⟨306, 310, 2, 307⟩, ⟨313, 327, 2, 314⟩, ⟨330, 374, 2, 331⟩, ⟨376, 376, 1, 255⟩, ⟨377, 381, 2, 378⟩,
    ⟨385, 385, 1, 595⟩, ⟨386, 388, 2, 387⟩, ⟨390, 390, 1, 596⟩, ⟨391, 391, 1, 392⟩, ⟨393, 394, 1, 598⟩,
    ⟨395, 395, 1, 396⟩, ⟨398, 398, 1, 477⟩, ⟨399, 399, 1, 601⟩, ⟨400, 400, 1, 603⟩, ⟨401, 401, 1, 402⟩,
    ⟨403, 403, 1, 608⟩, ⟨404, 404, 1, 611⟩, ⟨406, 406, 1, 617⟩, ⟨407, 407, 1, 616⟩, ⟨408, 408, 1, 409⟩,
    ⟨412, 412, 1, 623⟩, ⟨413, 413, 1, 626⟩, ⟨415, 415, 1, 629⟩, ⟨416, 420, 2, 417⟩, ⟨422, 422, 1, 640⟩,
    ⟨423, 423, 1, 424⟩, ⟨425, 425, 1, 643⟩, ⟨428, 428, 1, 429⟩, ⟨430, 430, 1, 648⟩, ⟨431, 431, 1, 432⟩,
    ⟨433, 434, 1, 650⟩, ⟨435, 437, 2, 436⟩, ⟨439, 439, 1, 658⟩, ⟨440, 440, 1, 441⟩, ⟨444, 444, 1, 445⟩,
    ⟨452, 452, 1, 454⟩, ⟨453, 453, 1, 454⟩, ⟨455, 455, 1, 457⟩, ⟨456, 456, 1, 457⟩, ⟨458, 458, 1, 460⟩,
    ⟨459, 475, 2, 460⟩, ⟨478, 494, 2, 479⟩, ⟨497, 497, 1, 499⟩, ⟨498, 500, 2, 499⟩, ⟨502, 502, 1, 405⟩,
    ⟨503, 503, 1, 447⟩, ⟨504, 542, 2, 505⟩, ⟨544, 544, 1, 414⟩, ⟨546, 562, 2, 547⟩,
    ⟨570, 570, 1, 11365⟩, ⟨571, 571, 1, 572⟩, ⟨573, 573, 1, 410⟩, ⟨574, 574, 1, 11366⟩,
    ⟨577, 577, 1, 578⟩, ⟨579, 579, 1, 384⟩, ⟨580, 580, 1, 649⟩, ⟨581, 581, 1, 652⟩, ⟨582, 590, 2, 583⟩,
    ⟨880, 882, 2, 881⟩, ⟨886, 886, 1, 887⟩, ⟨895, 895, 1, 1011⟩, ⟨902, 902, 1, 940⟩,
    ⟨904, 906, 1, 941⟩, ⟨908, 908, 1, 972⟩, ⟨910, 911, 1, 973⟩, ⟨913, 929, 1, 945⟩, ⟨931, 939, 1, 963⟩,
    ⟨975, 975, 1, 983⟩, ⟨984, 1006, 2, 985⟩, ⟨1012, 1012, 1, 952⟩, ⟨1015, 1015, 1, 1016⟩,
    ⟨1017, 1017, 1, 1010⟩, ⟨1018, 1018, 1, 1019⟩, ⟨1021, 1023, 1, 891⟩, ⟨1024, 1039, 1, 1104⟩,
    ⟨1040, 1071, 1, 1072⟩, ⟨1120, 1152, 2, 1121⟩, ⟨1162, 1214, 2, 1163⟩, ⟨1216, 1216, 1, 1231⟩,
    ⟨1217, 1229, 2, 1218⟩, ⟨1232, 1326, 2, 1233⟩, ⟨1329, 1366, 1, 1377⟩, ⟨4256, 4293, 1, 11520⟩,
    ⟨4295, 4295, 1, 11559⟩, ⟨4301, 4301, 1, 11565⟩, ⟨5024, 5103, 1, 43888⟩, ⟨5104, 5109, 1, 5112⟩,
    ⟨7312, 7354, 1, 4304⟩, ⟨7357, 7359, 1, 4349⟩, ⟨7680, 7828, 2, 7681⟩, ⟨7838, 7838, 1, 223⟩,
    ⟨7840, 7934, 2, 7841⟩, ⟨7944, 7951, 1, 7936⟩, ⟨7960, 7965, 1, 7952⟩, ⟨7976, 7983, 1, 7968⟩,
    ⟨7992, 7999, 1, 7984⟩, ⟨8008, 8013, 1, 8000⟩, ⟨8025, 8031, 2, 8017⟩, ⟨8040, 8047, 1, 8032⟩,
    ⟨8072, 8079, 1, 8064⟩, ⟨8088, 8095, 1, 8080⟩, ⟨8104, 8111, 1, 8096⟩, ⟨8120, 8121, 1, 8112⟩,
    ⟨8122, 8123, 1, 8048⟩, ⟨8124, 8124, 1, 8115⟩, ⟨8136, 8139, 1, 8050⟩, ⟨8140, 8140, 1, 8131⟩,
    ⟨8152, 8153, 1, 8144⟩, ⟨8154, 8155, 1, 8054⟩, ⟨8168, 8169, 1, 8160⟩, ⟨8170, 8171, 1, 8058⟩,
    ⟨8172, 8172, 1, 8165⟩, ⟨8184, 8185, 1, 8056⟩, ⟨8186, 8187, 1, 8060⟩, ⟨8188, 8188, 1, 8179⟩,
    ⟨8486, 8486, 1, 969⟩, ⟨8490, 8490, 1, 107⟩, ⟨8491, 8491, 1, 229⟩, ⟨8498, 8498, 1, 8526⟩,
    ⟨8544, 8559, 1, 8560⟩, ⟨8579, 8579, 1, 8580⟩, ⟨9398, 9423, 1, 9424⟩, ⟨11264, 11311, 1, 11312⟩,
    ⟨11360, 11360, 1, 11361⟩, ⟨11362, 11362, 1, 619⟩, ⟨11363, 11363, 1, 7549⟩, ⟨11364, 11364, 1, 637⟩,
    ⟨11367, 11371, 2, 11368⟩, ⟨11373, 11373, 1, 593⟩, ⟨11374, 11374, 1, 625⟩, ⟨11375, 11375, 1, 592⟩,
    ⟨11376, 11376, 1, 594⟩, ⟨11378, 11378, 1, 11379⟩, ⟨11381, 11381, 1, 11382⟩, ⟨11390, 11391, 1, 575⟩,
    ⟨11392, 11490, 2, 11393⟩, ⟨11499, 11501, 2, 11500⟩, ⟨11506, 11506, 1, 11507⟩,
    ⟨42560, 42604, 2, 42561⟩, ⟨42624, 42650, 2, 42625⟩, ⟨42786, 42798, 2, 42787⟩,
    ⟨42802, 42862, 2, 42803⟩, ⟨42873, 42875, 2, 42874⟩, ⟨42877, 42877, 1, 7545⟩,
    ⟨42878, 42886, 2, 42879⟩, ⟨42891, 42891, 1, 42892⟩, ⟨42893, 42893, 1, 613⟩,
    ⟨42896, 42898, 2, 42897⟩, ⟨42902, 42920, 2, 42903⟩, ⟨42922, 42922, 1, 614⟩, ⟨42923, 42923, 1, 604⟩,
    ⟨42924, 42924, 1, 609⟩, ⟨42925, 42925, 1, 620⟩, ⟨42926, 42926, 1, 618⟩, ⟨42928, 42928, 1, 670⟩,
    ⟨42929, 42929, 1, 647⟩, ⟨42930, 42930, 1, 669⟩, ⟨42931, 42931, 1, 43859⟩, ⟨42932, 42946, 2, 42933⟩,
    ⟨42948, 42948, 1, 42900⟩, ⟨42949, 42949, 1, 642⟩, ⟨42950, 42950, 1, 7566⟩,
    ⟨42951, 42953, 2, 42952⟩, ⟨42960, 42960, 1, 42961⟩, ⟨42966, 42968, 2, 42967⟩,
    ⟨42997, 42997, 1, 42998⟩, ⟨65313, 65338, 1, 65345⟩, ⟨66560, 66599, 1, 66600⟩,
    ⟨66736, 66771, 1, 66776⟩, ⟨66928, 66938, 1, 66967⟩, ⟨66940, 66954, 1, 66979⟩,
    ⟨66956, 66962, 1, 66995⟩, ⟨66964, 66965, 1, 67003⟩, ⟨68736, 68786, 1, 68800⟩,
    ⟨71840, 71871, 1, 71872⟩, ⟨93760, 93791, 1, 93792⟩, ⟨125184, 125217, 1, 125218⟩]

def lowerCode (code : Nat) : Nat :=
  match lowerRanges.find? (·.covers code) with
  | some range => range.target + (code - range.first)
  | none => code

/-- `unicode.ToLower`, with the ASCII case decided first as Go does. -/
def lowerRune (rune : Char) : Char :=
  if rune.toNat < 128 then
    if 65 ≤ rune.toNat ∧ rune.toNat ≤ 90 then Char.ofNat (rune.toNat + 32) else rune
  else
    Char.ofNat (lowerCode rune.toNat)

/-- `strings.ToLower`. -/
def toLower (text : String) : String :=
  String.ofList (text.toList.map lowerRune)

/-- `strings.HasPrefix`. -/
def hasPrefix (text lead : String) : Bool :=
  lead.toList.isPrefixOf text.toList

/-- `strings.Contains`. -/
def contains (text part : String) : Bool :=
  text.toList.tails.any fun rest => part.toList.isPrefixOf rest

/-- The maximal non-empty runs of runes that are not separators. -/
def fieldsList {α : Type} (separator : α → Bool) : List α → List α → List (List α)
  | field, [] => if field.isEmpty then [] else [field.reverse]
  | field, rune :: rest =>
      if separator rune then
        if field.isEmpty then fieldsList separator [] rest
        else field.reverse :: fieldsList separator [] rest
      else
        fieldsList separator (rune :: field) rest

/-- `strings.FieldsFunc`. -/
def fieldsFunc (text : String) (separator : Char → Bool) : List String :=
  (fieldsList separator [] text.toList).map String.ofList

/-- `strings.Split` at a one-rune separator. -/
def splitOn (text : String) (separator : Char) : List String :=
  (text.toList.splitOn separator).map String.ofList

/-- `strings.Join`. -/
def join (parts : List String) (separator : String) : String :=
  match parts with
  | [] => ""
  | part :: rest => rest.foldl (fun text next => text ++ separator ++ next) part

def doubleQuote : Char := Char.ofNat 34

def backslash : Char := Char.ofNat 92

/-- How `strconv.Quote` writes one rune; the runes above ASCII are taken to be printable. -/
def quoteRune (rune : Char) : List Char :=
  match rune.toNat with
  | 7 => [backslash, 'a']
  | 8 => [backslash, 'b']
  | 9 => [backslash, 't']
  | 10 => [backslash, 'n']
  | 11 => [backslash, 'v']
  | 12 => [backslash, 'f']
  | 13 => [backslash, 'r']
  | 34 => [backslash, doubleQuote]
  | 92 => [backslash, backslash]
  | code =>
      if code < 32 ∨ code = 127 then
        [backslash, 'x', Nat.digitChar (code / 16), Nat.digitChar (code % 16)]
      else [rune]

/-- `strconv.Quote`, the `%q` verb. -/
def quote (text : String) : String :=
  String.ofList (doubleQuote :: text.toList.flatMap quoteRune ++ [doubleQuote])

/-- `strconv.FormatInt` in base ten, the `%d` verb. -/
def itoa (value : Int) : String :=
  toString value

theorem trimList_idempotent {α : Type} (drop : α → Bool) (runes : List α) :
    trimList drop (trimList drop runes) = trimList drop runes := by
  have settled : (trimList drop runes).dropWhile drop = trimList drop runes := by
    rw [List.dropWhile_eq_self_iff]
    intro nonempty
    obtain ⟨tail, split⟩ : trimList drop runes <+: runes.dropWhile drop := List.rdropWhile_prefix ..
    have dropped : runes.dropWhile drop ≠ [] := by
      intro empty
      rw [empty] at split
      simp_all
    have first := List.head_dropWhile_not drop dropped
    have same : (trimList drop runes)[0] = (runes.dropWhile drop).head dropped := by
      rw [List.head_eq_getElem]
      simp only [← split]
      rw [List.getElem_append_left]
    rw [same, first]
    simp
  unfold trimList at settled ⊢
  rw [settled, List.rdropWhile_idempotent]

@[simp] theorem trimSpace_trimSpace (text : String) : trimSpace (trimSpace text) = trimSpace text := by
  simp [trimSpace, trimList_idempotent]

theorem trimList_map {α β : Type} {drop : β → Bool} {keep : α → Bool} (f : α → β)
    (agrees : ∀ rune, drop (f rune) = keep rune) (runes : List α) :
    trimList drop (runes.map f) = (trimList keep runes).map f := by
  have composed : drop ∘ f = keep := funext agrees
  simp [trimList, List.rdropWhile, List.dropWhile_map, composed, ← List.map_reverse]

/-- The span `low .. high` misses every span of white space. -/
private def missesSpaces (low high : Nat) : Bool :=
  spaceSpans.all fun span => Nat.blt high span.1 || Nat.blt span.2 low

/-- No rune `range` maps to is mapped by `other`: their spans are disjoint, or the runes of
`other` all have the other parity. -/
private def CaseRange.apart (range other : CaseRange) : Bool :=
  Nat.blt other.last range.target ||
    Nat.blt (range.target + (range.last - range.first)) other.first ||
    ((Nat.beq range.stride 2 || Nat.beq range.first range.last) && Nat.beq other.stride 2 &&
      Nat.beq ((range.target + other.first) % 2) 1)

private def CaseRange.settles (range : CaseRange) : Bool :=
  missesSpaces range.first range.last &&
    missesSpaces range.target (range.target + (range.last - range.first)) &&
    (range.target + (range.last - range.first) < 0xD800 ||
      (0xDFFF < range.target && range.target + (range.last - range.first) < 0x110000)) &&
    lowerRanges.all range.apart

private theorem lowerRanges_settle : lowerRanges.all CaseRange.settles = true := by
  decide +kernel

private theorem isSpaceCode_of_missesSpaces {low high code : Nat} (misses : missesSpaces low high)
    (lower : low ≤ code) (upper : code ≤ high) : isSpaceCode code = false := by
  rw [isSpaceCode, List.any_eq_false]
  intro span member
  have missed := List.all_eq_true.mp misses span member
  simp only [Bool.or_eq_true, Nat.blt_eq] at missed
  simp only [Bool.and_eq_true, decide_eq_true_eq]
  omega

private theorem lowerCode_ascii (code : Nat) (ascii : code < 128) :
    lowerCode code = if 65 ≤ code ∧ code ≤ 90 then code + 32 else code := by
  have others : lowerRanges.tail.all (fun range => Nat.ble 128 range.first) = true := by
    decide
  have missed : lowerRanges.tail.find? (·.covers code) = none := by
    rw [List.find?_eq_none]
    intro range inside
    have above := Nat.le_of_ble_eq_true (List.all_eq_true.mp others range inside)
    simp only [CaseRange.covers, Bool.and_eq_true, decide_eq_true_eq]
    omega
  have split : lowerRanges = ⟨65, 90, 1, 97⟩ :: lowerRanges.tail := rfl
  rw [lowerCode, split, List.find?_cons, missed]
  by_cases upper : 65 ≤ code ∧ code ≤ 90
  · have covered : (CaseRange.mk 65 90 1 97).covers code = true := by
      simp [CaseRange.covers, upper, Nat.mod_one]
    simp only [covered, upper, and_self, if_true]
    omega
  · have covered : (CaseRange.mk 65 90 1 97).covers code = false := by
      simp only [CaseRange.covers, Bool.and_eq_false_imp, Bool.and_eq_true, decide_eq_true_eq]
      exact fun inside => absurd inside upper
    simp only [covered, upper, if_false]

/-- A code point is either left alone by the mapping, or sent to a valid rune which is;
neither it nor its image is then white space. -/
private theorem lowerCode_cases (code : Nat) :
    lowerCode code = code ∨
      ((lowerCode code).isValidChar ∧ isSpaceCode (lowerCode code) = false ∧
        isSpaceCode code = false ∧ lowerCode (lowerCode code) = lowerCode code) := by
  cases found : lowerRanges.find? (·.covers code) with
  | none => exact .inl (by simp [lowerCode, found])
  | some range =>
      right
      have member := List.mem_of_find?_eq_some found
      have covered : range.covers code = true := by
        simpa using List.find?_some found
      simp only [CaseRange.covers, Bool.and_eq_true, decide_eq_true_eq, beq_iff_eq] at covered
      obtain ⟨⟨lower, upper⟩, aligned⟩ := covered
      have settled := List.all_eq_true.mp lowerRanges_settle range member
      simp only [CaseRange.settles, Bool.and_eq_true, Bool.or_eq_true, decide_eq_true_eq] at settled
      obtain ⟨⟨⟨source, target⟩, valid⟩, apart⟩ := settled
      have image : lowerCode code = range.target + (code - range.first) := by
        simp only [lowerCode, found]
      have fixed : lowerCode (range.target + (code - range.first)) =
          range.target + (code - range.first) := by
        have missed : lowerRanges.find? (·.covers (range.target + (code - range.first))) = none := by
          rw [List.find?_eq_none]
          intro other inside
          have separate := List.all_eq_true.mp apart other inside
          simp only [CaseRange.apart, Bool.or_eq_true, Bool.and_eq_true, Nat.blt_eq,
            Nat.beq_eq] at separate
          simp only [CaseRange.covers, Bool.and_eq_true, decide_eq_true_eq, beq_iff_eq]
          rintro ⟨⟨otherLower, otherUpper⟩, otherAligned⟩
          rcases separate with (before | after) | ⟨⟨stride | single, otherStride⟩, parity⟩
          · omega
          · omega
          · rw [stride] at aligned
            rw [otherStride] at otherAligned
            omega
          · rw [otherStride] at otherAligned
            omega
        simp only [lowerCode, missed]
      rw [image]
      refine ⟨?_, isSpaceCode_of_missesSpaces target (by omega) (by omega),
        isSpaceCode_of_missesSpaces source lower upper, fixed⟩
      unfold Nat.isValidChar
      omega

theorem lowerRune_eq (rune : Char) : lowerRune rune = Char.ofNat (lowerCode rune.toNat) := by
  unfold lowerRune
  split
  · rename_i ascii
    rw [lowerCode_ascii _ ascii]
    split
    · rfl
    · exact (Char.ofNat_toNat rune).symm
  · rfl

private theorem toNat_ofNat {code : Nat} (valid : code.isValidChar) :
    (Char.ofNat code).toNat = code := by
  rw [Char.ofNat, dif_pos valid]
  rfl

theorem lowerRune_lowerRune (rune : Char) : lowerRune (lowerRune rune) = lowerRune rune := by
  simp only [lowerRune_eq]
  rcases lowerCode_cases rune.toNat with fixed | ⟨valid, _, _, fixed⟩
  · simp only [fixed, Char.ofNat_toNat]
  · rw [toNat_ofNat valid, fixed]

theorem isSpace_lowerRune (rune : Char) : isSpace (lowerRune rune) = isSpace rune := by
  rw [lowerRune_eq]
  rcases lowerCode_cases rune.toNat with fixed | ⟨valid, notSpace, sourceNotSpace, _⟩
  · rw [fixed, Char.ofNat_toNat]
  · simp only [isSpace]
    rw [toNat_ofNat valid, notSpace, sourceNotSpace]

@[simp] theorem toLower_toLower (text : String) : toLower (toLower text) = toLower text := by
  simp only [toLower, String.toList_ofList, List.map_map]
  congr 1
  exact List.map_congr_left fun rune _ => lowerRune_lowerRune rune

/-- Lower-casing neither makes nor removes white space. -/
theorem trimSpace_toLower (text : String) : trimSpace (toLower text) = toLower (trimSpace text) := by
  simp [trimSpace, toLower, trimList_map lowerRune isSpace_lowerRune]

theorem trimList_of_kept {α : Type} {drop : α → Bool} {runes : List α}
    (kept : ∀ rune ∈ runes, drop rune = false) : trimList drop runes = runes := by
  have leading : runes.dropWhile drop = runes := by
    rw [List.dropWhile_eq_self_iff]
    intro nonempty
    simp [kept _ (List.getElem_mem nonempty)]
  rw [trimList, leading, List.rdropWhile_eq_self_iff]
  intro nonempty
  simp [kept _ (List.getLast_mem nonempty)]

/-- Trimming leaves alone what neither begins nor ends with what it drops. -/
theorem trimList_eq_self {α : Type} {drop : α → Bool} {runes : List α} : trimList drop runes = runes ↔
    (∀ rune ∈ runes.head?, drop rune = false) ∧ ∀ rune ∈ runes.getLast?, drop rune = false := by
  have leading : runes.dropWhile drop = runes ↔ ∀ rune ∈ runes.head?, drop rune = false := by
    cases runes with
    | nil => simp
    | cons first rest =>
        rw [List.dropWhile_eq_self_iff]
        simp
  have trailing : runes.rdropWhile drop = runes ↔ ∀ rune ∈ runes.getLast?, drop rune = false := by
    rw [List.rdropWhile_eq_self_iff]
    cases runes with
    | nil => simp
    | cons first rest => simp [List.getLast?_eq_some_getLast]
  rw [← leading, ← trailing]
  constructor
  · intro trimmed
    have settled : runes.dropWhile drop = runes := by
      refine (List.dropWhile_sublist drop).eq_of_length_le ?_
      have shorter := (List.rdropWhile_prefix drop (runes.dropWhile drop)).length_le
      rw [trimList] at trimmed
      rwa [trimmed] at shorter
    rw [trimList, settled] at trimmed
    exact ⟨settled, trimmed⟩
  · intro ends
    rw [trimList, ends.1, ends.2]

/-- The texts without white space, which trimming leaves alone. -/
def Spaceless (text : String) : Prop :=
  ∀ rune ∈ text.toList, isSpace rune = false

instance (text : String) : Decidable (Spaceless text) :=
  List.decidableBAll (fun rune => isSpace rune = false) text.toList

theorem Spaceless.trimSpace {text : String} (spaceless : Spaceless text) : trimSpace text = text := by
  rw [Go.trimSpace, trimList_of_kept spaceless, String.ofList_toList]

theorem trimSpace_empty : trimSpace "" = "" :=
  Spaceless.trimSpace (by decide)

theorem Spaceless.append {left right : String} (leftSpaceless : Spaceless left)
    (rightSpaceless : Spaceless right) : Spaceless (left ++ right) := by
  intro rune member
  rw [String.toList_append] at member
  rcases List.mem_append.mp member with inLeft | inRight
  · exact leftSpaceless rune inLeft
  · exact rightSpaceless rune inRight

theorem mem_fieldsList {α : Type} {separator : α → Bool} {field runes part : List α}
    (member : part ∈ fieldsList separator field runes) : ∀ rune ∈ part, rune ∈ field ∨ rune ∈ runes := by
  induction runes generalizing field with
  | nil =>
      simp only [fieldsList] at member
      split at member
      · cases member
      · rw [List.mem_singleton.mp member]
        exact fun rune inside => .inl (List.mem_reverse.mp inside)
  | cons first rest ih =>
      intro rune inside
      simp only [fieldsList] at member
      have later : part ∈ fieldsList separator [] rest → rune ∈ field ∨ rune ∈ first :: rest := by
        intro remaining
        rcases ih remaining rune inside with none | present
        · cases none
        · exact .inr (List.mem_cons_of_mem _ present)
      split_ifs at member with separates blank
      · exact later member
      · rcases List.mem_cons.mp member with rfl | remaining
        · exact .inl (List.mem_reverse.mp inside)
        · exact later remaining
      · rcases ih member rune inside with taken | present
        · rcases List.mem_cons.mp taken with rfl | old
          · exact .inr List.mem_cons_self
          · exact .inl old
        · exact .inr (List.mem_cons_of_mem _ present)

theorem trimList_eq_nil {α : Type} {drop : α → Bool} {runes : List α} :
    trimList drop runes = [] ↔ ∀ rune ∈ runes, drop rune = true := by
  rw [trimList, List.rdropWhile_eq_nil_iff]
  constructor
  · intro blank
    rw [← List.dropWhile_eq_nil_iff]
    cases rest : runes.dropWhile drop with
    | nil => rfl
    | cons first others =>
        have kept := List.head_dropWhile_not drop (by simp [rest] : runes.dropWhile drop ≠ [])
        have dropped := blank first (by simp [rest])
        simp [rest, dropped] at kept
  · exact fun blank rune member => blank rune ((List.dropWhile_sublist drop).subset member)

theorem trimSpace_eq_empty {text : String} : trimSpace text = "" ↔ ∀ rune ∈ text.toList, isSpace rune = true := by
  unfold trimSpace
  rw [← trimList_eq_nil]
  constructor
  · intro blank
    have runes := congrArg String.toList blank
    simpa using runes
  · intro blank
    rw [blank]

theorem toList_itoa (value : Nat) : (itoa value).toList = Nat.toDigits 10 value := by
  unfold itoa
  exact Nat.toList_repr

theorem toList_itoa_negSucc (value : Nat) :
    (itoa (Int.negSucc value)).toList = '-' :: Nat.toDigits 10 (value + 1) := by
  unfold itoa
  change (Int.repr (Int.negSucc value)).toList = _
  simp [Int.repr, String.toList_append]

theorem isSpace_of_isDigit {rune : Char} (digit : rune.isDigit = true) : isSpace rune = false := by
  have codes : ∀ code < 58, 48 ≤ code → isSpaceCode code = false := by decide
  rw [Char.isDigit, Bool.and_eq_true, decide_eq_true_eq, decide_eq_true_eq] at digit
  have low : 48 ≤ rune.toNat := UInt32.le_iff_toNat_le.mp digit.1
  have high : rune.toNat ≤ 57 := UInt32.le_iff_toNat_le.mp digit.2
  exact codes rune.toNat (by omega) low

theorem itoa_inj {left right : Int} (leftNonneg : 0 ≤ left) (rightNonneg : 0 ≤ right)
    (same : itoa left = itoa right) : left = right := by
  lift left to ℕ using leftNonneg
  lift right to ℕ using rightNonneg
  have digits := congrArg String.toList same
  rw [toList_itoa, toList_itoa] at digits
  have values := congrArg (Nat.ofDigitChars 10 · 0) digits
  have equal : left = right := by simpa [Nat.ofDigitChars_toDigits] using values
  rw [equal]

theorem isDigit_itoa {value : Int} (nonneg : 0 ≤ value) : ∀ rune ∈ (itoa value).toList, rune.isDigit = true := by
  lift value to ℕ using nonneg
  rw [toList_itoa]
  exact fun rune member => Nat.isDigit_of_mem_toDigits (by decide) (by decide) member

/-- A text that a number can be followed by without running into it. -/
def EndsNumber (tail : String) : Prop :=
  ∀ rune ∈ tail.toList.head?, rune.isDigit = false

/-- The number after a fixed text can be read back. -/
theorem numbered_inj {lead tail tail' : String} {left right : Int} (leftNonneg : 0 ≤ left)
    (rightNonneg : 0 ≤ right) (ends : EndsNumber tail) (ends' : EndsNumber tail')
    (same : lead ++ itoa left ++ tail = lead ++ itoa right ++ tail') : left = right := by
  have numberOf : ∀ {value : Int} {tail : String}, 0 ≤ value → EndsNumber tail →
      ((itoa value).toList ++ tail.toList).takeWhile Char.isDigit = (itoa value).toList := by
    intro value tail nonneg ends
    rw [List.takeWhile_append_of_pos (isDigit_itoa nonneg)]
    cases runes : tail.toList with
    | nil => simp
    | cons rune rest =>
        have stops := ends rune (by simp [runes])
        simp [stops]
  have runes := congrArg String.toList same
  rw [String.append_assoc, String.append_assoc, String.toList_append, String.toList_append,
    String.toList_append, String.toList_append] at runes
  have rests := List.append_cancel_left runes
  have digits := congrArg (List.takeWhile Char.isDigit) rests
  rw [numberOf leftNonneg ends, numberOf rightNonneg ends'] at digits
  exact itoa_inj leftNonneg rightNonneg (String.toList_inj.mp digits)

/-! Unifying two texts must not evaluate them; the kernel still can. -/

attribute [irreducible] trimSpace toLower hasPrefix contains fieldsFunc splitOn quote itoa

end MiGate.Go
