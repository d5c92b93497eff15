import MiGate.Panel.Config

namespace MiGate.Panel

open Go Db MiGate.Config

/-! When a host that is normalized stays as it is if it is normalized again. -/

def trimBrackets (value : String) : String :=
  String.ofList (trimList (fun rune => ['[', ']', ' ', '\t', '\r', '\n'].contains rune) value.toList)

/-- A host without its port. -/
def stripPort (platform : Platform) (value : String) : String :=
  match platform.splitHost value with
  | some host => host
  | none =>
      if value.toList.count ':' = 1 then
        match splitAtLast ':' value with
        | some (host, port) => if host ≠ "" ∧ isDecimal port then host else value
        | none => value
      else value

def stripScheme (platform : Platform) (value : String) : String :=
  if contains value "://" then (platform.urlHost value).getD value else value

/-- What is left of a host once its scheme, its port and its brackets are off. -/
def hostCore (platform : Platform) (value : String) : String :=
  trimBrackets (stripPort platform (stripScheme platform (trimSpace value)))

theorem normalizeManagementDirectHost_eq (platform : Platform) (value : String) :
    normalizeManagementDirectHost platform value =
      if trimSpace value = "" then ""
      else if hostCore platform value = "" then ""
      else match platform.parseIP (hostCore platform value) with
        | some (printed, _) => printed
        | none => toLower (hostCore platform value) := rfl

/-- A text that has no space around it, no scheme and no port. -/
def Bare (platform : Platform) (text : String) : Prop :=
  trimSpace text = text ∧ (contains text "://" = true → platform.urlHost text = none) ∧ stripPort platform text = text

instance (platform : Platform) (text : String) : Decidable (Bare platform text) :=
  inferInstanceAs (Decidable (_ ∧ _ ∧ _))

/-- One pass takes off all there is: an address is left, or a bare name, or nothing. -/
def HostSettles (platform : Platform) (value : String) : Prop :=
  hostCore platform value = "" ∨ (platform.parseIP (hostCore platform value)).isSome = true ∨
    Bare platform (toLower (hostCore platform value))

instance (platform : Platform) (value : String) : Decidable (HostSettles platform value) :=
  inferInstanceAs (Decidable (_ ∨ _ ∨ _))

/-! What is taken off makes a text shorter. -/

theorem trimBrackets_subset (value : String) : (trimBrackets value).toList ⊆ value.toList := by
  rw [trimBrackets, String.toList_ofList]
  exact fun rune member => (List.dropWhile_suffix _).subset ((List.rdropWhile_prefix _ _).subset member)

theorem length_trimList_le {α : Type} (drop : α → Bool) (items : List α) : (trimList drop items).length ≤ items.length :=
  (List.rdropWhile_prefix _ _).length_le.trans (List.dropWhile_suffix _).length_le

theorem trimList_eq_of_length {α : Type} {drop : α → Bool} {items : List α}
    (same : items.length ≤ (trimList drop items).length) : trimList drop items = items := by
  have shorter : (trimList drop items).Sublist items :=
    (List.rdropWhile_prefix _ _).sublist.trans (List.dropWhile_suffix _).sublist
  exact shorter.eq_of_length_le same

theorem splitAtLast_eq {mark : Char} {text before behind : String} (done : splitAtLast mark text = some (before, behind)) :
    text.toList = before.toList ++ mark :: behind.toList := by
  unfold splitAtLast at done
  split at done
  · rename_i last first rest parts
    cases done
    have whole := @List.intercalate_splitOn _ text.toList.reverse _ _ mark
    rw [parts] at whole
    have turned := congrArg List.reverse whole
    rw [List.intercalate_cons_cons, List.reverse_reverse] at turned
    rw [← turned]
    simp [List.intercalate]
  · cases done

variable {platform : Platform}

theorem stripPort_goNetwork (value : String) : stripPort (goNetwork platform) value = value ∨
    (stripPort (goNetwork platform) value).toList.length < value.toList.length ∧
      (stripPort (goNetwork platform) value).toList ⊆ value.toList := by
  unfold stripPort
  split
  · rename_i host split_
    obtain ⟨⟨_, port⟩, parted, rfl⟩ := Option.map_eq_some_iff.mp split_
    exact .inr (netSplitHostPort_shorter parted)
  · split
    · split
      · rename_i before behind parted
        split
        · have whole := splitAtLast_eq parted
          refine .inr ⟨?_, ?_⟩
          · rw [whole, List.length_append, List.length_cons]
            omega
          · rw [whole]
            exact List.subset_append_left _ _
        · exact .inl rfl
      · exact .inl rfl
    · exact .inl rfl

theorem length_stripPort_le (value : String) : (stripPort (goNetwork platform) value).toList.length ≤ value.toList.length := by
  rcases @stripPort_goNetwork platform value with same | shorter
  · rw [same]
  · exact shorter.1.le

theorem stripPort_subset (value : String) : (stripPort (goNetwork platform) value).toList ⊆ value.toList := by
  rcases @stripPort_goNetwork platform value with same | shorter
  · rw [same]
    exact List.Subset.refl _
  · exact shorter.2

theorem slash_of_contains {text : String} (scheme : contains text "://" = true) : '/' ∈ text.toList := by
  unfold contains at scheme
  obtain ⟨tail, member, lead⟩ := List.any_eq_true.mp scheme
  obtain ⟨rest, whole⟩ := List.isPrefixOf_iff_prefix.mp lead
  refine ((List.mem_tails _ _).mp member).subset ?_
  rw [← whole]
  simp

theorem contains_eq_false {text : String} (unslashed : '/' ∉ text.toList) : contains text "://" = false := by
  cases scheme : contains text "://" with
  | false => rfl
  | true => exact absurd (slash_of_contains scheme) unslashed

/-! What is printed of an address is bare, and stays. -/

theorem notMark_print {groups : List Nat} {mark : Char} (other : isAddressRune mark = false) :
    mark ∉ (printIP groups).toList := by
  intro member
  rw [isAddressRune_print groups mark member] at other
  cases other

theorem trimSpace_print (groups : List Nat) : trimSpace (printIP groups) = printIP groups := by
  refine Spaceless.trimSpace fun rune member => ?_
  have known : isAddressRune rune = true := isAddressRune_print groups rune member
  simp only [isAddressRune, List.contains_iff_mem, List.mem_cons, List.not_mem_nil, or_false] at known
  rcases known with rfl | rfl | rfl | rfl | rfl | rfl | rfl | rfl | rfl | rfl | rfl | rfl | rfl | rfl | rfl | rfl | rfl | rfl
  all_goals rfl

theorem toLower_print (groups : List Nat) : toLower (printIP groups) = printIP groups := by
  have settled : ∀ rune, isAddressRune rune = true → lowerRune rune = rune := by
    intro rune known
    simp only [isAddressRune, List.contains_iff_mem, List.mem_cons, List.not_mem_nil, or_false] at known
    rcases known with rfl | rfl | rfl | rfl | rfl | rfl | rfl | rfl | rfl | rfl | rfl | rfl | rfl | rfl | rfl | rfl | rfl | rfl
    all_goals rfl
  rw [toLower, List.map_congr_left fun rune member => settled rune (isAddressRune_print groups rune member), List.map_id',
    String.ofList_toList]

theorem trimBrackets_eq_self {value : String}
    (plain : ∀ rune ∈ value.toList, ['[', ']', ' ', '\t', '\r', '\n'].contains rune = false) : trimBrackets value = value := by
  rw [trimBrackets, trimList_of_kept plain, String.ofList_toList]

theorem trimBrackets_print (groups : List Nat) : trimBrackets (printIP groups) = printIP groups := by
  refine trimBrackets_eq_self fun rune member => ?_
  have known : isAddressRune rune = true := isAddressRune_print groups rune member
  cases bracket : ['[', ']', ' ', '\t', '\r', '\n'].contains rune with
  | false => rfl
  | true =>
      simp only [List.contains_iff_mem, List.mem_cons, List.not_mem_nil, or_false] at bracket
      rcases bracket with rfl | rfl | rfl | rfl | rfl | rfl
      all_goals cases known

theorem bare_print {groups : List Nat} (address : IsAddress groups) : Bare (goNetwork platform) (printIP groups) := by
  have unsplit : (goNetwork platform).splitHost (printIP groups) = none := by
    have missed := netSplitHostPort_none (notMark_print rfl) (count_printIP address)
    rw [goNetwork_splitHost, missed, Option.map_none]
  have several : (printIP groups).toList.count ':' ≠ 1 := by
    have colons := count_printIP address
    omega
  refine ⟨trimSpace_print groups, fun scheme => ?_, ?_⟩
  · rw [contains_eq_false (notMark_print rfl)] at scheme
    cases scheme
  · rw [stripPort, unsplit]
    exact if_neg several

/-- There is nothing to take off a bare text. -/
theorem hostCore_bare {text : String} (bare : Bare platform text) (trimmed : trimBrackets text = text) :
    hostCore platform text = text := by
  obtain ⟨unspaced, unread, portless⟩ := bare
  have scheme : stripScheme platform text = text := by
    rw [stripScheme]
    split
    · rename_i scheme
      rw [unread scheme, Option.getD_none]
    · rfl
  rw [hostCore, unspaced, scheme, portless, trimmed]

theorem normalize_bare {text : String} (bare : Bare platform text) (trimmed : trimBrackets text = text) (given : text ≠ "") :
    normalizeManagementDirectHost platform text =
      match platform.parseIP text with
      | some (printed, _) => printed
      | none => toLower text := by
  have core := hostCore_bare bare trimmed
  rw [normalizeManagementDirectHost_eq, core, bare.1, if_neg given, if_neg given]

theorem print_given (groups : List Nat) (address : IsAddress groups) : printIP groups ≠ "" := by
  intro empty
  have read := parseIP_printIP address
  have unread : parseIP "" = none := by decide
  rw [empty, unread] at read
  cases read

theorem normalize_print {groups : List Nat} (address : IsAddress groups) :
    normalizeManagementDirectHost (goNetwork platform) (printIP groups) = printIP groups := by
  rw [normalize_bare (bare_print address) (trimBrackets_print groups) (print_given groups address), goNetwork_parseIP,
    parseIP_printIP address]
  rfl

/-! A text that is normalized and stays was bare. -/

theorem trimBrackets_lower (value : String) : trimBrackets (toLower value) = toLower (trimBrackets value) := by
  have brackets : ∀ rune, ['[', ']', ' ', '\t', '\r', '\n'].contains (lowerRune rune) =
      ['[', ']', ' ', '\t', '\r', '\n'].contains rune := by
    intro rune
    have same : ∀ mark : Char, mark.toNat < 65 ∨ 90 < mark.toNat ∧ mark.toNat < 97 → (lowerRune rune = mark ↔ rune = mark) :=
      fun mark caseless => lowerRune_eq_iff caseless
    rw [Bool.eq_iff_iff, List.contains_iff_mem, List.contains_iff_mem]
    simp only [List.mem_cons, List.not_mem_nil, same '[' (by decide), same ']' (by decide), same ' ' (by decide),
      same '\t' (by decide), same '\r' (by decide), same '\n' (by decide)]
  rw [trimBrackets, trimBrackets, toLower, toLower, String.toList_ofList, String.toList_ofList,
    trimList_map lowerRune brackets]

theorem trimBrackets_trimBrackets (value : String) : trimBrackets (trimBrackets value) = trimBrackets value := by
  rw [trimBrackets, trimBrackets, String.toList_ofList, trimList_idempotent]

theorem toLower_eq_empty {text : String} : toLower text = "" ↔ text = "" := by
  rw [toLower, ← String.toList_inj, String.toList_ofList, ← String.toList_inj]
  simp

theorem length_toLower (text : String) : (toLower text).toList.length = text.toList.length := by
  rw [toLower, String.toList_ofList, List.length_map]

theorem unslashed_toLower {text : String} (unslashed : '/' ∉ text.toList) : '/' ∉ (toLower text).toList := by
  rw [toLower, String.toList_ofList, List.mem_map]
  rintro ⟨rune, member, same⟩
  rw [lowerRune_eq_iff (by decide)] at same
  exact unslashed (same ▸ member)

/-- A URL's host has no slash. -/
theorem unslashed_urlHost {text host : String} (read : (goNetwork platform).urlHost text = some host) : '/' ∉ host.toList := by
  obtain ⟨url, parsed, rfl⟩ := Option.map_eq_some_iff.mp read
  cases result : parseURL text with
  | error error =>
      rw [result] at parsed
      cases parsed
  | ok other =>
      rw [result] at parsed
      cases parsed
      exact fun member => absurd (parseURL_host result '/' member (by decide)) (by decide)

/-- With nothing taken off by a URL, no piece is taken off unless the text gets shorter. -/
theorem pieces_kept {text : String} (whole : text.toList.length ≤
    (trimBrackets (stripPort (goNetwork platform) (trimSpace text))).toList.length) :
    trimSpace text = text ∧ stripPort (goNetwork platform) text = text := by
  have last := length_trimList_le (fun rune => ['[', ']', ' ', '\t', '\r', '\n'].contains rune)
    (stripPort (goNetwork platform) (trimSpace text)).toList
  have middle := @length_stripPort_le platform (trimSpace text)
  have first := length_trimList_le isSpace text.toList
  rw [trimBrackets, String.toList_ofList] at whole
  have spaces : trimSpace text = text := by
    have size : (trimSpace text).toList.length = (trimList isSpace text.toList).length := by
      rw [trimSpace, String.toList_ofList]
    rw [trimSpace, trimList_eq_of_length (by omega), String.ofList_toList]
  rw [spaces] at whole middle last
  refine ⟨spaces, ?_⟩
  rcases @stripPort_goNetwork platform text with same | shorter
  · exact same
  · omega

theorem bare_of_fixed {text : String} (given : text ≠ "")
    (fixed : normalizeManagementDirectHost (goNetwork platform) text = text) : Bare (goNetwork platform) text := by
  rw [normalizeManagementDirectHost_eq] at fixed
  have spaced : trimSpace text ≠ "" := by
    intro blank
    rw [if_pos blank] at fixed
    exact given fixed.symm
  rw [if_neg spaced] at fixed
  have cored : hostCore (goNetwork platform) text ≠ "" := by
    intro empty
    rw [if_pos empty] at fixed
    exact given fixed.symm
  rw [if_neg cored] at fixed
  cases read : parseIP (hostCore (goNetwork platform) text) with
  | some groups =>
      have printed : printIP groups = text := by
        rw [goNetwork_parseIP, read] at fixed
        exact fixed
      rw [← printed]
      exact bare_print (parseIP_address read)
  | none =>
      have lowered : toLower (hostCore (goNetwork platform) text) = text := by
        rw [goNetwork_parseIP, read] at fixed
        exact fixed
      by_cases scheme : contains (trimSpace text) "://" = true
      · cases host : (goNetwork platform).urlHost (trimSpace text) with
        | some host_ =>
            have stripped : stripScheme (goNetwork platform) (trimSpace text) = host_ := by
              rw [stripScheme, if_pos scheme, host, Option.getD_some]
            have unslashed : '/' ∉ text.toList := by
              rw [← lowered]
              refine unslashed_toLower fun member => unslashed_urlHost host ?_
              rw [hostCore, stripped] at member
              exact stripPort_subset _ (trimBrackets_subset _ member)
            exact absurd (trimSpace_subset text (slash_of_contains scheme)) unslashed
        | none =>
            have stripped : stripScheme (goNetwork platform) (trimSpace text) = trimSpace text := by
              rw [stripScheme, if_pos scheme, host, Option.getD_none]
            have size := length_toLower (hostCore (goNetwork platform) text)
            rw [lowered, hostCore, stripped] at size
            obtain ⟨unspaced, portless⟩ := pieces_kept size.le
            rw [unspaced] at host
            exact ⟨unspaced, fun _ => host, portless⟩
      · have stripped : stripScheme (goNetwork platform) (trimSpace text) = trimSpace text := if_neg scheme
        have size := length_toLower (hostCore (goNetwork platform) text)
        rw [lowered, hostCore, stripped] at size
        obtain ⟨unspaced, portless⟩ := pieces_kept size.le
        rw [unspaced] at scheme
        exact ⟨unspaced, fun again => absurd again scheme, portless⟩

theorem hostCore_blank {value : String} (blank : trimSpace value = "") : hostCore (goNetwork platform) value = "" := by
  have scheme : stripScheme (goNetwork platform) "" = "" := if_neg (by with_unfolding_all decide)
  have port : stripPort (goNetwork platform) "" = "" := by
    rw [stripPort, goNetwork_splitHost, netSplitHostPort_none (by simp) (.inl (by simp)), Option.map_none]
    exact if_neg (by simp)
  rw [hostCore, blank, scheme, port]
  rfl

theorem normalize_cases (value : String) :
    normalizeManagementDirectHost (goNetwork platform) value =
      if hostCore (goNetwork platform) value = "" then ""
      else match parseIP (hostCore (goNetwork platform) value) with
        | some groups => printIP groups
        | none => toLower (hostCore (goNetwork platform) value) := by
  rw [normalizeManagementDirectHost_eq]
  by_cases blank : trimSpace value = ""
  · rw [if_pos blank, if_pos (hostCore_blank blank)]
  · rw [if_neg blank, goNetwork_parseIP]
    cases parseIP (hostCore (goNetwork platform) value) <;> rfl

theorem toLower_normalize (value : String) : toLower (normalizeManagementDirectHost (goNetwork platform) value) =
    normalizeManagementDirectHost (goNetwork platform) value := by
  rw [normalize_cases]
  split
  · exact toLower_eq_empty.mpr rfl
  · split
    · exact toLower_print _
    · exact toLower_toLower _

/-- A second pass over a host changes nothing just when the first took off all there was. -/
theorem normalize_settles_iff (value : String) :
    normalizeManagementDirectHost (goNetwork platform) (normalizeManagementDirectHost (goNetwork platform) value) =
        normalizeManagementDirectHost (goNetwork platform) value ↔ HostSettles (goNetwork platform) value := by
  have form := @normalize_cases platform value
  by_cases empty : hostCore (goNetwork platform) value = ""
  · rw [if_pos empty] at form
    rw [form, normalizeManagementDirectHost_eq, if_pos trimSpace_empty]
    exact ⟨fun _ => .inl empty, fun _ => rfl⟩
  · rw [if_neg empty] at form
    cases read : parseIP (hostCore (goNetwork platform) value) with
    | some groups =>
        rw [read] at form
        dsimp only at form
        rw [form, normalize_print (parseIP_address read)]
        refine ⟨fun _ => .inr (.inl ?_), fun _ => rfl⟩
        rw [goNetwork_parseIP, read]
        rfl
    | none =>
        rw [read] at form
        dsimp only at form
        rw [form]
        have given : toLower (hostCore (goNetwork platform) value) ≠ "" := fun blank => empty (toLower_eq_empty.mp blank)
        constructor
        · exact fun fixed => .inr (.inr (bare_of_fixed given fixed))
        · intro settles
          have bare : Bare (goNetwork platform) (toLower (hostCore (goNetwork platform) value)) := by
            rcases settles with nothing | address | bare
            · exact absurd nothing empty
            · rw [goNetwork_parseIP, read] at address
              cases address
            · exact bare
          have trimmed : trimBrackets (toLower (hostCore (goNetwork platform) value)) =
              toLower (hostCore (goNetwork platform) value) := by
            rw [trimBrackets_lower, hostCore, trimBrackets_trimBrackets]
          rw [normalize_bare bare trimmed given, goNetwork_parseIP, parseIP_toLower, read, Option.map_none, toLower_toLower]

/-! ### Lists of hosts -/

/-- What the loop of `distinctBy` adds to what it kept. -/
theorem distinctBy_foldl {α κ : Type} [BEq κ] [LawfulBEq κ] (key : α → κ) (items kept : List α) :
    ∃ more, (items.foldl (fun kept item => if kept.any fun other => key other == key item then kept else kept ++ [item]) kept) =
        kept ++ more ∧ more.Sublist items ∧ (∀ item ∈ items, ∃ other ∈ kept ++ more, key other = key item) ∧
      ((kept.map key).Nodup → ((kept ++ more).map key).Nodup) := by
  induction items generalizing kept with
  | nil => exact ⟨[], (List.append_nil kept).symm, List.Sublist.refl _, (fun _ never => nomatch never), fun nodup => by rwa [List.append_nil]⟩
  | cons item rest ih =>
      rw [List.foldl_cons]
      by_cases seen : (kept.any fun other => key other == key item) = true
      · rw [if_pos seen]
        obtain ⟨more, done, fewer, found, apart⟩ := ih kept
        refine ⟨more, done, fewer.cons _, fun other member => ?_, apart⟩
        rcases List.mem_cons.mp member with rfl | later
        · obtain ⟨earlier, inside, same⟩ := List.any_eq_true.mp seen
          exact ⟨earlier, List.mem_append_left _ inside, beq_iff_eq.mp same⟩
        · exact found other later
      · rw [if_neg seen]
        obtain ⟨more, done, fewer, found, apart⟩ := ih (kept ++ [item])
        rw [List.append_assoc, List.singleton_append] at done found apart
        refine ⟨item :: more, done, fewer.cons_cons _, fun other member => ?_, fun nodup => apart ?_⟩
        · rcases List.mem_cons.mp member with rfl | later
          · exact ⟨other, List.mem_append_right _ List.mem_cons_self, rfl⟩
          · exact found other later
        · rw [List.map_append, List.nodup_append]
          refine ⟨nodup, List.nodup_singleton _, ?_⟩
          rintro _ old _ new rfl
          obtain ⟨earlier, inside, same⟩ := List.mem_map.mp old
          rw [List.map_singleton, List.mem_singleton] at new
          exact seen (List.any_eq_true.mpr ⟨earlier, inside, beq_iff_eq.mpr (same.trans new)⟩)

theorem distinctBy_spec {α κ : Type} [BEq κ] [LawfulBEq κ] (key : α → κ) (items : List α) :
    (distinctBy key items).Sublist items ∧ (∀ item ∈ items, ∃ other ∈ distinctBy key items, key other = key item) ∧
      ((distinctBy key items).map key).Nodup := by
  obtain ⟨more, done, fewer, found, apart⟩ := distinctBy_foldl key items []
  rw [List.nil_append] at done found apart
  rw [distinctBy, done]
  exact ⟨fewer, found, apart List.nodup_nil⟩

/-- A list without repeated keys loses nothing. -/
theorem distinctBy_eq_self {α κ : Type} [BEq κ] [LawfulBEq κ] {key : α → κ} {items : List α} (distinct : (items.map key).Nodup) :
    distinctBy key items = items := by
  obtain ⟨fewer, found, _⟩ := distinctBy_spec key items
  refine fewer.eq_of_length_le ?_
  have inside : items.map key ⊆ (distinctBy key items).map key := by
    intro _ member
    obtain ⟨item, listed, rfl⟩ := List.mem_map.mp member
    obtain ⟨other, kept, same⟩ := found item listed
    exact List.mem_map.mpr ⟨other, kept, same⟩
  have most := (distinct.subperm inside).length_le
  rwa [List.length_map, List.length_map] at most

/-- Normalized a second time, a list of hosts stays just when each of the hosts settles. -/
theorem normalizeHosts_settle_iff (values : List String) :
    normalizeManagementDirectHosts (goNetwork platform) (normalizeManagementDirectHosts (goNetwork platform) values) =
        normalizeManagementDirectHosts (goNetwork platform) values ↔
      ∀ value ∈ values, HostSettles (goNetwork platform) value := by
  generalize keptIs : normalizeManagementDirectHosts (goNetwork platform) values = kept
  obtain ⟨fewer, found, distinct⟩ := distinctBy_spec toLower
    ((values.map (normalizeManagementDirectHost (goNetwork platform))).filter fun host => host != "")
  rw [← normalizeManagementDirectHosts, keptIs] at fewer found distinct
  -- Every host that is not empty is kept, as its key is the host itself.
  have listed : ∀ value ∈ values, normalizeManagementDirectHost (goNetwork platform) value ≠ "" →
      normalizeManagementDirectHost (goNetwork platform) value ∈ kept := by
    intro value member given
    obtain ⟨other, inside, same⟩ := found _ (List.mem_filter.mpr ⟨List.mem_map_of_mem member, bne_iff_ne.mpr given⟩)
    obtain ⟨source, _, rfl⟩ := List.mem_map.mp (List.mem_filter.mp (fewer.subset inside)).1
    rw [toLower_normalize, toLower_normalize] at same
    rwa [← same]
  have source : ∀ host ∈ kept, host ≠ "" ∧ ∃ value ∈ values, normalizeManagementDirectHost (goNetwork platform) value = host := by
    intro host inside
    obtain ⟨mapped, given⟩ := List.mem_filter.mp (fewer.subset inside)
    exact ⟨bne_iff_ne.mp given, List.mem_map.mp mapped⟩
  constructor
  · intro same value member
    rw [← @normalize_settles_iff platform]
    by_cases given : normalizeManagementDirectHost (goNetwork platform) value = ""
    · rw [given, normalizeManagementDirectHost_eq, if_pos trimSpace_empty]
    · -- The second pass keeps as many hosts as there are, so it changes none.
      rw [normalizeManagementDirectHosts] at same
      have again := (distinctBy_spec toLower
        ((kept.map (normalizeManagementDirectHost (goNetwork platform))).filter fun host => host != "")).1
      rw [same] at again
      have whole : kept.map (normalizeManagementDirectHost (goNetwork platform)) = kept := by
        have most := List.filter_sublist (p := fun host => host != "") (l := kept.map (normalizeManagementDirectHost (goNetwork platform)))
        exact ((again.trans most).eq_of_length_le (List.length_map _).le).symm
      exact List.map_inj_left.mp (whole.trans (List.map_id kept).symm) _ (listed value member given)
  · intro settles
    have fixed : kept.map (normalizeManagementDirectHost (goNetwork platform)) = kept := by
      refine (List.map_congr_left fun host inside => ?_).trans (List.map_id kept)
      obtain ⟨_, value, member, rfl⟩ := source host inside
      exact (@normalize_settles_iff platform value).mpr (settles value member)
    have given : kept.filter (fun host => host != "") = kept :=
      List.filter_eq_self.mpr fun host inside => bne_iff_ne.mpr (source host inside).1
    rw [normalizeManagementDirectHosts, fixed, given]
    exact distinctBy_eq_self distinct

end MiGate.Panel
