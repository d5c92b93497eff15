import MiGate.Panel.Hosts
import MiGate.Relational.Overwrite
import MiGate.Config.Totality

namespace MiGate.Panel

open Go Db Fallible MiGate.Config

/-! When a configuration that is saved reads back as it was normalized. -/

/-! ### The web path -/

/-- Without its slashes at the end the path is not empty and ends in no space. -/
def PathSettles (path : String) : Prop :=
  trimSpace path = "" ∨ trimSpace path = "/" ∨
    (trimRight '/' (trimSpace path) ≠ "" ∧ trimSpace (trimRight '/' (trimSpace path)) = trimRight '/' (trimSpace path))

instance (path : String) : Decidable (PathSettles path) :=
  inferInstanceAs (Decidable (_ ∨ _ ∨ _))

theorem rdropWhile_cons_of_not {α : Type} {drop : α → Bool} {item : α} (kept : drop item = false) (rest : List α) :
    (item :: rest).rdropWhile drop = item :: rest.rdropWhile drop := by
  rw [List.rdropWhile, List.rdropWhile, List.reverse_cons, List.dropWhile_append]
  split
  · rename_i all
    rw [List.isEmpty_iff.mp all, List.dropWhile_cons_of_neg (by rw [kept]; exact Bool.false_ne_true)]
    rfl
  · rw [List.reverse_append]
    rfl

theorem rdropWhile_cons_of_left {α : Type} {drop : α → Bool} {rest : List α} (left : rest.rdropWhile drop ≠ []) (item : α) :
    (item :: rest).rdropWhile drop = item :: rest.rdropWhile drop := by
  rw [List.rdropWhile, List.rdropWhile, List.reverse_cons, List.dropWhile_append]
  split
  · rename_i all
    refine absurd ?_ left
    rw [List.rdropWhile, List.isEmpty_iff.mp all]
    rfl
  · rw [List.reverse_append]
    rfl

theorem trimSpace_rooted (rest : List Char) :
    trimSpace (String.ofList ('/' :: rest)) = String.ofList ('/' :: rest.rdropWhile isSpace) := by
  have slash : isSpace '/' = false := by decide
  rw [trimSpace, String.toList_ofList, trimList, List.dropWhile_cons_of_neg (by rw [slash]; exact Bool.false_ne_true),
    rdropWhile_cons_of_not slash]

theorem length_trimRight_le (rune : Char) (text : String) : (trimRight rune text).toList.length ≤ text.toList.length := by
  rw [trimRight, String.toList_ofList]
  exact (List.rdropWhile_prefix _ _).length_le

/-- A path that begins with a slash is at most cut. -/
theorem normalizeWebPath_rooted {rest : List Char} {fallback : String} :
    (normalizeWebPath (String.ofList ('/' :: rest)) fallback).toList.length ≤ ('/' :: rest.rdropWhile isSpace).length ∧
      (trimSpace (String.ofList ('/' :: rest)) = String.ofList ('/' :: rest) → rest ≠ [] →
        normalizeWebPath (String.ofList ('/' :: rest)) fallback = trimRight '/' (String.ofList ('/' :: rest))) := by
  have given : trimSpace (String.ofList ('/' :: rest)) ≠ "" := by
    rw [trimSpace_rooted]
    exact fun empty => List.cons_ne_nil _ _ (String.ofList_eq_empty_iff.mp empty)
  have rooted : hasPrefix (trimSpace (String.ofList ('/' :: rest))) "/" = true := by
    rw [trimSpace_rooted]
    simp [hasPrefix]
  unfold normalizeWebPath orElse
  rw [if_neg given]
  dsimp only
  rw [if_pos rooted]
  constructor
  · split
    · simp
    · refine (length_trimRight_le _ _).trans ?_
      rw [trimSpace_rooted, String.toList_ofList]
  · intro settled longer
    rw [settled, if_neg]
    intro single
    have runes := congrArg String.toList single
    rw [String.toList_ofList] at runes
    exact longer (List.cons.inj runes).2

theorem rdropWhile_eq_self_of_length {α : Type} {drop : α → Bool} {items : List α}
    (whole : items.length ≤ (items.rdropWhile drop).length) : items.rdropWhile drop = items :=
  (List.rdropWhile_prefix drop items).eq_of_length_le whole

/-- A path that begins with a slash and does not end in one stays if it ends in no space. -/
theorem normalizeWebPath_fixed_iff {rest : List Char} {fallback : String} (given : rest ≠ [])
    (cut : ('/' :: rest).rdropWhile (· == '/') = '/' :: rest) :
    normalizeWebPath (String.ofList ('/' :: rest)) fallback = String.ofList ('/' :: rest) ↔
      rest.rdropWhile isSpace = rest := by
  obtain ⟨shorter, kept⟩ := @normalizeWebPath_rooted rest fallback
  constructor
  · intro fixed
    rw [fixed, String.toList_ofList, List.length_cons, List.length_cons] at shorter
    exact rdropWhile_eq_self_of_length (Nat.le_of_succ_le_succ shorter)
  · intro ends
    have settled : trimSpace (String.ofList ('/' :: rest)) = String.ofList ('/' :: rest) := by rw [trimSpace_rooted, ends]
    rw [kept settled given, trimRight, String.toList_ofList, cut]

/-- The form of a path that is neither empty nor a single slash, once it is normalized. -/
theorem normalizeWebPath_form {path fallback : String} (given : trimSpace path ≠ "") (longer : trimSpace path ≠ "/")
    (kept : trimRight '/' (trimSpace path) ≠ "") :
    ∃ rest, normalizeWebPath path fallback = String.ofList ('/' :: rest) ∧ rest ≠ [] ∧
      ('/' :: rest).rdropWhile (· == '/') = '/' :: rest ∧
      (trimSpace (trimRight '/' (trimSpace path)) = trimRight '/' (trimSpace path) ↔ rest.rdropWhile isSpace = rest) := by
  have trimmed := trimSpace_trimSpace path
  unfold normalizeWebPath orElse
  rw [if_neg given]
  generalize trimSpace path = text at given longer kept trimmed ⊢
  dsimp only
  rw [if_neg longer]
  have left : text.toList.rdropWhile (· == '/') ≠ [] := by
    intro nothing
    rw [trimRight, nothing] at kept
    exact kept rfl
  have last : (text.toList.rdropWhile (· == '/')).rdropWhile (· == '/') = text.toList.rdropWhile (· == '/') :=
    List.rdropWhile_idempotent _ _
  cases runes : text.toList with
  | nil => exact absurd (String.toList_inj.mp (runes.trans String.toList_empty.symm)) given
  | cons first others =>
      rw [runes] at left last
      by_cases slash : first = '/'
      · subst slash
        have rooted : hasPrefix text "/" = true := by simp [hasPrefix, runes]
        have cutOthers : others.rdropWhile (· == '/') ≠ [] := by
          intro nothing
          have none : ('/' :: others).rdropWhile (· == '/') = [] := by
            rw [List.rdropWhile_eq_nil_iff] at nothing ⊢
            intro rune member
            rcases List.mem_cons.mp member with rfl | later
            · rfl
            · exact nothing rune later
          exact left none
        have cut := rdropWhile_cons_of_left cutOthers '/'
        refine ⟨others.rdropWhile (· == '/'), ?_, cutOthers, ?_, ?_⟩
        · rw [if_pos rooted, trimRight, runes, cut]
        · rw [cut] at last
          exact last
        · rw [trimRight, runes, cut, trimSpace_rooted, String.ofList_inj, List.cons.injEq]
          exact ⟨fun same => same.2, fun same => ⟨rfl, same⟩⟩
      · have unrooted : ¬hasPrefix text "/" = true := by
          simp [hasPrefix, runes, Ne.symm slash]
        have other : (first == '/') = false := beq_false_of_ne slash
        have cut := @rdropWhile_cons_of_not _ (· == '/') _ other others
        have solid : isSpace first = false := by
          have runesTrimmed : trimList isSpace text.toList = text.toList := by
            have same := congrArg String.toList trimmed
            rwa [trimSpace, String.toList_ofList] at same
          exact (trimList_eq_self.mp runesTrimmed).1 first (by rw [runes]; rfl)
        have whole : ('/' :: first :: others).rdropWhile (· == '/') = '/' :: first :: others.rdropWhile (· == '/') := by
          rw [rdropWhile_cons_of_left left, cut]
        refine ⟨first :: others.rdropWhile (· == '/'), ?_, List.cons_ne_nil _ _, ?_, ?_⟩
        · have joined : ("/" ++ text).toList = '/' :: first :: others := by
            rw [String.toList_append, runes]
            rfl
          rw [if_neg unrooted, trimRight, joined, whole]
        · have again := List.rdropWhile_idempotent (· == '/') ('/' :: first :: others)
          rwa [whole] at again
        · rw [trimRight, runes, cut, trimSpace, String.toList_ofList, String.ofList_inj, trimList,
            List.dropWhile_cons_of_neg (by rw [solid]; exact Bool.false_ne_true)]

theorem normalizeWebPath_panel : normalizeWebPath "/panel" "/panel" = "/panel" := by
  decide +kernel

theorem normalizeWebPath_settles_iff (path : String) :
    normalizeWebPath (normalizeWebPath path "/panel") "/panel" = normalizeWebPath path "/panel" ↔ PathSettles path := by
  have blankPath : ∀ {path}, trimSpace path = "" → normalizeWebPath path "/panel" = "/panel" := by
    intro path blank
    have panel : trimRight '/' "/panel" = "/panel" := by decide +kernel
    have rooted : hasPrefix "/panel" "/" = true := by simp [hasPrefix]
    unfold normalizeWebPath orElse
    rw [if_pos blank]
    dsimp only
    rw [if_neg (by decide), if_pos rooted, panel]
  by_cases blank : trimSpace path = ""
  · rw [blankPath blank, normalizeWebPath_panel]
    exact ⟨fun _ => .inl blank, fun _ => rfl⟩
  by_cases single : trimSpace path = "/"
  · have root : normalizeWebPath path "/panel" = "/" := by
      unfold normalizeWebPath orElse
      rw [if_neg blank]
      exact if_pos single
    have again : normalizeWebPath "/" "/panel" = "/" := by decide +kernel
    rw [root, again]
    exact ⟨fun _ => .inr (.inl single), fun _ => rfl⟩
  by_cases left : trimRight '/' (trimSpace path) = ""
  · -- A path of several slashes becomes empty, and an empty one becomes the default.
    have slashes : (trimSpace path).toList.rdropWhile (· == '/') = [] := by
      have runes := congrArg String.toList left
      rwa [trimRight, String.toList_ofList] at runes
    have rooted : hasPrefix (trimSpace path) "/" = true := by
      cases runes : (trimSpace path).toList with
      | nil => exact absurd (String.toList_inj.mp (runes.trans String.toList_empty.symm)) blank
      | cons first others =>
          have slash := List.rdropWhile_eq_nil_iff.mp slashes first (by rw [runes]; exact List.mem_cons_self)
          have same : first = '/' := beq_iff_eq.mp slash
          simp [hasPrefix, runes, same]
    have empty : normalizeWebPath path "/panel" = "" := by
      unfold normalizeWebPath orElse
      rw [if_neg blank]
      dsimp only
      rw [if_neg single, if_pos rooted, left]
    rw [empty, blankPath trimSpace_empty]
    refine ⟨fun same => absurd same (by decide), fun settles => ?_⟩
    rcases settles with nothing | slash | ⟨kept, _⟩
    · exact absurd nothing blank
    · exact absurd slash single
    · exact absurd left kept
  · obtain ⟨rest, form, given, cut, ends⟩ := @normalizeWebPath_form path "/panel" blank single left
    rw [form, normalizeWebPath_fixed_iff given cut, ← ends]
    constructor
    · exact fun unspaced => .inr (.inr ⟨left, unspaced⟩)
    · rintro (nothing | slash | ⟨_, unspaced⟩)
      · exact absurd nothing blank
      · exact absurd slash single
      · exact unspaced

/-! ### The whole configuration -/

theorem normalizePorts_settle (values : List Int) :
    normalizeManagementDirectPorts (normalizeManagementDirectPorts values) = normalizeManagementDirectPorts values := by
  obtain ⟨fewer, _, distinct⟩ := distinctBy_spec id (values.filter fun port => 1 ≤ port && port ≤ 65535)
  rw [List.map_id] at distinct
  have sorted := List.perm_insertionSort (· ≤ ·) (distinctBy id (values.filter fun port => 1 ≤ port && port ≤ 65535))
  have inRange : (normalizeManagementDirectPorts values).filter (fun port => 1 ≤ port && port ≤ 65535) =
      normalizeManagementDirectPorts values := by
    refine List.filter_eq_self.mpr fun port member => ?_
    exact (List.mem_filter.mp (fewer.subset (sorted.mem_iff.mp member))).2
  have apart : ((normalizeManagementDirectPorts values).map id).Nodup := by
    rw [List.map_id]
    exact sorted.nodup_iff.mpr distinct
  rw [normalizeManagementDirectPorts, inRange, distinctBy_eq_self apart]
  exact (List.pairwise_insertionSort (· ≤ ·) _).insertionSort_eq

theorem validPort_normalizePorts (values : List Int) : (normalizeManagementDirectPorts values).all validPort = true := by
  refine List.all_eq_true.mpr fun port member => ?_
  have sorted := List.perm_insertionSort (· ≤ ·) (distinctBy id (values.filter fun port => 1 ≤ port && port ≤ 65535))
  obtain ⟨fewer, _, _⟩ := distinctBy_spec id (values.filter fun port => 1 ≤ port && port ≤ 65535)
  exact (List.mem_filter.mp (fewer.subset (sorted.mem_iff.mp member))).2

variable {platform : Platform}

/-- The condition: the path and each of the hosts come out of one pass as they come out of two. -/
def Settles (platform : Platform) (cfg : Config) : Prop :=
  PathSettles cfg.webPath ∧ ∀ host ∈ cfg.managementDirectHosts, HostSettles (goNetwork platform) host

instance (cfg : Config) : Decidable (Settles platform cfg) :=
  inferInstanceAs (Decidable (_ ∧ _))

@[simp] theorem normalize_webPath (cfg : Config) : (normalize platform cfg).webPath = normalizeWebPath cfg.webPath "/panel" := rfl

@[simp] theorem normalize_hosts (cfg : Config) : (normalize platform cfg).managementDirectHosts =
    normalizeManagementDirectHosts (goNetwork platform) cfg.managementDirectHosts := rfl

theorem databasePath_settles (path : String) :
    let once := if trimSpace path = "" then Config.default.databasePath else trimSpace path
    trimSpace once = once ∧ once ≠ "" := by
  have given : Config.default.databasePath ≠ "" := by decide
  dsimp only
  split
  · exact ⟨Spaceless.trimSpace (by decide), given⟩
  · rename_i blank
    exact ⟨trimSpace_trimSpace path, blank⟩

/-- A second pass can change the path and the hosts, and nothing else. -/
theorem normalize_again (cfg : Config) : normalize platform (normalize platform cfg) = { normalize platform cfg with
    webPath := normalizeWebPath (normalizeWebPath cfg.webPath "/panel") "/panel"
    managementDirectHosts := normalizeManagementDirectHosts (goNetwork platform)
      (normalizeManagementDirectHosts (goNetwork platform) cfg.managementDirectHosts) } := by
  obtain ⟨trimmed, given⟩ := databasePath_settles cfg.databasePath
  have port : (if (normalize platform cfg).panelPort = 0 then Config.default.panelPort else (normalize platform cfg).panelPort) =
      (normalize platform cfg).panelPort := by
    have nonzero : (normalize platform cfg).panelPort ≠ 0 := by
      simp only [normalize]
      split
      · decide
      · assumption
    exact if_neg nonzero
  have path : (if trimSpace (normalize platform cfg).databasePath = "" then Config.default.databasePath
      else trimSpace (normalize platform cfg).databasePath) = (normalize platform cfg).databasePath := by
    have unspaced : trimSpace (normalize platform cfg).databasePath = (normalize platform cfg).databasePath := trimmed
    rw [unspaced]
    exact if_neg given
  rw [normalize, port, path]
  simp only [Config.settle, normalize, trimSpace_trimSpace, normalizePorts_settle, if_true]
  rfl

theorem normalize_idempotent_iff (cfg : Config) :
    normalize platform (normalize platform cfg) = normalize platform cfg ↔ Settles platform cfg := by
  rw [normalize_again, Settles, ← normalizeWebPath_settles_iff, ← normalizeHosts_settle_iff]
  constructor
  · exact fun same => ⟨congrArg Config.webPath same, congrArg Config.managementDirectHosts same⟩
  · rintro ⟨path, hosts⟩
    rw [path, hosts]
    rfl

/-- What is saved is not changed by the pass that is made when it is loaded. -/
theorem normalizeLoaded_normalize {cfg : Config} (settles : Settles platform cfg) :
    normalizeLoaded platform (normalize platform cfg) = normalize platform cfg := by
  obtain ⟨trimmed, _⟩ := databasePath_settles cfg.databasePath
  have whole := (normalize_idempotent_iff cfg).mpr settles
  have path : normalizeWebPath (normalize platform cfg).webPath "/panel" = (normalize platform cfg).webPath :=
    (normalizeWebPath_settles_iff cfg.webPath).mpr settles.1
  have hosts : normalizeManagementDirectHosts (goNetwork platform) (normalize platform cfg).managementDirectHosts =
      (normalize platform cfg).managementDirectHosts := (normalizeHosts_settle_iff _).mpr settles.2
  have loaded : (if trimSpace (normalize platform cfg).webPath ≠ "" then normalizeWebPath (normalize platform cfg).webPath ""
      else (normalize platform cfg).webPath) = (normalize platform cfg).webPath := by
    split
    · rename_i given
      have same : normalizeWebPath (normalize platform cfg).webPath "" = normalizeWebPath (normalize platform cfg).webPath "/panel" := by
        unfold normalizeWebPath orElse
        rw [if_neg given, if_neg given]
      rw [same, path]
    · rfl
  have database : trimSpace (normalize platform cfg).databasePath = (normalize platform cfg).databasePath := trimmed
  rw [normalizeLoaded, loaded, database]
  simp only [Config.settle, hosts]
  simp only [normalize, Config.settle, trimSpace_trimSpace, normalizePorts_settle, if_true]

/-! ### The document -/

theorem decodeInt_itoa {field : String} {old value : Int} (fits : -2 ^ 63 ≤ value ∧ value < 2 ^ 63) :
    decodeInt field old (.number (itoa value)) = .ok value := by
  rw [decodeInt, Web.parseInt64_itoa fits]

theorem decodeStrings (field : String) (values : List String) :
    (values.map JsonValue.string).mapM (decodeString field "") = .ok values := by
  induction values with
  | nil => rfl
  | cons value rest ih =>
      rw [List.map_cons, List.mapM_cons, ih]
      rfl

theorem decodePorts_array {field : String} {ports : List Int} (valid : ports.all validPort = true) :
    decodePorts field (.array (ports.map fun port => .number (itoa port))) = .ok ports := by
  change (ports.map fun port => JsonValue.number (itoa port)).mapM (decodeInt field 0) = .ok ports
  induction ports with
  | nil => rfl
  | cons port rest ih =>
      rw [List.all_cons, Bool.and_eq_true] at valid
      have range : 1 ≤ port ∧ port ≤ 65535 := by simpa [validPort] using valid.1
      rw [List.map_cons, List.mapM_cons, decodeInt_itoa (by omega), ih valid.2]
      rfl

/-- A field that is left out has the zero value already. -/
theorem fold_omitEmpty {empty : Bool} {key : String} {value : JsonValue} {cfg result : Config}
    (skipped : empty = true → cfg = result) (read : decodeField cfg (key, value) = .ok result) :
    (omitEmpty empty key value).foldlM decodeField cfg = .ok result := by
  unfold omitEmpty
  cases empty with
  | true => rw [skipped rfl]; rfl
  | false =>
      rw [if_neg Bool.false_ne_true, List.foldlM_cons, read]
      rfl

theorem fold_fields {cfg : Config} (fits : -2 ^ 63 ≤ cfg.panelPort ∧ cfg.panelPort < 2 ^ 63)
    (valid : cfg.managementDirectPorts.all validPort = true) :
    cfg.fields.foldlM decodeField Config.zero =
      .ok { cfg with managementDirectEnabledSet := false, managementDirectAutoDetectSet := false } := by
  have port : ∀ start : Config, decodeField start ("panel_port", .number (itoa cfg.panelPort)) =
      .ok { start with panelPort := cfg.panelPort } := by
    intro start
    change (do return { start with panelPort := ← decodeInt "Config.panel_port" start.panelPort (.number (itoa cfg.panelPort)) }) = _
    rw [decodeInt_itoa fits]
    rfl
  have hosts : ∀ start : Config, decodeField start
      ("management_direct_hosts", .array (cfg.managementDirectHosts.map .string)) =
      .ok { start with managementDirectHosts := cfg.managementDirectHosts } := by
    intro start
    change (do
      let managementDirectHosts ← (cfg.managementDirectHosts.map JsonValue.string).mapM
        (decodeString "Config.management_direct_hosts" "")
      return { start with managementDirectHosts }) = _
    rw [decodeStrings]
    rfl
  have ports : ∀ start : Config, decodeField start
      ("management_direct_ports", .array (cfg.managementDirectPorts.map fun port => .number (itoa port))) =
      .ok { start with managementDirectPorts := cfg.managementDirectPorts } := by
    intro start
    change (do
      let managementDirectPorts ← decodePorts "Config.management_direct_ports"
        (.array (cfg.managementDirectPorts.map fun port => .number (itoa port)))
      return { start with managementDirectPorts }) = _
    rw [decodePorts_array valid]
    rfl
  let named : Config := { Config.zero with
    panelPort := cfg.panelPort, panelUsername := cfg.panelUsername, panelPassword := cfg.panelPassword, webPath := cfg.webPath }
  have first : [("panel_port", JsonValue.number (itoa cfg.panelPort)), ("panel_username", .string cfg.panelUsername),
      ("panel_password", .string cfg.panelPassword), ("web_base_path", .string cfg.webPath)].foldlM decodeField
        Config.zero = .ok named := by
    rw [List.foldlM_cons, port]
    rfl
  let hosted : Config := { named with publicHost := cfg.publicHost }
  have second : (omitEmpty (cfg.publicHost == "") "public_host" (.string cfg.publicHost)).foldlM decodeField named =
      .ok hosted := by
    refine fold_omitEmpty (fun empty => ?_) rfl
    simp only [hosted, beq_iff_eq.mp empty]
    rfl
  let trusted : Config := { hosted with trustProxy := cfg.trustProxy }
  have third : (omitEmpty (!cfg.trustProxy) "trust_proxy" (.bool cfg.trustProxy)).foldlM decodeField hosted = .ok trusted := by
    refine fold_omitEmpty (fun empty => ?_) rfl
    have untrusted : cfg.trustProxy = false := by simpa using empty
    simp only [trusted, untrusted]
    rfl
  let stored : Config := { trusted with databasePath := cfg.databasePath }
  have fourth : [("database_path", JsonValue.string cfg.databasePath)].foldlM decodeField trusted = .ok stored := rfl
  let certified : Config := { stored with certDomain := cfg.certDomain }
  have fifth : (omitEmpty (cfg.certDomain == "") "cert_domain" (.string cfg.certDomain)).foldlM decodeField stored =
      .ok certified := by
    refine fold_omitEmpty (fun empty => ?_) rfl
    simp only [certified, beq_iff_eq.mp empty]
    rfl
  let mailed : Config := { certified with certEmail := cfg.certEmail }
  have sixth : (omitEmpty (cfg.certEmail == "") "cert_email" (.string cfg.certEmail)).foldlM decodeField certified =
      .ok mailed := by
    refine fold_omitEmpty (fun empty => ?_) rfl
    simp only [mailed, beq_iff_eq.mp empty]
    rfl
  let direct : Config := { mailed with
    managementDirectEnabled := cfg.managementDirectEnabled, managementDirectAutoDetect := cfg.managementDirectAutoDetect }
  have seventh : [("management_direct_enabled", JsonValue.bool cfg.managementDirectEnabled),
      ("management_direct_auto_detect", .bool cfg.managementDirectAutoDetect)].foldlM decodeField mailed = .ok direct := rfl
  let listed : Config := { direct with managementDirectHosts := cfg.managementDirectHosts }
  have eighth : (omitEmpty cfg.managementDirectHosts.isEmpty "management_direct_hosts"
      (.array (cfg.managementDirectHosts.map .string))).foldlM decodeField direct = .ok listed := by
    refine fold_omitEmpty (fun empty => ?_) (hosts direct)
    simp only [listed, List.isEmpty_iff.mp empty]
    rfl
  have ninth : (omitEmpty cfg.managementDirectPorts.isEmpty "management_direct_ports"
      (.array (cfg.managementDirectPorts.map fun port => .number (itoa port)))).foldlM decodeField listed =
        .ok { listed with managementDirectPorts := cfg.managementDirectPorts } := by
    refine fold_omitEmpty (fun empty => ?_) (ports listed)
    simp only [List.isEmpty_iff.mp empty]
    rfl
  rw [Config.fields]
  simp only [List.foldlM_append]
  rw [first, ok_bind, second, ok_bind, third, ok_bind, fourth, ok_bind, fifth, ok_bind, sixth, ok_bind, seventh, ok_bind,
    eighth, ok_bind, ninth]
  rfl

theorem lastWrite_omitEmpty {empty : Bool} {key wanted : String} {value : JsonValue} (different : key ≠ wanted) :
    lastWrite (omitEmpty empty key value) wanted = none := by
  unfold omitEmpty
  split
  · rfl
  · simp [lastWrite, Ne.symm different]

/-- What is written under the key of the ports. -/
theorem lastWrite_ports (cfg : Config) : lastWrite cfg.fields "management_direct_ports" =
    lastWrite (omitEmpty cfg.managementDirectPorts.isEmpty "management_direct_ports"
      (.array (cfg.managementDirectPorts.map fun port => .number (itoa port)))) "management_direct_ports" := by
  rw [Config.fields, Relational.lastWrite_append]
  have others : ∀ front, lastWrite front "management_direct_ports" = none → ∀ more : Option JsonValue,
      more.or (lastWrite front "management_direct_ports") = more := by
    intro front missing more
    rw [missing, Option.or_none]
  refine others _ ?_ _
  simp only [Relational.lastWrite_append, Option.or_eq_none_iff]
  refine ⟨lastWrite_omitEmpty (by decide), ?_, lastWrite_omitEmpty (by decide), lastWrite_omitEmpty (by decide), ?_,
    lastWrite_omitEmpty (by decide), lastWrite_omitEmpty (by decide), ?_⟩
  · simp [lastWrite]
  · simp [lastWrite]
  · simp [lastWrite]

theorem validate_ports {cfg : Config} (valid : cfg.managementDirectPorts.all validPort = true) :
    validateManagementDirectPortsRaw cfg.fields = .ok () := by
  rw [validateManagementDirectPortsRaw, lastWrite_ports, omitEmpty]
  split
  · rfl
  · rename_i value written
    split at written
    · cases written
    · have same : value = .array (cfg.managementDirectPorts.map fun port => .number (itoa port)) := by
        simpa [lastWrite] using written.symm
      rw [same, decodePorts_array valid]
      exact require_eq_ok.mpr valid

theorem lastWrite_flags (cfg : Config) : (lastWrite cfg.fields "management_direct_enabled").isSome = true ∧
    (lastWrite cfg.fields "management_direct_auto_detect").isSome = true := by
  have written : ∀ key ∈ cfg.fields.map Prod.fst, (lastWrite cfg.fields key).isSome = true := by
    intro key member
    obtain ⟨value, last⟩ := Relational.lastWrite_isSome.mpr member
    rw [last]
    rfl
  refine ⟨written _ ?_, written _ ?_⟩
  · simp [Config.fields]
  · simp [Config.fields]

/-- What is saved of a normalized configuration loads as this configuration, as far as the pass
that is made then leaves it. -/
theorem load_document {cfg : Config} (valid : validate (normalize platform cfg) = .ok ()) :
    load platform (normalize platform cfg).document = (do
      let loaded := normalizeLoaded platform (normalize platform cfg)
      validateLoaded loaded (normalize platform cfg).fields
      return loaded) := by
  have ports := validPort_normalizePorts cfg.managementDirectPorts
  simp only [validate, bind_eq_ok, require_eq_ok] at valid
  obtain ⟨_, range, _⟩ := valid
  have fits : -2 ^ 63 ≤ (normalize platform cfg).panelPort ∧ (normalize platform cfg).panelPort < 2 ^ 63 := by
    simp only [Bool.not_eq_true', Bool.or_eq_false_iff, decide_eq_false_iff_not] at range
    omega
  obtain ⟨enabled, detected⟩ := lastWrite_flags (normalize platform cfg)
  have read := fold_fields fits ports
  have raw : documentFields (normalize platform cfg).document = .ok (normalize platform cfg).fields := rfl
  rw [load, raw, ok_bind, read, ok_bind]
  dsimp only
  rw [enabled, detected, validate_ports ports, ok_bind]
  rfl

theorem validateLoaded_normalize {cfg : Config} {raw : List (String × JsonValue)}
    (valid : validate (normalize platform cfg) = .ok ()) :
    validateLoaded (normalize platform cfg) raw = .ok () := by
  have ports : (normalize platform cfg).managementDirectPorts.all validPort = true :=
    validPort_normalizePorts cfg.managementDirectPorts
  simp only [validate, bind_eq_ok, require_eq_ok] at valid
  obtain ⟨_, range, _, _, path⟩ := valid
  simp only [Bool.not_eq_true', Bool.or_eq_false_iff, decide_eq_false_iff_not] at range
  have port : (!(decide ((normalize platform cfg).panelPort < 0) || decide (65535 < (normalize platform cfg).panelPort) ||
      ((lastWrite raw "panel_port").isSome && (normalize platform cfg).panelPort == 0))) = true := by
    have nonzero : ((normalize platform cfg).panelPort == 0) = false := beq_false_of_ne (by omega)
    rw [nonzero, Bool.and_false, decide_eq_false (by omega), decide_eq_false (by omega)]
    rfl
  simp only [validateLoaded, bind_eq_ok, require_eq_ok, onlyIf_eq_ok]
  exact ⟨(), port, (), fun _ => path, ports⟩

/-- The expectation: what is saved loads as it was normalized, a second pass changes nothing, and
an update returns what the next load returns. -/
def ReadsBack (platform : Platform) (cfg : Config) : Prop :=
  (∀ file, save platform cfg = .ok file → load platform file = .ok (normalize platform cfg)) ∧
  normalize platform (normalize platform cfg) = normalize platform cfg ∧
  ∀ mutate file loaded, load platform file = .ok loaded → mutate loaded = .ok cfg → ∀ returned written,
    update platform mutate file = .ok (returned, written) → load platform written = .ok returned

theorem load_save {cfg : Config} (settles : Settles platform cfg) {file : JsonValue} (saved : save platform cfg = .ok file) :
    load platform file = .ok (normalize platform cfg) := by
  simp only [save, bind_eq_ok, pure_eq_ok] at saved
  obtain ⟨_, valid, rfl⟩ := saved
  rw [load_document valid, normalizeLoaded_normalize settles]
  dsimp only
  rw [validateLoaded_normalize valid]
  rfl

/-- What an update returns, and what then loads. -/
def updatedAndLoaded (platform : Platform) (mutate : Config → Except String Config) (file : JsonValue) : Option (Config × Option Config) :=
  (update platform mutate file).toOption.map fun (returned, written) => (returned, (load platform written).toOption)

end MiGate.Panel
