import MiGate.Go.URL
import MiGate.Go.Utf8

namespace MiGate.Go

open Fallible

/-! What a host can hold: `url.Parse` lets few ASCII characters stand in one. -/

private theorem later_of_wide {rune : Char} {code : Nat} {runes : List Char} (ascii : rune.toNat < 128)
    (wide : 128 ≤ code) (valid : code.isValidChar) (member : rune ∈ Char.ofNat code :: runes) : rune ∈ runes := by
  rcases List.mem_cons.mp member with here | later
  · have value : (Char.ofNat code).toNat = code := by
      rw [Char.ofNat, dif_pos valid]
      rfl
    rw [here, value] at ascii
    omega
  · exact later

/-- An ASCII character is read from its own byte only. -/
theorem mem_of_decodeRunes {bytes : List UInt8} {rune : Char} (ascii : rune.toNat < 128)
    (member : rune ∈ decodeRunes bytes) : UInt8.ofNat rune.toNat ∈ bytes := by
  have lost : ∀ {runes : List Char}, rune ∈ runeError :: runes → rune ∈ runes :=
    later_of_wide ascii (by decide) (by decide)
  fun_induction decodeRunes bytes with
  | case1 => cases member
  | case2 first tail small ih =>
      rcases List.mem_cons.mp member with here | later
      · have same : (Char.ofNat first.toNat).toNat = first.toNat := by
          have below : first.toNat < 128 := UInt8.lt_iff_toNat_lt.mp small
          rw [Char.ofNat, dif_pos (.inl (by omega))]
          rfl
        rw [here, same, UInt8.ofNat_toNat]
        exact List.mem_cons_self
      · exact List.mem_cons_of_mem _ (ih later)
  | case3 => cases lost member
  | case4 first notOne second tail pair two ih =>
      simp only [Bool.and_eq_true, decide_eq_true_eq, UInt8.le_iff_toNat_le] at two
      have low : 194 ≤ first.toNat := two.1.1
      have high : first.toNat ≤ 223 := two.1.2
      have bits : tailBits second < 64 := Nat.mod_lt _ (by decide)
      have value : pair = first.toNat % 32 * 64 + tailBits second := rfl
      have later := later_of_wide ascii (by omega) (.inl (by omega)) member
      exact List.mem_cons_of_mem _ (List.mem_cons_of_mem _ (ih later))
  | case5 first notOne second notTwo ih => exact List.mem_cons_of_mem _ (ih (lost member))
  | case6 first notOne second notTwo third tail triple three ih =>
      simp only [Bool.and_eq_true, decide_eq_true_eq, Bool.not_eq_true', Bool.and_eq_false_iff,
        decide_eq_false_iff_not] at three
      have bits : tailBits second < 64 := Nat.mod_lt _ (by decide)
      have bits' : tailBits third < 64 := Nat.mod_lt _ (by decide)
      have value : triple = (first.toNat % 16 * 64 + tailBits second) * 64 + tailBits third := rfl
      have valid : triple.isValidChar := by
        rcases three.2 with below | above
        · exact .inl (by omega)
        · exact .inr (by omega)
      have later := later_of_wide ascii (by omega) valid member
      exact List.mem_cons_of_mem _ (List.mem_cons_of_mem _ (List.mem_cons_of_mem _ (ih later)))
  | case7 first notOne second notTwo third triple notThree ih => exact List.mem_cons_of_mem _ (ih (lost member))
  | case8 first notOne second notTwo third triple notThree fourth tail quad four ih =>
      simp only [Bool.and_eq_true, decide_eq_true_eq] at four
      have later := later_of_wide ascii (by omega) (.inr (by omega)) member
      exact List.mem_cons_of_mem _ (List.mem_cons_of_mem _ (List.mem_cons_of_mem _ (List.mem_cons_of_mem _ (ih later))))
  | case9 first notOne second notTwo third triple notThree fourth tail quad notFour ih =>
      exact List.mem_cons_of_mem _ (ih (lost member))

/-- An ASCII byte of an encoded character is that character. -/
theorem byte_of_utf8EncodeChar {rune : Char} {byte : UInt8} (ascii : byte.toNat < 128)
    (member : byte ∈ String.utf8EncodeChar rune) : byte.toNat = rune.toNat := by
  have wide : ∀ code, code < 256 → 128 ≤ code → byte ≠ UInt8.ofNat code := by
    intro code small high same
    rw [same, toNat_byte small] at ascii
    omega
  have code : rune.val.toNat = rune.toNat := rfl
  unfold String.utf8EncodeChar at member
  rw [code] at member
  dsimp only at member
  split at member
  · rename_i small
    rw [List.mem_singleton.mp member, toNat_byte (by omega)]
  · split at member
    · simp only [List.mem_cons, List.not_mem_nil, or_false] at member
      rcases member with first | second
      · exact absurd first (wide _ (by omega) (by omega))
      · exact absurd second (wide _ (by omega) (by omega))
    · split at member
      · simp only [List.mem_cons, List.not_mem_nil, or_false] at member
        rcases member with first | second | third
        · exact absurd first (wide _ (by omega) (by omega))
        · exact absurd second (wide _ (by omega) (by omega))
        · exact absurd third (wide _ (by omega) (by omega))
      · simp only [List.mem_cons, List.not_mem_nil, or_false] at member
        rcases member with first | second | third | fourth
        · exact absurd first (wide _ (by omega) (by omega))
        · exact absurd second (wide _ (by omega) (by omega))
        · exact absurd third (wide _ (by omega) (by omega))
        · exact absurd fourth (wide _ (by omega) (by omega))

/-- What an unescaped host can hold among the ASCII characters: those that stand for themselves,
and the two that are escaped. -/
def hostHolds (rune : Char) : Bool :=
  hostAllows rune || rune == '%' || rune == ' '

def HostText (text : String) : Prop :=
  ∀ rune ∈ text.toList, rune.toNat < 128 → hostHolds rune = true

theorem HostText.append {left right : String} (first : HostText left) (second : HostText right) :
    HostText (left ++ right) := by
  intro rune member
  rw [String.toList_append] at member
  rcases List.mem_append.mp member with before | after
  · exact first rune before
  · exact second rune after

theorem HostText.part {text part : String} (held : HostText text) (within : part.toList ⊆ text.toList) :
    HostText part :=
  fun rune member => held rune (within member)

theorem hexValue_lt {rune : Char} {value : Nat} (read : hexValue rune = some value) : value < 16 := by
  unfold hexValue at read
  have order : ∀ {left right : Char}, left ≤ right → left.toNat ≤ right.toNat := fun below =>
    UInt32.le_iff_toNat_le.mp below
  split at read
  · rename_i digit
    have high : rune.toNat ≤ 57 := order digit.2
    cases read
    omega
  · split at read
    · rename_i lower
      have high : rune.toNat ≤ 102 := order lower.2
      cases read
      omega
    · split at read
      · rename_i upper
        have high : rune.toNat ≤ 70 := order upper.2
        cases read
        omega
      · cases read

/-- The text of a host or of a zone, piece by piece. -/
theorem unescapeBytes_host {mode : Encoding} (host : mode = .host ∨ mode = .zone) {runes : List Char}
    {bytes : List UInt8} (done : unescapeBytes mode runes = .ok bytes) {byte : UInt8} (member : byte ∈ bytes)
    (ascii : byte.toNat < 128) : hostHolds (Char.ofNat byte.toNat) = true := by
  fun_induction unescapeBytes mode runes generalizing bytes with
  | case1 =>
      cases done
      cases member
  | case2 => cases done
  | case3 => cases done
  | case4 =>
      rename_i high low rest first second lowRead highRead value hostFits zoneFits ih
      obtain ⟨others, read, rfl⟩ := map_eq_ok.mp done
      rcases List.mem_cons.mp member with here | later
      · have below : first < 16 := hexValue_lt highRead
        have below' : second < 16 := hexValue_lt lowRead
        have sum : value = first * 16 + second := rfl
        rw [here, toNat_byte (by omega)] at ascii ⊢
        rcases host with isHost | isZone
        · have percent : value = 37 := by
            by_contra other
            exact hostFits ⟨isHost, by omega, other⟩
          rw [percent]
          decide
        · by_cases percent : value = 37
          · rw [percent]
            decide
          · by_cases space : value = 32
            · rw [space]
              decide
            · have allowed : hostAllows (Char.ofNat value) = true := by
                by_contra other
                exact zoneFits ⟨isZone, percent, space, by simpa using other⟩
              rw [hostHolds, allowed]
              rfl
      · exact ih read later
  | case5 => cases done
  | case6 => cases done
  | case7 rune rest _ _ plus =>
      rcases host with isHost | isZone
      · exact absurd (isHost.symm.trans plus.2) (by decide)
      · exact absurd (isZone.symm.trans plus.2) (by decide)
  | case8 => cases done
  | case9 rune rest _ _ _ fits ih =>
      obtain ⟨others, read, rfl⟩ := map_eq_ok.mp done
      rcases List.mem_append.mp member with here | later
      · have same := byte_of_utf8EncodeChar ascii here
        rw [same] at ascii ⊢
        rw [Char.ofNat_toNat]
        have allowed : hostAllows rune = true := by
          by_contra other
          exact fits ⟨host, ascii, by simpa using other⟩
        rw [hostHolds, allowed]
        rfl
      · exact ih read later

theorem unescape_host {mode : Encoding} (host : mode = .host ∨ mode = .zone) {text result : String}
    (done : unescape mode text = .ok result) : HostText result := by
  obtain ⟨bytes, read, rfl⟩ := map_eq_ok.mp done
  intro rune member ascii
  rw [stringOfBytes, String.toList_ofList] at member
  have byte := mem_of_decodeRunes ascii member
  have value : (UInt8.ofNat rune.toNat).toNat = rune.toNat := toNat_byte (by omega)
  have holds := unescapeBytes_host host read byte (by rwa [value])
  rwa [value, Char.ofNat_toNat] at holds

theorem parseHost_host {text host : String} (done : parseHost text = .ok host) : HostText host := by
  unfold parseHost at done
  split at done
  · split at done
    · cases done
    · unfold parseBracketedHost at done
      obtain ⟨_, _, rest⟩ := bind_eq_ok.mp done
      split at rest
      · simp only [bind_eq_ok, pure_eq_ok] at rest
        obtain ⟨first, firstRead, second, secondRead, third, thirdRead, rfl⟩ := rest
        exact ((unescape_host (.inl rfl) firstRead).append (unescape_host (.inr rfl) secondRead)).append
          (unescape_host (.inl rfl) thirdRead)
      · exact unescape_host (.inl rfl) rest
  · dsimp only at done
    split at done
    · obtain ⟨_, _, rest⟩ := bind_eq_ok.mp done
      exact unescape_host (.inl rfl) rest
    · exact unescape_host (.inl rfl) done

theorem parseAuthority_host {text : String} {parsed : Option Userinfo × String}
    (done : parseAuthority text = .ok parsed) : HostText parsed.2 := by
  unfold parseAuthority at done
  split at done
  · simp only [bind_eq_ok, pure_eq_ok] at done
    obtain ⟨host, read, rfl⟩ := done
    exact parseHost_host read
  · simp only [bind_eq_ok, pure_eq_ok] at done
    obtain ⟨host, read, _, _, rfl⟩ := done
    exact parseHost_host read

theorem hostText_empty : HostText "" :=
  fun _ member => nomatch member

theorem parseURL_host {text : String} {url : URL} (done : parseURL text = .ok url) : HostText url.host := by
  unfold parseURL at done
  dsimp only at done
  split at done
  · cases done
  · rename_i parsed read
    split at done
    · cases done
    · cases done
      unfold parseWithoutFragment at read
      simp only [bind_eq_ok] at read
      obtain ⟨_, _, ⟨scheme, rest⟩, _, read⟩ := read
      dsimp only at read
      split at read
      · cases read
        exact hostText_empty
      · obtain ⟨_, _, read⟩ := bind_eq_ok.mp read
        split at read
        · simp only [bind_eq_ok, pure_eq_ok] at read
          obtain ⟨⟨user, host⟩, found, _, _, rfl⟩ := read
          exact parseAuthority_host found
        · simp only [bind_eq_ok, pure_eq_ok] at read
          obtain ⟨_, _, rfl⟩ := read
          exact hostText_empty

/-- A host without its port and its brackets is a part of the host. -/
theorem cutLast_subset {text before after : String} {separator : Char}
    (done : cutLast text separator = some (before, after)) : before.toList ⊆ text.toList := by
  unfold cutLast at done
  dsimp only at done
  split at done
  · cases done
    intro rune member
    rw [String.toList_ofList, List.mem_reverse] at member
    exact List.mem_reverse.mp (List.mem_of_mem_drop member)
  · cases done

theorem hostname_subset (url : URL) : url.hostname.toList ⊆ url.host.toList := by
  unfold URL.hostname splitHostPort
  split
  rename_i host port found
  have within : host.toList ⊆ url.host.toList := by
    split at found
    · rename_i before after parted
      split at found
      · cases found
        exact cutLast_subset parted
      · cases found
        exact List.Subset.refl _
    · cases found
      exact List.Subset.refl _
  split
  · rw [String.toList_ofList]
    exact fun rune member => within (List.mem_of_mem_drop (List.dropLast_subset _ member))
  · exact within

theorem trimSpace_subset (text : String) : (trimSpace text).toList ⊆ text.toList := by
  unfold trimSpace
  rw [String.toList_ofList]
  exact fun rune member => (List.dropWhile_suffix isSpace).subset ((List.rdropWhile_prefix isSpace _).subset member)

theorem HostText.trimSpace {text : String} (held : HostText text) : HostText (trimSpace text) :=
  held.part (trimSpace_subset text)

theorem HostText.unbarred {text : String} (held : HostText text) : '|' ∉ text.toList :=
  fun member => absurd (held '|' member (by decide)) (by decide)

theorem portNumber_nonneg (port : String) : 0 ≤ portNumber port := by
  have grows : ∀ (runes : List Char) (value : Int), 0 ≤ value →
      0 ≤ runes.foldl (fun (value : Int) rune => value * 10 + (rune.toNat - 48 : Nat)) value := by
    intro runes
    induction runes with
    | nil => exact fun _ nonneg => nonneg
    | cons rune rest ih =>
        intro value nonneg
        refine ih _ ?_
        dsimp only
        omega
  exact grows port.toList 0 (Int.le_refl 0)

theorem hostname_host {text : String} {url : URL} (done : parseURL text = .ok url) : HostText url.hostname :=
  (parseURL_host done).part (hostname_subset url)

end MiGate.Go
