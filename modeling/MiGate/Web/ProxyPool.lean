import Mathlib.Data.Rat.Defs
import MiGate.Go.Bytes
import MiGate.Go.Int64
import MiGate.Web.Auth

namespace MiGate.Web

open Go

/-! The pages of a proxy pool list. -/

structure Socks5PoolProxy where
  protocol : String
  address : String
  port : Int
  username : String
  password : String
  countryCode : String
  country : String
  city : String
  asn : String
  organization : String
  latitude : Rat
  longitude : Rat
  latency : Int64
deriving DecidableEq, Inhabited

structure ProxyPoolListOptions where
  country : String
  summary : Bool
  page : Int64
  perPage : Int64
  legacy : Bool
deriving DecidableEq

/-- `strconv.Atoi`. -/
def atoi (text : String) : Option Int64 :=
  (parseInt64 (utf8 text)).map Int64.ofInt

def queryBool (query : String → String) (name : String) : Bool :=
  ["1", "true", "yes"].contains (toLower (trimSpace (query name)))

/-- A number of the query, if it is one above zero. -/
def queryPositive (query : String → String) (name : String) : Option Int64 :=
  (atoi (trimSpace (query name))).filter (0 < ·)

/-- The options of a request by the first values of its query. What `strings.ToUpper` makes of the
country is left open. -/
def proxyPoolListOptionsFromRequest (toUpper : String → String) (query : String → String) : ProxyPoolListOptions :=
  let hasPaging := trimSpace (query "page") != "" || trimSpace (query "per_page") != ""
  let summary := queryBool query "summary"
  let perPage := if summary then 0 else (queryPositive query "per_page").getD 100
  { country := toUpper (trimSpace (query "country"))
    summary
    page := (queryPositive query "page").getD 1
    perPage := if 200 < perPage then 200 else perPage
    legacy := !summary && !hasPaging }

def filterProxyPool (proxies : List Socks5PoolProxy) (country : String) : List Socks5PoolProxy :=
  if country = "" then proxies else proxies.filter fun proxy => proxy.countryCode = country

variable {α : Type}

/-- `len`, which is exact as the length of a slice is an `int`. -/
def len (items : List α) : Int64 :=
  Int64.ofNat items.length

/-- `items[low:high]`, where `high` is not beyond the end; `none` is the run-time error. -/
def subslice (items : List α) (low high : Int64) : Option (List α) :=
  if 0 ≤ low ∧ low ≤ high ∧ high ≤ len items then some ((items.take high.toInt.toNat).drop low.toInt.toNat) else none

def paginateProxyPool (proxies : List α) (page perPage : Int64) : Option (List α) :=
  if perPage < 0 then some proxies
  else if perPage = 0 then some []
  else
    let page := if page ≤ 0 then 1 else page
    let start := (page - 1) * perPage
    if len proxies ≤ start then some []
    else
      let last := start + perPage
      subslice proxies start (if len proxies < last then len proxies else last)

/-- The proxies in the answer of `proxyPoolListHandler`. -/
def proxyPoolPage (toUpper : String → String) (proxies : List Socks5PoolProxy) (query : String → String) :
    Option (List Socks5PoolProxy) :=
  let options := proxyPoolListOptionsFromRequest toUpper query
  paginateProxyPool (filterProxyPool proxies options.country) options.page (if options.legacy then -1 else options.perPage)

/-! ### What the options of a request can be -/

theorem queryPositive_pos {query : String → String} {name : String} {number : Int64}
    (given : queryPositive query name = some number) : 1 ≤ number := by
  have positive := (Option.filter_eq_some_iff.mp given).2
  rw [decide_eq_true_eq, Int64.lt_iff_toInt_lt] at positive
  rw [Int64.le_iff_toInt_le]
  exact positive

theorem queryPositive_getD (query : String → String) (name : String) {default : Int64} (positive : 1 ≤ default) :
    1 ≤ (queryPositive query name).getD default := by
  cases given : queryPositive query name with
  | none => exact positive
  | some number => exact queryPositive_pos given

/-- Whatever a request asks for, its page is at or above one and its page size at most 200, and not
0 but where only the summary is asked for. -/
theorem options_clamped (toUpper : String → String) (query : String → String) :
    1 ≤ (proxyPoolListOptionsFromRequest toUpper query).page ∧
      0 ≤ (proxyPoolListOptionsFromRequest toUpper query).perPage ∧
      (proxyPoolListOptionsFromRequest toUpper query).perPage ≤ 200 ∧
      ((proxyPoolListOptionsFromRequest toUpper query).perPage = 0 ↔ queryBool query "summary" = true) := by
  refine ⟨queryPositive_getD query "page" (by decide), ?_⟩
  have size := queryPositive_getD query "per_page" (by decide : (1 : Int64) ≤ 100)
  simp only [proxyPoolListOptionsFromRequest]
  generalize (queryPositive query "per_page").getD 100 = asked at size
  cases queryBool query "summary" with
  | true =>
      rw [if_pos rfl]
      decide
  | false =>
      simp only [Bool.false_eq_true, if_false, iff_false]
      simp only [Int64.lt_iff_toInt_lt, Int64.le_iff_toInt_le, ← Int64.toInt_inj] at size ⊢
      have one : (1 : Int64).toInt = 1 := rfl
      have zero : (0 : Int64).toInt = 0 := rfl
      have most : (200 : Int64).toInt = 200 := rfl
      rw [one] at size
      split <;> omega

/-! ### A page as the list has it -/

/-- How many proxies stand before a page. -/
def pageOffset (page perPage : Int64) : Int :=
  (page.toInt - 1) * perPage.toInt

def pageWindow (items : List α) (page perPage : Int64) : List α :=
  (items.drop (pageOffset page perPage).toNat).take perPage.toInt.toNat

/-- The end of the page is below 2^63, or what is left of its offset is not before the end of the list. -/
def PageFits (items : List α) (page perPage : Int64) : Prop :=
  pageOffset page perPage + perPage.toInt < 2 ^ 63 ∨ (items.length : Int) ≤ (pageOffset page perPage).bmod (2 ^ 64)

instance (items : List α) (page perPage : Int64) : Decidable (PageFits items page perPage) :=
  inferInstanceAs (Decidable (_ ∨ _))

variable {items : List α} {page perPage : Int64}

theorem toInt_len (listed : items.length < 2 ^ 63) : (len items).toInt = items.length := by
  rw [len, Int64.toInt_ofNat_of_lt listed]

/-- The offset the code computes is what is left of the offset in 64 bits. -/
theorem toInt_start (page perPage : Int64) (atLeast : 1 ≤ page) :
    ((page - 1) * perPage).toInt = (pageOffset page perPage).bmod (2 ^ 64) := by
  have above : 1 ≤ page.toInt := Int64.le_iff_toInt_le.mp atLeast
  have below := Int64.toInt_lt page
  have before : (page - 1).toInt = page.toInt - 1 := by
    rw [Int64.toInt_sub]
    exact Int.bmod_eq_of_le (by change -2 ^ 63 ≤ page.toInt - 1; omega) (by change page.toInt - 1 < 2 ^ 63; omega)
  rw [Int64.toInt_mul, before, pageOffset]

theorem subslice_eq (listed : items.length < 2 ^ 63) (low high : Int64) : subslice items low high =
    if 0 ≤ low.toInt ∧ low.toInt ≤ high.toInt ∧ high.toInt ≤ items.length then
      some ((items.take high.toInt.toNat).drop low.toInt.toNat) else none := by
  simp only [subslice, Int64.le_iff_toInt_le, toInt_len listed]
  rfl

/-- What is left of an offset that is not negative is not beyond it. -/
theorem bmod_le {offset : Int} (nonnegative : 0 ≤ offset) : offset.bmod (2 ^ 64) ≤ offset := by
  rw [Int.bmod_def]
  split <;> omega

/-- The last step of the code, from the offset it has computed. -/
theorem cutPage_eq_iff (listed : items.length < 2 ^ 63) {start perPage : Int64} (positive : 0 < perPage.toInt)
    {offset : Int} (nonnegative : 0 ≤ offset) (left : start.toInt = offset.bmod (2 ^ 64)) :
    (if len items ≤ start then some []
      else subslice items start (if len items < start + perPage then len items else start + perPage)) =
        some ((items.drop offset.toNat).take perPage.toInt.toNat) ↔
      offset + perPage.toInt < 2 ^ 63 ∨ (items.length : Int) ≤ start.toInt := by
  have notBeyond : start.toInt ≤ offset := left ▸ bmod_le nonnegative
  by_cases beyond : len items ≤ start
  · have inside := beyond
    rw [Int64.le_iff_toInt_le, toInt_len listed] at inside
    rw [if_pos beyond, List.drop_eq_nil_of_le (by omega), List.take_nil]
    exact iff_of_true rfl (.inr inside)
  · have inside := beyond
    rw [Int64.le_iff_toInt_le, toInt_len listed, Int.not_le] at inside
    rw [if_neg beyond, subslice_eq listed]
    have sizeBelow := Int64.toInt_lt perPage
    have lastBelow := Int64.toInt_lt (start + perPage)
    have last : (start + perPage).toInt = start.toInt + perPage.toInt ∨
        2 ^ 63 ≤ start.toInt + perPage.toInt ∧ (start + perPage).toInt = start.toInt + perPage.toInt - 2 ^ 64 := by
      rw [Int64.toInt_add, Int.bmod_def]
      have above := Int64.le_toInt start
      split <;> omega
    have reach : (if len items < start + perPage then len items else start + perPage).toInt =
        min (items.length : Int) (start + perPage).toInt := by
      rw [apply_ite Int64.toInt, toInt_len listed]
      simp only [Int64.lt_iff_toInt_lt, toInt_len listed]
      split <;> omega
    rw [reach]
    by_cases fits : offset + perPage.toInt < 2 ^ 63
    · -- nothing wraps
      have same : start.toInt = offset := by
        rw [left]
        exact Int.bmod_eq_of_le (by omega) (by omega)
      refine iff_of_true ?_ (.inl fits)
      have length : (items.drop offset.toNat).length = items.length - offset.toNat := List.length_drop
      rw [if_pos (by omega), List.drop_take, same]
      by_cases whole : (items.length : Int) ≤ (start + perPage).toInt
      · rw [List.take_of_length_le (by omega), List.take_of_length_le (by omega)]
      · congr 2
        omega
    · refine iff_of_false (fun returned => ?_) (fun fine => fine.elim fits (by omega))
      split at returned
      · -- a page that is not empty, where nothing is left
        rename_i bounds
        have far : 2 ^ 63 ≤ offset := by
          by_contra below
          have same : start.toInt = offset := left.trans (Int.bmod_eq_of_le (by omega) (by omega))
          omega
        rw [Option.some.injEq, List.drop_eq_nil_of_le (by omega : items.length ≤ offset.toNat), List.take_nil] at returned
        have length := congrArg List.length returned
        rw [List.length_drop, List.length_take, List.length_nil] at length
        omega
      · cases returned

/-- A page is the window of the list exactly when it fits. -/
theorem paginateProxyPool_eq_iff (listed : items.length < 2 ^ 63) (atLeast : 1 ≤ page) (clamped : 0 ≤ perPage) :
    paginateProxyPool items page perPage = some (pageWindow items page perPage) ↔ PageFits items page perPage := by
  have above : 1 ≤ page.toInt := Int64.le_iff_toInt_le.mp atLeast
  have size : 0 ≤ perPage.toInt := Int64.le_iff_toInt_le.mp clamped
  have notNegative : ¬perPage < 0 := by
    rw [Int64.lt_iff_toInt_lt]
    exact Int.not_lt.mpr size
  have notFirst : ¬page ≤ 0 := by
    rw [Int64.le_iff_toInt_le]
    exact Int.not_le.mpr (Int.lt_of_lt_of_le Int.zero_lt_one above)
  have sizeBelow := Int64.toInt_lt perPage
  rw [paginateProxyPool, if_neg notNegative]
  by_cases none : perPage = 0
  · subst none
    rw [if_pos rfl]
    have offset : pageOffset page 0 = 0 := Int.mul_zero _
    refine iff_of_true ?_ (.inl ?_)
    · rw [pageWindow]
      rfl
    · rw [offset]
      decide
  · have positive : 0 < perPage.toInt := by
      have other : perPage.toInt ≠ (0 : Int64).toInt := fun same => none (Int64.toInt_inj.mp same)
      exact lt_of_le_of_ne size (Ne.symm other)
    have offset : 0 ≤ pageOffset page perPage := Int.mul_nonneg (by omega) size
    rw [if_neg none, if_neg notFirst, PageFits, ← toInt_start page perPage atLeast]
    exact cutPage_eq_iff listed positive offset (toInt_start page perPage atLeast)

/-! ### The pages one after the other -/

/-- The pages 1, 2, … up to a number, put together. -/
def pagesUpTo (items : List α) (perPage : Int64) : Nat → Option (List α)
  | 0 => some []
  | count + 1 => do
      let before ← pagesUpTo items perPage count
      let page ← paginateProxyPool items (Int64.ofNat (count + 1)) perPage
      return before ++ page

/-- No page fails, and the pages put together come to the list. -/
def PagesPartition (items : List α) (perPage : Int64) : Prop :=
  (∀ page, 1 ≤ page → paginateProxyPool items page perPage ≠ none) ∧
    ∃ enough < 2 ^ 63, ∀ count, enough ≤ count → count < 2 ^ 63 → pagesUpTo items perPage count = some items

theorem toInt_pageNumber {number : Nat} (small : number + 1 < 2 ^ 63) : (Int64.ofNat (number + 1)).toInt = number + 1 :=
  Int64.toInt_ofNat_of_lt small

theorem one_le_pageNumber {number : Nat} (small : number + 1 < 2 ^ 63) : 1 ≤ Int64.ofNat (number + 1) := by
  rw [Int64.le_iff_toInt_le, toInt_pageNumber small]
  change (1 : Int) ≤ number + 1
  omega

theorem pagesUpTo_eq (listed : items.length < 2 ^ 63) (clamped : 0 ≤ perPage) {count : Nat} (small : count < 2 ^ 63)
    (fits : ∀ number < count, PageFits items (Int64.ofNat (number + 1)) perPage) :
    pagesUpTo items perPage count = some (items.take (count * perPage.toInt.toNat)) := by
  induction count with
  | zero => rw [Nat.zero_mul, List.take_zero, pagesUpTo]
  | succ count ih =>
      have before := ih (by omega) fun number inside => fits number (by omega)
      have page := (paginateProxyPool_eq_iff listed (one_le_pageNumber small) clamped).mpr (fits count (by omega))
      have offset : (pageOffset (Int64.ofNat (count + 1)) perPage).toNat = count * perPage.toInt.toNat := by
        rw [pageOffset, toInt_pageNumber small, Int.add_sub_cancel, Int.toNat_mul (by omega) (Int64.le_iff_toInt_le.mp clamped),
          Int.toNat_natCast]
      rw [pagesUpTo, before, page, pageWindow, offset, Nat.succ_mul, List.take_add]
      rfl

theorem paginateProxyPool_none (listed : items.length < 2 ^ 63) (atLeast : 1 ≤ page) (positive : 0 < perPage)
    (negative : (pageOffset page perPage).bmod (2 ^ 64) < 0) : paginateProxyPool items page perPage = none := by
  have start := toInt_start page perPage atLeast
  have notFirst : ¬page ≤ 0 := by
    rw [Int64.le_iff_toInt_le] at atLeast ⊢
    exact Int.not_le.mpr (Int.lt_of_lt_of_le Int.zero_lt_one atLeast)
  have notBeyond : ¬len items ≤ (page - 1) * perPage := by
    rw [Int64.le_iff_toInt_le, toInt_len listed]
    omega
  have size : 0 < perPage.toInt := Int64.lt_iff_toInt_lt.mp positive
  have notNegative : ¬perPage < 0 := by
    rw [Int64.lt_iff_toInt_lt]
    exact Int.not_lt.mpr (Int.le_of_lt size)
  have notZero : ¬perPage = 0 := by
    rintro rfl
    exact absurd size (by decide)
  rw [paginateProxyPool, if_neg notNegative, if_neg notZero, if_neg notFirst]
  dsimp only
  rw [if_neg notBeyond, subslice_eq listed, if_neg (by omega)]

/-- With a page size above one some page has an offset that wraps below zero. -/
theorem exists_page_none (listed : items.length < 2 ^ 63) (size : 2 ≤ perPage.toInt) (upper : perPage.toInt ≤ 200) :
    ∃ page, 1 ≤ page ∧ paginateProxyPool items page perPage = none := by
  have positive : 0 < perPage := by
    rw [Int64.lt_iff_toInt_lt]
    change 0 < perPage.toInt
    omega
  let number := ((2 ^ 63 + perPage.toInt - 1) / perPage.toInt).toNat
  have quotient : 0 ≤ (2 ^ 63 + perPage.toInt - 1) / perPage.toInt := Int.ediv_nonneg (by omega) (by omega)
  have cast : (number : Int) = (2 ^ 63 + perPage.toInt - 1) / perPage.toInt := Int.toNat_of_nonneg quotient
  have rest := Int.emod_add_mul_ediv (2 ^ 63 + perPage.toInt - 1) perPage.toInt
  have restLow := Int.emod_nonneg (2 ^ 63 + perPage.toInt - 1) (show perPage.toInt ≠ 0 by omega)
  have restHigh := Int.emod_lt_of_pos (2 ^ 63 + perPage.toInt - 1) (show 0 < perPage.toInt by omega)
  rw [← cast] at rest
  have small : number + 1 < 2 ^ 63 := by
    have twice : 2 * (number : Int) ≤ perPage.toInt * number := Int.mul_le_mul_of_nonneg_right size (by omega)
    omega
  refine ⟨Int64.ofNat (number + 1), one_le_pageNumber small,
    paginateProxyPool_none listed (one_le_pageNumber small) positive ?_⟩
  rw [pageOffset, toInt_pageNumber small, Int.add_sub_cancel, Int.mul_comm, Int.bmod_def]
  split <;> omega

theorem fits_of_le_one (atLeast : 1 ≤ page) (lower : 0 ≤ perPage.toInt) (size : perPage.toInt ≤ 1) :
    PageFits items page perPage := by
  have above : 1 ≤ page.toInt := Int64.le_iff_toInt_le.mp atLeast
  have below := Int64.toInt_lt page
  have offset : pageOffset page perPage ≤ page.toInt - 1 := by
    have product := Int.mul_le_mul_of_nonneg_left size (show 0 ≤ page.toInt - 1 by omega)
    rwa [Int.mul_one] at product
  exact .inl (by omega)

theorem pagesPartition_iff (listed : items.length < 2 ^ 63) (lower : 0 ≤ perPage) (upper : perPage ≤ 200) :
    PagesPartition items perPage ↔ perPage = 1 ∨ perPage = 0 ∧ items = [] := by
  have atLeast : 0 ≤ perPage.toInt := Int64.le_iff_toInt_le.mp lower
  have fits : perPage.toInt ≤ 1 → ∀ number, number + 1 < 2 ^ 63 → PageFits items (Int64.ofNat (number + 1)) perPage :=
    fun size number small => fits_of_le_one (one_le_pageNumber small) atLeast size
  have runs : perPage.toInt ≤ 1 → ∀ count < 2 ^ 63,
      pagesUpTo items perPage count = some (items.take (count * perPage.toInt.toNat)) :=
    fun size count small => pagesUpTo_eq listed lower small fun number inside => fits size number (by omega)
  constructor
  · intro ⟨safe, enough, small, whole⟩
    by_cases size : 2 ≤ perPage.toInt
    · obtain ⟨page, first, failed⟩ := exists_page_none listed size (Int64.le_iff_toInt_le.mp upper)
      exact absurd failed (safe page first)
    · rcases (by omega : perPage.toInt = 1 ∨ perPage.toInt = 0) with one | zero
      · exact .inl (Int64.toInt_inj.mp one)
      · have same := whole enough (Nat.le_refl _) small
        rw [runs (by omega) enough small, zero, Int.toNat_zero, Nat.mul_zero, List.take_zero, Option.some.injEq] at same
        exact .inr ⟨Int64.toInt_inj.mp zero, same.symm⟩
  · intro single
    have size : perPage.toInt ≤ 1 := by
      rcases single with rfl | ⟨rfl, _⟩
      · decide
      · decide
    constructor
    · intro page first failed
      rw [(paginateProxyPool_eq_iff listed first lower).mpr (fits_of_le_one first atLeast size)] at failed
      cases failed
    · refine ⟨items.length, listed, fun count enough small => ?_⟩
      rw [runs size count small]
      rcases single with rfl | ⟨rfl, empty⟩
      · rw [List.take_of_length_le (by change items.length ≤ count * 1; omega)]
      · rw [empty, List.take_nil]

/-- A page is the window of the list that its number and size name exactly when it fits, and as long
as they fit the pages go through the list in order. All of them do only with one proxy a page. -/
theorem proxy_pages_iff {proxies : List Socks5PoolProxy} (country : String) (listed : proxies.length < 2 ^ 63)
    (clamped : 0 ≤ perPage ∧ perPage ≤ 200) :
    let filtered := filterProxyPool proxies country
    (∀ page, 1 ≤ page → (paginateProxyPool filtered page perPage = some (pageWindow filtered page perPage) ↔
      PageFits filtered page perPage)) ∧
    (∀ count < 2 ^ 63, (∀ number < count, PageFits filtered (Int64.ofNat (number + 1)) perPage) →
      pagesUpTo filtered perPage count = some (filtered.take (count * perPage.toInt.toNat))) ∧
    (PagesPartition filtered perPage ↔ perPage = 1 ∨ perPage = 0 ∧ filtered = []) := by
  intro filtered
  have filteredListed : filtered.length < 2 ^ 63 := by
    refine Nat.lt_of_le_of_lt ?_ listed
    change (filterProxyPool proxies country).length ≤ _
    rw [filterProxyPool]
    split
    · exact Nat.le_refl _
    · exact List.length_filter_le _ _
  refine ⟨fun page atLeast => paginateProxyPool_eq_iff filteredListed atLeast clamped.1,
    fun count small fits => pagesUpTo_eq filteredListed clamped.1 small fits,
    pagesPartition_iff filteredListed clamped.1 clamped.2⟩

/-- The query of a page far beyond the end. -/
def exampleFarPage (perPage name : String) : String :=
  if name = "page" then "4611686018427387905" else if name = "per_page" then perPage else ""

/-- A list of one proxy on one page. -/
theorem single_page_whole : let filtered := filterProxyPool [default] ""
    (∀ page, 1 ≤ page → (paginateProxyPool filtered page 100 = some (pageWindow filtered page 100) ↔
      PageFits filtered page 100)) ∧
    (∀ count < 2 ^ 63, (∀ number < count, PageFits filtered (Int64.ofNat (number + 1)) 100) →
      pagesUpTo filtered 100 count = some (filtered.take (count * (100 : Int64).toInt.toNat))) ∧
    (PagesPartition filtered 100 ↔ (100 : Int64) = 1 ∨ (100 : Int64) = 0 ∧ filtered = []) := by
  exact proxy_pages_iff "" (by decide) (by decide)

/-- The offset of the page wraps below zero, and the slice fails. With four proxies a page it wraps to zero: the
first page comes again. -/
theorem far_page_fails : ¬PagesPartition (filterProxyPool [default] "") 2 ∧
    proxyPoolPage id [default] (exampleFarPage "2") = none ∧
    proxyPoolPage id [default] (exampleFarPage "4") = some [default] := by
  refine ⟨fun partition => partition.1 4611686018427387905 (by decide) (by decide), ?_, ?_⟩
  · with_unfolding_all decide
  · with_unfolding_all decide

end MiGate.Web
