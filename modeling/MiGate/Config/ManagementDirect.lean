import Mathlib.Data.List.Sort
import MiGate.Db.Random

namespace MiGate.Config

open Go Db

structure ManagementDirectOptions where
  enabled : Bool
  hosts : List String
  ports : List Int
deriving Repr, Inhabited

/-- `strings.LastIndex` of a rune, and what stands before and after it. -/
def splitAtLast (rune : Char) (text : String) : Option (String × String) :=
  match text.toList.reverse.splitOn rune with
  | last :: (first :: rest) =>
      some (String.ofList ((first :: rest).intersperse [rune]).flatten.reverse, String.ofList last.reverse)
  | _ => none

/-- Whether `strconv.Atoi` accepts a text, leaving overflow aside. -/
def isDecimal (text : String) : Bool :=
  let digits := match text.toList with
    | '+' :: rest => rest
    | '-' :: rest => rest
    | runes => runes
  !digits.isEmpty && digits.all Char.isDigit

def normalizeManagementDirectHost (platform : Platform) (value : String) : String :=
  let value := trimSpace value
  if value = "" then ""
  else
    let value := if contains value "://" then (platform.urlHost value).getD value else value
    let value :=
      match platform.splitHost value with
      | some host => host
      | none =>
          if value.toList.count ':' = 1 then
            match splitAtLast ':' value with
            | some (host, port) => if host ≠ "" ∧ isDecimal port then host else value
            | none => value
          else value
    let value := String.ofList
      (trimList (fun rune => ['[', ']', ' ', '\t', '\r', '\n'].contains rune) value.toList)
    if value = "" then ""
    else
      match platform.parseIP value with
      | some (printed, _) => printed
      | none => toLower value

/-- Each element whose key did not occur before, in order. -/
def distinctBy {α κ : Type} [BEq κ] (key : α → κ) (items : List α) : List α :=
  items.foldl (fun kept item => if kept.any fun other => key other == key item then kept else kept ++ [item]) []

def normalizeManagementDirectHosts (platform : Platform) (values : List String) : List String :=
  distinctBy toLower
    ((values.map (normalizeManagementDirectHost platform)).filter fun host => host != "")

def normalizeManagementDirectPorts (values : List Int) : List Int :=
  (distinctBy id (values.filter fun port => 1 ≤ port && port ≤ 65535)).insertionSort (· ≤ ·)

def isCIDROrIP (platform : Platform) (value : String) : Bool :=
  (platform.parseIP value).isSome || platform.isCIDR value

/-- The hosts and ports a configuration sends out directly, the hosts split into addresses and
domains; both lists are empty if there is nothing to send. -/
structure ManagementDirect where
  ips : List String
  domains : List String
  ports : List Int

def managementDirect (platform : Platform) (opts : ManagementDirectOptions) : ManagementDirect :=
  let hosts := normalizeManagementDirectHosts platform opts.hosts
  let ports := normalizeManagementDirectPorts opts.ports
  if !opts.enabled || hosts.isEmpty || ports.isEmpty then ⟨[], [], []⟩
  else ⟨hosts.filter (isCIDROrIP platform), hosts.filter fun host => !isCIDROrIP platform host, ports⟩

/-- The two system rules of a configuration, as far as they have hosts. -/
def systemRules {ρ : Type} (direct : ManagementDirect) (ipRule domainRule : List String → List Int → ρ) :
    List ρ :=
  (if direct.ips.isEmpty then [] else [ipRule direct.ips direct.ports]) ++
    if direct.domains.isEmpty then [] else [domainRule direct.domains direct.ports]

/-- Puts the system outbound in the place of the first one with its tag, or last. -/
def ensureSystemOutbound {ω : Type} (tag : ω → String) (system : ω) : List ω → List ω
  | [] => [system]
  | outbound :: rest =>
      if tag outbound = tag system then system :: rest
      else outbound :: ensureSystemOutbound tag system rest

/-- `splitRuleValues`, which both generators define alike. -/
def splitRuleValues (value : String) : List String :=
  ((fieldsFunc value fun rune => rune == ',' || rune == '\n' || rune == '\r' || rune == '\t').map
    trimSpace).filter fun part => part != ""

end MiGate.Config
