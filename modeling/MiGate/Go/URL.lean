import MiGate.Go.Bytes
import MiGate.Fallible.Except

namespace MiGate.Go

open Fallible

/-! What the program uses of `net/url`. -/

/-- What `unescape` is told about the part of a URL it works on. -/
inductive Encoding where
  | path
  | userPassword
  | host
  | zone
  | queryComponent
  | fragment
deriving DecidableEq

def hexValue (rune : Char) : Option Nat :=
  if '0' ≤ rune ∧ rune ≤ '9' then some (rune.toNat - 48)
  else if 'a' ≤ rune ∧ rune ≤ 'f' then some (rune.toNat - 87)
  else if 'A' ≤ rune ∧ rune ≤ 'F' then some (rune.toNat - 55)
  else none

/-- The ASCII characters `shouldEscape` lets stand in a host. -/
def hostAllows (rune : Char) : Bool :=
  rune.isAlphanum || ['-', '_', '.', '~', '!', '$', '&', '\'', '(', ')', '*', '+', ',', ';', '=', ':', '[', ']', '<',
    '>', doubleQuote].contains rune

def escapeError (runes : List Char) : String :=
  "invalid URL escape " ++ quote (String.ofList (runes.take 3))

/-- The bytes that an escaped text stands for, or the error of the first part that is not allowed. -/
def unescapeBytes (mode : Encoding) : List Char → Except String (List UInt8)
  | [] => .ok []
  | '%' :: high :: low :: rest =>
      match hexValue high, hexValue low with
      | some first, some second =>
          let byte := first * 16 + second
          if mode = .host ∧ first < 8 ∧ byte ≠ 0x25 then .error (escapeError ['%', high, low])
          else if mode = .zone ∧ byte ≠ 0x25 ∧ byte ≠ 0x20 ∧ !hostAllows (Char.ofNat byte) then
            .error (escapeError ['%', high, low])
          else (unescapeBytes mode rest).map (UInt8.ofNat byte :: ·)
      | _, _ => .error (escapeError ('%' :: high :: low :: rest))
  | '%' :: rest => .error (escapeError ('%' :: rest))
  | rune :: rest =>
      if rune = '+' ∧ mode = .queryComponent then (unescapeBytes mode rest).map (0x20 :: ·)
      else if (mode = .host ∨ mode = .zone) ∧ rune.toNat < 0x80 ∧ !hostAllows rune then
        .error ("invalid character " ++ quote (String.ofList [rune]) ++ " in host name")
      else (unescapeBytes mode rest).map (String.utf8EncodeChar rune ++ ·)

def unescape (mode : Encoding) (text : String) : Except String String :=
  (unescapeBytes mode text.toList).map stringOfBytes

/-- `url.QueryUnescape`. -/
def queryUnescape (text : String) : Except String String :=
  unescape .queryComponent text

/-- A user part: a name, and a password if there is one. -/
structure Userinfo where
  username : String
  password : Option String
deriving DecidableEq, Repr

/-- The parts of a parsed URL that the program reads. -/
structure URL where
  user : Option Userinfo
  host : String
  rawQuery : String
  fragment : String
deriving DecidableEq, Repr

/-- `getScheme`: the scheme, empty if there is none, and what follows it. -/
def getScheme (url : String) : Except String (String × String) :=
  let runes := url.toList
  let lead := runes.takeWhile fun rune => rune.isAlphanum || ['+', '-', '.'].contains rune
  match lead, runes.drop lead.length with
  | [], ':' :: _ => .error "missing protocol scheme"
  | first :: _, ':' :: rest =>
      if first.isAlpha then .ok (String.ofList lead, String.ofList rest) else .ok ("", url)
  | _, _ => .ok ("", url)

/-- `validOptionalPort`: nothing, or a colon and digits. -/
def validOptionalPort (port : String) : Bool :=
  match port.toList with
  | [] => true
  | ':' :: digits => digits.all Char.isDigit
  | _ => false

/-- What stands before the last occurrence of a rune, and the text from there on. -/
def cutLast (text : String) (separator : Char) : Option (String × String) :=
  let runes := text.toList.reverse
  if runes.contains separator then
    let tail := runes.takeWhile (· != separator)
    some (String.ofList (runes.drop (tail.length + 1)).reverse, String.ofList (separator :: tail.reverse))
  else none

def invalidPort (port : String) : String :=
  "invalid port " ++ quote port ++ " after host"

/-- What stands before the first occurrence of a part, and the text from there on. -/
def cutAtPart (part : List Char) : List Char → Option (List Char × List Char)
  | [] => none
  | rune :: rest =>
      if part.isPrefixOf (rune :: rest) then some ([], rune :: rest)
      else (cutAtPart part rest).map fun (before, after) => (rune :: before, after)

/-- An address in brackets may end in a zone, which is escaped in a way of its own. -/
def parseBracketedHost (inside port : String) : Except String String := do
  require (validOptionalPort port) (invalidPort port)
  match cutAtPart ['%', '2', '5'] inside.toList with
  | some (address, zone) =>
      let first ← unescape .host (String.ofList address)
      let second ← unescape .zone (String.ofList zone)
      let third ← unescape .host ("]" ++ port)
      pure (first ++ second ++ third)
  | none => unescape .host (inside ++ "]" ++ port)

def parseHost (host : String) : Except String String :=
  if hasPrefix host "[" then
    match cutLast host ']' with
    | none => .error "missing ']' in host"
    | some (inside, rest) => parseBracketedHost inside (String.ofList (rest.toList.drop 1))
  else do
    match cutLast host ':' with
    | some (_, port) => require (validOptionalPort port) (invalidPort port)
    | none => pure ()
    unescape .host host

def validUserinfo (text : String) : Bool :=
  text.toList.all fun rune => rune.isAlphanum ||
    ['-', '.', '_', ':', '~', '!', '$', '&', '\'', '(', ')', '*', '+', ',', ';', '=', '%', '@'].contains rune

def parseUserinfo (userinfo : String) : Except String Userinfo := do
  require (validUserinfo userinfo) "net/url: invalid userinfo"
  match cut userinfo ':' with
  | (username, none) => pure ⟨← unescape .userPassword username, none⟩
  | (username, some password) =>
      pure ⟨← unescape .userPassword username, some (← unescape .userPassword password)⟩

def parseAuthority (authority : String) : Except String (Option Userinfo × String) :=
  match cutLast authority '@' with
  | none => do pure (none, ← parseHost authority)
  | some (userinfo, rest) => do
      let host ← parseHost (String.ofList (rest.toList.drop 1))
      let user ← parseUserinfo userinfo
      pure (some user, host)

/-- What `url.Parse` does with the text before the fragment. -/
def parseWithoutFragment (text : String) : Except String URL := do
  require (!text.toList.any fun rune => rune.toNat < 0x20 || rune.toNat == 0x7F)
    "net/url: invalid control character in URL"
  let (scheme, rest) ← getScheme text
  let (rest, query) := cut rest '?'
  if !hasPrefix rest "/" && scheme != "" then pure ⟨none, "", query.getD "", ""⟩
  else do
    require (hasPrefix rest "/" || !contains (cut rest '/').1 ":") "first path segment in URL cannot contain colon"
    if hasPrefix rest "//" && (scheme != "" || !hasPrefix rest "///") then
      let (authority, path) := cut (String.ofList (rest.toList.drop 2)) '/'
      let (user, host) ← parseAuthority authority
      let _ ← unescape .path (path.getD "")
      pure ⟨user, host, query.getD "", ""⟩
    else do
      let _ ← unescape .path rest
      pure ⟨none, "", query.getD "", ""⟩

def urlError (text : String) (reason : String) : String :=
  "parse " ++ quote text ++ ": " ++ reason

/-- `url.Parse`. -/
def parseURL (text : String) : Except String URL :=
  let (before, fragment) := cut text '#'
  match parseWithoutFragment before with
  | .error reason => .error (urlError before reason)
  | .ok url =>
      match unescape .fragment (fragment.getD "") with
      | .error reason => .error (urlError text reason)
      | .ok fragment => .ok { url with fragment }

/-- The host and the port a `Host` holds, the brackets of an address left out. -/
def splitHostPort (hostPort : String) : String × String :=
  let (host, port) :=
    match cutLast hostPort ':' with
    | some (host, port) =>
        if validOptionalPort port then (host, String.ofList (port.toList.drop 1)) else (hostPort, "")
    | none => (hostPort, "")
  if hasPrefix host "[" && host.toList.getLast? == some ']' then
    (String.ofList ((host.toList.drop 1).dropLast), port)
  else (host, port)

def URL.hostname (url : URL) : String :=
  (splitHostPort url.host).1

def URL.port (url : URL) : String :=
  (splitHostPort url.host).2

/-- `User.Username()`, empty where there is no user part. -/
def URL.username (url : URL) : String :=
  (url.user.map Userinfo.username).getD ""

/-- `User.Password()`, empty where none is given. -/
def URL.password (url : URL) : String :=
  (url.user.bind Userinfo.password).getD ""

/-- `url.Values`: what is written under the keys, in order. -/
def Values : Type := List (String × String)

/-- `Query`: the pairs of a query that can be read. -/
def URL.query (url : URL) : Values :=
  (splitOn url.rawQuery '&').filterMap fun pair =>
    if pair = "" ∨ pair.toList.contains ';' then none
    else
      let (key, value) := cut pair '='
      match queryUnescape key, queryUnescape (value.getD "") with
      | .ok key, .ok value => some (key, value)
      | _, _ => none

/-- The first value under a key. -/
def Values.get (values : Values) (key : String) : String :=
  ((values.find? fun pair => pair.1 == key).map Prod.snd).getD ""

/-- `strconv.Atoi` of a port, which is empty or consists of digits. -/
def portNumber (port : String) : Int :=
  port.toList.foldl (fun value rune => value * 10 + (rune.toNat - 48 : Nat)) (0 : Int)

end MiGate.Go
