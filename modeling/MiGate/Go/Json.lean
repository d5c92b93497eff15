import MiGate.Web.SessionTokens

namespace MiGate.Go

open Fallible MiGate.Web

/-! What `json.Unmarshal` makes of the values of a document, which is held as a tree: the text of a
value and the value are not told apart. -/

inductive JsonValue where
  | null
  | bool (value : Bool)
  | number (literal : String)
  | string (value : String)
  | array (items : List JsonValue)
  | object (fields : List (String × JsonValue))

/-- How an `UnmarshalTypeError` calls a value. -/
def JsonValue.kind : JsonValue → String
  | .null => "null"
  | .bool _ => "bool"
  | .number _ => "number"
  | .string _ => "string"
  | .array _ => "array"
  | .object _ => "object"

def unmarshalTypeError (value field goType : String) : String :=
  "json: cannot unmarshal " ++ value ++ " into Go struct field " ++ field ++ " of type " ++ goType

/-- A `null` leaves what is there. -/
def decodeString (field old : String) : JsonValue → Except String String
  | .null => .ok old
  | .string value => .ok value
  | value => .error (unmarshalTypeError value.kind field "string")

def decodeBool (field : String) (old : Bool) : JsonValue → Except String Bool
  | .null => .ok old
  | .bool value => .ok value
  | value => .error (unmarshalTypeError value.kind field "bool")

/-- A number that is no integer of 64 bits is refused. -/
def decodeInt (field : String) (old : Int) : JsonValue → Except String Int
  | .null => .ok old
  | .number literal =>
      match parseInt64 (utf8 literal) with
      | some value => .ok value
      | none => .error (unmarshalTypeError ("number " ++ literal) field "int")
  | value => .error (unmarshalTypeError value.kind field "int")

/-- A slice, whose items are decoded into zero values. -/
def decodeSlice {α : Type} (field goType : String) (decode : JsonValue → Except String α) : JsonValue → Except String (List α)
  | .null => .ok []
  | .array items => items.mapM decode
  | value => .error (unmarshalTypeError value.kind field goType)

/-- How a letter of a key is read where the case does not matter: beyond ASCII, the long s and the
sign for kelvins count as letters. -/
def foldRune (rune : Char) : Char :=
  if rune.toNat = 0x17F then 's' else if rune.toNat = 0x212A then 'k' else rune.toLower

def foldName (name : String) : String :=
  String.ofList (name.toList.map foldRune)

/-- The keys of a document that is decoded into a map, with their values in order. -/
def documentFields : JsonValue → Except String (List (String × JsonValue))
  | .null => .ok []
  | .object fields => .ok fields
  | value => .error ("json: cannot unmarshal " ++ value.kind ++ " into Go value of type map[string]json.RawMessage")

end MiGate.Go
