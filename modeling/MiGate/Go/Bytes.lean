import MiGate.Go.Encoding

namespace MiGate.Go

/-! Bytes read as text, and the decodings of `encoding/base64`. -/

/-- What an invalid byte is read as. -/
def runeError : Char := Char.ofNat 0xFFFD

def isTail (byte : UInt8) : Bool :=
  0x80 ≤ byte && byte ≤ 0xBF

def tailBits (byte : UInt8) : Nat :=
  byte.toNat % 64

/-- The runes of a string that holds these bytes.  As with `utf8.DecodeRune`, a byte that
begins no valid encoding counts as a rune of its own. -/
def decodeRunes : List UInt8 → List Char
  | [] => []
  | first :: tail =>
      if first < 0x80 then Char.ofNat first.toNat :: decodeRunes tail
      else
        match tail with
        | [] => [runeError]
        | second :: tail2 =>
            let pair := first.toNat % 32 * 64 + tailBits second
            if 0xC2 ≤ first && first ≤ 0xDF && isTail second then Char.ofNat pair :: decodeRunes tail2
            else
              match tail2 with
              | [] => runeError :: decodeRunes [second]
              | third :: tail3 =>
                  let triple := (first.toNat % 16 * 64 + tailBits second) * 64 + tailBits third
                  if 0xE0 ≤ first && first ≤ 0xEF && isTail second && isTail third && 0x800 ≤ triple &&
                      !(0xD800 ≤ triple && triple ≤ 0xDFFF) then Char.ofNat triple :: decodeRunes tail3
                  else
                    match tail3 with
                    | [] => runeError :: decodeRunes [second, third]
                    | fourth :: tail4 =>
                        let quad :=
                          ((first.toNat % 8 * 64 + tailBits second) * 64 + tailBits third) * 64 + tailBits fourth
                        if 0xF0 ≤ first && first ≤ 0xF4 && isTail second && isTail third && isTail fourth &&
                            0x10000 ≤ quad && quad ≤ 0x10FFFF then Char.ofNat quad :: decodeRunes tail4
                        else runeError :: decodeRunes (second :: third :: fourth :: tail4)

/-- `string(bytes)`. -/
def stringOfBytes (bytes : List UInt8) : String :=
  String.ofList (decodeRunes bytes)

/-- The bytes of a string. -/
def bytesOfString (text : String) : List UInt8 :=
  text.toList.flatMap String.utf8EncodeChar

def decodeBase64Letters (alphabet letters : List Char) : Option (List UInt8) :=
  (letters.mapM fun rune => alphabet.idxOf? rune).bind joinSextets

/-- `base64.StdEncoding.DecodeString`, of a text without line breaks: its length is a multiple of
four, and at most two letters of it are padding. -/
def decodeBase64Std (text : String) : Option (List UInt8) :=
  let letters := text.toList.rdropWhile (· == '=')
  let padding := text.toList.length - letters.length
  if text.toList.length % 4 = 0 ∧ padding ≤ 2 then decodeBase64Letters base64StdAlphabet letters else none

/-- `base64.RawStdEncoding.DecodeString`, of a text without line breaks. -/
def decodeBase64RawStd (text : String) : Option (List UInt8) :=
  decodeBase64Letters base64StdAlphabet text.toList

/-- `strings.TrimRight(text, "=")`. -/
def trimPadding (text : String) : String :=
  String.ofList (text.toList.rdropWhile (· == '='))

/-- What stands before and after the first occurrence of a rune, as `strings.Cut` has it. -/
def cut (text : String) (separator : Char) : String × Option String :=
  let runes := text.toList
  if runes.contains separator then
    (String.ofList (runes.takeWhile (· != separator)),
      some (String.ofList ((runes.dropWhile (· != separator)).drop 1)))
  else (text, none)

example : decodeRunes [0x61, 0xE4, 0xB8, 0xAD, 0xFF, 0xED, 0xA0, 0x80] =
    ['a', '中', runeError, runeError, runeError, runeError] := by decide

example : (decodeBase64Std "YWVzOnBhc3M=").map stringOfBytes = some "aes:pass" := by decide

end MiGate.Go
