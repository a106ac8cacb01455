import ConfigWatch.Text.Quoted
import ConfigWatch.Value.Basic

/-!
# The text of a value

Two written forms. `toText` is the form shown to readers: strings quoted, bytes in hexadecimal,
sequences in brackets and maps in braces, their parts separated by a comma and a blank.
`debugText` also names the kind of every value.
-/

set_option autoImplicit false

namespace ConfigWatch.Value

def separated : List (List Char) → List Char
  | [] => []
  | [part] => part
  | part :: rest => part ++ ',' :: ' ' :: separated rest

/-- The bytes of a string of bytes as hexadecimal digits after `0x`. -/
def bytesChars (content : Bytes) : List Char := '0' :: 'x' :: Hex.chars content

def boolChars (truth : Bool) : List Char := if truth then "true".toList else "false".toList

def intChars (number : Int64) : List Char := (toString number.toInt).toList

mutual

def chars : Value → List Char
  | .undefined => "undefined".toList
  | .null => "null".toList
  | .text content => Quoted.chars content
  | .bytes content => bytesChars content
  | .int number => intChars number
  | .double number => number.chars
  | .bool truth => boolChars truth
  | .sequence items => '[' :: (separated (itemsChars items) ++ [']'])
  | .map entries => '\x7b' :: (separated (entriesChars entries) ++ ['\x7d'])

def itemsChars : List Value → List (List Char)
  | [] => []
  | item :: rest => chars item :: itemsChars rest

/-- The texts of entries: the quoted key, a colon, a blank and the value. -/
def entriesChars : List (String × Value) → List (List Char)
  | [] => []
  | (key, value) :: rest => (Quoted.chars key ++ ':' :: ' ' :: chars value) :: entriesChars rest

end

def toText (value : Value) : String := String.ofList value.chars

mutual

def debugChars : Value → List Char
  | .undefined => "Undefined".toList
  | .null => "Null".toList
  | .text content => "Str(".toList ++ Quoted.chars content ++ [')']
  | .bytes content =>
    "Bin([".toList ++ separated (content.map (fun byte => Nat.toDigits 10 byte.toNat)) ++
      "])".toList
  | .int number => "Int(".toList ++ intChars number ++ [')']
  | .double number => "Double(".toList ++ number.debugChars ++ [')']
  | .bool truth => "Bool(".toList ++ boolChars truth ++ [')']
  | .sequence items => "Sequence([".toList ++ separated (itemsDebug items) ++ "])".toList
  | .map entries => "Map(\x7b".toList ++ separated (entriesDebug entries) ++ "\x7d)".toList

def itemsDebug : List Value → List (List Char)
  | [] => []
  | item :: rest => debugChars item :: itemsDebug rest

def entriesDebug : List (String × Value) → List (List Char)
  | [] => []
  | (key, value) :: rest =>
    (Quoted.chars key ++ ':' :: ' ' :: debugChars value) :: entriesDebug rest

end

def debugText (value : Value) : String := String.ofList value.debugChars

end ConfigWatch.Value
