import ConfigWatch.Text.Escapes
import ConfigWatch.Text.Hex

/-!
# Quoted text

A string between double quotes. A quote and a backslash inside it are preceded by a backslash;
the tab, the line breaks and the null character have short escapes; every other character that
cannot be shown is written by its code point between braces.
-/

set_option autoImplicit false

namespace ConfigWatch.Quoted

def escape (c : Char) : List Char :=
  if c = '"' then ['\\', '"']
  else if c = '\\' then ['\\', '\\']
  else if c = '\t' then ['\\', 't']
  else if c = '\n' then ['\\', 'n']
  else if c = '\r' then ['\\', 'r']
  else if c = '\x00' then ['\\', '0']
  else if Escapes.byCode c then ['\\', 'u', '\x7b'] ++ Hex.numeral c.toNat ++ ['\x7d']
  else [c]

def chars (text : String) : List Char := '"' :: (text.toList.flatMap escape ++ ['"'])

def quote (text : String) : String := String.ofList (chars text)

end ConfigWatch.Quoted
