import ConfigWatch.Text.Hex

/-!
# Strings and keys of settings files

The pieces of text in a settings file: blanks, comments and ends of lines, strings in their four
forms, and keys. Every reader gives what it read and the characters left.
-/

set_option autoImplicit false

namespace ConfigWatch.Toml

def isBlank (c : Char) : Bool := c == ' ' || c == '\t'

def skipBlanks (chars : List Char) : List Char := chars.dropWhile isBlank

/-- Characters that may stand for themselves: tabs, and all but the control characters of
ASCII. -/
def isPlain (c : Char) : Bool := c == '\t' || (' ' ≤ c && c != '\x7f')

def lineEnd? : List Char → Option (List Char)
  | '\n' :: rest => some rest
  | '\r' :: '\n' :: rest => some rest
  | _ => none

def skipLines : List Char → List Char
  | '\r' :: '\n' :: rest => skipLines rest
  | c :: rest => if isBlank c || c == '\n' then skipLines rest else c :: rest
  | [] => []

/-- Skips a comment up to the end of its line, when there is one. -/
def skipComment : List Char → List Char
  | '#' :: rest => rest.dropWhile isPlain
  | chars => chars

/-- Reads what may follow the content of a line: blanks, a comment and the end. -/
def closeLine? (chars : List Char) : Option (List Char) :=
  match skipComment (skipBlanks chars) with
  | [] => some []
  | rest => lineEnd? rest

/-- Skips blanks, ends of lines and comments; `fuel` bounds the number of comments. -/
def skipTrivia : (fuel : Nat) → List Char → Option (List Char)
  | 0, chars => some chars
  | fuel + 1, chars =>
    match skipLines chars with
    | '#' :: rest => do
      let rest ← lineEnd? (skipComment ('#' :: rest))
      skipTrivia fuel rest
    | rest => some rest

/-- The character of a code number, unless it is a surrogate or out of range. -/
def scalar? (code : Nat) : Option Char :=
  if code < 0xd800 ∨ (0xdfff < code ∧ code < 0x110000) then some (Char.ofNat code) else none

/-- Reads a character from as many hexadecimal digits as are given. -/
def readScalar (digits : Nat) (chars : List Char) : Option (Char × List Char) := do
  if chars.length < digits then none
  let values ← (chars.take digits).mapM Hex.digitValue?
  let c ← scalar? (values.foldl (fun total value => total * 16 + value) 0)
  return (c, chars.drop digits)

def readEscape : List Char → Option (Char × List Char)
  | 'b' :: rest => some ('\x08', rest)
  | 't' :: rest => some ('\t', rest)
  | 'n' :: rest => some ('\n', rest)
  | 'f' :: rest => some ('\x0c', rest)
  | 'r' :: rest => some ('\r', rest)
  | '"' :: rest => some ('"', rest)
  | '\\' :: rest => some ('\\', rest)
  | 'u' :: rest => readScalar 4 rest
  | 'U' :: rest => readScalar 8 rest
  | _ => none

/-- Reads a string with escapes on one line, after its opening quote. -/
def readBasic : (fuel : Nat) → List Char → Option (List Char × List Char)
  | 0, _ => none
  | _ + 1, [] => none
  | _ + 1, '"' :: rest => some ([], rest)
  | fuel + 1, '\\' :: rest => do
    let (c, rest) ← readEscape rest
    let (content, rest) ← readBasic fuel rest
    return (c :: content, rest)
  | fuel + 1, c :: rest =>
    if isPlain c then do
      let (content, rest) ← readBasic fuel rest
      return (c :: content, rest)
    else none

/-- Reads the closing quotes of a string of several lines. Up to two quotes before the closing
three belong to the string. -/
def closeQuotes (quote : Char) (chars : List Char) : Option (List Char × List Char) :=
  let count := min 5 (chars.takeWhile (· == quote)).length
  if count < 3 then none else some (List.replicate (count - 3) quote, chars.drop count)

/-- Reads a string with escapes over several lines, after its opening quotes. A backslash at the
end of a line takes the blanks and ends of lines after it away. -/
def readBasicLines : (fuel : Nat) → List Char → Option (List Char × List Char)
  | 0, _ => none
  | fuel + 1, chars =>
    match closeQuotes '"' chars with
    | some closed => some closed
    | none =>
      match chars with
      | [] => none
      | '\\' :: rest =>
        match readEscape rest with
        | some (c, rest) => (readBasicLines fuel rest).map (fun read => (c :: read.1, read.2))
        | none => do
          let rest ← lineEnd? (skipBlanks rest)
          readBasicLines fuel (skipLines rest)
      | c :: rest =>
        match lineEnd? chars with
        | some rest => (readBasicLines fuel rest).map (fun read => ('\n' :: read.1, read.2))
        | none =>
          if isPlain c then (readBasicLines fuel rest).map (fun read => (c :: read.1, read.2))
          else none

/-- Reads a string without escapes on one line, after its opening quote. -/
def readLiteral : List Char → Option (List Char × List Char)
  | [] => none
  | '\'' :: rest => some ([], rest)
  | c :: rest =>
    if isPlain c then (readLiteral rest).map (fun read => (c :: read.1, read.2)) else none

/-- Reads a string without escapes over several lines, after its opening quotes. -/
def readLiteralLines : (fuel : Nat) → List Char → Option (List Char × List Char)
  | 0, _ => none
  | fuel + 1, chars =>
    match closeQuotes '\'' chars, lineEnd? chars, chars with
    | some closed, _, _ => some closed
    | none, some rest, _ =>
      (readLiteralLines fuel rest).map (fun read => ('\n' :: read.1, read.2))
    | none, none, c :: rest =>
      if isPlain c then (readLiteralLines fuel rest).map (fun read => (c :: read.1, read.2))
      else none
    | none, none, [] => none

/-- Skips the end of the line directly after the opening quotes. -/
def skipFirstEnd (chars : List Char) : List Char := (lineEnd? chars).getD chars

def readString : List Char → Option (List Char × List Char)
  | '"' :: '"' :: '"' :: rest => readBasicLines (rest.length + 1) (skipFirstEnd rest)
  | '\'' :: '\'' :: '\'' :: rest => readLiteralLines (rest.length + 1) (skipFirstEnd rest)
  | '"' :: rest => readBasic (rest.length + 1) rest
  | '\'' :: rest => readLiteral rest
  | _ => none

def isKeyChar (c : Char) : Bool :=
  ('a' ≤ c && c ≤ 'z') || ('A' ≤ c && c ≤ 'Z') || ('0' ≤ c && c ≤ '9') || c == '_' || c == '-'

def readKeyPart (chars : List Char) : Option (String × List Char) :=
  match chars with
  | '"' :: rest =>
    (readBasic (rest.length + 1) rest).map (fun read => (String.ofList read.1, read.2))
  | '\'' :: rest => (readLiteral rest).map (fun read => (String.ofList read.1, read.2))
  | _ =>
    let (name, rest) := chars.span isKeyChar
    if name = [] then none else some (String.ofList name, rest)

/-- Reads a key of one or more parts between points, and the blanks after it. `fuel` bounds the
number of parts. -/
def readKeyParts : (fuel : Nat) → List Char → Option (List String × List Char)
  | 0, _ => none
  | fuel + 1, chars => do
    let (part, rest) ← readKeyPart (skipBlanks chars)
    match skipBlanks rest with
    | '.' :: rest => do
      let (parts, rest) ← readKeyParts fuel rest
      return (part :: parts, rest)
    | rest => return ([part], rest)

/-- How deep values may nest and how many parts a key may have. -/
def nestingLimit : Nat := 79

/-- Reads a key, as the parts before the last and the last one. -/
def readKey (chars : List Char) : Option (List String × String × List Char) := do
  let (parts, rest) ← readKeyParts nestingLimit chars
  let last ← parts.getLast?
  return (parts.dropLast, last, rest)

end ConfigWatch.Toml
