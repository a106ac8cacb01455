import ConfigWatch.Toml.Scalar
import ConfigWatch.Toml.Tree

/-!
# Settings files

Reads a settings file: lines with a key and a value, under headers that open tables and tables of
lists. A file with a mistake in it gives nothing at all.
-/

set_option autoImplicit false

namespace ConfigWatch.Toml

mutual

/-- Reads a value. `depth` more levels of lists and tables may nest in it; `fuel` bounds the
number of steps. -/
def readValue : (fuel depth : Nat) → List Char → Option (Setting × List Char)
  | 0, _, _ => none
  | fuel + 1, depth, '[' :: rest => if depth = 0 then none else readItems fuel (depth - 1) [] rest
  | fuel + 1, depth, '\x7b' :: rest =>
    if depth = 0 then none
    else
      match skipBlanks rest with
      | '\x7d' :: rest => some (.table [], rest)
      | rest => readPairs fuel (depth - 1) [] rest
  | _ + 1, _, chars =>
    match chars with
    | '"' :: _ | '\'' :: _ =>
      (readString chars).map (fun read => (.text (String.ofList read.1), read.2))
    | _ => readScalarValue chars

/-- Reads the items of a list after those read before, up to the closing bracket. -/
def readItems : (fuel depth : Nat) → List Setting → List Char → Option (Setting × List Char)
  | 0, _, _, _ => none
  | fuel + 1, depth, items, chars => do
    match ← skipTrivia chars.length chars with
    | ']' :: rest => return (.list items, rest)
    | chars =>
      let (item, rest) ← readValue fuel depth chars
      match ← skipTrivia rest.length rest with
      | ',' :: rest => readItems fuel depth (items ++ [item]) rest
      | ']' :: rest => return (.list (items ++ [item]), rest)
      | _ => none

/-- Reads the pairs of a table on one line after those read before, up to the closing brace. -/
def readPairs : (fuel depth : Nat) → Entries → List Char → Option (Setting × List Char)
  | 0, _, _, _ => none
  | fuel + 1, depth, entries, chars => do
    let (path, key, rest) ← readKey chars
    let rest ← readMark '=' rest
    let (setting, rest) ← readValue fuel depth (skipBlanks rest)
    let entries ← Entries.addDotted setting key true path entries
    match skipBlanks rest with
    | ',' :: rest => readPairs fuel depth entries rest
    | '\x7d' :: rest => return (.table (Entries.toSettings entries), rest)
    | _ => none

end

/-- Reads a line with a key and a value into the table at a path. -/
def readPair (path : List String) (entries : Entries) (chars : List Char) :
    Option (Entries × List Char) := do
  let (parts, key, rest) ← readKey chars
  let rest ← readMark '=' rest
  let (setting, rest) ← readValue (2 * rest.length + 1) nestingLimit (skipBlanks rest)
  let entries ← Entries.changeAt (Entries.addDotted setting key true parts) path entries
  return (entries, rest)

/-- Reads a header after its opening brackets, and opens its table or the next one of its list. -/
def readHeader (inList : Bool) (entries : Entries) (chars : List Char) :
    Option (List String × Entries × List Char) := do
  let (path, key, rest) ← readKey chars
  let rest ← readMark ']' rest
  let rest ← if inList then readMark ']' rest else some rest
  let opened := if inList then Entries.openElement key else Entries.openTable key
  let entries ← Entries.changeAt opened path entries
  return (path ++ [key], entries, rest)

/-- Reads the lines of a file into the table at a path, up to the end. `fuel` bounds the number
of lines. -/
def readLines : (fuel : Nat) → List String → Entries → List Char → Option Entries
  | 0, _, _, _ => none
  | fuel + 1, path, entries, chars =>
    match skipLines chars with
    | [] => some entries
    | '#' :: rest => do
      let rest ← closeLine? ('#' :: rest)
      readLines fuel path entries rest
    | '[' :: '[' :: rest => do
      let (path, entries, rest) ← readHeader true entries rest
      let rest ← closeLine? rest
      readLines fuel path entries rest
    | '[' :: rest => do
      let (path, entries, rest) ← readHeader false entries rest
      let rest ← closeLine? rest
      readLines fuel path entries rest
    | chars => do
      let (entries, rest) ← readPair path entries chars
      let rest ← closeLine? rest
      readLines fuel path entries rest

/-- The settings of a file. A byte order mark may stand in front. -/
def parse (content : String) : Option (List (String × Setting)) :=
  let chars := match content.toList with
    | '\ufeff' :: rest => rest
    | chars => chars
  (readLines (chars.length + 1) [] [] chars).map Entries.toSettings

end ConfigWatch.Toml
