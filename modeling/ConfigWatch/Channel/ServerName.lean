import ConfigWatch.Channel.Address
import ConfigWatch.Decimal.Numeral

/-!
# Names of servers

Which names an encrypted channel may check the server against: names of hosts, whose last label
is not a number, and internet addresses of either version.
-/

set_option autoImplicit false

namespace ConfigWatch.ServerName

open Address

def splitAt (separator : UInt8) : Bytes → List Bytes
  | [] => [[]]
  | byte :: rest =>
    if byte = separator then [] :: splitAt separator rest
    else
      match splitAt separator rest with
      | [] => [[byte]]
      | part :: parts => (byte :: part) :: parts

/-- Whether bytes are a label of a name: letters, digits, underscores, and hyphens inside. -/
def isLabel (label : Bytes) : Bool :=
  let isWordByte (byte : UInt8) : Bool := isLetter byte || isDigit byte || byte == ascii '_'
  label != [] && label.length ≤ 63 &&
    label.all (fun byte => isWordByte byte || byte == ascii '-') &&
    label.head?.any isWordByte && label.getLast?.any isWordByte

/-- Whether bytes are the name of a host. A point may stand at the end. -/
def isHostName (bytes : Bytes) : Bool :=
  let labels := splitAt (ascii '.') bytes
  let labels := if labels.getLast? = some [] then labels.dropLast else labels
  bytes.length ≤ 253 && labels != [] && labels.all isLabel &&
    labels.getLast?.any (fun label => !label.all isDigit)

def charsOf (bytes : Bytes) : List Char := bytes.map (fun byte => Char.ofNat byte.toNat)

/-- Whether bytes are one of the four numbers of an address, without zeros in front. -/
def isOctet (bytes : Bytes) : Bool :=
  match Numeral.natural? (charsOf bytes) with
  | none => false
  | some number =>
    bytes.length ≤ 3 && number ≤ 255 && (bytes.length == 1 || bytes.head? != some (ascii '0'))

def isFourNumbers (bytes : Bytes) : Bool :=
  let parts := splitAt (ascii '.') bytes
  parts.length == 4 && parts.all isOctet

/-- Whether bytes are one of the groups of a long address. -/
def isGroup (bytes : Bytes) : Bool :=
  bytes != [] && bytes.length ≤ 4 && (charsOf bytes).all (fun c => (Hex.digitValue? c).isSome)

/-- The number of groups that a part of a long address has; the last two may be written as four
numbers when `fourNumbers` says so. -/
def groupCount? (fourNumbers : Bool) (bytes : Bytes) : Option Nat :=
  if bytes = [] then some 0
  else
    let parts := splitAt (ascii ':') bytes
    let last := parts.getLast?.getD []
    if parts.all isGroup then some parts.length
    else if fourNumbers && parts.dropLast.all isGroup && isFourNumbers last then
      some (parts.length + 1)
    else none

def splitPair : Bytes → Option (Bytes × Bytes)
  | first :: second :: rest =>
    if first = ascii ':' ∧ second = ascii ':' then some ([], rest)
    else (splitPair (second :: rest)).map (fun parts => (first :: parts.1, parts.2))
  | _ => none

/-- Whether bytes are a long address: eight groups, or fewer with a pair of colons for the ones
left out. -/
def isLongAddress (bytes : Bytes) : Bool :=
  match splitPair bytes with
  | none => groupCount? true bytes == some 8
  | some (left, right) =>
    match groupCount? false left, groupCount? true right with
    | some before, some after => before + after ≤ 7
    | _, _ => false

/-- Whether bytes are a name that a server can be checked against. -/
def isValid (bytes : Bytes) : Bool := isHostName bytes || isFourNumbers bytes || isLongAddress bytes

end ConfigWatch.ServerName
