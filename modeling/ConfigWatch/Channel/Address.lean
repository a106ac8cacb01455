import ConfigWatch.Text.Utf8

/-!
# Addresses

Which strings are addresses of an endpoint: an authority by itself, a path by itself, or a scheme,
an authority and perhaps a path with a query. Addresses are looked at byte by byte.
-/

set_option autoImplicit false

namespace ConfigWatch

/-- The parts of an address that matter: its authority, when it has one. -/
structure Address where
  authority : Option Bytes
deriving DecidableEq

namespace Address

def ascii (c : Char) : UInt8 := UInt8.ofNat c.toNat

def isLetter (byte : UInt8) : Bool :=
  (ascii 'a' ≤ byte && byte ≤ ascii 'z') || (ascii 'A' ≤ byte && byte ≤ ascii 'Z')

def isDigit (byte : UInt8) : Bool := ascii '0' ≤ byte && byte ≤ ascii '9'

def isAmong (characters : String) (byte : UInt8) : Bool :=
  (characters.toList.map ascii).contains byte

def maxLength : Nat := 65534

def maxSchemeLength : Nat := 64

def isSchemeByte (byte : UInt8) : Bool := isLetter byte || isDigit byte || isAmong "+-." byte

/-- Bytes that may stand in an authority, apart from the percent sign. -/
def isAuthorityByte (byte : UInt8) : Bool :=
  isLetter byte || isDigit byte || isAmong "!$&'()*+,-.:;=@[]_~" byte

def endsAuthority (byte : UInt8) : Bool := isAmong "/?#" byte

/-- What a reader of an authority has seen since the last part that it may forget. -/
structure AuthorityState where
  colons : Nat := 0
  opened : Bool := false
  closed : Bool := false
  percent : Bool := false

/-- Takes one byte of an authority into account. What stands in front of an at sign or between
brackets has colons and percent signs of its own. -/
def AuthorityState.step (state : AuthorityState) (byte : UInt8) : Option AuthorityState :=
  if byte = ascii ':' then
    if 8 ≤ state.colons then none else some { state with colons := state.colons + 1 }
  else if byte = ascii '[' then
    if state.percent || state.opened then none else some { state with opened := true }
  else if byte = ascii ']' then
    if !state.opened || state.closed then none
    else some { state with closed := true, colons := 0, percent := false }
  else if byte = ascii '@' then some { state with colons := 0, percent := false }
  else if byte = ascii '%' then some { state with percent := true }
  else if isAuthorityByte byte then some state
  else none

def isAuthority (bytes : Bytes) : Bool :=
  match bytes.foldlM AuthorityState.step {} with
  | none => false
  | some state =>
    state.opened == state.closed && state.colons ≤ 1 && bytes.getLast? != some (ascii '@') &&
      !state.percent

/-- The scheme in front of an address, and the rest of it after the mark of a scheme. A string
that only seems to start with a scheme has none; one with a scheme that is too long is refused. -/
def splitScheme (bytes : Bytes) : Option (Option Bytes × Bytes) :=
  let (scheme, rest) := bytes.span isSchemeByte
  match rest with
  | colon :: first :: second :: rest =>
    if colon = ascii ':' ∧ first = ascii '/' ∧ second = ascii '/' then
      if maxSchemeLength < scheme.length then none else some (some scheme, rest)
    else some (none, bytes)
  | _ => some (none, bytes)

def isPathByte (byte : UInt8) : Bool :=
  byte == 0x21 || (0x24 ≤ byte && byte ≤ 0x3b) || byte == 0x3d || (0x40 ≤ byte && byte ≤ 0x5f) ||
    (0x61 ≤ byte && byte ≤ 0x7a) || byte == 0x7c || 0x7e ≤ byte || isAmong "\"\x7b\x7d" byte

def isQueryByte (byte : UInt8) : Bool :=
  byte == 0x21 || (0x24 ≤ byte && byte ≤ 0x3b) || byte == 0x3d || 0x3f ≤ byte

/-- Whether bytes are the query of an address and what may follow it. -/
def isQuery (bytes : Bytes) : Bool :=
  (bytes.dropWhile isQueryByte).head? == none ||
    (bytes.dropWhile isQueryByte).head? == some (ascii '#')

/-- Whether bytes are a path, perhaps with a query and a fragment. -/
def isPath (bytes : Bytes) : Bool :=
  match bytes.dropWhile (fun byte => isPathByte byte && byte != ascii '?') with
  | [] => true
  | byte :: rest => byte == ascii '#' || (byte == ascii '?' && isQuery rest)

def withAuthority? (bytes : Bytes) : Option Address := do
  let (scheme, rest) ← splitScheme bytes
  let (authority, path) := rest.span (fun byte => !endsAuthority byte)
  if !isAuthority authority then none
  else if scheme.isNone then
    if path = [] then some ⟨some authority⟩ else none
  else if authority = [] ∨ !isPath path then none
  else some ⟨some authority⟩

def parse? (text : String) : Option Address :=
  let bytes := Utf8.encode text
  if bytes = [] ∨ maxLength < bytes.length then none
  else if bytes = [ascii '*'] then some ⟨none⟩
  else if bytes.head? = some (ascii '/') then
    if isPath bytes then some ⟨none⟩ else none
  else withAuthority? bytes

/-- The host of an authority: what follows the last at sign, up to the closing bracket or the
first colon. -/
def hostOf (authority : Bytes) : Bytes :=
  let hostAndPort := (authority.reverse.takeWhile (fun byte => byte != ascii '@')).reverse
  if hostAndPort.head? = some (ascii '[') then
    hostAndPort.takeWhile (fun byte => byte != ascii ']') ++ [ascii ']']
  else hostAndPort.takeWhile (fun byte => byte != ascii ':')

def host? (address : Address) : Option Bytes := address.authority.map hostOf

end Address

end ConfigWatch
