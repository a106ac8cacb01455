import ConfigWatch.Decimal.Numeral
import ConfigWatch.Settings.Setting

/-!
# Settings from the environment

Variables whose names start with the program's own word and two underscores are settings. Two
underscores inside a name lead to a part. The text of a variable is taken for what it looks like;
an empty variable counts as unset.
-/

set_option autoImplicit false

namespace ConfigWatch.Environment

/-- What the names of all variables with settings start with, in lowercase. -/
def namePrefix : String := "mhconfig__"

def pathVariable : String := "MHCONFIG_CONFIG_PATH"

/-- Writes a point for every two underscores, from left to right. -/
def pointed : List Char → List Char
  | '_' :: '_' :: rest => '.' :: pointed rest
  | c :: rest => c :: pointed rest
  | [] => []

def settingName? (name : String) : Option String :=
  let lowered := (Setting.lower name).toList
  if namePrefix.toList.isPrefixOf lowered then
    some (String.ofList (pointed (lowered.drop namePrefix.length)))
  else none

/-- What a text looks like: a truth value, an integer, another number, or a string. -/
def parse (content : String) : Setting :=
  let lowered := Setting.lower content
  if lowered = "true" then .flag true
  else if lowered = "false" then .flag false
  else
    match Numeral.int64? content.toList with
    | some number => .int number
    | none =>
      match Numeral.double? content.toList with
      | some number => .float number
      | none => .text content

def layer (entries : List (String × String)) : List (String × Setting) :=
  entries.filterMap (fun entry =>
    if entry.2 = "" then none
    else (settingName? entry.1).map (fun name => (name, parse entry.2)))

end ConfigWatch.Environment
