import ConfigWatch.Settings.Environment
import ConfigWatch.Settings.Path
import ConfigWatch.Settings.Sections
import ConfigWatch.Toml.Document

/-!
# Loading settings

Settings come in three layers: a file with a fixed name that may be missing, a file that is named
and has to be there, and the environment. A later layer overrides the ones before it. What comes
out has to fit the sections and to pass their checks.
-/

set_option autoImplicit false

namespace ConfigWatch

/-- The content of a settings file: its text, or the entries that it is known to have. -/
inductive FileContent where
  | text (content : String)
  | entries (layer : List (String × Setting))

/-- Where settings come from: the files of the working directory, by the parts of their paths,
and the variables of the environment. -/
structure SettingsSources where
  files : List (List String × FileContent) := []
  environment : List (String × String) := []

namespace SettingsSources

/-- The name of the file that may be missing, without its extension. -/
def defaultName : String := "config/mhconfig"

def extension : String := ".toml"

def fileAt? (sources : SettingsSources) (path : List String) : Option FileContent :=
  Table.lookup path sources.files

/-- Whether a path leads to a directory: the working directory itself, or one with a file in it. -/
def hasDirectory (sources : SettingsSources) (path : List String) : Bool :=
  path.isEmpty || sources.files.any (fun file => path.isPrefixOf file.1 && file.1 != path)

/-- Follows the parts of a path from a directory. Only directories lead on, and there is nothing
known above the working directory. -/
def follow (sources : SettingsSources) : (directory : List String) → List String →
    Option (List String)
  | directory, [] => some directory
  | directory, part :: rest =>
    if sources.hasDirectory directory then
      if part = ".." then
        if directory = [] then none else sources.follow directory.dropLast rest
      else sources.follow (directory ++ [part]) rest
    else none

def splitPath : List Char → List (List Char)
  | [] => [[]]
  | c :: rest =>
    if c = '/' then [] :: splitPath rest
    else
      match splitPath rest with
      | [] => [[c]]
      | part :: parts => (c :: part) :: parts

/-- The parts of a path, without those that stand for the directory they are in. -/
def pathParts (name : String) : List String :=
  ((splitPath name.toList).map String.ofList).filter (fun part => part != "" && part != ".")

def namesDirectory (name : String) : Bool :=
  match (splitPath name.toList).getLast? with
  | some last => last == [] || last == ['.']
  | none => true

def exactFile? (sources : SettingsSources) (name : String) : Option FileContent :=
  if namesDirectory name then none
  else (sources.follow [] (pathParts name)).bind sources.fileAt?

/-- The file that a name stands for once the extension is added. -/
def extendedFile? (sources : SettingsSources) (name : String) : Option FileContent :=
  let parts := pathParts name
  match parts.getLast? with
  | none => none
  | some last =>
    if last = ".." then none
    else (sources.follow [] (parts.dropLast ++ [last ++ extension])).bind sources.fileAt?

/-- The file with a name, with or without its extension. Only the working directory is known, so
there is none under a path from the root. -/
def file? (sources : SettingsSources) (name : String) : Option FileContent :=
  if name.toList.head? = some '/' then none
  else (sources.exactFile? name).or (sources.extendedFile? name)

/-- The path of the file that has to be there: the one given, or else the one that the
environment names. -/
def explicitPath? (sources : SettingsSources) (path : Option String) : Option String :=
  path.or (Table.lookup Environment.pathVariable sources.environment)

end SettingsSources

namespace FileContent

def layer? : FileContent → Option (List (String × Setting))
  | .text content => Toml.parse content
  | .entries layer => some layer

end FileContent

namespace Settings

/-- The layers of the settings, from the lowest to the highest. -/
def layers? (sources : SettingsSources) (path : Option String) :
    Option (List (List (String × Setting))) := do
  let lowest ← match sources.file? SettingsSources.defaultName with
    | none => some []
    | some content => content.layer?
  let explicit ← match sources.explicitPath? path with
    | none => some []
    | some path => (sources.file? path).bind FileContent.layer?
  return [lowest, explicit, Environment.layer sources.environment]

/-- The settings that the layers amount to, whether they pass their checks or not. -/
def read? (sources : SettingsSources) (path : Option String) : Option Settings := do
  let layers ← layers? sources path
  ofSetting? (layers.foldl Setting.overlayLayer (.table []))

def load (sources : SettingsSources) (path : Option String) : Except Error Settings := do
  match read? sources path with
  | none => .error .unreadable
  | some settings =>
    settings.check
    return settings

end Settings

end ConfigWatch
