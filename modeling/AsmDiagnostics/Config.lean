import AsmDiagnostics.Machine.Files
import AsmDiagnostics.Settings
import AsmDiagnostics.Toml.Reader

/-!
# The settings file

A user writes settings into a TOML file with the same keys as the settings themselves. The file is
where the user says, or else in the folder for configuration. A file that is not there is no fault,
and for the program itself no fault stands in the way: it goes on with the default settings.
-/

namespace AsmDiagnostics

/-- What a user's environment says about places for files. -/
structure Environment where
  /-- The settings file that the user has chosen. -/
  settingsFile? : Option Path
  configHome? : Option Path
  dataHome? : Option Path
  home? : Option Path
  deriving DecidableEq, Repr

namespace Environment

def given? (path? : Option Path) : Option Path := path?.filter fun path => path.bytes ≠ []

/-- A folder of the user: the chosen one if it is absolute, or else one below the home folder. -/
def folder? (e : Environment) (chosen? : Option Path) (below : String) : Option Path :=
  (chosen?.filter Path.isAbsolute).or
    ((given? e.home?).map fun home => home.join (Path.ofString below))

def configFolder? (e : Environment) : Option Path := e.folder? e.configHome? ".config"

def dataFolder? (e : Environment) : Option Path := e.folder? e.dataHome? ".local/share"

end Environment

namespace Config

def programName : String := "rgbds-lsp"

def path? (e : Environment) : Option Path :=
  (Environment.given? e.settingsFile?).or
    (e.configFolder?.map fun folder =>
      (folder.join (Path.ofString programName)).join (Path.ofString "config.toml"))

/-- Why a settings file cannot be used. -/
inductive Fault where
  | isFolder (path : Path)
  | notText (path : Path)
  /-- It is not TOML, or its values are not settings. -/
  | notSettings (path : Path)
  deriving DecidableEq, Repr

namespace Fault

def path : Fault → Path
  | .isFolder path => path
  | .notText path => path
  | .notSettings path => path

def readReason? : Fault → Option String
  | .isFolder _ => some "Is a directory (os error 21)"
  | .notText _ => some "stream did not contain valid UTF-8"
  | .notSettings _ => none

def message (fault : Fault) : String :=
  match fault.readReason? with
  | some reason => "failed to read config at " ++ fault.path.display ++ ": " ++ reason
  | none => "failed to parse config at " ++ fault.path.display

end Fault

def settings? (text : List Char) : Option Settings :=
  (Toml.parse? text).bind fun value => (Settings.decode true value).toOption

def load (path : Path) : Option Machine.Entry → Except Fault (Option Settings)
  | none => .ok none
  | some .folder => .error (.isFolder path)
  | some .nullDevice => .ok (settings? [])
  | some .zeroDevice => .error (.notText path)
  | some (.program _) => .error (.notText path)
  | some (.file content _) =>
      match Text.decode content with
      | .error _ => .error (.notText path)
      | .ok text =>
          match settings? text with
          | some settings => .ok (some settings)
          | none => .error (.notSettings path)

/-- The settings for a run of the program; `entryAt` says what stands at a path. -/
def settingsFor (e : Environment) (entryAt : Path → Option Machine.Entry) : Settings :=
  match path? e with
  | none => Settings.default
  | some path =>
      match load path (entryAt path) with
      | .ok (some settings) => settings
      | _ => Settings.default

end Config

end AsmDiagnostics
