import TenantGrid.Settings.Reader
import TenantGrid.Settings.Variables
/-!
# Where settings are found

Settings come from a file that is named, or else from the first of three places that has one: the
file that a variable names, the working directory, and the user's configuration directory. Without
any file all settings keep their first values.
-/
namespace TenantGrid

/-- What is found at a path. -/
inductive FileState where
  | absent
  | text (content : String)
  | unreadable (reason : String)
  deriving DecidableEq, Repr

/-- The variables and files that a command can see. -/
structure Surroundings where
  environment : Environment
  file : String → FileState

namespace Settings

def pathVariable : String := "ROSTER_CONFIG"

def localPath : String := "roster.toml"

def joinPath (directory name : String) : String :=
  if directory.endsWith "/" then directory ++ name else directory ++ "/" ++ name

/-- The user's configuration directory. -/
def configDirectory? (environment : Environment) : Option String :=
  match (environment "XDG_CONFIG_HOME").filter fun path => path.startsWith "/" with
  | some directory => some directory
  | none => ((environment "HOME").filter fun home => !home.isEmpty).map fun home =>
      joinPath home ".config"

def userPath? (environment : Environment) : Option String :=
  (configDirectory? environment).map fun directory =>
    joinPath (joinPath directory "roster") "config.toml"

/-- The settings in the file at a path. -/
def ofFile (surroundings : Surroundings) (path : String) : Except SettingsError Settings :=
  match surroundings.file path with
  | .absent => .error (.notFound path)
  | .unreadable reason => .error (.unreadable reason)
  | .text content => ofText content

private def isPresent (surroundings : Surroundings) (path : String) : Bool :=
  surroundings.file path != .absent

/-- The settings of the first file that is found. -/
def load (surroundings : Surroundings) : Except SettingsError Settings :=
  match surroundings.environment pathVariable with
  | some path => ofFile surroundings path
  | none =>
    if isPresent surroundings localPath then ofFile surroundings localPath
    else match (userPath? surroundings.environment).filter (isPresent surroundings) with
      | some path => ofFile surroundings path
      | none => .ok {}

end Settings

end TenantGrid
