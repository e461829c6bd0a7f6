import TenantGrid.Cli.Run
/-!
# The program

Runs the command that the arguments name. A database is opened empty, since no driver for one is
part of this program.
-/
namespace TenantGrid.Cli

private def readFile (path : String) : IO (String × FileState) := do
  try
    return (path, .text (← IO.FS.readFile path))
  catch error =>
    match error with
    | .noFileOrDirectory .. => return (path, .absent)
    | error => return (path, .unreadable (toString error))

private def lookUp (names : List String) : IO (List (String × String)) := do
  let found ← names.mapM fun name => do return (← IO.getEnv name).map fun value => (name, value)
  return found.filterMap id

/-- The files in which settings may be found. -/
private def settingsPaths (environment : Environment) (config : Option String) : List String :=
  config.toList ++ (environment Settings.pathVariable).toList ++ [Settings.localPath]
    ++ (Settings.userPath? environment).toList

/-- What a command can see of this machine. -/
private def machine (config : Option String) : IO Machine := do
  let known ← lookUp [Settings.pathVariable, "XDG_CONFIG_HOME", "HOME"]
  let files ← (settingsPaths (fun name => known.lookup name) config).mapM readFile
  let surroundings : Surroundings := {
    environment := fun name => known.lookup name
    file := fun path => (files.lookup path).getD .absent }
  let referred ← match settingsFor surroundings config with
    | .ok settings => lookUp (Settings.references (settings.store.path.getD ""))
    | .error _ => pure []
  return { surroundings with
    environment := fun name => (known ++ referred).lookup name
    store := fun _ => .ofReplies .sqlite [] }

end TenantGrid.Cli

open TenantGrid in
def main (args : List String) : IO UInt32 := do
  let config := match Cli.invocation args with
    | .run config _ _ => config
    | _ => none
  let result := Cli.run (← Cli.machine config) args
  IO.print result.stdout
  match result.error with
  | some message => IO.eprintln ("Error: " ++ message)
  | none => pure ()
  return result.code
