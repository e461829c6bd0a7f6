import TenantGrid.Catalog.Schema
import TenantGrid.Cli.Command
import TenantGrid.Service.List
import TenantGrid.Settings.Location
/-!
# Running a command

What a command prints and the code it ends with: 0, 1 for a failure that is reported, and 2 for a
command line that cannot be read.
-/
namespace TenantGrid.Cli

/-- What a command can see of the machine it runs on. -/
structure Machine extends Surroundings where
  /-- The store in the database at a path. -/
  store : String → Store

inductive Failure where
  | settings (error : SettingsError)
  | malformedRequest
  | noDatabase
  | request (error : RequestError)
  | store (error : StoreError)

/-- What went wrong, and after it what caused it. -/
def Failure.message : Failure → String
  | settings error =>
    error.message ++ (match error.cause? with
      | some cause => ": " ++ cause
      | none => "")
  | malformedRequest => "invalid request JSON"
  | noDatabase => "no database configured; pass --db or set [database].path"
  | request error => error.message
  | store error => error.message

structure Result where
  code : UInt32
  stdout : String := ""
  /-- What is reported of a failure. -/
  error : Option String := none
  deriving DecidableEq

private def requestOf (text : String) : Except Failure ListRequest :=
  match ListRequest.shape.read? text with
  | some request => .ok request
  | none => .error .malformedRequest

/-- The values of a statement, one on a line, with the marks they stand for. -/
def parameterText (dialect : Sql.Dialect) (params : List Sql.Value) : String :=
  let line := fun (value, index) =>
    "-- " ++ dialect.placeholder (index + 1) ++ " = " ++ value.literal dialect ++ "\n"
  if params.isEmpty then "" else "\n" ++ String.join (params.zipIdx.map line)

/-- Statistics are known only from a database. -/
private def catalogOf (machine : Machine) : Option String → Except Failure Catalog
  | some path => (({ store := machine.store path } : Session).loadCatalog.1).mapError .store
  | none => .ok {}

private def compileText (machine : Machine) (settings : Settings) (database : Option String)
    (request tenant : String) (mode : Mode) (dialect : Sql.Dialect) : Except Failure String := do
  let request ← requestOf request
  let catalog ← catalogOf machine database
  let compiler : Compiler := { catalog, dialect, escapeNegated := settings.query.escapeNegated }
  let page := request.pageOf settings.query.defaultPageSize
  let compiled ← (compiler.compile tenant request.filter request.sort page mode).mapError .request
  .ok (compiled.statement.sql ++ "\n" ++ parameterText dialect compiled.statement.params)

def schemaText (dialect : Sql.Dialect) : String :=
  String.join (Schema.definitions.map fun d => d.text dialect ++ ";\n\n")

/-- The user that the command line counts as. -/
def cliUser : String := "cli"

private def listText (machine : Machine) (settings : Settings) (database : Option String)
    (tenant request : String) : Except Failure String := do
  let request ← requestOf request
  match database with
  | none => .error .noDatabase
  | some path =>
    let (catalog, session) := ({ store := machine.store path } : Session).loadCatalog
    let catalog ← catalog.mapError .store
    let service : Service := { session, tenantOf := fun _ => some tenant, catalog }
    let (response, _) := (service.withSettings settings).list 0 cliUser request
    .ok (response.json.prettyText ++ "\n")

private def commandText (machine : Machine) (settings : Settings) (database : Option String) :
    Command → Except Failure String
  | .compile request tenant mode dialect =>
    compileText machine settings database request tenant mode
      (dialect.getD settings.store.dialect)
  | .schema dialect => .ok (schemaText (dialect.getD settings.store.dialect))
  | .list tenant request => listText machine settings database tenant request

/-- The settings in the file that is named, or else in the first that is found. -/
def settingsFor (surroundings : Surroundings) : Option String → Except SettingsError Settings
  | some path => Settings.ofFile surroundings path
  | none => Settings.load surroundings

private def output (machine : Machine) (config database : Option String) (command : Command) :
    Except Failure String := do
  let settings ← (settingsFor machine.toSurroundings config).mapError .settings
  let database ← match database with
    | some path => .ok (some path)
    | none => (settings.store.resolvedPath machine.environment).mapError .settings
  commandText machine settings database command

def run (machine : Machine) (args : List String) : Result :=
  match invocation args with
  | .misuse => { code := 2 }
  | .tell text => { code := 0, stdout := text }
  | .run config database command =>
    match output machine config database command with
    | .ok stdout => { code := 0, stdout }
    | .error failure => { code := 1, error := some failure.message }

end TenantGrid.Cli
