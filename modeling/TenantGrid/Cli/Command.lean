import TenantGrid.Cli.Option
import TenantGrid.Plan.Queries
/-!
# Commands

A command is named after the general options and has options of its own. General options can also
be given after the command, and count there.
-/
namespace TenantGrid.Cli

inductive Command where
  | compile (request tenant : String) (mode : Mode) (dialect : Option Sql.Dialect)
  | schema (dialect : Option Sql.Dialect)
  | list (tenant request : String)

/-- What a command line asks for. -/
inductive Invocation where
  | run (config database : Option String) (command : Command)
  | tell (text : String)
  | misuse

def modes : List (String × Mode) :=
  [("rows", .rows), ("count", .count), ("ids", .ids)]

def dialects : List (String × Sql.Dialect) :=
  [("postgres", .postgres), ("sqlite", .sqlite)]

/-- A path has at least one character. -/
private def acceptsPath (path : String) : Bool :=
  !path.isEmpty

def generalOptions : List OptionSpec :=
  [{ name := "config", letter := some 'c', accepts := acceptsPath },
    { name := "db", accepts := acceptsPath }]

private def requestOption : OptionSpec :=
  { name := "request", letter := some 'r' }

private def tenantOption : OptionSpec :=
  { name := "tenant", letter := some 't' }

private def modeOption : OptionSpec :=
  { name := "mode", letter := some 'm', accepts := fun name => (modes.lookup name).isSome }

private def dialectOption : OptionSpec :=
  { name := "dialect", letter := some 'd', accepts := fun name => (dialects.lookup name).isSome }

/-- The commands by name. -/
inductive CommandName where
  | compile
  | schema
  | list
  deriving DecidableEq, Repr

namespace CommandName

def ofText? (text : String) : Option CommandName :=
  [("compile", compile), ("schema", schema), ("list", list)].lookup text

def options : CommandName → List OptionSpec
  | compile => [requestOption, tenantOption, modeOption, dialectOption]
  | schema => [dialectOption]
  | list => [tenantOption, requestOption]

private def dialect? (given : Given) : Option Sql.Dialect :=
  given.lookup "dialect" >>= fun name => dialects.lookup name

/-- The command with the values given to it, unless one that it needs is missing. -/
def withOptions? (name : CommandName) (given : Given) : Option Command :=
  let request := (given.lookup "request").getD "\x7b\x7d"
  match name with
  | compile =>
    let mode := (given.lookup "mode" >>= fun name => modes.lookup name).getD .rows
    some (.compile request ((given.lookup "tenant").getD "tenant") mode (dialect? given))
  | schema => some (.schema (dialect? given))
  | list => (given.lookup "tenant").map fun tenant => .list tenant request

end CommandName

def versionText : String := "roster 0.1.0\n"

private def configHelp : String :=
  "Config file (defaults to ROSTER_CONFIG, ./roster.toml, ~/.config/roster/config.toml)"

private def databaseHelp : String := "Database file (overrides [database].path)"

private def requestHelp : String :=
  "List request as JSON (filterModel, sortModel, page, pageSize) [default: \x7b\x7d]"

private def dialectHelp : String :=
  "SQL dialect to generate (defaults to [database].dialect) [possible values: postgres, sqlite]"

private def helpText (about usage : String) (sections : List (String × List String)) : String :=
  let sectionText := fun (title, lines) =>
    "\n" ++ title ++ ":\n" ++ String.join (lines.map fun line => "  " ++ line ++ "\n")
  about ++ "\n\nUsage: " ++ usage ++ "\n" ++ String.join (sections.map sectionText)

def generalHelp : String :=
  helpText "Roster - tenant-scoped query compiler for artist rosters" "roster [OPTIONS] <COMMAND>"
    [("Commands", [
      "compile  Compile a grid request to SQL without running it",
      "schema   Print the DDL for every table",
      "list     Run a grid request against the database and print the response",
      "help     Print this message or the help of the given subcommand(s)"]),
    ("Options", [
      "-c, --config <CONFIG>  " ++ configHelp,
      "    --db <DB>          " ++ databaseHelp,
      "-h, --help             Print help",
      "-V, --version          Print version"])]

def CommandName.help : CommandName → String
  | compile => helpText "Compile a grid request to SQL without running it"
    "roster compile [OPTIONS]"
    [("Options", [
      "-c, --config <CONFIG>    " ++ configHelp,
      "-r, --request <REQUEST>  " ++ requestHelp,
      "    --db <DB>            " ++ databaseHelp,
      "-t, --tenant <TENANT>    Organization the query is scoped to [default: tenant]",
      "-m, --mode <MODE>        Output shape [default: rows] [possible values: rows, count, ids]",
      "-d, --dialect <DIALECT>  " ++ dialectHelp,
      "-h, --help               Print help"])]
  | schema => helpText "Print the DDL for every table" "roster schema [OPTIONS]"
    [("Options", [
      "-c, --config <CONFIG>    " ++ configHelp,
      "-d, --dialect <DIALECT>  " ++ dialectHelp,
      "    --db <DB>            " ++ databaseHelp,
      "-h, --help               Print help"])]
  | list => helpText "Run a grid request against the database and print the response"
    "roster list [OPTIONS] --tenant <TENANT>"
    [("Options", [
      "-c, --config <CONFIG>    " ++ configHelp,
      "-t, --tenant <TENANT>    Organization to list artists for",
      "    --db <DB>            " ++ databaseHelp,
      "-r, --request <REQUEST>  " ++ requestHelp,
      "-h, --help               Print help"])]

private def helpOnHelp : String :=
  helpText "Print this message or the help of the given subcommand(s)" "roster help [COMMAND]..."
    [("Arguments", ["[COMMAND]...  Print help for the subcommand(s)"])]

private def helpFor : List String → Invocation
  | [] => .tell generalHelp
  | [word] =>
    match CommandName.ofText? word with
    | some name => .tell name.help
    | none => if word = "help" then .tell helpOnHelp else .misuse
  | _ => .misuse

private def commandInvocation (general : Given) (name : CommandName) (args : List String) :
    Invocation :=
  match readOptions { options := generalOptions ++ name.options } [] args with
  | .finished given =>
    match name.withOptions? given with
    | some command =>
      let value := fun option => (given ++ general).lookup option
      .run (value "config") (value "db") command
    | none => .misuse
  | .help => .tell name.help
  | _ => .misuse

/-- What the arguments of a command line ask for. -/
def invocation (args : List String) : Invocation :=
  match readOptions { options := generalOptions, tellsVersion := true } [] args with
  | .help => .tell generalHelp
  | .version => .tell versionText
  | .word general word rest =>
    if word = "help" then helpFor rest
    else match CommandName.ofText? word with
      | some name => commandInvocation general name rest
      | none => .misuse
  | _ => .misuse

end TenantGrid.Cli
