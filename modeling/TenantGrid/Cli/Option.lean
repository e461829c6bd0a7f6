/-!
# Options of a command line

An option takes one value, after a blank, after an equals sign, or right after its letter. A value
that begins with a hyphen can only be attached, a single hyphen aside. Each option may be given
once. Asking for help or for the version ends the reading at that point.
-/
namespace TenantGrid.Cli

/-- An option by its long name, and by a letter if it has one. -/
structure OptionSpec where
  name : String
  letter : Option Char := none
  /-- The values that the option takes. -/
  accepts : String → Bool := fun _ => true

/-- The options that can be given at one place of a command line. -/
structure OptionSet where
  options : List OptionSpec
  /-- Whether the version can be asked for. -/
  tellsVersion : Bool := false

/-- The values of the options that were given, by name. -/
abbrev Given := List (String × String)

/-- What a single argument is. -/
inductive Argument where
  | word
  /-- The mark after which no options follow. -/
  | endOfOptions
  | help
  | version
  | option (spec : OptionSpec) (attached : Option String)
  | unknown

/-- How the reading of options ends. -/
inductive Outcome where
  | finished (given : Given)
  | word (given : Given) (word : String) (rest : List String)
  | help
  | version
  | misuse

private def splitAtEquals (text : List Char) : String × Option String :=
  let name := text.takeWhile (· != '=')
  (String.ofList name,
    if name.length < text.length then some (String.ofList (text.drop (name.length + 1))) else none)

private def longArgument (set : OptionSet) (text : List Char) : Argument :=
  let (name, attached) := splitAtEquals text
  match set.options.find? fun o => o.name == name with
  | some spec => .option spec attached
  | none =>
    if attached.isSome then .unknown
    else if name = "help" then .help
    else if name = "version" ∧ set.tellsVersion then .version
    else .unknown

private def attachedToLetter : List Char → Option String
  | [] => none
  | '=' :: value => some (String.ofList value)
  | value => some (String.ofList value)

private def shortArgument (set : OptionSet) (letter : Char) (rest : List Char) : Argument :=
  match set.options.find? fun o => o.letter == some letter with
  | some spec => .option spec (attachedToLetter rest)
  | none =>
    if letter = 'h' then .help
    else if letter = 'V' ∧ set.tellsVersion then .version
    else .unknown

def argument (set : OptionSet) (text : String) : Argument :=
  match text.toList with
  | ['-', '-'] => .endOfOptions
  | '-' :: '-' :: rest => longArgument set rest
  | '-' :: letter :: rest => shortArgument set letter rest
  | _ => .word

/-- The values with one more, unless it is not taken or was given before. -/
private def add? (given : Given) (spec : OptionSpec) (value : String) : Option Given :=
  if (given.lookup spec.name).isSome ∨ !spec.accepts value then none
  else some (given ++ [(spec.name, value)])

/-- The options up to the first word. -/
def readOptions (set : OptionSet) (given : Given) : List String → Outcome
  | [] => .finished given
  | text :: rest =>
    match argument set text with
    | .word => .word given text rest
    | .endOfOptions => if rest.isEmpty then .finished given else .misuse
    | .help => .help
    | .version => .version
    | .unknown => .misuse
    | .option spec (some value) =>
      match add? given spec value with
      | some given => readOptions set given rest
      | none => .misuse
    | .option spec none =>
      match rest with
      | [] => .misuse
      | value :: rest =>
        if value.startsWith "-" ∧ value ≠ "-" then .misuse
        else match add? given spec value with
          | some given => readOptions set given rest
          | none => .misuse

end TenantGrid.Cli
