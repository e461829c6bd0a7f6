import TenantGrid.Settings.Basic
import TenantGrid.Text.Alphanumeric
/-!
# References to variables

A text may refer to environment variables as `${name}` or `$name`, where a bare name goes on over
letters, numbers and underscores. A dollar sign that no name follows stands for itself, and what a
variable holds is not read again.
-/
namespace TenantGrid

/-- Looks up environment variables. -/
abbrev Environment := String → Option String

namespace Settings

/-- A part of a text with references. -/
inductive TextPart where
  | char (c : Char)
  | reference (name : String)
  deriving DecidableEq, Repr

def isNameChar (c : Char) : Bool :=
  Text.isAlphanumeric c || c == '_'

/-- The parts of a text. A brace that is not closed makes all that follows a name. -/
def textParts : List Char → List TextPart
  | [] => []
  | '$' :: '\x7b' :: rest =>
    let name := rest.takeWhile (· != '\x7d')
    .reference (String.ofList name) :: textParts (rest.drop (name.length + 1))
  | '$' :: rest =>
    let name := rest.takeWhile isNameChar
    if name.isEmpty then .char '$' :: textParts rest
    else .reference (String.ofList name) :: textParts (rest.drop name.length)
  | c :: rest => .char c :: textParts rest
termination_by text => text.length
decreasing_by all_goals simp <;> omega

/-- The names that a text refers to. -/
def references (text : String) : List String :=
  (textParts text.toList).filterMap fun part => match part with
    | .reference name => some name
    | .char _ => none

private def partChars (environment : Environment) :
    TextPart → Except SettingsError (List Char)
  | .char c => .ok [c]
  | .reference name =>
    match environment name with
    | some value => .ok value.toList
    | none => .error (.missingVariable name)

/-- The text with every reference replaced by what its variable holds. -/
def expandVariables (environment : Environment) (text : String) : Except SettingsError String := do
  let parts ← (textParts text.toList).mapM (partChars environment)
  .ok (String.ofList parts.flatten)

end Settings

/-- The path of the database, if there is one. -/
def StoreSettings.resolvedPath (store : StoreSettings) (environment : Environment) :
    Except SettingsError (Option String) :=
  match store.path with
  | some path => (Settings.expandVariables environment path).map some
  | none => .ok none

end TenantGrid
