import KotlinMetadata.Integrity.Constraint
import KotlinMetadata.Json.Parser
import KotlinMetadata.Text.WhiteSpace

/-! # Which constraints run

    A configuration is a list of constraints; one that occurs in it is enabled, however often and
    wherever it occurs.  It is every constraint by default, may be read from JSON, and is replaced
    by a setting of the environment: a list of names between commas.

    - `Config.ofText?`: from JSON;
    - `Config.applyList`: the names of a list, all or none;
    - `Config.resolve`: a base, with the setting applied if there is one.
-/

namespace KotlinMetadata

/-- Why a configuration is refused. -/
inductive ConfigError where
  /-- The text is no configuration in JSON. -/
  | json
  /-- No constraint has this name. -/
  | unknownConstraint (name : String)
deriving DecidableEq, Repr

/-- The wording for a name that no constraint has. -/
def ConfigError.unknownConstraintMessage (name : String) : String :=
  "unknown constraint: " ++ name

/-- The constraint of a given name. -/
def ConstraintKind.ofName (name : String) : Except ConfigError ConstraintKind :=
  match Named.ofName? name with
  | some kind => .ok kind
  | none => .error (.unknownConstraint name)

/-- Where a list of constraints came from. -/
inductive ConfigSource where
  | builtIn
  | json
  | environment
deriving DecidableEq, Repr

instance : Named ConfigSource where
  all := [.builtIn, .json, .environment]
  name
    | .builtIn => "default"
    | .json => "json"
    | .environment => "env_var"

/-- The constraints to run. -/
structure Config where
  /-- The enabled constraints, in the order they were named. -/
  constraints : List ConstraintKind := Named.all
  /-- Where the list came from. -/
  source : ConfigSource := .builtIn
deriving DecidableEq, Repr

namespace Config

/-- A configuration of the given constraints alone. -/
def only (constraints : List ConstraintKind) : Config := { constraints }

/-- The constraint runs. -/
def isEnabled (config : Config) (kind : ConstraintKind) : Bool :=
  config.constraints.contains kind

/-! ## JSON -/

/-- The fields in JSON.  Where the list came from is not written. -/
def keys : List String := ["constraints"]

/-- A configuration in JSON. -/
def toJson (config : Config) : Json :=
  .record keys [some (.array (config.constraints.map .ofNamed))]

/-- Reads a configuration, as one that is built in. -/
def ofJson? (levels : Nat) (j : Json) : Option Config := do
  let [constraints] ← j.fields levels keys | none
  let constraints ← Json.required
    (Json.readItems (levels - 1) (Json.readNamed .direct)) constraints
  return only constraints

/-- Reads the text of a configuration. -/
def ofText? (text : String) : Except ConfigError Config :=
  match (Json.parse? text).bind (ofJson? Metadata.levelLimit) with
  | some config => .ok { config with source := .json }
  | none => .error .json

/-! ## Lists of names -/

/-- Replaces the constraints by those named in a list.  Blank entries are passed over; one name
    that no constraint has refuses the whole list. -/
def applyList (config : Config) (list : String) : Except ConfigError Config := do
  let constraints ← (Text.pieces list).mapM ConstraintKind.ofName
  return { config with constraints, source := .environment }

/-- The base, or the default without one, with the setting of the environment applied.  A setting
    that is no text counts as none. -/
def resolve (base : Option Config) (setting : Option ByteArray) : Except ConfigError Config :=
  let config := base.getD {}
  match setting.bind String.fromUTF8? with
  | some list => config.applyList list
  | none => .ok config

end Config

end KotlinMetadata
