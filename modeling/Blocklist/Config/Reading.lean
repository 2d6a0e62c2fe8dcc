import Blocklist.Config.Basic
import Blocklist.Json.Basic

/-!
# Reading configurations

`Configuration.ofJson` reads a configuration from a JSON value. It checks the members in one order, and
the first that is not as it should be is the error. A member that is null counts as missing, but for
the kind of a source; members of other names are passed over.
-/

namespace Blocklist

/-- The part of a configuration that a member belongs to. -/
inductive ConfigPart where
  | whole
  | source (index : Nat)
deriving DecidableEq, Repr

/-- The text that names the part. -/
def ConfigPart.text : ConfigPart → Text
  | .whole => "configuration"
  | .source index => "sources[" ++ Text.ofNat index ++ "]"

/-- What is wrong with a configuration. -/
inductive ConfigError where
  | notObject
  | noName
  | noSources
  | sourceNotObject (index : Nat)
  | noLocation (index : Nat)
  | badKind (index : Nat) (given : Json)
  | notText (key : Text)
  | notTexts (part : ConfigPart) (key : Text)
  | unknownTransformation (name : Text)
  | badOptimization
  | badThreshold

/-- The text of the error. -/
def ConfigError.message : ConfigError → Text
  | .notObject => "Configuration must be a JSON object"
  | .noName => "Configuration 'name' must be a non-empty string"
  | .noSources => "Configuration 'sources' must be a non-empty list"
  | .sourceNotObject index => (ConfigPart.source index).text ++ " must be an object"
  | .noLocation index =>
    (ConfigPart.source index).text ++ ": 'source' must be a non-empty string"
  | .badKind index given =>
    (ConfigPart.source index).text ++ ": 'type' must be one of " ++
      Text.join [',', ' '] (SourceKind.all.map SourceKind.name) ++ ", got " ++ given.shown
  | .notText key => "'" ++ key ++ "' must be a string"
  | .notTexts part key => part.text ++ ": '" ++ key ++ "' must be a list of strings"
  | .unknownTransformation name => Transformation.unknownMessage name
  | .badOptimization => "'optimization' must be an object"
  | .badThreshold => "'merge_threshold' must be an integer >= 2"

namespace Configuration

/-- The members of an object. -/
abbrev Members := List (Text × Json)

/-- The member `key`, null if there is none. -/
def member (ms : Members) (key : Text) : Json := (ms.lookup key).getD .null

/-- A text that may be missing. -/
def text? (ms : Members) (key : Text) : Except ConfigError (Option Text) :=
  match member ms key with
  | .null => .ok none
  | .string s => .ok (some s)
  | _ => .error (.notText key)

/-- The text of a string. -/
def itemText? : Json → Option Text
  | .string s => some s
  | _ => none

/-- A list of texts, empty if it is missing. -/
def texts (part : ConfigPart) (ms : Members) (key : Text) : Except ConfigError (List Text) :=
  match member ms key with
  | .null => .ok []
  | .array items =>
    match items.mapM itemText? with
    | some ts => .ok ts
    | none => .error (.notTexts part key)
  | _ => .error (.notTexts part key)

/-- The transformation of this name. -/
def transformation (name : Text) : Except ConfigError Transformation :=
  match Transformation.ofName? name with
  | some t => .ok t
  | none => .error (.unknownTransformation name)

/-- What is done to the lines of a part. -/
def listSettings (part : ConfigPart) (ms : Members) : Except ConfigError ListSettings := do
  let names ← texts part ms "transformations"
  let transformations ← names.mapM transformation
  let exclusions ← texts part ms "exclusions"
  let exclusionSources ← texts part ms "exclusions_sources"
  let inclusions ← texts part ms "inclusions"
  let inclusionSources ← texts part ms "inclusions_sources"
  return { transformations, exclusions, exclusionSources, inclusions, inclusionSources }

/-- The kind of a source, which only a member that is not there leaves to the default. -/
def sourceKind (index : Nat) (ms : Members) : Except ConfigError SourceKind :=
  match ms.lookup "type".toList with
  | none => .ok .adblock
  | some v =>
    match (itemText? v).bind SourceKind.ofName? with
    | some k => .ok k
    | none => .error (.badKind index v)

/-- The source at a place of the list of sources. -/
def source (index : Nat) : Json → Except ConfigError Source
  | .object ms => do
    let location ←
      match (itemText? (member ms "source")).map Text.trim with
      | some (c :: s) => .ok (c :: s)
      | _ => .error (.noLocation index)
    let kind ← sourceKind index ms
    let name ← text? ms "name"
    let settings ← listSettings (.source index) ms
    return { location, kind, name, settings }
  | _ => .error (.sourceNotObject index)

/-- The sources from the place `index` on. -/
def sourcesFrom (index : Nat) : List Json → Except ConfigError (List Source)
  | [] => .ok []
  | v :: rest => do
    let s ← source index v
    return s :: (← sourcesFrom (index + 1) rest)

/-- Whether a stage is switched on. -/
def switch (ms : Members) (key : Text) (default : Bool) : Bool :=
  ((ms.lookup key).map Json.truthy).getD default

/-- The least size of a group that is merged. -/
def threshold (ms : Members) : Except ConfigError Int :=
  match ms.lookup "merge_threshold".toList with
  | none => .ok Optimize.defaultThreshold
  | some (.int n) => if 2 ≤ n then .ok n else .error .badThreshold
  | some _ => .error .badThreshold

/-- The settings of the optimizer, if it is to run; `true` asks for the defaults. -/
def optimizer : Json → Except ConfigError (Option Optimize.Settings)
  | .null => .ok none
  | .bool true => .ok (some {})
  | .object ms => do
    let mergeThreshold ← threshold ms
    let d : Optimize.Settings := {}
    return some {
      removeRedundant := switch ms "remove_redundant" d.removeRedundant
      optimizePatterns := switch ms "optimize_patterns" d.optimizePatterns
      simplifyModifiers := switch ms "simplify_modifiers" d.simplifyModifiers
      mergeRules := switch ms "merge_rules" d.mergeRules
      mergeThreshold }
  | _ => .error .badOptimization

/-- The configuration that a JSON value writes. -/
def ofJson : Json → Except ConfigError Configuration
  | .object ms => do
    let name ←
      match itemText? (member ms "name") with
      | some s => if s.trim = [] then .error .noName else .ok s
      | none => .error .noName
    let sources ←
      match member ms "sources" with
      | .array (v :: rest) => sourcesFrom 0 (v :: rest)
      | _ => .error .noSources
    let description ← text? ms "description"
    let homepage ← text? ms "homepage"
    let license ← text? ms "license"
    let version ← text? ms "version"
    let optimization ← optimizer (member ms "optimization")
    let settings ← listSettings .whole ms
    return { name, sources, description, homepage, license, version, optimization, settings }
  | _ => .error .notObject

end Configuration
end Blocklist
