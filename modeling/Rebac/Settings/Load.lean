import Rebac.Settings.Layer
import Rebac.Yaml.Node

/-! # Loading settings

Settings come from three layers: the defaults, a file, and the variables of the environment, each
laid over those before it. -/

namespace Rebac.Settings

/-- Why settings cannot be loaded. -/
inductive LoadError where
  | missingFile (path : String)
  /-- The file is not a map in YAML. -/
  | unreadable
  /-- A section is neither a map nor a full list of its fields. -/
  | wrongShape
  /-- The value at a key has the wrong type. -/
  | wrongType (key : String)
  | invalid (fault : Fault)
deriving DecidableEq, Repr

/-- The wording of a failure. -/
def LoadError.message : LoadError → String
  | .missingFile path => "configuration file not found: " ++ path
  | .unreadable => "failed to load configuration: the file is not a map"
  | .wrongShape => "failed to load configuration: a section is not a map"
  | .wrongType key => "failed to load configuration: wrong type for key " ++ key
  | .invalid fault => "invalid configuration: " ++ fault.message

/-- The fields that a section gives, each with the key it is known by. -/
structure Section where
  /-- Whether the fields are given by name, and not by place. -/
  byName : Bool
  fields : List (String × (String × Yaml))

/-- The section of a name, with fields of these names, in a value. -/
def Section.of (name : String) (fieldNames : List String) : Yaml → Except LoadError Section
  | .map entries => .ok ⟨true, entries.map fun (field, v) => (field, (name ++ "." ++ field, v))⟩
  | .list items =>
    .ok ⟨false, (fieldNames.zip items).zipIdx.map fun ((field, v), i) =>
      (field, (name ++ "[" ++ toString i ++ "]", v))⟩
  | .scalar _ => .error .wrongShape

/-- A value taken for a scalar, and that as `take` takes it. -/
def takeScalar {α : Type} (take : Yaml.Scalar → Option α) (key : String) (v : Yaml) :
    Except LoadError α :=
  match v with
  | .scalar s =>
    match take s with
    | some a => .ok a
    | none => .error (.wrongType key)
  | _ => .error (.wrongType key)

namespace Section

variable {α : Type}

/-- A field that has `fallback` when it is not there. -/
def defaulted (s : Section) (field : String) (fallback : α) (take : Yaml.Scalar → Option α) :
    Except LoadError α :=
  match Keyed.find? s.fields field with
  | some (key, v) => takeScalar take key v
  | none => .ok fallback

/-- A field that may be null. It may also be missing, but only by name. -/
def optional (s : Section) (field : String) (take : Yaml.Scalar → Option α) :
    Except LoadError (Option α) :=
  match Keyed.find? s.fields field with
  | some (_, .scalar .null) => .ok none
  | some (key, v) => (takeScalar take key v).map some
  | none => if s.byName then .ok none else .error .wrongShape

end Section

/-- The connection that a value gives. -/
def Connection.ofTree (v : Yaml) : Except LoadError Connection := do
  let s ← Section.of "engine" connectionFields v
  return ⟨← s.defaulted "api_url" ({} : Connection).apiUrl Yaml.Scalar.toText?,
    ← s.optional "store_id" Yaml.Scalar.toText?,
    ← s.optional "authorization_model_id" Yaml.Scalar.toText?,
    ← s.optional "api_token" Yaml.Scalar.toText?⟩

/-- The way of sending that a value gives. -/
def Sending.ofTree (v : Yaml) : Except LoadError Sending := do
  let s ← Section.of "mutation" sendingFields v
  return ⟨← s.defaulted "disable_transactions" false Yaml.Scalar.toBool?⟩

/-- The section of a name in a tree. -/
def sectionOf (name : String) (tree : Yaml) : Yaml :=
  (Keyed.find? (entriesOf tree) name).getD (.map [])

/-- The settings that a tree gives. -/
def ofTree (tree : Yaml) : Except LoadError Settings := do
  return ⟨← Connection.ofTree (sectionOf "engine" tree),
    ← Sending.ofTree (sectionOf "mutation" tree)⟩

/-- The settings, when they have no fault. -/
def checked (s : Settings) : Except LoadError Settings :=
  match s.fault? with
  | none => .ok s
  | some fault => .error (.invalid fault)

/-- The tree of a file's layer and the variables over the defaults. -/
def treeOf (file : Layer) (environment : List (String × String)) : Yaml :=
  (ofVariables environment).over (file.over ((toLayer {}).over (.map [])))

/-- The settings of a file's layer and the environment. -/
def ofLayers (file : Layer) (environment : List (String × String)) : Except LoadError Settings := do
  (← ofTree (treeOf file environment)).checked

/-- The layer that a file's text gives. -/
def readLayer (text : String) : Except LoadError Layer :=
  match Yaml.read? text with
  | some (.map entries) => .ok entries
  | _ => .error .unreadable

/-- The settings of a file at `path`, if there is one, and the environment. -/
def load (path : String) (text : Option String) (environment : List (String × String)) :
    Except LoadError Settings :=
  match text with
  | none => .error (.missingFile path)
  | some text => do ofLayers (← readLayer text) environment

/-- The settings of the environment alone. -/
def ofEnvironment (environment : List (String × String)) : Except LoadError Settings :=
  ofLayers [] environment

end Rebac.Settings
