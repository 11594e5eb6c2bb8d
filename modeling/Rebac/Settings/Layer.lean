import Rebac.Keyed
import Rebac.Settings.Basic
import Rebac.Yaml.Basic

/-! # Layers

Settings are laid one over another as trees of values. A map is merged into what it is laid over,
key by key, and anything else replaces it. Keys do not depend on letter case. The keys of a layer
itself are places in the tree: names divided by points, and indices in brackets. -/

namespace Rebac.Settings

/-- A step down into a tree. -/
inductive Step where
  | name (key : String)
  /-- A place in a list. A negative one counts from the end. -/
  | index (i : Int)
deriving DecidableEq, Repr

/-- A layer: values at places of the tree. -/
abbrev Layer := List (String × Yaml)

/-- A key in lower case. -/
def lowerKey (key : String) : String := String.ofList (key.toList.flatMap Text.lowerForm)

/-- The entries of a map. Any other value has none. -/
def entriesOf : Yaml → List (String × Yaml)
  | .map entries => entries
  | _ => []

/-- The items of a list. Any other value has none. -/
def itemsOf : Yaml → List Yaml
  | .list items => items
  | _ => []

/-- The items with the one at a place changed. Nulls fill the places up to it, at the end or, for a
negative place, at the front. -/
def changeItem (f : Yaml → Yaml) (i : Int) (items : List Yaml) : List Yaml :=
  if 0 ≤ i then
    (items ++ List.replicate (i.toNat + 1 - items.length) Yaml.null).modify i.toNat f
  else
    (List.replicate (i.natAbs - items.length) Yaml.null ++ items).modify (items.length - i.natAbs) f

/-- Changes the value one step down. A value that has no such step becomes a map or a list. -/
def Step.change (f : Yaml → Yaml) (tree : Yaml) : Step → Yaml
  | .name key =>
    let entries := entriesOf tree
    .map (Keyed.put entries key (f ((Keyed.find? entries key).getD (.map []))))
  | .index i => .list (changeItem f i (itemsOf tree))

mutual

/-- A value laid over another. -/
def overlay : Yaml → Yaml → Yaml
  | .map entries, tree => overlayEntries entries tree
  | value, _ => value

/-- Entries laid over a value. Without any entry it stays as it is. -/
def overlayEntries : List (String × Yaml) → Yaml → Yaml
  | [], tree => tree
  | (key, value) :: rest, tree =>
    overlayEntries rest ((Step.name (lowerKey key)).change (fun old => overlay value old) tree)

end

/-- A value laid over what a tree has at a place. What stands in a list is replaced as a whole. -/
def assign : List Step → Yaml → Yaml → Yaml
  | [], value, tree => overlay value tree
  | [.index i], value, tree => (Step.index i).change (fun _ => value) tree
  | step :: rest, value, tree => step.change (assign rest value) tree

/-- Whether `c` can be part of a name. -/
def isNameChar (c : Char) : Bool := c.isAlphanum || c = ' ' || c = '_' || c = '-'

/-- The index in a text: digits, perhaps after a minus sign, between spaces and tabs. It fits 64
bits. -/
def index? (cs : List Char) : Option Int := do
  let isSpace (c : Char) := c = ' ' || c = '\t'
  let (sign, digits) := match (Text.trimWhile isSpace (String.ofList cs)).toList with
    | '-' :: digits => (-1, digits)
    | digits => (1, digits)
  let i : Int := sign * (← Text.readNat? 10 Text.digit? digits)
  if -9223372036854775808 ≤ i ∧ i ≤ 9223372036854775807 then some i else none

/-- The steps in a text: each a point and a name, or an index in brackets. -/
def steps? : List Char → Option (List Step)
  | [] => some []
  | '.' :: rest =>
    match rest.takeWhile isNameChar with
    | [] => none
    | name => (steps? (rest.dropWhile isNameChar)).map (.name (String.ofList name) :: ·)
  | '[' :: rest =>
    match _found : rest.dropWhile (· ≠ ']') with
    | ']' :: after => do
      let index ← index? (rest.takeWhile (· ≠ ']'))
      (steps? after).map (.index index :: ·)
    | _ => none
  | _ => none
termination_by cs => cs.length
decreasing_by
  · have := (List.dropWhile_sublist (l := rest) isNameChar).length_le
    simp only [List.length_cons]
    omega
  · have := (List.dropWhile_sublist (l := rest) (· ≠ ']')).length_le
    rw [_found] at this
    simp only [List.length_cons] at this ⊢
    omega

/-- The place that a key of a layer means. A key that cannot be read as one is a name as it is. -/
def placeOf (key : String) : List Step :=
  let key := lowerKey key
  (steps? ('.' :: key.toList)).getD [.name key]

/-- A layer laid over a tree. -/
def Layer.over (layer : Layer) (tree : Yaml) : Yaml :=
  layer.foldl (fun tree entry => assign (placeOf entry.1) entry.2 tree) tree

/-- A text, or null. -/
def textOrNone : Option String → Yaml
  | some s => .text s
  | none => .null

/-- The settings as a layer. -/
def toLayer (s : Settings) : Layer :=
  [("engine", .map [("api_url", .text s.engine.apiUrl), ("store_id", textOrNone s.engine.storeId),
      ("authorization_model_id", textOrNone s.engine.modelId),
      ("api_token", textOrNone s.engine.apiToken)]),
    ("mutation", .map [("disable_transactions", .scalar (.bool s.mutation.disableTransactions))])]

/-- What the names of the environment's variables for settings begin with, before an underscore. -/
def variableLead : String := "FGA"

/-- A name with a point for each two underscores. -/
def pointed : List Char → List Char
  | '_' :: '_' :: rest => '.' :: pointed rest
  | c :: rest => c :: pointed rest
  | [] => []

/-- The place that a variable sets, when it is one for settings. -/
def variableKey? (name : String) : Option String :=
  (Text.afterLead? (lowerKey name) (lowerKey (variableLead ++ "_"))).map fun key =>
    String.ofList (pointed key.toList)

/-- The layer of an environment. Its values are texts. -/
def ofVariables (environment : List (String × String)) : Layer :=
  environment.filterMap fun (name, value) => (variableKey? name).map (·, .text value)

end Rebac.Settings
