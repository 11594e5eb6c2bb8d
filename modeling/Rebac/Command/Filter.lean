import Rebac.Command.Level
import Rebac.Command.Notice
import Rebac.Command.Pattern
import Rebac.Text.Alphanumeric
import Rebac.Text.Blank
import Rebac.Yaml.Scalar

/-! # Filters

Which notices are shown. A filter is a list of rules. A rule names a level, a source, or both, and
in brackets a task and one value that a notice carries. There are no tasks, so rules about one show
nothing, nor do rules about what a value is. -/

namespace Rebac.Command

/-- The value in a rule. -/
structure Field where
  name : String
  /-- What the value must be. -/
  value : Option String
deriving DecidableEq, Repr

/-- A rule: levels up to a rank are shown from the sources whose names begin with `source`. -/
structure Rule where
  source : Option String := none
  /-- Whether the rule is about a task. -/
  ofTask : Bool := false
  field : Option Field := none
  rank : Nat := Level.trace.rank
deriving DecidableEq, Repr

namespace Field

/-- Whether a text can be what a value must be: a number, or a pattern. -/
def isDemand (text : String) : Bool := isPattern text || (Yaml.real? text.toList).isSome

/-- The value in a text: a name, and perhaps what it must be behind an equals sign. -/
def read? (text : String) : Option Field :=
  match text.splitOn "=" with
  | [] | [""] => none
  | [name] => some ⟨name, none⟩
  | name :: value :: _ => if isDemand value then some ⟨name, some value⟩ else none

end Field

/-! ## Reading rules -/

/-- What the text of a rule is at a character. Numbers are where that part began, in bytes. -/
inductive Part where
  | head (start : Nat)
  | task (start : Nat)
  | field (start : Nat)
  | fieldEnd
  | taskEnd
  | level (start : Nat)
deriving DecidableEq, Repr

/-- The text between two bytes. -/
def cut? (text : String) (start stop : Nat) : Option String :=
  String.fromUTF8? (text.toUTF8.extract start stop)

/-- The characters of a text, each with the byte it begins at. -/
def placed (start : Nat) : List Char → List (Nat × Char)
  | [] => []
  | c :: rest => (start, c) :: placed (start + c.utf8Size) rest

/-- Whether a source can begin with `c`. -/
def beginsSource (c : Char) : Bool := c ∈ ['-', ':', '_'] || Text.isAlphanumeric c

namespace Rule

/-- Takes a character that is not the first one. -/
def step (text : String) (state : Part × Rule) (placed : Nat × Char) : Option (Part × Rule) := do
  let (part, rule) := state
  let (place, c) := placed
  match part, c with
  | .head start, '=' =>
    return (.level (place + 1), { rule with source := some (← cut? text start place) })
  | .head start, '[' =>
    return (.task (place + 1), { rule with source := some (← cut? text start place) })
  | .task _, ']' => return (.taskEnd, { rule with ofTask := true })
  | .task start, '\x7b' => return (.field (place + 1), { rule with ofTask := start < place })
  | .field start, '\x7d' =>
    return (.fieldEnd, { rule with field := some (← Field.read? (← cut? text start place)) })
  | .head _, _ | .task _, _ | .field _, _ | .level _, _ => return state
  | .fieldEnd, ']' => return (.taskEnd, rule)
  | .taskEnd, '=' => return (.level (place + 1), rule)
  | _, _ => none

/-- The rule at the end of its text. A level that is left out is the last one. -/
def finish? (text : String) : Part × Rule → Option Rule
  | (.head start, rule) => do
    let word ← cut? text start text.utf8ByteSize
    match rankOfWord? word with
    | some rank => return { rule with rank }
    | none => return { rule with source := some word }
  | (.level start, rule) => do
    let word ← cut? text start text.utf8ByteSize
    if word = "" then return rule else return { rule with rank := ← rankOfWord? word }
  | (.taskEnd, rule) => some rule
  | _ => none

/-- The rule in a text. Blanks around it are passed over, but places count without the blanks at the
front, and the last part of a rule keeps the blanks behind it. -/
def read? (text : String) : Option Rule := do
  match placed 0 (Text.trimBlanks text).toList with
  | [] => none
  | (_, first) :: rest =>
    if first = '[' then finish? text (← rest.foldlM (step text) (.task 1, {}))
    else if beginsSource first then finish? text (← rest.foldlM (step text) (.head 0, {}))
    else none

/-- Whether the rule can show notices. -/
def isOpen (r : Rule) : Bool := !r.ofTask && r.field.all (·.value.isNone)

/-- Whether the rule is about notices like `n`. -/
def covers (r : Rule) (n : Notice) : Bool :=
  r.source.all (Text.beginsWith n.source ·) && r.field.all fun f => f.name ∈ n.fieldNames

/-- Whether one of two numbers or texts is less, where none is the least. -/
def lessOption {α : Type} [LT α] [DecidableLT α] : Option α → Option α → Bool
  | _, none => false
  | none, some _ => true
  | some a, some b => a < b

/-- Whether `b` says more about notices than `a`: a longer source counts first, then a value, then
the order of names. -/
def isLess (a b : Rule) : Bool :=
  let size (r : Rule) := r.source.map String.utf8ByteSize
  let name (r : Rule) := r.field.map Field.name
  lessOption (size a) (size b) || (size a = size b && lessOption (name a) (name b))

end Rule

/-! ## Filters -/

/-- Which notices are shown. -/
abbrev Filter := List Rule

namespace Filter

/-- The filter in a text with commas. An empty one shows errors alone. -/
def read? (text : String) : Option Filter := do
  let rules ← ((text.splitOn ",").filter (· ≠ "")).mapM Rule.read?
  return if rules.isEmpty then [{ rank := Level.error.rank }] else rules

/-- The filter that shows the levels up to one. -/
def upTo (level : Level) : Filter := [{ rank := level.rank }]

/-- The rule that counts for a notice: of those that say most about it, the last. -/
def ruleFor? (f : Filter) (n : Notice) : Option Rule :=
  (f.filter fun r => r.isOpen && r.covers n).foldl (fun best rule =>
    match best with
    | some found => if rule.isLess found then best else some rule
    | none => some rule) none

/-- Whether a notice is shown. -/
def shows (f : Filter) (n : Notice) : Bool := (f.ruleFor? n).any (n.level.rank ≤ ·.rank)

end Filter

end Rebac.Command
