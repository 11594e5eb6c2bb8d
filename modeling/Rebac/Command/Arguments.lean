import Rebac.Accessor

/-! # Arguments

The command line: options with a value, and switches, each with a long name and some with a letter.
Letters may be written together. An option takes its value from the same argument or from the next
one, and nothing but options is taken. -/

namespace Rebac.Command

/-- An option with a value. -/
inductive Valued where
  | schema
  | out
  | accessorTail
  | accessorType
deriving DecidableEq, Repr

/-- An option without a value. -/
inductive Switch where
  | noDefaultTails
  | jsonLogs
  | verbose
  | help
  | version
deriving DecidableEq, Repr

/-- An option. -/
inductive Flag where
  | valued (v : Valued)
  | switch (s : Switch)
deriving DecidableEq, Repr

/-- The options by their long names. -/
def longNames : List (String × Flag) :=
  [("schema", .valued .schema), ("out", .valued .out), ("accessor-suffix", .valued .accessorTail),
    ("accessor-type", .valued .accessorType), ("no-default-suffixes", .switch .noDefaultTails),
    ("json-logs", .switch .jsonLogs), ("verbose", .switch .verbose), ("help", .switch .help),
    ("version", .switch .version)]

/-- The options by their letters. -/
def letters : List (Char × Flag) :=
  [('s', .valued .schema), ('o', .valued .out), ('v', .switch .verbose), ('h', .switch .help),
    ('V', .switch .version)]

/-- What is wrong with a command line. -/
inductive Misuse where
  | unexpected (argument : String)
  | needlessValue (argument : String)
  | missingValue (option : Valued)
  | repeatedValue (option : Valued)
  | repeatedSwitch (option : Switch)
  | emptyPath
  | missingSchema
deriving DecidableEq, Repr

/-- Why a command line asks for no bindings. -/
inductive Stop where
  | help
  | version
  | misuse (m : Misuse)
deriving DecidableEq, Repr

/-- The options met so far. -/
structure Draft where
  schema : Option String := none
  out : Option String := none
  tails : List String := []
  types : List String := []
  switches : List Switch := []
deriving Repr

/-- A path given once, and not empty. -/
def onePath (option : Valued) (before : Option String) (path : String) : Except Stop String :=
  if before.isSome then .error (.misuse (.repeatedValue option))
  else if path = "" then .error (.misuse .emptyPath)
  else .ok path

namespace Draft

/-- Takes an option with its value. -/
def put (d : Draft) (value : String) : Valued → Except Stop Draft
  | .schema => (onePath .schema d.schema value).map fun path => { d with schema := some path }
  | .out => (onePath .out d.out value).map fun path => { d with out := some path }
  | .accessorTail => .ok { d with tails := d.tails ++ [value] }
  | .accessorType => .ok { d with types := d.types ++ [value] }

/-- Takes a switch. Two of them stop at once, and the others are given once. -/
def turnOn (d : Draft) : Switch → Except Stop Draft
  | .help => .error .help
  | .version => .error .version
  | s =>
    if s ∈ d.switches then .error (.misuse (.repeatedSwitch s))
    else .ok { d with switches := d.switches ++ [s] }

/-- Takes an option whose value is the next argument. Only a single dash begins like an option and
is a value. -/
def putNext (d : Draft) (option : Valued) (next : Option String) : Except Stop Draft :=
  match next with
  | none => .error (.misuse (.missingValue option))
  | some value =>
    if Text.beginsWith value "-" && value ≠ "-" then .error (.misuse (.missingValue option))
    else d.put value option

/-- Takes an argument with a long name, and tells whether the next argument was its value. -/
def takeLong (d : Draft) (argument : List Char) (next : Option String) :
    Except Stop (Draft × Bool) :=
  let name := String.ofList (argument.takeWhile (· ≠ '='))
  match longNames.lookup name, argument.dropWhile (· ≠ '=') with
  | none, _ => .error (.misuse (.unexpected ("--" ++ name)))
  | some (.switch s), [] => (d.turnOn s).map (·, false)
  | some (.switch _), _ => .error (.misuse (.needlessValue ("--" ++ name)))
  | some (.valued v), [] => (d.putNext v next).map (·, true)
  | some (.valued v), _ :: value => (d.put (String.ofList value) v).map (·, false)

/-- Takes letters written together, and tells whether the next argument was a value. What follows
the letter of an option is its value, without an equals sign at its front. -/
def takeLetters (d : Draft) (next : Option String) : List Char → Except Stop (Draft × Bool)
  | [] => .ok (d, false)
  | c :: rest =>
    match letters.lookup c with
    | none => .error (.misuse (.unexpected (String.ofList ['-', c])))
    | some (.switch s) =>
      match d.turnOn s with
      | .ok d => d.takeLetters next rest
      | .error e => .error e
    | some (.valued v) =>
      match rest with
      | [] => (d.putNext v next).map (·, true)
      | '=' :: value | value => (d.put (String.ofList value) v).map (·, false)

/-- Takes an argument, and tells whether the next one was its value. -/
def take (d : Draft) (argument : String) (next : Option String) : Except Stop (Draft × Bool) :=
  match argument.toList with
  | '-' :: '-' :: rest => d.takeLong rest next
  | '-' :: c :: rest => d.takeLetters next (c :: rest)
  | _ => .error (.misuse (.unexpected argument))

/-- Takes arguments. Two dashes alone end the options, and nothing may come after them. -/
def takeAll (d : Draft) : List String → Except Stop Draft
  | [] => .ok d
  | argument :: rest =>
    if argument = "--" then
      match rest with
      | [] => .ok d
      | unexpected :: _ => .error (.misuse (.unexpected unexpected))
    else
      match d.take argument rest.head? with
      | .error e => .error e
      | .ok (d, false) => d.takeAll rest
      | .ok (d, true) => d.takeAll rest.tail
termination_by arguments => arguments.length
decreasing_by
  · exact Nat.lt_succ_self _
  · exact Nat.lt_succ_of_le (by rw [List.length_tail]; exact Nat.sub_le _ _)

end Draft

/-- The arguments of a run. -/
structure Arguments where
  schema : String
  out : Option String
  policy : Accessor.Policy
  jsonLogs : Bool
  verbose : Bool
deriving Repr

/-- The variable that stands in for the path of the schema. -/
def schemaVariable : String := "FLUENTFGA_SCHEMA"

/-- The path of the schema: from the options, or else the fallback. -/
def schemaPath (d : Draft) (fallback : Option String) : Except Stop String :=
  match d.schema, fallback with
  | some path, _ => .ok path
  | none, some path => onePath .schema none path
  | none, none => .error (.misuse .missingSchema)

/-- The arguments of a command line, with a fallback for the schema. -/
def Arguments.read (arguments : List String) (fallback : Option String) :
    Except Stop Arguments := do
  let d ← Draft.takeAll {} arguments
  let base := if Switch.noDefaultTails ∈ d.switches then Accessor.Policy.none else .standard
  return {
    schema := ← schemaPath d fallback
    out := d.out
    policy := base.withAll d.tails d.types
    jsonLogs := Switch.jsonLogs ∈ d.switches
    verbose := Switch.verbose ∈ d.switches }

/-- The wording of misuse. -/
def Misuse.message : Misuse → String
  | .unexpected argument => "unexpected argument '" ++ argument ++ "'"
  | .needlessValue argument => "no value is taken by '" ++ argument ++ "'"
  | .missingValue _ => "an option lacks its value"
  | .repeatedValue _ | .repeatedSwitch _ => "an option is given more than once"
  | .emptyPath => "a path is empty"
  | .missingSchema => "no schema is given"

/-- The name of the command, with its version. -/
def versionText : String := "fluentfga-codegen 0.1.0\n"

/-- How the command is used. -/
def helpText : String :=
  "Generate typed fluentfga entities from an authorization schema\n\n" ++
    "Usage: fluentfga-codegen [OPTIONS] --schema <SCHEMA>\n"

end Rebac.Command
