import Rebac.Condition.Context
import Rebac.Condition.Value
import Rebac.Proofs.Bindings.Scope
import Rebac.Proofs.Text.Quoted

/-!
# The functions of a condition

A function of a condition, read from its text: its arguments with their types, and the entries of
the context that it builds, each with its key, the writer of its value and the argument that has it.
Reading what was written for arguments gives them back.
-/

namespace Rebac.Bindings

open Condition (Context Value)
open Schema (Parameter ParameterKind)

/-! ## Reading lists -/

/-- The longest beginning of a text with characters of a class, and the text after it. -/
def span (inside : Char → Bool) (text : String) : String × String :=
  (String.ofList (text.toList.takeWhile inside), String.ofList (text.toList.dropWhile inside))

/-- A span ends where the text behind it begins with a character of another kind. -/
theorem span_append {inside : Char → Bool} {front rest : String}
    (all : ∀ c ∈ front.toList, inside c = true)
    (stops : ∀ c, rest.toList.head? = some c → inside c = false) :
    span inside (front ++ rest) = (front, rest) := by
  have taken : rest.toList.takeWhile inside = [] ∧ rest.toList.dropWhile inside = rest.toList := by
    cases chars : rest.toList with
    | nil => exact ⟨rfl, rfl⟩
    | cons c cs => simp [stops c (by rw [chars]; rfl)]
  rw [span, String.toList_append, List.takeWhile_append_of_pos all,
    List.dropWhile_append_of_pos all, taken.1, taken.2, List.append_nil, String.ofList_toList,
    String.ofList_toList]

/-- A span up to a character that does not occur in it. -/
theorem span_until {c : Char} {front : String} (free : c ∉ front.toList) (mark : String)
    (first : mark.toList.head? = some c) (rest : String) :
    span (· ≠ c) (front ++ (mark ++ rest)) = (front, mark ++ rest) := by
  refine span_append (fun d mem => decide_eq_true fun same => free (same ▸ mem)) fun d head => ?_
  rw [String.toList_append, List.head?_append, first, Option.some_or, Option.some.injEq] at head
  simp [head]

/-- Items with a comma and a space between each two, and the text after them. There is at least one
item, and at most `fuel`. -/
def readSeparated {α : Type} (read : String → Option (α × String)) :
    (fuel : Nat) → String → Option (List α × String)
  | 0, _ => none
  | fuel + 1, text => do
    let (a, rest) ← read text
    match Text.afterLead? rest ", " with
    | none => return ([a], rest)
    | some rest =>
      let (others, rest) ← readSeparated read fuel rest
      return (a :: others, rest)

/-- Items are read back, where each is, whatever text from `After` comes behind it. -/
theorem readSeparated_intercalate {α β : Type} {read : String → Option (α × String)}
    {write : β → String} {value : β → α} (After : String → Prop)
    (next : ∀ text, After (", " ++ text)) {items : List β} (given : items ≠ [])
    (reads : ∀ b ∈ items, ∀ rest, After rest → read (write b ++ rest) = some (value b, rest))
    {rest : String} (after : After rest) (last : Text.afterLead? rest ", " = none) {fuel : Nat}
    (enough : items.length ≤ fuel) :
    readSeparated read fuel (", ".intercalate (items.map write) ++ rest) =
      some (items.map value, rest) := by
  induction items generalizing fuel with
  | nil => exact absurd rfl given
  | cons b items ih =>
    obtain ⟨fuel, rfl⟩ := Nat.exists_eq_add_one_of_ne_zero (Nat.ne_of_gt (Nat.zero_lt_of_lt enough))
    obtain ⟨first, later⟩ := List.forall_mem_cons.mp reads
    cases items with
    | nil =>
      rw [List.map_singleton, String.intercalate_singleton, readSeparated, first rest after]
      simp [last]
    | cons b' items =>
      have text : ", ".intercalate ((b :: b' :: items).map write) ++ rest =
          write b ++ (", " ++ (", ".intercalate ((b' :: items).map write) ++ rest)) := by
        rw [List.map_cons, List.map_cons, String.intercalate_cons_cons, ← List.map_cons]
        simp only [String.append_assoc]
      rw [text, readSeparated, first _ (next _)]
      simp only [Option.bind_eq_bind, Option.bind_some, Text.afterLead?_append,
        ih (List.cons_ne_nil _ _) later (Nat.le_of_succ_le_succ enough)]
      rfl

/-! ## Reading a function -/

/-- An argument of a function. -/
structure FunctionArgument where
  name : String
  type : String
deriving DecidableEq, Repr

/-- An entry of a context: the value of an argument, as a writer writes it, under a key. -/
structure ContextEntry where
  key : String
  writer : String
  argument : String
deriving DecidableEq, Repr

/-- A function that builds a context from its arguments. -/
structure ContextFunction where
  arguments : List FunctionArgument
  entries : List ContextEntry
deriving DecidableEq, Repr

/-- The keys of the context, in the order in which they are set. -/
def ContextFunction.keys (f : ContextFunction) : List String := f.entries.map (·.key)

/-- A name, a colon and a type, up to a comma or a parenthesis. -/
def readArgument? (text : String) : Option (FunctionArgument × String) := do
  let (name, rest) := span (· ≠ ':') text
  let (type, rest) := span (fun c => c ≠ ',' && c ≠ ')') (← Text.afterLead? rest ": ")
  return (⟨name, type⟩, rest)

/-- The arguments of a function, up to the parenthesis behind them. -/
def readArguments? (text : String) : Option (List FunctionArgument × String) :=
  match Text.afterLead? text ")" with
  | some rest => some ([], rest)
  | none => do
    let (arguments, rest) ← readSeparated readArgument? text.length text
    return (arguments, ← Text.afterLead? rest ")")

/-- A pair of a literal and a call of a writer on an argument. -/
def readEntry? (text : String) : Option (ContextEntry × String) := do
  let (key, rest) ← Text.readLiteral? (← Text.afterLead? text "(")
  let (writer, rest) := span (· ≠ '(') (← Text.afterLead? rest ", ::fluentfga::condition::")
  let (argument, rest) := span (· ≠ ')') (← Text.afterLead? rest "(")
  return (⟨key, writer, argument⟩, ← Text.afterLead? rest "))")

/-- A context: a new one, or one collected from a list of entries. -/
def readContext? (text : String) : Option (List ContextEntry × String) :=
  match Text.afterLead? text "::fluentfga::ConditionContext::new()" with
  | some rest => some ([], rest)
  | none => do
    let entries ← Text.afterLead? text "["
    let (entries, rest) ← readSeparated readEntry? entries.length entries
    return (entries, ← Text.afterLead? rest "].into_iter().collect()")

/-- How a function is written around its arguments and its context. -/
structure FunctionForm where
  name : String
  result : String
  opening : String
  closing : String

/-- The function that builds a condition to be attached to a tuple. -/
def buildForm : FunctionForm where
  name := "build"
  result := "::fluentfga::ConditionInstance"
  opening := "::fluentfga::ConditionInstance::new(NAME, "
  closing := ")"

/-- The function that builds a context for a check. -/
def checkForm : FunctionForm where
  name := "check_context"
  result := "::fluentfga::ConditionContext"
  opening := ""
  closing := ""

namespace FunctionForm

/-- The function with this heading and this line, if it is of the form. -/
def read? (form : FunctionForm) (heading line : String) : Option ContextFunction := do
  let (arguments, rest) ← readArguments? (← Text.afterLead? heading ("pub fn " ++ form.name ++ "("))
  let (entries, rest') ← readContext? (← Text.afterLead? line form.opening)
  if rest = " -> " ++ form.result ∧ rest' = form.closing then some ⟨arguments, entries⟩ else none

/-- The functions of the form among pieces. -/
def functions (form : FunctionForm) : List Piece → List ContextFunction
  | [] => []
  | piece :: rest =>
    (match piece, rest with
      | .enter heading, .line line :: .leave :: _ => (form.read? heading line).toList
      | _, _ => []) ++ form.functions rest

end FunctionForm

/-! ## Reading what was written -/

/-- The function for arguments: each in its place, with an entry for it. -/
def ContextFunction.ofPlans (plans : List ArgumentPlan) : ContextFunction where
  arguments := plans.map fun a => ⟨a.argument, argumentType a.kind⟩
  entries := plans.map fun a => ⟨a.key, valueWriter a.kind, a.argument⟩

/-- There are no more texts than characters between and after them. -/
theorem length_le_intercalate (texts : List String) {rest : String} (some : rest ≠ "") :
    texts.length ≤ (", ".intercalate texts ++ rest).length := by
  have behind : 0 < rest.length := Nat.pos_of_ne_zero (mt String.length_eq_zero_iff.mp some)
  induction texts with
  | nil => exact Nat.zero_le _
  | cons text texts ih =>
    cases texts with
    | nil =>
      rw [String.intercalate_singleton, String.length_append, List.length_singleton]
      omega
    | cons text' texts =>
      rw [String.length_append] at ih ⊢
      rw [String.intercalate_cons_cons, String.length_append, String.length_append,
        List.length_cons]
      have separator : ", ".length = 2 := rfl
      omega

/-- What may stand behind an argument: the next one, or the parenthesis. -/
def AfterArgument (text : String) : Prop :=
  ∀ c, text.toList.head? = some c → c = ',' ∨ c = ')'

/-- An argument is read back with its type, up to the comma or parenthesis behind it. -/
theorem readArgument?_append {a : ArgumentPlan} (value : IsValue a.argument) {rest : String}
    (after : AfterArgument rest) :
    readArgument? (a.text ++ rest) = some (⟨a.argument, argumentType a.kind⟩, rest) := by
  have name : ':' ∉ a.argument.toList := value.lacks (by decide) (by decide)
  have type : ∀ c ∈ (argumentType a.kind).toList,
      (decide (c ≠ ',') && decide (c ≠ ')')) = true := by
    cases a.kind <;> exact List.all_eq_true.mp (by decide)
  have ends : ∀ c, rest.toList.head? = some c → (decide (c ≠ ',') && decide (c ≠ ')')) = false := by
    intro c first
    obtain rfl | rfl := after c first <;> rfl
  have text : a.text ++ rest = a.argument ++ (": " ++ (argumentType a.kind ++ rest)) := by
    simp only [ArgumentPlan.text, String.append_assoc]
  rw [text, readArgument?, span_until name ": " rfl]
  simp only [Text.afterLead?_append, Option.bind_eq_bind, Option.bind_some, span_append type ends]
  rfl

/-- An entry is read back: its key, which may hold any characters, the writer of its value, and the
argument that has it. -/
theorem readEntry?_append {a : ArgumentPlan} (value : IsValue a.argument) (rest : String) :
    readEntry? (a.entryText ++ rest) =
      some (⟨a.key, valueWriter a.kind, a.argument⟩, rest) := by
  have writer : '(' ∉ (valueWriter a.kind).toList := by cases a.kind <;> decide
  have argument : ')' ∉ a.argument.toList := value.lacks (by decide) (by decide)
  have text : a.entryText ++ rest = "(" ++ (Text.quoted a.key ++ (", ::fluentfga::condition::" ++
      (valueWriter a.kind ++ ("(" ++ (a.argument ++ ("))" ++ rest)))))) := by
    simp only [ArgumentPlan.entryText, String.append_assoc]
  rw [text, readEntry?]
  simp only [Text.afterLead?_append, Option.bind_eq_bind, Option.bind_some,
    Text.readLiteral?_quoted, span_until writer "(" rfl, span_until argument "))" rfl]
  rfl

theorem signature_ne_empty (a : ArgumentPlan) (plans : List ArgumentPlan) :
    signature (a :: plans) ≠ "" := by
  have some : a.text ≠ "" := by simp [ArgumentPlan.text]
  cases plans with
  | nil => rwa [signature_singleton]
  | cons b plans => simp [signature_cons_cons]

/-- All arguments of a function are read back from its signature, in order. -/
theorem readArguments?_signature {plans : List ArgumentPlan}
    (values : ∀ a ∈ plans, IsValue a.argument) (rest : String) :
    readArguments? (signature plans ++ (")" ++ rest)) =
      some ((ContextFunction.ofPlans plans).arguments, rest) := by
  cases plans with
  | nil =>
    have empty : signature [] ++ (")" ++ rest) = ")" ++ rest := String.empty_append
    rw [empty, readArguments?, Text.afterLead?_append]
    rfl
  | cons a plans =>
    have open_ : Text.afterLead? (signature (a :: plans) ++ (")" ++ rest)) ")" = none := by
      obtain ⟨c, cs, chars⟩ := List.exists_cons_of_ne_nil
        (mt String.toList_eq_nil_iff.mp (signature_ne_empty a plans))
      have other : ')' ≠ c := by
        rintro rfl
        exact (namesBetween_signature values).1 (by rw [chars]; exact List.mem_cons_self)
      simp [Text.afterLead?, Text.beginsWith, chars, other]
    have list : readSeparated readArgument? (signature (a :: plans) ++ (")" ++ rest)).length
        (signature (a :: plans) ++ (")" ++ rest)) =
        some ((ContextFunction.ofPlans (a :: plans)).arguments, ")" ++ rest) := by
      refine readSeparated_intercalate AfterArgument ?_ (List.cons_ne_nil _ _)
        (fun b mem rest after => readArgument?_append (values b mem) after) ?_ ?_ ?_
      · simp [AfterArgument]
      · simp [AfterArgument]
      · simp [Text.afterLead?, Text.beginsWith]
      · have count := length_le_intercalate ((a :: plans).map ArgumentPlan.text)
          (show ")" ++ rest ≠ "" by simp)
        rwa [List.length_map] at count
    rw [readArguments?, open_]
    simp only [list, Option.bind_eq_bind, Option.bind_some, Text.afterLead?_append]
    rfl

/-- All entries are read back from the context. The empty context is written in another way, and
read as one without entries. -/
theorem readContext?_contextText {plans : List ArgumentPlan}
    (values : ∀ a ∈ plans, IsValue a.argument) (rest : String) :
    readContext? (contextText plans ++ rest) =
      some ((ContextFunction.ofPlans plans).entries, rest) := by
  cases plans with
  | nil =>
    have new : contextText [] = "::fluentfga::ConditionContext::new()" := rfl
    rw [new, readContext?, Text.afterLead?_append]
    rfl
  | cons a plans =>
    have text : contextText (a :: plans) ++ rest =
        "[" ++ (", ".intercalate ((a :: plans).map (·.entryText)) ++
          ("].into_iter().collect()" ++ rest)) := by
      simp only [contextText, List.isEmpty_cons, Bool.false_eq_true, if_false, String.append_assoc]
    have other : Text.afterLead? (contextText (a :: plans) ++ rest)
        "::fluentfga::ConditionContext::new()" = none := by
      rw [text]
      simp [Text.afterLead?, Text.beginsWith]
    have behind : "].into_iter().collect()" ++ rest ≠ "" := by simp
    have count := length_le_intercalate ((a :: plans).map (·.entryText)) behind
    rw [List.length_map] at count
    have last : Text.afterLead? ("].into_iter().collect()" ++ rest) ", " = none := by
      simp [Text.afterLead?, Text.beginsWith]
    have list := readSeparated_intercalate (fun _ => True) (fun _ => trivial)
      (List.cons_ne_nil a plans) (fun b mem rest _ => readEntry?_append (values b mem) rest)
      trivial last count
    rw [readContext?, other]
    simp only [text, Text.afterLead?_append, list, Option.bind_eq_bind, Option.bind_some]
    rfl

/-! ## Functions in pieces -/

namespace FunctionForm

/-- The heading of the function for arguments. -/
def heading (form : FunctionForm) (plans : List ArgumentPlan) : String :=
  "pub fn " ++ form.name ++ "(" ++ signature plans ++ ") -> " ++ form.result

/-- The only line of the function for arguments. -/
def context (form : FunctionForm) (plans : List ArgumentPlan) : String :=
  form.opening ++ contextText plans ++ form.closing

/-- A function is read back as it was written. -/
theorem read?_eq (form : FunctionForm) {plans : List ArgumentPlan}
    (values : ∀ a ∈ plans, IsValue a.argument) :
    form.read? (form.heading plans) (form.context plans) = some (.ofPlans plans) := by
  have heading : form.heading plans =
      "pub fn " ++ form.name ++ "(" ++ (signature plans ++ (")" ++ (" -> " ++ form.result))) := by
    rw [FunctionForm.heading, ← String.toList_inj]
    simp
  rw [heading, context, read?, @String.append_assoc form.opening]
  simp only [Text.afterLead?_append, Option.bind_eq_bind, Option.bind_some,
    readArguments?_signature values, readContext?_contextText values, and_self, if_true]

/-- A function of another name is not of the form. -/
theorem read?_other {form : FunctionForm} {heading : String} (line : String)
    (other : Text.beginsWith heading ("pub fn " ++ form.name ++ "(") = false) :
    form.read? heading line = none := by
  rw [read?, Text.afterLead?, other]
  rfl

end FunctionForm

/-! ## Calls -/

/-- The kind of the values that an argument of a type takes. -/
def typeKind? : String → Option ParameterKind
  | "impl ::std::string::ToString" => some .string
  | "i64" => some .int
  | "bool" => some .bool
  | "::fluentfga::chrono::DateTime<::fluentfga::chrono::Utc>" => some .timestamp
  | "::std::time::Duration" => some .duration
  | _ => none

/-- The kind of the values that a writer writes. -/
def writerKind? : String → Option ParameterKind
  | "string" => some .string
  | "int" => some .int
  | "boolean" => some .bool
  | "timestamp" => some .timestamp
  | "duration" => some .duration
  | _ => none

theorem typeKind?_argumentType (kind : ParameterKind) :
    typeKind? (argumentType kind) = some kind := by
  cases kind <;> rfl

theorem writerKind?_valueWriter (kind : ParameterKind) :
    writerKind? (valueWriter kind) = some kind := by
  cases kind <;> rfl

/-- The value of an entry, where each argument has the value that `scope` gives it. -/
def ContextEntry.written? (scope : List (String × Value)) (e : ContextEntry) :
    Option (String × Json) := do
  let value ← Keyed.find? scope e.argument
  if writerKind? e.writer = some value.kind then some (e.key, value.toJson) else none

/-- The context that a function builds, when it is called with values of the types of its
arguments. -/
def ContextFunction.call? (f : ContextFunction) (values : List Value) : Option Context :=
  if f.arguments.map (typeKind? ·.type) = values.map (some ·.kind) then
    (f.entries.mapM (ContextEntry.written? ((f.arguments.map (·.name)).zip values))).map .ofList
  else none

/-- A function binds parameters: it has one argument for each, in order, of the type of its kind,
and one entry for each, in order, under its name, with what the writer of its kind writes of the
argument in the same place. -/
structure ContextFunction.Binds (f : ContextFunction) (parameters : List Parameter) : Prop where
  keys : f.keys = parameters.map (·.name)
  types : f.arguments.map (typeKind? ·.type) = parameters.map (some ·.kind)
  writers : f.entries.map (writerKind? ·.writer) = parameters.map (some ·.kind)
  aligned : f.entries.map (·.argument) = f.arguments.map (·.name)
  distinct : (f.arguments.map (·.name)).Nodup

/-- A function that was read back binds each parameter once: the keys are the names of the
parameters, and each is written from the argument made for it. -/
theorem binds_ofPlans {plans : List ArgumentPlan} (distinct : (plans.map (·.argument)).Nodup) :
    (ContextFunction.ofPlans plans).Binds (plans.map (·.parameter)) := by
  constructor
  case distinct => simpa [ContextFunction.ofPlans, Function.comp_def] using distinct
  all_goals
    simp [ContextFunction.keys, ContextFunction.ofPlans, Function.comp_def, ArgumentPlan.parameter,
      typeKind?_argumentType, writerKind?_valueWriter]

/-- Its entries are written from the values that its arguments have. -/
theorem written?_ofPlans {scope : List (String × Value)} {plans : List ArgumentPlan}
    {values : List Value} (kinds : values.map (·.kind) = plans.map (·.kind))
    (found : ∀ p ∈ plans.zip values, Keyed.find? scope p.1.argument = some p.2) :
    (ContextFunction.ofPlans plans).entries.mapM (ContextEntry.written? scope) =
      some ((plans.map (·.key)).zip (values.map (·.toJson))) := by
  induction plans generalizing values with
  | nil => cases values <;> rfl
  | cons a plans ih =>
    cases values with
    | nil => cases kinds
    | cons v values =>
      obtain ⟨kind, kinds⟩ := List.cons.inj kinds
      rw [List.zip_cons_cons, List.forall_mem_cons] at found
      have later := ih kinds found.2
      simp only [ContextFunction.ofPlans] at later ⊢
      rw [List.map_cons, List.mapM_cons, later]
      simp [ContextEntry.written?, found.1, writerKind?_valueWriter, kind]

/-- A function called with values of the right kinds binds each value to its key. -/
theorem call?_ofPlans {plans : List ArgumentPlan} (distinct : (plans.map (·.argument)).Nodup)
    {values : List Value} (kinds : values.map (·.kind) = plans.map (·.kind)) :
    (ContextFunction.ofPlans plans).call? values =
      some (.ofList ((plans.map (·.key)).zip (values.map (·.toJson)))) := by
  have names : (ContextFunction.ofPlans plans).arguments.map (·.name) =
      plans.map (·.argument) := by simp [ContextFunction.ofPlans, Function.comp_def]
  have types : (ContextFunction.ofPlans plans).arguments.map (typeKind? ·.type) =
      values.map (some ·.kind) := by
    have both := congrArg (List.map some) kinds
    simpa [ContextFunction.ofPlans, Function.comp_def, typeKind?_argumentType] using both.symm
  have found : ∀ p ∈ plans.zip values,
      Keyed.find? ((plans.map (·.argument)).zip values) p.1.argument = some p.2 := by
    intro p mem
    obtain ⟨i, here⟩ := List.mem_iff_getElem?.mp mem
    obtain ⟨plan, value⟩ := List.getElem?_zip_eq_some.mp here
    rw [Keyed.find?_zip distinct (by rw [List.getElem?_map, plan]; rfl), value]
  rw [ContextFunction.call?, if_pos types, names, written?_ofPlans kinds found]
  rfl

end Rebac.Bindings
