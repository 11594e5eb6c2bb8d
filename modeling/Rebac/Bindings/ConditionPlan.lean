import Rebac.Bindings.TypePlan

/-! # Plans of conditions

What the bindings of a condition declare: a module with one function per phase, whose arguments are
named after the parameters of that phase. -/

namespace Rebac.Bindings

open Schema (Condition Parameter ParameterKind)

/-- A parameter, with the argument that gives its value. -/
structure ArgumentPlan where
  /-- The declared name, which is the key in a context. -/
  key : String
  argument : String
  kind : ParameterKind
deriving DecidableEq, Repr

/-- The plan of a condition. -/
structure ConditionPlan where
  condition : Condition
  moduleName : String
  init : List ArgumentPlan
  provided : List ArgumentPlan
deriving DecidableEq, Repr

/-- The name of a parameter without its phase, in canonical form. -/
def shortName (p : Parameter) : String := Naming.canonical p.displayName

/-- The name of the argument of a parameter: the short name, or the full one where two parameters of
the phase have the same short name. -/
def argumentName (shortNames : List String) (p : Parameter) : String :=
  if 1 < shortNames.count (shortName p) then Naming.canonical p.name else shortName p

/-- The plans of the arguments of one phase. No argument may be among `taken` or come twice. -/
def argumentPlansFrom (condition : String) (shortNames : List String) :
    List String → List Parameter → Except Error (List ArgumentPlan)
  | _, [] => .ok []
  | taken, p :: rest =>
    match valueIdentifier? (argumentName shortNames p) with
    | none => .error (.notParameterIdentifier condition p.name)
    | some argument =>
      if argument ∈ taken then .error (.argumentTaken condition p.name argument)
      else do
        let others ← argumentPlansFrom condition shortNames (argument :: taken) rest
        return ⟨p.name, argument, p.kind⟩ :: others

/-- The plans of the arguments for these parameters, which are of one phase. -/
def argumentPlans (condition : String) (parameters : List Parameter) :
    Except Error (List ArgumentPlan) :=
  argumentPlansFrom condition (parameters.map shortName) [] parameters

/-- The plan of a condition. -/
def ConditionPlan.of (c : Condition) : Except Error ConditionPlan :=
  match valueIdentifier? (Naming.canonical c.name) with
  | none => .error (.notConditionIdentifier c.name)
  | some moduleName => do
    let init ← argumentPlans c.name c.initParameters
    let provided ← argumentPlans c.name c.providedParameters
    return ⟨c, moduleName, init, provided⟩

/-- The plans of conditions in order. No module may be among `taken` or come twice. -/
def conditionPlans : List String → List Condition → Except Error (List ConditionPlan)
  | _, [] => .ok []
  | taken, c :: rest => do
    let plan ← ConditionPlan.of c
    if plan.moduleName ∈ taken then .error (.moduleTaken c.name plan.moduleName)
    else
      let others ← conditionPlans (plan.moduleName :: taken) rest
      return plan :: others

end Rebac.Bindings
