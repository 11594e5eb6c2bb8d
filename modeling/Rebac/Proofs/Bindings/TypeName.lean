import Rebac.Proofs.Bindings.Plan
import Rebac.Proofs.Naming.Words

/-!
# Names of types

Bindings are made only of types whose names come back from their Pascal forms. The main statement
says which names these are: words of small ASCII letters and digits that single underscores join,
and that may follow each other. A type of any other name is refused for it, and of these names none
is.
-/

namespace Rebac.Bindings

open Naming (canonical pascal InWords)
open Schema (Relation TypeDefinition)

/-- The Pascal form of a name in words makes an identifier. -/
theorem isIdentifier_pascal {name : String} (inWords : InWords name) :
    isIdentifier (pascal name) = true := by
  obtain ⟨c, rest, chars, upper, plain⟩ := inWords.pascal_eq
  have start : isIdentifierStart c = true := by
    rw [isIdentifierStart, Text.isAlpha_eq, upper]
    rfl
  simp only [isIdentifier, chars, start, Bool.true_and, List.all_eq_true]
  exact fun d mem => by rw [isIdentifierPart, plain d mem]; rfl

theorem typeIdentifier?_isSome {name : String} (word : isIdentifier name = true) :
    ∃ identifier, typeIdentifier? name = some identifier := by
  rw [typeIdentifier?, if_pos word]
  split <;> exact ⟨_, rfl⟩

/-- A name that comes back from its Pascal form, which makes an identifier, is in words. -/
theorem inWords_of_identifier {name identifier : String} (same : canonical (pascal name) = name)
    (named : typeIdentifier? (pascal name) = some identifier) : InWords name := by
  have word := isIdentifier_of_type named
  have snake : ∀ c ∈ name.toList, Naming.isSnake c = true := by
    intro c mem
    rw [← same] at mem
    exact Naming.isSnake_of_mem_canonical (of_isIdentifier word).2 mem
  unfold isIdentifier at word
  split at word
  · cases word
  next c rest begins =>
    rw [Bool.and_eq_true] at word
    refine Naming.inWords_of_canonical_pascal snake begins ?_ same
    have start := word.1
    rw [isIdentifierStart, Bool.or_eq_true, Text.isAlpha_eq, Bool.or_eq_true, Text.isUpper_iff,
      Text.isLower_iff, decide_eq_true_eq] at start
    rw [← Bool.not_eq_true, Text.isDigit_iff]
    rcases start with letter | rfl
    · omega
    · decide

/-! ## Refusals for the name of a type -/

theorem requireDistinct_refuses {scope : Scope} {typeName : String} {names : List String}
    {e : Error} (refused : requireDistinct scope typeName names = .error e) :
    ∃ name, e = .repeatedName scope name typeName := by
  unfold requireDistinct at refused
  split at refused
  · cases refused
    exact ⟨_, rfl⟩
  · cases refused

theorem relationPlans_refuses {typeName : String} {relations : List Relation} {e : Error}
    (refused : relationPlans typeName relations = .error e) :
    ∃ relation, e = .notRelationIdentifier relation typeName := by
  induction relations with
  | nil => cases refused
  | cons relation rest ih =>
    rw [relationPlans, bind_eq_error] at refused
    rcases refused with first | ⟨plan, -, refused⟩
    · unfold RelationPlan.of at first
      split at first
      · cases first
      · cases first
        exact ⟨_, rfl⟩
    · rw [bind_eq_error] at refused
      rcases refused with later | ⟨_, -, made⟩
      · exact ih later
      · cases made

theorem requireDistinctNames_refuses {typeName : String} {direct : List RelationPlan}
    {perform : Perform} {e : Error}
    (refused : requireDistinctNames typeName direct perform = .error e) :
    ∃ scope name, e = .repeatedName scope name typeName := by
  simp only [requireDistinctNames, bind_eq_error] at refused
  rcases refused with refused | ⟨_, -, refused | ⟨_, -, refused | ⟨_, -, refused⟩⟩⟩ <;>
    exact ⟨_, requireDistinct_refuses refused⟩

/-- The relations of a type are never refused for the name of a type. -/
theorem ofRelations_ne_nonCanonicalType (t : TypeDefinition) (name : String) :
    Form.ofRelations t ≠ .error (.nonCanonicalType name) := by
  intro refused
  simp only [Form.ofRelations, bind_eq_error] at refused
  rcases refused with direct | ⟨direct, -, computed | ⟨computed, -, refused⟩⟩
  · obtain ⟨_, ⟨⟩⟩ := relationPlans_refuses direct
  · obtain ⟨_, ⟨⟩⟩ := relationPlans_refuses computed
  · split at refused
    · cases refused
    · rw [bind_eq_error] at refused
      rcases refused with repeated | ⟨_, -, made⟩
      · obtain ⟨_, _, ⟨⟩⟩ := requireDistinctNames_refuses repeated
      · cases made

/-- A type is refused for its name exactly if no identifier is made of it. -/
theorem typePlan_eq_nonCanonicalType_iff {t : TypeDefinition} :
    TypePlan.of t = .error (.nonCanonicalType t.name) ↔ canonicalIdentifier? t.name = none := by
  unfold TypePlan.of
  cases canonicalIdentifier? t.name with
  | none => simp
  | some identifier =>
    refine iff_of_false (fun refused => ?_) (Option.some_ne_none _)
    simp only at refused
    split at refused
    · rw [bind_eq_error] at refused
      rcases refused with relations | ⟨_, -, made⟩
      · exact ofRelations_ne_nonCanonicalType t t.name relations
      · cases made
    · cases refused

theorem canonicalIdentifier?_eq_none_iff {name : String} :
    canonicalIdentifier? name = none ↔
      ¬ (canonical (pascal name) = name ∧
        ∃ identifier, typeIdentifier? (pascal name) = some identifier) := by
  unfold canonicalIdentifier?
  split
  next same => simp [same, Option.eq_none_iff_forall_ne_some]
  next other => simp [other]

/-- The name of a type makes bindings exactly if it is in words. Such a name comes back from its
Pascal form, and the Pascal form from the name. A type with any other name is refused for the name,
so a type is whose name is not in ASCII. -/
theorem typeName_accepted_iff_inWords (name : String) :
    ((canonical (pascal name) = name ∧
      ∃ identifier, typeIdentifier? (pascal name) = some identifier) ↔ InWords name) ∧
    (InWords name →
      canonical (pascal name) = name ∧ pascal (canonical (pascal name)) = pascal name) ∧
    ∀ relations : List Relation,
      (TypePlan.of ⟨name, relations⟩ = .error (.nonCanonicalType name) ↔ ¬ InWords name) ∧
      ((∃ c ∈ name.toList, 128 ≤ c.toNat) →
        TypePlan.of ⟨name, relations⟩ = .error (.nonCanonicalType name)) := by
  have accepted : (canonical (pascal name) = name ∧
      ∃ identifier, typeIdentifier? (pascal name) = some identifier) ↔ InWords name := by
    constructor
    · rintro ⟨same, identifier, named⟩
      exact inWords_of_identifier same named
    · exact fun inWords =>
        ⟨inWords.canonical_pascal, typeIdentifier?_isSome (isIdentifier_pascal inWords)⟩
  have refused (relations : List Relation) :
      TypePlan.of ⟨name, relations⟩ = .error (.nonCanonicalType name) ↔ ¬ InWords name := by
    rw [← accepted, ← canonicalIdentifier?_eq_none_iff]
    exact typePlan_eq_nonCanonicalType_iff
  refine ⟨accepted, fun inWords => ?_, fun relations => ⟨refused relations, ?_⟩⟩
  · have same := inWords.canonical_pascal
    exact ⟨same, congrArg pascal same⟩
  · rintro ⟨c, mem, foreign⟩
    refine (refused relations).mpr fun inWords => ?_
    have ascii := Naming.isSnake_iff.mp (inWords.isSnake c mem)
    omega

example : ["a_bc", "a_b", "a2_b", "a_2b"].map (fun name => (canonicalIdentifier? name).isSome) =
    [true, false, true, false] := by decide +kernel

end Rebac.Bindings
