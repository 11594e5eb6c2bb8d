import Rebac.Proofs.Bindings.Capability
import Rebac.Proofs.Bindings.Nesting

/-!
# Bindings under every policy

A policy decides which types are accessors, and nothing else. Bindings exist under every policy or,
for one reason, under none. Their text is the same but for one line for each accessor, with a blank
line above, and no other line of it makes a type an accessor or a resource, unless it is a later
line of the version.
-/

namespace Rebac.Bindings

open Accessor (Policy)
open Schema (Model TypeDefinition)

/-! ## The layout of a text -/

/-- A part under a blank line. -/
def beneath (part : List Piece) : String := "\n" ++ render 0 part

/-- Parts that close their blocks all stand at the depth of the text. -/
theorem render_apart {parts : List (List Piece)} (nested : ∀ part ∈ parts, Nested part) :
    render 0 (apart parts) = String.join (parts.map beneath) := by
  induction parts with
  | nil => rfl
  | cons part parts ih =>
    obtain ⟨here, later⟩ := List.forall_mem_cons.mp nested
    have blank (pieces : List Piece) : render 0 (.blank :: pieces) = "\n" ++ render 0 pieces := rfl
    rw [apart, List.flatMap_cons, ← apart, List.cons_append, blank, render_append,
      here.foldl_depthAfter, ih later, List.map_cons, String.join_cons, beneath,
      String.append_assoc]

/-! ## Sections -/

/-- The text of a type: the part that no policy has a bearing on, and the type that it is for. -/
structure Section where
  definition : TypeDefinition
  identifier : String
  body : String

/-- The text of a type under a policy. An accessor has a blank line and the line that makes it
one. -/
def Section.text (policy : Policy) (s : Section) : String :=
  s.body ++ if policy.isAccessor s.definition then
    "\n" ++ (Capability.accessor.line s.identifier ++ "\n") else ""

/-- The section of a planned type. -/
def TypePlan.section (p : TypePlan) : Section :=
  ⟨p.definition, p.identifier, String.join (p.parts.map beneath)⟩

theorem beneath_line (k : Capability) (identifier : String) :
    beneath [.line (k.line identifier)] = "\n" ++ (k.line identifier ++ "\n") := by
  have first : (k.line identifier).toList.head? = some 'i' := by
    cases k <;> simp [Capability.line, Capability.lead]
  rw [beneath, render_line first]

theorem join_parts (policy : Policy) (p : TypePlan) :
    String.join ((p.parts ++ p.accessorParts policy).map beneath) = p.section.text policy := by
  have implementation : accessorImpl p = [.line (Capability.accessor.line p.identifier)] := rfl
  have definition : p.section.definition = p.definition := rfl
  rw [List.map_append, String.join_append, TypePlan.accessorParts, Section.text, definition]
  split
  · rw [List.map_singleton, String.join_cons, String.join_nil, String.append_empty, implementation,
      beneath_line]
    rfl
  · rfl

/-- The text of a plan under a policy: its top, its types in order, and its conditions. -/
theorem source_eq_sections (policy : Policy) (plan : Plan) :
    plan.source policy = front plan.version ++
      (String.join ((plan.types.map (·.section)).map (·.text policy)) ++
        String.join ((conditionParts plan.conditions).map beneath)) := by
  have sections : String.join
      ((plan.types.flatMap fun p => p.parts ++ p.accessorParts policy).map beneath) =
        String.join ((plan.types.map (·.section)).map (·.text policy)) := by
    induction plan.types with
    | nil => rfl
    | cons p rest ih =>
      rw [List.flatMap_cons, List.map_append, String.join_append, join_parts, ih, List.map_cons,
        List.map_cons, String.join_cons]
  have nested : ∀ part ∈ plan.below policy, Nested part := by
    refine List.forall_mem_append.mpr ⟨fun part mem => ?_, nested_conditionParts plan.conditions⟩
    obtain ⟨p, -, own⟩ := List.mem_flatMap.mp mem
    exact nested_typeParts policy p part own
  rw [Plan.source_eq, render_apart nested, Plan.below, List.map_append, String.join_append,
    sections]

/-! ## The lines that give a capability -/

/-- The lines of a version after the first that give a capability. -/
def Capability.inVersion (k : Capability) (version : String) : List (List Char) :=
  (version.toList.splitOn '\n').tail.filter k.heads

section

variable {k : Capability}

/-- A version of one line gives no capability. -/
theorem inVersion_of_line {version : String} (one : Lacks '\n' version) :
    k.inVersion version = [] := by
  rw [Capability.inVersion, List.splitOn_eq_singleton one]
  rfl

theorem linesOf_front (version rest : String) :
    k.linesOf (front version ++ rest) = k.inVersion version ++ k.linesOf rest := by
  have top : front version ++ rest =
      "// @generated by fluentfga-codegen. Do not edit by hand." ++ "\n" ++
        ("// Schema version: " ++ version ++ "\n" ++ rest) := String.append_assoc
  have generated : k.linesOf "// @generated by fluentfga-codegen. Do not edit by hand." = [] := by
    cases k <;> decide
  have versioned : k.linesOf ("// Schema version: " ++ version) = k.inVersion version := by
    cases lines : version.toList.splitOn '\n' with
    | nil => exact absurd lines (List.splitOn_ne_nil _ _)
    | cons first later =>
      have other : k.heads ("// Schema version: ".toList ++ first) = false :=
        Capability.heads_other '/' (by simp) (by decide)
      rw [Capability.linesOf, String.toList_append, splitOn_append_of_not_mem (by decide) lines,
        Capability.inVersion, lines, List.filter_cons, other]
      rfl
  rw [top, Capability.linesOf_append_newline, generated, List.nil_append,
    Capability.linesOf_append_newline, versioned]

/-- Texts one after the other, of which each chosen one gives one line, and any other none. -/
theorem linesOf_join {α : Type} {xs : List α} {text : α → String} {chosen : α → Bool}
    {line : α → List Char}
    (each : ∀ x ∈ xs, ∀ rest, k.linesOf (text x ++ rest) =
      (if chosen x then [line x] else []) ++ k.linesOf rest) (rest : String) :
    k.linesOf (String.join (xs.map text) ++ rest) =
      (xs.filter chosen).map line ++ k.linesOf rest := by
  induction xs with
  | nil => simp
  | cons x xs ih =>
    obtain ⟨here, later⟩ := List.forall_mem_cons.mp each
    rw [List.map_cons, String.join_cons, String.append_assoc, here, ih later]
    cases pick : chosen x <;> simp [pick]

theorem linesOf_calm {parts : List (List Piece)} (calm : ∀ part ∈ parts, Calm k (reread part))
    (rest : String) : k.linesOf (String.join (parts.map beneath) ++ rest) = k.linesOf rest := by
  induction parts with
  | nil => simp
  | cons part parts ih =>
    obtain ⟨here, later⟩ := List.forall_mem_cons.mp calm
    have blank := Capability.linesOf_append_newline (k := k) ""
      (render 0 part ++ (String.join (parts.map beneath) ++ rest))
    rw [Capability.linesOf_empty, List.nil_append, linesOf_render here, ih later] at blank
    rw [List.map_cons, String.join_cons, beneath, String.append_assoc, String.append_assoc]
    exact blank

/-- The line that gives one capability gives no other. -/
theorem linesOf_beneath_line {k' : Capability} {identifier : String} (word : IsWord identifier)
    (rest : String) : k.linesOf (beneath [.line (k'.line identifier)] ++ rest) =
      (if k = k' then [(k'.line identifier).toList] else []) ++ k.linesOf rest := by
  have one : Lacks '\n' (k'.line identifier) := by
    have own : Lacks '\n' identifier := word.lacks (by decide)
    cases k' <;> exact .append (.append (.literal (by decide)) own) (.literal (by decide))
  have heads : k.heads (k'.line identifier).toList = decide (k = k') := by
    cases k <;> cases k' <;>
      simp [Capability.heads, Capability.line, Capability.lead, List.isPrefixOf]
  have split : beneath [.line (k'.line identifier)] ++ rest =
      "" ++ "\n" ++ (k'.line identifier ++ "\n" ++ rest) := by
    rw [beneath_line, String.append_assoc]
    rfl
  rw [split, Capability.linesOf_append_newline, Capability.linesOf_empty, List.nil_append,
    Capability.linesOf_append_newline, Capability.linesOf_line one, heads]
  simp only [decide_eq_true_eq]

end

/-- The parts of a type give no capability, but for the line that makes a type with relations a
resource. -/
theorem exists_calm {p : TypePlan} (planned : TypePlanned p) :
    ∃ calm, p.parts = calm ++ (if p.definition.hasRelations then [resourceImpl p] else []) ∧
      ∀ (k : Capability), ∀ part ∈ calm, Calm k (reread part) := by
  have word := isWord_of_type planned.identifier
  have plain {part : List Piece} (mem : part ∈ p.parts) : reread part = part :=
    (plain_typeParts planned .none part (List.mem_append_left _ mem)).reread_eq
  rcases planned.form with ⟨unrelated, form⟩ | ⟨related, direct, computed, form, resource⟩
  · have parts : p.parts = [markerStruct p, entityImpl p] ++
        (if p.definition.hasRelations then [resourceImpl p] else []) := by
      simp [TypePlan.parts, form, unrelated]
    refine ⟨_, parts, fun k part mem => ?_⟩
    rw [plain (parts ▸ List.mem_append_left _ mem)]
    simp only [List.mem_cons, List.not_mem_nil, or_false] at mem
    rcases mem with rfl | rfl
    · exact calm_markerStruct p
    · exact calm_entityImpl p
  · have parts : p.parts = (resourceParts p direct (Perform.of computed) ++ [entityImpl p]) ++
        (if p.definition.hasRelations then [resourceImpl p] else []) := by
      simp [TypePlan.parts, form, related]
    refine ⟨_, parts, fun k part mem => ?_⟩
    rw [plain (parts ▸ List.mem_append_left _ mem)]
    rcases List.mem_append.mp mem with own | own
    · exact calm_resourceParts word resource.directPlanned.spelt resource.members_spelt part own
    · rw [List.mem_singleton.mp own]
      exact calm_entityImpl p

theorem linesOf_section {p : TypePlan} (planned : TypePlanned p) (policy : Policy)
    (rest : String) :
    Capability.accessor.linesOf (p.section.text policy ++ rest) =
        (if policy.isAccessor p.definition then
          [(Capability.accessor.line p.identifier).toList] else []) ++
          Capability.accessor.linesOf rest ∧
      Capability.resource.linesOf (p.section.text policy ++ rest) =
        (if p.definition.hasRelations then
          [(Capability.resource.line p.identifier).toList] else []) ++
          Capability.resource.linesOf rest := by
  have word := isWord_of_type planned.identifier
  obtain ⟨plain, parts, calm⟩ := exists_calm planned
  have resource : resourceImpl p = [.line (Capability.resource.line p.identifier)] := rfl
  have accessor : accessorImpl p = [.line (Capability.accessor.line p.identifier)] := rfl
  have text : p.section.text policy ++ rest =
      String.join (plain.map beneath) ++
        (String.join ((if p.definition.hasRelations then [resourceImpl p] else []).map beneath) ++
          (String.join ((p.accessorParts policy).map beneath) ++ rest)) := by
    rw [← join_parts, parts, List.map_append, List.map_append, String.join_append,
      String.join_append, String.append_assoc, String.append_assoc]
  rw [text, linesOf_calm (calm _), linesOf_calm (calm _), TypePlan.accessorParts]
  cases related : p.definition.hasRelations <;>
    cases chosen : policy.isAccessor p.definition <;>
    simp [resource, accessor, linesOf_beneath_line word]

/-! ## Bindings under every policy -/

/-- What the text of bindings is under a policy. Its top, sections and end are those under any other
policy, and a type without relations is an accessor. The lines that give a capability are those of
the accessors and of the types with relations, below those in the version. -/
structure TextUnder (policy : Policy) (version : String) (sections : List Section) (back : String)
    (source : String) : Prop where
  layout : source = front version ++ (String.join (sections.map (·.text policy)) ++ back)
  unrelated : ∀ s ∈ sections, s.definition.hasRelations = false →
    policy.isAccessor s.definition = true
  accessors : Capability.accessor.linesOf source = Capability.accessor.inVersion version ++
    (sections.filter fun s => policy.isAccessor s.definition).map fun s =>
      (Capability.accessor.line s.identifier).toList
  resources : Capability.resource.linesOf source = Capability.resource.inVersion version ++
    (sections.filter fun s => s.definition.hasRelations).map fun s =>
      (Capability.resource.line s.identifier).toList
  /-- A version of one line has none of these lines, so a type has the line of an accessor when the
  policy says so, and that of a resource when it has relations, and no other line gives either. -/
  ofOneLine : Lacks '\n' version →
    (Capability.accessor.linesOf source =
      (sections.filter fun s => policy.isAccessor s.definition).map fun s =>
        (Capability.accessor.line s.identifier).toList) ∧
    Capability.resource.linesOf source =
      (sections.filter fun s => s.definition.hasRelations).map fun s =>
        (Capability.resource.line s.identifier).toList

theorem calm_conditions {model : Model} {plan : Plan} (planOf : Plan.of model = .ok plan)
    (k : Capability) : ∀ part ∈ conditionParts plan.conditions, Calm k (reread part) :=
  calm_conditionParts (conditionPlans_ok (Plan.of_conditions planOf)).1

theorem textUnder_source {model : Model} {plan : Plan} (planOf : Plan.of model = .ok plan)
    (planned : ∀ p ∈ plan.types, TypePlanned p) (policy : Policy) :
    TextUnder policy plan.version (plan.types.map (·.section))
      (String.join ((conditionParts plan.conditions).map beneath)) (plan.source policy) := by
  have layout := source_eq_sections policy plan
  have back (k : Capability) :
      k.linesOf (String.join ((conditionParts plan.conditions).map beneath)) = [] := by
    have lines := linesOf_calm (calm_conditions planOf k) ""
    rwa [String.append_empty, Capability.linesOf_empty] at lines
  have sections (k : Capability) {chosen : TypePlan → Bool} {line : TypePlan → List Char}
      (each : ∀ p ∈ plan.types, ∀ rest, k.linesOf (p.section.text policy ++ rest) =
        (if chosen p then [line p] else []) ++ k.linesOf rest) :
      k.linesOf (plan.source policy) =
        k.inVersion plan.version ++ (plan.types.filter chosen).map line := by
    rw [layout, linesOf_front, List.map_map]
    exact congrArg _ ((linesOf_join each _).trans (by rw [back, List.append_nil]))
  have accessors : Capability.accessor.linesOf (plan.source policy) =
      Capability.accessor.inVersion plan.version ++
        ((plan.types.map (·.section)).filter fun s => policy.isAccessor s.definition).map fun s =>
          (Capability.accessor.line s.identifier).toList := by
    rw [sections .accessor fun p mem rest => (linesOf_section (planned p mem) policy rest).1,
      List.filter_map, List.map_map]
    rfl
  have resources : Capability.resource.linesOf (plan.source policy) =
      Capability.resource.inVersion plan.version ++
        ((plan.types.map (·.section)).filter fun s => s.definition.hasRelations).map fun s =>
          (Capability.resource.line s.identifier).toList := by
    rw [sections .resource fun p mem rest => (linesOf_section (planned p mem) policy rest).2,
      List.filter_map, List.map_map]
    rfl
  refine ⟨layout, ?unrelated, accessors, resources, ?ofOneLine⟩
  case unrelated =>
    intro s mem none
    rw [Policy.isAccessor, none]
    rfl
  case ofOneLine =>
    intro one
    rw [accessors, resources, inVersion_of_line one, inVersion_of_line one, List.nil_append,
      List.nil_append]
    exact ⟨rfl, rfl⟩

/-- A policy has a bearing on the lines that make types accessors, and on nothing else. A schema has
bindings under every policy, or under none for one reason. The texts under any two policies have the
same top, the same sections and the same end. In the texts of a version of one line a type has the
line of an accessor exactly under the policies that say so, and that of a resource exactly when it
has relations. -/
theorem generate_varies_in_accessors (model : Model) :
    (∃ e, ∀ policy, generate model policy = .error e) ∨
      ∃ (sections : List Section) (back : String),
        sections.map (·.definition) = model.types ∧ (sections.map (·.identifier)).Nodup ∧
          (∀ s ∈ sections, typeIdentifier? (Naming.pascal s.definition.name) = some s.identifier) ∧
          ∀ policy, ∃ source, generate model policy = .ok source ∧
            TextUnder policy model.version sections back source := by
  cases planOf : Plan.of model with
  | error e =>
    refine .inl ⟨e, fun policy => ?_⟩
    rw [generate, planOf]
    rfl
  | ok plan =>
    obtain ⟨definitions, planned, nodup⟩ := Plan.of_types planOf
    refine .inr ⟨plan.types.map (·.section),
      String.join ((conditionParts plan.conditions).map beneath), ?definitions, ?apart, ?named,
      fun policy => ⟨plan.source policy, generate_of_plan planOf policy, ?text⟩⟩
    case definitions =>
      rw [List.map_map]
      exact definitions
    case apart =>
      rw [List.map_map]
      exact nodup_identifiers nodup
    case named =>
      intro s mem
      obtain ⟨p, own, rfl⟩ := List.mem_map.mp mem
      exact (planned p own).identifier
    case text =>
      rw [← Plan.version_of planOf]
      exact textUnder_source planOf planned policy

/-- A schema of this version with users, which have no relations, and teams, which have one. -/
def teamModel (version : String) : Model :=
  ⟨version, [Sample.typeWith "user" [] [], Sample.typeWith "team" ["member"] []], []⟩

/-- A team is an accessor under one policy and not under another. So its line is in one text and not
in the other. A user has one in both. -/
theorem generate_varies_in_accessors_team :
    ∃ source source', generate (teamModel "1.1") .standard = .ok source ∧
      generate (teamModel "1.1") .none = .ok source' ∧
      Capability.accessor.linesOf source =
        ["impl ::fluentfga::Accessor for User \x7b\x7d".toList,
          "impl ::fluentfga::Accessor for Team \x7b\x7d".toList] ∧
      Capability.accessor.linesOf source' =
        ["impl ::fluentfga::Accessor for User \x7b\x7d".toList] ∧
      Capability.resource.linesOf source = Capability.resource.linesOf source' := by
  have one : Lacks '\n' (teamModel "1.1").version := by decide
  have computed : (Plan.of (teamModel "1.1")).toOption.map (·.version) = some "1.1" := by
    decide +kernel
  obtain ⟨plan, planned, -⟩ := exists_plan computed
  rcases generate_varies_in_accessors (teamModel "1.1") with ⟨e, never⟩ | both
  · cases (never .none).symm.trans (generate_of_plan planned .none)
  · obtain ⟨sections, back, definitions, -, identifiers, texts⟩ := both
    obtain ⟨source, made, under⟩ := texts .standard
    obtain ⟨source', made', under'⟩ := texts .none
    obtain ⟨user, rest, rfl, users, definitions⟩ := List.map_eq_cons_iff.mp definitions
    obtain ⟨team, rest, rfl, teams, definitions⟩ := List.map_eq_cons_iff.mp definitions
    obtain rfl := List.map_eq_nil_iff.mp definitions
    have named {t : Section} (mem : t ∈ [user, team]) {name : String}
        (called : typeIdentifier? (Naming.pascal t.definition.name) = some name) :
        t.identifier = name := Option.some.inj ((identifiers t mem).symm.trans called)
    have userName : user.identifier = "User" := by
      refine named List.mem_cons_self ?_
      rw [users]
      decide +kernel
    have teamName : team.identifier = "Team" := by
      refine named (List.mem_cons_of_mem _ List.mem_cons_self) ?_
      rw [teams]
      decide +kernel
    have everywhere (policy : Policy) : policy.isAccessor user.definition = true := by
      rw [users]
      rfl
    have standard : Policy.standard.isAccessor team.definition = true := by
      rw [teams]
      decide
    have none : Policy.none.isAccessor team.definition = false := by
      rw [teams]
      decide
    refine ⟨source, source', made, made', ?_, ?_,
      (under.ofOneLine one).2.trans (under'.ofOneLine one).2.symm⟩
    · rw [(under.ofOneLine one).1]
      simp only [List.filter_cons, everywhere, standard, if_true, List.filter_nil, List.map_cons,
        List.map_nil, userName, teamName]
      rfl
    · rw [(under'.ofOneLine one).1]
      simp only [List.filter_cons, everywhere, none, if_true, List.filter_nil, List.map_cons,
        List.map_nil, userName, Bool.false_eq_true, if_false]
      rfl

/-- A version whose later lines give a capability to each of the two types. -/
def givingVersion : String :=
  "1.1\nimpl ::fluentfga::Accessor for Team \x7b\x7d\n" ++
    "impl ::fluentfga::Resource for User \x7b\x7d"

/-- By the later lines of that version a team is an accessor under a policy that says otherwise, and
a user is a resource without relations. -/
theorem version_gives_capabilities :
    ∃ source, generate (teamModel givingVersion) .none = .ok source ∧
      Policy.none.isAccessor (Sample.typeWith "team" ["member"] []) = false ∧
      "impl ::fluentfga::Accessor for Team \x7b\x7d".toList ∈
        Capability.accessor.linesOf source ∧
      (Sample.typeWith "user" [] []).hasRelations = false ∧
      "impl ::fluentfga::Resource for User \x7b\x7d".toList ∈
        Capability.resource.linesOf source := by
  have accessor : "impl ::fluentfga::Accessor for Team \x7b\x7d".toList ∈
      Capability.accessor.inVersion givingVersion := by decide +kernel
  have resource : "impl ::fluentfga::Resource for User \x7b\x7d".toList ∈
      Capability.resource.inVersion givingVersion := by decide +kernel
  have computed : (Plan.of (teamModel givingVersion)).toOption.map (·.version) =
      some givingVersion := by
    decide +kernel
  obtain ⟨plan, planned, version⟩ := exists_plan computed
  have under := textUnder_source planned (Plan.of_types planned).2.1 .none
  refine ⟨_, generate_of_plan planned .none, by decide, ?_, by decide, ?_⟩
  · rw [under.accessors, version]
    exact List.mem_append_left _ accessor
  · rw [under.resources, version]
    exact List.mem_append_left _ resource

end Rebac.Bindings
