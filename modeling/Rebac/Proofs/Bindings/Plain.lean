import Rebac.Proofs.Bindings.Spelling

/-!
# Bindings read from their text

Every piece of bindings stays on one line and is read as it is, but for two comments that hold free
text: the one with the version at the top, and the one with the name of a condition. The name may
have newlines, and the version may hold anything. So the outline that is read from the text below
the top is the one that was written, with some idle lines for each comment with a name.
-/

namespace Rebac.Bindings

open Accessor (Policy)

/-! ## Lines -/

/-- The line of a field is read as it is. -/
theorem reads_field {identifier type : String} (name : IsName identifier)
    (one : Lacks '\n' type) :
    outlineOf ("pub " ++ identifier ++ ": " ++ type ++ ",") =
      [.line ("pub " ++ identifier ++ ": " ++ type ++ ",")] := by
  have field : Lacks '\n' identifier := name.lacks (by decide) (by decide)
  have begun := (Begun.literal rfl (by decide) : Begun "pub ").append field
  exact ((begun.append (.literal (by decide))).append one).line rfl (by decide)

/-- A word begins a line. -/
theorem IsWord.begun {word : String} (named : IsWord word) : Begun word := by
  refine ⟨?_, named.lacks (by decide)⟩
  obtain ⟨c, cs, chars⟩ :=
    List.exists_cons_of_ne_nil (mt String.toList_eq_nil_iff.mp named.nonempty)
  have part : isIdentifierPart c = true := named.chars c (by simp [chars])
  rw [chars, List.head?_cons, Option.any_some, decide_eq_true_iff]
  constructor <;> rintro rfl <;> exact absurd part (by decide)

theorem reads_derive {abilities : String} (one : Lacks '\n' abilities) :
    outlineOf ("#[derive(" ++ abilities ++ ")]") = [.line ("#[derive(" ++ abilities ++ ")]")] :=
  ((Begun.literal rfl (by decide)).append one).line rfl (by decide)

/-- A documented item with its attribute, and the block under its heading. -/
theorem plain_item {comment abilities heading : String} {body : List Piece}
    (commented : outlineOf comment = [.line comment]) (able : Lacks '\n' abilities)
    (headed : outlineOf (heading ++ " \x7b") = [.enter heading]) (inside : Plain body) :
    Plain (.line comment :: deriveLine abilities :: block heading body) :=
  .line commented (.line (reads_derive able) (.block headed inside))

/-- A heading that ends with a word. -/
theorem reads_heading {lead name : String} (c : Char) (word : IsWord name)
    (first : lead.toList.head? = some c) (begins : c ≠ ' ' ∧ c ≠ '/') (one : Lacks '\n' lead) :
    outlineOf (lead ++ name ++ " \x7b") = [.enter (lead ++ name)] := by
  have own : Lacks '\n' name := word.lacks (by decide)
  exact outlineOf_heading c (by simp [first]) begins (lacks_append.mpr ⟨one, own⟩)

/-! ## The parts of a type -/

/-- A field line has a name and a type, both without newlines. -/
theorem plain_fields {relations : List RelationPlan} (spelt : ∀ r ∈ relations, r.Spelt) :
    Plain (relations.map fun r => fieldLine r.field stringType) := by
  refine .lines fun r mem => ?_
  obtain ⟨_, named⟩ := (spelt r mem).field
  exact reads_field (isName_of_value named) (by decide)

theorem plain_variants {relations : List RelationPlan} (spelt : ∀ r ∈ relations, r.Spelt) :
    Plain (relations.map fun r => .line (r.variant ++ ",")) :=
  .lines fun r mem => (spelt r mem).variant.begun.line rfl (by decide)

theorem plain_markerStruct {p : TypePlan} (planned : TypePlanned p) : Plain (markerStruct p) := by
  have name : Lacks '\n' p.definition.name := planned.newline_not_mem_name
  have own : Lacks '\n' p.identifier := (isWord_of_type planned.identifier).lacks (by decide)
  have commented : outlineOf ("/// Schema type `" ++ p.definition.name ++ "`.") =
      [.line ("/// Schema type `" ++ p.definition.name ++ "`.")] :=
    ((Begun.literal rfl (by decide)).append name).line rfl (by decide)
  have item : outlineOf ("pub struct " ++ p.identifier ++ ";") =
      [.line ("pub struct " ++ p.identifier ++ ";")] :=
    ((Begun.literal rfl (by decide)).append own).line rfl (by decide)
  exact .line commented (.line (reads_derive (.literal (by decide))) (.line item .nil))

/-- The structure of a resource is read as it is. Its comment holds the name of the type, which has
no newline because it is in snake case. -/
theorem plain_resourceStruct {p : TypePlan} (planned : TypePlanned p) {direct : List RelationPlan}
    (perform : Perform) (spelt : ∀ r ∈ direct, r.Spelt) :
    Plain (resourceStruct p direct perform) := by
  have name : Lacks '\n' p.definition.name := planned.newline_not_mem_name
  have word := isWord_of_type planned.identifier
  have group : Lacks '\n' p.groupName := (isWord_groupName word).lacks (by decide)
  have named : IsName performName :=
    isName_of_value (show valueIdentifier? performName = some performName by decide)
  have computed : Plain (perform.fieldLines p.groupName) := by
    cases perform with
    | absent => exact .nil
    | scalar => exact .line (reads_field named (by decide)) .nil
    | group => exact .line (reads_field named group) .nil
  exact plain_item (((Begun.literal rfl (by decide)).append name).line rfl (by decide))
    (.literal (by decide))
    (reads_heading 'p' word (by simp) (by decide) (.literal (by decide)))
    ((plain_fields spelt).append computed)

/-- A documented item of a type whose comment names the type. -/
theorem plain_part {p : TypePlan} (word : IsWord p.identifier) {comment lead name : String}
    {body : List Piece} (named : IsWord name) (commented : Begun comment)
    (begins : lead.toList.head? = some 'p') (led : Lacks '\n' lead)
    {abilities : String} (able : Lacks '\n' abilities) (inside : Plain body) :
    Plain (.line (comment ++ p.identifier ++ "`].") :: deriveLine abilities ::
      block (lead ++ name) body) := by
  have own : Lacks '\n' p.identifier := word.lacks (by decide)
  exact plain_item ((commented.append own).line rfl (by decide)) able
    (reads_heading 'p' named begins (by decide) led) inside

theorem plain_groupStruct {p : TypePlan} (word : IsWord p.identifier) {group : List RelationPlan}
    (spelt : ∀ r ∈ group, r.Spelt) : Plain (groupStruct p group) :=
  plain_part word (isWord_groupName word) (.literal rfl (by decide)) (by decide)
    (.literal (by decide)) (.literal (by decide)) (plain_fields spelt)

/-- So is the enumeration of a selector. -/
theorem plain_selectorEnum {p : TypePlan} (word : IsWord p.identifier) {direct : List RelationPlan}
    (perform : Perform) (spelt : ∀ r ∈ direct, r.Spelt) :
    Plain (selectorEnum p direct perform) := by
  have inner : Lacks '\n' p.groupSelectorName := (isWord_groupSelectorName word).lacks (by decide)
  have computed : Plain (perform.variantLines p.groupSelectorName) := by
    cases perform with
    | absent => exact .nil
    | scalar => exact .line (by decide) .nil
    | group =>
      exact .line (((Begun.literal rfl (by decide)).append inner).line rfl (by decide)) .nil
  exact plain_part word (isWord_selectorName word) (.literal rfl (by decide)) (by decide)
    (.literal (by decide)) (.literal (by decide))
    ((plain_variants spelt).append computed)

theorem plain_groupEnum {p : TypePlan} (word : IsWord p.identifier) {group : List RelationPlan}
    (spelt : ∀ r ∈ group, r.Spelt) : Plain (groupEnum p group) :=
  plain_part word (isWord_groupSelectorName word) (.literal rfl (by decide)) (by decide)
    (.literal (by decide)) (.literal (by decide)) (plain_variants spelt)

/-- The names in a chain are quoted, so each constant is on one line. -/
theorem plain_constants {t : SelectorTable} (spelt : t.Spelt) :
    Plain ((t.elements.map elementsLine).toList ++ t.constants.map ChainEntry.line) := by
  have elements : Plain (t.elements.map elementsLine).toList := by
    cases t.elements with
    | none => exact .nil
    | some names =>
      have shared : Lacks '\n' (quotedNames names) := lacks_newline_quotedNames names
      exact .line (((Begun.literal rfl (by decide)).append shared).line rfl (by decide)) .nil
  refine elements.append (.lines fun e mem => ?_)
  have constant : Lacks '\n' e.constant := (spelt.constants e mem).lacks (by decide)
  have steps : Lacks '\n' (", ".intercalate (e.steps.map Step.text)) := by
    refine .intercalate ?_ (by decide) (by decide)
    intro text own
    obtain ⟨s, -, rfl⟩ := List.mem_map.mp own
    exact lacks_newline_step s
  have members : Lacks '\n' memberType := .literal (by decide)
  have begun := (Begun.literal rfl (by decide) : Begun "const ").append constant
  have typed := (begun.append (.literal (by decide) : Lacks '\n' ": &'static [")).append members
  exact ((typed.append (.literal (by decide))).append steps).line rfl (by decide)

theorem plain_constantParts {t : SelectorTable} (spelt : t.Spelt) :
    ∀ part ∈ t.constantParts, Plain part := by
  intro part mem
  simp only [SelectorTable.constantParts] at mem
  split at mem
  · cases mem
  · rw [List.mem_singleton.mp mem]
    exact .block (reads_heading 'i' spelt.owner (by decide) (by decide) (.literal (by decide)))
      (plain_constants spelt)

/-- The match of a selector is read as it is, three blocks deep. -/
theorem plain_membersImpl {t : SelectorTable} (spelt : t.Spelt) : Plain t.membersImpl := by
  have arms : Plain (t.arms.map Arm.line) := by
    refine .lines fun a mem => ?_
    have variant : Lacks '\n' a.variant := (spelt.variants a mem).lacks (by decide)
    have begun := (Begun.literal rfl (by decide) : Begun "Self::").append variant
    have target := spelt.targets a mem
    cases leads : a.target with
    | constant name =>
      have constant : Lacks '\n' name := (target name leads).lacks (by decide)
      exact ((begun.append (.literal (by decide))).append constant).line rfl (by decide)
    | inner => exact begun.line rfl (by decide)
  have result : Lacks '\n' ("fn members(&self) -> &'static [" ++ memberType ++ "]") :=
    .append (.append (.literal (by decide)) (.literal (by decide))) (.literal (by decide))
  have members := outlineOf_heading 'f' (by simp) (by decide) result
  exact .block (reads_heading 'i' spelt.owner (by simp) (by decide) (.literal (by decide)))
    (.block members (.block (by decide) arms))

theorem plain_relationNameImpl {resource selector : String} (owner : IsWord resource)
    (word : IsWord selector) : Plain (relationNameImpl resource selector) := by
  have own : Lacks '\n' resource := owner.lacks (by decide)
  have lead : Lacks '\n' ("impl ::fluentfga::RelationName<" ++ resource ++ "> for ") :=
    .append (.append (.literal (by decide)) own) (.literal (by decide))
  have result : Lacks '\n' ("fn relation_name(&self) -> " ++ stringType) :=
    .append (.literal (by decide)) (.literal (by decide))
  exact .block (reads_heading 'i' word (by simp) (by decide) lead)
    (.block (outlineOf_heading 'f' (by simp) (by decide) result)
      (.line (outlineOf_literal rfl rfl (by decide)) .nil))

/-- All parts of a resource are read as they are. -/
theorem plain_resourceParts {p : TypePlan} (planned : TypePlanned p) {direct : List RelationPlan}
    {perform : Perform} (spelt : ∀ r ∈ direct, r.Spelt)
    (grouped : ∀ r ∈ perform.members, r.Spelt) :
    ∀ part ∈ resourceParts p direct perform, Plain part := by
  have word := isWord_of_type planned.identifier
  have struct := plain_resourceStruct planned perform spelt
  have selector := plain_selectorEnum word perform spelt
  have table := spelt_selectorTable word perform spelt
  have constants := plain_constantParts table
  have members := plain_membersImpl table
  have name := plain_relationNameImpl word (isWord_selectorName word)
  intro part mem
  cases perform with
  | absent | scalar =>
    simp only [resourceParts, List.mem_append, List.mem_cons, List.not_mem_nil, or_false] at mem
    rcases mem with ((rfl | rfl) | mem) | rfl | rfl
    · exact struct
    · exact selector
    · exact constants part mem
    · exact members
    · exact name
  | group group =>
    have groupTable := spelt_groupTable word grouped
    simp only [resourceParts, List.mem_append, List.mem_cons, List.not_mem_nil, or_false] at mem
    rcases mem with (((rfl | rfl | rfl | rfl) | mem) | mem) | rfl | rfl | rfl | rfl
    · exact struct
    · exact plain_groupStruct word grouped
    · exact selector
    · exact plain_groupEnum word grouped
    · exact constants part mem
    · exact plain_constantParts groupTable part mem
    · exact members
    · exact plain_membersImpl groupTable
    · exact name
    · exact plain_relationNameImpl word (isWord_groupSelectorName word)

theorem plain_entityImpl {p : TypePlan} (word : IsWord p.identifier) : Plain (entityImpl p) :=
  .block (reads_heading 'i' word (by simp) (by decide) (.literal (by decide)))
    (.line (((Begun.literal rfl (by decide)).append (lacks_newline_quoted _)).line rfl (by decide))
      .nil)

/-- Every part of a type is read as it is, with or without the line of an accessor. -/
theorem plain_typeParts {p : TypePlan} (planned : TypePlanned p) (policy : Policy) :
    ∀ part ∈ p.parts ++ p.accessorParts policy, Plain part := by
  have word := isWord_of_type planned.identifier
  have own : Lacks '\n' p.identifier := word.lacks (by decide)
  have entity := plain_entityImpl word
  have resource : Plain (resourceImpl p) :=
    .line (((Begun.literal rfl (by decide)).append own).line rfl (by decide)) .nil
  have accessor : Plain (accessorImpl p) :=
    .line (((Begun.literal rfl (by decide)).append own).line rfl (by decide)) .nil
  refine List.forall_mem_append.mpr ⟨?parts, ?policy⟩
  case parts =>
    unfold TypePlan.parts
    rcases planned.form with ⟨-, form⟩ | ⟨-, direct, computed, form, resourcePlanned⟩
    · rw [form]
      exact List.forall_mem_cons.mpr
        ⟨plain_markerStruct planned, List.forall_mem_singleton.mpr entity⟩
    · rw [form]
      have parts := plain_resourceParts planned resourcePlanned.directPlanned.spelt
        resourcePlanned.members_spelt
      refine List.forall_mem_append.mpr ⟨parts, ?_⟩
      exact List.forall_mem_cons.mpr ⟨entity, List.forall_mem_singleton.mpr resource⟩
  case policy =>
    unfold TypePlan.accessorParts
    split
    · exact List.forall_mem_singleton.mpr accessor
    · simp

/-! ## The parts of conditions -/

/-- What the module of a condition holds is read as it is. The comment above the module is another
matter, as it holds the name without quotes. -/
theorem plain_body {p : ConditionPlan} (planned : ConditionPlanned p) : Plain p.body := by
  have init : Lacks '\n' (signature p.init) := lacks_newline_signature planned.init.of_mem
  have provided : Lacks '\n' (signature p.provided) :=
    lacks_newline_signature planned.provided.of_mem
  have built : Lacks '\n' (contextText p.init) := lacks_newline_contextText planned.init.of_mem
  have context : outlineOf (contextText p.provided) = [.line (contextText p.provided)] := by
    have entries := lacks_newline_entries planned.provided.of_mem
    unfold contextText
    split
    · exact outlineOf_literal rfl rfl (by decide)
    · exact ((Begun.literal rfl (by decide)).append entries).line rfl (by decide)
  refine .spaced ?_
  intro part mem
  simp only [List.mem_cons, List.not_mem_nil, or_false] at mem
  rcases mem with rfl | rfl | rfl
  · have named : Lacks '\n' (Text.quoted p.condition.name) := lacks_newline_quoted _
    exact .line (outlineOf_literal rfl rfl (by decide))
      (.line (((Begun.literal rfl (by decide)).append named).line rfl (by decide)) .nil)
  · refine .line (outlineOf_literal rfl rfl (by decide)) (.block ?heading (.line ?line .nil))
    case heading =>
      exact outlineOf_heading 'p' (by simp) (by decide)
        (.append (.append (.literal (by decide)) init) (.literal (by decide)))
    case line => exact ((Begun.literal rfl (by decide)).append built).line rfl (by decide)
  · refine .line (outlineOf_literal rfl rfl (by decide)) (.block ?heading (.line context .nil))
    case heading =>
      exact outlineOf_heading 'p' (by simp) (by decide)
        (.append (.append (.literal (by decide)) provided) (.literal (by decide)))

/-- The heading of the module of a condition. -/
theorem reads_module {p : ConditionPlan} (planned : ConditionPlanned p) :
    outlineOf ("pub mod " ++ p.moduleName ++ " \x7b") = [.enter ("pub mod " ++ p.moduleName)] := by
  have module : Lacks '\n' p.moduleName := planned.module.lacks (by decide) (by decide)
  exact outlineOf_heading 'p' (by simp) (by decide) (.append (.literal (by decide)) module)

/-- The module of a condition is read as it is, below its comment. -/
theorem reread_conditionPieces {p : ConditionPlan} (planned : ConditionPlanned p) :
    reread p.pieces = reread p.comment ++ block ("pub mod " ++ p.moduleName) p.body := by
  rw [ConditionPlan.pieces, reread_append, reread_block (reads_module planned),
    (plain_body planned).reread_eq]

/-- A text without braces and semicolons is idle, on however many lines it stands. -/
theorem idle_of_lacks {text : String} (semicolon : Lacks ';' text) (opening : Lacks '\x7b' text)
    (closing : Lacks '\x7d' text) : ∀ p ∈ outlineOf text, p.Idle := by
  intro p mem
  obtain ⟨row, own, rfl⟩ := List.mem_map.mp mem
  have idle : Piece.Idle (.line (String.ofList row)) := by
    refine .line (Contents.inLine?_unmarked (Bool.eq_false_iff.mpr fun marked => ?_))
    obtain ⟨front, text⟩ := Text.endsWith_iff.mp marked
    have chars := congrArg String.toList text
    rw [String.toList_ofList] at chars
    exact lacks_of_mem_rows own semicolon (by simp [chars, Contents.mark])
  have leave : row ≠ ['\x7d'] := by
    rintro rfl
    exact lacks_of_mem_rows own closing (by simp)
  have enter : Text.beforeTail? (String.ofList row) " \x7b" = none := by
    rw [Text.beforeTail?_eq_none, Bool.eq_false_iff]
    intro last
    obtain ⟨front, text⟩ := Text.endsWith_iff.mp last
    have chars := congrArg String.toList text
    rw [String.toList_ofList] at chars
    refine lacks_of_mem_rows own opening ?_
    simp [chars]
  unfold Piece.ofRow
  rw [if_neg leave, enter]
  split
  · exact .blank
  · rw [ite_self]
    exact idle

/-- The comment above a condition is read line by line where it has the name, and below that, where
it has an expression, as comments. -/
theorem exists_reread_comment (p : ConditionPlan) :
    ∃ below, reread p.comment =
        outlineOf ("/// Condition `" ++ p.condition.name ++ "`.") ++ below ∧
      ∀ piece ∈ below, ∃ text, piece = .line text ∧ text.toList.head? = some '/' := by
  unfold ConditionPlan.comment
  cases p.condition.expression with
  | none => exact ⟨[], rfl, nofun⟩
  | some expression =>
    have one : Lacks '\n' (commentText expression) := newline_not_mem_commentText expression
    have expressed : outlineOf ("/// `" ++ commentText expression ++ "`") =
        [.line ("/// `" ++ commentText expression ++ "`")] :=
      ((Begun.literal rfl (by decide)).append one).line rfl (by decide)
    have plain : Plain [.line "///", .line ("/// `" ++ commentText expression ++ "`")] :=
      .line (by decide) (.line expressed .nil)
    refine ⟨_, by rw [reread_cons, plain.reread_eq]; rfl, List.forall_mem_cons.mpr ⟨?_, ?_⟩⟩
    · exact ⟨_, rfl, by decide⟩
    · exact List.forall_mem_singleton.mpr ⟨_, rfl, by simp⟩

/-- What is read of the comment above a condition is idle, whatever newlines its name has. -/
theorem idle_comment {p : ConditionPlan} (planned : ConditionPlanned p) :
    ∀ piece ∈ reread p.comment, piece.Idle := by
  have lacks {c : Char} (kept : ∀ prev next, Naming.canonicalStep prev c next = [c])
      (other : isIdentifierPart c = false) : Lacks c p.condition.name :=
    lacks_of_canonical kept other planned.named
  have semicolon : Lacks ';' p.condition.name := lacks (fun _ _ => rfl) (by decide)
  have opening : Lacks '\x7b' p.condition.name := lacks (fun _ _ => rfl) (by decide)
  have closing : Lacks '\x7d' p.condition.name := lacks (fun _ _ => rfl) (by decide)
  have name : ∀ piece ∈ outlineOf ("/// Condition `" ++ p.condition.name ++ "`."), piece.Idle :=
    idle_of_lacks (.append (.append (.literal (by decide)) semicolon) (.literal (by decide)))
      (.append (.append (.literal (by decide)) opening) (.literal (by decide)))
      (.append (.append (.literal (by decide)) closing) (.literal (by decide)))
  obtain ⟨below, read, comments⟩ := exists_reread_comment p
  rw [read]
  refine List.forall_mem_append.mpr ⟨name, fun piece mem => ?_⟩
  obtain ⟨text, rfl, slash⟩ := comments piece mem
  exact .line (Contents.inLine?_none (declared?_other slash (by decide)))

/-- Of the module of all conditions only what stands in it may be read otherwise. -/
theorem reread_modules (plans : List ConditionPlan) :
    reread (.line "/// Builders for the conditions declared in the schema." ::
        block "pub mod conditions" (spaced (plans.map ConditionPlan.pieces))) =
      .line "/// Builders for the conditions declared in the schema." ::
        block "pub mod conditions" (spaced (plans.map (reread ·.pieces))) := by
  have comment : outlineOf "/// Builders for the conditions declared in the schema." =
      [.line "/// Builders for the conditions declared in the schema."] :=
    outlineOf_literal rfl rfl (by decide)
  rw [reread_cons, reread_block (by decide), reread_spaced, List.map_map]
  exact congrArg (· ++ _) comment

/-! ## Below the header -/

/-- The parts of a text below its header. -/
def Plan.below (policy : Policy) (p : Plan) : List (List Piece) :=
  p.types.flatMap (fun t => t.parts ++ t.accessorParts policy) ++ conditionParts p.conditions

theorem Plan.parts_eq (policy : Policy) (p : Plan) :
    p.parts policy = header p.version :: p.below policy := rfl

theorem render_line {text : String} {c : Char} (first : text.toList.head? = some c) :
    render 0 [.line text] = text ++ "\n" := by
  have some : text ≠ "" := by
    rintro rfl
    cases first
  simp [render, Piece.render, indented, some, indentation]

/-- The top of a text. -/
def front (version : String) : String :=
  "// @generated by fluentfga-codegen. Do not edit by hand." ++ "\n" ++
    ("// Schema version: " ++ version ++ "\n")

/-- The two comments of a header are rendered as the top of the text. -/
theorem render_header (version : String) : render 0 (header version) = front version := by
  have generated : "// @generated by fluentfga-codegen. Do not edit by hand.".toList.head? =
      some '/' := rfl
  have versioned : ("// Schema version: " ++ version).toList.head? = some '/' := by simp
  have split : header version =
      [.line "// @generated by fluentfga-codegen. Do not edit by hand."] ++
        [.line ("// Schema version: " ++ version)] := rfl
  have flat : [Piece.line "// @generated by fluentfga-codegen. Do not edit by hand."].foldl
      Piece.depthAfter 0 = 0 := rfl
  rw [split, render_append, flat, render_line generated, render_line versioned]
  rfl

/-- A text is its top, and below it the parts, each under a blank line. -/
theorem Plan.source_eq (policy : Policy) (p : Plan) :
    p.source policy = front p.version ++ render 0 (apart (p.below policy)) := by
  have flat : (header p.version).foldl Piece.depthAfter 0 = 0 := rfl
  rw [Plan.source, Plan.parts_eq, spaced_cons, render_append, flat, render_header]

/-- What is read at the top of a text: two comments, of which the second goes on with whatever the
version holds. -/
theorem outlineOf_front (version rest : String) :
    outlineOf (front version ++ rest) =
      .line "// @generated by fluentfga-codegen. Do not edit by hand." ::
        (outlineOf ("// Schema version: " ++ version) ++ outlineOf rest) := by
  have generated : outlineOf "// @generated by fluentfga-codegen. Do not edit by hand." =
      [.line "// @generated by fluentfga-codegen. Do not edit by hand."] :=
    outlineOf_literal rfl rfl (by decide)
  have top : front version ++ rest =
      "// @generated by fluentfga-codegen. Do not edit by hand." ++ "\n" ++
        ("// Schema version: " ++ version ++ "\n" ++ rest) := String.append_assoc
  have versioned := outlineOf_append_newline ("// Schema version: " ++ version) rest
  rw [top, outlineOf_append_newline "// @generated by fluentfga-codegen. Do not edit by hand.",
    generated, versioned]
  rfl

/-- A part below the header stands in the text as it is read. -/
theorem Plan.reread_infix_outline (plan : Plan) (policy : Policy) {part : List Piece}
    (mem : part ∈ plan.below policy) :
    reread part <:+: outlineOf (render 0 (apart (plan.below policy))) := by
  rw [outlineOf_render_end, reread_apart]
  have own : reread part ∈ (plan.below policy).map reread := List.mem_map_of_mem mem
  exact (infix_apart own).trans (List.prefix_append ..).isInfix

/-- A part of a type stands in the text as it is. -/
theorem Plan.infix_outline (plan : Plan) (policy : Policy)
    (planned : ∀ p ∈ plan.types, TypePlanned p) {p : TypePlan} (own : p ∈ plan.types)
    {part : List Piece} (mem : part ∈ p.parts ++ p.accessorParts policy) :
    part <:+: outlineOf (render 0 (apart (plan.below policy))) := by
  have below : part ∈ plan.below policy :=
    List.mem_append_left _ (List.mem_flatMap.mpr ⟨p, own, mem⟩)
  have stands := plan.reread_infix_outline policy below
  rwa [(plain_typeParts (planned p own) policy part mem).reread_eq] at stands

end Rebac.Bindings
