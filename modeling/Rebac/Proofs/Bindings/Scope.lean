import Rebac.Proofs.Bindings.Plain

/-!
# Scopes of bindings

The names that bindings declare, block by block, as they are read from the lines of the text. They
are those that the plan tells, below the header whatever the version is, and in the whole text when
the version is one line.
-/

namespace Rebac.Bindings

open Accessor (Policy)
open Schema (Model)

/-! ## The regions of a type -/

/-- The names of the fields of a resource. -/
def fieldNames (direct : List RelationPlan) (perform : Perform) : List String :=
  direct.map (bareName ·.field) ++ perform.also performName

/-- The names of the variants of a resource. -/
def variantNames (direct : List RelationPlan) (perform : Perform) : List String :=
  direct.map (·.variant) ++ perform.also "Perform"

namespace SelectorTable

/-- The names of the constants of a table. -/
def constantNames (t : SelectorTable) : List String :=
  (t.elements.map fun _ => "ELEMENTS").toList ++ t.constants.map (·.constant)

/-- The region of the constants of a table, if it has any. -/
def constantRegions (t : SelectorTable) : List Region :=
  if t.constantNames.isEmpty then [] else [⟨"impl " ++ t.owner, t.constantNames⟩]

/-- The regions of the members of a table. -/
def membersRegions (t : SelectorTable) : List Region :=
  [⟨"impl ::fluentfga::RelationSelector for " ++ t.owner, ["members"]⟩,
    ⟨"fn members(&self) -> &'static [" ++ memberType ++ "]", []⟩, ⟨"match self", []⟩]

end SelectorTable

/-- The regions of a relation name. -/
def relationNameRegions (resource selector : String) : List Region :=
  [⟨"impl ::fluentfga::RelationName<" ++ resource ++ "> for " ++ selector, ["relation_name"]⟩,
    ⟨"fn relation_name(&self) -> " ++ stringType, []⟩]

/-- The items of a resource. -/
def resourceItems (p : TypePlan) : Perform → List String
  | .group _ => [p.identifier, p.groupName, p.selectorName, p.groupSelectorName]
  | _ => [p.identifier, p.selectorName]

/-- The regions of a resource. -/
def resourceRegions (p : TypePlan) (direct : List RelationPlan) (perform : Perform) :
    List Region :=
  let table := p.selectorTable direct perform
  let struct : Region := ⟨"pub struct " ++ p.identifier, fieldNames direct perform⟩
  let selector : Region := ⟨"pub enum " ++ p.selectorName, variantNames direct perform⟩
  match perform with
  | .group group =>
    let groupTable := p.groupTable group
    [struct, ⟨"pub struct " ++ p.groupName, group.map (bareName ·.field)⟩, selector,
      ⟨"pub enum " ++ p.groupSelectorName, group.map (·.variant)⟩] ++
      table.constantRegions ++ groupTable.constantRegions ++
      (table.membersRegions ++ groupTable.membersRegions ++
        relationNameRegions p.identifier p.selectorName ++
        relationNameRegions p.identifier p.groupSelectorName)
  | _ =>
    [struct, selector] ++ table.constantRegions ++
      (table.membersRegions ++ relationNameRegions p.identifier p.selectorName)

/-- The region of the name of a type. -/
def entityRegion (p : TypePlan) : Region :=
  ⟨"impl ::fluentfga::Entity for " ++ p.identifier, ["NAME"]⟩

/-- The items of a type, in the order of the text. -/
def TypePlan.items (p : TypePlan) : List String :=
  match p.form with
  | .marker => [p.identifier]
  | .resource _ perform => resourceItems p perform

/-- The regions of a type. -/
def TypePlan.regions (p : TypePlan) : List Region :=
  match p.form with
  | .marker => [entityRegion p]
  | .resource direct perform => resourceRegions p direct perform ++ [entityRegion p]

/-! ## The text of a type -/

theorem under_struct (name : String) : Contents.under ("pub struct " ++ name) = .fields := by
  simp [Contents.under, Text.beginsWith]

theorem under_enum (name : String) : Contents.under ("pub enum " ++ name) = .variants := by
  simp [Contents.under, Text.beginsWith]

theorem under_mod (name : String) : Contents.under ("pub mod " ++ name) = .items := by
  simp [Contents.under, Text.beginsWith]

/-- Comments and attributes declare nothing. -/
theorem declared?_comment {text : String} (slash : text.toList.head? = some '/') :
    Contents.items.declared? text = none :=
  declared?_other slash (by decide)

theorem declared?_derive (abilities : String) :
    Contents.items.declared? ("#[derive(" ++ abilities ++ ")]") = none :=
  declared?_other (c := '#') (by simp) (by decide)

/-- Lines of a function body declare nothing. -/
theorem declares_statements {α : Type} (text : α → String) (xs : List α) :
    Declares .statements (xs.map (.line <| text ·)) [] [] := by
  induction xs with
  | nil => exact .nil
  | cons x xs ih => exact .comment rfl ih

/-- Each relation declares its field, by the name without the mark that a keyword has. -/
theorem declares_fields {relations : List RelationPlan} (spelt : ∀ r ∈ relations, r.Spelt) :
    Declares .fields (relations.map fun r => fieldLine r.field stringType)
      (relations.map (bareName ·.field)) [] := by
  refine .lines fun r mem => ?_
  obtain ⟨_, named⟩ := (spelt r mem).field
  rw [Contents.inLine?_append _ (by decide)]
  simp only [String.append_assoc]
  exact declared?_field (isName_of_value named) (by simp [Stops]; decide)

theorem declares_variants {relations : List RelationPlan} (spelt : ∀ r ∈ relations, r.Spelt) :
    Declares .variants (relations.map fun r => .line (r.variant ++ ","))
      (relations.map (·.variant)) [] := by
  refine .lines fun r mem => ?_
  rw [Contents.inLine?_append _ (by decide)]
  exact declared?_variant (spelt r mem).variant (by simp [Stops]; decide)

/-- The field for computed relations has its reserved name, whatever their number. Without any there
is no such field. -/
theorem declares_performField (groupName : String) (perform : Perform) :
    Declares .fields (perform.fieldLines groupName) (perform.also performName) [] := by
  have reads (type : String) :
      Contents.fields.declared? ("pub " ++ performName ++ ": " ++ type ++ ",") =
        some performName := by
    have named : valueIdentifier? performName = some performName := by decide
    simp only [String.append_assoc]
    rw [declared?_field (isName_of_value named) (by simp [Stops]; decide)]
    decide
  cases perform with
  | absent => exact .nil
  | scalar => exact .named (by decide) (reads stringType) .nil
  | group => exact .named (by decide) (reads groupName) .nil

theorem declares_performVariant (selectorName : String) (perform : Perform) :
    Declares .variants (perform.variantLines selectorName) (perform.also "Perform") [] := by
  have word : IsWord "Perform" := .of_isIdentifier (by decide)
  cases perform with
  | absent => exact .nil
  | scalar =>
    have reads : Contents.variants.declared? ("Perform" ++ ",") = some "Perform" :=
      declared?_variant word (by simp [Stops]; decide)
    exact .named (by decide) reads .nil
  | group =>
    have reads : Contents.variants.declared? ("Perform(" ++ selectorName ++ "),") =
        some "Perform" := by
      have split : "Perform(" ++ selectorName ++ ")," =
          "Perform" ++ ("(" ++ (selectorName ++ "),")) := by
        rw [← String.toList_inj]
        simp
      rw [split]
      exact declared?_variant word (by simp [Stops]; decide)
    exact .named (by decide) reads .nil

/-- A structure is an item, and its fields are a region of their own. -/
theorem declares_struct {name : String} (word : IsWord name) {body : List Piece}
    {names : List String} (inside : Declares .fields body names []) :
    Declares .items (block ("pub struct " ++ name) body) [name]
      [⟨"pub struct " ++ name, names⟩] := by
  have declared : Declares .items (block ("pub struct " ++ name) body) _ _ :=
    .scope (under_struct name) (by decide) inside
  rwa [declared?_heading (by decide) word] at declared

/-- So is an enumeration, with its variants. -/
theorem declares_enum {name : String} (word : IsWord name) {body : List Piece}
    {names : List String} (inside : Declares .variants body names []) :
    Declares .items (block ("pub enum " ++ name) body) [name] [⟨"pub enum " ++ name, names⟩] := by
  have declared : Declares .items (block ("pub enum " ++ name) body) _ _ :=
    .scope (under_enum name) (by decide) inside
  rwa [declared?_heading (by decide) word] at declared

/-- An implementation declares no item of its own. -/
theorem declares_impl {heading : String} {body : List Piece} {names : List String}
    {regions : List Region} (impl : Text.beginsWith heading "impl " = true)
    (inside : Declares .items body names regions) :
    Declares .items (block heading body) [] (⟨heading, names⟩ :: regions) := by
  obtain ⟨rest, chars⟩ := List.isPrefixOf_iff_prefix.mp impl
  have kind : Contents.under heading = .items := by
    simp [Contents.under, Text.beginsWith, ← chars]
  have unnamed : Contents.items.declared? heading = none :=
    declared?_other (c := 'i') (by rw [← chars]; rfl) (by decide)
  have declared : Declares .items (block heading body) _ _ := .scope kind (by decide) inside
  rwa [unnamed] at declared

section

variable {p : TypePlan} (word : IsWord p.identifier)

include word

theorem declares_markerStruct : Declares .items (markerStruct p) [p.identifier] [] := by
  have item : Contents.items.declared? ("pub struct " ++ p.identifier ++ ";") =
      some p.identifier := by
    rw [String.append_assoc]
    exact declared?_word (by decide) word (by simp [Stops]; decide)
  exact .comment (declared?_comment (by simp)) (.comment (declared?_derive _)
    (.named (by decide) item .nil))

variable {direct group : List RelationPlan} (perform : Perform)

/-- The structure of a resource, with its comment and its attribute in front. -/
theorem declares_resourceStruct (spelt : ∀ r ∈ direct, r.Spelt) :
    Declares .items (resourceStruct p direct perform) [p.identifier]
      [⟨"pub struct " ++ p.identifier, fieldNames direct perform⟩] :=
  .comment (declared?_comment (by simp)) (.comment (declared?_derive _)
    (declares_struct word
      ((declares_fields spelt).append (declares_performField p.groupName perform))))

theorem declares_groupStruct (spelt : ∀ r ∈ group, r.Spelt) :
    Declares .items (groupStruct p group) [p.groupName]
      [⟨"pub struct " ++ p.groupName, group.map (bareName ·.field)⟩] :=
  .comment (declared?_comment (by simp)) (.comment (declared?_derive _)
    (declares_struct (isWord_groupName word) (declares_fields spelt)))

theorem declares_selectorEnum (spelt : ∀ r ∈ direct, r.Spelt) :
    Declares .items (selectorEnum p direct perform) [p.selectorName]
      [⟨"pub enum " ++ p.selectorName, variantNames direct perform⟩] :=
  .comment (declared?_comment (by simp)) (.comment (declared?_derive _)
    (declares_enum (isWord_selectorName word)
      ((declares_variants spelt).append (declares_performVariant p.groupSelectorName perform))))

theorem declares_groupEnum (spelt : ∀ r ∈ group, r.Spelt) :
    Declares .items (groupEnum p group) [p.groupSelectorName]
      [⟨"pub enum " ++ p.groupSelectorName, group.map (·.variant)⟩] :=
  .comment (declared?_comment (by simp)) (.comment (declared?_derive _)
    (declares_enum (isWord_groupSelectorName word) (declares_variants spelt)))

end

/-! ## The text of a table -/

theorem declared?_const {name rest : String} (word : IsWord name) (stops : Stops rest) :
    Contents.items.declared? ("const " ++ (name ++ rest)) = some name :=
  declared?_word (by decide) word stops

/-- The constants of a table are its shared names, if it has any, and one for each chain. -/
theorem declares_constants {t : SelectorTable} (words : ∀ e ∈ t.constants, IsWord e.constant) :
    Declares .items ((t.elements.map elementsLine).toList ++ t.constants.map ChainEntry.line)
      t.constantNames [] := by
  have shared : Declares .items (t.elements.map elementsLine).toList
      (t.elements.map fun _ => "ELEMENTS").toList [] := by
    cases t.elements with
    | none => exact .nil
    | some names =>
      have item : Contents.items.declared? ("const ELEMENTS: &'static [&'static str] = &[" ++
          quotedNames names ++ "];") = some "ELEMENTS" := by
        have split : "const ELEMENTS: &'static [&'static str] = &[" ++ quotedNames names ++ "];" =
            "const " ++ ("ELEMENTS" ++ (": &'static [&'static str] = &[" ++
              (quotedNames names ++ "];"))) := by
          rw [← String.toList_inj]
          simp
        rw [split]
        exact declared?_const (.of_isIdentifier (by decide)) (by simp [Stops]; decide)
      exact .named (by decide) item .nil
  have chains : Declares .items (t.constants.map ChainEntry.line) (t.constants.map (·.constant))
      [] := by
    refine .lines fun e mem => ?_
    rw [Contents.inLine?_append _ (by decide)]
    simp only [String.append_assoc]
    exact declared?_const (words e mem) (by simp [Stops]; decide)
  exact shared.append chains

theorem declares_constantParts {t : SelectorTable}
    (words : ∀ e ∈ t.constants, IsWord e.constant) :
    DeclareAll .items t.constantParts [] t.constantRegions := by
  have lines := declares_constants words
  have empty : ((t.elements.map elementsLine).toList ++
      t.constants.map ChainEntry.line).isEmpty = t.constantNames.isEmpty := by
    rw [Bool.eq_iff_iff]
    cases elements : t.elements <;> simp [SelectorTable.constantNames, elements]
  simp only [SelectorTable.constantParts, SelectorTable.constantRegions, empty]
  split
  · exact .nil
  · exact .single (declares_impl (by simp [Text.beginsWith]) lines)

theorem under_members :
    Contents.under ("fn members(&self) -> &'static [" ++ memberType ++ "]") = .statements := by
  decide

/-- The implementation that selects members declares its function. The function has no parameters
that are names, and its match declares nothing. -/
theorem declares_membersImpl (t : SelectorTable) :
    Declares .items t.membersImpl [] t.membersRegions := by
  refine declares_impl (by simp [Text.beginsWith]) ?_
  have arms : Declares .statements (block "match self" (t.arms.map Arm.line)) _ _ :=
    .function (by decide) (declares_statements _ t.arms)
  have function : Declares .items (block ("fn members(&self) -> &'static [" ++ memberType ++ "]")
      (block "match self" (t.arms.map Arm.line))) _ _ := .function under_members arms
  have heading : Contents.items.declared? ("fn members(&self) -> &'static [" ++ memberType ++ "]") =
      some "members" := by decide
  have itself : parameters ("fn members(&self) -> &'static [" ++ memberType ++ "]") = [] := by
    decide
  have subject : parameters "match self" = [] := by decide
  rwa [heading, itself, subject] at function

theorem declares_relationNameImpl (resource selector : String) :
    Declares .items (relationNameImpl resource selector) []
      (relationNameRegions resource selector) := by
  refine declares_impl (by simp [Text.beginsWith]) ?_
  have function : Declares .items (block ("fn relation_name(&self) -> " ++ stringType)
      [.line "::fluentfga::RelationSelector::resolve(self)"]) _ _ :=
    .function (by decide) (.comment rfl .nil)
  have heading : Contents.items.declared? ("fn relation_name(&self) -> " ++ stringType) =
      some "relation_name" := by decide
  have itself : parameters ("fn relation_name(&self) -> " ++ stringType) = [] := by decide
  rwa [heading, itself] at function

/-- The implementation of an entity declares the constant of its name. The literal behind it
declares nothing, whatever the name is. -/
theorem declares_entityImpl (p : TypePlan) :
    Declares .items (entityImpl p) [] [entityRegion p] := by
  refine declares_impl (by simp [Text.beginsWith]) ?_
  have item : Contents.items.declared? ("const NAME: &'static str = " ++
      Text.quoted p.entityName ++ ";") = some "NAME" := by
    have split : "const NAME: &'static str = " ++ Text.quoted p.entityName ++ ";" =
        "const " ++ ("NAME" ++ (": &'static str = " ++ (Text.quoted p.entityName ++ ";"))) := by
      rw [← String.toList_inj]
      simp
    rw [split]
    exact declared?_const (.of_isIdentifier (by decide)) (by simp [Stops]; decide)
  exact .named (by decide) item .nil

/-! ## The text of all types -/

theorem declares_resourceImpl (p : TypePlan) : Declares .items (resourceImpl p) [] [] :=
  .comment (declared?_other (c := 'i') (by simp) (by decide)) .nil

theorem declares_accessorImpl (p : TypePlan) : Declares .items (accessorImpl p) [] [] :=
  .comment (declared?_other (c := 'i') (by simp) (by decide)) .nil

/-- All parts of a resource together, in the order of the text. -/
theorem declares_resourceParts {p : TypePlan} (word : IsWord p.identifier)
    {direct : List RelationPlan} {perform : Perform} (spelt : ∀ r ∈ direct, r.Spelt)
    (grouped : ∀ r ∈ perform.members, r.Spelt) :
    DeclareAll .items (resourceParts p direct perform) (resourceItems p perform)
      (resourceRegions p direct perform) := by
  have struct := declares_resourceStruct word perform spelt
  have selector := declares_selectorEnum word perform spelt
  have constants : DeclareAll .items (p.selectorTable direct perform).constantParts []
      (p.selectorTable direct perform).constantRegions := by
    refine declares_constantParts fun e mem => ?_
    rcases of_mem_selectorTable mem with ⟨r, inside, same⟩ | same
    · exact same ▸ (spelt r inside).constant
    · exact same ▸ isWord_chainConstant (.of_isIdentifier (by decide))
  have members := declares_membersImpl (p.selectorTable direct perform)
  have name := declares_relationNameImpl p.identifier p.selectorName
  cases perform with
  | absent | scalar =>
    exact ((DeclareAll.cons struct (.cons selector .nil)).append constants).append
      (.cons members (.cons name .nil))
  | group group =>
    have groupConstants : DeclareAll .items (p.groupTable group).constantParts []
        (p.groupTable group).constantRegions := by
      refine declares_constantParts fun e mem => ?_
      obtain ⟨r, inside, same⟩ := of_mem_groupTable mem
      exact same ▸ (grouped r inside).constant
    have groupMembers := declares_membersImpl (p.groupTable group)
    have groupName := declares_relationNameImpl p.identifier p.groupSelectorName
    exact (((DeclareAll.cons struct (.cons (declares_groupStruct word grouped)
      (.cons selector (.cons (declares_groupEnum word grouped) .nil)))).append constants).append
        groupConstants).append
      (.cons members (.cons groupMembers (.cons name (.cons groupName .nil))))

/-- All parts of a type, of whichever form it is. The line of an accessor adds nothing, so the
policy has no bearing on what is declared. -/
theorem declares_typeParts {p : TypePlan} (planned : TypePlanned p) (policy : Policy) :
    DeclareAll .items (p.parts ++ p.accessorParts policy) p.items p.regions := by
  have word := isWord_of_type planned.identifier
  have entity := declares_entityImpl p
  have accessor : DeclareAll .items (p.accessorParts policy) [] [] := by
    unfold TypePlan.accessorParts
    split
    · exact .single (declares_accessorImpl p)
    · exact .nil
  have parts : DeclareAll .items p.parts p.items p.regions := by
    rcases planned.form with ⟨-, form⟩ | ⟨-, direct, computed, form, resource⟩
    · simp only [TypePlan.parts, TypePlan.items, TypePlan.regions, form]
      exact .cons (declares_markerStruct word) (.cons entity .nil)
    · have grouped := resource.members_spelt
      have both := (declares_resourceParts word resource.directPlanned.spelt grouped).append
        (.cons entity (.cons (declares_resourceImpl p) .nil))
      simp only [TypePlan.parts, TypePlan.items, TypePlan.regions, form]
      simpa using both
  simpa using parts.append accessor

/-! ## The text of conditions -/

/-- An argument of a function, with its type. -/
def ArgumentPlan.text (a : ArgumentPlan) : String := a.argument ++ ": " ++ argumentType a.kind

/-- A signature is the texts of its arguments with commas between them. -/
theorem signature_cons_cons (a b : ArgumentPlan) (rest : List ArgumentPlan) :
    signature (a :: b :: rest) = a.text ++ ", " ++ signature (b :: rest) :=
  String.intercalate_cons_cons

theorem signature_singleton (a : ArgumentPlan) : signature [a] = a.text := by
  rw [← String.toList_inj]
  simp [signature, ArgumentPlan.text]

/-- The text of an argument has one name, and neither a comma nor a parenthesis. -/
theorem ArgumentPlan.text_chars {a : ArgumentPlan} (value : IsValue a.argument) :
    ',' ∉ a.text.toList ∧ ')' ∉ a.text.toList ∧
      namesBetween a.text.toList = [bareName a.argument] := by
  obtain ⟨_, named⟩ := value
  have name := isName_of_value named
  have other {c : Char} (part : isIdentifierPart c = false) (mark : c ≠ '#')
      (type : c ∉ (": " ++ argumentType a.kind).toList) : c ∉ a.text.toList := by
    rw [ArgumentPlan.text, String.append_assoc, String.toList_append, List.mem_append, not_or]
    exact ⟨fun mem => (name.chars c mem).elim (by simp [part]) mark, type⟩
  have comma : ',' ∉ a.text.toList :=
    other (by decide) (by decide) (by cases a.kind <;> decide)
  have parenthesis : ')' ∉ a.text.toList :=
    other (by decide) (by decide) (by cases a.kind <;> decide)
  have unspaced : a.text.toList.dropWhile (· = ' ') = a.text.toList := by
    obtain ⟨c, rest, chars⟩ := List.exists_cons_of_ne_nil name.ne_nil
    have letter : c ≠ ' ' := by
      rintro rfl
      exact (name.chars ' ' (by simp [chars])).elim (by decide) (by decide)
    rw [ArgumentPlan.text, String.append_assoc, String.toList_append, chars, List.cons_append,
      List.dropWhile_cons_of_neg (by simpa using letter)]
  refine ⟨comma, parenthesis, namesBetween_single comma ?_⟩
  rw [unspaced, String.ofList_toList, ArgumentPlan.text, String.append_assoc]
  exact nameAt?_append name (by simp [Stops]; decide)

/-- The arguments of a function are read back from its signature. -/
theorem namesBetween_signature {arguments : List ArgumentPlan}
    (values : ∀ a ∈ arguments, IsValue a.argument) :
    ')' ∉ (signature arguments).toList ∧
      namesBetween (signature arguments).toList = arguments.map (bareName ·.argument) := by
  induction arguments with
  | nil => decide
  | cons a rest ih =>
    rw [List.forall_mem_cons] at values
    obtain ⟨-, parenthesis, first⟩ := ArgumentPlan.text_chars values.1
    cases rest with
    | nil =>
      rw [signature_singleton]
      exact ⟨parenthesis, first⟩
    | cons b rest =>
      obtain ⟨parenthesis', later⟩ := ih values.2
      have chars : (signature (a :: b :: rest)).toList =
          a.text.toList ++ ',' :: ' ' :: (signature (b :: rest)).toList := by
        rw [signature_cons_cons]
        simp
      rw [chars, namesBetween_append, first, namesBetween_cons_space, later]
      refine ⟨?_, rfl⟩
      simp [parenthesis, parenthesis']

/-- The regions of a condition. -/
def conditionRegions (p : ConditionPlan) : List Region :=
  [⟨"pub mod " ++ p.moduleName, ["NAME", "build", "check_context"]⟩,
    ⟨"pub fn build(" ++ signature p.init ++ ") -> ::fluentfga::ConditionInstance",
      p.init.map (bareName ·.argument)⟩,
    ⟨"pub fn check_context(" ++ signature p.provided ++ ") -> ::fluentfga::ConditionContext",
      p.provided.map (bareName ·.argument)⟩]

/-- The module of all conditions, if there are any. -/
def conditionItems (plans : List ConditionPlan) : List String :=
  if plans.isEmpty then [] else ["conditions"]

/-- The regions of all conditions. -/
def conditionsRegions (plans : List ConditionPlan) : List Region :=
  if plans.isEmpty then []
  else ⟨"pub mod conditions", plans.map (bareName ·.moduleName)⟩ :: plans.flatMap conditionRegions

/-- A function declares its name among the items around it and its arguments in its own region. -/
theorem declares_function (name result : String) {heading text : String}
    {arguments : List ArgumentPlan}
    (shape : heading = "pub fn " ++ name ++ "(" ++ signature arguments ++ ")" ++ result)
    (word : IsWord name) (values : ∀ a ∈ arguments, IsValue a.argument) :
    Declares .items (block heading [.line text]) [name]
      [⟨heading, arguments.map (bareName ·.argument)⟩] := by
  obtain ⟨parenthesis, names⟩ := namesBetween_signature values
  have kind : Contents.under heading = .statements := by
    simp [shape, Contents.under, Text.beginsWith]
  have declared : Contents.items.declared? heading = some name := by
    rw [shape]
    simp only [String.append_assoc]
    exact declared?_word (by decide) word (by simp [Stops]; decide)
  have opened : '(' ∉ ("pub fn " ++ name).toList := by
    rw [String.toList_append, List.mem_append, not_or]
    exact ⟨by decide, fun mem => absurd (word.chars _ mem) (by decide)⟩
  have arguments : parameters heading = arguments.map (bareName ·.argument) := by
    rw [shape] at kind ⊢
    rw [parameters_eq kind opened parenthesis, names]
  have function : Declares .items (block heading [.line text]) _ _ :=
    .function kind (.comment rfl .nil)
  rwa [declared, arguments] at function

/-- The module of a condition declares its name and its two functions, and each function its
arguments. -/
theorem declares_body {p : ConditionPlan} (planned : ConditionPlanned p) :
    Declares .items p.body ["NAME", "build", "check_context"]
      [⟨"pub fn build(" ++ signature p.init ++ ") -> ::fluentfga::ConditionInstance",
        p.init.map (bareName ·.argument)⟩,
      ⟨"pub fn check_context(" ++ signature p.provided ++ ") -> ::fluentfga::ConditionContext",
        p.provided.map (bareName ·.argument)⟩] := by
  have name : Contents.items.declared? ("pub const NAME: &str = " ++
      Text.quoted p.condition.name ++ ";") = some "NAME" := by
    have split : "pub const NAME: &str = " ++ Text.quoted p.condition.name ++ ";" =
        "pub const " ++ ("NAME" ++ (": &str = " ++ (Text.quoted p.condition.name ++ ";"))) := by
      rw [← String.toList_inj]
      simp
    rw [split]
    exact declared?_word (by decide) (.of_isIdentifier (by decide)) (by simp [Stops]; decide)
  have build : Declares .items
      (block ("pub fn build(" ++ signature p.init ++ ") -> ::fluentfga::ConditionInstance")
        [.line ("::fluentfga::ConditionInstance::new(NAME, " ++ contextText p.init ++ ")")])
      ["build"] _ :=
    declares_function "build" " -> ::fluentfga::ConditionInstance"
      (by rw [← String.toList_inj]; simp) (.of_isIdentifier (by decide)) planned.init.of_mem
  have check : Declares .items
      (block ("pub fn check_context(" ++ signature p.provided ++
        ") -> ::fluentfga::ConditionContext") [.line (contextText p.provided)])
      ["check_context"] _ :=
    declares_function "check_context" " -> ::fluentfga::ConditionContext"
      (by rw [← String.toList_inj]; simp) (.of_isIdentifier (by decide))
      planned.provided.of_mem
  have comment {text : String} (slash : text.toList.head? = some '/') :
      Contents.items.declared? text = none := declared?_comment slash
  exact DeclareAll.spaced
    (.cons (.comment (comment (by simp)) (.named (by decide) name .nil))
      (.cons (.comment (comment (by simp)) build)
        (.cons (.comment (comment (by simp)) check) .nil)))

/-- The lines that are read of the comment above a condition declare nothing. -/
theorem declares_conditionPieces {p : ConditionPlan} (planned : ConditionPlanned p) :
    Declares .items (reread p.pieces) [bareName p.moduleName] (conditionRegions p) := by
  have heading : [bareName p.moduleName] =
      (Contents.items.declared? ("pub mod " ++ p.moduleName)).toList := by
    obtain ⟨_, module⟩ := planned.module
    have reads := declared?_item (show "pub mod " ∈ itemLeads by decide) (isName_of_value module)
      (show Stops "" from nofun)
    rw [String.append_empty] at reads
    rw [reads, Option.toList_some]
  rw [reread_conditionPieces planned, heading]
  exact (Declares.idle (idle_comment planned)).append
    (.scope (under_mod _) (by decide) (declares_body planned))

/-- The module of all conditions declares the module of each, if there are any. -/
theorem declares_conditionParts {plans : List ConditionPlan}
    (planned : ∀ p ∈ plans, ConditionPlanned p) :
    DeclareAll .items ((conditionParts plans).map reread) (conditionItems plans)
      (conditionsRegions plans) := by
  unfold conditionParts conditionItems conditionsRegions
  split
  · exact .nil
  · have modules : DeclareAll .items (plans.map (reread ·.pieces))
        (plans.map (bareName ·.moduleName)) (plans.flatMap conditionRegions) := by
      rw [List.map_eq_flatMap, List.map_eq_flatMap]
      exact .flatMap fun p mem => .single (declares_conditionPieces (planned p mem))
    have heading : ["conditions"] = (Contents.items.declared? "pub mod conditions").toList := by
      decide
    have module : Declares .items (block "pub mod conditions" (spaced _)) _ _ :=
      .scope (under_mod "conditions") (by decide) modules.spaced
    rw [← heading] at module
    rw [List.map_singleton, reread_modules]
    exact .single (.comment (declared?_comment (by simp)) module)

/-! ## The text of a plan -/

/-- The items of a plan: those of its types, and the module of its conditions. -/
def Plan.items (plan : Plan) : List String :=
  plan.types.flatMap (·.items) ++ conditionItems plan.conditions

/-- The regions of a plan: its text, whose names are its items, and the blocks in it. -/
def Plan.regions (plan : Plan) : List Region :=
  ⟨"", plan.items⟩ :: (plan.types.flatMap (·.regions) ++ conditionsRegions plan.conditions)

section

variable {plan : Plan} (types : ∀ p ∈ plan.types, TypePlanned p)
  (conditions : ∀ p ∈ plan.conditions, ConditionPlanned p)

include types conditions

/-- What is read of the text below the header, under any policy. -/
theorem declares_below (policy : Policy) :
    Declares .items (reread (apart (plan.below policy)) ++ [.blank]) plan.items
      (plan.types.flatMap (·.regions) ++ conditionsRegions plan.conditions) := by
  have typeParts : (plan.types.flatMap fun p => p.parts ++ p.accessorParts policy).map reread =
      plan.types.flatMap fun p => p.parts ++ p.accessorParts policy := by
    refine (List.map_congr_left fun part mem => ?_).trans (List.map_id _)
    obtain ⟨p, own, inside⟩ := List.mem_flatMap.mp mem
    exact (plain_typeParts (types p own) policy part inside).reread_eq
  have all := (DeclareAll.flatMap fun p mem => declares_typeParts (types p mem) policy).append
    (declares_conditionParts conditions)
  rw [reread_apart, Plan.below, List.map_append, typeParts, Plan.items]
  simpa using all.apart.append (Declares.blank .nil)

/-- The regions that are read below the header are those of the plan, whatever the version is. -/
theorem regions_below (policy : Policy) :
    regions (outlineOf (render 0 (apart (plan.below policy)))) = plan.regions := by
  have read := declares_below types conditions policy
  rw [outlineOf_render_end, Bindings.regions, itemsOf, read.names_eq, read.regions_eq]
  rfl

/-- A text declares what its version does, and then what is below the header. -/
theorem declares_source (policy : Policy) {names : List String} {regions : List Region}
    (version : Declares .items (outlineOf ("// Schema version: " ++ plan.version)) names regions) :
    Declares .items (outlineOf (plan.source policy)) (names ++ plan.items)
      (regions ++ (plan.types.flatMap (·.regions) ++ conditionsRegions plan.conditions)) := by
  rw [Plan.source_eq, outlineOf_front, outlineOf_render_end]
  exact .comment (declared?_comment (by simp))
    (version.append (declares_below types conditions policy))

/-- When the version is one line, the regions of the whole text are those of the plan. -/
theorem regions_source (policy : Policy) (one : Lacks '\n' plan.version) :
    regions (outlineOf (plan.source policy)) = plan.regions := by
  have versioned : outlineOf ("// Schema version: " ++ plan.version) =
      [.line ("// Schema version: " ++ plan.version)] :=
    outlineOf_comment (by simp; rfl) (.append (.literal (by decide)) one)
  have top : Declares .items (outlineOf ("// Schema version: " ++ plan.version)) [] [] := by
    rw [versioned]
    exact .comment (declared?_comment (by simp)) .nil
  have read := declares_source types conditions policy top
  rw [Bindings.regions, itemsOf, read.names_eq, read.regions_eq]
  rfl

end

end Rebac.Bindings
