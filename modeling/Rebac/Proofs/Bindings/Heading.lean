import Rebac.Proofs.Bindings.Nesting
import Rebac.Proofs.Bindings.Scope
import Rebac.Proofs.Bindings.SelectorTable

/-!
# Blocks found by their headings

What is inside the blocks under a heading, up to the brace that closes each. In bindings the
headings for a selector, its enumeration and its match, come once each, because no two selectors
have one name. The heading for its constants comes once if it has any.
-/

namespace Rebac.Bindings

/-! ## Under a heading -/

/-- The pieces up to the brace that closes the block around them. Reading starts below so many open
blocks inside it. -/
def insideFrom : (depth : Nat) → List Piece → List Piece
  | _, [] => []
  | 0, .leave :: _ => []
  | depth, p :: rest => p :: insideFrom (p.depthAfter depth) rest

/-- What is inside each of the blocks under a heading. -/
def blocksUnder (heading : String) : List Piece → List (List Piece)
  | [] => []
  | p :: rest =>
    (if p = .enter heading then [insideFrom 0 rest] else []) ++ blocksUnder heading rest

/-- What is inside a block that is all there is. -/
def unblock? (heading : String) (pieces : List Piece) : Option (List Piece) :=
  let body := insideFrom 0 pieces.tail
  if pieces = block heading body then some body else none

/-- The headings of the blocks in an outline. -/
def headings (pieces : List Piece) : List String := (blockRegions pieces).map (·.heading)

/-- Reading goes on behind pieces that close no block but those inside. -/
theorem insideFrom_append {blocks after : List String} {pieces : List Piece}
    (run : blocksAfter? blocks pieces = some after) (rest : List Piece) :
    insideFrom blocks.length (pieces ++ rest) = pieces ++ insideFrom after.length rest := by
  induction pieces generalizing blocks with
  | nil =>
    cases run
    rfl
  | cons p pieces ih =>
    obtain ⟨between, step, later⟩ := blocksAfter?_cons.mp run
    have goes : insideFrom blocks.length (p :: (pieces ++ rest)) =
        p :: insideFrom (p.depthAfter blocks.length) (pieces ++ rest) := by
      refine insideFrom.eq_3 _ _ _ fun empty leave => ?_
      rw [leave, List.length_eq_zero_iff.mp empty] at step
      cases step
    rw [List.cons_append, goes, Piece.depthAfter_length step, ih later]
    rfl

/-- What is inside of a block of nested pieces is these pieces: the first brace that closes no block
of theirs is the one that closes the block. -/
theorem Nested.insideFrom_eq {body : List Piece} (nested : Nested body) (rest : List Piece) :
    insideFrom 0 (body ++ .leave :: rest) = body := by
  have whole := insideFrom_append (nested.returns []) (.leave :: rest)
  rwa [List.length_nil, insideFrom.eq_2, List.append_nil] at whole

theorem unblock?_block {body : List Piece} (nested : Nested body) (heading : String) :
    unblock? heading (block heading body) = some body := by
  have inside : insideFrom 0 (block heading body).tail = body := nested.insideFrom_eq []
  rw [unblock?, inside, if_pos rfl]

/-- There are as many blocks under a heading as the heading stands in the pieces. -/
theorem length_blocksUnder (heading : String) (pieces : List Piece) :
    (blocksUnder heading pieces).length = (headings pieces).count heading := by
  induction pieces with
  | nil => rfl
  | cons p rest ih =>
    rw [blocksUnder, List.length_append, ih]
    cases p with
    | line | blank | leave => simp [headings, blockRegions]
    | enter own =>
      by_cases same : own = heading <;>
        simp [headings, blockRegions, Region.under, same, Nat.add_comm]

/-- A block of nested pieces that stands somewhere is found under its heading, whatever stands
around it. -/
theorem mem_blocksUnder {heading : String} {body pieces : List Piece} (nested : Nested body)
    (stands : block heading body <:+: pieces) : body ∈ blocksUnder heading pieces := by
  obtain ⟨before, after, rfl⟩ := stands
  induction before with
  | nil => simp [block, blocksUnder, nested.insideFrom_eq]
  | cons p before ih =>
    rw [List.cons_append, List.cons_append, blocksUnder]
    exact List.mem_append_right _ ih

/-- A block is found by its heading when that comes once. -/
theorem blocksUnder_eq {heading : String} {body pieces : List Piece} (nested : Nested body)
    (stands : block heading body <:+: pieces) (once : (headings pieces).count heading = 1) :
    blocksUnder heading pieces = [body] := by
  have counted := (length_blocksUnder heading pieces).trans once
  obtain ⟨found, alone⟩ := List.length_eq_one_iff.mp counted
  have own := mem_blocksUnder nested stands
  rw [alone, List.mem_singleton] at own
  rw [alone, own]

/-- Under a heading that does not stand in the pieces there is no block. -/
theorem blocksUnder_eq_nil {heading : String} {pieces : List Piece}
    (absent : (headings pieces).count heading = 0) : blocksUnder heading pieces = [] :=
  List.length_eq_zero_iff.mp ((length_blocksUnder heading pieces).trans absent)

/-! ## Other headings -/

/-- How the headings begin that no selector has. -/
def otherLeads : List String :=
  ["pub struct ", "pub mod ", "pub fn ", "fn ", "match self", "impl ::fluentfga::RelationName<",
    "impl ::fluentfga::Entity for "]

/-- A heading that no selector has. -/
def IsOther (heading : String) : Prop := ∃ front ∈ otherLeads, ∃ rest, heading = front ++ rest

theorem isOther_struct (name : String) : IsOther ("pub struct " ++ name) :=
  ⟨"pub struct ", by decide, name, rfl⟩

/-- The headings of structures, entities, relation names and conditions are no headings of
selectors. Each of them begins with words of its own. -/
theorem isOther_entity (p : TypePlan) : IsOther (entityRegion p).heading :=
  ⟨"impl ::fluentfga::Entity for ", by decide, p.identifier, rfl⟩

theorem isOther_relationName (resource selector : String) :
    ∀ h ∈ (relationNameRegions resource selector).map (·.heading), IsOther h := by
  have name : IsOther ("impl ::fluentfga::RelationName<" ++ resource ++ "> for " ++ selector) :=
    ⟨"impl ::fluentfga::RelationName<", by decide, resource ++ "> for " ++ selector, by
      simp only [String.append_assoc]⟩
  have resolve : IsOther ("fn relation_name(&self) -> " ++ stringType) :=
    ⟨"fn ", by decide, "relation_name(&self) -> ::std::string::String", by decide⟩
  exact List.forall_mem_cons.mpr ⟨name, List.forall_mem_singleton.mpr resolve⟩

theorem isOther_conditions (plans : List ConditionPlan) :
    ∀ h ∈ (conditionsRegions plans).map (·.heading), IsOther h := by
  have conditions : IsOther "pub mod conditions" := ⟨"pub mod ", by decide, "conditions", by decide⟩
  have module (p : ConditionPlan) : ∀ r ∈ conditionRegions p, IsOther r.heading := by
    refine List.forall_mem_cons.mpr ⟨⟨"pub mod ", by decide, _, rfl⟩, List.forall_mem_cons.mpr
      ⟨⟨"pub fn ", by decide, "build(" ++ signature p.init ++ ") -> ::fluentfga::ConditionInstance",
        ?_⟩, List.forall_mem_singleton.mpr ⟨"pub fn ", by decide,
        "check_context(" ++ signature p.provided ++ ") -> ::fluentfga::ConditionContext", ?_⟩⟩⟩
    · rw [← String.toList_inj]
      simp
    · rw [← String.toList_inj]
      simp
  refine List.forall_mem_map.mpr fun r mem => ?_
  unfold conditionsRegions at mem
  split at mem
  · cases mem
  · rcases List.mem_cons.mp mem with rfl | mem
    · exact conditions
    · obtain ⟨p, -, own⟩ := List.mem_flatMap.mp mem
      exact module p r own

/-! ## The headings for selectors -/

/-- Whether a table has constants. -/
def SelectorTable.hasConstants (t : SelectorTable) : Bool := !t.constantNames.isEmpty

/-- The tables of all types. -/
def Plan.tables (plan : Plan) : List SelectorTable := plan.types.flatMap (·.tables)

/-- The headings of a type are those for its tables, with others around them. -/
theorem TypePlan.exists_headings (p : TypePlan) :
    ∃ before after, (∀ h ∈ before, IsOther h) ∧ (∀ h ∈ after, IsOther h) ∧
      p.regions.map (·.heading) = before ++ (p.tables.map ("pub enum " ++ ·.owner) ++
        p.tables.flatMap (·.constantRegions.map (·.heading)) ++
        p.tables.flatMap (·.membersRegions.map (·.heading))) ++ after := by
  have entity : ∀ h ∈ [(entityRegion p).heading], IsOther h :=
    List.forall_mem_singleton.mpr (isOther_entity p)
  have names (selector : String) := isOther_relationName p.identifier selector
  unfold TypePlan.regions TypePlan.tables
  cases p.form with
  | marker => exact ⟨[], _, nofun, entity, rfl⟩
  | resource direct perform =>
    cases perform with
    | absent | scalar =>
      refine ⟨["pub struct " ++ p.identifier], _, List.forall_mem_singleton.mpr (isOther_struct _),
        List.forall_mem_append.mpr ⟨names p.selectorName, entity⟩, ?_⟩
      simp only [resourceRegions, List.map_append, List.flatMap_cons, List.flatMap_nil,
        List.append_assoc, List.append_nil]
      rfl
    | group relations =>
      refine ⟨["pub struct " ++ p.identifier, "pub struct " ++ p.groupName], _,
        List.forall_mem_cons.mpr
          ⟨isOther_struct _, List.forall_mem_singleton.mpr (isOther_struct _)⟩,
        List.forall_mem_append.mpr ⟨List.forall_mem_append.mpr ⟨names p.selectorName,
          names p.groupSelectorName⟩, entity⟩, ?_⟩
      simp only [resourceRegions, List.map_append, List.flatMap_cons, List.flatMap_nil,
        List.append_assoc, List.append_nil]
      rfl

/-- The selectors of a type are among the items that were compared. -/
theorem TypePlan.owners_sublist (p : TypePlan) :
    (p.tables.map (·.owner)).Sublist p.itemNames := by
  unfold TypePlan.tables TypePlan.itemNames
  refine .trans ?_ (List.sublist_cons_self ..)
  cases p.form with
  | marker => exact .refl _
  | resource direct perform =>
    cases perform with
    | absent | scalar => exact .refl _
    | group group => simp [TypePlan.selectorTable, TypePlan.groupTable]

/-- No two selectors have one name. -/
theorem Plan.nodup_owners {plan : Plan} (distinct : (plan.types.flatMap (·.itemNames)).Nodup) :
    (plan.tables.map (·.owner)).Nodup := by
  refine List.Nodup.sublist ?_ distinct
  rw [Plan.tables, List.map_flatMap]
  induction plan.types with
  | nil => exact .refl _
  | cons p rest ih => exact p.owners_sublist.append ih

/-- The identifiers of the tables of a type can be read back. -/
theorem TypePlanned.spelt_of_mem_tables {p : TypePlan} (planned : TypePlanned p) {t : SelectorTable}
    (mem : t ∈ p.tables) : t.Spelt := by
  have word := isWord_of_type planned.identifier
  rcases planned.form with ⟨-, form⟩ | ⟨-, direct, computed, form, resource⟩
  · rw [TypePlan.tables, form] at mem
    cases mem
  · rcases eq_of_mem_tables form mem with rfl | ⟨rfl, kind⟩
    · exact spelt_selectorTable word _ resource.directPlanned.spelt
    · have members := resource.members_spelt
      rw [kind] at members
      exact spelt_groupTable word members

/-! ## How often each comes -/

theorem headings_constants (tables : List SelectorTable) :
    tables.flatMap (·.constantRegions.map (·.heading)) =
      (tables.filter (·.hasConstants)).map ("impl " ++ ·.owner) := by
  induction tables with
  | nil => rfl
  | cons t rest ih =>
    rw [List.flatMap_cons, ih, List.filter_cons]
    unfold SelectorTable.constantRegions SelectorTable.hasConstants
    cases t.constantNames.isEmpty <;> rfl

section

variable {test : String → Bool} (other : ∀ h, IsOther h → test h = false)

include other

theorem filter_others {hs : List String} (others : ∀ h ∈ hs, IsOther h) : hs.filter test = [] :=
  List.filter_eq_nil_iff.mpr fun h mem => Bool.eq_false_iff.mp (other h (others h mem))

theorem filter_members (tables : List SelectorTable) :
    (tables.flatMap (·.membersRegions.map (·.heading))).filter test =
      (tables.map ("impl ::fluentfga::RelationSelector for " ++ ·.owner)).filter test := by
  have inner : IsOther ("fn members(&self) -> &'static [" ++ memberType ++ "]") :=
    ⟨"fn ", by decide, "members(&self) -> &'static [::fluentfga::Member]", by decide⟩
  have arms : IsOther "match self" := ⟨"match self", by decide, "", rfl⟩
  induction tables with
  | nil => rfl
  | cons t rest ih =>
    have head : t.membersRegions.map (·.heading) =
        ["impl ::fluentfga::RelationSelector for " ++ t.owner] ++
          ["fn members(&self) -> &'static [" ++ memberType ++ "]", "match self"] := rfl
    have cons : (t :: rest).map ("impl ::fluentfga::RelationSelector for " ++ ·.owner) =
        ["impl ::fluentfga::RelationSelector for " ++ t.owner] ++
          rest.map ("impl ::fluentfga::RelationSelector for " ++ ·.owner) := rfl
    rw [List.flatMap_cons, List.filter_append, ih, head, cons, List.filter_append,
      List.filter_append, filter_others other
        (List.forall_mem_cons.mpr ⟨inner, List.forall_mem_singleton.mpr arms⟩), List.append_nil]

/-- A test that other headings fail is about those for tables alone. -/
theorem TypePlan.filter_headings (p : TypePlan) :
    (p.regions.map (·.heading)).filter test = (p.tables.map ("pub enum " ++ ·.owner)).filter test ++
      ((p.tables.filter (·.hasConstants)).map ("impl " ++ ·.owner)).filter test ++
      (p.tables.map ("impl ::fluentfga::RelationSelector for " ++ ·.owner)).filter test := by
  obtain ⟨before, after, first, last, whole⟩ := p.exists_headings
  rw [whole, List.filter_append, List.filter_append, filter_others other first,
    filter_others other last, List.filter_append, List.filter_append, headings_constants,
    filter_members other, List.nil_append, List.append_nil]

/-- Headings that each type has for some of its tables, and a test tells from all others, come once
for each of these tables. -/
theorem Plan.count_heading {plan : Plan} {lead : String} (has : SelectorTable → Bool)
    (distinct : (plan.tables.map (·.owner)).Nodup)
    (types : ∀ p ∈ plan.types, (p.regions.map (·.heading)).filter test =
      (p.tables.filter has).map (lead ++ ·.owner))
    {t : SelectorTable} (mem : t ∈ plan.tables) (own : test (lead ++ t.owner) = true) :
    (plan.regions.tail.map (·.heading)).count (lead ++ t.owner) = if has t then 1 else 0 := by
  have inj : Function.Injective (lead ++ · : String → String) :=
    fun _ _ same => (String.append_right_inj lead).mp same
  have kept : (plan.regions.tail.map (·.heading)).filter test =
      (plan.tables.filter has).map (lead ++ ·.owner) := by
    rw [Plan.regions, List.tail_cons, List.map_append, List.filter_append,
      filter_others other (isOther_conditions _), List.append_nil, Plan.tables, List.map_flatMap,
      List.filter_flatMap, List.filter_flatMap, List.map_flatMap]
    exact List.flatMap_congr types
  have once : ((plan.tables.filter has).map (lead ++ ·.owner)).Nodup := by
    have all := distinct.map inj
    rw [List.map_map] at all
    exact all.sublist (List.filter_sublist.map _)
  rw [← List.count_filter own, kept]
  split
  next has =>
    exact List.count_eq_one_of_mem once (List.mem_map_of_mem (List.mem_filter.mpr ⟨mem, has⟩))
  next lacks =>
    refine List.count_eq_zero_of_not_mem fun among => ?_
    obtain ⟨u, inside, same⟩ := List.mem_map.mp among
    obtain ⟨known, has⟩ := List.mem_filter.mp inside
    obtain rfl := List.inj_on_of_nodup_map distinct known mem (inj same)
    exact lacks has

end

/-- Other headings begin otherwise. -/
theorem IsOther.beginsWith_eq {lead : String} (differ : ∀ front ∈ otherLeads,
      (front.toList.zip lead.toList).any (fun p => p.1 != p.2) = true) (h : String)
    (other : IsOther h) : Text.beginsWith h lead = false := by
  obtain ⟨front, own, rest, rfl⟩ := other
  exact Text.beginsWith_append_of_differ (differ front own) rest

/-- Whether a heading is that of the constants of a table, in which no path stands. -/
def isConstants (heading : String) : Bool :=
  Text.beginsWith heading "impl " && !Text.beginsWith heading "impl :"

/-- None of the other headings is one of constants, as what follows `impl` there is a path. -/
theorem IsOther.isConstants_eq (h : String) (other : IsOther h) : isConstants h = false := by
  obtain ⟨front, own, rest, rfl⟩ := other
  have each : ∀ front ∈ otherLeads, Text.beginsWith front "impl :" = true ∨
      (front.toList.zip "impl ".toList).any (fun p => p.1 != p.2) = true := by decide
  unfold isConstants
  rcases each front own with path | differ
  · rw [Text.beginsWith_append_left path, Bool.not_true, Bool.and_false]
  · rw [Text.beginsWith_append_of_differ differ, Bool.false_and]

/-- A heading with a word behind `impl` begins like no heading with a path there. -/
theorem beginsWith_impl_word {word lead : String} (named : IsWord word)
    (path : Text.beginsWith lead "impl :" = true) :
    Text.beginsWith ("impl " ++ word) lead = false := by
  obtain ⟨rest, rfl⟩ := Text.beginsWith_iff.mp path
  obtain ⟨c, cs, chars⟩ := List.exists_cons_of_ne_nil
    (mt String.toList_eq_nil_iff.mp named.nonempty)
  have part : isIdentifierPart c = true := named.chars c (by simp [chars])
  have other : ':' ≠ c := by
    rintro rfl
    exact absurd part (by decide)
  simp [Text.beginsWith, chars, List.isPrefixOf, other]

theorem filter_map_self {α : Type} {test : String → Bool} {f : α → String} {xs : List α}
    (own : ∀ x ∈ xs, test (f x) = true) : (xs.map f).filter test = xs.map f :=
  List.filter_eq_self.mpr (List.forall_mem_map.mpr own)

theorem filter_map_nil {α : Type} {test : String → Bool} {f : α → String} {xs : List α}
    (other : ∀ x ∈ xs, test (f x) = false) : (xs.map f).filter test = [] := by
  refine List.filter_eq_nil_iff.mpr (List.forall_mem_map.mpr fun x own => ?_)
  exact Bool.eq_false_iff.mp (other x own)

section

variable {plan : Plan} (planned : ∀ p ∈ plan.types, TypePlanned p)
  (distinct : (plan.tables.map (·.owner)).Nodup) {t : SelectorTable} (mem : t ∈ plan.tables)

include distinct mem

/-- The enumeration of a selector has a heading of its own, once in the whole text. -/
theorem count_enum :
    (plan.regions.tail.map (·.heading)).count ("pub enum " ++ t.owner) = 1 := by
  have other := @IsOther.beginsWith_eq "pub enum " (by decide)
  refine Plan.count_heading other (fun _ => true) distinct (fun p _ => ?_) mem
    (Text.beginsWith_append ..)
  have own : ∀ t ∈ p.tables, Text.beginsWith ("pub enum " ++ t.owner) "pub enum " = true :=
    fun t _ => Text.beginsWith_append ..
  have constants : ∀ t ∈ p.tables.filter (·.hasConstants),
      Text.beginsWith ("impl " ++ t.owner) "pub enum " = false :=
    fun t _ => Text.beginsWith_append_of_differ (by decide) _
  have members : ∀ t ∈ p.tables, Text.beginsWith
      ("impl ::fluentfga::RelationSelector for " ++ t.owner) "pub enum " = false :=
    fun t _ => Text.beginsWith_append_of_differ (by decide) _
  rw [p.filter_headings other, filter_map_self own, filter_map_nil constants,
    filter_map_nil members, List.filter_true, List.append_nil, List.append_nil]

include planned

/-- So has its match. -/
theorem count_members : (plan.regions.tail.map (·.heading)).count
    ("impl ::fluentfga::RelationSelector for " ++ t.owner) = 1 := by
  have other := @IsOther.beginsWith_eq "impl ::fluentfga::RelationSelector for " (by decide)
  refine Plan.count_heading other (fun _ => true) distinct (fun p own => ?_) mem
    (Text.beginsWith_append ..)
  have enum : ∀ t ∈ p.tables, Text.beginsWith ("pub enum " ++ t.owner)
      "impl ::fluentfga::RelationSelector for " = false :=
    fun t _ => Text.beginsWith_append_of_differ (by decide) _
  have constants : ∀ t ∈ p.tables.filter (·.hasConstants), Text.beginsWith ("impl " ++ t.owner)
      "impl ::fluentfga::RelationSelector for " = false := fun t inside => by
    have spelt := (planned p own).spelt_of_mem_tables (List.mem_filter.mp inside).1
    exact beginsWith_impl_word spelt.owner (by decide)
  have members : ∀ t ∈ p.tables, Text.beginsWith
      ("impl ::fluentfga::RelationSelector for " ++ t.owner)
      "impl ::fluentfga::RelationSelector for " = true := fun t _ => Text.beginsWith_append ..
  rw [p.filter_headings other, filter_map_nil enum, filter_map_nil constants,
    filter_map_self members, List.filter_true, List.append_nil, List.nil_append]

/-- The constants of a selector have their heading once if there are any, and not at all if there
are none. -/
theorem count_constants : (plan.regions.tail.map (·.heading)).count ("impl " ++ t.owner) =
    if t.hasConstants then 1 else 0 := by
  have word {p : TypePlan} (own : p ∈ plan.types) {t : SelectorTable} (inside : t ∈ p.tables) :
      isConstants ("impl " ++ t.owner) = true := by
    have path : Text.beginsWith ("impl " ++ t.owner) "impl :" = false :=
      beginsWith_impl_word ((planned p own).spelt_of_mem_tables inside).owner (by decide)
    rw [isConstants, Text.beginsWith_append, path]
    rfl
  obtain ⟨p, own, inside⟩ := List.mem_flatMap.mp mem
  refine Plan.count_heading IsOther.isConstants_eq (·.hasConstants) distinct (fun q among => ?_)
    mem (word own inside)
  have enum : ∀ t ∈ q.tables, isConstants ("pub enum " ++ t.owner) = false := fun t _ => by
    rw [isConstants, Text.beginsWith_append_of_differ (by decide), Bool.false_and]
  have constants : ∀ t ∈ q.tables.filter (·.hasConstants),
      isConstants ("impl " ++ t.owner) = true :=
    fun t kept => word among (List.mem_filter.mp kept).1
  have members : ∀ t ∈ q.tables,
      isConstants ("impl ::fluentfga::RelationSelector for " ++ t.owner) = false := fun t _ => by
    rw [isConstants, @Text.beginsWith_append_left _ "impl :" (by decide), Bool.not_true,
      Bool.and_false]
  rw [q.filter_headings IsOther.isConstants_eq, filter_map_nil enum, filter_map_self constants,
    filter_map_nil members, List.nil_append, List.append_nil]

end

end Rebac.Bindings
