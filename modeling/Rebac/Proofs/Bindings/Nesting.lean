import Rebac.Proofs.Bindings.Outline
import Rebac.Sample

/-!
# Blocks in the bindings

Which blocks are open at a place of an outline, told by their headings. Nothing closes a block where
none is open, whereas the depth of a text is a number, and lowering it stops at zero. In bindings
the depth is the number of open blocks at every place, each piece is indented by four spaces for
each of them, every block that is opened is closed, and none is open after a type or after the
conditions.
-/

namespace Rebac.Bindings

open Accessor (Policy)
open Schema (Model)

/-! ## Open blocks -/

/-- The blocks that are open after a piece, by their headings, the innermost first. No piece closes
a block where none is open. -/
def Piece.blocksAfter? : List String → Piece → Option (List String)
  | blocks, .line _ | blocks, .blank => some blocks
  | blocks, .enter heading => some (heading :: blocks)
  | [], .leave => none
  | _ :: blocks, .leave => some blocks

/-- The blocks that are open after pieces. -/
def blocksAfter? (blocks : List String) (pieces : List Piece) : Option (List String) :=
  pieces.foldlM Piece.blocksAfter? blocks

/-- The depth of a text after the pieces at its beginning. -/
def depthOf (pieces : List Piece) : Nat := pieces.foldl Piece.depthAfter 0

theorem blocksAfter?_cons {blocks after : List String} {p : Piece} {rest : List Piece} :
    blocksAfter? blocks (p :: rest) = some after ↔
      ∃ between, p.blocksAfter? blocks = some between ∧ blocksAfter? between rest = some after := by
  rw [blocksAfter?, List.foldlM_cons]
  exact Option.bind_eq_some_iff

/-- A list of pieces is passed in two parts where the first can be passed, and the second with the
blocks that the first leaves open. -/
theorem blocksAfter?_append {blocks after : List String} {a b : List Piece} :
    blocksAfter? blocks (a ++ b) = some after ↔
      ∃ between, blocksAfter? blocks a = some between ∧ blocksAfter? between b = some after := by
  rw [blocksAfter?, List.foldlM_append]
  exact Option.bind_eq_some_iff

/-- A piece that can be passed changes the depth as it changes the number of open blocks. A depth
alone could not tell, since lowering it stops at zero. -/
theorem Piece.depthAfter_length {p : Piece} {blocks after : List String}
    (step : p.blocksAfter? blocks = some after) : p.depthAfter blocks.length = after.length := by
  cases p with
  | line | blank | enter =>
    cases step
    rfl
  | leave =>
    cases blocks with
    | nil => cases step
    | cons heading blocks =>
      cases step
      rfl

/-- As long as nothing closes a block where none is open, the depth is the number of open blocks. -/
theorem foldl_depthAfter_length {pieces : List Piece} {blocks after : List String}
    (run : blocksAfter? blocks pieces = some after) :
    pieces.foldl Piece.depthAfter blocks.length = after.length := by
  induction pieces generalizing blocks with
  | nil =>
    cases run
    rfl
  | cons p rest ih =>
    obtain ⟨between, step, later⟩ := blocksAfter?_cons.mp run
    rw [List.foldl_cons, Piece.depthAfter_length step, ih later]

theorem depthOf_snoc (pieces : List Piece) (p : Piece) :
    depthOf (pieces ++ [p]) = p.depthAfter (depthOf pieces) := by
  rw [depthOf, List.foldl_append]
  rfl

/-- Where a text is passed from the start, its depth is the number of blocks that are open after it.
So a line there is indented by four spaces for each of them. -/
theorem depthOf_eq_length {pieces : List Piece} {blocks : List String}
    (run : blocksAfter? [] pieces = some blocks) : depthOf pieces = blocks.length :=
  foldl_depthAfter_length run

/-- A closing brace too many goes unnoticed by the depth. -/
example : depthOf [.leave, .enter "mod a"] = 1 ∧
    blocksAfter? [] [.leave, .enter "mod a"] = none := by
  decide

/-- A piece inside a block closes that block, or it does to the blocks inside what it would do
without those around them. -/
theorem Piece.blocksAfter?_inside {p : Piece} {heading : String} {inner blocks after : List String}
    (step : p.blocksAfter? (inner ++ heading :: blocks) = some after) :
    (p = .leave ∧ inner = [] ∧ after = blocks) ∨
      ∃ inner', p.blocksAfter? inner = some inner' ∧ after = inner' ++ heading :: blocks := by
  cases p with
  | line | blank | enter =>
    cases step
    exact .inr ⟨_, rfl, rfl⟩
  | leave =>
    cases inner with
    | nil =>
      cases step
      exact .inl ⟨rfl, rfl, rfl⟩
    | cons own inner =>
      cases step
      exact .inr ⟨inner, rfl, rfl⟩

/-- A block that is not open at the end has been closed, and the blocks inside it before it. -/
theorem exists_close {rest : List Piece} {heading : String} {inner blocks after : List String}
    (run : blocksAfter? (inner ++ heading :: blocks) rest = some after)
    (outside : after.length ≤ blocks.length) :
    ∃ body later, rest = body ++ .leave :: later ∧ blocksAfter? inner body = some [] ∧
      blocksAfter? blocks later = some after := by
  -- the blocks inside change from piece to piece, and those around them stay until the brace
  induction rest generalizing inner with
  | nil =>
    cases run
    rw [List.length_append, List.length_cons] at outside
    omega
  | cons p rest ih =>
    obtain ⟨between, step, run⟩ := blocksAfter?_cons.mp run
    rcases Piece.blocksAfter?_inside step with ⟨rfl, rfl, rfl⟩ | ⟨inner', step', rfl⟩
    · exact ⟨[], rest, rfl, rfl, run⟩
    · obtain ⟨body, later, rfl, closed, run⟩ := ih run
      exact ⟨p :: body, later, rfl, blocksAfter?_cons.mpr ⟨inner', step', closed⟩, run⟩

/-! ## Indentation -/

/-- The space in front of a line inside blocks: four spaces for each. -/
def margin (blocks : List String) : String := String.join (blocks.map fun _ => "    ")

/-- The text of a piece among open blocks. A closing brace stands below the heading of its block,
and there is none without a block. -/
inductive Piece.Stands : List String → Piece → String → Prop where
  | line {blocks : List String} {text : String} :
    Stands blocks (.line text) (margin blocks ++ text ++ "\n")
  | blank {blocks : List String} : Stands blocks .blank "\n"
  | enter {blocks : List String} {heading : String} :
    Stands blocks (.enter heading) (margin blocks ++ (heading ++ " \x7b") ++ "\n")
  | leave {blocks : List String} {heading : String} :
    Stands (heading :: blocks) .leave (margin blocks ++ "\x7d" ++ "\n")

/-- A line stands behind the margin of the blocks around it, and ends with a newline. -/
theorem Piece.Stands.text_line {blocks : List String} {text shown : String}
    (stands : Piece.Stands blocks (.line text) shown) : shown = margin blocks ++ text ++ "\n" := by
  cases stands
  rfl

/-- A piece whose line, if it is one, has some text. -/
def Piece.Filled : Piece → Prop
  | .line text => text ≠ ""
  | .blank | .enter _ | .leave => True

theorem indentation_length (blocks : List String) :
    indentation blocks.length = margin blocks := by
  induction blocks with
  | nil => rfl
  | cons heading blocks ih =>
    have four : indentation (heading :: blocks).length = "    " ++ indentation blocks.length := by
      rw [← String.toList_inj]
      simp [indentation, Nat.mul_add, Nat.add_comm, List.replicate_add]
    rw [four, ih, margin, margin, List.map_cons, String.join_cons]

theorem indented_length (blocks : List String) {text : String} (some : text ≠ "") :
    indented blocks.length text = margin blocks ++ text ++ "\n" := by
  rw [indented, if_neg some, indentation_length]

/-- What is rendered of a piece stands as it should: indented by the number of blocks around it,
which is one less for a closing brace than before it. -/
theorem Piece.stands_render {p : Piece} {blocks after : List String}
    (step : p.blocksAfter? blocks = some after) (filled : p.Filled) :
    p.Stands blocks (p.render blocks.length) := by
  cases p with
  | line text =>
    rw [Piece.render, indented_length blocks filled]
    exact .line
  | blank => exact .blank
  | enter heading =>
    rw [Piece.render, indented_length blocks (by simp)]
    exact .enter
  | leave =>
    cases blocks with
    | nil => cases step
    | cons heading blocks =>
      rw [Piece.render, List.length_cons, Nat.add_sub_cancel, indented_length blocks (by decide)]
      exact .leave

/-! ## Nested pieces -/

/-- Pieces that close the blocks that they open, and no others, and have no empty line. -/
structure Nested (pieces : List Piece) : Prop where
  returns (blocks : List String) : blocksAfter? blocks pieces = some blocks
  filled : ∀ p ∈ pieces, p.Filled

namespace Nested

theorem nil : Nested [] := ⟨fun _ => rfl, by simp⟩

/-- Nested pieces come one after the other, whatever is open around them. -/
theorem append {a b : List Piece} (first : Nested a) (second : Nested b) : Nested (a ++ b) where
  returns blocks := blocksAfter?_append.mpr ⟨blocks, first.returns blocks, second.returns blocks⟩
  filled := List.forall_mem_append.mpr ⟨first.filled, second.filled⟩

theorem line {text : String} {rest : List Piece} (some : text ≠ "") (later : Nested rest) :
    Nested (.line text :: rest) where
  returns blocks := blocksAfter?_cons.mpr ⟨blocks, rfl, later.returns blocks⟩
  filled := List.forall_mem_cons.mpr ⟨some, later.filled⟩

theorem blank {rest : List Piece} (later : Nested rest) : Nested (.blank :: rest) where
  returns blocks := blocksAfter?_cons.mpr ⟨blocks, rfl, later.returns blocks⟩
  filled := List.forall_mem_cons.mpr ⟨trivial, later.filled⟩

theorem lines {α : Type} {text : α → String} {xs : List α} (some : ∀ x, text x ≠ "") :
    Nested (xs.map fun x => .line (text x)) := by
  induction xs with
  | nil => exact nil
  | cons x xs ih => exact line (some x) ih

/-- A block around nested pieces is nested: its brace closes what its heading opened. -/
theorem block {heading : String} {body : List Piece} (inside : Nested body) :
    Nested (block heading body) where
  returns blocks := by
    refine blocksAfter?_cons.mpr ⟨heading :: blocks, rfl, ?_⟩
    exact blocksAfter?_append.mpr ⟨heading :: blocks, inside.returns _, rfl⟩
  filled := by
    refine List.forall_mem_cons.mpr ⟨trivial, List.forall_mem_append.mpr ⟨inside.filled, ?_⟩⟩
    exact List.forall_mem_singleton.mpr trivial

theorem flatMap {α : Type} {pieces : α → List Piece} {xs : List α}
    (nested : ∀ x ∈ xs, Nested (pieces x)) : Nested (xs.flatMap pieces) := by
  induction xs with
  | nil => exact nil
  | cons x xs ih =>
    obtain ⟨here, later⟩ := List.forall_mem_cons.mp nested
    exact here.append (ih later)

end Nested

theorem Nested.apart {parts : List (List Piece)} (nested : ∀ part ∈ parts, Nested part) :
    Nested (apart parts) :=
  .flatMap fun part mem => (nested part mem).blank

/-- Parts that are nested each by themselves are nested with blank lines between them. -/
theorem Nested.spaced {parts : List (List Piece)} (nested : ∀ part ∈ parts, Nested part) :
    Nested (spaced parts) := by
  cases parts with
  | nil => exact .nil
  | cons first parts =>
    obtain ⟨here, later⟩ := List.forall_mem_cons.mp nested
    rw [spaced_cons]
    exact here.append (.apart later)

/-- Nested pieces end at the depth where they began. -/
theorem Nested.foldl_depthAfter {pieces : List Piece} (nested : Nested pieces) (depth : Nat) :
    pieces.foldl Piece.depthAfter depth = depth := by
  have run := foldl_depthAfter_length (nested.returns (List.replicate depth ""))
  rwa [List.length_replicate] at run

/-! ## Texts laid out in blocks -/

/-- An outline and its text, in which every piece stands as the blocks around it ask, and every
block is closed. -/
structure LaidOut (pieces : List Piece) (source : String) : Prop where
  /-- At every place the depth is the number of open blocks, and the text of the next piece is
  indented for them. -/
  stands {before after : List Piece} {p : Piece} (here : pieces = before ++ p :: after) :
    ∃ blocks text, blocksAfter? [] before = some blocks ∧ depthOf before = blocks.length ∧
      p.Stands blocks text ∧
      source = render 0 before ++ (text ++ render (depthOf (before ++ [p])) after)
  /-- A closing brace lowers the depth by one, so it never stands at depth zero. -/
  lowers {before after : List Piece} (here : pieces = before ++ .leave :: after) :
    depthOf (before ++ [.leave]) + 1 = depthOf before
  /-- After a heading stands a brace that closes its block, and all blocks between are closed. -/
  closes {before after : List Piece} {heading : String}
    (here : pieces = before ++ .enter heading :: after) :
    ∃ body later, after = body ++ .leave :: later ∧ blocksAfter? [] body = some []
  ends : blocksAfter? [] pieces = some [] ∧ depthOf pieces = 0

/-- The blocks that are open at a piece of a nested outline and after it. By the end all are
closed. -/
theorem Nested.blocks_at {pieces before after : List Piece} {p : Piece} (nested : Nested pieces)
    (here : pieces = before ++ p :: after) :
    ∃ blocks next, blocksAfter? [] before = some blocks ∧ p.blocksAfter? blocks = some next ∧
      blocksAfter? next after = some [] := by
  have run := nested.returns []
  rw [here, blocksAfter?_append] at run
  obtain ⟨blocks, reached, run⟩ := run
  obtain ⟨next, step, run⟩ := blocksAfter?_cons.mp run
  exact ⟨blocks, next, reached, step, run⟩

/-- A text of nested pieces is laid out. Every place of it splits the pieces in two, and the first
of the two can be passed because the whole can. -/
theorem LaidOut.of_nested {pieces : List Piece} (nested : Nested pieces) :
    LaidOut pieces (render 0 pieces) where
  stands {before after p} here := by
    obtain ⟨blocks, _, reached, step, -⟩ := nested.blocks_at here
    have filled : p.Filled := nested.filled p (by simp [here])
    have depth := depthOf_eq_length reached
    refine ⟨blocks, p.render blocks.length, reached, depth, Piece.stands_render step filled, ?_⟩
    rw [here, render_append, render, ← depthOf, depthOf_snoc, depth]
  lowers {before after} here := by
    obtain ⟨blocks, _, reached, step, -⟩ := nested.blocks_at here
    rw [depthOf_snoc, depthOf_eq_length reached]
    cases blocks with
    | nil => cases step
    | cons heading blocks => rfl
  closes {before after heading} here := by
    obtain ⟨blocks, _, -, step, run⟩ := nested.blocks_at here
    cases step
    have inside : blocksAfter? ([] ++ heading :: blocks) after = some [] := run
    obtain ⟨body, later, rest, closed, -⟩ := exists_close inside (Nat.zero_le _)
    exact ⟨body, later, rest, closed⟩
  ends := ⟨nested.returns [], depthOf_eq_length (nested.returns [])⟩

example :
    render 0 (block "pub mod conditions"
      (block "pub mod active_trial" [.line "pub const NAME: &str = \"active_trial\";"])) =
    "pub mod conditions \x7b\n    pub mod active_trial \x7b\n" ++
      "        pub const NAME: &str = \"active_trial\";\n    \x7d\n\x7d\n" := by
  decide

/-! ## The parts of a type -/

/-- A documented item with its attribute, and the block under its heading. -/
theorem nested_item {comment abilities heading : String} {body : List Piece} (some : comment ≠ "")
    (inside : Nested body) :
    Nested (.line comment :: deriveLine abilities :: block heading body) :=
  .line some (.line (by simp) (.block inside))

theorem nested_markerStruct (p : TypePlan) : Nested (markerStruct p) :=
  .line (by simp) (.line (by simp) (.line (by simp) .nil))

/-- The structure of a resource has a field for each direct relation, and one for its computed
relations if it has any. -/
theorem nested_resourceStruct (p : TypePlan) (direct : List RelationPlan) (perform : Perform) :
    Nested (resourceStruct p direct perform) := by
  have fields : Nested (direct.map fun r => fieldLine r.field stringType) := .lines (by simp)
  have computed : Nested (perform.fieldLines p.groupName) := by
    cases perform with
    | absent => exact .nil
    | scalar | group => exact .line (by simp) .nil
  exact nested_item (by simp) (fields.append computed)

theorem nested_groupStruct (p : TypePlan) (group : List RelationPlan) :
    Nested (groupStruct p group) :=
  nested_item (by simp) (.lines (by simp))

theorem nested_variants (relations : List RelationPlan) :
    Nested (relations.map fun r => .line (r.variant ++ ",")) := .lines (by simp)

theorem nested_variantLines (perform : Perform) (selectorName : String) :
    Nested (perform.variantLines selectorName) := by
  cases perform with
  | absent => exact .nil
  | scalar | group => exact .line (by simp) .nil

/-- The enumeration of a selector has a variant for each relation, and no block inside. -/
theorem nested_selectorEnum (p : TypePlan) (direct : List RelationPlan) (perform : Perform) :
    Nested (selectorEnum p direct perform) :=
  nested_item (by simp) ((nested_variants direct).append (nested_variantLines perform _))

theorem nested_groupEnum (p : TypePlan) (group : List RelationPlan) : Nested (groupEnum p group) :=
  nested_item (by simp) (nested_variants group)

theorem nested_constants (t : SelectorTable) :
    Nested ((t.elements.map elementsLine).toList ++ t.constants.map ChainEntry.line) := by
  refine .append ?_ (.lines (by simp))
  cases t.elements with
  | none => exact .nil
  | some names => exact .line (by simp) .nil

/-- A table without constants has no block for them, and so no empty implementation. -/
theorem nested_constantParts (t : SelectorTable) : ∀ part ∈ t.constantParts, Nested part := by
  intro part mem
  simp only [SelectorTable.constantParts] at mem
  split at mem
  · cases mem
  · rw [List.mem_singleton.mp mem]
    exact (nested_constants t).block

theorem nested_arms (t : SelectorTable) : Nested (t.arms.map Arm.line) := by
  refine .lines fun a => ?_
  cases a.target <;> simp

/-- The match of a selector is three blocks deep: the implementation, its function and the match
itself. -/
theorem nested_membersImpl (t : SelectorTable) : Nested t.membersImpl :=
  (nested_arms t).block.block.block

theorem nested_relationNameImpl (resource selector : String) :
    Nested (relationNameImpl resource selector) :=
  .block (.block (.line (by decide) .nil))

/-- A group has a part of its own beside each part of the type. -/
theorem nested_resourceParts (p : TypePlan) (direct : List RelationPlan) (perform : Perform) :
    ∀ part ∈ resourceParts p direct perform, Nested part := by
  have struct := nested_resourceStruct p direct perform
  have selector := nested_selectorEnum p direct perform
  have constants := nested_constantParts (p.selectorTable direct perform)
  have members := nested_membersImpl (p.selectorTable direct perform)
  have name := nested_relationNameImpl p.identifier p.selectorName
  intro part mem
  cases perform with
  | absent | scalar =>
    simp only [resourceParts, List.mem_append, List.mem_cons, List.not_mem_nil, or_false] at mem
    rcases mem with ((rfl | rfl) | mem) | rfl | rfl
    · exact struct
    · exact selector
    · exact constants part mem
    · exact members
    · exact name
  | group group =>
    simp only [resourceParts, List.mem_append, List.mem_cons, List.not_mem_nil, or_false] at mem
    rcases mem with (((rfl | rfl | rfl | rfl) | mem) | mem) | rfl | rfl | rfl | rfl
    · exact struct
    · exact nested_groupStruct p group
    · exact selector
    · exact nested_groupEnum p group
    · exact constants part mem
    · exact nested_constantParts (p.groupTable group) part mem
    · exact members
    · exact nested_membersImpl (p.groupTable group)
    · exact name
    · exact nested_relationNameImpl p.identifier p.groupSelectorName

/-- Every part of a type is nested, whatever the policy makes of it. -/
theorem nested_typeParts (policy : Policy) (p : TypePlan) :
    ∀ part ∈ p.parts ++ p.accessorParts policy, Nested part := by
  have entity : Nested (entityImpl p) := .block (.line (by simp) .nil)
  have resource : Nested (resourceImpl p) := .line (by simp) .nil
  have accessor : Nested (accessorImpl p) := .line (by simp) .nil
  refine List.forall_mem_append.mpr ⟨?parts, ?policy⟩
  case parts =>
    unfold TypePlan.parts
    cases p.form with
    | marker =>
      exact List.forall_mem_cons.mpr
        ⟨nested_markerStruct p, List.forall_mem_singleton.mpr entity⟩
    | resource direct perform =>
      refine List.forall_mem_append.mpr ⟨nested_resourceParts p direct perform, ?_⟩
      exact List.forall_mem_cons.mpr ⟨entity, List.forall_mem_singleton.mpr resource⟩
  case policy =>
    unfold TypePlan.accessorParts
    split
    · exact List.forall_mem_singleton.mpr accessor
    · simp

/-! ## The parts of conditions -/

theorem nested_comment (p : ConditionPlan) : Nested p.comment := by
  unfold ConditionPlan.comment
  cases p.condition.expression with
  | none => exact .line (by simp) .nil
  | some expression => exact .line (by simp) (.line (by decide) (.line (by simp) .nil))

theorem contextText_ne_empty (arguments : List ArgumentPlan) : contextText arguments ≠ "" := by
  unfold contextText
  split <;> simp

/-- The module of a condition holds its name and two functions. An expression adds a comment, and no
block. -/
theorem nested_conditionPieces (p : ConditionPlan) : Nested p.pieces := by
  refine (nested_comment p).append (.block (.spaced ?_))
  intro part mem
  simp only [List.mem_cons, List.not_mem_nil, or_false] at mem
  rcases mem with rfl | rfl | rfl
  · exact .line (by decide) (.line (by simp) .nil)
  · exact .line (by decide) (.block (.line (by simp) .nil))
  · exact .line (by decide) (.block (.line (contextText_ne_empty p.provided) .nil))

theorem nested_conditionParts (plans : List ConditionPlan) :
    ∀ part ∈ conditionParts plans, Nested part := by
  unfold conditionParts
  split
  · simp
  · have modules : Nested (spaced (plans.map ConditionPlan.pieces)) :=
      .spaced (List.forall_mem_map.mpr fun p _ => nested_conditionPieces p)
    exact List.forall_mem_singleton.mpr (.line (by decide) modules.block)

/-! ## The outline of a plan -/

/-- The header is two comments, each one piece. A version of several lines makes no more pieces of
it. -/
theorem nested_header (version : String) : Nested (header version) :=
  .line (by decide) (.line (by simp) .nil)

/-- What a type adds to an outline: its parts, each under a blank line. -/
def TypePlan.pieces (policy : Policy) (p : TypePlan) : List Piece :=
  apart (p.parts ++ p.accessorParts policy)

theorem TypePlan.nested_pieces (policy : Policy) (p : TypePlan) : Nested (p.pieces policy) :=
  .apart (nested_typeParts policy p)

/-- The outline of a plan as far as some of its types. -/
def outlineTo (policy : Policy) (version : String) (types : List TypePlan) : List Piece :=
  header version ++ types.flatMap (·.pieces policy)

theorem nested_outlineTo (policy : Policy) (version : String) (types : List TypePlan) :
    Nested (outlineTo policy version types) :=
  (nested_header version).append (.flatMap fun p _ => p.nested_pieces policy)

/-- An outline is the header, what each type adds, and the conditions, if there are any. -/
theorem Plan.spaced_parts (policy : Policy) (plan : Plan) :
    spaced (plan.parts policy) =
      outlineTo policy plan.version plan.types ++ apart (conditionParts plan.conditions) := by
  have parts : plan.parts policy = header plan.version ::
      (plan.types.flatMap (fun p => p.parts ++ p.accessorParts policy) ++
        conditionParts plan.conditions) := rfl
  have types : apart (plan.types.flatMap fun p => p.parts ++ p.accessorParts policy) =
      plan.types.flatMap (·.pieces policy) := List.flatMap_assoc
  rw [parts, spaced_cons, apart, List.flatMap_append, ← apart, ← apart, types, outlineTo,
    List.append_assoc]

/-- The whole outline of a plan is nested: a header, the parts of each type, and the parts of the
conditions. -/
theorem Plan.nested_outline (policy : Policy) (plan : Plan) :
    Nested (spaced (plan.parts policy)) := by
  rw [plan.spaced_parts]
  exact (nested_outlineTo policy plan.version plan.types).append
    (.apart (nested_conditionParts plan.conditions))

/-! ## Bindings -/

/-- In bindings the depth is the number of open blocks at every place, so no closing brace meets
depth zero, each piece is indented for the blocks around it, and each block is closed. The outline
is the header, the types one after another and the conditions. After each type and at the end no
block is open. -/
theorem generate_closes_blocks {model : Model} {policy : Policy} {source : String}
    (made : generate model policy = .ok source) :
    ∃ plan, Plan.of model = .ok plan ∧ plan.types.map (·.definition) = model.types ∧
      LaidOut (spaced (plan.parts policy)) source ∧
      ∀ types later, plan.types = types ++ later →
        spaced (plan.parts policy) = outlineTo policy plan.version types ++
          (later.flatMap (·.pieces policy) ++ apart (conditionParts plan.conditions)) ∧
        blocksAfter? [] (outlineTo policy plan.version types) = some [] ∧
        depthOf (outlineTo policy plan.version types) = 0 := by
  obtain ⟨plan, planOf, rfl, definitions, -⟩ := generate_ok made
  refine ⟨plan, planOf, definitions, .of_nested (plan.nested_outline policy), ?_⟩
  intro types later split
  have none : blocksAfter? [] (outlineTo policy plan.version types) = some [] :=
    (nested_outlineTo policy plan.version types).returns []
  refine ⟨?_, none, depthOf_eq_length none⟩
  rw [plan.spaced_parts, split, outlineTo, outlineTo, List.flatMap_append]
  simp only [List.append_assoc]

/-- A schema with a type of every form and two conditions. -/
def mixedModel : Model where
  version := "1.1"
  types :=
    [Sample.typeWith "user" [] [], Sample.typeWith "team" ["member"] [],
      Sample.typeWith "folder" ["owner"] ["read"],
      Sample.typeWith "form" ["editor"] ["edit", "read"]]
  conditions := [Sample.activeTrial, ⟨"always", none, []⟩]

/-- The arm that hands over to the selector of a group. -/
def groupArm : Piece :=
  .line "Self::Perform(inner) => ::fluentfga::RelationSelector::members(inner),"

/-- In the bindings of this schema the arm of a group is the deepest kind of line, in a match in a
function in an implementation. It is indented by twelve spaces, and no block is open after the third
type. -/
theorem generate_closes_blocks_mixed :
    ∃ source plan before after, generate mixedModel .standard = .ok source ∧
      Plan.of mixedModel = .ok plan ∧ plan.types.length = 4 ∧
      spaced (plan.parts .standard) = before ++ groupArm :: after ∧ depthOf before = 3 ∧
      source = render 0 before ++
        ("            Self::Perform(inner) => ::fluentfga::RelationSelector::members(inner),\n" ++
          render 3 after) ∧
      depthOf (outlineTo .standard plan.version (plan.types.take 3)) = 0 := by
  have place : (Plan.of mixedModel).toOption.map (fun plan =>
      (((spaced (plan.parts .standard)).dropWhile (· ≠ groupArm)).head?,
        blocksAfter? [] ((spaced (plan.parts .standard)).takeWhile (· ≠ groupArm)))) =
      some (some groupArm, some ["match self",
        "fn members(&self) -> &'static [::fluentfga::Member]",
        "impl ::fluentfga::RelationSelector for FormRelation"]) := by decide +kernel
  obtain ⟨plan, planned, own⟩ := exists_plan place
  obtain ⟨first, reached⟩ := Prod.mk.inj own
  have made := generate_of_plan planned .standard
  obtain ⟨plan', planOf, definitions, laid, types⟩ := generate_closes_blocks made
  obtain rfl : plan = plan' := Except.ok.inj (planned.symm.trans planOf)
  obtain ⟨after, rest⟩ := List.head?_eq_some_iff.mp first
  have here : spaced (plan.parts .standard) =
      (spaced (plan.parts .standard)).takeWhile (· ≠ groupArm) ++ groupArm :: after := by
    rw [← rest, List.takeWhile_append_dropWhile]
  obtain ⟨_, text, reached', depth, stands, source⟩ := laid.stands here
  obtain rfl := Option.some.inj (reached.symm.trans reached')
  have deeper : depthOf (((spaced (plan.parts .standard)).takeWhile (· ≠ groupArm)) ++
      [groupArm]) = 3 := by
    rw [depthOf_snoc]
    exact depth
  refine ⟨_, plan, _, after, made, planned, ?_, here, depth, ?_, ?_⟩
  · rw [← List.length_map (·.definition), definitions]
    rfl
  · rw [source, deeper, Piece.Stands.text_line stands]
    rfl
  · exact (types _ _ (List.take_append_drop 3 plan.types).symm).2.2

end Rebac.Bindings
