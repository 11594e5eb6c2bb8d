import Mathlib.Data.List.Basic
import Rebac.Proofs.Bindings.Identifier
import Rebac.Proofs.Bindings.Outline

/-!
# Declarations in an outline

Which names each block of an outline declares, read from its lines and headings. A line declares
only where it is complete: an item ends with a semicolon, and a field or a variant with a comma. A
comment declares nothing, whatever it holds. The names in text that stands apart by blank lines are
those of its parts.
-/

namespace Rebac.Bindings

/-! ## Names -/

/-- The characters of an identifier without the mark of a raw one. -/
def bare : List Char → List Char
  | 'r' :: '#' :: rest => rest
  | cs => cs

/-- The name that an identifier stands for. A raw identifier stands for the keyword in it. -/
def bareName (identifier : String) : String := String.ofList (bare identifier.toList)

/-- The name at the beginning of a text. -/
def nameAt? (text : String) : Option String :=
  match (bare text.toList).takeWhile isIdentifierPart with
  | [] => none
  | name => some (String.ofList name)

/-- Identifiers, perhaps raw, of at least one character. -/
structure IsName (identifier : String) : Prop where
  nonempty : bare identifier.toList ≠ []
  word : ∀ c ∈ bare identifier.toList, isIdentifierPart c = true

/-- No identifier goes on with this text. -/
def Stops (text : String) : Prop :=
  ∀ c, text.toList.head? = some c → isIdentifierPart c = false ∧ c ≠ '#'

theorem bare_append {cs rest : List Char} (some : cs ≠ [])
    (mark : ∀ c, rest.head? = Option.some c → c ≠ '#') : bare (cs ++ rest) = bare cs ++ rest := by
  match cs, some with
  | [c], _ =>
    cases rest with
    | nil => simp
    | cons d rest =>
      have other : d ≠ '#' := mark d rfl
      simp [bare, other]
  | c :: d :: cs, _ =>
    by_cases raw : c = 'r' ∧ d = '#'
    · obtain ⟨rfl, rfl⟩ := raw
      rfl
    · have same (tail : List Char) : bare (c :: d :: tail) = c :: d :: tail := by
        unfold bare
        split
        · simp_all
        · rfl
      exact (same (cs ++ rest)).trans (congrArg (· ++ rest) (same cs)).symm

theorem IsName.ne_nil {identifier : String} (name : IsName identifier) :
    identifier.toList ≠ [] := by
  intro empty
  refine name.nonempty ?_
  rw [empty]
  rfl

theorem bare_cases (cs : List Char) : cs = bare cs ∨ cs = 'r' :: '#' :: bare cs := by
  unfold bare
  split
  · exact .inr rfl
  · exact .inl rfl

theorem IsName.chars {identifier : String} (name : IsName identifier) (c : Char)
    (mem : c ∈ identifier.toList) : isIdentifierPart c = true ∨ c = '#' := by
  rcases bare_cases identifier.toList with plain | raw
  · rw [plain] at mem
    exact .inl (name.word c mem)
  · rw [raw] at mem
    rcases List.mem_cons.mp mem with rfl | mem
    · exact .inl (by decide)
    · exact (List.mem_cons.mp mem).symm.imp_left (name.word c)

/-- The name at the beginning of a text ends where no identifier goes on. -/
theorem nameAt?_append {identifier rest : String} (name : IsName identifier) (stops : Stops rest) :
    nameAt? (identifier ++ rest) = some (bareName identifier) := by
  have front : (bare (identifier ++ rest).toList).takeWhile isIdentifierPart =
      bare identifier.toList := by
    rw [String.toList_append, bare_append name.ne_nil fun c first => (stops c first).2,
      List.takeWhile_append_of_pos name.word]
    cases chars : rest.toList with
    | nil => simp
    | cons c cs =>
      have stop := (stops c (by rw [chars]; rfl)).1
      simp [stop]
  unfold nameAt?
  rw [front, bareName]
  split
  next empty => exact absurd empty name.nonempty
  next => rfl

/-! ## Identifiers that are planned -/

/-- Words of identifier characters. They may begin with a digit. -/
structure IsWord (name : String) : Prop where
  nonempty : name ≠ ""
  chars : ∀ c ∈ name.toList, isIdentifierPart c = true

theorem IsWord.of_isIdentifier {name : String} (word : isIdentifier name = true) : IsWord name where
  nonempty := (Bindings.of_isIdentifier word).1
  chars c mem := isIdentifierPart_iff.mpr ((Bindings.of_isIdentifier word).2 c mem)

theorem IsWord.append {a b : String} (word : IsWord a)
    (more : ∀ c ∈ b.toList, isIdentifierPart c = true) : IsWord (a ++ b) where
  nonempty empty := word.nonempty (String.append_eq_empty_iff.mp empty).1
  chars c mem := by
    rw [String.toList_append] at mem
    exact (List.mem_append.mp mem).elim (word.chars c) (more c)

theorem bare_of_word {cs : List Char} (word : ∀ c ∈ cs, isIdentifierPart c = true) :
    bare cs = cs := by
  unfold bare
  split
  · exact absurd (word '#' (by simp)) (by decide)
  · rfl

theorem IsWord.bareName_eq {name : String} (word : IsWord name) : bareName name = name := by
  rw [bareName, bare_of_word word.chars, String.ofList_toList]

/-- A word is an identifier that is not raw. -/
theorem IsWord.isName {name : String} (word : IsWord name) : IsName name where
  nonempty := by
    rw [bare_of_word word.chars, ne_eq, String.toList_eq_nil_iff]
    exact word.nonempty
  word := by
    rw [bare_of_word word.chars]
    exact word.chars

/-- The identifier of a type is one. -/
theorem isIdentifier_of_typeIdentifier {name identifier : String}
    (named : typeIdentifier? name = some identifier) : isIdentifier identifier = true := by
  unfold typeIdentifier? at named
  split at named
  next keyword =>
    cases named
    revert name
    decide
  next =>
    split at named
    next word =>
      cases named
      exact word
    next => cases named

/-- The identifier of a value is raw exactly when it stands for a keyword. -/
theorem valueIdentifier?_cases {name identifier : String}
    (named : valueIdentifier? name = some identifier) :
    isIdentifier (bareName identifier) = true ∧ identifier =
      if bareName identifier ∈ rawKeywords then "r#" ++ bareName identifier
      else bareName identifier := by
  unfold valueIdentifier? at named
  split at named
  next keyword =>
    cases named
    revert name
    decide
  next =>
    split at named
    next => cases named
    next word =>
      simp only [Bool.not_eq_true', Bool.not_eq_false] at word
      split at named
      next raw =>
        cases named
        have inside : bareName ("r#" ++ name) = name := by simp [bareName, bare]
        rw [inside, if_pos raw]
        exact ⟨word, rfl⟩
      next plain =>
        cases named
        rw [(IsWord.of_isIdentifier word).bareName_eq, if_neg plain]
        exact ⟨word, rfl⟩

theorem isName_of_value {name identifier : String}
    (named : valueIdentifier? name = some identifier) : IsName identifier := by
  obtain ⟨nonempty, chars⟩ := IsWord.of_isIdentifier (valueIdentifier?_cases named).1
  rw [bareName, String.toList_ofList] at chars
  refine ⟨fun empty => nonempty ?_, chars⟩
  rw [bareName, empty]

/-- Identifiers of values stand for different names. -/
theorem nodup_bareNames {identifiers : List String}
    (values : ∀ i ∈ identifiers, ∃ name, valueIdentifier? name = some i)
    (distinct : identifiers.Nodup) : (identifiers.map bareName).Nodup := by
  rw [List.Nodup, List.pairwise_map]
  refine distinct.imp_of_mem fun {a b} memA memB differ same => differ ?_
  obtain ⟨_, namedA⟩ := values a memA
  obtain ⟨_, namedB⟩ := values b memB
  rw [(valueIdentifier?_cases namedA).2, (valueIdentifier?_cases namedB).2, same]

/-! ## Lines -/

/-- What the lines of a block declare. -/
inductive Contents where
  | items
  | fields
  | variants
  /-- Nothing: the lines of a function body. -/
  | statements
deriving DecidableEq, Repr

/-- What the lines under a heading declare. -/
def Contents.under (heading : String) : Contents :=
  if Text.beginsWith heading "pub struct " then .fields
  else if Text.beginsWith heading "pub enum " then .variants
  else if Text.beginsWith heading "pub mod " || Text.beginsWith heading "impl " then .items
  else .statements

/-- The words in front of the name of an item. -/
def itemLeads : List String :=
  ["pub struct ", "pub enum ", "pub mod ", "pub const ", "const ", "pub fn ", "fn "]

/-- The name that a text declares, as a heading or a line among others of its block. -/
def Contents.declared? (text : String) : Contents → Option String
  | .items => (itemLeads.findSome? (Text.afterLead? text)).bind nameAt?
  | .fields => (Text.afterLead? text "pub ").bind nameAt?
  | .variants => nameAt? text
  | .statements => none

/-- The mark at the end of a line that declares something. -/
def Contents.mark : Contents → String
  | .items => ";"
  | .fields | .variants => ","
  | .statements => ""

/-- The name that a line declares. It must have its mark at the end. -/
def Contents.inLine? (contents : Contents) (text : String) : Option String :=
  if Text.endsWith text contents.mark then contents.declared? text else none

/-- The end of a line shows that it is complete. -/
theorem Contents.inLine?_append {contents : Contents} {tail : String} (front : String)
    (marked : Text.endsWith tail contents.mark = true) :
    contents.inLine? (front ++ tail) = contents.declared? (front ++ tail) :=
  if_pos (Text.endsWith_append front marked)

theorem Contents.inLine?_none {contents : Contents} {text : String}
    (unnamed : contents.declared? text = none) : contents.inLine? text = none := by
  rw [inLine?, unnamed, ite_self]

theorem Contents.inLine?_unmarked {contents : Contents} {text : String}
    (unmarked : Text.endsWith text contents.mark = false) : contents.inLine? text = none :=
  if_neg (Bool.eq_false_iff.mp unmarked)

/-- The names of parameters, which stand between commas. -/
def namesBetween (text : List Char) : List String :=
  (text.splitOn ',').filterMap fun part => nameAt? (String.ofList (part.dropWhile (· = ' ')))

/-- The parameters in a heading, which stand in parentheses. Only the heading of a function has
any. -/
def parameters (heading : String) : List String :=
  if Contents.under heading = .statements then
    namesBetween ((heading.toList.dropWhile (· ≠ '(')).tail.takeWhile (· ≠ ')'))
  else []

/-- No two leads of items begin alike, so a line has one lead. -/
theorem findSome?_lead {lead : String} (own : lead ∈ itemLeads) (rest : String) :
    itemLeads.findSome? (Text.afterLead? (lead ++ rest)) = some rest := by
  have found := Text.afterLead?_append lead rest
  have alone : ∀ other ∈ itemLeads, other ≠ lead →
      Text.afterLead? (lead ++ rest) other = none := by
    simp only [itemLeads, List.mem_cons, List.not_mem_nil, or_false] at own
    rcases own with rfl | rfl | rfl | rfl | rfl | rfl | rfl <;>
      simp [itemLeads, Text.afterLead?, Text.beginsWith]
  generalize itemLeads = leads at own alone
  induction leads with
  | nil => cases own
  | cons first leads ih =>
    by_cases here : first = lead
    · rw [here, List.findSome?_cons, found]
    · rw [List.findSome?_cons, alone first (List.mem_cons_self ..) here]
      exact ih ((List.mem_cons.mp own).resolve_left (Ne.symm here)) fun other mem =>
        alone other (List.mem_cons_of_mem _ mem)

theorem declared?_item {lead identifier rest : String} (own : lead ∈ itemLeads)
    (name : IsName identifier) (stops : Stops rest) :
    Contents.items.declared? (lead ++ (identifier ++ rest)) = some (bareName identifier) := by
  rw [Contents.declared?, findSome?_lead own, Option.bind_some, nameAt?_append name stops]

/-- The name of an item stands as it is, unless it is raw. -/
theorem declared?_word {lead word rest : String} (own : lead ∈ itemLeads)
    (named : IsWord word) (stops : Stops rest) :
    Contents.items.declared? (lead ++ (word ++ rest)) = some word := by
  rw [declared?_item own named.isName stops, named.bareName_eq]

theorem declared?_heading {lead word : String} (own : lead ∈ itemLeads)
    (named : IsWord word) : Contents.items.declared? (lead ++ word) = some word := by
  have reads := declared?_word own named (show Stops "" from nofun)
  rwa [String.append_empty] at reads

theorem declared?_field {identifier rest : String} (name : IsName identifier)
    (stops : Stops rest) :
    Contents.fields.declared? ("pub " ++ (identifier ++ rest)) = some (bareName identifier) := by
  rw [Contents.declared?, Text.afterLead?_append, Option.bind_some, nameAt?_append name stops]

theorem declared?_variant {variant rest : String} (named : IsWord variant) (stops : Stops rest) :
    Contents.variants.declared? (variant ++ rest) = some variant := by
  rw [Contents.declared?, nameAt?_append named.isName stops, named.bareName_eq]

/-- A line with another beginning than items have declares none. -/
theorem declared?_other {text : String} {c : Char} (first : text.toList.head? = some c)
    (other : c ∉ ['p', 'c', 'f']) : Contents.items.declared? text = none := by
  have none_leads : itemLeads.findSome? (Text.afterLead? text) = none := by
    simp only [List.mem_cons, List.not_mem_nil, or_false, not_or] at other
    obtain ⟨rest, chars⟩ := List.head?_eq_some_iff.mp first
    simp [itemLeads, Text.afterLead?, Text.beginsWith, chars, List.isPrefixOf, Ne.symm other.1,
      Ne.symm other.2.1, Ne.symm other.2.2]
  rw [Contents.declared?, none_leads, Option.bind_none]

/-! ## Parameters -/

theorem namesBetween_cons_space (text : List Char) :
    namesBetween (' ' :: text) = namesBetween text := by
  unfold namesBetween
  rw [List.splitOn_cons_eq_if_modifyHead, if_neg (by decide)]
  cases parts : text.splitOn ',' with
  | nil => exact absurd parts (List.splitOn_ne_nil _ _)
  | cons part rest => simp only [List.modifyHead, List.filterMap_cons, List.dropWhile, decide_true]

theorem namesBetween_single {text : List Char} {name : String} (one : ',' ∉ text)
    (reads : nameAt? (String.ofList (text.dropWhile (· = ' '))) = some name) :
    namesBetween text = [name] := by
  rw [namesBetween, List.splitOn_eq_singleton one, List.filterMap_cons, reads, List.filterMap_nil]

theorem namesBetween_append (text rest : List Char) :
    namesBetween (text ++ ',' :: rest) = namesBetween text ++ namesBetween rest := by
  simp only [namesBetween, List.splitOn_append_cons_self, List.filterMap_append]

/-- The parameters of a function are read from what stands in its parentheses. -/
theorem parameters_eq {lead inside rest : String}
    (kind : Contents.under (lead ++ "(" ++ inside ++ ")" ++ rest) = .statements)
    (before : '(' ∉ lead.toList) (within : ')' ∉ inside.toList) :
    parameters (lead ++ "(" ++ inside ++ ")" ++ rest) = namesBetween inside.toList := by
  have opened : ∀ c ∈ lead.toList, decide (c ≠ '(') = true := fun c mem =>
    decide_eq_true fun same => before (same ▸ mem)
  have closed : ∀ c ∈ inside.toList, decide (c ≠ ')') = true := fun c mem =>
    decide_eq_true fun same => within (same ▸ mem)
  have chars : (lead ++ "(" ++ inside ++ ")" ++ rest).toList =
      lead.toList ++ '(' :: (inside.toList ++ ')' :: rest.toList) := by simp
  rw [parameters, if_pos kind, chars, List.dropWhile_append_of_pos opened,
    List.dropWhile_cons_of_neg (by decide), List.tail_cons, List.takeWhile_append_of_pos closed,
    List.takeWhile_cons_of_neg (by decide), List.append_nil]

/-- A piece among items that declares none of them, and neither opens nor closes a block. -/
inductive Piece.Idle : Piece → Prop
  | blank : Idle .blank
  | line {text : String} (unnamed : Contents.items.inLine? text = none) : Idle (.line text)

/-! ## Blocks -/

/-- The names declared in a block itself, not in the blocks inside it, up to its end. Reading starts
below so many open blocks inside it. -/
def namesFrom (contents : Contents) : (depth : Nat) → List Piece → List String
  | _, [] => []
  | 0, .line text :: rest => (contents.inLine? text).toList ++ namesFrom contents 0 rest
  | 0, .enter heading :: rest => (contents.declared? heading).toList ++ namesFrom contents 1 rest
  | 0, .leave :: _ => []
  | depth + 1, .line _ :: rest => namesFrom contents (depth + 1) rest
  | depth + 1, .enter _ :: rest => namesFrom contents (depth + 2) rest
  | depth + 1, .leave :: rest => namesFrom contents depth rest
  | depth, .blank :: rest => namesFrom contents depth rest

/-- A block, by its heading, and the names in its scope: what it declares, and the parameters of a
function. -/
structure Region where
  heading : String
  names : List String
deriving DecidableEq, Repr

/-- The region under a heading, from the pieces after it. -/
def Region.under (heading : String) (pieces : List Piece) : Region :=
  ⟨heading, parameters heading ++ namesFrom (.under heading) 0 pieces⟩

/-- The regions of the blocks in an outline, each block before those inside it. -/
def blockRegions : List Piece → List Region
  | [] => []
  | .enter heading :: rest => .under heading rest :: blockRegions rest
  | .line _ :: rest | .blank :: rest | .leave :: rest => blockRegions rest

/-- The items that a text declares. -/
def itemsOf (pieces : List Piece) : List String := namesFrom .items 0 pieces

/-- The regions of a text: the text itself, which has no heading, and its blocks. -/
def regions (pieces : List Piece) : List Region := ⟨"", itemsOf pieces⟩ :: blockRegions pieces

/-! ## Closed pieces -/

/-- Pieces that close the blocks that they open, and no others: what comes after them is read as if
they were not there. -/
structure Closed (pieces : List Piece) : Prop where
  outer (contents : Contents) (rest : List Piece) :
    namesFrom contents 0 (pieces ++ rest) = namesFrom contents 0 pieces ++ namesFrom contents 0 rest
  inner (contents : Contents) (depth : Nat) (rest : List Piece) :
    namesFrom contents (depth + 1) (pieces ++ rest) = namesFrom contents (depth + 1) rest
  regions (rest : List Piece) : blockRegions (pieces ++ rest) = blockRegions pieces ++
    blockRegions rest

namespace Closed

theorem nil : Closed [] := ⟨fun _ _ => rfl, fun _ _ _ => rfl, fun _ => rfl⟩

theorem append {a b : List Piece} (first : Closed a) (second : Closed b) : Closed (a ++ b) where
  outer contents rest := by
    rw [List.append_assoc, first.outer, second.outer, first.outer, List.append_assoc]
  inner contents depth rest := by rw [List.append_assoc, first.inner, second.inner]
  regions rest := by rw [List.append_assoc, first.regions, second.regions, first.regions,
    List.append_assoc]

theorem line {text : String} {rest : List Piece} (closed : Closed rest) :
    Closed (.line text :: rest) :=
  append (a := [.line text])
    ⟨fun _ _ => by simp [namesFrom], fun _ _ _ => by simp [namesFrom], fun _ => rfl⟩ closed

theorem blank {rest : List Piece} (closed : Closed rest) : Closed (.blank :: rest) :=
  append (a := [.blank])
    ⟨fun _ _ => by simp [namesFrom], fun _ _ _ => by simp [namesFrom], fun _ => rfl⟩ closed

theorem block {heading : String} {body : List Piece} (closed : Closed body) :
    Closed (block heading body) where
  outer contents rest := by
    simp [Bindings.block, namesFrom, closed.inner]
  inner contents depth rest := by
    simp [Bindings.block, namesFrom, closed.inner]
  regions rest := by
    have same (later : List Piece) :
        Region.under heading (body ++ .leave :: later) = .under heading body := by
      simp only [Region.under, closed.outer, namesFrom, List.append_nil]
    simp [Bindings.block, blockRegions, closed.regions, same]

theorem spaced {parts : List (List Piece)} (closed : ∀ part ∈ parts, Closed part) :
    Closed (spaced parts) := by
  induction parts with
  | nil => exact .nil
  | cons first rest ih =>
    obtain ⟨here, there⟩ := List.forall_mem_cons.mp closed
    cases rest with
    | nil => exact here
    | cons second rest => exact here.append (ih there).blank

end Closed

/-! ## What pieces declare -/

/-- In a block with these contents the pieces declare the names, and the blocks among them are the
regions. -/
structure Declares (contents : Contents) (pieces : List Piece) (names : List String)
    (regions : List Region) : Prop where
  closed : Closed pieces
  names_eq : namesFrom contents 0 pieces = names
  regions_eq : blockRegions pieces = regions

namespace Declares

variable {contents : Contents}

theorem nil : Declares contents [] [] [] := ⟨.nil, by simp [namesFrom], rfl⟩

theorem append {a b : List Piece} {names names' : List String} {regions regions' : List Region}
    (first : Declares contents a names regions) (second : Declares contents b names' regions') :
    Declares contents (a ++ b) (names ++ names') (regions ++ regions') where
  closed := first.closed.append second.closed
  names_eq := by rw [first.closed.outer, first.names_eq, second.names_eq]
  regions_eq := by rw [first.closed.regions, first.regions_eq, second.regions_eq]

/-- A line in front declares what it declares. -/
theorem line {text : String} {rest : List Piece} {names : List String} {regions : List Region}
    {name? : Option String} (reads : contents.inLine? text = name?)
    (later : Declares contents rest names regions) :
    Declares contents (.line text :: rest) (name?.toList ++ names) regions where
  closed := later.closed.line
  names_eq := by rw [namesFrom, reads, later.names_eq]
  regions_eq := later.regions_eq

theorem blank {rest : List Piece} {names : List String} {regions : List Region}
    (later : Declares contents rest names regions) :
    Declares contents (.blank :: rest) names regions where
  closed := later.closed.blank
  names_eq := by rw [← later.names_eq]; simp [namesFrom]
  regions_eq := later.regions_eq

/-- A comment in front declares nothing. -/
theorem comment {text : String} {rest : List Piece} {names : List String} {regions : List Region}
    (reads : contents.declared? text = none) (later : Declares contents rest names regions) :
    Declares contents (.line text :: rest) names regions :=
  line (Contents.inLine?_none reads) later

/-- Lines of one kind declare one name each. -/
theorem lines {α : Type} {text name : α → String} {xs : List α}
    (reads : ∀ x ∈ xs, contents.inLine? (text x) = some (name x)) :
    Declares contents (xs.map (.line <| text ·)) (xs.map name) [] := by
  induction xs with
  | nil => exact nil
  | cons x xs ih =>
    rw [List.forall_mem_cons] at reads
    exact line reads.1 (ih reads.2)

/-- A complete line in front declares its name. -/
theorem named {front tail name : String} {rest : List Piece} {names : List String}
    {regions : List Region} (marked : Text.endsWith tail contents.mark = true)
    (reads : contents.declared? (front ++ tail) = some name)
    (later : Declares contents rest names regions) :
    Declares contents (.line (front ++ tail) :: rest) (name :: names) regions :=
  line ((Contents.inLine?_append front marked).trans reads) later

/-- Idle pieces declare nothing. -/
theorem idle {pieces : List Piece} (each : ∀ p ∈ pieces, p.Idle) :
    Declares .items pieces [] [] := by
  induction pieces with
  | nil => exact nil
  | cons p rest ih =>
    obtain ⟨here, later⟩ := List.forall_mem_cons.mp each
    cases here with
    | blank => exact (ih later).blank
    | line unnamed => exact line unnamed (ih later)

variable {heading : String} {body : List Piece} {names : List String} {regions : List Region}

/-- A block declares the name in its heading, and is a region of its own. -/
theorem block (inside : Declares (.under heading) body names regions) :
    Declares contents (block heading body) (contents.declared? heading).toList
      (⟨heading, parameters heading ++ names⟩ :: regions) where
  closed := inside.closed.block
  names_eq := by simp [Bindings.block, namesFrom, inside.closed.inner]
  regions_eq := by
    have ended (later : List Piece) :
        namesFrom (.under heading) 0 (body ++ .leave :: later) = names := by
      rw [inside.closed.outer, inside.names_eq, namesFrom, List.append_nil]
    simp [Bindings.block, blockRegions, inside.closed.regions, inside.regions_eq, Region.under,
      ended]

/-- A block of declarations has no parameters. -/
theorem scope {contents' : Contents} (kind : Contents.under heading = contents')
    (declaring : contents' ≠ .statements) (inside : Declares contents' body names regions) :
    Declares contents (Bindings.block heading body) (contents.declared? heading).toList
      (⟨heading, names⟩ :: regions) := by
  subst kind
  have region : Declares contents (Bindings.block heading body) _ _ := inside.block
  rwa [parameters, if_neg declaring, List.nil_append] at region

/-- The body of a function declares nothing. -/
theorem function (kind : Contents.under heading = .statements)
    (inside : Declares .statements body [] regions) :
    Declares contents (Bindings.block heading body) (contents.declared? heading).toList
      (⟨heading, parameters heading⟩ :: regions) := by
  rw [← kind] at inside
  have region : Declares contents (Bindings.block heading body) _ _ := inside.block
  rwa [List.append_nil] at region

end Declares

/-- Parts of a text declare these names and have these regions. -/
inductive DeclareAll (contents : Contents) :
    List (List Piece) → List String → List Region → Prop where
  | nil : DeclareAll contents [] [] []
  | cons {part : List Piece} {parts : List (List Piece)} {names names' : List String}
      {regions regions' : List Region} (first : Declares contents part names regions)
      (later : DeclareAll contents parts names' regions') :
    DeclareAll contents (part :: parts) (names ++ names') (regions ++ regions')

namespace DeclareAll

variable {contents : Contents} {parts parts' : List (List Piece)} {names names' : List String}
  {regions regions' : List Region}

theorem single {part : List Piece} (declares : Declares contents part names regions) :
    DeclareAll contents [part] names regions := by
  simpa using DeclareAll.cons declares .nil

theorem append (first : DeclareAll contents parts names regions)
    (second : DeclareAll contents parts' names' regions') :
    DeclareAll contents (parts ++ parts') (names ++ names') (regions ++ regions') := by
  induction first with
  | nil => exact second
  | cons part _ ih =>
    rw [List.append_assoc, List.append_assoc]
    exact .cons part ih

theorem flatMap {α : Type} {parts : α → List (List Piece)} {names : α → List String}
    {regions : α → List Region} {xs : List α}
    (each : ∀ x ∈ xs, DeclareAll contents (parts x) (names x) (regions x)) :
    DeclareAll contents (xs.flatMap parts) (xs.flatMap names) (xs.flatMap regions) := by
  induction xs with
  | nil => exact .nil
  | cons x xs ih =>
    rw [List.forall_mem_cons] at each
    exact each.1.append (ih each.2)

/-- Blank lines between the parts declare nothing. -/
theorem spaced (all : DeclareAll contents parts names regions) :
    Declares contents (spaced parts) names regions := by
  induction all with
  | nil => exact .nil
  | cons first later ih =>
    cases later with
    | nil =>
      rw [List.append_nil, List.append_nil]
      exact first
    | cons => exact first.append ih.blank

/-- Neither do those above the parts. -/
theorem apart (all : DeclareAll contents parts names regions) :
    Declares contents (apart parts) names regions := by
  induction all with
  | nil => exact .nil
  | cons first later ih => exact (first.append ih).blank

end DeclareAll

end Rebac.Bindings
