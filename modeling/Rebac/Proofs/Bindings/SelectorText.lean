import Rebac.Proofs.Bindings.ContextFunction
import Rebac.Proofs.Bindings.Heading
import Rebac.Proofs.Text.Digit

/-!
# Selectors read from their text

A selector is an enumeration with some constants and a match. Each is read from the block under its
heading: the variants of the enumeration, the chains and the shared names in the constants, and
where each arm of the match leads. A value of a selector has the members to which its arm leads, in
its own constants or by the match of the value that it wraps.
-/

namespace Rebac.Bindings

open Naming (Member)

/-! ## Lists and numbers -/

/-- Items with a comma and a space between each two, up to a closing text. There may be none. -/
def readListed? {α : Type} (read : String → Option (α × String)) (closing text : String) :
    Option (List α × String) :=
  match Text.afterLead? text closing with
  | some rest => some ([], rest)
  | none => do
    let (items, rest) ← readSeparated read text.length text
    return (items, ← Text.afterLead? rest closing)

/-- A number in decimal, and the text after it. -/
def readIndex? (text : String) : Option (Nat × String) := do
  let (digits, rest) := span Char.isDigit text
  return (← Text.readNat? 10 Text.digit? digits.toList, rest)

/-- Items are read back up to a closing text that begins like none of them. -/
theorem readListed?_intercalate {α β : Type} {read : String → Option (α × String)}
    {write : β → String} {value : β → α} {items : List β} {first : Char}
    (begins : ∀ b ∈ items, (write b).toList.head? = some first)
    (reads : ∀ b ∈ items, ∀ rest, read (write b ++ rest) = some (value b, rest))
    {closing : String} {last : Char} (closes : closing.toList.head? = some last)
    (differ : last ≠ first ∧ last ≠ ',') (rest : String) :
    readListed? read closing (", ".intercalate (items.map write) ++ (closing ++ rest)) =
      some (items.map value, rest) := by
  obtain ⟨behind, chars⟩ := List.head?_eq_some_iff.mp closes
  cases items with
  | nil =>
    have empty : ", ".intercalate (([] : List β).map write) ++ (closing ++ rest) =
        closing ++ rest := String.empty_append
    rw [empty, readListed?, Text.afterLead?_append]
    rfl
  | cons b items =>
    have opened : Text.afterLead? (", ".intercalate ((b :: items).map write) ++ (closing ++ rest))
        closing = none := by
      obtain ⟨cs, own⟩ := List.head?_eq_some_iff.mp (begins b List.mem_cons_self)
      cases items <;>
        simp [Text.afterLead?, Text.beginsWith, chars, own, differ.1, String.intercalate_cons_cons]
    have ends : Text.afterLead? (closing ++ rest) ", " = none := by
      simp [Text.afterLead?, Text.beginsWith, chars, Ne.symm differ.2]
    have behind : closing ++ rest ≠ "" := by
      intro empty
      have none := congrArg String.toList empty
      simp [chars] at none
    have count := length_le_intercalate ((b :: items).map write) behind
    rw [List.length_map] at count
    have list := readSeparated_intercalate (fun _ => True) (fun _ => trivial)
      (List.cons_ne_nil b items) (fun b mem rest _ => reads b mem rest) trivial ends count
    rw [readListed?, opened]
    simp only [list, Option.bind_eq_bind, Option.bind_some, Text.afterLead?_append]
    rfl

/-- A number is read up to the first character that is no digit. -/
theorem readIndex?_append (n : Nat) {rest : String}
    (ends : ∀ c, rest.toList.head? = some c → c.isDigit = false) :
    readIndex? (toString n ++ rest) = some (n, rest) := by
  have chars : (toString n).toList = Nat.toDigits 10 n := String.toList_ofList
  have digits := Text.isDecimal_toDigits n
  have front : span Char.isDigit (toString n ++ rest) = (toString n, rest) :=
    span_append (chars ▸ digits) ends
  have number := Text.readNat?_decimal Nat.toDigits_ne_nil digits
  rw [readIndex?, front]
  simp only [chars, number, Nat.ofDigitChars_ten_toDigits]
  rfl

/-! ## Constants -/

/-- A member of a chain, and the text after it. -/
def readStep? (text : String) : Option (Step × String) :=
  match Text.afterLead? text (memberType ++ "::Named(") with
  | some rest => do
    let (name, rest) ← Text.readLiteral? rest
    return (.named name, ← Text.afterLead? rest ")")
  | none => do
    let lead := memberType ++ "::Positional \x7b index: "
    let (index, rest) ← readIndex? (← Text.afterLead? text lead)
    match Text.afterLead? rest ", names: Self::ELEMENTS \x7d" with
    | some rest => return (.shared index, rest)
    | none =>
      let names ← Text.afterLead? rest ", names: &["
      let (names, rest) ← readListed? Text.readLiteral? "] \x7d" names
      return (.element index names, rest)

/-- What a constant of a table holds: the names that elements share, or a chain. -/
inductive Constant where
  | shared (names : List String)
  | chain (entry : ChainEntry)
deriving DecidableEq, Repr

namespace Constant

/-- The constant that a line declares. -/
def ofPiece? : Piece → Option Constant
  | .line text => do
    let (name, rest) := span (· ≠ ':') (← Text.afterLead? text "const ")
    match Text.afterLead? rest ": &'static [&'static str] = &[" with
    | some rest =>
      let (names, rest) ← readListed? Text.readLiteral? "];" rest
      if name = "ELEMENTS" ∧ rest = "" then some (.shared names) else none
    | none =>
      let steps ← Text.afterLead? rest (": &'static [" ++ memberType ++ "] = &[")
      let (steps, rest) ← readListed? readStep? "];" steps
      if rest = "" then some (.chain ⟨name, steps⟩) else none
  | .blank | .enter _ | .leave => none

/-- The shared names, if the constant holds them. -/
def shared? : Constant → Option (List String)
  | .shared names => some names
  | .chain _ => none

/-- The chain, if the constant holds one. -/
def chain? : Constant → Option ChainEntry
  | .shared _ => none
  | .chain entry => some entry

end Constant

/-- A list of quoted names is read up to the mark that closes it, whatever the names hold. -/
theorem readLiteral?_names (names : List String) {closing : String} {last : Char}
    (closes : closing.toList.head? = some last) (differ : last ≠ '"' ∧ last ≠ ',')
    (rest : String) :
    readListed? Text.readLiteral? closing (quotedNames names ++ (closing ++ rest)) =
      some (names, rest) := by
  have begins : ∀ name ∈ names, (Text.quoted name).toList.head? = some '"' := by
    simp [Text.quoted]
  have list : readListed? Text.readLiteral? closing (quotedNames names ++ (closing ++ rest)) =
      some (names.map id, rest) :=
    readListed?_intercalate begins (fun name _ => Text.readLiteral?_quoted name) closes differ rest
  rwa [List.map_id] at list

/-- A member with an index is read up to the index, and by the names behind it. -/
theorem readStep?_positional (n : Nat) (names : String) :
    readStep? (memberType ++ "::Positional \x7b index: " ++
        (toString n ++ (", names: " ++ names))) =
      match Text.afterLead? (", names: " ++ names) ", names: Self::ELEMENTS \x7d" with
      | some rest => some (.shared n, rest)
      | none => do
        let names ← Text.afterLead? (", names: " ++ names) ", names: &["
        let (names, rest) ← readListed? Text.readLiteral? "] \x7d" names
        return (.element n names, rest) := by
  have index : readIndex? (toString n ++ (", names: " ++ names)) =
      some (n, ", names: " ++ names) := by
    refine readIndex?_append n fun c head => ?_
    simp at head
    exact head ▸ rfl
  rw [readStep?, Text.afterLead?_append_of_differ (by decide)]
  simp only [Option.bind_eq_bind, Text.afterLead?_append, Option.bind_some, index]
  rfl

/-- A member is read back as it was written. -/
theorem readStep?_text (s : Step) (rest : String) :
    readStep? (s.text ++ rest) = some (s, rest) := by
  cases s with
  | named name =>
    have text : (Step.named name).text ++ rest =
        memberType ++ "::Named(" ++ (Text.quoted name ++ (")" ++ rest)) := by
      simp only [Step.text, String.append_assoc]
    rw [text, readStep?, Text.afterLead?_append]
    simp only [Text.readLiteral?_quoted, Option.bind_eq_bind, Option.bind_some,
      Text.afterLead?_append]
    rfl
  | element n names =>
    have text : (Step.element n names).text ++ rest = memberType ++ "::Positional \x7b index: " ++
        (toString n ++ (", names: " ++ ("&[" ++ (quotedNames names ++ ("] \x7d" ++ rest))))) := by
      have closing : "]" ++ " \x7d" = "] \x7d" := by decide
      rw [← closing]
      simp only [Step.text, positionalText, String.append_assoc]
    have lead : ", names: " ++ "&[" = ", names: &[" := by decide
    have list := readLiteral?_names names (show "] \x7d".toList.head? = some ']' from rfl)
      (by decide) rest
    rw [text, readStep?_positional, ← String.append_assoc, lead,
      Text.afterLead?_append_of_differ (by decide), Text.afterLead?_append]
    simp only [Option.bind_eq_bind, Option.bind_some, list]
    rfl
  | shared n =>
    have text : (Step.shared n).text ++ rest = memberType ++ "::Positional \x7b index: " ++
        (toString n ++ (", names: " ++ ("Self::ELEMENTS \x7d" ++ rest))) := by
      have closing : "Self::ELEMENTS" ++ " \x7d" = "Self::ELEMENTS \x7d" := by decide
      rw [← closing]
      simp only [Step.text, positionalText, String.append_assoc]
    have lead : ", names: " ++ "Self::ELEMENTS \x7d" = ", names: Self::ELEMENTS \x7d" := by decide
    rw [text, readStep?_positional, ← String.append_assoc, lead, Text.afterLead?_append]

/-- The shared names of a table are read back from their constant. -/
theorem ofPiece?_elementsLine (names : List String) :
    Constant.ofPiece? (elementsLine names) = some (.shared names) := by
  have text : elementsLine names = .line ("const " ++ ("ELEMENTS" ++
      (": &'static [&'static str] = &[" ++ (quotedNames names ++ ("];" ++ ""))))) := by
    have lead : "const " ++ ("ELEMENTS" ++ ": &'static [&'static str] = &[") =
        "const ELEMENTS: &'static [&'static str] = &[" := by decide
    rw [elementsLine, ← lead]
    simp only [String.append_assoc, String.append_empty]
  have name := span_until (show ':' ∉ "ELEMENTS".toList by decide)
    ": &'static [&'static str] = &[" rfl (quotedNames names ++ ("];" ++ ""))
  have list := readLiteral?_names names (show "];".toList.head? = some ']' from rfl)
    (by decide) ""
  rw [text, Constant.ofPiece?]
  simp only [Option.bind_eq_bind, Text.afterLead?_append, Option.bind_some, name, list]
  rfl

/-- A chain is read back from its constant: the name of the constant, and every member with its
index and its names. -/
theorem ofPiece?_chainEntry {e : ChainEntry} (word : IsWord e.constant) :
    Constant.ofPiece? e.line = some (.chain e) := by
  have text : e.line = .line ("const " ++ (e.constant ++ (": &'static [" ++ memberType ++
      "] = &[" ++ (", ".intercalate (e.steps.map Step.text) ++ ("];" ++ ""))))) := by
    rw [ChainEntry.line]
    simp only [String.append_assoc, String.append_empty]
  have colon : ':' ∉ e.constant.toList := word.lacks (by decide)
  have name := span_until colon (": &'static [" ++ memberType ++ "] = &[") rfl
    (", ".intercalate (e.steps.map Step.text) ++ ("];" ++ ""))
  have other (rest : String) : Text.afterLead? (": &'static [" ++ memberType ++ "] = &[" ++ rest)
      ": &'static [&'static str] = &[" = none :=
    Text.afterLead?_append_of_differ (by decide) rest
  have begins : ∀ s ∈ e.steps, s.text.toList.head? = some ':' := by
    intro s _
    cases s <;> simp [Step.text, positionalText, memberType]
  have list : readListed? readStep? "];"
      (", ".intercalate (e.steps.map Step.text) ++ ("];" ++ "")) = some (e.steps.map id, "") :=
    readListed?_intercalate begins (fun s _ => readStep?_text s)
      (show "];".toList.head? = some ']' from rfl) (by decide) ""
  rw [List.map_id] at list
  rw [text, Constant.ofPiece?]
  simp only [Option.bind_eq_bind, Text.afterLead?_append, Option.bind_some, name, other, list]
  rfl

/-! ## Arms and variants -/

/-- The arm that a line of a match is. -/
def Arm.ofPiece? : Piece → Option Arm
  | .line text => do
    let (variant, rest) := span isIdentifierPart (← Text.afterLead? text "Self::")
    if rest = "(inner) => ::fluentfga::RelationSelector::members(inner)," then
      some ⟨variant, .inner⟩
    else
      let (name, rest) := span isIdentifierPart (← Text.afterLead? rest " => Self::")
      if rest = "," then some ⟨variant, .constant name⟩ else none
  | .blank | .enter _ | .leave => none

/-- A variant of an enumeration, and the enumeration whose values it wraps if it wraps any. -/
structure Variant where
  name : String
  wraps : Option String
deriving DecidableEq, Repr

/-- The variant that a line of an enumeration declares. -/
def Variant.ofPiece? : Piece → Option Variant
  | .line text =>
    let (name, rest) := span isIdentifierPart text
    if rest = "," then some ⟨name, none⟩
    else do
      let (inner, rest) := span isIdentifierPart (← Text.afterLead? rest "(")
      if rest = ")," then some ⟨name, some inner⟩ else none
  | .blank | .enter _ | .leave => none

/-- A word ends where another character stands. -/
theorem span_word {word mark : String} (named : IsWord word)
    (ends : mark.toList.head?.any (fun c => !isIdentifierPart c) = true) (rest : String) :
    span isIdentifierPart (word ++ (mark ++ rest)) = (word, mark ++ rest) := by
  refine span_append named.chars fun c head => ?_
  cases first : mark.toList.head? with
  | none => simp [first] at ends
  | some d =>
    rw [String.toList_append, List.head?_append, first, Option.some_or, Option.some.injEq] at head
    simpa [first, head] using ends

theorem span_last_word {word mark : String} (named : IsWord word)
    (ends : mark.toList.head?.any (fun c => !isIdentifierPart c) = true) :
    span isIdentifierPart (word ++ mark) = (word, mark) := by
  have read := span_word named ends ""
  rwa [String.append_empty] at read

/-- An arm is read back with where it leads. One that leads to a constant names it, and one that
hands over says so in the same words for every selector. -/
theorem ofPiece?_arm {a : Arm} (variant : IsWord a.variant)
    (target : ∀ name, a.target = .constant name → IsWord name) :
    Arm.ofPiece? a.line = some a := by
  obtain ⟨name, leads⟩ := a
  cases leads with
  | constant constant =>
    have text : Arm.line ⟨name, .constant constant⟩ =
        .line ("Self::" ++ (name ++ (" => Self::" ++ (constant ++ ",")))) := by
      simp only [Arm.line, String.append_assoc]
    have first := span_word variant (show " => Self::".toList.head?.any _ = true by decide)
      (constant ++ ",")
    have second := span_last_word (target constant rfl)
      (show ",".toList.head?.any _ = true by decide)
    have plain : " => Self::" ++ (constant ++ ",") ≠
        "(inner) => ::fluentfga::RelationSelector::members(inner)," := by
      intro same
      have first := congrArg (·.toList.head?) same
      simp at first
    rw [text, Arm.ofPiece?]
    simp only [Option.bind_eq_bind, Text.afterLead?_append, Option.bind_some, first, plain,
      if_false, second, if_true]
  | inner =>
    have text : Arm.line ⟨name, .inner⟩ = .line ("Self::" ++ (name ++
        "(inner) => ::fluentfga::RelationSelector::members(inner),")) := by
      simp only [Arm.line, String.append_assoc]
    have first := @span_last_word name "(inner) => ::fluentfga::RelationSelector::members(inner),"
      variant (by decide)
    rw [text, Arm.ofPiece?]
    simp only [Option.bind_eq_bind, Text.afterLead?_append, Option.bind_some, first, if_true]

theorem ofPiece?_variant {name : String} (word : IsWord name) :
    Variant.ofPiece? (.line (name ++ ",")) = some ⟨name, none⟩ := by
  simp only [Variant.ofPiece?, span_last_word word (show ",".toList.head?.any _ = true by decide),
    if_true]

/-- A variant that wraps another selector is read with the name of that selector. -/
theorem ofPiece?_wrapping {name inner : String} (word : IsWord name) (wraps : IsWord inner) :
    Variant.ofPiece? (.line (name ++ ("(" ++ (inner ++ "),")))) = some ⟨name, some inner⟩ := by
  have plain : "(" ++ (inner ++ "),") ≠ "," := by
    intro same
    have first := congrArg (·.toList.head?) same
    simp at first
  have first := span_word word (show "(".toList.head?.any _ = true by decide) (inner ++ "),")
  have second := span_last_word wraps (show "),".toList.head?.any _ = true by decide)
  simp only [Variant.ofPiece?, first, plain, if_false, Option.bind_eq_bind, Text.afterLead?_append,
    Option.bind_some, second, if_true]

/-! ## Selectors -/

/-- The arms in the match of a selector. -/
def armsOf? (pieces : List Piece) (owner : String) : Option (List Arm) :=
  match blocksUnder ("impl ::fluentfga::RelationSelector for " ++ owner) pieces with
  | [body] => do
    let function ← unblock? ("fn members(&self) -> &'static [" ++ memberType ++ "]") body
    let arms ← unblock? "match self" function
    arms.mapM Arm.ofPiece?
  | _ => none

/-- The constants and the arms of a selector. -/
def SelectorTable.ofText? (pieces : List Piece) (owner : String) : Option SelectorTable := do
  let arms ← armsOf? pieces owner
  let constants ← (blocksUnder ("impl " ++ owner) pieces).flatten.mapM Constant.ofPiece?
  return ⟨owner, constants.findSome? Constant.shared?, constants.filterMap Constant.chain?, arms⟩

/-- The variants of an enumeration. -/
def variantsOf? (pieces : List Piece) (enum : String) : Option (List Variant) :=
  match blocksUnder ("pub enum " ++ enum) pieces with
  | [body] => body.mapM Variant.ofPiece?
  | _ => none

/-- A value of an enumeration: one of its variants, alone or around another value. -/
inductive SelectorValue where
  | plain (enum variant : String)
  | around (enum variant : String) (inner : SelectorValue)
deriving DecidableEq, Repr

namespace SelectorValue

/-- The enumeration of a value. -/
def enum : SelectorValue → String
  | plain enum _ | around enum _ _ => enum

/-- The enumerations of a text have the value. -/
def Exists (pieces : List Piece) : SelectorValue → Prop
  | plain enum variant =>
    ∃ variants, variantsOf? pieces enum = some variants ∧ ⟨variant, none⟩ ∈ variants
  | around enum variant inner =>
    (∃ variants, variantsOf? pieces enum = some variants ∧
      ⟨variant, some inner.enum⟩ ∈ variants) ∧ inner.Exists pieces

/-- The members of a value, by the matches and the constants of a text. A name after `Self` in the
match is that of a constant of the same selector. A value around another hands over to the match for
that one where its arm says so. -/
def members? (pieces : List Piece) : SelectorValue → Option (List Member)
  | plain enum variant => (SelectorTable.ofText? pieces enum).bind (·.chain? variant)
  | around enum variant inner => do
    let table ← SelectorTable.ofText? pieces enum
    match table.arms.find? (·.variant = variant) with
    | some ⟨_, .inner⟩ => inner.members? pieces
    | _ => none

end SelectorValue

/-! ## Reading what was written -/

theorem mapM_map_eq_some {α β : Type} {read : Piece → Option β} {write : α → Piece}
    {value : α → β} {xs : List α} (reads : ∀ x ∈ xs, read (write x) = some (value x)) :
    (xs.map write).mapM read = some (xs.map value) := by
  induction xs with
  | nil => rfl
  | cons x xs ih =>
    obtain ⟨here, later⟩ := List.forall_mem_cons.mp reads
    simp [List.mapM_cons, here, ih later]

namespace SelectorTable

/-- The lines of the constants of a table. -/
def constantLines (t : SelectorTable) : List Piece :=
  (t.elements.map elementsLine).toList ++ t.constants.map ChainEntry.line

/-- What the constants of a table hold. -/
def contents (t : SelectorTable) : List Constant :=
  (t.elements.map .shared).toList ++ t.constants.map .chain

theorem constantParts_eq (t : SelectorTable) :
    t.constantParts =
      if t.hasConstants then [block ("impl " ++ t.owner) t.constantLines] else [] := by
  unfold constantParts hasConstants constantNames constantLines
  cases t.elements <;> cases t.constants <;> rfl

theorem constantLines_eq_nil {t : SelectorTable} (lacks : t.hasConstants = false) :
    t.constantLines = [] := by
  unfold hasConstants constantNames at lacks
  unfold constantLines
  cases elements : t.elements <;> cases constants : t.constants <;> simp_all

/-- All constants of a table are read back, in order: the shared names if there are any, and the
chains. -/
theorem mapM_constantLines {t : SelectorTable} (spelt : t.Spelt) :
    t.constantLines.mapM Constant.ofPiece? = some t.contents := by
  have chains : (t.constants.map ChainEntry.line).mapM Constant.ofPiece? =
      some (t.constants.map .chain) :=
    mapM_map_eq_some fun e mem => ofPiece?_chainEntry (spelt.constants e mem)
  unfold constantLines contents
  cases t.elements with
  | none => exact chains
  | some names => simp [List.mapM_cons, ofPiece?_elementsLine, chains]

/-- A table is read back from the arms of its match and from the lines of its constants. Nothing
else of the text has a bearing on it. -/
theorem ofText?_eq {t : SelectorTable} (spelt : t.Spelt) {pieces : List Piece}
    (arms : armsOf? pieces t.owner = some t.arms)
    (constants : (blocksUnder ("impl " ++ t.owner) pieces).flatten = t.constantLines) :
    ofText? pieces t.owner = some t := by
  have shared : t.contents.findSome? Constant.shared? = t.elements := by
    unfold contents
    cases t.elements <;> simp [List.findSome?_cons, Constant.shared?]
  have chains : t.contents.filterMap Constant.chain? = t.constants := by
    unfold contents
    cases t.elements <;>
      simp [List.filterMap_cons, List.filterMap_map, Function.comp_def, Constant.chain?]
  rw [ofText?, arms, constants]
  simp only [Option.bind_eq_bind, Option.bind_some, mapM_constantLines spelt, shared, chains]
  rfl

end SelectorTable

/-! ## In the bindings -/

/-- An outline has the parts of the types of a plan, and the headings of the plan and no others. -/
structure HoldsTypes (plan : Plan) (outline : List Piece) : Prop where
  parts : ∀ p ∈ plan.types, ∀ part ∈ p.parts, part <:+: outline
  headings : headings outline = plan.regions.tail.map (·.heading)

/-- The variants for the computed relations. -/
def Perform.variants (groupSelectorName : String) : Perform → List Variant
  | .absent => []
  | .scalar _ => [⟨"Perform", none⟩]
  | .group _ => [⟨"Perform", some groupSelectorName⟩]

theorem selectorTable_mem_tables {p : TypePlan} {direct : List RelationPlan} {perform : Perform}
    (form : p.form = .resource direct perform) : p.selectorTable direct perform ∈ p.tables := by
  rw [TypePlan.tables, form]
  cases perform <;> exact List.mem_cons_self

theorem groupTable_mem_tables {p : TypePlan} {direct group : List RelationPlan}
    (form : p.form = .resource direct (.group group)) : p.groupTable group ∈ p.tables := by
  simp [TypePlan.tables, form]

/-- The match of a table is a part of its type, and so are its constants if it has any. -/
theorem table_mem_parts {p : TypePlan} {table : SelectorTable} (own : table ∈ p.tables) :
    table.membersImpl ∈ p.parts ∧ ∀ part ∈ table.constantParts, part ∈ p.parts := by
  unfold TypePlan.tables at own
  split at own
  · cases own
  next direct group form =>
    rw [TypePlan.parts, form]
    rcases List.mem_cons.mp own with rfl | own
    · simp +contextual [resourceParts]
    · cases List.mem_singleton.mp own
      simp +contextual [resourceParts]
  next direct perform other form =>
    cases List.mem_singleton.mp own
    rw [TypePlan.parts, form]
    cases perform with
    | absent => simp +contextual [resourceParts]
    | scalar r => simp +contextual [resourceParts]
    | group group => exact absurd rfl (other group)

namespace HoldsTypes

variable {plan : Plan} {outline : List Piece} (holds : HoldsTypes plan outline)
  (planned : ∀ p ∈ plan.types, TypePlanned p) (distinct : (plan.tables.map (·.owner)).Nodup)
  {p : TypePlan} (own : p ∈ plan.types)

include holds planned distinct own

section

variable {t : SelectorTable} (mem : t ∈ p.tables)

include mem

/-- The arms of a selector are found in the block under its heading, as no other selector has one
name with it. -/
theorem armsOf?_eq : armsOf? outline t.owner = some t.arms := by
  have spelt := (planned p own).spelt_of_mem_tables mem
  have nested := nested_arms t
  have once := count_members planned distinct (List.mem_flatMap.mpr ⟨p, own, mem⟩)
  have found := blocksUnder_eq nested.block.block (holds.parts p own _ (table_mem_parts mem).1)
    (holds.headings ▸ once)
  have read : (t.arms.map Arm.line).mapM Arm.ofPiece? = some (t.arms.map id) :=
    mapM_map_eq_some fun a inside => ofPiece?_arm (spelt.variants a inside) (spelt.targets a inside)
  rw [List.map_id] at read
  rw [armsOf?, found]
  simp only [unblock?_block nested.block, unblock?_block nested, Option.bind_eq_bind,
    Option.bind_some, read]

/-- So are its constants. Where there are none there is no block under the heading either. -/
theorem blocksUnder_constants :
    (blocksUnder ("impl " ++ t.owner) outline).flatten = t.constantLines := by
  have count := count_constants planned distinct (List.mem_flatMap.mpr ⟨p, own, mem⟩)
  rw [← holds.headings] at count
  cases has : t.hasConstants with
  | false =>
    rw [if_neg (Bool.eq_false_iff.mp has)] at count
    rw [blocksUnder_eq_nil count, t.constantLines_eq_nil has]
    rfl
  | true =>
    have part : block ("impl " ++ t.owner) t.constantLines ∈ t.constantParts := by
      rw [t.constantParts_eq, if_pos has]
      exact List.mem_singleton_self _
    rw [if_pos has] at count
    have stands := holds.parts p own _ ((table_mem_parts mem).2 _ part)
    rw [blocksUnder_eq (nested_constants t) stands count]
    exact List.append_nil _

/-- The constants and the arms of a selector are read back. -/
theorem ofText?_eq : SelectorTable.ofText? outline t.owner = some t :=
  SelectorTable.ofText?_eq ((planned p own).spelt_of_mem_tables mem)
    (holds.armsOf?_eq planned distinct own mem)
    (holds.blocksUnder_constants planned distinct own mem)

omit planned in
/-- The variants of an enumeration are read back from the block for it. -/
theorem variantsOf?_eq {comment abilities : Piece} {body : List Piece} {variants : List Variant}
    (part : comment :: abilities :: block ("pub enum " ++ t.owner) body ∈ p.parts)
    (nested : Nested body) (read : body.mapM Variant.ofPiece? = some variants) :
    variantsOf? outline t.owner = some variants := by
  have once := count_enum distinct (List.mem_flatMap.mpr ⟨p, own, mem⟩)
  have stands : block ("pub enum " ++ t.owner) body <:+: outline :=
    ((List.suffix_cons ..).trans (List.suffix_cons ..)).isInfix.trans (holds.parts p own _ part)
  rw [variantsOf?, blocksUnder_eq nested stands (holds.headings ▸ once)]
  exact read

end

variable {direct group : List RelationPlan} {perform : Perform}

/-- The variants of the enumeration of a selector are one for each direct relation, and one for the
computed relations: a bare one for a single rule, or one that wraps the selector of the group. -/
theorem variantsOf?_selector (form : p.form = .resource direct perform)
    (spelt : ∀ r ∈ direct, r.Spelt) :
    variantsOf? outline p.selectorName = some (direct.map (fun r => ⟨r.variant, none⟩) ++
      perform.variants p.groupSelectorName) := by
  have word := isWord_of_type (planned p own).identifier
  have part : selectorEnum p direct perform ∈ p.parts := by
    rw [TypePlan.parts, form]
    cases perform <;> simp [resourceParts]
  have nested := (nested_variants direct).append (nested_variantLines perform p.groupSelectorName)
  have plain : (direct.map fun r => Piece.line (r.variant ++ ",")).mapM Variant.ofPiece? =
      some (direct.map fun r => ⟨r.variant, none⟩) :=
    mapM_map_eq_some fun r mem => ofPiece?_variant (spelt r mem).variant
  have computed : (perform.variantLines p.groupSelectorName).mapM Variant.ofPiece? =
      some (perform.variants p.groupSelectorName) := by
    have reserved : IsWord "Perform" := .of_isIdentifier (by decide)
    cases perform with
    | absent => rfl
    | scalar =>
      have read : Variant.ofPiece? (.line ("Perform" ++ ",")) = some ⟨"Perform", none⟩ :=
        ofPiece?_variant reserved
      have text : "Perform" ++ "," = "Perform," := by decide
      rw [text] at read
      simp [Perform.variantLines, Perform.variants, List.mapM_cons, read]
    | group =>
      have text : "Perform(" ++ p.groupSelectorName ++ ")," =
          "Perform" ++ ("(" ++ (p.groupSelectorName ++ "),")) := by
        have lead : "Perform(" = "Perform" ++ "(" := by decide
        rw [lead]
        simp only [String.append_assoc]
      simp [Perform.variantLines, Perform.variants, List.mapM_cons, text,
        ofPiece?_wrapping reserved (isWord_groupSelectorName word)]
  refine holds.variantsOf?_eq distinct own (selectorTable_mem_tables form) part nested ?_
  rw [List.mapM_append, plain, computed]
  rfl

omit planned in
/-- Those of the enumeration of a group are one for each of its relations. -/
theorem variantsOf?_group (form : p.form = .resource direct (.group group))
    (spelt : ∀ r ∈ group, r.Spelt) :
    variantsOf? outline p.groupSelectorName = some (group.map (fun r => ⟨r.variant, none⟩)) := by
  have part : groupEnum p group ∈ p.parts := by simp [TypePlan.parts, form, resourceParts]
  have read : (group.map fun r => Piece.line (r.variant ++ ",")).mapM Variant.ofPiece? =
      some (group.map fun r => ⟨r.variant, none⟩) :=
    mapM_map_eq_some fun r mem => ofPiece?_variant (spelt r mem).variant
  exact holds.variantsOf?_eq distinct own (groupTable_mem_tables form) part (nested_variants group)
    read

end HoldsTypes

/-- The text below the header holds the types of the plan. -/
theorem Plan.holdsTypes {plan : Plan} (types : ∀ p ∈ plan.types, TypePlanned p)
    (conditions : ∀ p ∈ plan.conditions, ConditionPlanned p) (policy : Accessor.Policy) :
    HoldsTypes plan (outlineOf (render 0 (apart (plan.below policy)))) where
  parts p own part mem := plan.infix_outline policy types own (List.mem_append_left _ mem)
  headings := by
    rw [← regions_below types conditions policy]
    rfl

end Rebac.Bindings
