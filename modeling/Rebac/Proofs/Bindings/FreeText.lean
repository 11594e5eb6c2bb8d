import Mathlib.Data.List.Forall2
import Rebac.Bindings.Source
import Rebac.Proofs.Bindings.Plan
import Rebac.Schema.Document

/-!
# Free text in bindings

A schema holds texts that bindings only repeat in comments: its version, and the expressions of its
conditions. An expression never becomes code. A version does from its second line on: the lines of
the text that are no comments are those of the version after its first, and then the same whatever
the texts are.
-/

namespace Rebac

/-! ## Schemas without free text -/

namespace Schema

/-- The condition without its expression. -/
def Condition.withoutText (c : Condition) : Condition := { c with expression := none }

/-- The schema without its version and its expressions. -/
def Model.withoutText (m : Model) : Model :=
  { m with version := "", conditions := m.conditions.map (·.withoutText) }

end Schema

namespace Bindings

open Accessor (Policy)
open Schema (Condition Model)

/-! ## Lines that are code -/

/-- Whether a line is a comment: after spaces it begins with two slashes. -/
def isComment (line : List Char) : Bool := ['/', '/'].isPrefixOf (line.dropWhile (· = ' '))

/-- The lines that are no comments. -/
def codeAmong (lines : List (List Char)) : List (List Char) := lines.filter (!isComment ·)

/-- The lines of a text that are no comments. -/
def codeLines (text : String) : List (List Char) := codeAmong (text.toList.splitOn '\n')

/-- The lines of a version after the first that are no comments. -/
def codeInVersion (version : String) : List (List Char) :=
  codeAmong (version.toList.splitOn '\n').tail

theorem codeAmong_append (a b : List (List Char)) :
    codeAmong (a ++ b) = codeAmong a ++ codeAmong b := List.filter_append ..

/-- A newline ends a line, so what follows has its own lines. -/
theorem splitOn_append_newline (a b : String) :
    (a ++ "\n" ++ b).toList.splitOn '\n' = a.toList.splitOn '\n' ++ b.toList.splitOn '\n' := by
  have chars : (a ++ "\n" ++ b).toList = a.toList ++ '\n' :: b.toList := by simp
  rw [chars, List.splitOn_append_cons_self]

/-- A newline ends a line, so the lines of code behind it are those of what follows. -/
theorem codeLines_append_newline (a b : String) :
    codeLines (a ++ "\n" ++ b) = codeLines a ++ codeLines b := by
  rw [codeLines, splitOn_append_newline, codeAmong_append, codeLines, codeLines]

theorem dropWhile_indentation (depth : Nat) (line : List Char) :
    ((indentation depth).toList ++ line).dropWhile (· = ' ') = line.dropWhile (· = ' ') := by
  have spaces : ∀ c ∈ List.replicate (4 * depth) ' ', decide (c = ' ') = true := by
    intro c mem
    rw [List.eq_of_mem_replicate mem]
    rfl
  rw [indentation, String.toList_ofList, List.dropWhile_append_of_pos spaces]

/-- Indentation is spaces alone, so it ends no line. -/
theorem newline_not_mem_indentation (depth : Nat) : '\n' ∉ (indentation depth).toList := by
  intro mem
  rw [indentation, String.toList_ofList] at mem
  exact absurd (List.eq_of_mem_replicate mem) (by decide)

/-- A line that begins with two slashes is a comment at any depth. -/
theorem isComment_of_slashes {line rest : List Char} (depth : Nat)
    (slashes : line = '/' :: '/' :: rest) :
    isComment ((indentation depth).toList ++ line) = true := by
  rw [isComment, dropWhile_indentation, slashes]
  rfl

/-! ## Pieces -/

/-- The line of a piece at a depth, without the newline at its end. -/
def Piece.lineAt (depth : Nat) (p : Piece) : String :=
  String.ofList (p.render depth).toList.dropLast

/-- The code of pieces from a depth on. -/
def code : Nat → List Piece → List (List Char)
  | _, [] => []
  | depth, p :: rest => codeLines (p.lineAt depth) ++ code (p.depthAfter depth) rest

theorem indented_eq (depth : Nat) (text : String) : ∃ line, indented depth text = line ++ "\n" := by
  unfold indented
  split
  · exact ⟨"", rfl⟩
  · exact ⟨_, rfl⟩

/-- A piece is rendered as what stands on its line, with a newline behind it. -/
theorem Piece.render_eq (depth : Nat) (p : Piece) : p.render depth = p.lineAt depth ++ "\n" := by
  have ended : ∃ line, p.render depth = line ++ "\n" := by
    cases p with
    | line text => exact indented_eq depth text
    | blank => exact ⟨"", rfl⟩
    | enter heading => exact indented_eq depth _
    | leave => exact indented_eq (depth - 1) _
  obtain ⟨line, eq⟩ := ended
  rw [Piece.lineAt, eq, ← String.toList_inj]
  simp

/-- The text of pieces ends with a newline, after which there is one more line, which is empty. -/
theorem codeLines_render (depth : Nat) (pieces : List Piece) :
    codeLines (render depth pieces) = code depth pieces ++ [[]] := by
  induction pieces generalizing depth with
  | nil => rfl
  | cons p rest ih =>
    rw [render, p.render_eq, codeLines_append_newline, ih, code, List.append_assoc]

/-- The code of pieces that follow others depends on these only by the depth at which they end. -/
theorem code_append (depth : Nat) (a b : List Piece) :
    code depth (a ++ b) = code depth a ++ code (a.foldl Piece.depthAfter depth) b := by
  induction a generalizing depth with
  | nil => rfl
  | cons p rest ih => rw [List.cons_append, code, ih, code, List.append_assoc, List.foldl_cons]

theorem Piece.lineAt_line (depth : Nat) {text : String} (some : text ≠ "") :
    Piece.lineAt depth (.line text) = indentation depth ++ text := by
  rw [← String.toList_inj]
  simp [Piece.lineAt, Piece.render, indented, some]

/-- Pieces with the same code at any depth, after which the depth is the same. -/
structure SameCode (a b : List Piece) : Prop where
  code (depth : Nat) : code depth a = code depth b
  depth (depth : Nat) : a.foldl Piece.depthAfter depth = b.foldl Piece.depthAfter depth

namespace SameCode

theorem refl (a : List Piece) : SameCode a a := ⟨fun _ => rfl, fun _ => rfl⟩

/-- Pieces of the same code may be put together. They also end at the same depth, so that what
follows is indented alike. -/
theorem append {a a' b b' : List Piece} (first : SameCode a a') (second : SameCode b b') :
    SameCode (a ++ b) (a' ++ b') where
  code depth := by rw [code_append, code_append, first.code, first.depth, second.code]
  depth depth := by rw [List.foldl_append, List.foldl_append, first.depth, second.depth]

theorem block (heading : String) {body body' : List Piece} (same : SameCode body body') :
    SameCode (block heading body) (Bindings.block heading body') :=
  (refl [.enter heading]).append (same.append (refl [.leave]))

theorem spaced {parts parts' : List (List Piece)} (same : List.Forall₂ SameCode parts parts') :
    SameCode (spaced parts) (Bindings.spaced parts') := by
  induction same with
  | nil => exact refl []
  | cons first rest ih =>
    cases rest with
    | nil => exact first
    | cons => exact first.append ((refl [.blank]).append ih)

/-- A comment on one line has no code. -/
theorem comment {text : String} {rest : List Char} (slashes : text.toList = '/' :: '/' :: rest)
    (one : '\n' ∉ text.toList) : SameCode [.line text] [] where
  depth _ := rfl
  code depth := by
    have some : text ≠ "" := by
      rintro rfl
      cases slashes
    have single : '\n' ∉ (indentation depth).toList ++ text.toList := by
      rw [List.mem_append, not_or]
      exact ⟨newline_not_mem_indentation depth, one⟩
    simp [Bindings.code, codeLines, Piece.lineAt_line depth some, codeAmong,
      List.splitOn_eq_singleton single, isComment_of_slashes depth slashes]

end SameCode

/-! ## Plans without free text -/

/-- The plan of the condition without its expression. -/
def ConditionPlan.withoutText (p : ConditionPlan) : ConditionPlan :=
  { p with condition := p.condition.withoutText }

/-- The plan of the schema without its version and its expressions. -/
def Plan.withoutText (p : Plan) : Plan :=
  { p with version := "", conditions := p.conditions.map (·.withoutText) }

/-- A condition is planned in the same way without its expression. -/
theorem ConditionPlan.of_withoutText (c : Condition) :
    ConditionPlan.of c.withoutText = (ConditionPlan.of c).map (·.withoutText) := by
  have name : c.withoutText.name = c.name := rfl
  have init : c.withoutText.initParameters = c.initParameters := rfl
  have provided : c.withoutText.providedParameters = c.providedParameters := rfl
  simp only [ConditionPlan.of, name, init, provided]
  cases valueIdentifier? (Naming.canonical c.name) with
  | none => rfl
  | some moduleName =>
    cases argumentPlans c.name c.initParameters with
    | error e => rfl
    | ok atWrite => cases argumentPlans c.name c.providedParameters <;> rfl

/-- So are all conditions of a schema. Which names are taken already does not depend on expressions.
-/
theorem conditionPlans_withoutText (taken : List String) (conditions : List Condition) :
    conditionPlans taken (conditions.map (·.withoutText)) =
      (conditionPlans taken conditions).map (List.map (·.withoutText)) := by
  induction conditions generalizing taken with
  | nil => rfl
  | cons c rest ih =>
    rw [List.map_cons, conditionPlans, conditionPlans, ConditionPlan.of_withoutText]
    cases ConditionPlan.of c with
    | error e => rfl
    | ok plan =>
      have moduleName : plan.withoutText.moduleName = plan.moduleName := rfl
      have name : c.withoutText.name = c.name := rfl
      simp only [Except.map, ok_bind, moduleName, name]
      by_cases known : plan.moduleName ∈ taken
      · simp only [if_pos known]
      · simp only [if_neg known, ih]
        cases conditionPlans (plan.moduleName :: taken) rest <;> rfl

/-- And so is a schema without its version and without expressions. -/
theorem Plan.of_withoutText (m : Model) :
    Plan.of m.withoutText = (Plan.of m).map (·.withoutText) := by
  have types : m.withoutText.types = m.types := rfl
  have conditions : m.withoutText.conditions = m.conditions.map (·.withoutText) := rfl
  rw [Plan.of, Plan.of, types, conditions, conditionPlans_withoutText]
  cases typePlans [] m.types with
  | error e => rfl
  | ok planned => cases conditionPlans [] m.conditions <;> rfl

theorem Plan.version_of {m : Model} {plan : Plan} (planned : Plan.of m = .ok plan) :
    plan.version = m.version := by
  simp only [Plan.of, bind_eq_ok, pure_eq_ok] at planned
  obtain ⟨types, -, conditions, -, rfl⟩ := planned
  rfl

/-! ## Their code -/

/-- An expression is written with its newlines replaced, so the comment that holds it is one line.
-/
theorem newline_not_mem_commentText (expression : String) :
    '\n' ∉ (commentText expression).toList := by
  rw [commentText, String.toList_ofList, List.mem_map]
  rintro ⟨c, -, same⟩
  split at same
  · exact absurd same (by decide)
  · split at same
    · exact absurd same (by decide)
    · exact absurd same ‹_›

/-- An expression stands on one line of a comment. -/
theorem sameCode_expression (expression : String) :
    SameCode [.line ("/// `" ++ commentText expression ++ "`")] [] := by
  have slashes : ("/// `" ++ commentText expression ++ "`").toList =
      '/' :: '/' :: '/' :: ' ' :: '\x60' :: (commentText expression ++ "`").toList := by
    rw [String.append_assoc, String.toList_append]
    rfl
  refine .comment slashes ?_
  simp only [String.toList_append, List.mem_append, not_or]
  exact ⟨⟨by decide, newline_not_mem_commentText expression⟩, by decide⟩

/-- The text of a condition has the same code without its expression: what is left out are two
comments. -/
theorem ConditionPlan.sameCode_pieces (p : ConditionPlan) :
    SameCode p.pieces p.withoutText.pieces := by
  have comment : SameCode p.comment p.withoutText.comment := by
    unfold ConditionPlan.comment
    cases p.condition.expression with
    | none => exact .refl _
    | some expression =>
      have slashes : "///".toList = ['/', '/', '/'] := rfl
      have ruled : SameCode [.line "///"] [] := .comment slashes (by decide)
      exact (SameCode.refl [_]).append (ruled.append (sameCode_expression expression))
  exact comment.append (.refl _)

theorem sameCode_conditionParts (plans : List ConditionPlan) :
    List.Forall₂ SameCode (conditionParts plans) (conditionParts (plans.map (·.withoutText))) := by
  cases plans with
  | nil => exact .nil
  | cons p rest =>
    have each : List.Forall₂ SameCode ((p :: rest).map ConditionPlan.pieces)
        (((p :: rest).map (·.withoutText)).map ConditionPlan.pieces) := by
      rw [List.forall₂_map_left_iff, List.forall₂_map_right_iff, List.forall₂_map_right_iff]
      exact List.forall₂_same.mpr fun plan _ => plan.sameCode_pieces
    have whole := SameCode.block "pub mod conditions" (SameCode.spaced each)
    exact .cons ((SameCode.refl [_]).append whole) .nil

/-- Characters without a newline in front of a text belong to its first line. -/
theorem splitOn_append_of_not_mem {front text first : List Char} {later : List (List Char)}
    (one : '\n' ∉ front) (lines : text.splitOn '\n' = first :: later) :
    (front ++ text).splitOn '\n' = (front ++ first) :: later := by
  induction front with
  | nil => exact lines
  | cons c rest ih =>
    rw [List.mem_cons, not_or] at one
    rw [List.cons_append, List.splitOn_cons_eq_if_modifyHead, ih one.2,
      beq_false_of_ne (Ne.symm one.1)]
    rfl

/-- The code of a version at the top of a text is that of its later lines. -/
theorem code_header (version : String) : code 0 (header version) = codeInVersion version := by
  have generated : SameCode [.line "// @generated by fluentfga-codegen. Do not edit by hand."] [] :=
    .comment rfl (by decide)
  have versionLine : "// Schema version: " ++ version ≠ "" := by
    intro empty
    have chars := congrArg String.toList empty
    simp at chars
  have split : header version =
      [.line "// @generated by fluentfga-codegen. Do not edit by hand."] ++
        [.line ("// Schema version: " ++ version)] := rfl
  rw [split, (generated.append (.refl _)).code, List.nil_append, code,
    Piece.lineAt_line 0 versionLine, code, List.append_nil, codeLines, codeInVersion]
  cases lines : version.toList.splitOn '\n' with
  | nil => exact absurd lines (List.splitOn_ne_nil _ _)
  | cons first later =>
    have chars : (indentation 0 ++ ("// Schema version: " ++ version)).toList =
        "// Schema version: ".toList ++ version.toList := by simp [indentation]
    rw [chars, splitOn_append_of_not_mem (by decide) lines]
    rfl

/-- The code of parts under a header is that of the version, and then the same whatever the version
is. -/
theorem code_spaced_header (version : String) (parts : List (List Piece)) :
    code 0 (spaced (header version :: parts)) =
      codeInVersion version ++ code 0 (spaced (header "" :: parts)) := by
  have nothing : codeInVersion "" = [] := rfl
  cases parts with
  | nil => rw [spaced, spaced, code_header, code_header, nothing, List.append_nil]
  | cons first rest =>
    have apart (top : List Piece) :
        spaced (top :: first :: rest) = top ++ .blank :: spaced (first :: rest) := rfl
    rw [apart, apart, code_append, code_append, code_header, code_header, nothing, List.nil_append]
    rfl

/-- The code of a text is that of its version, and then that of the text of the plan without free
text. -/
theorem codeLines_source (policy : Policy) (plan : Plan) :
    codeLines (plan.source policy) =
      codeInVersion plan.version ++ codeLines (plan.withoutText.source policy) := by
  have parts : List.Forall₂ SameCode (header "" :: (plan.parts policy).tail)
      (plan.withoutText.parts policy) := by
    refine .cons (.refl _) (List.rel_append ?_ (sameCode_conditionParts plan.conditions))
    exact List.forall₂_same.mpr fun part _ => .refl part
  have header : plan.parts policy = header plan.version :: (plan.parts policy).tail := rfl
  rw [Plan.source, Plan.source, codeLines_render, codeLines_render, header, code_spaced_header,
    (SameCode.spaced parts).code, List.append_assoc]

/-! ## Bindings of schemas that differ in free text -/

/-- Schemas that differ in their free text alone both have bindings or none. Those have the same
code, but for the lines of each version after its first that are no comments, which stand in
front. -/
theorem generate_code_of_version {model model' : Model} {policy : Policy} {source : String}
    (made : generate model policy = .ok source) (same : model'.withoutText = model.withoutText) :
    ∃ source' shared, generate model' policy = .ok source' ∧
      codeLines source = codeInVersion model.version ++ shared ∧
      codeLines source' = codeInVersion model'.version ++ shared := by
  obtain ⟨plan, planned, rfl⟩ := map_eq_ok.mp made
  have plain : (Plan.of model').map (·.withoutText) = .ok plan.withoutText := by
    rw [← Plan.of_withoutText, same, Plan.of_withoutText, planned]
    rfl
  obtain ⟨plan', planned', same'⟩ := map_eq_ok.mp plain
  refine ⟨plan'.source policy, codeLines (plan.withoutText.source policy),
    map_eq_ok.mpr ⟨plan', planned', rfl⟩, ?_, ?_⟩
  · rw [codeLines_source, Plan.version_of planned]
  · rw [codeLines_source, Plan.version_of planned', same']

/-- A document with a version and a condition, whose expression is given. -/
def textDocument (version expression : String) : Json :=
  .obj [("schema_version", .str version), ("type_definitions", .arr [.obj [("type", .str "user")]]),
    ("conditions", .obj [("in_region", .obj [("expression", .str expression)])])]

/-- The schema of that document. -/
def textModel (version expression : String) : Model :=
  ⟨version, [⟨"user", []⟩], [⟨"in_region", some expression, []⟩]⟩

/-- The plan of that schema. -/
def textPlan (version expression : String) : Plan :=
  ⟨version, [⟨⟨"user", []⟩, "User", "User", .marker⟩],
    [⟨⟨"in_region", some expression, []⟩, "in_region", [], []⟩]⟩

/-- Two schemas that differ in their version and in an expression, which in one of them has three
lines and a closing brace. Both versions are one line, so the two texts have the same code. -/
theorem generate_code_of_version_expressions :
    let quiet := textModel "1.1" "region == declared"
    let loud := textModel "1.2" "region ==\n\x7d pub struct Extra;\n declared"
    Model.ofJson (textDocument "1.1" "region == declared") = .ok quiet ∧
      loud.withoutText = quiet.withoutText ∧
      ∃ source source', generate quiet .standard = .ok source ∧
        generate loud .standard = .ok source' ∧ codeLines source' = codeLines source := by
  intro quiet loud
  have planned : Plan.of quiet = .ok (textPlan "1.1" "region == declared") := by decide +kernel
  have made := generate_of_plan planned .standard
  obtain ⟨source', shared, made', code, code'⟩ :=
    generate_code_of_version made (show loud.withoutText = quiet.withoutText from rfl)
  have oneLine : codeInVersion loud.version = codeInVersion quiet.version := by decide
  exact ⟨rfl, rfl, _, source', made, made', by rw [code, code', oneLine]⟩

/-- The second line of a version is a line of the bindings that is no comment. -/
theorem version_becomes_code :
    let tame := textModel "1.1" "declared"
    let wild := textModel "1.1\npub struct Extra;" "declared"
    Model.ofJson (textDocument "1.1" "declared") = .ok tame ∧
      Model.ofJson (textDocument "1.1\npub struct Extra;" "declared") = .ok wild ∧
      ∃ source source', generate tame .standard = .ok source ∧
        generate wild .standard = .ok source' ∧ codeLines source' ≠ codeLines source ∧
        "pub struct Extra;".toList ∈ codeLines source' := by
  intro tame wild
  have planned : Plan.of tame = .ok (textPlan "1.1" "declared") := by decide +kernel
  have planned' : Plan.of wild = .ok (textPlan "1.1\npub struct Extra;" "declared") := by
    decide +kernel
  have first : codeInVersion "1.1" = [] := by decide
  have later : codeInVersion "1.1\npub struct Extra;" = ["pub struct Extra;".toList] := by decide
  have code : codeLines _ = codeInVersion "1.1" ++ _ :=
    codeLines_source .standard (textPlan "1.1" "declared")
  have code' : codeLines _ = codeInVersion "1.1\npub struct Extra;" ++ _ :=
    codeLines_source .standard (textPlan "1.1\npub struct Extra;" "declared")
  have plain : (textPlan "1.1\npub struct Extra;" "declared").withoutText =
      (textPlan "1.1" "declared").withoutText := rfl
  rw [first, List.nil_append] at code
  rw [later, plain, List.singleton_append] at code'
  refine ⟨rfl, rfl, _, _, generate_of_plan planned .standard, generate_of_plan planned' .standard,
    ?_, ?_⟩
  · intro same
    rw [code', code] at same
    exact List.cons_ne_self _ _ same
  · rw [code']
    exact List.mem_cons_self

end Bindings

end Rebac
