import Rebac.Proofs.Bindings.FreeText
import Rebac.Proofs.Text.Affix

/-!
# Outlines read from text

A text is taken apart line by line. Spaces in front of a line are dropped, a line that ends with an
opening brace is the heading of a block, a closing brace alone closes one, and a comment is a line
whatever it ends with. Each piece of an outline has lines of its own in the text, at whatever depth
it stands, so the outline of a text is what its pieces are read as. A piece that stays on one line
is read as itself.
-/

namespace Rebac.Bindings

/-! ## Texts without a character -/

/-- A text without a character. -/
def Lacks (c : Char) (text : String) : Prop := c ∉ text.toList

instance (c : Char) (text : String) : Decidable (Lacks c text) :=
  inferInstanceAs (Decidable (c ∉ text.toList))

@[simp]
theorem lacks_append {c : Char} {a b : String} : Lacks c (a ++ b) ↔ Lacks c a ∧ Lacks c b := by
  rw [Lacks, String.toList_append, List.mem_append, not_or]
  rfl

/-- A literal lacks what is not among its characters. To decide this of a text has the bytes of its
literal made anew, so it is decided of the characters. -/
theorem Lacks.literal {c : Char} {chars : List Char} (free : c ∉ chars) :
    Lacks c (String.ofList chars) := by
  rw [Lacks, String.toList_ofList]
  exact free

theorem Lacks.append {c : Char} {a b : String} (first : Lacks c a) (second : Lacks c b) :
    Lacks c (a ++ b) := lacks_append.mpr ⟨first, second⟩

theorem Lacks.intercalate {c : Char} {texts : List String} (each : ∀ text ∈ texts, Lacks c text)
    (comma : c ≠ ',') (space : c ≠ ' ') : Lacks c (", ".intercalate texts) := by
  have separator : Lacks c ", " := by
    have chars : ", ".toList = [',', ' '] := rfl
    simp [Lacks, chars, comma, space]
  induction texts with
  | nil => simp [Lacks]
  | cons first texts ih =>
    obtain ⟨here, later⟩ := List.forall_mem_cons.mp each
    cases texts with
    | nil =>
      rw [String.intercalate_singleton]
      exact here
    | cons second texts =>
      rw [String.intercalate_cons_cons, lacks_append, lacks_append]
      exact ⟨⟨here, separator⟩, ih later⟩

/-- The characters of a line of a text are characters of the text. -/
theorem mem_of_mem_splitOn {text line : List Char} (mem : line ∈ text.splitOn '\n') {c : Char}
    (own : c ∈ line) : c ∈ text := by
  obtain ⟨i, place⟩ := List.mem_iff_getElem?.mp mem
  have among : line ∈ (text.splitOn '\n').intersperse ['\n'] :=
    List.mem_iff_getElem?.mpr ⟨2 * i, by rw [List.getElem?_intersperse_two_mul, place]⟩
  have whole : ((text.splitOn '\n').intersperse ['\n']).flatten = text :=
    List.intercalate_splitOn '\n'
  rw [← whole]
  exact List.mem_flatten.mpr ⟨line, among, own⟩

/-! ## Rows -/

/-- The rows of a text: its lines, without the spaces in front of them. -/
def rows (text : String) : List (List Char) :=
  (text.toList.splitOn '\n').map (·.dropWhile (· = ' '))

/-- A newline ends a row, so what follows has its own rows. -/
theorem rows_append_newline (a b : String) : rows (a ++ "\n" ++ b) = rows a ++ rows b := by
  rw [rows, splitOn_append_newline, List.map_append, rows, rows]

/-- Indentation belongs to no row. -/
theorem rows_indentation (depth : Nat) (text : String) :
    rows (indentation depth ++ text) = rows text := by
  cases lines : text.toList.splitOn '\n' with
  | nil => exact absurd lines (List.splitOn_ne_nil _ _)
  | cons first later =>
    rw [rows, rows, String.toList_append,
      splitOn_append_of_not_mem (newline_not_mem_indentation depth) lines, lines, List.map_cons,
      List.map_cons, dropWhile_indentation]

theorem rows_line {text : String} (one : Lacks '\n' text) :
    rows text = [text.toList.dropWhile (· = ' ')] := by
  rw [rows, List.splitOn_eq_singleton one]
  rfl

/-- A row has no character that the text has not. -/
theorem lacks_of_mem_rows {c : Char} {text : String} {row : List Char} (mem : row ∈ rows text)
    (lacks : Lacks c text) : c ∉ row := by
  obtain ⟨line, own, rfl⟩ := List.mem_map.mp mem
  exact fun inside => lacks (mem_of_mem_splitOn own ((List.dropWhile_sublist _).subset inside))

/-! ## Reading an outline -/

/-- The piece that a row is. -/
def Piece.ofRow (row : List Char) : Piece :=
  if row = [] then .blank
  else if row = ['\x7d'] then .leave
  else if isComment row then .line (String.ofList row)
  else match Text.beforeTail? (String.ofList row) " \x7b" with
    | some heading => .enter heading
    | none => .line (String.ofList row)

/-- The outline of a text, read row by row. -/
def outlineOf (text : String) : List Piece := (rows text).map Piece.ofRow

/-- The text of a piece on its line, without indentation. -/
def Piece.shown : Piece → String
  | .line text => text
  | .blank => ""
  | .enter heading => heading ++ " \x7b"
  | .leave => "\x7d"

/-- A row is the text of the piece that it is. -/
theorem Piece.shown_ofRow (row : List Char) : (Piece.ofRow row).shown.toList = row := by
  unfold ofRow
  split
  next blank => simp [shown, blank]
  split
  next leave => simp [shown, leave]
  split
  · exact String.toList_ofList
  split
  next heading opens =>
    obtain ⟨front, whole⟩ := Text.endsWith_iff.mp (Text.endsWith_of_beforeTail? opens)
    rw [whole, Text.beforeTail?_append, Option.some.injEq] at opens
    rw [shown, ← opens, ← whole, String.toList_ofList]
  · exact String.toList_ofList

theorem rows_eq (text : String) : rows text = (outlineOf text).map (·.shown.toList) := by
  rw [outlineOf, List.map_map]
  exact ((List.map_congr_left fun row _ => Piece.shown_ofRow row).trans (List.map_id _)).symm

/-- What pieces are read as, each from its own text. -/
def reread (pieces : List Piece) : List Piece := pieces.flatMap fun p => outlineOf p.shown

theorem reread_append (a b : List Piece) : reread (a ++ b) = reread a ++ reread b :=
  List.flatMap_append

theorem reread_cons (p : Piece) (rest : List Piece) :
    reread (p :: rest) = outlineOf p.shown ++ reread rest := List.flatMap_cons

theorem outlineOf_append_newline (a b : String) :
    outlineOf (a ++ "\n" ++ b) = outlineOf a ++ outlineOf b := by
  rw [outlineOf, rows_append_newline, List.map_append, outlineOf, outlineOf]

/-- At any depth a piece shows its text behind some indentation. -/
theorem Piece.exists_render (depth : Nat) (p : Piece) :
    ∃ d, p.render depth = indentation d ++ p.shown ++ "\n" := by
  have shows (depth : Nat) (text : String) :
      ∃ d, indented depth text = indentation d ++ text ++ "\n" := by
    unfold indented
    split
    next empty =>
      rw [empty]
      exact ⟨0, rfl⟩
    next => exact ⟨depth, rfl⟩
  cases p with
  | line text => exact shows depth text
  | blank => exact ⟨0, rfl⟩
  | enter heading => exact shows depth _
  | leave => exact shows (depth - 1) _

/-- The outline of a text is what the pieces of the text are read as, one after the other. -/
theorem outlineOf_render (depth : Nat) (pieces : List Piece) (rest : String) :
    outlineOf (render depth pieces ++ rest) = reread pieces ++ outlineOf rest := by
  induction pieces generalizing depth with
  | nil => simp [render, reread]
  | cons p pieces ih =>
    obtain ⟨d, shows⟩ := p.exists_render depth
    have here : outlineOf (indentation d ++ p.shown) = outlineOf p.shown := by
      rw [outlineOf, rows_indentation, outlineOf]
    rw [render, String.append_assoc, shows, outlineOf_append_newline, ih, here, reread_cons,
      List.append_assoc]

/-- Below its last line a text has an empty one. -/
theorem outlineOf_render_end (depth : Nat) (pieces : List Piece) :
    outlineOf (render depth pieces) = reread pieces ++ [.blank] := by
  have whole := outlineOf_render depth pieces ""
  rwa [String.append_empty] at whole

theorem render_append (depth : Nat) (a b : List Piece) :
    render depth (a ++ b) = render depth a ++ render (a.foldl Piece.depthAfter depth) b := by
  induction a generalizing depth with
  | nil => simp [render]
  | cons p a ih =>
    rw [List.cons_append, render, ih, render, String.append_assoc]
    rfl

/-! ## Pieces on one line -/

section

variable {text : String} (c : Char)

theorem dropWhile_of_head? (first : text.toList.head? = some c) (space : c ≠ ' ') :
    text.toList.dropWhile (· = ' ') = text.toList := by
  obtain ⟨rest, chars⟩ := List.head?_eq_some_iff.mp first
  rw [chars]
  exact List.dropWhile_cons_of_neg (by simpa using space)

/-- The beginning of a line: it is indented no further, and is no closing brace. -/
structure Begun (text : String) : Prop where
  front : text.toList.head?.any (fun c => c ≠ ' ' ∧ c ≠ '\x7d') = true
  one : Lacks '\n' text

/-- A text on one line is a line, unless it begins like a brace or ends like a heading. -/
theorem Begun.outlineOf (begun : Begun text) (ends : text.toList.getLast? ≠ some '\x7b') :
    outlineOf text = [.line text] := by
  obtain ⟨c, first, begins⟩ := (Option.any_eq_true _ _).mp begun.front
  obtain ⟨space, leaves⟩ := of_decide_eq_true begins
  obtain ⟨rest, chars⟩ := List.head?_eq_some_iff.mp first
  have nonempty : text.toList ≠ [] := by simp [chars]
  have brace : text.toList ≠ ['\x7d'] := by simp [chars, leaves]
  have heading : Text.beforeTail? text " \x7b" = none := by
    rw [Text.beforeTail?_eq_none, Bool.eq_false_iff]
    intro last
    obtain ⟨front, rfl⟩ := Text.endsWith_iff.mp last
    exact ends (by simp)
  rw [Bindings.outlineOf, rows_line begun.one, dropWhile_of_head? c first space, List.map_singleton,
    Piece.ofRow, if_neg nonempty, if_neg brace, String.ofList_toList, heading, ite_self]

theorem Begun.literal {chars : List Char}
    (front : chars.head?.any (fun c => c ≠ ' ' ∧ c ≠ '\x7d') = true) (one : '\n' ∉ chars) :
    Begun (String.ofList chars) :=
  ⟨by rwa [String.toList_ofList], Lacks.literal one⟩

theorem Begun.append {rest : String} (begun : Begun text) (one : Lacks '\n' rest) :
    Begun (text ++ rest) := by
  refine ⟨?_, begun.one.append one⟩
  have front := begun.front
  cases chars : text.toList with
  | nil => simp [chars] at front
  | cons c rest => simpa [chars] using front

/-- A line ends with anything but an opening brace. -/
theorem Begun.line (begun : Begun text) {chars : List Char}
    (ends : chars.getLast?.any (· ≠ '\x7b') = true) (one : '\n' ∉ chars) :
    Bindings.outlineOf (text ++ String.ofList chars) = [.line (text ++ String.ofList chars)] := by
  refine (begun.append (Lacks.literal one)).outlineOf ?_
  rw [String.toList_append, List.getLast?_append, String.toList_ofList]
  intro last
  cases own : chars.getLast? with
  | none => simp [own] at ends
  | some d =>
    rw [own, Option.some_or, Option.some.injEq] at last
    simp [own, last] at ends

/-- A literal that begins and ends like a line. -/
theorem outlineOf_literal {chars : List Char}
    (front : chars.head?.any (fun c => c ≠ ' ' ∧ c ≠ '\x7d') = true)
    (ends : chars.getLast?.any (· ≠ '\x7b') = true) (one : '\n' ∉ chars) :
    outlineOf (String.ofList chars) = [.line (String.ofList chars)] := by
  refine (Begun.literal front one).outlineOf ?_
  rw [String.toList_ofList]
  intro last
  simp [last] at ends

/-- A comment on one line is a line, whatever it ends with. -/
theorem outlineOf_comment {rest : List Char} (slashes : text.toList = '/' :: '/' :: rest)
    (one : Lacks '\n' text) : outlineOf text = [.line text] := by
  have first : text.toList.head? = some '/' := by simp [slashes]
  have comment : isComment text.toList = true := by
    rw [slashes]
    rfl
  have nonempty : text.toList ≠ [] := by simp [slashes]
  have brace : text.toList ≠ ['\x7d'] := by simp [slashes]
  rw [outlineOf, rows_line one, dropWhile_of_head? '/' first (by decide), List.map_singleton,
    Piece.ofRow, if_neg nonempty, if_neg brace, if_pos comment, String.ofList_toList]

/-- A heading on one line opens its block, unless it begins like a comment. -/
theorem outlineOf_heading (first : text.toList.head? = some c) (begins : c ≠ ' ' ∧ c ≠ '/')
    (one : Lacks '\n' text) : outlineOf (text ++ " \x7b") = [.enter text] := by
  obtain ⟨rest, chars⟩ := List.head?_eq_some_iff.mp first
  have opens : (text ++ " \x7b").toList = c :: (rest ++ [' ', '\x7b']) := by simp [chars]
  have opened : (text ++ " \x7b").toList.head? = some c := by simp [opens]
  have nonempty : (text ++ " \x7b").toList ≠ [] := by simp [opens]
  have brace : (text ++ " \x7b").toList ≠ ['\x7d'] := by simp [opens]
  have code : isComment (text ++ " \x7b").toList = false := by
    rw [isComment, dropWhile_of_head? c opened begins.1, opens, List.isPrefixOf,
      beq_false_of_ne (Ne.symm begins.2), Bool.false_and]
  have lines : Lacks '\n' (text ++ " \x7b") := one.append (.literal (by decide))
  rw [outlineOf, rows_line lines, dropWhile_of_head? c opened begins.1, List.map_singleton,
    Piece.ofRow, if_neg nonempty, if_neg brace, if_neg (Bool.eq_false_iff.mp code),
    String.ofList_toList, Text.beforeTail?_append]

end

/-! ## Plain pieces -/

/-- Pieces that are read as they are. -/
def Plain (pieces : List Piece) : Prop := ∀ p ∈ pieces, outlineOf p.shown = [p]

namespace Plain

theorem reread_eq {pieces : List Piece} (plain : Plain pieces) : reread pieces = pieces := by
  induction pieces with
  | nil => rfl
  | cons p rest ih =>
    obtain ⟨here, later⟩ := List.forall_mem_cons.mp plain
    rw [reread_cons, here, ih later]
    rfl

theorem nil : Plain [] := nofun

theorem append {a b : List Piece} (first : Plain a) (second : Plain b) : Plain (a ++ b) :=
  List.forall_mem_append.mpr ⟨first, second⟩

theorem line {text : String} {rest : List Piece} (reads : outlineOf text = [.line text])
    (later : Plain rest) : Plain (.line text :: rest) :=
  List.forall_mem_cons.mpr ⟨reads, later⟩

theorem blank {rest : List Piece} (later : Plain rest) : Plain (.blank :: rest) :=
  List.forall_mem_cons.mpr ⟨by decide, later⟩

theorem lines {α : Type} {text : α → String} {xs : List α}
    (reads : ∀ x ∈ xs, outlineOf (text x) = [.line (text x)]) :
    Plain (xs.map fun x => .line (text x)) :=
  List.forall_mem_map.mpr reads

theorem block {heading : String} {body : List Piece}
    (reads : outlineOf (heading ++ " \x7b") = [.enter heading]) (inside : Plain body) :
    Plain (block heading body) :=
  List.forall_mem_cons.mpr ⟨reads, inside.append (List.forall_mem_singleton.mpr (by decide))⟩

end Plain

/-- A block under a plain heading is read as a block. -/
theorem reread_block {heading : String} (reads : outlineOf (heading ++ " \x7b") = [.enter heading])
    (body : List Piece) : reread (block heading body) = block heading (reread body) := by
  have closing : reread [.leave] = [.leave] := by decide
  rw [block, List.cons_append, reread_cons, reread_append, closing]
  exact congrArg (· ++ (reread body ++ [.leave])) reads

/-! ## Parts -/

/-- Parts, each under a blank line. -/
def apart (parts : List (List Piece)) : List Piece := parts.flatMap (.blank :: ·)

theorem spaced_cons (first : List Piece) (parts : List (List Piece)) :
    spaced (first :: parts) = first ++ apart parts := by
  induction parts generalizing first with
  | nil => simp [spaced, apart]
  | cons second parts ih =>
    have text : spaced (first :: second :: parts) = first ++ .blank :: spaced (second :: parts) :=
      rfl
    rw [text, ih, apart, apart, List.flatMap_cons, List.cons_append]

theorem infix_apart {part : List Piece} {parts : List (List Piece)} (mem : part ∈ parts) :
    part <:+: apart parts := by
  obtain ⟨before, after, rfl⟩ := List.append_of_mem mem
  refine ⟨apart before ++ [.blank], apart after, ?_⟩
  simp [apart]

theorem infix_spaced {part : List Piece} {parts : List (List Piece)} (mem : part ∈ parts) :
    part <:+: spaced parts := by
  cases parts with
  | nil => cases mem
  | cons first parts =>
    rw [spaced_cons]
    rcases List.mem_cons.mp mem with rfl | mem
    · exact (List.prefix_append ..).isInfix
    · exact (infix_apart mem).trans (List.suffix_append ..).isInfix

theorem Plain.spaced {parts : List (List Piece)} (plain : ∀ part ∈ parts, Plain part) :
    Plain (spaced parts) := by
  cases parts with
  | nil => exact .nil
  | cons first parts =>
    obtain ⟨here, later⟩ := List.forall_mem_cons.mp plain
    rw [spaced_cons]
    refine here.append fun p mem => ?_
    obtain ⟨part, own, inside⟩ := List.mem_flatMap.mp mem
    exact (later part own).blank p inside

/-- Parts stay apart by blank lines. -/
theorem reread_spaced (parts : List (List Piece)) :
    reread (spaced parts) = spaced (parts.map reread) := by
  have blank : outlineOf Piece.blank.shown = [.blank] := by decide
  induction parts with
  | nil => rfl
  | cons first rest ih =>
    cases rest with
    | nil => rfl
    | cons second rest =>
      have text : spaced (first :: second :: rest) = first ++ .blank :: spaced (second :: rest) :=
        rfl
      rw [text, reread_append, reread_cons, blank, ih]
      rfl

theorem reread_apart (parts : List (List Piece)) :
    reread (apart parts) = apart (parts.map reread) := by
  have blank : outlineOf Piece.blank.shown = [.blank] := by decide
  induction parts with
  | nil => rfl
  | cons part rest ih =>
    rw [apart, List.flatMap_cons, reread_append, ← apart, ih, reread_cons, blank, List.map_cons,
      apart, apart, List.flatMap_cons]
    rfl

end Rebac.Bindings
