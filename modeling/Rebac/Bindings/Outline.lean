/-! # Outlines

Source text as a list of pieces: lines, blank lines, and the opening and closing of blocks. Each
line is indented by four spaces for every block open around it. -/

namespace Rebac.Bindings

/-- A piece of source text. -/
inductive Piece where
  /-- One line. -/
  | line (text : String)
  /-- A blank line. -/
  | blank
  /-- Opens a block under a heading. -/
  | enter (heading : String)
  /-- Closes the innermost block. -/
  | leave
deriving DecidableEq, Repr

/-- The indentation of `depth` blocks. -/
def indentation (depth : Nat) : String := String.ofList (List.replicate (4 * depth) ' ')

/-- A line at a depth. An empty one has no indentation. -/
def indented (depth : Nat) (text : String) : String :=
  if text = "" then "\n" else indentation depth ++ text ++ "\n"

/-- The depth after a piece. -/
def Piece.depthAfter (depth : Nat) : Piece → Nat
  | .line _ | .blank => depth
  | .enter _ => depth + 1
  | .leave => depth - 1

/-- The text of a piece at a depth. A closing brace stands at the depth it returns to. -/
def Piece.render (depth : Nat) : Piece → String
  | .line text => indented depth text
  | .blank => "\n"
  | .enter heading => indented depth (heading ++ " \x7b")
  | .leave => indented (depth - 1) "\x7d"

/-- The text of pieces from a depth on. -/
def render : Nat → List Piece → String
  | _, [] => ""
  | depth, p :: rest => p.render depth ++ render (p.depthAfter depth) rest

/-- The pieces inside a block. -/
def block (heading : String) (body : List Piece) : List Piece :=
  .enter heading :: body ++ [.leave]

/-- Parts of a text with a blank line between each two. -/
def spaced : List (List Piece) → List Piece
  | [] => []
  | [part] => part
  | part :: rest => part ++ .blank :: spaced rest

end Rebac.Bindings
