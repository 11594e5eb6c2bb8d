import Rebac.Text.Digit
import Rebac.Text.Run

/-! # Packed tables

A long table of code points as one text. Blanks and line ends stand between its rows, and commas
between the numbers of a row, which are hexadecimal. -/

namespace Rebac.Text

/-- The number that hexadecimal digits write. -/
def packedNumber (cs : List Char) : Nat := cs.foldl (fun n c => 16 * n + (hexDigit? c).getD 0) 0

/-- The rows of a packed table. -/
def packedRows (s : String) : List (List Nat) :=
  ((s.toList.splitOnP Char.isWhitespace).filter (!·.isEmpty)).map fun row =>
    (row.splitOnP (· = ',')).map packedNumber

/-- The runs of a packed table. A row is a single code point, or the first and the last of a run. -/
def packedRuns (s : String) : List Run :=
  (packedRows s).filterMap fun
    | [n] => some ⟨n, n, 1⟩
    | [first, last] => some ⟨first, last, 1⟩
    | _ => none

/-- The shifts of a packed table. A row is the first and the last code point of a run, its step, and
the code point that the first one moves to. -/
def packedShifts (s : String) : List Shift :=
  (packedRows s).filterMap fun
    | [first, last, step, target] => some ⟨⟨first, last, step⟩, (target : Int) - first⟩
    | _ => none

end Rebac.Text
