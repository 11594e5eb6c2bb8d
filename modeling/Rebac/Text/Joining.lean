import Rebac.Text.Combining
import Rebac.Text.JoiningData

/-! # Joining of letters

Two characters without a shape of their own join the letters beside them or keep them apart. They
may stand only where they make a difference. -/

namespace Rebac.Text

/-- The character that keeps two letters apart. -/
def nonJoiner : Char := '\u200c'

/-- The character that joins two letters. -/
def joiner : Char := '\u200d'

/-- Whether the nearest letter is one of `runs`. -/
def meetsLetter (runs : List Run) (cs : List Char) : Bool :=
  (cs.dropWhile (Run.anyContains transparentRuns ·.toNat)).head?.any
    (Run.anyContains runs ·.toNat)

/-- Whether a joiner or a non-joiner `c` makes a difference between what comes before it, nearest
first, and what follows. -/
def joinerFits (c : Char) (before after : List Char) : Bool :=
  before.head?.any (combiningClass · = viramaClass) ||
    (c = nonJoiner && meetsLetter joinsNextRuns before && meetsLetter joinsPreviousRuns after)

/-- Whether every joiner and non-joiner of a text fits its place, behind `before`, nearest first. -/
def joinersFit (before : List Char) : List Char → Bool
  | [] => true
  | c :: rest =>
    ((c ≠ nonJoiner && c ≠ joiner) || joinerFits c before rest) && joinersFit (c :: before) rest

end Rebac.Text
