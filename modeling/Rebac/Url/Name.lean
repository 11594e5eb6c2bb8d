import Rebac.Text.Composition
import Rebac.Text.Direction
import Rebac.Text.Joining
import Rebac.Url.NameData
import Rebac.Url.Punycode

/-! # Names of hosts

A name may be written in any script. Its characters are first brought to one form: capitals become
small letters, characters with a plainer equivalent are replaced, and what is put together of two is
composed. A label that is still not ASCII is then written in Punycode after `xn--`; a label that
begins so already must stand for one that could be written in this way. -/

namespace Rebac.Url

/-- What replaces a character beyond ASCII. -/
def replacement? (c : Char) : Option (List Char) :=
  match Text.Shift.find? replacedRuns c.toNat with
  | some n => some [Char.ofNat n]
  | none => (replacedRows.find? (·.head? = some c.toNat)).map fun row => row.tail.map Char.ofNat

/-- The plain form of a character, when a name can hold it. -/
def plainForm? (c : Char) : Option (List Char) :=
  if c.toNat < 0x80 then some [c.toLower]
  else if Text.Run.anyContains refusedRuns c.toNat then none
  else if Text.Run.anyContains ignoredRuns c.toNat then some []
  else some ((replacement? c).getD [c])

/-- The plain and composed form of a name. -/
def plainName? (cs : List Char) : Option (List Char) := do
  return Text.compose (← cs.mapM plainForm?).flatten

/-- Whether `c` is its own plain form. -/
def isPlain (c : Char) : Bool := plainForm? c = some [c]

/-- The mark at the start of a label that is written in Punycode. -/
def punycodeMark : List Char := ['x', 'n', '-', '-']

/-- The length of the longest text that is written in Punycode. -/
def maxText : Nat := 1000

/-- The length of the longest text that is read as Punycode. -/
def maxWritten : Nat := 2000

/-- A label of a name: the text it stands for, and its written form in ASCII. -/
structure Label where
  text : List Char
  ascii : List Char
deriving DecidableEq, Repr

namespace Label

/-- Whether a text that is not ASCII can be a label: it is plain and composed, does not begin with a
mark, and its joiners fit. -/
def isAllowed (text : List Char) : Bool :=
  text.all isPlain && Text.compose text = text && !text.head?.any Text.isMark &&
    Text.joinersFit [] text

/-- Whether a text is ASCII. -/
def isAscii (text : List Char) : Bool := text.all (·.toNat < 0x80)

/-- The label of a plain and composed text. -/
def ofPlain? (text : List Char) : Option Label :=
  if punycodeMark.isPrefixOf text then do
    let written := text.drop punycodeMark.length
    if maxWritten < written.length then none
    else
      let decoded ← Punycode.decode? written
      if isAscii decoded || !isAllowed decoded then none else some ⟨decoded, text⟩
  else if isAscii text then some ⟨text, text⟩
  else if !isAllowed text || maxText < text.length then none
  else some ⟨text, punycodeMark ++ Punycode.encode text⟩

end Label

/-- The ASCII characters that no name holds. -/
def isRefusedInName (c : Char) : Bool :=
  c.toNat ≤ 0x20 || c.toNat = 0x7f ||
    c ∈ ['%', '#', '/', ':', '<', '>', '?', '@', '[', '\\', ']', '^', '|']

/-- The ASCII form of a name. A name with a label from right to left must keep the rule on
directions in all its labels. -/
def asciiName? (cs : List Char) : Option (List Char) := do
  let labels ← ((← plainName? cs).splitOnP (· = '.')).mapM Label.ofPlain?
  let isRightward := labels.any (·.text.any Text.isRightward)
  if isRightward && !labels.all (Text.keepsDirection ·.text) then none
  else
    let name := ['.'].intercalate (labels.map Label.ascii)
    if name.any isRefusedInName then none else some name

end Rebac.Url
