import Rebac.Text.AlphanumericData

/-! # Letters and numbers -/

namespace Rebac.Text

/-- Whether `c` has the property `Alphabetic` or is of a category of numbers. -/
def isAlphanumeric (c : Char) : Bool := c.isAlphanum || Run.anyContains alphanumericRuns c.toNat

end Rebac.Text
