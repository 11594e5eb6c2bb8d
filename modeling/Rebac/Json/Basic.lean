import Rebac.Decimal.Binary64
import Rebac.Keyed

/-! # JSON values

An object keeps the order of its members. Whole numbers and binary numbers are kept apart, so `1`
and `1.0` are two values. -/

namespace Rebac

/-- A JSON value. -/
inductive Json where
  | null
  | bool (b : Bool)
  | int (i : Int)
  | real (x : Decimal.Binary64)
  | str (s : String)
  | arr (items : List Json)
  | obj (members : List (String × Json))
deriving Repr, Inhabited

namespace Json

/-- The member `name` of an object. Any other value has no members. -/
def get? : Json → String → Option Json
  | .obj members, name => Keyed.find? members name
  | _, _ => none

/-- The text of a string value. -/
def str? : Json → Option String
  | .str s => some s
  | _ => none

/-- A text, or null where there is none. -/
def strOrNull : Option String → Json
  | some s => .str s
  | none => .null

/-- The truth value of a Boolean. -/
def bool? : Json → Option Bool
  | .bool b => some b
  | _ => none

/-- The integer of a whole number. -/
def int? : Json → Option Int
  | .int i => some i
  | _ => none

/-- The items of an array. -/
def arr? : Json → Option (List Json)
  | .arr items => some items
  | _ => none

/-- The members of an object. -/
def obj? : Json → Option (List (String × Json))
  | .obj members => some members
  | _ => none

/-- Whether the value is `null`. -/
def isNull : Json → Bool
  | .null => true
  | _ => false

mutual

/-- The value with repeated members put together, at every depth: a name keeps its first place and
takes its last value. -/
def settled : Json → Json
  | .arr items => .arr (settledItems items)
  | .obj members => .obj (Keyed.ofList (settledMembers members))
  | j => j

/-- `settled` on each item. -/
def settledItems : List Json → List Json
  | [] => []
  | j :: rest => j.settled :: settledItems rest

/-- `settled` on the value of each member. -/
def settledMembers : List (String × Json) → List (String × Json)
  | [] => []
  | (name, j) :: rest => (name, j.settled) :: settledMembers rest

end

mutual

/-- Equality of values, on which the order of members has no bearing. -/
def same : Json → Json → Bool
  | .null, .null => true
  | .bool a, .bool b => a == b
  | .int a, .int b => a == b
  | .real a, .real b => a.same b
  | .str a, .str b => a == b
  | .arr as, .arr bs => sameItems as bs
  | .obj as, .obj bs => as.length == bs.length && membersWithin as bs
  | _, _ => false

/-- Equality of items, one by one. -/
def sameItems : List Json → List Json → Bool
  | [], [] => true
  | a :: as, b :: bs => a.same b && sameItems as bs
  | _, _ => false

/-- Whether each member has an equal one of the same name in `others`. -/
def membersWithin : List (String × Json) → List (String × Json) → Bool
  | [], _ => true
  | (name, a) :: rest, others =>
    (match Keyed.find? others name with
      | some b => a.same b
      | none => false) && membersWithin rest others

end

end Json

end Rebac
