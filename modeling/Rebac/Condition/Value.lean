import Rebac.Calendar.Instant
import Rebac.Decimal.Layout
import Rebac.Json.Basic
import Rebac.Schema.Basic

/-! # Values of parameters

The form in which a value of each kind is sent: an instant to the millisecond, a span in seconds, an
integer as a number, a truth value by its name, and a text as it is. -/

namespace Rebac.Condition

open Calendar (Instant Span)
open Decimal (Magnitude)

/-- A value for a parameter. -/
inductive Value where
  | string (s : String)
  | int (i : Int64)
  | bool (b : Bool)
  | timestamp (t : Instant)
  | duration (d : Span)

/-- The number of seconds of a span as a binary number: the rounded whole seconds and the rounded
fraction, added. -/
def spanNumber? (d : Span) : Option Magnitude := do
  let whole ← Magnitude.ofNat? d.seconds
  let fraction ← Magnitude.ofRatio? d.nanos 1000000000
  whole.add? fraction

/-- A span in seconds. Whole seconds keep every digit. -/
def durationText (d : Span) : String :=
  let number :=
    if d.nanos = 0 then (toString d.seconds).toList
    else match spanNumber? d with
      | some m => m.layout .positional
      | none => []
  String.ofList (number ++ ['s'])

/-- The form in which a value is sent. -/
def Value.toJson : Value → Json
  | .string s => .str s
  | .int i => .int i.toInt
  | .bool b => .str (if b then "true" else "false")
  | .timestamp t => .str (String.ofList t.text)
  | .duration d => .str (durationText d)

/-- The kind of parameter that a value is for. -/
def Value.kind : Value → Schema.ParameterKind
  | .string _ => .string
  | .int _ => .int
  | .bool _ => .bool
  | .timestamp _ => .timestamp
  | .duration _ => .duration

end Rebac.Condition
