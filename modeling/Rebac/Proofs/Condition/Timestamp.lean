import Rebac.Condition.Value
import Rebac.Proofs.Calendar.Wire

/-!
# Instants as values

The form in which an instant is sent tells it to the millisecond, but for leap seconds that do not
end a minute.
-/

namespace Rebac.Condition

open Calendar (Instant)

theorem toJson_timestamp {t : Instant} {s : String} (text : t.text = s.toList) :
    (Value.timestamp t).toJson = .str s := by
  rw [Value.toJson, text, String.ofList_toList]

/-- An instant that is sent is read back to the millisecond, unless it is in a leap second that does
not end a minute. Such an instant is sent as the one in the next second, and is read back as that
one. So instants that are sent in one form agree on second and millisecond, where both are regular.
While years have four digits, a regular instant has no greater form than any later instant. -/
theorem timestamp_read_back :
    (∀ t, ∃ s, (Value.timestamp t).toJson = .str s ∧
      (t.IsRegular → Instant.ofText? s.toList = some t.truncated) ∧
      (¬ t.IsRegular → ∃ next : Instant, next.seconds = t.seconds + 1 ∧
        next.nanos + 1000000000 = t.nanos ∧ (Value.timestamp next).toJson = .str s ∧
        Instant.ofText? s.toList = some next.truncated)) ∧
    (∀ t t', t.IsRegular → t'.IsRegular →
      (Value.timestamp t).toJson = (Value.timestamp t').toJson →
      t.seconds = t'.seconds ∧ t.nanos / 1000000 = t'.nanos / 1000000) ∧
    (∀ t t' s s', t.IsRegular → 0 ≤ t.date.year ∧ t.date.year ≤ 9999 →
      0 ≤ t'.date.year ∧ t'.date.year ≤ 9999 →
      (Value.timestamp t).toJson = .str s → (Value.timestamp t').toJson = .str s' →
      t.Before t' → ¬ s' < s) := by
  refine ⟨fun t => ⟨_, rfl, ?regular, ?leap⟩, ?apart, ?ordered⟩
  case regular =>
    intro regular
    rw [String.toList_ofList]
    exact Instant.ofText?_of_isRegular regular
  case leap =>
    intro leap
    obtain ⟨seconds, nanos⟩ := Instant.settled_of_leap leap
    refine ⟨t.settled, seconds, nanos, ?_, ?_⟩
    · rw [Value.toJson, Instant.text_settled]
    · rw [String.toList_ofList]
      exact t.ofText?_text
  case apart =>
    intro t t' regular regular' same
    have text : t.text = t'.text := String.ofList_injective (Json.str.inj same)
    have read := Instant.ofText?_of_isRegular regular
    rw [text, Instant.ofText?_of_isRegular regular'] at read
    have truncated := Option.some.inj read
    have seconds := congrArg Instant.seconds truncated
    have nanos := congrArg Instant.nanos truncated
    simp only [Instant.truncated] at seconds nanos
    exact ⟨seconds.symm, by omega⟩
  case ordered =>
    intro t t' s s' regular year year' sent sent' before
    obtain rfl := Json.str.inj sent
    obtain rfl := Json.str.inj sent'
    rw [String.lt_iff, String.toList_ofList, String.toList_ofList]
    exact Instant.not_text_lt_text regular year year' before

/-- The leap second at the end of 2016 is the second 60 of its minute. It comes before the year
2017, in time and in its form, and its form does not tell a microsecond. -/
theorem timestamp_read_back_leap_second :
    let leap : Instant := ⟨1483228799, 1500000000, by decide⟩
    let finer : Instant := ⟨1483228799, 1500999999, by decide⟩
    let next : Instant := ⟨1483228800, 0, by decide⟩
    (Value.timestamp leap).toJson = .str "2016-12-31T23:59:60.500Z" ∧
    (Value.timestamp next).toJson = .str "2017-01-01T00:00:00.000Z" ∧ leap.Before next ∧
    ¬ "2017-01-01T00:00:00.000Z" < "2016-12-31T23:59:60.500Z" ∧
    (Value.timestamp finer).toJson = .str "2016-12-31T23:59:60.500Z" ∧
    leap.nanos / 1000000 = finer.nanos / 1000000 := by
  intro leap finer next
  have sent : (Value.timestamp leap).toJson = .str "2016-12-31T23:59:60.500Z" :=
    toJson_timestamp (by decide +kernel)
  have sent' : (Value.timestamp next).toJson = .str "2017-01-01T00:00:00.000Z" :=
    toJson_timestamp (by decide +kernel)
  have same : (Value.timestamp finer).toJson = .str "2016-12-31T23:59:60.500Z" :=
    toJson_timestamp (by decide +kernel)
  have before : leap.Before next := .inl (by decide)
  have regular : leap.IsRegular ∧ finer.IsRegular := by decide
  exact ⟨sent, sent', before,
    timestamp_read_back.2.2 leap next _ _ regular.1 (by decide) (by decide) sent sent' before, same,
    (timestamp_read_back.2.1 leap finer regular.1 regular.2 (sent.trans same.symm)).2⟩

/-- A leap second after second 4 of its minute has the form of an instant of second 5. So its form
is read back as another second, is shared by two instants that are not in one second, and is greater
than that of the beginning of second 5, which is later. -/
theorem timestamp_shared_by_leap_second :
    let leap : Instant := ⟨86164, 1333333333, by decide⟩
    let later : Instant := ⟨86165, 333333333, by decide⟩
    let next : Instant := ⟨86165, 0, by decide⟩
    (Value.timestamp leap).toJson = .str "1970-01-01T23:56:05.333Z" ∧
    (Value.timestamp later).toJson = .str "1970-01-01T23:56:05.333Z" ∧
    leap.seconds ≠ later.seconds ∧
    Instant.ofText? "1970-01-01T23:56:05.333Z".toList = some later.truncated ∧
    later.truncated ≠ leap.truncated ∧
    (Value.timestamp next).toJson = .str "1970-01-01T23:56:05.000Z" ∧ leap.Before next ∧
    "1970-01-01T23:56:05.000Z" < "1970-01-01T23:56:05.333Z" := by
  intro leap later next
  have sent : (Value.timestamp leap).toJson = .str "1970-01-01T23:56:05.333Z" :=
    toJson_timestamp (by decide +kernel)
  have shared : (Value.timestamp later).toJson = .str "1970-01-01T23:56:05.333Z" :=
    toJson_timestamp (by decide +kernel)
  have sent' : (Value.timestamp next).toJson = .str "1970-01-01T23:56:05.000Z" :=
    toJson_timestamp (by decide +kernel)
  have read : Instant.ofText? "1970-01-01T23:56:05.333Z".toList = some later.truncated := by
    decide +kernel
  exact ⟨sent, shared, by decide, read, by decide, sent', .inl (by decide), by decide⟩

end Rebac.Condition
