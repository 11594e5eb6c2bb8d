import Rebac.Json.Shape

/-!
# How a text is taken apart

The readers of JSON text carry fuel. `Reads` says what the strict reader does without it: which part
of a value a text begins with, and what is left. The fuel that the readers start with is enough, and
a value that is skipped ends where the strict reader ends it.
-/

namespace Rebac.Json

open Text (hexDigit?)

/-! ## Spaces -/

@[simp] theorem skipSpace_skipSpace (cs : List Char) : skipSpace (skipSpace cs) = skipSpace cs := by
  induction cs with
  | nil => rfl
  | cons c rest ih =>
    simp only [skipSpace] at ih ⊢
    cases space : isSpace c <;> simp [space, ih]

theorem length_skipSpace_le (cs : List Char) : (skipSpace cs).length ≤ cs.length :=
  (List.dropWhile_suffix isSpace).length_le

theorem length_lt_of_skipSpace {cs rest : List Char} {c : Char} (h : skipSpace cs = c :: rest) :
    rest.length < cs.length := by
  have := length_skipSpace_le cs
  rw [h] at this
  exact this

/-! ## Strings -/

theorem readUnit_ok {cs : List Char} {n : Nat} (h : readUnit cs = .ok n) :
    ∃ a b c d rest, cs = a :: b :: c :: d :: rest ∧
      [a, b, c, d].all (fun c => (hexDigit? c).isSome) = true := by
  simp only [readUnit] at h
  split at h
  · next m hm =>
    split at h
    · next four =>
      match cs with
      | a :: b :: c :: d :: rest =>
        refine ⟨a, b, c, d, rest, rfl, ?_⟩
        simp only [List.take_succ_cons, List.take_zero, Text.readNat?] at hm
        cases ha : hexDigit? a <;> cases hb : hexDigit? b <;> cases hc : hexDigit? c <;>
          cases hd : hexDigit? d <;> simp_all
      | [] | [_] | [_, _] | [_, _, _] => simp at four
    · cases h
  · split at h <;> cases h

theorem readSecondUnit_ok {n : Nat} {cs : List Char} {c : Char} (h : readSecondUnit n cs = .ok c) :
    ∃ rest m, cs = '\\' :: 'u' :: rest ∧ readUnit rest = .ok m := by
  unfold readSecondUnit at h
  split at h
  · next rest =>
    cases hm : readUnit rest with
    | error e => rw [hm] at h; cases h
    | ok m => exact ⟨rest, m, rfl, hm⟩
  all_goals cases h

/-- Skipping a string goes past an escape as reading does. -/
theorem skipString_escape {cs : List Char} {c : Char} {taken : Nat}
    (h : readEscape cs = .ok (c, taken)) :
    skipString ('\\' :: cs) = skipString (cs.drop taken) := by
  unfold readEscape at h
  split at h
  · cases h
  · next rest =>
    cases hn : readUnit rest with
    | error e => rw [hn] at h; cases h
    | ok n =>
      obtain ⟨a, b, c, d, rest, rfl, digits⟩ := readUnit_ok hn
      simp only [hn, bind, Except.bind, pure, Except.pure] at h
      split at h
      · cases h
      · split at h
        · split at h
          · cases h
          · next second =>
            cases h
            obtain ⟨rest', m, after, hm⟩ := readSecondUnit_ok second
            simp only [List.drop_succ_cons, List.drop_zero] at after
            subst after
            obtain ⟨a', b', c', d', rest, rfl, digits'⟩ := readUnit_ok hm
            rw [skipString, if_pos digits, skipString, if_pos digits']
            rfl
        · cases h
          rw [skipString, if_pos digits]
          rfl
  · next c rest unicode =>
    split at h
    · next e simple =>
      cases h
      have letter : c ≠ 'u' := by
        rintro rfl
        cases simple
      rw [skipString.eq_4 _ _ (by rintro _ _ _ _ _ rfl; exact absurd rfl letter), simple]
      rfl
    · cases h

/-- A string that is read is also skipped, to the same place. -/
theorem skipString_of_readString {acc cs rest : List Char} {s : String}
    (h : readString acc cs = .ok (s, rest)) :
    skipString cs = some rest ∧ rest.length < cs.length := by
  fun_induction readString acc cs with
  | case1 => cases h
  | case2 => cases h; exact ⟨by rw [skipString], by simp⟩
  | case3 acc cs c taken escape ih =>
    obtain ⟨skipped, shorter⟩ := ih h
    rw [skipString_escape escape]
    refine ⟨skipped, ?_⟩
    simp only [List.length_drop, List.length_cons] at shorter ⊢
    omega
  | case4 => cases h
  | case5 => cases h
  | case6 acc c rest' quote backslash plain ih =>
    obtain ⟨skipped, shorter⟩ := ih h
    refine ⟨?_, by simpa using Nat.lt_succ_of_lt shorter⟩
    rw [skipString] <;> simp_all

/-! ## Numbers -/

theorem length_takeDigits (cs : List Char) :
    (takeDigits cs).2.length + (takeDigits cs).1.length = cs.length := by
  fun_induction takeDigits cs <;> simp_all
  omega

theorem takeSomeDigits_shorter {cs left : List Char} {ds : List Nat}
    (h : takeSomeDigits cs = .ok (ds, left)) : left.length < cs.length := by
  have total := length_takeDigits cs
  unfold takeSomeDigits at h
  split at h
  · cases h
  · next some =>
    rw [Except.ok.inj h] at total some
    cases ds with
    | nil => exact absurd rfl (some left)
    | cons d ds =>
      simp only [List.length_cons] at total
      omega

theorem takeWhole_shorter {cs left : List Char} {ds : List Nat}
    (h : takeWhole cs = .ok (ds, left)) : left.length < cs.length := by
  unfold takeWhole at h
  split at h
  · split at h
    · cases h
    · cases h
      simp
  · exact takeSomeDigits_shorter h

theorem takeFraction_le {cs left : List Char} {ds : Option (List Nat)}
    (h : takeFraction cs = .ok (ds, left)) : left.length ≤ cs.length := by
  unfold takeFraction at h
  split at h
  · next rest =>
    cases digits : takeSomeDigits rest with
    | error e => rw [digits] at h; cases h
    | ok found =>
      rw [digits] at h
      cases h
      exact Nat.le_succ_of_le (Nat.le_of_lt (takeSomeDigits_shorter digits))
  · cases h
    exact Nat.le_refl _

theorem takeExponent_le {cs : List Char} {e : Exponent} (h : takeExponent cs = .ok (some e)) :
    e.left.length ≤ cs.length := by
  unfold takeExponent at h
  split at h
  · next c rest =>
    split at h
    · have sign : (takeSign rest).2.length ≤ rest.length := by
        unfold takeSign
        split <;> simp
      cases digits : takeSomeDigits (takeSign rest).2 with
      | error e => simp [digits, Except.map] at h
      | ok found =>
        simp only [digits, Except.map, Except.ok.injEq, Option.some.injEq] at h
        have := @takeSomeDigits_shorter _ found.2 found.1 digits
        rw [← h]
        simp only [List.length_cons]
        omega
    · cases h
  · cases h

theorem readNumeral_shorter {negative : Bool} {cs left seen : List Char} {n : Numeral}
    (h : readNumeral negative cs = .ok (n, left, seen)) : left.length < cs.length := by
  simp only [readNumeral, bind, Except.bind, pure, Except.pure] at h
  split at h
  · cases h
  · next whole =>
    split at h
    · cases h
    · next fraction =>
      have := takeWhole_shorter whole
      have := takeFraction_le fraction
      split at h
      · cases h
      · next exponent =>
        split at h
        · cases h
          have := takeExponent_le exponent
          omega
        · cases h
          omega

/-- Whether a value holds no other value. -/
def isScalar : Json → Bool
  | .arr _ | .obj _ => false
  | _ => true

theorem scaled?_isScalar {negative : Bool} {digits : Nat} {exponent : Int} {j : Json}
    (h : scaled? negative digits exponent = some j) : j.isScalar = true := by
  simp only [scaled?, Option.bind_eq_bind, Option.bind_eq_some_iff, Option.pure_def,
    Option.some.injEq] at h
  obtain ⟨_, _, _, _, rfl⟩ := h
  rfl

theorem value?_isScalar {n : Numeral} {j : Json} (h : n.value? = some j) :
    j.isScalar = true := by
  unfold Numeral.value? at h
  simp only at h
  split at h
  · split at h
    · exact scaled?_isScalar h
    · split at h
      · cases h
        rfl
      · split at h
        · exact scaled?_isScalar h
        · cases h
          rfl
  · exact scaled?_isScalar h

/-- A number that is read is a scalar, uses up some of the text, and ends where its numeral does. -/
theorem readNumber_ok {negative : Bool} {cs rest : List Char} {j : Json}
    (h : readNumber negative cs = .ok (j, rest)) :
    j.isScalar = true ∧ rest.length < cs.length ∧
      (readNumeral negative cs).toOption.map (·.2.1) = some rest := by
  simp only [readNumber, bind, Except.bind, pure, Except.pure] at h
  split at h
  · cases h
  · next numeral =>
    split at h
    · next value =>
      cases h
      exact ⟨value?_isScalar value, readNumeral_shorter numeral, by rw [numeral]; rfl⟩
    · cases h

/-! ## Values that hold no other value -/

theorem readWord_le {word cs rest : List Char} (h : readWord word cs = .ok rest) :
    rest.length ≤ cs.length := by
  fun_induction readWord word cs with
  | case1 => cases h; exact Nat.le_refl _
  | case2 => cases h
  | case3 w word rest' ih => exact Nat.le_succ_of_le (ih h)
  | case4 => cases h

theorem map_readWord_ok {word cs rest : List Char} {v j : Json}
    (h : (readWord word cs).map (v, ·) = .ok (j, rest)) :
    j = v ∧ readWord word cs = .ok rest ∧ rest.length ≤ cs.length := by
  cases found : readWord word cs with
  | error e => rw [found] at h; cases h
  | ok left =>
    rw [found] at h
    cases h
    exact ⟨rfl, rfl, readWord_le found⟩

/-- A value that holds no other value, at the front of a text. -/
structure ScalarAt (j : Json) (cs rest : List Char) : Prop where
  scalar : j.isScalar = true
  shorter : rest.length < cs.length
  read : ∀ fuel depth, readValue (fuel + 1) depth cs = .ok (j, rest)
  skipped : ∃ c after, skipSpace cs = c :: after ∧ c ≠ '[' ∧ c ≠ '\x7b' ∧
    skipAtom (c :: after) = some rest

theorem ScalarAt.ofWord {w cs after rest : List Char} {c : Char} {v : Json}
    (front : skipSpace cs = c :: after) (found : readWord w after = .ok rest)
    (scalar : v.isScalar = true) (list : c ≠ '[') (object : c ≠ '\x7b')
    (skip : skipAtom (c :: after) = (readWord w after).toOption)
    (read : ∀ fuel depth, readValue (fuel + 1) depth cs = (readWord w after).map (v, ·)) :
    ScalarAt v cs rest where
  scalar := scalar
  shorter := Nat.lt_of_le_of_lt (readWord_le found) (length_lt_of_skipSpace front)
  read fuel depth := by rw [read, found]; rfl
  skipped := ⟨c, after, front, list, object, by rw [skip, found]; rfl⟩

theorem ScalarAt.ofNumber {negative : Bool} {cs left after rest : List Char} {c : Char} {j : Json}
    (front : skipSpace cs = c :: after) (found : readNumber negative left = .ok (j, rest))
    (bound : left.length ≤ cs.length) (list : c ≠ '[') (object : c ≠ '\x7b')
    (skip : skipAtom (c :: after) = (readNumeral negative left).toOption.map (·.2.1))
    (read : ∀ fuel depth, readValue (fuel + 1) depth cs = readNumber negative left) :
    ScalarAt j cs rest := by
  obtain ⟨scalar, shorter, skipped⟩ := readNumber_ok found
  exact ⟨scalar, Nat.lt_of_lt_of_le shorter bound, fun fuel depth => by rw [read, found],
    c, after, front, list, object, skip.trans skipped⟩

/-- Without fuel for more and without a level to open, the reader reads no other values. -/
theorem scalarAt_of_readValue {j : Json} {cs rest : List Char}
    (h : readValue 1 0 cs = .ok (j, rest)) : ScalarAt j cs rest := by
  rw [readValue] at h
  split at h
  · cases h
  -- the three words
  iterate 3
    next after front =>
      obtain ⟨rfl, found, -⟩ := map_readWord_ok h
      exact .ofWord front found rfl (by decide) (by decide) rfl
        fun _ _ => by simp only [readValue, front]
  · next after front =>
    cases found : readString [] after with
    | error e => rw [found] at h; cases h
    | ok string =>
      rw [found] at h
      cases h
      obtain ⟨skipped, shorter⟩ := skipString_of_readString found
      exact ⟨rfl, Nat.lt_trans shorter (length_lt_of_skipSpace front),
        fun _ _ => by simp only [readValue, front, found]; rfl,
        _, after, front, by decide, by decide, skipped⟩
  · cases h
  · cases h
  · next after front =>
    exact .ofNumber front h (Nat.le_of_lt (length_lt_of_skipSpace front)) (by decide) (by decide)
      rfl fun _ _ => by simp only [readValue, front]
  · next c after n t f quote list object minus front =>
    split at h
    · next digit =>
      refine .ofNumber front h (front ▸ length_skipSpace_le cs) ?_ ?_ ?_ fun _ _ => ?_
      · rintro rfl; exact list rfl
      · rintro rfl; exact object rfl
      · rw [skipAtom] <;> intros <;> simp_all
      · simp only [readValue, front, digit, if_true]
    · cases h

/-! ## Readings -/

/-- The name of a member and its colon, in front of `rest`. -/
def NameAt (name : String) (cs rest : List Char) : Prop :=
  ∃ quoted after, skipSpace cs = '"' :: quoted ∧ readString [] quoted = .ok (name, after) ∧
    skipSpace after = ':' :: rest

/-- What stands at the front of a text: a value, or the items or members of a collection up to the
bracket that closes it. -/
inductive Part where
  | value (j : Json)
  | items (js : List Json)
  | members (ms : List (String × Json))

/-- `Reads depth part cs rest`: the strict reader finds `part` at the front of `cs`, with `rest`
behind it, and opens at most `depth` levels. -/
inductive Reads : Nat → Part → List Char → List Char → Prop where
  | scalar {depth : Nat} {j : Json} {cs rest : List Char} (found : ScalarAt j cs rest) :
    Reads depth (.value j) cs rest
  | noItems {depth : Nat} {cs after rest : List Char} (front : skipSpace cs = '[' :: after)
      (close : skipSpace after = ']' :: rest) : Reads (depth + 1) (.value (.arr [])) cs rest
  | list {depth : Nat} {cs after rest : List Char} {js : List Json}
      (front : skipSpace cs = '[' :: after) (items : Reads depth (.items js) after rest) :
    Reads (depth + 1) (.value (.arr js)) cs rest
  | noMembers {depth : Nat} {cs after rest : List Char} (front : skipSpace cs = '\x7b' :: after)
      (close : skipSpace after = '\x7d' :: rest) : Reads (depth + 1) (.value (.obj [])) cs rest
  | object {depth : Nat} {cs after rest : List Char} {ms : List (String × Json)}
      (front : skipSpace cs = '\x7b' :: after) (members : Reads depth (.members ms) after rest) :
    Reads (depth + 1) (.value (.obj ms)) cs rest
  | lastItem {depth : Nat} {cs mid rest : List Char} {j : Json}
      (value : Reads depth (.value j) cs mid) (close : skipSpace mid = ']' :: rest) :
    Reads depth (.items [j]) cs rest
  | item {depth : Nat} {cs mid after rest : List Char} {j : Json} {js : List Json}
      (value : Reads depth (.value j) cs mid) (comma : skipSpace mid = ',' :: after)
      (later : Reads depth (.items js) after rest) : Reads depth (.items (j :: js)) cs rest
  | lastMember {depth : Nat} {name : String} {cs colon mid rest : List Char} {j : Json}
      (named : NameAt name cs colon) (value : Reads depth (.value j) colon mid)
      (close : skipSpace mid = '\x7d' :: rest) : Reads depth (.members [(name, j)]) cs rest
  | member {depth : Nat} {name : String} {cs colon mid after rest : List Char} {j : Json}
      {ms : List (String × Json)} (named : NameAt name cs colon)
      (value : Reads depth (.value j) colon mid) (comma : skipSpace mid = ',' :: after)
      (later : Reads depth (.members ms) after rest) :
    Reads depth (.members ((name, j) :: ms)) cs rest

theorem readValue_skipSpace (fuel depth : Nat) (cs : List Char) :
    readValue (fuel + 1) depth (skipSpace cs) = readValue (fuel + 1) depth cs := by
  simp only [readValue, skipSpace_skipSpace]

/-- Spaces in front have no bearing. -/
theorem Reads.ofFront {depth : Nat} {part : Part} {cs cs' rest : List Char}
    (h : Reads depth part cs rest) (same : skipSpace cs' = skipSpace cs) :
    Reads depth part cs' rest := by
  induction h with
  | scalar found =>
    refine .scalar (scalarAt_of_readValue ?_)
    rw [← readValue_skipSpace, same, readValue_skipSpace, found.read]
  | noItems front close => exact .noItems (same.trans front) close
  | list front items => exact .list (same.trans front) items
  | noMembers front close => exact .noMembers (same.trans front) close
  | object front members => exact .object (same.trans front) members
  | lastItem value close ih => exact .lastItem (ih same) close
  | item value comma later ih => exact .item (ih same) comma later
  | lastMember named value close =>
    obtain ⟨quoted, after, front, string, colon⟩ := named
    exact .lastMember ⟨quoted, after, same.trans front, string, colon⟩ value close
  | member named value comma later =>
    obtain ⟨quoted, after, front, string, colon⟩ := named
    exact .member ⟨quoted, after, same.trans front, string, colon⟩ value comma later

theorem reads_skipSpace {depth : Nat} {part : Part} {cs rest : List Char} :
    Reads depth part (skipSpace cs) rest ↔ Reads depth part cs rest :=
  ⟨fun h => h.ofFront (skipSpace_skipSpace cs).symm, fun h => h.ofFront (skipSpace_skipSpace cs)⟩

/-- With so much fuel, what the strict reader accepts is a reading. -/
structure ReaderSound (fuel : Nat) : Prop where
  value {depth : Nat} {cs rest : List Char} {j : Json}
      (read : readValue fuel depth cs = .ok (j, rest)) : Reads depth (.value j) cs rest
  items {depth : Nat} {acc : List Json} {cs rest : List Char} {j : Json}
      (read : readItems fuel depth acc cs = .ok (j, rest)) :
    ∃ js, j = .arr (acc.reverse ++ js) ∧ Reads depth (.items js) cs rest
  members {depth : Nat} {acc : List (String × Json)} {cs rest : List Char} {j : Json}
      (read : readMembers fuel depth acc cs = .ok (j, rest)) :
    ∃ ms, j = .obj (acc.reverse ++ ms) ∧ Reads depth (.members ms) cs rest
  member {depth : Nat} {cs rest : List Char} {m : String × Json}
      (read : readMember fuel depth cs = .ok (m, rest)) :
    ∃ colon, NameAt m.1 cs colon ∧ Reads depth (.value m.2) colon rest

section Sound

variable {fuel : Nat} (ih : ReaderSound fuel)
include ih

theorem ReaderSound.readValue_succ {depth : Nat} {cs rest : List Char} {j : Json}
    (h : readValue (fuel + 1) depth cs = .ok (j, rest)) : Reads depth (.value j) cs rest := by
  have scalar (alone : readValue 1 0 cs = readValue (fuel + 1) depth cs) :
      Reads depth (.value j) cs rest := .scalar (scalarAt_of_readValue (alone.trans h))
  rw [readValue] at h
  split at h
  · cases h
  -- Words and texts spend no fuel and open no level.
  iterate 4 next front => exact scalar (by simp only [readValue, front])
  · next after front =>
    split at h
    · cases h
    · next depth =>
      split at h
      · cases h
      · next close =>
        cases h
        exact .noItems front close
      · obtain ⟨js, rfl, reads⟩ := ih.items h
        exact .list front (reads_skipSpace.1 reads)
  · next after front =>
    split at h
    · cases h
    · next depth =>
      split at h
      · cases h
      · next close =>
        cases h
        exact .noMembers front close
      · obtain ⟨ms, rfl, reads⟩ := ih.members h
        exact .object front (reads_skipSpace.1 reads)
  · next front => exact scalar (by simp only [readValue, front])
  · next front => exact scalar (by simp only [readValue, front])

theorem ReaderSound.readItems_succ {depth : Nat} {acc : List Json} {cs rest : List Char} {j : Json}
    (h : readItems (fuel + 1) depth acc cs = .ok (j, rest)) :
    ∃ js, j = .arr (acc.reverse ++ js) ∧ Reads depth (.items js) cs rest := by
  rw [readItems] at h
  split at h
  · cases h
  · next item mid first =>
    have first := ih.value first
    split at h
    · cases h
    · next close =>
      cases h
      exact ⟨[item], by simp, .lastItem first close⟩
    · next after comma =>
      split at h
      · cases h
      · cases h
      · obtain ⟨js, rfl, reads⟩ := ih.items h
        exact ⟨item :: js, by simp, .item first comma (reads_skipSpace.1 reads)⟩
    · cases h

theorem ReaderSound.readMembers_succ {depth : Nat} {acc : List (String × Json)}
    {cs rest : List Char} {j : Json} (h : readMembers (fuel + 1) depth acc cs = .ok (j, rest)) :
    ∃ ms, j = .obj (acc.reverse ++ ms) ∧ Reads depth (.members ms) cs rest := by
  rw [readMembers] at h
  split at h
  · cases h
  · next m mid first =>
    obtain ⟨colon, name, first⟩ := ih.member first
    split at h
    · cases h
    · next close =>
      cases h
      exact ⟨[m], by simp, .lastMember name first close⟩
    · next after comma =>
      split at h
      · cases h
      · cases h
      · obtain ⟨ms, rfl, reads⟩ := ih.members h
        exact ⟨m :: ms, by simp, .member name first comma (reads_skipSpace.1 reads)⟩
    · cases h

theorem ReaderSound.readMember_succ {depth : Nat} {cs rest : List Char} {m : String × Json}
    (h : readMember (fuel + 1) depth cs = .ok (m, rest)) :
    ∃ colon, NameAt m.1 cs colon ∧ Reads depth (.value m.2) colon rest := by
  unfold readMember at h
  split at h
  · next quoted =>
    split at h
    · cases h
    · next name after string =>
      split at h
      · cases h
      · next colon found =>
        cases read : readValue fuel depth colon with
        | error e =>
          rw [read] at h
          cases h
        | ok answer =>
          rw [read] at h
          cases h
          have front : skipSpace ('"' :: quoted) = '"' :: quoted := by
            rw [skipSpace]
            simp [isSpace]
          exact ⟨colon, ⟨quoted, after, front, string, found⟩, ih.value read⟩
      · cases h
  · cases h

end Sound

/-- By induction on the fuel, each reader from the ones with less. -/
theorem readerSound (fuel : Nat) : ReaderSound fuel := by
  induction fuel with
  | zero => constructor <;> simp [readValue, readItems, readMembers, readMember]
  | succ fuel ih =>
    exact ⟨ih.readValue_succ, ih.readItems_succ, ih.readMembers_succ, ih.readMember_succ⟩

theorem NameAt.shorter {name : String} {cs rest : List Char} (h : NameAt name cs rest) :
    rest.length + 2 < cs.length := by
  obtain ⟨quoted, after, front, string, colon⟩ := h
  have := length_lt_of_skipSpace front
  have := (skipString_of_readString string).2
  have := length_lt_of_skipSpace colon
  omega

/-- Every part takes at least one character. So fuel as long as the text is enough. -/
theorem Reads.shorter {depth : Nat} {part : Part} {cs rest : List Char}
    (h : Reads depth part cs rest) : rest.length < cs.length := by
  induction h with
  | scalar found => exact found.shorter
  | noItems front close | noMembers front close =>
    exact Nat.lt_trans (length_lt_of_skipSpace close) (length_lt_of_skipSpace front)
  | list front _ ih | object front _ ih => exact Nat.lt_trans ih (length_lt_of_skipSpace front)
  | lastItem _ close ih => exact Nat.lt_trans (length_lt_of_skipSpace close) ih
  | item _ comma _ first later =>
    exact Nat.lt_trans later (Nat.lt_trans (length_lt_of_skipSpace comma) first)
  | lastMember named _ close ih =>
    have := named.shorter
    have := length_lt_of_skipSpace close
    omega
  | member named _ comma _ first later =>
    have := named.shorter
    have := length_lt_of_skipSpace comma
    omega

theorem skipAtom_close (rest : List Char) : skipAtom (']' :: rest) = none := rfl

/-- A value does not begin with the bracket that closes a list. -/
theorem Reads.front {depth : Nat} {j : Json} {cs rest : List Char}
    (h : Reads depth (.value j) cs rest) : ∃ c after, skipSpace cs = c :: after ∧ c ≠ ']' := by
  cases h with
  | scalar found =>
    obtain ⟨c, after, front, -, -, skipped⟩ := found.skipped
    refine ⟨c, after, front, ?_⟩
    rintro rfl
    rw [skipAtom_close] at skipped
    cases skipped
  | noItems front | list front | noMembers front | object front =>
    exact ⟨_, _, front, by decide⟩

theorem Reads.front_items {depth : Nat} {js : List Json} {cs rest : List Char}
    (h : Reads depth (.items js) cs rest) : ∃ c after, skipSpace cs = c :: after ∧ c ≠ ']' := by
  cases h with
  | lastItem value _ | item value _ _ => exact value.front

theorem Reads.front_members {depth : Nat} {ms : List (String × Json)} {cs rest : List Char}
    (h : Reads depth (.members ms) cs rest) : ∃ after, skipSpace cs = '"' :: after := by
  cases h with
  | lastMember named _ _ | member named _ _ _ =>
    obtain ⟨quoted, _, front, _⟩ := named
    exact ⟨quoted, front⟩

/-! ## Fuel -/

/-- The strict reader, given `fuel`, finds a part. -/
def Part.ReadBy (fuel depth : Nat) (cs rest : List Char) : Part → Prop
  | .value j => readValue fuel depth cs = .ok (j, rest)
  | .items js => ∀ acc,
    readItems fuel depth acc (skipSpace cs) = .ok (.arr (acc.reverse ++ js), rest)
  | .members ms => ∀ acc,
    readMembers fuel depth acc (skipSpace cs) = .ok (.obj (acc.reverse ++ ms), rest)

theorem NameAt.readMember {name : String} {cs colon mid : List Char} {j : Json} {fuel depth : Nat}
    (named : NameAt name cs colon) (value : readValue fuel depth colon = .ok (j, mid)) :
    readMember (fuel + 1) depth (skipSpace cs) = .ok ((name, j), mid) := by
  obtain ⟨quoted, after, front, string, found⟩ := named
  simp only [Json.readMember, front, string, found, value]
  rfl

/-- Three units of fuel for each character of a reading are enough. -/
theorem Reads.read {depth : Nat} {part : Part} {cs rest : List Char}
    (h : Reads depth part cs rest) {fuel : Nat} (enough : 3 * cs.length ≤ fuel + 3 * rest.length) :
    part.ReadBy fuel depth cs rest := by
  induction h generalizing fuel with
  | scalar found =>
    have := found.shorter
    obtain ⟨fuel, rfl⟩ : ∃ n, fuel = n + 1 := ⟨fuel - 1, by omega⟩
    exact found.read fuel _
  | noItems front close | noMembers front close =>
    have := length_lt_of_skipSpace front
    have := length_lt_of_skipSpace close
    obtain ⟨fuel, rfl⟩ : ∃ n, fuel = n + 1 := ⟨fuel - 1, by omega⟩
    simp only [Part.ReadBy, readValue, front, close]
  | list front items ih =>
    have := length_lt_of_skipSpace front
    have := items.shorter
    obtain ⟨fuel, rfl⟩ : ∃ n, fuel = n + 1 := ⟨fuel - 1, by omega⟩
    obtain ⟨c, after, first, notClose⟩ := items.front_items
    have read := @ih fuel (by omega) []
    simp only [Part.ReadBy, readValue, front]
    rw [first] at read ⊢
    split
    · cases ‹_ = []›
    · next h => exact absurd (List.cons.inj h).1 notClose
    · exact read
  | object front members ih =>
    have := length_lt_of_skipSpace front
    have := members.shorter
    obtain ⟨fuel, rfl⟩ : ∃ n, fuel = n + 1 := ⟨fuel - 1, by omega⟩
    obtain ⟨after, first⟩ := members.front_members
    have read := @ih fuel (by omega) []
    simp only [Part.ReadBy, readValue, front]
    rw [first] at read ⊢
    exact read
  | lastItem value close ih =>
    have := value.shorter
    have := length_lt_of_skipSpace close
    obtain ⟨fuel, rfl⟩ : ∃ n, fuel = n + 2 := ⟨fuel - 2, by omega⟩
    have read := @ih (fuel + 1) (by omega)
    intro acc
    rw [readItems, readValue_skipSpace, read]
    simp [close]
  | @item _ _ _ _ _ j _ value comma later first ih =>
    have := value.shorter
    have := later.shorter
    have := length_lt_of_skipSpace comma
    obtain ⟨fuel, rfl⟩ : ∃ n, fuel = n + 2 := ⟨fuel - 2, by omega⟩
    have read := @first (fuel + 1) (by omega)
    intro acc
    rw [readItems, readValue_skipSpace, read]
    simp only [comma]
    obtain ⟨c, after, front, notClose⟩ := later.front_items
    have behind := @ih (fuel + 1) (by omega) (j :: acc)
    rw [front] at behind ⊢
    split
    · cases ‹_ = []›
    · next h => exact absurd (List.cons.inj h).1 notClose
    · simpa using behind
  | lastMember named value close ih =>
    have := named.shorter
    have := value.shorter
    have := length_lt_of_skipSpace close
    obtain ⟨fuel, rfl⟩ : ∃ n, fuel = n + 2 := ⟨fuel - 2, by omega⟩
    have read := named.readMember (@ih fuel (by omega))
    intro acc
    rw [readMembers, read]
    simp [close]
  | @member _ name _ _ _ _ _ j _ named value comma later first ih =>
    have := named.shorter
    have := value.shorter
    have := later.shorter
    have := length_lt_of_skipSpace comma
    obtain ⟨fuel, rfl⟩ : ∃ n, fuel = n + 2 := ⟨fuel - 2, by omega⟩
    have read := named.readMember (@first fuel (by omega))
    intro acc
    rw [readMembers, read]
    simp only [comma]
    obtain ⟨after, front⟩ := later.front_members
    have behind := @ih (fuel + 1) (by omega) ((name, j) :: acc)
    rw [front] at behind ⊢
    simpa using behind

/-! ## Skipping -/

theorem skipFrom_skipSpace (fuel : Nat) (around : List Bracket) (cs : List Char) :
    skipFrom (fuel + 1) around (skipSpace cs) = skipFrom (fuel + 1) around cs := by
  simp only [skipFrom, skipSpace_skipSpace]

theorem skipName_skipSpace (cs : List Char) : skipName (skipSpace cs) = skipName cs := by
  simp only [skipName, skipSpace_skipSpace]

/-- What the strict reader takes for a name, the lenient one skips as a name, to the same place. -/
theorem NameAt.skipName {name : String} {cs colon : List Char} (named : NameAt name cs colon) :
    skipName cs = some colon := by
  obtain ⟨quoted, after, front, string, found⟩ := named
  simp only [Json.skipName, front, (skipString_of_readString string).1]
  simp [found]

/-- Skipping goes past a part in so many steps. -/
def Part.SkippedIn (steps : Nat) (cs rest : List Char) : Part → Prop
  | .value _ => ∀ fuel around, skipFrom (fuel + steps) around cs = skipRest fuel around rest
  | .items _ => ∀ fuel around,
    skipFrom (fuel + steps) (.list :: around) cs = skipRest fuel around rest
  | .members _ => ∀ fuel around,
    (skipName cs).bind (skipFrom (fuel + steps) (.object :: around)) = skipRest fuel around rest

/-- A part is skipped in at most two steps for each of its characters. -/
theorem Reads.skipped {depth : Nat} {part : Part} {cs rest : List Char}
    (h : Reads depth part cs rest) :
    ∃ steps, 0 < steps ∧ steps + 2 * rest.length ≤ 2 * cs.length ∧
      part.SkippedIn steps cs rest := by
  induction h with
  | scalar found =>
    have := found.shorter
    refine ⟨1, by omega, by omega, fun fuel around => ?_⟩
    obtain ⟨c, after, front, list, object, skipped⟩ := found.skipped
    rw [skipFrom, front]
    split
    · next h => exact absurd (List.cons.inj h).1 list
    · next h => exact absurd (List.cons.inj h).1 object
    · rw [skipped]
      rfl
  | noItems front close | noMembers front close =>
    have := length_lt_of_skipSpace front
    have := length_lt_of_skipSpace close
    refine ⟨1, by omega, by omega, fun fuel around => ?_⟩
    simp only [skipFrom, front, close]
  | list front items ih =>
    have := length_lt_of_skipSpace front
    obtain ⟨steps, pos, few, skip⟩ := ih
    obtain ⟨steps, rfl⟩ : ∃ n, steps = n + 1 := ⟨steps - 1, by omega⟩
    refine ⟨steps + 2, by omega, by omega, fun fuel around => ?_⟩
    obtain ⟨c, after, first, notClose⟩ := items.front_items
    have inside := skip fuel around
    rw [← Nat.add_assoc, ← skipFrom_skipSpace, first] at inside
    rw [← Nat.add_assoc, skipFrom, front]
    simp only [first]
    split
    · next h => exact absurd (List.cons.inj h).1 notClose
    · exact inside
  | object front members ih =>
    have := length_lt_of_skipSpace front
    obtain ⟨steps, pos, few, skip⟩ := ih
    refine ⟨steps + 1, by omega, by omega, fun fuel around => ?_⟩
    obtain ⟨after, first⟩ := members.front_members
    have inside := skip fuel around
    rw [← skipName_skipSpace, first] at inside
    rw [← Nat.add_assoc, skipFrom, front]
    simp only [first]
    exact inside
  | lastItem value close ih =>
    have := length_lt_of_skipSpace close
    obtain ⟨steps, pos, few, skip⟩ := ih
    refine ⟨1 + steps, by omega, by omega, fun fuel around => ?_⟩
    rw [← Nat.add_assoc, skip]
    simp only [skipRest, close]
  | item value comma later first ih =>
    have := length_lt_of_skipSpace comma
    obtain ⟨steps, pos, few, skip⟩ := first
    obtain ⟨steps', pos', few', skip'⟩ := ih
    refine ⟨steps' + 1 + steps, by omega, by omega, fun fuel around => ?_⟩
    rw [← Nat.add_assoc, ← Nat.add_assoc, skip]
    simp only [skipRest, comma]
    exact skip' fuel around
  | lastMember named value close ih =>
    have := named.shorter
    have := length_lt_of_skipSpace close
    obtain ⟨steps, pos, few, skip⟩ := ih
    refine ⟨1 + steps, by omega, by omega, fun fuel around => ?_⟩
    rw [named.skipName, Option.bind_some, ← Nat.add_assoc, skip]
    simp only [skipRest, close]
  | member named value comma later first ih =>
    have := named.shorter
    have := length_lt_of_skipSpace comma
    obtain ⟨steps, pos, few, skip⟩ := first
    obtain ⟨steps', pos', few', skip'⟩ := ih
    refine ⟨steps' + 1 + steps, by omega, by omega, fun fuel around => ?_⟩
    rw [named.skipName, Option.bind_some, ← Nat.add_assoc, ← Nat.add_assoc, skip]
    simp only [skipRest, comma]
    exact skip' fuel around

/-- A value that the strict reader reads can be skipped. -/
theorem Reads.skipValue {depth : Nat} {j : Json} {cs rest : List Char}
    (h : Reads depth (.value j) cs rest) : skipValue cs = some rest := by
  obtain ⟨steps, pos, few, skip⟩ := h.skipped
  obtain ⟨fuel, enough⟩ : ∃ n, 2 * cs.length + 2 = n + 1 + steps :=
    ⟨2 * cs.length + 1 - steps, by omega⟩
  rw [Json.skipValue, enough, skip]
  rfl

end Rebac.Json
