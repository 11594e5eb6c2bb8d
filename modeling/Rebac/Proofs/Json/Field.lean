import Mathlib.Data.List.Forall2
import Rebac.Proofs.Json.Typed
import Rebac.Proofs.Keyed

/-!
# The fields of a document

What a document gives for the fields of a record, said of the document alone, and what a typed
reading makes of it.
-/

namespace Rebac.Json

/-- The values a record gives for a field: by name, or in an array by place. -/
def given (j : Json) (place : Nat) (name : String) : List Json :=
  match j with
  | .obj members => (members.filter (·.1 = name)).map (·.2)
  | .arr items => items[place]?.toList
  | _ => []

/-- Whether a value is a record with fields of these names: an object gives each of them once at
most, and an array no more values than there are fields. -/
def isRecord (names : List String) (j : Json) : Bool :=
  match j with
  | .obj _ => names.all fun name => (j.given 0 name).length ≤ 1
  | .arr items => items.length ≤ names.length
  | _ => false

theorem given_obj_cons (n name : String) (j : Json) (ms : List (String × Json)) (place : Nat) :
    given (.obj ((n, j) :: ms)) place name =
      if n = name then j :: given (.obj ms) place name else given (.obj ms) place name := by
  by_cases same : n = name <;> simp [given, same]

/-- What a typed record holds for a field: nothing when the document gives none, and else what the
field's shape asks for of the one value given. -/
def Field (given : List Json) (shape : Shape) (held : Option Json) : Prop :=
  (given = [] ∧ held = none) ∨
    ∃ j v, given = [j] ∧ Shape.restrict? j shape = some v ∧ held = some v

namespace Shape

variable {fields : List (String × Shape)}

/-! ## Fields by name -/

theorem add?_record {n : String} {value : Json} {acc acc' : List (String × Json)}
    (h : add? (.record fields) n value acc = some acc') :
    (Keyed.find? fields n = none ∧ acc' = acc) ∨
      ((Keyed.find? fields n).isSome ∧ Keyed.find? acc n = none ∧ acc' = (n, value) :: acc) := by
  simp only [add?] at h
  split at h
  · next unknown => exact .inl ⟨Option.isNone_iff_eq_none.1 unknown, (Option.some.inj h).symm⟩
  · next known =>
    split at h
    · cases h
    · next fresh =>
      refine .inr ⟨?_, by simpa using fresh, (Option.some.inj h).symm⟩
      simpa [Option.isSome_iff_ne_none] using known

theorem restrictMembers?_cons {shape : Shape} {n : String} {j : Json}
    {ms acc acc' : List (String × Json)}
    (h : restrictMembers? ((n, j) :: ms) shape acc = some acc') :
    ∃ member value mid, shape.member? n = some member ∧ restrict? j member = some value ∧
      shape.add? n value acc = some mid ∧ restrictMembers? ms shape mid = some acc' := by
  simp only [restrictMembers?, Option.bind_eq_some_iff] at h
  obtain ⟨value, ⟨member, asked, kept⟩, mid, added, later⟩ := h
  exact ⟨member, value, mid, asked, kept, added, later⟩

/-- Each field of a record is read once at most, and read as its shape asks. -/
theorem restrictMembers?_record {ms acc acc' : List (String × Json)}
    (h : restrictMembers? ms (.record fields) acc = some acc') {name : String} {shape : Shape}
    (known : Keyed.find? fields name = some shape) :
    ((given (.obj ms) 0 name = [] ∧ Keyed.find? acc' name = Keyed.find? acc name) ∨
      ∃ j v, given (.obj ms) 0 name = [j] ∧ restrict? j shape = some v ∧
        Keyed.find? acc name = none ∧ Keyed.find? acc' name = some v) := by
  induction ms generalizing acc with
  | nil =>
    cases h
    exact .inl ⟨rfl, rfl⟩
  | cons m ms ih =>
    obtain ⟨n, j⟩ := m
    obtain ⟨member, value, mid, asked, kept, added, later⟩ := restrictMembers?_cons h
    have behind := ih later
    rw [given_obj_cons]
    by_cases same : n = name
    · subst same
      rw [if_pos rfl]
      simp only [member?, known, Option.getD_some, Option.some.injEq] at asked
      subst asked
      obtain ⟨unknown, -⟩ | ⟨-, fresh, rfl⟩ := add?_record added
      · rw [known] at unknown
        cases unknown
      · have held : Keyed.find? ((n, value) :: acc) n = some value := if_pos rfl
        obtain ⟨nothing, kept'⟩ | ⟨_, _, -, -, absent, -⟩ := behind
        · exact .inr ⟨j, value, by rw [nothing], kept, fresh, kept'.trans held⟩
        · rw [held] at absent
          cases absent
    · rw [if_neg same]
      have frame : Keyed.find? mid name = Keyed.find? acc name := by
        obtain ⟨-, rfl⟩ | ⟨-, -, rfl⟩ := add?_record added
        · rfl
        · exact if_neg same
      rwa [frame] at behind

theorem nodup_restrictMembers? {ms acc acc' : List (String × Json)}
    (h : restrictMembers? ms (.record fields) acc = some acc') (nodup : (Keyed.keys acc).Nodup) :
    (Keyed.keys acc').Nodup := by
  induction ms generalizing acc with
  | nil =>
    cases h
    exact nodup
  | cons m ms ih =>
    obtain ⟨_, _, _, -, -, added, later⟩ := restrictMembers?_cons h
    refine ih later ?_
    obtain ⟨-, rfl⟩ | ⟨-, fresh, rfl⟩ := add?_record added
    · exact nodup
    · exact List.nodup_cons.2 ⟨Keyed.find?_eq_none.1 fresh, nodup⟩

/-- An object is read when each field is given once at most and can be read. -/
theorem restrictMembers?_isSome {ms acc : List (String × Json)}
    (once : ∀ name shape, Keyed.find? fields name = some shape →
      given (.obj ms) 0 name = [] ∨
        (given (.obj ms) 0 name).length ≤ 1 ∧ Keyed.find? acc name = none)
    (readable : ∀ name shape, Keyed.find? fields name = some shape →
      ∀ j ∈ given (.obj ms) 0 name, (restrict? j shape).isSome) :
    (restrictMembers? ms (.record fields) acc).isSome := by
  induction ms generalizing acc with
  | nil => rfl
  | cons m ms ih =>
    obtain ⟨n, j⟩ := m
    have behind name shape (known : Keyed.find? fields name = some shape) :
        ∀ j ∈ given (.obj ms) 0 name, (restrict? j shape).isSome := by
      intro j member
      refine readable name shape known j ?_
      rw [given_obj_cons]
      split
      · exact List.mem_cons_of_mem _ member
      · exact member
    rw [restrictMembers?]
    cases known : Keyed.find? fields n with
    | none =>
      have skipped : restrict? j .skipped = some .null := by cases j <;> rfl
      simp only [member?, add?, known, Option.getD_none, Option.bind_some, skipped,
        Option.isNone_none, if_true]
      refine ih (fun name shape asked => ?_) behind
      have other : n ≠ name := by
        rintro rfl
        rw [known] at asked
        cases asked
      simpa [given_obj_cons, other] using once name shape asked
    | some shape =>
      obtain ⟨value, kept⟩ : ∃ v, restrict? j shape = some v :=
        Option.isSome_iff_exists.1 (readable n shape known j (by simp [given_obj_cons]))
      have first := once n shape known
      rw [given_obj_cons, if_pos rfl] at first
      obtain ⟨alone, fresh⟩ := first.resolve_left (List.cons_ne_nil _ _)
      simp only [member?, add?, known, Option.getD_some, Option.bind_some, kept, fresh,
        Option.isNone_some, Option.isSome_none, Bool.false_eq_true, if_false]
      refine ih (fun name shape' asked => ?_) behind
      by_cases same : n = name
      · subst same
        exact .inl (List.eq_nil_of_length_eq_zero (by simp only [List.length_cons] at alone; omega))
      · simpa [given_obj_cons, Keyed.find?, same] using once name shape' asked

/-! ## Fields by place -/

/-- Each item is read as the shape of its place asks. -/
theorem restrictItems?_some {shape : Shape} {js vs : List Json} {place : Nat}
    (h : restrictItems? js shape place = some vs) :
    vs.length = js.length ∧ ∀ (i : Nat) (j : Json), js[i]? = some j →
      ∃ item v, shape.item? (place + i) = some item ∧ restrict? j item = some v ∧
        vs[i]? = some v := by
  induction js generalizing place vs with
  | nil =>
    cases h
    simp
  | cons j js ih =>
    simp only [restrictItems?, Option.bind_eq_some_iff, Option.map_eq_some_iff] at h
    obtain ⟨v, ⟨item, asked, kept⟩, vs, later, rfl⟩ := h
    obtain ⟨length, behind⟩ := ih later
    refine ⟨by simp [length], fun i j' found => ?_⟩
    cases i with
    | zero =>
      cases found
      exact ⟨item, v, asked, kept, rfl⟩
    | succ i =>
      obtain ⟨item, v, asked, kept, held⟩ := behind i j' found
      exact ⟨item, v, by rw [← asked]; congr 1; omega, kept, held⟩

theorem restrictItems?_isSome {shape : Shape} {js : List Json} {place : Nat}
    (readable : ∀ (i : Nat) (j : Json), js[i]? = some j →
      ∃ item, shape.item? (place + i) = some item ∧ (restrict? j item).isSome) :
    (restrictItems? js shape place).isSome := by
  induction js generalizing place with
  | nil => rfl
  | cons j js ih =>
    obtain ⟨item, asked, kept⟩ := readable 0 j rfl
    obtain ⟨v, kept⟩ := Option.isSome_iff_exists.1 kept
    simp only [Nat.add_zero] at asked
    obtain ⟨vs, later⟩ := Option.isSome_iff_exists.1 <| @ih (place + 1) fun i j' found => by
      obtain ⟨item, asked, kept⟩ := readable (i + 1) j' found
      exact ⟨item, by rw [← asked]; congr 1; omega, kept⟩
    simp [restrictItems?, asked, kept, later]

/-! ## Records -/

/-- What a typed record holds for one of its fields. -/
theorem field_of_restrict? {doc view : Json} {f : Fields}
    (h : restrict? doc (.record fields) = some view)
    (read : view.fields? (Keyed.keys fields) = some f) (nodup : (Keyed.keys fields).Nodup)
    {place : Nat} {name : String} {shape : Shape} (found : fields[place]? = some (name, shape)) :
    Field (doc.given place name) shape (Keyed.find? f.values name) := by
  cases doc with
  | obj ms =>
    obtain ⟨acc, kept, rfl⟩ := Option.map_eq_some_iff.1 (h : (restrictMembers? ..).map _ = _)
    cases read
    rw [Keyed.find?_reverse (nodup_restrictMembers? kept List.nodup_nil)]
    obtain ⟨nothing, absent⟩ | ⟨j, v, alone, asked, -, held⟩ :=
      restrictMembers?_record kept (Keyed.find?_of_getElem? nodup found)
    · exact .inl ⟨nothing, absent⟩
    · exact .inr ⟨j, v, alone, asked, held⟩
  | arr js =>
    obtain ⟨vs, kept, rfl⟩ := Option.map_eq_some_iff.1 (h : (restrictItems? ..).map _ = _)
    obtain ⟨length, each⟩ := restrictItems?_some kept
    have values : f.values = (Keyed.keys fields).zip vs := by
      simp only [fields?] at read
      split at read
      · cases read
        rfl
      · cases read
    have named : (Keyed.keys fields)[place]? = some name := by
      rw [Keyed.keys, List.getElem?_map, found]
      rfl
    rw [values, Keyed.find?_zip nodup named]
    cases here : js[place]? with
    | none =>
      have absent : vs[place]? = none := by
        rw [List.getElem?_eq_none_iff] at here ⊢
        omega
      exact .inl ⟨by simp [given, here], absent⟩
    | some j =>
      obtain ⟨item, v, asked, kept, held⟩ := each place j here
      simp only [item?, Nat.zero_add, found, Option.map_some, Option.some.injEq] at asked
      subst asked
      exact .inr ⟨j, v, by simp [given, here], kept, held⟩
  | null | bool | int | real | str =>
    cases h
    cases read

/-- A record whose fields can all be read is read. -/
theorem restrict?_of_isRecord {doc : Json} (record : doc.isRecord (Keyed.keys fields) = true)
    (readable : ∀ place name shape, fields[place]? = some (name, shape) →
      ∀ j ∈ doc.given place name, (restrict? j shape).isSome) :
    ∃ view f, restrict? doc (.record fields) = some view ∧
      view.fields? (Keyed.keys fields) = some f := by
  cases doc with
  | obj ms =>
    have kept : (restrictMembers? ms (.record fields) []).isSome := by
      refine restrictMembers?_isSome (fun name shape known => .inr ⟨?_, rfl⟩)
        fun name shape known j member => ?_
      · have known := List.mem_map_of_mem (f := Prod.fst) (Keyed.mem_of_find? known)
        exact of_decide_eq_true (List.all_eq_true.1 record name known)
      · obtain ⟨place, found⟩ := List.mem_iff_getElem?.1 (Keyed.mem_of_find? known)
        exact readable place name shape found j member
    obtain ⟨acc, kept⟩ := Option.isSome_iff_exists.1 kept
    exact ⟨.obj acc.reverse, ⟨true, acc.reverse⟩, congrArg (Option.map _) kept, rfl⟩
  | arr js =>
    have kept : (restrictItems? js (.record fields) 0).isSome := by
      refine restrictItems?_isSome fun place j found => ?_
      have short : place < fields.length := by
        have := (List.getElem?_eq_some_iff.1 found).1
        simp only [isRecord, Keyed.keys, List.length_map, decide_eq_true_eq] at record
        omega
      have field := List.getElem?_eq_getElem short
      refine ⟨fields[place].2, by simp [item?, field], ?_⟩
      exact readable place _ _ field j (by simp [given, found])
    obtain ⟨vs, kept⟩ := Option.isSome_iff_exists.1 kept
    obtain ⟨length, -⟩ := restrictItems?_some kept
    refine ⟨.arr vs, ⟨false, (Keyed.keys fields).zip vs⟩, congrArg (Option.map _) kept, ?_⟩
    exact if_pos (length ▸ of_decide_eq_true record)
  | null | bool | int | real | str => cases record

/-- What is read is a record. -/
theorem isRecord_of_restrict? {doc view : Json} {f : Fields}
    (h : restrict? doc (.record fields) = some view)
    (read : view.fields? (Keyed.keys fields) = some f) (nodup : (Keyed.keys fields).Nodup) :
    doc.isRecord (Keyed.keys fields) = true := by
  cases doc with
  | obj ms =>
    refine List.all_eq_true.2 fun name known => decide_eq_true ?_
    obtain ⟨⟨_, shape⟩, member, rfl⟩ := List.mem_map.1 known
    obtain ⟨place, found⟩ := List.mem_iff_getElem?.1 member
    have field := @field_of_restrict? _ _ _ _ h read nodup place _ _ found
    simp only [given] at field ⊢
    obtain ⟨nothing, -⟩ | ⟨j, v, alone, -⟩ := field
    · simp [nothing]
    · simp [alone]
  | arr js =>
    obtain ⟨vs, kept, rfl⟩ := Option.map_eq_some_iff.1 (h : (restrictItems? ..).map _ = _)
    obtain ⟨length, -⟩ := restrictItems?_some kept
    simp only [fields?, length] at read
    split at read
    · next short => exact decide_eq_true short
    · cases read
  | null | bool | int | real | str =>
    cases h
    cases read

/-- A record is read exactly when it is one that gives what its reader takes from its fields. -/
theorem record_eq_some_iff {α : Type} {doc : Json} {read : Fields → Option α} {a : α}
    {Given : Prop} (nodup : (Keyed.keys fields).Nodup)
    (reads : ∀ f : Fields, (∀ place name shape, fields[place]? = some (name, shape) →
      Field (doc.given place name) shape (Keyed.find? f.values name)) → (read f = some a ↔ Given))
    (readable : Given → ∀ place name shape, fields[place]? = some (name, shape) →
      ∀ j ∈ doc.given place name, (restrict? j shape).isSome) :
    ((restrict? doc (.record fields)).bind fun view =>
        (view.fields? (Keyed.keys fields)).bind read) = some a ↔
      doc.isRecord (Keyed.keys fields) = true ∧ Given := by
  constructor
  · intro h
    obtain ⟨view, asked, h⟩ := Option.bind_eq_some_iff.1 h
    obtain ⟨f, shown, h⟩ := Option.bind_eq_some_iff.1 h
    have given := (reads f fun _ _ _ => field_of_restrict? asked shown nodup).1 h
    exact ⟨isRecord_of_restrict? asked shown nodup, given⟩
  · rintro ⟨record, given⟩
    obtain ⟨view, f, asked, shown⟩ := restrict?_of_isRecord record (readable given)
    have read := (reads f fun _ _ _ => field_of_restrict? asked shown nodup).2 given
    exact Option.bind_eq_some_iff.2 ⟨view, asked, Option.bind_eq_some_iff.2 ⟨f, shown, read⟩⟩

/-! ## Lists -/

theorem mapM_eq_some_iff_forall₂ {α β : Type} {f : α → Option β} {as : List α} {bs : List β} :
    as.mapM f = some bs ↔ List.Forall₂ (fun a b => f a = some b) as bs := by
  induction as generalizing bs with
  | nil => cases bs <;> simp
  | cons a as ih =>
    rw [List.mapM_cons]
    cases here : f a with
    | none => cases bs <;> simp [here]
    | some b =>
      cases there : as.mapM f with
      | none => cases bs <;> simp [← ih, there]
      | some later => cases bs <;> simp [← ih, there, here]

/-- Two readings of each item, one after the other or as one. -/
theorem mapM_bind_mapM {α β γ : Type} (f : α → Option β) (g : β → Option γ) (as : List α) :
    (as.mapM f).bind (·.mapM g) = as.mapM fun a => (f a).bind g := by
  induction as with
  | nil => rfl
  | cons a as ih =>
    rw [List.mapM_cons, List.mapM_cons, ← ih]
    cases here : f a with
    | none => simp
    | some b =>
      cases there : g b with
      | none => cases as.mapM f <;> simp [there]
      | some c => cases as.mapM f <;> simp [there]

theorem restrictItems?_list (item : Shape) (js : List Json) (place : Nat) :
    restrictItems? js (.list item) place = js.mapM (restrict? · item) := by
  induction js generalizing place with
  | nil => rfl
  | cons j js ih =>
    rw [restrictItems?, ih, List.mapM_cons]
    cases here : restrict? j item with
    | none => simp [item?, here]
    | some v => cases js.mapM (restrict? · item) <;> simp [item?, here]

/-- A list is read from an array, each item on its own. -/
theorem list_eq_some_iff {α : Type} {item : Shape} {read : Json → Option α} {j : Json}
    {as : List α} :
    (restrict? j (.list item)).bind (list? read) = some as ↔
      ∃ js, j = .arr js ∧
        List.Forall₂ (fun j a => (restrict? j item).bind read = some a) js as := by
  cases j with
  | arr js =>
    have both : (restrict? (.arr js) (.list item)).bind (list? read) =
        js.mapM fun j => (restrict? j item).bind read := by
      rw [restrict?_arr rfl, restrictItems?_list, ← mapM_bind_mapM, Option.bind_map]
      rfl
    rw [both, mapM_eq_some_iff_forall₂]
    exact ⟨fun each => ⟨js, rfl, each⟩, fun ⟨_, same, each⟩ => arr.inj same ▸ each⟩
  | obj ms =>
    refine ⟨fun h => ?_, fun ⟨_, same, _⟩ => nomatch same⟩
    obtain ⟨view, asked, listed⟩ := Option.bind_eq_some_iff.1 h
    rw [restrict?_obj rfl] at asked
    obtain ⟨_, -, rfl⟩ := Option.map_eq_some_iff.1 asked
    cases listed
  | null | bool | int | real | str =>
    exact ⟨fun h => (nomatch h), fun ⟨_, same, _⟩ => nomatch same⟩

/-! ## Tables -/

/-- Every entry of a table is read as the shape of entries asks. -/
theorem restrictMembers?_table (entry : Shape) (ms acc : List (String × Json)) :
    restrictMembers? ms (.table entry) acc =
      (ms.mapM fun m => (restrict? m.2 entry).map (m.1, ·)).map fun vs => vs.reverse ++ acc := by
  induction ms generalizing acc with
  | nil => rfl
  | cons m ms ih =>
    simp only [restrictMembers?, member?, add?, Option.bind_some, ih, List.mapM_cons]
    cases restrict? m.2 entry with
    | none => rfl
    | some v => cases ms.mapM fun m => (restrict? m.2 entry).map (m.1, ·) <;> simp

/-- A typed table is read from an object, whose last member of a name counts. -/
theorem entry_of_restrict? {α : Type} {entry : Shape} {doc view : Json} {read : Json → Option α}
    {found : List (String × α)} (h : restrict? doc (.table entry) = some view)
    (table : view.table? read = some found) :
    ∃ ms, doc = .obj ms ∧ ∀ name,
      (Keyed.find? ms.reverse name = none ∧ Keyed.find? found name = none) ∨
        ∃ j a, Keyed.find? ms.reverse name = some j ∧ (restrict? j entry).bind read = some a ∧
          Keyed.find? found name = some a := by
  cases doc with
  | obj ms =>
    obtain ⟨acc, kept, rfl⟩ := Option.map_eq_some_iff.1 (h : (restrictMembers? ..).map _ = _)
    rw [restrictMembers?_table] at kept
    obtain ⟨vs, parts, rfl⟩ := Option.map_eq_some_iff.1 kept
    obtain ⟨out, each, rfl⟩ := Option.map_eq_some_iff.1 (show Option.map _ _ = _ from table)
    rw [List.append_nil, List.reverse_reverse] at each
    refine ⟨ms, rfl, fun name => ?_⟩
    rw [Keyed.find?_ofList]
    obtain ⟨absent, absent'⟩ | ⟨j, v, given, asked, held⟩ :=
      Keyed.find?_mapM (g := (restrict? · entry)) parts name
    · obtain ⟨-, nothing⟩ | ⟨v, _, held, -⟩ := Keyed.find?_mapM each name
      · exact .inl ⟨absent, nothing⟩
      · rw [absent'] at held
        cases held
    · obtain ⟨nothing, -⟩ | ⟨v', a, held', read, found⟩ := Keyed.find?_mapM each name
      · rw [held] at nothing
        cases nothing
      · rw [held] at held'
        cases held'
        exact .inr ⟨j, a, given, by rw [asked]; exact read, found⟩
  | arr js =>
    obtain ⟨vs, -, rfl⟩ := Option.map_eq_some_iff.1 (h : (restrictItems? ..).map _ = _)
    cases table
  | null | bool | int | real | str =>
    cases h
    cases table

/-- An object all of whose entries can be read is read as a table. -/
theorem restrict?_of_entries {α : Type} {entry : Shape} {read : Json → Option α}
    {ms : List (String × Json)} (readable : ∀ m ∈ ms, ((restrict? m.2 entry).bind read).isSome) :
    ∃ view found, restrict? (.obj ms) (.table entry) = some view ∧
      view.table? read = some found := by
  have parts : ∀ m ∈ ms, ∃ v, restrict? m.2 entry = some v ∧ (read v).isSome := by
    intro m member
    obtain ⟨a, kept⟩ := Option.isSome_iff_exists.1 (readable m member)
    obtain ⟨v, asked, read⟩ := Option.bind_eq_some_iff.1 kept
    exact ⟨v, asked, by rw [read]; rfl⟩
  obtain ⟨vs, kept⟩ : ∃ vs, ms.mapM (fun m => (restrict? m.2 entry).map (m.1, ·)) = some vs := by
    refine Option.isSome_iff_exists.1 (Keyed.mapM_isSome fun m member => ?_)
    obtain ⟨v, asked, -⟩ := parts m member
    rw [asked]
    rfl
  obtain ⟨out, each⟩ : ∃ out, vs.mapM (fun m => (read m.2).map (m.1, ·)) = some out := by
    refine Option.isSome_iff_exists.1 (Keyed.mapM_isSome fun m member => ?_)
    obtain ⟨m', inside, here⟩ := Keyed.mem_of_mapM kept member
    obtain ⟨v, asked, readable⟩ := parts m' inside
    rw [asked] at here
    cases here
    exact Option.isSome_map.trans readable
  refine ⟨.obj vs, Keyed.ofList out, ?_, congrArg (Option.map _) each⟩
  rw [restrict?_obj rfl, restrictMembers?_table, kept]
  simp

end Shape

end Rebac.Json
