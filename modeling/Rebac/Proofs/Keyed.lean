import Mathlib.Data.List.Induction
import Rebac.Keyed

/-!
# Looking up in keyed lists

A pair put later wins over one put earlier, so a list of pairs answers with the last pair of a key,
while the key stays where it was first put. A keyed list whose keys are distinct already is what its
pairs make.
-/

namespace Rebac.Keyed

variable {κ α β : Type} [DecidableEq κ]

/-- The first pair of a key counts. -/
theorem find?_append (entries more : List (κ × α)) (k : κ) :
    find? (entries ++ more) k = (find? entries k).or (find? more k) := by
  induction entries with
  | nil => rfl
  | cons head rest ih =>
    simp only [List.cons_append, find?, ih]
    split <;> rfl

theorem find?_put (entries : List (κ × α)) (k k' : κ) (v : α) :
    find? (put entries k v) k' = if k = k' then some v else find? entries k' := by
  induction entries with
  | nil => rfl
  | cons head rest ih =>
    obtain ⟨first, w⟩ := head
    by_cases same : first = k
    · subst same
      simp only [put, if_true, find?]
      split <;> rfl
    · simp only [put, if_neg same, find?, ih]
      by_cases here : first = k'
      · subst here
        rw [if_pos rfl, if_neg (Ne.symm same), if_pos rfl]
      · simp only [if_neg here]

/-- After all pairs are put, the last one of a key counts, and the old entry where there is none. -/
theorem find?_putAll (entries new : List (κ × α)) (k : κ) :
    find? (putAll entries new) k = (find? new.reverse k).or (find? entries k) := by
  induction new generalizing entries with
  | nil => rfl
  | cons head rest ih =>
    have step : putAll entries (head :: rest) = putAll (put entries head.1 head.2) rest := rfl
    rw [step, ih, find?_put, List.reverse_cons, find?_append, Option.or_assoc]
    congr 1
    simp only [find?]
    split <;> rfl

/-- The last pair of a key counts. -/
theorem find?_ofList (pairs : List (κ × α)) (k : κ) :
    find? (ofList pairs) k = find? pairs.reverse k := by
  rw [ofList, find?_putAll]
  exact Option.or_none

theorem find?_eq_none {entries : List (κ × α)} {k : κ} :
    find? entries k = none ↔ k ∉ keys entries := by
  induction entries with
  | nil => simp [find?, keys]
  | cons head rest ih =>
    simp only [keys, List.map_cons, List.mem_cons, not_or, find?] at ih ⊢
    split
    · next same => simp [same]
    · next other =>
      rw [ih]
      exact ⟨fun absent => ⟨Ne.symm other, absent⟩, fun absent => absent.2⟩

/-- Where keys are distinct, the last pair of a key is the first. -/
theorem find?_reverse {entries : List (κ × α)} (nodup : (keys entries).Nodup) (k : κ) :
    find? entries.reverse k = find? entries k := by
  induction entries with
  | nil => rfl
  | cons head rest ih =>
    simp only [keys, List.map_cons, List.nodup_cons] at nodup
    rw [List.reverse_cons, find?_append, ih nodup.2]
    simp only [find?]
    split
    · next same =>
      rw [find?_eq_none.2 (same ▸ nodup.1)]
      rfl
    · exact Option.or_none

theorem find?_of_getElem? {entries : List (κ × α)} (nodup : (keys entries).Nodup) {place : Nat}
    {k : κ} {v : α} (found : entries[place]? = some (k, v)) : find? entries k = some v := by
  induction entries generalizing place with
  | nil => simp at found
  | cons head rest ih =>
    simp only [keys, List.map_cons, List.nodup_cons] at nodup
    cases place with
    | zero =>
      cases found
      exact if_pos rfl
    | succ place =>
      have other : head.1 ≠ k := by
        intro same
        have member : (k, v) ∈ rest := List.mem_of_getElem? found
        exact nodup.1 (same ▸ List.mem_map_of_mem member)
      rw [find?, if_neg other]
      exact ih nodup.2 found

theorem mem_of_find? {entries : List (κ × α)} {k : κ} {v : α} (h : find? entries k = some v) :
    (k, v) ∈ entries := by
  induction entries with
  | nil => cases h
  | cons head rest ih =>
    simp only [find?] at h
    split at h
    · next same =>
      cases h
      exact same ▸ List.mem_cons_self
    · exact List.mem_cons_of_mem _ (ih h)

/-- Each pair of a keyed list is one of those put into it. -/
theorem mem_of_mem_ofList {pairs : List (κ × α)} {pair : κ × α} (h : pair ∈ ofList pairs) :
    pair ∈ pairs := by
  obtain ⟨place, found⟩ := List.mem_iff_getElem?.1 h
  have last := find?_of_getElem? (nodup_keys_ofList pairs) found
  rw [find?_ofList] at last
  exact List.mem_reverse.1 (mem_of_find? last)

/-- Names paired with values: each name finds the value at its own place. -/
theorem find?_zip {names : List κ} (nodup : names.Nodup) {place : Nat} {name : κ}
    (found : names[place]? = some name) (values : List α) :
    find? (names.zip values) name = values[place]? := by
  induction names generalizing place values with
  | nil => simp at found
  | cons first rest ih =>
    rw [List.nodup_cons] at nodup
    cases values with
    | nil => rfl
    | cons v values =>
      cases place with
      | zero =>
        cases found
        exact if_pos rfl
      | succ place =>
        have later : first ≠ name := by
          rintro rfl
          exact nodup.1 (List.mem_of_getElem? found)
        rw [List.zip_cons_cons, find?, if_neg later, ih nodup.2 found]
        rfl

omit [DecidableEq κ] in
theorem mapM_cons_some {f : κ × α → Option (κ × β)} {head : κ × α} {rest : List (κ × α)}
    {out : List (κ × β)} (h : (head :: rest).mapM f = some out) :
    ∃ first later, f head = some first ∧ rest.mapM f = some later ∧ out = first :: later := by
  simp only [List.mapM_cons, Option.bind_eq_bind, Option.bind_eq_some_iff, Option.pure_def,
    Option.some.injEq] at h
  obtain ⟨first, here, later, there, rfl⟩ := h
  exact ⟨first, later, here, there, rfl⟩

/-- Where every value can be read, the last pair of a key is read from the last pair of the key. -/
theorem find?_mapM {g : α → Option β} {entries : List (κ × α)} {out : List (κ × β)}
    (h : entries.mapM (fun m => (g m.2).map (m.1, ·)) = some out) (k : κ) :
    (find? entries.reverse k = none ∧ find? out.reverse k = none) ∨
      ∃ a b, find? entries.reverse k = some a ∧ g a = some b ∧ find? out.reverse k = some b := by
  induction entries generalizing out with
  | nil =>
    cases h
    exact .inl ⟨rfl, rfl⟩
  | cons head rest ih =>
    obtain ⟨first, later, here, there, rfl⟩ := mapM_cons_some h
    obtain ⟨b, read, rfl⟩ := Option.map_eq_some_iff.1 here
    simp only [List.reverse_cons, find?_append, find?]
    obtain ⟨absent, absent'⟩ | ⟨a, b', found, read', found'⟩ := ih there
    · rw [absent, absent']
      by_cases same : head.1 = k
      · exact .inr ⟨head.2, b, by simp [same], read, by simp [same]⟩
      · exact .inl ⟨by simp [same], by simp [same]⟩
    · exact .inr ⟨a, b', by rw [found]; rfl, read', by rw [found']; rfl⟩

omit [DecidableEq κ] in
theorem mapM_isSome {f : κ × α → Option (κ × β)} {entries : List (κ × α)}
    (h : ∀ m ∈ entries, (f m).isSome) : (entries.mapM f).isSome := by
  induction entries with
  | nil => rfl
  | cons head rest ih =>
    obtain ⟨first, here⟩ := Option.isSome_iff_exists.1 (h head List.mem_cons_self)
    obtain ⟨later, there⟩ := Option.isSome_iff_exists.1 <|
      ih fun m member => h m (List.mem_cons_of_mem _ member)
    simp [List.mapM_cons, here, there]

omit [DecidableEq κ] in
theorem mem_of_mapM {f : κ × α → Option (κ × β)} {entries : List (κ × α)} {out : List (κ × β)}
    (h : entries.mapM f = some out) {m : κ × β} (member : m ∈ out) :
    ∃ a ∈ entries, f a = some m := by
  induction entries generalizing out with
  | nil =>
    cases h
    cases member
  | cons head rest ih =>
    obtain ⟨first, later, here, there, rfl⟩ := mapM_cons_some h
    obtain rfl | member := List.mem_cons.1 member
    · exact ⟨head, List.mem_cons_self, here⟩
    · obtain ⟨a, inside, read⟩ := ih there member
      exact ⟨a, List.mem_cons_of_mem _ inside, read⟩

theorem put_of_fresh {entries : List (κ × α)} {k : κ} (fresh : k ∉ keys entries) (v : α) :
    put entries k v = entries ++ [(k, v)] := by
  induction entries with
  | nil => rfl
  | cons head rest ih =>
    simp only [keys, List.map_cons, List.mem_cons, not_or] at fresh
    rw [put, if_neg (Ne.symm fresh.1), ih fresh.2]
    rfl

theorem putAll_of_nodup {entries new : List (κ × α)} (nodup : (keys (entries ++ new)).Nodup) :
    putAll entries new = entries ++ new := by
  induction new generalizing entries with
  | nil => exact (List.append_nil entries).symm
  | cons head rest ih =>
    have fresh : head.1 ∉ keys entries := by
      simp only [keys, List.map_append, List.map_cons, List.nodup_append] at nodup ⊢
      intro member
      exact nodup.2.2 _ member _ List.mem_cons_self rfl
    have step : putAll entries (head :: rest) = putAll (put entries head.1 head.2) rest := rfl
    rw [step, put_of_fresh fresh, ih (by simpa using nodup)]
    simp

/-- Pairs of distinct keys stay as they are, in their order. -/
theorem ofList_of_nodup {pairs : List (κ × α)} (nodup : (keys pairs).Nodup) :
    ofList pairs = pairs :=
  putAll_of_nodup nodup

/-- Of entries that hold their keys, which differ, the search for a key finds its entry. -/
theorem find?_of_nodup_keys {key : α → κ} {entries : List α} {a : α}
    (distinct : (entries.map key).Nodup) (mem : a ∈ entries) :
    entries.find? (key · = key a) = some a := by
  induction entries with
  | nil => cases mem
  | cons head rest ih =>
    obtain ⟨once, distinct⟩ := List.nodup_cons.mp distinct
    rcases List.mem_cons.mp mem with rfl | mem
    · exact List.find?_cons_of_pos (decide_eq_true rfl)
    · have other : key head ≠ key a := fun same => once (same ▸ List.mem_map_of_mem mem)
      rw [List.find?_cons_of_neg (by simpa using other)]
      exact ih distinct mem

/-! ## First places and last values -/

/-- Keys stand where they were first put. -/
theorem keys_ofList (pairs : List (κ × α)) : keys (ofList pairs) = (keys pairs).eraseDups := by
  induction pairs using List.reverseRecOn with
  | nil => rfl
  | append_singleton pairs pair ih =>
    have step : ofList (pairs ++ [pair]) = put (ofList pairs) pair.1 pair.2 := by
      simp [ofList, putAll]
    have all : keys (pairs ++ [pair]) = keys pairs ++ [pair.1] := by simp [keys]
    rw [step, keys_put, ih, all, List.eraseDups_append]
    by_cases known : pair.1 ∈ keys pairs
    · simp [known, List.removeAll]
    · simp [known, List.removeAll, List.eraseDups_cons]

/-- Among these pairs, the last one of `k` gives it `v`. -/
def LastPut (pairs : List (κ × α)) (k : κ) (v : α) : Prop :=
  ∃ earlier later, pairs = earlier ++ (k, v) :: later ∧ k ∉ keys later

/-- In a list made from pairs, a key has the value of its last pair. -/
theorem find?_ofList_eq_some {pairs : List (κ × α)} {k : κ} {v : α} :
    find? (ofList pairs) k = some v ↔ LastPut pairs k v := by
  rw [find?_ofList]
  constructor
  · intro found
    induction pairs using List.reverseRecOn with
    | nil => cases found
    | append_singleton pairs pair ih =>
      rw [List.reverse_append, List.reverse_singleton, List.singleton_append, find?] at found
      split at found
      next same =>
        obtain rfl := same
        cases found
        exact ⟨pairs, [], rfl, by simp [keys]⟩
      next other =>
        obtain ⟨earlier, later, rfl, unset⟩ := ih found
        refine ⟨earlier, later ++ [pair], by simp, ?_⟩
        simpa [keys, Ne.symm other] using unset
  · rintro ⟨earlier, later, rfl, unset⟩
    have absent : find? later.reverse k = none := by
      rw [find?_eq_none]
      simpa [keys] using unset
    rw [List.reverse_append, List.reverse_cons, List.append_assoc, find?_append, absent]
    exact if_pos rfl

/-! ## Lists put one after another -/

theorem put_put_self (entries : List (κ × α)) (k : κ) (v w : α) :
    put (put entries k w) k v = put entries k v := by
  induction entries with
  | nil => simp [put]
  | cons head rest ih =>
    by_cases same : head.1 = k
    · simp [put, same]
    · simp [put, same, ih]

/-- A key that has its place already can be put before another one as well. -/
theorem put_comm_of_mem {entries : List (κ × α)} {k k' : κ} (placed : k ∈ keys entries)
    (other : k' ≠ k) (v v' : α) :
    put (put entries k' v') k v = put (put entries k v) k' v' := by
  induction entries with
  | nil => cases placed
  | cons head rest ih =>
    by_cases own : head.1 = k
    · simp [put, own, Ne.symm other]
    · by_cases here : head.1 = k'
      · simp [put, here, other]
      · have later : k ∈ keys rest := by
          simpa [keys, Ne.symm own] using placed
        simp [put, own, here, ih later]

theorem putAll_cons (entries : List (κ × α)) (pair : κ × α) (rest : List (κ × α)) :
    putAll entries (pair :: rest) = putAll (put entries pair.1 pair.2) rest := rfl

/-- A key that has its place already, and that no new pair sets, may be set before or after them. -/
theorem put_putAll_of_mem {entries new : List (κ × α)} {k : κ} (placed : k ∈ keys entries)
    (unset : k ∉ keys new) (v : α) :
    put (putAll entries new) k v = putAll (put entries k v) new := by
  induction new generalizing entries with
  | nil => rfl
  | cons pair rest ih =>
    simp only [keys, List.map_cons, List.mem_cons, not_or] at unset
    have still : k ∈ keys (put entries pair.1 pair.2) := by
      rw [keys_put]
      split <;> simp [placed]
    rw [putAll_cons, ih still unset.2, put_comm_of_mem placed (Ne.symm unset.1)]
    rfl

/-- To put a pair among new ones, and then all of them, is to put it after all of them. -/
theorem putAll_put (entries : List (κ × α)) {new : List (κ × α)} (nodup : (keys new).Nodup)
    (k : κ) (v : α) : putAll entries (put new k v) = put (putAll entries new) k v := by
  induction new generalizing entries with
  | nil => rfl
  | cons pair rest ih =>
    obtain ⟨unset, nodup⟩ := List.nodup_cons.mp nodup
    by_cases same : pair.1 = k
    · have placed : k ∈ keys (put entries pair.1 pair.2) := by
        rw [keys_put, same]
        split <;> simp [*]
      have front : put (pair :: rest) k v = (k, v) :: rest := by simp [put, same]
      rw [front, putAll_cons, putAll_cons, put_putAll_of_mem placed (same ▸ unset), same,
        put_put_self]
    · have front : put (pair :: rest) k v = pair :: put rest k v := by simp [put, same]
      rw [front, putAll_cons, ih _ nodup]
      rfl

/-- What is put into a list that is put itself might as well be put after it. -/
theorem putAll_putAll (entries : List (κ × α)) {new : List (κ × α)} (nodup : (keys new).Nodup)
    (more : List (κ × α)) :
    putAll entries (putAll new more) = putAll (putAll entries new) more := by
  induction more generalizing new with
  | nil => rfl
  | cons pair rest ih =>
    rw [putAll_cons, ih (nodup_keys_put nodup _ _), putAll_put entries nodup, putAll_cons]

end Rebac.Keyed
