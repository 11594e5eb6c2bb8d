import Rebac.Proofs.Http.Transcript
import Rebac.Proofs.Tuple

/-!
# Batches in parts

What the requests of a batch carry, how a batch is cut into parts, and how the parts are sent: one
round each, in order, up to the first part that fails.
-/

namespace Rebac.Http

open Condition (Context)

/-! ## What a request carries -/

/-- The check in an entry of a batch, with the correlation it is sent under. -/
def asked? (entry : Json) : Option (String × CheckItem) := do
  let key ← entry.get? "tuple_key"
  let object ← (key.get? "object").bind Json.str?
  let relation ← (key.get? "relation").bind Json.str?
  let user ← (key.get? "user").bind Json.str?
  let correlation ← (entry.get? "correlation_id").bind Json.str?
  let context ← match entry.get? "context" with
    | some context => (Context.ofJson? context).map some
    | none => some none
  return (correlation, ⟨object, relation, user, context⟩)

/-- The checks that the body of a request asks for, with their correlations. -/
def carried (request : Received) : List (String × CheckItem) :=
  (((request.body.bind (·.get? "checks")).bind Json.arr?).bind (·.mapM asked?)).getD []

/-- A check is sent unchanged. -/
theorem asked?_batchEntry (correlation : String) (item : CheckItem) :
    asked? (batchEntry correlation item) = some (correlation, item) := by
  obtain ⟨object, relation, user, context⟩ := item
  cases context with
  | none => rfl
  | some context =>
    have read := Context.roundTrips.read_write context
    simp [asked?, batchEntry, checkKey, contextMember, optionalMember, Json.get?, Json.str?,
      Keyed.find?, read]

/-- Different checks of a batch have different correlations. -/
theorem toString_injective {m n : Nat} (h : toString m = toString n) : m = n := by
  have digits := congrArg (fun s => Nat.ofDigitChars 10 s.toList 0) h
  simpa using digits

/-- The checks of a batch, each with its correlation. -/
def correlated (offset : Nat) (items : List CheckItem) : List (String × CheckItem) :=
  (items.zipIdx offset).map fun (item, index) => (toString index, item)

theorem correlated_items (offset : Nat) (items : List CheckItem) :
    (correlated offset items).map (·.2) = items := by
  simp only [correlated, List.map_map, Function.comp_def]
  exact List.zipIdx_map_fst offset items

theorem nodup_correlated (offset : Nat) (items : List CheckItem) :
    ((correlated offset items).map (·.1)).Nodup := by
  have indices : (correlated offset items).map (·.1) =
      (List.range' offset items.length).map toString := by
    rw [← List.zipIdx_map_snd]
    simp only [correlated, List.map_map, Function.comp_def]
  rw [indices, List.nodup_iff_pairwise_ne, List.pairwise_map]
  have distinct :=
    List.nodup_iff_pairwise_ne.1 (@List.nodup_range' offset items.length 1 (by omega))
  exact distinct.imp fun other same => other (toString_injective same)

theorem mem_correlated {offset : Nat} {items : List CheckItem} {asked : String × CheckItem} :
    asked ∈ correlated offset items ↔
      ∃ i item, items[i]? = some item ∧ asked = (toString (offset + i), item) := by
  constructor
  · intro member
    obtain ⟨⟨item, index⟩, inside, rfl⟩ := List.mem_map.1 member
    obtain ⟨le, here⟩ := List.mk_mem_zipIdx_iff_le_and_getElem?_sub.1 inside
    exact ⟨index - offset, item, here, by rw [Nat.add_sub_cancel' le]⟩
  · rintro ⟨i, item, here, rfl⟩
    refine List.mem_map.2 ⟨(item, offset + i), ?_, rfl⟩
    exact List.mk_mem_zipIdx_iff_le_and_getElem?_sub.2
      ⟨Nat.le_add_right _ _, by rw [Nat.add_sub_cancel_left, here]⟩

theorem carried_posted (c : Client) (target : String) (offset : Nat) (items : List CheckItem) :
    carried (c.posted target (batchBody offset items c.modelId)) = correlated offset items := by
  have each : ∀ indexed : List (CheckItem × Nat),
      (indexed.map fun (item, index) => batchEntry (toString index) item).mapM asked? =
        some (indexed.map fun (item, index) => (toString index, item)) := by
    intro indexed
    induction indexed with
    | nil => rfl
    | cons head rest ih =>
      simp only [List.map_cons, List.mapM_cons, asked?_batchEntry, ih]
      rfl
  exact congrArg (Option.getD · []) (each (items.zipIdx offset))

theorem mem_carried_posted {c : Client} {target : String} {offset : Nat} {items : List CheckItem}
    {asked : String × CheckItem} :
    asked ∈ carried (c.posted target (batchBody offset items c.modelId)) ↔
      ∃ i item, items[i]? = some item ∧ asked = (toString (offset + i), item) := by
  rw [carried_posted, mem_correlated]

namespace Client

/-! ## Parts -/

/-- Parts of a list, in order, with their offsets: none is empty, and all but the last are full. -/
inductive Consecutive {α : Type} (size : Nat) : Nat → List α → List (Nat × List α) → Prop where
  | nil {offset : Nat} : Consecutive size offset [] []
  | cons {offset : Nat} {part later : List α} {parts : List (Nat × List α)} (filled : part ≠ [])
      (few : part.length ≤ size) (full : later ≠ [] → part.length = size)
      (rest : Consecutive size (offset + size) later parts) :
    Consecutive size offset (part ++ later) ((offset, part) :: parts)

theorem length_inParts {α : Type} (size : Nat) (xs : List α) :
    (inParts size xs).length = (xs.length + size - 1) / size := by
  simp [inParts]

theorem consecutive_of_range {α : Type} {size : Nat} (pos : 0 < size) (xs : List α)
    (offset : Nat) :
    Consecutive size offset xs ((List.range ((xs.length + size - 1) / size)).map fun k =>
      (offset + size * k, (xs.drop (size * k)).take size)) := by
  induction h : xs.length using Nat.strongRecOn generalizing xs offset with
  | ind n ih =>
    subst h
    cases empty : xs.isEmpty with
    | true =>
      rw [List.isEmpty_iff] at empty
      subst empty
      rw [show ([] : List α).length + size - 1 = size - 1 by simp, Nat.div_eq_of_lt (by omega)]
      exact .nil
    | false =>
      rw [List.isEmpty_eq_false_iff] at empty
      have long : 0 < xs.length := List.length_pos_iff.2 empty
      have count :
          (xs.length + size - 1) / size = ((xs.drop size).length + size - 1) / size + 1 := by
        rw [List.length_drop]
        obtain more | short := Nat.lt_or_ge size xs.length
        · rw [← Nat.add_div_right _ pos]
          congr 1
          omega
        · have one : (xs.length + size - 1) / size = 1 :=
            Nat.div_eq_of_lt_le (by omega) (by omega)
          rw [one, Nat.sub_eq_zero_of_le short, Nat.div_eq_of_lt (by omega)]
      rw [count, List.range_succ_eq_map, List.map_cons, List.map_map]
      have rest := ih (xs.drop size).length (by rw [List.length_drop]; omega) (xs.drop size)
        (offset + size) rfl
      have parts : Consecutive size offset (xs.take size ++ xs.drop size) _ :=
        .cons (by simpa using ⟨by omega, empty⟩) (List.length_take_le _ _)
          (fun more => by
            have := List.length_pos_iff.2 more
            simp only [List.length_drop, List.length_take] at this ⊢
            omega) rest
      rw [List.take_append_drop] at parts
      have shift : (fun k => (offset + size * k, (xs.drop (size * k)).take size)) ∘ Nat.succ =
          fun k => (offset + size + size * k, ((xs.drop size).drop (size * k)).take size) := by
        funext k
        simp only [Function.comp_def, List.drop_drop, Nat.mul_succ, Nat.add_comm (size * k) size,
          Nat.add_assoc]
      rw [shift]
      exact parts

theorem inParts_consecutive {α : Type} {size : Nat} (pos : 0 < size) (xs : List α) :
    Consecutive size 0 xs (inParts size xs) := by
  have parts := consecutive_of_range pos xs 0
  simp only [Nat.zero_add] at parts
  exact parts

theorem Consecutive.length_part {α : Type} {size offset : Nat} {xs : List α}
    {parts : List (Nat × List α)} (h : Consecutive size offset xs parts) {p : Nat × List α}
    (member : p ∈ parts) : 1 ≤ p.2.length ∧ p.2.length ≤ size := by
  induction h with
  | nil => cases member
  | cons filled few _ _ ih =>
    obtain rfl | member := List.mem_cons.1 member
    · exact ⟨List.length_pos_iff.2 filled, few⟩
    · exact ih member

/-- Together the parts are the list, each item at its index. -/
theorem Consecutive.flatMap_zipIdx {α : Type} {size offset : Nat} {xs : List α}
    {parts : List (Nat × List α)} (h : Consecutive size offset xs parts) :
    (parts.flatMap fun p => p.2.zipIdx p.1) = xs.zipIdx offset := by
  induction h with
  | nil => rfl
  | @cons offset part later parts _ _ full _ ih =>
    rw [List.flatMap_cons, ih, List.zipIdx_append]
    cases later with
    | nil => rfl
    | cons => rw [full (List.cons_ne_nil _ _)]

/-! ## The verdicts on a part -/

/-- The verdicts on so many checks from an offset on, up to the first failure. -/
def partVerdicts (offset count : Nat) (found : List (String × BatchResult)) :
    Except Engine.Error (List Bool) :=
  (List.range' offset count).mapM (batchVerdict found)

theorem partVerdicts_succ (offset count : Nat) (found : List (String × BatchResult)) :
    partVerdicts offset (count + 1) found = (do
      let verdict ← batchVerdict found offset
      return verdict :: (← partVerdicts (offset + 1) count found)) := by
  simp only [partVerdicts, List.range'_succ, List.mapM_cons]

/-- Where no check fails, each has its verdict. -/
theorem partVerdicts_ok {offset count : Nat} {found : List (String × BatchResult)}
    {verdicts : List Bool} (h : partVerdicts offset count found = .ok verdicts) :
    verdicts.length = count ∧ ∀ (i : Nat) (verdict : Bool), verdicts[i]? = some verdict →
      batchVerdict found (offset + i) = .ok verdict := by
  induction count generalizing offset verdicts with
  | zero =>
    cases h
    simp
  | succ count ih =>
    rw [partVerdicts_succ] at h
    cases first : batchVerdict found offset with
    | error e =>
      rw [first] at h
      cases h
    | ok verdict =>
      cases later : partVerdicts (offset + 1) count found with
      | error e =>
        rw [first, later] at h
        cases h
      | ok verdicts' =>
        rw [first, later] at h
        cases h
        obtain ⟨length, each⟩ := ih later
        refine ⟨by rw [List.length_cons, length], fun i verdict' here => ?_⟩
        cases i with
        | zero =>
          cases here
          exact first
        | succ i =>
          rw [← each i verdict' here]
          congr 1
          omega

/-- Where a check fails, the first that does decides. -/
theorem partVerdicts_error {offset count : Nat} {found : List (String × BatchResult)}
    {e : Engine.Error} (h : partVerdicts offset count found = .error e) :
    ∃ i, i < count ∧ batchVerdict found (offset + i) = .error e ∧
      ∀ j, j < i → ∃ verdict, batchVerdict found (offset + j) = .ok verdict := by
  induction count generalizing offset with
  | zero => cases h
  | succ count ih =>
    rw [partVerdicts_succ] at h
    cases first : batchVerdict found offset with
    | error e' =>
      rw [first] at h
      cases h
      exact ⟨0, Nat.succ_pos _, first, fun j less => absurd less (Nat.not_lt_zero j)⟩
    | ok verdict =>
      cases later : partVerdicts (offset + 1) count found with
      | ok verdicts =>
        rw [first, later] at h
        cases h
      | error e' =>
        rw [first, later] at h
        cases h
        obtain ⟨i, inside, failed, before⟩ := ih later
        refine ⟨i + 1, by omega, by rw [← failed]; congr 1; omega, fun j less => ?_⟩
        cases j with
        | zero => exact ⟨verdict, first⟩
        | succ j =>
          obtain ⟨verdict, fine⟩ := before j (by omega)
          exact ⟨verdict, by rw [← fine]; congr 1; omega⟩

/-! ## The rounds of a batch -/

/-- The rounds that parts take one after the other, and what comes of them. -/
inductive Batched (c : Client) (target : String) :
    List (Nat × List CheckItem) → List Round → Except Engine.Error (List Bool) → Prop where
  | done : Batched c target [] [] (.ok [])
  | failed {offset : Nat} {items : List CheckItem} {parts : List (Nat × List CheckItem)}
      {response : Response} {e : Engine.Error}
      (reason : ∀ found, response.read? batchResults? = some found →
        partVerdicts offset items.length found = .error e) :
    Batched c target ((offset, items) :: parts)
      [⟨c.posted target (batchBody offset items c.modelId), response⟩] (.error e)
  | passed {offset : Nat} {items : List CheckItem} {parts : List (Nat × List CheckItem)}
      {response : Response} {found : List (String × BatchResult)} {verdicts : List Bool}
      {rounds : List Round} {result : Except Engine.Error (List Bool)}
      (read : response.read? batchResults? = some found)
      (each : partVerdicts offset items.length found = .ok verdicts)
      (later : Batched c target parts rounds result) :
    Batched c target ((offset, items) :: parts)
      (⟨c.posted target (batchBody offset items c.modelId), response⟩ :: rounds)
      (result.map (verdicts ++ ·))

variable {c : Client} {target : String}

/-- A part is one round. -/
theorem checkPart_sent (sendable : c.target? "batch-check" = some target) {x : Exchange}
    (reachable : x.reachable = true) (offset : Nat) (items : List CheckItem) :
    let out := c.checkPart offset items x
    x.Took [c.posted target (batchBody offset items c.modelId)] out.2 ∧
      match (x.script.headD exhausted).read? batchResults? with
      | some found => out.1 = partVerdicts offset items.length found
      | none => ∃ e, out.1 = .error e := by
  obtain ⟨took, answer⟩ :=
    postToStore_sent (batchBody offset items c.modelId) batchResults? sendable reachable
  simp only [checkPart]
  generalize c.postToStore "batch-check" (batchBody offset items c.modelId) batchResults? x = out
    at took answer
  obtain ⟨result, x'⟩ := out
  cases result with
  | error e =>
    refine ⟨took, ?_⟩
    split
    · next found read => cases (answer found).2 read
    · exact ⟨e, rfl⟩
  | ok found =>
    refine ⟨took, ?_⟩
    rw [(answer found).1 rfl]
    rfl

/-- Parts are sent one after the other. -/
theorem checkParts_sent (sendable : c.target? "batch-check" = some target)
    (parts : List (Nat × List CheckItem)) {x : Exchange} (reachable : x.reachable = true) :
    let out := c.checkParts parts x
    ∃ requests, x.Took requests out.2 ∧ Batched c target parts (x.answers requests) out.1 := by
  induction parts generalizing x with
  | nil => exact ⟨[], .refl x, .done⟩
  | cons p parts ih =>
    obtain ⟨offset, items⟩ := p
    obtain ⟨took, answer⟩ := checkPart_sent sendable reachable offset items
    simp only [checkParts]
    generalize c.checkPart offset items x = out at took answer
    obtain ⟨result, x'⟩ := out
    cases result with
    | error e =>
      refine ⟨_, took, ?_⟩
      rw [Exchange.answers_singleton]
      refine .failed fun found read => ?_
      rw [read] at answer
      exact answer.symm
    | ok verdicts =>
      obtain ⟨requests, later, run⟩ := ih (took.reachable.trans reachable)
      refine ⟨_, took.trans later, ?_⟩
      rw [took.answers_append, Exchange.answers_singleton]
      cases read : (x.script.headD exhausted).read? batchResults? with
      | none =>
        rw [read] at answer
        obtain ⟨e, failed⟩ := answer
        cases failed
      | some found =>
        rw [read] at answer
        exact .passed read answer.symm run

/-- A batch that cannot be sent fails with its first part. -/
theorem checkParts_unsent {x : Exchange}
    (h : c.target? "batch-check" = none ∨ x.reachable = false)
    (p : Nat × List CheckItem) (parts : List (Nat × List CheckItem)) :
    ∃ e, c.checkParts (p :: parts) x = (.error e, x) := by
  obtain ⟨offset, items⟩ := p
  obtain ⟨e, failed⟩ := postToStore_unsent (batchBody offset items c.modelId) batchResults? h
  exact ⟨e, by simp only [checkParts, checkPart, failed]⟩

/-- A batch is sent in consecutive parts. -/
theorem checkBatch_sent (sendable : c.target? "batch-check" = some target)
    (items : List CheckItem) {x : Exchange} (reachable : x.reachable = true) :
    Batched c target (inParts maxBatchSize items) (x.rounds (c.checkBatch items x).2)
      (c.checkBatch items x).1 := by
  obtain ⟨requests, took, run⟩ := checkParts_sent sendable (inParts maxBatchSize items) reachable
  rw [← took.rounds_eq] at run
  exact run

/-- The requests of a batch are its first parts. -/
theorem Batched.requests {parts : List (Nat × List CheckItem)} {rounds : List Round}
    {result : Except Engine.Error (List Bool)} (run : Batched c target parts rounds result) :
    rounds.map (·.request) = (parts.take rounds.length).map fun p =>
      c.posted target (batchBody p.1 p.2 c.modelId) := by
  induction run with
  | done => rfl
  | failed => rfl
  | passed _ _ _ ih =>
    rw [List.map_cons, ih]
    rfl

theorem Batched.request_of_mem {parts : List (Nat × List CheckItem)} {rounds : List Round}
    {result : Except Engine.Error (List Bool)} (run : Batched c target parts rounds result)
    {round : Round} (member : round ∈ rounds) :
    ∃ p ∈ parts, round.request = c.posted target (batchBody p.1 p.2 c.modelId) := by
  have request := List.mem_map_of_mem (f := Round.request) member
  rw [run.requests] at request
  obtain ⟨p, inside, same⟩ := List.mem_map.1 request
  exact ⟨p, List.mem_of_mem_take inside, same.symm⟩

/-- What the requests of a batch carry are its checks, in order, from the first on. -/
theorem Batched.carried_prefix {size offset : Nat} {items : List CheckItem}
    {parts : List (Nat × List CheckItem)} {rounds : List Round}
    {result : Except Engine.Error (List Bool)} (run : Batched c target parts rounds result)
    (cut : Consecutive size offset items parts) :
    (rounds.flatMap fun round => carried round.request) <+: correlated offset items ∧
      (rounds.length = parts.length →
        (rounds.flatMap fun round => carried round.request) = correlated offset items) := by
  have whole : (parts.flatMap fun p => correlated p.1 p.2) = correlated offset items := by
    rw [correlated, ← cut.flatMap_zipIdx, List.map_flatMap]
    rfl
  have sent : (rounds.flatMap fun round => carried round.request) =
      (parts.take rounds.length).flatMap fun p => correlated p.1 p.2 := by
    have requests := congrArg (·.flatMap carried) run.requests
    simpa only [List.flatMap_map, carried_posted] using requests
  rw [sent, ← whole]
  constructor
  · refine ⟨(parts.drop rounds.length).flatMap fun p => correlated p.1 p.2, ?_⟩
    rw [← List.flatMap_append, List.take_append_drop]
  · intro all
    rw [all, List.take_length]

end Client

end Rebac.Http
