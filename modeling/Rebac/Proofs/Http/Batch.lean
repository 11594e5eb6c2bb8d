import Rebac.Proofs.Http.Answer
import Rebac.Proofs.Http.Parts

/-!
# Answers to batches

What a client makes of the answers to a batch, whatever its length: the verdicts of the server in
the order of the checks, or the failure of the first check without a verdict.
-/

namespace Rebac.Http

/-- A response answers a batch with a document: with success, and a body that is taken for it. -/
structure Response.Answers (response : Response) (doc : Json) : Prop where
  given : ∃ status body, response = .reply status body ∧ isSuccess status = true ∧
    TakenFor batchShape body doc
  batch : isBatch doc = true

theorem Response.Answers.read {response : Response} {doc : Json} (h : response.Answers doc) :
    ∃ found, response.read? batchResults? = some found ∧
      ∀ index, Client.batchVerdict found index = verdictIn doc index := by
  obtain ⟨status, body, rfl, success, taken⟩ := h.given
  obtain ⟨found, read⟩ := Option.isSome_iff_exists.1 (batchResults?_isSome taken h.batch)
  exact ⟨found, by simp only [Response.read?, success, if_true, read], batchVerdict_eq taken read⟩

theorem verdictIn_of_graded {doc : Json} {index : Nat} {verdict : Bool}
    (h : graded? doc (toString index) = some verdict) : verdictIn doc index = .ok verdict := by
  obtain ⟨result, found, h⟩ := Option.bind_eq_some_iff.1 h
  split at h
  · next given fine =>
    cases h
    simp only [verdictIn, found, fine, allows, given]
    cases verdict <;> rfl
  · cases h

theorem verdictIn_ok {doc : Json} {index : Nat} {verdict : Bool}
    (h : verdictIn doc index = .ok verdict) : isFaulty doc (toString index) = false := by
  simp only [verdictIn] at h
  split at h
  · cases h
  · next result found =>
    split at h
    · cases h
    · next fine => simp only [isFaulty, found, Option.all_some, fine, Option.isSome_none]

theorem verdictIn_error {doc : Json} {index : Nat} {e : Engine.Error}
    (h : verdictIn doc index = .error e) :
    (resultOf? doc (toString index) = none ∧ e = .missingBatchResult index) ∨
      ∃ result error, resultOf? doc (toString index) = some result ∧
        reported? result = some error ∧ e = .batchItem index (errorText error) := by
  simp only [verdictIn] at h
  split at h
  · next absent =>
    cases h
    exact .inl ⟨absent, rfl⟩
  · next result found =>
    split at h
    · next error told =>
      cases h
      exact .inr ⟨result, error, found, told, rfl⟩
    · cases h

/-- Some check that a round carries is left without a verdict by its answer. -/
def Round.Faulted (round : Round) : Prop :=
  ∃ doc, round.response.Answers doc ∧ ∃ asked ∈ carried round.request, isFaulty doc asked.1 = true

/-- A batch stops at a check: the rounds before are without fault, the round of the check is the
last, no check before it in that round is without a verdict, and the failure tells its index. -/
structure StopsAt (rounds : List Round) (result : Except Engine.Error (List Bool))
    (earlier : List Round) (last : Round) (doc : Json) (index : Nat) (item : CheckItem) : Prop where
  sent : rounds = earlier ++ [last]
  earlierFine : ∀ round ∈ earlier, ¬ round.Faulted
  answered : last.response.Answers doc
  asked : (toString index, item) ∈ carried last.request
  least : ∀ i other, i < index → (toString i, other) ∈ carried last.request →
    isFaulty doc (toString i) = false
  failure : (resultOf? doc (toString index) = none ∧
      result = .error (.missingBatchResult index)) ∨
    ∃ found error, resultOf? doc (toString index) = some found ∧ reported? found = some error ∧
      result = .error (.batchItem index (errorText error))

namespace Client

variable {c : Client} {target : String}

/-- A part that gets all its verdicts is without fault, whichever document its answer is read as. -/
theorem not_faulted {offset : Nat} {part : List CheckItem} {response : Response}
    {found : List (String × BatchResult)} {verdicts : List Bool}
    (read : response.read? batchResults? = some found)
    (each : partVerdicts offset part.length found = .ok verdicts) :
    ¬ Round.Faulted ⟨c.posted target (batchBody offset part c.modelId), response⟩ := by
  rintro ⟨doc, answers, asked, member, faulty⟩
  obtain ⟨found', read', same⟩ := answers.read
  cases read.symm.trans read'
  obtain ⟨i, item, here, rfl⟩ := mem_carried_posted.1 member
  obtain ⟨length, verdict⟩ := partVerdicts_ok each
  have short : i < verdicts.length := length ▸ (List.getElem?_eq_some_iff.1 here).1
  have fine := verdict i _ (List.getElem?_eq_getElem short)
  rw [verdictIn_ok ((same _).symm.trans fine)] at faulty
  cases faulty

theorem partVerdicts_graded {offset : Nat} {part : List CheckItem}
    {found : List (String × BatchResult)} {verdicts : List Bool} {verdict : CheckItem → Bool}
    (each : partVerdicts offset part.length found = .ok verdicts)
    (graded : ∀ i item, part[i]? = some item →
      batchVerdict found (offset + i) = .ok (verdict item)) : verdicts = part.map verdict := by
  obtain ⟨count, each⟩ := partVerdicts_ok each
  refine List.ext_getElem? fun i => ?_
  rw [List.getElem?_map]
  cases given : verdicts[i]? with
  | none =>
    rw [List.getElem?_eq_none_iff, count, ← List.getElem?_eq_none_iff] at given
    rw [given]
    rfl
  | some b =>
    have short := (List.getElem?_eq_some_iff.1 given).1
    have here := List.getElem?_eq_getElem (count ▸ short)
    cases (each i b given).symm.trans (graded i _ here)
    rw [here]
    rfl

/-- Where every check has its verdict, the batch has them all. -/
theorem Batched.graded {offset : Nat} {items : List CheckItem}
    {parts : List (Nat × List CheckItem)} {rounds : List Round}
    {result : Except Engine.Error (List Bool)} (run : Batched c target parts rounds result)
    (cut : Consecutive maxBatchSize offset items parts) {verdict : CheckItem → Bool}
    (graded : ∀ round ∈ rounds, ∃ doc, round.response.Answers doc ∧
      ∀ asked ∈ carried round.request, graded? doc asked.1 = some (verdict asked.2)) :
    result = .ok (items.map verdict) ∧ rounds.length = parts.length := by
  induction run generalizing offset items with
  | done =>
    cases cut
    exact ⟨rfl, rfl⟩
  | @failed offset part _ response e reason =>
    obtain ⟨doc, answers, grades⟩ := graded _ List.mem_cons_self
    obtain ⟨found, read, same⟩ := answers.read
    obtain ⟨i, inside, failed, -⟩ := partVerdicts_error (reason found read)
    have here := List.getElem?_eq_getElem inside
    have fine := verdictIn_of_graded (grades _ (mem_carried_posted.2 ⟨i, part[i], here, rfl⟩))
    rw [same, fine] at failed
    cases failed
  | @passed offset part _ response found verdicts _ result read each later ih =>
    cases cut with
    | cons filled few full rest =>
      obtain ⟨rfl, length⟩ := ih rest fun round member =>
        graded round (List.mem_cons_of_mem _ member)
      obtain ⟨doc, answers, grades⟩ := graded _ List.mem_cons_self
      obtain ⟨found', read', same⟩ := answers.read
      cases read.symm.trans read'
      rw [partVerdicts_graded each fun i item here => (same _).trans <|
        verdictIn_of_graded (grades _ (mem_carried_posted.2 ⟨i, item, here, rfl⟩)), List.map_append]
      exact ⟨rfl, congrArg (· + 1) length⟩

/-- Where some check has no verdict, the batch stops at the first. -/
theorem Batched.stops {parts : List (Nat × List CheckItem)} {rounds : List Round}
    {result : Except Engine.Error (List Bool)} (run : Batched c target parts rounds result)
    (answered : ∀ round ∈ rounds, ∃ doc, round.response.Answers doc)
    (faulted : ∃ round ∈ rounds, round.Faulted) :
    ∃ earlier last doc index item, StopsAt rounds result earlier last doc index item := by
  induction run with
  | done =>
    obtain ⟨_, member, -⟩ := faulted
    cases member
  | @failed offset part _ response e reason =>
    obtain ⟨doc, answers⟩ := answered _ List.mem_cons_self
    obtain ⟨found, read, same⟩ := answers.read
    obtain ⟨i, inside, failed, before⟩ := partVerdicts_error (reason found read)
    have here := List.getElem?_eq_getElem inside
    refine ⟨[], _, doc, offset + i, part[i], rfl, by simp, answers,
      mem_carried_posted.2 ⟨i, part[i], here, rfl⟩, fun j other less member => ?_, ?_⟩
    · obtain ⟨k, item, -, eq⟩ := mem_carried_posted.1 member
      obtain rfl : j = offset + k := toString_injective (congrArg Prod.fst eq)
      obtain ⟨verdict, fine⟩ := before k (by omega)
      exact verdictIn_ok ((same _).symm.trans fine)
    · rw [same] at failed
      obtain ⟨absent, rfl⟩ | ⟨result, error, found, told, rfl⟩ := verdictIn_error failed
      · exact .inl ⟨absent, rfl⟩
      · exact .inr ⟨result, error, found, told, rfl⟩
  | @passed offset part _ response found verdicts rounds result read each later ih =>
    have fine : ¬ Round.Faulted ⟨c.posted target (batchBody offset part c.modelId), response⟩ :=
      not_faulted read each
    obtain ⟨earlier, last, doc, index, item, stops⟩ := ih
      (fun round member => answered round (List.mem_cons_of_mem _ member)) (by
        obtain ⟨round, member, faulted⟩ := faulted
        obtain rfl | member := List.mem_cons.1 member
        · exact absurd faulted fine
        · exact ⟨round, member, faulted⟩)
    refine ⟨_ :: earlier, last, doc, index, item, by rw [stops.sent]; rfl, fun round member => ?_,
      stops.answered, stops.asked, stops.least, ?_⟩
    · obtain rfl | member := List.mem_cons.1 member
      · exact fine
      · exact stops.earlierFine round member
    · obtain ⟨absent, rfl⟩ | ⟨found, error, here, told, rfl⟩ := stops.failure
      · exact .inl ⟨absent, rfl⟩
      · exact .inr ⟨found, error, here, told, rfl⟩

/-- The checks of a batch go out in requests of at most fifty, in their order. Where each request is
answered with the verdicts on its checks, those are the result. Where the answers leave some check
without a verdict, the first such check fails the batch, and nothing more is sent. -/
theorem checkBatch_follows_answers (c : Client) (items : List CheckItem) (x : Exchange)
    {target : String} (sendable : c.target? "batch-check" = some target)
    (reachable : x.reachable = true) :
    let result := (c.checkBatch items x).1
    let rounds := x.rounds (c.checkBatch items x).2
    (∀ round ∈ rounds, round.request.method = .post ∧ round.request.path = target ∧
      1 ≤ (carried round.request).length ∧ (carried round.request).length ≤ 50) ∧
    (∀ verdict : CheckItem → Bool,
      (∀ round ∈ rounds, ∃ doc, round.response.Answers doc ∧
        ∀ asked ∈ carried round.request, graded? doc asked.1 = some (verdict asked.2)) →
      result = .ok (items.map verdict) ∧ rounds.length = (items.length + 49) / 50 ∧
        (rounds.flatMap fun round => (carried round.request).map (·.2)) = items ∧
        (rounds.flatMap fun round => (carried round.request).map (·.1)).Nodup) ∧
    ((∀ round ∈ rounds, ∃ doc, round.response.Answers doc) → (∃ round ∈ rounds, round.Faulted) →
      ∃ earlier last doc index item, items[index]? = some item ∧
        StopsAt rounds result earlier last doc index item) := by
  have run := checkBatch_sent sendable items reachable
  have cut : Consecutive maxBatchSize 0 items (inParts maxBatchSize items) :=
    inParts_consecutive (by decide) items
  obtain ⟨inOrder, whole⟩ := run.carried_prefix cut
  refine ⟨fun round member => ?_, fun verdict graded => ?_, fun answered faulted => ?_⟩
  · obtain ⟨p, inside, request⟩ := run.request_of_mem member
    have long : (carried round.request).length = p.2.length := by
      simp only [request, carried_posted, correlated, List.length_map, List.length_zipIdx]
    rw [long, request]
    exact ⟨rfl, rfl, cut.length_part inside⟩
  · obtain ⟨verdicts, length⟩ := run.graded cut graded
    have sent := whole length
    refine ⟨verdicts, length.trans (length_inParts ..), ?_, ?_⟩
    · rw [← List.map_flatMap, sent, correlated_items]
    · rw [← List.map_flatMap, sent]
      exact nodup_correlated 0 items
  · obtain ⟨earlier, last, doc, index, item, stops⟩ := run.stops answered faulted
    refine ⟨earlier, last, doc, index, item, ?_, stops⟩
    have member : last ∈ x.rounds (c.checkBatch items x).2 := by
      rw [stops.sent]
      exact List.mem_append_right _ List.mem_cons_self
    have asked := inOrder.subset (List.mem_flatMap.2 ⟨last, member, stops.asked⟩)
    obtain ⟨i, item', here, same⟩ := mem_correlated.1 asked
    cases toString_injective (congrArg Prod.fst same)
    cases same
    rwa [Nat.zero_add]

/-- The one round of a batch that fits into a request. -/
theorem round_of_answering {items : List CheckItem} {body : String}
    (one : inParts maxBatchSize items = [(0, items)])
    (sendable : localClient.target? "batch-check" = some target)
    (responses : ((answering body).rounds (localClient.checkBatch items (answering body)).2).map
      (·.response) = [.reply 200 body]) {round : Round}
    (member : round ∈ (answering body).rounds (localClient.checkBatch items (answering body)).2) :
    round.response = .reply 200 body ∧ carried round.request = correlated 0 items := by
  have response := List.mem_map_of_mem (f := Round.response) member
  rw [responses, List.mem_singleton] at response
  obtain ⟨p, inside, request⟩ := (checkBatch_sent sendable items rfl).request_of_mem member
  rw [one, List.mem_singleton] at inside
  rw [request, inside]
  exact ⟨response, carried_posted ..⟩

/-- Two checks, whose results come in the other order. -/
theorem checkBatch_follows_answers_pair :
    let body := "\x7b\"result\":\x7b\"1\":\x7b\"allowed\":false\x7d," ++
      "\"0\":\x7b\"allowed\":true\x7d\x7d\x7d"
    let items := [readerCheck "user:anne", readerCheck "user:bob"]
    localClient.target? "batch-check" = some "/stores/s/batch-check" ∧
      (answering body).reachable = true ∧
      (localClient.checkBatch items (answering body)).1 = .ok [true, false] := by
  intro body items
  have sendable : localClient.target? "batch-check" = some "/stores/s/batch-check" := by
    decide +kernel
  refine ⟨sendable, rfl, ?_⟩
  refine ((checkBatch_follows_answers localClient items (answering body) sendable rfl).2.1
    (·.user = "user:anne") fun round member => ?_).1
  have one : inParts maxBatchSize items = [(0, items)] := by
    simp [inParts, maxBatchSize, items, List.range_succ]
  obtain ⟨response, asked⟩ := round_of_answering one sendable (by decide +kernel) member
  have said : (Json.readAsWritten? body).any (fun doc => isBatch doc &&
      graded? doc (toString 0) = some true && graded? doc (toString 1) = some false) = true := by
    decide +kernel
  obtain ⟨doc, read, said⟩ := (Option.any_eq_true _ _).1 said
  simp only [Bool.and_eq_true, decide_eq_true_eq] at said
  obtain ⟨⟨batch, anne⟩, bob⟩ := said
  refine ⟨doc, ⟨⟨200, body, response, rfl, .inl read⟩, batch⟩, ?_⟩
  rw [asked]
  intro entry inside
  have either : entry = (toString 0, readerCheck "user:anne") ∨
      entry = (toString 1, readerCheck "user:bob") := by
    simpa [correlated, items] using inside
  obtain rfl | rfl := either
  · exact anne
  · exact bob

/-- An entry that no check asked for and that is no result makes the whole answer unreadable, though
each check that was asked has its verdict. -/
theorem checkBatch_spoilt_by_other_entry :
    let body := "\x7b\"result\":\x7b\"0\":\x7b\"allowed\":true\x7d,\"x\":\"y\"\x7d\x7d"
    let items := [readerCheck "user:anne"]
    let out := localClient.checkBatch items (answering body)
    (∀ round ∈ (answering body).rounds out.2, round.response = .reply 200 body ∧
      ∃ doc, Json.readAsWritten? body = some doc ∧
        ∀ asked ∈ carried round.request, graded? doc asked.1 = some true) ∧
      out.1 ≠ .ok [true] := by
  intro body items out
  have sendable : localClient.target? "batch-check" = some "/stores/s/batch-check" := by
    decide +kernel
  have one : inParts maxBatchSize items = [(0, items)] := by
    simp [inParts, maxBatchSize, items, List.range_succ]
  constructor
  · intro round member
    obtain ⟨response, asked⟩ := round_of_answering one sendable (by decide +kernel) member
    have said : (Json.readAsWritten? body).any
        (fun doc => graded? doc (toString 0) = some true) = true := by
      decide +kernel
    obtain ⟨doc, read, anne⟩ := (Option.any_eq_true _ _).1 said
    refine ⟨response, doc, read, fun entry inside => ?_⟩
    have only : entry = (toString 0, readerCheck "user:anne") := by
      simpa [asked, correlated, items] using inside
    subst only
    exact of_decide_eq_true anne
  · intro granted
    have failed : out.1.toOption = none := by decide +kernel
    rw [granted] at failed
    cases failed

end Client

end Rebac.Http
