import Rebac.Proofs.Access.Inspection
import Rebac.Proofs.Access.ScriptedFailure
import Rebac.Proofs.Engine.Stored
import Rebac.Proofs.Text.Affix

/-!
# What a history of commits leaves

The recorded engine keeps a list of tuples, with repeats and conditions. The main statement says
what the list means: a relationship is in it exactly when some commit of the run wrote it and none
after that deleted it. So the objects that a query lists are those of the relationships present, and
commits that touch different relationships can change places.
-/

namespace Rebac.Engine

/-- The write that a request asks for, if it is one. -/
def Request.write? : Request → Option WriteRequest
  | .write changes => some changes
  | _ => none

/-! ## Relationships over a list of commits -/

/-- The stored tuples after more commits. -/
def storedAfterAll (commits : List WriteRequest) (stored : List Tuple) : List Tuple :=
  commits.foldl (fun stored commit => Recorded.storedAfter commit stored) stored

theorem storedAfterAll_append (commits more : List WriteRequest) (stored : List Tuple) :
    storedAfterAll (commits ++ more) stored = storedAfterAll more (storedAfterAll commits stored) :=
  List.foldl_append

/-- A relationship is present after some commits: one of them wrote it, and none after that deleted
it. A commit that both deletes and writes it leaves it present. -/
def Present (commits : List WriteRequest) (r : Relationship) : Prop :=
  ∃ before commit later, commits = before ++ commit :: later ∧
    r ∈ relationships commit.writes ∧ ∀ d ∈ later, r ∉ relationships d.deletes

/-- The last commit decides about what it names. What it both writes and deletes is there after it.
-/
theorem present_snoc (commits : List WriteRequest) (last : WriteRequest) (r : Relationship) :
    Present (commits ++ [last]) r ↔
      (Present commits r ∧ r ∉ relationships last.deletes) ∨ r ∈ relationships last.writes := by
  constructor
  · rintro ⟨before, commit, later, split, written, undeleted⟩
    rcases List.eq_nil_or_concat later with rfl | ⟨init, final, rfl⟩
    · obtain ⟨-, same⟩ := List.append_inj' split rfl
      obtain rfl := List.singleton_inj.mp same
      exact .inr written
    · rw [List.concat_eq_append, ← List.cons_append, ← List.append_assoc] at split
      obtain ⟨rfl, same⟩ := List.append_inj' split rfl
      obtain rfl := List.singleton_inj.mp same
      refine .inl ⟨⟨before, commit, init, rfl, written, ?_⟩, undeleted last (by simp)⟩
      intro d mem
      exact undeleted d (by simp [mem])
  · rintro (⟨⟨before, commit, later, rfl, written, undeleted⟩, kept⟩ | written)
    · refine ⟨before, commit, later ++ [last], by simp, written, ?_⟩
      intro d mem
      rcases List.mem_append.mp mem with early | final
      · exact undeleted d early
      · exact List.mem_singleton.mp final ▸ kept
    · exact ⟨commits, last, [], rfl, written, by simp⟩

/-- The stored tuples have exactly the relationships that are present. By induction from the last
commit. -/
theorem mem_storedAfterAll (commits : List WriteRequest) (r : Relationship) :
    r ∈ relationships (storedAfterAll commits []) ↔ Present commits r := by
  induction commits using List.reverseRecOn with
  | nil => simp [storedAfterAll, relationships, Present]
  | append_singleton commits last ih =>
    rw [present_snoc, ← ih, storedAfterAll_append]
    exact Recorded.mem_storedAfter last (storedAfterAll commits []) r

/-- Commits that follow tell two stores apart no better than before. -/
theorem mem_storedAfterAll_congr {stored stored' : List Tuple} {r : Relationship}
    (same : r ∈ relationships stored ↔ r ∈ relationships stored') (later : List WriteRequest) :
    r ∈ relationships (storedAfterAll later stored) ↔
      r ∈ relationships (storedAfterAll later stored') := by
  induction later generalizing stored stored' with
  | nil => exact same
  | cons commit later ih =>
    refine ih ?_
    rw [Recorded.mem_storedAfter, Recorded.mem_storedAfter, same]

/-- A commit touches the relationships that it writes or deletes. -/
def WriteRequest.Touches (commit : WriteRequest) (r : Relationship) : Prop :=
  r ∈ relationships commit.writes ∨ r ∈ relationships commit.deletes

/-- No relationship is touched by both of two commits. -/
def WriteRequest.Disjoint (a b : WriteRequest) : Prop := ∀ r, ¬ (a.Touches r ∧ b.Touches r)

/-- Two commits that touch different relationships leave the same in either order. -/
theorem mem_storedAfter_comm {a b : WriteRequest} (apart : a.Disjoint b) (stored : List Tuple)
    (r : Relationship) :
    r ∈ relationships (Recorded.storedAfter b (Recorded.storedAfter a stored)) ↔
      r ∈ relationships (Recorded.storedAfter a (Recorded.storedAfter b stored)) := by
  have untouched := apart r
  simp only [WriteRequest.Touches] at untouched
  simp only [Recorded.mem_storedAfter]
  tauto

/-- Commits that share no relationship may come in either order. -/
theorem present_swap {a b : WriteRequest} (apart : a.Disjoint b)
    (before later : List WriteRequest) (r : Relationship) :
    Present (before ++ a :: b :: later) r ↔ Present (before ++ b :: a :: later) r := by
  rw [← mem_storedAfterAll, ← mem_storedAfterAll, storedAfterAll_append, storedAfterAll_append]
  exact mem_storedAfterAll_congr (mem_storedAfter_comm apart _ r) later

end Rebac.Engine

namespace Rebac.Access

open Engine (Recorded recorded Request WriteRequest relationships storedAfterAll Present)
open Naming (Entity)

/-! ## The commits of a run -/

/-- The writes among the requests of a call, where it went well. -/
def writesOf {α : Type} (result : Except Failure α) (sent : List Request) : List WriteRequest :=
  match result with
  | .ok _ => sent.filterMap Request.write?
  | .error _ => []

theorem writesOf_nil {α : Type} (result : Except Failure α) : writesOf result [] = [] := by
  cases result <;> rfl

/-- What is stored changes by the commit that came out, and by nothing else. -/
theorem Settled.stored_eq {α : Type} {s s' : Recorded} {cancelled : Bool}
    {request? : Option Request} {result : Except Failure α}
    (settled : Settled s cancelled request? result s') :
    s'.stored = storedAfterAll (writesOf result (if cancelled then [] else request?.toList))
      s.stored := by
  cases settled with
  | refused | skipped | failed => rfl
  | done a silent =>
    rw [silent]
    cases cancelled <;> rfl
  | answered request a going asked =>
    rw [going, asked]
    cases request <;> rfl

namespace Session

variable {ε : Type}

/-- The commit of an act, where it went well: of a mutation, of members or users that are added, or
of a write to the engine itself. -/
def committed (s : Session ε Recorded) : Act → List WriteRequest
  | .call call => writesOf (s.step call).1 (s.sent call)
  | .allow _ | .scriptFailure .. | .hang => []

/-- The commits of acts that went well, in order. -/
def commitsFrom : Session ε Recorded → List Act → List WriteRequest
  | _, [] => []
  | s, act :: rest => s.committed act ++ commitsFrom (s.take act) rest

/-- The commits that went well over a fresh recorded engine. -/
def commits (permissions : Permissions ε) (acts : List Act) : List WriteRequest :=
  commitsFrom (start permissions) acts

theorem commitsFrom_snoc (s : Session ε Recorded) (acts : List Act) (act : Act) :
    commitsFrom s (acts ++ [act]) = commitsFrom s acts ++ (acts.foldl take s).committed act := by
  induction acts generalizing s with
  | nil => simp [commitsFrom]
  | cons first acts ih =>
    rw [List.cons_append, commitsFrom, commitsFrom, ih, List.append_assoc]
    rfl

/-- One act commits what it says, or nothing. -/
theorem stored_take (permissions : Permissions ε) (acts : List Act) (act : Act) :
    ((ran permissions acts).take act).state.stored =
      storedAfterAll ((ran permissions acts).committed act)
        (ran permissions acts).state.stored := by
  cases act with
  | call call => exact (settled_ran permissions acts call).stored_eq
  | allow r => exact (allow_requests r _).2.2.2
  | scriptFailure | hang => rfl

/-- What is stored after a run is what its commits leave, and nothing else changes it. -/
theorem stored_ran (permissions : Permissions ε) (acts : List Act) :
    (ran permissions acts).state.stored = storedAfterAll (commits permissions acts) [] := by
  induction acts using List.reverseRecOn with
  | nil => rfl
  | append_singleton acts act ih =>
    rw [ran_snoc, stored_take, ih, commits, commits, commitsFrom_snoc,
      Engine.storedAfterAll_append]
    rfl

/-- What is stored after any acts is what their commits leave present. -/
theorem mem_stored_ran (permissions : Permissions ε) (acts : List Act) (r : Relationship) :
    r ∈ relationships (ran permissions acts).state.stored ↔
      Present (commits permissions acts) r := by
  rw [stored_ran, Engine.mem_storedAfterAll]

end Session

/-! ## The objects of an accessor -/

/-- A recorded engine with nothing to fail with lists the objects of a type in the stored tuples of
an accessor. -/
theorem listAllObjects_eq {s : Recorded} (sound : fault? s = none) (accessor : Entity)
    (resourceType : String) :
    (listAllObjects recorded false accessor resourceType s).1 =
      .ok (distinct ((s.stored.filter fun t => t.user = accessor.reference &&
        Text.beginsWith t.object (Naming.typeToken resourceType ++ ":")).map (·.object))) := by
  obtain ⟨awake, unscripted⟩ := fault?_eq_none.mp sound
  have colon : Text.endsWith (Naming.typeToken resourceType ++ ":") ":" = true := by
    rw [endsWith_colon]
    exact ⟨(Naming.typeToken resourceType).toList, by simp⟩
  have matched : Recorded.matchesFilter
        ⟨some accessor.reference, some (Naming.typeToken resourceType ++ ":")⟩ =
      fun t => t.user = accessor.reference &&
        Text.beginsWith t.object (Naming.typeToken resourceType ++ ":") := by
    funext t
    simp only [Recorded.matchesFilter, colon, if_true]
  simp only [listAllObjects, attempt, recorded, Recorded.respond, Recorded.log, awake, unscripted,
    Bool.false_eq_true, if_false, Except.map, matched]

theorem mem_listed {stored : List Tuple} {user lead object : String} :
    object ∈ (stored.filter fun t => t.user = user && Text.beginsWith t.object lead).map
        (·.object) ↔
      Text.beginsWith object lead = true ∧
        ∃ relation, ⟨object, relation, user⟩ ∈ relationships stored := by
  simp only [List.mem_map, List.mem_filter, Bool.and_eq_true, decide_eq_true_eq, relationships]
  constructor
  · rintro ⟨t, ⟨mem, owner, begins⟩, rfl⟩
    exact ⟨begins, t.relation, t, mem, by rw [Tuple.relationship, owner]⟩
  · rintro ⟨begins, relation, t, mem, same⟩
    cases same
    exact ⟨t, ⟨mem, rfl, begins⟩, rfl⟩

namespace Session

variable {ε : Type}

/-! ## Commits of two mutations -/

theorem mutation_commit (s : Session ε Recorded) {name other : String} (apart : name ≠ other)
    (cancelled : Bool) :
    ((s.step (.commit name cancelled)).2).mutation other = s.mutation other := by
  have put := mutation_putMutation s name other
    ((s.mutation name).1, ((s.mutation name).2.commit (s.engine (s.mutation name).1) cancelled
      s.state).1.2)
  rw [if_neg apart] at put
  exact put

/-- Where nothing lies ahead to fail with, a commit stores and deletes what is pending, and nothing
lies ahead afterwards. -/
theorem commit_sound {s : Session ε Recorded} (engines : ∀ handle, s.engine handle = recorded)
    (sound : fault? s.state = none) (name : String) :
    (s.step (.commit name false)).2.state.stored =
      Recorded.storedAfter (s.mutation name).2.request s.state.stored ∧
    fault? (s.step (.commit name false)).2.state = none := by
  have settled := settled_step engines (.commit name false)
  constructor
  · rw [settled.stored_eq]
    by_cases empty : (s.mutation name).2.isEmpty = true
    · have nothing : (s.mutation name).2.writes = [] ∧ (s.mutation name).2.deletes = [] := by
        simpa [Mutation.isEmpty] using empty
      have silent : s.request? (.commit name false) = none := if_pos empty
      simp only [silent, Option.toList_none, ite_self, writesOf_nil]
      simp [storedAfterAll, Recorded.storedAfter, Mutation.request, nothing]
    · have asked : s.request? (.commit name false) =
          some (.write (s.mutation name).2.request) := if_neg empty
      have ends := settled.of_reached (by simp [asked, Step.cancelled])
      rw [sound] at ends
      obtain ⟨answer, ok⟩ := ends
      rw [ok, asked]
      rfl
  · obtain ⟨awake, unscripted⟩ := fault?_eq_none.mp sound
    refine fault?_eq_none.mpr ⟨settled.hanging_eq.trans awake, ?_⟩
    refine Option.eq_none_iff_forall_ne_some.mpr ?_
    intro failure left
    obtain ⟨before, -⟩ := (settled.failNext_eq_some failure).mp left
    rw [unscripted] at before
    cases before

/-- Two commits of mutations that touch different relationships leave the same relationships in
either order. -/
theorem commit_commit {s : Session ε Recorded} (engines : ∀ handle, s.engine handle = recorded)
    (sound : fault? s.state = none) {first second : String} (other : first ≠ second) :
    ((s.take (.call (.commit first false))).take (.call (.commit second false))).state.stored =
      Recorded.storedAfter (s.mutation second).2.request
        (Recorded.storedAfter (s.mutation first).2.request s.state.stored) := by
  obtain ⟨stored, clear⟩ := commit_sound engines sound first
  have later : ∀ handle, (s.step (.commit first false)).2.engine handle = recorded := by
    intro handle
    rw [engine_step]
    exact engines handle
  obtain ⟨stored', -⟩ := commit_sound later clear second
  rw [take, take, stored', stored, mutation_commit s other]

/-- Over any run, a relationship is stored exactly when some commit that went well wrote it and none
after that deleted it. Unless requests hang or a failure lies ahead, a query for all objects of an
accessor gives each object once: those of the type that have some present relationship of the
accessor. Commits that touch different relationships can change places: neighbours in the history of
a run, and commits of two mutations at its end. -/
theorem ran_stores_last_written (permissions : Permissions ε) (acts : List Act) :
    (∀ r, r ∈ relationships (ran permissions acts).state.stored ↔
      Present (commits permissions acts) r) ∧
    (.hang ∉ acts → (∀ status message, ¬ Ahead permissions acts status message) →
      ∀ accessorType id resourceType, ∃ objects,
        ((ran permissions acts).step
          (.query (.allObjects ⟨accessorType, id⟩ resourceType) false)).1 =
            .ok (.references objects) ∧
        objects.Nodup ∧
        ∀ object, object ∈ objects ↔
          Text.beginsWith object (Naming.typeToken resourceType ++ ":") = true ∧
          ∃ relation, Present (commits permissions acts)
            ⟨object, relation, Naming.qualify accessorType id⟩) ∧
    (∀ acts' before a b later, a.Disjoint b →
      commits permissions acts = before ++ a :: b :: later →
      commits permissions acts' = before ++ b :: a :: later →
      ∀ r, r ∈ relationships (ran permissions acts).state.stored ↔
        r ∈ relationships (ran permissions acts').state.stored) ∧
    (.hang ∉ acts → (∀ status message, ¬ Ahead permissions acts status message) →
      ∀ first second, first ≠ second →
        ((ran permissions acts).mutation first).2.request.Disjoint
          ((ran permissions acts).mutation second).2.request →
        ∀ r, r ∈ relationships (ran permissions (acts ++
            [.call (.commit first false), .call (.commit second false)])).state.stored ↔
          r ∈ relationships (ran permissions (acts ++
            [.call (.commit second false), .call (.commit first false)])).state.stored) := by
  refine ⟨mem_stored_ran permissions acts, ?_, ?_, ?_⟩
  · intro awake clear accessorType id resourceType
    have sound := fault?_ran_eq_none awake clear
    have current : (ran permissions acts).current = recorded := ran_over permissions acts _
    have listed := listAllObjects_eq sound ⟨accessorType, id⟩ resourceType
    have firstSeen := firstSeen_distinct
      (((ran permissions acts).state.stored.filter fun t =>
        t.user = (⟨accessorType, id⟩ : Entity).reference &&
        Text.beginsWith t.object (Naming.typeToken resourceType ++ ":")).map (·.object))
    refine ⟨_, ?_, firstSeen.nodup, ?_⟩
    · simp only [step, runQuery, finish, current, listed]
      rfl
    · intro object
      rw [firstSeen.mem_iff, mem_listed]
      simp only [mem_stored_ran]
      rfl
  · intro acts' before a b later apart history history' r
    rw [mem_stored_ran, mem_stored_ran, history, history']
    exact Engine.present_swap apart before later r
  · intro awake clear first second other apart r
    have sound := fault?_ran_eq_none awake clear
    have engines := ran_over permissions acts
    have split (x y : Act) : acts ++ [x, y] = acts ++ [x] ++ [y] := by simp
    rw [split, split, ran_snoc, ran_snoc, ran_snoc, ran_snoc, commit_commit engines sound other,
      commit_commit engines sound other.symm]
    exact Engine.mem_storedAfter_comm apart _ r

end Session

end Rebac.Access
