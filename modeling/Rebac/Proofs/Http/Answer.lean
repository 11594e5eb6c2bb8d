import Rebac.Http.Client
import Rebac.Proofs.Json.Field

/-!
# What answers say

The bodies of answers to checks, read as documents: whether a check is allowed, and what a batch
says under the correlation of each of its checks.
-/

namespace Rebac.Http

open Json (Shape)

/-! ## Documents -/

/-- What the answer to a check looks like. -/
def checkShape : Shape := .record [("allowed", .free)]

/-- What the result of one check of a batch looks like. -/
def resultShape : Shape := .record [("allowed", .free), ("error", .free)]

/-- What the answer to a batch looks like. -/
def batchShape : Shape := .record [("result", .table resultShape)]

/-- The documents that a body is taken for: its own where it is one, and those that cannot be told
from it by what a shape asks for. -/
def TakenFor (shape : Shape) (body : String) (doc : Json) : Prop :=
  Json.readAsWritten? body = some doc ∨ shape.read? body = shape.restrict? doc

/-- A body that is taken for a document is read as the part of it that the shape asks for. -/
theorem TakenFor.read {shape : Shape} {body : String} {doc : Json}
    (h : TakenFor shape body doc) : shape.read? body = shape.restrict? doc :=
  h.elim Json.read?_of_readAsWritten? id

/-- Whether a record says `allowed`, and says literally that it is true. -/
def allows (record : Json) : Bool :=
  match record.given 0 "allowed" with
  | [.bool true] => true
  | _ => false

/-- The error that a result reports. One that is null reports nothing. -/
def reported? (result : Json) : Option Json := (result.given 1 "error").find? (!·.isNull)

/-- The results in the answer to a batch, by correlation. -/
def results (doc : Json) : List (String × Json) :=
  match doc.given 0 "result" with
  | [.obj entries] => entries
  | _ => []

/-- The result under a correlation. Of several the last counts. -/
def resultOf? (doc : Json) (correlation : String) : Option Json :=
  Keyed.find? (results doc).reverse correlation

/-- The verdict given under a correlation: by a result that says literally whether it is allowed,
and that reports no error. -/
def graded? (doc : Json) (correlation : String) : Option Bool := do
  let result ← resultOf? doc correlation
  match result.given 0 "allowed", reported? result with
  | [.bool verdict], none => some verdict
  | _, _ => none

/-- Whether there is no result under a correlation, or one that reports an error. -/
def isFaulty (doc : Json) (correlation : String) : Bool :=
  (resultOf? doc correlation).all fun result => (reported? result).isSome

/-- What an error says: its message, or else the error as it stands. -/
def errorText (error : Json) : String :=
  ((error.settled.get? "message").bind Json.str?).getD error.settled.print

/-- The verdict on a check in the answer to its batch. -/
def verdictIn (doc : Json) (index : Nat) : Except Engine.Error Bool :=
  match resultOf? doc (toString index) with
  | none => .error (.missingBatchResult index)
  | some result =>
    match reported? result with
    | some error => .error (.batchItem index (errorText error))
    | none => .ok (allows result)

/-- Whether a value is the result of a check. -/
def isResult (j : Json) : Bool :=
  j.isRecord ["allowed", "error"] && (j.given 0 "allowed").all (·.bool?.isSome)

/-- Whether a document is the answer to a batch: every entry under `result`, of a check that was
asked or not, is the result of a check. -/
def isBatch (doc : Json) : Bool :=
  doc.isRecord ["result"] && (doc.given 0 "result").all fun table =>
    table.obj?.any fun entries => entries.all fun entry => isResult entry.2

/-! ## Reading them -/

/-- A record allows what it was asked if it gives one value for that, which is true. -/
theorem allows_iff {record : Json} :
    allows record = true ↔ record.given 0 "allowed" = [.bool true] := by
  unfold allows
  split <;> simp_all

/-- A flag that may be missing is read as it is given. -/
theorem allows_of_field {record : Json} {f : Json.Fields} {verdict : Bool}
    (field : Json.Field (record.given 0 "allowed") .free (Keyed.find? f.values "allowed"))
    (read : f.defaulted? "allowed" false Json.bool? = some verdict) :
    allows record = verdict := by
  simp only [Json.Fields.defaulted?] at read
  obtain ⟨nothing, absent⟩ | ⟨j, v, alone, asked, held⟩ := field
  · rw [absent] at read
    cases read
    simp only [allows, nothing]
  · rw [held] at read
    rw [Json.restrict?_free] at asked
    cases asked
    cases j <;> simp only [Json.settled, Json.bool?, Option.some.injEq, reduceCtorEq] at read
    subst read
    simp only [allows, alone]
    split <;> simp_all

/-- The answer to a check is what its document allows. -/
theorem checkVerdict?_eq {body : String} {doc : Json} (taken : TakenFor checkShape body doc)
    {verdict : Bool} (h : checkVerdict? body = some verdict) : allows doc = verdict := by
  obtain ⟨view, read, h⟩ := Option.bind_eq_some_iff.1
    (show (checkShape.read? body).bind _ = _ from h)
  obtain ⟨f, fields, h⟩ := Option.bind_eq_some_iff.1 h
  rw [taken.read] at read
  exact allows_of_field (Shape.field_of_restrict? read fields (by decide) rfl) h

/-- An error that may be missing or null is read as it is given. -/
theorem reported?_of_field {result : Json} {f : Json.Fields} {error : Option Json}
    (field : Json.Field (result.given 1 "error") .free (Keyed.find? f.values "error"))
    (read : f.nullable? "error" some = some error) :
    error = (reported? result).map Json.settled := by
  simp only [Json.Fields.nullable?] at read
  obtain ⟨nothing, absent⟩ | ⟨j, v, alone, asked, held⟩ := field
  · rw [absent] at read
    cases read
    simp [reported?, nothing]
  · rw [held] at read
    rw [Json.restrict?_free] at asked
    cases asked
    simp only [reported?, alone]
    cases j
    all_goals
      simp only [Json.settled, Option.map_some, Option.some.injEq] at read
      subst read
      rfl

/-- The result of one check of a batch, as the client takes it from a document. -/
def batchResult? (result : Json) : Option BatchResult :=
  (resultShape.restrict? result).bind BatchResult.ofRecord?

theorem batchResult?_eq {result : Json} {r : BatchResult} (h : batchResult? result = some r) :
    r.allowed = allows result ∧ r.error = (reported? result).map Json.settled := by
  obtain ⟨view, read, h⟩ := Option.bind_eq_some_iff.1 h
  obtain ⟨f, fields, h⟩ := Option.bind_eq_some_iff.1 h
  obtain ⟨allowed, flag, h⟩ := Option.bind_eq_some_iff.1 h
  obtain ⟨error, complaint, h⟩ := Option.bind_eq_some_iff.1 h
  cases h
  exact ⟨(allows_of_field (Shape.field_of_restrict? read fields (by decide) rfl) flag).symm,
    reported?_of_field (Shape.field_of_restrict? read fields (by decide) rfl) complaint⟩

/-- The answer to one question of a batch is what the document says at its number. -/
theorem batchVerdict_eq {body : String} {doc : Json} (taken : TakenFor batchShape body doc)
    {found : List (String × BatchResult)} (h : batchResults? body = some found) (index : Nat) :
    Client.batchVerdict found index = verdictIn doc index := by
  obtain ⟨view, read, h⟩ := Option.bind_eq_some_iff.1
    (show (batchShape.read? body).bind _ = _ from h)
  obtain ⟨f, fields, h⟩ := Option.bind_eq_some_iff.1 h
  rw [taken.read] at read
  have field : Json.Field (doc.given 0 "result") _ _ :=
    Shape.field_of_restrict? read fields (by decide) rfl
  simp only [Json.Fields.defaulted?] at h
  simp only [Client.batchVerdict, verdictIn, resultOf?, results]
  obtain ⟨nothing, absent⟩ | ⟨j, v, alone, asked, held⟩ := field
  · rw [absent] at h
    cases h
    rw [nothing]
    rfl
  · rw [held] at h
    obtain ⟨ms, rfl, entries⟩ := Shape.entry_of_restrict? asked h
    rw [alone]
    obtain ⟨nothing, absent⟩ | ⟨result, r, given, read, found⟩ := entries (toString index)
    · simp only [nothing, absent]
    · obtain ⟨allowed, error⟩ := batchResult?_eq read
      simp only [given, found, BatchResult.errorMessage?, error, allowed, Option.map_map]
      cases reported? result <;> rfl

theorem batchResult?_isSome {result : Json} (h : isResult result = true) :
    (batchResult? result).isSome := by
  obtain ⟨record, flag⟩ := Bool.and_eq_true_iff.1 h
  have readable (place : Nat) (name : String) (shape : Shape)
      (found : [("allowed", Shape.free), ("error", .free)][place]? = some (name, shape)) (j : Json)
      (_ : j ∈ result.given place name) : (shape.restrict? j).isSome := by
    have free : shape = .free := by
      have member := List.mem_of_getElem? found
      simp only [List.mem_cons, Prod.mk.injEq, List.not_mem_nil, or_false] at member
      exact member.elim (·.2) (·.2)
    rw [free, Json.restrict?_free]
    rfl
  obtain ⟨view, f, read, fields⟩ :=
    @Shape.restrict?_of_isRecord [("allowed", .free), ("error", .free)] result record readable
  have allowed : (f.defaulted? "allowed" false Json.bool?).isSome := by
    have field : Json.Field (result.given 0 "allowed") _ _ :=
      Shape.field_of_restrict? read fields (by decide) rfl
    simp only [Json.Fields.defaulted?]
    obtain ⟨-, absent⟩ | ⟨j, v, alone, asked, held⟩ := field
    · rw [absent]
      rfl
    · rw [held]
      rw [Json.restrict?_free] at asked
      cases asked
      rw [alone] at flag
      cases j <;> first | rfl | cases flag
  have error : (f.nullable? "error" some).isSome := by
    simp only [Json.Fields.nullable?]
    split <;> rfl
  obtain ⟨allowed, flag⟩ := Option.isSome_iff_exists.1 allowed
  obtain ⟨error, complaint⟩ := Option.isSome_iff_exists.1 error
  have asked : view.fields? ["allowed", "error"] = some f := fields
  have taken : BatchResult.ofRecord? view = some ⟨allowed, error⟩ := by
    simp [BatchResult.ofRecord?, asked, flag, complaint]
  rw [batchResult?, show resultShape.restrict? result = some view from read]
  exact Option.isSome_iff_exists.2 ⟨_, taken⟩

theorem batchResults?_isSome {body : String} {doc : Json} (taken : TakenFor batchShape body doc)
    (h : isBatch doc = true) : (batchResults? body).isSome := by
  obtain ⟨record, tables⟩ := Bool.and_eq_true_iff.1 h
  have entries (table : Json) (member : table ∈ doc.given 0 "result") :
      ∃ view found, (Shape.table resultShape).restrict? table = some view ∧
        view.table? BatchResult.ofRecord? = some found := by
    have each := List.all_eq_true.1 tables table member
    cases table with
    | obj ms =>
      exact Shape.restrict?_of_entries fun m inside =>
        batchResult?_isSome (List.all_eq_true.1 each m inside)
    | null | bool | int | real | str | arr => cases each
  have readable (place : Nat) (name : String) (shape : Shape)
      (here : [("result", Shape.table resultShape)][place]? = some (name, shape)) (j : Json)
      (member : j ∈ doc.given place name) : (shape.restrict? j).isSome := by
    cases place with
    | zero =>
      cases here
      obtain ⟨view, _, asked, -⟩ := entries j member
      rw [asked]
      rfl
    | succ place => cases here
  obtain ⟨view, f, read, fields⟩ :=
    @Shape.restrict?_of_isRecord [("result", .table resultShape)] doc record readable
  have table : (f.defaulted? "result" [] (Json.table? BatchResult.ofRecord?)).isSome := by
    have field : Json.Field (doc.given 0 "result") _ _ :=
      Shape.field_of_restrict? read fields (by decide) rfl
    simp only [Json.Fields.defaulted?]
    obtain ⟨-, absent⟩ | ⟨j, v, alone, asked, held⟩ := field
    · rw [absent]
      rfl
    · obtain ⟨view, found, asked', table⟩ := entries j (by rw [alone]; exact List.mem_cons_self)
      rw [asked] at asked'
      cases asked'
      rw [held]
      exact Option.isSome_iff_exists.2 ⟨found, table⟩
  have typed : batchShape.read? body = some view := taken.read.trans read
  have asked : view.fields? ["result"] = some f := fields
  show ((batchShape.read? body).bind _).isSome
  rw [typed]
  simpa [asked] using table

end Rebac.Http
