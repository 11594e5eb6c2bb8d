import Rebac.Engine.Basic
import Rebac.Json.Printer

/-! # Bodies

The bodies of requests to the engine's interface, and what is read from the bodies of its
responses. -/

namespace Rebac.Http

open Engine (ReadFilter)
open Json (Shape)

/-- A member that is left out when it has no value. -/
def optionalMember (name : String) (value : Option Json) : List (String × Json) :=
  (value.map (name, ·)).toList

/-- The member that names the authorization model. -/
def modelMember (modelId : Option String) : List (String × Json) :=
  optionalMember "authorization_model_id" (modelId.map .str)

/-- Tuples as a section of a write. An empty section is left out. -/
def tupleSection (name : String) (tuples : List Tuple) : List (String × Json) :=
  if tuples.isEmpty then []
  else [(name, .obj [("tuple_keys", .arr (tuples.map Tuple.toJson))])]

/-- The body of a write. Deletes are sent without conditions. -/
def writeBody (writes deletes : List Tuple) (modelId : Option String) : Json :=
  .obj (tupleSection "writes" writes ++ tupleSection "deletes" (deletes.map Tuple.stripped) ++
    modelMember modelId)

/-- The relationship of a check. -/
def checkKey (item : CheckItem) : Json :=
  .obj [("user", .str item.user), ("relation", .str item.relation), ("object", .str item.object)]

/-- The values supplied with a check. -/
def contextMember (item : CheckItem) : List (String × Json) :=
  optionalMember "context" (item.context.map (·.toJson))

/-- The body of a check. -/
def checkBody (item : CheckItem) (modelId : Option String) : Json :=
  .obj (("tuple_key", checkKey item) :: contextMember item ++ modelMember modelId)

/-- A check of a batch, with the text that its result will come under. -/
def batchEntry (correlation : String) (item : CheckItem) : Json :=
  .obj (("tuple_key", checkKey item) :: contextMember item ++
    [("correlation_id", .str correlation)])

/-- The body of a batch of checks, which count from `offset`. -/
def batchBody (offset : Nat) (items : List CheckItem) (modelId : Option String) : Json :=
  .obj (("checks", .arr ((items.zipIdx offset).map fun (item, index) =>
    batchEntry (toString index) item)) :: modelMember modelId)

/-- The body of a query for objects. -/
def listObjectsBody (user relation objectType : String) (modelId : Option String) : Json :=
  .obj ([("type", .str objectType), ("relation", .str relation), ("user", .str user)] ++
    modelMember modelId)

/-- How many tuples a page of a read may hold. -/
def readPageSize : Nat := 100

/-- The body of a read of one page. -/
def readBody (filter : ReadFilter) (continuation : Option String) : Json :=
  .obj ([("tuple_key", .obj (optionalMember "user" (filter.user.map .str) ++
      optionalMember "object" (filter.object.map .str))),
    ("page_size", .int readPageSize)] ++
    optionalMember "continuation_token" (continuation.map .str))

/-- The body of a query for users of an object. -/
def listUsersBody (objectType id relation userType : String) (modelId : Option String) : Json :=
  .obj ([("object", .obj [("type", .str objectType), ("id", .str id)]),
    ("relation", .str relation),
    ("user_filters", .arr [.obj [("type", .str userType)]])] ++ modelMember modelId)

/-- The body that names a new store. -/
def createStoreBody (name : String) : Json := .obj [("name", .str name)]

/-- The value in the body of a response, when it has the shape and can be read. -/
def decode? {α : Type} (shape : Shape) (read : Json → Option α) (body : String) : Option α := do
  read (← shape.read? body)

/-- A record with one text that must be there. -/
def textField? (name : String) (body : String) : Option String :=
  decode? (.record [(name, .free)])
    (fun j => do (← j.fields? [name]).required? name Json.str?) body

/-- The verdict on a check. A missing one is no. -/
def checkVerdict? (body : String) : Option Bool :=
  decode? (.record [("allowed", .free)])
    (fun j => do (← j.fields? ["allowed"]).defaulted? "allowed" false Json.bool?) body

/-- The result of one check of a batch. -/
structure BatchResult where
  allowed : Bool
  error : Option Json
deriving Repr

namespace BatchResult

/-- The result a record gives. -/
def ofRecord? (j : Json) : Option BatchResult := do
  let f ← j.fields? ["allowed", "error"]
  return ⟨← f.defaulted? "allowed" false Json.bool?, ← f.nullable? "error" some⟩

/-- The message of an error: its own, or else the error as it stands. -/
def errorMessage? (r : BatchResult) : Option String :=
  r.error.map fun e => ((e.get? "message").bind Json.str?).getD e.print

end BatchResult

/-- The results of a batch, by correlation. -/
def batchResults? (body : String) : Option (List (String × BatchResult)) :=
  decode? (.record [("result", .table (.record [("allowed", .free), ("error", .free)]))])
    (fun j => do
      (← j.fields? ["result"]).defaulted? "result" [] (Json.table? BatchResult.ofRecord?)) body

/-- The objects of a query. -/
def listedObjects? (body : String) : Option (List String) :=
  decode? (.record [("objects", .list .free)])
    (fun j => do (← j.fields? ["objects"]).defaulted? "objects" [] (Json.list? Json.str?)) body

/-- A page of a read. -/
structure Page where
  tuples : List Tuple
  continuation : Option String
deriving Repr

/-- The page of a read. -/
def page? (body : String) : Option Page :=
  decode?
    (.record [("tuples", .list (.record [("key", Tuple.shape)])), ("continuation_token", .free)])
    (fun j => do
      let f ← j.fields? ["tuples", "continuation_token"]
      let entry (j : Json) : Option Tuple := do
        (← j.fields? ["key"]).required? "key" Tuple.ofRecord?
      return ⟨← f.defaulted? "tuples" [] (Json.list? entry),
        ← f.nullable? "continuation_token" Json.str?⟩) body

/-- The shape of a listed user: an object, a set of users or every user of a type. -/
def listedUserShape : Shape :=
  .record [("object", .record [("type", .free), ("id", .free)]),
    ("userset", .record [("type", .free), ("id", .free), ("relation", .free)]),
    ("wildcard", .record [("type", .free)])]

/-- The reference to a listed user. The first that is given of object, set and type counts, and a
user may be none of them. -/
def listedUser? (j : Json) : Option (Option String) := do
  let f ← j.fields? ["object", "userset", "wildcard"]
  let object ← f.nullable? "object" fun j => do
    let f ← j.fields? ["type", "id"]
    return (← f.required? "type" Json.str?) ++ ":" ++ (← f.required? "id" Json.str?)
  let userset ← f.nullable? "userset" fun j => do
    let f ← j.fields? ["type", "id", "relation"]
    return (← f.required? "type" Json.str?) ++ ":" ++ (← f.required? "id" Json.str?) ++ "#" ++
      (← f.required? "relation" Json.str?)
  let wildcard ← f.nullable? "wildcard" fun j => do
    return (← (← j.fields? ["type"]).required? "type" Json.str?) ++ ":*"
  return object.or (userset.or wildcard)

/-- The users of a query. -/
def listedUsers? (body : String) : Option (List String) :=
  decode? (.record [("users", .list listedUserShape)])
    (fun j => do
      let users ← (← j.fields? ["users"]).defaulted? "users" [] (Json.list? listedUser?)
      return users.filterMap id) body

/-- The code and the message of a failure. A body that gives none of the two gives empty ones. -/
def apiError (body : String) : String × String :=
  let read (j : Json) : Option (String × String) := do
    let f ← j.fields? ["code", "message"]
    return (← f.defaulted? "code" "" Json.str?, ← f.defaulted? "message" "" Json.str?)
  (decode? (.record [("code", .free), ("message", .free)]) read body).getD ("", "")

end Rebac.Http
