import Rebac.Json.Record
import Rebac.Text.Affix
import Rebac.Text.Blank

/-! # Settings

How the engine is reached and how mutations are sent, with the rules that the settings must obey. -/

namespace Rebac

namespace Settings

/-- How the engine is reached. -/
structure Connection where
  apiUrl : String := "http://localhost:8080"
  storeId : Option String := none
  modelId : Option String := none
  apiToken : Option String := none
deriving DecidableEq, Repr

/-- How mutations are sent. -/
structure Sending where
  /-- Whether each tuple is sent on its own. -/
  disableTransactions : Bool := false
deriving DecidableEq, Repr

/-- What is wrong with settings that could be read. -/
inductive Fault where
  | emptyUrl
  /-- The address is not one of the web's. -/
  | foreignUrl (url : String)
  /-- A setting that may be left out is set to nothing but blanks. -/
  | blank (key : String)
deriving DecidableEq, Repr

/-- The wording of a fault. -/
def Fault.message : Fault → String
  | .emptyUrl => "engine.api_url must not be empty"
  | .foreignUrl url => "engine.api_url must start with http:// or https://, got: " ++ url
  | .blank key => key ++ " must not be blank when set"

/-- Whether nothing is left of a text without its blanks. -/
def isBlankText (s : String) : Bool := Text.trimBlanks s = ""

/-- The fault of an address. Blanks around it do not count. -/
def urlFault? (url : String) : Option Fault :=
  let url := Text.trimBlanks url
  if url = "" then some .emptyUrl
  else if Text.beginsWith url "http://" || Text.beginsWith url "https://" then none
  else some (.foreignUrl url)

/-- The fault of a setting that may be left out. -/
def blankFault? (key : String) (value : Option String) : Option Fault :=
  if value.any isBlankText then some (.blank key) else none

end Settings

/-- The settings. -/
structure Settings where
  engine : Settings.Connection := {}
  mutation : Settings.Sending := {}
deriving DecidableEq, Repr

namespace Settings

open Json (Fields)

/-- The first fault of the settings. -/
def fault? (s : Settings) : Option Fault :=
  (urlFault? s.engine.apiUrl).or <|
    (blankFault? "engine.store_id" s.engine.storeId).or <|
      (blankFault? "engine.authorization_model_id" s.engine.modelId).or <|
        blankFault? "engine.api_token" s.engine.apiToken

/-- The names of the fields of a connection, in order. -/
def connectionFields : List String := ["api_url", "store_id", "authorization_model_id", "api_token"]

/-- The names of the fields of the way of sending. -/
def sendingFields : List String := ["disable_transactions"]

/-- The connection a record gives. -/
def Connection.ofRecord? (j : Json) : Option Connection := do
  let f ← j.fields? connectionFields
  return ⟨← f.defaulted? "api_url" ({} : Connection).apiUrl Json.str?,
    ← f.optional? "store_id" Json.str?, ← f.optional? "authorization_model_id" Json.str?,
    ← f.optional? "api_token" Json.str?⟩

/-- The way of sending a record gives. -/
def Sending.ofRecord? (j : Json) : Option Sending := do
  return ⟨← (← j.fields? sendingFields).defaulted? "disable_transactions" false Json.bool?⟩

/-- The settings a record gives. What is missing has its default. -/
def ofRecord? (j : Json) : Option Settings := do
  let f ← j.fields? ["engine", "mutation"]
  return ⟨← f.defaulted? "engine" {} Connection.ofRecord?,
    ← f.defaulted? "mutation" {} Sending.ofRecord?⟩

/-- The settings as a record. -/
def toJson (s : Settings) : Json :=
  .obj [("engine", .obj [("api_url", .str s.engine.apiUrl),
      ("store_id", Json.strOrNull s.engine.storeId),
      ("authorization_model_id", Json.strOrNull s.engine.modelId),
      ("api_token", Json.strOrNull s.engine.apiToken)]),
    ("mutation", .obj [("disable_transactions", .bool s.mutation.disableTransactions)])]

end Settings

end Rebac
