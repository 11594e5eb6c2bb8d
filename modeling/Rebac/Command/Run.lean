import Rebac.Bindings.Source
import Rebac.Command.Arguments
import Rebac.Command.Files
import Rebac.Command.Filter

/-! # Runs

A run reads a schema, generates its bindings and writes them to a file or to standard output. -/

namespace Rebac.Command

/-- Why a run fails. -/
inductive Failure where
  | unreadable (path : String) (fault : FileFault)
  | unloadable (path : String) (fault : Schema.LoadError)
  | unbindable (fault : Bindings.Error)
  | unwritable (path : String) (fault : FileFault)
deriving DecidableEq, Repr

namespace Failure

/-- What could not be done. -/
def context : Failure → String
  | .unreadable path _ => "failed to read schema " ++ path
  | .unloadable path _ => "failed to load schema " ++ path
  | .unbindable _ => "failed to generate entities"
  | .unwritable path _ => "failed to write " ++ path

/-- Why it could not be done. -/
def cause : Failure → String
  | .unreadable _ fault | .unwritable _ fault => fault.message
  | .unloadable _ fault => fault.message
  | .unbindable fault => fault.message

/-- The report of a failure: what could not be done and, indented, why. -/
def report (f : Failure) : String :=
  "Error: " ++ f.context ++ "\n\nCaused by:\n    " ++ f.cause.replace "\n" "\n    " ++ "\n"

end Failure

/-- The filter of a run: what the environment says, or else what the arguments say. -/
def filterOf (a : Arguments) (rules : Option String) : Filter :=
  (rules.bind Filter.read?).getD (.upTo (if a.verbose then .debug else .info))

/-- The bindings of a schema's text, with the notices on the way. -/
def bindingsOf (path : String) (policy : Accessor.Policy) (text : String) :
    List Notice × Except Failure String :=
  let notices := match Json.read? text with
    | some document => loadNotices document
    | none => []
  match Schema.Model.read text with
  | .error e => (notices, .error (.unloadable path e))
  | .ok m =>
    match Bindings.generate m policy with
    | .error e => (notices, .error (.unbindable e))
    | .ok source => (notices ++ generationNotices m policy, .ok source)

/-- What a run leaves behind. -/
structure Outcome where
  notices : List Notice
  /-- What is written to standard output, or why the run failed. -/
  result : Except Failure String
  files : Files

/-- A run over files. -/
def run (a : Arguments) (files : Files) : Outcome :=
  match files.readText a.schema with
  | .error fault => ⟨[], .error (.unreadable a.schema fault), files⟩
  | .ok text =>
    match bindingsOf a.schema a.policy text, a.out with
    | (notices, .error e), _ => ⟨notices, .error e, files⟩
    | (notices, .ok source), none => ⟨notices, .ok source, files⟩
    | (notices, .ok source), some path =>
      match files.writeText path source with
      | .error fault => ⟨notices, .error (.unwritable path fault), files⟩
      | .ok files => ⟨notices ++ [.written path], .ok "", files⟩

end Rebac.Command
