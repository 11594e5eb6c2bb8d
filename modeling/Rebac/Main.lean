import Rebac.Command.Run
import Rebac.Json.Printer

/-! # The command

Reads a schema and writes its bindings. Notices and failures go to the standard error stream. -/

namespace Rebac.Command

/-- A fault of the system as one of files. The system may give its number with either sign. -/
def faultOf : IO.Error → FileFault
  | .noFileOrDirectory _ _ _ => .missing
  | .inappropriateType _ code _ =>
    if code = 21 ∨ code = 0 - 21 then .isDirectory else .notDirectory
  | .invalidArgument _ code message =>
    if code = 36 ∨ code = 0 - 36 then .nameTooLong else .other message
  | e => .other (toString e)

/-- The text of the file at a path. -/
def readText (path : String) : IO (Except FileFault String) := do
  try
    let content ← IO.FS.readBinFile path
    match String.fromUTF8? content with
    | some text => return .ok text
    | none => return .error .notText
  catch e => return .error (faultOf e)

/-- Writes a text to the file at a path. -/
def writeText (path text : String) : IO (Except FileFault Unit) := do
  try
    IO.FS.writeFile path text
    return .ok ()
  catch e => return .error (faultOf e)

/-- A notice as a line. -/
def noticeLine (json : Bool) (n : Notice) : String :=
  if json then
    (Json.obj [("level", .str n.level.name), ("fields", n.fields),
      ("target", .str n.source)]).print
  else n.level.name ++ " " ++ n.message ++ String.join (n.values.map fun (name, value) =>
    " " ++ name ++ "=" ++ value.print)

/-- Prints the notices that a filter shows. -/
def printNotices (a : Arguments) (f : Filter) (notices : List Notice) : IO Unit :=
  for n in notices do
    if f.shows n then IO.eprintln (noticeLine a.jsonLogs n)

/-- Reports a failure. -/
def fail (f : Failure) : IO UInt32 := do
  IO.eprint f.report
  return 1

/-- Runs the command with its arguments. -/
def execute (a : Arguments) : IO UInt32 := do
  let filter := filterOf a (← IO.getEnv "RUST_LOG")
  match ← readText a.schema with
  | .error fault => fail (.unreadable a.schema fault)
  | .ok text =>
    let (notices, result) := bindingsOf a.schema a.policy text
    printNotices a filter notices
    match result, a.out with
    | .error e, _ => fail e
    | .ok source, none =>
      IO.print source
      return 0
    | .ok source, some path =>
      match ← writeText path source with
      | .error fault => fail (.unwritable path fault)
      | .ok () =>
        printNotices a filter [.written path]
        return 0

end Rebac.Command

open Rebac.Command in
def main (arguments : List String) : IO UInt32 := do
  match Arguments.read arguments (← IO.getEnv schemaVariable) with
  | .ok a => execute a
  | .error .help =>
    IO.print helpText
    return 0
  | .error .version =>
    IO.print versionText
    return 0
  | .error (.misuse m) =>
    IO.eprintln ("error: " ++ m.message)
    return 2
