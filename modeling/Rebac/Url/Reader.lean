import Rebac.Url.Basic

/-! # Reading of addresses -/

namespace Rebac.Url

/-- The text without spaces and control characters at its ends, and without tabs and line ends. -/
def cleaned (cs : List Char) : List Char :=
  let isEdge (c : Char) : Bool := c.toNat ≤ 0x20
  let trimmed := ((cs.dropWhile isEdge).reverse.dropWhile isEdge).reverse
  trimmed.filter fun c => c ≠ '\t' && c ≠ '\n' && c ≠ '\r'

/-- The characters of a query that stand in percent form. -/
def escapesInQuery (kind : SchemeKind) (c : Char) : Bool :=
  c ∈ [' ', '"', '#', '<', '>'] || (c = '\'' && kind ≠ .other)

/-- The characters of a fragment that stand in percent form. -/
def escapesInFragment (c : Char) : Bool := c ∈ [' ', '"', '<', '>', '\x60']

/-- Divides what follows the path into the query and the fragment. -/
def takeTail (kind : SchemeKind) (cs : List Char) : Option String × Option String :=
  let fragment := match cs.dropWhile (· ≠ '#') with
    | [] => none
    | _ :: rest => some (String.ofList (Text.percentEncode escapesInFragment rest))
  let query := match cs.takeWhile (· ≠ '#') with
    | '?' :: rest => some (String.ofList (Text.percentEncode (escapesInQuery kind) rest))
    | _ => none
  (query, fragment)

/-- The address of a scheme, an authority and what follows, when `path` brings the path into its
form. -/
def assembled (scheme : String) (authority : Option Authority) (path : List Char → String)
    (cs : List Char) : Url :=
  let (query, fragment) := takeTail (SchemeKind.of scheme) (cs.dropWhile (!endsPath ·))
  ⟨scheme, authority, path (cs.takeWhile (!endsPath ·)), query, fragment⟩

/-- The address with a scheme of the network. All slashes in front of the host count as two. -/
def readNetwork? (scheme : String) (cs : List Char) : Option Url := do
  let (authority, rest) ← Authority.take? scheme (cs.dropWhile SchemeKind.network.isSlash)
  return assembled scheme (some authority) (pathText .network) rest

/-- The address with a scheme that says nothing. -/
def readOther? (scheme : String) (cs : List Char) : Option Url :=
  match cs with
  | '/' :: '/' :: rest => do
    let (authority, rest) ← Authority.take? scheme rest
    return assembled scheme (some authority)
      (fun path => if path.isEmpty then "" else pathText .other path) rest
  | '/' :: _ => some (assembled scheme none (pathText .other) cs)
  | _ => some (assembled scheme none
      (fun path => String.ofList (Text.percentEncode (fun _ => false) path)) cs)

/-- The address in the file system of this machine. -/
def localFile (segments : List Char → List (List Char)) (cs : List Char) : Url :=
  assembled "file" (some {}) (fun path => filePathText (segments path)) cs

/-- The address in the file system of a host. A path that begins with a drive is one of this
machine. -/
def remoteFile (host : Host) (cs : List Char) : Url :=
  let segments := segments .file (cs.takeWhile (!endsPath ·))
  assembled "file" (some (if entersDrive [] segments then {} else { host := some host }))
    (fun _ => filePathText segments) cs

/-- The address in a file system. After two slashes stands a host, unless it is empty or the letter
of a drive. -/
def readFile? (cs : List Char) : Option Url :=
  let isSlash := SchemeKind.file.isSlash
  match cs with
  | a :: b :: rest =>
    if isSlash a && isSlash b then
      let name := rest.takeWhile (!Authority.isEnd .file ·)
      if name.isEmpty || isDrive name then some (localFile (·.splitOnP isSlash) rest)
      else do
        let rest := rest.drop name.length
        match ← Host.ofNetwork? name with
        | .name "localhost" => return localFile (·.splitOnP isSlash) rest
        | host => return remoteFile host rest
    else some (localFile (segments .file) cs)
  | _ => some (localFile (segments .file) cs)

/-- The address in a text. A text without a scheme is no address. -/
def read? (text : String) : Option Url := do
  let (scheme, rest) ← takeScheme? (cleaned text.toList)
  match SchemeKind.of scheme with
  | .network => readNetwork? scheme rest
  | .file => readFile? rest
  | .other => readOther? scheme rest

end Rebac.Url
