import IdleStop.Http.Host
import IdleStop.Http.Path
/-!
# Addresses

An address has a scheme, and what stands after it depends on the scheme. The
schemes of the network need a host, those of files may have one, and both
read a backslash as a slash. Under any other scheme two slashes introduce a
host, and without a slash the rest of the address is not taken apart.

`parse?` puts an address into its usual spelling: scheme and host in small
letters, a scheme's own port left out, paths resolved, unusual characters
written as escapes.
-/

namespace IdleStop

namespace Http

/-- The part of an address that says whom to ask. -/
structure Authority where
  /-- The name of the user, with escapes; empty if there is none. -/
  user : String
  /-- The password, with escapes; empty if there is none. -/
  password : String
  host : Option Host
  port : Option Nat
  deriving DecidableEq, Repr

namespace Authority

/-- The authority that is nothing but a host. -/
def ofHost (host : Option Host) : Authority :=
  ⟨"", "", host, none⟩

/-- An authority in writing. -/
def text (a : Authority) : String :=
  (if a.user.isEmpty && a.password.isEmpty then ""
    else a.user ++ (if a.password.isEmpty then "" else ":" ++ a.password) ++ "@") ++
    (match a.host with
      | some host => host.text
      | none => "") ++
    match a.port with
    | some port => ":" ++ toString port
    | none => ""

end Authority

/-- An address. -/
structure Url where
  scheme : String
  authority : Option Authority
  path : String
  query : Option String
  fragment : Option String
  deriving DecidableEq, Repr

namespace Url

/-- An address in writing. A path that begins with two slashes would be
taken for an authority, so a dot is put in front of it. -/
def text (u : Url) : String :=
  u.scheme ++ ":" ++
    (match u.authority with
      | some authority => "//" ++ authority.text
      | none => if u.path.toList.take 2 = ['/', '/'] then "/." else "") ++
    u.path ++
    (match u.query with
      | some query => "?" ++ query
      | none => "") ++
    match u.fragment with
    | some fragment => "#" ++ fragment
    | none => ""

/-- What a scheme makes of the rest of an address. -/
inductive SchemeKind
  /-- A host follows. -/
  | network
  /-- A file follows, perhaps of another host. -/
  | file
  /-- Anything may follow. -/
  | other
  deriving DecidableEq, Repr

/-- The kind of a scheme. -/
def schemeKind : String → SchemeKind
  | "http" | "https" | "ws" | "wss" | "ftp" => .network
  | "file" => .file
  | _ => .other

/-- The port that a scheme stands for. -/
def ownPort? : String → Option Nat
  | "http" | "ws" => some 80
  | "https" | "wss" => some 443
  | "ftp" => some 21
  | _ => none

/-- Whether a character separates the segments of a path, where backslashes
do. -/
def isSlash (c : Char) : Bool :=
  c = '/' || c = '\\'

/-- Whether a character may stand in a scheme after its first letter. -/
def isSchemeChar (c : Char) : Bool :=
  c.isAlphanum || c = '+' || c = '-' || c = '.'

/-- The scheme at the front of an address, in small letters, and what follows
its colon. -/
def splitScheme? (cs : List Char) : Option (List Char × List Char) :=
  let scheme := cs.takeWhile isSchemeChar
  match scheme, cs.drop scheme.length with
  | c :: _, ':' :: rest => if c.isAlpha then some (scheme.map Char.toLower, rest) else none
  | _, _ => none

/-- An address without controls and spaces at its ends, and without tabs and
line ends. -/
def cleaned (cs : List Char) : List Char :=
  let isEdge (c : Char) := c.toNat ≤ 0x20
  let core := ((cs.dropWhile isEdge).reverse.dropWhile isEdge).reverse
  core.filter fun c => !(c = '\t' || c = '\n' || c = '\r')

/-- What stands before a mark, and what stands after it if it is there. -/
def divide (mark : Char) (cs : List Char) : List Char × Option (List Char) :=
  let front := cs.takeWhile (· ≠ mark)
  match cs.drop front.length with
  | [] => (front, none)
  | _ :: rest => (front, some rest)

/-- Whether a character is ASCII and no control. -/
def isPlain (c : Char) : Bool :=
  0x20 ≤ c.toNat && c.toNat < 0x7f

/-- Whether a character stands for itself in a fragment. -/
def isFragmentChar (c : Char) : Bool :=
  isPlain c && !(" \"<>\x60".toList.contains c)

/-- Whether a character stands for itself in a query. -/
def isQueryChar (kind : SchemeKind) (c : Char) : Bool :=
  isPlain c && !(" \"#<>".toList.contains c) && (kind = .other || c ≠ '\'')

/-- Whether a character stands for itself in a path. -/
def isPathChar (c : Char) : Bool :=
  isFragmentChar c && !("#?\x7b\x7d".toList.contains c)

/-- Whether a character stands for itself in the name or password of a user. -/
def isUserChar (c : Char) : Bool :=
  isPathChar c && !("/:;=@[\\]^|".toList.contains c)

/-- What stands before the last at sign, if there is one, and what stands
after it. -/
def splitUser (cs : List Char) : Option (List Char) × List Char :=
  if cs.contains '@' then
    let host := (cs.reverse.takeWhile (· ≠ '@')).reverse
    (some (cs.take (cs.length - host.length - 1)), host)
  else (none, cs)

/-- What stands before the first colon outside brackets, and what stands
after it if it is there. -/
def splitHost (inBrackets : Bool) : List Char → List Char × Option (List Char)
  | [] => ([], none)
  | c :: cs =>
    if c = ':' && !inBrackets then ([], some cs)
    else
      let (host, port) := splitHost (c = '[' || (inBrackets && c ≠ ']')) cs
      (c :: host, port)

/-- The port that digits write, if there are any, and what stands behind
them: nothing, or a backslash with the beginning of a path. -/
def readPort? (cs : List Char) : Option (Option Nat × List Char) :=
  let digits := cs.takeWhile Char.isDigit
  let rest := cs.drop digits.length
  match Digits.ofChars? digits with
  | some ds =>
    if Digits.toNat ds < 65536 && (rest.isEmpty || rest.head? = some '\\') then
      some (if ds.isEmpty then none else some (Digits.toNat ds), rest)
    else none
  | none => none

/-- Reads the authority of an address with a scheme. The beginning of a path
may stand behind the port. -/
def readAuthority? (scheme : String) (cs : List Char) : Option (Authority × List Char) := do
  let kind := schemeKind scheme
  let (userText, rest) := splitUser cs
  let (user, password) := divide ':' (userText.getD [])
  let password := password.getD []
  let (hostText, portText) := splitHost false rest
  let escaped (cs : List Char) := String.ofList (Percent.escape isUserChar cs)
  if hostText.isEmpty then
    let isBare := kind = .other && portText.isNone && userText ≠ some [] &&
      user.isEmpty && password.isEmpty
    if isBare then some (Authority.ofHost none, []) else none
  else
    let host ← if kind = .other then Host.ofKeptName? hostText else Host.ofName? hostText
    let (port, behind) ← readPort? (portText.getD [])
    let shownPort := if port = ownPort? scheme then none else port
    some (⟨escaped user, escaped password, some host, shownPort⟩, behind)

/-- Where an address leads. -/
structure Place where
  authority : Option Authority
  path : List Char

/-- A path with its unusual characters as escapes. -/
def escapePath (cs : List Char) : List Char :=
  Percent.escape isPathChar cs

/-- The path that segments mean. -/
def pathOf (segments : List (List Char)) : List Char :=
  escapePath (Path.text (Path.resolve segments))

/-- Where an address of the network leads. It may have any number of slashes
before its host, and its path is never empty. -/
def readNetwork? (scheme : String) (cs : List Char) : Option Place := do
  let rest := cs.dropWhile isSlash
  let hostPart := rest.takeWhile (!isSlash ·)
  let path := rest.drop hostPart.length
  let (authority, _) ← readAuthority? scheme hostPart
  some ⟨some authority, pathOf (parts isSlash (path.drop 1))⟩

/-- Where the address of a file leads, given its host and the segments of its
path. A drive is on this machine. -/
def filePlace (host : Option Host) (segments : List (List Char)) : Place :=
  let (segments, hasDrive) := Path.ofFile segments
  ⟨some (Authority.ofHost (if hasDrive then none else host)), escapePath (Path.text segments)⟩

/-- Where the address of a file leads. Behind two slashes stands a host,
unless it is the letter of a drive. -/
def readFile? (cs : List Char) : Option Place :=
  match cs with
  | [] => some (filePlace none [[]])
  | first :: rest =>
    if !isSlash first then some (filePlace none (parts isSlash cs))
    else
      match rest with
      | [] => some (filePlace none [[]])
      | second :: rest' =>
        if !isSlash second then some (filePlace none (parts isSlash rest))
        else
          let hostText := rest'.takeWhile (!isSlash ·)
          let path := rest'.drop hostText.length
          if hostText.isEmpty || Path.isDrive hostText then
            some (filePlace none (parts isSlash rest'))
          else
            match Host.ofName? hostText with
            | none => none
            | some host =>
              if host = .name "localhost" then some (filePlace none (parts isSlash path))
              else some (filePlace (some host) (parts isSlash (path.drop 1)))

/-- Where an address with a scheme of its own leads. -/
def readOther? (scheme : String) (cs : List Char) : Option Place :=
  match cs with
  | '/' :: '/' :: rest => do
    let hostPart := rest.takeWhile (· ≠ '/')
    let path := rest.drop hostPart.length
    let (authority, behind) ← readAuthority? scheme hostPart
    some ⟨some authority,
      match behind ++ path with
      | [] => []
      | '/' :: path => pathOf (parts (· = '/') path)
      | path => pathOf (parts (· = '/') path)⟩
  | '/' :: path => some ⟨none, pathOf (parts (· = '/') path)⟩
  | path => some ⟨none, Percent.escape isPlain path⟩

/-- Reads an address. -/
def parse? (s : String) : Option Url := do
  let (schemeText, rest) ← splitScheme? (cleaned s.toList)
  let scheme := String.ofList schemeText
  let kind := schemeKind scheme
  let (rest, fragment) := divide '#' rest
  let (rest, query) := divide '?' rest
  let place ←
    match kind with
    | .network => readNetwork? scheme rest
    | .file => readFile? rest
    | .other => readOther? scheme rest
  some
    { scheme := scheme
      authority := place.authority
      path := String.ofList place.path
      query := query.map fun cs => String.ofList (Percent.escape (isQueryChar kind) cs)
      fragment := fragment.map fun cs => String.ofList (Percent.escape isFragmentChar cs) }

/-- Whether a text with escapes stands for characters. -/
def isReadable (s : String) : Bool :=
  (Utf8.decode? (Percent.bytes s.toList)).isSome

/-- An address without the name and password of a user. They are left in if
the name, or the password without a name, stands for no characters. -/
def anonymous (u : Url) : Url :=
  match u.authority with
  | none => u
  | some a =>
    let hasUser := !a.user.isEmpty
    let hasPassword := !a.password.isEmpty && isReadable a.password
    if isReadable a.user && (hasUser || hasPassword) then
      { u with authority := some { a with user := "", password := "" } }
    else u

/-- Whether a character of a host's name stands in the way of a request. -/
def isUnsendable (c : Char) : Bool :=
  "\"\x60\x7b\x7d".toList.contains c

/-- The length of the longest address of a request. -/
def maxLength : Nat := 65534

/-- Whether requests can be sent to an address. -/
def isRequestable (u : Url) : Bool :=
  (u.scheme = "http" || u.scheme = "https") &&
    (match u.authority.bind (·.host) with
      | some host => !(host.text.toList.any isUnsendable)
      | none => false) &&
    u.text.length ≤ maxLength

end Url

end Http

end IdleStop
