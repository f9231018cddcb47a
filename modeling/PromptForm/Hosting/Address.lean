import PromptForm.Hosting.Address.Host
import PromptForm.Number.Shortest
import PromptForm.Text.Quote
import PromptForm.Text.Search

/-! # Addresses

An address has a scheme, a host with its port and its user, a path, a query and a fragment, most of
which may be missing. It is kept in normal form: scheme and host are in lowercase, the usual port of
a scheme is left out, steps to the folder itself or the one above are taken, and characters that
have no place in a part are escaped. Requests go to paths below a base; a base may have a query of
its own, which the path is then added to.
-/

namespace PromptForm

/-- An address in normal form. -/
structure Address where
  scheme : List Char
  userInfo : List Char
  host : List Char
  port : Option Int
  path : List Char
  query : Option (List Char)
  fragment : Option (List Char)
  deriving DecidableEq, Repr

/-- Why a text is no address. -/
inductive AddressFault where
  | tooLong
  /-- A part of an address is too long. -/
  | longPart (name : String)
  /-- A character that no address may have is at a position. -/
  | control (c : Char) (position : Nat)
  | badPort (text : List Char)
  | badHost (form : Host.Form) (text : List Char)
  /-- A path after a host does not begin with a slash. -/
  | notRooted
  /-- A path without a host begins with a text that it may not begin with. -/
  | badStart (text : String)
  deriving DecidableEq, Repr

def AddressFault.message : AddressFault → String
  | tooLong => "URL too long"
  | longPart name => "URL component '" ++ name ++ "' too long"
  | control c position =>
    "Invalid non-printable ASCII character in URL, " ++ String.ofList (Text.quote [c]) ++
      " at position " ++ toString position ++ "."
  | badPort text => "Invalid port: " ++ String.ofList (Text.quote text)
  | badHost form text => "Invalid " ++ form.title ++ ": " ++ String.ofList (Text.quote text)
  | notRooted => "For absolute URLs, path must be empty or begin with '/'"
  | badStart text => "Relative URLs cannot have a path starting with '" ++ text ++ "'"

namespace Address

/-- The most characters of an address, and of a part of one. -/
def maxLength : Nat := 65536

def isControl (c : Char) : Bool := c.toNat < 32 || c.toNat == 127

/-! ## Normal form -/

/-- The folders of a path after its steps have been taken. Nothing lies above the first. -/
def takeSteps (done : List (List Char)) : List (List Char) → List (List Char)
  | [] => done.reverse
  | ['.'] :: rest => takeSteps done rest
  | ['.', '.'] :: rest =>
    takeSteps (if done == [] || done == [[]] then done else done.drop 1) rest
  | part :: rest => takeSteps (part :: done) rest

def resolve (path : List Char) : List Char :=
  Text.join ['/'] (takeSteps [] (Text.splitOn '/' path))

def usualPorts : List (String × Int) :=
  [("ftp", 21), ("http", 80), ("https", 443), ("ws", 80), ("wss", 443)]

/-- The port that a text gives, unless it is the usual one for the scheme. -/
def readPort (scheme text : List Char) : Except AddressFault (Option Int) :=
  if text.isEmpty then .ok none
  else
    match Numeral.readInt text with
    | .error _ => .error (.badPort text)
    | .ok port =>
      let usual := (usualPorts.find? (·.1.toList == scheme)).map (·.2)
      .ok (if usual == some port then none else some port)

/-- The part before the last sign `@` and what follows it. -/
def splitUser (authority : List Char) : List Char × List Char :=
  let afterLast := (authority.reverse.takeWhile (· != '@')).reverse
  (authority.take (authority.length - afterLast.length - 1), afterLast)

/-- A host, in brackets or up to a colon, and the text of the port that follows it. -/
def splitPort (cs : List Char) : List Char × List Char :=
  let bracketed := (cs.reverse.dropWhile (· != ']')).reverse
  let host :=
    if cs.head? == some '[' && !bracketed.isEmpty then bracketed else cs.takeWhile (· != ':')
  let rest := cs.drop host.length
  (host, if rest.head? == some ':' then rest.drop 1 else rest)

/-- Check the beginning of a path. -/
def checkPath (hasScheme hasHost : Bool) (path : List Char) : Except AddressFault Unit :=
  if hasHost then
    if path.isEmpty || path.head? == some '/' then .ok () else .error .notRooted
  else if hasScheme then .ok ()
  else if ['/', '/'].isPrefixOf path then .error (.badStart "//")
  else if path.head? == some ':' then .error (.badStart ":")
  else .ok ()

/-- The address with some parts, of which `authority` has the user, the host and the port. -/
def ofParts (scheme authority path : List Char) (query fragment : Option (List Char)) :
    Except AddressFault Address := do
  let (user, rest) := splitUser authority
  let (host, port) := splitPort rest
  let userInfo := escape .userInfo user
  let normalHost ← (Host.normalize host).mapError fun form => .badHost form host
  let port ← readPort scheme port
  let hasHost := !userInfo.isEmpty || !normalHost.isEmpty || port.isSome
  checkPath (!scheme.isEmpty) hasHost path
  let path := if hasHost || !scheme.isEmpty then resolve path else path
  return {
    scheme := Text.lower scheme
    userInfo := userInfo
    host := normalHost
    port := port
    path := escape .path path
    query := query.map (escape .query)
    fragment := fragment.map (escape .fragment) }

/-! ## Reading and writing -/

def isSchemeChar (c : Char) : Bool := c.isAlphanum || c == '+' || c == '.' || c == '-'

/-- A scheme before a colon, which may be empty, and what follows the colon. -/
def splitScheme (cs : List Char) : List Char × List Char :=
  let run := if cs.head?.any Char.isAlpha then cs.takeWhile isSchemeChar else []
  match cs.drop run.length with
  | ':' :: rest => (run, rest)
  | _ => ([], cs)

/-- A host with its port and its user after two slashes, and what follows them. -/
def splitAuthority : List Char → List Char × List Char
  | '/' :: '/' :: rest =>
    let authority := rest.takeWhile fun c => c != '/' && c != '?' && c != '#'
    (authority, rest.drop authority.length)
  | cs => ([], cs)

/-- What stands before the first mark, and what follows it if there is one. -/
def splitMark (mark : Char) (cs : List Char) : List Char × Option (List Char) :=
  let front := cs.takeWhile (· != mark)
  (front, if front.length < cs.length then some (cs.drop (front.length + 1)) else none)

def parse (cs : List Char) : Except AddressFault Address :=
  if maxLength < cs.length then .error .tooLong
  else
    match cs.findIdx? isControl with
    | some i => .error (.control (cs.getD i ' ') i)
    | none =>
      let (scheme, rest) := splitScheme cs
      let (authority, rest) := splitAuthority rest
      let (rest, fragment) := splitMark '#' rest
      let (path, query) := splitMark '?' rest
      ofParts scheme authority path query fragment

def authority (a : Address) : List Char :=
  let user := if a.userInfo.isEmpty then [] else a.userInfo ++ ['@']
  let host := if a.host.contains ':' then '[' :: a.host ++ [']'] else a.host
  let port := (a.port.map fun n => ':' :: intText n).getD []
  user ++ host ++ port

def text (a : Address) : String :=
  let scheme := if a.scheme.isEmpty then [] else a.scheme ++ [':']
  let authority := if a.authority.isEmpty then [] else '/' :: '/' :: a.authority
  let query := (a.query.map ('?' :: ·)).getD []
  let fragment := (a.fragment.map ('#' :: ·)).getD []
  String.ofList (scheme ++ authority ++ a.path ++ query ++ fragment)

/-! ## Paths below a base -/

/-- The path and the query. An empty path stands for a slash. -/
def target (a : Address) : List Char :=
  (if a.path.isEmpty then ['/'] else a.path) ++ (a.query.map ('?' :: ·)).getD []

def withTarget (a : Address) (target : List Char) : Except AddressFault Address :=
  let (path, query) := splitMark '?' target
  let parts := [("scheme", a.scheme), ("authority", a.authority), ("path", path),
    ("query", query.getD []), ("fragment", a.fragment.getD [])]
  match parts.find? fun part => maxLength < part.2.length with
  | some (name, _) => .error (.longPart name)
  | none => ofParts a.scheme a.authority path query a.fragment

/-- The address as a base, which ends in a slash. -/
def asBase (a : Address) : Except AddressFault Address :=
  if a.target.getLast? == some '/' then .ok a else a.withTarget (a.target ++ ['/'])

/-- The address of a path below a base. -/
def below (base : Address) (path : String) : Except AddressFault Address := do
  let relative ← parse path.toList
  base.withTarget (base.target ++ relative.target.dropWhile (· == '/'))

/-- The name and the password of the user, with a colon between them, if there are any. -/
def credentials? (a : Address) : Option String :=
  let (name, password) := splitMark ':' a.userInfo
  let name := unescapedText name
  let password := unescapedText (password.getD [])
  if name.isEmpty && password.isEmpty then none else some (name ++ ":" ++ password)

/-- The path that an address stands for. -/
def pathText (a : Address) : String :=
  unescapedText (if a.path.isEmpty then ['/'] else a.path)

/-- Does the text of an address begin with a name before a colon? -/
def hasKind (a : Address) : Bool :=
  let cs := a.text.toList
  let run := cs.takeWhile fun c => c != '/' && c != ':'
  !run.isEmpty && (cs.drop run.length).head? == some ':'

/-- The path that a server sees at an address, which it takes for an escaped one. -/
def seenPath (a : Address) : String := unescapedText a.pathText.toList

end Address

end PromptForm
