import PromptForm.Hosting.Address.Escape
import PromptForm.Hosting.Address.HostLetter
import PromptForm.Text.Punycode

/-! # Hosts

A host is given by four numbers with dots between them, by groups of digits with colons between them
in square brackets, or by a name. Names with other characters than the basic ones are written in
basic ones.
-/

namespace PromptForm.Host

/-- The ways in which a host is given. -/
inductive Form where
  /-- Four numbers. -/
  | numbers
  /-- Groups of digits in square brackets. -/
  | groups
  /-- A name in basic characters. -/
  | name
  /-- A name with other characters. -/
  | foreignName
  deriving DecidableEq, Repr

def Form.title : Form → String
  | .numbers => "IPv4 address"
  | .groups => "IPv6 address"
  | .name => "hostname"
  | .foreignName => "IDNA hostname"

/-- The lengths of the runs of digits before, between and after the other characters. -/
def digitRuns : List Char → List Nat
  | [] => [0]
  | c :: rest =>
    match digitRuns rest with
    | n :: more => if c.isDigit then (n + 1) :: more else 0 :: n :: more
    | [] => []

/-- Is a host to be read as four numbers? It is when it consists of four runs of digits with one
character of any kind between neighbours. Where there are fewer other characters, digits can stand
for them as long as the runs have enough of them. -/
def looksLikeNumbers (host : List Char) : Bool :=
  let runs := digitRuns host
  let spare := runs.foldl (fun n run => n + (run - 1) / 2) 0
  runs.all (0 < ·) && runs.length ≤ 4 && 4 ≤ runs.length + spare

/-- Is the text a number below 256 without needless zeros? -/
def isOctet (cs : List Char) : Bool :=
  !cs.isEmpty && cs.length ≤ 3 && cs.all Char.isDigit && (cs == ['0'] || cs.head? != some '0') &&
    Text.digitsValue cs < 256

def areNumbers (cs : List Char) : Bool :=
  let parts := Text.splitOn '.' cs
  parts.length == 4 && parts.all isOctet

/-- Is the text a group of up to four hexadecimal digits? -/
def isGroup (cs : List Char) : Bool :=
  !cs.isEmpty && cs.length ≤ 4 && cs.all fun c => (Json.hexValue? c).isSome

/-- Are the texts eight groups? One empty text stands for all the groups that are missing; at an end
there are two of them. -/
def areEightGroups (parts : List (List Char)) : Bool :=
  match (parts.dropLast.drop 1).findIdx? List.isEmpty with
  | none => parts.length == 8 && parts.all isGroup
  | some i =>
    let front := if i == 0 && parts.head? == some [] then [] else parts.take (i + 1)
    let back := if parts.drop (i + 2) == [[]] then [] else parts.drop (i + 2)
    front.all isGroup && back.all isGroup && front.length + back.length < 8

/-- Is the text eight groups with colons between them? Four numbers at the end stand for two groups.
A percent sign begins the name of a zone. -/
def areGroups (cs : List Char) : Bool :=
  let address := cs.takeWhile (· != '%')
  let zone := cs.drop (address.length + 1)
  let parts := Text.splitOn ':' address
  let last := (parts.getLast?).getD []
  let hasNumbers := last.contains '.'
  let parts := if hasNumbers then parts.dropLast ++ [['0'], ['0']] else parts
  (address.length == cs.length || (!zone.isEmpty && !zone.contains '%')) &&
    3 ≤ (Text.splitOn ':' address).length && (!hasNumbers || areNumbers last) &&
    areEightGroups parts

def Form.ofHost (host : List Char) : Form :=
  if looksLikeNumbers host then .numbers
  else if host.head? == some '[' && host.getLast? == some ']' then .groups
  else if host.all (·.toNat < 128) then .name
  else .foreignName

/-- The front of a part of a name that stands for one in other characters. -/
def foreignMark : List Char := "xn--".toList

def isLabel (cs : List Char) : Bool :=
  cs.all isNameChar && cs.head?.any (fun c => c.toNat < 128 || Text.isWord c) &&
    cs.head? != some '-' && cs.getLast? != some '-' && (cs.drop 2).take 2 != ['-', '-']

/-- A part of a name in basic characters. -/
def encodeLabel? (cs : List Char) : Option (List Char) :=
  let encoded :=
    if cs.all (·.toNat < 128) then
      if foreignMark.isPrefixOf cs then
        if 4 < cs.length && cs.getLast? != some '-' then some cs else none
      else if isLabel cs then some cs else none
    else if isLabel cs then some (foreignMark ++ Punycode.encode cs) else none
  encoded.filter fun label => label.length ≤ 63

def isDot (c : Char) : Bool := ['.', '\u3002', '\uff0e', '\uff61'].contains c

/-- A name in basic characters. A dot may stand at its end. -/
def encodeName? (host : List Char) : Option (List Char) := do
  let labels := Text.splitOn '.' (host.map fun c => if isDot c then '.' else c)
  let endsInDot := labels.getLast? == some []
  let encoded ← (if endsInDot then labels.dropLast else labels).mapM encodeLabel?
  let name := Text.join ['.'] encoded
  if name.length ≤ 253 then some (if endsInDot then name ++ ['.'] else name) else none

/-- A host as it stands in an address, without the brackets around groups. The refusal says as what
it was read. -/
def normalize (host : List Char) : Except Form (List Char) :=
  let form := Form.ofHost host
  let inside := host.dropLast.drop 1
  let normal? :=
    match form with
    | .numbers => if areNumbers host then some host else none
    | .groups => if areGroups inside then some inside else none
    | .name => some (Address.escape .host (Text.lower host))
    | .foreignName => encodeName? (Text.lower host)
  match normal? with
  | some normal => .ok normal
  | none => .error form

end PromptForm.Host
