import PromptForm.Hosting.Service
import PromptForm.Json.Writer
import PromptForm.Text.Digit

/-! # The command line

Options begin with two minus signs and may be shortened as long as they stay clear. A value follows
its option, or stands after an equals sign. Either a prompt or a file has to be given, but not both;
an empty one counts as not given.
-/

namespace PromptForm.CommandLine

/-- The options. -/
inductive Flag where
  | help
  | prompt
  | file
  | create
  | status
  | title
  | workspaceId
  | noOracle
  deriving DecidableEq, Repr

namespace Flag

def names : List (String × Flag) := [
  ("--help", help), ("--prompt", prompt), ("--file", file), ("--create", create),
  ("--status", status), ("--title", title), ("--workspace-id", workspaceId),
  ("--no-oracle", noOracle)]

def hasValue : Flag → Bool
  | prompt | file | status | title | workspaceId => true
  | help | create | noOracle => false

end Flag

/-- What an argument is. -/
inductive Word where
  /-- An option. -/
  | flag (f : Flag)
  /-- An option with an equals sign and a value. Two minus signs alone are no value. -/
  | assigned (f : Flag) (value : Option String)
  /-- A text that is no option. -/
  | plain (s : String)
  /-- An argument that looks like an option but is none, or the end of options. -/
  | stray
  /-- An argument that could be several options, or an option in a form that it does not have. -/
  | unclear
  deriving DecidableEq, Repr

/-- Is a text a negative number? A line end behind it does not count. -/
def isNegativeNumber (cs : List Char) : Bool :=
  match if cs.getLast? == some '\n' then cs.dropLast else cs with
  | '-' :: body =>
    let fraction := (body.dropWhile Text.isDigit).drop 1
    let whole := body.takeWhile Text.isDigit
    if whole.length = body.length then !body.isEmpty
    else (body.drop whole.length).head? == some '.' && !fraction.isEmpty &&
      fraction.all Text.isDigit
  | _ => false

def named? (name : String) : Option Flag := (Flag.names.find? (·.1 == name)).map (·.2)

def beginning (start : String) : List Flag :=
  (Flag.names.filter fun row => start.toList.isPrefixOf row.1.toList).map (·.2)

/-- The short form of the option that asks for help, with more after it. Only the same letter again
is of use. -/
def shortHelp (more : List Char) : Word :=
  if more.all (· == 'h') then .flag .help else .assigned .help (some (String.ofList more))

/-- The option that an argument names, with the value after the equals sign if there is one. -/
def optionWord (f : Flag) (afterName : List Char) : Word :=
  match afterName with
  | '=' :: value =>
    .assigned f (if value == ['-', '-'] then none else some (String.ofList value))
  | _ => .flag f

/-- What an argument that begins with two minus signs is. -/
def longWord (arg : String) : Word :=
  let name := arg.toList.takeWhile (· != '=')
  let afterName := arg.toList.drop name.length
  let name := String.ofList name
  match named? arg, named? name, beginning name with
  | some f, _, _ => .flag f
  | none, some f, _ => optionWord f afterName
  | none, none, [f] => optionWord f afterName
  | none, none, _ :: _ :: _ => .unclear
  | none, none, [] => if arg.toList.contains ' ' then .plain arg else .stray

def wordOf (arg : String) : Word :=
  match arg.toList with
  | '-' :: '-' :: _ => longWord arg
  | ['-', 'h'] => .flag .help
  | ['-', 'h', '='] => .assigned .help (some "")
  | '-' :: 'h' :: '=' :: more => shortHelp more
  | '-' :: 'h' :: more => shortHelp more
  | '-' :: _ :: _ =>
    if isNegativeNumber arg.toList || arg.toList.contains ' ' then .plain arg else .stray
  | _ => .plain arg

/-- What the arguments are. Two minus signs alone end the options. -/
def wordsOf : List String → List Word
  | [] => []
  | "--" :: rest => .stray :: rest.map .plain
  | arg :: rest => wordOf arg :: wordsOf rest

/-- What is asked for. -/
structure Arguments where
  prompt : String
  file : String
  create : Bool
  /-- The status of the form, unless it was given without a value. -/
  status : Option FormStatus
  title : String
  /-- The workspace, unless it was given without a value. -/
  workspaceId : Option String
  noOracle : Bool
  deriving DecidableEq, Repr

/-- What is asked for when nothing is said. -/
def Arguments.default : Arguments :=
  ⟨"", "", false, some .draft, "", some "WORKSPACE_ID", false⟩

/-- What the arguments come to. -/
inductive Parsed where
  | help
  | wrong
  | run (a : Arguments)
  deriving DecidableEq, Repr

/-- Arguments under way. -/
structure Reading where
  arguments : Arguments
  /-- Was a prompt given that is not the empty one? -/
  promptGiven : Bool
  /-- Was a file given whose name is not the empty one? -/
  fileGiven : Bool
  /-- Is there an argument that has no place? -/
  leftOver : Bool

namespace Reading

def status? (value : String) : Option FormStatus :=
  [FormStatus.draft, .published].find? fun s => s.name == value

/-- Take in the value of an option. One that is missing after an equals sign counts as given; it
stands for the empty text where a text is asked for. -/
def takeValue? (r : Reading) (value : Option String) : Flag → Option Reading
  | .prompt =>
    let r := { r with arguments := { r.arguments with prompt := value.getD "" } }
    if value == some "" then some r
    else if r.fileGiven then none
    else some { r with promptGiven := true }
  | .file =>
    let r := { r with arguments := { r.arguments with file := value.getD "" } }
    if value == some "" then some r
    else if r.promptGiven then none
    else some { r with fileGiven := true }
  | .status =>
    match value, value.bind status? with
    | some _, none => none
    | _, status => some { r with arguments := { r.arguments with status := status } }
  | .title => some { r with arguments := { r.arguments with title := value.getD "" } }
  | .workspaceId => some { r with arguments := { r.arguments with workspaceId := value } }
  | .help | .create | .noOracle => none

def takeSwitch (r : Reading) : Flag → Reading
  | .create => { r with arguments := { r.arguments with create := true } }
  | .noOracle => { r with arguments := { r.arguments with noOracle := true } }
  | _ => r

/-- What the arguments come to when there are no more of them. -/
def finish (r : Reading) : Parsed :=
  if r.leftOver || !(r.promptGiven || r.fileGiven) then .wrong else .run r.arguments

/-- Take in the arguments from left to right. -/
def read (r : Reading) : List Word → Parsed
  | [] => r.finish
  | .plain _ :: rest => ({ r with leftOver := true } : Reading).read rest
  | .stray :: rest => ({ r with leftOver := true } : Reading).read rest
  | .unclear :: _ => .wrong
  | .flag .help :: _ => .help
  | .assigned f value :: rest =>
    match r.takeValue? value f with
    | some r => r.read rest
    | none => .wrong
  | .flag f :: rest =>
    if f.hasValue then
      match rest with
      | .plain value :: rest =>
        match r.takeValue? (some value) f with
        | some r => r.read rest
        | none => .wrong
      | _ => .wrong
    else (r.takeSwitch f).read rest

end Reading

def parse (args : List String) : Parsed :=
  let words := wordsOf args
  if words.contains .unclear then .wrong else Reading.read ⟨.default, false, false, false⟩ words

/-- The text of a file with line ends of one kind. -/
def fileText : List Char → List Char
  | [] => []
  | '\r' :: '\n' :: rest => '\n' :: fileText rest
  | '\r' :: rest => '\n' :: fileText rest
  | c :: rest => c :: fileText rest

/-- What is printed at the end. -/
inductive Output where
  | result (v : Json)
  | complaint (message : String)

def complaint (message : String) : String := "error: " ++ message ++ "\n"

def configOf (env : Environment) (a : Arguments) : Compiler.Config :=
  let config := Compiler.Config.ofEnvironment env
  if a.noOracle then { config with usesOracle := false } else config

open Hosting

def optionsOf (a : Arguments) : FormOptions :=
  { FormOptions.none with title := trimmed? a.title |>.map fun _ => a.title }

/-- Complain about what the host refuses, and about what is missing at the host. -/
def complaining (x : Session Json) : Session Output := fun world state =>
  match x world state with
  | (.ok v, state) => (.ok (.result v), state)
  | (.error (.host e), state) => (.ok (.complaint (complaint e.message)), state)
  | (.error .notConfigured, state) =>
    (.ok (.complaint (complaint Obstacle.notConfigured.message)), state)
  | (.error .noWorkspace, state) =>
    (.ok (.complaint (complaint Obstacle.noWorkspace.message)), state)
  | (.error e, state) => (.error e, state)

/-- Do what the arguments ask for with a prompt. -/
def run (env : Environment) (time : String) (a : Arguments) (prompt : String) :
    Session Output := do
  let service ← Session.ofOutcome (Service.ofKey env none none (some (configOf env a)) time)
  let status := Json.ofText? (a.status.map FormStatus.name)
  if a.create then complaining (service.createFromPrompt prompt (optionsOf a) status)
  else
    let creation ← service.creationOf prompt (.ofText? a.workspaceId) (optionsOf a) status
    return .result (← Session.ofExcept creation.written)

end PromptForm.CommandLine
