import PromptForm.Text.Blank

/-! # Routes

Which resource a path names, and what can be done with it.
-/

namespace PromptForm.Web

/-- What can be asked of the web interface. -/
inductive Route where
  | health
  | compileForm
  | createForm
  | createContactForm
  | listForms
  | getForm (form : String)
  | updateForm (form : String)
  | deleteForm (form : String)
  | listSubmissions (form : String)
  | listWorkspaces
  | validateKey
  deriving DecidableEq, Repr

namespace Route

def namedRoutes (name : String) : List (String × Route) :=
  if name = "compile" then [("POST", compileForm)]
  else if name = "contact" then [("POST", createContactForm)]
  else []

def formRoutes (form : String) : List (String × Route) :=
  [("GET", getForm form), ("PATCH", updateForm form), ("DELETE", deleteForm form)]

/-- The routes at the folders of a path that ends in a fixed name, by method. -/
def atFolders : List String → List (String × Route)
  | ["", "health"] => [("GET", health)]
  | ["", "v1", "api", "forms"] => [("POST", createForm), ("GET", listForms)]
  | ["", "v1", "api", "forms", form, "submissions"] =>
    if form.isEmpty then [] else [("GET", listSubmissions form)]
  | ["", "v1", "api", "workspaces"] => [("GET", listWorkspaces)]
  | ["", "v1", "api", "validate-key"] => [("POST", validateKey)]
  | _ => []

def folders (path : List Char) : List String := (Text.splitOn '/' path).map String.ofList

def withoutLineEnd (path : List Char) : List Char :=
  if path.getLast? == some '\n' then path.dropLast else path

/-- The routes at a path, by method. A line end behind the path does not count, unless it belongs to
the name of a form. -/
def atPath (path : String) : List (String × Route) :=
  match folders path.toList, folders (withoutLineEnd path.toList) with
  | ["", "v1", "api", "forms", form], ["", "v1", "api", "forms", name] =>
    if form.isEmpty then [] else namedRoutes name ++ formRoutes form
  | _, short => atFolders short

end Route

/-- Where a request leads. -/
inductive Destination where
  | found (route : Route)
  | wrongMethod
  /-- The resource has another path. -/
  | moved (path : String)
  | unknown
  deriving DecidableEq, Repr

/-- Where a request with a method and a path leads. A path with slashes at its end leads to the
path without them, if anything is there. -/
def destination (method path : String) : Destination :=
  match Route.atPath path with
  | [] =>
    let short := onText (Text.dropEndWhile (· == '/')) path
    if (Route.atPath short).isEmpty then .unknown else .moved short
  | routes =>
    match routes.find? (·.1 == method) with
    | some (_, route) => .found route
    | none => .wrongMethod

end PromptForm.Web
