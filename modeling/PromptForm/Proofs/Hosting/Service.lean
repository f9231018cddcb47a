import Mathlib.Data.List.Forall2
import PromptForm.Hosting.Service
import PromptForm.Proofs.Compiler.Stages
import PromptForm.Proofs.Hosting.Address
import PromptForm.Proofs.Hosting.Creation
import PromptForm.Proofs.Hosting.Exchange
import PromptForm.Proofs.Oracle.Wrapping

/-! # Making a form from a prompt

A form is made with two requests: one for the workspaces, and then one for the form itself. What can
go wrong on the way from a prompt to a form goes wrong before the second request, which is the only
one that changes anything. So no form is made by halves.
-/

namespace PromptForm.Hosting.Service

def readOptions (options : Json) : Except Failure FormOptions :=
  (FormOptions.check (if options.truthy then options else .object [])).toExcept

/-- All that comes before the request for the form: the account, and the body of the request. -/
def prepare (s : Service) (prompt : String) (options status : Json) : Session (Account × Json) := do
  let options ← Session.ofExcept (readOptions options)
  let workspaceId ← s.firstWorkspaceId
  let creation ← s.creationOf prompt (.text workspaceId) options status
  s.withAccount fun a => do return (a, ← Session.ofExcept creation.written)

/-- The request for the form comes last. -/
theorem createFromPromptWith_eq (s : Service) (prompt : String) (options status : Json) :
    s.createFromPromptWith prompt options status = do
      let (a, body) ← s.prepare prompt options status
      return orEmpty (← a.perform .createForm (some body)) := by
  have last (creation : FormCreation) :
      s.withAccount (fun a => a.makeForm creation) = do
        let p ← s.withAccount fun a => do return (a, ← Session.ofExcept creation.written)
        return orEmpty (← p.1.perform .createForm (some p.2)) := by
    simp only [withAccount]
    cases s.account with
    | none => rfl
    | some a => simp only [bind_assoc, pure_bind, Account.makeForm, Account.createForm]
  simp only [createFromPromptWith, createFromPrompt, prepare, readOptions, bind_assoc, last]

variable {s : Service} {prompt : String} {options : Json} {world : World} {state : State}

theorem withAccount_some {α : Type} {a : Account} (h : s.account = some a)
    (f : Account → Session α) : s.withAccount f = f a := by
  simp only [withAccount, h]

theorem withAccount_none {α : Type} (h : s.account = none) (f : Account → Session α) :
    s.withAccount f = Session.fail .notConfigured := by
  simp only [withAccount, h]

/-- The request for the workspaces, if it comes to that. -/
def listing (s : Service) (options : Json) : List Request :=
  match readOptions options, s.account with
  | .ok _, some a => (a.request .listWorkspaces none).toOption.toList
  | _, _ => []

/-- The id of the first workspace, which has to be an object. -/
def workspaceIdOf : List Json → Except Obstacle String
  | [] => .error .noWorkspace
  | .object entries :: _ => .ok ((Entries.get? entries "id").getD .null).display
  | workspace :: _ => .error (.oddWorkspace workspace.typeName)

theorem firstWorkspaceId_eq (s : Service) :
    s.firstWorkspaceId =
      (do Session.ofOutcome (workspaceIdOf (← s.withAccount Account.listWorkspaces))) := by
  rw [firstWorkspaceId]
  congr 1
  funext workspaces
  cases workspaces with
  | nil => rfl
  | cons workspace others => cases workspace <;> rfl

theorem sent_firstWorkspaceId :
    (s.firstWorkspaceId world state).2.sent = state.sent ++
      (s.account.map fun a => (a.request .listWorkspaces none).toOption.toList).getD [] := by
  rw [firstWorkspaceId_eq, Session.sent_bind (fun _ => .ofOutcome _)]
  cases configured : s.account with
  | none => simp [withAccount_none configured, Session.fail]
  | some a =>
      simp [withAccount_some configured, Account.listWorkspaces, Session.map_eq,
        Account.sent_perform]

theorem silent_creationOf (id : String) (chosen : FormOptions) (status : Json) :
    (s.creationOf prompt (.text id) chosen status).Silent := by
  have preview : (s.preview prompt).Silent := by
    intro world state
    simp only [preview]
  rw [creationOf]
  exact preview.bind fun _ => .draw _

/-- Nothing but the workspaces is asked for before the form. -/
theorem sent_prepare (status : Json) :
    (s.prepare prompt options status world state).2.sent = state.sent ++ s.listing options := by
  have silent (chosen : FormOptions) (id : String) : (do
      let creation ← s.creationOf prompt (.text id) chosen status
      s.withAccount fun a => do return (a, ← Session.ofExcept creation.written) :
      Session (Account × Json)).Silent := by
    refine (silent_creationOf id chosen status).bind fun creation => ?_
    cases configured : s.account with
    | none => exact withAccount_none configured _ ▸ .fail _
    | some a =>
        rw [withAccount_some configured]
        exact (Session.Silent.ofExcept _).bind fun _ => .pure _
  rw [prepare, listing]
  cases readOptions options with
  | error e => exact (List.append_nil _).symm
  | ok chosen =>
      rw [Session.ofExcept_ok, pure_bind, Session.sent_bind (silent chosen), sent_firstWorkspaceId]
      cases s.account <;> rfl

/-- What it takes to ask for a form: an account, options that can be read, a first workspace, and a
prompt that can be compiled. -/
structure Preparation (s : Service) (prompt : String) (options : Json) (world : World)
    (state : State) where
  account : Account
  chosen : FormOptions
  workspace : Entries
  compiled : CompiledForm
  drawn : Nat
  configured : s.account = some account
  readable : readOptions options = .ok chosen
  listed : ∃ others, (account.listWorkspaces world state).1 = .ok (.object workspace :: others)
  compiles : (Compiler.compile s.configuration s.oracle world.ids state.drawn
    (Compiler.requestIdAt s.time) prompt).outcome = (.ok compiled, drawn)

namespace Preparation

variable (p : Preparation s prompt options world state)

/-- The id of the workspace for the form, as a text. -/
def workspaceId : String := ((Entries.get? p.workspace "id").getD .null).display

/-- The body of the request for the form. -/
def body (status : FormStatus) : Except Failure Json :=
  (FormCreation.ofCompiled p.compiled (.text p.workspaceId) p.chosen (.text status.name)
    s.configuration.confirmation world.ids p.drawn).1.bind FormCreation.written

end Preparation

theorem drawn_listWorkspaces (a : Account) :
    (a.listWorkspaces world state).2.drawn = state.drawn := by
  simp only [Account.listWorkspaces, Session.map_eq, Account.drawn_perform]

theorem firstWorkspaceId_of_listed {a : Account} (configured : s.account = some a)
    {workspaces : List Json} (listed : (a.listWorkspaces world state).1 = .ok workspaces) :
    s.firstWorkspaceId world state =
      (workspaceIdOf workspaces, (a.listWorkspaces world state).2) := by
  rw [firstWorkspaceId_eq, withAccount_some configured]
  exact Session.bind_ok (Prod.ext listed rfl) _

theorem exists_listed {id : String} {t : State}
    (h : s.firstWorkspaceId world state = (.ok id, t)) :
    ∃ a entries others, s.account = some a ∧
      (a.listWorkspaces world state).1 = .ok (.object entries :: others) := by
  rw [firstWorkspaceId_eq] at h
  obtain ⟨workspaces, u, listed, chosen⟩ := Session.of_bind_ok h
  cases configured : s.account with
  | none =>
      rw [withAccount_none configured] at listed
      cases listed
  | some a =>
      rw [withAccount_some configured] at listed
      have first := congrArg Prod.fst chosen
      cases workspaces with
      | nil => cases first
      | cons workspace others =>
          cases workspace with
          | object entries => exact ⟨a, entries, others, rfl, congrArg Prod.fst listed⟩
          | _ => cases first

/-- The request for a form is drawn from what the prompt is compiled to. -/
theorem creationOf_of_compiles {compiled : CompiledForm} {n : Nat} (id : String)
    (chosen : FormOptions) (status : Json)
    (compiles : (Compiler.compile s.configuration s.oracle world.ids state.drawn
      (Compiler.requestIdAt s.time) prompt).outcome = (.ok compiled, n)) :
    (s.creationOf prompt (.text id) chosen status world state).1 =
      (FormCreation.ofCompiled compiled (.text id) chosen status s.configuration.confirmation
        world.ids n).1.mapError .failure := by
  have previewed : s.preview prompt world state = (.ok compiled, { state with
      drawn := n
      traced := state.traced ++ (Compiler.compile s.configuration s.oracle world.ids state.drawn
        (Compiler.requestIdAt s.time) prompt).trace s.configuration
          (Compiler.requestIdAt s.time) }) := by
    simp only [preview, compiles]
    rfl
  rw [creationOf, Session.bind_ok previewed]
  rfl

theorem exists_compiles {id : String} {chosen : FormOptions} {status : Json}
    {creation : FormCreation} {t : State}
    (h : s.creationOf prompt (.text id) chosen status world state = (.ok creation, t)) :
    ∃ compiled n, (Compiler.compile s.configuration s.oracle world.ids state.drawn
      (Compiler.requestIdAt s.time) prompt).outcome = (.ok compiled, n) := by
  obtain ⟨compiled, u, previewed, _⟩ := Session.of_bind_ok h
  have outcome := congrArg Prod.fst previewed
  simp only [preview] at outcome
  cases made : (Compiler.compile s.configuration s.oracle world.ids state.drawn
      (Compiler.requestIdAt s.time) prompt).outcome with
  | mk result n =>
      rw [made] at outcome
      cases result with
      | ok compiled => exact ⟨compiled, n, rfl⟩
      | error e => cases outcome

/-- What a preparation comes to. -/
theorem prepare_of_preparation (p : Preparation s prompt options world state)
    (status : FormStatus) :
    (s.prepare prompt options (.text status.name) world state).1 =
      ((p.body status).mapError .failure).map fun body => (p.account, body) := by
  obtain ⟨others, listed⟩ := p.listed
  have first : s.firstWorkspaceId world state =
    (.ok p.workspaceId, (p.account.listWorkspaces world state).2) :=
    firstWorkspaceId_of_listed p.configured listed
  have drawn : (p.account.listWorkspaces world state).2.drawn = state.drawn :=
    drawn_listWorkspaces p.account
  have created := creationOf_of_compiles p.workspaceId p.chosen (.text status.name)
    (drawn ▸ p.compiles)
  rw [prepare, p.readable, Session.ofExcept_ok, pure_bind, Session.bind_ok first, Preparation.body]
  cases made : (FormCreation.ofCompiled p.compiled (.text p.workspaceId) p.chosen
      (.text status.name) s.configuration.confirmation world.ids p.drawn).1 with
  | error e =>
      rw [made] at created
      have stuck : s.creationOf prompt (.text p.workspaceId) p.chosen (.text status.name) world
        (p.account.listWorkspaces world state).2 = (.error (.failure e), _) := Prod.ext created rfl
      rw [Session.bind_error stuck]
      rfl
  | ok creation =>
      rw [made] at created
      have drafted : s.creationOf prompt (.text p.workspaceId) p.chosen (.text status.name) world
        (p.account.listWorkspaces world state).2 = (.ok creation, _) := Prod.ext created rfl
      rw [Session.bind_ok drafted, withAccount_some p.configured, Session.map_eq]
      rfl

theorem exists_preparation {a : Account} {body : Json} {status : Json}
    (h : (s.prepare prompt options status world state).1 = .ok (a, body)) :
    Nonempty (Preparation s prompt options world state) := by
  have whole : s.prepare prompt options status world state =
    (.ok (a, body), (s.prepare prompt options status world state).2) := Prod.ext h rfl
  rw [prepare] at whole
  obtain ⟨chosen, t, read, rest⟩ := Session.of_bind_ok whole
  obtain ⟨id, u, first, rest⟩ := Session.of_bind_ok rest
  obtain ⟨creation, v, created, _⟩ := Session.of_bind_ok rest
  have readable : readOptions options = .ok chosen := by
    cases outcome : readOptions options with
    | error e =>
        rw [outcome] at read
        cases read
    | ok found =>
        rw [outcome] at read
        exact congrArg _ (Except.ok.inj (congrArg Prod.fst read))
  have same : t = state := (congrArg Prod.snd read).symm
  subst same
  obtain ⟨account, entries, others, configured, listed⟩ := exists_listed first
  obtain ⟨compiled, n, compiles⟩ := exists_compiles created
  have drawn : u.drawn = t.drawn := by
    rw [firstWorkspaceId_of_listed configured listed] at first
    have left : (account.listWorkspaces world t).2 = u := congrArg Prod.snd first
    exact left ▸ drawn_listWorkspaces account
  exact ⟨account, chosen, entries, compiled, n, configured, readable, ⟨others, listed⟩,
    drawn ▸ compiles⟩

theorem prepare_eq_ok_iff {a : Account} {body : Json} {status : FormStatus} :
    (s.prepare prompt options (.text status.name) world state).1 = .ok (a, body) ↔
      ∃ p : Preparation s prompt options world state, p.account = a ∧ p.body status = .ok body := by
  constructor
  · intro h
    obtain ⟨p⟩ := exists_preparation h
    rw [prepare_of_preparation p status] at h
    refine ⟨p, ?_⟩
    cases made : p.body status with
    | error e =>
        rw [made] at h
        cases h
    | ok value =>
        rw [made] at h
        cases h
        exact ⟨rfl, rfl⟩
  · rintro ⟨p, rfl, made⟩
    rw [prepare_of_preparation p status, made]
    rfl

/-- The request for the form, if it comes to that. -/
def posting (s : Service) (prompt : String) (options status : Json) (world : World)
    (state : State) : List Request :=
  match (s.prepare prompt options status world state).1 with
  | .ok (a, body) => (a.request .createForm (some body)).toOption.toList
  | .error _ => []

/-- The requests of a service, in order. -/
theorem sent_createFromPromptWith (status : Json) :
    (s.createFromPromptWith prompt options status world state).2.sent =
      state.sent ++ (s.listing options ++ s.posting prompt options status world state) := by
  rw [createFromPromptWith_eq, posting, ← List.append_assoc, ← sent_prepare status]
  cases prepared : s.prepare prompt options status world state with
  | mk outcome t =>
      cases outcome with
      | error e => rw [Session.bind_error prepared, List.append_nil]
      | ok made =>
          rw [Session.bind_ok prepared]
          simp only [Session.map_eq, Account.sent_perform]

section Posting

variable {status : Json} {post : Request}

theorem posting_eq_iff :
    s.posting prompt options status world state = [post] ↔
      ∃ a body, (s.prepare prompt options status world state).1 = .ok (a, body) ∧
        a.request .createForm (some body) = .ok post := by
  rw [posting]
  cases made : (s.prepare prompt options status world state).1 with
  | error e => simp
  | ok prepared =>
      obtain ⟨a, body⟩ := prepared
      constructor
      · intro same
        refine ⟨a, body, rfl, ?_⟩
        cases asked : a.request .createForm (some body) with
        | error e => simp [asked, Except.toOption] at same
        | ok r => simpa [asked, Except.toOption] using same
      · rintro ⟨_, _, ⟨⟩, asked⟩
        simp [asked, Except.toOption]

/-- If the form is asked for, the outcome is what comes of that. -/
theorem outcome_of_posting (h : s.posting prompt options status world state = [post]) :
    (s.createFromPromptWith prompt options status world state).1 =
      (Account.received .createForm post
        (world.transport (state.sent ++ s.listing options) post)).map orEmpty := by
  obtain ⟨a, body, made, asked⟩ := posting_eq_iff.mp h
  have sent : (s.prepare prompt options status world state).2.sent =
    state.sent ++ s.listing options := sent_prepare status
  rw [createFromPromptWith_eq, Session.bind_ok (Prod.ext made rfl), ← sent]
  simp only [Session.map_eq, Account.perform_of_ok asked]

end Posting

/-- The workspaces have been asked for before the form is. -/
theorem Preparation.listing_eq (p : Preparation s prompt options world state) :
    ∃ get, p.account.request .listWorkspaces none = .ok get ∧ s.listing options = [get] := by
  obtain ⟨others, listed⟩ := p.listed
  cases asked : p.account.request .listWorkspaces none with
  | error e =>
      rw [Account.listWorkspaces, Session.map_eq, Account.perform_of_error asked] at listed
      cases listed
  | ok get =>
      refine ⟨get, rfl, ?_⟩
      simp only [listing, p.readable, p.configured, asked]
      rfl

/-- The request `r` is the one of an operation with the account of the service. -/
def Asks (s : Service) (op : Operation) (r : Request) : Prop :=
  ∃ a body, s.account = some a ∧ a.request op body = .ok r ∧ (op = .listWorkspaces → body = none)

/-- What making a form comes to: the requests that are made, and the outcome. -/
structure Making (s : Service) (prompt : String) (options : Json) (status : FormStatus)
    (world : World) (state : State) (made : List Request) (outcome : Except Obstacle Json) :
    Prop where
  inOrder : ∃ ops, ops <+: [.listWorkspaces, .createForm] ∧ List.Forall₂ s.Asks ops made
  idle : (∀ chosen, readOptions options ≠ .ok chosen) ∨ s.account = none → made = []
  posts_iff : (∃ get post, made = [get, post]) ↔
    ∃ p : Preparation s prompt options world state, Writable p.compiled.blocks ∧
      ∀ body, p.body status = .ok body → body.unwritable? = none
  posted : ∀ get post, made = [get, post] →
    ∃ (p : Preparation s prompt options world state) (body : Json), p.body status = .ok body ∧
      p.account.request .createForm (some body) = .ok post ∧
      outcome = (Account.received .createForm post
        (world.transport (state.sent ++ [get]) post)).map orEmpty

section Requests

variable (s prompt options world state)

theorem listing_cases : s.listing options = [] ∨ ∃ get, s.listing options = [get] := by
  rw [listing]
  split
  · rename_i chosen a read configured
    cases asked : a.request .listWorkspaces none with
    | error e => exact .inl rfl
    | ok get => exact .inr ⟨get, rfl⟩
  · exact .inl rfl

theorem asks_of_listing {get : Request} (h : s.listing options = [get]) :
    s.Asks .listWorkspaces get := by
  rw [listing] at h
  split at h
  · rename_i chosen a read configured
    cases asked : a.request .listWorkspaces none with
    | error e =>
        rw [asked] at h
        cases h
    | ok r =>
        rw [asked] at h
        cases h
        exact ⟨a, none, configured, asked, fun _ => rfl⟩
  · cases h

theorem listing_of_unready (h : (∀ chosen, readOptions options ≠ .ok chosen) ∨ s.account = none) :
    s.listing options = [] := by
  rw [listing]
  split
  · rename_i chosen a read configured
    rcases h with unreadable | missing
    · exact absurd read (unreadable chosen)
    · rw [configured] at missing
      cases missing
  · rfl

theorem posting_cases (status : Json) :
    s.posting prompt options status world state = [] ∨
      ∃ post, s.posting prompt options status world state = [post] := by
  cases made : (s.prepare prompt options status world state).1 with
  | error e => exact .inl (by rw [posting, made])
  | ok prepared =>
      cases asked : prepared.1.request .createForm (some prepared.2) with
      | error e => exact .inl (by simp only [posting, made, asked, Except.toOption, Option.toList])
      | ok post => exact .inr ⟨post, posting_eq_iff.mpr ⟨_, _, made, asked⟩⟩

/-- If the form is asked for, it is in what a preparation comes to. -/
theorem exists_posted {status : FormStatus} {post : Request}
    (h : s.posting prompt options (.text status.name) world state = [post]) :
    ∃ (p : Preparation s prompt options world state) (body : Json), p.body status = .ok body ∧
      p.account.request .createForm (some body) = .ok post := by
  obtain ⟨a, body, made, asked⟩ := posting_eq_iff.mp h
  obtain ⟨p, rfl, written⟩ := prepare_eq_ok_iff.mp made
  exact ⟨p, body, written, asked⟩

theorem posting_iff {status : FormStatus} (new : status.New) :
    (∃ post, s.posting prompt options (.text status.name) world state = [post]) ↔
      ∃ p : Preparation s prompt options world state, Writable p.compiled.blocks ∧
        ∀ body, p.body status = .ok body → body.unwritable? = none := by
  constructor
  · rintro ⟨post, posted⟩
    obtain ⟨p, body, written, asked⟩ := exists_posted _ _ _ _ _ posted
    refine ⟨p, (FormCreation.ofCompiled_written_iff _ _ _ _ _ _ new).mp ⟨body, written⟩, ?_⟩
    intro other written'
    rw [written] at written'
    cases written'
    exact (Account.request_ok_iff.mp ⟨post, asked⟩).2
  · rintro ⟨p, writable, sendable⟩
    obtain ⟨body, written⟩ :=
      (FormCreation.ofCompiled_written_iff p.compiled p.workspaceId p.chosen
        s.configuration.confirmation world.ids p.drawn new).mpr writable
    obtain ⟨get, listed, _⟩ := p.listing_eq
    obtain ⟨⟨address, found⟩, _⟩ := Account.request_ok_iff.mp ⟨get, listed⟩
    have asked : ∃ post, p.account.request .createForm (some body) = .ok post :=
      Account.request_ok_iff.mpr ⟨Address.below_forms found, sendable body written⟩
    obtain ⟨post, asked⟩ := asked
    exact ⟨post, posting_eq_iff.mpr ⟨_, _, prepare_eq_ok_iff.mpr ⟨p, rfl, written⟩, asked⟩⟩

/-- The form is asked for after the workspaces, or not at all. -/
theorem requests_cases (status : FormStatus) :
    s.posting prompt options (.text status.name) world state = [] ∨
      ∃ get post, s.listing options = [get] ∧
        s.posting prompt options (.text status.name) world state = [post] := by
  rcases posting_cases s prompt options world state (.text status.name) with none | ⟨post, posted⟩
  · exact .inl none
  · obtain ⟨p, _⟩ := exists_posted _ _ _ _ _ posted
    obtain ⟨get, _, one⟩ := p.listing_eq
    exact .inr ⟨get, post, one, posted⟩

theorem inOrder {status : FormStatus} : ∃ ops, ops <+: [.listWorkspaces, .createForm] ∧
    List.Forall₂ s.Asks ops
      (s.listing options ++ s.posting prompt options (.text status.name) world state) := by
  rcases requests_cases s prompt options world state status with
    unasked | ⟨get, post, one, posted⟩
  · rw [unasked, List.append_nil]
    rcases listing_cases s options with none | ⟨get, one⟩
    · exact ⟨[], List.nil_prefix, by rw [none]; exact .nil⟩
    · refine ⟨[.listWorkspaces], ⟨[.createForm], rfl⟩, ?_⟩
      rw [one]
      exact .cons (asks_of_listing s options one) .nil
  · obtain ⟨p, body, _, asked⟩ := exists_posted _ _ _ _ _ posted
    refine ⟨_, List.prefix_rfl, ?_⟩
    rw [one, posted]
    exact .cons (asks_of_listing s options one)
      (.cons ⟨p.account, some body, p.configured, asked, nofun⟩ .nil)

theorem idle {status : FormStatus}
    (h : (∀ chosen, readOptions options ≠ .ok chosen) ∨ s.account = none) :
    s.listing options ++ s.posting prompt options (.text status.name) world state = [] := by
  have unlisted := listing_of_unready s options h
  rcases requests_cases s prompt options world state status with
    unasked | ⟨get, post, one, _⟩
  · rw [unlisted, unasked, List.append_nil]
  · rw [unlisted] at one
    cases one

theorem two_requests_iff {status : FormStatus} {get post : Request} :
    s.listing options ++ s.posting prompt options (.text status.name) world state = [get, post] ↔
      s.listing options = [get] ∧
        s.posting prompt options (.text status.name) world state = [post] := by
  rcases requests_cases s prompt options world state status with
    unasked | ⟨get', post', one, posted⟩
  · rcases listing_cases s options with none | ⟨get', one⟩
    · simp [unasked, none]
    · simp [unasked, one]
  · simp [one, posted]

end Requests

/-- Making a form takes at most two requests, in order. The second is made exactly when there is a
body for it that can be sent, and then nothing but its answer decides on the outcome. -/
theorem making {status : FormStatus} (new : status.New) (s : Service) (prompt : String)
    (options : Json) (world : World) (state : State) :
    ∃ made, (s.createFromPromptWith prompt options (.text status.name) world state).2.sent =
        state.sent ++ made ∧
      Making s prompt options status world state made
        (s.createFromPromptWith prompt options (.text status.name) world state).1 := by
  refine ⟨s.listing options ++ s.posting prompt options (.text status.name) world state,
    sent_createFromPromptWith _, inOrder s prompt options world state,
    idle s prompt options world state, ?_, fun get post two => ?_⟩
  · rw [← posting_iff s prompt options world state new]
    constructor
    · rintro ⟨get, post, two⟩
      exact ⟨post, ((two_requests_iff s prompt options world state).mp two).2⟩
    · rintro ⟨post, posted⟩
      obtain ⟨p, _⟩ := exists_posted s prompt options world state posted
      obtain ⟨get, _, one⟩ := p.listing_eq
      exact ⟨get, post, (two_requests_iff s prompt options world state).mpr ⟨one, posted⟩⟩
  · obtain ⟨one, posted⟩ := (two_requests_iff s prompt options world state).mp two
    obtain ⟨p, body, written, asked⟩ := exists_posted s prompt options world state posted
    have outcome := outcome_of_posting posted
    rw [one] at outcome
    exact ⟨p, body, written, asked, outcome⟩

/-- An account whose host has one workspace and makes every form. -/
def plainAccount : Account :=
  ⟨"k", "https://tally.test", ⟨"https".toList, [], "tally.test".toList, none, [], none, none⟩,
    .ofDecimal false 30 0⟩

@[inherit_doc plainAccount]
def plainHost : World where
  transport _ r :=
    if r.method == "GET" then .reply 200 "[\x7b\"id\": \"w\"\x7d]"
    else .reply 201 "\x7b\"id\": \"f\"\x7d"
  ids := toString

/-- A service that takes any form of an oracle that has a field. -/
def plainService (oracle : Option Oracle) : Service :=
  ⟨[], some plainAccount, oracle, some { Compiler.Config.default with oracleMinFields := 1 }, ""⟩

theorem making_pets : ∃ made,
    ((plainService none).createFromPromptWith "Section: A\n- Pet (text)" .null
      (.text FormStatus.draft.name) plainHost .empty).2.sent = made ∧ made.length = 2 ∧
    Making (plainService none) "Section: A\n- Pet (text)" .null .draft plainHost .empty made
      ((plainService none).createFromPromptWith "Section: A\n- Pet (text)" .null
        (.text FormStatus.draft.name) plainHost .empty).1 := by
  obtain ⟨made, sent, law⟩ := making (.inl rfl) (plainService none) "Section: A\n- Pet (text)" .null
    plainHost .empty
  have two : ((plainService none).createFromPromptWith "Section: A\n- Pet (text)" .null
      (.text FormStatus.draft.name) plainHost .empty).2.sent.length = 2 := by
    decide +kernel
  rw [show State.empty.sent ++ made = made from rfl] at sent
  exact ⟨made, sent, sent ▸ two, law⟩

/-- An answer of an oracle whose form passes on a condition with many levels. -/
def nestedReply (levels : Nat) : List Char :=
  "\x7b\"title\": \"Pets\", \"sections\": [\x7b\"fields\": [\x7b\"label\": \"Pet\", ".toList ++
    "\"type\": \"conditional_logic\", \"conditionals\": [\x7b\"a\": ".toList ++
    (List.replicate levels '[' ++ List.replicate levels ']') ++ "\x7d]\x7d]\x7d]\x7d".toList

/-- A service whose oracle gives such an answer to every prompt. -/
def nestedService (levels : Nat) : Service :=
  plainService (some fun _ => .text (String.ofList (nestedReply levels)))

theorem eq_ok_of_toOption {ε α : Type} {x : Except ε α} {a : α} (h : x.toOption = some a) :
    x = .ok a := by
  cases x with
  | error e => cases h
  | ok b => exact congrArg _ (Option.some.inj h)

theorem compiled_nested : ∃ c n,
    (Compiler.compile (nestedService 253).configuration (nestedService 253).oracle toString 0
      (Compiler.requestIdAt "") "Pets").outcome = (.ok c, n) ∧ ¬ Writable c.blocks := by
  have answer : ((Json.within? (nestedReply 253)).toOption.join.bind fun v =>
      (Oracle.formOfJson v).toOption.map fun form =>
        (form.hasFields 1, (Compiler.ofForm (nestedService 253).configuration
          (Compiler.requestIdAt "") .oracle form toString 0).1.toOption.map fun c =>
            c.blocks.any fun b => Json.maxDepth < b.payload.toJson.depth)) =
      some (true, some true) := by
    decide +kernel
  obtain ⟨v, read, formed⟩ := Option.bind_eq_some_iff.mp answer
  obtain ⟨form, made, shown⟩ := Option.map_eq_some_iff.mp formed
  obtain ⟨enough, deep⟩ := Prod.mk.inj shown
  have filled : isBlankText (String.ofList (nestedReply 253)) = false := by
    rw [isBlankText, String.toList_ofList]
    rfl
  have given : Oracle.formOfText (String.ofList (nestedReply 253)) = .ok form := by
    have text := eq_ok_of_toOption (Option.join_eq_some_iff.mp read)
    rw [← eq_ok_of_toOption made]
    exact Oracle.formOfText_object filled (by rw [String.toList_ofList, text])
  have accepts : Compiler.Accepts (nestedService 253).configuration (nestedService 253).oracle
    "Pets" form := ⟨rfl, given, enough⟩
  obtain ⟨c, n, compiled, deep⟩ := Draw.exists_of_toOption deep
  refine ⟨c, n, (accepts.outcome rfl toString 0 _).trans compiled, fun writable => ?_⟩
  obtain ⟨b, listed, deep⟩ := List.any_eq_true.mp deep
  exact absurd (writable b listed) (Nat.not_le.mpr (of_decide_eq_true deep))

/-- A prompt is compiled, and yet no form is asked for: its blocks have too many levels. -/
theorem unposted_nested :
    Nonempty (Preparation (nestedService 253) "Pets" .null plainHost .empty) ∧
      ((nestedService 253).createFromPromptWith "Pets" .null (.text FormStatus.draft.name) plainHost
        .empty).2.sent.length = 1 := by
  obtain ⟨c, n, compiles, deep⟩ := compiled_nested
  have first : ((nestedService 253).firstWorkspaceId plainHost .empty).1.isOk = true := by
    decide +kernel
  cases outcome : (nestedService 253).firstWorkspaceId plainHost .empty with
  | mk result t =>
      rw [outcome] at first
      cases result with
      | error e => cases first
      | ok id =>
          obtain ⟨a, entries, others, configured, listed⟩ := exists_listed outcome
          have p : Preparation (nestedService 253) "Pets" .null plainHost .empty :=
            ⟨a, FormOptions.none, entries, c, n, configured, rfl, ⟨others, listed⟩, compiles⟩
          obtain ⟨get, _, one⟩ := p.listing_eq
          refine ⟨⟨p⟩, ?_⟩
          rcases posting_cases (nestedService 253) "Pets" .null plainHost .empty
            (.text FormStatus.draft.name) with unasked | posted
          · rw [sent_createFromPromptWith, one, unasked]
            rfl
          · obtain ⟨q, writable, _⟩ := (posting_iff _ _ _ _ _ (.inl rfl)).mp posted
            have same := compiles.symm.trans q.compiles
            cases same
            exact absurd writable deep

end PromptForm.Hosting.Service
