import PromptForm.Proofs.Hosting.Exchange

/-! # Calls of an account

What a call tells about the answer of the host. A call is truthful if it succeeds only when the host
grants it and tells of a host error in every other case. Not every call is: an answer with a status
below 200, from 300 to 399 or above 599 counts as a success, though the host grants nothing.
-/

namespace PromptForm.Hosting

/-- What is asked of an account, with all that is given. -/
inductive Call where
  | validateKey
  | getUser
  | listForms
  | getForm (form : String)
  | createForm (body : Json)
  | makeForm (r : FormCreation)
  | updateForm (form : String) (body : Json)
  | changeForm (form : String) (change : FormChange)
  | deleteForm (form : String)
  | listSubmissions (form : String)
  | getSubmission (form submission : String)
  | deleteSubmission (form submission : String)
  | listWorkspaces
  | createWorkspace (name slug : Json)

namespace Answer

/-- The status that the host answers with. -/
def status? : Answer → Option Nat
  | reply status _ => some status
  | unreachable => none

/-- The host says that it has done what it was asked for. -/
def Granted (answer : Answer) : Prop := ∃ status, answer.status? = some status ∧ status / 100 = 2

end Answer

namespace Call

def operation : Call → Operation
  | validateKey | getUser => .getUser
  | listForms => .listForms
  | getForm form => .getForm form
  | createForm _ | makeForm _ => .createForm
  | updateForm form _ | changeForm form _ => .updateForm form
  | deleteForm form => .deleteForm form
  | listSubmissions form => .listSubmissions form
  | getSubmission form submission => .getSubmission form submission
  | deleteSubmission form submission => .deleteSubmission form submission
  | listWorkspaces => .listWorkspaces
  | createWorkspace _ _ => .createWorkspace

/-- The body of the request, unless it has too many levels to be written. -/
def body : Call → Except Failure (Option Json)
  | createForm body | updateForm _ body => .ok (some body)
  | makeForm r => r.written.map some
  | changeForm _ change => change.written.map some
  | createWorkspace name slug =>
    .ok (some (.object ([("name", name)] ++ (if slug.truthy then [("slug", slug)] else []))))
  | _ => .ok none

/-- Carry out a call. Its result is given as a JSON value. -/
def run (a : Account) : Call → Session Json
  | validateKey => do return .object (← a.validateKey)
  | getUser => a.getUser
  | listForms => do return .array (← a.listForms)
  | getForm form => a.getForm form
  | createForm body => a.createForm body
  | makeForm r => a.makeForm r
  | updateForm form body => a.updateForm form body
  | changeForm form change => a.changeForm form change
  | deleteForm form => do return .bool (← a.deleteForm form)
  | listSubmissions form => do return .array (← a.listSubmissions form)
  | getSubmission form submission => a.getSubmission form submission
  | deleteSubmission form submission => do return .bool (← a.deleteSubmission form submission)
  | listWorkspaces => do return .array (← a.listWorkspaces)
  | createWorkspace name slug => a.createWorkspace name slug

/-- The request of a call, unless it cannot be written. -/
def request (c : Call) (a : Account) : Except Obstacle Request := do
  a.request c.operation (← c.body.mapError .failure)

/-- What a call makes of the value that the host answers with. -/
def result : Call → Json → Json
  | validateKey, v => .object [("isValid", .bool true), ("user", orEmpty v)]
  | listForms, v | listSubmissions _, v | listWorkspaces, v => .array (itemsOf v)
  | deleteForm _, _ | deleteSubmission _ _, _ => .bool true
  | _, v => orEmpty v

/-- What a call makes of what the exchange with the host comes to. -/
def conclude (c : Call) : Except Obstacle Json → Except Obstacle Json
  | .ok v => .ok (c.result v)
  | .error e =>
    match c, e with
    | validateKey, .host e => .ok (.object [("isValid", .bool false), ("error", .text e.message)])
    | _, e => .error e

/-- The answer of the host to a call, if the call has a request. -/
def answer? (c : Call) (a : Account) (world : World) (s : State) : Option Answer :=
  (c.request a).toOption.map (world.transport s.sent)

def Succeeds (c : Call) (x : Except Obstacle Json) : Prop :=
  match c with
  | validateKey => ∃ others, x = .ok (.object (("isValid", .bool true) :: others))
  | _ => ∃ v, x = .ok v

/-- A call tells of a host error, and names its status and what was being done. A key that is
checked is said to be invalid. -/
def Fails (c : Call) (status : Option Nat) (x : Except Obstacle Json) : Prop :=
  match c with
  | validateKey => ∃ others, x = .ok (.object (("isValid", .bool false) :: others))
  | _ => ∃ message, x = .error (.host ⟨message, status, c.operation.name⟩)

/-- A call succeeds only if the host grants it, and fails otherwise. -/
def Truthful (c : Call) (a : Account) (world : World) (s : State) : Prop :=
  let x := (c.run a world s).1
  let answer? := c.answer? a world s
  (c.Succeeds x → ∃ answer, answer? = some answer ∧ answer.Granted) ∧
  ((¬ ∃ answer, answer? = some answer ∧ answer.Granted) →
    c.Fails (answer?.bind Answer.status?) x)

/-- The exchange with the host that a call consists of. -/
def exchange (c : Call) (a : Account) : Session Json := do
  a.perform c.operation (← Session.ofExcept c.body)

section Outcome

variable (c : Call) {a : Account} {world : World} {s : State}

theorem exchange_of_error {e : Obstacle} (h : c.request a = .error e) :
    c.exchange a world s = (.error e, s) := by
  simp only [request] at h
  cases written : c.body with
  | error fault =>
      rw [written] at h
      cases h
      exact Session.bind_error (by rw [written]; rfl) _
  | ok body =>
      rw [written] at h
      exact (Session.bind_ok (by rw [written]; rfl) _).trans (Account.perform_of_error h)

theorem exchange_of_ok {r : Request} (h : c.request a = .ok r) :
    c.exchange a world s = (Account.received c.operation r (world.transport s.sent r),
      { s with sent := s.sent ++ [r] }) := by
  simp only [request] at h
  cases written : c.body with
  | error fault =>
      rw [written] at h
      cases h
  | ok body =>
      rw [written] at h
      exact (Session.bind_ok (by rw [written]; rfl) _).trans (Account.perform_of_ok h)

theorem request_ne_host {e : HostError} : c.request a ≠ .error (.host e) := by
  intro h
  simp only [request] at h
  cases written : c.body with
  | error fault =>
      rw [written] at h
      cases h
  | ok body =>
      rw [written] at h
      exact Account.request_ne_host h

theorem conclude_eq (told : c ≠ .validateKey) (x : Except Obstacle Json) :
    c.conclude x = x.map c.result := by
  cases x with
  | ok v => rfl
  | error e => cases c <;> first | rfl | exact absurd rfl told

/-- A call is its exchange with the host, and what it makes of the outcome. -/
theorem run_eq :
    c.run a world s = (c.conclude (c.exchange a world s).1, (c.exchange a world s).2) := by
  by_cases told : c = .validateKey
  · subst told
    have exchanged : exchange .validateKey a world s = a.perform .getUser none world s := rfl
    rw [run, Session.map_eq, Account.validateKey, exchanged]
    simp only [Session.catchHost, Session.map_eq, Account.getUser]
    cases a.perform .getUser none world s with
    | mk outcome t =>
        cases outcome with
        | ok v => rfl
        | error e => cases e <;> rfl
  · rw [c.conclude_eq told]
    cases c with
    | validateKey => exact absurd rfl told
    | getUser | getForm | createForm | updateForm | getSubmission | createWorkspace =>
        exact Session.map_eq _ _
    | listForms | listSubmissions | listWorkspaces =>
        simp only [run, Account.listForms, Account.listSubmissions, Account.listWorkspaces,
          bind_assoc, pure_bind]
        exact Session.map_eq _ _
    | deleteForm | deleteSubmission =>
        simp only [run, Account.deleteForm, Account.deleteSubmission, bind_assoc, pure_bind]
        exact Session.map_eq _ _
    | makeForm r =>
        simp only [run, exchange, body, Account.makeForm]
        cases r.written with
        | error fault => rfl
        | ok body => exact Session.map_eq _ _
    | changeForm form change =>
        simp only [run, exchange, body, Account.changeForm]
        cases change.written with
        | error fault => rfl
        | ok body => exact Session.map_eq _ _

/-- A call sends its request and nothing else. -/
theorem sent_run : (c.run a world s).2.sent = s.sent ++ (c.request a).toOption.toList := by
  rw [run_eq]
  cases h : c.request a with
  | error e => simp [c.exchange_of_error h, Except.toOption]
  | ok r => simp [c.exchange_of_ok h, Except.toOption]

theorem succeeds_conclude_iff {x : Except Obstacle Json} :
    c.Succeeds (c.conclude x) ↔ ∃ v, x = .ok v := by
  by_cases told : c = .validateKey
  · subst told
    cases x with
    | ok v => simp [Succeeds, conclude, result]
    | error e => cases e <;> simp [Succeeds, conclude]
  · rw [c.conclude_eq told]
    cases c with
    | validateKey => exact absurd rfl told
    | _ => cases x <;> simp [Succeeds, Except.map]

theorem fails_conclude_iff {x : Except Obstacle Json} {status : Option Nat} :
    c.Fails status (c.conclude x) ↔ ∃ e, x = .error (.host e) ∧
      (c = .validateKey ∨ e.status = status ∧ e.operation = c.operation.name) := by
  by_cases told : c = .validateKey
  · subst told
    cases x with
    | ok v => simp [Fails, conclude, result]
    | error e => cases e <;> simp [Fails, conclude]
  · rw [c.conclude_eq told]
    have fails : c.Fails status (x.map c.result) ↔
        ∃ message, x = .error (.host ⟨message, status, c.operation.name⟩) := by
      cases c with
      | validateKey => exact absurd rfl told
      | _ => cases x <;> simp [Fails, Except.map]
    rw [fails]
    constructor
    · rintro ⟨message, rfl⟩
      exact ⟨_, rfl, .inr ⟨rfl, rfl⟩⟩
    · rintro ⟨⟨message, status', operation'⟩, rfl, same | ⟨rfl, rfl⟩⟩
      · exact absurd same told
      · exact ⟨message, rfl⟩

end Outcome

/-- The answers that calls report as they are. -/
inductive Clear (r : Request) : Answer → Prop
  | unreachable : Clear r .unreachable
  | granted {status : Nat} {body : String} : status / 100 = 2 → Clear r (.reply status body)
  | refused {status : Nat} {body said : String} : isError status = true →
      r.address.hasKind = true → errorText status body = .ok said → Clear r (.reply status body)

/-- A host error that an answer gives names its status and what was being done. -/
theorem of_received_host {op : Operation} {r : Request} {answer : Answer} {e : HostError}
    (h : Account.received op r answer = .error (.host e)) :
    e.status = answer.status? ∧ e.operation = op.name := by
  cases answer with
  | unreachable =>
      cases h
      exact ⟨rfl, rfl⟩
  | reply status body =>
      obtain ⟨_, _, said, _, rfl⟩ := Account.received_reply_eq_host_iff.mp h
      exact ⟨rfl, rfl⟩

/-- An answer is clear when no value comes of it unless the host grants what it was asked for, and a
host error does otherwise. -/
theorem clear_iff (op : Operation) {r : Request} {answer : Answer} : Clear r answer ↔
    ((∃ v, Account.received op r answer = .ok v) → answer.Granted) ∧
      (¬ answer.Granted → ∃ e, Account.received op r answer = .error (.host e)) := by
  constructor
  · intro clear
    cases clear with
    | unreachable =>
        refine ⟨fun ⟨_, h⟩ => ?_, fun _ => ⟨_, rfl⟩⟩
        cases h
    | @granted status body granted =>
        have answered : Answer.Granted (.reply status body) := ⟨status, rfl, granted⟩
        exact ⟨fun _ => answered, absurd answered⟩
    | @refused status body said bad kind read =>
        have came : Account.received op r (.reply status body) =
            .error (.host (Account.refusal op status said)) :=
          Account.received_reply_eq_host_iff.mpr ⟨kind, bad, said, read, rfl⟩
        refine ⟨fun ⟨v, h⟩ => ?_, fun _ => ⟨_, came⟩⟩
        rw [came] at h
        cases h
  · rintro ⟨_, tells⟩
    cases answer with
    | unreachable => exact .unreachable
    | reply status body =>
        by_cases granted : status / 100 = 2
        · exact .granted granted
        · have refused : ¬ Answer.Granted (.reply status body) := by
            rintro ⟨_, ⟨⟩, granted'⟩
            exact granted granted'
          obtain ⟨e, came⟩ := tells refused
          obtain ⟨kind, bad, said, read, _⟩ := Account.received_reply_eq_host_iff.mp came
          exact .refused bad kind read

/-- A call is truthful exactly when its request can be written and the answer is a clear one. -/
theorem truthful_iff (c : Call) (a : Account) (world : World) (s : State) :
    c.Truthful a world s ↔
      ∃ r, c.request a = .ok r ∧ Clear r (world.transport s.sent r) := by
  simp only [Truthful, run_eq, succeeds_conclude_iff, fails_conclude_iff, answer?]
  cases made : c.request a with
  | error e =>
      have unlike : ∀ host, e ≠ .host host := by
        rintro host rfl
        exact c.request_ne_host made
      simp [c.exchange_of_error made, Except.toOption, unlike]
  | ok r =>
      simp only [c.exchange_of_ok made, Except.toOption, Option.map_some, Option.some.injEq,
        exists_eq_left', Option.bind_some, Except.ok.injEq, clear_iff c.operation]
      refine and_congr_right fun _ => imp_congr_right fun _ => exists_congr fun e => ?_
      exact and_iff_left_of_imp fun came => .inr (of_received_host came)

/-- A host that sends every request elsewhere. -/
def elsewhere : World := ⟨fun _ _ => .reply 302 "", toString⟩

/-- A form counts as deleted though the host has sent the request elsewhere. -/
theorem not_truthful_elsewhere : ∃ a,
    Account.ofKey [] "k" (some "https://tally.test") none = .ok a ∧
      ¬ (deleteForm "f1").Truthful a elsewhere .empty := by
  have entry : (Account.ofKey [] "k" (some "https://tally.test") none).toOption.map (fun a =>
      (((deleteForm "f1").run a elsewhere .empty).1.toOption.isSome,
        (deleteForm "f1").answer? a elsewhere .empty)) = some (true, some (.reply 302 "")) := by
    decide +kernel
  cases made : Account.ofKey [] "k" (some "https://tally.test") none with
  | error e =>
      rw [made] at entry
      cases entry
  | ok a =>
      rw [made] at entry
      obtain ⟨deleted, answered⟩ := Prod.mk.inj (Option.some.inj entry)
      refine ⟨a, rfl, fun truthful => ?_⟩
      have succeeds : (deleteForm "f1").Succeeds ((deleteForm "f1").run a elsewhere .empty).1 := by
        cases outcome : ((deleteForm "f1").run a elsewhere .empty).1 with
        | ok v => exact ⟨v, rfl⟩
        | error e =>
            rw [outcome] at deleted
            cases deleted
      obtain ⟨answer, same, status, given, granted⟩ := truthful.1 succeeds
      rw [answered] at same
      cases same
      cases given
      cases granted

end Call

end PromptForm.Hosting
