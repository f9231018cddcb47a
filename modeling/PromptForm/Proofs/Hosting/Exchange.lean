import PromptForm.Hosting.Account

/-! # Exchanges with the host

A step of a session either breaks off, or hands its result and what the session remembers to the
next step. An operation sends one request, unless the request cannot be written, and what comes of
it depends on the answer alone.
-/

namespace PromptForm

namespace Session

open Hosting

variable {α β : Type} {world : World} {s t : State}

theorem id_map (x : Session α) : id <$> x = x := by
  funext world s
  simp only [Functor.map, bind]
  cases x world s with
  | mk outcome t => cases outcome <;> rfl

theorem assoc {γ : Type} (x : Session α) (f : α → Session β) (g : β → Session γ) :
    x >>= f >>= g = x >>= fun a => f a >>= g := by
  funext world s
  simp only [Bind.bind, bind]
  cases x world s with
  | mk outcome t => cases outcome <;> rfl

instance : LawfulMonad Session := LawfulMonad.mk' Session id_map (fun _ _ => rfl) assoc

@[simp] theorem ofExcept_ok (a : α) : ofExcept (.ok a) = (Pure.pure a : Session α) := rfl

theorem bind_ok {x : Session α} {a : α} (h : x world s = (.ok a, t)) (f : α → Session β) :
    (x >>= f) world s = f a world t := by
  simp only [Bind.bind, bind, h]

theorem bind_error {x : Session α} {e : Obstacle} (h : x world s = (.error e, t))
    (f : α → Session β) : (x >>= f) world s = (.error e, t) := by
  simp only [Bind.bind, bind, h]

theorem map_eq (x : Session α) (f : α → β) :
    (do return f (← x) : Session β) world s = ((x world s).1.map f, (x world s).2) := by
  cases h : x world s with
  | mk outcome t =>
      cases outcome with
      | ok a => exact bind_ok h _
      | error e => exact bind_error h _

theorem of_bind_ok {x : Session α} {f : α → Session β} {b : β}
    (h : (x >>= f) world s = (.ok b, t)) :
    ∃ a u, x world s = (.ok a, u) ∧ f a world u = (.ok b, t) := by
  cases hx : x world s with
  | mk outcome u =>
      cases outcome with
      | error e => simp [bind_error hx f] at h
      | ok a => exact ⟨a, u, rfl, by rwa [bind_ok hx f] at h⟩

/-- A computation that sends no request. -/
def Silent (x : Session α) : Prop := ∀ world s, (x world s).2.sent = s.sent

theorem sent_bind {x : Session α} {f : α → Session β} (silent : ∀ a, (f a).Silent) :
    ((x >>= f) world s).2.sent = (x world s).2.sent := by
  cases hx : x world s with
  | mk outcome u =>
      cases outcome with
      | error e => rw [bind_error hx f]
      | ok a => rw [bind_ok hx f, silent a]

theorem Silent.bind {x : Session α} {f : α → Session β} (hx : x.Silent)
    (hf : ∀ a, (f a).Silent) : (x >>= f).Silent := fun world s => (sent_bind hf).trans (hx world s)

theorem Silent.pure (a : α) : (Pure.pure a : Session α).Silent := fun _ _ => rfl

theorem Silent.fail (e : Obstacle) : (fail e : Session α).Silent := fun _ _ => rfl

theorem Silent.ofOutcome (x : Except Obstacle α) : (ofOutcome x).Silent := fun _ _ => rfl

theorem Silent.ofExcept (x : Except Failure α) : (ofExcept x).Silent := fun _ _ => rfl

theorem Silent.draw (x : Draw α) : (draw x).Silent := fun _ _ => rfl

end Session

namespace Hosting

namespace Account

variable {a : Account} {op : Operation} {body : Option Json} {world : World} {s : State}

/-- What an operation comes to, once its request has an answer. -/
def received (op : Operation) (r : Request) (answer : Answer) : Except Obstacle Json :=
  if answer != .unreachable && !r.address.hasKind then .error (.unknownKind r.address.text)
  else outcome op answer

/-- What is reported of an answer that is an error. -/
def refusal (op : Operation) (status : Nat) (said : String) : HostError :=
  ⟨"Tally API Error: " ++ toString status ++ " - " ++ said, some status, op.name⟩

section Received

variable {r : Request} {status : Nat} {text : String}

theorem received_unkind (unkind : r.address.hasKind = false) :
    received op r (.reply status text) = .error (.unknownKind r.address.text) := by
  simp [received, unkind]

theorem received_refused (kind : r.address.hasKind = true) (bad : isError status = true) :
    received op r (.reply status text) =
      match errorText status text with
      | .ok said => .error (.host (refusal op status said))
      | .error e => .error (.tooNested e) := by
  simp only [received, kind, Bool.not_true, Bool.and_false, Bool.false_eq_true, if_false, outcome,
    bad, if_true]
  cases errorText status text <;> rfl

theorem received_accepted (kind : r.address.hasKind = true) (good : isError status = false) :
    received op r (.reply status text) = (answerValue status text).mapError .tooNested := by
  simp only [received, kind, Bool.not_true, Bool.and_false, Bool.false_eq_true, if_false, outcome,
    good]

/-- The host errors that come of an answer. -/
theorem received_reply_eq_host_iff {e : HostError} :
    received op r (.reply status text) = .error (.host e) ↔
      r.address.hasKind = true ∧ isError status = true ∧
        ∃ said, errorText status text = .ok said ∧ e = refusal op status said := by
  cases kind : r.address.hasKind with
  | false => simp [received_unkind kind]
  | true =>
      cases bad : isError status with
      | false =>
          rw [received_accepted kind bad]
          refine iff_of_false ?_ fun refused => Bool.false_ne_true refused.2.1
          cases answerValue status text <;> exact nofun
      | true =>
          rw [received_refused kind bad]
          cases errorText status text <;> simp [Obstacle.tooNested, @eq_comm _ e]

end Received

theorem perform_of_error {e : Obstacle} (h : a.request op body = .error e) :
    a.perform op body world s = (.error e, s) := by
  simp only [perform, h]
  rfl

theorem perform_of_ok {r : Request} (h : a.request op body = .ok r) :
    a.perform op body world s =
      (received op r (world.transport s.sent r), { s with sent := s.sent ++ [r] }) := by
  have sent : Session.send r world s =
    (.ok (world.transport s.sent r), { s with sent := s.sent ++ [r] }) := rfl
  simp only [perform, h, Session.bind_ok sent, received]
  split <;> rfl

/-- An operation sends its request and nothing else. -/
theorem sent_perform :
    (a.perform op body world s).2.sent = s.sent ++ (a.request op body).toOption.toList := by
  cases h : a.request op body with
  | error e => simp [perform_of_error h, Except.toOption]
  | ok r => simp [perform_of_ok h, Except.toOption]

theorem drawn_perform : (a.perform op body world s).2.drawn = s.drawn := by
  cases h : a.request op body with
  | error e => rw [perform_of_error h]
  | ok r => rw [perform_of_ok h]

/-- A request can be written exactly when its address and its body can. -/
theorem request_ok_iff :
    (∃ r, a.request op body = .ok r) ↔
      (∃ address, a.base.below op.path = .ok address) ∧ body.bind Json.unwritable? = none := by
  have filtered : (body.filter (!·.isNull)).bind Json.unwritable? = body.bind Json.unwritable? := by
    cases body with
    | none => rfl
    | some v => cases v <;> rfl
  simp only [request, filtered]
  cases a.base.below op.path with
  | error fault => simp
  | ok address => cases body.bind Json.unwritable? <;> simp

/-- A request that cannot be written is no error of the host. -/
theorem request_ne_host {e : HostError} : a.request op body ≠ .error (.host e) := by
  intro h
  simp only [request] at h
  split at h
  · cases h
  · split at h <;> cases h

end Account

end Hosting

end PromptForm
