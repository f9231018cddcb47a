import Mathlib
import PromptForm.Web.Log
import PromptForm.Proofs.Web.Secret

/-! # Secrets in the log

What is kept of a body does not depend on how it is cut into chunks. Of two JSON bodies that are
alike but for their secrets the same is logged, as long as nothing is cut off. What is left of a body
that is cut off is no JSON, and it is logged as it is, with its secrets.
-/

namespace PromptForm.Web

namespace Capture

/-- The capture of a body in one piece. -/
def ofBody (cap : Nat) (body : List UInt8) : Capture :=
  ⟨body.take cap, decide (0 < cap ∧ cap < body.length)⟩

theorem add_ofBody (cap : Nat) (body chunk : List UInt8) :
    add cap (ofBody cap body) chunk = ofBody cap (body ++ chunk) := by
  by_cases none : cap = 0
  · subst none
    simp [add, ofBody]
  · have bytes : (body.take cap) ++ chunk.take (cap - (body.take cap).length) =
        (body ++ chunk).take cap := by
      rw [List.take_append, List.length_take]
      by_cases long : cap ≤ body.length
      · rw [Nat.min_eq_left long, Nat.sub_self, Nat.sub_eq_zero_of_le long]
      · rw [Nat.min_eq_right (by omega)]
    have truncated : (decide (cap - (body.take cap).length < chunk.length) ||
        decide (0 < cap ∧ cap < body.length)) =
          decide (0 < cap ∧ cap < (body ++ chunk).length) := by
      rw [← Bool.decide_or, List.length_take, List.length_append]
      exact decide_eq_decide.mpr (by omega)
    rw [add, if_neg none, ofBody, ofBody, ← bytes, ← truncated]

/-- The chunks make no difference. -/
theorem ofChunks_eq (cap : Nat) (chunks : List (List UInt8)) :
    ofChunks cap chunks = ofBody cap chunks.flatten := by
  suffices run : ∀ seen, chunks.foldl (add cap) (ofBody cap seen) =
      ofBody cap (seen ++ chunks.flatten) by
    simpa [ofChunks, empty, ofBody] using run []
  intro seen
  induction chunks generalizing seen with
  | nil => rw [List.foldl_nil, List.flatten_nil, List.append_nil]
  | cons chunk rest ih =>
    rw [List.foldl_cons, add_ofBody, ih, List.flatten_cons, List.append_assoc]

theorem ofBody_truncated_congr (cap : Nat) {one two : List UInt8}
    (length : one.length = two.length) :
    (ofBody cap one).truncated = (ofBody cap two).truncated := by
  simp only [ofBody, length]

/-- Of a body in chunks as many of the first bytes are kept as the cap says, and something is cut off
exactly if the body is longer. So the same is logged of a body, however it is cut into chunks. -/
theorem ofChunks_exact {cap : Nat} (kept : 1 ≤ cap) (chunks : List (List UInt8)) :
    (ofChunks cap chunks).bytes = chunks.flatten.take cap ∧
      ((ofChunks cap chunks).truncated = true ↔ cap < chunks.flatten.length) ∧
      ∀ headers others, others.flatten = chunks.flatten →
        ofChunks cap others = ofChunks cap chunks ∧
          Side.ofMessage cap ⟨headers, others⟩ = Side.ofMessage cap ⟨headers, chunks⟩ := by
  refine ⟨?_, ?_, fun headers others same => ?_⟩
  · rw [ofChunks_eq, ofBody]
  · have positive : 0 < cap := kept
    rw [ofChunks_eq, ofBody, decide_eq_true_iff, and_iff_right positive]
  · have captured : ofChunks cap others = ofChunks cap chunks := by
      rw [ofChunks_eq, ofChunks_eq, same]
    exact ⟨captured, by simp only [Side.ofMessage, captured]⟩

theorem ofChunks_exact_overlong :
    ofChunks 3 [[1, 2], [], [3, 4]] = ⟨[1, 2, 3], true⟩ ∧
      Side.ofMessage 3 ⟨[], [[1], [2, 3, 4]]⟩ = Side.ofMessage 3 ⟨[], [[1, 2], [], [3, 4]]⟩ := by
  have kept : 1 ≤ 3 := by decide
  obtain ⟨bytes, cut, same⟩ := ofChunks_exact kept [[1, 2], [], [3, 4]]
  obtain ⟨_, logged⟩ := same [] [[1], [2, 3, 4]] rfl
  have truncated : (ofChunks 3 [[1, 2], [], [3, 4]]).truncated = true := cut.mpr (by decide)
  refine ⟨?_, logged⟩
  rw [Capture.mk.injEq]
  exact ⟨bytes, truncated⟩

end Capture

/-- The exchange with another body of the request. -/
def Traffic.sending (t : Traffic) (chunks : List (List UInt8)) : Traffic :=
  { t with request := { t.request with chunks := chunks } }

/-- Is the message logged as JSON? -/
def Message.IsJson (m : Message) : Prop :=
  containsText "application/json" (lowered ((Headers.forLog m.headers).value "content-type")) = true

theorem read?_nil : Json.read? [] = .ok none := rfl

theorem bodyForLog_of_read {contentType : String} {body : List UInt8} {v : Json}
    (json : containsText "application/json" (lowered contentType) = true)
    (read : Json.read? (Text.decodeUtf8 body) = .ok (some v)) :
    bodyForLog contentType body = .ok (redact v) := by
  cases body with
  | nil => exact absurd (read.symm.trans read?_nil) (by simp)
  | cons b rest =>
    simp only [bodyForLog, List.isEmpty_cons, json, read]
    rfl

theorem bodyForLog_of_unread {contentType : String} {body : List UInt8}
    (json : containsText "application/json" (lowered contentType) = true)
    (unread : Json.read? (Text.decodeUtf8 body) = .ok none) :
    bodyForLog contentType body = .ok (.text (String.ofList (Text.decodeUtf8 body))) := by
  cases body with
  | nil => rfl
  | cons b rest =>
    simp only [bodyForLog, List.isEmpty_cons, json, unread]
    rfl

/-- Of two JSON bodies that are alike but for their secrets the same is logged if nothing is cut
off, in the same order if their entries are. -/
theorem bodyForLog_of_alike {contentType : String} {cap : Nat} {one two : List UInt8} {v u w : Json}
    (json : containsText "application/json" (lowered contentType) = true)
    (length : one.length = two.length) (kept : cap = 0 ∨ one.length ≤ cap)
    (readOne : Json.read? (Text.decodeUtf8 one) = .ok (some v))
    (readTwo : Json.read? (Text.decodeUtf8 two) = .ok (some w))
    (same : v.Same u) (alike : Alike u w) :
    ∃ x y, bodyForLog contentType (Capture.ofBody cap one).bytes = .ok x ∧
      bodyForLog contentType (Capture.ofBody cap two).bytes = .ok y ∧
      x.Same y ∧ (x = y ↔ cap = 0 ∨ Alike v w) := by
  by_cases none : cap = 0
  · subst none
    exact ⟨_, _, rfl, rfl, .refl _, iff_of_true rfl (.inl rfl)⟩
  · have whole := kept.resolve_left none
    simp only [Capture.ofBody, List.take_of_length_le whole,
      List.take_of_length_le (length ▸ whole)]
    refine ⟨_, _, bodyForLog_of_read json readOne, bodyForLog_of_read json readTwo, ?_, ?_⟩
    · exact alike.redact_eq ▸ same_redact same
    · rw [redact_eq_iff, or_iff_right none]

theorem Side.ofMessage_eq (cap : Nat) (m : Message) {body : Json}
    (logged : bodyForLog ((Headers.forLog m.headers).value "content-type")
      (Capture.ofBody cap m.chunks.flatten).bytes = .ok body) :
    Side.ofMessage cap m =
      .ok ⟨Headers.forLog m.headers, body, (Capture.ofBody cap m.chunks.flatten).truncated⟩ := by
  simp only [Side.ofMessage, Capture.ofChunks_eq, logged]
  rfl

/-- Of two requests with JSON bodies of one length that are alike but for their secrets, the same is
logged if nothing is cut off. But for the order of entries, only secrets do not show in the log. -/
theorem records_of_alike (settings : LogSettings) (freshId : String) (t : Traffic)
    {one two : List (List UInt8)} {v u w : Json} (json : t.request.IsJson)
    (length : one.flatten.length = two.flatten.length)
    (kept : settings.maxBytes = 0 ∨ one.flatten.length ≤ settings.maxBytes)
    (readOne : Json.read? (Text.decodeUtf8 one.flatten) = .ok (some v))
    (readTwo : Json.read? (Text.decodeUtf8 two.flatten) = .ok (some w))
    (same : v.Same u) (alike : Alike u w) :
    ∃ a b : Side,
      Side.ofMessage settings.maxBytes (t.sending one).request = .ok a ∧
      Side.ofMessage settings.maxBytes (t.sending two).request = .ok b ∧
      a.truncated = b.truncated ∧ a.body.Same b.body ∧
      (a.body = b.body ↔ settings.maxBytes = 0 ∨ Alike v w) ∧
      (a.body = b.body → records settings freshId (t.sending one) =
        records settings freshId (t.sending two)) := by
  have truncated := Capture.ofBody_truncated_congr settings.maxBytes length
  obtain ⟨x, y, loggedOne, loggedTwo, bodies, ordered⟩ :=
    bodyForLog_of_alike json length kept readOne readTwo same alike
  have sideOne := Side.ofMessage_eq settings.maxBytes (t.sending one).request loggedOne
  have sideTwo := Side.ofMessage_eq settings.maxBytes (t.sending two).request loggedTwo
  refine ⟨_, _, sideOne, sideTwo, truncated, bodies, ordered, fun shown => ?_⟩
  have request : Side.ofMessage settings.maxBytes (t.sending one).request =
      Side.ofMessage settings.maxBytes (t.sending two).request := by
    have body : x = y := shown
    rw [sideOne, sideTwo, body]
    simp only [Traffic.sending, truncated]
  simp only [records, Record.ofTraffic, request]
  rfl

/-- A request to sign in, with a JSON body in two chunks. -/
def signIn (password : String) : Traffic where
  kind := "http"
  method := "POST"
  path := "/session"
  request := ⟨[("Content-Type", "application/json")],
    [Text.utf8Bytes "\x7b\"password\": ", Text.utf8Bytes ("\"" ++ password ++ "\", \"stay\": true\x7d")]⟩
  status := none
  response := ⟨[], []⟩
  error := none

/-- What the body of a request to sign in says. -/
def signInBody (password : String) : Json :=
  .object [("password", .text password), ("stay", .bool true)]

theorem signIn_isJson (password : String) : (signIn password).request.IsJson := by
  have value : (Headers.forLog (signIn password).request.headers).value "content-type" =
      "application/json" := by
    change (Headers.forLog [("Content-Type", "application/json")]).value "content-type" = _
    decide +kernel
  rw [Message.IsJson, value]
  decide +kernel

theorem read_signIn_cat : Json.read? (Text.decodeUtf8 (signIn "cat").request.chunks.flatten) =
    .ok (some (signInBody "cat")) := by
  cbv

theorem read_signIn_dog : Json.read? (Text.decodeUtf8 (signIn "dog").request.chunks.flatten) =
    .ok (some (signInBody "dog")) := by
  cbv

theorem signInBody_alike (one two : String) : Alike (signInBody one) (signInBody two) :=
  .object (.secret _ _ (by decide +kernel) (.shown (.refl _) .nil))

theorem records_of_alike_signIn :
    records ⟨false, 4096⟩ "1" (signIn "cat") = records ⟨false, 4096⟩ "1" (signIn "dog") := by
  obtain ⟨_, _, _, _, _, _, shown, logged⟩ := records_of_alike ⟨false, 4096⟩ "1" (signIn "cat")
    (signIn_isJson "cat") (by decide +kernel) (.inr (by decide +kernel)) read_signIn_cat
    read_signIn_dog (.refl _) (signInBody_alike "cat" "dog")
  exact logged (shown.mpr (.inr (signInBody_alike "cat" "dog")))

theorem ofMessage_cut_signIn {password shown : String}
    (decoded : Text.decodeUtf8 ((signIn password).request.chunks.flatten.take 24) = shown.toList)
    (unread : Json.read? shown.toList = .ok none) :
    (Side.ofMessage 24 (signIn password).request).map Side.body = .ok (.text shown) := by
  have logged := bodyForLog_of_unread (signIn_isJson password) (decoded ▸ unread)
  rw [Side.ofMessage_eq 24 _ logged, decoded, String.ofList_toList]
  rfl

/-- Of a body that is cut off after the password, the password is logged, though the whole body is
JSON and the password a secret in it. -/
theorem password_logged :
    (signIn "cat").request.chunks.flatten.length = (signIn "dog").request.chunks.flatten.length ∧
    Json.read? (Text.decodeUtf8 (signIn "cat").request.chunks.flatten) =
      .ok (some (signInBody "cat")) ∧
    Json.read? (Text.decodeUtf8 (signIn "dog").request.chunks.flatten) =
      .ok (some (signInBody "dog")) ∧
    Alike (signInBody "cat") (signInBody "dog") ∧
    (Side.ofMessage 24 (signIn "cat").request).map Side.body =
      .ok (.text "\x7b\"password\": \"cat\", \"sta") ∧
    (Side.ofMessage 24 (signIn "dog").request).map Side.body =
      .ok (.text "\x7b\"password\": \"dog\", \"sta") := by
  exact ⟨by decide +kernel, read_signIn_cat, read_signIn_dog, signInBody_alike _ _,
    ofMessage_cut_signIn (by cbv) (by cbv), ofMessage_cut_signIn (by cbv) (by cbv)⟩

end PromptForm.Web
