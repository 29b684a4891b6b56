import SprinklersAlarmClock.Firmware.Outline

/-!
# What a message answers

`sendLineMessage` returns one of two values of `LineStatus`, and
`SENT_COMPLETED` only if the server's reply, as far as it has been read, has a
line with the status code 200 in it (`messages_answer`).  Whatever else goes
wrong with a message is `SENT_FAILED`, which the alarm loop ignores.  A message
has returned before the next one is sent and before the loop condition is
evaluated again.
-/

namespace SprinklersAlarmClock

open Logic SPIOStream

/-! ## Reading the log -/

namespace Event

/-- The status a message returns. -/
def sent? : Event → Option UInt8
  | .mark (.sent status) => some status
  | _ => none

/-- The character this event reads from the socket. -/
def read? : Event → Option Char
  | .net (.read c) => some (Reply.toChar c)
  | _ => none

/-- `http_getStreamPtr()` returns. -/
def isStream : Event → Bool
  | .mark (.streamPtr _) => true
  | _ => false

/-- A message is sent, or the condition of the alarm loop is evaluated. -/
def resumes : Event → Bool
  | .mark (.notify _) | .mark (.alarmTest _) => true
  | _ => false

end Event

/-- A message has been sent and has not returned. -/
def messaging (l : Log) : Bool :=
  (latest (fun e => match e.event with
    | .mark (.notify _) => some true
    | .mark (.sent _) => some false
    | _ => none) l).getD false

/-- The characters read since the message has its stream, oldest first. -/
def received (l : Log) : List Char :=
  ((since (fun e => e.event.isStream) l).filterMap fun e => e.event.read?).reverse

/-- The status code in a line of the reply. -/
def statusCode (line : List Char) : Int :=
  (Reply.parseLine (Reply.trim line) ⟨-1000, ⟨0, 0, 0, 0⟩⟩).httpCode

/-- A whole line with the status code 200 is among these characters. -/
def Accepted (reply : List Char) : Prop :=
  ∃ before line after, reply = before ++ line ++ '\n' :: after ∧
    (before = [] ∨ before.getLast? = some '\n') ∧ '\n' ∉ line ∧
    statusCode (line ++ ['\n']) = Http.codeOk

/-- A message answers `SENT_FAILED`, or `SENT_COMPLETED` to a reply with the
status code 200, and has answered before anything else goes on. -/
def AnswerOk (e : Entry) (older : Log) : Prop :=
  (∀ status ∈ e.event.sent?, status = LineNotify.sentFailed ∨
    status = LineNotify.sentCompleted ∧ Accepted (received older)) ∧
  (e.event.resumes = true → messaging older = false)

/-- What is read later does not take the acceptance back. -/
theorem Accepted.append {reply : List Char} (h : Accepted reply) (more : List Char) :
    Accepted (reply ++ more) := by
  obtain ⟨before, line, after, rfl, hstart, hline, hcode⟩ := h
  exact ⟨before, line, after ++ more, by simp, hstart, hline, hcode⟩

/-- A line can only set the status code to its own. -/
theorem statusCode_of_parseLine {line : List Char} {r : Reply.Parsed} {code : Int}
    (h : (Reply.parseLine line r).httpCode = code) :
    r.httpCode = code ∨
      (Reply.parseLine line ⟨-1000, ⟨0, 0, 0, 0⟩⟩).httpCode = code := by
  unfold Reply.parseLine at h ⊢
  cases hp1 : Reply.find Reply.strHttp line with
  | none =>
      simp only [hp1] at h
      exact .inl h
  | some p1 =>
      cases hp2 : Reply.findFrom Reply.strBlank line (p1 + Reply.strHttp.length) with
      | none =>
          simp only [hp1, hp2] at h
          exact .inl h
      | some p2 =>
          simp only [hp1, hp2] at h ⊢
          exact .inr h

namespace Messages

/-- Every entry of the log is fine. -/
def Goal : Safety := fun l _ => Always AnswerOk l

/-- Events that a message is not read from. -/
def plain : Event → Bool
  | .net (.read _) => false
  | .mark (.notify _) | .mark (.sent _) | .mark (.streamPtr _) | .mark (.alarmTest _) => false
  | _ => true

/-- No message is under way. -/
def Between : Assn := fun l _ _ => messaging l = false

/-- A message is under way. -/
def During : Assn := fun l _ _ => messaging l = true

/-- It has received `reply` so far. -/
def Heard (K : List Char → Prop) : Assn := fun l _ _ => messaging l = true ∧ K (received l)

section Plain

variable {e : Event} (h : plain e = true) (t : Nat) (l : Log)

include h

/-- Plain events leave a message under way or not. -/
theorem messaging_plain : messaging (⟨t, e⟩ :: l) = messaging l := by
  cases e with
  | mark p => cases p <;> first | rfl | cases h
  | _ => rfl

/-- They are no part of the reply. -/
theorem received_plain : received (⟨t, e⟩ :: l) = received l := by
  cases e with
  | net c => cases c <;> first | rfl | cases h
  | mark p => cases p <;> first | rfl | cases h
  | _ => rfl

/-- Nothing is claimed of them. -/
theorem answerOk_plain : AnswerOk ⟨t, e⟩ l := by
  have hnone : e.sent? = none ∧ e.resumes = false := by
    cases e with
    | mark p => cases p <;> first | exact ⟨rfl, rfl⟩ | cases h
    | _ => exact ⟨rfl, rfl⟩
  constructor
  · intro status hstatus
    rw [hnone.1] at hstatus
    cases hstatus
  · intro hresumes
    rw [hnone.2] at hresumes
    cases hresumes

end Plain

/-- So they may happen between two messages. -/
theorem between_plain {e : Event} (h : plain e = true) : Enters Goal Between e Between :=
  fun l _ t' _ _ hJ hl => ⟨⟨answerOk_plain h t' l, hJ⟩, (messaging_plain h t' l).trans hl⟩

/-- Nothing of the reply is read. -/
theorem heard_plain {e : Event} (h : plain e = true) (K : List Char → Prop) :
    Enters Goal (Heard K) e (Heard K) := by
  rintro l t t' v - hJ ⟨hl, hK⟩
  refine ⟨⟨answerOk_plain h t' l, hJ⟩, (messaging_plain h t' l).trans hl, ?_⟩
  rwa [received_plain h]

/-- An event of the socket, a read of it included. -/
theorem during_request {e : Event} (h : e.inRequest = true) :
    Enters Goal During e During := by
  intro l t t' v _ hJ hl
  have hnone : e.sent? = none ∧ e.resumes = false ∧
      messaging (⟨t', e⟩ :: l) = messaging l := by
    cases e with
    | mark p => cases p <;> first | exact ⟨rfl, rfl, rfl⟩ | cases h
    | _ => exact ⟨rfl, rfl, rfl⟩
  refine ⟨⟨⟨fun status hs => ?_, fun hr => ?_⟩, hJ⟩, hnone.2.2.trans hl⟩
  · rw [hnone.1] at hs
    cases hs
  · rw [hnone.2.1] at hr
    cases hr

/-- While the request is sent, nothing of the reply is read. -/
theorem during_frame (env : Env) {α : Type} {V : Vars → Vars → Prop} {c : Sketch α}
    (hc : Footprint Event.inRequest V c) : Safely Goal env During c fun _ => During :=
  Safely.frame env hc (fun _ he => during_request he) fun _ _ _ _ _ _ h => h

/-! ## The reply -/

/-- The reply loop stands after `reply`: its line buffer holds what came after
the last line end, and it has seen the code 200 only if there was one. -/
def Standing (r : LineNotify.ReadState) (reply : List Char) : Prop :=
  (r.parsed.httpCode = Http.codeOk → Accepted reply) ∧
    ∃ before, reply = before ++ r.lineBuf ∧
      (before = [] ∨ before.getLast? = some '\n') ∧ '\n' ∉ r.lineBuf

/-- The code was 200 only if the reply says so. -/
def Answered (parsed : Reply.Parsed) (reply : List Char) : Prop :=
  parsed.httpCode = Http.codeOk → Accepted reply

/-- A whole line has been parsed. -/
theorem Standing.line {r : LineNotify.ReadState} {reply : List Char} (h : Standing r reply)
    (dataTime : UInt32) :
    Standing ⟨dataTime, [], Reply.parseLine (Reply.trim (r.lineBuf ++ ['\n'])) r.parsed⟩
      (reply ++ ['\n']) := by
  obtain ⟨hcode, before, rfl, hstart, hline⟩ := h
  refine ⟨fun hok => ?_, before ++ r.lineBuf ++ ['\n'], by simp, .inr (by simp), by simp⟩
  rcases statusCode_of_parseLine hok with hold | hnew
  · exact (hcode hold).append _
  · exact ⟨before, r.lineBuf, [], rfl, hstart, hline, hnew⟩

/-- One more character of the line under way. -/
theorem Standing.char {r : LineNotify.ReadState} {reply : List Char} (h : Standing r reply)
    {c : Char} (hc : c ≠ '\n') :
    Standing { r with lineBuf := r.lineBuf ++ [c] } (reply ++ [c]) := by
  obtain ⟨hcode, before, rfl, hstart, hline⟩ := h
  refine ⟨fun hok => (hcode hok).append _, before, by simp, hstart, ?_⟩
  simpa [hline] using hc.symm

/-- A character is read, and remembered as the last one. -/
theorem read_heard (env : Env) (K : List Char → Prop) :
    Safely Goal env (Heard K) Tcp.read
      fun c => Heard fun reply => ∃ older, K older ∧ reply = older ++ [Reply.toChar c] := by
  refine Safely.ask fun c => ?_
  rintro l t t' v - hJ ⟨hl, hK⟩
  refine ⟨⟨⟨fun _ h => (by cases h), fun h => (by cases h)⟩, hJ⟩, hl, received l, hK, ?_⟩
  show ((_ :: (since (fun e => e.event.isStream) l).filterMap _).reverse : List Char) = _
  rw [List.reverse_cons]
  rfl

/-- It goes to the line under way or ends it. -/
theorem readChar_standing (env : Env) (r : LineNotify.ReadState) :
    Safely Goal env (Heard (Standing r)) (LineNotify.readChar r)
      fun r' => Heard (Standing r') := by
  refine Safely.seq (M := fun _ => Heard (Standing r))
    (Safely.act (heard_plain rfl _)) fun _ => ?_
  refine (read_heard env (Standing r)).seq fun c => Safely.ite ?_ ?_
  · intro hc
    rw [hc]
    refine (Safely.ask (Q := fun _ => Heard _) fun _ => heard_plain rfl _).seq fun now =>
      Safely.pure ?_
    rintro l t v - ⟨hl, older, hstand, hreply⟩
    exact ⟨hl, hreply ▸ hstand.line now⟩
  · intro hc
    refine Safely.pure ?_
    rintro l t v - ⟨hl, older, hstand, hreply⟩
    exact ⟨hl, hreply ▸ hstand.char hc⟩

/-- The loop over the characters, by induction on the operations left. -/
theorem readReply_answered (env : Env) (r : LineNotify.ReadState) :
    Safely Goal env (Heard (Standing r)) (LineNotify.readReply r)
      fun parsed => Heard (Answered parsed) := by
  refine Safely.loop (fun r => Heard (Standing r)) (fun r => ?_) r
  refine (Safely.ask (Q := fun _ => Heard (Standing r)) fun _ => heard_plain rfl _).seq
    fun n => Safely.ite ?_ ?_
  · exact fun _ => Safely.pure fun _ _ _ _ h => ⟨h.1, h.2.1⟩
  intro _
  refine (readChar_standing env r).seq fun r' => ?_
  refine (Safely.ask (Q := fun _ => Heard (Standing r')) fun _ => heard_plain rfl _).seq
    fun now => Safely.ite ?_ ?_
  · intro _
    -- a reply that took too long is no success
    have hlate : ¬ Http.errorReadTimeout = Http.codeOk := by decide
    exact Safely.pure fun l t v _ h => ⟨h.1, fun hok => absurd hok hlate⟩
  · exact fun _ => Safely.pure fun _ _ _ _ h => h

/-- Waiting for data reads nothing. -/
theorem waitData_heard (env : Env) (dataTime : UInt32) (K : List Char → Prop) :
    Safely Goal env (Heard K) (LineNotify.waitData dataTime) fun _ => Heard K := by
  have hask : ∀ {α : Type} {answer : Env → Nat → World → α} {event : α → Event},
      (∀ a, plain (event a) = true) →
      Safely Goal env (Heard K) (ask answer event) fun _ => Heard K :=
    fun h => Safely.ask fun a => heard_plain (h a) K
  refine Safely.whileDo (Heard K) (Heard K) ?_ (Safely.delay (heard_plain rfl K))
  have hpure : ∀ b : Bool, Safely Goal env (Heard K) (pure b)
      fun b => if b = true then Heard K else Heard K := by
    intro b
    refine Safely.pure fun _ _ _ _ h => ?_
    split <;> exact h
  refine (hask fun _ => rfl).seq fun up => Safely.ite (fun _ => hpure _) fun _ => ?_
  refine (hask fun _ => rfl).seq fun n => Safely.ite (fun _ => hpure _) fun _ => ?_
  exact (hask fun _ => rfl).seq fun now => hpure _

/-- Nothing has been read yet when the wait for the reply begins. -/
theorem awaitReply_answered (env : Env) (dataTime : UInt32) :
    Safely Goal env (Heard fun reply => reply = []) (LineNotify.awaitReply dataTime)
      fun parsed => Heard (Answered parsed) := by
  have hask : ∀ {α : Type} {answer : Env → Nat → World → α} {event : α → Event},
      (∀ a, plain (event a) = true) →
      Safely Goal env (Heard fun reply => reply = []) (ask answer event)
        fun _ => Heard fun reply => reply = [] :=
    fun h => Safely.ask fun a => heard_plain (h a) _
  have hnone : ¬ (-1000 : Int) = Http.codeOk := by decide
  refine (waitData_heard env dataTime _).seq fun _ => (hask fun _ => rfl).seq fun now => ?_
  refine (hask fun _ => rfl).seq fun up => Safely.ite ?_ fun _ => ?_
  · exact fun _ => Safely.pure fun _ _ _ _ h => ⟨h.1, fun hok => absurd hok hnone⟩
  refine (hask fun _ => rfl).seq fun n => Safely.ite ?_ fun _ => ?_
  · exact fun _ => Safely.pure fun _ _ _ _ h => ⟨h.1, fun hok => absurd hok hnone⟩
  refine (readReply_answered env _).weaken ?_ fun _ _ _ _ _ h => h
  rintro l t v - ⟨hl, hreply⟩
  exact ⟨hl, fun hok => absurd hok hnone, [], hreply, .inl rfl, by simp⟩

/-! ## A message -/

/-- What the reply loop answers. -/
theorem waitLineResponse_answered (env : Env) :
    Safely Goal env During LineNotify.waitLineResponse
      fun ok => Heard fun reply => ok = true → Accepted reply := by
  refine (during_frame env (V := Eq) (Footprint.millis fun _ => rfl)).seq fun dataTime => ?_
  refine Safely.seq (M := fun _ => During) (Safely.assign fun _ _ _ _ h => h) fun _ => ?_
  have hptr : Safely Goal env During Http.httpGetStreamPtr
      fun _ => Heard fun reply => reply = [] := by
    refine (during_frame env (V := Eq)
      (Footprint.traffic Footprint.httpConnected)).seq fun up => ?_
    refine (Safely.mark (Q := fun _ => Heard fun reply => reply = []) ?_).seq fun _ =>
      Safely.pure fun _ _ _ _ h => h
    intro l t v hJ hl
    exact ⟨⟨⟨fun _ h => (by cases h), fun h => (by cases h)⟩, hJ⟩, hl, rfl⟩
  refine hptr.seq fun up => Safely.ite (fun _ => ?_) fun _ => ?_
  · refine (awaitReply_answered env dataTime).seq fun r => ?_
    refine Safely.seq (M := fun _ => Heard (Answered r))
      (Safely.assign fun _ _ _ _ h => h) fun _ => Safely.pure ?_
    exact fun l t v _ h => ⟨h.1, fun hok => h.2 (by simpa using hok)⟩
  · exact Safely.seq (M := fun _ => Heard fun reply => reply = [])
      (Safely.mark (heard_plain rfl _).marks) fun _ => Safely.halt

/-- The message answers, and is over. -/
theorem answer_between (env : Env) {status : UInt8} {K : List Char → Prop}
    (h : ∀ reply, K reply → status = LineNotify.sentFailed ∨
      status = LineNotify.sentCompleted ∧ Accepted reply) :
    Safely Goal env (Heard K) (LineNotify.answer status) fun _ => Between := by
  refine (Safely.mark (Q := fun _ => Between) ?_).seq fun _ =>
    Safely.pure fun _ _ _ _ h => h
  rintro l t v hJ ⟨-, hK⟩
  refine ⟨⟨⟨fun status' hs => ?_, fun h => (by cases h)⟩, hJ⟩, rfl⟩
  obtain rfl : status = status' := Option.some.inj hs
  exact h _ hK

/-- A whole message. -/
theorem sendLineMessage_between (env : Env) (msg : String) :
    Safely Goal env Between (LineNotify.sendLineMessage msg) fun _ => Between := by
  refine (Safely.mark (Q := fun _ => During) ?_).seq fun _ => ?_
  · intro l t v hJ hl
    exact ⟨⟨⟨fun _ h => (by cases h), fun _ => hl⟩, hJ⟩, rfl⟩
  refine Safely.seq (M := fun _ => During) (Safely.assign fun _ _ _ _ h => h) fun _ =>
    Safely.vars fun v₀ => ?_
  have hheader := (during_frame env (Footprint.httpSendRequest
    (LineNotify.requestHeader v₀.token (LineNotify.textHeader msg).utf8ByteSize) "")).weaken
      (K := fun l t v => During l t v ∧ v = v₀) (fun _ _ _ _ h => h.1) fun _ _ _ _ _ h => h
  refine hheader.seq fun _ => ?_
  refine (during_frame env (Footprint.httpSendRequest "" _)).seq fun _ => ?_
  refine (waitLineResponse_answered env).seq fun ok => Safely.ite ?_ ?_
  · exact fun hok => answer_between env fun _ h => .inr ⟨rfl, h hok⟩
  · exact fun _ => answer_between env fun _ _ => .inl rfl

/-! ## Whole runs -/

/-- What an episode does besides belongs to no message. -/
theorem between_body (e : Event) (h : e.inBody = true) : Enters Goal Between e Between := by
  by_cases hplain : plain e = true
  · exact between_plain hplain
  -- the only entry of the body that is looked at is the loop condition
  obtain ⟨thr, rfl⟩ : ∃ thr, e = .mark (.alarmTest thr) := by
    cases e with
    | mark p =>
        cases p with
        | alarmTest thr => exact ⟨thr, rfl⟩
        | _ => first | exact absurd rfl hplain | cases h
    | net c => cases h
    | _ => exact absurd rfl hplain
  intro l t t' v _ hJ hl
  exact ⟨⟨⟨fun _ h => (by cases h), fun _ => hl⟩, hJ⟩, hl⟩

/-- Nor does what `ptIO` does. -/
theorem plain_of_inIo (e : Event) (h : e.inIo = true) : plain e = true := by
  cases e with
  | net c => cases h
  | mark p => cases p <;> first | rfl | cases h
  | _ => rfl

/-- Where no message is under way, characters do not matter. -/
theorem between_background (e : Event) (h : e.inBackground = true) :
    Enters Goal Between e Between := by
  intro l t t' v _ hJ hl
  have hnone : e.sent? = none ∧ e.resumes = false ∧
      messaging (⟨t', e⟩ :: l) = messaging l := by
    cases e with
    | mark p => cases p <;> first | exact ⟨rfl, rfl, rfl⟩ | cases h
    | _ => exact ⟨rfl, rfl, rfl⟩
  refine ⟨⟨⟨fun status hs => ?_, fun hr => ?_⟩, hJ⟩, hnone.2.2.trans hl⟩
  · rw [hnone.1] at hs
    cases hs
  · rw [hnone.2.1] at hr
    cases hr

end Messages

/-- **What a message answers**, over whole runs. -/
theorem messages_answer (env : Env) (n : Nat) : Always AnswerOk (run env n).log := by
  open Messages in
  have hepisode : EpisodeOutline Goal env (.uniform Between Between Between) :=
    EpisodeOutline.uniform between_body (between_plain rfl).marks (between_plain rfl).marks
      (fun _ _ _ _ h => h) (sendLineMessage_between env)
  have hIo := Safely.frame (K := Between) env Footprint.ptIO
    (fun e he => between_plain (plain_of_inIo e he)) fun _ _ _ _ _ _ h => h
  exact hepisode.run_safely hIo between_background (fun _ _ _ _ h => h)
    (fun _ _ _ _ h => h) (fun _ _ _ _ h => h) ⟨trivial, rfl⟩ n

end SprinklersAlarmClock
