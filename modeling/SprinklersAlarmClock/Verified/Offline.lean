import SprinklersAlarmClock.Verified.Messages
import SprinklersAlarmClock.Verified.Passes

/-!
# An alarm without a network

`sendLineMessage` ignores whether the request header went out and asks
`http_getStreamPtr()` for the stream all the same.  That pointer is null when
the socket is neither holding data nor connected at that moment, and
`waitLineResponse` calls through it.  `_tcp` itself always holds an object by
then, and nothing else ends an episode but a dismissal.  A message that has its
stream returns, unless the socket keeps it waiting for ever.  So the alarm
survives being offline exactly when the socket is alive each time the stream is
asked for and lets go of every message (`survives_offline_iff`).
-/

namespace SprinklersAlarmClock

open Logic SPIOStream

/-! ## Reading the log -/

namespace Event

/-- What `http_getStreamPtr()` returned: whether the pointer is non-null. -/
def streamPtr? : Event → Option Bool
  | .mark (.streamPtr nonNull) => some nonNull
  | _ => none

/-- A null pointer is dereferenced. -/
def isNullDeref : Event → Bool
  | .mark .nullDeref => true
  | _ => false

/-- An episode ends. -/
def isAlarmEnd : Event → Bool
  | .mark .alarmEnd => true
  | _ => false

/-- `sendLineMessage` is called. -/
def isNotify : Event → Bool
  | .mark (.notify _) => true
  | _ => false

end Event

/-- The last answer of the socket says that it holds data or is connected. -/
def socketAlive : Log → Bool
  | ⟨_, .net (.connected up)⟩ :: _ => up
  | ⟨_, .net (.available n)⟩ :: _ => decide (n > 0)
  | _ => false

/-- The stream pointer just obtained is null. -/
def nullStream : Log → Bool
  | ⟨_, .mark (.streamPtr nonNull)⟩ :: _ => !nonNull
  | _ => false

/-- A null pointer has just been dereferenced. -/
def halted : Log → Bool
  | ⟨_, .mark .nullDeref⟩ :: _ => true
  | _ => false

/-- A dismissal and then the clean-up code are the newest entries. -/
def cleanedUp : Log → Bool
  | ⟨_, .analogWrite value⟩ :: ⟨_, .noTone⟩ :: ⟨_, .backlight⟩ ::
      ⟨_, .mark (.alarmTest thr)⟩ :: _ => value == 0 && isExitEditMode thr
  | _ => false

/-! ## The property and its condition -/

/-- `waitLineResponse` gets a stream, and no null pointer is used. -/
def StreamOk (e : Entry) (_older : Log) : Prop :=
  e.event.streamPtr? ≠ some false ∧ e.event.isNullDeref = false

/-- An episode under way goes on; it ends after a dismissal and the clean-up
code only. -/
def GoesOn (e : Entry) (older : Log) : Prop :=
  (trigger older).isSome = true →
    e.event.inAlarm = true ∧ (e.event.isAlarmEnd = true → cleanedUp older = true)

/-- A message has been sent in the pass under way. -/
def reporting (l : Log) : Bool :=
  passOpen l && (pass l).any fun e => e.event.isNotify

/-- The alarm survives: no message takes the null-stream branch, every message
answers as its reply says, episodes end by dismissal, the processor never stops,
and once a message has been sent the loop condition is evaluated again. -/
structure SurvivesOffline (env : Env) : Prop where
  stream : ∀ n, Always StreamOk (run env n).log
  answer : ∀ n, Always AnswerOk (run env n).log
  episode : ∀ n, Always GoesOn (run env n).log
  running : ∀ n, (run env n).tick = n
  again : ∀ n, reporting (run env n).log = true → TestFollows env n (fun _ => true) []

/-- Whenever the stream is asked for, the socket is alive. -/
def Online (e : Entry) (older : Log) : Prop :=
  ∀ _up ∈ e.event.streamPtr?, socketAlive older = true

/-- The socket is alive when a message asks for it, and no message is kept
waiting for ever. -/
structure NetworkOk (env : Env) : Prop where
  online : ∀ n, Always Online (run env n).log
  letsGo : ∀ n, reporting (run env n).log = true → ¬ Endless env n

instance (e : Entry) (older : Log) : Decidable (StreamOk e older) :=
  inferInstanceAs (Decidable (_ ∧ _))

instance (e : Entry) (older : Log) : Decidable (Online e older) :=
  Option.decidableForallMem _

/-- The stream pointer is non-null if and only if the socket is alive, and only
a null stream is dereferenced as null. -/
def StreamFollows (e : Entry) (older : Log) : Prop :=
  (∀ up ∈ e.event.streamPtr?, up = socketAlive older) ∧
    (e.event.isNullDeref = true → nullStream older = true)

/-- A null stream is dereferenced next, and nothing follows that. -/
def HaltsOnNull (e : Entry) (older : Log) : Prop :=
  (nullStream older = true → e.event.isNullDeref = true) ∧ halted older = false

/-- What every entry of a run does. -/
structure OfflineOk (e : Entry) (older : Log) : Prop where
  stream : StreamFollows e older
  goesOn : GoesOn e older
  halts : HaltsOnNull e older

namespace Offline

/-- Every entry of the log is fine. -/
def Goal : Safety := fun l _ => Always OfflineOk l

/-- The newest entry is neither a null stream nor its dereference. -/
def calm (l : Log) : Prop := nullStream l = false ∧ halted l = false

/-- Where the stream is not null, nothing has to halt. -/
theorem haltsOnNull_of_calm {l : Log} (h : calm l) (e : Entry) : HaltsOnNull e l := by
  refine ⟨fun hnull => ?_, h.2⟩
  rw [h.1] at hnull
  cases hnull

/-! ## Events that change nothing -/

/-- The events the property and its invariant look at. -/
def watched : Event → Bool
  | .mark .alarm | .mark .alarmEnd | .mark (.streamPtr _) | .mark .nullDeref => true
  | _ => false

/-- Other events say nothing of the stream. -/
theorem streamFollows_of_unwatched {e : Event} (h : watched e = false) (t : Nat)
    (older : Log) : StreamFollows ⟨t, e⟩ older := by
  have hnone : e.streamPtr? = none ∧ e.isNullDeref = false := by
    cases e with
    | mark p => cases p <;> first | exact ⟨rfl, rfl⟩ | cases h
    | _ => exact ⟨rfl, rfl⟩
  constructor
  · intro up hup
    rw [hnone.1] at hup
    cases hup
  · intro hnull
    rw [hnone.2] at hnull
    cases hnull

/-- They neither begin nor end an episode. -/
theorem trigger_unwatched {e : Event} (h : watched e = false) (t : Nat) (l : Log) :
    trigger (⟨t, e⟩ :: l) = trigger l := by
  refine trigger_kept ?_ ?_ t l
  · rintro rfl
    cases h
  · rintro rfl
    cases h

/-- In particular they end none. -/
theorem isAlarmEnd_unwatched {e : Event} (h : watched e = false) :
    e.isAlarmEnd = false := by
  cases e with
  | mark p => cases p <;> first | rfl | cases h
  | _ => rfl

/-- They do not make the stream null. -/
theorem calm_unwatched {e : Event} (h : watched e = false) (t : Nat) (l : Log) :
    calm (⟨t, e⟩ :: l) := by
  cases e with
  | mark p => cases p <;> first | exact ⟨rfl, rfl⟩ | cases h
  | _ => exact ⟨rfl, rfl⟩

/-! ## Assertions -/

/-- No episode is under way. -/
def Outside : Assn := fun l _ _ => trigger l = none ∧ calm l

/-- An episode is under way. -/
def Inside : Assn := fun l _ _ => (trigger l).isSome = true ∧ calm l

/-- Outside an episode anything goes on. -/
theorem goesOn_outside {l : Log} (h : trigger l = none) (e : Entry) : GoesOn e l := by
  intro hsome
  rw [h] at hsome
  cases hsome

/-- Outside an episode. -/
theorem outside_enters {e : Event} (h : watched e = false) :
    Enters Goal Outside e Outside := by
  rintro l t t' v - hJ ⟨hl, hcalm⟩
  refine ⟨⟨⟨streamFollows_of_unwatched h t' l, goesOn_outside hl _,
    haltsOnNull_of_calm hcalm _⟩, hJ⟩, ?_, calm_unwatched h t' l⟩
  rw [trigger_unwatched h]
  exact hl

/-- An event of an episode that ends nothing. -/
theorem goal_inside {e : Event} (hin : e.inAlarm = true) (hend : e.isAlarmEnd = false)
    {l : Log} {t : Nat} (hfollows : StreamFollows ⟨t, e⟩ l) (hhalts : HaltsOnNull ⟨t, e⟩ l)
    (hJ : Goal l t) {t' : Nat} : Goal (⟨t, e⟩ :: l) t' :=
  ⟨⟨hfollows, fun _ => ⟨hin, fun h => absurd h (by rw [hend]; decide)⟩, hhalts⟩, hJ⟩

/-- An episode is under way and the variables satisfy `K`. -/
def InsideWith (K : Vars → Prop) : Assn := fun l t v => Inside l t v ∧ K v

/-- Inside an episode, with something known of the variables. -/
theorem insideWith_enters {e : Event} (hin : e.inAlarm = true)
    (h : watched e = false) {K : Vars → Prop} :
    Enters Goal (InsideWith K) e (InsideWith K) := by
  rintro l t t' v - hJ ⟨⟨hl, hcalm⟩, hK⟩
  refine ⟨goal_inside hin (isAlarmEnd_unwatched h) (streamFollows_of_unwatched h t' l)
    (haltsOnNull_of_calm hcalm _) hJ, ⟨?_, calm_unwatched h t' l⟩, hK⟩
  rw [trigger_unwatched h]
  exact hl

/-- Inside an episode. -/
theorem inside_enters {e : Event} (hin : e.inAlarm = true) (h : watched e = false) :
    Enters Goal Inside e Inside := by
  intro l t t' v ht hJ hl
  have h' := insideWith_enters (K := fun _ => True) hin h l t t' v ht hJ ⟨hl, trivial⟩
  exact ⟨h'.1, h'.2.1⟩

/-! ## The socket -/

/-- Connecting belongs to an episode and asks for no stream. -/
theorem inAlarm_of_inConnect : ∀ e : Event, e.inConnect = true →
    e.inAlarm = true ∧ watched e = false
  | .net _, _ => ⟨rfl, rfl⟩
  | .millis _, _ => ⟨rfl, rfl⟩
  | .delay _, _ => ⟨rfl, rfl⟩

/-- Traffic that assigns nothing. -/
theorem traffic (env : Env) {α : Type} {c : Sketch α} {K : Vars → Prop}
    (hc : Footprint Event.inConnect Eq c) :
    Safely Goal env (InsideWith K) c fun _ => InsideWith K := by
  refine Safely.frame_eq env hc fun e he => ?_
  obtain ⟨hin, hw⟩ := inAlarm_of_inConnect e he
  exact insideWith_enters hin hw

/-- There is a socket object. -/
def hasTcp (v : Vars) : Prop := v.http.tcp = true

/-- `http_connected()` answers for the socket object, when there is one. -/
theorem httpConnected_alive (env : Env) (K : Vars → Prop) :
    Safely Goal env (InsideWith K) Http.httpConnected
      (fun up l t v => InsideWith K l t v ∧ (up = true → hasTcp v) ∧
        (hasTcp v → socketAlive l = up)) := by
  refine Safely.vars fun v₀ => Safely.ite ?_ ?_
  · intro htcp
    refine (Safely.ask (Q := fun n l t v => InsideWith K l t v ∧ hasTcp v ∧
      socketAlive l = decide (n > 0)) fun n => ?_).seq fun n => Safely.ite ?_ ?_
    · rintro l t t' v ht hJ ⟨hl, rfl⟩
      have h := insideWith_enters (e := .net (.available n)) rfl rfl l t t' v ht hJ hl
      exact ⟨h.1, h.2, htcp, rfl⟩
    · intro hn
      refine Safely.pure fun l t v _ h => ⟨h.1, fun _ => h.2.1, fun _ => ?_⟩
      rw [h.2.2, decide_eq_true hn]
    · intro _
      refine Safely.ask fun up => ?_
      rintro l t t' v ht hJ ⟨hl, hv, -⟩
      have h := insideWith_enters (e := .net (.connected up)) rfl rfl l t t' v ht hJ hl
      exact ⟨h.1, h.2, fun _ => hv, fun _ => rfl⟩
  · intro hnone
    refine Safely.pure ?_
    rintro l t v - ⟨hl, rfl⟩
    exact ⟨hl, fun h => absurd h (by decide), fun h => absurd h hnone⟩

/-- `http_begin` has been called. -/
def hasTransport (v : Vars) : Prop := v.http.transport = true

/-- Whatever `http_connect()` answers, there is a socket object afterwards. -/
theorem httpConnect_tcp (env : Env) :
    Safely Goal env (InsideWith hasTransport) Http.httpConnect
      fun _ => InsideWith hasTcp := by
  refine (httpConnected_alive env hasTransport).seq fun up => Safely.ite ?_ ?_
  · intro hup
    have hdrain := (traffic env (K := hasTcp)
      (Footprint.drain (V := Eq))).seq fun _ =>
        Safely.pure (a := true) (Q := fun _ => InsideWith hasTcp)
          fun _ _ _ _ h => h
    exact hdrain.weaken (fun l t v _ h => ⟨h.1.1, h.2.1 hup⟩) fun _ _ _ _ _ h => h
  · intro _
    refine Safely.vars fun v₀ => Safely.ite ?_ ?_
    · intro hnone
      refine Safely.of_false ?_
      rintro l t v - ⟨⟨⟨-, htransport⟩, -⟩, rfl⟩
      rw [show v.http.transport = true from htransport] at hnone
      cases hnone
    · intro _
      refine Safely.seq (M := fun _ => InsideWith hasTcp)
        (Safely.assign fun l t v _ h => ⟨h.1.1.1, rfl⟩) fun _ => ?_
      refine (traffic env (Footprint.ask fun _ => rfl)).seq fun ok => Safely.ite ?_ ?_
      · exact fun _ => Safely.pure fun _ _ _ _ h => h
      · exact fun _ => traffic env Footprint.httpConnected

/-- The header request leaves a client object behind. -/
theorem sendHeader_tcp (env : Env) {header : String}
    (hheader : 0 < header.utf8ByteSize) :
    Safely Goal env (InsideWith hasTransport) (Http.httpSendRequest header "")
      fun _ => InsideWith hasTcp := by
  refine Safely.ite (fun _ => ?_) fun hempty => absurd hheader hempty
  refine (httpConnect_tcp env).seq fun ok => Safely.ite ?_ ?_
  · exact fun _ => Safely.pure fun _ _ _ _ h => h
  · intro _
    refine (traffic env (Footprint.httpSendHeader _)).seq fun sent => Safely.ite ?_ ?_
    · exact fun _ => Safely.pure fun _ _ _ _ h => h
    · intro _
      refine Safely.ite (fun hpos => ?_) fun _ => Safely.pure fun _ _ _ _ h => h
      exact absurd hpos (by decide)

/-- A text does not get empty when another is appended. -/
theorem append_pos {a : String} (h : 0 < a.utf8ByteSize) (b : String) :
    0 < (a ++ b).utf8ByteSize := by
  rw [String.utf8ByteSize_append]
  exact Nat.add_pos_left h _

/-- The header starts with the request line. -/
theorem requestHeader_pos (token : String) (contentLength : Nat) :
    0 < (LineNotify.requestHeader token contentLength).utf8ByteSize := by
  have hpost : 0 < LineNotify.strPost.utf8ByteSize := by decide
  unfold LineNotify.requestHeader
  iterate 25 refine append_pos ?_ _
  exact hpost

/-- The payload is written to the socket object. -/
theorem sendPayload_tcp (env : Env) (payload : String) :
    Safely Goal env (InsideWith hasTcp) (Http.httpSendRequest "" payload)
      fun _ => InsideWith hasTcp := by
  refine Safely.ite (fun hpos => absurd hpos (by decide)) fun _ => ?_
  refine Safely.ite (fun _ => ?_) fun _ => Safely.pure fun _ _ _ _ h => h
  refine Safely.seq (M := fun _ => InsideWith hasTcp) ?_ fun n =>
    Safely.pure fun _ _ _ _ h => h
  refine Safely.vars fun v₀ => Safely.ite ?_ ?_
  · intro _
    have hwrite := traffic env (K := hasTcp)
      (Footprint.write (V := Eq) payload)
    exact hwrite.weaken (fun _ _ _ _ h => h.1) fun _ _ _ _ _ h => h
  · intro hnone
    refine Safely.of_false ?_
    rintro l t v - ⟨⟨-, htcp⟩, rfl⟩
    exact hnone htcp

/-- The stream pointer has just been obtained, and is non-null if `up`. -/
def Pointer (up : Bool) : Assn := fun l _ v =>
  (trigger l).isSome = true ∧ hasTcp v ∧ nullStream l = !up ∧ halted l = false

/-- `waitLineResponse` uses the pointer `http_getStreamPtr()` returned, which
is null exactly if the socket is not alive. -/
theorem waitLineResponse_follows (env : Env) :
    Safely Goal env (InsideWith hasTcp) LineNotify.waitLineResponse
      fun _ => Inside := by
  refine (traffic env (Footprint.millis fun _ => rfl)).seq fun dataTime => ?_
  refine Safely.seq (M := fun _ => InsideWith hasTcp)
    (Safely.assign fun _ _ _ _ h => h) fun _ => ?_
  have hptr : Safely Goal env (InsideWith hasTcp) Http.httpGetStreamPtr Pointer := by
    refine (httpConnected_alive env hasTcp).seq fun up => ?_
    refine (Safely.mark (Q := fun _ => Pointer up) ?_).seq fun _ =>
      Safely.pure fun _ _ _ _ h => h
    rintro l t v hJ ⟨⟨⟨hin, hcalm⟩, htcp⟩, -, halive⟩
    have hfollows : StreamFollows ⟨t, .mark (.streamPtr up)⟩ l := by
      refine ⟨fun up' h => ?_, fun h => absurd h Bool.false_ne_true⟩
      obtain rfl : up = up' := Option.some.inj h
      exact (halive htcp).symm
    exact ⟨goal_inside rfl rfl hfollows (haltsOnNull_of_calm hcalm _) hJ, hin, htcp, rfl, rfl⟩
  refine hptr.seq fun up => Safely.ite ?_ ?_
  · intro hup
    have hawait := (traffic env (K := hasTcp)
      (Footprint.awaitReply (V := Eq) dataTime)).weaken (K := Pointer up)
        (fun l t v _ h => ⟨⟨h.1, by rw [h.2.2.1, hup]; rfl, h.2.2.2⟩, h.2.1⟩)
        fun _ _ _ _ _ h => h
    refine hawait.seq fun r => Safely.seq (M := fun _ => Inside)
      (Safely.assign fun _ _ _ _ h => h.1) fun _ => Safely.pure fun _ _ _ _ h => h
  · intro hup
    refine (Safely.mark (Q := fun _ _ _ _ => True) ?_).seq fun _ => Safely.halt
    rintro l t v hJ ⟨-, -, hnull, hhalted⟩
    have hfollows : StreamFollows ⟨t, .mark .nullDeref⟩ l :=
      ⟨fun _ h => (by cases h), fun _ => by simpa [hup] using hnull⟩
    exact ⟨goal_inside rfl rfl hfollows ⟨fun _ => rfl, hhalted⟩ hJ, trivial⟩

/-- A whole message. -/
theorem sendLineMessage_follows (env : Env) (msg : String) :
    Safely Goal env Inside (LineNotify.sendLineMessage msg) fun _ => Inside := by
  refine (Safely.mark (Q := fun _ => Inside) (inside_enters rfl rfl).marks).seq
    fun _ => ?_
  refine Safely.seq (M := fun _ => InsideWith hasTransport)
    (Safely.assign fun _ _ _ _ h => ⟨h, rfl⟩) fun _ => Safely.vars fun v₀ => ?_
  have hheader := (sendHeader_tcp env (requestHeader_pos v₀.token
    (LineNotify.textHeader msg).utf8ByteSize)).weaken
      (K := fun l t v => InsideWith hasTransport l t v ∧ v = v₀)
      (fun _ _ _ _ h => h.1) fun _ _ _ _ _ h => h
  refine hheader.seq fun _ => (sendPayload_tcp env _).seq fun _ => ?_
  have hanswer : ∀ status, Safely Goal env Inside (LineNotify.answer status)
      fun _ => Inside := fun status =>
    (Safely.mark (Q := fun _ => Inside) (inside_enters rfl rfl).marks).seq fun _ =>
      Safely.pure fun _ _ _ _ h => h
  refine (waitLineResponse_follows env).seq fun ok => Safely.ite ?_ ?_
  · exact fun _ => hanswer _
  · exact fun _ => hanswer _

/-! ## An alarm episode -/

/-- An episode is under way and will have been cleaned up after these events. -/
def Leaving (todo : List Event) : Assn := fun l t v =>
  Inside l t v ∧ ∀ entries : Log, entries.map Entry.event = todo →
    cleanedUp (entries.reverse ++ l) = true

/-- The clean-up code, one statement after the other. -/
theorem leaving_enters {e : Event} {todo : List Event} (hin : e.inAlarm = true)
    (h : watched e = false) :
    Enters Goal (Leaving (e :: todo)) e (Leaving todo) := by
  intro l t t' v ht hJ hl
  have hinside := inside_enters hin h l t t' v ht hJ hl.1
  refine ⟨hinside.1, hinside.2, fun entries hmap => ?_⟩
  have hclean := hl.2 (⟨t', e⟩ :: entries) (by rw [List.map_cons, hmap])
  rwa [List.reverse_cons, List.append_assoc, List.singleton_append] at hclean

/-- The assertions along a `for` loop. -/
def relay (_value : UInt16) : RelayPoints where
  Round := fun _ _ => Inside
  Polled := fun _ _ => Inside
  Written := fun _ _ => Inside
  Done := fun _ => Inside

/-- The assertions along an episode. -/
def episode : EpisodePoints where
  Start := Outside
  Begun := Inside
  Timed := Inside
  Test := fun _ => Inside
  Head := Inside
  Polled := fun _ => Inside
  Due := fun _ => Inside
  on := relay 140
  off := relay 0
  Report := fun _ => Inside
  Notify := fun _ _ => Inside
  Leaving := Leaving [.backlight, .noTone, .analogWrite 0]
  Lit := Leaving [.noTone, .analogWrite 0]
  Quiet := Leaving [.analogWrite 0]
  Dry := Leaving []
  Over := Outside

/-- A poll belongs to an episode. -/
theorem inAlarm_of_inPoll : ∀ e : Event, e.inPoll = true →
    e.inAlarm = true ∧ watched e = false
  | .digitalRead _ _, _ => ⟨rfl, rfl⟩
  | .delay _, _ => ⟨rfl, rfl⟩
  | .mark (.throwSet _), _ => ⟨rfl, rfl⟩

/-- It leaves the episode under way. -/
theorem poll_inside {env : Env} (site : PollSite) (thr : Throw) :
    Safely Goal env Inside (alarmPoll site thr) fun _ => Inside := by
  refine Safely.alarmPoll (inside_enters rfl rfl).marks ?_
  refine Safely.frame_eq _ (Footprint.runEditAlarmMode thr) fun e he => ?_
  obtain ⟨hin, hw⟩ := inAlarm_of_inPoll e he
  exact inside_enters hin hw

/-- The parts of a `for` loop. -/
theorem relay_outline (env : Env) (site : PollSite) (value : UInt16) :
    RelayOutline Goal env site value (relay value) where
  poll := fun _ thr => poll_inside site thr
  write := fun _ _ => inside_enters rfl rfl
  next := fun _ _ _ => inside_enters rfl rfl
  stop := fun _ _ _ => inside_enters rfl rfl
  finish := fun _ _ _ _ _ h => h

/-- The elapsed-time tests. -/
theorem measures_inside (limit : UInt32) : Measures Goal Inside limit Inside Inside :=
  Measures.keep (fun _ => inside_enters rfl rfl) fun _ => inside_enters rfl rfl

/-- The parts of an episode. -/
theorem episode_outline (env : Env) : EpisodeOutline Goal env episode where
  alarm := by
    rintro l t v hJ ⟨hl, hcalm⟩
    have hfollows : StreamFollows ⟨t, .mark .alarm⟩ l :=
      ⟨fun _ h => (by cases h), fun h => (by cases h)⟩
    exact ⟨⟨⟨hfollows, goesOn_outside hl _, haltsOnNull_of_calm hcalm _⟩, hJ⟩, rfl, rfl, rfl⟩
  clock := by
    intro l t t' v ht hJ hl
    exact inside_enters rfl rfl l t t' v ht hJ hl
  tone := inside_enters rfl rfl
  stay := fun _ _ => (inside_enters rfl rfl).marks
  leave := by
    intro thr hthr l t v hJ hl
    have hin := inside_enters (e := .mark (.alarmTest thr)) rfl rfl l t t v
      (Nat.le_refl t) hJ hl
    refine ⟨hin.1, hin.2, fun entries hmap => ?_⟩
    obtain ⟨e₁, entries, rfl, h₁, hmap⟩ := List.map_eq_cons_iff.mp hmap
    obtain ⟨e₂, entries, rfl, h₂, hmap⟩ := List.map_eq_cons_iff.mp hmap
    obtain ⟨e₃, entries, rfl, h₃, hmap⟩ := List.map_eq_cons_iff.mp hmap
    obtain rfl := List.map_eq_nil_iff.mp hmap
    obtain ⟨t₁, _⟩ := e₁
    obtain ⟨t₂, _⟩ := e₂
    obtain ⟨t₃, _⟩ := e₃
    dsimp only at h₁ h₂ h₃
    subst h₁ h₂ h₃
    exact hthr
  head := poll_inside .head .idle
  due := fun _ => measures_inside 10000
  lit := fun _ => inside_enters rfl rfl
  on := relay_outline env .onLoop 140
  dark := fun _ => inside_enters rfl rfl
  off := relay_outline env .offLoop 0
  poured := fun _ _ _ _ _ h => h
  report := fun _ => measures_inside 20000
  notify := fun _ _ msg => sendLineMessage_follows env msg
  notified := fun _ _ _ _ _ h => h
  backlight := leaving_enters rfl rfl
  noTone := leaving_enters rfl rfl
  dry := leaving_enters rfl rfl
  finish := by
    intro l t v hJ hl
    have hfollows : StreamFollows ⟨t, .mark .alarmEnd⟩ l :=
      ⟨fun _ h => (by cases h), fun h => (by cases h)⟩
    exact ⟨⟨⟨hfollows, fun _ => ⟨rfl, fun _ => hl.2 [] rfl⟩,
      haltsOnNull_of_calm hl.1.2 _⟩, hJ⟩, rfl, rfl, rfl⟩

/-! ## The other parts of the sketch -/

/-- `ptIO` asks for no stream. -/
theorem watched_of_inIo (e : Event) (h : e.inIo = true) : watched e = false := by
  cases e with
  | mark p => cases p <;> first | rfl | cases h
  | _ => rfl

/-- Nor do the other parts of the sketch. -/
theorem watched_of_inBackground (e : Event) (h : e.inBackground = true) :
    watched e = false := by
  cases e with
  | mark p => cases p <;> first | rfl | cases h
  | _ => rfl

end Offline

/-- In every run the stream pointer follows the socket, episodes go on and a null
stream stops the processor. -/
theorem offline_ok (env : Env) (n : Nat) : Always OfflineOk (run env n).log := by
  open Offline in
  have hIo := Safely.frame (K := Outside) env Footprint.ptIO
    (fun e he => outside_enters (watched_of_inIo e he)) fun _ _ _ _ _ _ h => h
  have hrest : ∀ e, e.inBackground = true → Enters Goal Outside e Outside :=
    fun e he => outside_enters (watched_of_inBackground e he)
  exact (episode_outline env).run_safely hIo hrest (fun _ _ _ _ h => h)
    (fun _ _ _ _ h => h) (fun _ _ _ _ h => h) ⟨trivial, rfl, rfl, rfl⟩ n

/-! ## Main result -/

namespace Offline

/-- Where the pointer follows a socket that is always alive, no stream is null
and nothing is dereferenced as null. -/
theorem streamOk_of_online : ∀ {l : Log}, Always StreamFollows l → Always Online l →
    Always StreamOk l
  | [], _, _ => trivial
  | e :: older, hfollows, honline => by
      have hptr : e.event.streamPtr? ≠ some false := by
        intro hnull
        have halive := hfollows.1.1 false hnull
        rw [honline.1 false hnull] at halive
        cases halive
      refine ⟨⟨hptr, ?_⟩, streamOk_of_online hfollows.2 honline.2⟩
      cases hderef : e.event.isNullDeref with
      | false => rfl
      | true =>
          -- the stream just obtained was null, which the older log excludes
          have hnull := hfollows.1.2 hderef
          have holder := streamOk_of_online hfollows.2 honline.2
          cases older with
          | nil => cases hnull
          | cons e' older' =>
              obtain ⟨t, e'⟩ := e'
              cases e' with
              | mark p =>
                  cases p with
                  | streamPtr up =>
                      cases up with
                      | false => exact absurd rfl holder.1.1
                      | true => cases hnull
                  | _ => cases hnull
              | _ => cases hnull

/-- A stream that is not null has a socket that is alive. -/
theorem online_of_streamOk {e : Entry} {older : Log} (hfollows : StreamFollows e older)
    (h : StreamOk e older) : Online e older := by
  intro up hup
  rw [← hfollows.1 up hup]
  cases up with
  | true => rfl
  | false => exact absurd hup h.1

end Offline

/-- Nothing has been dereferenced as null in a run without null streams. -/
theorem not_faulted_of_streamOk {w : World} (h : Always StreamOk w.log) : ¬ Faulted w := by
  rintro ⟨t, older, hlog⟩
  rw [hlog] at h
  have hnull : true = false := h.1.2
  cases hnull

/-- **The null-stream branch**, at any point of a run: it is not taken if and only
if the socket has been alive each time `http_getStreamPtr()` was called. -/
theorem streamOk_iff (env : Env) (n : Nat) :
    Always StreamOk (run env n).log ↔ Always Online (run env n).log := by
  have hfollows := (offline_ok env n).imp (Q := StreamFollows) fun _ _ h => h.stream
  constructor
  · intro h
    exact (hfollows.and h).imp fun _ _ h => Offline.online_of_streamOk h.1 h.2
  · exact Offline.streamOk_of_online hfollows

/-- The pass of a message stays one while it lasts. -/
theorem reporting_append {rest l : Log} (h : ∀ e ∈ rest, startsPass e = false)
    (hl : reporting l = true) : reporting (rest ++ l) = true := by
  unfold reporting at hl ⊢
  rw [passOpen_append h, pass_append h, List.any_append]
  simp only [Bool.and_eq_true, Bool.or_eq_true] at hl ⊢
  exact ⟨hl.1, .inr hl.2⟩

/-- A run that goes on for ever in waits never comes to the loop condition. -/
theorem not_endless_of_testFollows {env : Env} {n : Nat} {p : Throw → Bool}
    {after : List Event} (h : TestFollows env n p after) : ¬ Endless env n := by
  intro hendless
  obtain ⟨m, newer, done, test, rest, hlog, -, htest, -⟩ := h
  obtain ⟨waited, hwaited, -, hwaits⟩ := hendless m
  have hall : waited = newer ++ done ++ test :: rest := by
    refine (List.append_left_inj (run env n).log).mp ?_
    rw [← hwaited, hlog]
    simp
  have hwait := hwaits test (by rw [hall]; simp)
  obtain ⟨t, e⟩ := test
  cases e with
  | mark p => cases hwait
  | _ => cases htest

/-- **When an alarm survives being offline.**  In every run, the processor never
stops and every message lets the alarm loop go on, if and only if the socket is
alive each time `http_getStreamPtr()` is called and keeps no message waiting for
ever. -/
theorem survives_offline_iff (env : Env) : SurvivesOffline env ↔ NetworkOk env := by
  constructor
  · intro h
    exact ⟨fun n => (streamOk_iff env n).mp (h.stream n),
      fun n hn => not_endless_of_testFollows (h.again n hn)⟩
  · rintro ⟨honline, hletsGo⟩
    have hstream := fun n => (streamOk_iff env n).mpr (honline n)
    refine ⟨hstream, messages_answer env,
      fun n => (offline_ok env n).imp fun _ _ h => h.goesOn, fun n => ?_, fun n hn => ?_⟩
    · exact (run_tick env n).resolve_right (not_faulted_of_streamOk (hstream n))
    · have hopen : passOpen (run env n).log = true := (Bool.and_eq_true_iff.mp hn).1
      rcases pass_ends env n hopen with htest | ⟨m, rest, hlog, hrest, hend⟩
      · exact htest
      rcases hend with hendless | hfault
      · have hm : reporting (run env (n + m)).log = true := by
          rw [hlog]
          exact reporting_append hrest hn
        exact absurd hendless (hletsGo (n + m) hm)
      · exact absurd hfault (not_faulted_of_streamOk (hstream (n + m)))

/-- The alarm rings unanswered for 20 s and the server cannot be reached. -/
def unreachable : Env :=
  { Env.pending with elapse := fun i => if i = 29 then 20000 else 0 }

/-- The first message dereferences a null stream. -/
theorem stops_offline : ¬ SurvivesOffline unreachable := by
  have hnull : ¬ Always StreamOk (run unreachable 36).log := by decide +kernel
  exact fun h => hnull (h.stream 36)

end SprinklersAlarmClock
