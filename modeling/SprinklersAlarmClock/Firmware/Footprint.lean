import SprinklersAlarmClock.Logic.Extend
import SprinklersAlarmClock.Firmware.Sketch

/-!
# Footprints

For every function of the firmware: which events it can put into the log and
which program variables it can change (`Footprint.within`), that it is metered
(`Footprint.metered`), and that observing it longer continues what was observed
(`Footprint.extended`).  Later modules read invariants off these frames
and never walk a function that is none of their business.
-/

namespace SprinklersAlarmClock

open Logic

/-! ## Steps of the board -/

/-- One step whose event is in `S` and which changes variables only as `V`
allows. -/
inductive Step (S : Event → Bool) (V : Vars → Vars → Prop) (env : Env) :
    World → World → Prop where
  | act (dt : Nat) (e : Event) (w : World) (h : S e = true) :
      Step S V env w ((w.pass env dt).record e)
  | mark (p : Point) (w : World) (h : S (.mark p) = true) :
      Step S V env w (w.record (.mark p))
  | assign (v : Vars) (w : World) (h : V w.vars v) :
      Step S V env w { w with vars := v }
  | write (dt : Nat) (reg : UInt8) (values : List UInt8) (w : World)
      (h : S (.writeRegisters reg values (w.pass env dt).rtc.a2f) = true) :
      Step S V env w
        ({ w.pass env dt with rtc := (w.pass env dt).rtc.storeAll reg values }.record
          (.writeRegisters reg values (w.pass env dt).rtc.a2f))

/-- The processor has faulted. -/
def Faulted (w : World) : Prop :=
  ∃ t older, w.log = ⟨t, .mark .nullDeref⟩ :: older

/-- Frame, metering and extension of a function, established in one walk. -/
structure Footprint (S : Event → Bool) (V : Vars → Vars → Prop) {α : Type}
    (c : Sketch α) : Prop where
  within : Within (Step S V) c
  metered : Metered World.tick Faulted c
  extended : Extends (Step S V) c

section Rules

variable {S : Event → Bool} {V : Vars → Vars → Prop} {α β : Type}

theorem Step.mono {S' : Event → Bool} {V' : Vars → Vars → Prop}
    (hS : ∀ e, S e = true → S' e = true) (hV : ∀ v v', V v v' → V' v v')
    {env : Env} {w w' : World} (h : Step S V env w w') : Step S' V' env w w' := by
  cases h with
  | act dt e _ h => exact .act dt e w (hS e h)
  | mark p _ h => exact .mark p w (hS _ h)
  | assign v _ h => exact .assign v w (hV _ _ h)
  | write dt reg values _ h => exact .write dt reg values w (hS _ h)

/-- A predicate on log, time and variables is kept by a step if every event of
`S` keeps it, at whatever later time, and every assignment of `V` does. -/
theorem Step.keeps (K : Log → Nat → Vars → Prop)
    (hev : ∀ l t t' v e, t ≤ t' → S e = true → K l t v → K (⟨t', e⟩ :: l) t' v)
    (hvar : ∀ l t v v', V v v' → K l t v → K l t v') {env : Env}
    {w w' : World} (h : Step S V env w w') (hK : K w.log w.now w.vars) :
    K w'.log w'.now w'.vars := by
  cases h with
  | act dt e _ h => exact hev _ _ _ _ e (Nat.le_add_right _ _) h hK
  | mark p _ h => exact hev _ _ _ _ _ (Nat.le_refl _) h hK
  | assign v _ h => exact hvar _ _ _ v h hK
  | write dt reg values _ h => exact hev _ _ _ _ _ (Nat.le_add_right _ _) h hK

namespace Footprint

theorem mono {S' : Event → Bool} {V' : Vars → Vars → Prop} {c : Sketch α}
    (h : Footprint S V c) (hS : ∀ e, S e = true → S' e = true)
    (hV : ∀ v v', V v v' → V' v v') : Footprint S' V' c :=
  ⟨h.within.mono fun _ _ _ => Step.mono hS hV, h.metered,
    h.extended.mono fun _ _ _ => Step.mono hS hV⟩

theorem pure (a : α) : Footprint S V (pure a : Sketch α) :=
  ⟨Within.pure a, Metered.pure a, Extends.pure a⟩

theorem bind {c : Sketch β} {f : β → Sketch α} (hc : Footprint S V c)
    (hf : ∀ b, Footprint S V (f b)) : Footprint S V (c >>= f) :=
  ⟨hc.within.bind fun b => (hf b).within,
    hc.metered.bind fun b => (hf b).metered,
    hc.extended.bind (fun b => (hf b).extended) fun b => (hf b).within⟩

theorem ite {p : Prop} [Decidable p] {c d : Sketch α}
    (hc : Footprint S V c) (hd : Footprint S V d) :
    Footprint S V (if p then c else d) :=
  ⟨Within.ite hc.within hd.within, Metered.ite hc.metered hd.metered,
    Extends.ite hc.extended hd.extended⟩

theorem op {f : Env → World → α × World}
    (hstep : ∀ env w, Step S V env w (f env w).2)
    (htick : ∀ env w, (f env w).2.tick = w.tick + 1) :
    Footprint S V (Prog.op f) :=
  ⟨Within.op hstep, Metered.op htick, Extends.op hstep⟩

theorem ask {answer : Env → Nat → World → α} {event : α → Event}
    (h : ∀ a, S (event a) = true) : Footprint S V (ask answer event) :=
  op (fun _ w => .act _ _ w (h _)) fun _ _ => rfl

theorem act {e : Event} (h : S e = true) : Footprint S V (act e) :=
  op (fun _ w => .act _ _ w h) fun _ _ => rfl

theorem delay {ms : Nat} (h : S (.delay ms) = true) :
    Footprint S V (delay ms) :=
  op (fun _ w => .act _ _ w h) fun _ _ => rfl

theorem writeBurst {reg : UInt8} {values : List UInt8}
    (h : ∀ a2f, S (.writeRegisters reg values a2f) = true) :
    Footprint S V (DS3231.writeBurst reg values) :=
  op (fun _ w => .write _ reg values w (h _)) fun _ _ => rfl

theorem mark {p : Point} (h : S (.mark p) = true) : Footprint S V (mark p) :=
  ⟨Within.modify fun _ w => .mark p w h, Metered.modify fun _ => rfl,
    Extends.modify⟩

theorem assign {f : Vars → Vars} (h : ∀ v, V v (f v)) :
    Footprint S V (assign f) :=
  ⟨Within.modify fun _ w => .assign _ w (h _), Metered.modify fun _ => rfl,
    Extends.modify⟩

theorem vars : Footprint S V vars :=
  ⟨Within.get.bind fun _ => Within.pure _, Metered.get.bind fun _ => Metered.pure _,
    Extends.get.bind (fun _ => Extends.pure _) fun _ => Within.pure _⟩

theorem fault (h : S (.mark .nullDeref) = true) :
    Footprint S V (fault : Sketch α) where
  within := (Footprint.mark h).within.bind fun _ => Within.halt
  metered := fun _ _ w => .inr ⟨w.now, w.log, rfl⟩
  extended := Extends.modify.bind (fun _ => Extends.halt) fun _ => Within.halt

theorem whileDo {cond : Sketch Bool} {body : Sketch Unit}
    (hc : Footprint S V cond) (hb : Footprint S V body)
    (hspend : Spends (fun _ => True) cond) :
    Footprint S V (Prog.whileDo cond body) :=
  ⟨Within.whileDo hc.within hb.within,
    Metered.whileDo hc.metered hb.metered hspend,
    Extends.whileDo hc.extended hb.extended hc.within hb.within⟩

theorem upTo {body : β → Sketch (β × Bool)} (h : ∀ b, Footprint S V (body b))
    (n : Nat) (b : β) : Footprint S V (Prog.upTo body n b) :=
  ⟨Within.upTo (fun b => (h b).within) n b,
    Metered.upTo (fun b => (h b).metered) n b,
    Extends.upTo (fun b => (h b).extended) (fun b => (h b).within) n b⟩

theorem loop {body : β → Sketch (β ⊕ α)} (h : ∀ b, Footprint S V (body b))
    (hspend : ∀ b, Spends (fun r => r.isLeft = true) (body b)) (b : β) :
    Footprint S V (Prog.loop body b) :=
  ⟨Within.loop (fun b => (h b).within) b,
    Metered.loop (fun b => (h b).metered) hspend b,
    Extends.loop (fun b => (h b).extended) (fun b => (h b).within) b⟩

theorem protothread {resumed : World → Bool} {f : Vars → Vars}
    {before after : Sketch Unit} {cond : Sketch Bool}
    (hset : ∀ v, V v (f v)) (hb : Footprint S V before)
    (hc : Footprint S V cond) (hspend : Spends (fun _ => True) cond)
    (ha : Footprint S V after) :
    Footprint S V (Prog.protothread resumed
      (fun w => { w with vars := f w.vars }) before cond after) :=
  ⟨Within.protothread (fun _ w => .assign _ w (hset _)) hb.within hc.within
      ha.within,
    Metered.protothread (Metered.modify fun _ => rfl) hb.metered hc.metered
      hspend ha.metered,
    Extends.protothread (fun _ w => .assign _ w (hset _)) hb.extended hb.within
      hc.extended hc.within ha.extended ha.within⟩

end Footprint

end Rules

/-! ## Event sets -/

namespace Event

/-- `runEditAlarmMode`. -/
def inPoll : Event → Bool
  | .digitalRead _ _ | .delay _ | .mark (.throwSet _) => true
  | _ => false

/-- `sendLineMessage`. -/
def inNotify : Event → Bool
  | .net _ | .millis _ | .delay _ => true
  | .mark (.notify _) | .mark (.streamPtr _) | .mark (.sent _) => true
  | .mark .nullDeref => true
  | _ => false

/-- `http_sendRequest`. -/
def inRequest : Event → Bool
  | .net _ | .millis _ | .delay _ | .mark .nullDeref => true
  | _ => false

/-- Traffic on the network: `waitWifi`, `initNotifier` and the socket. -/
def inConnect : Event → Bool
  | .net _ | .millis _ | .delay _ => true
  | _ => false

/-- `DS3231::begin`. -/
def inBegin : Event → Bool
  | .wireBegin => true
  | .readRegister reg _ => reg == regControl
  | .writeRegisters reg values _ => reg == regControl && values.length == 1
  | .mark .enterDS3231 | .mark .leaveDS3231 => true
  | _ => false

/-- `setup`. -/
def inSetup : Event → Bool
  | .wireBegin | .lcdInit | .backlight | .pinMode => true
  | .net _ | .millis _ | .delay _ => true
  | .readRegister reg _ => reg == regControl
  | .writeRegisters reg values _ => reg == regControl && values.length == 1
  | .mark .enterDS3231 | .mark .leaveDS3231 | .mark .setupDone => true
  | _ => false

/-- `ptUIDisplay`. -/
def inUi : Event → Bool
  | .readTime _ | .lcd _ | .millis _ => true
  | .mark .enterDS3231 | .mark .leaveDS3231 => true
  | .mark (.updatedData _) | .mark .uiStored | .mark (.uiGate _) => true
  | _ => false

/-- `ptIO`. -/
def inIo : Event → Bool
  | .digitalRead _ _ | .delay _ | .lcd _ => true
  | .readRegister _ _ | .writeRegisters _ _ _ => true
  | .mark .enterDS3231 | .mark .leaveDS3231 | .mark (.setAlarm2 _ _ _) => true
  | .mark (.editStart _) | .mark (.throwSet _) | .mark (.editEnd _) => true
  | .mark .addHour | .mark .addMinute => true
  | _ => false

/-- `applyThrow`. -/
def inApply : Event → Bool
  | .lcd _ | .readRegister _ _ | .writeRegisters _ _ _ => true
  | .mark .enterDS3231 | .mark .leaveDS3231 | .mark (.setAlarm2 _ _ _) => true
  | .mark .addHour | .mark .addMinute => true
  | _ => false

/-- `isAlarm2`. -/
def inIsAlarm2 : Event → Bool
  | .readRegister _ _ => true
  | .writeRegisters reg values _ => reg == regStatus && values.length == 1
  | .mark .enterDS3231 | .mark .leaveDS3231 => true
  | _ => false

/-- An alarm episode, once it has begun. -/
def inAlarm : Event → Bool
  | .digitalRead _ _ | .delay _ | .mark (.throwSet _) => true
  | .net _ | .millis _ => true
  | .mark (.notify _) | .mark (.streamPtr _) | .mark (.sent _) => true
  | .mark .nullDeref => true
  | .tone _ | .noTone | .backlight | .noBacklight | .analogWrite _ => true
  | .mark (.alarmTest _) | .mark (.alarmPoll _) => true
  | .mark (.elapsed _ _) | .mark .alarmEnd => true
  | _ => false

/-- `setup`, `ptUIDisplay` and `isAlarm2`. -/
def inBackground (e : Event) : Bool := e.inSetup || e.inUi || e.inIsAlarm2

/-- `ptSprinklers`. -/
def inSprinklers : Event → Bool
  | .mark .alarm => true
  | e => e.inIsAlarm2 || e.inAlarm

end Event

/-! ## Variable frames -/

/-- What `setup` leaves alone. -/
def setupVars (v v' : Vars) : Prop :=
  v'.date = v.date ∧ (v.ptUi = false → v'.ptUi = false)

/-- What `ptUIDisplay` leaves alone. -/
def uiVars (v v' : Vars) : Prop := v'.sprinklersLastTime = v.sprinklersLastTime

/-- What `ptIO` leaves alone. -/
def ioVars (v v' : Vars) : Prop :=
  v'.ptUi = v.ptUi ∧ v'.uiLastTime = v.uiLastTime ∧
    v'.sprinklersLastTime = v.sprinklersLastTime

/-- What `ptSprinklers` leaves alone. -/
def sprinklersVars (v v' : Vars) : Prop :=
  v'.ptUi = v.ptUi ∧ v'.uiLastTime = v.uiLastTime ∧ v'.date = v.date

/-- What `sendLineMessage` leaves alone. -/
def notifyVars (v v' : Vars) : Prop :=
  sprinklersVars v v' ∧ v'.sprinklersLastTime = v.sprinklersLastTime

/-! ## Functions -/

namespace Footprint

section Poll

variable {V : Vars → Vars → Prop}

theorem digitalRead (b : Button) : Footprint Event.inPoll V (digitalRead b) :=
  ask fun _ => rfl

theorem spends_digitalRead {p : Bool → Prop} (b : Button) :
    Spends p (SprinklersAlarmClock.digitalRead b) := Spends.op

theorem setThrow (t : Throw) : Footprint Event.inPoll V (SPIOStream.setThrow t) :=
  (mark rfl).bind fun _ => pure t

theorem waitRelease (b : Button) :
    Footprint Event.inPoll V (SPIOStream.waitRelease b) :=
  (whileDo (digitalRead b) (pure ()) (spends_digitalRead b)).bind fun _ =>
    delay rfl

/-- What follows the first sample of `runEditAlarmMode`. -/
private theorem afterEditSample (t : Throw) (b : Bool) :
    Footprint Event.inPoll V (if b = true then SPIOStream.setThrow .throwExit
      else SprinklersAlarmClock.digitalRead .btnAddHour >>= fun b =>
        if b = true then do
          let t ← SPIOStream.setThrow .throwAddHour
          SPIOStream.waitRelease .btnAddHour
          return t
        else SprinklersAlarmClock.digitalRead .btnAddMinute >>= fun b =>
          if b = true then do
            let t ← SPIOStream.setThrow .throwAddMin
            SPIOStream.waitRelease .btnAddMinute
            return t
          else SprinklersAlarmClock.digitalRead .btnAlarmConfirm >>= fun b =>
            if b = true then SPIOStream.setThrow .throwConfirm
            else Pure.pure t) := by
  refine ite (setThrow _) ((digitalRead _).bind fun _ => ite ?_ ?_)
  · exact (setThrow _).bind fun _ => (waitRelease _).bind fun _ => pure _
  refine (digitalRead _).bind fun _ => ite ?_ ?_
  · exact (setThrow _).bind fun _ => (waitRelease _).bind fun _ => pure _
  exact (digitalRead _).bind fun _ => ite (setThrow _) (pure _)

theorem runEditAlarmMode (t : Throw) :
    Footprint Event.inPoll V (SPIOStream.runEditAlarmMode t) :=
  (digitalRead _).bind (afterEditSample t)

/-- `runEditAlarmMode` samples at least one button. -/
theorem spends_runEditAlarmMode {p : Throw → Prop} (t : Throw) :
    Spends p (SPIOStream.runEditAlarmMode t) :=
  Spends.bind_left (spends_digitalRead _) fun b =>
    (afterEditSample (V := Eq) t b).metered

end Poll

/-! ### Network -/

section Notify

variable {V : Vars → Vars → Prop}

theorem net (e : NetEvent) {S : Event → Bool} (h : S (.net e) = true) :
    Footprint S V (SprinklersAlarmClock.net e) := act h

theorem millis {S : Event → Bool} (h : ∀ t, S (.millis t) = true) :
    Footprint S V SprinklersAlarmClock.millis := ask h

theorem available : Footprint Event.inConnect V Tcp.available := ask fun _ => rfl

theorem connected : Footprint Event.inConnect V Tcp.connected := ask fun _ => rfl

theorem read : Footprint Event.inConnect V Tcp.read := ask fun _ => rfl

theorem write (text : String) : Footprint Event.inConnect V (Tcp.write text) :=
  ask fun _ => rfl

theorem httpConnected : Footprint Event.inConnect V Http.httpConnected :=
  vars.bind fun _ => ite
    (available.bind fun _ => ite (pure _) connected) (pure _)

theorem drain : Footprint Event.inConnect V Http.drain :=
  whileDo (available.bind fun _ => pure _) (read.bind fun _ => pure _)
    (Spends.bind_left Spends.op fun _ => (pure (S := Event.inConnect) (V := V) _).metered)

theorem httpConnect : Footprint Event.inConnect notifyVars Http.httpConnect := by
  refine httpConnected.bind fun _ => ite (drain.bind fun _ => pure _) ?_
  refine vars.bind fun _ => ite (pure _) ?_
  refine (assign fun _ => ⟨⟨rfl, rfl, rfl⟩, rfl⟩).bind fun _ => ?_
  exact (ask fun _ => rfl).bind fun _ => ite (pure _) httpConnected

theorem httpSendHeader (header : String) :
    Footprint Event.inConnect V (Http.httpSendHeader header) :=
  httpConnected.bind fun _ => ite (pure _) ((write _).bind fun _ => pure _)

theorem inConnect_inRequest : ∀ e : Event, e.inConnect = true → e.inRequest = true
  | .net _, _ => rfl
  | .millis _, _ => rfl
  | .delay _, _ => rfl

theorem inRequest_inNotify : ∀ e : Event, e.inRequest = true → e.inNotify = true
  | .net _, _ => rfl
  | .millis _, _ => rfl
  | .delay _, _ => rfl
  | .mark .nullDeref, _ => rfl

/-- Traffic on the socket is part of a request. -/
theorem traffic {α : Type} {c : Sketch α} (h : Footprint Event.inConnect V c) :
    Footprint Event.inRequest V c := h.mono inConnect_inRequest fun _ _ h => h

theorem sendPayload (payload : String) :
    Footprint Event.inRequest V (Http.sendPayload payload) := by
  refine ite ?_ (pure _)
  refine Footprint.bind ?_ fun _ => pure _
  exact vars.bind fun _ => ite (traffic (write _)) (fault rfl)

theorem httpSendRequest (header payload : String) :
    Footprint Event.inRequest notifyVars (Http.httpSendRequest header payload) := by
  refine ite ?_ (sendPayload _)
  refine (traffic httpConnect).bind fun _ => ite (pure _) ?_
  exact (traffic (httpSendHeader _)).bind fun _ => ite (pure _) (sendPayload _)

/-- Requests are part of sending a message. -/
theorem request {α : Type} {c : Sketch α} (h : Footprint Event.inRequest V c) :
    Footprint Event.inNotify V c := h.mono inRequest_inNotify fun _ _ h => h

theorem waitData (dataTime : UInt32) :
    Footprint Event.inConnect V (LineNotify.waitData dataTime) := by
  have hrest : ∀ b : Bool, Footprint Event.inConnect V
      (if (!b) = true then Pure.pure false else Tcp.available >>= fun n =>
        if (n != 0) = true then Pure.pure false
        else SprinklersAlarmClock.millis >>= fun now =>
          Pure.pure (decide (now - dataTime < Http.tcpTimeout))) := fun _ =>
    ite (pure _) (available.bind fun _ => ite (pure _)
      ((millis fun _ => rfl).bind fun _ => pure _))
  exact whileDo (connected.bind hrest) (delay rfl)
    (Spends.bind_left Spends.op fun b => (hrest b).metered)

theorem readChar (r : LineNotify.ReadState) :
    Footprint Event.inConnect V (LineNotify.readChar r) := by
  refine (net _ rfl).bind fun _ => read.bind fun _ => ite ?_ (pure _)
  exact (millis fun _ => rfl).bind fun _ => pure _

theorem readReply (r : LineNotify.ReadState) :
    Footprint Event.inConnect V (LineNotify.readReply r) := by
  have hround : ∀ (r : LineNotify.ReadState) (n : Int), Footprint Event.inConnect V
      (if n = 0 then Pure.pure (.inr r.parsed)
        else LineNotify.readChar r >>= fun r =>
          SprinklersAlarmClock.millis >>= fun now =>
            if now - r.dataTime > Http.tcpTimeout then
              Pure.pure (.inr { r.parsed with httpCode := Http.errorReadTimeout })
            else Pure.pure (.inl r) :
        Sketch (LineNotify.ReadState ⊕ Reply.Parsed)) := fun _ _ =>
    ite (pure _) ((readChar _).bind fun _ =>
      (millis fun _ => rfl).bind fun _ => ite (pure _) (pure _))
  exact loop (fun r => available.bind (hround r))
    (fun r => Spends.bind_left Spends.op fun n => (hround r n).metered) r

theorem awaitReply (dataTime : UInt32) :
    Footprint Event.inConnect V (LineNotify.awaitReply dataTime) := by
  refine (waitData _).bind fun _ => (millis fun _ => rfl).bind fun _ => ?_
  refine connected.bind fun _ => ite (pure _) ?_
  exact available.bind fun _ => ite (pure _) (readReply _)

theorem waitLineResponse :
    Footprint Event.inNotify notifyVars LineNotify.waitLineResponse := by
  refine (millis fun _ => rfl).bind fun _ => ?_
  refine (assign fun _ => ⟨⟨rfl, rfl, rfl⟩, rfl⟩).bind fun _ => ?_
  refine Footprint.bind ((request (traffic httpConnected)).bind fun _ =>
    (mark rfl).bind fun _ => pure _) fun _ => ite ?_ (fault rfl)
  refine (request (traffic (awaitReply _))).bind fun _ => ?_
  exact (assign fun _ => ⟨⟨rfl, rfl, rfl⟩, rfl⟩).bind fun _ => pure _

theorem sendLineMessage (msg : String) :
    Footprint Event.inNotify notifyVars (LineNotify.sendLineMessage msg) := by
  refine (mark rfl).bind fun _ => ?_
  refine (assign fun _ => ⟨⟨rfl, rfl, rfl⟩, rfl⟩).bind fun _ => vars.bind fun _ => ?_
  refine (request (httpSendRequest _ _)).bind fun _ => ?_
  refine (request (httpSendRequest _ _)).bind fun _ => ?_
  have hanswer : ∀ status, Footprint Event.inNotify notifyVars
      (LineNotify.answer status) := fun _ => (mark rfl).bind fun _ => pure _
  exact waitLineResponse.bind fun _ => ite (hanswer _) (hanswer _)

end Notify

/-! ### The clock chip -/

section Bus

variable {S : Event → Bool} {V : Vars → Vars → Prop} {α : Type}

theorem member {c : Sketch α} (he : S (.mark .enterDS3231) = true)
    (hl : S (.mark .leaveDS3231) = true) (hc : Footprint S V c) :
    Footprint S V (DS3231.member c) :=
  (mark he).bind fun _ => hc.bind fun _ => (mark hl).bind fun _ => pure _

theorem readRegister8 {reg : UInt8} (h : ∀ v, S (.readRegister reg v) = true) :
    Footprint S V (DS3231.readRegister8 reg) := ask h

theorem isAlarm2 (clear : Bool) :
    Footprint Event.inIsAlarm2 V (DS3231.isAlarm2 clear) := by
  refine member rfl rfl ((readRegister8 fun _ => rfl).bind fun _ => ite ?_ (pure _))
  refine Footprint.bind ?_ fun _ => pure _
  exact (readRegister8 fun _ => rfl).bind fun _ => writeBurst fun _ => rfl

theorem spends_isAlarm2 {p : Bool → Prop} (clear : Bool) :
    Spends p (DS3231.isAlarm2 clear) := by
  have hrest : ∀ status : UInt8, Footprint Event.inIsAlarm2 Eq
      (if (status &&& 0b00000010 != 0 && clear) = true then
          DS3231.clearAlarm2 >>= fun _ => Pure.pure (status &&& 0b00000010 != 0)
        else Pure.pure (status &&& 0b00000010 != 0)) := fun _ =>
    ite (((readRegister8 fun _ => rfl).bind fun _ =>
      writeBurst fun _ => rfl).bind fun _ => pure _) (pure _)
  have henter : Footprint Event.inIsAlarm2 Eq
      (SprinklersAlarmClock.mark .enterDS3231) := mark rfl
  have hleave : ∀ a : Bool, Footprint Event.inIsAlarm2 Eq
      (SprinklersAlarmClock.mark .leaveDS3231 >>= fun _ => Pure.pure a) :=
    fun _ => (mark rfl).bind fun _ => pure _
  refine Spends.bind_right henter.metered fun _ => ?_
  exact Spends.bind_left
    (Spends.bind_left Spends.op fun status => (hrest status).metered)
    fun a => (hleave a).metered

theorem setAlarm2 {dydw hour minute : UInt8} {mode : DS3231.Alarm2Mode}
    {armed : Bool} (he : S (.mark .enterDS3231) = true)
    (hl : S (.mark .leaveDS3231) = true)
    (hcall : S (.mark (.setAlarm2 dydw hour minute)) = true)
    (hread : ∀ reg value, S (.readRegister reg value) = true)
    (hwrite : ∀ reg values a2f, S (.writeRegisters reg values a2f) = true) :
    Footprint S V (DS3231.setAlarm2 dydw hour minute mode armed) := by
  refine member he hl ((mark hcall).bind fun _ => (writeBurst (hwrite _ _)).bind
    fun _ => Footprint.bind ?_ fun _ => ?_)
  · exact (readRegister8 (hread _)).bind fun _ => writeBurst (hwrite _ _)
  · exact (readRegister8 (hread _)).bind fun _ => writeBurst (hwrite _ _)

end Bus

/-! ### `setup` -/

theorem begin {V : Vars → Vars → Prop} : Footprint Event.inBegin V DS3231.begin := by
  refine member rfl rfl ((act rfl).bind fun _ => ?_)
  exact (readRegister8 fun _ => rfl).bind fun _ => writeBurst fun _ => rfl

theorem wifiStatus {V : Vars → Vars → Prop} :
    Footprint Event.inConnect V SprinklersAlarmClock.wifiStatus := ask fun _ => rfl

theorem waitWifi {V : Vars → Vars → Prop} (lastTime : UInt32) :
    Footprint Event.inConnect V (SprinklersAlarmClock.waitWifi lastTime) := by
  have hrest : ∀ b : Bool, Footprint Event.inConnect V
      (if b = true then Pure.pure false
        else SprinklersAlarmClock.millis >>= fun now =>
          Pure.pure (decide ((now.toNat : Int) - lastTime.toNat ≤ wifiTimeout))) :=
    fun _ => ite (pure _) ((millis fun _ => rfl).bind fun _ => pure _)
  refine whileDo (wifiStatus.bind hrest) ?_
    (Spends.bind_left Spends.op fun b => (hrest b).metered)
  exact (net _ rfl).bind fun _ => (net _ rfl).bind fun _ => delay rfl

theorem init (token : String) :
    Footprint Event.inConnect setupVars (LineNotify.init token) :=
  Footprint.bind (net _ rfl) fun _ => assign fun _ => ⟨rfl, fun h => h⟩

theorem initNotifier :
    Footprint Event.inConnect setupVars SprinklersAlarmClock.initNotifier := by
  refine wifiStatus.bind fun _ => ite ?_ (pure _)
  refine (init _).bind fun _ => ?_
  refine (net _ rfl).bind fun _ => (net _ rfl).bind fun _ => ?_
  exact (ask fun _ => rfl).bind fun _ => pure _

theorem inConnect_inSetup : ∀ e : Event, e.inConnect = true → e.inSetup = true
  | .net _, _ => rfl
  | .millis _, _ => rfl
  | .delay _, _ => rfl

theorem inBegin_inSetup : ∀ e : Event, e.inBegin = true → e.inSetup = true
  | .wireBegin, _ => rfl
  | .readRegister _ _, h => h
  | .writeRegisters _ _ _, h => h
  | .mark .enterDS3231, _ => rfl
  | .mark .leaveDS3231, _ => rfl

theorem setup : Footprint Event.inSetup setupVars SprinklersAlarmClock.setup := by
  refine (begin.mono inBegin_inSetup fun _ _ h => h).bind fun _ => ?_
  refine (act rfl).bind fun _ => (act rfl).bind fun _ => ?_
  refine Footprint.bind (assign fun _ => ⟨rfl, fun _ => rfl⟩) fun _ => ?_
  refine (net _ rfl).bind fun _ => ?_
  refine (millis fun _ => rfl).bind fun _ => ?_
  refine ((waitWifi _).mono inConnect_inSetup fun _ _ h => h).bind fun _ => ?_
  refine (initNotifier.mono inConnect_inSetup fun _ _ h => h).bind fun _ => ?_
  exact (act rfl).bind fun _ => mark rfl

/-! ### The protothreads -/

theorem updatedData :
    Footprint Event.inUi uiVars TimeSystemData.updatedData := by
  refine (member rfl rfl ((ask fun _ => rfl).bind fun _ => pure _)).bind fun _ => ?_
  exact Footprint.bind (assign fun _ => rfl) fun _ => mark rfl

theorem refresh : Footprint Event.inUi uiVars SprinklersAlarmClock.refresh := by
  refine updatedData.bind fun _ => vars.bind fun _ => (act rfl).bind fun _ => ?_
  exact (millis fun _ => rfl).bind fun _ =>
    Footprint.bind (assign fun _ => rfl) fun _ => mark rfl

/-- What follows the clock reading of the wait condition of `ptUIDisplay`. -/
private theorem afterUiMillis {V : Vars → Vars → Prop} (now : UInt32) :
    Footprint Event.inUi V (do
      let v ← SprinklersAlarmClock.vars
      let fired := decide (now ≥ v.uiLastTime + 1000)
      SprinklersAlarmClock.mark (.uiGate fired)
      return fired) :=
  vars.bind fun _ => (mark rfl).bind fun _ => pure _

theorem uiDue {V : Vars → Vars → Prop} :
    Footprint Event.inUi V SprinklersAlarmClock.uiDue :=
  (millis fun _ => rfl).bind afterUiMillis

theorem spends_uiDue {p : Bool → Prop} : Spends p SprinklersAlarmClock.uiDue :=
  Spends.bind_left Spends.op fun now => (afterUiMillis (V := Eq) now).metered

theorem ptUIDisplay :
    Footprint Event.inUi uiVars SprinklersAlarmClock.ptUIDisplay :=
  protothread (f := fun v => { v with ptUi := true }) (fun _ => rfl) refresh uiDue
    spends_uiDue (pure ())

theorem displayEditModeUI {S : Event → Bool} {V : Vars → Vars → Prop}
    (data : RTCDateTime) (h : ∀ cmds, S (.lcd cmds) = true) :
    Footprint S V (AlarmDisplay.displayEditModeUI data) := act (h _)

/-- The two branches of `applyThrow` that edit `date`. -/
theorem edited {S : Event → Bool} {V : Vars → Vars → Prop} {p : Point}
    {f : Vars → Vars} (hp : S (.mark p) = true) (hf : ∀ v, V v (f v))
    (hlcd : ∀ cmds, S (.lcd cmds) = true) :
    Footprint S V (do
      SprinklersAlarmClock.mark p
      SprinklersAlarmClock.assign f
      let v ← SprinklersAlarmClock.vars
      AlarmDisplay.displayEditModeUI v.date) :=
  (mark hp).bind fun _ => (assign hf).bind fun _ => vars.bind fun _ =>
    displayEditModeUI _ hlcd

theorem applyThrow (t : Throw) :
    Footprint Event.inApply ioVars (SprinklersAlarmClock.applyThrow t) := by
  cases t with
  | idle => exact pure _
  | throwExit => exact pure _
  | throwConfirm =>
      exact vars.bind fun _ => setAlarm2 rfl rfl rfl (fun _ _ => rfl) fun _ _ _ => rfl
  | throwAddHour => exact edited rfl (fun _ => ⟨rfl, rfl, rfl⟩) fun _ => rfl
  | throwAddMin => exact edited rfl (fun _ => ⟨rfl, rfl, rfl⟩) fun _ => rfl

theorem inPoll_inIo : ∀ e : Event, e.inPoll = true → e.inIo = true
  | .digitalRead _ _, _ => rfl
  | .delay _, _ => rfl
  | .mark (.throwSet _), _ => rfl

theorem pollIo (t : Throw) :
    Footprint Event.inIo ioVars (SPIOStream.runEditAlarmMode t) :=
  (runEditAlarmMode (V := ioVars) t).mono inPoll_inIo fun _ _ h => h

theorem inApply_inIo (e : Event) (h : e.inApply = true) : e.inIo = true := by
  cases e with
  | mark p => cases p <;> first | rfl | cases h
  | _ => first | rfl | cases h

theorem editLoop (t : Throw) :
    Footprint Event.inIo ioVars (SprinklersAlarmClock.editLoop t) := by
  have hrest : ∀ t : Throw, Footprint Event.inIo ioVars
      (SprinklersAlarmClock.applyThrow t >>= fun _ =>
        Pure.pure (.inl t) : Sketch (Throw ⊕ Unit)) :=
    fun t => ((applyThrow t).mono inApply_inIo fun _ _ h => h).bind
      fun _ => pure _
  refine loop (fun _ => ite ?_ ?_) (fun _ => Spends.ite ?_ ?_) t
  · exact (mark rfl).bind fun _ => pure _
  · exact (pollIo _).bind hrest
  · exact Spends.bind_right (mark (S := Event.inIo) (V := Eq) rfl).metered fun _ =>
      Spends.pure (by simp)
  · exact Spends.bind_left (spends_runEditAlarmMode _) fun t => (hrest t).metered

theorem editSession :
    Footprint Event.inIo ioVars SprinklersAlarmClock.editSession := by
  refine vars.bind fun _ => (mark rfl).bind fun _ => ?_
  exact (displayEditModeUI _ fun _ => rfl).bind fun _ =>
    (editLoop _).bind fun _ => delay rfl

/-- What follows the sample of `isClickedEditBtn`. -/
private theorem afterClick (b : Bool) :
    Footprint Event.inPoll ioVars
      (if b = true then do
        SprinklersAlarmClock.assign fun v => { v with editMode := true }
        SprinklersAlarmClock.delay 500
        return true
      else return false) := by
  refine ite ?_ (pure _)
  exact (assign fun _ => ⟨rfl, rfl, rfl⟩).bind fun _ =>
    (delay rfl).bind fun _ => pure _

theorem isClickedEditBtn :
    Footprint Event.inPoll ioVars SPIOStream.isClickedEditBtn :=
  (ask fun _ => rfl).bind afterClick

theorem spends_isClickedEditBtn {p : Bool → Prop} :
    Spends p SPIOStream.isClickedEditBtn :=
  Spends.bind_left Spends.op fun b => (afterClick b).metered

theorem ptIO : Footprint Event.inIo ioVars SprinklersAlarmClock.ptIO :=
  protothread (f := fun v => { v with ptIo := true }) (fun _ => ⟨rfl, rfl, rfl⟩)
    (pure ()) (isClickedEditBtn.mono inPoll_inIo fun _ _ h => h)
    spends_isClickedEditBtn editSession

theorem inPoll_inAlarm : ∀ e : Event, e.inPoll = true → e.inAlarm = true
  | .digitalRead _ _, _ => rfl
  | .delay _, _ => rfl
  | .mark (.throwSet _), _ => rfl

theorem inNotify_inAlarm : ∀ e : Event, e.inNotify = true → e.inAlarm = true
  | .net _, _ => rfl
  | .millis _, _ => rfl
  | .delay _, _ => rfl
  | .mark (.notify _), _ => rfl
  | .mark (.streamPtr _), _ => rfl
  | .mark (.sent _), _ => rfl
  | .mark .nullDeref, _ => rfl

theorem alarmPoll {V : Vars → Vars → Prop} (site : PollSite) (t : Throw) :
    Footprint Event.inAlarm V (SprinklersAlarmClock.alarmPoll site t) :=
  (mark rfl).bind fun _ =>
    (runEditAlarmMode t).mono inPoll_inAlarm fun _ _ h => h

theorem spends_alarmPoll {p : Throw → Prop} (site : PollSite) (t : Throw) :
    Spends p (SprinklersAlarmClock.alarmPoll site t) :=
  Spends.bind_right (mark (S := Event.inAlarm) (V := Eq) rfl).metered fun _ =>
    spends_runEditAlarmMode t

theorem elapsedAtLeast {V : Vars → Vars → Prop} (limit : UInt32) :
    Footprint Event.inAlarm V (SprinklersAlarmClock.elapsedAtLeast limit) := by
  refine (millis fun _ => rfl).bind fun _ => vars.bind fun _ => ?_
  exact (mark rfl).bind fun _ => pure _

theorem relayRound {V : Vars → Vars → Prop} (site : PollSite) (value : UInt16)
    (t : Throw) :
    Footprint Event.inAlarm V (SprinklersAlarmClock.relayRound site value t) := by
  refine (alarmPoll _ _).bind fun _ => (act rfl).bind fun _ => ?_
  exact (delay rfl).bind fun _ => pure _

theorem sprinkle {V : Vars → Vars → Prop} (t : Throw) :
    Footprint Event.inAlarm V (SprinklersAlarmClock.sprinkle t) := by
  refine (elapsedAtLeast _).bind fun _ => ite ?_ (pure _)
  refine (act rfl).bind fun _ => (upTo (relayRound _ _) _ _).bind fun _ => ?_
  exact (act rfl).bind fun _ => upTo (relayRound _ _) _ _

theorem notifyAlarm (msg : String) :
    Footprint Event.inAlarm notifyVars (LineNotify.sendLineMessage msg) :=
  (sendLineMessage msg).mono inNotify_inAlarm fun _ _ h => h

theorem report : Footprint Event.inAlarm notifyVars SprinklersAlarmClock.report := by
  refine (elapsedAtLeast _).bind fun _ => ite ?_ (pure _)
  exact (notifyAlarm _).bind fun _ => (notifyAlarm _).bind fun _ => pure _

theorem alarmPass :
    Footprint Event.inAlarm notifyVars SprinklersAlarmClock.alarmPass := by
  refine (alarmPoll _ _).bind fun _ => (sprinkle _).bind fun _ => ?_
  exact report.bind fun _ => pure _

theorem spends_alarmPass {p : Throw → Prop} :
    Spends p SprinklersAlarmClock.alarmPass :=
  Spends.bind_left (spends_alarmPoll _ _) fun t =>
    ((sprinkle (V := notifyVars) t).bind fun _ => report.bind fun _ => pure _).metered

theorem alarmLoop (t : Throw) :
    Footprint Event.inAlarm notifyVars (SprinklersAlarmClock.alarmLoop t) := by
  have hmark : ∀ t : Throw, Footprint Event.inAlarm notifyVars
      (SprinklersAlarmClock.mark (.alarmTest t)) := fun _ => mark rfl
  have hnext : ∀ t : Throw, Footprint Event.inAlarm notifyVars
      (Pure.pure (.inl t) : Sketch (Throw ⊕ Unit)) := fun _ => pure _
  refine loop (fun t => (hmark t).bind fun _ => ite (pure _) ?_)
    (fun t => Spends.bind_right (hmark t).metered fun _ => Spends.ite ?_ ?_) t
  · exact alarmPass.bind hnext
  · exact Spends.pure (by simp)
  · exact Spends.bind_left spends_alarmPass fun t => (hnext t).metered

/-- What follows the first mark of an episode. -/
theorem episodeBody : Footprint Event.inAlarm sprinklersVars (do
    let now ← SprinklersAlarmClock.millis
    SprinklersAlarmClock.assign fun v => { v with sprinklersLastTime := now }
    toneBuzz 835
    SprinklersAlarmClock.alarmLoop .idle
    lcdBacklight
    noToneBuzz
    analogWriteRelay 0
    SprinklersAlarmClock.mark .alarmEnd) := by
  refine (millis fun _ => rfl).bind fun _ => ?_
  refine (assign fun _ => ⟨rfl, rfl, rfl⟩).bind fun _ => (act rfl).bind fun _ => ?_
  refine ((alarmLoop _).mono (fun _ h => h) fun _ _ h => h.1).bind fun _ => ?_
  refine (act rfl).bind fun _ => (act rfl).bind fun _ => ?_
  exact (act rfl).bind fun _ => mark rfl

theorem inAlarm_inSprinklers (e : Event) (h : e.inAlarm = true) :
    e.inSprinklers = true := by
  unfold Event.inSprinklers
  split
  · rfl
  · rw [h, Bool.or_true]

theorem inIsAlarm2_inSprinklers (e : Event) (h : e.inIsAlarm2 = true) :
    e.inSprinklers = true := by
  unfold Event.inSprinklers
  split
  · rfl
  · rw [h, Bool.true_or]

theorem inSetup_inBackground (e : Event) (h : e.inSetup = true) :
    e.inBackground = true := by
  simp [Event.inBackground, h]

theorem inUi_inBackground (e : Event) (h : e.inUi = true) :
    e.inBackground = true := by
  simp [Event.inBackground, h]

theorem inIsAlarm2_inBackground (e : Event) (h : e.inIsAlarm2 = true) :
    e.inBackground = true := by
  simp [Event.inBackground, h]

theorem alarmEpisode :
    Footprint Event.inSprinklers sprinklersVars SprinklersAlarmClock.alarmEpisode :=
  (mark rfl).bind fun _ => episodeBody.mono inAlarm_inSprinklers fun _ _ h => h

theorem isAlarm2Sprinklers :
    Footprint Event.inSprinklers sprinklersVars (DS3231.isAlarm2 true) :=
  (isAlarm2 (V := sprinklersVars) true).mono inIsAlarm2_inSprinklers fun _ _ h => h

theorem ptSprinklers :
    Footprint Event.inSprinklers sprinklersVars
      SprinklersAlarmClock.ptSprinklers :=
  protothread (f := fun v => { v with ptSprinklers := true })
    (fun _ => ⟨rfl, rfl, rfl⟩) (pure ()) isAlarm2Sprinklers (spends_isAlarm2 _)
    alarmEpisode

/-! ### Whole runs -/

/-- Nothing is known of the events of a whole pass, only that it is metered. -/
theorem loopOnce : Footprint (fun _ => true) (fun _ _ => True)
    SprinklersAlarmClock.loop := by
  refine (ptUIDisplay.mono (fun _ _ => rfl) fun _ _ _ => trivial).bind fun _ => ?_
  refine (mono ptIO (fun _ _ => rfl) fun _ _ _ => trivial).bind fun _ => ?_
  exact ptSprinklers.mono (fun _ _ => rfl) fun _ _ _ => trivial

theorem spends_loop {p : Unit → Prop} : Spends p SprinklersAlarmClock.loop := by
  have hrest : Unit → Metered World.tick Faulted
      (do
        SprinklersAlarmClock.ptIO
        SprinklersAlarmClock.ptSprinklers) :=
    fun _ => ptIO.metered.bind fun _ => ptSprinklers.metered
  refine Spends.bind_left ?_ hrest
  exact Spends.protothread (Metered.modify fun _ => rfl) refresh.metered
    spends_uiDue (pure (S := Event.inUi) (V := uiVars) ()).metered

theorem firmware : Footprint (fun _ => true) (fun _ _ => True)
    SprinklersAlarmClock.firmware := by
  have hnext : Footprint (fun _ => true) (fun _ _ => True)
      (Pure.pure (.inl ()) : Sketch (Unit ⊕ Empty)) := pure _
  refine (setup.mono (fun _ _ => rfl) fun _ _ _ => trivial).bind fun _ => ?_
  exact loop (fun _ => loopOnce.bind fun _ => hnext)
    (fun _ => Spends.bind_left spends_loop fun _ => hnext.metered) ()

end Footprint

/-- **Observations are exact.**  Observing `n` operations of the firmware shows
exactly `n` operations, unless the processor has faulted: every reachable
program point is the end of some observation, and nothing else is. -/
theorem run_tick (env : Env) (n : Nat) :
    (run env n).tick = n ∨ Faulted (run env n) := by
  have h := Footprint.firmware.metered.ticks_run env n (World.boot env)
    (fun a => a.elim)
  rw [← run_eq] at h
  have h0 : (World.boot env).tick = 0 := rfl
  rwa [h0, Nat.zero_add] at h

/-- Steps of the board only add to the log, and every operation adds to it. -/
theorem Step.log_extends {S : Event → Bool} {V : Vars → Vars → Prop} {env : Env}
    {w w' : World} (h : Step S V env w w') :
    ∃ newer, w'.log = newer ++ w.log ∧ w'.tick ≤ w.tick + newer.length := by
  cases h with
  | act dt e _ _ => exact ⟨[⟨w.now + dt, e⟩], rfl, Nat.le_refl _⟩
  | mark p _ _ => exact ⟨[⟨w.now, .mark p⟩], rfl, Nat.le_succ _⟩
  | assign v _ _ => exact ⟨[], rfl, Nat.le_refl _⟩
  | write dt reg values _ _ => exact ⟨[_], rfl, Nat.le_refl _⟩

/-- **Observations are prefixes of one run.**  A longer observation has the
shorter one's log as its oldest part, and at least one entry for every operation
it is longer by. -/
theorem run_extends (env : Env) (n k : Nat) :
    ∃ newer, (run env (n + k)).log = newer ++ (run env n).log ∧
      (run env (n + k)).tick ≤ (run env n).tick + newer.length := by
  have hsteps := Footprint.firmware.extended.run env n k (World.boot env)
    (fun a => a.elim)
  rw [← run_eq, ← run_eq] at hsteps
  generalize run env (n + k) = later at hsteps ⊢
  induction hsteps with
  | refl => exact ⟨[], rfl, Nat.le_refl _⟩
  | tail _ hstep ih =>
      obtain ⟨newer, hnewer, htick⟩ := ih
      obtain ⟨more, hmore, hmoreTick⟩ := hstep.log_extends
      refine ⟨more ++ newer, by rw [hmore, hnewer, List.append_assoc], ?_⟩
      rw [List.length_append]
      omega

end SprinklersAlarmClock
