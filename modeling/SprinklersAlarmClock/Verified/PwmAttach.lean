import SprinklersAlarmClock.Verified.PwmTable

/-!
# Taking a channel

`allocatenext` takes the first empty place of the first timer that takes the
frequency; a timer takes it when it runs at that frequency or not at all and has
a place left.  A true account stays one when a new object is attached there
(`WellFormed.newcomer`).
-/

namespace SprinklersAlarmClock

open Function Logic

namespace ESP32Servo

/-! ## Taking a channel -/

/-- The timer `allocatenext` chooses. -/
def timerFor (d : Driver) (freq : Nat) : Option Timer :=
  (List.finRange 4).find? fun t => takes d freq t

theorem takes_iff {d : Driver} {freq : Nat} {t : Timer} :
    takes d freq t = true ↔
      (d.timerFreqSet t = some freq ∨ d.timerFreqSet t = none) ∧ d.timerCount t < 4 := by
  simp [takes]

section Take

variable {d : Driver} {this : Addr} {o : ESP32PWM} {t : Timer} {i : Fin 4} {freq : Nat}

/-- The state after `allocatenext`. -/
def register (d : Driver) (this : Addr) (o : ESP32PWM) (t : Timer) (c : Channel)
    (freq : Nat) : Driver :=
  { d with
    timerFreqSet := update d.timerFreqSet t (some freq)
    heap := update d.heap this
      (some { o with timerNum := some t, pwmChannel := some c, myFreq := some freq })
    channelUsed := update d.channelUsed c (some this)
    timerCount := update d.timerCount t (d.timerCount t + 1)
    pwmCount := d.pwmCount + 1 }

theorem place_empty {used : Channel → Option Addr} {t : Timer} {i : Fin 4}
    (h : firstEmpty (row used t) = some i) : used (channelAt t i) = none := by
  have hrow : row used t i = none := firstEmpty_none h
  exact hrow

/-- A timer that takes the frequency has an empty place. -/
theorem WellFormed.firstEmpty_of_takes (wf : WellFormed d) (h : takes d freq t = true) :
    ∃ i, firstEmpty (row d.channelUsed t) = some i := by
  have hlt := (takes_iff.1 h).2
  rw [wf.counted t] at hlt
  exact firstEmpty_isSome (by omega)

theorem searchTimers_eq (wf : WellFormed d) (h : d.heap this = some o) (l : List Timer) :
    searchTimers this freq l d =
      match l.find? fun t => takes d freq t with
      | none => .error (.halted (.allAllocated freq))
      | some t =>
        match firstEmpty (row d.channelUsed t) with
        | none => .error (.halted (.allAllocated freq))
        | some i => .ok (register d this o t (channelAt t i) freq) := by
  induction l with
  | nil => rfl
  | cons t rest ih =>
      unfold searchTimers
      rw [List.find?_cons]
      by_cases ht : takes d freq t = true
      · obtain ⟨i, hi⟩ := wf.firstEmpty_of_takes ht
        have hfree : ∀ (heap : Addr → Option ESP32PWM) (freqs : Timer → Option Nat),
            freeChannel { d with heap := heap, timerFreqSet := freqs } t =
              some (channelAt t i) := by
          intro heap freqs
          rw [freeChannel_eq]
          show (firstEmpty (row d.channelUsed t)).map _ = _
          rw [hi]
          rfl
        simp only [ht, if_true, Driver.obj, h, ok_bind, Driver.setObj, hfree, hi]
        rw [update_idem]
        rfl
      · rw [Bool.not_eq_true] at ht
        simp only [ht, Bool.false_eq_true, if_false]
        exact ih

/-- One round of `checkFrequencyForSideEffects`: the other objects of the timer
get the frequency, and the console is told. -/
theorem sideEffectAt_alike (wf : WellFormed d) (hthis : ∀ c, d.channelUsed c ≠ some this)
    {s : Driver} (hs : Alike (register d this o t (channelAt t i) freq) s) (j : Fin 4) :
    ∃ s', sideEffectAt this freq s j = .ok s' ∧
      Alike (register d this o t (channelAt t i) freq) s' := by
  obtain ⟨o', ho', hshape⟩ := hs.obj (a := this) (update_self _ _ _)
  have htimer : o'.timerNum = some t := congrArg ESP32PWM.timerNum hshape
  have hchannel : o'.pwmChannel = some (channelAt t i) := congrArg ESP32PWM.pwmChannel hshape
  unfold sideEffectAt
  simp only [obj_eq ho', ok_bind, timerIndex, htimer, hchannel, timerAndIndexToChannel_eq]
  by_cases hown : some (channelAt t i) = some (channelAt t j)
  · rw [if_pos hown]
    exact ⟨s, rfl, hs⟩
  · rw [if_neg hown]
    have hused : s.channelUsed (channelAt t j) = d.channelUsed (channelAt t j) := by
      rw [hs.used]
      exact update_of_ne (fun h => hown (congrArg some h.symm)) _ _
    rw [hused]
    cases hother : d.channelUsed (channelAt t j) with
    | none => exact ⟨s, rfl, hs⟩
    | some other =>
        obtain ⟨u, -, huheap, -, -, -⟩ := wf.served _ other hother
        have hne : other ≠ this := by
          rintro rfl
          exact hthis _ hother
        obtain ⟨u', hu', -⟩ := hs.obj (a := other) ((update_of_ne hne _ _).trans huheap)
        simp only [obj_eq hu', ok_bind]
        split
        · refine ⟨_, rfl, hs.trans ?_⟩
          refine ⟨fun a => ?_, rfl, rfl, rfl, rfl, fun _ => Iff.rfl, rfl⟩
          show (update s.heap other _ a).map _ = _
          by_cases ha : a = other
          · subst ha
            rw [update_self, hu']
            rfl
          · rw [update_of_ne ha]
        · exact ⟨s, rfl, hs⟩

/-- On a timer whose objects run at the frequency there is no side effect. -/
theorem sideEffectAt_tuned (wf : WellFormed d) (hthis : ∀ c, d.channelUsed c ≠ some this)
    (htuned : ∀ c a u, timerOf c = t → d.channelUsed c = some a → d.heap a = some u →
      u.myFreq = some freq) (j : Fin 4) :
    sideEffectAt this freq (register d this o t (channelAt t i) freq) j =
      .ok (register d this o t (channelAt t i) freq) := by
  have ho : (register d this o t (channelAt t i) freq).heap this = some
      { o with timerNum := some t, pwmChannel := some (channelAt t i), myFreq := some freq } :=
    update_self _ _ _
  unfold sideEffectAt
  simp only [obj_eq ho, ok_bind, timerIndex, timerAndIndexToChannel_eq]
  by_cases hown : some (channelAt t i) = some (channelAt t j)
  · rw [if_pos hown]
    rfl
  · rw [if_neg hown]
    have hused : (register d this o t (channelAt t i) freq).channelUsed (channelAt t j) =
        d.channelUsed (channelAt t j) :=
      update_of_ne (fun h => hown (congrArg some h.symm)) _ _
    rw [hused]
    cases hother : d.channelUsed (channelAt t j) with
    | none => rfl
    | some other =>
        obtain ⟨u, -, huheap, -, -, -⟩ := wf.served _ other hother
        have hne : other ≠ this := by
          rintro rfl
          exact hthis _ hother
        have hu : (register d this o t (channelAt t i) freq).heap other = some u :=
          (update_of_ne hne _ _).trans huheap
        have hfreq := htuned _ other u (timerOf_channelAt t j) hother huheap
        simp only [obj_eq hu, ok_bind, hfreq, ne_eq, not_true_eq_false, and_false, if_false]
        rfl

end Take

/-! ## Attaching a new object -/

/-- An object attached to `pin` through channel `c`. -/
def attachedTo (o : ESP32PWM) (c : Channel) (pin : Pin) (freq bits : Nat) : ESP32PWM where
  pwmChannel := some c
  attachedState := true
  pin := some pin
  resolutionBits := bits
  myFreq := some freq
  timerNum := some (timerOf c)
  myDuty := o.myDuty

/-- The state after `attachPin(pin, freq, bits)` on a new object. -/
def enlist (d : Driver) (this : Addr) (o : ESP32PWM) (c : Channel) (pin : Pin)
    (freq bits : Nat) : Driver :=
  let t := timerOf c
  { d with
    timerFreqSet := update d.timerFreqSet t (some freq)
    heap := update d.heap this (some (attachedTo o c pin freq bits))
    channelUsed := update d.channelUsed c (some this)
    timerCount := update d.timerCount t (d.timerCount t + 1)
    pwmCount := d.pwmCount + 1
    pads := (d.pads.ledcSetup (some c) freq bits).ledcAttachPin pin (some c) }

theorem timerFor_takes {d : Driver} {freq : Nat} {t : Timer} (h : timerFor d freq = some t) :
    takes d freq t = true := List.find?_some h

section Attach

variable {d : Driver} {this : Addr} {o : ESP32PWM} {pin : Pin} {freq bits : Nat}

/-- The object is not in the table. -/
theorem WellFormed.not_used (wf : WellFormed d) (ho : d.heap this = some o)
    (hc : o.pwmChannel = none) (c : Channel) : d.channelUsed c ≠ some this := by
  intro hused
  obtain ⟨o', _, ho', hserves, -, -⟩ := wf.served c this hused
  obtain rfl : o = o' := Option.some.inj (ho.symm.trans ho')
  have hchannel := hserves.channel
  rw [hc] at hchannel
  cases hchannel

/-- What `setup` and `attachPin` do after the channel is found. -/
theorem attach_finish {s : Driver} {o' : ESP32PWM} {c : Channel} (h : s.heap this = some o')
    (hc : o'.pwmChannel = some c) (ha : o'.attachedState = false) (hpwm : hasPwm pin = true)
    (hcheck : checkFrequencyForSideEffects this freq d = .ok s) :
    attachPinAt this pin freq bits d = .ok { s with
      heap := update s.heap this
        (some { o' with resolutionBits := bits, pin := some pin, attachedState := true })
      pads := (s.pads.ledcSetup (some c) freq bits).ledcAttachPin pin (some c) } := by
  unfold attachPinAt setup
  simp only [hpwm, if_true, hcheck, ok_bind, Driver.obj, h, Driver.setObj, ha,
    Bool.false_eq_true, if_false, getChannel, hc, pure, Except.pure, attachPin, update_self,
    update_idem]

theorem checkFrequency_eq (hfreq : freq < 2 ^ 31) (wf : WellFormed d)
    (ho : d.heap this = some o) (hc : o.pwmChannel = none) {t : Timer} {i : Fin 4}
    (ht : timerFor d freq = some t) (hi : firstEmpty (row d.channelUsed t) = some i) :
    checkFrequencyForSideEffects this freq d =
      (List.range (d.timerCount t + 1).toNat).foldlM (sideEffectAt this freq)
        (register d this o t (channelAt t i) freq) := by
  have hlong := toLong_eq hfreq
  have halloc : allocatenext this freq d = .ok (register d this o t (channelAt t i) freq) := by
    unfold allocatenext
    simp only [hlong, ok_bind, obj_eq ho, hc, if_true]
    rw [searchTimers_eq wf ho]
    unfold timerFor at ht
    rw [ht]
    simp only [hi]
  have ho' : (register d this o t (channelAt t i) freq).heap this = some
      { o with timerNum := some t, pwmChannel := some (channelAt t i), myFreq := some freq } :=
    update_self _ _ _
  have hcount : (register d this o t (channelAt t i) freq).timerCount t = d.timerCount t + 1 :=
    update_self _ _ _
  unfold checkFrequencyForSideEffects
  simp only [halloc, ok_bind, obj_eq ho', timerIndex, hcount]

/-- No timer takes the frequency. -/
theorem attachPinAt_full (hfreq : freq < 2 ^ 31) (wf : WellFormed d)
    (ho : d.heap this = some o) (hc : o.pwmChannel = none) (hpwm : hasPwm pin = true)
    (ht : timerFor d freq = none) :
    attachPinAt this pin freq bits d = .error (.halted (.allAllocated freq)) := by
  have hlong := toLong_eq hfreq
  have halloc : allocatenext this freq d = .error (.halted (.allAllocated freq)) := by
    unfold allocatenext
    simp only [hlong, ok_bind, obj_eq ho, hc, if_true]
    rw [searchTimers_eq wf ho]
    unfold timerFor at ht
    rw [ht]
  unfold attachPinAt setup checkFrequencyForSideEffects
  simp only [hpwm, if_true, halloc, error_bind]

/-- Some timer takes it: the first empty place of the first such timer is
taken. -/
theorem attachPinAt_alike (hfreq : freq < 2 ^ 31) (wf : WellFormed d)
    (ho : d.heap this = some o) (hc : o.pwmChannel = none) (ha : o.attachedState = false)
    (hpwm : hasPwm pin = true) {t : Timer} {i : Fin 4} (ht : timerFor d freq = some t)
    (hi : firstEmpty (row d.channelUsed t) = some i) :
    ∃ d', attachPinAt this pin freq bits d = .ok d' ∧
      Alike (enlist d this o (channelAt t i) pin freq bits) d' := by
  have hthis := wf.not_used ho hc
  have hlt := (takes_iff.1 (timerFor_takes ht)).2
  obtain ⟨s, hfold, hs⟩ : ∃ s, checkFrequencyForSideEffects this freq d = .ok s ∧
      Alike (register d this o t (channelAt t i) freq) s := by
    rw [checkFrequency_eq hfreq wf ho hc ht hi]
    refine foldlM_ok (I := fun s => Alike (register d this o t (channelAt t i) freq) s)
      (fun j hj s hs => ?_) (Alike.refl _)
    have hj4 : j < 4 := by
      have hj := List.mem_range.1 hj
      omega
    exact sideEffectAt_alike wf hthis hs ⟨j, hj4⟩
  obtain ⟨o', ho', hshape⟩ := hs.obj (a := this) (update_self _ _ _)
  have hchannel : o'.pwmChannel = some (channelAt t i) := congrArg ESP32PWM.pwmChannel hshape
  have hattached : o'.attachedState = false :=
    (congrArg ESP32PWM.attachedState hshape).trans ha
  refine ⟨_, attach_finish ho' hchannel hattached hpwm hfold, ?_⟩
  refine ⟨fun a => ?_, hs.next, ?_, hs.total, ?_, fun t' => ?_, ?_⟩
  · show Option.map _ (update s.heap this _ a) = Option.map _ (update d.heap this _ a)
    by_cases hthis : a = this
    · subst hthis
      rw [update_self, update_self]
      have htimer : o'.timerNum = some t := congrArg ESP32PWM.timerNum hshape
      simp [ESP32PWM.shape, attachedTo, hchannel, htimer]
    · rw [update_of_ne hthis, update_of_ne hthis, hs.heap a]
      exact congrArg _ (update_of_ne hthis _ _)
  · exact hs.used
  · rw [enlist, timerOf_channelAt]
    exact hs.count
  · rw [enlist, timerOf_channelAt]
    exact hs.idle t'
  · show update s.pads.route pin _ = update d.pads.route pin _
    rw [hs.route]
    rfl

theorem takes_count {used : Channel → Option Addr} {t : Timer} {i : Fin 4}
    (hi : firstEmpty (row used t) = some i) (a : Addr) :
    occupied (row (update used (channelAt t i) (some a)) t) = occupied (row used t) + 1 := by
  have hrow := row_update_same used (channelAt t i) (some a)
  rw [timerOf_channelAt, placeOf_channelAt] at hrow
  rw [hrow]
  exact occupied_fill (firstEmpty_none hi) a

theorem WellFormed.enlist (wf : WellFormed d) (ho : d.heap this = some o)
    (hc : o.pwmChannel = none) (htotal : d.pwmCount = occupied d.channelUsed)
    (hpwm : hasPwm pin = true) (hroute : d.pads.route pin = none) {t : Timer} {i : Fin 4}
    (hi : firstEmpty (row d.channelUsed t) = some i) (freq bits : Nat) :
    WellFormed (enlist d this o (channelAt t i) pin freq bits) := by
  have hthis := wf.not_used ho hc
  have hempty : d.channelUsed (channelAt t i) = none := place_empty hi
  have hnext : this < d.next := by
    by_contra hge
    rw [wf.fresh this (Nat.not_lt.1 hge)] at ho
    cases ho
  unfold ESP32Servo.enlist
  dsimp only
  rw [timerOf_channelAt]
  constructor
  · intro c a h
    by_cases hcc : c = channelAt t i
    · subst hcc
      have hself : update d.channelUsed (channelAt t i) (some this) (channelAt t i) = some a := h
      rw [update_self] at hself
      obtain rfl : this = a := Option.some.inj hself
      exact ⟨_, pin, update_self _ _ _, ⟨rfl, rfl, rfl, rfl⟩,
        update_self _ _ _, hpwm⟩
    · have hused : d.channelUsed c = some a := (update_of_ne hcc _ _).symm.trans h
      obtain ⟨u, pin', huheap, huserves, huroute, hupwm⟩ := wf.served c a hused
      have ha : a ≠ this := by
        rintro rfl
        exact hthis c hused
      have hpin : pin' ≠ pin := by
        rintro rfl
        rw [hroute] at huroute
        cases huroute
      exact ⟨u, pin', (update_of_ne ha _ _).trans huheap, huserves,
        (update_of_ne hpin _ _).trans huroute, hupwm⟩
  · intro pin' c h
    by_cases hpin : pin' = pin
    · subst hpin
      have hself : update d.pads.route pin' (some (channelAt t i)) pin' = some c := h
      rw [update_self] at hself
      obtain rfl : channelAt t i = c := Option.some.inj hself
      exact ⟨this, _, update_self _ _ _, update_self _ _ _, rfl⟩
    · have hroute' : d.pads.route pin' = some c := (update_of_ne hpin _ _).symm.trans h
      obtain ⟨a, u, hused, huheap, hupin⟩ := wf.routed pin' c hroute'
      have hcc : c ≠ channelAt t i := by
        rintro rfl
        rw [hempty] at hused
        cases hused
      have ha : a ≠ this := by
        rintro rfl
        exact hthis c hused
      exact ⟨a, u, (update_of_ne hcc _ _).trans hused,
        (update_of_ne ha _ _).trans huheap, hupin⟩
  · intro t'
    show update d.timerCount t (d.timerCount t + 1) t' =
      ((occupied (row (update d.channelUsed (channelAt t i) (some this)) t') : Nat) : Int)
    by_cases ht : t' = t
    · subst ht
      rw [update_self, takes_count hi, wf.counted]
      rfl
    · have hne : timerOf (channelAt t i) ≠ t' := by
        rw [timerOf_channelAt]
        exact Ne.symm ht
      rw [update_of_ne ht, row_update_other _ hne, wf.counted]
  · intro t'
    show update d.timerFreqSet t (some freq) t' = none ↔
      update d.timerCount t (d.timerCount t + 1) t' = 0
    by_cases ht : t' = t
    · subst ht
      rw [update_self, update_self, wf.counted]
      simp only [reduceCtorEq, false_iff]
      omega
    · rw [update_of_ne ht, update_of_ne ht]
      exact wf.idle t'
  · refine .inl ?_
    show d.pwmCount + 1 =
      ((occupied (update d.channelUsed (channelAt t i) (some this)) : Nat) : Int)
    rw [occupied_fill hempty, htotal]
    rfl
  · intro a ha
    have hne : a ≠ this := Nat.ne_of_gt (Nat.lt_of_lt_of_le hnext ha)
    exact (update_of_ne hne _ _).trans (wf.fresh a ha)

end Attach

/-! ## New objects -/

/-- The state after `new`. -/
def born (d : Driver) : Driver :=
  { d with
    pwmCount := occupied d.channelUsed
    heap := update d.heap d.next (some .init)
    next := d.next + 1 }

theorem new_eq {d : Driver} (wf : WellFormed d) : new d = (d.next, born d) := by
  unfold new
  rcases wf.total with htotal | ⟨hfirst, hnone⟩
  · rw [if_neg (by omega)]
    simp only [Driver.setObj, born, htotal]
  · have hused : d.channelUsed = fun _ => none := funext hnone
    rw [if_pos hfirst]
    simp only [Driver.setObj, born, hused, occupied_empty]
    rfl

theorem WellFormed.born {d : Driver} (wf : WellFormed d) : WellFormed (born d) := by
  have hkept : ∀ a o, d.heap a = some o → update d.heap d.next (some ESP32PWM.init) a = some o := by
    intro a o h
    have hne : a ≠ d.next := by
      rintro rfl
      rw [wf.fresh d.next (Nat.le_refl _)] at h
      cases h
    exact (update_of_ne hne _ _).trans h
  constructor
  · intro c a hused
    obtain ⟨o, pin, hheap, hrest⟩ := wf.served c a hused
    exact ⟨o, pin, hkept a o hheap, hrest⟩
  · intro pin c hroute
    obtain ⟨a, o, hused, hheap, hpin⟩ := wf.routed pin c hroute
    exact ⟨a, o, hused, hkept a o hheap, hpin⟩
  · exact wf.counted
  · exact wf.idle
  · exact .inl rfl
  · intro a ha
    have hne : a ≠ d.next := by
      rintro rfl
      exact absurd ha (Nat.not_succ_le_self d.next)
    exact (update_of_ne hne _ _).trans (wf.fresh a (Nat.le_of_succ_le ha))

/-- A new object for a pin that no channel drives. -/
theorem WellFormed.newcomer {d : Driver} (wf : WellFormed d) {pin : Pin}
    (hpwm : hasPwm pin = true) (hroute : d.pads.route pin = none) {t : Timer} {i : Fin 4}
    (hi : firstEmpty (row d.channelUsed t) = some i) (freq bits : Nat) :
    WellFormed (ESP32Servo.enlist (ESP32Servo.born d) d.next .init (channelAt t i) pin freq bits) :=
  wf.born.enlist (update_self _ _ _) rfl rfl hpwm hroute hi freq bits

end ESP32Servo

end SprinklersAlarmClock
