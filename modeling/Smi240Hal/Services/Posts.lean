/-
# Smi240Hal.Services.Posts — what a service posts

Everything a service posts is a function of what is done to it: the flushes it grants, one
`META_DATA` for each and in their order, and the samples of sensors that are enabled.  Neither the
periods nor the clocks nor what the files hold have a say in the first, and no sensor is heard of
that the calls so far leave disabled.
-/
import Smi240Hal.Direct.WakeLock
import Smi240Hal.Services.Loops

namespace Smi240Hal.Services

open Smi240Hal.Lib Smi240Hal.Sampling
open Smi240Hal.MultiHal (Handle)
open Smi240Hal.MultiHal.SensorFlagBits (WAKE_UP)

variable {N ρ : Type}

/-! ## Flushes -/

/-- The handle a flush is complete for. -/
def SensorEvent.completed : SensorEvent N → Option Int
  | .data _ => none
  | .flushComplete sensorHandle => some sensorHandle

/-- The flushes that are complete, by the events posted. -/
def completions (posts : List (PostEvents N)) : List Int :=
  (posts.flatMap PostEvents.events).filterMap SensorEvent.completed

/-- The handle of a flush that was answered with `ok`. -/
def grantedFlush [DecidableEq ρ] (ok : ρ) : Call × ρ → Option Int
  | (.flush sensorHandle, answer) => if answer = ok then some sensorHandle.toInt else none
  | _ => none

/-- After these actions `flush` is granted: there is such a sensor, it is not a one-shot sensor, and
it has been left enabled. -/
def Grants (fe : FrontEnd ρ) (classes : List (SensorClass N)) (before : List ServiceAct)
    (h : Handle) : Prop :=
  ∃ c, classAt classes h = some c ∧ c.flags &&& ONE_SHOT_MODE = 0 ∧
    enabledBy (before.flatMap (loopActs fe h)) = true

instance (fe : FrontEnd ρ) (classes : List (SensorClass N)) (before : List ServiceAct)
    (h : Handle) : Decidable (Grants fe classes before h) :=
  decidable_of_iff (((classAt classes h).any fun c => c.flags &&& ONE_SHOT_MODE = 0) ∧
      enabledBy (before.flatMap (loopActs fe h)) = true) <| by
    unfold Grants
    cases classAt classes h <;> simp

/-- The flush that an action completes, after these. -/
def completedBy (fe : FrontEnd ρ) (classes : List (SensorClass N)) (before : List ServiceAct) :
    ServiceAct → List Int
  | .call (.flush h) => if Grants fe classes before h then [h.toInt] else []
  | _ => []

/-- The flushes that the actions complete, each after those before it. -/
def completedAfter (fe : FrontEnd ρ) (classes : List (SensorClass N)) :
    List ServiceAct → List ServiceAct → List Int
  | _, [] => []
  | before, a :: as =>
      completedBy fe classes before a ++ completedAfter fe classes (before ++ [a]) as

theorem completedAfter_concat (fe : FrontEnd ρ) (classes : List (SensorClass N))
    (before as : List ServiceAct) (a : ServiceAct) :
    completedAfter fe classes before (as ++ [a]) =
      completedAfter fe classes before as ++ completedBy fe classes (before ++ as) a := by
  induction as generalizing before with
  | nil => simp [completedAfter]
  | cons b as ih =>
      rw [List.cons_append, completedAfter, ih, completedAfter, List.append_assoc,
        List.append_assoc, List.singleton_append]

theorem completions_append (posts more : List (PostEvents N)) :
    completions (posts ++ more) = completions posts ++ completions more := by
  rw [completions, List.flatMap_append, List.filterMap_append]
  rfl

/-- A call that is no flush posts nothing. -/
theorem posts_of_no_flush {fe : FrontEnd ρ} {mSensors : DeviceMap N} {c : Call}
    (hc : ∀ k, c ≠ .flush k) : (fe.call mSensors c).posts = [] := by
  rcases call_posts_cases fe mSensors c with ⟨hnone, -⟩ | ⟨k, d, rfl, -⟩
  · exact hnone
  · exact absurd rfl (hc k)

section Runs

variable [Zero N] {numbers : CNumbers N} {fe : FrontEnd ρ}
  {mStopThread : Handle → Bool} {classes : List (SensorClass N)} {as : List ServiceAct}
  {s t : Service N ρ}

theorem flush_granted (hlen : classes.length < 2 ^ 32)
    (hrun : (service numbers fe classes).run (.construct mStopThread classes) as = some s)
    {h : Handle} (hgrants : Grants fe classes as h) :
    ∃ wakeup, fe.flush s.mSensors h =
      ⟨fe.ok, s.mSensors, [⟨[.flushComplete h.toInt], wakeup⟩]⟩ := by
  obtain ⟨c, hc, honeShot, henabled⟩ := hgrants
  obtain ⟨d, hget, rfl, -⟩ := device_of_run hlen hrun hc
  obtain ⟨-, hhandle, hon⟩ := get_of_run hlen hrun hget
  have hflush : d.flush = some ⟨[.flushComplete h.toInt], d.isWakeUpSensor⟩ := by
    rw [Device.flush, if_neg, hhandle]
    rw [hon, henabled, Device.isOneShot, honeShot]
    decide
  refine ⟨d.isWakeUpSensor, ?_⟩
  simp only [FrontEnd.flush, hget, hflush]

theorem flush_refused (hlen : classes.length < 2 ^ 32)
    (hrun : (service numbers fe classes).run (.construct mStopThread classes) as = some s)
    {h : Handle} (hrefused : ¬ Grants fe classes as h) :
    (fe.flush s.mSensors h).posts = [] ∧
      ((fe.flush s.mSensors h).answer = fe.noSensor ∨
        (fe.flush s.mSensors h).answer = fe.flushRefused) := by
  cases hget : s.mSensors[h]? with
  | none =>
      rw [FrontEnd.flush, hget]
      exact ⟨rfl, Or.inl rfl⟩
  | some d =>
      obtain ⟨hc, -, hon⟩ := get_of_run hlen hrun hget
      have hflush : d.flush = none := by
        rw [Device.flush, if_pos]
        by_contra hboth
        simp only [Bool.or_eq_true, Bool.not_eq_true', not_or, Bool.not_eq_false,
          Bool.not_eq_true] at hboth
        apply hrefused
        refine ⟨d.info, hc, ?_, hon ▸ hboth.1⟩
        simpa [Device.isOneShot] using hboth.2
      simp [FrontEnd.flush, hget, hflush]

/-- An iteration completes no flush. -/
theorem completions_iterated {v : Variant} {d : Device N} {loop : Loop}
    {posts : List (PostEvents N)}
    (hposts : (posts = [] ∧ loop.posted = d.loop.posted) ∨
      ∃ post, posts = [post] ∧ d.Sampled numbers v loop post) : completions posts = [] := by
  rcases hposts with ⟨rfl, -⟩ | ⟨post, rfl, hsampled⟩
  · rfl
  · obtain ⟨timestamp, file, hread⟩ := hsampled.read
    obtain ⟨e, rfl, -, -⟩ := postSample_events hread
    rfl

end Runs

section FrontEnds

variable [Zero N] {numbers : CNumbers N} {v : Variant}
  {mStopThread : Handle → Bool} {classes : List (SensorClass N)} {as : List ServiceAct}
  {s t : Service N (Reply v)}

/-- A call completes the flush it is, if it is granted. -/
theorem completions_call (hlen : classes.length < 2 ^ 32)
    (hrun : (service numbers (frontEnd v) classes).run (.construct mStopThread classes) as = some s)
    (c : Call) :
    completions ((frontEnd v).call s.mSensors c).posts =
        completedBy (frontEnd v) classes as (.call c) ∧
      (grantedFlush (frontEnd v).ok (c, ((frontEnd v).call s.mSensors c).answer)).toList =
        completedBy (frontEnd v) classes as (.call c) := by
  cases c with
  | flush h =>
      by_cases hgrants : Grants (frontEnd v) classes as h
      · obtain ⟨wakeup, hflush⟩ := flush_granted hlen hrun hgrants
        have hcall : (frontEnd v).call s.mSensors (.flush h) =
            ⟨(frontEnd v).ok, s.mSensors, [⟨[.flushComplete h.toInt], wakeup⟩]⟩ := hflush
        rw [hcall, completedBy, if_pos hgrants, grantedFlush, if_pos rfl]
        exact ⟨rfl, rfl⟩
      · obtain ⟨hposts, hanswer⟩ := flush_refused hlen hrun hgrants
        have hnotOk : ((frontEnd v).call s.mSensors (.flush h)).answer ≠ (frontEnd v).ok := by
          intro hok
          rcases hanswer with hanswer | hanswer
          · exact (frontEnd_not_ok v).1 (hanswer.symm.trans hok)
          · exact (frontEnd_not_ok v).2.1 (hanswer.symm.trans hok)
        have hnone : ((frontEnd v).call s.mSensors (.flush h)).posts = [] := hposts
        rw [hnone, completedBy, if_neg hgrants, grantedFlush, if_neg hnotOk]
        exact ⟨rfl, rfl⟩
  | activate | batch | injectSensorData | setOperationMode | directChannel | initializeBase =>
      refine ⟨congrArg completions (posts_of_no_flush ?_), rfl⟩
      intro k h
      cases h

/-- In every run of each of the three services the flushes that are complete, by the `META_DATA`
posted, are those that were answered with `ok`, one for one and in order; and which these are the
schedule alone decides: those of a sensor that there is, that is not a one-shot sensor, and that the
last call before them that says so has left enabled. -/
theorem flushes_complete (hlen : classes.length < 2 ^ 32)
    (hrun : (service numbers (frontEnd v) classes).run (.construct mStopThread classes) as =
      some t) :
    completions t.posts = completedAfter (frontEnd v) classes [] as ∧
      t.answers.filterMap (grantedFlush (frontEnd v).ok) =
        completedAfter (frontEnd v) classes [] as := by
  induction as using List.reverseRecOn generalizing t with
  | nil =>
      cases hrun
      exact ⟨rfl, rfl⟩
  | append_singleton as a ih =>
      rw [Machine.run_concat] at hrun
      obtain ⟨s, hs, hstep⟩ := Option.bind_eq_some_iff.mp hrun
      obtain ⟨hposted, hanswered⟩ := ih hs
      rw [completedAfter_concat, List.nil_append]
      -- which flushes the last action completes is a matter of the actions before it
      rcases Service.step_cases hstep with c | ⟨-, -, hposts⟩
      · obtain ⟨hcomplete, hgranted⟩ := completions_call hlen hs c
        constructor
        · rw [completions_append, hposted, hcomplete]
        · rw [List.filterMap_append, hanswered, ← hgranted]
          congr 1
      · rw [completions_append, completions_iterated hposts, List.append_nil, hanswered]
        exact ⟨hposted.trans (List.append_nil _).symm, (List.append_nil _).symm⟩

end FrontEnds

/-- Two flushes of the sensor while it is enabled, one before it, one after it, and one of a sensor
that is not there. -/
theorem flushes_complete_two :
    let classes : List (SensorClass Int) := [smi240Accel 1, smi240Gyro 1]
    let as : List ServiceAct :=
      [.call (.flush 2), .call (.activate 2 true), .call (.flush 2), .call (.flush 3),
        .iterate 2 1 0 7 none, .call (.flush 2), .call (.activate 2 false), .call (.flush 2)]
    ∃ t, (service (.ofParse fun _ => none) (frontEnd .v2X) classes).run
        (.construct (fun _ => false) classes) as = some t ∧ completions t.posts = [2, 2] ∧
      t.answers.filterMap (grantedFlush (frontEnd .v2X).ok) = [2, 2] := by
  intro classes as
  have hsome : ((service (.ofParse fun _ => none) (frontEnd .v2X) classes).run
      (.construct (fun _ => false) classes) as).isSome = true := rfl
  obtain ⟨t, hrun⟩ := Option.isSome_iff_exists.mp hsome
  obtain ⟨hcomplete, hgranted⟩ := flushes_complete (by decide) hrun
  exact ⟨t, hrun, hcomplete.trans (by decide), hgranted.trans (by decide)⟩

/-! ## Nothing is posted for a disabled sensor -/

section Silence

variable [Zero N] {numbers : CNumbers N} {fe : FrontEnd ρ}
  {mStopThread : Handle → Bool} {classes : List (SensorClass N)} {as : List ServiceAct}
  {a : ServiceAct} {s t : Service N ρ}

/-- A call of `postEvents` with one event, of a sensor that these actions leave enabled. -/
structure PostEvents.OfEnabled (fe : FrontEnd ρ) (classes : List (SensorClass N))
    (as : List ServiceAct) (h : Handle) (post : PostEvents N) : Prop where
  event : ∃ e, post.events = [e] ∧ e.sensorHandle = h.toInt
  ofClass : ∃ c, classAt classes h = some c ∧ post.wakeup = (c.flags &&& WAKE_UP != 0)
  enabled : enabledBy (as.flatMap (loopActs fe h)) = true

/-- The action is a flush of the sensor, or an iteration of its thread. -/
def ServiceAct.PostsFor (h : Handle) (a : ServiceAct) : Prop :=
  a = .call (.flush h) ∨
    ∃ tv_sec tv_nsec timestamp file, a = .iterate h tv_sec tv_nsec timestamp file

/-- A step posts nothing, or one event of an enabled sensor. -/
theorem step_posts (hstep : s.step numbers fe a = some t) :
    t.posts = s.posts ∨
    ∃ h d e, s.mSensors[h]? = some d ∧ d.loop.sensor.mIsEnabled = true ∧
      e.sensorHandle = d.sensorHandle.toInt ∧
      t.posts = s.posts ++ [⟨[e], d.isWakeUpSensor⟩] ∧ a.PostsFor h := by
  rcases Service.step_cases hstep with c | ⟨hget, -, hposts⟩
  · rcases call_posts_cases fe s.mSensors c with
      ⟨hnone, -⟩ | ⟨k, d, rfl, hget, hon, -, -, hpost⟩
    · exact Or.inl ((congrArg _ hnone).trans (List.append_nil _))
    · exact Or.inr ⟨k, d, .flushComplete d.sensorHandle.toInt, hget, hon, rfl, congrArg _ hpost,
        Or.inl rfl⟩
  · rcases hposts with ⟨rfl, -⟩ | ⟨post, rfl, hsampled⟩
    · exact Or.inl (List.append_nil _)
    · obtain ⟨timestamp, file, hread⟩ := hsampled.read
      obtain ⟨e, rfl, hevent, -⟩ := postSample_events hread
      exact Or.inr ⟨_, _, .data e, hget, hsampled.enabled, hevent, rfl,
        Or.inr ⟨_, _, _, _, rfl⟩⟩

/-- After any run, an action posts nothing, or it is a flush of a sensor or an iteration of its
thread, and posts one event of that sensor, which the calls so far have left enabled. -/
theorem posts_of_enabled (hlen : classes.length < 2 ^ 32)
    (hrun : (service numbers fe classes).run (.construct mStopThread classes) as = some s)
    (hstep : (service numbers fe classes).step s a = some t) :
    t.posts = s.posts ∨
    ∃ h post, t.posts = s.posts ++ [post] ∧ post.OfEnabled fe classes as h ∧ a.PostsFor h := by
  rcases step_posts hstep with hsame | ⟨h, d, e, hget, hon, hevent, hpost, ha⟩
  · exact Or.inl hsame
  · obtain ⟨hc, hhandle, henabled⟩ := get_of_run hlen hrun hget
    refine Or.inr ⟨h, _, hpost, ⟨⟨e, rfl, ?_⟩, ⟨_, hc, rfl⟩, henabled.symm.trans hon⟩, ha⟩
    rw [hevent, hhandle]

end Silence

/-- A sample of an enabled sensor. -/
theorem posts_of_enabled_sample :
    let classes : List (SensorClass Int) := [smi240Accel 1, smi240Gyro 1]
    let as : List ServiceAct := [.call (.batch 2 10000000 0), .call (.activate 2 true)]
    ∃ s t post, (service (.ofParse fun _ => none) subHal classes).run
        (.construct (fun _ => false) classes) as = some s ∧
      s.step (.ofParse fun _ => none) subHal (.iterate 2 1 0 7 none) = some t ∧ t.posts = [post] ∧
      post.OfEnabled subHal classes as 2 := by
  intro classes as
  have hsome : ((service (.ofParse fun _ => none) subHal classes).run
      (.construct (fun _ => false) classes) as).isSome = true := rfl
  obtain ⟨s, hs⟩ := Option.isSome_iff_exists.mp hsome
  have hposts : ((service (.ofParse fun _ => none) subHal classes).run
      (.construct (fun _ => false) classes) (as ++ [.iterate 2 1 0 7 none])).map (fun t => t.posts.length) = some 1 := rfl
  obtain ⟨t, hrun, hone⟩ := Option.map_eq_some_iff.mp hposts
  rw [Machine.run_concat, hs, Option.bind_some] at hrun
  have hnone : s.posts = [] :=
    (Option.some.inj (congrArg (Option.map Service.posts) hs)).symm
  rcases posts_of_enabled (by decide) hs hrun with hsame | ⟨h, post, hpost, henabled, ha⟩
  · rw [hsame, hnone] at hone
    exact absurd hone nofun
  · refine ⟨s, t, post, hs, hrun, ?_, ?_⟩
    · rw [hpost, hnone, List.nil_append]
    · rcases ha with ha | ⟨_, _, _, _, ha⟩
      · exact nomatch ha
      · cases ha
        exact henabled

/-! ## The wake lock -/

/-- The direct HAL that a service is. -/
def variantOf : Direct.Hal → Variant
  | .Sensors => .v2X
  | .SensorsHalAidl => .aidl

/-- The sensors and the wake lock. -/
structure DirectHal (N ρ : Type) where
  service : Service N ρ
  lock : Direct.WakeLock

/-- A step of the service, or of the thread that reads the wake-lock queue. -/
inductive DirectAct
  /-- What the service does, with whether the queue takes what it posts. -/
  | service (a : ServiceAct) (written : Bool) (platform : Direct.Platform)
  /-- One turn of the thread that reads the wake lock queue. -/
  | readWakeLockFMQ (eventsHandled : BitVec 32) (platform : Direct.Platform)

namespace DirectHal

/-- `postEvents`, as far as the wake lock goes. -/
def postEvents (hal : Direct.Hal) (seconds : Nat) (written : Bool) (platform : Direct.Platform)
    (lock : Direct.WakeLock) (post : PostEvents N) : Direct.WakeLock :=
  if written && post.wakeup then
    hal.updateWakeLock seconds lock (BitVec.ofNat 32 post.events.length) 0 platform
  else lock

/-- Every post of the service updates the wake lock. -/
def step [Zero N] (numbers : CNumbers N) (fe : FrontEnd ρ) (hal : Direct.Hal)
    (seconds : Nat) (s : DirectHal N ρ) : DirectAct → Option (DirectHal N ρ)
  | .service a written platform => do
      let service ← s.service.step numbers fe a
      some ⟨service, (service.posts.drop s.service.posts.length).foldl
        (postEvents hal seconds written platform) s.lock⟩
  | .readWakeLockFMQ eventsHandled platform =>
      some { s with lock := hal.updateWakeLock seconds s.lock 0 eventsHandled platform }

end DirectHal

/-- A service with its wake lock. -/
def directHal [Zero N] (numbers : CNumbers N) (hal : Direct.Hal) (seconds : Nat)
    (classes : List (SensorClass N)) :
    Machine (DirectHal N (Reply (variantOf hal))) DirectAct where
  Start s := ∃ mStopThread, s = ⟨.construct mStopThread classes, .construct⟩
  step := DirectHal.step numbers (frontEnd (variantOf hal)) hal seconds

/-- What the service does, without the lock. -/
def DirectAct.serviceActs : DirectAct → List ServiceAct
  | .service a _ _ => [a]
  | .readWakeLockFMQ _ _ => []

section WakeLock

variable [Zero N] (numbers : CNumbers N) (hal : Direct.Hal) (seconds : Nat)
  (classes : List (SensorClass N))

/-- The wake lock does not change what the service does. -/
def serviceSimulation :
    Simulation (directHal numbers hal seconds classes)
      (service numbers (frontEnd (variantOf hal)) classes) where
  Rel s x := s.service = x
  label := DirectAct.serviceActs
  start := by
    rintro _ ⟨mStopThread, rfl⟩
    exact ⟨_, ⟨mStopThread, rfl⟩, rfl⟩
  step := by
    rintro s a t _ rfl hstep
    cases a with
    | service a written platform =>
        obtain ⟨service, hservice, h⟩ := Option.bind_eq_some_iff.mp hstep
        cases h
        refine ⟨service, ?_, rfl⟩
        rw [DirectAct.serviceActs, Machine.run_cons_eq_some]
        exact ⟨service, hservice, rfl⟩
    | readWakeLockFMQ eventsHandled platform =>
        cases hstep
        exact ⟨s.service, rfl, rfl⟩

variable {numbers hal seconds classes}

omit [Zero N] in
theorem mem_of_classAt {h : Handle} {c : SensorClass N} (hc : classAt classes h = some c) :
    c ∈ classes := by
  unfold classAt at hc
  split at hc
  · exact nomatch hc
  · exact List.mem_of_getElem? hc

omit [Zero N] in
/-- A lock that is free with nothing outstanding stays so when the framework has handled events. -/
theorem updateWakeLock_idle {lock : Direct.WakeLock} {eventsHandled : BitVec 32}
    {platform : Direct.Platform} (hfree : lock.mHasWakeLock = false)
    (hnone : lock.mOutstandingWakeUpEvents = 0) (hhandled : 0 ≤ eventsHandled.toInt) :
    (hal.updateWakeLock seconds lock 0 eventsHandled platform).mHasWakeLock = false ∧
      (hal.updateWakeLock seconds lock 0 eventsHandled platform).mOutstandingWakeUpEvents = 0 := by
  have hcount : Direct.countAfter lock 0 eventsHandled = 0 := by
    unfold Direct.countAfter
    rw [hnone]
    dsimp only
    by_cases hzero : eventsHandled = 0
    · rw [hzero]
      decide
    · have hpos : eventsHandled.toInt ≠ 0 := fun h => hzero (BitVec.eq_of_toInt_eq h)
      have hmin : eventsHandled ≠ BitVec.intMin 32 := by
        rintro rfl
        exact absurd hhandled (by decide)
      have hneg : (0 : BitVec 32) + 0 - eventsHandled = -eventsHandled := by simp
      rw [hneg, BitVec.toInt_neg_of_ne_intMin hmin, if_pos (by omega)]
  have hnotLate : ¬ Direct.isLate seconds lock 0 platform := by
    rintro ⟨hheld, -⟩
    exact absurd (hfree.symm.trans hheld) nofun
  have hfinal : Direct.finalCount seconds lock 0 eventsHandled platform = 0 := by
    rw [Direct.finalCount, if_neg hnotLate, hcount]
  rw [hal.updateWakeLock_eq, Direct.updateWakeLock_eq, Direct.heldAfter, hfinal, hfree]
  exact ⟨rfl, rfl⟩

/-- A direct HAL whose sensors are no wake-up sensors never holds the wake lock, whatever is called,
posted and read, as long as the framework does not report a negative number of events. -/
theorem wake_lock_never_held (hlen : classes.length < 2 ^ 32)
    (hflags : ∀ c ∈ classes, c.flags &&& WAKE_UP = 0) {mStopThread : Handle → Bool}
    {as : List DirectAct}
    (hhandled : ∀ eventsHandled platform, .readWakeLockFMQ eventsHandled platform ∈ as →
      0 ≤ eventsHandled.toInt)
    {t : DirectHal N (Reply (variantOf hal))}
    (hrun : (directHal numbers hal seconds classes).run
      ⟨.construct mStopThread classes, .construct⟩ as = some t) :
    (∀ post ∈ t.service.posts, post.wakeup = false) ∧ t.lock.mHasWakeLock = false ∧
      t.lock.mOutstandingWakeUpEvents = 0 := by
  induction as using List.reverseRecOn generalizing t with
  | nil =>
      cases hrun
      exact ⟨nofun, rfl, rfl⟩
  | append_singleton as a ih =>
      rw [Machine.run_concat] at hrun
      obtain ⟨s, hs, hstep⟩ := Option.bind_eq_some_iff.mp hrun
      obtain ⟨hposts, hfree, hnone⟩ :=
        ih (fun e p he => hhandled e p (List.mem_append_left _ he)) hs
      cases a with
      | readWakeLockFMQ eventsHandled platform =>
          cases hstep
          exact ⟨hposts, updateWakeLock_idle hfree hnone
            (hhandled eventsHandled platform (by simp))⟩
      | service a written platform =>
          obtain ⟨service, hservice, h⟩ := Option.bind_eq_some_iff.mp hstep
          cases h
          obtain ⟨_, hbefore, rfl⟩ := (serviceSimulation numbers hal seconds classes).run rfl hs
          dsimp only
          rcases step_posts hservice with hsame | ⟨h, d, e, hget, -, -, hpost, -⟩
          · rw [hsame, List.drop_length]
            exact ⟨hposts, hfree, hnone⟩
          · -- the one event is of a sensor of one of the classes
            obtain ⟨hc, -, -⟩ := get_of_run hlen hbefore hget
            have hwake : d.isWakeUpSensor = false := by
              rw [Device.isWakeUpSensor, hflags d.info (mem_of_classAt hc)]
              rfl
            rw [hpost, List.drop_left, List.foldl_cons, List.foldl_nil, DirectHal.postEvents,
              hwake, Bool.and_false]
            refine ⟨?_, hfree, hnone⟩
            intro post hmem
            rcases List.mem_append.mp hmem with hold | hnew
            · exact hposts post hold
            · rw [List.mem_singleton.mp hnew]

end WakeLock

/-- The two sensors of the chip; a sample and a flush, and three events reported as handled. -/
theorem wake_lock_never_held_smi240 :
    let classes : List (SensorClass Int) := [smi240Accel 1, smi240Gyro 1]
    let platform : Direct.Platform := ⟨10, 10, true, true⟩
    ∃ t, (directHal (.ofParse fun _ => none) .SensorsHalAidl 1 classes).run
        ⟨.construct (fun _ => false) classes, .construct⟩
        [.service (.call (.activate 1 true)) true platform,
          .service (.iterate 1 1 0 7 none) true platform,
          .service (.call (.flush 1)) true platform, .readWakeLockFMQ 3 platform] = some t ∧
      t.lock.mHasWakeLock = false := by
  intro classes platform
  have hsome : ((directHal (.ofParse fun _ => none) .SensorsHalAidl 1 classes).run
      ⟨.construct (fun _ => false) classes, .construct⟩
      [.service (.call (.activate 1 true)) true platform,
        .service (.iterate 1 1 0 7 none) true platform,
        .service (.call (.flush 1)) true platform, .readWakeLockFMQ 3 platform]).isSome =
      true := rfl
  obtain ⟨t, hrun⟩ := Option.isSome_iff_exists.mp hsome
  refine ⟨t, hrun, (wake_lock_never_held (by decide) (by decide) ?_ hrun).2.1⟩
  intro eventsHandled platform hread
  have hthree : eventsHandled = 3 := by
    simp only [List.mem_cons, reduceCtorEq, List.not_mem_nil, false_or, or_false,
      DirectAct.readWakeLockFMQ.injEq] at hread
    exact hread.1
  rw [hthree]
  decide

end Smi240Hal.Services
