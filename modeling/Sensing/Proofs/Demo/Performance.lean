import Sensing.Proofs.Demo.Scene

/-!
# What the demonstration comes to

Each part of the demonstration leaves it at a place from where the next one can be played: whatever
it does with its endpoints succeeds, but for openings that ask for what there is not. Where one of
those is refused, and when all is played, both endpoints are dropped.

Main result: wherever it is interrupted by deliveries, the demonstration comes to its end, with the
answer that the requests of its settings deserve (`performance_attains`).
-/

namespace Sensing.Demo

open Procedure (Attains Succeeds)

variable {o : Options} {settings : Settings} {camera : VideoStanding}
  {motion : Option MotionPosition} {v : MotionPosition} {s : Stage}

/-! ## The parts -/

/-- A look at the stage finds what is known of it. -/
theorem attains_look_then {α β : Type} {view : Stage → β} {f : β → Part α}
    {Q : Except Cause α → Scene → Prop} (P : β → Prop)
    (h : ∀ s, Plays o settings camera motion s → P (view s))
    (hf : ∀ b, P b → (f b).run.Attains (Scene.Tells o settings) Q (.playing camera motion)) :
    (look view >>= f).run.Attains (Scene.Tells o settings) Q (.playing camera motion) := by
  have looks : (look view).run.Succeeds (Scene.Tells o settings)
      (fun b w => P b ∧ w = .playing camera motion) (.playing camera motion) :=
    Attains.lifted (Procedure.attains_look fun s told => ⟨h s told, rfl⟩)
  refine looks.andThen ?_
  intro b _ ⟨known, here⟩
  subst here
  exact hf b known

/-- Saying something moves neither endpoint. -/
theorem succeeds_say {level : LogLevel} {message : String} :
    (say level message).run.Succeeds (Scene.Tells o settings)
      (fun _ w => w = .playing camera motion) (.playing camera motion) :=
  Attains.lifted fun _ told =>
    ⟨.playing camera motion, ⟨told.options, told.settings, told.camera, told.motion⟩, rfl⟩

/-- Nor does announcing requests. -/
theorem succeeds_announce (name : String) (requests : List StreamRequest) :
    (announce name requests).run.Succeeds (Scene.Tells o settings)
      (fun _ w => w = .playing camera motion) (.playing camera motion) := by
  unfold announce
  split
  · exact succeeds_say
  · exact succeeds_say

/-- What is said of a request that cannot be had. -/
def refusal (q : StreamRequest) : Cause := (EndpointError.profileNotFound q.text).toCause

/-- Between the parts a camera that is played with is closed, or streams. -/
inductive Filming : VideoStanding → Prop where
  | closed : Filming .closed
  | streaming (routes : List Route) : Filming (.streaming routes)

/-- So is a motion module, if there is one. -/
inductive Feeding : Option MotionPosition → Prop where
  | absent : Feeding none
  | closed {v : MotionPosition} (rests : v.Rests MotionDevice.motionModule .closed) :
    Feeding (some v)
  | streaming {v : MotionPosition} (rests : v.Rests MotionDevice.motionModule .streaming) :
    Feeding (some v)

/-- The camera streams what is asked for, and is left closed if nothing is, or if something cannot
be had. -/
theorem streamVideo_attains {requests : List StreamRequest} {Q : Except Cause Unit → Scene → Prop}
    (served : Route.unservable? requests cameraFormats (distinct (cameraModes o)) = none →
      ∀ camera, Filming camera → Q (.ok ()) (.playing camera motion))
    (refused : ∀ q, Route.unservable? requests cameraFormats (distinct (cameraModes o)) = some q →
      Q (.error (refusal q)) (.playing .closed motion)) :
    (streamVideo requests).run.Attains (Scene.Tells o settings) Q (.playing .closed motion) := by
  refine (succeeds_announce _ _).onward fun _ => ?_
  by_cases asked : requests = []
  · subst asked
    exact Procedure.attains_pure (served rfl _ .closed)
  rw [if_pos (by simp [asked])]
  refine Attains.before (attains_videoWork (VideoRig.openStreams_attains ?_ ?_) fun _ _ h => h)
  · intro routes routed
    refine Attains.mono ?_ (succeeds_videoWork_at (VideoRig.start_succeeds consumer_passing))
    rintro _ _ ⟨_, rfl, rfl⟩
    exact served (Route.unservable?_of_resolve_ok asked routed) _ (.streaming routes)
  · intro e unrouted
    obtain ⟨q, first, named⟩ := Route.unservable?_of_resolve_error asked unrouted
    subst named
    exact refused q first

/-- The camera films what the settings ask for, or what it proposes itself. -/
theorem startVideo_attains {Q : Except Cause Unit → Scene → Prop}
    (served : settings.requests.bind (unfilmed? o) = none →
      ∀ camera, Filming camera → Q (.ok ()) (.playing camera motion))
    (refused : ∀ q, settings.requests.bind (unfilmed? o) = some q →
      Q (.error (refusal q)) (.playing .closed motion)) :
    startVideo.run.Attains (Scene.Tells o settings) Q (.playing .closed motion) := by
  refine attains_look_then (· = settings) (fun s told => told.settings) fun found same => ?_
  subst same
  cases asked : found.requests with
  | some rs =>
    rw [asked, Option.bind_some, ← unservable?_ofCamera] at served refused
    exact streamVideo_attains served refused
  | none =>
    -- Without requests of its own the demonstration asks for what the camera proposes, which the
    -- camera can serve.
    have proposes : (videoWork VideoRig.principal).run.Succeeds (Scene.Tells o found)
        (fun rs w => rs = VideoRig.principalRequests cameraFormats (distinct (cameraModes o)) ∧
          w = .playing .closed motion) (.playing .closed motion) :=
      succeeds_videoWork VideoRig.principal_succeeds fun _ _ h =>
        ⟨h.1, congrArg (Scene.playing · motion) h.2⟩
    have servable : Route.unservable?
        (VideoRig.principalRequests cameraFormats (distinct (cameraModes o))) cameraFormats
          (distinct (cameraModes o)) = none :=
      Route.unservable?_eq_none fun _ proposed =>
        servable_iff_filmed.2 (filmed_of_proposed proposed)
    refine proposes.andThen ?_
    intro rs _ ⟨same, here⟩
    subst same here
    refine streamVideo_attains (fun _ => served (by rw [asked]; rfl)) fun q first => ?_
    rw [servable] at first
    cases first

/-- The motion module streams what is asked for, and is left closed if nothing is, or if something
cannot be had. -/
theorem streamMotion_attains {requests : List StreamRequest} {Q : Except Cause Unit → Scene → Prop}
    (rests : v.Rests MotionDevice.motionModule .closed)
    (served : Route.unservable? requests PixelFormat.motion
      (MotionRig.sensedModes MotionDevice.motionModule) = none →
        ∀ motion, Feeding motion → Q (.ok ()) (.playing camera motion))
    (refused : ∀ q, Route.unservable? requests PixelFormat.motion
      (MotionRig.sensedModes MotionDevice.motionModule) = some q →
        Q (.error (refusal q)) (.playing camera (some v))) :
    (streamMotion requests).run.Attains (Scene.Tells o settings) Q
      (.playing camera (some v)) := by
  refine (succeeds_announce _ _).onward fun _ => ?_
  -- Nothing is asked of the module, it goes on to stream, or the first request without a sensor is
  -- refused.
  by_cases asked : requests = []
  · subst asked
    exact Procedure.attains_pure (served rfl _ (.closed rests))
  rw [if_pos (by simp [asked])]
  refine Attains.before (attains_motionWork (MotionRig.openStreams_attains rests asked ?_ ?_)
    fun _ _ h => h)
  · intro v' sensed rests
    have starts : (motionWork (MotionRig.start consumer)).run.Succeeds (Scene.Tells o settings)
        (fun _ w => ∃ v', w = .playing camera (some v') ∧
          v'.Rests MotionDevice.motionModule .streaming) (.playing camera (some v')) :=
      succeeds_motionWork (MotionRig.start_succeeds consumer_passing rests)
        fun _ v' rests => ⟨v', rfl, rests⟩
    refine starts.andThen ?_
    rintro _ _ ⟨v', rfl, rests⟩
    have all := Route.unservable?_eq_none fun q mem => MotionRig.servable_iff.2 (sensed q mem)
    exact Procedure.attains_pure (served all _ (.streaming rests))
  · intro e unrouted
    obtain ⟨q, first, named⟩ := Route.unservable?_of_resolve_error asked unrouted
    subst named
    exact refused q first

/-- A motion module is set up unless there is to be none. -/
inductive SetUp (o : Options) : Option MotionPosition → Prop where
  | absent (without : o.withoutMotion = true) : SetUp o none
  | closed {v : MotionPosition} (withMotion : o.withoutMotion = false)
    (rests : v.Rests MotionDevice.motionModule .closed) : SetUp o (some v)

/-- A motion module feeds what the settings ask for, or what it proposes itself. -/
theorem startMotion_attains {Q : Except Cause Unit → Scene → Prop} (ready : SetUp o motion)
    (served : settings.requests.bind (unsensed? o) = none →
      ∀ motion, Feeding motion → Q (.ok ()) (.playing camera motion))
    (refused : ∀ q, settings.requests.bind (unsensed? o) = some q →
      Q (.error (refusal q)) (.playing camera motion)) :
    startMotion.run.Attains (Scene.Tells o settings) Q (.playing camera motion) := by
  cases ready with
  | absent without =>
    refine attains_look_then (· = none) (fun s told => told.absent) fun found same => ?_
    subst same
    exact Procedure.attains_pure (served (unsensed?_without without) none .absent)
  | @closed v withMotion rests =>
    refine attains_look_then (fun found => found.isSome = true) (fun s told => ?_)
      fun found present => ?_
    · obtain ⟨r, there, -⟩ := told.present
      rw [there]
      rfl
    rw [if_pos present]
    refine attains_look_then (· = settings) (fun s told => told.settings) fun found same => ?_
    subst same
    cases asked : found.requests with
    | some rs =>
      rw [asked, Option.bind_some, ← unservable?_ofModule withMotion] at served refused
      exact streamMotion_attains rests served refused
    | none =>
      -- What the module proposes it can serve.
      have proposes : (motionWork MotionRig.principal).run.Succeeds (Scene.Tells o found)
          (fun rs w =>
            rs = some (distinct (MotionDevice.motionModule.filterMap MotionRig.requestOf?)) ∧
              w = .playing camera (some v)) (.playing camera (some v)) :=
        succeeds_motionWork (MotionRig.principal_succeeds rests) fun _ _ h =>
          ⟨congrArg some h.1, congrArg (Scene.playing camera <| some ·) h.2⟩
      have servable : Route.unservable?
          (distinct (MotionDevice.motionModule.filterMap MotionRig.requestOf?)) PixelFormat.motion
            (MotionRig.sensedModes MotionDevice.motionModule) = none :=
        Route.unservable?_eq_none fun _ proposed =>
          MotionRig.servable_iff.2 (MotionRig.sensed_of_proposed (mem_distinct.1 proposed))
      refine proposes.andThen ?_
      intro rs _ ⟨same, here⟩
      subst same here
      refine streamMotion_attains rests (fun _ => served (by rw [asked]; rfl)) fun q first => ?_
      rw [Option.getD_some, servable] at first
      cases first

/-- A question about a control leaves the camera where it stands, and so does the demonstration that
asks it. -/
theorem succeeds_cameraControl {id : ControlId} {call : ControlCall}
    (h : (VideoRig.callProcessing id call).Succeeds
      (VideoStanding.Describes (cameraModes o) cameraFormats) (fun _ w => w = camera) camera) :
    (cameraControl id call).run.Succeeds (Scene.Tells o settings)
      (fun _ w => w = .playing camera motion) (.playing camera motion) := by
  refine (attains_onVideo h).mono ?_
  rintro _ _ ⟨_, rfl, a, rfl, rfl⟩
  exact ⟨a, rfl, rfl⟩

/-- So does showing the gain. -/
theorem showGain_succeeds : showGain.run.Succeeds (Scene.Tells o settings)
    (fun _ w => w = .playing camera motion) (.playing camera motion) := by
  refine (succeeds_cameraControl (VideoRig.query_succeeds .gain)).onward fun gain => ?_
  refine (succeeds_cameraControl (VideoRig.range_succeeds .gain)).onward fun range => ?_
  split
  · exact succeeds_say
  · exact Procedure.succeeds_pure rfl

/-- The motion module is set up unless the command line says to do without. -/
theorem setUpMotion_succeeds : setUpMotion.run.Succeeds (Scene.Tells o settings)
    (fun _ w => ∃ motion, w = .playing camera motion ∧ SetUp o motion) (.playing camera none) := by
  refine attains_look_then (· = o) (fun s told => told.options) fun found same => ?_
  subst same
  cases without : found.withoutMotion with
  | true => exact Procedure.succeeds_pure ⟨none, rfl, .absent without⟩
  | false =>
    have brings : (change fun s => { s with motion := some (newMotion s.settings) }).run.Succeeds
        (Scene.Tells found settings) (fun _ w => w = .playing camera (some ⟨.unborn, []⟩))
        (.playing camera none) := by
      refine Attains.lifted fun s told => ⟨.playing camera (some ⟨.unborn, []⟩), ?_, rfl⟩
      have newborn : MotionPosition.Describes MotionDevice.motionModule ⟨.unborn, []⟩
          (newMotion s.settings) := MotionRig.describes_newborn ..
      exact ⟨told.options, told.settings, told.camera, .some newborn⟩
    have constructs : (motionWork MotionRig.construct).run.Succeeds (Scene.Tells found settings)
        (fun _ w => ∃ v, w = .playing camera (some v) ∧
          v.Rests MotionDevice.motionModule .closed) (.playing camera (some ⟨.unborn, []⟩)) :=
      succeeds_motionWork MotionRig.construct_succeeds fun _ v rests => ⟨v, rfl, rests⟩
    refine brings.onward fun _ => constructs.andThen ?_
    intro _ w ⟨v, here, rests⟩
    exact Procedure.succeeds_pure ⟨some v, here, .closed without rests⟩

/-- The opening is decided by the requests alone. -/
theorem opening_attains {Q : Except Cause Unit → Scene → Prop}
    (served : settings.requests.bind (refused? o) = none → ∀ camera motion,
      Filming camera → Feeding motion → Q (.ok ()) (.playing camera motion))
    (refused : ∀ q, settings.requests.bind (refused? o) = some q → ∀ camera motion,
      Q (.error (refusal q)) (.playing camera motion)) :
    opening.run.Attains (Scene.Tells o settings) Q (.playing .closed none) := by
  refine attains_look_then (fun _ => True) (fun _ _ => trivial) fun found _ => ?_
  refine succeeds_say.onward fun _ => ?_
  refine setUpMotion_succeeds.andThen ?_
  intro _ _ ⟨motion, here, ready⟩
  subst here
  refine Attains.before (startVideo_attains (fun filmed camera films => ?_) fun q first => ?_)
  · have next := refused?_of_filmed filmed
    refine Attains.before (startMotion_attains ready (fun sensed motion feeds => ?_)
      fun q first => ?_)
    · refine showGain_succeeds.onward fun _ => ?_
      refine attains_look_then (fun _ => True) (fun _ _ => trivial) fun found _ => ?_
      refine Attains.mono ?_ succeeds_say
      rintro _ _ ⟨_, rfl, rfl⟩
      exact served (next.trans sensed) _ _ films feeds
    · exact refused q (next.trans first) _ _
  · exact refused q (refused?_of_unfilmed first) _ _

/-! ## Closing and leaving -/

/-- What is done if the stage asks for it, of which it is known whether it does. -/
theorem whenever_succeeds {α : Type} {due : Stage → Bool} {part : Part α} {P : Scene → Prop}
    {b : Bool} (h : ∀ s, Plays o settings camera motion s → due s = b)
    (on : b = true → part.run.Succeeds (Scene.Tells o settings) (fun _ w => P w)
      (.playing camera motion)) (off : b = false → P (.playing camera motion)) :
    (whenever due part).run.Succeeds (Scene.Tells o settings) (fun _ w => P w)
      (.playing camera motion) := by
  refine attains_look_then (· = b) h fun found same => ?_
  subst same
  cases found with
  | true => exact (on rfl).andThen fun _ _ h => Procedure.succeeds_pure h
  | false => exact Procedure.succeeds_pure (off rfl)

/-- A camera that streams is stopped and closed, and one that is closed is left alone. -/
theorem stopVideo_succeeds (films : Filming camera) : stopVideo.run.Succeeds
    (Scene.Tells o settings) (fun _ w => w = .playing .closed motion) (.playing camera motion) := by
  cases films with
  | closed =>
    have stops : (whenever (·.video.core.streaming) (videoWork VideoRig.stop)).run.Succeeds
        (Scene.Tells o settings) (fun _ w => w = .playing .closed motion)
        (.playing .closed motion) :=
      whenever_succeeds (fun _ told => told.camera.usage.phase.streaming) nofun fun _ => rfl
    refine stops.onward fun _ => ?_
    exact whenever_succeeds (fun _ told => told.camera.usage.phase.opened) nofun fun _ => rfl
  | streaming routes =>
    have stops : (whenever (·.video.core.streaming) (videoWork VideoRig.stop)).run.Succeeds
        (Scene.Tells o settings) (fun _ w => w = .playing (.opened routes) motion)
        (.playing (.streaming routes) motion) :=
      whenever_succeeds (fun _ told => told.camera.usage.phase.streaming)
        (fun _ => succeeds_videoWork_at VideoRig.stop_succeeds) nofun
    refine stops.onward fun _ => ?_
    exact whenever_succeeds (fun _ told => told.camera.usage.phase.opened)
      (fun _ => succeeds_videoWork_at VideoRig.close_succeeds) nofun

section MotionModule

variable {p : Phase} (rests : v.Rests MotionDevice.motionModule p)

include rests

/-- Whether the motion module streams is known from where it stands, -/
theorem Plays.motion_streaming (told : Plays o settings camera (some v) s) :
    s.motion.any (·.core.streaming) = p.isStreaming := by
  obtain ⟨r, there, known⟩ := told.present
  rw [there, ← rests.phase]
  exact known.standing.phase.streaming

/-- and so is whether it is open. -/
theorem Plays.motion_opened (told : Plays o settings camera (some v) s) :
    s.motion.any (·.core.opened) = p.isOpened := by
  obtain ⟨r, there, known⟩ := told.present
  rw [there, ← rests.phase]
  exact known.standing.phase.opened

end MotionModule

/-- A motion module that streams is stopped and closed, and any other is left alone. -/
theorem stopMotion_succeeds (feeds : Feeding motion) : stopMotion.run.Succeeds
    (Scene.Tells o settings) (fun _ w => ∃ motion, w = .playing camera motion)
    (.playing camera motion) := by
  cases feeds with
  | absent =>
    have nothing {due : MotionRig → Bool} {work : Part (Option Unit)} :
        (whenever (·.motion.any due) work).run.Succeeds (Scene.Tells o settings)
          (fun _ w => w = .playing camera none) (.playing camera none) :=
      whenever_succeeds (b := false) (fun _ told => by rw [told.absent]; rfl) nofun fun _ => rfl
    exact nothing.onward fun _ => nothing.mono fun _ _ here => ⟨none, here⟩
  | @closed v rests =>
    -- What has not been started is not stopped, but it is closed all the same.
    have stops : (whenever (·.motion.any (·.core.streaming))
        (motionWork MotionRig.stop)).run.Succeeds (Scene.Tells o settings)
          (fun _ w => w = .playing camera (some v)) (.playing camera (some v)) :=
      whenever_succeeds (fun _ => Plays.motion_streaming rests) nofun fun _ => rfl
    refine stops.onward fun _ => ?_
    exact whenever_succeeds (fun _ => Plays.motion_opened rests) nofun fun _ => ⟨_, rfl⟩
  | @streaming v rests =>
    have stops : (whenever (·.motion.any (·.core.streaming))
        (motionWork MotionRig.stop)).run.Succeeds (Scene.Tells o settings)
          (fun _ w => ∃ v', w = .playing camera (some v') ∧
            v'.Rests MotionDevice.motionModule .opened) (.playing camera (some v)) :=
      whenever_succeeds (fun _ => Plays.motion_streaming rests)
        (fun _ => succeeds_motionWork (MotionRig.stop_succeeds rests) fun _ v' h => ⟨v', rfl, h⟩)
        nofun
    refine stops.andThen ?_
    intro _ _ ⟨v', here, rests⟩
    subst here
    exact whenever_succeeds (fun _ => Plays.motion_opened rests)
      (fun _ => succeeds_motionWork (MotionRig.close_succeeds rests) fun _ _ _ => ⟨_, rfl⟩) nofun

/-- What was opened can be closed. -/
theorem closing_succeeds (films : Filming camera) (feeds : Feeding motion) :
    closing.run.Succeeds (Scene.Tells o settings)
      (fun _ w => ∃ motion, w = .playing .closed motion) (.playing camera motion) := by
  refine (stopVideo_succeeds films).onward fun _ => ?_
  refine (stopMotion_succeeds feeds).andThen ?_
  intro _ _ ⟨motion, here⟩
  subst here
  refine attains_look_then (fun _ => True) (fun _ _ => trivial) fun t _ => ?_
  exact succeeds_say.mono fun _ _ here => ⟨motion, here⟩

/-- Both endpoints are dropped, whatever they are in the middle of. -/
theorem leave_attains : leave.Attains (Scene.Tells o settings) (fun _ _ => True) .leaving := by
  have video : (onVideo VideoRig.retire).Attains (Scene.Tells o settings)
      (fun _ w => w = .leaving) .leaving :=
    VideoRig.retire_goesThrough.within (fun told => told.camera)
      fun told known => told.collectVideo known
  have motion : (onMotion MotionRig.retire).Attains (Scene.Tells o settings)
      (fun _ w => w = .leaving) .leaving := by
    -- There may be no motion module to be dropped.
    have look : (Procedure.look Stage.motion).Attains (Scene.Tells o settings)
        (fun found w => w = .leaving ∧ ∀ r, found = some r → r.core.Unclaimed) .leaving :=
      Procedure.attains_look fun _ told => ⟨rfl, told.motion⟩
    refine look.bind ?_
    rintro (_ | r) _ ⟨rfl, unclaimed⟩
    · exact Procedure.attains_pure rfl
    · refine Attains.bind (MotionRig.retire_goesThrough.within (w := Scene.leaving)
        (fun {s} told => ?_) fun told known => told.collectMotion known) ?_
      · cases there : s.motion with
        | none => exact unclaimed r rfl
        | some r' => exact told.motion r' there
      · rintro _ _ rfl
        exact Procedure.attains_pure rfl
  refine video.bind ?_
  rintro _ _ rfl
  refine motion.bind ?_
  rintro _ _ rfl
  exact Procedure.attains_pure trivial

/-- What the demonstration comes to: what it answers is decided by what is asked of it. -/
def answer (o : Options) (settings : Settings) : Except Cause Unit :=
  match settings.requests.bind (refused? o) with
  | none => .ok ()
  | some q => .error (refusal q)

/-- Wherever it is interrupted by deliveries, the demonstration comes to its end, with that
answer. -/
theorem performance_attains : performance.Attains (Scene.Tells o settings)
    (fun result _ => result = answer o settings) (.playing .closed none) := by
  -- However it ends, it leaves from wherever its endpoints are.
  have leaves {result : Except Cause Unit} (same : result = answer o settings)
      {camera : VideoStanding} {motion : Option MotionPosition} : (do
        leave
        return result).Attains (Scene.Tells o settings)
          (fun result _ => result = answer o settings) (.playing camera motion) := by
    have left : (do
        leave
        return result).Attains (Scene.Tells o settings)
          (fun result _ => result = answer o settings) .leaving :=
      leave_attains.bind fun _ _ _ => Procedure.attains_pure same
    exact left.forget (fun s (told : Plays ..) => told.leaves) fun _ h => h
  have opens : opening.run.Attains (Scene.Tells o settings)
      (fun opened w => (sequel opened).Attains (Scene.Tells o settings)
        (fun result _ => result = answer o settings) w) (.playing .closed none) := by
    refine opening_attains (fun served _ _ films feeds => ?_) fun q refused camera motion => ?_
    · refine Attains.bind (closing_succeeds films feeds) ?_
      rintro _ _ ⟨_, rfl, motion, rfl⟩
      refine leaves ?_
      unfold answer
      rw [served]
    · refine leaves ?_
      unfold answer
      rw [refused]
  exact opens.bind fun _ _ h => h

end Sensing.Demo
