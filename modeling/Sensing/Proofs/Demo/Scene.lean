import Sensing.Proofs.Demo.Requests
import Sensing.Proofs.Motion.SoleClient
import Sensing.Proofs.Video.SoleClient

/-!
# Where the demonstration stands

The demonstration is the only client of both endpoints, and its consumer keeps no frames. So it
knows at each of its steps where both stand (`Scene`), and what it does with one of them comes to
what that comes to alone. Once it leaves it knows no more than that no frames are out.

Main result: what is known stays known, whatever the devices deliver (`Stage.Delivery.tells`).
-/

namespace Sensing.Demo

open Procedure (Attains Succeeds)

/-! ## What is known -/

/-- What the devices do of their own accord: one of them delivers an image or a sample, or makes a
round of them, and what comes of it is taken over. -/
inductive Stage.Delivery (s : Stage) : Stage → Prop where
  | image (m : NativeMode) (data : Bytes) :
    Delivery s (s.collectVideo (VideoRig.deliver m data s.video).2)
  | images : Delivery s (s.collectVideo (VideoRig.nextRound s.video))
  | sample {r : MotionRig} (there : s.motion = some r) (name : String) (data : Bytes) :
    Delivery s (s.collectMotion (MotionRig.deliver name data r).2)
  | samples {r : MotionRig} (there : s.motion = some r) :
    Delivery s (s.collectMotion (MotionRig.nextRound r))

/-- Where the demonstration stands with its camera and, if it has one, its motion module. -/
inductive Scene where
  | playing (camera : VideoStanding) (motion : Option MotionPosition)
  | leaving

/-- The stage while the demonstration plays. -/
structure Plays (o : Options) (settings : Settings) (camera : VideoStanding)
    (motion : Option MotionPosition) (s : Stage) : Prop where
  options : s.options = o
  settings : s.settings = settings
  camera : camera.Describes (cameraModes o) cameraFormats s.video
  motion : Option.Rel (MotionPosition.Describes MotionDevice.motionModule) motion s.motion

/-- The stage while the demonstration leaves. -/
structure Leaves (s : Stage) : Prop where
  camera : s.video.core.Unclaimed
  motion : ∀ r, s.motion = some r → r.core.Unclaimed

/-- What is known of the stage. -/
def Scene.Tells (o : Options) (settings : Settings) : Scene → Stage → Prop
  | .playing camera motion => Plays o settings camera motion
  | .leaving => Leaves

variable {o : Options} {settings : Settings} {camera camera' : VideoStanding}
  {motion : Option MotionPosition} {v v' : MotionPosition} {scene : Scene} {s s' : Stage}

/-- Whoever stands somewhere with a motion module has one. -/
theorem Plays.present (h : Plays o settings camera (some v) s) :
    ∃ r, s.motion = some r ∧ v.Describes MotionDevice.motionModule r := by
  have known := h.motion
  cases there : s.motion with
  | none =>
    rw [there] at known
    cases known
  | some r =>
    rw [there] at known
    cases known with
    | some known => exact ⟨r, rfl, known⟩

/-- Who is told of no motion module has none. -/
theorem Plays.absent (h : Plays o settings camera none s) : s.motion = none := by
  have known := h.motion
  cases there : s.motion with
  | none => rfl
  | some r =>
    rw [there] at known
    cases known

/-- Whoever has a motion module stands somewhere with it. -/
theorem Plays.position (h : Plays o settings camera motion s) {r : MotionRig}
    (there : s.motion = some r) :
    ∃ v, motion = some v ∧ v.Describes MotionDevice.motionModule r := by
  have known := h.motion
  rw [there] at known
  cases known with
  | some known => exact ⟨_, rfl, known⟩

/-- While the demonstration plays no frames are out, so it may leave at any time. -/
theorem Plays.leaves (h : Plays o settings camera motion s) : Leaves s := by
  refine ⟨h.camera.frames, fun r there => ?_⟩
  obtain ⟨v, -, known⟩ := h.position there
  exact known.frames

/-- What comes of an image is taken over, and nothing else of the stage changes. -/
theorem Plays.collectVideo (h : Plays o settings camera motion s) {r : VideoRig}
    (known : camera'.Describes (cameraModes o) cameraFormats r) :
    Plays o settings camera' motion (s.collectVideo r) := by
  let clear (c : Core) : Core := { c with log := [], delivered := [] }
  have calm : r.core.Calm (clear r.core) := ⟨rfl, rfl, rfl, fun _ none => nomatch none⟩
  have cleared : camera'.Describes (cameraModes o) cameraFormats (r.mapCore clear) :=
    VideoRig.stands_passed known ⟨rfl⟩ calm (known.frames.of_same ⟨rfl, rfl, rfl⟩)
  exact ⟨h.options, h.settings, cleared, h.motion⟩

/-- The same for what comes of a sample. -/
theorem Plays.collectMotion (h : Plays o settings camera (some v) s) {r : MotionRig}
    (known : v'.Describes MotionDevice.motionModule r) :
    Plays o settings camera (some v') (s.collectMotion r) := by
  refine ⟨h.options, h.settings, h.camera, .some ?_⟩
  refine MotionRig.stands_unmoved known ?_ ⟨rfl⟩ (known.frames.of_same ⟨rfl, rfl, rfl⟩)
  exact ⟨(fun hp => ⟨hp.opened, hp.streaming⟩), rfl, rfl, rfl, rfl, rfl, rfl, rfl⟩

/-- It is so while the demonstration leaves, -/
theorem Leaves.collectVideo (h : Leaves s) {r : VideoRig} (known : r.core.Unclaimed) :
    Leaves (s.collectVideo r) := ⟨known.of_same ⟨rfl, rfl, rfl⟩, h.motion⟩

/-- for both endpoints. -/
theorem Leaves.collectMotion (h : Leaves s) {r : MotionRig} (known : r.core.Unclaimed) :
    Leaves (s.collectMotion r) := by
  refine ⟨h.camera, fun r' there => ?_⟩
  cases there
  exact known.of_same ⟨rfl, rfl, rfl⟩

/-- What is known stays known, whatever is delivered. -/
theorem Stage.Delivery.tells (h : s.Delivery s') (told : scene.Tells o settings s) :
    scene.Tells o settings s' := by
  cases scene with
  | playing camera motion =>
    have plays : Plays o settings camera motion s := told
    cases h with
    | image m data => exact plays.collectVideo (VideoRig.deliver_stands m data plays.camera)
    | images => exact plays.collectVideo (VideoRig.nextRound_stands plays.camera)
    | sample there name data =>
      -- A sample comes from a motion module that is there, so it is known where it stands.
      obtain ⟨v, here, known⟩ := plays.position there
      subst here
      exact plays.collectMotion (MotionRig.deliver_stands name data known)
    | samples there =>
      obtain ⟨v, here, known⟩ := plays.position there
      subst here
      exact plays.collectMotion (MotionRig.nextRound_stands known)
  | leaving =>
    have leaves : Leaves s := told
    cases h with
    | image m data => exact leaves.collectVideo (VideoRig.deliver_unclaimed m data leaves.camera)
    | images => exact leaves.collectVideo (VideoRig.nextRound_unclaimed leaves.camera)
    | sample there name data =>
      exact leaves.collectMotion (MotionRig.deliver_unclaimed name data (leaves.motion _ there))
    | samples there =>
      exact leaves.collectMotion (MotionRig.nextRound_unclaimed (leaves.motion _ there))

/-! ## What is done with the endpoints -/

/-- What the camera's endpoint attains alone it attains on the stage. -/
theorem attains_onVideo {α : Type} {p : Procedure VideoRig α} {P : α → VideoStanding → Prop}
    (hp : p.Attains (VideoStanding.Describes (cameraModes o) cameraFormats) P camera) :
    (onVideo p).Attains (Scene.Tells o settings)
      (fun a w => ∃ camera', w = .playing camera' motion ∧ P a camera')
      (.playing camera motion) :=
  hp.within (fun told => told.camera) fun told known => Plays.collectVideo told known

/-- The same for a motion module that is there. -/
theorem attains_onMotion {α : Type} {p : Procedure MotionRig α} {P : α → MotionPosition → Prop}
    (hp : p.Attains (MotionPosition.Describes MotionDevice.motionModule) P v) :
    (onMotion p).Attains (Scene.Tells o settings)
      (fun a w => ∃ b v', a = some b ∧ w = .playing camera (some v') ∧ P b v')
      (.playing camera (some v)) := by
  have look : (Procedure.look Stage.motion).Attains (Scene.Tells o settings)
      (fun found w => (∃ r, found = some r) ∧ w = .playing camera (some v))
      (.playing camera (some v)) :=
    Procedure.attains_look fun s told => ⟨told.present.imp fun _ h => h.1, rfl⟩
  refine look.bind ?_
  intro _ _ ⟨⟨r, there⟩, here⟩
  subst there here
  have within : (p.within (fun s => s.motion.getD r) Stage.collectMotion).Attains
      (Scene.Tells o settings) (fun a w => ∃ v', w = .playing camera (some v') ∧ P a v')
      (.playing camera (some v)) := by
    refine hp.within (fun told => ?_) fun told known => Plays.collectMotion told known
    obtain ⟨_, there, known⟩ := told.present
    rw [there]
    exact known
  refine within.bind ?_
  intro a w ⟨v', here, h⟩
  exact Procedure.attains_pure ⟨a, v', rfl, here, h⟩

section Work

variable {α : Type} {Q : Except Cause α → Scene → Prop}

/-- Work with the camera, whose errors become those of the demonstration. -/
theorem attains_videoWork {work : Work VideoRig α}
    {P : Except EndpointError α → VideoStanding → Prop}
    (hw : work.run.Attains (VideoStanding.Describes (cameraModes o) cameraFormats) P camera)
    (hQ : ∀ a camera', P a camera' →
      Q (a.mapError EndpointError.toCause) (.playing camera' motion)) :
    (videoWork work).run.Attains (Scene.Tells o settings) Q (.playing camera motion) := by
  refine (attains_onVideo hw).bind ?_
  intro a _ ⟨camera', here, h⟩
  subst here
  exact Procedure.attains_pure (hQ a camera' h)

/-- The same where it succeeds. -/
theorem succeeds_videoWork {work : Work VideoRig α} {P : α → VideoStanding → Prop}
    {Q : α → Scene → Prop}
    (hw : work.run.Succeeds (VideoStanding.Describes (cameraModes o) cameraFormats) P camera)
    (hQ : ∀ a camera', P a camera' → Q a (.playing camera' motion)) :
    (videoWork work).run.Succeeds (Scene.Tells o settings) Q (.playing camera motion) := by
  refine attains_videoWork hw ?_
  intro _ camera' ⟨a, ok, h⟩
  subst ok
  exact ⟨a, rfl, hQ a camera' h⟩

/-- The same where it is known where the camera stands then. -/
theorem succeeds_videoWork_at {work : Work VideoRig α}
    (hw : work.run.Succeeds (VideoStanding.Describes (cameraModes o) cameraFormats)
      (fun _ w => w = camera') camera) :
    (videoWork work).run.Succeeds (Scene.Tells o settings)
      (fun _ w => w = .playing camera' motion) (.playing camera motion) :=
  succeeds_videoWork hw fun _ _ here => here ▸ rfl

/-- Work with a motion module that is there, whose errors become those of the demonstration. -/
theorem attains_motionWork {work : Work MotionRig α} {Q : Except Cause (Option α) → Scene → Prop}
    {P : Except EndpointError α → MotionPosition → Prop}
    (hw : work.run.Attains (MotionPosition.Describes MotionDevice.motionModule) P v)
    (hQ : ∀ a v', P a v' →
      Q ((a.map some).mapError EndpointError.toCause) (.playing camera (some v'))) :
    (motionWork work).run.Attains (Scene.Tells o settings) Q (.playing camera (some v)) := by
  refine (attains_onMotion hw).bind ?_
  intro _ _ ⟨a, v', there, here, h⟩
  subst there here
  exact Procedure.attains_pure (hQ a v' h)

/-- The same where it succeeds. -/
theorem succeeds_motionWork {work : Work MotionRig α} {P : α → MotionPosition → Prop}
    {Q : Option α → Scene → Prop}
    (hw : work.run.Succeeds (MotionPosition.Describes MotionDevice.motionModule) P v)
    (hQ : ∀ a v', P a v' → Q (some a) (.playing camera (some v'))) :
    (motionWork work).run.Succeeds (Scene.Tells o settings) Q (.playing camera (some v)) := by
  refine attains_motionWork hw ?_
  intro _ v' ⟨a, ok, h⟩
  subst ok
  exact ⟨some a, rfl, hQ a v' h⟩

end Work

/-- The demonstration's consumer keeps no frames. -/
theorem consumer_passing : consumer.Passing := ⟨fun _ => rfl, rfl⟩

end Sensing.Demo
