import Sensing.Proofs.Routing.Resolution

/-!
# When a resolution succeeds

Which route a request joins, and which source opens one for it, hangs on the requests before it.
Whether it is routed at all does not. A source that serves a request, be it found for the request or
in use already, is made of a registered format, one of its unpackers and an offered mode, and these
are there or not whatever was routed before (`StreamRequest.Servable`).

Main result: `resolve_separable`, a list of requests is routed exactly if each of them can be, and
the first that cannot is the one a failure names.
-/

namespace Sensing

namespace StreamRequest

/-- Some unpacker of a registered format serves the request, and some mode fits it. -/
def Servable (formats : List PixelFormat) (modes : List NativeMode) (r : StreamRequest) : Prop :=
  ∃ pf ∈ formats, ∃ u ∈ pf.unpackers, u.serves r = true ∧ ∃ m ∈ modes, m.fits pf r = true

instance (formats : List PixelFormat) (modes : List NativeMode) (r : StreamRequest) :
    Decidable (r.Servable formats modes) :=
  inferInstanceAs (Decidable (∃ pf ∈ formats, ∃ u ∈ pf.unpackers,
    u.serves r = true ∧ ∃ m ∈ modes, m.fits pf r = true))

variable {formats formats' : List PixelFormat} {modes modes' : List NativeMode} {r : StreamRequest}

/-- More formats and more modes serve no less. -/
theorem Servable.mono (h : r.Servable formats modes) (hformats : formats ⊆ formats')
    (hmodes : modes ⊆ modes') : r.Servable formats' modes' := by
  obtain ⟨pf, hpf, u, hu, serves, m, hm, fits⟩ := h
  exact ⟨pf, hformats hpf, u, hu, serves, m, hmodes hm, fits⟩

end StreamRequest

namespace Source

variable {formats : List PixelFormat} {modes : List NativeMode} {s : Source} {r : StreamRequest}

/-- Nothing is found just for what cannot be served. -/
theorem find?_eq_none_iff : find? formats modes r = none ↔ ¬ r.Servable formats modes := by
  simp only [find?, List.findSome?_eq_none_iff, StreamRequest.Servable]
  constructor
  · rintro none ⟨pf, hpf, u, hu, serves, m, hm, fits⟩
    obtain ⟨i, hi⟩ := List.getElem?_of_mem hpf
    obtain ⟨j, hj⟩ := List.getElem?_of_mem hu
    have none := none (pf, i) (List.mem_zipIdx_iff_getElem?.2 hi) (u, j)
      (List.mem_zipIdx_iff_getElem?.2 hj)
    rw [if_pos serves, Option.map_eq_none_iff, List.find?_eq_none] at none
    exact none m hm fits
  · rintro unservable ⟨pf, i⟩ hpf ⟨u, j⟩ hu
    rw [List.mem_zipIdx_iff_getElem?] at hpf hu
    split
    next serves =>
      rw [Option.map_eq_none_iff, List.find?_eq_none]
      intro m hm fits
      exact unservable ⟨pf, List.mem_of_getElem? hpf, u, List.mem_of_getElem? hu, serves, m, hm,
        fits⟩
    next => rfl

/-- What a listed source serves can be served. -/
theorem Listed.servable (h : s.Listed formats modes) (serves : s.serves r = true) :
    r.Servable formats modes := by
  obtain ⟨unpacker, fits⟩ := Bool.and_eq_true_iff.1 serves
  exact ⟨s.format, List.mem_of_getElem? h.format, s.unpacker, List.mem_of_getElem? h.unpacker,
    unpacker, s.mode, h.mode, fits⟩

end Source

namespace Route

variable {formats formats' : List PixelFormat} {modes modes' : List NativeMode}
  {done before after requests requests' : List StreamRequest} {routes : List Route}
  {r : StreamRequest}

/-- A request that cannot be served is served by no route there is, so it is refused, and one that
can is not, whether a route takes it in or not. -/
theorem Sound.add_eq_none_iff (h : Sound formats modes done routes) :
    Route.add formats modes routes r = none ↔ ¬ r.Servable formats modes := by
  unfold Route.add
  split
  next joined hjoined =>
    obtain ⟨earlier, route, later, rfl, -, serves, -⟩ := updateFirst_eq_some hjoined
    have servable := (h.listed route (by simp)).servable serves
    simp [servable]
  next => rw [Option.map_eq_none_iff, Source.find?_eq_none_iff]

/-- Requests that can be served are taken in, and those after them find a sound list of routes. -/
theorem Sound.resolveFrom_append (h : Sound formats modes done routes)
    (servable : ∀ b ∈ before, b.Servable formats modes) :
    ∃ routes', Sound formats modes (done ++ before) routes' ∧
      ∀ rest, Route.resolveFrom formats modes routes (before ++ rest) =
        Route.resolveFrom formats modes routes' rest := by
  induction before generalizing done routes with
  | nil =>
    rw [List.append_nil]
    exact ⟨routes, h, fun _ => rfl⟩
  | cons b bs ih =>
    cases hadd : Route.add formats modes routes b with
    | none => exact absurd (servable b (List.mem_cons_self ..)) (h.add_eq_none_iff.1 hadd)
    | some next =>
      obtain ⟨routes', sound, rest⟩ :=
        ih (h.add hadd) fun b' hb' => servable b' (List.mem_cons_of_mem _ hb')
      rw [List.append_assoc] at sound
      refine ⟨routes', sound, fun tail => ?_⟩
      rw [List.cons_append, Route.resolveFrom, hadd]
      exact rest tail

/-- Whether a list of requests is routed. -/
def Routable (requests : List StreamRequest) (formats : List PixelFormat)
    (modes : List NativeMode) : Prop :=
  ∃ routes, resolve requests formats modes = .ok routes

/-- Only a list without requests is routed in a way of its own. -/
theorem resolve_of_ne_nil (hne : requests ≠ []) :
    resolve requests formats modes = resolveFrom formats modes [] requests := by
  simp [resolve, hne]

/-- Where each request can be served, the list is routed. -/
theorem routable_of_servable (hne : requests ≠ [])
    (servable : ∀ r ∈ requests, r.Servable formats modes) : Routable requests formats modes := by
  obtain ⟨routes, -, rest⟩ := sound_nil.resolveFrom_append servable
  refine ⟨routes, ?_⟩
  rw [resolve_of_ne_nil hne, ← List.append_nil requests, rest]
  rfl

/-- Otherwise the first that cannot is named. -/
theorem resolve_of_unservable (servable : ∀ b ∈ before, b.Servable formats modes)
    (unservable : ¬ r.Servable formats modes) :
    resolve (before ++ r :: after) formats modes = .error (.profileNotFound r.text) := by
  obtain ⟨routes, sound, rest⟩ := sound_nil.resolveFrom_append servable
  rw [resolve_of_ne_nil (by simp), rest, resolveFrom, sound.add_eq_none_iff.2 unservable]

/-- Of a list either every request can be served or there is a first that cannot. -/
theorem servable_or_first (formats : List PixelFormat) (modes : List NativeMode)
    (requests : List StreamRequest) :
    (∀ r ∈ requests, r.Servable formats modes) ∨
      ∃ before r after, requests = before ++ r :: after ∧
        (∀ b ∈ before, b.Servable formats modes) ∧ ¬ r.Servable formats modes := by
  cases found : requests.find? fun r => ¬ r.Servable formats modes with
  | none => exact .inl (by simpa using found)
  | some r =>
    obtain ⟨unservable, before, after, rfl, servable⟩ := List.find?_eq_some_iff_append.1 found
    exact .inr ⟨before, r, after, rfl, by simpa using servable, by simpa using unservable⟩

/-- A list is routed just if each of its requests can be served, -/
theorem routable_iff (hne : requests ≠ []) :
    Routable requests formats modes ↔ ∀ r ∈ requests, r.Servable formats modes := by
  refine ⟨?_, routable_of_servable hne⟩
  rintro ⟨routes, hroutes⟩
  rcases servable_or_first formats modes requests with all | ⟨before, r, after, rfl, hb, hr⟩
  · exact all
  · rw [resolve_of_unservable hb hr] at hroutes
    cases hroutes

/-- and every failure is about the first that cannot. -/
theorem resolve_eq_error_iff (hne : requests ≠ []) {e : EndpointError} :
    resolve requests formats modes = .error e ↔
      ∃ before r after, requests = before ++ r :: after ∧
        (∀ b ∈ before, b.Servable formats modes) ∧ ¬ r.Servable formats modes ∧
          e = .profileNotFound r.text := by
  constructor
  · intro h
    rcases servable_or_first formats modes requests with all | ⟨before, r, after, rfl, hb, hr⟩
    · obtain ⟨routes, hroutes⟩ := routable_of_servable hne all
      rw [hroutes] at h
      cases h
    · rw [resolve_of_unservable hb hr] at h
      cases h
      exact ⟨before, r, after, rfl, hb, hr, rfl⟩
  · rintro ⟨before, r, after, rfl, hb, hr, rfl⟩
    exact resolve_of_unservable hb hr

/-- Each request of a list decides for itself whether it is routed. -/
structure Separable (requests : List StreamRequest) (formats : List PixelFormat)
    (modes : List NativeMode) : Prop where
  succeeds : Routable requests formats modes ↔ ∀ r ∈ requests, r.Servable formats modes
  /-- A failure is about the first request that cannot be served. -/
  fails : ∀ e, resolve requests formats modes = .error e ↔
    ∃ before r after, requests = before ++ r :: after ∧
      (∀ b ∈ before, b.Servable formats modes) ∧ ¬ r.Servable formats modes ∧
        e = .profileNotFound r.text
  /-- Neither the order of the requests nor their number matters. -/
  members : ∀ requests', (∀ r, r ∈ requests' ↔ r ∈ requests) →
    (Routable requests' formats modes ↔ Routable requests formats modes)
  concatenates : ∀ requests', requests' ≠ [] →
    (Routable (requests ++ requests') formats modes ↔
      Routable requests formats modes ∧ Routable requests' formats modes)
  /-- More formats and more modes, wherever they are put, take nothing away. -/
  grows : ∀ formats' modes', formats ⊆ formats' → modes ⊆ modes' →
    Routable requests formats modes → Routable requests formats' modes'

/-- A list of requests is routed exactly if each of them could be, on its own. -/
theorem resolve_separable (requests : List StreamRequest) (formats : List PixelFormat)
    (modes : List NativeMode) (hne : requests ≠ []) : Separable requests formats modes where
  succeeds := routable_iff hne
  fails _ := resolve_eq_error_iff hne
  members requests' same := by
    obtain ⟨r, hr⟩ := List.exists_mem_of_ne_nil _ hne
    have hne' : requests' ≠ [] := List.ne_nil_of_mem ((same r).2 hr)
    simp only [routable_iff hne, routable_iff hne', same]
  concatenates requests' hne' := by
    have both : requests ++ requests' ≠ [] := List.append_ne_nil_of_left_ne_nil hne _
    rw [routable_iff both, routable_iff hne, routable_iff hne', List.forall_mem_append]
  grows formats' modes' hformats hmodes routable := by
    rw [routable_iff hne] at routable ⊢
    exact fun r hr => (routable r hr).mono hformats hmodes

/-- The loose request joins the route of the one before it; the third, at a rate that no mode has,
fails the list, and is named although another bad request follows. -/
theorem color_at_a_wrong_rate_separable :
    let exact : StreamRequest := ⟨.color, 640, 480, 30, .yuyv⟩
    let loose : StreamRequest := ⟨.color, 0, 0, 0, .any⟩
    let wrong : StreamRequest := ⟨.color, 640, 480, 15, .any⟩
    let modes : List NativeMode := [⟨640, 480, 60, .yuy2⟩, ⟨640, 480, 30, .yuy2⟩]
    let requests := [exact, loose, wrong, { wrong with encoding := .rgb8 }]
    requests ≠ [] ∧ Separable requests [.z16, .yuy2] modes ∧
      resolve requests [.z16, .yuy2] modes =
        .error (.profileNotFound "Color 640x480 @15fps Any") := by
  intro exact loose wrong modes requests
  refine ⟨by decide, resolve_separable _ _ _ (by decide), ?_⟩
  have text : wrong.text = "Color 640x480 @15fps Any" := by decide +kernel
  have refused : resolve ([exact, loose] ++ wrong :: [{ wrong with encoding := .rgb8 }])
      [.z16, .yuy2] modes = .error (.profileNotFound wrong.text) :=
    resolve_of_unservable (by decide) (by decide)
  rwa [text] at refused

end Route

end Sensing
