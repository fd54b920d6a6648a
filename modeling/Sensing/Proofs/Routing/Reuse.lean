import Sensing.Proofs.Routing.Precedence

/-!
# Whether a request is routed to a mode in use

Every mode that a resolution picks is one more native stream for the device to produce, so a
request had better go to a mode that an earlier request goes to already. `Route.resolve` looks for
an earlier route that serves the request, but a route fixes more than its mode: it reads the mode
through one unpacker. A mode in use may suit the request while the unpacker it is read through does
not, and then the look-up that follows starts again from the first mode offered, as if none was in
use.

Main result: `resolve_reuses`. A request goes to a mode in use exactly if an earlier route serves it
or the first source for it happens to read such a mode. Where all unpackers of a code serve the
request if one of them does, the first is the case whenever a mode in use suits it.
`infrared_after_color_opens_anew` is the other case.
-/

namespace Sensing

/-- It does not matter to the request through which unpacker a code is read: if one serves it, all
of that code do. -/
def StreamRequest.Indifferent (formats : List PixelFormat) (r : StreamRequest) : Prop :=
  ∀ pf ∈ formats, ∀ u ∈ pf.unpackers, u.serves r = true →
    ∀ pf' ∈ formats, pf'.format = pf.format → ∀ u' ∈ pf'.unpackers, u'.serves r = true

instance (formats : List PixelFormat) (r : StreamRequest) : Decidable (r.Indifferent formats) :=
  inferInstanceAs (Decidable (∀ pf ∈ formats, ∀ u ∈ pf.unpackers, u.serves r = true →
    ∀ pf' ∈ formats, pf'.format = pf.format → ∀ u' ∈ pf'.unpackers, u'.serves r = true))

namespace Route

/-- The mode is one that some of the requests are routed to. -/
def Chosen (routes : List Route) (requests : List StreamRequest) (m : NativeMode) : Prop :=
  ∃ route ∈ routes, route.source.mode = m ∧ ∃ r ∈ requests, r ∈ route.requests

instance (routes : List Route) (requests : List StreamRequest) (m : NativeMode) :
    Decidable (Chosen routes requests m) :=
  inferInstanceAs (Decidable (∃ route ∈ routes, route.source.mode = m ∧
    ∃ r ∈ requests, r ∈ route.requests))

/-- If some mode chosen for the earlier requests can serve the request, through whatever unpacker of
a registered format, then it is routed to a mode chosen for them. -/
def PrefersChosen (formats : List PixelFormat) (routes : List Route)
    (earlier : List StreamRequest) (r : StreamRequest) : Prop :=
  ∀ m, Chosen routes earlier m → r.Servable formats [m] →
    ∀ route ∈ routes, r ∈ route.requests → Chosen routes earlier route.source.mode

variable {formats : List PixelFormat} {modes : List NativeMode}
  {requests before after : List StreamRequest} {routes : List Route} {route other : Route}
  {r b : StreamRequest}

/-- A request opened its route, or joined one that lists an earlier request. -/
theorem FirstWins.opened_or_joined (h : FirstWins (before ++ r :: after) formats modes routes)
    (hroute : route ∈ routes) (listed : r ∈ route.requests) :
    route.source.First formats modes r ∨ ∃ b ∈ before, b ∈ route.requests := by
  obtain ⟨opening, head, first⟩ := h.opened route hroute
  by_cases earlier : opening ∈ before
  · exact .inr ⟨opening, earlier, List.mem_of_head? head⟩
  · by_cases taken : r ∈ before
    · exact .inr ⟨r, taken, listed⟩
    · -- Neither was made before, and the one that opened is not the later.
      have noLater := h.head_le hroute head listed
      rw [List.idxOf_append_of_notMem earlier, List.idxOf_append_of_notMem taken,
        List.idxOf_cons_self] at noLater
      have same : (r :: after).idxOf opening = (r :: after).idxOf r := by
        rw [List.idxOf_cons_self]
        omega
      have asked : r ∈ r :: after := List.mem_cons_self ..
      rw [(List.idxOf_inj asked).1 same.symm]
      exact .inl first

/-- If a route that lists an earlier request serves this one, so does the route it is listed in,
which lists an earlier request as well. -/
theorem FirstWins.joined_of_serves (h : FirstWins (before ++ r :: after) formats modes routes)
    (hroute : route ∈ routes) (listed : r ∈ route.requests) (hother : other ∈ routes)
    (hb : b ∈ before) (listed' : b ∈ other.requests) (serves : other.source.serves r = true) :
    ∃ b ∈ before, b ∈ route.requests := by
  have asked : r ∈ before ++ r :: after := by simp
  obtain ⟨i, hi⟩ := List.getElem?_of_mem hroute
  obtain ⟨k, hk⟩ := List.getElem?_of_mem hother
  obtain ⟨-, unserved⟩ := (h.earliest r asked i route hi).1 listed
  -- By which of the two routes was opened first.
  rcases Nat.lt_trichotomy k i with less | rfl | more
  · rw [unserved k less other hk] at serves
    cases serves
  · obtain rfl := Option.some.inj (hi.symm.trans hk)
    exact ⟨b, hb, listed'⟩
  · -- The route was opened before the other, so by an earlier request.
    obtain ⟨opening, head, -⟩ := h.opened route hroute
    obtain ⟨opening', head', -⟩ := h.opened other hother
    obtain ⟨boundi, rfl⟩ := List.getElem?_eq_some_iff.1 hi
    obtain ⟨boundk, rfl⟩ := List.getElem?_eq_some_iff.1 hk
    have order := List.pairwise_iff_getElem.1 h.order i k boundi boundk more _ head _ head'
    have noLater := h.head_le hother head' listed'
    rw [List.idxOf_append_of_mem hb] at noLater
    have bound := List.idxOf_lt_length_iff.2 hb
    refine ⟨opening, ?_, List.mem_of_head? head⟩
    by_contra later
    rw [List.idxOf_append_of_notMem later] at order
    omega

/-- A mode in use that suits an indifferent request is read in a way that serves it. -/
theorem FirstWins.serves_of_indifferent (h : FirstWins requests formats modes routes)
    (hroute : route ∈ routes) (indifferent : r.Indifferent formats)
    (suits : r.Servable formats [route.source.mode]) : route.source.serves r = true := by
  obtain ⟨pf, hpf, u, hu, serves, m, hm, fits⟩ := suits
  obtain rfl := List.mem_singleton.1 hm
  obtain ⟨code, sizes⟩ := NativeMode.fits_iff.1 fits
  obtain ⟨opening, -, servesOpening, p, hp, -⟩ := h.opened route hroute
  obtain ⟨hformat, hunpacker, -⟩ := Source.at?_eq_some hp
  obtain ⟨-, fitsOpening⟩ := Bool.and_eq_true_iff.1 servesOpening
  obtain ⟨code', -⟩ := NativeMode.fits_iff.1 fitsOpening
  refine Bool.and_eq_true_iff.2 ⟨?_, NativeMode.fits_iff.2 ⟨code', sizes⟩⟩
  exact indifferent pf hpf u hu serves _ (List.mem_of_getElem? hformat) (code'.symm.trans code)
    _ (List.mem_of_getElem? hunpacker)

/-- How a resolution goes about modes in use. -/
structure Reuses (requests : List StreamRequest) (formats : List PixelFormat)
    (modes : List NativeMode) (routes : List Route) : Prop where
  /-- A request goes to a mode chosen before if a route opened before serves it, or else if the
  first source of all that serve it reads such a mode. -/
  rule : ∀ before r after, requests = before ++ r :: after →
    ∀ route ∈ routes, r ∈ route.requests →
      (Chosen routes before route.source.mode ↔
        (∃ other ∈ routes, other.source.serves r = true ∧ ∃ b ∈ before, b ∈ other.requests) ∨
          ∃ s : Source, s.First formats modes r ∧ Chosen routes before s.mode)
  /-- A request that does not mind the unpacker goes to a mode chosen before if there is one that
  can serve it. -/
  prefers : ∀ before r after, requests = before ++ r :: after → r.Indifferent formats →
    PrefersChosen formats routes before r

/-- A request goes to a mode chosen before just where a route that lists an earlier request serves
it, or the first source for it reads such a mode. -/
theorem FirstWins.chosen_iff (h : FirstWins (before ++ r :: after) formats modes routes)
    (hroute : route ∈ routes) (listed : r ∈ route.requests) :
    Chosen routes before route.source.mode ↔
      (∃ other ∈ routes, other.source.serves r = true ∧ ∃ b ∈ before, b ∈ other.requests) ∨
        ∃ s : Source, s.First formats modes r ∧ Chosen routes before s.mode := by
  have asked : r ∈ before ++ r :: after := by simp
  obtain ⟨i, hi⟩ := List.getElem?_of_mem hroute
  constructor
  · intro chosen
    rcases h.opened_or_joined hroute listed with first | joined
    · exact .inr ⟨route.source, first, chosen⟩
    · exact .inl ⟨route, hroute, ((h.earliest r asked i route hi).1 listed).1, joined⟩
  · rintro (⟨other, hother, serves, b, hb, listed'⟩ | ⟨s, first, chosen⟩)
    · exact ⟨route, hroute, rfl, h.joined_of_serves hroute listed hother hb listed' serves⟩
    · rcases h.opened_or_joined hroute listed with first' | joined
      · rwa [first'.unique first]
      · exact ⟨route, hroute, rfl, joined⟩

/-- A request goes to a mode in use if a route in use serves it, which is so whenever a mode in use
suits it and the unpacker does not matter. -/
theorem resolve_reuses (h : resolve requests formats modes = .ok routes) :
    Reuses requests formats modes routes := by
  obtain ⟨sound, timely⟩ := sound_timely_of_resolve h
  have wins := timely.firstWins sound
  refine ⟨?_, ?_⟩
  · rintro before r after rfl route hroute listed
    exact wins.chosen_iff hroute listed
  · rintro before r after rfl indifferent m ⟨other, hother, rfl, b, hb, listed'⟩ suits route hroute
      listed
    have serves := wins.serves_of_indifferent hother indifferent suits
    exact (wins.chosen_iff hroute listed).2 (.inl ⟨other, hother, serves, b, hb, listed'⟩)

/-- One code is registered twice, and read through two unpackers. Infrared follows color to the mode
of 60 frames a second, which is not the first that suits it, and depth, which no mode in use suits,
goes to a mode of its own. -/
theorem infrared_beside_color_reuses :
    let first : PixelFormat := ⟨.yuy2, 1, 2,
      [⟨false, .split, [(.color, .yuyv), (.infrared, .y8)]⟩, ⟨false, .copy, [(.infrared, .y8)]⟩]⟩
    let second : PixelFormat := ⟨.yuy2, 1, 2, [⟨false, .copy, [(.infrared, .y8)]⟩]⟩
    let color : StreamRequest := ⟨.color, 0, 0, 60, .yuyv⟩
    let infrared : StreamRequest := ⟨.infrared, 0, 0, 0, .any⟩
    let depth : StreamRequest := ⟨.depth, 0, 0, 0, .any⟩
    let modes : List NativeMode :=
      [⟨640, 480, 30, .yuy2⟩, ⟨640, 480, 60, .yuy2⟩, ⟨64, 48, 30, .z16⟩]
    infrared.Indifferent [first, second, .z16] ∧
      ∃ routes, resolve [color, infrared, depth] [first, second, .z16] modes = .ok routes ∧
        routes.map (fun route => (route.source.mode, route.requests)) =
          [(⟨640, 480, 60, .yuy2⟩, [color, infrared]), (⟨64, 48, 30, .z16⟩, [depth])] ∧
        Chosen routes [color] ⟨640, 480, 60, .yuy2⟩ ∧
        infrared.Servable [first, second, .z16] [⟨640, 480, 60, .yuy2⟩] ∧
        Reuses [color, infrared, depth] [first, second, .z16] modes routes :=
  ⟨by decide, _, rfl, rfl, by decide, by decide, resolve_reuses rfl⟩

/-- Color and infrared are read through an unpacker each, and color was routed to the mode of 60
frames a second. That mode would do for infrared too, but infrared gets the one offered first. -/
theorem infrared_after_color_opens_anew :
    let format : PixelFormat := ⟨.yuy2, 1, 2,
      [⟨false, .copy, [(.color, .yuyv)]⟩, ⟨false, .copy, [(.infrared, .y8)]⟩]⟩
    let color : StreamRequest := ⟨.color, 4, 2, 60, .yuyv⟩
    let infrared : StreamRequest := ⟨.infrared, 0, 0, 0, .any⟩
    let modes : List NativeMode := [⟨4, 2, 30, .yuy2⟩, ⟨4, 2, 60, .yuy2⟩]
    ∃ routes, resolve [color, infrared] [format] modes = .ok routes ∧
      ¬ PrefersChosen [format] routes [color] infrared := by
  intro format color infrared modes
  refine ⟨[⟨⟨⟨4, 2, 60, .yuy2⟩, 0, format, 0⟩, [color]⟩,
    ⟨⟨⟨4, 2, 30, .yuy2⟩, 0, format, 1⟩, [infrared]⟩], rfl, fun prefers => ?_⟩
  have chosen := prefers ⟨4, 2, 60, .yuy2⟩ (by decide) (by decide)
    ⟨⟨⟨4, 2, 30, .yuy2⟩, 0, format, 1⟩, [infrared]⟩ (by simp) (by simp)
  exact absurd chosen (by decide)

end Route

end Sensing
