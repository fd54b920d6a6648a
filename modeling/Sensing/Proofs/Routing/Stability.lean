import Mathlib.Data.List.Induction
import Mathlib.Data.List.Nodup
import Sensing.Endpoint.Core
import Sensing.Proofs.Routing.Precedence

/-!
# Resolving again, and resolving more

What `Route.resolve` returns hangs on the order of the requests, and the order in which the finished
routes list them is another one: a request that joins an early route is listed before those that
opened the later ones, although it was made after them. Resolving the routes' own lists comes to the
same routes all the same. Of the order in which requests are made, `FirstWins` asks for two things:
how those in one route follow each other, and how those that open a route do. Both orders are kept,
since the routes' own lists, one after another, contain either as a sublist.

More requests, and more formats behind those registered, disturb nothing that is there. Routes only
ever take in requests at their ends and have others opened after them (`Outgrown`), a request that
is listed already is where the first look-up ends, and what a look-up finds among the first formats
it finds among all.

Main results: `resolve_idempotent` and `resolve_stable`.
-/

namespace Sensing

/-- Values that occur once are kept as they are. -/
theorem distinct_of_nodup {α : Type} [DecidableEq α] {as : List α} (h : as.Nodup) :
    distinct as = as := by
  induction as using List.reverseRecOn with
  | nil => rfl
  | append_singleton as a ih =>
    obtain ⟨old, -, apart⟩ := List.nodup_append.1 h
    have fresh : a ∉ as := fun ha => apart a ha a (List.mem_singleton_self a) rfl
    rw [distinct_concat, ih old, if_neg fresh]

namespace Route

variable {formats more : List PixelFormat} {modes : List NativeMode}
  {done requests xs ys : List StreamRequest} {routes routes' routes'' : List Route} {route : Route}
  {r : StreamRequest}

/-! ## The routes' own requests -/

/-- The requests that open the routes are listed in the order of the routes. -/
theorem heads_sublist (routes : List Route) :
    (routes.filterMap (·.requests.head?)).Sublist (routes.flatMap (·.requests)) := by
  induction routes with
  | nil => exact .slnil
  | cons route routes ih =>
    rw [List.filterMap_cons, List.flatMap_cons]
    cases head : route.requests.head? with
    | none => exact ih.trans (List.sublist_append_right _ _)
    | some r =>
      have opening : [r].Sublist route.requests :=
        List.singleton_sublist.2 (List.mem_of_head? head)
      exact opening.append ih

/-- The requests of one route stand in a row among those of all. -/
theorem requests_sublist (hroute : route ∈ routes) :
    route.requests.Sublist (routes.flatMap (·.requests)) := by
  obtain ⟨before, after, rfl⟩ := List.append_of_mem hroute
  rw [List.flatMap_append, List.flatMap_cons]
  exact (List.sublist_append_left _ _).trans (List.sublist_append_right _ _)

/-- Routes are as sound for the requests they list as for those they were made for. -/
theorem Sound.own (h : Sound formats modes done routes) :
    Sound formats modes (routes.flatMap (·.requests)) routes :=
  { h with all := fun _ => Iff.rfl }

/-- Nor do the requests come in another order in the routes' own lists. -/
theorem Timely.own (h : Timely formats modes done routes)
    (sound : Sound formats modes done routes) :
    Timely formats modes (routes.flatMap (·.requests)) routes where
  opened := h.opened
  within route hroute := by
    rw [distinct_of_nodup sound.nodup]
    exact requests_sublist hroute
  order := by
    rw [distinct_of_nodup sound.nodup]
    exact heads_sublist routes

/-- What is routed has a request. -/
theorem ne_nil_of_resolve (h : resolve requests formats modes = .ok routes) : requests ≠ [] := by
  rintro rfl
  cases h

/-- So have the routes. -/
theorem flatMap_requests_ne_nil (hne : requests ≠ [])
    (sound : Sound formats modes requests routes) :
    routes.flatMap (·.requests) ≠ [] := by
  obtain ⟨r, hr⟩ := List.exists_mem_of_ne_nil _ hne
  exact List.ne_nil_of_mem ((sound.all r).2 hr)

/-- Resolving the requests as the routes list them comes to the same routes. -/
theorem resolve_idempotent (h : resolve requests formats modes = .ok routes) :
    resolve (routes.flatMap (·.requests)) formats modes = .ok routes := by
  have hne := ne_nil_of_resolve h
  rw [resolve_of_ne_nil hne] at h
  have sound : Sound formats modes requests routes := sound_nil.resolveFrom h
  have timely : Timely formats modes requests routes := timely_nil.resolveFrom sound_nil h
  refine (resolve_eq_ok_iff (flatMap_requests_ne_nil hne sound)).2 ?_
  exact (timely.own sound).firstWins sound.own

/-- Infrared is asked for between two requests that share a route for color, and twice, so the
routes list the requests in another order, and one of them less. -/
theorem infrared_amid_color_idempotent :
    let exact : StreamRequest := ⟨.color, 640, 480, 30, .yuyv⟩
    let loose : StreamRequest := ⟨.color, 0, 0, 0, .any⟩
    let infrared : StreamRequest := ⟨.infrared, 0, 0, 0, .any⟩
    let modes : List NativeMode :=
      [⟨640, 480, 60, .yuy2⟩, ⟨640, 480, 30, .yuy2⟩, ⟨64, 48, 30, .grey⟩]
    let requests := [exact, infrared, loose, infrared]
    ∃ routes, resolve requests [.yuy2, .y8] modes = .ok routes ∧
      routes.flatMap (·.requests) = [exact, loose, infrared] ∧
      resolve (routes.flatMap (·.requests)) [.yuy2, .y8] modes = .ok routes := by
  intro exact loose infrared modes requests
  obtain ⟨routes, resolved, reordered⟩ : ∃ routes,
      resolve requests [.yuy2, .y8] modes = .ok routes ∧
        routes.flatMap (·.requests) = [exact, loose, infrared] := ⟨_, rfl, rfl⟩
  exact ⟨routes, resolved, reordered, resolve_idempotent resolved⟩

/-! ## More requests -/

/-- The routes may have taken in more requests, at their ends, and others may have been opened after
them. -/
def Outgrown (routes routes' : List Route) : Prop :=
  ∀ (i : Nat) (route : Route), routes[i]? = some route → ∃ route' : Route,
    routes'[i]? = some route' ∧ route'.source = route.source ∧ route.requests <+: route'.requests

theorem Outgrown.refl (routes : List Route) : Outgrown routes routes :=
  fun _ route hi => ⟨route, hi, rfl, List.prefix_refl _⟩

/-- Routes that outgrow others that outgrew the first have outgrown those. -/
theorem Outgrown.trans (h : Outgrown routes routes') (h' : Outgrown routes' routes'') :
    Outgrown routes routes'' := by
  intro i route hi
  obtain ⟨route', hi', source, requests⟩ := h i route hi
  obtain ⟨route'', hi'', source', requests'⟩ := h' i route' hi'
  exact ⟨route'', hi'', source'.trans source, requests.trans requests'⟩

/-- No route is lost. -/
theorem Outgrown.length_le (h : Outgrown routes routes') : routes.length ≤ routes'.length := by
  by_contra shorter
  have inside : routes'.length < routes.length := Nat.lt_of_not_le shorter
  obtain ⟨_, there, -⟩ := h routes'.length _ (List.getElem?_eq_getElem inside)
  rw [List.getElem?_eq_none (Nat.le_refl _)] at there
  cases there

/-- Routes that are opened behind leave the others as they are. -/
theorem outgrown_append (routes opened : List Route) : Outgrown routes (routes ++ opened) := by
  intro i route hi
  obtain ⟨bound, -⟩ := List.getElem?_eq_some_iff.1 hi
  exact ⟨route, by rw [List.getElem?_append_left bound, hi], rfl, List.prefix_refl _⟩

/-- One route that takes in requests at its end leaves the others as they are. -/
theorem outgrown_updateFirst {p : Route → Bool} {f : Route → Route}
    (source : ∀ route, (f route).source = route.source)
    (requests : ∀ route, route.requests <+: (f route).requests)
    (h : updateFirst p f routes = some routes') : Outgrown routes routes' := by
  obtain ⟨before, changed, after, rfl, -, -, rfl⟩ := updateFirst_eq_some h
  intro i route hi
  rcases Nat.lt_trichotomy i before.length with less | rfl | more
  · rw [List.getElem?_append_left less] at hi ⊢
    exact ⟨route, hi, rfl, List.prefix_refl _⟩
  · rw [List.getElem?_append_right (Nat.le_refl _), Nat.sub_self] at hi ⊢
    obtain rfl : changed = route := Option.some.inj hi
    exact ⟨f changed, rfl, source changed, requests changed⟩
  · obtain ⟨k, rfl⟩ : ∃ k, i = before.length + (k + 1) := ⟨i - before.length - 1, by omega⟩
    rw [List.getElem?_append_right (Nat.le_add_right _ _), Nat.add_sub_cancel_left] at hi ⊢
    exact ⟨route, hi, rfl, List.prefix_refl _⟩

/-- Taking in one more request. -/
theorem outgrown_add (hadd : add formats modes routes r = some routes') :
    Outgrown routes routes' := by
  unfold add at hadd
  split at hadd
  next hjoined =>
    -- A request that joins is put at the end of its route, or is there already.
    cases hadd
    refine outgrown_updateFirst ?_ ?_ hjoined
    · intro route
      unfold join
      split <;> rfl
    · intro route
      unfold join
      split
      next => exact List.prefix_refl _
      next => exact List.prefix_append _ _
  next =>
    obtain ⟨s, -, rfl⟩ := Option.map_eq_some_iff.1 hadd
    dsimp only
    cases same : updateFirst (fun route => route.source.same s)
      (fun route => { route with requests := route.requests ++ [r] }) routes with
    | some joined =>
      refine outgrown_updateFirst ?_ ?_ same
      · exact fun _ => rfl
      · exact fun _ => List.prefix_append _ _
    | none => exact outgrown_append routes _

/-- Taking in a list of requests. -/
theorem outgrown_resolveFrom (h : resolveFrom formats modes routes requests = .ok routes') :
    Outgrown routes routes' := by
  induction requests generalizing routes with
  | nil =>
    obtain rfl : routes = routes' := Except.ok.inj h
    exact Outgrown.refl routes
  | cons r rs ih =>
    unfold resolveFrom at h
    split at h
    next => cases h
    next next hadd => exact (outgrown_add hadd).trans (ih h)

/-- Requests are taken in one list after another. -/
theorem resolveFrom_append_ok (h : resolveFrom formats modes routes (xs ++ ys) = .ok routes'') :
    ∃ routes', resolveFrom formats modes routes xs = .ok routes' ∧
      resolveFrom formats modes routes' ys = .ok routes'' := by
  induction xs generalizing routes with
  | nil => exact ⟨routes, rfl, h⟩
  | cons x xs ih =>
    rw [List.cons_append, resolveFrom] at h
    rw [resolveFrom]
    split at h
    next => cases h
    next next hadd => exact ih h

/-- A request that was taken in before changes nothing. -/
theorem Sound.add_of_mem (h : Sound formats modes done routes) (hr : r ∈ done) :
    Route.add formats modes routes r = some routes := by
  unfold Route.add
  split
  next hjoined =>
    obtain ⟨before, route, after, rfl, earlier, serves, rfl⟩ := updateFirst_eq_some hjoined
    rw [Route.join, if_pos (h.mem_of_serves earlier serves hr)]
  next hnone => exact absurd hr (h.notMem_of_unserved (updateFirst_eq_none.1 hnone))

/-- So do any number of requests that were taken in before. -/
theorem Sound.resolveFrom_of_subset (h : Sound formats modes done routes) (hys : ys ⊆ done) :
    Route.resolveFrom formats modes routes ys = .ok routes := by
  induction ys with
  | nil => rfl
  | cons y ys ih =>
    obtain ⟨hy, hys⟩ := List.cons_subset.1 hys
    rw [Route.resolveFrom, h.add_of_mem hy]
    exact ih hys

/-! ## More formats -/

/-- Of formats registered later, none gets in front of one that serves the request. -/
theorem find?_append_formats {s : Source} (h : Source.find? formats modes r = some s) :
    Source.find? (formats ++ more) modes r = some s := by
  unfold Source.find? at h ⊢
  rw [List.zipIdx_append, List.findSome?_append, h]
  rfl

/-- A request is taken in as it was, whatever is registered later, -/
theorem add_append_formats (h : add formats modes routes r = some routes') :
    add (formats ++ more) modes routes r = some routes' := by
  unfold add at h ⊢
  split at h
  next => exact h
  next =>
    obtain ⟨s, found, rfl⟩ := Option.map_eq_some_iff.1 h
    rw [find?_append_formats found]
    rfl

/-- and so is a list of them. -/
theorem resolveFrom_append_formats (h : resolveFrom formats modes routes requests = .ok routes') :
    resolveFrom (formats ++ more) modes routes requests = .ok routes' := by
  induction requests generalizing routes with
  | nil => exact h
  | cons r rs ih =>
    unfold resolveFrom at h ⊢
    split at h
    next => cases h
    next next hadd =>
      rw [add_append_formats hadd]
      exact ih h

/-- Formats that are registered come behind those that are there. -/
theorem formats_registerAll (more : List PixelFormat) (c : Core) :
    (more.foldl (fun c pf => c.registerFormat pf) c).formats = c.formats ++ more := by
  induction more generalizing c with
  | nil => exact (List.append_nil _).symm
  | cons pf more ih =>
    rw [List.foldl_cons, ih, Core.registerFormat, List.append_assoc]
    rfl

/-! ## The whole -/

/-- What more requests and more formats leave as it is. -/
structure Stable (xs ys : List StreamRequest) (c : Core) (modes : List NativeMode)
    (routes' : List Route) : Prop where
  /-- The first requests are routed without the others, and as they are with them: in the same
  places the same sources list the same requests, before any others. -/
  resolves : ∃ routes, resolve xs c.formats modes = .ok routes ∧
    routes.length ≤ routes'.length ∧
    ∀ (i : Nat) (route : Route), routes[i]? = some route → ∃ route' : Route,
      routes'[i]? = some route' ∧ route'.source = route.source ∧
        route.requests <+: route'.requests
  /-- Requests made before add nothing. -/
  repeated : (∀ y ∈ ys, y ∈ xs) → resolve xs c.formats modes = .ok routes'
  /-- Nor does it matter which formats are registered afterwards. -/
  registered : ∀ more : List PixelFormat,
    resolve (xs ++ ys) (more.foldl (fun c pf => c.registerFormat pf) c).formats modes = .ok routes'

/-- Routes stand for the first requests as for all of them, and formats registered later do not
change them. -/
theorem resolve_stable {c : Core} (hne : xs ≠ [])
    (h : resolve (xs ++ ys) c.formats modes = .ok routes') : Stable xs ys c modes routes' := by
  have hne' : xs ++ ys ≠ [] := List.append_ne_nil_of_left_ne_nil hne ys
  rw [resolve_of_ne_nil hne'] at h
  obtain ⟨routes, first, rest⟩ := resolveFrom_append_ok h
  have resolved : resolve xs c.formats modes = .ok routes := by rw [resolve_of_ne_nil hne, first]
  refine ⟨?_, ?_, ?_⟩
  · have outgrown := outgrown_resolveFrom rest
    exact ⟨routes, resolved, outgrown.length_le, outgrown⟩
  · intro hys
    have sound : Sound c.formats modes xs routes := sound_nil.resolveFrom first
    rw [sound.resolveFrom_of_subset hys] at rest
    rw [resolved, ← rest]
  · intro more
    rw [resolve_of_ne_nil hne', formats_registerAll]
    exact resolveFrom_append_formats h

/-- The two later requests join the route for color and open one behind it. A format that would read
infrared from the first mode comes too late. -/
theorem infrared_after_color_stable :
    let color : StreamRequest := ⟨.color, 640, 480, 30, .yuyv⟩
    let loose : StreamRequest := ⟨.color, 0, 0, 0, .any⟩
    let infrared : StreamRequest := ⟨.infrared, 0, 0, 0, .any⟩
    let modes : List NativeMode := [⟨640, 480, 30, .yuy2⟩, ⟨64, 48, 30, .grey⟩]
    let core := ((Core.create 4 4).registerFormat .yuy2).registerFormat .y8
    ∃ routes', resolve ([color] ++ [loose, infrared]) core.formats modes = .ok routes' ∧
      routes'.map (·.requests) = [[color, loose], [infrared]] ∧
      Stable [color] [loose, infrared] core modes routes' :=
  ⟨_, rfl, rfl, resolve_stable (List.cons_ne_nil _ _) rfl⟩

end Route

end Sensing
