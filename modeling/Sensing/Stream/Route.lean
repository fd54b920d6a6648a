import Sensing.Error
import Sensing.Stream.PixelFormat

/-!
# Routing requests to native modes

A *source* is one native mode read through one unpacker of one registered pixel format; a *route*
is a source with the requests it serves. `Route.resolve` routes a list of requests, in order:

* a request joins the first route that already serves it, unless the route lists it;
* otherwise it opens a route from the first source that serves it, in the order of registered
  formats, their unpackers and the device's modes;
* a request that no source serves fails the whole list.

A pixel format is identified by its place in the registered list, not by its contents: two
registered formats may be alike.
-/

namespace Sensing

/-- A native mode read through one unpacker of a registered pixel format. -/
structure Source where
  mode : NativeMode
  /-- The pixel format's place among the registered ones. -/
  formatIndex : Nat
  format : PixelFormat
  /-- The unpacker's place within the pixel format. -/
  unpackerIndex : Nat

namespace Source

/-- The source's unpacker; a place outside the format's list stands for one without outputs. -/
def unpacker (s : Source) : Unpacker := s.format.unpackers[s.unpackerIndex]?.getD .silent

/-- Whether frames of the source are what a request asks for. -/
def serves (s : Source) (r : StreamRequest) : Bool :=
  s.unpacker.serves r && s.mode.fits s.format r

/-- Whether two sources read the same mode through the same unpacker of the same format. -/
def same (s t : Source) : Bool :=
  s.mode = t.mode && s.formatIndex = t.formatIndex && s.unpackerIndex = t.unpackerIndex

/-- The bytes of a raw image. -/
def imageSize (s : Source) : Nat := s.format.imageSize s.mode.width s.mode.height

/-- The bytes of a frame in an encoding, which are those of the raw data where a pixel has no
fixed size, and may otherwise be more than a word of 64 bits can count. -/
def outputSize (s : Source) (e : Encoding) (rawLength : Nat) : Nat :=
  if e.bytesPerPixel = 0 then rawLength
  else e.bytesPerPixel * s.mode.width.toNat * s.mode.height.toNat

/-- The first source that serves a request. -/
def find? (formats : List PixelFormat) (modes : List NativeMode) (r : StreamRequest) :
    Option Source :=
  formats.zipIdx.findSome? fun (pf, i) =>
    pf.unpackers.zipIdx.findSome? fun (u, j) =>
      if u.serves r then (modes.find? fun m => m.fits pf r).map fun m => ⟨m, i, pf, j⟩ else none

end Source

/-- A source and the requests it serves, in order. -/
structure Route where
  source : Source
  requests : List StreamRequest

namespace Route

/-- The route with one more request, unless it lists it already. -/
def join (r : StreamRequest) (route : Route) : Route :=
  if r ∈ route.requests then route else { route with requests := route.requests ++ [r] }

/-- Changes the first route of a kind; `none` if there is none. -/
def updateFirst (p : Route → Bool) (f : Route → Route) : List Route → Option (List Route)
  | [] => none
  | route :: routes =>
    if p route then some (f route :: routes) else (updateFirst p f routes).map (route :: ·)

/-- Routes one more request; `none` if nothing serves it. -/
def add (formats : List PixelFormat) (modes : List NativeMode) (routes : List Route)
    (r : StreamRequest) : Option (List Route) :=
  match updateFirst (fun route => route.source.serves r) (join r) routes with
  | some routes => some routes
  | none =>
    (Source.find? formats modes r).map fun s =>
      let extend (route : Route) : Route := { route with requests := route.requests ++ [r] }
      (updateFirst (fun route => route.source.same s) extend routes).getD (routes ++ [⟨s, [r]⟩])

/-- Routes the requests one after another, after those routed before. -/
def resolveFrom (formats : List PixelFormat) (modes : List NativeMode) :
    List Route → List StreamRequest → Except EndpointError (List Route)
  | routes, [] => .ok routes
  | routes, r :: rs =>
    match add formats modes routes r with
    | none => .error (.profileNotFound r.text)
    | some routes => resolveFrom formats modes routes rs

/-- Routes a list of requests, which must not be empty. -/
def resolve (requests : List StreamRequest) (formats : List PixelFormat)
    (modes : List NativeMode) : Except EndpointError (List Route) :=
  if requests.isEmpty then .error (.invalidArgument "no streams requested")
  else resolveFrom formats modes [] requests

end Route

end Sensing
