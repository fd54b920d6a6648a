import Sensing.Text.Integer

/-!
# Options of the demonstration

The command line of the demonstration, read from left to right: the first fault ends it, and so does
a request for help or for the version that comes before any fault. An option's value follows it as
the next argument or after an equals sign; no option may occur twice.
-/

namespace Sensing.Demo

/-- What the command line asks for. -/
structure Options where
  seconds : Nat := 3
  width : UInt32 := 640
  height : UInt32 := 480
  fps : UInt32 := 30
  withoutMotion : Bool := false
  deriving DecidableEq, Repr

/-- Why there is nothing to run. -/
inductive Refusal where
  /-- The command line is not understood. -/
  | misuse
  /-- Help or the version was asked for. -/
  | information
  deriving DecidableEq, Repr

/-- An option with a value. -/
inductive Valued where
  | seconds
  | width
  | height
  | fps
  deriving DecidableEq, Repr

namespace Valued

def ofName? : List Char → Option Valued
  | ['s', 'e', 'c', 'o', 'n', 'd', 's'] => some .seconds
  | ['w', 'i', 'd', 't', 'h'] => some .width
  | ['h', 'e', 'i', 'g', 'h', 't'] => some .height
  | ['f', 'p', 's'] => some .fps
  | _ => none

/-- A 32-bit word, which may be written with a sign as long as it is not negative. -/
def word? (cs : List Char) : Option UInt32 := do
  let n ← Text.IntegerRange.signed64.read? cs
  let n ← Text.IntegerRange.unsigned32.fit? n
  return UInt32.ofNat n.toNat

/-- The options with the value of one of them set. -/
def set? (v : Valued) (value : List Char) (o : Options) : Option Options :=
  match v with
  | .seconds =>
    (Text.IntegerRange.unsigned64.read? value).map fun n => { o with seconds := n.toNat }
  | .width => (word? value).map fun n => { o with width := n }
  | .height => (word? value).map fun n => { o with height := n }
  | .fps => (word? value).map fun n => { o with fps := n }

end Valued

/-- The options read so far, which of them occurred, and the one whose value comes next. -/
structure Progress where
  options : Options := {}
  seen : List Valued := []
  pending : Option Valued := none
  /-- Whether only positional arguments may follow. -/
  closed : Bool := false

namespace Progress

/-- Gives an option its value. -/
def assign (p : Progress) (v : Valued) (value : List Char) : Except Refusal Progress :=
  if v ∈ p.seen then .error .misuse
  else
    match v.set? value p.options with
    | none => .error .misuse
    | some options => .ok { p with options, seen := v :: p.seen, pending := none }

/-- Takes in an argument that starts with two hyphens, which are left out here. -/
def long (p : Progress) (name : List Char) : Except Refusal Progress :=
  if p.pending.isSome then .error .misuse
  else if name = "help".toList ∨ name = "version".toList then .error .information
  else if name = "no-hid".toList then
    if p.options.withoutMotion then .error .misuse
    else .ok { p with options := { p.options with withoutMotion := true } }
  else
    let key := name.takeWhile (· ≠ '=')
    match Valued.ofName? key, name.drop key.length with
    | some v, [] => .ok { p with pending := some v }
    | some v, _ :: value => p.assign v value
    | none, _ => .error .misuse

/-- Takes in an argument of letters after a single hyphen, which is left out here. -/
def short (p : Progress) (letters : List Char) : Except Refusal Progress :=
  if p.pending.isSome then .error .misuse
  else
    match letters with
    | 'h' :: _ | 'V' :: _ => .error .information
    | _ => .error .misuse

/-- Takes in an argument. -/
def take (p : Progress) (arg : List Char) : Except Refusal Progress :=
  if p.closed then .error .misuse
  else
    match arg with
    | ['-', '-'] => .ok { p with closed := true }
    | '-' :: '-' :: name => p.long name
    | '-' :: c :: letters => p.short (c :: letters)
    | value =>
      match p.pending with
      | some v => p.assign v value
      | none => .error .misuse

end Progress

/-- Reads a command line. -/
def Options.read (args : List String) : Except Refusal Options := do
  let p ← args.foldlM (fun p arg => Progress.take p arg.toList) ({} : Progress)
  if p.pending.isSome then .error .misuse else return p.options

end Sensing.Demo
