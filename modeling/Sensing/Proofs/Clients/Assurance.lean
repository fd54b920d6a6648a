import Sensing.Proofs.Clients.Rules

/-!
# What a client does in full

`Procedure.Follows` says of each step of a client that it is allowed, and forgets it. Where the
steps themselves are the point, they are kept: the *deeds* of a client are its steps, each with the
state that it found and the state that it left. Between two of them others may act, and `finds` says
what a client that has done its deeds and left a state can find there next.

`Procedure.Assures` says what holds of every state that the client finds while it is at work, and of
its deeds and its answer in the end. It is computed from the front of the procedure, so a procedure
is followed through all that it may come to, one deed after another; and it is preserved by the
client's own steps (`Assures.step`) and by those of others (`Assures.later`).
-/

namespace Sensing

/-- Steps of a client, the earliest first: the state that each found, and the one that it left. -/
abbrev Deeds (σ : Type) : Type := List (σ × σ)

namespace Procedure

variable {σ α : Type} (finds : Deeds σ → σ → σ → Prop) (amid : Deeds σ → σ → Prop)
  (ends : Deeds σ → α → σ → Prop)

/-- A client that has done some deeds and left a state carries the rest out: whatever it finds, the
one condition holds while it is at work, and the other in the end. -/
def Assures : Procedure σ α → Deeds σ → σ → Prop
  | .done a, deeds, left => ∀ s, finds deeds left s → ends deeds a s
  | .step act next, deeds, left =>
    ∀ s, finds deeds left s → amid deeds s ∧
      (next (act s).1).Assures (deeds ++ [(s, (act s).2)]) (act s).2
  | .await ready next, deeds, left =>
    ∀ s, finds deeds left s → amid deeds s ∧
      (ready s = true → next.Assures (deeds ++ [(s, s)]) s)

variable {finds amid ends} {p p' : Procedure σ α} {deeds : Deeds σ} {s s' : σ}

/-- Others have acted meanwhile. -/
theorem Assures.later (h : p.Assures finds amid ends deeds s)
    (meanwhile : ∀ s'', finds deeds s' s'' → finds deeds s s'') :
    p.Assures finds amid ends deeds s' := by
  cases p with
  | done | step | await => exact fun s'' found => h s'' (meanwhile s'' found)

/-- The client has acted. -/
theorem Assures.step (h : p.Assures finds amid ends deeds s) (found : finds deeds s s)
    (step : p.Step s p' s') : p'.Assures finds amid ends (deeds ++ [(s, s')]) s' := by
  cases step with
  | act act next => exact (h s found).2
  | ready next isReady => exact (h s found).2 isReady

/-- While the client is at work. -/
theorem Assures.at_work (h : p.Assures finds amid ends deeds s) (found : finds deeds s s)
    (unfinished : ∀ a, p ≠ .done a) : amid deeds s := by
  cases p with
  | done a => exact absurd rfl (unfinished a)
  | step | await => exact (h s found).1

/-- When it has come to its answer. -/
theorem Assures.at_end {a : α} (h : (Procedure.done a).Assures finds amid ends deeds s)
    (found : finds deeds s s) : ends deeds a s := h s found

end Procedure

end Sensing
