import Stencil.Routine

/-!
# Where a routine stands

Routines run one at a time. Each runs until it has to wait, and goes on when it gets its turn again.
This file says how far a routine runs on its own, what it can wait for, and how it goes on.

## Main definitions

- `Host` — what lookups, reports and reads do to the state that all routines work on
- `Halt` and `Host.advance` — how far a routine runs, and where it stops
- `Standing` — where a routine is between two of its turns
- `Host.turn` — what a routine does when it gets its turn

## Design notes

A cancellation is seen when the routine gets its turn: it is then told `Failure.cancelled` instead of
the answer it waits for. A routine that was not even begun ends at once.
-/

namespace Stencil

/-- The effects of routines on a state `σ`. Requests belong to a service, which is given by its
number. -/
structure Host (σ V : Type) where
  lookup : Nat → Text → σ → Option V × σ
  act : Nat → Act V → σ → σ
  /-- Whether reads have to wait at the gate. -/
  holding : σ → Bool
  /-- A read begins. It is served after a pause. -/
  beginRead : Text → σ → σ
  serve : Text → σ → Except Failure Bytes × σ
  /-- The routine that loads a name from a path. -/
  load : Nat → Text → Text → σ → Routine V V

/-- Where a running routine stops. -/
inductive Halt (V β : Type) where
  | ended (outcome : Except Failure β)
  | held (path : Text) (next : Except Failure Bytes → Routine V β)
  | paused (path : Text) (next : Except Failure Bytes → Routine V β)
  | sharing (name path : Text) (next : Except Failure V → Routine V β)

/-- Where a routine is between two of its turns. -/
inductive Standing (V β : Type) where
  /-- It has not begun. -/
  | fresh (routine : Routine V β)
  /-- It waits at the gate. -/
  | held (path : Text) (next : Except Failure Bytes → Routine V β)
  /-- It has passed the gate and will begin its read. -/
  | passed (path : Text) (next : Except Failure Bytes → Routine V β)
  /-- It is in the pause of a read. -/
  | paused (path : Text) (next : Except Failure Bytes → Routine V β)
  /-- It waits for the load of a job. -/
  | waiting (load : Nat) (next : Except Failure V → Routine V β)
  /-- The load it waited for has ended. -/
  | landed (outcome : Except Failure V) (next : Except Failure V → Routine V β)
  /-- It goes on with this routine, whatever else happens. -/
  | resumed (routine : Routine V β)
  | ended (outcome : Except Failure β)

namespace Standing

variable {V β : Type}

def hasEnded : Standing V β → Bool
  | ended _ => true
  | _ => false

end Standing

namespace Host

variable {σ V β : Type}

/-- Run a routine until it stops. `landed` knows the outcome of loads that have ended and are not yet
forgotten; who asks for one of these need not wait. -/
def advance (h : Host σ V) (service : Nat) (landed : Text → Option (Except Failure V)) :
    Routine V β → σ → Halt V β × σ
  | .finish r, s => (.ended r, s)
  | .lookup name next, s =>
    let (found, s) := h.lookup service name s
    advance h service landed (next found) s
  | .act a next, s => advance h service landed next (h.act service a s)
  | .read path next, s =>
    if h.holding s then (.held path next, s) else (.paused path next, h.beginRead path s)
  | .share name path next, s =>
    match landed name with
    | some outcome => advance h service landed (next outcome) (h.act service (.note (.joined name)) s)
    | none => (.sharing name path next, s)

/-- What a routine does when it gets its turn. One that waits for something else does nothing. -/
def turn (h : Host σ V) (service : Nat) (landed : Text → Option (Except Failure V))
    (cancelling : Bool) (standing : Standing V β) (s : σ) : Option (Halt V β × σ) :=
  let go (r : Routine V β) (s : σ) := some (h.advance service landed r s)
  match standing with
  | .fresh r => if cancelling then some (.ended (.error .cancelled), s) else go r s
  | .passed path next =>
    if cancelling then go (next (.error .cancelled)) s
    else some (.paused path next, h.beginRead path s)
  | .paused path next =>
    if cancelling then go (next (.error .cancelled)) s
    else
      let (answer, s) := h.serve path s
      go (next answer) s
  | .landed outcome next => go (next (if cancelling then .error .cancelled else outcome)) s
  | .resumed r => go r s
  | .held .. | .waiting .. | .ended _ => none

end Host

end Stencil
