import Muster.Error

/-! # The schedule of checks

When a node is checked. Starting makes a loop: the first check is due one interval later, and each further one
an interval after the last was due, or, if the last one took longer than that, at once when it ends. Starting
again cancels the loop there is, and the new one waits the time that a check may take before it begins.
Cancelling stops further checks, not the one that is under way. Times are nanoseconds. -/

namespace Muster

/-- A check under way: when it ends and what comes of it then. -/
structure Check (ρ : Type) where
  started : Nat
  ends : Nat
  result : ρ
  deriving DecidableEq, Repr

/-- Where a loop stands. -/
inductive Phase (ρ : Type)
  /-- The loop before this one may still have a check under way. -/
  | restarting (until_ : Nat)
  /-- The next check is due. -/
  | waiting (due : Nat)
  /-- A check is under way; the next is due at `next`. -/
  | checking (c : Check ρ) (next : Nat)
  /-- Nothing is ever due: an interval of zero has no checks. -/
  | idle
  deriving DecidableEq, Repr

/-- The loops of a node: the one that runs, and the checks that cancelled loops still have under way. -/
structure Schedule (ρ : Type) where
  running : Option (Phase ρ)
  ending : List (Check ρ)
  deriving DecidableEq, Repr

namespace Schedule

variable {ρ : Type}

/-- No loop. -/
def stopped : Schedule ρ := ⟨none, []⟩

/-- A loop runs. -/
def isRunning (s : Schedule ρ) : Bool := s.running.isSome

/-- A loop that begins. -/
def Phase.begin (now interval : Nat) : Phase ρ :=
  if interval = 0 then .idle else .waiting (now + interval)

/-- The check that a loop has under way. -/
def Phase.check? : Phase ρ → Option (Check ρ)
  | .checking c _ => some c
  | _ => none

/-- Cancels the loop that runs. -/
def stop (s : Schedule ρ) : Schedule ρ :=
  ⟨none, s.ending ++ (s.running.bind Phase.check?).toList⟩

/-- Starts a loop; one that runs is cancelled first, and the new one waits `timeout`. -/
def start (now interval timeout : Nat) (s : Schedule ρ) : Schedule ρ :=
  match s.running with
  | none => ⟨some (Phase.begin now interval), s.ending⟩
  | some _ => { s.stop with running := some (.restarting (now + timeout)) }

/-- What happens next in a schedule. -/
inductive Event (ρ : Type)
  /-- The new loop begins. -/
  | restarted
  /-- A check begins. -/
  | due
  /-- The check of the loop that runs ends. -/
  | checked (c : Check ρ) (next : Nat)
  /-- A check of a cancelled loop ends. -/
  | ended (c : Check ρ)
  deriving DecidableEq, Repr

/-- What happens next in the loop that runs, and when. -/
def Phase.next? : Phase ρ → Option (Nat × Event ρ)
  | .restarting t => some (t, .restarted)
  | .waiting t => some (t, .due)
  | .checking c next => some (c.ends, .checked c next)
  | .idle => none

/-- The earlier of two moments, the first if they coincide. -/
def earlier (a b : Option (Nat × Event ρ)) : Option (Nat × Event ρ) :=
  match a, b with
  | some (s, x), some (t, y) => if s ≤ t then some (s, x) else some (t, y)
  | some x, none => some x
  | none, b => b

/-- What happens next, and when. Of what coincides, ends of cancelled loops' checks come first. -/
def next? (s : Schedule ρ) : Option (Nat × Event ρ) :=
  s.ending.foldr (fun c e => earlier (some (c.ends, .ended c)) e) (s.running.bind Phase.next?)

/-- The loop that runs goes to its check `c`. The next one is due an interval after the beginning of this one, which is
the latest that a timer allows: it counts from when a check was due if the check is late by no more than its tolerance
of five milliseconds. -/
def begin (s : Schedule ρ) (interval : Nat) (c : Check ρ) : Schedule ρ :=
  { s with running := some (.checking c (c.started + interval)) }

/-- The check of the loop that runs has ended; the next one is due at `next`. -/
def checked (s : Schedule ρ) (next : Nat) : Schedule ρ :=
  { s with running := some (.waiting next) }

/-- A check of a cancelled loop has ended. -/
def ended (s : Schedule ρ) (c : Check ρ) : Schedule ρ :=
  { s with ending := s.ending.eraseP (·.ends = c.ends) }

/-- The loop that was started anew begins. -/
def restarted (s : Schedule ρ) (now interval : Nat) : Schedule ρ :=
  { s with running := some (Phase.begin now interval) }

end Schedule

end Muster
