import PipelineShell.Userland.Task

/-!
# Processes side by side

Processes take turns in the order in which they were started, until all have ended or all wait.
-/

namespace PipelineShell.Userland

/-- A process that has not ended: its number, how many rounds pass before its first turn, and what
it does on its next turn. -/
structure Active where
  number : Nat
  rounds : Nat := 0
  next : Turn

namespace Schedule

/-- What is known in the middle of a round: the processes that have had their turns, the last first,
whether any of them was not only waiting, and the machine. -/
structure Round where
  done : List Active := []
  moved : Bool := false
  machine : Machine

def Round.give (r : Round) (p : Active) : Round :=
  match r.machine.fate? p.number with
  | some signal =>
    { r with moved := true, machine := r.machine.finish p.number (-signal) }
  | none =>
    if p.rounds > 0 then { r with done := { p with rounds := p.rounds - 1 } :: r.done, moved := true }
    else
      let { done, moved, machine } := r
      match p.next machine with
      | .ended status machine => { done, moved := true, machine := machine.finish p.number status }
      | .paused active machine next =>
        { done := { p with next } :: done, moved := moved || active, machine }
      | .started number rounds machine child next =>
        { done := ⟨number, rounds, child⟩ :: { p with next } :: done, moved := true, machine }

def round (all : List Active) (m : Machine) : Round :=
  all.foldl Round.give { machine := m }

/-- Runs processes for at most so many rounds, until nothing is wanted of them or they have come to
a standstill. -/
def run (wanted : Machine → Bool) : Nat → List Active → Machine → List Active × Machine
  | 0, all, m => (all, m)
  | _, [], m => ([], m)
  | rounds + 1, p :: all, m =>
    if wanted m then
      let r := round (p :: all) m
      if r.moved then run wanted rounds r.done.reverse r.machine else (r.done.reverse, r.machine)
    else (p :: all, m)

end Schedule
end PipelineShell.Userland
