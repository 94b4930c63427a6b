import GpuCore.Operation

/-!
# Sessions with saved states

A session drives one processor, saves its state from time to time and restores states that it saved
before.  Nothing else is ever restored.

Main definitions:

- `Session`: the processor and the records that were saved.
- `Session.Step` and `Session.step`: one step.
- `Session.trace`: the sessions along a list of steps.
- `Session.taken`: the records that are taken over along a list of steps.
-/

namespace GpuCore

/-! ## State -/

/-- A processor and the records saved so far, the first one in front. -/
structure Session where
  gpu : Gpu
  records : List Freeze.Record := []
deriving Inhabited

namespace Session

/-- A new processor, of which nothing was saved. -/
def start (settings : Settings) (pacer : Pacing.Pacer) : Session where
  gpu := .create settings pacer

/-! ## Steps -/

/-- One step of a session. -/
inductive Step where
  /-- An operation that takes over no saved state. -/
  | operate (operation : Operation) (live : operation.restores = false)
  | save
  /-- The record of an earlier save is restored. -/
  | load (index : Nat)

/-- Save the state, unless there is no video memory. -/
def save (session : Session) : Session :=
  match session.gpu.snapshot with
  | .ok record => { session with records := session.records ++ [record] }
  | .error _ => session

/-- Restore a record that was saved; a record that is refused, or that is not there, changes
nothing. -/
def load (session : Session) (index : Nat) : Session :=
  match session.records[index]? with
  | some record => { session with gpu := (session.gpu.restore record).2 }
  | none => session

/-- The session after a step. -/
def step (session : Session) : Step → Session
  | .operate operation _ => { session with gpu := session.gpu.apply operation }
  | .save => session.save
  | .load index => session.load index

/-- The record that a step takes over. -/
def taken? (session : Session) : Step → Option Freeze.Record
  | .load index =>
    session.records[index]?.filter fun record => (session.gpu.restore record).1.isOk
  | _ => none

/-! ## Runs -/

/-- The sessions along a list of steps, the first and the last one included. -/
def trace (session : Session) : List Step → List Session
  | [] => [session]
  | step :: steps => session :: (session.step step).trace steps

/-- The records that are taken over along a list of steps. -/
def taken (session : Session) : List Step → List Freeze.Record
  | [] => []
  | step :: steps => (session.taken? step).toList ++ (session.step step).taken steps

/-- A trace starts with the session that it starts from. -/
theorem mem_trace (session : Session) (steps : List Step) : session ∈ session.trace steps := by
  cases steps with
  | nil => exact List.mem_singleton_self session
  | cons step steps => exact List.mem_cons_self

end Session

end GpuCore
