import GpuCore.Answer
import GpuCore.Proofs.Operation.Frame
import GpuCore.Proofs.Pacing.Control
import GpuCore.Proofs.Pacing.DataChannel

/-!
# Pacing is invisible

A program cannot tell how it is paced: whatever the pacer is set to and however fast its clock runs,
every word that is read, every result and every saved state are the same, and so is what the
renderer is told, apart from primitives and frames.

Main definitions:

- `Operation.unpaced?`: an operation without what it does to the pacer.

Main results:

- `Gpu.EqUpToPace.apply_of_unpaced?_eq_some`: an operation keeps two states equal up to the pace,
  and is answered in the same way in both.
- `Gpu.EqUpToPace.run_unpaced`: a run can do without what it does to the pacer.
- `Gpu.pacing_invisible`: so runs of two new processors that are paced in different ways agree.
-/

namespace GpuCore

/-- An operation without what it does to the pacer; `none` when nothing else is left of it. -/
def Operation.unpaced? : Operation → Option Operation
  | configure settings => some (configure { settings with pacing := {} })
  | endPeriod _ => some (endPeriod 0)
  | adjustPace _ => none
  | operation => some operation

namespace Gpu

namespace EqUpToPace

variable {left right : Gpu}

/-! ## Operations and runs -/

/-- New settings keep states equal when they agree on all but the pacing. -/
theorem configure (h : EqUpToPace left right) {settings settings' : Settings}
    (hmemory : settings.doubledMemory = settings'.doubledMemory)
    (hfixes : settings.fixes = settings'.fixes) :
    EqUpToPace (left.configure settings) (right.configure settings') :=
  { h with doubledMemory := hmemory, fixes := hfixes }

theorem powerOn (h : EqUpToPace left right) : EqUpToPace left.powerOn right.powerOn := by
  unfold Gpu.powerOn
  rw [h.doubledMemory]
  exact (h.withVram rfl).reset

/-- What concerns the pacer alone is answered by nothing and leaves the rest as it is. -/
theorem apply_of_unpaced?_eq_none (h : EqUpToPace left right) {operation : Operation}
    (hnone : operation.unpaced? = none) :
    left.answer? operation = none ∧ EqUpToPace (left.apply operation) right := by
  cases operation with
  | adjustPace adjustment => exact ⟨rfl, { h with }⟩
  | _ => contradiction

/-- Everything else is answered in the same way and keeps states equal, whatever it does to the
pacer. -/
theorem apply_of_unpaced?_eq_some (h : EqUpToPace left right) {operation operation' : Operation}
    (hsome : operation.unpaced? = some operation') :
    left.answer? operation = right.answer? operation' ∧
      EqUpToPace (left.apply operation) (right.apply operation') := by
  cases operation with
  | adjustPace adjustment => contradiction
  | powerOn =>
      cases hsome
      exact ⟨rfl, h.powerOn⟩
  | powerOff =>
      cases hsome
      exact ⟨rfl, h.withVram (congrArg Vram.Memory.release h.vram)⟩
  | reset =>
      cases hsome
      exact ⟨rfl, h.reset⟩
  | configure settings =>
      cases hsome
      exact ⟨rfl, h.configure rfl rfl⟩
  | writeData words =>
      cases hsome
      obtain ⟨hresult, hafter⟩ := h.writeData words
      exact ⟨congrArg (some ∘ Answer.outcome) hresult, hafter⟩
  | writeControl word =>
      cases hsome
      exact ⟨rfl, h.writeControl word⟩
  | readInto slots =>
      cases hsome
      obtain ⟨hresult, hslots⟩ := h.readInto slots
      simp only [answer?, Gpu.apply, hresult, hslots, state_readInto]
      exact ⟨trivial, (h.readData slots.length).2⟩
  | readWord =>
      cases hsome
      simp only [answer?, Gpu.apply, h.readWord, state_readWord]
      exact ⟨trivial, (h.readData 1).2⟩
  | readStatus =>
      cases hsome
      exact ⟨congrArg (some ∘ Answer.status) h.readStatus.1, h.readStatus.2⟩
  | endPeriod pause =>
      cases hsome
      exact ⟨rfl, h.endPeriod pause 0⟩
  | followChain memory address =>
      cases hsome
      obtain ⟨hresult, hafter⟩ := h.followChain memory address
      exact ⟨congrArg (some ∘ Answer.outcome) hresult, hafter⟩
  | freeze mode buffer =>
      cases hsome
      obtain ⟨hresult, hbuffer, hafter⟩ := h.freeze mode buffer
      simp only [answer?, hresult, hbuffer]
      exact ⟨trivial, hafter⟩
  | restore record =>
      cases hsome
      obtain ⟨hresult, hafter⟩ := h.restore record
      exact ⟨congrArg (some ∘ Answer.outcome) hresult, hafter⟩

/-- A run can do without what it does to the pacer. -/
theorem run_unpaced (h : EqUpToPace left right) (operations : List Operation) :
    left.answers operations = right.answers (operations.filterMap Operation.unpaced?) ∧
      EqUpToPace (left.run operations)
        (right.run (operations.filterMap Operation.unpaced?)) := by
  induction operations generalizing left right with
  | nil => exact ⟨rfl, h⟩
  | cons operation operations ih =>
      cases hunpaced : operation.unpaced? with
      | none =>
          obtain ⟨hanswer, hafter⟩ := h.apply_of_unpaced?_eq_none hunpaced
          obtain ⟨hanswers, hend⟩ := ih hafter
          rw [List.filterMap_cons_none hunpaced, run_cons, answers, hanswer, hanswers]
          exact ⟨rfl, hend⟩
      | some operation' =>
          obtain ⟨hanswer, hafter⟩ := h.apply_of_unpaced?_eq_some hunpaced
          obtain ⟨hanswers, hend⟩ := ih hafter
          rw [List.filterMap_cons_some hunpaced, run_cons, run_cons, answers, answers, hanswer,
            hanswers]
          exact ⟨rfl, hend⟩

end EqUpToPace

/-- Two new processors with the same memory and the same fixes, paced in whatever way and by
whatever clock, cannot be told apart by a program.  When the same is done to both, but for the time
that passes, the speed, the pauses and the settings of the pacing, then all answers are the same,
the states afterwards are equal up to the pace, and so are the records of these states. -/
theorem pacing_invisible (settings settings' : Settings) (pacer pacer' : Pacing.Pacer)
    (operations operations' : List Operation)
    (hmemory : settings.doubledMemory = settings'.doubledMemory)
    (hfixes : settings.fixes = settings'.fixes)
    (hsame : operations.filterMap Operation.unpaced? =
      operations'.filterMap Operation.unpaced?) :
    let left := create settings pacer
    let right := create settings' pacer'
    left.answers operations = right.answers operations' ∧
      EqUpToPace (left.run operations) (right.run operations') ∧
      (left.run operations).snapshot = (right.run operations').snapshot := by
  intro left right
  have hstart : EqUpToPace left right :=
    { EqUpToPace.refl left with doubledMemory := hmemory, fixes := hfixes }
  obtain ⟨hleft, hleftEnd⟩ := hstart.run_unpaced operations
  obtain ⟨hright, hrightEnd⟩ := (EqUpToPace.refl right).run_unpaced operations'
  rw [hsame] at hleft hleftEnd
  have hend := hleftEnd.trans hrightEnd.symm
  exact ⟨hleft.trans hright.symm, hend, hend.snapshot⟩

/-- The same sprite comes in a period that is skipped in fast motion and rendered after a pause. -/
theorem pacing_invisible_sprite :
    let settings : Settings := { pacing := { frameLimit := false, skipMode := .standard } }
    let left := create {} (.create {} 1000000)
    let right := create settings (.create settings.pacing 33868800)
    let operations : List Operation :=
      [.powerOn, .adjustPace (.fast true), .endPeriod 0, .endPeriod 0, .writeData [0x68FFFFFF, 0],
        .configure {}, .writeControl 0x03000000, .adjustPace (.advance 5000000), .readStatus,
        .freeze .info #[3, 0, 0, 0], .readWord]
    let operations' : List Operation :=
      [.powerOn, .endPeriod 7, .adjustPace (.pause true), .endPeriod 900,
        .writeData [0x68FFFFFF, 0], .configure settings, .writeControl 0x03000000, .readStatus,
        .adjustPace .slow, .freeze .info #[3, 0, 0, 0], .readWord]
    ({} : Settings).doubledMemory = settings.doubledMemory ∧
      ({} : Settings).fixes = settings.fixes ∧
      operations.filterMap Operation.unpaced? = operations'.filterMap Operation.unpaced? ∧
      (left.run (operations.take 4)).skipping = true ∧
      (right.run (operations'.take 4)).skipping = false ∧
      left.answers operations = right.answers operations' ∧
      EqUpToPace (left.run operations) (right.run operations') ∧
      (left.run operations).snapshot = (right.run operations').snapshot := by
  intro settings left right operations operations'
  have hsame : operations.filterMap Operation.unpaced? =
      operations'.filterMap Operation.unpaced? := rfl
  have hskipped : (left.run (operations.take 4)).skipping = true := by decide +kernel
  have hrendered : (right.run (operations'.take 4)).skipping = false := by decide +kernel
  exact ⟨rfl, rfl, hsame, hskipped, hrendered, pacing_invisible {} settings (.create {} 1000000)
    (.create settings.pacing 33868800) operations operations' rfl rfl hsame⟩

end Gpu

end GpuCore
