import GpuCore.Proofs.Vram.Image

/-!
# Pixels and block addresses

Video memory keeps the addresses of the loop detector beside the pixels.  Drawing and transfers do
not look at them, and leave them as they are.

Main definitions:

- `Memory.withHistory`: the same pixels with other block addresses.

Main results:

- `Memory.fillArea_withHistory`, `Memory.moveArea_withHistory` and `Memory.store_withHistory`: work
  on pixels goes on beside any block addresses.
-/

namespace GpuCore.Vram.Memory

/-- The same image with other block addresses. -/
def withHistory (memory : Memory) (history : AddressHistory) : Memory :=
  { memory with history := history, size_cells := memory.size_cells }

variable (memory : Memory) (history : AddressHistory)

@[simp]
theorem history_withHistory : (memory.withHistory history).history = history :=
  rfl

@[simp]
theorem withHistory_history : memory.withHistory memory.history = memory :=
  rfl

@[simp]
theorem withHistory_withHistory (later : AddressHistory) :
    (memory.withHistory history).withHistory later = memory.withHistory later :=
  rfl

@[simp]
theorem isAllocated_withHistory : (memory.withHistory history).isAllocated = memory.isAllocated :=
  rfl

/-- A loop whose rounds commute with a function commutes with it. -/
theorem fold_hom {α β : Type} {count : Nat} (f : α → β) {round : (i : Nat) → i < count → α → α}
    {round' : (i : Nat) → i < count → β → β} (initial : α)
    (hround : ∀ i hi value, round' i hi (f value) = f (round i hi value)) :
    count.fold round' (f initial) = f (count.fold round initial) := by
  induction count with
  | zero => simp
  | succ count ih =>
      rw [Nat.fold_succ, Nat.fold_succ, ih fun i hi => hround i (Nat.lt_succ_of_lt hi)]
      exact hround count _ _

/-- A fill does not ask for block addresses. -/
theorem fillArea_withHistory (area : Area) (pixel : UInt16) :
    (memory.withHistory history).fillArea area pixel =
      (memory.fillArea area pixel).withHistory history := by
  refine fold_hom (withHistory · history) memory fun row _ image => ?_
  exact fold_hom (withHistory · history) image fun column _ image => rfl

/-- Writing an area does not ask for block addresses. -/
theorem writeArea_withHistory (area : Area) (image : Array UInt16) :
    (memory.withHistory history).writeArea area image =
      (memory.writeArea area image).withHistory history := by
  refine fold_hom (withHistory · history) memory fun row _ image => ?_
  exact fold_hom (withHistory · history) image fun column _ image => rfl

/-- Moving an area does not ask for block addresses. -/
theorem moveArea_withHistory (source : Area) (x y : Nat) :
    (memory.withHistory history).moveArea source x y =
      (memory.moveArea source x y).withHistory history :=
  writeArea_withHistory memory history _ _

/-- Storing a word of an upload does not ask for block addresses. -/
theorem store_withHistory (job : Job) (word : UInt32) :
    job.store (memory.withHistory history) word = (job.store memory word).withHistory history := by
  have hadvance : job.advance (memory.withHistory history) = job.advance memory := rfl
  unfold Job.store
  rw [hadvance]
  split <;> rfl

end GpuCore.Vram.Memory
