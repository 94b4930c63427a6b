import GpuCore.Gpu.DataChannel
import GpuCore.Proofs.Vram.Stream

/-!
# Counters and cursor of a transfer

A transfer can be seen as a record of area, counters and cursor that is all zero where no pixel is
left.  Along a whole area the counters stay within its extents, and the cursor stays on the pixel
that they say is next.

Main definitions:

- `Progress` and `Transfer.progress`: the counters of a transfer.
- `Progress.WellFormed`: counters within their bounds and a cursor that fits them.
- `Job.Within`: a job that an area led to.
- `Job.wordsLeft` and `Transfer.wordsLeft`: the data words that are left.

Main results:

- `Job.Within.advanceWord` and `Job.Within.fetchWords`: the jobs that words lead to.
- `Job.Within.wellFormed`: counters and cursor of such a job are well formed.
- `Job.Within.wordsLeft_advanceWord`: a word takes one from the words that are left.
-/

namespace GpuCore.Vram

/-! ## Counters -/

/-- Area, counters and cursor of a transfer, all zero where no pixel is left. -/
structure Progress where
  area : Area := {}
  pixelsLeft : Nat := 0
  linesLeft : Nat := 0
  position : Nat := 0
deriving DecidableEq, Repr, Inhabited

namespace Progress

/-- The counters are within the extents of the area, the area is not larger than the image, and the
cursor stands in the image on the pixel that the counters say is next. -/
structure WellFormed (memory : Memory) (progress : Progress) : Prop where
  pixelsLeft_pos : 1 ≤ progress.pixelsLeft
  pixelsLeft_le : progress.pixelsLeft ≤ progress.area.width
  width_le : progress.area.width ≤ width
  linesLeft_pos : 1 ≤ progress.linesLeft
  linesLeft_le : progress.linesLeft ≤ progress.area.height
  height_le : progress.area.height ≤ memory.lines
  start_le : memory.start ≤ progress.position
  lt_stop : progress.position < memory.stop
  position_mod : progress.position % memory.size =
    (memory.start + (progress.area.y + progress.area.height - progress.linesLeft) * width +
      progress.area.x + (progress.area.width - progress.pixelsLeft)) % memory.size

end Progress

/-- The counters and the cursor of a job. -/
def Job.progress (job : Job) : Progress where
  area := job.area
  pixelsLeft := job.pixelsLeft
  linesLeft := job.linesLeft
  position := job.position

/-- The counters and the cursor of a transfer. -/
def Transfer.progress (transfer : Transfer) : Progress :=
  (transfer.job.map Job.progress).getD {}

/-! ## Jobs of an area -/

namespace Job

variable {memory : Memory} {job : Job}

/-- The job is that of some pixel of an area that fits. -/
def Within (memory : Memory) (job : Job) : Prop :=
  ∃ area index, area.Fits memory ∧ index < area.pixelCount ∧ job = .at memory area index

theorem within_start {area : Area} (hfits : area.Fits memory) : (start memory area).Within memory :=
  ⟨area, 0, hfits, hfits.pixelCount_pos, start_eq_at memory area⟩

/-- Jobs have to do with the height of the image only. -/
theorem at_of_height {after : Memory} (hheight : after.height = memory.height) (area : Area)
    (index : Nat) : Job.at after area index = .at memory area index := by
  simp only [Job.at, Memory.streamPosition, Memory.position, Memory.wrap, Memory.size,
    Memory.lines, hheight]

theorem fits_of_height {after : Memory} (hheight : after.height = memory.height) {area : Area}
    (hfits : area.Fits memory) : area.Fits after := by
  refine { hfits with height_le := ?_ }
  rw [Memory.lines, hheight]
  exact hfits.height_le

theorem Within.of_height {after : Memory} (h : job.Within memory)
    (hheight : after.height = memory.height) : job.Within after := by
  obtain ⟨area, index, hfits, hindex, rfl⟩ := h
  exact ⟨area, index, fits_of_height hheight hfits, hindex,
    (at_of_height hheight area index).symm⟩

/-- What is left behind a pixel is a job of the same area. -/
theorem within_of_mem_rest {area : Area} {index : Nat} (hfits : area.Fits memory) {next : Job}
    (hnext : rest memory area index = some next) : next.Within memory := by
  unfold rest at hnext
  split at hnext
  · next hindex =>
      cases hnext
      exact ⟨area, index, hfits, hindex, rfl⟩
  · cases hnext

/-- A word leaves a job of the same area behind. -/
theorem Within.advanceWord (h : job.Within memory) {next : Job}
    (hnext : job.advanceWord memory = some next) : next.Within memory := by
  obtain ⟨area, index, hfits, hindex, rfl⟩ := h
  rw [advanceWord_at hfits hindex] at hnext
  exact within_of_mem_rest hfits hnext

/-- Reading any number of words leaves a job of the same area behind. -/
theorem Within.fetchWords (h : job.Within memory) (count : Nat) (words : Array UInt32) {next : Job}
    (hnext : (Gpu.fetchWords memory count job words).2 = some next) : next.Within memory := by
  induction count generalizing job words with
  | zero =>
      cases hnext
      exact h
  | succ count ih =>
      unfold Gpu.fetchWords at hnext
      split at hnext
      · next word rest hfetched =>
          have hrest : job.advanceWord memory = some rest := congrArg Prod.snd hfetched
          exact ih (h.advanceWord hrest) _ hnext
      · cases hnext

/-- The counters of a job say which pixel is next, and the cursor stands on it. -/
theorem Within.wellFormed (h : job.Within memory) : job.progress.WellFormed memory := by
  obtain ⟨area, index, hfits, hindex, rfl⟩ := h
  have hcolumn : index % area.width < area.width := Nat.mod_lt _ hfits.width_pos
  have hline : index / area.width < area.height := Memory.line_lt hindex
  refine ⟨?_, Nat.sub_le _ _, hfits.width_le, ?_, Nat.sub_le _ _, hfits.height_le,
    (memory.wrap_mem _).1, (memory.wrap_mem _).2, ?position⟩
  · exact Nat.sub_pos_of_lt hcolumn
  · exact Nat.sub_pos_of_lt hline
  case position =>
      have hline' : area.y + area.height - (area.height - index / area.width) =
          area.y + index / area.width := by
        generalize index / area.width = line at hline ⊢
        omega
      have hcolumn' : area.width - (area.width - index % area.width) = index % area.width :=
        Nat.sub_sub_self (Nat.le_of_lt hcolumn)
      have hoffset : margin + (area.y + index / area.width) * width + area.x + index % area.width =
          margin + (area.y * width + area.x + index / area.width * width + index % area.width) := by
        rw [Nat.add_mul]
        omega
      dsimp only [progress, Job.at, Memory.start]
      rw [hline', hcolumn', hoffset, Memory.streamPosition_eq_address hfits, Area.address,
        Nat.add_mod_mod]

/-! ## Words that are left -/

/-- Data words that are left of a job; the last one may hold a single pixel. -/
def wordsLeft (job : Job) : Nat :=
  ((job.linesLeft - 1) * job.area.width + job.pixelsLeft + 1) / 2

theorem wordsLeft_at {area : Area} {index : Nat} (hfits : area.Fits memory)
    (hindex : index < area.pixelCount) :
    (Job.at memory area index).wordsLeft = (area.pixelCount - index + 1) / 2 := by
  have hline : index / area.width < area.height := Memory.line_lt hindex
  have hcolumn : index % area.width < area.width := Nat.mod_lt _ hfits.width_pos
  have hsplit : area.width * (index / area.width) + index % area.width = index :=
    Nat.div_add_mod index area.width
  have hlines : (area.height - index / area.width - 1) * area.width +
      area.width * (index / area.width) + area.width = area.pixelCount := by
    obtain ⟨more, hmore⟩ := Nat.exists_eq_add_of_lt hline
    have hleft : area.height - index / area.width - 1 = more := by omega
    rw [hleft, Area.pixelCount, hmore, Nat.mul_add, Nat.mul_add, Nat.mul_one, Nat.mul_comm more,
      Nat.add_comm (area.width * more)]
  rw [wordsLeft, linesLeft_at, pixelsLeft_at]
  dsimp only [Job.at]
  omega

end Job

/-- Data words that are left of a transfer. -/
def Transfer.wordsLeft (transfer : Transfer) : Nat :=
  (transfer.job.map Job.wordsLeft).getD 0

/-- Words are left as long as there is a job. -/
theorem Transfer.exists_job_of_pos {transfer : Transfer} (hleft : 0 < transfer.wordsLeft) :
    ∃ job, transfer.job = some job := by
  cases hjob : transfer.job with
  | none => simp [wordsLeft, hjob] at hleft
  | some job => exact ⟨job, rfl⟩

/-- A word takes one from the words that are left. -/
theorem Job.Within.wordsLeft_advanceWord {memory : Memory} {job : Job} (h : job.Within memory) :
    (Transfer.ofRest (job.advanceWord memory)).wordsLeft + 1 = job.wordsLeft := by
  obtain ⟨area, index, hfits, hindex, rfl⟩ := h
  rw [advanceWord_at hfits hindex, wordsLeft_at hfits hindex, Transfer.wordsLeft, Transfer.ofRest,
    rest]
  by_cases hmore : index + 2 < area.pixelCount
  · rw [if_pos hmore, Option.map_some, Option.getD_some, wordsLeft_at hfits hmore]
    omega
  · rw [if_neg hmore, Option.map_none, Option.getD_none]
    omega

end GpuCore.Vram
