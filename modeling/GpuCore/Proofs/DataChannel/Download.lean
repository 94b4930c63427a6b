import GpuCore.Proofs.DataChannel.Packet
import GpuCore.Proofs.Operation.Frame
import GpuCore.Proofs.Vram.Stream

/-!
# Handing out an image

The words of an image are handed out in order, to reads of many words and to reads of one, until
none is left.  However a program cuts the image, it gets the same words.

Main definitions:

- `DataRead` and `Gpu.readAll`: reads from the data channel, and what they bring together.
- `DataRead.drains`: the reads take a given number of words, and no single word is asked for behind
  them.
- `Vram.Memory.dataWord` and `Vram.Memory.dataWords`: the words of an area.
- `Gpu.Downloading`: an area is being handed out.

Main results:

- `Gpu.downloading_readData`: one read.
- `Gpu.readAll_of_drains` and `Gpu.readAll_download`: reads that take the whole image.
-/

namespace GpuCore

/-! ## Reads -/

/-- One read from the data channel. -/
inductive DataRead where
  /-- Slots are filled with as many words as there are. -/
  | chunk (slots : List UInt32)
  | word
deriving DecidableEq, Repr, Inhabited

/-- Whether the reads take all of `left` words: a chunk may have slots to spare, but a single word
is read only as long as one is left. -/
def DataRead.drains (left : Nat) : List DataRead → Bool
  | [] => left == 0
  | .chunk slots :: reads => drains (left - slots.length) reads
  | .word :: reads => decide (0 < left) && drains (left - 1) reads

/-- Number of words that a read asks for. -/
def DataRead.count : DataRead → Nat
  | chunk slots => slots.length
  | word => 1

/-- The first of some reads finds a word if it asks for one, and the others drain what it leaves. -/
theorem DataRead.drains_cons (left : Nat) (read : DataRead) (reads : List DataRead) :
    drains left (read :: reads) = true ↔
      (read = .word → 0 < left) ∧ drains (left - read.count) reads = true := by
  cases read with
  | chunk slots => simp [drains, count]
  | word => simp [drains, count]

namespace Gpu

/-- The words that a read brings. -/
def answerRead (gpu : Gpu) : DataRead → Except Fault (List UInt32) × Gpu
  | .chunk slots =>
    match gpu.readInto slots with
    | (.ok count, filled, gpu) => (.ok (filled.take count), gpu)
    | (.error fault, _, gpu) => (.error fault, gpu)
  | .word =>
    match gpu.readWord with
    | (.ok word, gpu) => (.ok [word], gpu)
    | (.error fault, gpu) => (.error fault, gpu)

/-- The words that reads bring one after another, up to the first one that fails. -/
def readAll (gpu : Gpu) : List DataRead → Except Fault (List UInt32) × Gpu
  | [] => (.ok [], gpu)
  | read :: reads =>
    match gpu.answerRead read with
    | (.ok words, gpu) =>
      let (rest, gpu) := gpu.readAll reads
      (rest.map fun rest => words ++ rest, gpu)
    | (.error fault, gpu) => (.error fault, gpu)

end Gpu

/-! ## The words of an area -/

namespace Vram.Memory

/-- Word number `index` of an area: two pixels, or the last one and what the cursor meets behind
it. -/
def dataWord (memory : Memory) (area : Area) (index : Nat) : UInt32 :=
  Word.ofHalves (memory.read (memory.streamPosition area (2 * index)))
    (memory.read (memory.streamPosition area (2 * index + 1)))

/-- `count` words of an area from word number `first` on. -/
def dataWords (memory : Memory) (area : Area) (first count : Nat) : List UInt32 :=
  (List.range' first count).map (memory.dataWord area)

/-- As many words are laid out as were asked for. -/
theorem length_dataWords (memory : Memory) (area : Area) (first count : Nat) :
    (memory.dataWords area first count).length = count := by
  rw [dataWords, List.length_map, List.length_range']

theorem dataWords_append (memory : Memory) (area : Area) (first count count' : Nat) :
    memory.dataWords area first count ++ memory.dataWords area (first + count) count' =
      memory.dataWords area first (count + count') := by
  rw [dataWords, dataWords, dataWords, ← List.map_append, List.range'_append_1]

end Vram.Memory

namespace Gpu

variable {gpu : Gpu} {memory : Vram.Memory} {area : Vram.Area}

/-! ## One read -/

/-- The job in front of word number `index`. -/
theorem rest_eq (memory : Vram.Memory) (area : Vram.Area) (index : Nat) :
    Vram.Job.rest memory area (2 * index) =
      if index < area.wordCount then some (.at memory area (2 * index)) else none := by
  have hlast : 2 * index < area.pixelCount ↔ index < area.wordCount := by
    rw [Vram.Area.wordCount]
    omega
  rw [Vram.Job.rest]
  split
  · next hpixel => rw [if_pos (hlast.1 hpixel)]
  · next hnone => rw [if_neg fun hword => hnone (hlast.2 hword)]

/-- Words are fetched from word number `first` on, up to the last one of the area. -/
theorem fetchWords_at (hfits : area.Fits memory) (count : Nat) {first : Nat}
    (hfirst : first < area.wordCount) (fetched : Array UInt32) :
    fetchWords memory count (.at memory area (2 * first)) fetched =
      (fetched ++ (memory.dataWords area first (min count (area.wordCount - first))).toArray,
        Vram.Job.rest memory area (2 * (first + min count (area.wordCount - first)))) := by
  induction count generalizing first fetched with
  | zero =>
      rw [fetchWords, Nat.zero_min, Nat.add_zero, rest_eq, if_pos hfirst]
      simp [Vram.Memory.dataWords]
  | succ count ih =>
      have hpixel : 2 * first < area.pixelCount := by
        rw [Vram.Area.wordCount] at hfirst
        omega
      have hword (rest : List UInt32) :
          (fetched.push (memory.dataWord area first)) ++ rest.toArray =
            fetched ++ (memory.dataWord area first :: rest).toArray := by
        simp
      rw [fetchWords, Vram.Job.fetch_at hfits hpixel, ← Nat.mul_succ, rest_eq]
      by_cases hnext : first + 1 < area.wordCount
      · have hcount : min (count + 1) (area.wordCount - first) =
            min count (area.wordCount - (first + 1)) + 1 := by
          omega
        have hrest := ih hnext (fetched.push (memory.dataWord area first))
        rw [Nat.add_assoc, Nat.add_comm 1] at hrest
        rw [if_pos hnext, hcount, Vram.Memory.dataWords, List.range'_succ, List.map_cons, ← hword]
        exact hrest
      · have hcount : min (count + 1) (area.wordCount - first) = 1 := by omega
        have hlast := hword []
        rw [Array.append_empty] at hlast
        rw [if_neg hnext, hcount, rest_eq, if_neg hnext]
        exact Prod.ext hlast rfl

/-! ## The state of a download -/

/-- The download in front of word number `index`; no download behind the last one. -/
def downloadAt (memory : Vram.Memory) (area : Vram.Area) (index : Nat) : Vram.Transfer :=
  .ofRest (Vram.Job.rest memory area (2 * index))

/-- An area is being handed out and its first `index` words are done.  Behind the last word the
status register announces no pixels. -/
structure Downloading (area : Vram.Area) (index : Nat) (gpu : Gpu) : Prop where
  download : gpu.download = downloadAt gpu.vram area index
  ended : area.wordCount ≤ index → gpu.status.any Status.Mask.readyForPixels = false

/-- With words left, the transfer stands on an even pixel. -/
theorem downloadAt_of_lt (memory : Vram.Memory) {index : Nat} (hindex : index < area.wordCount) :
    downloadAt memory area index =
      { streaming := true, job := some (.at memory area (2 * index)) } := by
  rw [downloadAt, rest_eq, if_pos hindex]
  rfl

/-- Behind the last word there is no transfer. -/
theorem downloadAt_of_le (memory : Vram.Memory) {index : Nat} (hindex : area.wordCount ≤ index) :
    downloadAt memory area index = {} := by
  rw [downloadAt, rest_eq, if_neg (Nat.not_lt_of_le hindex)]
  rfl

/-- Handing out words moves the download on, latches the last one, and with the last word of the
area withdraws the announcement. -/
theorem handOut_at {index : Nat} (hdownload : gpu.download = downloadAt gpu.vram area index)
    (hindex : index < area.wordCount) (hfits : area.Fits gpu.vram) (count : Nat) :
    let taken := min count (area.wordCount - index)
    let words := (gpu.vram.dataWords area index taken).toArray
    gpu.handOut count =
      (words, { gpu with
        download := downloadAt gpu.vram area (index + taken)
        dataWord := words.back?.getD gpu.dataWord
        status :=
          if index + taken < area.wordCount then
            gpu.status
          else
            gpu.status.unset Status.Mask.readyForPixels }) := by
  have hjob : gpu.download.job = some (.at gpu.vram area (2 * index)) := by
    rw [hdownload, downloadAt_of_lt gpu.vram hindex]
  intro taken words
  unfold handOut
  split
  case h_1 =>
      have htaken : index + taken = index := by
        rw [Nat.add_eq_left]
        exact Nat.zero_min _
      have hwords : words = #[] := by simp [words, taken, Vram.Memory.dataWords]
      rw [htaken, hwords, if_pos hindex, ← hdownload]
      rfl
  case h_2 hnone _ =>
      rw [hjob] at hnone
      contradiction
  case h_3 job hsome _ =>
      rw [hjob] at hsome
      cases hsome
      rw [fetchWords_at hfits _ hindex, Array.empty_append, rest_eq]
      by_cases hmore : index + taken < area.wordCount
      · rw [if_pos hmore, if_pos hmore, downloadAt_of_lt gpu.vram hmore]
        rfl
      · rw [if_neg hmore, if_neg hmore, downloadAt_of_le gpu.vram (Nat.le_of_not_lt hmore)]
        rfl

/-- A read while pixels are handed out shows the processor as busy in between. -/
theorem readData_of_streaming (hinit : gpu.isInitialized = true)
    (hstreaming : gpu.download.streaming = true) (count : Nat) :
    gpu.readData count =
      let out := handOut { gpu with status := gpu.status.unset Status.Mask.idle } count
      (.ok out.1, { out.2 with status := out.2.status.set Status.Mask.idle }) := by
  unfold readData ifInitialized
  rw [if_pos hinit]
  dsimp only
  rw [if_pos hstreaming]

/-- A direction that is not selected hands out nothing. -/
theorem readData_of_not_streaming (hinit : gpu.isInitialized = true)
    (hstreaming : gpu.download.streaming = false) (count : Nat) :
    gpu.readData count = (.ok #[], gpu) := by
  unfold readData ifInitialized
  rw [if_pos hinit]
  dsimp only
  rw [hstreaming, if_neg Bool.false_ne_true]

/-- Showing the processor as idle announces no pixels. -/
theorem any_set_idle (status : Status) :
    (status.set Status.Mask.idle).any Status.Mask.readyForPixels =
      status.any Status.Mask.readyForPixels := by
  rw [Status.any, Status.any, Status.bits_set_of_disjoint status (by decide)]

/-- The last of a row of words. -/
theorem back?_dataWords (memory : Vram.Memory) (area : Vram.Area) (first : Nat) {count : Nat}
    (hcount : 0 < count) :
    (memory.dataWords area first count).toArray.back? =
      some (memory.dataWord area (first + count - 1)) := by
  have hne : count ≠ 0 := Nat.ne_of_gt hcount
  simp [Vram.Memory.dataWords, List.getLast?_range', hne]

/-- A read while an area is handed out brings the next words of it, as far as there are any, and
latches the last one. -/
theorem downloading_readData {index : Nat} (h : Downloading area index gpu)
    (hinit : gpu.isInitialized = true) (hfits : area.Fits gpu.vram) (count : Nat) :
    let taken := min count (area.wordCount - index)
    (gpu.readData count).1 = .ok (gpu.vram.dataWords area index taken).toArray ∧
      Downloading area (index + taken) (gpu.readData count).2 ∧
      (0 < taken →
        (gpu.readData count).2.dataWord = gpu.vram.dataWord area (index + taken - 1)) := by
  intro taken
  by_cases hindex : index < area.wordCount
  · have hstreaming : gpu.download.streaming = true := by
      rw [h.download, downloadAt_of_lt gpu.vram hindex]
    have hout := @handOut_at { gpu with status := gpu.status.unset Status.Mask.idle } area index
      h.download hindex hfits count
    rw [readData_of_streaming hinit hstreaming, hout]
    refine ⟨rfl, ⟨rfl, fun hended => ?ended⟩, fun htaken => ?latched⟩
    case ended =>
        dsimp only
        rw [if_neg (Nat.not_lt_of_le hended), any_set_idle, Status.any, Status.bits_unset_self]
        rfl
    case latched =>
        dsimp only
        rw [back?_dataWords _ _ _ htaken]
        rfl
  · have htaken : taken = 0 := by
      rw [← Nat.min_zero count]
      exact congrArg (min count) (by omega)
    have hstreaming : gpu.download.streaming = false := by
      rw [h.download, downloadAt_of_le gpu.vram (Nat.le_of_not_lt hindex)]
    rw [readData_of_not_streaming hinit hstreaming, htaken]
    exact ⟨rfl, h, fun hnone => absurd hnone (Nat.lt_irrefl 0)⟩

/-! ## All reads -/

/-- Two reads one after the other change no more than one. -/
theorem ReadFrame.trans {changed : UInt32} {first second third : Gpu}
    (h : ReadFrame changed first second) (h' : ReadFrame changed second third) :
    ReadFrame changed first third where
  rest := by
    rw [h'.rest, h.rest]
  busyReads := h'.busyReads.trans h.busyReads
  status mask hmask := (h'.status mask hmask).trans (h.status mask hmask)

/-- A chunk brings the words that the data channel hands out. -/
theorem answerRead_chunk {slots : List UInt32} {words : Array UInt32} {after : Gpu}
    (hread : gpu.readData slots.length = (.ok words, after)) :
    gpu.answerRead (.chunk slots) = (.ok words.toList, after) := by
  simp only [answerRead, readInto, hread]
  rw [← Array.length_toList, List.take_left]

/-- A single read brings the word that was latched last. -/
theorem answerRead_word {words : Array UInt32} {after : Gpu}
    (hread : gpu.readData 1 = (.ok words, after)) :
    gpu.answerRead .word = (.ok [after.dataWord], after) := by
  simp only [answerRead, readWord, hread]

/-- One read on the way through an area. -/
theorem downloading_answerRead {index : Nat} (h : Downloading area index gpu)
    (hinit : gpu.isInitialized = true) (hfits : area.Fits gpu.vram) (read : DataRead)
    (hread : read = .word → index < area.wordCount) :
    let taken := min read.count (area.wordCount - index)
    ∃ after, gpu.answerRead read = (.ok (gpu.vram.dataWords area index taken), after) ∧
      ReadFrame Status.Mask.reading gpu after ∧ Downloading area (index + taken) after := by
  obtain ⟨hwords, hafter, hlatched⟩ := downloading_readData h hinit hfits read.count
  have hframe := readFrame_readData gpu read.count
  have hpair : gpu.readData read.count =
      ((gpu.readData read.count).1, (gpu.readData read.count).2) := rfl
  rw [hwords] at hpair
  refine ⟨(gpu.readData read.count).2, ?_, hframe, hafter⟩
  cases read with
  | chunk slots => exact answerRead_chunk hpair
  | word =>
      have hone : min DataRead.word.count (area.wordCount - index) = 1 :=
        Nat.min_eq_left (Nat.sub_pos_of_lt (hread rfl))
      rw [hone] at hlatched hpair
      rw [answerRead_word hpair, hlatched Nat.one_pos, hone]
      rfl

/-- Reads that take all that is left bring the rest of the area, word by word, however they are cut.
Behind it the download is over and no pixels are announced. -/
theorem readAll_of_drains {index : Nat} (h : Downloading area index gpu)
    (hinit : gpu.isInitialized = true) (hfits : area.Fits gpu.vram) {reads : List DataRead}
    (hdrains : DataRead.drains (area.wordCount - index) reads = true) :
    ∃ after,
      gpu.readAll reads =
        (.ok (gpu.vram.dataWords area index (area.wordCount - index)), after) ∧
      ReadFrame Status.Mask.reading gpu after ∧ after.download = {} ∧
      after.status.any Status.Mask.readyForPixels = false := by
  induction reads generalizing gpu index with
  | nil =>
      have hnone : area.wordCount - index = 0 := by simpa [DataRead.drains] using hdrains
      have hended : area.wordCount ≤ index := Nat.le_of_sub_eq_zero hnone
      refine ⟨gpu, ?_, .refl _ gpu, ?_, h.ended hended⟩
      · rw [hnone]
        rfl
      · rw [h.download, downloadAt_of_le gpu.vram hended]
  | cons read reads ih =>
      obtain ⟨hword, hrest⟩ := (DataRead.drains_cons _ _ _).1 hdrains
      have hread : read = .word → index < area.wordCount := fun heq => Nat.lt_of_sub_pos (hword heq)
      obtain ⟨next, hanswer, hframe, hnext⟩ := downloading_answerRead h hinit hfits read hread
      have hvram : next.vram = gpu.vram := by rw [hframe.rest]
      have hleft : area.wordCount - (index + min read.count (area.wordCount - index)) =
          area.wordCount - index - read.count := by
        omega
      obtain ⟨after, hall, hframe', hended⟩ := ih hnext
        (by rw [isInitialized, hvram]; exact hinit) (hvram ▸ hfits) (hleft ▸ hrest)
      refine ⟨after, ?_, hframe.trans hframe', hended⟩
      have hcount : min read.count (area.wordCount - index) +
          (area.wordCount - (index + min read.count (area.wordCount - index))) =
          area.wordCount - index := by
        omega
      simp only [readAll, hanswer, hall]
      rw [hvram, Except.map, Vram.Memory.dataWords_append, hcount]

/-! ## Beginning a download -/

/-- The command that begins a download selects it and announces its pixels. -/
theorem takeChunk_download (hidle : gpu.assembler.isIdle = true)
    (hstreaming : gpu.upload.streaming = false) (position size : UInt32) :
    gpu.takeChunk [0xC0000000, position, size] =
      { gpu with
        download := downloadAt gpu.vram (.ofTransferWords gpu.vram position size) 0
        status := ((gpu.status.unset Status.Mask.available).set Status.Mask.readyForPixels).set
          Status.Mask.available } := by
  have hfits := Vram.Area.fits_ofTransferWords gpu.vram position size
  have hwords : 0 < (Vram.Area.ofTransferWords gpu.vram position size).wordCount := by
    have hpositive := hfits.pixelCount_pos
    rw [Vram.Area.wordCount]
    omega
  have hbegun := @receiveAll_download
    { gpu with status := gpu.status.unset Status.Mask.available } hidle hstreaming position size
  rw [downloadAt_of_lt gpu.vram hwords, Nat.mul_zero, ← Vram.Job.start_eq_at]
  exact takeChunk_of_receiveAll hbegun

/-- Reads behind that command that take all of its area bring the words of the area. -/
theorem readAll_download (hinit : gpu.isInitialized = true) (hidle : gpu.assembler.isIdle = true)
    (hstreaming : gpu.upload.streaming = false) (position size : UInt32) {reads : List DataRead}
    (hdrains : DataRead.drains (Vram.Area.ofTransferWords gpu.vram position size).wordCount reads =
      true) :
    let area := Vram.Area.ofTransferWords gpu.vram position size
    ∃ after,
      (gpu.takeChunk [0xC0000000, position, size]).readAll reads =
        (.ok (gpu.vram.dataWords area 0 area.wordCount), after) ∧
      after = { gpu with download := {}, dataWord := after.dataWord, status := after.status } ∧
      after.status.any Status.Mask.readyForPixels = false := by
  intro area
  have hfits : area.Fits gpu.vram := Vram.Area.fits_ofTransferWords gpu.vram position size
  have hnonempty : ¬ area.wordCount ≤ 0 := by
    have hpositive := hfits.pixelCount_pos
    rw [Vram.Area.wordCount]
    omega
  rw [takeChunk_download hidle hstreaming position size]
  obtain ⟨after, hread, hframe, hdownload, hready⟩ := @readAll_of_drains
    { gpu with
      download := downloadAt gpu.vram area 0
      status := ((gpu.status.unset Status.Mask.available).set Status.Mask.readyForPixels).set
        Status.Mask.available }
    area 0 ⟨rfl, fun hended => absurd hended hnonempty⟩ hinit hfits reads hdrains
  refine ⟨after, hread, ?_, hready⟩
  rw [← hdownload]
  exact hframe.rest

end Gpu

end GpuCore
