import GpuCore.Proofs.DataChannel.Download

/-!
# Cutting reads

A program may read the words of an image many at a time or one by one, and it may ask for more than
there are.  The processor only counts words: what two reads bring is what one read of their slots
together brings, wherever the cut is, and single reads bring the same words and then go on to repeat
the last one.

Main definitions:

- `Gpu.readWords`: single words, read one after another.
- `Gpu.Brings`: what a read of up to a number of words brings.

Main results:

- `Gpu.exists_brings`: every read is answered.
- `Gpu.Brings.add`: two reads act like one.
- `Gpu.Brings.readWords`: single reads bring the same words.
- `Gpu.readInto_append`: slots that are filled in two parts, at once, or word by word.
-/

namespace GpuCore.Gpu

variable {gpu : Gpu}

/-! ## Words of a job -/

section Fetching

variable {memory : Vram.Memory} {job rest : Vram.Job} {fetched words : Array UInt32}

/-- Words are fetched behind those that are there. -/
theorem fetchWords_eq_append (memory : Vram.Memory) (count : Nat) (job : Vram.Job)
    (fetched : Array UInt32) :
    fetchWords memory count job fetched =
      (fetched ++ (fetchWords memory count job #[]).1, (fetchWords memory count job #[]).2) := by
  induction count generalizing job fetched with
  | zero => simp [fetchWords]
  | succ count ih =>
      simp only [fetchWords]
      split
      · next word rest _ =>
          rw [ih rest (fetched.push word), ih rest (#[].push word)]
          simp
      · simp

/-- A job that goes on has brought all the words that were asked for; no job brings more. -/
theorem size_fetchWords (memory : Vram.Memory) (count : Nat) (job : Vram.Job) :
    (fetchWords memory count job #[]).1.size ≤ count ∧
      ((fetchWords memory count job #[]).2.isSome = true →
        (fetchWords memory count job #[]).1.size = count) := by
  induction count generalizing job with
  | zero => simp [fetchWords]
  | succ count ih =>
      simp only [fetchWords]
      split
      · next word rest _ =>
          obtain ⟨hle, hall⟩ := ih rest
          rw [fetchWords_eq_append]
          simp only [Array.size_append, Array.size_push, Array.size_empty]
          exact ⟨by omega, fun hsome => by rw [hall hsome, Nat.add_comm]⟩
      · simp

/-- What is left of a job goes on behind the words that were fetched. -/
theorem fetchWords_add_of_some {first : Nat}
    (hfirst : fetchWords memory first job fetched = (words, some rest)) (second : Nat) :
    fetchWords memory (first + second) job fetched = fetchWords memory second rest words := by
  induction first generalizing job fetched with
  | zero =>
      obtain ⟨rfl, rfl⟩ : fetched = words ∧ job = rest := by simpa [fetchWords] using hfirst
      rw [Nat.zero_add]
  | succ first ih =>
      rw [Nat.succ_add]
      simp only [fetchWords] at hfirst ⊢
      split at hfirst
      · exact ih hfirst
      · cases hfirst

/-- A job that is over brings no more words. -/
theorem fetchWords_add_of_none {first : Nat}
    (hfirst : fetchWords memory first job fetched = (words, none)) (second : Nat) :
    fetchWords memory (first + second) job fetched = (words, none) := by
  induction first generalizing job fetched with
  | zero => cases hfirst
  | succ first ih =>
      rw [Nat.succ_add]
      simp only [fetchWords] at hfirst ⊢
      split at hfirst
      · exact ih hfirst
      · exact hfirst

end Fetching

/-! ## One read -/

/-- A read of up to `count` words brings `words`. -/
structure Brings (gpu : Gpu) (count : Nat) (words : Array UInt32) (after : Gpu) : Prop where
  read : gpu.readData count = (.ok words, after)
  size_le : words.size ≤ count
  /-- Fewer words than asked for are brought only when there are no more. -/
  ended : words.size < count → after.download.streaming = false
  latched : after.dataWord = words.back?.getD gpu.dataWord

/-- Showing a busy processor as idle in between makes no difference. -/
theorem unset_set_unset (status : Status) (mask : UInt32) :
    ((status.unset mask).set mask).unset mask = status.unset mask :=
  Status.unset_set_of_bits_eq_zero _ (Status.bits_unset_self status)

/-- A read from a job in progress. -/
theorem readData_of_job (hinit : gpu.isInitialized = true) {job : Vram.Job}
    (hdownload : gpu.download = { streaming := true, job := some job }) (count : Nat) :
    let out := fetchWords gpu.vram count job #[]
    gpu.readData count =
      (.ok out.1, { gpu with
        download := .ofRest out.2
        dataWord := out.1.back?.getD gpu.dataWord
        status :=
          (if out.2.isSome then gpu.status.unset Status.Mask.idle
            else (gpu.status.unset Status.Mask.idle).unset Status.Mask.readyForPixels).set
              Status.Mask.idle }) := by
  intro out
  have hstreaming : gpu.download.streaming = true := by rw [hdownload]
  rw [readData_of_streaming hinit hstreaming]
  unfold handOut
  split
  case h_1 =>
      have hout : out = (#[], some job) := rfl
      rw [hout]
      simp only [Vram.Transfer.ofRest, Option.isSome_some, if_true, ← hdownload]
      rfl
  case h_2 hnone _ =>
      rw [hdownload] at hnone
      cases hnone
  case h_3 job' hsome _ =>
      rw [hdownload] at hsome
      cases hsome
      cases hrest : out.2 with
      | some rest => simp [out] at hrest ⊢; simp [hrest]
      | none => simp [out] at hrest ⊢; simp [hrest]

/-- A read from a selected direction without a job; a word that is asked for in vain ends it. -/
theorem readData_of_exhausted (hinit : gpu.isInitialized = true)
    (hdownload : gpu.download = { streaming := true, job := none }) (count : Nat) :
    gpu.readData count =
      (.ok #[], { gpu with
        download := if count = 0 then gpu.download else {}
        status :=
          (if count = 0 then gpu.status.unset Status.Mask.idle
            else (gpu.status.unset Status.Mask.idle).unset Status.Mask.readyForPixels).set
              Status.Mask.idle }) := by
  have hstreaming : gpu.download.streaming = true := by rw [hdownload]
  rw [readData_of_streaming hinit hstreaming]
  unfold handOut
  split
  case h_1 => rfl
  case h_2 hsome =>
      rw [if_neg hsome, if_neg hsome]
  case h_3 job' hsome _ =>
      rw [hdownload] at hsome
      cases hsome

/-- Every read is answered. -/
theorem exists_brings (hinit : gpu.isInitialized = true) (count : Nat) :
    ∃ words after, gpu.Brings count words after := by
  cases hdownload : gpu.download with
  | mk streaming job =>
  cases streaming with
  | false =>
      have hidle : gpu.download.streaming = false := by rw [hdownload]
      exact ⟨#[], gpu, readData_of_not_streaming hinit hidle count, Nat.zero_le _, fun _ => hidle,
        rfl⟩
  | true =>
      cases job with
      | none =>
          refine ⟨#[], _, readData_of_exhausted hinit hdownload count, Nat.zero_le _,
            fun hfewer => ?_, rfl⟩
          have hasked : count ≠ 0 := Nat.ne_of_gt hfewer
          dsimp only
          rw [if_neg hasked]
      | some job =>
          obtain ⟨hle, hall⟩ := size_fetchWords gpu.vram count job
          refine ⟨_, _, readData_of_job hinit hdownload count, hle, fun hfewer => ?_, rfl⟩
          cases hrest : (fetchWords gpu.vram count job #[]).2 with
          | some rest =>
              rw [hall (by rw [hrest, Option.isSome_some])] at hfewer
              exact absurd hfewer (Nat.lt_irrefl _)
          | none => rfl

/-- Reading initializes nothing anew. -/
theorem Brings.isInitialized {count : Nat} {words : Array UInt32} {after : Gpu}
    (h : gpu.Brings count words after) (hinit : gpu.isInitialized = true) :
    after.isInitialized = true := by
  have hafter : after = (gpu.readData count).2 := by rw [h.read]
  rw [hafter, (readFrame_readData gpu count).rest]
  exact hinit

/-- A read is answered in one way only. -/
theorem Brings.eq {count : Nat} {words words' : Array UInt32} {after after' : Gpu}
    (h : gpu.Brings count words after) (hread : gpu.readData count = (.ok words', after')) :
    words = words' ∧ after = after' := by
  have hsame := h.read.symm.trans hread
  simpa using hsame

/-- Every answer is what a read brings. -/
theorem Brings.of_readData (hinit : gpu.isInitialized = true) {count : Nat}
    {words : Array UInt32} {after : Gpu} (hread : gpu.readData count = (.ok words, after)) :
    gpu.Brings count words after := by
  obtain ⟨words', after', hbrings⟩ := exists_brings hinit count
  obtain ⟨rfl, rfl⟩ := hbrings.eq hread
  exact hbrings

/-! ## Two reads -/

section Two

variable {first second : Nat} {words words' : Array UInt32} {between after : Gpu}

/-- Two reads bring what one read brings.  The first one may end in the middle of the job, with it,
or ask in vain. -/
theorem readData_add (hinit : gpu.isInitialized = true) (h : gpu.Brings first words between)
    (h' : between.Brings second words' after) :
    gpu.readData (first + second) = (.ok (words ++ words'), after) := by
  have hinit' := h.isInitialized hinit
  cases hdownload : gpu.download with
  | mk streaming job =>
  cases streaming with
  | false =>
      have hidle : gpu.download.streaming = false := by rw [hdownload]
      have hnone := readData_of_not_streaming hinit hidle
      obtain ⟨rfl, rfl⟩ := h.eq (hnone first)
      obtain ⟨rfl, rfl⟩ := h'.eq (hnone second)
      rw [hnone, Array.append_empty]
  | true =>
      cases job with
      | none =>
          obtain ⟨rfl, rfl⟩ := h.eq (readData_of_exhausted hinit hdownload first)
          cases first with
          | zero =>
              have hread := readData_of_exhausted hinit' hdownload second
              obtain ⟨rfl, rfl⟩ := h'.eq hread
              rw [Nat.zero_add, readData_of_exhausted hinit hdownload]
              simp [unset_set_unset]
          | succ first =>
              obtain ⟨rfl, rfl⟩ := h'.eq (readData_of_not_streaming hinit' rfl second)
              rw [Nat.succ_add, readData_of_exhausted hinit hdownload]
              simp
      | some job =>
          obtain ⟨rfl, rfl⟩ := h.eq (readData_of_job hinit hdownload first)
          cases hfirst : fetchWords gpu.vram first job #[] with
          | mk fetched rest =>
          simp only [hfirst] at h' hinit' ⊢
          cases rest with
          | some rest =>
              obtain ⟨rfl, rfl⟩ := h'.eq (readData_of_job hinit' rfl second)
              rw [readData_of_job hinit hdownload]
              simp only [fetchWords_add_of_some hfirst, fetchWords_eq_append _ _ _ fetched]
              simp [unset_set_unset]
          | none =>
              obtain ⟨rfl, rfl⟩ := h'.eq (readData_of_not_streaming hinit' rfl second)
              rw [readData_of_job hinit hdownload]
              simp only [fetchWords_add_of_none hfirst]
              simp

/-- Two reads act like one. -/
theorem Brings.add (hinit : gpu.isInitialized = true) (h : gpu.Brings first words between)
    (h' : between.Brings second words' after) :
    gpu.Brings (first + second) (words ++ words') after :=
  .of_readData hinit (readData_add hinit h h')

end Two

/-! ## Single words -/

/-- `count` single words, read one after another. -/
def readWords (gpu : Gpu) : Nat → List (Except Fault UInt32) × Gpu
  | 0 => ([], gpu)
  | count + 1 =>
    let (word, gpu) := gpu.readWord
    let (words, gpu) := gpu.readWords count
    (word :: words, gpu)

/-- A single read brings the word that is latched then. -/
theorem Brings.readWord {words : Array UInt32} {after : Gpu} (h : gpu.Brings 1 words after) :
    gpu.readWord = (.ok after.dataWord, after) := by
  rw [Gpu.readWord, h.read]

/-- One word that is asked for comes, or the reader is idle. -/
theorem Brings.one {words : Array UInt32} {after : Gpu} (h : gpu.Brings 1 words after) :
    words = #[after.dataWord] ∨ words = #[] ∧ after.download.streaming = false := by
  have hlatched := h.latched
  rcases words with ⟨words⟩
  cases words with
  | nil => exact .inr ⟨rfl, h.ended Nat.one_pos⟩
  | cons word words =>
      have hlast : words = [] := by
        have hle := h.size_le
        simp only [List.size_toArray, List.length_cons] at hle
        exact List.eq_nil_of_length_eq_zero (by omega)
      subst hlast
      rw [hlatched]
      exact .inl rfl

/-- Single reads bring the words that one read of as many slots brings, and then repeat the one that
was latched last. -/
theorem Brings.readWords_succ (hinit : gpu.isInitialized = true) {count : Nat}
    {words : Array UInt32} {after : Gpu} (h : gpu.Brings (count + 1) words after) :
    gpu.readWords (count + 1) =
      (words.toList.map .ok ++ List.replicate (count + 1 - words.size) (.ok after.dataWord),
        after) := by
  induction count generalizing gpu words with
  | zero =>
      rw [readWords, h.readWord]
      rcases h.one with hone | ⟨rfl, -⟩
      · rw [hone]
        rfl
      · rfl
  | succ count ih =>
      obtain ⟨one, next, hone⟩ := exists_brings hinit 1
      have hinit' := hone.isInitialized hinit
      obtain ⟨rest, last, hrest⟩ := exists_brings hinit' (count + 1)
      have hboth := hone.add hinit hrest
      rw [Nat.add_comm] at hboth
      obtain ⟨rfl, rfl⟩ := h.eq hboth.read
      have hle := hrest.size_le
      rw [readWords, hone.readWord]
      dsimp only
      rw [ih hinit' hrest]
      rcases hone.one with hword | ⟨rfl, hidle⟩
      · rw [hword]
        simp
        omega
      · obtain ⟨rfl, rfl⟩ := hrest.eq (readData_of_not_streaming hinit' hidle _)
        simp [List.replicate_succ]

/-- Single reads bring the words that one read brings.  Unlike an empty read, no read at all leaves
the status register as it is. -/
theorem Brings.readWords (hinit : gpu.isInitialized = true) {count : Nat} {words : Array UInt32}
    {after : Gpu} (h : gpu.Brings count words after) :
    (gpu.readWords count).1 =
        words.toList.map .ok ++ List.replicate (count - words.size) (.ok after.dataWord) ∧
      (0 < count → (gpu.readWords count).2 = after) := by
  cases count with
  | zero =>
      have hnone : words = #[] := Array.eq_empty_of_size_eq_zero (Nat.le_zero.1 h.size_le)
      rw [hnone]
      exact ⟨rfl, fun hread => absurd hread (Nat.lt_irrefl 0)⟩
  | succ count =>
      rw [h.readWords_succ hinit]
      exact ⟨rfl, fun _ => rfl⟩

/-! ## Slots -/

/-- Slots are filled from the front. -/
theorem Brings.readInto {slots : List UInt32} {words : Array UInt32} {after : Gpu}
    (h : gpu.Brings slots.length words after) :
    gpu.readInto slots =
      (.ok words.size, words.toList ++ slots.drop words.size, after) := by
  rw [Gpu.readInto, h.read]

/-- Reads may be cut at will.  Slots that are filled in two parts get as many words, and the same
ones, as slots that are filled at once; those behind the last word keep what they held, and the
processor is left alike.  Read one by one, the same words come, and then the one that was latched
last is repeated. -/
theorem readInto_append (hinit : gpu.isInitialized = true) (slots slots' : List UInt32) :
    ∃ words words' : List UInt32, ∃ between after : Gpu,
      gpu.readInto slots = (.ok words.length, words ++ slots.drop words.length, between) ∧
      between.readInto slots' =
        (.ok words'.length, words' ++ slots'.drop words'.length, after) ∧
      gpu.readInto (slots ++ slots') =
        (.ok (words.length + words'.length),
          words ++ words' ++ (slots ++ slots').drop (words.length + words'.length), after) ∧
      words.length ≤ slots.length ∧ words'.length ≤ slots'.length ∧
      (words.length < slots.length → between.download.streaming = false) ∧
      between.dataWord = words.getLast?.getD gpu.dataWord ∧
      (gpu.readWords slots.length).1 =
        words.map .ok ++ List.replicate (slots.length - words.length) (.ok between.dataWord) ∧
      (0 < slots.length → (gpu.readWords slots.length).2 = between) := by
  obtain ⟨words, between, h⟩ := exists_brings hinit slots.length
  obtain ⟨words', after, h'⟩ := exists_brings (h.isInitialized hinit) slots'.length
  have hboth := h.add hinit h'
  rw [← List.length_append] at hboth
  obtain ⟨hwords, hsingle⟩ := h.readWords hinit
  refine ⟨words.toList, words'.toList, between, after, h.readInto, h'.readInto, ?both, h.size_le,
    h'.size_le, h.ended, ?latched, hwords, hsingle⟩
  case both =>
      rw [hboth.readInto, Array.size_append, Array.toList_append]
      rfl
  case latched =>
      rw [h.latched, Array.getLast?_toList]

/-- Three pixels are two words: one slot is filled, then one of two. -/
theorem readInto_append_odd :
    let gpu := (create {} (.create {} 1000000)).powerOn.takeChunk [0xC0000000, 0, 0x00010003]
    let slots : List UInt32 := [7]
    let slots' : List UInt32 := [8, 9]
    gpu.isInitialized = true ∧ gpu.download.streaming = true ∧
      ∃ words words' : List UInt32, ∃ between after : Gpu,
        gpu.readInto slots = (.ok words.length, words ++ slots.drop words.length, between) ∧
        between.readInto slots' =
          (.ok words'.length, words' ++ slots'.drop words'.length, after) ∧
        gpu.readInto (slots ++ slots') =
          (.ok (words.length + words'.length),
            words ++ words' ++ (slots ++ slots').drop (words.length + words'.length), after) ∧
        (gpu.readWords slots.length).1 =
          words.map .ok ++ List.replicate (slots.length - words.length) (.ok between.dataWord) := by
  intro gpu slots slots'
  have hbegun : gpu = _ := takeChunk_download rfl rfl 0 0x00010003
  have hinit : gpu.isInitialized = true := by
    rw [hbegun]
    exact powerOn_isInitialized _
  have hstreaming : gpu.download.streaming = true := by
    rw [hbegun]
    rfl
  obtain ⟨words, words', between, after, hfirst, hsecond, hboth, -, -, -, -, hsingle, -⟩ :=
    readInto_append hinit slots slots'
  exact ⟨hinit, hstreaming, words, words', between, after, hfirst, hsecond, hboth, hsingle⟩

end GpuCore.Gpu
