import GpuCore.Gpu.Feeding
import GpuCore.Proofs.DataChannel.Alignment
import GpuCore.Proofs.DataChannel.Upload

/-!
# Every word of a chunk is used once

Whatever the loop that takes a chunk does in a round, the words that are left lead to the same state
as before and will be used for the same: an upload takes words as they are received one by one, and
dropping an exhausted upload is what the next word would have done anyway.  The log of the loop is
therefore the log of words that are received in order.

Main definitions:

- `Gpu.usesOf` and `Gpu.usesFrom`: the log of words that are received in order.
- `Gpu.UsedOnce`: what may become of a word.
- `Feed.outcome`: where the words that are left lead.

Main results:

- `Gpu.storeWords_spec`: the words that an upload takes are received in order.
- `Feed.outcome_round?` and `Feed.run_eq_outcome`: one round, and the whole loop.
- `Gpu.every_word_used_once`: the loop ends, and uses every word of a chunk once.
-/

namespace GpuCore

open Vram (Job)
open Vram.Memory (SameShape sameShape_write)

/-- Nothing is left of a log without the number. -/
theorem Use.filter_index_eq_nil {uses : List Use} {index : Nat}
    (hother : ∀ use ∈ uses, use.index ≠ index) :
    uses.filter (fun use => use.index == index) = [] :=
  List.filter_eq_nil_iff.2 fun use huse hindex => hother use huse (beq_iff_eq.1 hindex)

/-! ## Pixels -/

/-- Jobs have to do with the shape of video memory only. -/
theorem Vram.Job.advance_congr {before after : Vram.Memory} (h : SameShape before after)
    (job : Job) : job.advance after = job.advance before := by
  simp only [advance, nextPosition, h.wrap_eq]

/-- A pixel leaves a job for the same area. -/
theorem Vram.Job.area_of_advance {memory : Vram.Memory} {job next : Job}
    (hnext : job.advance memory = some next) : next.area = job.area := by
  unfold advance at hnext
  split at hnext
  · cases hnext
    rfl
  · split at hnext
    · cases hnext
      rfl
    · cases hnext

namespace Gpu

variable {gpu : Gpu} {job next : Job}

/-- The last pixel of a job. -/
theorem storePixel_of_none (hlast : job.advance gpu.vram = none) (pixel : UInt16) :
    gpu.storePixel job pixel =
      emit { gpu with vram := gpu.vram.write job.position pixel, upload := {} }
        (.upload job.area) := by
  rw [← Job.advance_congr (sameShape_write gpu.vram job.position pixel)] at hlast
  rw [storePixel]
  dsimp only
  rw [hlast]

/-- A pixel that leaves a job behind. -/
theorem storePixel_of_some (hnext : job.advance gpu.vram = some next) (pixel : UInt16) :
    gpu.storePixel job pixel =
      { gpu with
        vram := gpu.vram.write job.position pixel
        upload := .ofRest (some next) } := by
  rw [← Job.advance_congr (sameShape_write gpu.vram job.position pixel)] at hnext
  rw [storePixel]
  dsimp only
  rw [hnext]

/-- Storing a pixel keeps the shape of video memory. -/
theorem sameShape_storePixel (gpu : Gpu) (job : Job) (pixel : UInt16) :
    gpu.vram.SameShape (gpu.storePixel job pixel).vram := by
  cases hnext : job.advance gpu.vram with
  | none =>
      rw [storePixel_of_none hnext]
      exact sameShape_write gpu.vram job.position pixel
  | some next =>
      rw [storePixel_of_some hnext]
      exact sameShape_write gpu.vram job.position pixel

/-- A pixel leaves the rest of its job behind. -/
theorem job_storePixel (gpu : Gpu) (job : Job) (pixel : UInt16) :
    (gpu.storePixel job pixel).upload.job = job.advance gpu.vram := by
  cases hnext : job.advance gpu.vram with
  | none =>
      rw [storePixel_of_none hnext]
      rfl
  | some next =>
      rw [storePixel_of_some hnext]
      rfl

/-- A word whose lower half is the last pixel. -/
theorem storePixels_of_none (hlast : job.advance gpu.vram = none) (word : UInt32) :
    gpu.storePixels job word = gpu.storePixel job (Word.low word) := by
  rw [storePixel_of_none hlast, storePixels, Job.advanceWord, Job.store, hlast]
  rfl

/-- A word of two pixels. -/
theorem storePixels_of_some (hnext : job.advance gpu.vram = some next) (word : UInt32) :
    gpu.storePixels job word =
      (gpu.storePixel job (Word.low word)).storePixel next (Word.high word) := by
  have hshape := sameShape_write gpu.vram job.position (Word.low word)
  rw [storePixel_of_some hnext, storePixels, Job.advanceWord, Job.store, hnext, Option.bind_some]
  cases hrest : next.advance gpu.vram with
  | none =>
      rw [storePixel_of_none (by rwa [Job.advance_congr hshape]), Job.area_of_advance hnext]
  | some rest => rw [storePixel_of_some (by rwa [Job.advance_congr hshape])]

/-- A word leaves the rest of its job behind. -/
theorem upload_storePixels (gpu : Gpu) (job : Job) (word : UInt32) :
    (gpu.storePixels job word).upload = .ofRest (job.advanceWord gpu.vram) := by
  unfold storePixels
  cases job.advanceWord gpu.vram with
  | none => rfl
  | some rest => rfl

/-! ## What a word is used for -/

/-- What a word is used for that is stored for a job. -/
def pixelUses (memory : Vram.Memory) (job : Job) (index : Nat) (word : UInt32) : List Use :=
  match job.advance memory with
  | none => [.pixel index job (Word.low word)]
  | some next => [.pixel index job (Word.low word), .pixel index next (Word.high word)]

/-- What a word is used for that is received. -/
def usesOf (gpu : Gpu) (index : Nat) (word : UInt32) : List Use :=
  if gpu.upload.streaming then
    match gpu.upload.job with
    | some job => pixelUses gpu.vram job index word
    | none => [.command index word]
  else
    [.command index word]

/-- What words are used for that are received in order, the first of which has number `index`. -/
def usesFrom (gpu : Gpu) (index : Nat) : List UInt32 → List Use
  | [] => []
  | word :: words => gpu.usesOf index word ++ (gpu.receive word).usesFrom (index + 1) words

/-- A word that an upload takes is used for its pixels. -/
theorem usesOf_of_job (hstreaming : gpu.upload.streaming = true) (hjob : gpu.upload.job = some job)
    (index : Nat) (word : UInt32) : gpu.usesOf index word = pixelUses gpu.vram job index word := by
  rw [usesOf, if_pos hstreaming, hjob]

/-- What may become of a word that is received: it is given to the packet assembler, or else its
pixels are given to the upload, which are two unless the first of them is the last of the upload. -/
inductive UsedOnce (before : Gpu) (index : Nat) (word : UInt32) : List Use → Prop where
  | command (hnone : before.upload.streaming = false ∨ before.upload.job = none) :
      UsedOnce before index word [.command index word]
  | pair {job next : Job} (hstreaming : before.upload.streaming = true)
      (hjob : before.upload.job = some job) (hnext : job.advance before.vram = some next) :
      UsedOnce before index word
        [.pixel index job (Word.low word), .pixel index next (Word.high word)]
  | single {job : Job} (hstreaming : before.upload.streaming = true)
      (hjob : before.upload.job = some job) (hlast : job.advance before.vram = none) :
      UsedOnce before index word [.pixel index job (Word.low word)]

theorem usedOnce_usesOf (gpu : Gpu) (index : Nat) (word : UInt32) :
    gpu.UsedOnce index word (gpu.usesOf index word) := by
  unfold usesOf
  split
  · next hstreaming =>
      split
      · next job hjob =>
          unfold pixelUses
          split
          · next hlast => exact .single hstreaming hjob hlast
          · next next hnext => exact .pair hstreaming hjob hnext
      · next hnone => exact .command (.inr hnone)
  · next hidle => exact .command (.inl (Bool.eq_false_iff.2 hidle))

/-- The log has the number of the word in it. -/
theorem UsedOnce.index_eq {before : Gpu} {index : Nat} {word : UInt32} {uses : List Use}
    (h : before.UsedOnce index word uses) : ∀ use ∈ uses, use.index = index := by
  cases h with
  | command _ => simp [Use.index]
  | pair _ _ _ => simp [Use.index]
  | single _ _ _ => simp [Use.index]

/-- The uses of a word carry its number. -/
theorem index_of_mem_usesOf {index : Nat} {word : UInt32} {use : Use}
    (huse : use ∈ gpu.usesOf index word) : use.index = index :=
  (gpu.usedOnce_usesOf index word).index_eq use huse

/-- Only the words are used. -/
theorem index_of_mem_usesFrom {index : Nat} {words : List UInt32} {use : Use}
    (huse : use ∈ gpu.usesFrom index words) :
    index ≤ use.index ∧ use.index < index + words.length := by
  induction words generalizing gpu index with
  | nil => cases huse
  | cons word words ih =>
      rw [usesFrom, List.mem_append] at huse
      rw [List.length_cons]
      obtain huse | huse := huse
      · have hindex := index_of_mem_usesOf huse
        omega
      · have hindex := ih huse
        omega

/-- A word is used as the state says in which it is received. -/
theorem filter_usesFrom {words : List UInt32} {offset : Nat} {word : UInt32}
    (hword : words[offset]? = some word) (index : Nat) :
    (gpu.usesFrom index words).filter (fun use => use.index == index + offset) =
      (gpu.receiveAll (words.take offset)).usesOf (index + offset) word := by
  induction words generalizing gpu index offset with
  | nil => cases hword
  | cons first words ih =>
      rw [usesFrom, List.filter_append]
      cases offset with
      | zero =>
          rw [List.getElem?_cons_zero, Option.some_inj] at hword
          subst hword
          have hfirst : (gpu.usesOf index first).filter (fun use => use.index == index + 0) =
              gpu.usesOf index first :=
            List.filter_eq_self.2 fun use huse => beq_iff_eq.2 (index_of_mem_usesOf huse)
          have hothers : ∀ use ∈ (gpu.receive first).usesFrom (index + 1) words,
              use.index ≠ index + 0 := by
            intro use huse
            have hrange := index_of_mem_usesFrom huse
            omega
          rw [hfirst, Use.filter_index_eq_nil hothers, List.append_nil]
          rfl
      | succ offset =>
          have hfirst : ∀ use ∈ gpu.usesOf index first, use.index ≠ index + (offset + 1) := by
            intro use huse
            have hsame := index_of_mem_usesOf huse
            omega
          rw [List.getElem?_cons_succ] at hword
          have hothers := @ih (gpu.receive first) offset hword (index + 1)
          rw [Nat.add_assoc, Nat.add_comm 1 offset] at hothers
          rw [Use.filter_index_eq_nil hfirst, hothers, List.nil_append]
          rfl

/-! ## The words of an upload -/

/-- Storing words takes the first of them as it is received, and goes on with the others if pixels
are left to store. -/
theorem storeWords_cons (gpu : Gpu) (job : Job) (index : Nat) (word : UInt32)
    (words : List UInt32) :
    gpu.storeWords job index (word :: words) =
      match job.advanceWord gpu.vram with
      | none =>
        { gpu := gpu.storePixels job word, taken := 1, uses := pixelUses gpu.vram job index word }
      | some rest =>
        let feed := (gpu.storePixels job word).storeWords rest (index + 1) words
        { gpu := feed.gpu
          taken := feed.taken + 1
          uses := pixelUses gpu.vram job index word ++ feed.uses } := by
  have hshape := sameShape_storePixel gpu job (Word.low word)
  rw [storeWords, pixelUses, Job.advanceWord]
  dsimp only
  rw [job_storePixel]
  cases hnext : job.advance gpu.vram with
  | none =>
      rw [storePixels_of_none hnext]
      rfl
  | some next =>
      dsimp only
      rw [storePixels_of_some hnext, job_storePixel, Job.advance_congr hshape, Option.bind_some]
      cases next.advance gpu.vram with
      | none => rfl
      | some rest => rfl

/-- The words that an upload takes are received, and used, in order. -/
theorem storeWords_spec (hstreaming : gpu.upload.streaming = true)
    (hjob : gpu.upload.job = some job) (index : Nat) (words : List UInt32) :
    let stored := gpu.storeWords job index words
    let rest := words.drop stored.taken
    stored.taken ≤ words.length ∧
      gpu.receiveAll words = stored.gpu.receiveAll rest ∧
      gpu.usesFrom index words =
        stored.uses ++ stored.gpu.usesFrom (index + stored.taken) rest := by
  induction words generalizing gpu job index with
  | nil => exact ⟨Nat.le_refl _, rfl, rfl⟩
  | cons word words ih =>
      have hreceived := receive_of_job hstreaming hjob word
      have huses := usesOf_of_job hstreaming hjob index word
      have hupload := upload_storePixels gpu job word
      rw [storeWords_cons, usesFrom, huses, hreceived]
      cases hrest : job.advanceWord gpu.vram with
      | none =>
          refine ⟨Nat.succ_le_succ (Nat.zero_le _), ?_, rfl⟩
          exact congrArg (receiveAll · words) hreceived
      | some rest =>
          rw [hrest] at hupload
          obtain ⟨htaken, hstate, hlog⟩ :=
            @ih (gpu.storePixels job word) rest (by rw [hupload]; rfl) (by rw [hupload]; rfl)
              (index + 1)
          refine ⟨Nat.succ_le_succ htaken, ?state, ?log⟩
          case state =>
              rw [← hreceived] at hstate ⊢
              exact hstate
          case log =>
              rw [hlog, ← List.append_assoc, Nat.add_right_comm]
              rfl

/-! ## Exhausted uploads -/

/-- A word drops an upload that has all its pixels, so that it makes no difference whether this was
done before. -/
theorem receive_drop (hstreaming : gpu.upload.streaming = true) (hnone : gpu.upload.job = none)
    (word : UInt32) : receive { gpu with upload := {} } word = gpu.receive word := by
  have hdropped : receive { gpu with upload := {} } word =
      interpret { gpu with upload := {} } word :=
    if_neg Bool.false_ne_true
  rw [hdropped, receive, if_pos hstreaming, hnone]

/-- An upload that has ended does not take the word, dropped or not. -/
theorem usesOf_drop (hstreaming : gpu.upload.streaming = true) (hnone : gpu.upload.job = none)
    (index : Nat) (word : UInt32) :
    usesOf { gpu with upload := {} } index word = gpu.usesOf index word := by
  rw [usesOf, usesOf, if_pos hstreaming, hnone]
  rfl

end Gpu

/-! ## Rounds -/

namespace Feed

variable {words : List UInt32} {feed next : Feed}

/-- Where the words that are not yet taken lead. -/
def outcome (words : List UInt32) (feed : Feed) : Feed where
  gpu := feed.gpu.receiveAll (words.drop feed.taken)
  taken := words.length
  uses := feed.uses ++ feed.gpu.usesFrom feed.taken (words.drop feed.taken)

/-- A round goes where the words lead. -/
theorem outcome_round? (hround : feed.round? words = some next) :
    next.taken ≤ words.length ∧ next.outcome words = feed.outcome words := by
  unfold round? at hround
  split at hround
  · next hmore =>
      have hwords : words.drop feed.taken = words[feed.taken] :: words.drop (feed.taken + 1) :=
        List.drop_eq_getElem_cons hmore
      split at hround
      · next hstreaming =>
          split at hround
          · next hnone =>
              obtain rfl := Option.some.inj hround
              refine ⟨Nat.le_of_lt hmore, ?_⟩
              rw [outcome, outcome, hwords, Gpu.receiveAll, Gpu.receiveAll, List.foldl_cons,
                List.foldl_cons, Gpu.usesFrom, Gpu.usesFrom, Gpu.receive_drop hstreaming hnone,
                Gpu.usesOf_drop hstreaming hnone]
          · next job hjob =>
              obtain rfl := Option.some.inj hround
              obtain ⟨htaken, hstate, hlog⟩ :=
                Gpu.storeWords_spec hstreaming hjob feed.taken (words.drop feed.taken)
              rw [List.length_drop] at htaken
              rw [List.drop_drop] at hstate hlog
              refine ⟨by dsimp only; omega, ?_⟩
              rw [outcome, outcome, hstate, hlog, List.append_assoc]
      · next hidle =>
          obtain rfl := Option.some.inj hround
          refine ⟨hmore, ?_⟩
          have hreceived : feed.gpu.receive words[feed.taken] =
              feed.gpu.interpret words[feed.taken] := if_neg hidle
          have huses : feed.gpu.usesOf feed.taken words[feed.taken] =
              [.command feed.taken words[feed.taken]] := if_neg hidle
          rw [outcome, outcome, hwords, Gpu.receiveAll, Gpu.receiveAll, List.foldl_cons,
            Gpu.usesFrom, hreceived, huses, List.append_assoc]
  · cases hround

/-- No round is left only behind the last word. -/
theorem le_taken_of_round? (hround : feed.round? words = none) : words.length ≤ feed.taken := by
  unfold round? at hround
  split at hround
  · split at hround
    · split at hround <;> cases hround
    · cases hround
  · next hall => exact Nat.le_of_not_lt hall

/-- The loop ends with all words taken where they lead, by induction on its rounds. -/
theorem run_eq_outcome (htaken : feed.taken ≤ words.length) :
    feed.run words = feed.outcome words := by
  fun_induction run words feed with
  | case1 feed hround =>
      have hall := le_taken_of_round? hround
      rw [outcome, List.drop_of_length_le hall, Gpu.usesFrom, List.append_nil,
        Nat.le_antisymm hall htaken]
      rfl
  | case2 feed next hround _ ih =>
      obtain ⟨hnext, hsame⟩ := outcome_round? hround
      rw [ih hnext, hsame]

end Feed

namespace Gpu

variable {gpu : Gpu}

/-- The loop receives all words in order. -/
theorem feed_eq (gpu : Gpu) (words : List UInt32) :
    gpu.feed words =
      { gpu := gpu.receiveAll words, taken := words.length, uses := gpu.usesFrom 0 words } :=
  Feed.run_eq_outcome (Nat.zero_le _)

theorem usesAt_feed {words : List UInt32} {index : Nat} {word : UInt32}
    (hword : words[index]? = some word) :
    (gpu.feed words).usesAt index = (gpu.receiveAll (words.take index)).usesOf index word := by
  have hfiltered := @filter_usesFrom gpu words index word hword 0
  rw [Nat.zero_add] at hfiltered
  rw [feed_eq]
  exact hfiltered

/-- An aligned upload takes two pixels from a word, and one from the last word of an area with an
odd number of them. -/
theorem UploadAligned.length_usesOf (h : gpu.UploadAligned) {job : Vram.Job}
    (hstreaming : gpu.upload.streaming = true) (hjob : gpu.upload.job = some job) (index : Nat)
    (word : UInt32) :
    (gpu.usesOf index word).length =
      if job.advanceWord gpu.vram = none ∧ job.area.pixelCount % 2 = 1 then 1 else 2 := by
  have hlast := (h job hjob).advance_eq_none_iff
  rw [usesOf_of_job hstreaming hjob, pixelUses]
  cases hnext : job.advance gpu.vram with
  | none => rw [if_pos (hlast.1 hnext), List.length_singleton]
  | some next =>
      rw [hnext] at hlast
      rw [if_neg fun hodd => Option.some_ne_none next (hlast.2 hodd)]
      rfl

/-- The loop that takes a chunk ends with all its words taken.  Each of them was either given to
the packet assembler or stored for the upload that was active, as the only pixel that it lacked or
as two pixels.  An upload takes pixels in pairs from its first one on, so that a single pixel is the
last of an odd number. -/
theorem every_word_used_once (hinit : gpu.isInitialized = true) (words : List UInt32) :
    let busy : Gpu := { gpu with status := gpu.status.unset Status.Mask.available }
    let fed := busy.feed words
    gpu.writeData words =
        (.ok (), { fed.gpu with status := fed.gpu.status.set Status.Mask.available }) ∧
      fed.taken = words.length ∧
      (∀ use ∈ fed.uses, use.index < words.length) ∧
      ∀ (index : Nat) (word : UInt32), words[index]? = some word →
        let before := busy.receiveAll (words.take index)
        before.UsedOnce index word (fed.usesAt index) ∧
          (gpu.Reachable ∨ gpu.upload.job = none → before.upload.streaming = true →
            ∀ job, before.upload.job = some job →
              (fed.usesAt index).length =
                if job.advanceWord before.vram = none ∧ job.area.pixelCount % 2 = 1 then 1
                else 2) := by
  intro busy fed
  have hfed : fed = _ := busy.feed_eq words
  refine ⟨?state, ?taken, ?within, fun index word hword => ⟨?once, ?odd⟩⟩
  case state =>
      rw [writeData_of_isInitialized hinit, hfed]
      rfl
  case taken => rw [hfed]
  case within =>
      intro use huse
      rw [hfed] at huse
      have hrange := index_of_mem_usesFrom huse
      rw [Nat.zero_add] at hrange
      exact hrange.2
  case once =>
      rw [usesAt_feed hword]
      exact usedOnce_usesOf _ index word
  case odd =>
      intro hgpu hstreaming job hjob
      have hbusy : busy.UploadAligned := by
        obtain hreachable | hnone := hgpu
        · exact hreachable.uploadAligned
        · exact .of_none hnone
      have hbefore := keptOnPort_uploadAligned.receiveAll (words.take index) hbusy
      rw [usesAt_feed hword]
      exact hbefore.length_usesOf hstreaming hjob index word

/-- A selected upload that has all its pixels, and a chunk that begins and finishes two more with a
command between them.  The first word is a command all the same. -/
theorem every_word_used_once_exhausted :
    let gpu := ((create {} (.create {} 1000000)).apply .powerOn).apply (.writeControl 0x04000002)
    let words : List UInt32 :=
      [0xA0000000, 0, 0x00010003, 0x22221111, 0x44443333, 0xE1000400, 0xA0000000, 0x00100010,
        0x00020001, 0x66665555, 0x02FFFFFF]
    let busy : Gpu := { gpu with status := gpu.status.unset Status.Mask.available }
    gpu.isInitialized = true ∧ gpu.Reachable ∧
      gpu.upload.streaming = true ∧ gpu.upload.job = none ∧
      (busy.feed words).taken = 11 ∧ (busy.feed words).usesAt 0 = [.command 0 0xA0000000] := by
  intro gpu words busy
  have hinit : gpu.isInitialized = true := powerOn_isInitialized _
  have hgpu : gpu.Reachable := .operate (.operate (.create {} _) rfl) rfl
  have hstreaming : gpu.upload.streaming = true := by decide
  have hnone : gpu.upload.job = none := by decide
  obtain ⟨-, htaken, -, hused⟩ := every_word_used_once hinit words
  refine ⟨hinit, hgpu, hstreaming, hnone, htaken, ?_⟩
  obtain ⟨honce, -⟩ := hused 0 0xA0000000 rfl
  have hbefore : (busy.receiveAll (words.take 0)).upload.job = none := hnone
  generalize busy.receiveAll (words.take 0) = before at honce hbefore
  generalize (busy.feed words).usesAt 0 = uses at honce ⊢
  cases honce with
  | command _ => rfl
  | pair _ hjob _ =>
      rw [hbefore] at hjob
      cases hjob
  | single _ hjob _ =>
      rw [hbefore] at hjob
      cases hjob

end Gpu

end GpuCore
