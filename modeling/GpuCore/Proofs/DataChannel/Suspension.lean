import GpuCore.Proofs.DataChannel.Reading
import GpuCore.Proofs.DataChannel.Selection
import GpuCore.Proofs.DataChannel.Upload
import GpuCore.Proofs.Vram.Progress

/-!
# Suspending a transfer

A program may select another direction in the middle of a transfer, and select the right one again
before it goes on.  No pixel is lost or doubled by that: beside a processor that is given the same
words without interruption, the suspended one always has the same job in front of it.

Main definitions:

- `Piece` and `Piece.directed`: an access to the data channel with the control words in front of it,
  and whether a direction is selected at every access.
- `Gpu.writePieces` and `Gpu.readPieces`: an interrupted upload and an interrupted download.
- `Gpu.UploadsAlike` and `Gpu.DownloadsAlike`: the suspended processor beside the other one.

Main results:

- `Gpu.UploadsAlike.writePieces` and `Gpu.DownloadsAlike.readPieces`: both stay side by side.
- `Gpu.suspension_harmless`: an interrupted transfer does what the uninterrupted one does.
-/

namespace GpuCore

/-! ## Pieces of a transfer -/

/-- An access to the data channel, and the control words in front of it. -/
structure Piece (α : Type) where
  controls : List UInt32
  access : α
deriving DecidableEq, Repr, Inhabited

namespace Piece

variable {α : Type}

/-- No control word of the pieces resets or drops. -/
def keepTransfers (pieces : List (Piece α)) : Bool :=
  pieces.all fun piece => piece.controls.all Gpu.keepsTransfers

/-- Whether a direction is selected at every access that transfers something, when it was or was not
in front of the first piece. -/
def directed (direction : UInt32) (transfers : α → Bool) (selected : Bool) :
    List (Piece α) → Bool
  | [] => true
  | piece :: pieces =>
    let selected := Gpu.selects direction selected piece.controls
    (!transfers piece.access || selected) && directed direction transfers selected pieces

theorem keepTransfers_cons {piece : Piece α} {pieces : List (Piece α)} :
    keepTransfers (piece :: pieces) = true ↔
      (∀ word ∈ piece.controls, Gpu.keepsTransfers word = true) ∧ keepTransfers pieces = true := by
  simp [keepTransfers]

theorem directed_cons {direction : UInt32} {transfers : α → Bool} {selected : Bool}
    {piece : Piece α} {pieces : List (Piece α)} :
    directed direction transfers selected (piece :: pieces) = true ↔
      (transfers piece.access = true → Gpu.selects direction selected piece.controls = true) ∧
      directed direction transfers (Gpu.selects direction selected piece.controls) pieces =
        true := by
  cases htransfers : transfers piece.access <;> simp [directed, htransfers]

end Piece

namespace Gpu

/-- Write the words of the pieces, each behind its control words: what every write answers, and the
state behind the last one. -/
def writePieces (gpu : Gpu) : List (Piece (List UInt32)) → List (Except Fault Unit) × Gpu
  | [] => ([], gpu)
  | piece :: pieces =>
    let (answer, gpu) := (gpu.writeControls piece.controls).writeData piece.access
    let (answers, gpu) := gpu.writePieces pieces
    (answer :: answers, gpu)

/-- Read what the pieces ask for, each behind its control words, up to the first read that fails. -/
def readPieces (gpu : Gpu) : List (Piece DataRead) → Except Fault (List UInt32) × Gpu
  | [] => (.ok [], gpu)
  | piece :: pieces =>
    match (gpu.writeControls piece.controls).answerRead piece.access with
    | (.ok words, gpu) =>
      let (rest, gpu) := gpu.readPieces pieces
      (rest.map fun rest => words ++ rest, gpu)
    | (.error fault, gpu) => (.error fault, gpu)

/-- The processor with its upload selected. -/
def selectUpload (gpu : Gpu) : Gpu :=
  { gpu with upload := { gpu.upload with streaming := true } }

/-- The processor with its download selected. -/
def selectDownload (gpu : Gpu) : Gpu :=
  { gpu with download := { gpu.download with streaming := true } }

variable {gpu whole : Gpu}

/-! ## Uploads side by side -/

/-- A processor whose upload may be suspended, beside one whose upload is selected as long as it has
a job. -/
structure UploadsAlike (gpu whole : Gpu) : Prop where
  vram : gpu.vram = whole.vram
  assembler : gpu.assembler = whole.assembler
  uploads : gpu.uploads = whole.uploads
  job : gpu.upload.job = whole.upload.job
  selected : whole.upload.streaming = whole.upload.job.isSome
  within : ∀ job, whole.upload.job = some job → job.Within whole.vram

namespace UploadsAlike

/-- Control words may suspend the upload. -/
theorem writeControls (h : UploadsAlike gpu whole) {words : List UInt32}
    (hkeeps : ∀ word ∈ words, keepsTransfers word = true) :
    UploadsAlike (gpu.writeControls words) whole := by
  have hframe := selectionFrame_writeControls gpu hkeeps
  exact { h with
    vram := hframe.vram.trans h.vram
    assembler := hframe.assembler.trans h.assembler
    uploads := hframe.uploads.trans h.uploads
    job := by
      rw [hframe.upload]
      exact h.job }

/-- A data word is stored on both sides, and both transfers are the same behind it. -/
theorem receive (h : UploadsAlike gpu whole) (hstreaming : gpu.upload.streaming = true)
    (hleft : 0 < whole.upload.wordsLeft) (word : UInt32) :
    UploadsAlike (gpu.receive word) (whole.receive word) ∧
      (gpu.receive word).upload = (whole.receive word).upload ∧
      (whole.receive word).upload.wordsLeft + 1 = whole.upload.wordsLeft := by
  obtain ⟨job, hjob⟩ := Vram.Transfer.exists_job_of_pos hleft
  have hwithin := h.within job hjob
  have hselected : whole.upload.streaming = true := by rw [h.selected, hjob, Option.isSome_some]
  have hwords := hwithin.wordsLeft_advanceWord
  have hheight := (Vram.Memory.sameShape_store job whole.vram word).1
  have hcount : whole.upload.wordsLeft = job.wordsLeft := by
    rw [Vram.Transfer.wordsLeft, hjob]
    rfl
  rw [receive_of_job hstreaming (h.job.trans hjob), receive_of_job hselected hjob, hcount, ← hwords]
  unfold storePixels
  rw [h.vram]
  cases hrest : job.advanceWord whole.vram with
  | some rest =>
      refine ⟨⟨rfl, h.assembler, h.uploads, rfl, rfl, fun next hnext => ?_⟩, rfl, rfl⟩
      cases hnext
      exact (hwithin.advanceWord hrest).of_height hheight
  | none =>
      refine ⟨⟨rfl, h.assembler, ?_, rfl, rfl, fun next hnext => by cases hnext⟩, rfl, rfl⟩
      have huploads := h.uploads
      unfold Gpu.uploads at huploads ⊢
      simp [emit, huploads]

/-- As many data words as are left may be written. -/
theorem receiveAll (h : UploadsAlike gpu whole) {words : List UInt32}
    (hstreaming : words ≠ [] → gpu.upload.streaming = true)
    (hleft : words.length ≤ whole.upload.wordsLeft) :
    UploadsAlike (gpu.receiveAll words) (whole.receiveAll words) ∧
      (words ≠ [] → (gpu.receiveAll words).upload = (whole.receiveAll words).upload) ∧
      (whole.receiveAll words).upload.wordsLeft + words.length = whole.upload.wordsLeft := by
  induction words generalizing gpu whole with
  | nil => exact ⟨h, fun hnone => absurd rfl hnone, rfl⟩
  | cons word words ih =>
      rw [List.length_cons] at hleft ⊢
      obtain ⟨hfirst, hsame, hcount⟩ :=
        h.receive (hstreaming (List.cons_ne_nil _ _)) (by omega) word
      have hstreaming' : words ≠ [] → (gpu.receive word).upload.streaming = true := by
        intro hmore
        have hpositive := List.length_pos_iff.2 hmore
        obtain ⟨job, hjob⟩ := Vram.Transfer.exists_job_of_pos
          (show 0 < (whole.receive word).upload.wordsLeft by omega)
        rw [hsame, hfirst.selected, hjob, Option.isSome_some]
      obtain ⟨hall, hsame', hcount'⟩ := ih hfirst hstreaming' (by omega)
      refine ⟨hall, fun _ => ?_, ?_⟩
      · by_cases hmore : words = []
        · rw [hmore]
          exact hsame
        · exact hsame' hmore
      · rw [← hcount, ← hcount', Nat.add_assoc]
        rfl

/-- What the status registers show makes no difference. -/
theorem withStatus (h : UploadsAlike gpu whole) (status status' : Status) :
    UploadsAlike { gpu with status := status } { whole with status := status' } :=
  { h with }

/-- A chunk with no more words than are left may be written. -/
theorem takeChunk (h : UploadsAlike gpu whole) {words : List UInt32}
    (hstreaming : words ≠ [] → gpu.upload.streaming = true)
    (hleft : words.length ≤ whole.upload.wordsLeft) :
    UploadsAlike (gpu.takeChunk words) (whole.takeChunk words) ∧
      (words ≠ [] → (gpu.takeChunk words).upload = (whole.takeChunk words).upload) ∧
      (whole.takeChunk words).upload.wordsLeft + words.length = whole.upload.wordsLeft := by
  obtain ⟨hall, hsame, hcount⟩ :=
    (h.withStatus (gpu.status.unset Status.Mask.available)
      (whole.status.unset Status.Mask.available)).receiveAll hstreaming hleft
  exact ⟨hall.withStatus _ _, hsame, hcount⟩

/-- One piece: its words are taken by both, and while a job is left the direction that was selected
last is still selected. -/
theorem writePiece (h : UploadsAlike gpu whole) (hinit : gpu.isInitialized = true)
    {selected : Bool} (hselected : gpu.upload.job.isSome = true → gpu.upload.streaming = selected)
    {piece : Piece (List UInt32)}
    (hkeeps : ∀ word ∈ piece.controls, keepsTransfers word = true)
    (hdirected : piece.access ≠ [] → selects 2 selected piece.controls = true)
    (hleft : piece.access.length ≤ whole.upload.wordsLeft) :
    ∃ after, (gpu.writeControls piece.controls).writeData piece.access = (.ok (), after) ∧
      after.isInitialized = true ∧ UploadsAlike after (whole.takeChunk piece.access) ∧
      (after.upload.job.isSome = true →
        after.upload.streaming = selects 2 selected piece.controls) ∧
      (piece.access ≠ [] → after.upload = (whole.takeChunk piece.access).upload) ∧
      (whole.takeChunk piece.access).upload.wordsLeft + piece.access.length =
        whole.upload.wordsLeft := by
  have hframe := selectionFrame_writeControls gpu hkeeps
  have hbetween := h.writeControls hkeeps
  have hinit' := hframe.isInitialized.trans hinit
  have hcurrent (hjob : gpu.upload.job.isSome = true) :
      (gpu.writeControls piece.controls).upload.streaming =
        selects 2 selected piece.controls := by
    rw [hframe.upload, hselected hjob]
  have hstreaming (hmore : piece.access ≠ []) :
      (gpu.writeControls piece.controls).upload.streaming = true := by
    have hpositive := List.length_pos_iff.2 hmore
    obtain ⟨job, hjob⟩ := Vram.Transfer.exists_job_of_pos (Nat.lt_of_lt_of_le hpositive hleft)
    rw [hcurrent (by rw [h.job, hjob, Option.isSome_some]), hdirected hmore]
  obtain ⟨hafter, hsame, hcount⟩ := hbetween.takeChunk hstreaming hleft
  refine ⟨_, writeData_of_isInitialized hinit' piece.access, ?_, hafter, fun hjob => ?_, hsame,
    hcount⟩
  · rw [takeChunk_isInitialized, hinit']
  · by_cases hmore : piece.access = []
    · rw [hmore] at hjob ⊢
      have hsamejob := h.job.trans hbetween.job.symm
      exact hcurrent (hsamejob ▸ hjob)
    · rw [hsame hmore] at hjob ⊢
      rw [hafter.selected, hjob, hdirected hmore]

/-- Any number of pieces. -/
theorem writePieces (h : UploadsAlike gpu whole) (hinit : gpu.isInitialized = true)
    {selected : Bool} (hselected : gpu.upload.job.isSome = true → gpu.upload.streaming = selected)
    {pieces : List (Piece (List UInt32))} (hkeeps : Piece.keepTransfers pieces = true)
    (hdirected : Piece.directed 2 (!·.isEmpty) selected pieces = true)
    (hleft : (pieces.flatMap Piece.access).length ≤ whole.upload.wordsLeft) :
    ∃ after, gpu.writePieces pieces = (List.replicate pieces.length (.ok ()), after) ∧
      UploadsAlike after (whole.takeChunk (pieces.flatMap Piece.access)) ∧
      ∀ piece, pieces.getLast? = some piece → piece.access ≠ [] →
        after.upload = (whole.takeChunk (pieces.flatMap Piece.access)).upload := by
  induction pieces generalizing gpu whole selected with
  | nil =>
      refine ⟨gpu, rfl, ?_, fun piece hlast => by cases hlast⟩
      exact h.withStatus gpu.status _
  | cons piece pieces ih =>
      obtain ⟨hkeep, hkeeps'⟩ := Piece.keepTransfers_cons.1 hkeeps
      obtain ⟨hdirect, hdirected'⟩ := Piece.directed_cons.1 hdirected
      rw [List.flatMap_cons, List.length_append] at hleft
      have hdirect' (hmore : piece.access ≠ []) : selects 2 selected piece.controls = true :=
        hdirect (by simpa using hmore)
      obtain ⟨next, hwrite, hinit', hnext, hselected', hsame, hcount⟩ :=
        h.writePiece hinit hselected hkeep hdirect' (by omega)
      obtain ⟨after, hrest, hafter, hlast⟩ := ih hnext hinit' hselected' hkeeps' hdirected'
        (by omega)
      rw [List.flatMap_cons, takeChunk_append]
      refine ⟨after, ?_, hafter, fun last hmem hmore => ?_⟩
      · simp [Gpu.writePieces, hwrite, hrest, List.replicate_succ]
      · cases pieces with
        | nil =>
            cases hmem
            cases hrest
            exact hsame hmore
        | cons second pieces => exact hlast last hmem hmore

end UploadsAlike

/-! ## Downloads side by side -/

/-- Fetching words takes them from those that are left. -/
theorem wordsLeft_fetchWords {memory : Vram.Memory} {job : Vram.Job} (h : job.Within memory)
    (count : Nat) :
    (fetchWords memory count job #[]).1.size +
        (Vram.Transfer.ofRest (fetchWords memory count job #[]).2).wordsLeft = job.wordsLeft := by
  induction count generalizing job with
  | zero =>
      rw [fetchWords, Array.size_empty, Nat.zero_add]
      rfl
  | succ count ih =>
      have hwords := h.wordsLeft_advanceWord
      simp only [fetchWords]
      split
      · next word rest hfetched =>
          have hrest : job.advanceWord memory = some rest := congrArg Prod.snd hfetched
          have hleft := ih (h.advanceWord hrest)
          have hjob : (Vram.Transfer.ofRest (some rest)).wordsLeft = rest.wordsLeft := rfl
          rw [hrest, hjob] at hwords
          rw [fetchWords_eq_append]
          simp only [Array.size_append, Array.size_push, Array.size_empty]
          omega
      · next word hfetched =>
          have hrest : job.advanceWord memory = none := congrArg Prod.snd hfetched
          rw [hrest] at hwords
          rw [← hwords, Nat.add_comm, Array.size_push, Array.size_empty]

/-- A processor whose download may be suspended, beside one whose download is selected as long as it
has a job. -/
structure DownloadsAlike (gpu whole : Gpu) : Prop where
  vram : gpu.vram = whole.vram
  job : gpu.download.job = whole.download.job
  selected : whole.download.streaming = whole.download.job.isSome
  within : ∀ job, whole.download.job = some job → job.Within whole.vram

namespace DownloadsAlike

theorem isInitialized (h : DownloadsAlike gpu whole) :
    gpu.isInitialized = whole.isInitialized := by
  rw [Gpu.isInitialized, h.vram]
  rfl

/-- Control words may suspend the download. -/
theorem writeControls (h : DownloadsAlike gpu whole) {words : List UInt32}
    (hkeeps : ∀ word ∈ words, keepsTransfers word = true) :
    DownloadsAlike (gpu.writeControls words) whole := by
  have hframe := selectionFrame_writeControls gpu hkeeps
  exact { h with
    vram := hframe.vram.trans h.vram
    job := by
      rw [hframe.download]
      exact h.job }

/-- Both sides after a read: they have brought the same words, and the last one is latched on both
sides. -/
structure ReadsAlike (gpu whole : Gpu) (count : Nat) (words : Array UInt32) (after after' : Gpu) :
    Prop where
  read : gpu.readData count = (.ok words, after)
  read_whole : whole.readData count = (.ok words, after')
  alike : DownloadsAlike after after'
  latched : 0 < words.size → after.dataWord = after'.dataWord
  left : words.size + after'.download.wordsLeft = whole.download.wordsLeft
  selected : after.download.job.isSome = true → after.download.streaming = true

/-- Without a job nothing is read. -/
theorem readData_of_none (h : DownloadsAlike gpu whole) (hinit : gpu.isInitialized = true)
    (hinit' : whole.isInitialized = true) (hjob : whole.download.job = none) (count : Nat) :
    ∃ after, ReadsAlike gpu whole count #[] after whole := by
  have hidle : whole.download.streaming = false := by rw [h.selected, hjob, Option.isSome_none]
  have hread := readData_of_not_streaming hinit' hidle count
  have hleft : (#[] : Array UInt32).size + whole.download.wordsLeft = whole.download.wordsLeft :=
    Nat.zero_add _
  cases hdownload : gpu.download with
  | mk streaming job =>
  have hnone : job = none := by
    have hsame := h.job
    rw [hdownload, hjob] at hsame
    exact hsame
  subst hnone
  cases streaming with
  | false =>
      have hsuspended : gpu.download.streaming = false := by rw [hdownload]
      refine ⟨gpu, readData_of_not_streaming hinit hsuspended count, hread, h,
        fun hsome => absurd hsome (Nat.lt_irrefl 0), hleft, fun hsome => ?_⟩
      rw [hdownload] at hsome
      cases hsome
  | true =>
      have hover : (if count = 0 then gpu.download else {}).job = none := by
        split
        · rw [hdownload]
        · rfl
      refine ⟨_, readData_of_exhausted hinit hdownload count, hread,
        { h with job := hover.trans hjob.symm }, fun hsome => absurd hsome (Nat.lt_irrefl 0), hleft,
        fun hsome => ?_⟩
      dsimp only at hsome
      rw [hover] at hsome
      cases hsome

/-- A selected job brings the same words on both sides. -/
theorem readData_of_some (h : DownloadsAlike gpu whole) (hinit : gpu.isInitialized = true)
    (hinit' : whole.isInitialized = true) (hstreaming : gpu.download.streaming = true)
    {job : Vram.Job} (hjob : whole.download.job = some job) (count : Nat) :
    ∃ words after after', ReadsAlike gpu whole count words after after' := by
  have hdownload' : whole.download = { streaming := true, job := some job } := by
    rw [← hjob, ← Option.isSome_some (a := job), ← hjob, ← h.selected]
  have hdownload : gpu.download = { streaming := true, job := some job } := by
    rw [← hjob, ← h.job, ← hstreaming]
  have hread := readData_of_job hinit hdownload count
  have hread' := readData_of_job hinit' hdownload' count
  rw [h.vram] at hread
  have hwithin := h.within job hjob
  have hleft := wordsLeft_fetchWords hwithin count
  refine ⟨_, _, _, hread, hread', ⟨rfl, rfl, rfl, fun next hnext => ?within⟩, fun hsome => ?latched,
    ?left, fun hsome => hsome⟩
  case within => exact hwithin.fetchWords count #[] hnext
  case latched =>
      dsimp only
      cases hlast : (fetchWords whole.vram count job #[]).1.back? with
      | some word => rfl
      | none =>
          rw [Array.back?_eq_none_iff.1 hlast] at hsome
          contradiction
  case left =>
      have hcount : whole.download.wordsLeft = job.wordsLeft := by rw [hdownload']; rfl
      rw [hcount]
      exact hleft

/-- A read brings the same words on both sides if the download is selected. -/
theorem readData (h : DownloadsAlike gpu whole) (hinit : gpu.isInitialized = true)
    (hstreaming : gpu.download.job.isSome = true → gpu.download.streaming = true) (count : Nat) :
    ∃ words after after', ReadsAlike gpu whole count words after after' := by
  have hinit' := h.isInitialized.symm.trans hinit
  cases hjob : whole.download.job with
  | none =>
      obtain ⟨after, hread⟩ := h.readData_of_none hinit hinit' hjob count
      exact ⟨_, _, _, hread⟩
  | some job =>
      have hselected := hstreaming (by rw [h.job, hjob, Option.isSome_some])
      exact h.readData_of_some hinit hinit' hselected hjob count

/-- A read takes as many words from those that are left as it asks for, if there are as many. -/
theorem ReadsAlike.wordsLeft {count : Nat} {words : Array UInt32} {after after' : Gpu}
    (h : ReadsAlike gpu whole count words after after') (hinit' : whole.isInitialized = true) :
    after'.download.wordsLeft = whole.download.wordsLeft - count := by
  have hbrings := Brings.of_readData hinit' h.read_whole
  have hleft := h.left
  have hle := hbrings.size_le
  by_cases hall : words.size = count
  · omega
  · have hended := hbrings.ended (Nat.lt_of_le_of_ne hle hall)
    rw [h.alike.selected] at hended
    have hnone : after'.download.wordsLeft = 0 := by
      have hjob : after'.download.job = none := by simpa using hended
      rw [Vram.Transfer.wordsLeft, hjob]
      rfl
    omega

/-- One piece: the read behind its control words brings the same words on both sides. -/
theorem readPiece (h : DownloadsAlike gpu whole) (hinit : gpu.isInitialized = true)
    {selected : Bool}
    (hselected : gpu.download.job.isSome = true → gpu.download.streaming = selected)
    {piece : Piece DataRead}
    (hkeeps : ∀ word ∈ piece.controls, keepsTransfers word = true)
    (hdirected : selects 3 selected piece.controls = true)
    (hword : piece.access = .word → 0 < whole.download.wordsLeft) :
    ∃ words after after',
      (gpu.writeControls piece.controls).answerRead piece.access = (.ok words, after) ∧
      whole.answerRead piece.access = (.ok words, after') ∧ after.isInitialized = true ∧
      DownloadsAlike after after' ∧
      after'.download.wordsLeft = whole.download.wordsLeft - piece.access.count ∧
      (after.download.job.isSome = true →
        after.download.streaming = selects 3 selected piece.controls) := by
  have hframe := selectionFrame_writeControls gpu hkeeps
  have hbetween := h.writeControls hkeeps
  have hinit' := hframe.isInitialized.trans hinit
  have hcurrent (hjob : gpu.download.job.isSome = true) :
      (gpu.writeControls piece.controls).download.streaming =
        selects 3 selected piece.controls := by
    rw [hframe.download, hselected hjob]
  have hsamejob := h.job.trans hbetween.job.symm
  have hstreaming (hjob : (gpu.writeControls piece.controls).download.job.isSome = true) :
      (gpu.writeControls piece.controls).download.streaming = true := by
    rw [hcurrent (hsamejob ▸ hjob), hdirected]
  obtain ⟨words, after, after', hread⟩ := hbetween.readData hinit' hstreaming piece.access.count
  have hwhole := h.isInitialized.symm.trans hinit
  have hafter := (Brings.of_readData hinit' hread.read).isInitialized hinit'
  have hleft := hread.wordsLeft hwhole
  have hselected' (hjob : after.download.job.isSome = true) :
      after.download.streaming = selects 3 selected piece.controls := by
    rw [hread.selected hjob, hdirected]
  cases hpiece : piece.access with
  | chunk slots =>
      rw [hpiece] at hread hleft
      exact ⟨words.toList, after, after', answerRead_chunk hread.read,
        answerRead_chunk hread.read_whole, hafter, hread.alike, hleft, hselected'⟩
  | word =>
      rw [hpiece] at hread hleft
      have hone : 0 < words.size := by
        have hsome := hword hpiece
        have htaken := hread.left
        rw [DataRead.count] at hleft
        omega
      refine ⟨[after.dataWord], after, after', answerRead_word hread.read, ?_, hafter, hread.alike,
        hleft, hselected'⟩
      rw [answerRead_word hread.read_whole, hread.latched hone]

/-- Any number of pieces, of which a single word is asked for only as long as one is left. -/
theorem readPieces (h : DownloadsAlike gpu whole) (hinit : gpu.isInitialized = true)
    {selected : Bool}
    (hselected : gpu.download.job.isSome = true → gpu.download.streaming = selected)
    {pieces : List (Piece DataRead)} (hkeeps : Piece.keepTransfers pieces = true)
    (hdirected : Piece.directed 3 (fun _ => true) selected pieces = true) {left : Nat}
    (hdrains : DataRead.drains left (pieces.map Piece.access) = true)
    (hleft : left ≤ whole.download.wordsLeft) :
    ∃ words after after', gpu.readPieces pieces = (.ok words, after) ∧
      whole.readAll (pieces.map Piece.access) = (.ok words, after') ∧
      DownloadsAlike after after' := by
  induction pieces generalizing gpu whole selected left with
  | nil => exact ⟨[], gpu, whole, rfl, rfl, h⟩
  | cons piece pieces ih =>
      obtain ⟨hkeep, hkeeps'⟩ := Piece.keepTransfers_cons.1 hkeeps
      obtain ⟨hdirect, hdirected'⟩ := Piece.directed_cons.1 hdirected
      obtain ⟨hword, hdrains'⟩ := (DataRead.drains_cons _ _ _).1 hdrains
      obtain ⟨words, next, next', hread, hread', hinit', hnext, hcount, hselected'⟩ :=
        h.readPiece hinit hselected hkeep (hdirect rfl)
          fun hsingle => Nat.lt_of_lt_of_le (hword hsingle) hleft
      obtain ⟨rest, after, after', hrest, hrest', hafter⟩ :=
        ih hnext hinit' hselected' hkeeps' hdirected' hdrains' (by omega)
      refine ⟨words ++ rest, after, after', ?_, ?_, hafter⟩
      · simp [Gpu.readPieces, hread, hrest, Except.map]
      · simp [readAll, hread', hrest', Except.map]

end DownloadsAlike

/-! ## Interrupted transfers -/

/-- Selecting other directions in the middle of a transfer neither loses nor doubles a word, as long
as the right direction is selected again before the next access.  Beginning a transfer selects it,
so that what is selected in front of the first piece is what was selected last since then.  The jobs
are those of areas, as `Gpu.Streams.run` shows them to be behind any operations.

An upload whose words come in pieces, with control words in front of every piece that neither reset
nor drop, ends with the pixels, the packet in progress and the reports of an upload whose words come
at once, and with the same counters.  The selection too is the same, unless another direction was
selected behind the last word.  A download that is read in pieces brings the words of a download
that is only read. -/
theorem suspension_harmless (hinit : gpu.isInitialized = true) :
    (∀ job, gpu.upload.job = some job → job.Within gpu.vram →
      ∀ pieces : List (Piece (List UInt32)), Piece.keepTransfers pieces = true →
        Piece.directed 2 (!·.isEmpty) gpu.upload.streaming pieces = true →
        (pieces.flatMap Piece.access).length ≤ job.wordsLeft →
        ∃ after whole,
          gpu.writePieces pieces = (List.replicate pieces.length (.ok ()), after) ∧
          gpu.selectUpload.writeData (pieces.flatMap Piece.access) = (.ok (), whole) ∧
          after.vram = whole.vram ∧ after.assembler = whole.assembler ∧
          after.uploads = whole.uploads ∧ after.upload.job = whole.upload.job ∧
          ∀ piece, pieces.getLast? = some piece → piece.access ≠ [] →
            after.upload = whole.upload) ∧
    ∀ job, gpu.download.job = some job → job.Within gpu.vram →
      ∀ pieces : List (Piece DataRead), Piece.keepTransfers pieces = true →
        Piece.directed 3 (fun _ => true) gpu.download.streaming pieces = true →
        ∀ left ≤ job.wordsLeft, DataRead.drains left (pieces.map Piece.access) = true →
        ∃ words after whole, gpu.readPieces pieces = (.ok words, after) ∧
          gpu.selectDownload.readAll (pieces.map Piece.access) = (.ok words, whole) ∧
          after.vram = whole.vram ∧ after.download.job = whole.download.job := by
  constructor
  · intro job hjob hwithin pieces hkeeps hdirected hleft
    have halike : UploadsAlike gpu gpu.selectUpload :=
      { vram := rfl
        assembler := rfl
        uploads := rfl
        job := rfl
        selected := by simp [selectUpload, hjob]
        within := fun next hnext => by
          rw [selectUpload, hjob] at hnext
          cases hnext
          exact hwithin }
    have hcount : gpu.selectUpload.upload.wordsLeft = job.wordsLeft := by
      simp [Vram.Transfer.wordsLeft, selectUpload, hjob]
    obtain ⟨after, hwrite, hafter, hlast⟩ :=
      halike.writePieces hinit (fun _ => rfl) hkeeps hdirected (by rw [hcount]; exact hleft)
    have hwhole : gpu.selectUpload.isInitialized = true := hinit
    exact ⟨after, _, hwrite, writeData_of_isInitialized hwhole _, hafter.vram, hafter.assembler,
      hafter.uploads, hafter.job, hlast⟩
  · intro job hjob hwithin pieces hkeeps hdirected left hleft hdrains
    have halike : DownloadsAlike gpu gpu.selectDownload :=
      { vram := rfl
        job := rfl
        selected := by simp [selectDownload, hjob]
        within := fun next hnext => by
          rw [selectDownload, hjob] at hnext
          cases hnext
          exact hwithin }
    have hcount : gpu.selectDownload.download.wordsLeft = job.wordsLeft := by
      simp [Vram.Transfer.wordsLeft, selectDownload, hjob]
    obtain ⟨words, after, whole, hread, hread', hafter⟩ :=
      halike.readPieces hinit (fun _ => rfl) hkeeps hdirected hdrains (by rw [hcount]; exact hleft)
    exact ⟨words, after, whole, hread, hread', hafter.vram, hafter.job⟩

/-- Three pixels in and three pixels out, both begun, and each suspended behind its first word. -/
theorem suspension_harmless_both :
    let start := (create {} (.create {} 1000000)).powerOn
    let gpu := (start.takeChunk [0xC0000000, 0, 0x00010003]).takeChunk [0xA0000000, 0, 0x00010003]
    let job := Vram.Job.start start.vram (.ofTransferWords start.vram 0 0x00010003)
    let chunks : List (Piece (List UInt32)) :=
      [⟨[], [0x00020001]⟩, ⟨[0x04000003, 0x10000007, 0x04000002], [0x00040003]⟩]
    let reads : List (Piece DataRead) :=
      [⟨[0x04000003], .word⟩, ⟨[0x04000002, 0x10000007, 0x04000003], .chunk [7, 7]⟩]
    gpu.isInitialized = true ∧ gpu.upload.job = some job ∧ gpu.download.job = some job ∧
      job.Within gpu.vram ∧ Piece.keepTransfers chunks = true ∧
      Piece.directed 2 (!·.isEmpty) gpu.upload.streaming chunks = true ∧
      (chunks.flatMap Piece.access).length ≤ job.wordsLeft ∧
      Piece.keepTransfers reads = true ∧
      Piece.directed 3 (fun _ => true) gpu.download.streaming reads = true ∧
      DataRead.drains job.wordsLeft (reads.map Piece.access) = true ∧
      (∃ after whole, gpu.writePieces chunks = ([.ok (), .ok ()], after) ∧
        gpu.selectUpload.writeData [0x00020001, 0x00040003] = (.ok (), whole) ∧
        after.vram = whole.vram ∧ after.upload = whole.upload) ∧
      ∃ words after whole, gpu.readPieces reads = (.ok words, after) ∧
        gpu.selectDownload.readAll [.word, .chunk [7, 7]] = (.ok words, whole) := by
  intro start gpu job chunks reads
  let area := Vram.Area.ofTransferWords start.vram 0 0x00010003
  have hbegun : gpu.vram = start.vram ∧ gpu.upload = .start start.vram area ∧
      gpu.download = .start start.vram area := by
    have hdownload := takeChunk_of_receiveAll (@receiveAll_download
      { start with status := start.status.unset Status.Mask.available } rfl rfl 0 0x00010003)
    have hupload := takeChunk_of_receiveAll (@receiveAll_upload
      { start.takeChunk [0xC0000000, 0, 0x00010003] with
        status := (start.takeChunk [0xC0000000, 0, 0x00010003]).status.unset
          Status.Mask.available }
      (by rw [hdownload]; rfl) (by rw [hdownload]; rfl) 0xA0000000 (by decide) 0 0x00010003)
    have hgpu : gpu = _ := hupload
    rw [hgpu, hdownload]
    exact ⟨rfl, rfl, rfl⟩
  obtain ⟨hvram, hupload, hdownload⟩ := hbegun
  have hinit : gpu.isInitialized = true := by
    rw [isInitialized, hvram]
    exact powerOn_isInitialized _
  have hjob : gpu.upload.job = some job := by rw [hupload]; rfl
  have hjob' : gpu.download.job = some job := by rw [hdownload]; rfl
  have hwithin : job.Within gpu.vram := by
    rw [hvram]
    exact Vram.Job.within_start (Vram.Area.fits_ofTransferWords start.vram 0 0x00010003)
  have hkeeps : Piece.keepTransfers chunks = true := by decide
  have hdirected : Piece.directed 2 (!·.isEmpty) gpu.upload.streaming chunks = true := by
    rw [hupload]
    decide
  have hleft : (chunks.flatMap Piece.access).length ≤ job.wordsLeft := by decide +kernel
  have hkeeps' : Piece.keepTransfers reads = true := by decide
  have hdirected' :
      Piece.directed 3 (fun _ => true) gpu.download.streaming reads = true := by
    rw [hdownload]
    decide
  have hdrains : DataRead.drains job.wordsLeft (reads.map Piece.access) = true := by
    decide +kernel
  obtain ⟨hup, hdown⟩ := suspension_harmless hinit
  obtain ⟨after, whole, hwrite, hwrite', hpixels, -, -, -, hlast⟩ :=
    hup job hjob hwithin chunks hkeeps hdirected hleft
  obtain ⟨words, last, last', hread, hread', -⟩ :=
    hdown job hjob' hwithin reads hkeeps' hdirected' job.wordsLeft (Nat.le_refl _) hdrains
  exact ⟨hinit, hjob, hjob', hwithin, hkeeps, hdirected, hleft, hkeeps', hdirected', hdrains,
    ⟨after, whole, hwrite, hwrite', hpixels, hlast _ rfl (List.cons_ne_nil _ _)⟩,
    words, last, last', hread, hread'⟩

end Gpu

end GpuCore
