import GpuCore.Gpu.DataChannel

/-!
# Feeding a chunk of words

The loop that takes a chunk looks at the upload in every round.  An upload that is selected takes
words until it has all its pixels, half a word at a time; one that has them already is dropped, and
the next round looks at the same word again; without an upload, one word goes to the packet
assembler.  What becomes of the words is kept in a log.

Main definitions:

- `Use` and `Feed`: the log, and how far the loop has got.
- `Gpu.storeWords`: the words that an upload takes.
- `Feed.round?` and `Feed.run`: one round, and all of them.
- `Gpu.feed`: a chunk from its first word on.

Main results:

- `Feed.round?_progress`: a round takes a word, or drops an upload that has its pixels.
-/

namespace GpuCore

/-! ## The log -/

/-- What a word of a chunk, or half of one, was used for. -/
inductive Use where
  /-- The word was given to the packet assembler. -/
  | command (index : Nat) (word : UInt32)
  /-- A half of the word was stored as the next pixel of a job. -/
  | pixel (index : Nat) (job : Vram.Job) (half : UInt16)
deriving DecidableEq, Repr, Inhabited

/-- The number of the word in the chunk. -/
def Use.index : Use → Nat
  | command index _ => index
  | pixel index _ _ => index

/-- A chunk of which some words are taken. -/
structure Feed where
  gpu : Gpu
  /-- Number of words taken. -/
  taken : Nat := 0
  uses : List Use := []
deriving Inhabited

/-- What the word with a number was used for. -/
def Feed.usesAt (feed : Feed) (index : Nat) : List Use :=
  feed.uses.filter fun use => use.index == index

/-! ## Pixels -/

namespace Gpu

/-- Store a pixel for a job, and report the image when it is complete. -/
def storePixel (gpu : Gpu) (job : Vram.Job) (pixel : UInt16) : Gpu :=
  let gpu := { gpu with vram := gpu.vram.write job.position pixel }
  match job.advance gpu.vram with
  | some rest => { gpu with upload := .ofRest (some rest) }
  | none => emit { gpu with upload := {} } (.upload job.area)

/-- Store words for a job, of which the first has number `index`, until the words run out or a pixel
completes the image, which may be in the middle of a word.  The words taken are counted. -/
def storeWords (gpu : Gpu) (job : Vram.Job) (index : Nat) : List UInt32 → Feed
  | [] => { gpu := gpu }
  | word :: words =>
    let lower := Use.pixel index job (Word.low word)
    let gpu := gpu.storePixel job (Word.low word)
    match gpu.upload.job with
    | none => { gpu := gpu, taken := 1, uses := [lower] }
    | some next =>
      let upper := Use.pixel index next (Word.high word)
      let gpu := gpu.storePixel next (Word.high word)
      match gpu.upload.job with
      | none => { gpu := gpu, taken := 1, uses := [lower, upper] }
      | some rest =>
        let feed := gpu.storeWords rest (index + 1) words
        { feed with taken := feed.taken + 1, uses := lower :: upper :: feed.uses }

/-- A word is taken if there is one. -/
theorem taken_storeWords_pos (gpu : Gpu) (job : Vram.Job) (index : Nat) {words : List UInt32}
    (hwords : words ≠ []) : 0 < (gpu.storeWords job index words).taken := by
  cases words with
  | nil => exact absurd rfl hwords
  | cons word words =>
      rw [storeWords]
      dsimp only
      split
      · exact Nat.one_pos
      · split
        · exact Nat.one_pos
        · exact Nat.succ_pos _

end Gpu

/-! ## Rounds -/

namespace Feed

/-- An upload is selected that has all its pixels. -/
def exhausted (feed : Feed) : Bool :=
  feed.gpu.upload.streaming && feed.gpu.upload.isComplete

/-- One round; none is left when all words are taken. -/
def round? (words : List UInt32) (feed : Feed) : Option Feed :=
  if hmore : feed.taken < words.length then
    if feed.gpu.upload.streaming then
      match feed.gpu.upload.job with
      | none => some { feed with gpu := { feed.gpu with upload := {} } }
      | some job =>
        let stored := feed.gpu.storeWords job feed.taken (words.drop feed.taken)
        some {
          gpu := stored.gpu
          taken := feed.taken + stored.taken
          uses := feed.uses ++ stored.uses }
    else
      let word := words[feed.taken]
      some {
        gpu := feed.gpu.interpret word
        taken := feed.taken + 1
        uses := feed.uses ++ [.command feed.taken word] }
  else
    none

/-- A round takes a word, or else drops an upload that has its pixels. -/
theorem round?_progress {words : List UInt32} {feed next : Feed}
    (hround : feed.round? words = some next) :
    feed.taken < words.length ∧
      (feed.taken < next.taken ∨
        next.taken = feed.taken ∧ feed.exhausted = true ∧ next.exhausted = false) := by
  unfold round? at hround
  split at hround
  · next hmore =>
      refine ⟨hmore, ?_⟩
      split at hround
      · next hstreaming =>
          split at hround
          · next hnone =>
              cases hround
              refine .inr ⟨rfl, ?_, rfl⟩
              rw [exhausted, hstreaming, Vram.Transfer.isComplete, hnone]
              rfl
          · next job _ =>
              cases hround
              have hwords : words.drop feed.taken ≠ [] :=
                mt List.drop_eq_nil_iff.1 (Nat.not_le_of_lt hmore)
              exact .inl (Nat.lt_add_of_pos_right
                (feed.gpu.taken_storeWords_pos job feed.taken hwords))
      · obtain rfl := Option.some.inj hround
        exact .inl (Nat.lt_succ_self feed.taken)
  · cases hround

/-- Go on until all words are taken. -/
def run (words : List UInt32) (feed : Feed) : Feed :=
  match hround : feed.round? words with
  | none => feed
  | some next =>
    have := round?_progress hround
    next.run words
termination_by (words.length - feed.taken, feed.exhausted.toNat)
decreasing_by
  obtain ⟨hmore, htaken | ⟨hsame, hbefore, hafter⟩⟩ := this
  · exact Prod.Lex.left _ _ (by omega)
  · rw [hsame, hbefore, hafter]
    exact Prod.Lex.right _ Nat.one_pos

end Feed

/-- Feed a chunk of words to the processor. -/
def Gpu.feed (gpu : Gpu) (words : List UInt32) : Feed :=
  Feed.run words { gpu := gpu }

end GpuCore
