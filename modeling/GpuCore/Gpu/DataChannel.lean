import GpuCore.Gpu.Drawing

/-!
# The data channel

Words written to the data channel feed the image that is being received, two pixels to a word;
all other words go to the packet assembler.  Words read come from the image that is being handed
out, or else repeat the word that was latched last.

Main definitions:

- `Gpu.receive`: one word written to the data channel.
- `Gpu.writeData`: a chunk of words.
- `Gpu.fetchWords`: the words that a read hands out.
- `Gpu.readInto` and `Gpu.readWord`: reads of many words and of one.
-/

namespace GpuCore.Gpu

/-! ## Writing -/

/-- Give a word to the packet assembler and execute the packet it completes. -/
def interpret (gpu : Gpu) (word : UInt32) : Gpu :=
  match gpu.assembler.push word with
  | (none, assembler) => { gpu with assembler := assembler }
  | (some packet, assembler) => execute { gpu with assembler := assembler } packet

/-- Store the pixels of a word for a job, and report the image when it is complete. -/
def storePixels (gpu : Gpu) (job : Vram.Job) (word : UInt32) : Gpu :=
  match job.advanceWord gpu.vram with
  | some rest => { gpu with vram := job.store gpu.vram word, upload := .ofRest (some rest) }
  | none => emit { gpu with vram := job.store gpu.vram word, upload := {} } (.upload job.area)

/-- One word written to the data channel.  A selected upload without a job is dropped. -/
def receive (gpu : Gpu) (word : UInt32) : Gpu :=
  if gpu.upload.streaming then
    match gpu.upload.job with
    | some job => gpu.storePixels job word
    | none => interpret { gpu with upload := {} } word
  else
    gpu.interpret word

/-- Words written to the data channel, in order. -/
def receiveAll (gpu : Gpu) (words : List UInt32) : Gpu :=
  words.foldl receive gpu

/-- The processor is busy while it works. -/
def whileBusy (gpu : Gpu) (busy : UInt32) (work : Gpu → Gpu) : Gpu :=
  let gpu := work { gpu with status := gpu.status.unset busy }
  { gpu with status := gpu.status.set busy }

/-- Take a chunk of words. -/
def takeChunk (gpu : Gpu) (words : List UInt32) : Gpu :=
  gpu.whileBusy Status.Mask.available fun gpu => gpu.receiveAll words

/-- Write a chunk of words to the data channel. -/
def writeData (gpu : Gpu) (words : List UInt32) : Except Fault Unit × Gpu :=
  gpu.ifInitialized fun gpu => (.ok (), gpu.takeChunk words)

/-! ## Reading -/

/-- Up to `count` words of a job, after the words already in `words`, and the rest of the
job. -/
def fetchWords (vram : Vram.Memory) :
    (count : Nat) → Vram.Job → Array UInt32 → Array UInt32 × Option Vram.Job
  | 0, job, words => (words, some job)
  | count + 1, job, words =>
    match job.fetch vram with
    | (word, some job) => fetchWords vram count job (words.push word)
    | (word, none) => (words.push word, none)

/-- Hand out up to `count` words of the job that is being handed out.  With the last word, or
when a word is asked of a selected direction without a job, the direction is deselected and the
status register stops announcing pixels. -/
def handOut (gpu : Gpu) (count : Nat) : Array UInt32 × Gpu :=
  match gpu.download.job, count with
  | _, 0 => (#[], gpu)
  | none, _ =>
    (#[], { gpu with download := {}, status := gpu.status.unset Status.Mask.readyForPixels })
  | some job, count =>
    let (words, rest) := fetchWords gpu.vram count job #[]
    let gpu := { gpu with download := .ofRest rest, dataWord := words.back?.getD gpu.dataWord }
    match rest with
    | some _ => (words, gpu)
    | none => (words, { gpu with status := gpu.status.unset Status.Mask.readyForPixels })

/-- Read up to `count` words from the data channel; none when it carries no pixels. -/
def readData (gpu : Gpu) (count : Nat) : Except Fault (Array UInt32) × Gpu :=
  gpu.ifInitialized fun gpu =>
    if gpu.download.streaming then
      let (words, gpu) :=
        handOut { gpu with status := gpu.status.unset Status.Mask.idle } count
      (.ok words, { gpu with status := gpu.status.set Status.Mask.idle })
    else
      (.ok #[], gpu)

/-- Fill slots with words read from the data channel; the number of slots filled, and the slots, of
which those behind the last word keep what they held. -/
def readInto (gpu : Gpu) (slots : List UInt32) : Except Fault Nat × List UInt32 × Gpu :=
  match gpu.readData slots.length with
  | (.ok words, gpu) => (.ok words.size, words.toList ++ slots.drop words.size, gpu)
  | (.error fault, gpu) => (.error fault, slots, gpu)

/-- Read one word: the next pixels, or the word that was latched last. -/
def readWord (gpu : Gpu) : Except Fault UInt32 × Gpu :=
  match gpu.readData 1 with
  | (.ok _, gpu) => (.ok gpu.dataWord, gpu)
  | (.error fault, gpu) => (.error fault, gpu)

end GpuCore.Gpu
