import GpuCore.Packet.Assembler

/-!
# The grammar of the command stream

Where a packet ends can be told by looking ahead: its opcode says how many words it has, and a
polyline goes on to the first terminator in a place that is looked at.  Cutting a whole stream in
this way gives its packets, the words that start none, and the words of a packet that is not
complete yet.  Nothing here knows of the assembler, which sees one word at a time.

Main definitions:

- `Packet.span`: the number of words of the packet at the head of a stream.
- `Packet.Item` and `Packet.segment`: the cut of a stream.

Main results:

- `Packet.span_append_of_le` and `Packet.span_le_of_append`: the end of a packet is where it is,
  whatever follows.
- `Packet.span_concat_le_iff`: the next word completes a packet or it does not.
- `Packet.flatMap_segment`: a cut loses no word.
- `Packet.span_of_mem_segment`: the packets of a cut are complete.
-/

namespace GpuCore.Packet

/-! ## Polylines -/

/-- Opcodes of flat polylines. -/
def isFlatPolyline (opcode : UInt8) : Bool :=
  0x48 ≤ opcode && opcode ≤ 0x4F

/-- Opcodes of shaded polylines. -/
def isShadedPolyline (opcode : UInt8) : Bool :=
  0x58 ≤ opcode && opcode ≤ 0x5F

/-- Whether word number `index` of a flat polyline ends it: every word behind the second vertex is
looked at. -/
def endsFlat (index : Nat) (word : UInt32) : Bool :=
  3 ≤ index && isTerminator word

/-- Whether word number `index` of a shaded polyline ends it: every color behind the second vertex
is looked at. -/
def endsShaded (index : Nat) (word : UInt32) : Bool :=
  4 ≤ index && index % 2 == 0 && isTerminator word

/-- Flat polylines are the packets with the first special length. -/
theorem isFlatPolyline_iff (opcode : UInt8) :
    isFlatPolyline opcode = true ↔ length opcode = flatPolyline := by
  have hlt := opcode.toNat_lt
  rw [length_eq, isFlatPolyline]
  simp only [Bool.and_eq_true, decide_eq_true_eq, UInt8.le_iff_toNat_le]
  generalize opcode.toNat = code at hlt
  revert code
  decide +kernel

/-- Shaded polylines are the packets with the second special length. -/
theorem isShadedPolyline_iff (opcode : UInt8) :
    isShadedPolyline opcode = true ↔ length opcode = shadedPolyline := by
  have hlt := opcode.toNat_lt
  rw [length_eq, isShadedPolyline]
  simp only [Bool.and_eq_true, decide_eq_true_eq, UInt8.le_iff_toNat_le]
  generalize opcode.toNat = code at hlt
  revert code
  decide +kernel

/-- In flat polylines the assembler looks for terminators where the grammar does. -/
theorem endsPolyline_flat (index : Nat) (word : UInt32) :
    Assembler.endsPolyline flatPolyline index word = endsFlat index word := by
  simp [Assembler.endsPolyline, endsFlat, flatPolyline, shadedPolyline]

/-- In shaded polylines the assembler looks for terminators where the grammar does. -/
theorem endsPolyline_shaded (index : Nat) (word : UInt32) :
    Assembler.endsPolyline shadedPolyline index word = endsShaded index word := by
  simp [Assembler.endsPolyline, endsShaded, flatPolyline, shadedPolyline]

/-! ## Looking for the end -/

/-- Place of the first word that `ends` accepts; the number of words if there is none. -/
def firstEnd (ends : Nat → UInt32 → Bool) (stream : List UInt32) : Nat :=
  stream.zipIdx.findIdx fun place => ends place.2 place.1

/-- The number of words up to the first one that `ends` accepts, that word included, but at most
`limit`.  If no word is accepted, the number is `limit` or exceeds the words of the stream. -/
def wordsUntil (ends : Nat → UInt32 → Bool) (limit : Nat) (stream : List UInt32) : Nat :=
  min (firstEnd ends stream + 1) limit

section WordsUntil

variable {ends : Nat → UInt32 → Bool} {limit : Nat} {stream : List UInt32}

theorem firstEnd_le (ends : Nat → UInt32 → Bool) (stream : List UInt32) :
    firstEnd ends stream ≤ stream.length := by
  simpa [firstEnd] using
    @List.findIdx_le_length _ (fun place => ends place.2 place.1) stream.zipIdx

/-- An end within the front part of a stream is the first one of the stream. -/
theorem firstEnd_append_of_lt (h : firstEnd ends stream < stream.length) (rest : List UInt32) :
    firstEnd ends (stream ++ rest) = firstEnd ends stream := by
  simp only [firstEnd, List.zipIdx_append, List.findIdx_append, List.length_zipIdx] at h ⊢
  rw [if_pos h]

/-- Without an end in its front part, the first end of a stream lies behind that part. -/
theorem length_le_firstEnd_append (h : firstEnd ends stream = stream.length)
    (rest : List UInt32) : stream.length ≤ firstEnd ends (stream ++ rest) := by
  simp only [firstEnd, List.zipIdx_append, List.findIdx_append, List.length_zipIdx] at h ⊢
  rw [if_neg (by omega)]
  omega

/-- Without an end in a stream, the word behind it is the first end or there is none. -/
theorem firstEnd_concat (h : firstEnd ends stream = stream.length) (word : UInt32) :
    firstEnd ends (stream ++ [word]) =
      if ends stream.length word then stream.length else stream.length + 1 := by
  simp only [firstEnd, List.zipIdx_append, List.findIdx_append, List.length_zipIdx] at h ⊢
  rw [if_neg (by omega)]
  cases hends : ends stream.length word <;> simp [hends, Nat.add_comm]

theorem wordsUntil_append_of_le (stream : List UInt32)
    (h : wordsUntil ends limit stream ≤ stream.length) (rest : List UInt32) :
    wordsUntil ends limit (stream ++ rest) = wordsUntil ends limit stream := by
  have hle := firstEnd_le ends stream
  by_cases hfound : firstEnd ends stream < stream.length
  · rw [wordsUntil, firstEnd_append_of_lt hfound, wordsUntil]
  · have hnone : firstEnd ends stream = stream.length := by omega
    have hbehind := length_le_firstEnd_append hnone rest
    simp only [wordsUntil] at h ⊢
    omega

theorem wordsUntil_le_of_append (stream : List UInt32) {rest : List UInt32}
    (h : wordsUntil ends limit (stream ++ rest) ≤ stream.length) :
    wordsUntil ends limit stream ≤ stream.length := by
  have hle := firstEnd_le ends stream
  by_cases hfound : firstEnd ends stream < stream.length
  · simp only [wordsUntil]
    omega
  · have hnone : firstEnd ends stream = stream.length := by omega
    have hbehind := length_le_firstEnd_append hnone rest
    simp only [wordsUntil] at h ⊢
    omega

/-- The word behind a stream without an end is the end if it is accepted or the limit is reached. -/
theorem wordsUntil_concat_le_iff (stream : List UInt32)
    (hopen : stream.length < wordsUntil ends limit stream) (word : UInt32) :
    wordsUntil ends limit (stream ++ [word]) ≤ stream.length + 1 ↔
      limit ≤ stream.length + 1 ∨ ends stream.length word = true := by
  have hle := firstEnd_le ends stream
  have hnone : firstEnd ends stream = stream.length := by
    simp only [wordsUntil] at hopen
    omega
  simp only [wordsUntil, firstEnd_concat hnone]
  split
  · next hends => simp only [hends, or_true, iff_true]; omega
  · next hends => simp only [hends, Bool.false_eq_true, or_false]; omega

/-- Before the last of these words there is no end. -/
theorem not_ends_of_lt_wordsUntil {index : Nat} (h : index + 1 < wordsUntil ends limit stream)
    (hindex : index < stream.length) : ends index stream[index] = false := by
  have hbefore : index < firstEnd ends stream := by
    simp only [wordsUntil] at h
    omega
  simpa using List.not_of_lt_findIdx hbefore

/-- If these words are the whole stream, and not just because of the limit, the last one is an
end. -/
theorem ends_of_wordsUntil_eq {index : Nat} (h : wordsUntil ends limit stream = index + 1)
    (hlimit : index + 1 < limit) (hindex : index < stream.length) :
    ends index stream[index] = true := by
  have hfirst : firstEnd ends stream = index := by
    simp only [wordsUntil] at h
    omega
  have hfound :
      stream.zipIdx.findIdx (fun place => ends place.2 place.1) < stream.zipIdx.length := by
    rw [List.length_zipIdx]
    exact Nat.lt_of_le_of_lt (Nat.le_of_eq hfirst) hindex
  have hends := List.findIdx_getElem (w := hfound)
  subst hfirst
  simpa [firstEnd] using hends

/-- The limit is not exceeded. -/
theorem wordsUntil_le (ends : Nat → UInt32 → Bool) (limit : Nat) (stream : List UInt32) :
    wordsUntil ends limit stream ≤ limit :=
  Nat.min_le_right _ _

end WordsUntil

/-! ## The packet at the head of a stream -/

/-- The number of words of the packet that the stream `first :: rest` begins with.  A packet that
is not complete yet has more words than the stream. -/
def span (first : UInt32) (rest : List UInt32) : Nat :=
  if isFlatPolyline (Word.command first) then
    wordsUntil endsFlat 254 (first :: rest)
  else if isShadedPolyline (Word.command first) then
    wordsUntil endsShaded 255 (first :: rest)
  else
    length (Word.command first)

variable {first : UInt32} {rest : List UInt32}

/-- What follows a complete packet does not change its end. -/
theorem span_append_of_le (h : span first rest ≤ rest.length + 1) (more : List UInt32) :
    span first (rest ++ more) = span first rest := by
  unfold span at h ⊢
  split
  · next hflat =>
      rw [if_pos hflat] at h
      exact wordsUntil_append_of_le (first :: rest) h more
  · next hflat =>
      rw [if_neg hflat] at h
      split
      · next hshaded =>
          rw [if_pos hshaded] at h
          exact wordsUntil_append_of_le (first :: rest) h more
      · rfl

/-- A packet that ends within the front part of a stream is complete there. -/
theorem span_le_of_append {more : List UInt32}
    (h : span first (rest ++ more) ≤ rest.length + 1) : span first rest ≤ rest.length + 1 := by
  unfold span at h ⊢
  split
  · next hflat =>
      rw [if_pos hflat] at h
      exact wordsUntil_le_of_append (first :: rest) h
  · next hflat =>
      rw [if_neg hflat] at h
      split
      · next hshaded =>
          rw [if_pos hshaded] at h
          exact wordsUntil_le_of_append (first :: rest) h
      · next hshaded =>
          rw [if_neg hshaded] at h
          exact h

/-- The next word completes a packet when the packet has reached its length, or when the word ends
a polyline. -/
theorem span_concat_le_iff (hopen : rest.length + 1 < span first rest) (word : UInt32) :
    span first (rest ++ [word]) ≤ rest.length + 2 ↔
      length (Word.command first) ≤ rest.length + 2 ∨
        Assembler.endsPolyline (length (Word.command first)) (rest.length + 1) word = true := by
  have hflat := isFlatPolyline_iff (Word.command first)
  have hshaded := isShadedPolyline_iff (Word.command first)
  unfold span at hopen ⊢
  split
  · next hkind =>
      rw [if_pos hkind] at hopen
      rw [hflat.1 hkind, endsPolyline_flat]
      exact wordsUntil_concat_le_iff (first :: rest) hopen word
  · next hnot =>
      rw [if_neg hnot] at hopen
      split
      · next hkind =>
          rw [if_pos hkind] at hopen
          rw [hshaded.1 hkind, endsPolyline_shaded]
          exact wordsUntil_concat_le_iff (first :: rest) hopen word
      · next hnot' =>
          rw [hflat] at hnot
          rw [hshaded] at hnot'
          simp [Assembler.endsPolyline, hnot, hnot']

/-- A packet that the next word completes ends with that word. -/
theorem span_concat_eq (hopen : rest.length + 1 < span first rest) {word : UInt32}
    (h : span first (rest ++ [word]) ≤ rest.length + 2) :
    span first (rest ++ [word]) = rest.length + 2 := by
  have hlate : ¬ span first (rest ++ [word]) ≤ rest.length + 1 := by
    intro hearly
    have hbefore := span_le_of_append hearly
    omega
  omega

/-- A packet has a word. -/
theorem span_pos (h : length (Word.command first) ≠ 0) (rest : List UInt32) :
    0 < span first rest := by
  unfold span wordsUntil
  split
  · omega
  · split <;> omega

/-- A complete packet, cut off its stream, ends at its last word. -/
theorem span_take (h : span first rest ≤ rest.length + 1) :
    span first (rest.take (span first rest - 1)) = span first rest := by
  have hwhole := List.take_append_drop (span first rest - 1) rest
  have hlength : (rest.take (span first rest - 1)).length = span first rest - 1 :=
    List.length_take_of_le (by omega)
  have hends : span first (rest.take (span first rest - 1) ++ rest.drop (span first rest - 1)) ≤
      (rest.take (span first rest - 1)).length + 1 := by
    rw [hwhole, hlength]
    omega
  have hsame := span_append_of_le (span_le_of_append hends) (rest.drop (span first rest - 1))
  rw [hwhole] at hsame
  exact hsame.symm

/-! ## Cutting a stream -/

/-- A piece of the command stream. -/
inductive Item where
  /-- A word that starts no packet. -/
  | discarded (word : UInt32)
  /-- A complete packet, its first word apart. -/
  | packet (first : UInt32) (rest : List UInt32)
deriving DecidableEq, Repr, Inhabited

namespace Item

/-- The words of a piece. -/
def words : Item → List UInt32
  | discarded word => [word]
  | packet first rest => first :: rest

/-- The packet that a piece is, if it is one; its opcode is the top byte of its first word. -/
def packet? : Item → Option Packet
  | discarded _ => none
  | packet first rest => some ⟨Word.command first, first :: rest⟩

end Item

-- The definition is not to be unfolded down to the table of lengths.
attribute [local irreducible] length

/-- The pieces of a stream, and the words of the packet that is not complete at its end. -/
def segment : List UInt32 → List Item × List UInt32
  | [] => ([], [])
  | first :: rest =>
    if length (Word.command first) = 0 then
      let (items, pending) := segment rest
      (.discarded first :: items, pending)
    else if span first rest ≤ rest.length + 1 then
      let (items, pending) := segment (rest.drop (span first rest - 1))
      (.packet first (rest.take (span first rest - 1)) :: items, pending)
    else
      ([], first :: rest)
termination_by stream => stream.length
decreasing_by
  · simp
  · simp only [List.length_drop, List.length_cons]
    omega

/-- A cut loses no word: the pieces and the pending words make up the stream. -/
theorem flatMap_segment (stream : List UInt32) :
    (segment stream).1.flatMap Item.words ++ (segment stream).2 = stream := by
  induction stream using segment.induct with
  | case1 => simp [segment]
  | case2 first rest hdiscarded items pending hcut ih =>
      rw [hcut] at ih
      rw [segment, if_pos hdiscarded, hcut]
      simpa [Item.words] using ih
  | case3 first rest hlength hcomplete items pending hcut ih =>
      rw [hcut] at ih
      rw [segment, if_neg hlength, if_pos hcomplete, hcut]
      simp only [List.flatMap_cons, Item.words, List.cons_append, List.append_assoc]
      rw [ih, List.take_append_drop]
  | case4 first rest hlength hopen =>
      rw [segment, if_neg hlength, if_neg hopen]
      rfl

/-- The packets of a cut are complete: they end where the grammar says, and not before. -/
theorem span_of_mem_segment {stream : List UInt32}
    (hmem : .packet first rest ∈ (segment stream).1) :
    length (Word.command first) ≠ 0 ∧ span first rest = rest.length + 1 := by
  induction stream using segment.induct with
  | case1 => simp [segment] at hmem
  | case2 head tail hdiscarded items pending hcut ih =>
      rw [hcut] at ih
      rw [segment, if_pos hdiscarded, hcut] at hmem
      simp only [List.mem_cons, reduceCtorEq, false_or] at hmem
      exact ih hmem
  | case3 head tail hlength hcomplete items pending hcut ih =>
      rw [hcut] at ih
      rw [segment, if_neg hlength, if_pos hcomplete, hcut] at hmem
      rcases List.mem_cons.1 hmem with hhead | htail
      · obtain ⟨rfl, rfl⟩ := Item.packet.inj hhead
        refine ⟨hlength, ?_⟩
        have hpos := span_pos hlength tail
        rw [span_take hcomplete, List.length_take_of_le (by omega)]
        omega
      · exact ih htail
  | case4 head tail hlength hopen =>
      rw [segment, if_neg hlength, if_neg hopen] at hmem
      simp at hmem

end GpuCore.Packet
