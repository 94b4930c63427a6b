import GpuCore.Proofs.Trace.Spelling

/-!
# Reading line by line

A trace is read from its lines, each of them on its own.  The commands of a text are those of its
lines, one after the other.  If some lines are no part of a trace, the first of them is to blame,
and within a line the words are looked at in front of the command.

Main definitions:

- `HasLines`: a text and its lines, which `existsUnique_hasLines` says are determined.

Main results:

- `readLines_append`: lines are read independently of those in front of them.
- `readAll_of_records`: the commands that lines stand for are read, however they are spelled.
- `HasLines.readAll_eq_ok` and `HasLines.readAll_eq_error`: a text from its lines.
- `readAll_by_lines`: what is read from any text, and the canonical text of any trace.
-/

namespace GpuCore.Trace

open GpuCore.Text

/-! ## Lines -/

/-- A text and its lines, without their ends.  A line may be empty, so that a text that ends with
the end of a line has an empty line behind it. -/
structure HasLines (text : List Char) (lines : List (List Char)) : Prop where
  nonempty : lines ≠ []
  unbroken : ∀ line ∈ lines, '\n' ∉ line
  eq_text : ['\n'].intercalate lines = text

theorem hasLines_split (text : List Char) : HasLines text (split '\n' text) where
  nonempty := splitFrom_ne_nil '\n' [] text
  unbroken := not_mem_splitFrom List.not_mem_nil
  eq_text := intercalate_split '\n' text

/-- Every text has its lines, and no others. -/
theorem existsUnique_hasLines (text : List Char) : ∃! lines, HasLines text lines := by
  refine ⟨split '\n' text, hasLines_split text, fun lines h => ?_⟩
  rw [← h.eq_text, split_intercalate h.nonempty h.unbroken]

section readLines

variable {first : Nat} {line : List Char} {lines : List (List Char)}

theorem readLines_cons_of_ok {command : Option Command} (hline : readLine line = .ok command) :
    readLines first (line :: lines) =
      (readLines (first + 1) lines).map (command.toList ++ ·) := by
  rw [readLines, hline]
  change (readLines (first + 1) lines >>= fun commands => pure (command.toList ++ commands)) = _
  cases readLines (first + 1) lines <;> rfl

theorem readLines_cons_of_error {cause : Cause} (hline : readLine line = .error cause) :
    readLines first (line :: lines) = .error ⟨first, cause⟩ := by
  rw [readLines, hline]
  rfl

/-- Lines are read if the first one is, and the others are. -/
theorem exists_of_readLines_cons {commands : List Command}
    (hlines : readLines first (line :: lines) = .ok commands) :
    ∃ command later, readLine line = .ok command ∧ readLines (first + 1) lines = .ok later ∧
      commands = command.toList ++ later := by
  cases hline : readLine line with
  | error cause =>
      rw [readLines_cons_of_error hline] at hlines
      cases hlines
  | ok command =>
      rw [readLines_cons_of_ok hline] at hlines
      cases hlater : readLines (first + 1) lines with
      | error failure =>
          rw [hlater] at hlines
          cases hlines
      | ok later =>
          rw [hlater] at hlines
          exact ⟨command, later, rfl, rfl, (Except.ok.inj hlines).symm⟩

/-- Lines are read independently of those in front of them, but for their numbers. -/
theorem readLines_append {commands : List Command} (hlines : readLines first lines = .ok commands)
    (after : List (List Char)) :
    readLines first (lines ++ after) =
      (readLines (first + lines.length) after).map (commands ++ ·) := by
  induction lines generalizing first commands with
  | nil =>
      cases hlines
      rw [List.nil_append, List.length_nil, Nat.add_zero]
      cases readLines first after <;> rfl
  | cons line lines ih =>
      obtain ⟨command, later, hline, hlater, rfl⟩ := exists_of_readLines_cons hlines
      have hnumber : first + 1 + lines.length = first + (line :: lines).length := by
        rw [List.length_cons]
        omega
      rw [List.cons_append, readLines_cons_of_ok hline, ih hlater, hnumber]
      cases readLines (first + (line :: lines).length) after with
      | error failure => rfl
      | ok others => exact congrArg Except.ok (List.append_assoc _ _ _).symm

end readLines

/-! ## Texts -/

/-- A text is read from its lines. -/
theorem HasLines.readAll_eq {text : List Char} {lines : List (List Char)}
    (h : HasLines text lines) : readAll text = readLines 1 lines := by
  rw [readAll, ← h.eq_text, split_intercalate h.nonempty h.unbroken]

/-- A line on its own. -/
theorem readAll_line {line : List Char} (hline : '\n' ∉ line) :
    readAll line = ((readLine line).mapError fun cause => ⟨1, cause⟩).map Option.toList := by
  have hlines : HasLines line [line] :=
    ⟨List.cons_ne_nil _ _, by simpa using hline, List.intercalate_singleton⟩
  rw [hlines.readAll_eq]
  cases hread : readLine line with
  | error cause => exact readLines_cons_of_error hread
  | ok command =>
      rw [readLines_cons_of_ok hread]
      exact congrArg Except.ok (List.append_nil _)

/-- The line that is accepted on its own has at most one command. -/
theorem readLine_of_readAll {line : List Char} (hline : '\n' ∉ line) {commands : List Command}
    (haccepted : readAll line = .ok commands) :
    ∃ command, readLine line = .ok command ∧ command.toList = commands := by
  rw [readAll_line hline] at haccepted
  cases hread : readLine line with
  | error cause =>
      rw [hread] at haccepted
      cases haccepted
  | ok command =>
      rw [hread] at haccepted
      exact ⟨command, rfl, Except.ok.inj haccepted⟩

theorem readLines_of_readAll {lines : List (List Char)} (hlines : ∀ line ∈ lines, '\n' ∉ line)
    {parts : List (List Command)} (haccepted : lines.map readAll = parts.map .ok) (first : Nat) :
    readLines first lines = .ok parts.flatten := by
  induction lines generalizing first parts with
  | nil =>
      rw [List.map_nil, eq_comm, List.map_eq_nil_iff] at haccepted
      rw [haccepted]
      rfl
  | cons line lines ih =>
      rw [List.map_cons, eq_comm] at haccepted
      obtain ⟨commands, parts, rfl, hcommands, hparts⟩ := List.map_eq_cons_iff.1 haccepted
      rw [List.forall_mem_cons] at hlines
      obtain ⟨command, hread, rfl⟩ := readLine_of_readAll hlines.1 hcommands.symm
      rw [readLines_cons_of_ok hread, ih hlines.2 hparts.symm]
      rfl

namespace HasLines

variable {text : List Char} {lines : List (List Char)}

/-- If every line is accepted on its own, their commands are read, one after the other. -/
theorem readAll_eq_ok (h : HasLines text lines) {parts : List (List Command)}
    (haccepted : lines.map readAll = parts.map .ok) : readAll text = .ok parts.flatten := by
  rw [h.readAll_eq]
  exact readLines_of_readAll h.unbroken haccepted 1

/-- The first line that is not accepted is to blame, by its number. -/
theorem readAll_eq_error (h : HasLines text lines) {before after : List (List Char)}
    {line : List Char} {failure : Failure} (hlines : lines = before ++ line :: after)
    (hbefore : ∀ other ∈ before, ∃ commands, readAll other = .ok commands)
    (hline : readAll line = .error failure) :
    failure.line = 1 ∧ readAll text = .error ⟨before.length + 1, failure.cause⟩ := by
  have hunbroken := h.unbroken
  rw [hlines, List.forall_mem_append, List.forall_mem_cons] at hunbroken
  obtain ⟨hsafe, hbroken, -⟩ := hunbroken
  obtain ⟨parts, hparts⟩ : ∃ parts : List (List Command), before.map readAll = parts.map .ok := by
    choose! commands hcommands using hbefore
    exact ⟨before.map commands, by
      rw [List.map_map]
      exact List.map_congr_left hcommands⟩
  rw [readAll_line hbroken] at hline
  cases hread : readLine line with
  | ok command =>
      rw [hread] at hline
      cases hline
  | error cause =>
      rw [hread] at hline
      cases hline
      refine ⟨rfl, ?_⟩
      rw [h.readAll_eq, hlines, readLines_append (readLines_of_readAll hsafe hparts 1),
        readLines_cons_of_error hread, Nat.add_comm]
      rfl

end HasLines

/-! ## Spellings -/

/-- The commands that lines stand for are read. -/
theorem Records.readLines_eq {lines : List (List Char)} {commands : List Command}
    (h : Records lines commands) (first : Nat) : readLines first lines = .ok commands := by
  induction h generalizing first with
  | nil => rfl
  | remark hline _ ih =>
      rw [readLines_cons_of_ok (readLine_of_blank hline), ih]
      rfl
  | command hline hspells _ ih =>
      rw [readLines_cons_of_ok (readLine_of_spells hline hspells), ih]
      rfl

/-- The commands that lines stand for are read, however they are spelled. -/
theorem readAll_of_records {text : List Char} {lines : List (List Char)} {commands : List Command}
    (hlines : HasLines text lines) (hrecords : Records lines commands) :
    readAll text = .ok commands := by
  rw [hlines.readAll_eq]
  exact hrecords.readLines_eq 1

/-- The canonical text consists of the canonical lines and of an empty one. -/
theorem hasLines_renderAll (commands : List Command) :
    HasLines (renderAll commands) (commands.map Command.render ++ [[]]) where
  nonempty := by simp
  unbroken := by
    rw [List.forall_mem_append, List.forall_mem_map]
    exact ⟨fun command _ => command.not_mem_render (by decide) (by decide), by simp⟩
  eq_text := by
    induction commands with
    | nil => rfl
    | cons command commands ih =>
        have hmore : commands.map Command.render ++ [[]] ≠ [] := by simp
        rw [List.map_cons, List.cons_append, List.intercalate_cons_of_ne_nil hmore, ih]
        simp [renderAll]

/-! ## Faults -/

/-- The first field that is no word is to blame, whatever the command. -/
theorem readAll_invalidWord {line name : List Char} {before after : List (List Char)}
    {field : List Char} (hunbroken : '\n' ∉ line)
    (hline : LaysOut line (name :: (before ++ field :: after)))
    (hbefore : ∀ other ∈ before, ∃ word, readWord other = .ok word)
    (hfield : ∀ word, readWord field ≠ .ok word) :
    readAll line = .error ⟨1, .invalidWord field⟩ := by
  have hread : readWord field = .error (.invalidWord field) := by
    unfold readWord at hfield ⊢
    split
    · next word hword => exact absurd (by rw [hword]) (hfield word)
    · rfl
  rw [readAll_line hunbroken, readLine_of_fields hline, mapM_readWord_of_error hbefore hread]
  rfl

/-- Behind words that can be read, the command is looked at. -/
theorem readAll_commandOf {line name : List Char} {fields : List (List Char)} {words : List UInt32}
    (hunbroken : '\n' ∉ line) (hline : LaysOut line (name :: fields))
    (hwords : fields.map readWord = words.map .ok) :
    readAll line = ((commandOf name words).mapError fun cause => ⟨1, cause⟩).map ([·]) := by
  rw [readAll_line hunbroken, readLine_of_fields hline, mapM_readWord_of_map hwords]
  change (((commandOf name words).map some).mapError _).map _ = _
  cases commandOf name words <;> rfl

/-- A trace is read line by line.  Its canonical text is read back, and so is any other spelling of
it, with lines left empty, comments, blanks, marks in front of words and either case.  Any text has
the commands of its lines, one after the other, if every line is accepted on its own; otherwise the
first line that is not is to blame, by its number.  Within a line, the first field that is no word
is to blame in front of the name of the command and the number of its words. -/
theorem readAll_by_lines :
    (∀ commands, readAll (renderAll commands) = .ok commands) ∧
    (∀ text, ∃! lines, HasLines text lines) ∧
    (∀ text lines, HasLines text lines →
      (∀ commands, Records lines commands → readAll text = .ok commands) ∧
      (∀ parts : List (List Command), lines.map readAll = parts.map .ok →
        readAll text = .ok parts.flatten) ∧
      (∀ before line after failure, lines = before ++ line :: after →
        (∀ other ∈ before, ∃ commands, readAll other = .ok commands) →
        readAll line = .error failure →
        failure.line = 1 ∧ readAll text = .error ⟨before.length + 1, failure.cause⟩)) ∧
    (∀ line name fields, '\n' ∉ line → LaysOut line (name :: fields) →
      (∀ before field after, fields = before ++ field :: after →
        (∀ other ∈ before, ∃ word, readWord other = .ok word) →
        (∀ word, readWord field ≠ .ok word) → readAll line = .error ⟨1, .invalidWord field⟩) ∧
      (∀ words : List UInt32, fields.map readWord = words.map .ok →
        let command := name.map Char.toLower
        (command = ['g', 'p', '0'] → readAll line = .ok [.data words]) ∧
        (command = ['g', 'p', '1'] → ∀ word, words = [word] → readAll line = .ok [.control word]) ∧
        (command = ['g', 'p', '1'] → words.length ≠ 1 → readAll line = .error ⟨1, .controlArity⟩) ∧
        (command = ['v', 's', 'y', 'n', 'c'] → readAll line = .ok [.vsync]) ∧
        (command ∉ [['g', 'p', '0'], ['g', 'p', '1'], ['v', 's', 'y', 'n', 'c']] →
          readAll line = .error ⟨1, .unknownCommand command⟩))) := by
  refine ⟨fun commands => ?canonical, existsUnique_hasLines,
    fun text lines hlines => ⟨fun commands => readAll_of_records hlines,
      fun parts => hlines.readAll_eq_ok, fun before line after failure => hlines.readAll_eq_error⟩,
    fun line name fields hunbroken hline => ⟨?words, fun words hwords => ?command⟩⟩
  case canonical =>
    exact readAll_of_records (hasLines_renderAll commands) (records_render commands)
  case words =>
    rintro before field after rfl
    exact readAll_invalidWord hunbroken hline
  case command =>
    rw [readAll_commandOf hunbroken hline hwords]
    refine ⟨fun hname => ?_, fun hname word hword => ?_, fun hname hlength => ?_, fun hname => ?_,
      fun hname => ?_⟩
    · rw [commandOf_data hname]
      rfl
    · rw [commandOf_control hname hword]
      rfl
    · rw [commandOf_arity hname hlength]
      rfl
    · rw [commandOf_vsync hname]
      rfl
    · rw [commandOf_unknown hname]
      rfl

/-- A decorated text, and one whose second line is to blame for its word, though its command is
unknown and there are faults behind it. -/
theorem readAll_by_lines_decorated :
    let lines :=
      ["# clear".toList, " GP0  0x02ff8040\t0 # black".toList, [], "vSync#".toList,
       "gp1 0X8000001\r".toList]
    let faulty := ["gp1 0".toList, "draw 1 0xq 0xr".toList, "gp1".toList]
    HasLines (['\n'].intercalate lines) lines ∧
      readAll (['\n'].intercalate lines) =
        .ok [.data [0x02FF8040, 0], .vsync, .control 0x08000001] ∧
      HasLines (['\n'].intercalate faulty) faulty ∧
      readAll (['\n'].intercalate faulty) = .error ⟨2, .invalidWord ['0', 'x', 'q']⟩ := by
  intro lines faulty
  obtain ⟨-, -, htexts, hfaults⟩ := readAll_by_lines
  have hlines : HasLines (['\n'].intercalate lines) lines := ⟨by decide, by decide, rfl⟩
  have hfaulty : HasLines (['\n'].intercalate faulty) faulty := ⟨by decide, by decide, rfl⟩
  have hrecords : Records lines [.data [0x02FF8040, 0], .vsync, .control 0x08000001] := by
    have hdata : LaysOut " GP0  0x02ff8040\t0 # black".toList
        ["GP0".toList, "0x02ff8040".toList, "0".toList] := laysOut_iff.2 (by decide)
    have hvsync : LaysOut "vSync#".toList ["vSync".toList] := laysOut_iff.2 (by decide)
    have hcontrol : LaysOut "gp1 0X8000001\r".toList ["gp1".toList, "0X8000001".toList] :=
      laysOut_iff.2 (by decide)
    have hmarked : SpellsField 0x02FF8040 "0x02ff8040".toList :=
      ⟨['0', 'x'], "02ff8040".toList, by decide, ⟨8, by decide, by decide, by decide⟩, by decide⟩
    have hshort : SpellsField 0 "0".toList :=
      ⟨[], "0".toList, by decide, ⟨1, by decide, by decide, by decide⟩, by decide⟩
    have hcapital : SpellsField 0x08000001 "0X8000001".toList :=
      ⟨['0', 'X'], "8000001".toList, by decide, ⟨7, by decide, by decide, by decide⟩, by decide⟩
    refine .remark (laysOut_iff.2 (by decide)) ?_
    refine .command hdata (.data (by decide) (.cons hmarked (.cons hshort .nil))) ?_
    refine .remark (laysOut_iff.2 (by decide)) ?_
    refine .command hvsync (.vsync (by decide)) ?_
    exact .command hcontrol (.control (by decide) hcapital) .nil
  have hblamed : readAll "draw 1 0xq 0xr".toList = .error ⟨1, .invalidWord ['0', 'x', 'q']⟩ := by
    have hline : LaysOut "draw 1 0xq 0xr".toList
        ["draw".toList, "1".toList, "0xq".toList, "0xr".toList] := laysOut_iff.2 (by decide)
    refine (hfaults _ _ _ (by decide) hline).1 ["1".toList] _ ["0xr".toList] rfl ?_ ?_
    · rw [List.forall_mem_singleton]
      exact ⟨1, rfl⟩
    · rintro word ⟨⟩
  refine ⟨hlines, (htexts _ _ hlines).1 _ hrecords, hfaulty, ?_⟩
  refine ((htexts _ _ hfaulty).2.2 ["gp1 0".toList] _ ["gp1".toList] _ rfl ?_ hblamed).2
  rw [List.forall_mem_singleton]
  exact ⟨[.control 0], rfl⟩

end GpuCore.Trace
