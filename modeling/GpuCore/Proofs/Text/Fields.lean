import GpuCore.Text.Blank

/-!
# Fields and lines

Blanks separate the fields of a text, and a separator the parts of one.  Both are found from the
left, one character after the other.  Here stands what they are: a text is its parts with the
separator between them, and its fields are what remains without the blanks.

Main definitions:

- `Separated`: a text that consists of fields and of blanks between them.

Main results:

- `fields_eq_iff`: the fields of a text are those that it consists of.
- `intercalate_split` and `split_intercalate`: a text is its parts, and its parts are found.
-/

namespace GpuCore.Text

/-! ## Fields -/

/-- A text that consists of fields, each of them not empty and without blanks, and of blanks.  A
field ends in front of a blank or with the text. -/
inductive Separated : List Char → List (List Char) → Prop
  | nil : Separated [] []
  | blank {c : Char} {text : List Char} {parts : List (List Char)} (hblank : isBlank c = true)
      (hrest : Separated text parts) : Separated (c :: text) parts
  | field {field text : List Char} {parts : List (List Char)} (hfield : field ≠ [])
      (hsolid : ∀ c ∈ field, isBlank c = false) (hend : ∀ c ∈ text.head?, isBlank c = true)
      (hrest : Separated text parts) : Separated (field ++ text) (field :: parts)

/-- The characters of a field are collected. -/
theorem fieldsFrom_append {solid : List Char} (hsolid : ∀ c ∈ solid, isBlank c = false)
    (field text : List Char) :
    fieldsFrom field (solid ++ text) = fieldsFrom (solid.reverse ++ field) text := by
  induction solid generalizing field with
  | nil => rfl
  | cons c solid ih =>
      rw [List.forall_mem_cons] at hsolid
      rw [List.cons_append, fieldsFrom, hsolid.1, if_neg Bool.false_ne_true, ih hsolid.2,
        List.reverse_cons, List.append_assoc]
      rfl

/-- A field that was collected ends in front of a blank or with the text. -/
theorem fieldsFrom_of_end {field text : List Char} (hfield : field ≠ [])
    (hend : ∀ c ∈ text.head?, isBlank c = true) :
    fieldsFrom field text = field.reverse :: fields text := by
  have hfull : field.isEmpty = false := List.isEmpty_eq_false_iff.2 hfield
  cases text with
  | nil => simp [fieldsFrom, fields, hfull]
  | cons c text =>
      have hblank : isBlank c = true := hend c rfl
      simp [fieldsFrom, fields, hfull, hblank]

theorem fields_of_separated {text : List Char} {parts : List (List Char)}
    (h : Separated text parts) : fields text = parts := by
  induction h with
  | nil => rfl
  | @blank c text parts hblank _ ih =>
      rw [fields, fieldsFrom, if_pos hblank]
      exact ih
  | @field field text parts hfield hsolid hend _ ih =>
      have hreverse : field.reverse ++ [] ≠ [] := by simpa using hfield
      rw [fields, fieldsFrom_append hsolid, fieldsFrom_of_end hreverse hend, ih]
      simp

theorem separated_fieldsFrom (field text : List Char) (hsolid : ∀ c ∈ field, isBlank c = false) :
    Separated (field.reverse ++ text) (fieldsFrom field text) := by
  -- a field that was collected is complete where a blank follows or nothing
  have hcomplete {field rest : List Char} (hsolid : ∀ c ∈ field, isBlank c = false)
      (hend : ∀ c ∈ rest.head?, isBlank c = true) (hrest : Separated rest (fields rest)) :
      Separated (field.reverse ++ rest) (fieldsFrom field rest) := by
    by_cases hfield : field = []
    · rw [hfield]
      exact hrest
    · rw [fieldsFrom_of_end hfield hend]
      exact .field (by simpa using hfield) (by simpa using hsolid) hend hrest
  induction text generalizing field with
  | nil => exact hcomplete hsolid (by simp) .nil
  | cons c text ih =>
      cases hblank : isBlank c with
      | true =>
          have hrest : Separated text (fields text) := ih [] (by simp)
          have hfields : fields (c :: text) = fields text := by
            rw [fields, fieldsFrom, if_pos hblank]
            rfl
          refine hcomplete hsolid (by simpa using hblank) ?_
          rw [hfields]
          exact .blank hblank hrest
      | false =>
          have hmore := ih (c :: field) (List.forall_mem_cons.2 ⟨hblank, hsolid⟩)
          rw [List.reverse_cons, List.append_assoc] at hmore
          rw [fieldsFrom, hblank, if_neg Bool.false_ne_true]
          exact hmore

/-- The fields of a text are those that it consists of. -/
theorem fields_eq_iff {text : List Char} {parts : List (List Char)} :
    fields text = parts ↔ Separated text parts := by
  refine ⟨?_, fields_of_separated⟩
  rintro rfl
  exact separated_fieldsFrom [] text (by simp)

/-! ## Parts -/

theorem splitFrom_ne_nil (separator : Char) (part text : List Char) :
    splitFrom separator part text ≠ [] := by
  induction text generalizing part with
  | nil => exact List.cons_ne_nil _ _
  | cons c text ih =>
      rw [splitFrom]
      split
      · exact List.cons_ne_nil _ _
      · exact ih (c :: part)

theorem intercalate_splitFrom (separator : Char) (part text : List Char) :
    [separator].intercalate (splitFrom separator part text) = part.reverse ++ text := by
  induction text generalizing part with
  | nil => simp [splitFrom]
  | cons c text ih =>
      rw [splitFrom]
      split
      · next hseparator =>
          obtain ⟨next, later, hparts⟩ :=
            List.exists_cons_of_ne_nil (splitFrom_ne_nil separator [] text)
          have hrest := ih []
          rw [hparts] at hrest ⊢
          rw [List.intercalate_cons_cons, hrest, hseparator]
          simp
      · rw [ih (c :: part), List.reverse_cons, List.append_assoc]
        rfl

/-- A text is its parts with the separator between them. -/
theorem intercalate_split (separator : Char) (text : List Char) :
    [separator].intercalate (split separator text) = text :=
  intercalate_splitFrom separator [] text

/-- No part contains the separator. -/
theorem not_mem_splitFrom {separator : Char} {part text : List Char} (hpart : separator ∉ part) :
    ∀ other ∈ splitFrom separator part text, separator ∉ other := by
  induction text generalizing part with
  | nil => simpa [splitFrom] using hpart
  | cons c text ih =>
      rw [splitFrom]
      split
      · rw [List.forall_mem_cons]
        exact ⟨by simpa using hpart, ih (by simp)⟩
      · next hother =>
          refine ih ?_
          rw [List.mem_cons, not_or]
          exact ⟨Ne.symm hother, hpart⟩

/-- A part is collected up to the separator that follows it, or to the end of the text. -/
theorem splitFrom_append {separator : Char} {part : List Char} (hpart : separator ∉ part)
    (before text : List Char) :
    splitFrom separator before (part ++ text) =
      splitFrom separator (part.reverse ++ before) text := by
  induction part generalizing before with
  | nil => rfl
  | cons c part ih =>
      rw [List.mem_cons, not_or] at hpart
      rw [List.cons_append, splitFrom, if_neg (Ne.symm hpart.1), ih hpart.2, List.reverse_cons,
        List.append_assoc]
      rfl

/-- Parts that do not contain the separator are found where it stands between them. -/
theorem split_intercalate {separator : Char} {parts : List (List Char)} (hparts : parts ≠ [])
    (hfree : ∀ part ∈ parts, separator ∉ part) :
    split separator ([separator].intercalate parts) = parts := by
  induction parts with
  | nil => exact absurd rfl hparts
  | cons part parts ih =>
      rw [List.forall_mem_cons] at hfree
      cases parts with
      | nil =>
          have hlast := splitFrom_append hfree.1 [] []
          rw [List.append_nil, List.append_nil] at hlast
          rw [List.intercalate_singleton, split, hlast, splitFrom, List.reverse_reverse]
      | cons next later =>
          have hlater := ih (List.cons_ne_nil next later) hfree.2
          rw [List.intercalate_cons_cons, List.append_assoc, split, splitFrom_append hfree.1,
            List.append_nil, List.singleton_append, splitFrom, if_pos rfl, List.reverse_reverse]
          exact congrArg (part :: ·) hlater

end GpuCore.Text
