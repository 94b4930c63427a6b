import GpuCore.Calendar.Timestamp
import GpuCore.Proofs.Text.Decimal

/-!
# Timestamps that are read back

The timestamp of an instant is read as the same instant, and as nothing else, exactly if the instant
is one: a date that exists, a second of the day, and nanoseconds beyond a full second only in the
last second of a minute.

Main definitions:

- `Instant.IsWellFormed`: dates and times of day that exist.

Main results:

- `readDigits?_append`: digits are read up to the first character that is none.
- `Instant.parse?_render`: instants that exist are read back.
- `Instant.isWellFormed_of_parse?`: whatever is read exists.
- `Instant.parse?_render_iff`: which instants are read back.
-/

namespace GpuCore.Calendar

open GpuCore.Text

/-! ## Digits -/

/-- A digit is no blank. -/
theorem isBlank_of_isDigit {c : Char} (hdigit : c.isDigit = true) : isBlank c = false := by
  have hrange : 48 ≤ c.toNat ∧ c.toNat ≤ 57 := by
    simpa [Char.isDigit, UInt32.le_iff_toNat_le] using hdigit
  simp only [isBlank, blankRanges, List.any_cons, List.any_nil, Bool.or_false,
    Bool.or_eq_false_iff, Bool.and_eq_false_imp, decide_eq_true_eq, decide_eq_false_iff_not]
  omega

/-- Digits are read up to as many as are allowed, or up to the first character that is none. -/
theorem readDigits?_append {most : Nat} {digits rest : List Char}
    (hdigits : ∀ c ∈ digits, c.isDigit = true) (hmost : digits.length ≤ most)
    (hrest : digits.length = most ∨ ∀ c ∈ rest.head?, c.isDigit = false) :
    readDigits? most (digits ++ rest) =
      (natOfDigits? 10 digits).map fun value => (value, rest) := by
  have hbehind : (rest.take (most - digits.length)).takeWhile Char.isDigit = [] := by
    obtain hfull | hother := hrest
    · rw [hfull, Nat.sub_self]
      rfl
    · cases most - digits.length with
      | zero => rfl
      | succ more =>
          cases rest with
          | nil => rfl
          | cons c rest => rw [List.take_succ_cons, List.takeWhile_cons, hother c rfl]; rfl
  have hfound : ((digits ++ rest).take most).takeWhile Char.isDigit = digits := by
    rw [List.take_append, List.take_of_length_le hmost, List.takeWhile_append_of_pos hdigits,
      hbehind, List.append_nil]
  rw [readDigits?, hfound, List.drop_left]

/-- A number is read up to the first character behind it that is no digit, or behind as many digits
as are allowed. -/
theorem readDigits?_decimalPadded {most least value : Nat} {rest : List Char}
    (hmost : (decimalPadded least value).length ≤ most)
    (hrest : (decimalPadded least value).length = most ∨ ∀ c ∈ rest.head?, c.isDigit = false) :
    readDigits? most (decimalPadded least value ++ rest) = some (value, rest) := by
  rw [readDigits?_append (fun _ hc => isDigit_of_mem_decimalPadded hc) hmost hrest,
    natOfDigits?_decimalPadded]
  rfl

section Fields

variable {least value : Nat} (rest : List Char)

/-- A number begins with a digit. -/
theorem exists_head_decimalPadded (least value : Nat) :
    ∃ c text, decimalPadded least value = c :: text ∧ c.isDigit = true := by
  cases hnumber : decimalPadded least value with
  | nil =>
      have hread := natOfDigits?_decimalPadded least value
      rw [hnumber] at hread
      cases hread
  | cons c text =>
      exact ⟨c, text, rfl, isDigit_of_mem_decimalPadded (hnumber ▸ List.mem_cons_self)⟩

/-- A text that begins with no blank is left as it is. -/
theorem trimStart_cons {c : Char} (hsolid : isBlank c = false) (text : List Char) :
    trimStart (c :: text) = c :: text := by
  rw [trimStart, List.dropWhile_cons, hsolid]
  rfl

theorem trimStart_decimalPadded :
    trimStart (decimalPadded least value ++ rest) = decimalPadded least value ++ rest := by
  obtain ⟨c, text, hnumber, hdigit⟩ := exists_head_decimalPadded least value
  rw [hnumber, List.cons_append]
  exact trimStart_cons (isBlank_of_isDigit hdigit) (text ++ rest)

/-- A field of two digits is read, whatever follows it. -/
theorem readField?_decimalPadded (hvalue : value < 100) :
    readField? (decimalPadded 2 value ++ rest) = some (value, rest) := by
  have hlength : (decimalPadded 2 value).length = 2 := length_decimalPadded (by decide) hvalue
  rw [readField?, trimStart_decimalPadded]
  exact readDigits?_decimalPadded (Nat.le_of_eq hlength) (.inl hlength)

/-- A fraction is read with the weight of its digits. -/
theorem readFraction?_decimalPadded (hleast : 0 < least) (hmost : least ≤ 9)
    (hvalue : value < Nat.pow 10 least) (hrest : ∀ c ∈ rest.head?, c.isDigit = false) :
    readFraction? ('.' :: (decimalPadded least value ++ rest)) =
      some (value * Nat.pow 10 (9 - least), rest) := by
  have hlength := length_decimalPadded hleast hvalue
  have hfound : (decimalPadded least value ++ rest).takeWhile Char.isDigit =
      decimalPadded least value := by
    rw [List.takeWhile_append_of_pos fun _ hc => isDigit_of_mem_decimalPadded hc]
    cases rest with
    | nil => rw [List.takeWhile_nil, List.append_nil]
    | cons c rest =>
        rw [List.takeWhile_cons, hrest c rfl, if_neg Bool.false_ne_true, List.append_nil]
  have htake : (decimalPadded least value).take 9 = decimalPadded least value :=
    List.take_of_length_le (by omega)
  have hdrop : (decimalPadded least value ++ rest).drop least = rest := List.drop_left' hlength
  simp only [readFraction?, hfound, htake, natOfDigits?_decimalPadded, hlength, hdrop]
  rfl

end Fields

/-! ## Reading back -/

/-- A number behind a sign is read up to the first character that is no digit. -/
theorem readDigits?_signed (least value : Nat) {rest : List Char}
    (hrest : ∀ c ∈ rest.head?, c.isDigit = false) :
    readDigits? (decimalPadded least value ++ rest).length (decimalPadded least value ++ rest) =
      some (value, rest) := by
  have hmost : (decimalPadded least value).length ≤ (decimalPadded least value ++ rest).length := by
    rw [List.length_append]
    exact Nat.le_add_right _ _
  exact readDigits?_decimalPadded hmost (.inr hrest)

/-- The year of a date is read back in front of its month. -/
theorem readYear?_renderYear (year : Int) (rest : List Char) :
    readYear? (renderYear year ++ '-' :: rest) = some (year, '-' :: rest) := by
  have hdash : ∀ c ∈ ('-' :: rest).head?, c.isDigit = false := by
    rintro c ⟨⟩
    rfl
  unfold renderYear
  split
  · next hplain =>
      have hlength : (decimalPadded 4 year.toNat).length = 4 :=
        length_decimalPadded (by decide) (show year.toNat < 10000 by omega)
      have hread : readDigits? 4 (decimalPadded 4 year.toNat ++ '-' :: rest) =
          some (year.toNat, '-' :: rest) :=
        readDigits?_decimalPadded (Nat.le_of_eq hlength) (.inl hlength)
      have hyear : (year.toNat : Int) = year := Int.toNat_of_nonneg hplain.1
      obtain ⟨c, text, hnumber, hdigit⟩ := exists_head_decimalPadded 4 year.toNat
      rw [readYear?, trimStart_decimalPadded]
      split
      · next htext =>
          rw [hnumber] at htext
          cases htext
          cases hdigit
      · next htext =>
          rw [hnumber] at htext
          cases htext
          cases hdigit
      · rw [hread]
        exact congrArg (fun year => some (year, '-' :: rest)) hyear
  · next hsigned =>
      have hread := readDigits?_signed 4 year.natAbs hdash
      by_cases hnegative : year < 0
      · have hyear : -(year.natAbs : Int) = year := by omega
        rw [if_pos hnegative, List.cons_append, readYear?, trimStart_cons rfl]
        simp only [hread, Option.map_some, hyear]
      · have hyear : (year.natAbs : Int) = year := by omega
        rw [if_neg hnegative, List.cons_append, readYear?, trimStart_cons rfl]
        simp only [hread, Option.map_some, hyear]

theorem daysInMonth_le (year : Int) (month : Nat) : daysInMonth year month ≤ 31 := by
  unfold daysInMonth
  split <;> first | omega | (split <;> omega)

/-- Only the twelve months have days. -/
theorem month_le_of_daysInMonth_pos {year : Int} {month : Nat}
    (hdays : 0 < daysInMonth year month) : month ≤ 12 := by
  unfold daysInMonth at hdays
  split at hdays <;> omega

/-- Dates that exist have a month and a day of at most two digits. -/
theorem Date.bounds_of_isValid {date : Date} (hdate : date.isValid = true) :
    firstYear ≤ date.year ∧ date.year ≤ lastYear ∧ date.month ≤ 12 ∧ date.day ≤ 31 := by
  simp only [isValid, Bool.and_eq_true, decide_eq_true_eq] at hdate
  obtain ⟨⟨⟨hfirst, hlast⟩, hday⟩, hmonth⟩ := hdate
  exact ⟨hfirst, hlast, month_le_of_daysInMonth_pos (Nat.lt_of_lt_of_le hday hmonth),
    Nat.le_trans hmonth (daysInMonth_le date.year date.month)⟩

/-- A date that exists is read back. -/
theorem readDate?_render {date : Date} (hdate : date.isValid = true) (rest : List Char) :
    readDate? (renderYear date.year ++ '-' :: (decimalPadded 2 date.month ++
      '-' :: (decimalPadded 2 date.day ++ rest))) = some (date, rest) := by
  obtain ⟨-, -, hmonth, hday⟩ := Date.bounds_of_isValid hdate
  have hseparator (text : List Char) : readSeparator? '-' ('-' :: text) = some text := rfl
  rw [readDate?, readYear?_renderYear]
  simp only [Option.bind_eq_bind, Option.bind_some, hseparator,
    readField?_decimalPadded _ (show date.month < 100 by omega),
    readField?_decimalPadded _ (show date.day < 100 by omega)]
  rfl

/-- A fraction is read back, whatever its number of digits. -/
theorem readFraction?_renderFraction {nanos : Nat} (hnanos : nanos < 1000000000) {rest : List Char}
    (hrest : ∀ c ∈ rest.head?, c.isDigit = false ∧ c ≠ '.') :
    readFraction? (renderFraction nanos ++ rest) = some (nanos, rest) := by
  have hend : ∀ c ∈ rest.head?, c.isDigit = false := fun c hc => (hrest c hc).1
  have hthree : nanos / 1000000 < Nat.pow 10 3 := by
    change nanos / 1000000 < 1000
    omega
  have hsix : nanos / 1000 < Nat.pow 10 6 := by
    change nanos / 1000 < 1000000
    omega
  unfold renderFraction
  split
  · next hzero =>
      rw [hzero, List.nil_append]
      unfold readFraction?
      split
      · exact absurd rfl (hrest '.' rfl).2
      · rfl
  · split
    · next hmillis =>
        have hweight : nanos / 1000000 * Nat.pow 10 (9 - 3) = nanos := by
          change nanos / 1000000 * 1000000 = nanos
          omega
        rw [List.cons_append, readFraction?_decimalPadded rest (by decide) (by decide) hthree hend,
          hweight]
    · split
      · next hmicros =>
          have hweight : nanos / 1000 * Nat.pow 10 (9 - 6) = nanos := by
            change nanos / 1000 * 1000 = nanos
            omega
          rw [List.cons_append, readFraction?_decimalPadded rest (by decide) (by decide) hsix hend,
            hweight]
      · have hweight : nanos * Nat.pow 10 (9 - 9) = nanos := Nat.mul_one nanos
        rw [List.cons_append, readFraction?_decimalPadded rest (by decide) (by decide) hnanos hend,
          hweight]

/-- A time of day is read back, a leap second as the one behind the last second of its minute. -/
theorem readTime?_render {second nanos : Nat} (hsecond : second < 86400)
    (hnanos : nanos < 2000000000) (hleap : 1000000000 ≤ nanos → second % 60 = 59) {rest : List Char}
    (hrest : ∀ c ∈ rest.head?, c.isDigit = false ∧ c ≠ '.') :
    readTime? (decimalPadded 2 (second / 3600) ++ ':' :: (decimalPadded 2 (second / 60 % 60) ++
      ':' :: (decimalPadded 2 (second % 60 + nanos / 1000000000) ++
        (renderFraction (nanos % 1000000000) ++ rest)))) = some (second, nanos, rest) := by
  have hseparator (text : List Char) : readSeparator? ':' (':' :: text) = some text := rfl
  have hfraction := readFraction?_renderFraction (Nat.mod_lt nanos (by decide)) hrest
  have hvalid : second / 3600 < 24 ∧ second / 60 % 60 < 60 ∧
      second % 60 + nanos / 1000000000 ≤ 60 := by
    omega
  have hclock : second / 3600 * 3600 + second / 60 % 60 * 60 +
      (second % 60 + nanos / 1000000000 - (second % 60 + nanos / 1000000000) / 60) = second := by
    omega
  have hbeyond :
      nanos % 1000000000 + (second % 60 + nanos / 1000000000) / 60 * 1000000000 = nanos := by
    omega
  rw [readTime?]
  simp only [Option.bind_eq_bind, Option.bind_some, hseparator, hfraction,
    readField?_decimalPadded _ (show second / 3600 < 100 by omega),
    readField?_decimalPadded _ (show second / 60 % 60 < 100 by omega),
    readField?_decimalPadded _ (show second % 60 + nanos / 1000000000 < 100 by omega)]
  rw [if_pos hvalid, hclock, hbeyond]
  rfl

/-! ## Instants -/

namespace Instant

/-- The date exists, and so does the time of day; nanoseconds beyond a full second belong to a leap
second, which follows the last second of a minute. -/
structure IsWellFormed (instant : Instant) : Prop where
  date : instant.date.isValid = true
  second_lt : instant.second < 86400
  nanos_lt : instant.nanos < 2000000000
  leap : 1000000000 ≤ instant.nanos → instant.second % 60 = 59

/-- Instants that exist are read back. -/
theorem parse?_render {instant : Instant} (h : instant.IsWellFormed) :
    parse? instant.render = some instant := by
  have hend : ∀ c ∈ ['Z'].head?, c.isDigit = false ∧ c ≠ '.' := by
    rintro c ⟨⟩
    decide
  have htext : instant.render.toList = renderYear instant.date.year ++ '-' ::
      (decimalPadded 2 instant.date.month ++ '-' :: (decimalPadded 2 instant.date.day ++
        'T' :: (decimalPadded 2 (instant.second / 3600) ++
          ':' :: (decimalPadded 2 (instant.second / 60 % 60) ++
            ':' :: (decimalPadded 2 (instant.second % 60 + instant.nanos / 1000000000) ++
              (renderFraction (instant.nanos % 1000000000) ++ ['Z'])))))) := by
    simp only [render, String.toList_ofList, List.append_assoc, List.cons_append]
  have hdateEnd (text : List Char) : dropDateEnd? ('T' :: text) = some text := rfl
  have hoffset : readOffset? (trimStart ['Z']) = some (0, []) := rfl
  have hlocal : ofLocal? instant.date instant.second instant.nanos 0 = some instant := by
    have hsecond := h.second_lt
    have hbefore : ¬ (instant.second : Int) - 0 < 0 := by omega
    have hwithin : (instant.second : Int) - 0 < daySeconds := by
      rw [daySeconds]
      omega
    have hmod : (((instant.second : Int) - 0) % daySeconds).toNat = instant.second := by
      rw [daySeconds]
      omega
    unfold ofLocal?
    dsimp only
    rw [if_neg hbefore, if_pos hwithin, if_pos h.date, hmod]
  rw [parse?, htext, readDate?_render h.date]
  simp only [Option.bind_eq_bind, Option.bind_some, hdateEnd,
    readTime?_render h.second_lt h.nanos_lt h.leap hend, hoffset]
  rw [if_pos ⟨rfl, by decide, h.date⟩, hlocal]

end Instant

/-! ## Nothing else is read -/

/-- A fraction is less than a second. -/
theorem nanos_lt_of_readFraction? {text rest : List Char} {nanos : Nat}
    (hread : readFraction? text = some (nanos, rest)) : nanos < 1000000000 := by
  unfold readFraction? at hread
  split at hread
  · next text =>
      obtain ⟨value, hvalue, hnanos⟩ := Option.bind_eq_some_iff.1 hread
      cases hnanos
      generalize text.takeWhile Char.isDigit = digits at hvalue
      have hlt := natOfDigits?_lt hvalue
      by_cases hshort : digits.length ≤ 9
      · rw [List.take_of_length_le hshort] at hlt
        calc
          value * Nat.pow 10 (9 - digits.length)
          _ < Nat.pow 10 digits.length * Nat.pow 10 (9 - digits.length) :=
            Nat.mul_lt_mul_of_pos_right hlt (Nat.pow_pos (by decide))
          _ = Nat.pow 10 (digits.length + (9 - digits.length)) := (Nat.pow_add 10 _ _).symm
          _ = 1000000000 := by rw [Nat.add_sub_cancel' hshort]
      · have hlength : (digits.take 9).length = 9 := by
          rw [List.length_take]
          omega
        have hweight : 9 - digits.length = 0 := by omega
        rw [hlength] at hlt
        rw [hweight]
        exact (Nat.mul_one value).symm ▸ hlt
  · cases hread
    decide

/-- A time of day that is read exists. -/
theorem bounds_of_readTime? {text rest : List Char} {second nanos : Nat}
    (hread : readTime? text = some (second, nanos, rest)) :
    second < 86400 ∧ nanos < 2000000000 ∧ (1000000000 ≤ nanos → second % 60 = 59) := by
  unfold readTime? at hread
  simp only [Option.bind_eq_bind, Option.bind_eq_some_iff] at hread
  obtain ⟨hour, -, _, -, minute, -, _, -, seconds, -, fraction, hfraction, hread⟩ := hread
  have hnanos := nanos_lt_of_readFraction? hfraction
  split at hread
  · next hvalid =>
      cases hread
      have hsecond : seconds.1 / 60 = 0 ∨ seconds.1 = 60 := by omega
      obtain hplain | hleap := hsecond
      · rw [hplain]
        omega
      · rw [hleap]
        omega
  · cases hread

/-- An offset has whole minutes. -/
theorem mod_of_readOffset? {text rest : List Char} {offset : Int}
    (hread : readOffset? text = some (offset, rest)) : offset % 60 = 0 := by
  have hseconds {text rest : List Char} {seconds : Nat}
      (hread : readOffsetSeconds? text = some (seconds, rest)) : seconds % 60 = 0 := by
    unfold readOffsetSeconds? at hread
    simp only [Option.bind_eq_bind, Option.bind_eq_some_iff] at hread
    obtain ⟨hours, -, minutes, -, hread⟩ := hread
    split at hread
    · cases hread
      omega
    · cases hread
  unfold readOffset? at hread
  split at hread
  · cases hread
    rfl
  · split at hread
    · split at hread
      · cases hread
        rfl
      · split at hread
        · obtain ⟨⟨seconds, text⟩, hoffset, hread⟩ := Option.map_eq_some_iff.1 hread
          cases hread
          have := hseconds hoffset
          omega
        · split at hread
          · obtain ⟨⟨seconds, text⟩, hoffset, hread⟩ := Option.map_eq_some_iff.1 hread
            cases hread
            have := hseconds hoffset
            omega
          · cases hread
    · cases hread

namespace Instant

theorem isWellFormed_of_ofLocal? {date : Date} {second nanos : Nat} {offset : Int}
    {instant : Instant}
    (htime : second < 86400 ∧ nanos < 2000000000 ∧ (1000000000 ≤ nanos → second % 60 = 59))
    (hoffset : offset % 60 = 0) (hlocal : ofLocal? date second nanos offset = some instant) :
    instant.IsWellFormed := by
  unfold ofLocal? at hlocal
  dsimp only at hlocal
  generalize (if (second : Int) - offset < 0 then date.previous
    else if (second : Int) - offset < daySeconds then date else date.next) = day at hlocal
  split at hlocal
  · next hvalid =>
      cases hlocal
      obtain ⟨hsecond, hnanos, hleap⟩ := htime
      refine ⟨hvalid, ?_, hnanos, fun hbeyond => ?_⟩
      · dsimp only
        rw [daySeconds]
        omega
      · have hlast := hleap hbeyond
        dsimp only
        rw [daySeconds]
        omega
  · cases hlocal

/-- Whatever is read exists. -/
theorem isWellFormed_of_parse? {timestamp : String} {instant : Instant}
    (hread : parse? timestamp = some instant) : instant.IsWellFormed := by
  unfold parse? at hread
  simp only [Option.bind_eq_bind, Option.bind_eq_some_iff] at hread
  obtain ⟨date, -, _, -, time, htime, offset, hoffset, hread⟩ := hread
  split at hread
  · exact isWellFormed_of_ofLocal? (bounds_of_readTime? htime) (mod_of_readOffset? hoffset) hread
  · cases hread

/-- The instants that are read back are those that exist. -/
theorem parse?_render_iff (instant : Instant) :
    parse? instant.render = some instant ↔ instant.IsWellFormed :=
  ⟨isWellFormed_of_parse?, parse?_render⟩

end Instant

/-! ## Length -/

theorem length_renderYear_le {year : Int} (hfirst : firstYear ≤ year) (hlast : year ≤ lastYear) :
    (renderYear year).length ≤ 7 := by
  rw [firstYear] at hfirst
  rw [lastYear] at hlast
  unfold renderYear
  split
  · exact length_decimalPadded_le (by decide) (by decide) (show year.toNat < 10000000 by omega)
  · exact Nat.succ_le_succ
      (length_decimalPadded_le (by decide) (by decide) (show year.natAbs < 1000000 by omega))

theorem length_renderFraction_le {nanos : Nat} (hnanos : nanos < 1000000000) :
    (renderFraction nanos).length ≤ 10 := by
  have hnine {least value : Nat} (hleast : least ≤ 9) (hvalue : value < 1000000000) :
      ('.' :: decimalPadded least value).length ≤ 10 :=
    Nat.succ_le_succ (length_decimalPadded_le hleast (by decide) hvalue)
  unfold renderFraction
  split
  · exact Nat.zero_le 10
  · split
    · exact hnine (by decide) (by omega)
    · split
      · exact hnine (by decide) (by omega)
      · exact hnine (by decide) hnanos

/-- Timestamps are short. -/
theorem Instant.IsWellFormed.length_render_le {instant : Instant} (h : instant.IsWellFormed) :
    instant.render.toList.length ≤ 33 := by
  obtain ⟨hfirst, hlast, hmonth, hday⟩ := Date.bounds_of_isValid h.date
  have hsecond := h.second_lt
  have hnanos := h.nanos_lt
  have hyear := length_renderYear_le hfirst hlast
  have hfraction := length_renderFraction_le (Nat.mod_lt instant.nanos (by decide : 0 < 1000000000))
  have hfield {value : Nat} (hvalue : value < 100) : (decimalPadded 2 value).length = 2 :=
    length_decimalPadded (by decide) hvalue
  simp only [render, String.toList_ofList, List.length_append, List.length_cons, List.length_nil,
    hfield (show instant.date.month < 100 by omega), hfield (show instant.date.day < 100 by omega),
    hfield (show instant.second / 3600 < 100 by omega),
    hfield (show instant.second / 60 % 60 < 100 by omega),
    hfield (show instant.second % 60 + instant.nanos / 1000000000 < 100 by omega)]
  omega

end GpuCore.Calendar
