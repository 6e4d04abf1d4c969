import CourseAudit.Proofs.Decimal
import CourseAudit.Proofs.Order

/-!
The standard text of a date read back. Year, month and day are written with a fixed number of
digits, and the reader of standard texts takes exactly that many.
-/
namespace CourseAudit

namespace CivilDate

variable {width n : Nat}

theorem toList_pad : (pad width n).toList =
    List.replicate (width - (Nat.toDigits 10 n).length) '0' ++ Nat.toDigits 10 n := by
  rw [pad, String.toList_ofList]

theorem isDigit_of_mem_pad {c : Char} (member : c ∈ (pad width n).toList) : c.isDigit = true := by
  rw [toList_pad, List.mem_append] at member
  rcases member with zero | digit
  · obtain ⟨-, rfl⟩ := List.mem_replicate.mp zero
    rfl
  · exact Nat.isDigit_of_mem_toDigits (by decide) (by decide) digit

theorem length_pad (some : 0 < width) (fits : n < Nat.pow 10 width) :
    (pad width n).toList.length = width := by
  have short : (Nat.toDigits 10 n).length ≤ width :=
    (Nat.length_toDigits_le_iff (by decide) some).mpr fits
  rw [toList_pad, List.length_append, List.length_replicate]
  omega

/-- Leading zeros do not count. -/
theorem ofDigitChars_pad : Nat.ofDigitChars 10 (pad width n).toList 0 = n := by
  have zeros (count : Nat) (digits : List Char) :
      Nat.ofDigitChars 10 (List.replicate count '0' ++ digits) 0 =
        Nat.ofDigitChars 10 digits 0 := by
    induction count with
    | zero => rfl
    | succ count ih =>
        rw [List.replicate_succ, List.cons_append, Nat.ofDigitChars_cons]
        exact ih
  rw [toList_pad, zeros, Nat.ofDigitChars_toDigits (by decide) (by decide)]

theorem ofParts?_self (d : CivilDate) : ofParts? d.year d.month d.day = some d := by
  rw [ofParts?, dif_pos d.exists_day]

/-- The characters of a standard text, part by part. -/
theorem toList_iso (d : CivilDate) : d.iso.toList = (pad 4 d.year).toList ++
    '-' :: ((pad 2 d.month).toList ++ '-' :: (pad 2 d.day).toList) := by
  have hyphen : "-".toList = ['-'] := rfl
  simp only [iso, String.toList_append, hyphen, List.append_assoc, List.cons_append,
    List.nil_append]

theorem length_year (d : CivilDate) : (pad 4 d.year).toList.length = 4 := by
  obtain ⟨-, year, -⟩ := d.exists_day
  exact length_pad (by decide) (Nat.lt_of_le_of_lt year (by decide))

theorem length_month (d : CivilDate) : (pad 2 d.month).toList.length = 2 := by
  obtain ⟨-, -, -, month, -⟩ := d.exists_day
  exact length_pad (by decide) (Nat.lt_of_le_of_lt month (by decide))

theorem length_day (d : CivilDate) : (pad 2 d.day).toList.length = 2 := by
  obtain ⟨-, day⟩ := d.day_lt
  exact length_pad (by decide) (Nat.lt_trans day (by decide))

theorem length_iso (d : CivilDate) : d.iso.toList.length = 10 := by
  rw [toList_iso, List.length_append, List.length_cons, List.length_append, List.length_cons,
    d.length_year, d.length_month, d.length_day]

theorem mem_iso {d : CivilDate} {c : Char} (member : c ∈ d.iso.toList) :
    c.isDigit = true ∨ c = '-' := by
  rw [toList_iso] at member
  simp only [List.mem_append, List.mem_cons] at member
  rcases member with year | rfl | month | rfl | day
  · exact .inl (isDigit_of_mem_pad year)
  · exact .inr rfl
  · exact .inl (isDigit_of_mem_pad month)
  · exact .inr rfl
  · exact .inl (isDigit_of_mem_pad day)

end CivilDate

namespace Iso
open CivilDate (pad)

/-- A row of digits at the head of a text is taken off as a whole. -/
theorem takeNumber_append {digits : List Char} (plain : ∀ c ∈ digits, c.isDigit = true)
    (rest : List Char) : takeNumber digits.length (digits ++ rest) =
      some (Nat.ofDigitChars 10 digits 0, rest) := by
  have taken : (digits ++ rest).take digits.length = digits := List.take_left
  have left : (digits ++ rest).drop digits.length = rest := List.drop_left
  have decimal : digits.all Char.isDigit = true := List.all_eq_true.mpr plain
  simp only [takeNumber, taken, left, decimal, and_self, if_true]
  rfl

theorem takeNumber_pad {width n : Nat} (length : (pad width n).toList.length = width)
    (rest : List Char) : takeNumber width ((pad width n).toList ++ rest) = some (n, rest) := by
  have plain : ∀ c ∈ (pad width n).toList, c.isDigit = true := fun _ =>
    CivilDate.isDigit_of_mem_pad
  have taken := takeNumber_append plain rest
  rwa [length, CivilDate.ofDigitChars_pad] at taken

/-- A calendar date whose parts are separated. -/
theorem readDate_separated {cs tail days rest : List Char} {year month day : Nat}
    (yearRead : takeNumber 4 cs = some (year, '-' :: tail)) (noWeek : tail.head? ≠ some 'W')
    (monthRead : takeNumber 2 tail = some (month, '-' :: days))
    (dayRead : takeNumber 2 days = some (day, rest)) :
    readDate cs = CivilDate.ofParts? year month day := by
  simp [readDate, yearRead, noWeek, monthRead, dayRead]

/-- What begins with a month begins with a digit. -/
theorem exists_month (d : CivilDate) (rest : List Char) :
    ∃ c more, (pad 2 d.month).toList ++ rest = c :: more ∧ c.isDigit = true := by
  have length := d.length_month
  cases digits : (pad 2 d.month).toList with
  | nil =>
      rw [digits] at length
      cases length
  | cons c more =>
      refine ⟨c, more ++ rest, rfl, ?_⟩
      exact CivilDate.isDigit_of_mem_pad (digits ▸ List.mem_cons_self)

theorem readDate_iso (d : CivilDate) : readDate d.iso.toList = some d := by
  have dayRead : takeNumber 2 (pad 2 d.day).toList = some (d.day, []) := by
    have taken := takeNumber_pad d.length_day []
    rwa [List.append_nil] at taken
  have noWeek : ((pad 2 d.month).toList ++ '-' :: (pad 2 d.day).toList).head? ≠ some 'W' := by
    obtain ⟨c, more, begins, digit⟩ := exists_month d ('-' :: (pad 2 d.day).toList)
    rw [begins]
    exact fun same => ne_of_isDigit digit (by decide) (Option.some.inj same)
  rw [CivilDate.toList_iso, readDate_separated (takeNumber_pad d.length_year _) noWeek
    (takeNumber_pad d.length_month _) dayRead, d.ofParts?_self]

/-- The whole of a standard text is its date. -/
theorem dateLength_iso (d : CivilDate) : dateLength d.iso.toList = 10 := by
  have length := d.length_year
  obtain ⟨c, more, begins, digit⟩ := exists_month d ('-' :: (pad 2 d.day).toList)
  have fifth : d.iso.toList[4]? = some '-' := by
    rw [CivilDate.toList_iso, List.getElem?_append_right (by omega), length]
    rfl
  have sixth : d.iso.toList[5]? = some c := by
    rw [CivilDate.toList_iso, List.getElem?_append_right (by omega), length, begins]
    rfl
  have noWeek : ¬ some c = some 'W' := fun same =>
    ne_of_isDigit digit (by decide) (Option.some.inj same)
  rw [dateLength, d.length_iso, fifth, sixth, if_neg (by decide), if_pos rfl, if_neg noWeek]

theorem read_iso (d : CivilDate) : read d.iso.toList = some ⟨d, 0, 0, 0, 0, none⟩ := by
  have whole : d.iso.toList.take 10 = d.iso.toList :=
    List.take_of_length_le (Nat.le_of_eq d.length_iso)
  have nothing : d.iso.toList.drop 10 = [] :=
    List.drop_of_length_le (Nat.le_of_eq d.length_iso)
  have long : ¬ d.iso.toList.length < 7 := by
    rw [d.length_iso]
    decide
  simp only [read, if_neg long, dateLength_iso, whole, nothing, readDate_iso]
  rfl

end Iso

/-- A text without blanks and without the letter of universal time is read as it stands. -/
theorem Value.dateOfText_plain {s : String} (some : s.toList ≠ [])
    (plain : ∀ c ∈ s.toList, Text.isBlank c = false ∧ c ≠ 'Z') :
    dateOfText s = ((Iso.read s.toList).map (·.date)).or (Written.read s.toList) := by
  have trimmed : Text.trimBoth Text.isBlank s.toList = s.toList :=
    Text.trimBoth_eq_self fun c member => (plain c member).1
  have unchanged : (s.toList.flatMap fun c => if c = 'Z' then "+00:00".toList else [c]) =
      s.toList := by
    calc (s.toList.flatMap fun c => if c = 'Z' then "+00:00".toList else [c])
      _ = s.toList.flatMap fun c => [c] :=
          List.flatMap_congr fun c member => if_neg (plain c member).2
      _ = s.toList := List.flatMap_singleton' _
  simp only [dateOfText, trimmed, List.isEmpty_eq_false_iff.mpr some, unchanged]
  cases Iso.read s.toList <;> rfl

/-- The standard text of a date counts as that date. -/
theorem Value.dateOfText_iso (d : CivilDate) : dateOfText d.iso = some d := by
  have some : d.iso.toList ≠ [] := by
    rw [← List.length_pos_iff, d.length_iso]
    decide
  have plain : ∀ c ∈ d.iso.toList, Text.isBlank c = false ∧ c ≠ 'Z' := by
    intro c member
    rcases CivilDate.mem_iso member with digit | rfl
    · exact ⟨Text.isBlank_of_isDigit digit, ne_of_isDigit digit (by decide)⟩
    · exact ⟨by decide, by decide⟩
  rw [dateOfText_plain some plain, Iso.read_iso]
  rfl

end CourseAudit
