import CourseAudit.Proofs.IsoDate
import CourseAudit.Proofs.Today
import Mathlib.Tactic.IntervalCases

/-!
The displayed text of a date read back. Month and day are written without leading zeros, so that a
slash stands among the first four characters and the text is no standard one; the first of the
written forms reads it, and takes each number as it was written. Comparing with a displayed date is
comparing with the date, from the first year that has four digits.
-/
namespace CourseAudit

namespace CivilDate

/-- The characters of a displayed date, part by part. -/
theorem toList_slashed (d : CivilDate) : d.slashed.toList = Nat.toDigits 10 d.month ++
    '/' :: (Nat.toDigits 10 d.day ++ '/' :: Nat.toDigits 10 d.year) := by
  have slash : "/".toList = ['/'] := rfl
  simp only [slashed, String.toList_append, slash, Numeral.toList_natural, List.append_assoc,
    List.cons_append, List.nil_append]

theorem mem_slashed {d : CivilDate} {c : Char} (member : c ∈ d.slashed.toList) :
    c.isDigit = true ∨ c = '/' := by
  rw [toList_slashed] at member
  simp only [List.mem_append, List.mem_cons] at member
  rcases member with month | rfl | day | rfl | year
  · exact .inl (Numeral.isDigit_toDigits c month)
  · exact .inr rfl
  · exact .inl (Numeral.isDigit_toDigits c day)
  · exact .inr rfl
  · exact .inl (Numeral.isDigit_toDigits c year)

end CivilDate

namespace Iso

/-- Only digits are taken as a number. -/
theorem takeNumber_eq_none {count : Nat} {cs : List Char} {c : Char} (member : c ∈ cs.take count)
    (other : c.isDigit = false) : takeNumber count cs = none := by
  refine if_neg fun ⟨_, decimal⟩ => Bool.false_ne_true ?_
  exact other.symm.trans (List.all_eq_true.mp decimal c member)

/-- Of any text more than a year is read as its date. -/
theorem seven_le_dateLength (cs : List Char) : 7 ≤ dateLength cs := by
  grind [dateLength]

/-- A standard text begins with the four digits of its year. -/
theorem read_eq_none {cs : List Char} {c : Char} (member : c ∈ cs.take 4)
    (other : c.isDigit = false) : read cs = none := by
  have head : (cs.take (dateLength cs)).take 4 = cs.take 4 := by
    have long := seven_le_dateLength cs
    rw [List.take_take, Nat.min_eq_left (by omega)]
  have unread : readDate (cs.take (dateLength cs)) = none := by
    rw [readDate, takeNumber_eq_none (head.symm ▸ member) other]
    rfl
  simp only [read, unread]
  split <;> rfl

theorem read_slashed (d : CivilDate) : read d.slashed.toList = none := by
  have short : (Nat.toDigits 10 d.month).length ≤ 2 := by
    obtain ⟨-, -, -, month, -⟩ := d.exists_day
    exact (Nat.length_toDigits_le_iff (by decide) (by decide)).mpr (by omega)
  refine read_eq_none (c := '/') ?_ (by decide)
  rw [CivilDate.toList_slashed, List.take_append, List.mem_append]
  refine .inr ?_
  obtain ⟨more, room⟩ : ∃ more, 4 - (Nat.toDigits 10 d.month).length = more + 1 :=
    ⟨3 - (Nat.toDigits 10 d.month).length, by omega⟩
  rw [room, List.take_succ_cons]
  exact List.mem_cons_self

end Iso

namespace Written

variable {n : Nat} {rest : List Char}

theorem months_head (low : 1 ≤ n) (high : n ≤ 12) :
    (months (Nat.toDigits 10 n ++ '/' :: rest)).head? = some (n, '/' :: rest) := by
  interval_cases n <;> rfl

theorem days_head (low : 1 ≤ n) (high : n ≤ 31) :
    (days (Nat.toDigits 10 n ++ '/' :: rest)).head? = some (n, '/' :: rest) := by
  interval_cases n <;> rfl

theorem length_toDigits_four (low : 1000 ≤ n) (high : n ≤ 9999) :
    (Nat.toDigits 10 n).length = 4 := by
  have upper := (Nat.length_toDigits_le_iff (b := 10) (n := n) (by decide)
    (show 0 < 4 by decide)).mpr (by omega)
  have lower := (Nat.length_toDigits_le_iff (b := 10) (n := n) (by decide)
    (show 0 < 3 by decide)).not.mpr (by omega)
  omega

theorem years_head (low : 1000 ≤ n) (high : n ≤ 9999) :
    (years (Nat.toDigits 10 n)).head? = some (n, []) := by
  have long := length_toDigits_four low high
  have whole : (Nat.toDigits 10 n).take 4 = Nat.toDigits 10 n := List.take_of_length_le long.le
  have nothing : (Nat.toDigits 10 n).drop 4 = [] := List.drop_of_length_le long.le
  have decimal : (Nat.toDigits 10 n).all Text.isDecimalDigit = true := by
    rw [List.all_eq_true]
    intro c member
    rw [Text.isDecimalDigit, Text.digitValue?_of_isDigit (Numeral.isDigit_toDigits c member)]
    rfl
  have counted : Text.digitsValue (Nat.toDigits 10 n) = n := by
    rw [Numeral.digitsValue_digits Numeral.isDigit_toDigits,
      Nat.ofDigitChars_toDigits (by decide) (by decide)]
  simp only [years, whole, nothing, long, decimal, counted, and_self, if_true, List.head?_cons]

section Pieces

variable {pieces : List Piece} {parts : Parts} {result : Parts × List Char}

/-- The first reading of a piece counts when the other pieces can follow it. -/
theorem readPieces_of_head {piece : Piece} {found : Parts} {cs : List Char}
    (first : (piece.readings parts cs).head? = some (found, rest))
    (done : readPieces pieces found rest = some result) :
    readPieces (piece :: pieces) parts cs = some result := by
  obtain ⟨others, readings⟩ := List.head?_eq_some_iff.mp first
  simp only [readPieces, readings, List.findSome?_cons, done]

theorem readPieces_mark {c : Char} (done : readPieces pieces parts rest = some result) :
    readPieces (.mark c :: pieces) parts (c :: rest) = some result :=
  readPieces_of_head (by simp [Piece.readings]) done

theorem readPieces_month (low : 1 ≤ n) (high : n ≤ 12)
    (done : readPieces pieces { parts with month := n } ('/' :: rest) = some result) :
    readPieces (.month :: pieces) parts (Nat.toDigits 10 n ++ '/' :: rest) = some result := by
  refine readPieces_of_head ?_ done
  rw [Piece.readings, List.head?_map, months_head low high]
  rfl

theorem readPieces_day (low : 1 ≤ n) (high : n ≤ 31)
    (done : readPieces pieces { parts with day := n } ('/' :: rest) = some result) :
    readPieces (.day :: pieces) parts (Nat.toDigits 10 n ++ '/' :: rest) = some result := by
  refine readPieces_of_head ?_ done
  rw [Piece.readings, List.head?_map, days_head low high]
  rfl

theorem readPieces_year (low : 1000 ≤ n) (high : n ≤ 9999)
    (done : readPieces pieces { parts with year := n } [] = some result) :
    readPieces (.year :: pieces) parts (Nat.toDigits 10 n) = some result := by
  refine readPieces_of_head ?_ done
  rw [Piece.readings, List.head?_map, years_head low high]
  rfl

end Pieces

/-- From the year 1000 on, a displayed date is read in the first of the written forms. -/
theorem read_slashed {d : CivilDate} (late : 1000 ≤ d.year) :
    read d.slashed.toList = some d := by
  obtain ⟨-, lastYear, month, lastMonth, day, -⟩ := d.exists_day
  obtain ⟨-, lastDay⟩ := d.day_lt
  have pieces : readPieces [.month, .mark '/', .day, .mark '/', .year] ⟨0, 0, 0⟩
      d.slashed.toList = some (⟨d.year, d.month, d.day⟩, []) := by
    rw [CivilDate.toList_slashed]
    apply readPieces_month month lastMonth
    apply readPieces_mark
    apply readPieces_day day (by omega)
    apply readPieces_mark
    exact readPieces_year late lastYear rfl
  have whole : readForm [.month, .mark '/', .day, .mark '/', .year] d.slashed.toList = some d := by
    rw [readForm, pieces]
    exact d.ofParts?_self
  rw [read, forms, List.findSome?_cons, whole]

end Written

namespace Value

/-- From the year 1000 on, a displayed date counts as the date. -/
theorem dateOfText_slashed {d : CivilDate} (late : 1000 ≤ d.year) :
    dateOfText d.slashed = some d := by
  have some : d.slashed.toList ≠ [] := by
    rw [CivilDate.toList_slashed]
    exact List.append_ne_nil_of_left_ne_nil Nat.toDigits_ne_nil _
  have plain : ∀ c ∈ d.slashed.toList, Text.isBlank c = false ∧ c ≠ 'Z' := by
    intro c member
    rcases CivilDate.mem_slashed member with digit | rfl
    · exact ⟨Text.isBlank_of_isDigit digit, ne_of_isDigit digit (by decide)⟩
    · exact ⟨by decide, by decide⟩
  rw [dateOfText_plain some plain, Iso.read_slashed, Written.read_slashed late]
  rfl

end Value

/-- Comparing dates, only the date that a value counts as matters. -/
theorem Operator.judge_ofDates_congr {op : Operator} (member : op ∈ ofDates) (actual : Value)
    {expected other : Value} (same : expected.toDate = other.toDate) :
    op.judge actual expected = op.judge actual other := by
  obtain ⟨relation, judged⟩ := judge_ofDates member
  rw [judged, judged, onDates, onDates, same]

/-- A displayed date can be typed back: it counts as the date that is displayed, and comparing with
it is comparing with the date. -/
theorem displayed_date {v : Value} {d : CivilDate} (dated : v.toDate = some d)
    (late : 1000 ≤ d.year) : (Value.text (displayDate v)).toDate = some d ∧
      ∀ (context : EvaluationContext) (actual operator : Value), ∀ op ∈ Operator.ofDates,
        Operator.ofValue? operator = some op →
        Value.get? context.tokens (Text.trim (displayDate v)) = none →
        holds context actual operator (.text (displayDate v)) =
          holds context actual operator (.date d) := by
  have shown : displayDate v = d.slashed := by simp only [displayDate, dated]
  have typed : (Value.text (displayDate v)).toDate = some d := by
    have read : Value.dateOfText (displayDate v) = some d := by
      rw [shown, Value.dateOfText_slashed late]
    exact read
  refine ⟨typed, fun context actual operator op member named plain => ?_⟩
  have judged : op.judge actual (.text (displayDate v)) = op.judge actual (.date d) :=
    Operator.judge_ofDates_congr member actual typed
  have day : context.resolve (.date d) = .date d := rfl
  simp only [holds, named, EvaluationContext.resolve_plain plain, day, judged]

/-- A moment late on the last day of a February. -/
def lateInFebruary : Value := .text "2024-02-29T23:30:00Z"

/-- It is displayed as a day, and the next day is after it. -/
theorem displayed_date_lateInFebruary :
    lateInFebruary.toDate = some ⟨2024, 2, 29, by decide⟩ ∧
      displayDate lateInFebruary = "2/29/2024" ∧
      (Value.text "2/29/2024").toDate = some ⟨2024, 2, 29, by decide⟩ ∧
      holds (.ofDay ⟨2025, 10, 1, by decide⟩) (.text "March 1, 2024") (.text "is after")
        (.text "2/29/2024") = .ok true := by
  have dated : lateInFebruary.toDate = some ⟨2024, 2, 29, by decide⟩ := by decide +kernel
  have shown : displayDate lateInFebruary = "2/29/2024" := by decide +kernel
  have named : Operator.ofValue? (.text "is after") = some .isAfter := by decide +kernel
  have plain : Value.get? (EvaluationContext.ofDay ⟨2025, 10, 1, by decide⟩).tokens
      (Text.trim "2/29/2024") = none := by decide +kernel
  have next : holds (.ofDay ⟨2025, 10, 1, by decide⟩) (.text "March 1, 2024") (.text "is after")
      (.date ⟨2024, 2, 29, by decide⟩) = .ok true := by decide +kernel
  obtain ⟨typed, compared⟩ := displayed_date dated (by decide)
  rw [shown] at typed compared
  refine ⟨dated, shown, typed, ?_⟩
  rw [compared _ _ _ .isAfter (by decide) named plain, next]

end CourseAudit
