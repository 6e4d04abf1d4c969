import CourseAudit.Proofs.Quotient
import CourseAudit.Review.Page

/-!
The pages of a list. Put one after the other they are the list, and going from each page to the next
one comes to all of them, whatever size and page are asked for.
-/
namespace CourseAudit.Page

variable {α : Type} {entries : List α} {size : Int}

/-- The number of the last page: the least number of pages that hold all entries, but at least
one. -/
def lastPage (total : Nat) (size : Int) : Nat := max 1 ⌈(total : ℚ) / (max 1 size).toNat⌉₊

/-- The pages in the range, in order. -/
def pages (entries : List α) (size : Int) : List (Page α) :=
  (List.range' 1 (lastPage entries.length size)).map fun k : Nat => ofList entries k size

/-- The pages that one comes to from a page by asking for the next one as long as there is one. -/
inductive Visits (entries : List α) (size : Int) : Page α → List (Page α) → Prop
  | stop {p : Page α} (last : p.hasNext = false) : Visits entries size p [p]
  | turn {p : Page α} {later : List (Page α)} (more : p.hasNext = true)
      (rest : Visits entries size (ofList entries (p.page + 1) size) later) :
      Visits entries size p (p :: later)

theorem effectiveSize_pos (size : Int) : 0 < effectiveSize size := by
  unfold effectiveSize
  omega

/-- The quotient that pages are counted by may be rounded, their number is exact. -/
theorem count_eq_lastPage {total : Nat} (short : total < 2 ^ 53) (size : Int) :
    count total (effectiveSize size) = lastPage total size := by
  obtain ⟨c, rounded, same⟩ := Binary64.ceil?_ofRatio short (effectiveSize_pos size)
  rw [count, rounded, Option.getD_some, same]
  rfl

theorem one_le_lastPage (total : Nat) (size : Int) : 1 ≤ lastPage total size := Nat.le_max_left _ _

/-- Up to the last page there is room for all entries. -/
theorem le_lastPage_mul (total : Nat) (size : Int) :
    total ≤ lastPage total size * effectiveSize size := by
  have divisor : (0 : ℚ) < effectiveSize size := by exact_mod_cast effectiveSize_pos size
  have covered : (total : ℚ) / effectiveSize size ≤ lastPage total size :=
    (Nat.le_ceil _).trans (by exact_mod_cast Nat.le_max_right _ _)
  rw [div_le_iff₀ divisor] at covered
  exact_mod_cast covered

/-- Before the last page there is not room for all entries. -/
theorem mul_lt_of_lt_lastPage {total k : Nat} (first : 1 ≤ k) (before : k < lastPage total size) :
    k * effectiveSize size < total := by
  have divisor : (0 : ℚ) < effectiveSize size := by exact_mod_cast effectiveSize_pos size
  have needed : k < ⌈(total : ℚ) / effectiveSize size⌉₊ := by
    have least : lastPage total size = max 1 ⌈(total : ℚ) / effectiveSize size⌉₊ := rfl
    omega
  rw [Nat.lt_ceil, lt_div_iff₀ divisor] at needed
  exact_mod_cast needed

/-- The last page of a list with entries has some of them. -/
theorem lastPage_mul_lt {total : Nat} (some : 0 < total) (size : Int) :
    (lastPage total size - 1) * effectiveSize size < total := by
  have least := one_le_lastPage total size
  rcases Nat.eq_or_lt_of_le least with only | several
  · rw [← only, Nat.sub_self, Nat.zero_mul]
    exact some
  · exact mul_lt_of_lt_lastPage (by omega) (by omega)

/-- A page in the range has the entries that stand behind those of the pages before it. -/
theorem ofList_of_range (short : entries.length < 2 ^ 53) {k : Nat} (first : 1 ≤ k)
    (last : k ≤ lastPage entries.length size) :
    ofList entries k size = ⟨(entries.drop ((k - 1) * effectiveSize size)).take
      (effectiveSize size), k, effectiveSize size, entries.length⟩ := by
  have current : (min (max (k : Int) 1) (count entries.length (effectiveSize size))).toNat = k := by
    rw [count_eq_lastPage short]
    omega
  unfold ofList
  simp only [current]

/-- What is cut into pieces of one length is put together by them. -/
theorem flatMap_pieces (entries : List α) (n m : Nat) :
    ((List.range' 1 m).flatMap fun k => (entries.drop ((k - 1) * n)).take n) =
      entries.take (m * n) := by
  induction m with
  | zero => simp
  | succ m ih =>
      rw [List.range'_1_concat, List.flatMap_append, ih, Nat.succ_mul, List.take_add]
      simp

/-- What stands on the pages of a list, and how one gets from each to the next. -/
structure Covers (entries : List α) (size : Int) : Prop where
  joined : (pages entries size).flatMap (·.entries) = entries
  full : ∀ k : Nat, 1 ≤ k → k < lastPage entries.length size →
    ((ofList entries k size).entries.length : Int) = max 1 size
  rest : entries ≠ [] →
    1 ≤ (ofList entries (lastPage entries.length size) size).entries.length ∧
      ((ofList entries (lastPage entries.length size) size).entries.length : Int) ≤ max 1 size
  /-- Pages outside of the range are taken to its nearest end. -/
  nearest : ∀ page : Int, ofList entries page size =
    ofList entries (min (max page 1) (lastPage entries.length size)) size
  placed : ∀ k : Nat, 1 ≤ k → k ≤ lastPage entries.length size →
    (ofList entries k size).page = k ∧
      ((ofList entries k size).hasPrevious = true ↔ 1 < k) ∧
      ((ofList entries k size).hasNext = true ↔ k < lastPage entries.length size)
  visited : Visits entries size (ofList entries 1 size) (pages entries size)
  unlabelled : entries = [] → ∀ page : Int, (ofList entries page size).rangeLabel = "0 of 0"
  /-- A label tells the positions of the first and the last entry of the page. -/
  labelled : entries ≠ [] → ∀ k : Nat, 1 ≤ k → k ≤ lastPage entries.length size →
    ∃ a b : Nat, 1 ≤ a ∧ a ≤ b ∧ b ≤ entries.length ∧
      (ofList entries k size).entries = (entries.take b).drop (a - 1) ∧
      (ofList entries k size).rangeLabel =
        toString a ++ "-" ++ toString b ++ " of " ++ toString entries.length

section Short

variable (short : entries.length < 2 ^ 53)

include short

theorem ofList_nearest (page : Int) : ofList entries page size =
    ofList entries (min (max page 1) (lastPage entries.length size)) size := by
  have first := one_le_lastPage entries.length size
  have same : min (max (min (max page 1) (lastPage entries.length size : Int)) 1)
      (lastPage entries.length size) = min (max page 1) (lastPage entries.length size) := by
    omega
  unfold ofList
  simp only [count_eq_lastPage short, same]

theorem placed_of_range {k : Nat} (first : 1 ≤ k) (last : k ≤ lastPage entries.length size) :
    (ofList entries k size).page = k ∧
      ((ofList entries k size).hasPrevious = true ↔ 1 < k) ∧
      ((ofList entries k size).hasNext = true ↔ k < lastPage entries.length size) := by
  rw [ofList_of_range short first last]
  refine ⟨rfl, ?_, ?_⟩
  · simp [hasPrevious]
  · simp [hasNext, count_eq_lastPage short]

/-- From any page on, those up to the last one are visited. -/
theorem visits_from {k more : Nat} (first : 1 ≤ k)
    (last : k + more = lastPage entries.length size) :
    Visits entries size (ofList entries k size)
      ((List.range' k (more + 1)).map fun i : Nat => ofList entries i size) := by
  induction more generalizing k with
  | zero =>
      obtain ⟨-, -, next⟩ := @placed_of_range α entries size short k first (by omega)
      apply Visits.stop
      rw [Bool.eq_false_iff, ne_eq, next]
      omega
  | succ more ih =>
      obtain ⟨page, -, next⟩ := @placed_of_range α entries size short k first (by omega)
      have later := ih (k := k + 1) (by omega) (by omega)
      rw [List.range'_succ, List.map_cons]
      apply Visits.turn
      · rw [next]
        omega
      · rw [page]
        exact_mod_cast later

theorem length_of_range {k : Nat} (first : 1 ≤ k) (last : k ≤ lastPage entries.length size) :
    (ofList entries k size).entries.length =
      min (effectiveSize size) (entries.length - (k - 1) * effectiveSize size) := by
  rw [ofList_of_range short first last, List.length_take, List.length_drop]

/-- The label of a page that has entries tells where they stand. -/
theorem label_of_range (some : entries ≠ []) {k : Nat} (first : 1 ≤ k)
    (last : k ≤ lastPage entries.length size) :
    ∃ a b : Nat, 1 ≤ a ∧ a ≤ b ∧ b ≤ entries.length ∧
      (ofList entries k size).entries = (entries.take b).drop (a - 1) ∧
      (ofList entries k size).rangeLabel =
        toString a ++ "-" ++ toString b ++ " of " ++ toString entries.length := by
  have total : 0 < entries.length := List.length_pos_of_ne_nil some
  have room := effectiveSize_pos size
  have before : (k - 1) * effectiveSize size < entries.length :=
    (Nat.mul_le_mul_right _ (by omega)).trans_lt (lastPage_mul_lt total size)
  refine ⟨(k - 1) * effectiveSize size + 1,
    min ((k - 1) * effectiveSize size + effectiveSize size) entries.length, ?_, ?_, ?_, ?_, ?_⟩
  · omega
  · omega
  · omega
  · rw [ofList_of_range short first last, List.drop_take, Nat.add_sub_cancel, List.take_eq_take_iff,
      List.length_drop]
    omega
  · rw [ofList_of_range short first last]
    simp only [rangeLabel, start, if_neg total.ne']

/-- Nothing is lost and nothing repeated on the pages of a list. -/
theorem covers_of_short (size : Int) : Covers entries size where
  joined := by
    have pieces : (pages entries size).flatMap (·.entries) =
        (List.range' 1 (lastPage entries.length size)).flatMap fun k =>
          (entries.drop ((k - 1) * effectiveSize size)).take (effectiveSize size) := by
      unfold pages
      rw [List.flatMap_map]
      apply List.flatMap_congr
      intro k member
      obtain ⟨first, last⟩ := List.mem_range'_1.mp member
      rw [ofList_of_range short first (by omega)]
    rw [pieces, flatMap_pieces]
    exact List.take_of_length_le (le_lastPage_mul entries.length size)
  full := by
    intro k first last
    have room := mul_lt_of_lt_lastPage first last
    have own : k * effectiveSize size = (k - 1) * effectiveSize size + effectiveSize size := by
      rw [← Nat.succ_mul]
      congr 1
      omega
    rw [length_of_range short first last.le]
    unfold effectiveSize at *
    omega
  rest := by
    intro some
    have total : 0 < entries.length := List.length_pos_of_ne_nil some
    have needed := lastPage_mul_lt total size
    have room := effectiveSize_pos size
    rw [length_of_range short (one_le_lastPage _ _) le_rfl]
    unfold effectiveSize at *
    omega
  nearest := ofList_nearest short
  placed := fun k first last => placed_of_range short first last
  visited := by
    have last := one_le_lastPage entries.length size
    obtain ⟨more, same⟩ := Nat.exists_eq_add_of_le last
    have visits := @visits_from α entries size short 1 more le_rfl same.symm
    unfold pages
    rw [same, Nat.add_comm]
    exact visits
  unlabelled := by
    intro none page
    simp [none, rangeLabel, ofList]
  labelled := fun some k first last => label_of_range short some first last

end Short

/-- Twelve entries stand on three pages, and the ninth page is the last one. -/
theorem covers_twelve : (List.range 12).length < 2 ^ 53 ∧ Covers (List.range 12) 5 ∧
    (pages (List.range 12) 5).map (·.rangeLabel) = ["1-5 of 12", "6-10 of 12", "11-12 of 12"] ∧
    (ofList (List.range 12) 9 5).entries = [10, 11] := by
  have short : (List.range 12).length < 2 ^ 53 := by decide
  have covers := covers_of_short short 5
  have last : lastPage (List.range 12).length 5 = 3 := by
    rw [← count_eq_lastPage short]
    decide +kernel
  refine ⟨short, covers, ?_, ?_⟩
  · unfold pages
    rw [last]
    decide +kernel
  · rw [covers.nearest, last]
    decide +kernel

end CourseAudit.Page
