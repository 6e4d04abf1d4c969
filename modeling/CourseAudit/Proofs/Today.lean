import CourseAudit.Proofs.Comparison
import CourseAudit.Proofs.IsoDate
import CourseAudit.Proofs.Tokens
import Mathlib.Data.List.Induction

/-!
What the tokens of a context stand for. The context of a day keeps a table in which later
definitions replace earlier ones and today's date is written last, as a standard text. Comparing
with the token of today is therefore comparing with the day itself.
-/
namespace CourseAudit

theorem Value.get?_put (name other : String) (v : Value) (entries : List (String × Value)) :
    get? (put name v entries) other = if name = other then some v else get? entries other := by
  induction entries with
  | nil =>
      by_cases same : name = other
      · simp [put, get?, same]
      · simp [put, get?, same]
  | cons entry rest ih =>
      by_cases found : entry.1 = name
      · rw [put, if_pos found]
        by_cases same : name = other
        · simp [get?, same]
        · have skipped : entry.1 ≠ other := fun h => same (found.symm.trans h)
          simp [get?, same, skipped]
      · rw [put, if_neg found]
        by_cases here : entry.1 = other
        · have differ : name ≠ other := fun h => found (here.trans h.symm)
          simp [get?, here, differ]
        · have passed (more : List (String × Value)) :
              get? (entry :: more) other = get? more other := by simp [get?, here]
          rw [passed, passed, ih]

namespace CivilDate

/-- The order of the calendar: by years, then by months, then by days. -/
def Precedes (d e : CivilDate) : Prop :=
  d.year < e.year ∨ d.year = e.year ∧
    (d.month < e.month ∨ d.month = e.month ∧ d.day < e.day)

theorem before_iff_precedes (d e : CivilDate) : d.before e = true ↔ d.Precedes e := by
  obtain ⟨dMonth, dDay⟩ := d.day_lt
  obtain ⟨eMonth, eDay⟩ := e.day_lt
  unfold before rank Precedes
  rw [decide_eq_true_iff]
  constructor
  · intro less
    omega
  · intro less
    omega

end CivilDate

/-- How an operator of dates places a day relative to another. -/
def Operator.Places : Operator → CivilDate → CivilDate → Prop
  | .isBefore, d, e => d.Precedes e
  | .isAfter, d, e => e.Precedes d
  | .isOn, d, e => d = e
  | _, _, _ => False

/-- An operator of dates asks for a date on the left once there is one on the right. -/
theorem Operator.judge_day {op : Operator} (ofDates : op ∈ Operator.ofDates) (actual : Value)
    {expected : Value} {e : CivilDate} (dated : expected.toDate = some e) :
    ∃ answer, op.judge actual expected = .ok answer ∧
      (answer = true ↔ ∃ d, actual.toDate = some d ∧ op.Places d e) := by
  obtain undated | ⟨d, read⟩ := Option.eq_none_or_eq_some actual.toDate
  · obtain ⟨relation, judged⟩ := judge_ofDates ofDates
    refine ⟨false, ?_, ?_⟩
    · rw [judged, onDates_of_none (.inl undated)]
    · constructor
      · intro false
        cases false
      · rintro ⟨d, read, -⟩
        cases undated.symm.trans read
  · have only {p : CivilDate → Prop} : (∃ d, actual.toDate = some d ∧ p d) ↔ p d := by
      simp only [read, Option.some.injEq, exists_eq_left']
    have related (relation : CivilDate → CivilDate → Bool) :
        onDates relation actual expected = relation d e := by
      simp only [onDates, read, dated]
    simp only [Operator.ofDates, List.mem_cons, List.not_mem_nil, or_false] at ofDates
    rcases ofDates with rfl | rfl | rfl
    · refine ⟨d.before e, congrArg Except.ok (related _), ?_⟩
      rw [only]
      exact d.before_iff_precedes e
    · refine ⟨e.before d, congrArg Except.ok (related _), ?_⟩
      rw [only]
      exact e.before_iff_precedes d
    · refine ⟨d == e, congrArg Except.ok (related _), ?_⟩
      rw [only]
      exact beq_iff_eq

namespace EvaluationContext

variable {today : CivilDate} {values : List DynamicValue} {v : Value} {s : String}

/-- The definition of a token that counts: the last one. -/
def definition? (values : List DynamicValue) (name : String) : Option DynamicValue :=
  values.reverse.find? fun d => d.token == name

theorem get?_definitions (values : List DynamicValue) (name : String) :
    Value.get? (values.foldl (fun tokens d => Value.put d.token d.value tokens) []) name =
      (definition? values name).map (·.value) := by
  induction values using List.reverseRecOn with
  | nil => rfl
  | append_singleton values d ih =>
      rw [List.foldl_append, List.foldl_cons, List.foldl_nil, Value.get?_put, ih, definition?,
        definition?, List.reverse_append, List.reverse_singleton, List.singleton_append]
      by_cases same : d.token = name
      · rw [if_pos same, List.find?_cons_of_pos (by simpa using same)]
        rfl
      · rw [if_neg same, List.find?_cons_of_neg (by simpa using same)]

/-- The table of a context: today's date before all, then the definitions. -/
theorem get?_create (today : CivilDate) (values : List DynamicValue) (name : String) :
    Value.get? (create today values).tokens name =
      if todayToken = name then some (.text today.iso)
      else (definition? values name).map (·.value) := by
  rw [create, Value.get?_put, get?_definitions]

/-- Today's token stands for today's date, however the table defines it. -/
theorem resolve_today (text : v.asText? = some s) (token : Text.trim s = todayToken) :
    (create today values).resolve v = .text today.iso := by
  rw [resolve_of_text text, token, get?_create, if_pos rfl]
  rfl

theorem definition?_last {before after : List DynamicValue} {d : DynamicValue}
    (last : ∀ e ∈ after, e.token ≠ d.token) :
    definition? (before ++ d :: after) d.token = some d := by
  have skipped : after.reverse.find? (fun e => e.token == d.token) = none := by
    rw [List.find?_eq_none]
    intro e member
    rw [beq_iff_eq]
    exact last e (List.mem_reverse.mp member)
  rw [definition?, List.reverse_append, List.reverse_cons, List.append_assoc, List.find?_append,
    skipped, Option.none_or, List.singleton_append]
  exact List.find?_cons_of_pos (beq_self_eq_true d.token)

theorem definition?_none {name : String} (undefined : ∀ d ∈ values, d.token ≠ name) :
    definition? values name = none := by
  rw [definition?, List.find?_eq_none]
  intro d member
  rw [beq_iff_eq]
  exact undefined d (List.mem_reverse.mp member)

/-- What tokens mean in the context of a day, whatever definitions it is given. -/
structure TokenLaws (today : CivilDate) (values : List DynamicValue) : Prop where
  day : ∀ op ∈ Operator.ofDates, ∀ actual operator v s, actual.isNull = false →
    Operator.ofValue? operator = some op → v.asText? = some s → Text.trim s = todayToken →
    ∃ answer, holds (create today values) actual operator v = .ok answer ∧
      (answer = true ↔ ∃ d, actual.toDate = some d ∧ op.Places d today)
  last : ∀ before d after v s, values = before ++ d :: after →
    (∀ e ∈ after, e.token ≠ d.token) → d.token ≠ todayToken → v.asText? = some s →
    Text.trim s = d.token → (create today values).resolve v = d.value
  others : ∀ v, (∀ s, v.asText? = some s →
    Text.trim s ≠ todayToken ∧ ∀ d ∈ values, d.token ≠ Text.trim s) →
    (create today values).resolve v = v

theorem token_laws (today : CivilDate) (values : List DynamicValue) :
    TokenLaws today values where
  day op ofDates actual operator v s present known text token := by
    have dated : ((create today values).resolve v).toDate = some today := by
      rw [resolve_today text token]
      exact Value.dateOfText_iso today
    obtain ⟨answer, judged, meaning⟩ := Operator.judge_day ofDates actual dated
    exact ⟨answer, (holds_of_operator known present).trans judged, meaning⟩
  last before d after v s split last other text token := by
    subst split
    rw [resolve_of_text text, token, get?_create, if_neg (Ne.symm other), definition?_last last]
    rfl
  others v undefined := by
    apply resolve_of_noToken
    intro s text
    obtain ⟨other, absent⟩ := undefined s text
    rw [get?_create, if_neg (Ne.symm other), definition?_none absent]
    rfl

-- a definition of the token itself changes nothing
example : holds (create ⟨2024, 2, 29, by decide⟩
      [⟨"Someday", todayToken, .date, .text "01/01/2000"⟩])
    (.text "February 29, 2024") (.text "Is on") (.text (todayToken ++ "\t")) = .ok true := by
  decide +kernel

end EvaluationContext
end CourseAudit
