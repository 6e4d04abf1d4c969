import CourseAudit.Payload.Domain
import CourseAudit.Payload.Requests
import CourseAudit.Proofs.Task

/-!
What has been read by a form has that form, its fallbacks included. So tasks out of payloads are
well typed, whatever the payloads were.
-/
namespace CourseAudit.Payload

mutual

/-- The values that a form stands for once a payload has been read. -/
def Form.Fits : Form → Value → Prop
  | .anything, _ => True
  | .text, v => ∃ s, v = .text s
  | .number, v => ∃ x, v = .float x
  | .flag, v => ∃ b, v = .bool b
  | .day, v => ∃ d, v = .date d
  | .integer low high, v =>
      ∃ i, v = .int i ∧ (∀ bound, low = some bound → bound ≤ i) ∧
        ∀ bound, high = some bound → i ≤ bound
  | .identifier, v => (∃ i, v = .int i) ∨ ∃ s, v = .text s
  | .member choices, v => ∃ c ∈ choices, v = .choice c
  | .oneOf names, v => ∃ s ∈ names, v = .text s
  | .optional form, v => v = .null ∨ form.Fits v
  | .list form, v => ∃ items, v = .list items ∧ ∀ item ∈ items, form.Fits item
  | .table, v => ∃ entries, v = .dict entries
  | .record fields, v => ∃ entries, v = .dict entries ∧ fields.Fit entries

/-- Entries under the first keys of the fields, in their order. -/
def Fields.Fit : Fields → List (String × Value) → Prop
  | .nil, entries => entries = []
  | .cons key _ _ form rest, entries =>
      ∃ v others, entries = (key, v) :: others ∧ form.Fits v ∧ rest.Fit others

end

mutual

/-- Every fallback of a form has the form of its field. -/
def Form.DefaultsFit : Form → Prop
  | .optional form => form.DefaultsFit
  | .list form => form.DefaultsFit
  | .record fields => fields.DefaultsFit
  | _ => True

def Fields.DefaultsFit : Fields → Prop
  | .nil => True
  | .cons _ _ fallback form rest =>
      (∀ v, fallback = some v → form.Fits v) ∧ form.DefaultsFit ∧ rest.DefaultsFit

end

theorem plainly_eq_ok_iff {α : Type} {wrap : α → Value} {reading : Except IssueKind α} {w : Value} :
    plainly wrap reading = .ok w ↔ ∃ a, reading = .ok a ∧ wrap a = w := by
  cases reading <;> simp [plainly]

theorem whole_eq_ok {v w : Value} {reading : Reading} (h : whole v reading = .ok w) :
    reading = .ok w := by
  unfold whole at h
  split at h
  · cases h
  · exact h

theorem readBounded_bounds {low high : Option Int} {v : Value} {i : Int}
    (h : readBounded low high v = .ok i) :
    (∀ bound, low = some bound → bound ≤ i) ∧ ∀ bound, high = some bound → i ≤ bound := by
  obtain ⟨j, hj, h⟩ := bind_eq_ok_iff.mp h
  split at h
  · cases h
  · next notAbove =>
      split at h
      · cases h
      · next notBelow =>
          cases h
          constructor
          · rintro bound rfl
            simpa using notBelow
          · rintro bound rfl
            simpa using notAbove

theorem readIdentifier_fits {v w : Value} (h : readIdentifier v = .ok w) :
    Form.identifier.Fits w := by
  unfold readIdentifier at h
  split at h
  · cases h
    exact .inl ⟨_, rfl⟩
  · cases h
    exact .inr ⟨_, rfl⟩
  · split at h
    · cases h
      exact .inl ⟨_, rfl⟩
    · cases h

/-- Readings are collected when each of them is one. -/
theorem collect_eq_ok {start : Nat} {readings : List Reading} {vs : List Value}
    (h : collect start readings = .ok vs) : readings = vs.map .ok := by
  induction readings generalizing start vs with
  | nil => cases h; rfl
  | cons reading rest ih =>
      unfold collect at h
      split at h
      · next v others ho =>
          cases h
          rw [ih ho]
          rfl
      all_goals cases h

theorem joinField_eq_ok {key : String} {reading : Reading}
    {rest : Except (List Issue) (List (String × Value))} {entries : List (String × Value)}
    (h : joinField key reading rest = .ok entries) :
    ∃ v others, reading = .ok v ∧ rest = .ok others ∧ entries = (key, v) :: others := by
  unfold joinField at h
  split at h
  · next v others =>
      cases h
      exact ⟨v, others, rfl, rfl, rfl⟩
  all_goals cases h

mutual

theorem Form.fits_of_read : ∀ (form : Form), form.DefaultsFit → ∀ {v w : Value},
    form.read v = .ok w → form.Fits w
  | .anything, _, _, _, _ => trivial
  | .text, _, _, _, h => by
      obtain ⟨s, -, rfl⟩ := plainly_eq_ok_iff.mp h
      exact ⟨s, rfl⟩
  | .number, _, _, _, h => by
      obtain ⟨x, -, rfl⟩ := plainly_eq_ok_iff.mp (whole_eq_ok h)
      exact ⟨x, rfl⟩
  | .flag, _, _, _, h => by
      obtain ⟨b, -, rfl⟩ := plainly_eq_ok_iff.mp (whole_eq_ok h)
      exact ⟨b, rfl⟩
  | .day, _, _, _, h => by
      obtain ⟨d, -, rfl⟩ := plainly_eq_ok_iff.mp (whole_eq_ok h)
      exact ⟨d, rfl⟩
  | .integer low high, _, _, _, h => by
      obtain ⟨i, hi, rfl⟩ := plainly_eq_ok_iff.mp (whole_eq_ok h)
      exact ⟨i, rfl, readBounded_bounds hi⟩
  | .identifier, _, _, _, h => readIdentifier_fits h
  | .member choices, _, _, _, h => by
      have reading := whole_eq_ok h
      split at reading
      · next c found =>
          cases reading
          obtain ⟨s, -, found⟩ := Option.bind_eq_some_iff.mp found
          exact ⟨c, List.mem_of_find?_eq_some found, rfl⟩
      · cases reading
  | .oneOf names, _, _, _, h => by
      have reading := whole_eq_ok h
      split at reading
      · next s _ =>
          split at reading
          · next member =>
              cases reading
              exact ⟨s, by simpa using member, rfl⟩
          · cases reading
      · cases reading
  | .optional form, defaults, v, w, h => by
      change (if v.isNull then .ok .null else form.read v) = _ at h
      split at h
      · cases h
        exact .inl rfl
      · exact .inr (form.fits_of_read defaults h)
  | .list form, defaults, v, w, h => by
      have items : ∀ vs : List Value, (collect 0 (vs.map form.read)).map .list = .ok w →
          (Form.list form).Fits w := by
        intro vs h
        obtain ⟨found, hf, rfl⟩ := map_eq_ok_iff.mp h
        refine ⟨found, rfl, ?_⟩
        intro item member
        have listed : Except.ok item ∈ vs.map form.read := by
          rw [collect_eq_ok hf]
          exact List.mem_map_of_mem member
        obtain ⟨u, -, hu⟩ := List.mem_map.mp listed
        exact form.fits_of_read defaults hu
      cases v with
      | list vs => exact items vs h
      | tuple vs => exact items vs h
      | _ => cases h
  | .table, _, v, w, h => by
      cases v with
      | dict entries => cases h; exact ⟨entries, rfl⟩
      | _ => cases h
  | .record fields, defaults, v, w, h => by
      cases v with
      | dict entries =>
          obtain ⟨found, hf, rfl⟩ := map_eq_ok_iff.mp h
          exact ⟨found, rfl, fields.fit_of_read defaults hf⟩
      | _ => cases h

theorem Fields.fit_of_read : ∀ (fields : Fields), fields.DefaultsFit →
    ∀ {entries found : List (String × Value)}, fields.read entries = .ok found → fields.Fit found
  | .nil, _, _, _, h => by
      cases h
      rfl
  | .cons key otherKeys fallback form rest, defaults, entries, found, h => by
      obtain ⟨v, others, hv, ho, rfl⟩ := joinField_eq_ok h
      refine ⟨v, others, rfl, ?_, rest.fit_of_read defaults.2.2 ho⟩
      split at hv
      · split at hv
        · next reading =>
            cases hv
            exact form.fits_of_read defaults.2.1 reading
        · cases hv
      · cases hv
        exact defaults.1 _ rfl
      · cases hv

end

/-- The form of the field that goes by a key first. -/
def Fields.form? (key : String) : Fields → Option Form
  | .nil => none
  | .cons name _ _ form rest => if name = key then some form else form? key rest

/-- What stands under the key of a field has the form of the field. -/
theorem Fields.Fit.part : ∀ {fields : Fields} {entries : List (String × Value)} {key : String}
    {form : Form}, fields.Fit entries → fields.form? key = some form →
      form.Fits ((Value.dict entries).part key)
  | .nil, _, _, _, _, found => by cases found
  | .cons name _ _ _ rest, _, key, _, h, found => by
      obtain ⟨v, others, rfl, fits, fit⟩ := h
      unfold Fields.form? at found
      by_cases same : name = key
      · rw [if_pos same] at found
        cases found
        simpa [Value.part, Value.get?, same] using fits
      · rw [if_neg same] at found
        have later := Fit.part fit found
        simpa [Value.part, Value.get?, same] using later

/-- The parts of a record under its keys. -/
theorem Form.Fits.part {fields : Fields} {v : Value} (h : (Form.record fields).Fits v)
    (key : String) {form : Form} (found : fields.form? key = some form) :
    form.Fits (v.part key) := by
  obtain ⟨entries, rfl, fit⟩ := h
  exact fit.part found

/-- The items of a list, and of nothing where a list may be left out. -/
theorem Form.Fits.items {form : Form} {v : Value}
    (h : (Form.list form).Fits v ∨ (Form.optional (.list form)).Fits v) :
    ∀ item ∈ v.items, form.Fits item := by
  rcases h with ⟨items, rfl, all⟩ | rfl | ⟨items, rfl, all⟩
  · exact all
  · simp [Value.items]
  · exact all

/-- Records that are made of the items of a list. -/
theorem Form.Fits.holds {R : Type} {P : R → Prop} {form : Form} {v : Value} {ofPayload : Value → R}
    (h : (Form.list form).Fits v ∨ (Form.optional (.list form)).Fits v)
    (each : ∀ item, form.Fits item → P (ofPayload item)) :
    (Slots.ofList (v.items.map ofPayload)).Holds P := by
  apply Slots.holds_ofList
  intro r member
  obtain ⟨item, inside, rfl⟩ := List.mem_map.mp member
  exact each item (Form.Fits.items h item inside)

theorem condition_defaultsFit : condition.DefaultsFit := by
  simp [condition, conditionFields, subConditionFields, Form.DefaultsFit, Fields.DefaultsFit,
    Form.Fits]

theorem presentation_defaultsFit : (Form.record presentationFields).DefaultsFit := by
  simp [presentationFields, resultTypes, ResultType.all, Form.DefaultsFit, Fields.DefaultsFit,
    Form.Fits]

theorem plainPresentation_fits (type : ResultType) :
    (Form.record presentationFields).Fits (plainPresentation type) := by
  cases type <;>
    simp [plainPresentation, presentationFields, resultTypes, ResultType.all, Form.Fits, Fields.Fit]

/-- Every fallback of a task passes the check of its own field. -/
theorem task_defaultsFit : task.DefaultsFit := by
  have conditions : (Form.record conditionFields).DefaultsFit := condition_defaultsFit
  have presentations := presentation_defaultsFit
  have presented := plainPresentation_fits
  simp [task, taskFields, groupFields, DisplayType.all, Form.DefaultsFit, Fields.DefaultsFit,
    Form.Fits] at conditions presentations presented ⊢
  exact ⟨conditions, presented .pass, presentations, presented .fail, presentations⟩

end CourseAudit.Payload

namespace CourseAudit
open Payload

theorem Value.isText_of_fits {v : Value} (h : Form.text.Fits v) : v.IsText := by
  obtain ⟨s, rfl⟩ := h
  exact ⟨s, rfl⟩

/-- A group type that has been read is one or none. -/
theorem GroupType.parsed_cases (v : Value) :
    GroupType.parsed v = .null ∨ ∃ g : GroupType, GroupType.parsed v = .choice (.group g) := by
  unfold GroupType.parsed
  split
  · exact .inr ⟨_, rfl⟩
  · exact .inl rfl

theorem SubCondition.wellTyped_ofPayload {v : Value}
    (h : (Form.record subConditionFields).Fits v) : (ofPayload v).WellTyped where
  property := Value.isText_of_fits (h.part "property" rfl)
  operator := Value.isText_of_fits (h.part "operator" rfl)

theorem Condition.wellTyped_ofPayload {v : Value} (h : (Form.record conditionFields).Fits v) :
    (ofPayload v).WellTyped where
  groupType := by
    change (GroupType.parsed (v.part "groupType")).HasText
    rcases GroupType.parsed_cases (v.part "groupType") with none | ⟨g, one⟩
    · exact none ▸ ⟨_, rfl⟩
    · exact one ▸ ⟨_, rfl⟩
  source := Value.isText_of_fits (h.part "source" rfl)
  property := Value.isText_of_fits (h.part "property" rfl)
  operator := Value.isText_of_fits (h.part "operator" rfl)
  subConditions :=
    Form.Fits.holds (.inr (h.part "subConditions" rfl)) fun _ => SubCondition.wellTyped_ofPayload

theorem ConditionGroup.wellTyped_ofPayload {v : Value} (h : (Form.record groupFields).Fits v) :
    (ofPayload v).WellTyped where
  conditions :=
    Form.Fits.holds (.inl (h.part "conditions" rfl)) fun _ => Condition.wellTyped_ofPayload

theorem PlanTask.wellTyped_ofPayload {v : Value} (h : task.Fits v) : (ofPayload v).WellTyped where
  groups := Form.Fits.holds (.inl (h.part "conditionGroups" rfl)) fun _ =>
    ConditionGroup.wellTyped_ofPayload
  onPass := trivial
  onFailure := trivial

theorem PlanTask.displayType_ofPayload {v : Value} (h : task.Fits v) :
    ∃ type, (ofPayload v).displayType = .choice (.display type) := by
  obtain ⟨c, member, found⟩ := h.part "displayType" rfl
  obtain ⟨type, -, rfl⟩ := List.mem_map.mp member
  exact ⟨type, found⟩

/-- Tasks that have been read come from payloads of the form of a task. -/
theorem PlanTask.fits_of_read {payload : Value} {t : PlanTask} (h : PlanTask.read payload = .ok t) :
    ∃ v, task.Fits v ∧ ofPayload v = t := by
  obtain ⟨v, reading, same⟩ := map_eq_ok_iff.mp h
  exact ⟨v, task.fits_of_read task_defaultsFit reading, same⟩

end CourseAudit
