import CourseAudit.Proofs.Handling
import CourseAudit.Proofs.Shown

/-!
What can be written of an answer. A half in the answer to a request about tasks, conditions or
their values has come with the request, with the settings or with conditions kept earlier.
-/
namespace CourseAudit

namespace Value

mutual

theorem holdsHalf_finite : ∀ v : Value, v.finite.holdsHalf = v.holdsHalf
  | .float x => by
      rw [finite]
      split <;> rfl
  | .list items => by
      rw [finite, holdsHalf, holdsHalf, itemsHoldHalf_finiteItems items]
  | .tuple items => by
      rw [finite, holdsHalf, holdsHalf, itemsHoldHalf_finiteItems items]
  | .dict entries => by
      rw [finite, holdsHalf, holdsHalf, entriesHoldHalf_finiteEntries entries]
  | .text _ | .null | .bool _ | .int _ | .date _ | .moment _ | .choice _ => rfl

theorem itemsHoldHalf_finiteItems : ∀ items : List Value,
    itemsHoldHalf (finiteItems items) = itemsHoldHalf items
  | [] => rfl
  | v :: rest => by
      rw [finiteItems, itemsHoldHalf, itemsHoldHalf, holdsHalf_finite v,
        itemsHoldHalf_finiteItems rest]

theorem entriesHoldHalf_finiteEntries : ∀ entries : List (String × Value),
    entriesHoldHalf (finiteEntries entries) = entriesHoldHalf entries
  | [] => rfl
  | (name, v) :: rest => by
      rw [finiteEntries, entriesHoldHalf, entriesHoldHalf, holdsHalf_finite v,
        entriesHoldHalf_finiteEntries rest]

end

theorem holdsHalf_texts {names : List String} (plain : ∀ name ∈ names, Text.hasHalf name = false) :
    (texts names).holdsHalf = false := by
  rw [texts, holdsHalf, itemsHoldHalf_eq_false_iff]
  intro v member
  obtain ⟨name, inside, rfl⟩ := List.mem_map.mp member
  exact plain name inside

end Value

namespace DynamicValue

variable {settings : List (String × String)} {d : DynamicValue}

theorem holdsHalf_toValue : d.toValue.holdsHalf = false ↔ Text.hasHalf d.label = false ∧
    Text.hasHalf d.token = false ∧ d.value.holdsHalf = false := by
  have type : Text.hasHalf d.valueType.label = false := by cases d.valueType <;> decide
  simp +decide [toValue, Value.holdsHalf, Value.entriesHoldHalf, type]

theorem holdsHalf_ofLiteral (whole : ∀ entry ∈ settings, Text.hasHalf entry.2 = false) :
    ∀ literal ∈ literals ++ dateLiterals,
      (ofLiteral settings literal).toValue.holdsHalf = false := by
  have plain : ∀ literal ∈ literals ++ dateLiterals, Text.hasHalf literal.2.1 = false ∧
      Text.hasHalf (braced literal.2.2.1) = false ∧ Text.hasHalf literal.2.2.2.2 = false := by
    decide +kernel
  rintro ⟨setting, label, name, type, fallback⟩ member
  obtain ⟨plainLabel, plainName, plainFallback⟩ := plain _ member
  refine holdsHalf_toValue.mpr ⟨plainLabel, plainName, ?_⟩
  change Text.hasHalf ((settings.lookup setting).getD fallback) = false
  cases found : settings.lookup setting with
  | none => exact plainFallback
  | some text => exact whole _ (mem_of_lookup found)

/-- The table holds no half that is not in the settings. -/
theorem holdsHalf_table (whole : ∀ entry ∈ settings, Text.hasHalf entry.2 = false)
    (today : CivilDate) :
    ∀ d ∈ table settings today, d.toValue.holdsHalf = false := by
  have literal := holdsHalf_ofLiteral whole
  rw [List.forall_mem_append] at literal
  have label : Text.hasHalf "Today's Date" = false := by decide
  have token : Text.hasHalf todayToken = false := by decide
  unfold table
  simp only [List.forall_mem_append, List.forall_mem_map, List.forall_mem_singleton]
  exact ⟨⟨literal.1, holdsHalf_toValue.mpr ⟨label, token, today.hasHalf_iso⟩⟩, literal.2⟩

end DynamicValue

/-- The texts of settings hold no half that is not in the settings. -/
theorem Config.hasHalf_texts {c : Config} (whole : Value.entriesHoldHalf c.entries = false) :
    ∀ entry ∈ c.texts, Text.hasHalf entry.2 = false := by
  intro entry member
  obtain ⟨⟨name, v⟩, listed, written⟩ := List.mem_filterMap.mp member
  obtain ⟨text, own, rfl⟩ := Option.map_eq_some_iff.mp written
  have plain := (Value.entriesHoldHalf_eq_false_iff.mp whole _ listed).2
  cases v with
  | text s =>
      cases own
      exact plain
  | choice c =>
      cases own
      exact c.hasHalf_label
  | _ => cases own

theorem EvaluationContext.isWhole_create {today : CivilDate} {values : List DynamicValue}
    (whole : ∀ d ∈ values, d.toValue.holdsHalf = false) : (create today values).IsWhole := by
  have fold (tokens : List (String × Value)) (start : Value.entriesHoldHalf tokens = false) :
      Value.entriesHoldHalf (values.foldl (fun tokens v => Value.put v.token v.value tokens)
        tokens) = false := by
    induction values generalizing tokens with
    | nil => exact start
    | cons d rest ih =>
        obtain ⟨-, token, value⟩ := DynamicValue.holdsHalf_toValue.mp (whole d List.mem_cons_self)
        exact ih (fun e member => whole e (List.mem_cons_of_mem _ member)) _
          (Value.entriesHoldHalf_put start token value)
  exact Value.entriesHoldHalf_put (fold [] rfl) (by decide) today.hasHalf_iso

namespace Service

variable {outside : Surroundings} {s after : Service} {requestId : String} {r : Request}

/-- No half is in what is answered. -/
def AnswersWhole (x : Handled) : Prop :=
  ∀ reply after v, x = .ok (reply, after) → reply.body = .json v → v.holdsHalf = false

theorem answersWhole_error : AnswersWhole (.error after) := fun _ _ _ none => by cases none

theorem answersWhole_ok {v : Value} (whole : v.holdsHalf = false) :
    AnswersWhole (s.handled (ok v)) := by
  intro reply after shown answered body
  cases answered
  cases body
  rw [Value.holdsHalf_finite, whole]

theorem answersWhole_reject {kind : RejectionKind} {message : String}
    {details : List (String × Value)} (id : Text.hasHalf requestId = false)
    (plain : Text.hasHalf message = false) (whole : Value.entriesHoldHalf details = false) :
    AnswersWhole (s.reject requestId kind message details) := by
  have code : Text.hasHalf kind.code = false := by cases kind <;> decide
  intro reply after shown answered body
  rw [reject_eq] at answered
  cases answered
  cases body
  simp +decide [Value.holdsHalf, Value.entriesHoldHalf, id, code, plain, whole]

theorem answersWhole_dynamicValues (id : Text.hasHalf requestId = false)
    (query : ∀ name, r.query? "type" = some name → Text.hasHalf name = false)
    (settings : Value.entriesHoldHalf s.config.entries = false) :
    AnswersWhole (s.dynamicValues outside requestId r) := by
  have texts := Config.hasHalf_texts settings
  have listed (shown : List DynamicValue)
      (among : shown ⊆ DynamicValue.table s.config.texts (s.dayOf outside .null)) :
      AnswersWhole (s.handled
        (ok (.dict [("dynamicValues", .list (shown.map DynamicValue.toValue))]))) := by
    refine answersWhole_ok ?_
    have each : Value.itemsHoldHalf (shown.map DynamicValue.toValue) = false := by
      rw [Value.itemsHoldHalf_eq_false_iff, List.forall_mem_map]
      exact fun d member => DynamicValue.holdsHalf_table texts _ d (among member)
    simp +decide [Value.holdsHalf, Value.entriesHoldHalf, each]
  unfold dynamicValues
  dsimp only
  split
  · exact listed _ (List.Subset.refl _)
  · next name given =>
      split
      · exact listed _ (List.Subset.refl _)
      · split
        · exact listed _ (List.filter_subset_self _)
        · have allowed : (Value.texts (ValueType.all.map ValueType.label)).holdsHalf = false :=
            Value.holdsHalf_texts (by decide)
          refine answersWhole_reject id (by decide) ?_
          simp +decide [Value.holdsHalf, Value.entriesHoldHalf, allowed, query name given]

/-- The places of what is missing hold no half that is not in the task. -/
theorem holdsHalf_gapValue {t : PlanTask} (whole : t.IsWhole) {catalog : Catalog} {gaps : List Gap}
    (h : t.gaps catalog = .ok gaps) : ∀ gap ∈ gaps, (gapValue gap).holdsHalf = false := by
  intro gap member
  have lists := PlanTask.lists_of_gaps h
  rw [lists.gaps] at member
  obtain ⟨o, there, inside⟩ := List.mem_flatMap.mp member
  obtain ⟨group, condition, sub⟩ := lists.places o there gap inside
  obtain ⟨wholeGroup, wholeCondition⟩ := whole.occurrences o there
  obtain ⟨id, -, -, -, -, -, subs⟩ := Condition.isWhole_iff.mp wholeCondition
  have wholeSub : gap.subConditionId.holdsHalf = false := by
    rcases sub with ⟨-, null⟩ | ⟨-, s, listed, same⟩
    · rw [null]
      rfl
    · rw [same]
      exact (SubCondition.holdsHalf_payload.mp (subs s listed)).1
  have field : Text.hasHalf gap.kind.field = false := by cases gap.kind <;> decide
  have message : Text.hasHalf gap.kind.message = false := by cases gap.kind <;> decide
  rw [← group] at wholeGroup
  rw [← condition] at id
  simp +decide [gapValue, Value.holdsHalf, Value.entriesHoldHalf, wholeGroup, id, wholeSub, field,
    message]

theorem answersWhole_validate {t : PlanTask} (whole : t.IsWhole) : AnswersWhole (s.validate t) := by
  unfold validate
  split
  · exact answersWhole_error
  · next gaps listed =>
      dsimp only
      split
      · next savable allowed _ _ =>
          have issues : Value.itemsHoldHalf (gaps.map gapValue) = false := by
            rw [Value.itemsHoldHalf_eq_false_iff, List.forall_mem_map]
            exact holdsHalf_gapValue whole listed
          have types : (Value.texts (allowed.map DisplayType.label)).holdsHalf = false := by
            refine Value.holdsHalf_texts ?_
            rw [List.forall_mem_map]
            exact fun type _ => (Choice.display type).hasHalf_label
          refine answersWhole_ok ?_
          simp +decide [Value.holdsHalf, Value.entriesHoldHalf, issues, types]
      · exact answersWhole_error

theorem entriesHoldHalf_outcomeEntries {o : Outcome} (whole : o.IsWhole) :
    Value.entriesHoldHalf (outcomeEntries o) = false := by
  simp +decide [outcomeEntries, Value.holdsHalf, Value.entriesHoldHalf, whole.display,
    whole.presentation.type, whole.presentation.customName, whole.presentation.icon]

theorem isWhole_contextOf (settings : Value.entriesHoldHalf s.config.entries = false)
    (requested : Value) : (s.contextOf outside requested).IsWhole :=
  EvaluationContext.isWhole_create
    (DynamicValue.holdsHalf_table (Config.hasHalf_texts settings) _)

theorem holdsHalf_reviewValue {review : Review}
    (whole : ∀ d, review.data = some d → d.outcome.IsWhole) :
    (reviewValue review).holdsHalf = false := by
  have status : Text.hasHalf review.status.label = false := by cases review.status <;> decide
  obtain ⟨status, data⟩ := review
  cases data with
  | none => simp +decide [reviewValue, Value.holdsHalf, Value.entriesHoldHalf, status]
  | some d =>
      simp +decide [reviewValue, Value.holdsHalf, Value.entriesHoldHalf, status,
        Value.entriesHoldHalf_append, entriesHoldHalf_outcomeEntries (whole d rfl)]

theorem answersWhole_evaluate {v : Value}
    (structured : (PlanTask.ofPayload (v.part "task")).IsStructured)
    (settings : Value.entriesHoldHalf s.config.entries = false) (whole : v.holdsHalf = false) :
    AnswersWhole (s.evaluate outside v) := by
  unfold evaluate
  dsimp only
  split
  · exact answersWhole_error
  · next review reviewed =>
      have part := Value.holdsHalf_part whole
      refine answersWhole_ok (holdsHalf_reviewValue ?_)
      refine (PlanTask.isWhole_ofPayload (part "task")).review structured
        (isWhole_contextOf settings _) ?_ reviewed
      by_cases none : (v.part "section").isNull = true
      · exact .inl (if_pos none)
      · exact .inr ⟨_, if_neg none, Section.isWhole_ofPayload (part _)⟩

theorem holdsHalf_entryValue {e : ContextEntry} (whole : e.IsWhole) :
    (entryValue e).holdsHalf = false := by
  have label : Text.hasHalf e.label.text = false := by cases e.label <;> decide
  simp +decide [entryValue, Value.holdsHalf, Value.entriesHoldHalf, whole.id, whole.name,
    whole.sectionId, entriesHoldHalf_outcomeEntries whole.outcome, label]

theorem holdsHalf_pageValue {mode : Verdict} {evaluated : Nat} {p : Page ContextEntry}
    (whole : ∀ e ∈ p.entries, e.IsWhole) : (pageValue mode evaluated p).holdsHalf = false := by
  have entries : Value.itemsHoldHalf (p.entries.map entryValue) = false := by
    rw [Value.itemsHoldHalf_eq_false_iff, List.forall_mem_map]
    exact fun e member => holdsHalf_entryValue (whole e member)
  have verdict : Text.hasHalf mode.label = false := by cases mode <;> decide
  have range : Text.hasHalf p.rangeLabel = false := by
    unfold Page.rangeLabel
    split
    · decide
    · simp +decide
  simp +decide [pageValue, Value.holdsHalf, Value.entriesHoldHalf, entries, verdict, range]

theorem answersWhole_evaluateContext {v : Value}
    (structured : (PlanTask.ofPayload (v.part "task")).IsStructured)
    (id : Text.hasHalf requestId = false)
    (settings : Value.entriesHoldHalf s.config.entries = false) (whole : v.holdsHalf = false) :
    AnswersWhole (s.evaluateContext outside requestId v) := by
  have part := Value.holdsHalf_part whole
  unfold evaluateContext
  dsimp only
  split
  · refine answersWhole_reject id (by decide) ?_
    simp +decide [Value.holdsHalf, Value.entriesHoldHalf]
  · split
    · exact answersWhole_error
    · next entries built =>
        have each := (PlanTask.isWhole_ofPayload (part "task")).contextEntries structured
          (isWhole_contextOf settings _) (Value.holdsHalf_items (part "sections")) built
        refine answersWhole_ok (holdsHalf_pageValue fun e member => each e ?_)
        exact List.mem_of_mem_filter (List.mem_of_mem_drop (List.mem_of_mem_take member))

theorem answersWhole_moved {key : String × String}
    {moved : Option Snapshot × History (String × String)} {recorded : Value}
    (ids : Text.hasHalf key.1 = false ∧ Text.hasHalf key.2 = false)
    (whole : ∀ snapshot, moved.1 = some snapshot → ∀ c ∈ snapshot, c.IsWhole)
    (flag : recorded.holdsHalf = false) : AnswersWhole (s.historyMoved key moved recorded) := by
  unfold historyMoved
  dsimp only
  split
  · refine answersWhole_ok ?_
    unfold historyValue
    cases shown : moved.1 with
    | none => simp +decide [Value.holdsHalf, Value.entriesHoldHalf, ids, flag]
    | some snapshot =>
        have conditions : Value.itemsHoldHalf (snapshot.map Condition.payload) = false := by
          rw [Value.itemsHoldHalf_eq_false_iff, List.forall_mem_map]
          exact whole snapshot shown
        simp +decide [Value.holdsHalf, Value.entriesHoldHalf, ids, flag, conditions]
  · exact answersWhole_error

theorem answersWhole_withContent {fields : Payload.Fields} {handle : Value → Handled}
    (accepted : (r.read fields).isOk = true)
    (each : ∀ v, r.read fields = .ok v → AnswersWhole (handle v)) :
    AnswersWhole (s.withContent r fields handle) := by
  unfold withContent
  cases reading : r.read fields with
  | ok v => exact each v reading
  | error reply =>
      rw [reading] at accepted
      cases accepted

theorem isWhole_recordedIn {v : Value} (whole : v.holdsHalf = false) :
    ∀ c ∈ recordedIn v, c.IsWhole := by
  intro c member
  obtain ⟨item, inside, rfl⟩ := List.mem_map.mp member
  exact Condition.isWhole_ofPayload
    (Value.holdsHalf_items (Value.holdsHalf_part whole _) item inside)

theorem answersWhole_recordHistory {key : String × String} {v : Value}
    (ids : Text.hasHalf key.1 = false ∧ Text.hasHalf key.2 = false)
    (kept : s.history.Holds Condition.IsWhole) (whole : v.holdsHalf = false) :
    AnswersWhole (s.recordHistory key v) := by
  unfold recordHistory
  dsimp only
  split
  · refine answersWhole_moved ids (fun snapshot current => ?_) rfl
    exact (kept.record (isWhole_recordedIn whole)).current current
  · exact answersWhole_error

end Service

namespace Turn

open Service

/-- What is asked for, read by the form of the place that the request goes to. -/
def brought? (t : Turn) : Option Value :=
  match Destination.of t.request.method t.request.path with
  | .found .validate => (t.request.read Payload.validateFields).toOption
  | .found .evaluate => (t.request.read Payload.evaluateFields).toOption
  | .found .context => (t.request.read Payload.contextFields).toOption
  | .found (.history .record _ _) => (t.request.read Payload.recordFields).toOption
  | _ => none

/-- Whether a request has come in bytes, as headers and queries do; bytes spell no halves. -/
def IsReceived (t : Turn) : Prop :=
  Text.hasHalf t.outside.freshId = false ∧
    (∀ entry ∈ t.request.headers, Text.hasHalf entry.2 = false) ∧
      ∀ entry ∈ t.request.query, Text.hasHalf entry.2 = false

/-- Nothing that comes with a request holds a half. -/
structure ComesWhole (t : Turn) : Prop where
  received : t.IsReceived
  content : ∀ v, t.brought? = some v → v.holdsHalf = false
  group : ∀ action taskId groupId,
    Destination.of t.request.method t.request.path = .found (.history action taskId groupId) →
      Text.hasHalf taskId = false ∧ Text.hasHalf groupId = false

/-- Nothing that comes with a request, that is set or that has been kept holds a half. -/
structure IsWhole (t : Turn) : Prop extends t.ComesWhole where
  settings : Value.entriesHoldHalf t.service.config.entries = false
  kept : t.service.history.Holds Condition.IsWhole

variable {t : Turn}

theorem IsReceived.requestId (h : t.IsReceived) : Text.hasHalf t.requestId = false := by
  unfold Turn.requestId Request.header?
  cases found : t.request.headers.find? fun entry => entry.1.toLower == Service.idHeader with
  | none => exact h.1
  | some entry => exact h.2.1 entry (List.mem_of_find?_eq_some found)

theorem IsReceived.query (h : t.IsReceived) {name value : String}
    (given : t.request.query? name = some value) : Text.hasHalf value = false := by
  obtain ⟨entry, found, rfl⟩ := Option.map_eq_some_iff.mp given
  exact h.2.2 entry (List.mem_reverse.mp (List.mem_of_find?_eq_some found))

/-- Nothing is kept with a half unless it has come with one. -/
theorem IsWhole.kept_after (whole : t.IsWhole) : t.after.history.Holds Condition.IsWhole := by
  rcases @step_history t.outside t.service t.request with
    unchanged | ⟨action, taskId, groupId, -, goes, -, -⟩
  · rw [after, unchanged]
    exact whole.kept
  · have handled : t.service.dispatch t.outside t.requestId t.request =
        t.service.runHistory t.request (taskId, groupId) action := by
      rw [dispatch, goes]
      rfl
    have left : t.after.history =
        (leaves (t.service.runHistory t.request (taskId, groupId) action)).history := by
      rw [← handled]
      exact history_step
    rw [left]
    cases action with
    | current =>
        rw [runHistory, history_historyMoved]
        exact whole.kept
    | undo | redo =>
        rw [runHistory, history_historyMoved]
        exact whole.kept.move _ _
    | clear =>
        rw [runHistory, history_historyMoved]
        exact fun entry member => whole.kept entry (List.mem_of_mem_filter member)
    | record =>
        rw [runHistory]
        rcases leaves_withContent Payload.recordFields
          (t.service.recordHistory (taskId, groupId)) with unread | ⟨v, reading, recorded⟩
        · rw [unread]
          exact whole.kept
        · have content := whole.content v (by rw [brought?, goes, reading]; rfl)
          rw [recorded, recordHistory]
          dsimp only
          split
          · rw [history_historyMoved]
            exact whole.kept.record (isWhole_recordedIn content)
          · exact whole.kept

end Turn

/-- Where nothing is set with a half and no request comes with one, no turn meets one. -/
theorem Service.isWhole_of_turns {s : Service} {calls : List (Surroundings × Request)}
    (settings : Value.entriesHoldHalf s.config.entries = false)
    (kept : s.history.Holds Condition.IsWhole) (come : ∀ t ∈ s.turns calls, t.ComesWhole) :
    ∀ t ∈ s.turns calls, t.IsWhole := by
  induction calls generalizing s with
  | nil => exact fun _ none => absurd none List.not_mem_nil
  | cons call rest ih =>
      have first : Turn.IsWhole ⟨s, call.1, call.2⟩ :=
        ⟨come _ List.mem_cons_self, settings, kept⟩
      have same : (s.step call.1 call.2).2.config = s.config := (Turn.ends ⟨s, call.1, call.2⟩).2.1
      rw [← same] at settings
      exact List.forall_mem_cons.mpr ⟨first, ih settings first.kept_after fun t member =>
        come t (List.mem_cons_of_mem _ member)⟩

end CourseAudit
