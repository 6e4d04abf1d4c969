import CourseAudit.Proofs.Leftovers
import CourseAudit.Proofs.Magnitude
import CourseAudit.Proofs.Obstacle
import CourseAudit.Proofs.Outcome

/-!
Two ways to show a share. A percentage of matching items is taken either while the value is read, or
from their number while the value is shown. The standard catalog offers the same sub-conditions for
both, so that they come to the same text.
-/
namespace CourseAudit

variable {catalog : Catalog} {context : EvaluationContext} {c : Condition} {source : LmsSource}
  {items : Section → Slots LmsItem} {s : Slot Section}

section Rules

variable {rule other : PropertyRule} (same : rule.itemRules = other.itemRules)

include same

theorem itemRule?_congr (property : Value) :
    Catalog.itemRule? (some rule) property = Catalog.itemRule? (some other) property := by
  simp only [Catalog.itemRule?, same]

/-- Sub-conditions look at nothing of a rule but its rules of items. -/
theorem filterItems_congr (subs : Slots SubCondition) (members : List (Slot LmsItem)) :
    filterItems context (some rule) subs members =
      filterItems context (some other) subs members := by
  have asked (property : String → Except Fault Value) :
      SubCondition.holdsOf context (some rule) property =
        SubCondition.holdsOf context (some other) property := by
    funext sub
    simp only [SubCondition.holdsOf, itemRule?_congr same]
  simp only [filterItems, SubCondition.allHold, asked]

end Rules

/-- What the standard catalog says of counting the items of a list and of taking their share. -/
structure OffersShare (source : LmsSource) (items : Section → Slots LmsItem) : Prop where
  rules : ∃ counted shared, Catalog.standard.rule? .lms source.label "Total Count" = some counted ∧
    Catalog.standard.rule? .lms source.label "Total Percent" = some shared ∧
      counted.itemRules = shared.itemRules
  count : Reader.ofKey? ⟨.lms, source.label, "Total Count"⟩ = some (.measure items .count)
  percent : Reader.ofKey? ⟨.lms, source.label, "Total Percent"⟩ = some (.measure items .percent)

/-- Where the catalog offers a share it offers the number too, with the same sub-conditions. -/
theorem offersShare_of_listed : ∀ list ∈ Reader.itemLists,
    (Catalog.standard.rule? .lms list.1.label "Total Percent").isSome = true →
      OffersShare list.1 list.2.1 := by
  simp only [Reader.itemLists, List.forall_mem_cons]
  refine ⟨?_, ?_, ?_, ?_, ?_, ?_, ?_, ?_, List.forall_mem_nil _⟩
  -- rubrics have no share
  case refine_7 => exact fun none => absurd none (by decide +kernel)
  all_goals exact fun _ => ⟨⟨_, _, rfl, rfl, rfl⟩, rfl, rfl⟩

namespace Condition

/-- A condition on a property of a source of the learning management system, however they are
spelled. -/
structure IsOn (c : Condition) (source : LmsSource) (property : String) : Prop where
  group : GroupType.ofValue? c.groupType = .ok (some .lms)
  source : c.source.asText? = some source.label
  property : c.property.asText? = some property

theorem IsOn.ruleOf_eq {property : String} (on : c.IsOn source property)
    (filled : property.isEmpty = false) :
    catalog.ruleOf c = .ok (catalog.rule? .lms source.label property) := by
  obtain ⟨sourced, setSource⟩ := Value.key_of_asText? on.source
  obtain ⟨named, setProperty⟩ := Value.key_of_asText? on.property
  have label : source.label.isEmpty = false := by cases source <;> rfl
  rw [label] at setSource
  rw [filled] at setProperty
  simp [Catalog.ruleOf, Catalog.lookup, on.group, setSource, setProperty, sourced, named, ok_bind]
  rfl

theorem IsOn.reader_eq {property : String} (on : c.IsOn source property) :
    Reader.ofCondition? c = .ok (Reader.ofKey? ⟨.lms, source.label, property⟩) := by
  obtain ⟨sourced, -⟩ := Value.key_of_asText? on.source
  obtain ⟨named, -⟩ := Value.key_of_asText? on.property
  simp only [Reader.ofCondition?, on.group, sourced, named, ok_bind]
  rfl

/-- What is measured under a property of a list is measured of the items that match. -/
theorem IsOn.resolve_eq {property : String} (on : c.IsOn source property)
    (filled : property.isEmpty = false) {rule : PropertyRule} {m : Measure}
    (ruled : Catalog.standard.rule? .lms source.label property = some rule)
    (reading : Reader.ofKey? ⟨.lms, source.label, property⟩ = some (.measure items m)) :
    c.resolve Catalog.standard context s =
      c.matching Catalog.standard context items s >>= m.of context c := by
  have rules : Catalog.standard.ruleOf c = .ok (some rule) := by rw [on.ruleOf_eq filled, ruled]
  have reads : Reader.ofCondition? c = .ok (some (.measure items m)) := by
    rw [on.reader_eq, reading]
  rw [resolve, rules, ok_bind]
  dsimp only
  rw [reads, ok_bind]
  exact read_measure rules m

end Condition

/-- A percentage as it is shown, if there is one. -/
def percentText : Except Fault (Option Int) → String
  | .ok (some k) => toString k ++ "%"
  | _ => notAvailable

/-- What comes of rendering a value: what cannot be rendered is not available. -/
def shownText : Except Fault String → String
  | .ok text => text
  | .error _ => notAvailable

section Rendering

variable {percent : Except Fault (Option Int)} {count expected : Value} {k : Int}

/-- A percentage is a sum that has been rounded down. -/
theorem exists_floor_of_percentOf (h : percentOf count expected = .ok (some k)) :
    ∃ x : Binary64, (x.add Binary64.half).floor? = some k := by
  obtain ⟨_, -, h⟩ := bind_eq_ok_iff.mp h
  obtain ⟨_, -, h⟩ := bind_eq_ok_iff.mp h
  split at h
  · split at h
    · cases h
    · obtain ⟨i, cut, h⟩ := bind_eq_ok_iff.mp h
      cases h
      unfold Binary64.floor at cut
      split at cut
      · next found =>
          cases cut
          exact ⟨_, found⟩
      · cases cut
  · cases h

/-- Whatever it is taken of, a percentage can be written. -/
theorem isLong_percentOf (h : percentOf count expected = .ok (some k)) :
    Value.isLong k = false := by
  obtain ⟨x, cut⟩ := exists_floor_of_percentOf h
  have digits (n : Nat) : 2 ^ n < 10 ^ (n + 1) :=
    (Nat.pow_le_pow_left (by decide) n).trans_lt
      (Nat.pow_lt_pow_right (by decide) n.lt_succ_self)
  exact Value.isLong_of_lt (by decide)
    ((Binary64.natAbs_floor_add_le cut).trans_lt (digits 1024))

/-- A percentage is shown with its sign. -/
theorem shown_ofPercent (short : ∀ k, percent = .ok (some k) → Value.isLong k = false) :
    shownText (percent.map Value.ofPercent >>= fun share =>
      if share.isNull then .ok notAvailable else do return (← share.display) ++ "%") =
        percentText percent := by
  cases percent with
  | error fault => rfl
  | ok percent =>
      cases percent with
      | none => rfl
      | some k =>
          have written : (Value.int k).display = .ok (toString k) := Value.write_int (short k rfl)
          change shownText ((Value.int k).display >>= fun text => .ok (text ++ "%")) = _
          rw [written]
          rfl

/-- A percentage that has been read is shown as it is. -/
theorem render_read (named : c.property.asText? = some "Total Percent")
    (short : ∀ k, percent = .ok (some k) → Value.isLong k = false) :
    shownText (percent.map Value.ofPercent >>= fun actual =>
      DisplayType.percent.render c actual expected) = percentText percent := by
  have listed : (c.property.asText?.map percentProperties.contains).getD false = true := by
    rw [named]
    decide
  rw [← shown_ofPercent short]
  cases percent with
  | error fault => rfl
  | ok percent =>
      simp only [Except.map, ok_bind, DisplayType.render, shownPercent, listed, if_true]
      rfl

/-- A number is divided while it is shown. -/
theorem render_number (named : c.property.asText? = some "Total Count") (count : Int) :
    shownText (DisplayType.percent.render c (.int count) expected) =
      percentText (percentOf (.int count) expected) := by
  have plain : (c.property.asText?.map percentProperties.contains).getD false = false := by
    rw [named]
    decide
  have divided : shownPercent c (.int count) expected =
      (percentOf (.int count) expected).map Value.ofPercent := by
    rw [shownPercent, plain]
    cases percentOf (.int count) expected with
    | error fault => rfl
    | ok percent => cases percent <;> rfl
  rw [DisplayType.render, divided, ← shown_ofPercent fun k => isLong_percentOf]
  rfl

end Rendering

namespace Condition

/-- The number of matching items in percent of the value of a condition. -/
def share (context : EvaluationContext) (c : Condition) (items : Section → Slots LmsItem)
    (s : Slot Section) : Except Fault (Option Int) :=
  c.matching Catalog.standard context items s >>= fun kept =>
    percentOf (.int kept.length) (context.resolve c.value)

variable (offers : OffersShare source items)

include offers

theorem IsOn.shown_number (on : c.IsOn source "Total Count") :
    shownText (c.rendered Catalog.standard context .percent s) =
      percentText (c.share context items s) := by
  obtain ⟨counted, -, ruled, -, -⟩ := offers.rules
  rw [rendered, on.resolve_eq rfl ruled offers.count, share]
  cases c.matching Catalog.standard context items s with
  | error fault => rfl
  | ok kept => exact render_number on.property kept.length

theorem IsOn.shown_percentage (on : c.IsOn source "Total Percent") :
    shownText (c.rendered Catalog.standard context .percent s) =
      percentText (c.share context items s) := by
  obtain ⟨-, shared, -, ruled, -⟩ := offers.rules
  rw [rendered, on.resolve_eq rfl ruled offers.percent, share]
  cases c.matching Catalog.standard context items s with
  | error fault => rfl
  | ok kept =>
      rw [ok_bind, ok_bind, measure_percent]
      exact render_read on.property fun k => isLong_percentOf

/-- Counting and taking the share look at the same items. -/
theorem IsOn.matching_eq {d : Condition} (counts : c.IsOn source "Total Count")
    (shares : d.IsOn source "Total Percent") (subs : d.subConditions = c.subConditions) :
    d.matching Catalog.standard context items s = c.matching Catalog.standard context items s := by
  obtain ⟨counted, shared, countRuled, shareRuled, same⟩ := offers.rules
  simp only [matching, counts.ruleOf_eq rfl, shares.ruleOf_eq rfl, countRuled, shareRuled, ok_bind,
    subs, filterItems_congr same]

end Condition

namespace PlanTask

/-- A task that shows its only condition in percent. -/
structure ShowsPercentOf (t : PlanTask) (c : Condition) : Prop where
  structured : t.IsStructured
  type : DisplayType.ofValue? t.displayType = some .percent
  only : t.groupedConditions.flatten = [c]

/-- What a task shows of a section, whatever it is decided to be. -/
structure ShownAs (context : EvaluationContext) (t : PlanTask) (s : Section) (text : String) :
    Prop where
  display : ∀ passes, t.display Catalog.standard context passes s = .ok text
  evaluated : ∃ o, t.evaluate Catalog.standard context s = .ok (some o) ∧ o.display = text

theorem ShowsPercentOf.shownAs {t : PlanTask} (h : t.ShowsPercentOf c) (s : Section) :
    t.ShownAs context s (shownText (c.rendered Catalog.standard context .percent s)) := by
  have display (passes : Bool) : t.display Catalog.standard context passes s =
      .ok (shownText (c.rendered Catalog.standard context .percent s)) :=
    h.structured.display_value h.type (by decide) h.only passes s
  refine ⟨display, ?_⟩
  rcases @IsStructured.evaluate Catalog.standard context t h.structured s with
    ⟨unset, -⟩ | ⟨-, o, evaluated, -, displayed, -⟩
  · have none : t.groupedConditions = [] := by
      rw [groupedConditions, Slots.records_of_unset unset, List.map_nil]
    have only := h.only
    rw [none] at only
    cases only
  · exact ⟨o, evaluated, Except.ok.inj (displayed.symm.trans (display o.passes))⟩

end PlanTask

/-- How a share is shown, whether a condition counts the matching items or takes the share itself:
as the percentage that their number is of the value, if there is one. -/
structure Condition.SharesAgree (context : EvaluationContext) (c d : Condition)
    (items : Section → Slots LmsItem) (s : Section) (text : String) : Prop where
  shown : ∀ t : PlanTask, t.ShowsPercentOf c ∨ t.ShowsPercentOf d → t.ShownAs context s text
  matching : d.matching Catalog.standard context items s =
    c.matching Catalog.standard context items s
  percent : ∀ kept k, c.matching Catalog.standard context items s = .ok kept →
    percentOf (.int kept.length) (context.resolve c.value) = .ok (some k) →
      text = toString k ++ "%"
  unavailable : (∀ kept k, c.matching Catalog.standard context items s = .ok kept →
    percentOf (.int kept.length) (context.resolve c.value) ≠ .ok (some k)) → text = "N/A"

/-- A task shows the same percentage by either property of a list, whatever the sub-conditions, the
value and the operator are. -/
theorem shares_agree {list : LmsSource × (Section → Slots LmsItem) × List (String × Measure)}
    (listed : list ∈ Reader.itemLists)
    (offered : (Catalog.standard.rule? .lms list.1.label "Total Percent").isSome = true)
    {c d : Condition} (counts : c.IsOn list.1 "Total Count")
    (shares : d.IsOn list.1 "Total Percent")
    (subs : d.subConditions = c.subConditions) (value : d.value = c.value)
    (context : EvaluationContext) (s : Section) :
    ∃ text, c.SharesAgree context d list.2.1 s text := by
  have offers := offersShare_of_listed list listed offered
  have same : d.share context list.2.1 s = c.share context list.2.1 s := by
    rw [Condition.share, Condition.share, counts.matching_eq offers shares subs, value]
  refine ⟨percentText (c.share context list.2.1 s), ?_, counts.matching_eq offers shares subs,
    ?_, ?_⟩
  · intro t shows
    rcases shows with counted | shared
    · rw [← counts.shown_number offers]
      exact counted.shownAs s
    · rw [← same, ← shares.shown_percentage offers]
      exact shared.shownAs s
  · intro kept k found divided
    rw [Condition.share, found, ok_bind, divided]
    rfl
  · intro none
    rw [Condition.share]
    cases found : c.matching Catalog.standard context list.2.1 s with
    | error fault => rfl
    | ok kept =>
        rw [ok_bind]
        cases divided : percentOf (.int kept.length) (context.resolve c.value) with
        | error fault => rfl
        | ok percent =>
            cases percent with
            | none => rfl
            | some k => exact absurd divided (none kept k found)

/-- Essays among the assignments, against a token. -/
def essayCondition (property : String) : Condition where
  groupType := .text "lms_condition"
  source := .text "Assignments"
  property := .text property
  operator := .text "Is greater than"
  value := .text (braced "whole")
  subConditions := .ofList [{
    property := .text "Name", operator := .text "Starts with", value := .text "Essay" }]

def shownInPercent (c : Condition) : PlanTask where
  displayType := .choice (.display .percent)
  groups := .ofList [{ conditions := .ofList [c] }]

theorem showsPercentOf_shownInPercent (c : Condition) : (shownInPercent c).ShowsPercentOf c := by
  have own {R : Type} (r : R) : (Slots.ofList [r]).OnlyRecords := ⟨[(r, [])], rfl, rfl⟩
  refine ⟨⟨own _, ?_, ⟨⟩, ⟨⟩⟩, rfl, rfl⟩
  intro g member
  cases List.mem_singleton.mp member
  exact own c

def threeWanted : EvaluationContext :=
  ⟨⟨2025, 9, 22, by decide⟩, [(braced "whole", .text "3")]⟩

def twoWritten : Section where
  assignments := .ofList [{ name := .text "Essay 1" }, { name := .text "Talk" },
    { name := .text "Essay 2" }]

/-- Two essays are shown in percent of the three that a token stands for. -/
theorem shares_agree_essay :
    (essayCondition "Total Count").IsOn .assignments "Total Count" ∧
      (essayCondition "Total Percent").IsOn .assignments "Total Percent" ∧
      (shownInPercent (essayCondition "Total Count")).ShownAs threeWanted twoWritten "67%" ∧
      (shownInPercent (essayCondition "Total Percent")).ShownAs threeWanted twoWritten "67%" := by
  have counts : (essayCondition "Total Count").IsOn .assignments "Total Count" :=
    ⟨by decide +kernel, rfl, rfl⟩
  have shares : (essayCondition "Total Percent").IsOn .assignments "Total Percent" :=
    ⟨by decide +kernel, rfl, rfl⟩
  have listed : ∃ measures, (LmsSource.assignments, (·.assignments), measures) ∈ Reader.itemLists :=
    ⟨_, List.mem_cons_self⟩
  obtain ⟨measures, listed⟩ := listed
  have offered : (Catalog.standard.rule? .lms LmsSource.assignments.label "Total Percent").isSome =
      true := by decide +kernel
  obtain ⟨text, agree⟩ := shares_agree listed offered counts shares rfl rfl threeWanted twoWritten
  have two : ((essayCondition "Total Count").matching Catalog.standard threeWanted (·.assignments)
      twoWritten).toOption.map List.length = some 2 := by decide +kernel
  have divided : percentOf (.int 2) (threeWanted.resolve (essayCondition "Total Count").value) =
      .ok (some 67) := by decide +kernel
  have known : text = "67%" := by
    cases found : (essayCondition "Total Count").matching Catalog.standard threeWanted
        (·.assignments) twoWritten with
    | error fault =>
        rw [found] at two
        cases two
    | ok kept =>
        rw [found] at two
        have length : kept.length = 2 := Option.some.inj two
        refine agree.percent kept 67 found ?_
        rw [length]
        exact divided
  subst known
  exact ⟨counts, shares, agree.shown _ (.inl (showsPercentOf_shownInPercent _)),
    agree.shown _ (.inr (showsPercentOf_shownInPercent _))⟩

end CourseAudit
