import CourseAudit.Catalog.Reader
import CourseAudit.Proofs.Coverage
import CourseAudit.Proofs.Labels
import Mathlib.Data.List.Nodup

/-!
The views of a catalog. A property can be looked up, be found among the sources and the properties
of its group type, among all keys, and in the table that an editor is answered; all of them know the
same properties by the same rules, and a table of rules writes the rules of items at any depth.
-/
namespace CourseAudit

/-- The value at the end of a path of names through tables. -/
def Value.at? (v : Value) : List String → Option Value
  | [] => some v
  | name :: path => (get? v.entries name).bind (·.at? path)

theorem Value.at?_append (v : Value) (path more : List String) :
    v.at? (path ++ more) = (v.at? path).bind (·.at? more) := by
  induction path generalizing v with
  | nil => rfl
  | cons name path ih =>
      rw [List.cons_append, at?, at?, Option.bind_assoc]
      exact Option.bind_congr fun w _ => ih w

/-- A table that is written entry by entry has the entries that are written. -/
theorem Value.get?_map {K A : Type} [BEq K] [LawfulBEq K] {name : K → String}
    (apart : Function.Injective name) (write : A → Value) (entries : List (K × A)) (k : K) :
    get? (entries.map fun entry => (name entry.1, write entry.2)) (name k) =
      (entries.lookup k).map write := by
  induction entries with
  | nil => rfl
  | cons entry rest ih =>
      obtain ⟨key, a⟩ := entry
      by_cases same : k = key
      · subst same
        simp [get?]
      · have differ : ¬ name key = name k := fun h => same (apart h).symm
        rw [List.lookup_cons, beq_false_of_ne same, ← ih]
        simp [get?, differ]

theorem Value.get?_named {A : Type} (write : A → Value) (entries : List (String × A))
    (name : String) : get? (entries.map fun entry => (entry.1, write entry.2)) name =
      (entries.lookup name).map write :=
  get?_map Function.injective_id write entries name

theorem lookup_isSome_iff {K A : Type} [BEq K] [LawfulBEq K] {entries : List (K × A)} {k : K} :
    (entries.lookup k).isSome = true ↔ k ∈ entries.map (·.1) := by
  induction entries with
  | nil => simp
  | cons entry rest ih =>
      rw [List.lookup_cons, List.map_cons, List.mem_cons, ← ih]
      by_cases same : k = entry.1
      · simp [same]
      · rw [beq_false_of_ne same, or_iff_right same]

namespace PropertyRule

/-- The rule under a name of items, and under names of their items in turn. -/
def item? (rule : PropertyRule) : List String → Option PropertyRule
  | [] => some rule
  | name :: names => (rule.itemRules.lookup name).bind (·.item? names)

/-- Where the rule of items stands in the table of a rule. -/
def itemPlace (names : List String) : List String :=
  names.flatMap fun name => ["subConditionProperties", name]

theorem toEntries_eq_map (entries : List (String × PropertyRule)) :
    toEntries entries = entries.map fun entry => (entry.1, toValue entry.2) := by
  induction entries with
  | nil => rfl
  | cons entry rest ih =>
      rw [toEntries, ih]
      rfl

theorem get?_toEntries (entries : List (String × PropertyRule)) (name : String) :
    Value.get? (toEntries entries) name = (entries.lookup name).map toValue := by
  rw [toEntries_eq_map, Value.get?_named]

variable (rule : PropertyRule)

theorem at?_operators : rule.toValue.at? ["operators"] = some (.list rule.offered) := by
  cases rule
  rfl

/-- Rules of items are written when there are any. -/
theorem get?_itemRules : Value.get? rule.toValue.entries "subConditionProperties" =
    if rule.itemRules.isEmpty then none else some (.dict (toEntries rule.itemRules)) := by
  obtain ⟨valueType, options, operators, itemRules, needs⟩ := rule
  cases options <;> cases itemRules <;> cases needs <;> rfl

theorem at?_item (name : String) (path : List String) :
    rule.toValue.at? ("subConditionProperties" :: name :: path) =
      ((rule.itemRules.lookup name).map toValue).bind (·.at? path) := by
  rw [Value.at?, get?_itemRules]
  split
  · next none =>
      rw [List.isEmpty_iff.mp none]
      rfl
  · rw [Option.bind_some, Value.at?, Value.entries, get?_toEntries]

/-- Rules of items are written as rules of their own, at any depth. -/
theorem at?_itemPlace (names : List String) :
    rule.toValue.at? (itemPlace names) = (rule.item? names).map toValue := by
  induction names generalizing rule with
  | nil => rfl
  | cons name names ih =>
      have place : itemPlace (name :: names) =
          "subConditionProperties" :: name :: itemPlace names := rfl
      rw [place, at?_item, item?]
      cases rule.itemRules.lookup name with
      | none => rfl
      | some found => exact ih found

end PropertyRule

theorem GroupType.ofLabel?_label (g : GroupType) : ofLabel? g.label = some g := by
  cases g <;> decide

theorem GroupType.label_injective : Function.Injective GroupType.label := by
  intro g h same
  have read := ofLabel?_label g
  rw [same, ofLabel?_label] at read
  exact (Option.some.inj read).symm

theorem Condition.key?_eq_some_iff {d : Condition} {key : PropertyKey} : d.key? = some key ↔
    GroupType.ofValue? d.groupType = .ok (some key.group) ∧ d.source.asText? = some key.source ∧
      d.property.asText? = some key.property := by
  obtain ⟨group, source, property⟩ := key
  unfold key?
  cases GroupType.ofValue? d.groupType with
  | error fault => simp [Except.toOption]
  | ok found => simp [Except.toOption, Option.bind_eq_some_iff]

namespace Catalog

variable {catalog : Catalog} {key : PropertyKey} {d : Condition}

/-- Where a property stands in the table that an editor is answered. -/
def place (key : PropertyKey) : List String :=
  ["groupTypes", key.group.label, key.source, "properties", key.property]

/-- A source in the table: its properties. -/
def propertiesValue (properties : Properties) : Value :=
  .dict [("properties", .dict (PropertyRule.toEntries properties))]

/-- A group type in the table: its sources. -/
def sourcesValue (sources : Sources) : Value :=
  .dict (sources.map fun entry => (entry.1, propertiesValue entry.2))

theorem at?_properties (properties : Properties) (property : String) :
    (propertiesValue properties).at? ["properties", property] =
      (properties.lookup property).map PropertyRule.toValue := by
  change (Value.get? (PropertyRule.toEntries properties) property).bind some = _
  rw [Option.bind_fun_some, PropertyRule.get?_toEntries]

theorem at?_sources (sources : Sources) (source property : String) :
    (sourcesValue sources).at? [source, "properties", property] =
      (((sources.lookup source).getD []).lookup property).map PropertyRule.toValue := by
  rw [Value.at?, sourcesValue, Value.entries, Value.get?_named]
  cases sources.lookup source with
  | none => rfl
  | some properties => exact at?_properties properties property

/-- The table holds the rule of a property in its place, and nothing where there is no rule. -/
theorem at?_place (catalog : Catalog) (key : PropertyKey) :
    catalog.toValue.at? (place key) =
      (catalog.rule? key.group key.source key.property).map PropertyRule.toValue := by
  change (Value.get? (catalog.groups.map fun entry => (entry.1.label, sourcesValue entry.2))
    key.group.label).bind _ = _
  rw [Value.get?_map GroupType.label_injective, rule?, propertiesOf, sourcesOf]
  cases catalog.groups.lookup key.group with
  | none => rfl
  | some sources => exact at?_sources sources key.source key.property

/-- Below the place of a property the table of its rule goes on. -/
theorem at?_below (catalog : Catalog) (key : PropertyKey) (path : List String) :
    catalog.toValue.at? (place key ++ path) =
      (catalog.rule? key.group key.source key.property).bind (·.toValue.at? path) := by
  rw [Value.at?_append, at?_place, Option.bind_map]
  rfl

/-- What is gone through table by table occurs once when it tells which entry it comes from. -/
theorem nodup_flatMap_of_told {A B K : Type} {entries : List (A × B)} {f : A × B → List K}
    (origin : K → A) (once : (entries.map (·.1)).Nodup)
    (each : ∀ entry ∈ entries, (f entry).Nodup ∧ ∀ k ∈ f entry, origin k = entry.1) :
    (entries.flatMap f).Nodup := by
  rw [List.nodup_flatMap]
  refine ⟨fun entry member => (each entry member).1, ?_⟩
  refine (List.pairwise_map.mp once).imp_of_mem fun {entry other} here there differ => ?_
  intro k found again
  exact differ (((each entry here).2 k found).symm.trans ((each other there).2 k again))

/-- Every property has one key. -/
theorem IsTable.nodup_keys (table : catalog.IsTable) : catalog.keys.Nodup := by
  refine nodup_flatMap_of_told PropertyKey.group table.groups fun group listed => ⟨?_, ?_⟩
  · refine nodup_flatMap_of_told PropertyKey.source (table.sources group listed)
      fun source offered => ⟨?_, ?_⟩
    · have once := table.properties group listed source offered
      refine List.Nodup.of_map PropertyKey.property ?_
      rwa [List.map_map]
    · intro k member
      obtain ⟨property, -, rfl⟩ := List.mem_map.mp member
      rfl
  · intro k member
    obtain ⟨source, -, member⟩ := List.mem_flatMap.mp member
    obtain ⟨property, -, rfl⟩ := List.mem_map.mp member
    rfl

theorem IsTable.isSome_rule?_iff (table : catalog.IsTable) :
    (catalog.rule? key.group key.source key.property).isSome = true ↔ key ∈ catalog.keys := by
  rw [table.mem_keys_iff, Option.isSome_iff_exists]

theorem isSome_rule?_iff_offered :
    (catalog.rule? key.group key.source key.property).isSome = true ↔
      key.source ∈ (catalog.sourcesOf key.group).map (·.1) ∧
        key.property ∈ (catalog.propertiesOf key.group key.source).map (·.1) := by
  constructor
  · intro found
    obtain ⟨rule, there⟩ := Option.isSome_iff_exists.mp found
    obtain ⟨properties, offered, -⟩ := lookup_getD there
    exact ⟨lookup_isSome_iff.mp (Option.isSome_of_eq_some offered), lookup_isSome_iff.mp found⟩
  · rintro ⟨-, inside⟩
    exact lookup_isSome_iff.mpr inside

/-- A condition is looked up under the key that it names. -/
theorem IsTable.ruleOf_key (table : catalog.IsTable) (named : d.key? = some key) :
    catalog.ruleOf d = .ok (catalog.rule? key.group key.source key.property) := by
  obtain ⟨parsed, source, property⟩ := Condition.key?_eq_some_iff.mp named
  obtain ⟨sourceKey, sourceSet⟩ := Value.key_of_asText? source
  obtain ⟨propertyKey, propertySet⟩ := Value.key_of_asText? property
  simp only [ruleOf, lookup, parsed, sourceSet, propertySet, sourceKey, propertyKey, ok_bind]
  split
  · rfl
  · next empty =>
      -- an empty name has no rule
      cases ruled : catalog.rule? key.group key.source key.property with
      | none => rfl
      | some rule =>
          obtain ⟨source, property⟩ := table.named key (table.mem_keys_iff.mpr ⟨rule, ruled⟩)
          simp [source, property] at empty

/-- No property of items has an empty name. -/
def NamesItems (catalog : Catalog) : Prop :=
  ∀ group ∈ catalog.groups, ∀ source ∈ group.2, ∀ property ∈ source.2,
    ∀ item ∈ property.2.itemRules, item.1 ≠ ""

/-- A rule stands in the lists of its catalog. -/
theorem mem_of_rule? {rule : PropertyRule}
    (ruled : catalog.rule? key.group key.source key.property = some rule) :
    ∃ sources, (key.group, sources) ∈ catalog.groups ∧ ∃ properties,
      (key.source, properties) ∈ sources ∧ (key.property, rule) ∈ properties := by
  obtain ⟨properties, offered, there⟩ := lookup_getD ruled
  obtain ⟨sources, listed, offered⟩ := lookup_getD offered
  exact ⟨sources, mem_of_lookup listed, properties, mem_of_lookup offered, mem_of_lookup there⟩

/-- What sub-conditions are given is the rule of items one level down. -/
theorem itemRule?_name {found : Option PropertyRule} {property : Value} {name : String}
    (filled : ∀ rule, found = some rule → ∀ item ∈ rule.itemRules, item.1 ≠ "")
    (text : property.asText? = some name) :
    itemRule? found property = .ok (found.bind (·.item? [name])) := by
  obtain ⟨key, set⟩ := Value.key_of_asText? text
  cases found with
  | none => rfl
  | some rule =>
      have below : rule.item? [name] = rule.itemRules.lookup name := Option.bind_fun_some _
      simp only [itemRule?, set, key, ok_bind, Option.bind_some, below]
      split
      · rfl
      · next empty =>
          cases stored : rule.itemRules.lookup name with
          | none => rfl
          | some item =>
              have nonempty := filled rule rfl (name, item) (mem_of_lookup stored)
              simp [nonempty] at empty

/-- What the views of a catalog say of a property, with the rule that is found for a condition about
it, if there is one: looking it up, listing, offering and answering agree. -/
structure ViewsAgree (catalog : Catalog) (d : Condition) (key : PropertyKey)
    (found : Option PropertyRule) : Prop where
  looked : catalog.lookup d.groupType d.source d.property = .ok found
  listed : found.isSome = true ↔ key ∈ catalog.keys
  once : catalog.keys.Nodup
  offered : ∃ names properties, catalog.sourceNames d.groupType = .ok names ∧
    catalog.properties d.groupType d.source = .ok properties ∧
      (found.isSome = true ↔ key.source ∈ names ∧ key.property ∈ properties.map (·.1))
  answered : catalog.toValue.at? (place key) = found.map PropertyRule.toValue
  operators : catalog.toValue.at? (place key ++ ["operators"]) =
    found.map fun rule => .list rule.offered
  items : ∀ names, catalog.toValue.at? (place key ++ PropertyRule.itemPlace names) =
    (found.bind (·.item? names)).map PropertyRule.toValue
  first : ∀ property name, property.asText? = some name →
    (catalog.ruleOf d >>= fun rule => itemRule? rule property) =
      .ok (found.bind (·.item? [name]))

/-- All views of a catalog agree on every property that a condition can name. -/
theorem views_agree (table : catalog.IsTable) (filled : catalog.NamesItems)
    (named : d.key? = some key) : ∃ found, catalog.ViewsAgree d key found := by
  obtain ⟨parsed, sourced, -⟩ := Condition.key?_eq_some_iff.mp named
  have ruled := table.ruleOf_key named
  have offers : catalog.properties d.groupType d.source =
      .ok (catalog.propertiesOf key.group key.source) := by
    simp only [properties, parsed, (Value.key_of_asText? sourced).1, ok_bind]
    rfl
  have names : catalog.sourceNames d.groupType =
      .ok ((catalog.sourcesOf key.group).map (·.1)) := by
    simp only [sourceNames, parsed, ok_bind]
    rfl
  refine ⟨catalog.rule? key.group key.source key.property, ruled, table.isSome_rule?_iff,
    table.nodup_keys, ⟨_, _, names, offers, isSome_rule?_iff_offered⟩, at?_place catalog key, ?_,
    fun names => ?_, ?_⟩
  · rw [at?_below, Option.map_eq_bind]
    exact Option.bind_congr fun rule _ => rule.at?_operators
  · rw [at?_below, Option.map_bind]
    exact Option.bind_congr fun rule _ => rule.at?_itemPlace names
  · intro property name text
    rw [ruled, ok_bind]
    refine itemRule?_name (fun rule there => ?_) text
    obtain ⟨sources, listed, properties, offered, inside⟩ := mem_of_rule? there
    exact filled _ listed _ offered _ inside

/-- A catalog of one source, whose items have authors, who have names. -/
def withAuthors : Catalog where
  version := standardVersion
  groups :=
    let author : PropertyRule := ⟨.none, [], [], [("Name", Standard.text)], false⟩
    [(.lms, [(LmsSource.quiz.label, [Standard.count [("Author", author)]])])]

/-- The group type is misspelled, and the source is named by a choice. -/
def quizCount : Condition where
  groupType := .text "lms_CONDITION"
  source := .choice (.lmsSource .quiz)
  property := .text "Total Count"

/-- The rule of the names of authors is found two levels down. -/
theorem views_agree_authors :
    withAuthors.IsTable ∧ withAuthors.NamesItems ∧
      quizCount.key? = some ⟨.lms, "Quiz", "Total Count"⟩ ∧
      ∃ rule item, withAuthors.ViewsAgree quizCount ⟨.lms, "Quiz", "Total Count"⟩ (some rule) ∧
        rule.item? ["Author", "Name"] = some item := by
  have table : withAuthors.IsTable := by
    constructor
    all_goals decide +kernel
  have filled : withAuthors.NamesItems := by
    unfold NamesItems
    decide +kernel
  have named : quizCount.key? = some ⟨.lms, "Quiz", "Total Count"⟩ := by decide +kernel
  have listed : (⟨.lms, "Quiz", "Total Count"⟩ : PropertyKey) ∈ withAuthors.keys := by
    decide +kernel
  have written : (withAuthors.toValue.at? (place ⟨.lms, "Quiz", "Total Count"⟩ ++
      PropertyRule.itemPlace ["Author", "Name"])).isSome = true := by decide +kernel
  obtain ⟨found, agree⟩ := views_agree table filled named
  obtain ⟨rule, rfl⟩ := Option.isSome_iff_exists.mp (agree.listed.mpr listed)
  rw [agree.items, Option.isSome_map, Option.bind_some] at written
  obtain ⟨item, below⟩ := Option.isSome_iff_exists.mp written
  exact ⟨table, filled, named, rule, item, agree, below⟩

end Catalog
end CourseAudit
