import CourseAudit.Proofs.Acceptance
import CourseAudit.Proofs.Locality

/-!
What a healthy service can be relied on for. The check of a catalog finds nothing exactly when every
reader has a property to read and no condition that the catalog has a rule for is without a reader,
and this is what a service answers when it is asked for its health.
-/
namespace CourseAudit

/-- A condition about the property of a key. -/
def PropertyKey.condition (key : PropertyKey) : Condition where
  groupType := .choice (.group key.group)
  source := .text key.source
  property := .text key.property

namespace Catalog

/-- A catalog that is a table: each name stands once at its place, and none is empty. -/
structure IsTable (c : Catalog) : Prop where
  groups : (c.groups.map (·.1)).Nodup
  sources : ∀ group ∈ c.groups, (group.2.map (·.1)).Nodup
  properties : ∀ group ∈ c.groups, ∀ source ∈ group.2, (source.2.map (·.1)).Nodup
  named : ∀ key ∈ c.keys, key.source ≠ "" ∧ key.property ≠ ""

/-- Every property that has a reader of its own is one of the catalog. -/
def HasReadProperties (c : Catalog) : Prop := ∀ entry ∈ Reader.table, entry.1 ∈ c.keys

/-- Every condition that the catalog has a rule for has a reader, however its group type is spelled
and whatever else it asks. -/
def ReadsConditions (catalog : Catalog) : Prop :=
  ∀ (c : Condition) (rule : PropertyRule), c.source.IsText → c.property.IsText →
    catalog.ruleOf c = .ok (some rule) → ∃ reader, Reader.ofCondition? c = .ok (some reader)

variable {catalog : Catalog}

theorem misfits_eq_nil_iff : catalog.misfits = [] ↔
    catalog.HasReadProperties ∧
      ∀ key ∈ catalog.keys, ∃ reader, Reader.ofKey? key = some reader := by
  have readers : (Reader.table.map (·.1)).filter (!catalog.keys.contains ·) = [] ↔
      catalog.HasReadProperties := by
    simp [HasReadProperties, List.filter_eq_nil_iff]
  have properties : catalog.keys.filter (fun key => (Reader.ofKey? key).isNone) = [] ↔
      ∀ key ∈ catalog.keys, ∃ reader, Reader.ofKey? key = some reader := by
    simp only [List.filter_eq_nil_iff, Option.isNone_iff_eq_none, ← ne_eq,
      Option.ne_none_iff_exists']
  rw [misfits, List.append_eq_nil_iff, List.map_eq_nil_iff, List.map_eq_nil_iff, readers,
    properties]

/-- A check has something to tell when there are misfits, in whatever order it does. -/
theorem coverageProblems_eq_nil_iff : catalog.coverageProblems = [] ↔ catalog.misfits = [] := by
  have sorted := (List.mergeSort_perm (catalog.misfits.map Misfit.message)
    fun s t => decide (s ≤ t)).length_eq
  rw [← List.length_eq_zero_iff, coverageProblems, sorted, List.length_map, List.length_eq_zero_iff]

section Tables

variable {K A : Type} [BEq K] {entries : List (K × A)} {k : K} {a : A}

/-- What is found in a table that may be missing is found in one that is there. -/
theorem lookup_getD {N : Type} [BEq N] {tables : List (N × List (K × A))} {n : N}
    (h : ((tables.lookup n).getD []).lookup k = some a) :
    ∃ entries, tables.lookup n = some entries ∧ entries.lookup k = some a := by
  cases found : tables.lookup n with
  | none =>
      rw [found] at h
      cases h
  | some entries =>
      rw [found] at h
      exact ⟨entries, rfl, h⟩

variable [LawfulBEq K]

theorem lookup_of_mem (once : (entries.map (·.1)).Nodup) (member : (k, a) ∈ entries) :
    entries.lookup k = some a := by
  obtain ⟨before, behind, rfl⟩ := List.append_of_mem member
  refine List.lookup_eq_some_iff.mpr ⟨before, behind, rfl, ?_⟩
  intro entry earlier
  rw [List.map_append, List.map_cons] at once
  have apart := (List.nodup_append.mp once).2.2 entry.1 (List.mem_map_of_mem earlier) k
    List.mem_cons_self
  simpa using apart.symm

end Tables

theorem mem_keys {key : PropertyKey} : key ∈ catalog.keys ↔
    ∃ sources, (key.group, sources) ∈ catalog.groups ∧ ∃ properties,
      (key.source, properties) ∈ sources ∧ ∃ rule, (key.property, rule) ∈ properties := by
  simp only [keys, List.mem_flatMap, List.mem_map, Prod.exists]
  constructor
  · rintro ⟨group, sources, listed, source, properties, offered, property, rule, there, rfl⟩
    exact ⟨sources, listed, properties, offered, rule, there⟩
  · rintro ⟨sources, listed, properties, offered, rule, there⟩
    exact ⟨_, sources, listed, _, properties, offered, _, rule, there, rfl⟩

/-- The keys of a catalog are those that it has a rule for. -/
theorem IsTable.mem_keys_iff (table : catalog.IsTable) {key : PropertyKey} :
    key ∈ catalog.keys ↔ ∃ rule, catalog.rule? key.group key.source key.property = some rule := by
  rw [mem_keys]
  constructor
  · rintro ⟨sources, listed, properties, offered, rule, there⟩
    refine ⟨rule, ?_⟩
    rw [rule?, propertiesOf, sourcesOf, lookup_of_mem table.groups listed, Option.getD_some,
      lookup_of_mem (table.sources _ listed) offered, Option.getD_some,
      lookup_of_mem (table.properties _ listed _ offered) there]
  · rintro ⟨rule, found⟩
    obtain ⟨properties, offered, there⟩ := lookup_getD found
    obtain ⟨sources, listed, offered⟩ := lookup_getD offered
    exact ⟨sources, mem_of_lookup listed, properties, mem_of_lookup offered, rule,
      mem_of_lookup there⟩

theorem ruleOf_condition {key : PropertyKey} (source : key.source ≠ "")
    (property : key.property ≠ "") :
    catalog.ruleOf key.condition = .ok (catalog.rule? key.group key.source key.property) := by
  have set : (key.condition.source.isSet && key.condition.property.isSet) = true := by
    simp [PropertyKey.condition, Value.isSet, source, property]
  have parsed : GroupType.ofValue? key.condition.groupType = .ok (some key.group) := rfl
  simp only [ruleOf, lookup, parsed, set, if_true]
  rfl

/-- A check that finds nothing is a promise about conditions, and the other way round. -/
theorem IsTable.coverageProblems_eq_nil_iff (table : catalog.IsTable) :
    catalog.coverageProblems = [] ↔ catalog.HasReadProperties ∧ catalog.ReadsConditions := by
  rw [Catalog.coverageProblems_eq_nil_iff, misfits_eq_nil_iff]
  refine and_congr_right fun _ => ?_
  constructor
  · intro read c rule _ _ ruled
    obtain ⟨key, -, found, reading⟩ := Condition.key?_of_ruleOf ruled
    obtain ⟨reader, there⟩ := read key (table.mem_keys_iff.mpr ⟨rule, found⟩)
    exact ⟨reader, by rw [reading, there]⟩
  · -- a condition can be about any key of the catalog, as no name is empty
    intro reads key listed
    obtain ⟨source, property⟩ := table.named key listed
    obtain ⟨rule, found⟩ := table.mem_keys_iff.mp listed
    have ruled : catalog.ruleOf key.condition = .ok (some rule) := by
      rw [ruleOf_condition source property, found]
    obtain ⟨reader, reading⟩ := reads _ rule ⟨_, rfl⟩ ⟨_, rfl⟩ ruled
    exact ⟨reader, Except.ok.inj reading⟩

end Catalog

namespace Service

variable {outside : Surroundings} {s : Service}

/-- The words of a service's own that it answers about its health are texts that can be written. -/
structure SpeaksPlainly (outside : Surroundings) (s : Service) : Prop where
  name : Text.hasHalf s.config.serviceName = false
  commit : Text.hasHalf outside.commit = false
  uptime : outside.uptime.holdsHalf = false

/-- The check of the catalog decides what is said about the health of a service. -/
theorem health_eq_ok (outside : Surroundings) (s : Service) :
    ∃ reply after, s.health outside = .ok (reply, after) ∧
      reply.status = if s.catalog.coverageProblems = [] then 200 else 503 := by
  unfold health
  cases s.catalog.coverageProblems with
  | nil => exact ⟨_, _, rfl, rfl⟩
  | cons problem rest => exact ⟨_, _, rfl, rfl⟩

theorem isWritable_ok (v : Value) : (ok v).isWritable = !v.holdsHalf := by
  change (true && v.finite.isWritable) = !v.holdsHalf
  rw [Bool.true_and, Value.isWritable_finite, Value.holdsHalf_finite]

theorem writable_health (plain : s.SpeaksPlainly outside) {reply : Reply} {after : Service}
    (h : s.health outside = .ok (reply, after)) : reply.isWritable = true := by
  have names : ∀ name ∈ ["service", "status", "uptimeSeconds", "dependencies", "version", "commit",
      "property_schema", "ok", "1.0.0", "error", "Property resolvers out of sync with schema"],
      Text.hasHalf name = false := by decide +kernel
  simp only [List.forall_mem_cons] at names
  unfold health at h
  split at h
  · cases h
    rw [isWritable_ok]
    simp [Value.holdsHalf, Value.entriesHoldHalf, names, plain.name, plain.commit, plain.uptime]
  · cases h
    simp [Reply.isWritable, Value.areWritable, Value.isWritable, Value.entriesWritable, names,
      plain.name]

end Service

namespace Turn

variable {t : Turn}

/-- Asking for the health of a service is answered by what the check of its catalog finds. -/
theorem status_health (plain : t.service.SpeaksPlainly t.outside)
    (goes : Destination.of t.request.method t.request.path = .found .health) :
    t.response.status = if t.service.catalog.coverageProblems = [] then 200 else 503 := by
  obtain ⟨reply, after, checked, status⟩ := Service.health_eq_ok t.outside t.service
  have dispatched : t.service.dispatch t.outside t.requestId t.request = .ok (reply, after) := by
    rw [Service.dispatch, goes]
    exact checked
  have written := Service.writable_health plain checked
  rw [requestId] at dispatched
  rw [response, Service.step]
  simp only [dispatched, written, if_true]
  exact status

end Turn

/-- A service is healthy exactly when it can be relied on: every property with a reader is in its
catalog, and every condition that the catalog has a rule for finds a reader. -/
theorem healthy_iff_readable {catalog : Catalog} (table : catalog.IsTable) :
    (catalog.coverageProblems = [] ↔ catalog.HasReadProperties ∧ catalog.ReadsConditions) ∧
    (∀ (outside : Surroundings) (s : Service), s.catalog = catalog →
      ∃ reply after, s.health outside = .ok (reply, after) ∧
        (reply.status = 200 ↔ catalog.HasReadProperties ∧ catalog.ReadsConditions) ∧
        (reply.status = 503 ↔ ¬ (catalog.HasReadProperties ∧ catalog.ReadsConditions))) ∧
    ∀ t : Turn, t.service.catalog = catalog → t.service.SpeaksPlainly t.outside →
      t.request.method = "GET" → t.request.path = "/health" →
        (t.response.status = 200 ↔ catalog.HasReadProperties ∧ catalog.ReadsConditions) ∧
        (t.response.status = 503 ↔ ¬ (catalog.HasReadProperties ∧ catalog.ReadsConditions)) := by
  have checks := table.coverageProblems_eq_nil_iff
  have statuses {status : Nat} (h : status = if catalog.coverageProblems = [] then 200 else 503) :
      (status = 200 ↔ catalog.HasReadProperties ∧ catalog.ReadsConditions) ∧
        (status = 503 ↔ ¬ (catalog.HasReadProperties ∧ catalog.ReadsConditions)) := by
    rw [← checks, h]
    split
    · next none => simp [none]
    · next some => simp [some]
  refine ⟨checks, ?_, ?_⟩
  · rintro outside s rfl
    obtain ⟨reply, after, answered, status⟩ := s.health_eq_ok outside
    exact ⟨reply, after, answered, statuses status⟩
  · rintro t rfl plain method path
    have goes : Destination.of t.request.method t.request.path = .found .health := by
      rw [method, path]
      rfl
    exact statuses (Turn.status_health plain goes)

/-- The standard catalog with a source of rooms, which nothing reads. -/
def Catalog.withRooms : Catalog where
  version := Catalog.standardVersion
  groups := [(.syllabus, Standard.syllabusSources), (.lms, Standard.lmsSources),
    (.attribute, Standard.attributeSources ++ [("Campus", [("Rooms", Standard.numeric)])])]

/-- Asking a service with a catalog for its health. -/
def healthRequest (catalog : Catalog) : Turn where
  service := Service.start Config.fallback catalog
  outside := ⟨"7", .int 60, "main", ⟨2026, 1, 5, by decide⟩⟩
  request := ⟨"GET", "/health", [], [], .none⟩

theorem healthRequest_plain (catalog : Catalog) :
    (healthRequest catalog).service.SpeaksPlainly (healthRequest catalog).outside where
  name := show Text.hasHalf Config.fallback.serviceName = false by decide +kernel
  commit := show Text.hasHalf "main" = false by decide +kernel
  uptime := rfl

theorem Catalog.standard_isTable : Catalog.standard.IsTable := by
  constructor
  all_goals decide +kernel

theorem Catalog.withRooms_isTable : Catalog.withRooms.IsTable := by
  constructor
  all_goals decide +kernel

/-- The standard catalog makes a service healthy, and one more property makes it ill. -/
theorem health_withRooms :
    (Catalog.standard.IsTable ∧ Catalog.standard.HasReadProperties ∧
      Catalog.standard.ReadsConditions ∧ (healthRequest Catalog.standard).response.status = 200) ∧
    Catalog.withRooms.IsTable ∧ Catalog.withRooms.HasReadProperties ∧
      ¬ Catalog.withRooms.ReadsConditions ∧
        (healthRequest Catalog.withRooms).response.status = 503 := by
  obtain ⟨standardly, -, standardTurn⟩ := healthy_iff_readable Catalog.standard_isTable
  obtain ⟨checked, -, turn⟩ := healthy_iff_readable Catalog.withRooms_isTable
  have fits : Catalog.standard.misfits = [] := by decide +kernel
  have misfits : Catalog.withRooms.misfits ≠ [] := by decide +kernel
  have readable := standardly.mp (Catalog.coverageProblems_eq_nil_iff.mpr fits)
  have unreadable := (not_congr checked).mp (mt Catalog.coverageProblems_eq_nil_iff.mp misfits)
  have read : Catalog.withRooms.HasReadProperties := by
    intro entry member
    have listed : ∀ key ∈ Reader.table.map (·.1), key ∈ Catalog.withRooms.keys := by
      decide +kernel
    exact listed entry.1 (List.mem_map_of_mem member)
  have healthy := standardTurn (healthRequest _) rfl (healthRequest_plain _) rfl rfl
  have ill := turn (healthRequest _) rfl (healthRequest_plain _) rfl rfl
  exact ⟨⟨Catalog.standard_isTable, readable.1, readable.2, healthy.1.mpr readable⟩,
    Catalog.withRooms_isTable, read, fun reads => unreadable ⟨read, reads⟩, ill.2.mpr unreadable⟩

end CourseAudit
