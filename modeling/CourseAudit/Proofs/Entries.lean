import CourseAudit.Payload.Domain

/-!
What dicts and lists are made of. A part that is taken out of a value has been an entry or an item
of it, unless there was none, so whatever holds of all of these holds of the part.
-/
namespace CourseAudit.Value

variable {entries : List (String × Value)} {name : String} {v : Value}

theorem mem_of_get? (found : get? entries name = some v) : (name, v) ∈ entries := by
  obtain ⟨entry, there, rfl⟩ := Option.map_eq_some_iff.mp found
  have named := List.find?_some there
  rw [← eq_of_beq named]
  exact List.mem_of_find?_eq_some there

/-- Putting an entry among others brings in nothing else. -/
theorem mem_of_mem_put {entry : String × Value} (member : entry ∈ put name v entries) :
    entry = (name, v) ∨ entry ∈ entries := by
  induction entries with
  | nil => exact .inl (List.mem_singleton.mp member)
  | cons first rest ih =>
      unfold put at member
      split at member
      · exact (List.mem_cons.mp member).imp_right (List.mem_cons_of_mem first)
      · rcases List.mem_cons.mp member with rfl | later
        · exact .inr List.mem_cons_self
        · exact (ih later).imp_right (List.mem_cons_of_mem first)

/-- A part is an entry of a dict, or missing. -/
theorem part_cases (v : Value) (key : String) :
    v.part key = .null ∨ ∃ entries, v = .dict entries ∧ (key, v.part key) ∈ entries := by
  cases v with
  | dict entries =>
      rw [part]
      cases found : get? entries key with
      | none => exact .inl rfl
      | some inner => exact .inr ⟨entries, rfl, mem_of_get? found⟩
  | _ => exact .inl rfl

end CourseAudit.Value
