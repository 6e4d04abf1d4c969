import CourseAudit.Proofs.Decoding
import CourseAudit.Service.Basic

/-!
What a response of the service goes back to. Only an answer that was handled and can be written has
another status than that of a failure, and what is wrong with a request is answered as such.
-/
namespace CourseAudit

/-- Content that cannot be read is answered by a status that says so. -/
theorem Request.value_error {r : Request} {reply : Reply} (h : r.value = .error reply) :
    reply.status = 422 ∨ reply.status = 400 := by
  unfold Request.value at h
  repeat' split at h
  all_goals
    cases h
  all_goals first
    | exact .inl rfl
    | exact .inr rfl

theorem Request.read_error {r : Request} {fields : Payload.Fields} {reply : Reply}
    (h : r.read fields = .error reply) : reply.status = 422 ∨ reply.status = 400 := by
  unfold Request.read at h
  cases content : r.value with
  | error early =>
      rw [content] at h
      cases h
      exact value_error content
  | ok v =>
      rw [content, ok_bind] at h
      split at h
      · cases h
      · cases h
        exact .inl rfl

/-- What is wrong with a request is told, and nothing else. -/
theorem Request.body_of_read_error {r : Request} {fields : Payload.Fields} {reply : Reply}
    (h : r.read fields = .error reply) : ∃ told, reply.body = .json (.dict [("detail", told)]) := by
  unfold Request.read at h
  cases content : r.value with
  | error early =>
      rw [content] at h
      cases h
      unfold Request.value at content
      dsimp only at content
      repeat' split at content
      all_goals
        cases content
      all_goals exact ⟨_, rfl⟩
  | ok v =>
      rw [content, ok_bind] at h
      split at h
      · cases h
      · cases h
        exact ⟨_, rfl⟩

/-- What has been read from a request has the form that its route asks for. -/
theorem Request.read_fits {r : Request} {fields : Payload.Fields} (defaults : fields.DefaultsFit)
    {v : Value} (h : r.read fields = .ok v) : (Payload.Form.record fields).Fits v := by
  obtain ⟨content, -, h⟩ := bind_eq_ok_iff.mp h
  split at h
  · next reading =>
      cases h
      exact Payload.Form.fits_of_read (.record fields) defaults reading
  · cases h

theorem Value.finiteItems_eq_map (vs : List Value) : finiteItems vs = vs.map finite := by
  induction vs with
  | nil => rfl
  | cons v vs ih => exact congrArg (v.finite :: ·) ih

namespace Service

variable {outside : Surroundings} {s : Service} {r : Request}

/-- A response that is no failure brings back a reply to the request. -/
theorem step_answered (h : (s.step outside r).1.status ≠ 500) :
    ∃ requestId reply after, s.dispatch outside requestId r = .ok (reply, after) ∧
      (s.step outside r).1.status = reply.status ∧ (s.step outside r).1.body = reply.body := by
  cases answered : s.dispatch outside ((r.header? idHeader).getD outside.freshId) r with
  | error after =>
      simp only [step, answered] at h
      exact absurd rfl h
  | ok result =>
      obtain ⟨reply, after⟩ := result
      by_cases writable : reply.isWritable = true
      · refine ⟨_, reply, after, answered, ?_⟩
        simp only [step, answered, if_pos writable, and_self]
      · simp only [step, answered, if_neg writable] at h
        exact absurd rfl h

/-- A request that is answered well by its form is answered by the handler of its content. -/
theorem withContent_ok {fields : Payload.Fields} {handle : Value → Handled} {reply : Reply}
    {after : Service} (h : s.withContent r fields handle = .ok (reply, after))
    (status : reply.status = 200) : ∃ v, r.read fields = .ok v ∧ handle v = .ok (reply, after) := by
  unfold withContent at h
  cases reading : r.read fields with
  | ok v =>
      rw [reading] at h
      exact ⟨v, rfl, h⟩
  | error early =>
      rw [reading] at h
      cases h
      rcases Request.read_error reading with unread | unread
      all_goals
        rw [unread] at status
        cases status

end Service
end CourseAudit
