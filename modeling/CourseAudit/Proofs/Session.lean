import CourseAudit.Proofs.Steps

/-!
Sessions of a service. Requests are answered one after the other, each in surroundings of its own,
and a turn is one of them with the service as it stood when the request came.
-/
namespace CourseAudit

/-- The configuration of an empty environment. -/
def Config.fallback : Config :=
  (Config.read [] (.text "compliance") (.int 8020)).toOption.getD ⟨[]⟩

/-- A request on its turn. -/
structure Turn where
  service : Service
  outside : Surroundings
  request : Request

namespace Turn

def response (t : Turn) : Response := (t.service.step t.outside t.request).1

/-- The service after the turn. -/
def after (t : Turn) : Service := (t.service.step t.outside t.request).2

/-- The id of the request: the one that it was sent with, or a fresh one. -/
def requestId (t : Turn) : String :=
  (t.request.header? Service.idHeader).getD t.outside.freshId

end Turn

namespace Service

/-- The turns of a session, in order. -/
def turns (s : Service) : List (Surroundings × Request) → List Turn
  | [] => []
  | (outside, r) :: calls => ⟨s, outside, r⟩ :: turns (s.step outside r).2 calls

/-- The service after a session. -/
def after (s : Service) : List (Surroundings × Request) → Service
  | [] => s
  | (outside, r) :: calls => after (s.step outside r).2 calls

/-- Answering requests in unchanging surroundings is a session. -/
theorem steps_eq_turns (outside : Surroundings) (s : Service) (rs : List Request) :
    s.steps outside rs = ((s.turns (rs.map (outside, ·))).map Turn.response,
      s.after (rs.map (outside, ·))) := by
  induction rs generalizing s with
  | nil => rfl
  | cons r rest ih =>
      simp only [steps, ih]
      rfl

/-- Every request of a session has one turn, in its place. -/
theorem map_turns (s : Service) (calls : List (Surroundings × Request)) :
    (s.turns calls).map (fun t => (t.outside, t.request)) = calls := by
  induction calls generalizing s with
  | nil => rfl
  | cons call rest ih => exact congrArg (call :: ·) (ih _)

theorem length_turns (s : Service) (calls : List (Surroundings × Request)) :
    (s.turns calls).length = calls.length := by
  rw [← List.length_map (f := fun t : Turn => (t.outside, t.request)), map_turns]

/-- What every turn keeps is the same after a session and on all of its turns. -/
theorem kept_of_turns {α : Type} {part : Service → α}
    (kept : ∀ t : Turn, part t.after = part t.service) (s : Service)
    (calls : List (Surroundings × Request)) :
    part (s.after calls) = part s ∧ ∀ t ∈ s.turns calls, part t.service = part s := by
  induction calls generalizing s with
  | nil => exact ⟨rfl, fun _ none => absurd none List.not_mem_nil⟩
  | cons call rest ih =>
      obtain ⟨last, each⟩ := ih (s.step call.1 call.2).2
      have first := kept ⟨s, call.1, call.2⟩
      exact ⟨last.trans first, List.forall_mem_cons.mpr
        ⟨rfl, fun t member => (each t member).trans first⟩⟩

end Service
end CourseAudit
