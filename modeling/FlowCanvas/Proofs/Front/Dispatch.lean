import FlowCanvas.Front.Request
import FlowCanvas.Proofs.Service.Handling

/-!
# What reaches the handlers

Behind this server a handler is asked only by the method that it answers to; reading the headers alone
counts as reading (`dispatch_eq_handler`). So a client that only reads, or that uses a method which
nothing here has, changes nothing and is told about to nobody, whatever address it names and whatever
it sends along (`unchanged_of_reads`).
-/

namespace FlowCanvas.Front

open Service

variable {name : String} {route : Route}

theorem Resource.dispatch_eq_handler {r : Resource} {method : Method}
    (h : r.dispatch method = .handler route) : route.method = method := by
  rw [Resource.dispatch] at h
  cases hfind : r.routes.find? (·.method = method) with
  | none =>
    rw [hfind] at h
    cases h
  | some found =>
    rw [hfind] at h
    cases h
    have hmethod : decide (route.method = method) = true :=
      List.find?_some (p := fun found : Route ↦ decide (found.method = method)) hfind
    exact of_decide_eq_true hmethod

theorem Resource.dispatchName_eq_handler {r : Resource} (h : r.dispatchName name = .handler route) :
    methodOfName? name = some route.method ∨ Text.upper name = "HEAD" ∧ route.method = .get := by
  rw [Resource.dispatchName] at h
  cases hmethod : methodOfName? name with
  | some method =>
    rw [hmethod] at h
    exact Or.inl (congrArg some (Resource.dispatch_eq_handler h).symm)
  | none =>
    rw [hmethod] at h
    dsimp only at h
    split_ifs at h with hoptions hhead
    exact Or.inr ⟨hhead.1, Resource.dispatch_eq_handler h⟩

/-- **A handler is asked** only by its own method, or for its headers alone if it reads. -/
theorem dispatch_eq_handler {d : Destination} (h : dispatch name d = .handler route) :
    methodOfName? name = some route.method ∨ Text.upper name = "HEAD" ∧ route.method = .get := by
  rw [dispatch] at h
  cases hlive : Live.status? name d with
  | some status =>
    rw [hlive] at h
    cases h
  | none =>
    rw [hlive] at h
    dsimp only at h
    -- on every way but one the server answers by itself
    split at h
    · cases h
    · split at h
      · cases h
      · split at h
        · cases h
        · exact Resource.dispatchName_eq_handler h
      · cases h

/-- **Who only reads changes nothing**, and nobody is told. -/
theorem unchanged_of_reads {machine : Machine} {c : Canvas} {token : String} {r : Request}
    {nesting : Nat} {d : Destination}
    (hreads : ∀ method, methodOfName? r.method = some method → method = .get) :
    (respond machine c token (r.handOver nesting d)).1 = c ∧
      (respond machine c token (r.handOver nesting d)).2.events = [] := by
  cases hdispatch : dispatch r.method d with
  | server status =>
    rw [respond_of_server hdispatch]
    exact ⟨rfl, rfl⟩
  | handler route =>
    have hget : route.method = .get := by
      rcases dispatch_eq_handler hdispatch with hmethod | ⟨-, hget⟩
      · exact hreads route.method hmethod
      · exact hget
    rw [respond_of_handler hdispatch, events_written]
    exact handle_get machine c token (r.handOver nesting d) hget

end FlowCanvas.Front
