import PromptStudio.History.Prompt
import PromptStudio.Proofs.Training.Dispatchable
import PromptStudio.Training.Activation
import PromptStudio.UserBlueprint.Edit

/-!
# Operations that fail

An operation checks what it is given, loads what it needs, and writes last. Where it fails, it has not written yet, so
every row is as it was; numbers and draws may be used up all the same. The one operation that goes on after it wrote is
the dispatch of a new job: version and job are stored before the worker is asked, and stay if the dispatch then breaks.
-/

namespace PromptStudio

namespace Studio.Atomic

variable {α : Type} {k : Studio}

end Studio.Atomic

/-! ### Bindings -/

namespace Store

variable {s s' : Store}

theorem loadBinding?_eq_ok {userId : Text} {loaded : Option Binding} (h : s.loadBinding? userId = .ok loaded) :
    userId.bindable = .ok userId ∧ loaded = s.binding? userId := by
  rw [loadBinding?, bind_eq_ok] at h
  obtain ⟨t, ht, h⟩ := h
  obtain rfl := bindable_eq_ok ht
  exact ⟨ht, (pure_eq_ok.mp h).symm⟩

end Store

namespace Studio

variable (k : Studio) (c : Context)

/-! ### Operations that ask nobody -/

end Studio

/-! ### Operations that ask the worker -/

namespace Studio

variable {k : Studio} {c : Context} {worker : WorkerAddress} {exchange : Exchange} {failure : Failure}

section NewJobs

variable {userId modelId datasetId baseModel hash : Text} {params : Json} {dataset : Dataset}

end NewJobs

end Studio

end PromptStudio
