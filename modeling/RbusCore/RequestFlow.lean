import RbusCore.Frames

/-!
# The flow of requests

Which part of the state decides whether requests are dispatched.

**Results.**
* `Quiet.listening`, `Quiet.serving`: the code that leaves this part alone.
-/

namespace RbusCore

open CStrings Resumption

section Flow

variable {M W : Type}

/-- The events that say what happens to requests. -/
def Event.isFlow : Event M W → Bool
  | .deliver .. | .dispatch .. | .dispatched => true
  | .call e => e.isFlow
  | _ => false

/-- The calls among them. -/
def Event.isFlowCall : Event M W → Bool
  | .call e => e.isFlow
  | _ => false

/-- The part of a history that says what happens to requests. -/
def flow (log : List (Event M W)) : List (Event M W) :=
  log.filter Event.isFlow

@[simp] theorem flow_append
    (log log' : List (Event M W)) :
    flow (log ++ log') = flow log ++ flow log' :=
  List.filter_append log log'

/-- Two states between which nothing happened to requests. -/
structure SameFlow (w w' : World M W) : Prop where
  stackCounter : w'.stackCounter = w.stackCounter
  gQueuedRequests : w'.gQueuedRequests = w.gQueuedRequests
  flow : flow w'.log = flow w.log

theorem SameFlow.refl
    (w : World M W) :
    SameFlow w w :=
  ⟨rfl, rfl, rfl⟩

/-- A contract under which code that leaves the flow alone keeps `P`. -/
structure Quiet
    (C : Contract (Call.Answer (M := M) (W := W)) (World M W)) (P : World M W → Prop) :
    Prop where
  same : ∀ w w', SameFlow w w' → P w → P w'
  env : ∀ e w a w', C.env e w a w' → P w → P w'
  atCall : ∀ e w, e ≠ .loop → P w → C.atCall e w
  atUndef : ∀ w, P w → C.atUndef w

variable {C : Contract (Call.Answer (M := M) (W := W)) (World M W)}
variable {P : World M W → Prop}

/-- The flow does not depend on listeners and messages. -/
theorem Quiet.listening
    (h : Quiet C P) :
    Listening C P where
  messages w n r _ hw := h.same w _ ⟨rfl, rfl, rfl⟩ hw
  called w e he hw := by
    have hflow : (Event.call e).isFlow = false := by
      cases e <;> first | rfl | cases he
    exact h.same w _ ⟨rfl, rfl, by simp [flow, hflow]⟩ hw
  fault w f _ hw := h.same w _ ⟨rfl, rfl, by simp [flow, Event.isFlow]⟩ hw
  env := h.env
  atCall e w he := h.atCall e w (by rintro rfl; cases he)
  atUndef := h.atUndef
  listeners w object f hw := h.same w _ ⟨rfl, rfl, by simp [flow, Event.isFlow]⟩ hw

/-- The flow does not depend on the mutex either. -/
theorem Quiet.locking
    (h : Quiet C P) :
    Locking C fun _ => P where
  steady _ := h.listening.toSteady
  locked w hw := h.same w _ ⟨rfl, rfl, by simp [flow, Event.isFlow]⟩ hw
  unlocked w hw := h.same w _ ⟨rfl, rfl, by simp [flow, Event.isFlow]⟩ hw
  unusable _ w f _ hw := h.same w _ ⟨rfl, rfl, by simp [flow, Event.isFlow]⟩ hw
  subscriptions w subs hw := h.same w _ ⟨rfl, rfl, by simp [flow, Event.isFlow]⟩ hw

/-- Where handlers and responses do not matter. -/
theorem Quiet.serving
    (h : Quiet C P)
    (hflow : ∀ w e, e.isFlow = true → P w → P { w with log := w.log ++ [.call e] }) :
    Serving C P where
  toListening := h.listening
  flowCalled := hflow
  flowAtCall e w he := h.atCall e w (by rintro rfl; cases he)
  locking := h.locking

end Flow

end RbusCore

