import RbusCore.Message
import RbusCore.Operations

/-!
# NULL as the name of an event

Seven operations take the name of an event and use the empty string in its place where it is
NULL.  Six of them replace it before they look at it; the subscription takes its length first.

**Results.**
* `EventOp.run_getD`: where the name is replaced, the two spellings run alike.
* `runEvents_congr`: so do histories that mix them.
* `null_event_is_default_iff`: the two spellings are one event unless a subscription gets as
  far as the length of the name.
-/

namespace RbusCore

open CStrings Resumption

section Spellings

variable {M W : Type} [MessageApi M W]

/-- The operations that take the name of an event, with their other arguments. -/
inductive EventOp (M : Type) where
  | registerEvent (objectName : CString) (callback : Option Nat) (userData : Ptr)
  | unregisterEvent (objectName : CString)
  | subscribeToEvent (objectName : CString) (callback : Option Nat)
      (payload : Option (MessageRef M)) (userData : Ptr)
  | subscribeToEventTimeout (objectName : CString) (callback : Option Nat)
      (payload : Option (MessageRef M)) (userData : Ptr) (timeout : Int)
  | unsubscribeFromEvent (objectName : CString) (payload : Option (MessageRef M))
  | publishEvent (objectName : CString) (out : MessageRef M)
  | publishSubscriberEvent (objectName listener : CString) (out : MessageRef M)

/-- What such an operation returns, and stores through its arguments. -/
structure EventResult (M : Type) where
  ret : RbusError
  providerError : Option Int
  out : Option (MessageRef M)

/-- The operation, on the event with this name. -/
def EventOp.run (eventName : Option CString) : EventOp M → CoreM M W (EventResult M)
  | .registerEvent objectName callback userData => do
      let ret ← rbusRegisterEvent (some objectName) eventName callback userData
      pure ⟨ret, none, none⟩
  | .unregisterEvent objectName => do
      let ret ← rbusUnregisterEvent (some objectName) eventName
      pure ⟨ret, none, none⟩
  | .subscribeToEvent objectName callback payload userData => do
      let reply ← rbusSubscribeToEvent (some objectName) eventName callback payload userData
      pure ⟨reply.1, reply.2, none⟩
  | .subscribeToEventTimeout objectName callback payload userData timeout => do
      let reply ←
        rbusSubscribeToEventTimeout (some objectName) eventName callback payload userData timeout
      pure ⟨reply.1, reply.2, none⟩
  | .unsubscribeFromEvent objectName payload => do
      let ret ← rbusUnsubscribeFromEvent (some objectName) eventName payload
      pure ⟨ret, none, none⟩
  | .publishEvent objectName out => do
      let result ← rbusPublishEvent (some objectName) eventName out
      pure ⟨result.1, none, some result.2⟩
  | .publishSubscriberEvent objectName listener out => do
      let result ← rbusPublishSubscriberEvent (some objectName) eventName listener out
      pure ⟨result.1, none, some result.2⟩

/-- A subscription that gets as far as the length of the name. -/
def EventOp.measuresName : EventOp M → Prop
  | .subscribeToEvent objectName callback _ _
  | .subscribeToEventTimeout objectName callback _ _ _ =>
      callback.isSome = true ∧ objectName.strlen < maxObjectNameLength
  | _ => False

/-- A subscription that is refused before does not depend on the name. -/
theorem subscribe_refused
    {objectName : CString} {callback : Option Nat}
    (h : ¬ (callback.isSome = true ∧ objectName.strlen < maxObjectNameLength))
    (eventName eventName' : Option CString) (payload : Option (MessageRef M)) (userData : Ptr)
    (timeout : Int) :
    (rbusSubscribeToEventInternal (some objectName) eventName callback payload userData timeout :
        CoreM M W (RbusError × Option Int)) =
      rbusSubscribeToEventInternal (some objectName) eventName' callback payload userData
        timeout := by
  cases callback with
  | none =>
      rfl
  | some callback =>
      have hlong : maxObjectNameLength ≤ objectName.strlen := by
        refine Nat.le_of_not_lt fun hlt => h ⟨rfl, hlt⟩
      have hcheck : BoundedName.check? maxObjectNameLength objectName = none :=
        BoundedName.check?_eq_none_iff.mpr hlong
      simp only [rbusSubscribeToEventInternal, Option.orElse_eq_orElse, Option.orElse_some, hcheck]

/-- Where the name is replaced before it is looked at, NULL and the empty string run alike. -/
theorem EventOp.run_getD
    {op : EventOp M} {eventName : Option CString}
    (h : eventName = none → ¬ op.measuresName) :
    (op.run eventName : CoreM M W (EventResult M)) =
      op.run (some (eventName.getD defaultEvent)) := by
  cases eventName with
  | some eventName =>
      rfl
  | none =>
      cases op with
      | subscribeToEvent objectName callback payload userData =>
          rw [run, run, rbusSubscribeToEvent, rbusSubscribeToEvent,
            subscribe_refused (h rfl) none (some (none.getD defaultEvent)) payload userData 0]
      | subscribeToEventTimeout objectName callback payload userData timeout =>
          rw [run, run, rbusSubscribeToEventTimeout, rbusSubscribeToEventTimeout,
            subscribe_refused (h rfl) none (some (none.getD defaultEvent)) payload userData timeout]
      | _ =>
          rfl

/-- A step of a history: an operation, with the name it is called with. -/
structure EventStep (M : Type) where
  op : EventOp M
  eventName : Option CString

/-- A history: one operation after another. -/
def runEvents : List (EventStep M) → CoreM M W (List (EventResult M))
  | [] => pure []
  | step :: steps => do
      let result ← step.op.run step.eventName
      let results ← runEvents steps
      pure (result :: results)

/-- The step meets no length of NULL. -/
def EventStep.Spelled (step : EventStep M) : Prop :=
  step.eventName = none → ¬ step.op.measuresName

/-- Two steps that differ in the spelling of the name at most. -/
structure SameStep (step step' : EventStep M) : Prop where
  op : step.op = step'.op
  eventName : step.eventName.getD defaultEvent = step'.eventName.getD defaultEvent

/-- Histories that mix the spellings run alike. -/
theorem runEvents_congr
    {steps steps' : List (EventStep M)}
    (hsame : List.Forall₂ SameStep steps steps')
    (h : ∀ step ∈ steps, step.Spelled)
    (h' : ∀ step ∈ steps', step.Spelled) :
    (runEvents steps : CoreM M W (List (EventResult M))) = runEvents steps' := by
  induction hsame with
  | nil =>
      rfl
  | @cons step step' steps steps' hstep _ ih =>
      have hrun : (step.op.run step.eventName : CoreM M W (EventResult M)) =
          step'.op.run step'.eventName := by
        rw [EventOp.run_getD (h step List.mem_cons_self),
          EventOp.run_getD (h' step' List.mem_cons_self), hstep.op, hstep.eventName]
      have hrest := ih (fun s hs => h s (List.mem_cons_of_mem _ hs))
        fun s hs => h' s (List.mem_cons_of_mem _ hs)
      rw [runEvents, runEvents, hrun, hrest]

/-- The history goes on with the mutex being taken. -/
def LocksNext (w w' : World M W) : Prop :=
  ∃ owned events, w'.log = w.log ++ .lock owned :: events

/-- Programs that take the mutex before anything else. -/
def locksNext (w : World M W) : Contract (Call.Answer (M := M) (W := W)) (World M W) where
  env _ _ _ w' := LocksNext w w'
  atCall _ _ := True
  atUndef := LocksNext w

omit [MessageApi M W] in
theorem LocksNext.grown
    {w w₁ w₂ : World M W} {events : List (Event M W)}
    (h : LocksNext w w₁)
    (hlog : w₂.log = w₁.log ++ events) :
    LocksNext w w₂ := by
  obtain ⟨owned, first, hfirst⟩ := h
  refine ⟨owned, first ++ events, ?_⟩
  rw [hlog, hfirst, List.append_assoc, List.cons_append]

omit [MessageApi M W] in
theorem LocksNext.same
    {w w₁ w₂ : World M W}
    (h : LocksNext w w₁)
    (hlog : w₂.log = w₁.log) :
    LocksNext w w₂ :=
  h.grown (hlog.trans (List.append_nil _).symm)

omit [MessageApi M W] in
theorem locking_locksNext
    (w : World M W) :
    Locking (locksNext w) fun _ => LocksNext w where
  steady _ :=
    { called := fun _ _ _ h => h.grown rfl
      fault := fun _ _ _ h => h.grown rfl
      env := fun _ _ _ _ henv _ => henv
      atCall := fun _ _ _ _ => trivial
      atUndef := fun _ h => h
      messages := fun _ _ _ _ h => h.same rfl }
  locked _ h := h.grown rfl
  unlocked _ h := h.grown rfl
  unusable _ _ _ _ h := h.grown rfl
  subscriptions _ _ h := h.grown rfl

/-- A subscription with all its arguments takes the mutex. -/
theorem sat_subscribe_locksNext
    {w : World M W} {objectName : CString} {callback : Option Nat}
    (hconnected : w.gConnection.isSome = true)
    (h : callback.isSome = true ∧ objectName.strlen < maxObjectNameLength)
    (payload : Option (MessageRef M)) (userData : Ptr) (timeout : Int) :
    Program.Sat (locksNext w)
      (rbusSubscribeToEventInternal (some objectName) (some defaultEvent) callback payload userData
        timeout) (fun _ => LocksNext w) w := by
  obtain ⟨hcallback, hlength⟩ := h
  obtain ⟨callback, rfl⟩ := Option.isSome_iff_exists.mp hcallback
  have hlocking := locking_locksNext w
  have hsteady := hlocking.steady true
  have hstart : Program.Keeps (locksNext w) (LocksNext w) (startEventDispatch : CoreM M W Unit) :=
    keeps_startEventDispatch hsteady (fun _ _ h => h.same rfl) fun _ h => h.same rfl
  have hname : BoundedName.check? maxObjectNameLength objectName = some ⟨objectName, hlength⟩ :=
    BoundedName.check?_eq_some_iff.mpr rfl
  have hevent : BoundedName.check? maxEventNameLength defaultEvent =
      some ⟨defaultEvent, Nat.zero_lt_succ _⟩ :=
    BoundedName.check?_eq_some_iff.mpr rfl
  simp only [rbusSubscribeToEventInternal, Program.sat_bind, Program.sat_getState,
    Option.isNone_eq_false_iff.mpr hconnected, Bool.false_eq_true, if_false,
    Option.orElse_eq_orElse, Option.orElse_some, hname, sat_deref_some, hevent]
  exact sat_subscribeChecked_locked (I := fun _ => LocksNext w) hlocking hstart
    (fun _ _ => keeps_rollbackUnlessMaster hlocking _ _) ⟨w.mutexOwned, [], rfl⟩ _ _ _ _ _ _

/-- The same subscription to the event NULL is undefined. -/
theorem subscribe_null_undef
    {w : World M W} {objectName : CString} {callback : Option Nat}
    (hconnected : w.gConnection.isSome = true)
    (h : callback.isSome = true ∧ objectName.strlen < maxObjectNameLength)
    (payload : Option (MessageRef M)) (userData : Ptr) (timeout : Int) :
    rbusSubscribeToEventInternal (some objectName) none callback payload userData timeout w =
      .undef { w with log := w.log ++ [.fault .nullPointer] } := by
  obtain ⟨hcallback, hlength⟩ := h
  obtain ⟨callback, rfl⟩ := Option.isSome_iff_exists.mp hcallback
  have hname : BoundedName.check? maxObjectNameLength objectName = some ⟨objectName, hlength⟩ :=
    BoundedName.check?_eq_some_iff.mpr rfl
  have hsome : w.gConnection.isNone = false := Option.isNone_eq_false_iff.mpr hconnected
  simp only [rbusSubscribeToEventInternal, Option.orElse_eq_orElse, Option.orElse_some, hname]
  rw [Program.bind_of_done (rfl : Program.getState w = .done w w), hsome, if_neg Bool.false_ne_true]
  exact Program.bind_of_undef rfl _

/-- A subscription that measures NULL: it is undefined, and with the empty string it is not the
same. -/
theorem EventOp.run_null_of_measuresName
    {op : EventOp M} {w : World M W}
    (hconnected : w.gConnection.isSome = true)
    (h : op.measuresName) :
    (op.run none : CoreM M W (EventResult M)) w =
        .undef { w with log := w.log ++ [.fault .nullPointer] } ∧
      (op.run none : CoreM M W (EventResult M)) w ≠ op.run (some defaultEvent) w := by
  have hkey {x y : CoreM M W (RbusError × Option Int)}
      {f : RbusError × Option Int → CoreM M W (EventResult M)}
      (hx : x w = .undef { w with log := w.log ++ [.fault .nullPointer] })
      (hy : Program.Sat (locksNext w) y (fun _ => LocksNext w) w)
      (hf : ∀ r w', LocksNext w w' → Program.Sat (locksNext w) (f r) (fun _ => LocksNext w) w') :
      (x >>= f) w = .undef { w with log := w.log ++ [.fault .nullPointer] } ∧
        (x >>= f) w ≠ (y >>= f) w := by
    have hundef := Program.bind_of_undef hx f
    refine ⟨hundef, fun heq => ?_⟩
    have hsat := hy.bind hf
    rw [Program.Sat, ← heq, hundef] at hsat
    obtain ⟨owned, events, hlog⟩ := hsat
    cases List.append_cancel_left hlog
  cases op with
  | subscribeToEvent objectName callback payload userData =>
      exact hkey (subscribe_null_undef hconnected h payload userData 0)
        (sat_subscribe_locksNext hconnected h payload userData 0) fun _ _ h => h
  | subscribeToEventTimeout objectName callback payload userData timeout =>
      exact hkey (subscribe_null_undef hconnected h payload userData timeout)
        (sat_subscribe_locksNext hconnected h payload userData timeout) fun _ _ h => h
  | _ =>
      exact h.elim

/--
In every state with a connection, and for every operation and its other arguments: NULL and the
empty string have the same result, the same effects and the same messages exactly when the
operation is no subscription with a callback and an object name that fits; such a subscription is
undefined.  Histories that avoid it may mix the two spellings.
-/
theorem null_event_is_default_iff :
    (∀ (op : EventOp M) (w : World M W), w.gConnection.isSome = true →
      ((op.run none : CoreM M W (EventResult M)) w = op.run (some defaultEvent) w ↔
        ¬ op.measuresName) ∧
      (op.measuresName → (op.run none : CoreM M W (EventResult M)) w =
        .undef { w with log := w.log ++ [.fault .nullPointer] })) ∧
    ∀ steps steps' : List (EventStep M), List.Forall₂ SameStep steps steps' →
      (∀ step ∈ steps, step.Spelled) → (∀ step ∈ steps', step.Spelled) →
        (runEvents steps : CoreM M W (List (EventResult M))) = runEvents steps' := by
  refine ⟨fun op w hconnected => ⟨⟨fun heq hmeasures => ?_, fun hspelled => ?_⟩, fun h => ?_⟩,
    fun steps steps' => runEvents_congr⟩
  · exact (EventOp.run_null_of_measuresName hconnected hmeasures).2 heq
  · exact congrFun (EventOp.run_getD fun _ => hspelled) w
  · exact (EventOp.run_null_of_measuresName hconnected h).1

end Spellings

section Run

/-- A process with a connection and nothing registered. -/
def sampleConnected : World Bytes (List UInt8) :=
  { (World.initial .empty .empty : World Bytes (List UInt8)) with
    gConnection := some (sampleConnection 1)
    gServerObjects := .live []
    gEventSubscriptionsForClient := .live [] }

/-- The default event of the object `o` is registered and unregistered. -/
def sampleMixture (registered unregistered : Option CString) : List (EventStep Bytes) :=
  [⟨.registerEvent sampleObjectName.val none 0, registered⟩,
    ⟨.unregisterEvent sampleObjectName.val, unregistered⟩]

/-- An event that is registered by one name and unregistered by the other. -/
theorem sampleMixture_agrees :
    (EventOp.unregisterEvent sampleObjectName.val).run none sampleConnected =
        ((EventOp.unregisterEvent sampleObjectName.val).run (some defaultEvent) sampleConnected :
          Prog Call.Answer (World Bytes (List UInt8)) (EventResult Bytes)) ∧
      (runEvents (sampleMixture none (some defaultEvent)) :
          CoreM Bytes (List UInt8) (List (EventResult Bytes))) =
        runEvents (sampleMixture (some defaultEvent) none) := by
  have hspelled (registered unregistered : Option CString) :
      ∀ step ∈ sampleMixture registered unregistered, step.Spelled := by
    rintro step hstep - hmeasures
    rcases List.mem_cons.mp hstep with rfl | hstep
    · exact hmeasures
    · rw [List.mem_singleton.mp hstep] at hmeasures
      exact hmeasures
  refine ⟨(null_event_is_default_iff.1 _ sampleConnected rfl).1.mpr id,
    null_event_is_default_iff.2 _ _ ?_ (hspelled _ _) (hspelled _ _)⟩
  exact .cons ⟨rfl, rfl⟩ (.cons ⟨rfl, rfl⟩ .nil)

/-- The subscription to the event NULL of the object `o`. -/
theorem null_subscription_undef :
    sampleConnected.gConnection.isSome = true ∧
      ((EventOp.subscribeToEvent sampleObjectName.val (some 1) none 0).run none sampleConnected :
        Prog Call.Answer (World Bytes (List UInt8)) (EventResult Bytes)) =
          .undef { sampleConnected with log := [.fault .nullPointer] } ∧
      ((EventOp.subscribeToEvent sampleObjectName.val (some 1) none 0).run none sampleConnected :
        Prog Call.Answer (World Bytes (List UInt8)) (EventResult Bytes)) ≠
          (EventOp.subscribeToEvent sampleObjectName.val (some 1) none 0).run (some defaultEvent)
            sampleConnected := by
  have hmeasures : (EventOp.subscribeToEvent sampleObjectName.val (some 1) none 0 :
      EventOp Bytes).measuresName :=
    ⟨rfl, sampleObjectName.property⟩
  exact ⟨rfl, EventOp.run_null_of_measuresName rfl hmeasures⟩

end Run

end RbusCore
