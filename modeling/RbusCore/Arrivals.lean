import RbusCore.Operations

/-!
# The arrival of requests

A request that arrives is dispatched, and behind it those that have been queued in the meantime.
Together with events, the advisory messages of the router and the calls of the application this
is all that happens in a process.

**Results.**
* `Arriving`, `keeps_onMessage`: what is kept by the dispatch of a request is kept by its
  arrival, whatever has been queued.
* `sat_onMessage_iff`, `sat_onMessage_unoccupied`: a request that finds nothing being handled is
  dispatched at once.
* `LibraryActivity`: the ways into the library.
-/

namespace RbusCore

open CStrings Resumption

section Arriving

variable {M W : Type}

/-- A contract for code that counts and queues requests, and writes down what it does with
them. -/
structure Arriving
    (C : Contract (Call.Answer (M := M) (W := W)) (World M W)) (P : World M W → Prop) : Prop
    extends Serving C P where
  depth : ∀ w n, P w → P { w with stackCounter := n }
  queued : ∀ w requests, P w → P { w with gQueuedRequests := requests }
  delivered : ∀ w depth hdr msg obj, P w →
    P { w with log := w.log ++ [.deliver depth hdr msg obj] }
  dispatching : ∀ w hdr msg obj, P w → P { w with log := w.log ++ [.dispatch hdr msg obj] }
  dispatched : ∀ w, P w → P { w with log := w.log ++ [.dispatched] }
  looping : ∀ w, P w → C.atCall .loop { w with log := w.log ++ [.call .loop] }

variable {C : Contract (Call.Answer (M := M) (W := W)) (World M W)}
variable {P : World M W → Prop} (h : Arriving C P) [MessageApi M W]

include h

theorem keeps_recordedDispatch
    (msg : MessageRef M) (hdr : RtMessageHeader) (obj : Ptr) :
    Program.Keeps C P (recordedDispatch msg hdr obj : CoreM M W Unit) := by
  refine Program.keeps_bind (fun w hw => h.dispatching w hdr msg.val obj hw) fun _ => ?_
  refine Program.keeps_bind (keeps_dispatchMethodCall h.toServing msg hdr obj) fun _ => ?_
  exact fun w hw => h.dispatched w hw

/-- The loop over the queue. -/
theorem keeps_drainQueuedRequests
    (rounds : Nat) :
    Program.Keeps C P (drainQueuedRequests rounds : CoreM M W Unit) := by
  induction rounds with
  | zero =>
      intro w hw
      refine ⟨h.looping w hw, ?_⟩
      rintro ⟨⟩
  | succ rounds ih =>
      refine Program.keeps_bind Program.keeps_getState fun w => ?_
      split
      · exact Program.keeps_pure _
      · refine Program.keeps_bind (keeps_recordedDispatch h _ _ _) fun _ => ?_
        exact Program.keeps_bind (fun w hw => h.queued w _ hw) fun _ => ih

/-- A request arrives. -/
theorem keeps_onMessage
    (rounds : Nat) (hdr : RtMessageHeader) (data : W) (closure : Ptr) :
    Program.Keeps C P (onMessage rounds hdr data closure : CoreM M W Unit) := by
  have hcounter (f : Nat → Nat) :
      Program.Keeps C P (updateStackCounter f : CoreM M W Unit) :=
    fun w hw => h.depth w (f w.stackCounter) hw
  refine Program.keeps_bind (keeps_newMessage h.toSteady _) fun msg => ?_
  refine Program.keeps_bind Program.keeps_getState fun w => ?_
  refine Program.keeps_bind (fun v hv => h.delivered v w.stackCounter hdr msg.val closure hv)
    fun _ => ?_
  refine Program.keeps_bind (hcounter _) fun _ => Program.keeps_bind ?_ fun _ =>
    Program.keeps_bind ?_ fun _ => Program.keeps_bind (hcounter _) fun _ =>
      keeps_rbusMessageRelease h.toSteady msg
  · refine Program.keeps_bind Program.keeps_getState fun w => ?_
    refine Program.keeps_ite ?_ (keeps_recordedDispatch h _ _ _)
    refine Program.keeps_bind (Program.keeps_bind (keeps_rtMalloc h.toSteady) fun _ =>
      Program.keeps_pure _) fun _ => ?_
    exact fun w hw => h.queued w _ hw
  · refine Program.keeps_bind Program.keeps_getState fun w => ?_
    exact Program.keeps_ite (keeps_drainQueuedRequests h rounds) (Program.keeps_pure _)

end Arriving

section Idle

variable {M W : Type} [MessageApi M W]

/-- No message is being handled, and none waits. -/
structure Unoccupied {M W : Type} (w : World M W) : Prop where
  stackCounter : w.stackCounter = 0
  queue : w.gQueuedRequests.items = []

/-- One message is being handled, and none waits. -/
structure Occupied {M W : Type} (w : World M W) : Prop where
  stackCounter : w.stackCounter = 1
  queue : w.gQueuedRequests.items = []

/-- A message has arrived and is about to be dispatched. -/
def World.dispatching (w : World M W) (hdr : RtMessageHeader) (msg : M) (obj : Ptr) :
    World M W :=
  { w with
    nextPtr := w.nextPtr + 1
    refCount := Function.update w.refCount w.nextPtr 1
    stackCounter := w.stackCounter + 1
    log := w.log ++ [.deliver w.stackCounter hdr msg obj] ++ [.dispatch hdr msg obj] }

/-- A message has been dispatched, and nothing waits. -/
def World.dispatched {M W : Type} (w : World M W) : World M W :=
  { w with stackCounter := w.stackCounter - 1, log := w.log ++ [.dispatched] }

/-- A message that arrives while no other is handled is dispatched at once. -/
theorem sat_onMessage_iff
    {C : Contract (Call.Answer (M := M) (W := W)) (World M W)} {Q : Unit → World M W → Prop}
    {w : World M W} {hdr : RtMessageHeader} {data : W} {obj : Ptr}
    (hidle : w.stackCounter = 0)
    (rounds : Nat) :
    Program.Sat C (onMessage (M := M) rounds hdr data obj) Q w ↔
      Program.Sat C (dispatchMethodCall ⟨w.nextPtr, MessageApi.fromBytes data⟩ hdr obj)
        (fun _ w' => Program.Sat C
          (do
            consumeQueue rounds
            updateStackCounter (· - 1)
            rbusMessageRelease ⟨w.nextPtr, MessageApi.fromBytes (M := M) data⟩)
          Q { w' with log := w'.log ++ [.dispatched] })
        (w.dispatching hdr (MessageApi.fromBytes data) obj) := by
  let msg : MessageRef M := ⟨w.nextPtr, MessageApi.fromBytes data⟩
  let w₁ : World M W :=
    { w with
      nextPtr := w.nextPtr + 1
      refCount := Function.update w.refCount w.nextPtr 1
      stackCounter := w.stackCounter + 1
      log := w.log ++ [.deliver w.stackCounter hdr msg.val obj] }
  have hone : w₁.stackCounter = 1 := congrArg (· + 1) hidle
  have harrives : onMessage rounds hdr data obj w =
      (do
        queueOrDispatch msg hdr obj
        consumeQueue rounds
        updateStackCounter (· - 1)
        rbusMessageRelease msg : CoreM M W Unit) w₁ := rfl
  rw [Program.Sat, harrives, ← Program.Sat, Program.sat_bind, queueOrDispatch, Program.sat_bind,
    Program.sat_getState, if_neg (not_not.mpr hone), recordedDispatch, Program.sat_bind, sat_record,
    Program.sat_bind]
  exact Iff.rfl

/-- A message arrives while no other is handled: it is dispatched at once, and nothing else is
done. -/
theorem sat_onMessage_unoccupied
    {C : Contract (Call.Answer (M := M) (W := W)) (World M W)} {P Q : World M W → Prop}
    {w : World M W} {hdr : RtMessageHeader} {data : W} {obj : Ptr}
    (hidle : Unoccupied w)
    (hdispatch : Program.Sat C
      (dispatchMethodCall ⟨w.nextPtr, MessageApi.fromBytes data⟩ hdr obj)
      (fun _ w' => P w' ∧ Occupied w') (w.dispatching hdr (MessageApi.fromBytes data) obj))
    (hrelease : ∀ w', P w' → Occupied w' →
      Program.Sat C (rbusMessageRelease ⟨w.nextPtr, MessageApi.fromBytes (M := M) data⟩)
        (fun _ => Q) w'.dispatched)
    (rounds : Nat) :
    Program.Sat C (onMessage (M := M) rounds hdr data obj) (fun _ => Q) w := by
  rw [sat_onMessage_iff hidle.stackCounter]
  refine hdispatch.mono ?_
  rintro _ w₂ ⟨hP, hbusy⟩
  rw [consumeQueue, bind_assoc, Program.sat_bind, Program.sat_getState,
    if_neg fun hwaiting => hwaiting.2 hbusy.queue, pure_bind]
  exact hrelease w₂ hP hbusy

end Idle

section Activities

/-- What happens in a process: calls of the library, and what arrives on the connection. -/
inductive LibraryActivity (M W : Type) where
  | call (op : PublicOp M)
  | request (rounds : Nat) (hdr : RtMessageHeader) (data : W) (closure : Ptr)
  | event (hdr : RtMessageHeader) (data : W)
  | advisory (msg : Advisory)

variable {M W : Type}

/-- The code an activity runs. -/
def LibraryActivity.run [MessageApi M W] : LibraryActivity M W → CoreM M W Unit
  | .call op => op.run
  | .request rounds hdr data closure => onMessage rounds hdr data closure
  | .event hdr data => masterEventCallback hdr data
  | .advisory msg => rtroutedAdvisoryCallback msg

theorem keeps_rtroutedAdvisoryCallback
    {C : Contract (Call.Answer (M := M) (W := W)) (World M W)} {P : World M W → Prop}
    (h : Calling C P)
    (msg : Advisory) :
    Program.Keeps C P (rtroutedAdvisoryCallback msg : CoreM M W Unit) := by
  refine Program.keeps_bind Program.keeps_getState fun w => ?_
  split
  · exact Program.keeps_pure _
  · split
    · exact Program.keeps_bind (keeps_call h rfl) fun _ => Program.keeps_pure _
    · exact Program.keeps_pure _
    · exact Program.keeps_pure _
    · exact Program.keeps_pure _

end Activities

end RbusCore
