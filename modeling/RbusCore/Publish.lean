import RbusCore.Client

/-!
# Publishing events

Event messages and the sends to the listeners of an event.
-/

namespace RbusCore

open CStrings Resumption

section Publish

variable {M W : Type} [MessageApi M W]

/-- `translate_rt_error`. -/
def translateRtError (err : RtError) : RbusError :=
  if err = .rtOk then .success else .errorGeneral

/-- `rbus_sendMessage`. -/
def rbusSendMessage (msg : MessageRef M) (destination sender : CString) :
    CoreM M W RbusError := do
  let w ← Program.getState
  if w.gConnection.isNone then pure .errorInvalidState
  else do
    let con ← gConnectionPtr
    let ret : RtError ←
      call (.sendBinaryDirect con (MessageApi.toBytes msg.val) destination sender)
    pure (translateRtError ret)

/-- The metadata section of an event message: event, object, and the flag for `rbus` 2.0. -/
def setEventMetaSection (out : MessageRef M) (eventName objectName : CString) (flag : Int) :
    CoreM M W (MessageRef M) := do
  let out ← setStringRef (beginMetaSectionWriteRef out) (some eventName)
  let out ← setStringRef out (some objectName)
  let out ← setInt32Ref out flag
  endMetaSectionWriteRef out

/-- The message after the metadata section of an event has been written to it. -/
def eventMetaSection? (out : M) (eventName objectName : CString) (flag : Int) : Option M := do
  let out ← MessageApi.setString (MessageApi.beginMetaSectionWrite out) (some eventName)
  let out ← MessageApi.setString out (some objectName)
  let out ← MessageApi.setInt32 out flag
  MessageApi.endMetaSectionWrite out

/-- The loop of `rbus_publishEvent`: a failed send does not end it. -/
def sendToListeners (out : MessageRef M) (objectName : CString) :
    List CString → CoreM M W Unit
  | [] => pure ()
  | listener :: listeners => do
      let _ ← rbusSendMessage out listener objectName
      sendToListeners out objectName listeners

/-- `rbus_publishEvent`, with the message as it is left to the caller. -/
def rbusPublishEvent
    (objectName eventName : Option CString) (out : MessageRef M) :
    CoreM M W (RbusError × MessageRef M) := do
  let w ← Program.getState
  if w.gConnection.isNone then pure (.errorInvalidState, out)
  else do
    let eventName := eventName.getD defaultEvent
    let objectName ← deref objectName
    if maxObjectNameLength ≤ objectName.strlen then pure (.errorInvalidParam, out)
    else do
      let out ← setEventMetaSection out eventName objectName 0
      lock
      let obj ← getObject (some objectName)
      match obj with
      | some obj =>
          match rtVectorFind serverEventCompare obj.subscriptions eventName with
          | some event => do
              sendToListeners out objectName event.listeners
              unlock
              pure (.success, out)
          | none => do
              unlock
              pure (.errorInvalidParam, out)
      | none => do
          unlock
          pure (.errorInvalidParam, out)

/-- `rbus_publishSubscriberEvent`, with the message as it is left to the caller. -/
def rbusPublishSubscriberEvent
    (objectName eventName : Option CString) (listener : CString) (out : MessageRef M) :
    CoreM M W (RbusError × MessageRef M) := do
  let eventName := eventName.getD defaultEvent
  let objectName ← deref objectName
  if maxObjectNameLength ≤ objectName.strlen then pure (.errorInvalidParam, out)
  else do
    let out ← setEventMetaSection out eventName objectName 1
    lock
    let obj ← getObject (some objectName)
    let _ ← rbusSendMessage out listener objectName
    unlock
    pure (if obj.isNone then .errorInvalidParam else .success, out)

end Publish

section Written

variable {M W : Type}

/-- A setter's result does not depend on the old contents otherwise. -/
theorem written_val
    (p : Ptr)
    (a b : M)
    (r : Option M) :
    (written ⟨p, a⟩ r : CoreM M W (MessageRef M)) = written ⟨p, b⟩ r := by
  cases r with
  | none =>
      rfl
  | some v =>
      rfl

/-- One setter after another. -/
theorem written_bind
    (m : MessageRef M)
    (r : Option M)
    (f : M → Option M) :
    (written m r >>= fun m' => written m' (f m'.val) : CoreM M W (MessageRef M)) =
      written m (r.bind f) := by
  cases r with
  | none =>
      rfl
  | some v =>
      exact written_val m.ptr v m.val (f v)

/-- Three setters after another one. -/
theorem written_bind_three
    (m : MessageRef M)
    (r : Option M)
    (f g h : M → Option M) :
    (do
      let m₁ ← written m r
      let m₂ ← written m₁ (f m₁.val)
      let m₃ ← written m₂ (g m₂.val)
      written m₃ (h m₃.val) : CoreM M W (MessageRef M)) =
      written m (r.bind fun v => (f v).bind fun v => (g v).bind h) := by
  have hlast (m₂ : MessageRef M) :
      (written m₂ (g m₂.val) >>= fun m₃ => written m₃ (h m₃.val) : CoreM M W _) =
        written m₂ ((g m₂.val).bind h) :=
    written_bind m₂ (g m₂.val) h
  have hmiddle (m₁ : MessageRef M) :
      (written m₁ (f m₁.val) >>= fun m₂ => written m₂ ((g m₂.val).bind h) : CoreM M W _) =
        written m₁ ((f m₁.val).bind fun v => (g v).bind h) :=
    written_bind m₁ (f m₁.val) fun v => (g v).bind h
  simp only [hlast, hmiddle]
  exact written_bind m r fun v => (f v).bind fun v => (g v).bind h

/-- The section is written, or it cannot be. -/
theorem setEventMetaSection_eq
    [MessageApi M W] (out : MessageRef M) (eventName objectName : CString) (flag : Int) :
    setEventMetaSection out eventName objectName flag =
      (written out (eventMetaSection? out.val eventName objectName flag) :
        CoreM M W (MessageRef M)) := by
  refine (written_bind_three ⟨out.ptr, MessageApi.beginMetaSectionWrite out.val⟩
    (MessageApi.setString (MessageApi.beginMetaSectionWrite out.val) (some eventName))
    (fun v => MessageApi.setString v (some objectName)) (fun v => MessageApi.setInt32 v flag)
    MessageApi.endMetaSectionWrite).trans ?_
  exact written_val _ _ _ _

end Written

end RbusCore
