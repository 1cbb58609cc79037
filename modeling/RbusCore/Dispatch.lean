import RbusCore.Server

/-!
# Requests

How a message that arrives for an object is dispatched, and the response to it.
-/

namespace RbusCore

open CStrings Resumption

section Response

variable {M W : Type} [MessageApi M W]

/-- `set_message_method`. -/
def setMessageMethod (msg : MessageRef M) (method : Option CString) :
    CoreM M W (MessageRef M) := do
  let msg ← setStringRef (beginMetaSectionWriteRef msg) method
  endMetaSectionWriteRef msg

/-- The response that is sent: the application's, or one made up for it. -/
def responseOrUnsupported (response : Option (MessageRef M)) : CoreM M W (MessageRef M) :=
  match response with
  | some response => pure response
  | none => do
      let response ← newMessage MessageApi.init
      setInt32Ref response RbusError.errorUnsupportedMethod.toInt

/-- `rbus_sendResponse`. -/
def rbusSendResponse (hdr : RtMessageHeader) (response : Option (MessageRef M)) :
    CoreM M W RbusError :=
  if rtMessageHeaderIsRequest hdr then do
    let response ← responseOrUnsupported response
    let response ← setMessageMethod response (some methodResponse)
    let con ← gConnectionPtr
    let err : RtError ← call (.sendBinaryResponse con hdr (MessageApi.toBytes response.val)
      timeoutValueFireAndForget)
    rbusMessageRelease response
    pure (if err = .rtOk then .success else .errorGeneral)
  else pure .success

end Response

section Handlers

variable {M W : Type} [MessageApi M W]

/-- The payload behind the flag of a subscription request. -/
def subscriptionPayload (hasPayload : Option Int) (request : M) :
    CoreM M W (Option (MessageRef M)) :=
  match if hasPayload.getD 0 ≠ 0 then (MessageApi.getMessage request).1 else none with
  | some payload => do
      let payload ← newMessage payload
      pure (some payload)
  | none => pure none

/-- Release a message unless it is NULL. -/
def releaseUnlessNull (message : Option (MessageRef M)) : CoreM M W Unit :=
  match message with
  | some message => rbusMessageRelease message
  | none => pure ()

/-- `subscription_handler`, with both strings at hand. -/
def handleSubscription
    (methodName : Option (List UInt8)) (eventName sender : List UInt8) (request : M)
    (userData : Ptr) : CoreM M W RbusError := do
  let hasPayload := MessageApi.getInt32 request
  let payload ← subscriptionPayload hasPayload.1 hasPayload.2
  let methodName ← deref methodName
  let order ← strncmpAt maxMethodNameLength methodAddEventSubscription methodName
  let ret ← serverObjectSubscriptionHandler userData (some eventName) (some sender)
    (decide (order = 0)) (payload.map MessageRef.val)
  releaseUnlessNull payload
  pure ret

/-- `subscription_handler`. -/
def subscriptionHandler
    (methodName : Option (List UInt8)) (request : M) (userData : Ptr) :
    CoreM M W (RbusError × Option (MessageRef M)) := do
  let out ← newMessage MessageApi.init
  let eventName := MessageApi.getString request
  let sender := MessageApi.getString eventName.2
  match eventName.1, sender.1 with
  | some event, some subscriber => do
      let ret ← handleSubscription methodName event subscriber sender.2 userData
      let out ← setInt32Ref out ret.toInt
      pure (.success, some out)
  | _, _ => pure (.success, some out)

/-- A message that the application has made, unless it is NULL. -/
def newMessageUnlessNull (message : Option M) : CoreM M W (Option (MessageRef M)) :=
  match message with
  | some message => do
      let message ← newMessage message
      pure (some message)
  | none => pure none

/-- A callback of the application. -/
def appMethodCallback
    (id : Nat) (topic : CString) (methodName : Option (List UInt8)) (request : M)
    (data : Ptr) (hdr : RtMessageHeader) :
    CoreM M W (RbusError × Option (MessageRef M)) := do
  let result : HandlerResult M ← call (.methodCallback id topic methodName request data hdr)
  let response ← newMessageUnlessNull result.response
  pure (result.ret, response)

/-- Call a method callback. -/
def invokeMethodCallback
    (callback : MethodCallback) (topic : CString) (methodName : Option (List UInt8))
    (request : M) (data : Ptr) (hdr : RtMessageHeader) :
    CoreM M W (RbusError × Option (MessageRef M)) :=
  match callback with
  | .subscriptionHandler => subscriptionHandler methodName request data
  | .app id => appMethodCallback id topic methodName request data hdr

end Handlers

section Dispatch

variable {M W : Type} [MessageApi M W]

/-- The method `dispatch_method_call` looks up: none for an object without methods and
for a message without a method name. -/
def findMethod (object : ServerObject) (methodName : Option (List UInt8)) :
    CoreM M W (Option ServerMethod) :=
  match methodName with
  | some key => rtVectorFindAt maxMethodNameLength (fun m => m.name.val) key object.methods
  | none => pure none

/-- `dispatch_method_call`, for a method of the table: what its callback returns is not
looked at. -/
def dispatchToMethod
    (method : ServerMethod) (methodName : Option (List UInt8)) (request : M)
    (hdr : RtMessageHeader) : CoreM M W Unit := do
  let result ← invokeMethodCallback method.callback hdr.topic methodName request method.data hdr
  let _ ← rbusSendResponse hdr result.2
  pure ()

/-- `dispatch_method_call`, for the default callback of the object. -/
def dispatchToObject
    (obj : Ptr) (methodName : Option (List UInt8)) (request : M) (hdr : RtMessageHeader) :
    CoreM M W Unit := do
  let object ← derefObject obj
  let result ← appMethodCallback object.callback hdr.topic methodName request object.data hdr
  if result.1 = .successAsync then pure ()
  else do
    let _ ← rbusSendResponse hdr result.2
    pure ()

/-- `dispatch_method_call`, from the invocation of the handler on. -/
def dispatchTo
    (method : Option ServerMethod) (obj : Ptr) (methodName : Option (List UInt8)) (request : M)
    (hdr : RtMessageHeader) : CoreM M W Unit :=
  match method with
  | some method => dispatchToMethod method methodName request hdr
  | none => dispatchToObject obj methodName request hdr

/-- `dispatch_method_call`. -/
def dispatchMethodCall (msg : MessageRef M) (hdr : RtMessageHeader) (obj : Ptr) :
    CoreM M W Unit := do
  let m ← derefMessage msg
  let name := MessageApi.getString (MessageApi.beginMetaSectionRead m)
  let request := MessageApi.endMetaSectionRead name.2
  lock
  let object ← derefObject obj
  let method ← findMethod object name.1
  unlock
  dispatchTo method obj name.1 request hdr

/-- `dispatch_method_call`, entered into the history. -/
def recordedDispatch (msg : MessageRef M) (hdr : RtMessageHeader) (obj : Ptr) :
    CoreM M W Unit := do
  record (.dispatch hdr msg.val obj)
  dispatchMethodCall msg hdr obj
  record .dispatched

end Dispatch

section Queue

variable {M W : Type} [MessageApi M W]

/-- `queued_request_create`. -/
def queuedRequestCreate (hdr : RtMessageHeader) (msg : MessageRef M) (obj : Ptr) :
    CoreM M W (QueuedRequest M) := do
  let p ← rtMalloc
  pure { ptr := p, hdr := hdr, msg := msg, obj := obj }

/-- Change `g_queued_requests`. -/
def updateQueuedRequests (f : List (QueuedRequest M) → List (QueuedRequest M)) :
    CoreM M W Unit :=
  Program.modifyState fun w => { w with gQueuedRequests := w.gQueuedRequests.update f }

/-- The loop of `onMessage` that consumes the queue, for at most so many rounds. -/
def drainQueuedRequests : Nat → CoreM M W Unit
  | 0 => do
      let never : Empty ← call .loop
      nomatch never
  | rounds + 1 => do
      let w ← Program.getState
      match w.gQueuedRequests.items with
      | [] => pure ()
      | req :: _ => do
          recordedDispatch req.msg req.hdr req.obj
          updateQueuedRequests fun reqs => reqs.eraseP fun r => r.ptr = req.ptr
          drainQueuedRequests rounds

/-- Change `stack_counter`. -/
def updateStackCounter (f : Nat → Nat) : CoreM M W Unit :=
  Program.modifyState fun w => { w with stackCounter := f w.stackCounter }

/-- `onMessage`, before the queue is looked at. -/
def queueOrDispatch (msg : MessageRef M) (hdr : RtMessageHeader) (obj : Ptr) :
    CoreM M W Unit := do
  let w ← Program.getState
  if w.stackCounter ≠ 1 then do
    let req ← queuedRequestCreate hdr msg obj
    updateQueuedRequests fun reqs => reqs ++ [req]
  else recordedDispatch msg hdr obj

/-- `onMessage`, where it consumes the queue. -/
def consumeQueue (rounds : Nat) : CoreM M W Unit := do
  let w ← Program.getState
  if w.stackCounter = 1 ∧ w.gQueuedRequests.items ≠ [] then drainQueuedRequests rounds
  else pure ()

/-- `onMessage`. -/
def onMessage (rounds : Nat) (hdr : RtMessageHeader) (data : W) (closure : Ptr) :
    CoreM M W Unit := do
  let msg : MessageRef M ← newMessage (MessageApi.fromBytes data)
  let w ← Program.getState
  record (.deliver w.stackCounter hdr msg.val closure)
  updateStackCounter (· + 1)
  queueOrDispatch msg hdr closure
  consumeQueue rounds
  updateStackCounter (· - 1)
  rbusMessageRelease msg

end Queue

end RbusCore
