import RbusCore.Dispatch

/-!
# The client side

Remote method calls, the table of subscriptions and the functions that change it,
and the callback for events.
-/

namespace RbusCore

open CStrings Resumption

section Invoke

variable {M W : Type} [MessageApi M W]

/-- `rbus_sendRequest`. -/
def rbusSendRequest (req : MessageRef M) (topic : CString) (timeout : Int) :
    CoreM M W (Except RtError (MessageRef M)) := do
  let con ← gConnectionPtr
  let reply : Except RtError W ←
    call (.sendBinaryRequest con (MessageApi.toBytes req.val) topic timeout)
  match reply with
  | .ok data => do
      let res ← newMessage (MessageApi.fromBytes data)
      pure (.ok res)
  | .error err => pure (.error err)

/-- The error a failed request is reported as. -/
def translateRequestError : RtError → RbusError
  | .rtObjectNoLongerAvailable => .errorDestinationUnreachable
  | .rtErrorTimeout => .errorRemoteTimedOut
  | _ => .errorGeneral

/-- The test that a reply is a response: its method name against `METHOD_RESPONSE`. -/
def checkResponse (methodName : Option (List UInt8)) : CoreM M W RbusError :=
  match methodName with
  | some region => do
      let order ← strncmpAt maxMethodNameLength methodResponse region
      if order ≠ 0 then pure .errorMalformedResponse else pure .success
  | none => pure .errorMalformedResponse

/-- The request of `rbus_invokeRemoteMethod`: an empty message stands in for NULL. -/
def messageOrEmpty (out : Option (MessageRef M)) : CoreM M W (MessageRef M) :=
  match out with
  | some out => pure out
  | none => newMessage MessageApi.init

/-- `rbus_invokeRemoteMethod`, from the reply on. -/
def receiveReply (out : MessageRef M) (reply : Except RtError (MessageRef M)) :
    CoreM M W (RbusError × Option (Option (MessageRef M))) :=
  match reply with
  | .error err => do
      rbusMessageRelease out
      pure (translateRequestError err, some none)
  | .ok res => do
      let name := MessageApi.getString (MessageApi.beginMetaSectionRead res.val)
      let ret ← checkResponse name.1
      rbusMessageRelease out
      if ret ≠ .success then do
        rbusMessageRelease res
        pure (ret, some none)
      else pure (ret, some (some { res with val := MessageApi.endMetaSectionRead name.2 }))

/-- `rbus_invokeRemoteMethod`.  The second result is what is stored through `in`: nothing,
NULL, or a message. -/
def rbusInvokeRemoteMethod
    (objectName method : Option CString) (out : Option (MessageRef M)) (timeout : Int) :
    CoreM M W (RbusError × Option (Option (MessageRef M))) := do
  let w ← Program.getState
  if w.gConnection.isNone then pure (.errorInvalidState, none)
  else do
    let objectName ← deref objectName
    if maxObjectNameLength ≤ objectName.strlen then pure (.errorInvalidParam, none)
    else do
      let out ← messageOrEmpty out
      let out ← setMessageMethod out method
      let reply ← rbusSendRequest out objectName timeout
      receiveReply out reply

/-- The integer at the start of a response, as a result code. -/
def responseCode (result : Option Int) : RbusError :=
  match result with
  | some result => .ofInt result
  | none => .errorMalformedResponse

/-- `rbus_pushObj`. -/
def rbusPushObj (objectName : Option CString) (message : Option (MessageRef M)) (timeout : Int) :
    CoreM M W RbusError := do
  let reply ← rbusInvokeRemoteMethod objectName (some methodSetParameterValues) message timeout
  if reply.1 ≠ .success then pure reply.1
  else do
    let response ← deref reply.2.join
    rbusMessageRelease response
    pure (responseCode (MessageApi.getInt32 response.val).1)

/-- `rbus_pushObjNoAck`. -/
def rbusPushObjNoAck (objectName : Option CString) (message : Option (MessageRef M)) :
    CoreM M W RbusError :=
  rbusPushObj objectName message timeoutValueFireAndForget

/-- `rbus_pullObj`, with what is stored through `response`. -/
def rbusPullObj (objectName : Option CString) (timeout : Int) :
    CoreM M W (RbusError × Option (Option (MessageRef M))) := do
  let reply ← rbusInvokeRemoteMethod objectName (some methodGetParameterValues) none timeout
  if reply.1 ≠ .success then pure reply
  else do
    let response ← deref reply.2.join
    let result := MessageApi.getInt32 response.val
    if responseCode result.1 ≠ .success then do
      rbusMessageRelease response
      pure (responseCode result.1, some none)
    else pure (.success, some (some { response with val := result.2 }))

end Invoke

section SubscriptionRequest

variable {M W : Type} [MessageApi M W]

/-- The flag for the payload, and the payload behind it. -/
def setPayload (request : MessageRef M) (payload : Option (MessageRef M)) :
    CoreM M W (MessageRef M) :=
  match payload with
  | some payload => do
      let request ← setInt32Ref request 1
      setMessageRef request payload
  | none => setInt32Ref request 0

/-- What the answer to a subscription request means, and what is stored through
`providerError`. -/
def subscriptionResult (result : Option Int) : RbusError × Option Int :=
  match result with
  | some result =>
      if result = RbusError.success.toInt then (.success, none)
      else (.errorGeneral, some result)
  | none => (.errorMalformedResponse, none)

/-- The method a subscription request calls. -/
def subscriptionMethod (activate : Bool) : CString :=
  if activate then methodAddEventSubscription else methodRemoveEventSubscription

/-- `send_subscription_request`.  The second result is what is stored through
`providerError`. -/
def sendSubscriptionRequest
    (objectName eventName : CString) (activate : Bool) (payload : Option (MessageRef M))
    (timeoutMs : Int) : CoreM M W (RbusError × Option Int) := do
  let request ← newMessage MessageApi.init
  let request ← setStringRef request (some eventName)
  let returnAddress ← rtConnectionGetReturnAddress
  let request ← setStringRef request (some returnAddress)
  let request ← setPayload request payload
  let reply ← rbusInvokeRemoteMethod (some objectName) (some (subscriptionMethod activate))
    (some request) (if timeoutMs ≤ 0 then timeoutValueFireAndForget else timeoutMs)
  if reply.1 = .success then do
    let response ← deref reply.2.join
    rbusMessageRelease response
    pure (subscriptionResult (MessageApi.getInt32 response.val).1)
  else if reply.1 = .errorDestinationUnreachable then pure (reply.1, none)
  else pure (.errorRemoteEndFailedToRespond, none)

end SubscriptionRequest

section Table

variable {M W : Type}

/-- `client_event_compare`. -/
def clientEventCompare (e : ClientEvent) (key : CString) : Int :=
  compareName e.name key

/-- `client_subscription_compare`. -/
def clientSubscriptionCompare (s : ClientSubscription) (key : CString) : Int :=
  compareName s.object key

@[simp] theorem clientEventCompare_eq_zero_iff
    (e : ClientEvent)
    (key : CString) :
    clientEventCompare e key = 0 ↔ e.name.val = key :=
  compareName_eq_zero_iff e.name key

@[simp] theorem clientSubscriptionCompare_eq_zero_iff
    (s : ClientSubscription)
    (key : CString) :
    clientSubscriptionCompare s key = 0 ↔ s.object.val = key :=
  compareName_eq_zero_iff s.object key

/-- `client_subscription_create`. -/
def clientSubscriptionCreate (objectName : BoundedName maxObjectNameLength) :
    CoreM M W ClientSubscription := do
  let p ← rtMalloc
  pure { ptr := p, object := objectName, events := [] }

/-- `client_event_create`. -/
def clientEventCreate
    (name : BoundedName maxEventNameLength) (callback : Nat) (data : Ptr) : ClientEvent :=
  { name := name, callback := callback, data := data }

/-- Change the subscription record at an address. -/
def updateSubscription (p : Ptr) (f : ClientSubscription → ClientSubscription) :
    CoreM M W Unit :=
  updateClientSubscriptions (updateAt ClientSubscription.ptr p f)

/-- Remove an event from an entry of the table, and the entry with its last event. -/
def removeClientEvent (sub : Ptr) (objectName eventName : CString) : CoreM M W Unit := do
  updateSubscription sub fun s =>
    { s with events := rtVectorRemoveFound clientEventCompare eventName s.events }
  let sub ← derefSubscription sub
  if sub.events.length = 0 then
    updateClientSubscriptions (rtVectorRemoveFound clientSubscriptionCompare objectName)
  else pure ()

/-- `remove_subscription_callback`, with the mutex taken. -/
def removeSubscriptionLocked (objectName eventName : CString) : CoreM M W RbusError := do
  let subs ← clientSubscriptions
  match rtVectorFind clientSubscriptionCompare subs objectName with
  | some sub =>
      match rtVectorFind clientEventCompare sub.events eventName with
      | some _ => do
          removeClientEvent sub.ptr objectName eventName
          unlock
          pure .success
      | none => do
          unlock
          pure .errorInvalidParam
  | none => do
      unlock
      pure .errorInvalidParam

/-- `remove_subscription_callback`. -/
def removeSubscriptionCallback (objectName eventName : CString) : CoreM M W RbusError := do
  lock
  removeSubscriptionLocked objectName eventName

end Table

section Subscribe

variable {M W : Type} [MessageApi M W]

/-- Starting event dispatch: the part of `rbus_subscribeToEventInternal` that runs once. -/
def startEventDispatch : CoreM M W Unit := do
  let w ← Program.getState
  if w.gRunEventClientDispatch = false then do
    rtConnectionAddDefaultListener
    Program.modifyState fun w => { w with gRunEventClientDispatch := true }
  else pure ()

/-- Add an event to the entry at an address. -/
def addClientEvent
    (sub : Ptr) (eventName : BoundedName maxEventNameLength) (callback : Nat) (userData : Ptr) :
    CoreM M W Unit :=
  updateSubscription sub fun s =>
    { s with events := s.events ++ [clientEventCreate eventName callback userData] }

/-- Entering a subscription into the table.  The result says whether the event was there
already. -/
def addSubscriptionCallback
    (objectName : BoundedName maxObjectNameLength) (eventName : BoundedName maxEventNameLength)
    (callback : Nat) (userData : Ptr) : CoreM M W Bool := do
  let subs ← clientSubscriptions
  match rtVectorFind clientSubscriptionCompare subs objectName.val with
  | some sub =>
      if (rtVectorFind clientEventCompare sub.events eventName.val).isSome then pure true
      else do
        addClientEvent sub.ptr eventName callback userData
        pure false
  | none => do
      let sub ← clientSubscriptionCreate objectName
      updateClientSubscriptions fun subs => subs ++ [sub]
      addClientEvent sub.ptr eventName callback userData
      pure false

/-- The table is kept only while there is no master handler. -/
def addUnlessMaster
    (objectName : BoundedName maxObjectNameLength) (eventName : BoundedName maxEventNameLength)
    (callback : Nat) (userData : Ptr) : CoreM M W Bool := do
  let w ← Program.getState
  if w.gMasterEventCallback.isNone then
    addSubscriptionCallback objectName eventName callback userData
  else pure false

/-- The undoing in `rbus_subscribeToEventInternal`, around which it takes the mutex. -/
def rollbackUnlessMaster (objectName eventName : CString) : CoreM M W Unit := do
  let w ← Program.getState
  if w.gMasterEventCallback.isNone then do
    lock
    let _ ← removeSubscriptionCallback objectName eventName
    unlock
  else pure ()

/-- `rbus_subscribeToEventInternal`, with both names checked. -/
def subscribeChecked
    (objectName : BoundedName maxObjectNameLength) (eventName : BoundedName maxEventNameLength)
    (callback : Nat) (payload : Option (MessageRef M)) (userData : Ptr) (timeout : Int) :
    CoreM M W (RbusError × Option Int) := do
  lock
  startEventDispatch
  let present ← addUnlessMaster objectName eventName callback userData
  unlock
  if present then pure (.success, none)
  else do
    let reply ← sendSubscriptionRequest objectName.val eventName.val true payload timeout
    if reply.1 ≠ .success then do
      rollbackUnlessMaster objectName.val eventName.val
      pure reply
    else pure reply

/-- `rbus_subscribeToEventInternal`, with what is stored through `providerError`. -/
def rbusSubscribeToEventInternal
    (objectName eventName : Option CString) (callback : Option Nat)
    (payload : Option (MessageRef M)) (userData : Ptr) (timeout : Int) :
    CoreM M W (RbusError × Option Int) := do
  let w ← Program.getState
  if w.gConnection.isNone then pure (.errorInvalidState, none)
  else
    match objectName <|> eventName, callback with
    | some objectName, some callback =>
        match BoundedName.check? maxObjectNameLength objectName with
        | none => pure (.errorInvalidParam, none)
        | some objectName => do
            -- the length of the event name is taken before NULL would be replaced
            let eventName ← deref eventName
            match BoundedName.check? maxEventNameLength eventName with
            | none => pure (.errorInvalidParam, none)
            | some eventName =>
                subscribeChecked objectName eventName callback payload userData timeout
    | _, _ => pure (.errorInvalidParam, none)

/-- `rbus_subscribeToEvent`. -/
def rbusSubscribeToEvent
    (objectName eventName : Option CString) (callback : Option Nat)
    (payload : Option (MessageRef M)) (userData : Ptr) :
    CoreM M W (RbusError × Option Int) :=
  rbusSubscribeToEventInternal objectName eventName callback payload userData 0

/-- `rbus_subscribeToEventTimeout`. -/
def rbusSubscribeToEventTimeout
    (objectName eventName : Option CString) (callback : Option Nat)
    (payload : Option (MessageRef M)) (userData : Ptr) (timeout : Int) :
    CoreM M W (RbusError × Option Int) :=
  rbusSubscribeToEventInternal objectName eventName callback payload userData timeout

/-- The removal in `rbus_unsubscribeFromEvent`. -/
def removeUnlessMaster (objectName eventName : CString) : CoreM M W Unit := do
  let w ← Program.getState
  if w.gMasterEventCallback.isNone then do
    let _ ← removeSubscriptionCallback objectName eventName
    pure ()
  else pure ()

/-- `rbus_unsubscribeFromEvent`. -/
def rbusUnsubscribeFromEvent
    (objectName eventName : Option CString) (payload : Option (MessageRef M)) :
    CoreM M W RbusError :=
  match objectName <|> eventName with
  | none => pure .errorInvalidParam
  | some objectName =>
      if maxObjectNameLength ≤ objectName.strlen then pure .errorInvalidParam
      else do
        let eventName := eventName.getD defaultEvent
        removeUnlessMaster objectName eventName
        let reply ← sendSubscriptionRequest objectName eventName false payload 0
        pure reply.1

/-- `rbus_registerMasterEventHandler`. -/
def rbusRegisterMasterEventHandler (callback : Option Nat) (userData : Ptr) :
    CoreM M W RbusError := do
  Program.modifyState fun w =>
    { w with gMasterEventCallback := callback, gMasterEventUserData := userData }
  pure .success

end Subscribe

section Events

variable {M W : Type} [MessageApi M W]

/-- Whether an entry of the table is for the sender or for the event name. -/
def matchesSubscription
    (sender : CString) (eventName : Option (List UInt8)) (sub : ClientSubscription) :
    CoreM M W Bool :=
  if strncmp maxObjectNameLength sub.object.val.chars sender.chars = 0 then pure true
  else do
    let key ← deref eventName
    let order ← strncmpAt maxObjectNameLength sub.object.val key
    pure (decide (order = 0))

/-- The search for an event in an entry that matched. -/
def findInSubscription
    (eventName : Option (List UInt8)) (sub : ClientSubscription) (matched : Bool) :
    CoreM M W (Option ClientEvent) :=
  if matched ∧ sub.events ≠ [] then do
    let key ← deref eventName
    rtVectorFindAt maxEventNameLength (fun e => e.name.val) key sub.events
  else pure none

/-- The search of `master_event_callback` through the table. -/
def findClientEvent (sender : CString) (eventName : Option (List UInt8)) :
    List ClientSubscription → CoreM M W (Option ClientEvent)
  | [] => pure none
  | sub :: subs => do
      let matched ← matchesSubscription sender eventName sub
      let found ← findInSubscription eventName sub matched
      match found with
      | some event => pure (some event)
      | none => findClientEvent sender eventName subs

/-- The part of `master_event_callback` behind the master handler. -/
def dispatchClientEvent (sender : CString) (eventName : Option (List UInt8)) (msg : MessageRef M) :
    CoreM M W Unit := do
  lock
  let subs ← clientSubscriptions
  let found ← findClientEvent sender eventName subs
  unlock
  match found with
  | some event => do
      let _ ← call (.eventCallback event.callback sender eventName msg.val event.data)
      rbusMessageRelease msg
  | none => rbusMessageRelease msg

/-- `master_event_callback`. -/
def masterEventCallback (hdr : RtMessageHeader) (data : W) : CoreM M W Unit :=
  let sender := hdr.replyTopic
  if maxObjectNameLength ≤ sender.strlen then pure ()
  else do
    let msg : MessageRef M ← newMessage (MessageApi.fromBytes data)
    let eventName := MessageApi.getString (MessageApi.beginMetaSectionRead msg.val)
    -- the results of the string getters are overwritten by the last one's
    let objectName := MessageApi.getString eventName.2
    let flag := MessageApi.getInt32 objectName.2
    let msg := { msg with val := MessageApi.endMetaSectionRead flag.2 }
    match flag.1 with
    | none => rbusMessageRelease msg
    | some isRbusFlag => do
        let w ← Program.getState
        match if isRbusFlag ≠ 0 then w.gMasterEventCallback else none with
        | some callback => do
            let err : RbusError ←
              call (.eventCallback callback sender eventName.1 msg.val w.gMasterEventUserData)
            if err ≠ .eventNotHandled then rbusMessageRelease msg
            else dispatchClientEvent sender eventName.1 msg
        | none => dispatchClientEvent sender eventName.1 msg

end Events

end RbusCore
