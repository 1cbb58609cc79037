import RbusCore.Publish

/-!
# The connection

Opening and closing the broker connection, with the creation and the destruction of the
tables, the address of the router, the switch that disables the bus, and the detection of
clients that disconnect.
-/

namespace RbusCore

open CStrings Resumption

section Tables

variable {M W : Type} [MessageApi M W]

/-- `perform_init`: `g_queued_requests` is not among the vectors it creates. -/
def performInit : CoreM M W Unit :=
  Program.modifyState fun w =>
    { w with
      gServerObjects := .live []
      gEventSubscriptionsForClient := .live []
      log := w.log ++ [.write w.mutexOwned] }

/-- `rtVector_Destroy` of `g_server_objects`. -/
def destroyServerObjects : CoreM M W Unit := do
  let _ ← serverObjects
  Program.modifyState fun w =>
    { w with
      gServerObjects := w.gServerObjects.destroy
      log := w.log ++ [.write w.mutexOwned] }

/-- `rtVector_Destroy` of `g_event_subscriptions_for_client`. -/
def destroyClientSubscriptions : CoreM M W Unit := do
  let _ ← clientSubscriptions
  Program.modifyState fun w =>
    { w with
      gEventSubscriptionsForClient := w.gEventSubscriptionsForClient.destroy
      log := w.log ++ [.write w.mutexOwned] }

/-- The inner body of the loops in `perform_cleanup`: cancel the event at an index of the
record at `sub`. -/
def cancelEvent (sub : Ptr) (i2 : Nat) : CoreM M W Unit := do
  let sub ← derefSubscription sub
  let event ← rtVectorAt sub.events i2
  let _ ← sendSubscriptionRequest sub.object.val event.name.val false none 0
  pure ()

/-- The outer body of the loops in `perform_cleanup`. -/
def cancelSubscription (i : Nat) : CoreM M W Unit := do
  let subs ← clientSubscriptions
  let sub ← rtVectorAt subs i
  Program.forLoop (cancelEvent sub.ptr) 0 sub.events.length

/-- The part of `perform_cleanup` that cancels what is in the table: the mutex is released
for it. -/
def cancelSubscriptions : CoreM M W Unit := do
  let subs ← clientSubscriptions
  if 0 < subs.length then do
    unlock
    Program.forLoop cancelSubscription 0 subs.length
    lock
  else pure ()

/-- `perform_cleanup`, with the mutex taken. -/
def cleanupLocked : CoreM M W Unit := do
  destroyServerObjects
  cancelSubscriptions
  destroyClientSubscriptions
  unlock

/-- `perform_cleanup`. -/
def performCleanup : CoreM M W Unit := do
  lock
  cleanupLocked

end Tables

section Router

/-- `isspace`, in the C locale. -/
def isspace (c : UInt8) : Bool :=
  c = 32 || (9 ≤ c && c ≤ 13)

/-- `fgets` with room for `size` bytes: at most `size - 1` characters, up to and including
a newline.  There is no line at the end of the file. -/
def fgets (size : Nat) (file : List UInt8) : Option (List UInt8 × List UInt8) :=
  let window := file.take (size - 1)
  let line := window.takeWhile (· ≠ 10)
  let taken := if line.length < window.length then line.length + 1 else line.length
  if file = [] then none else some (file.take taken, file.drop taken)

/-- The C string in the buffer after `fgets`. -/
def bufferString (line : List UInt8) : List UInt8 :=
  line.takeWhile (· ≠ 0)

/-- The first word of a line: what is behind leading space, up to the next space. -/
def firstWord (line : List UInt8) : List UInt8 :=
  ((bufferString line).dropWhile (fun c => isspace c)).takeWhile fun c => !isspace c

/-- The lines of the file, up to the first with a word in it. -/
def routerWord : Nat → List UInt8 → Option (List UInt8)
  | 0, _ => none
  | lines + 1, file =>
      match fgets maxDaemonAddressLen file with
      | none => none
      | some (line, rest) =>
          if firstWord line = [] then routerWord lines rest else some (firstWord line)

theorem firstWord_noNul
    (line : List UInt8) :
    ∀ c ∈ firstWord line, c ≠ 0 := by
  intro c hc
  have hbuffer : c ∈ bufferString line :=
    (List.dropWhile_sublist _).subset ((List.takeWhile_sublist _).subset hc)
  simpa using List.mem_takeWhile_imp hbuffer

theorem routerWord_noNul
    {lines : Nat} {file word : List UInt8}
    (h : routerWord lines file = some word) :
    ∀ c ∈ word, c ≠ 0 := by
  induction lines generalizing file with
  | zero =>
      cases h
  | succ lines ih =>
      unfold routerWord at h
      split at h
      case h_1 =>
        cases h
      case h_2 line rest _ =>
        split at h
        case isTrue =>
          exact ih h
        case isFalse =>
          cases h
          exact firstWord_noNul line

/-- The address `configure_router_address` finds in a file: every line takes at least one
byte, so as many lines as bytes reach the end. -/
def routerAddress (file : List UInt8) : Option CString :=
  match h : routerWord (file.length + 1) file with
  | some word => some ⟨word, routerWord_noNul h⟩
  | none => none

variable {M W : Type}

/-- `configure_router_address`. -/
def configureRouterAddress : CoreM M W Unit := do
  let file : Option (List UInt8) ← call .readRouterConfig
  match file.bind routerAddress with
  | some address => Program.modifyState fun w => { w with gDaemonAddress := address }
  | none => pure ()

end Router

section Open

variable {M W : Type} [MessageApi M W]

/-- `rbuscore_checkBusStatus`, in a build without `RBUS_ALWAYS_ON`. -/
def rbuscoreCheckBusStatus : CoreM M W RbuscoreBusStatus := do
  let present : Bool ← call .accessDisableFile
  if present then pure .disabled else pure .enabled

/-- The prefix of application names. -/
def applicationPrefix : CString := .ofChars ['r', 'b', 'u', 's', '.']

/-- `"rbus."` in front of a component name. -/
def applicationName (componentName : CString) : CString :=
  ⟨applicationPrefix.chars ++ componentName.chars, by
    intro c hc
    rcases List.mem_append.mp hc with h | h
    · exact applicationPrefix.noNul c h
    · exact componentName.noNul c h⟩

/-- `rtConnection_Create`: a new connection has no listeners. -/
def rtConnectionCreate (applicationName routerConfig : CString) : CoreM M W RtError := do
  let result : Except RtError (BoundedName maxObjectNameLength) ←
    call (.connectionCreate applicationName routerConfig)
  match result with
  | .ok returnAddress => do
      let p ← rtMalloc
      Program.modifyState fun w =>
        { w with
          gConnection := some
            { ptr := p, returnAddress := returnAddress, defaultListener := false
              listeners := [] } }
      pure .rtOk
  | .error err => pure err

/-- `pthread_mutex_init`, once. -/
def initMutex : CoreM M W Unit := do
  let w ← Program.getState
  if w.gMutexInit = false then
    Program.modifyState fun w => { w with gMutexInit := true, mutexOwned := false }
  else pure ()

/-- The address to connect to. -/
def routerConfig (brokerAddress : Option CString) : CoreM M W CString :=
  match brokerAddress with
  | some address => pure address
  | none => do
      configureRouterAddress
      let w ← Program.getState
      pure w.gDaemonAddress

/-- `rbus_openBrokerConnection2`, where there is no connection yet. -/
def openNewConnection (componentName : CString) (brokerAddress : Option CString) :
    CoreM M W RbusError := do
  let address ← routerConfig brokerAddress
  -- the length is an `int`, and ten bytes are added to it
  if 2147483647 < componentName.strlen + 10 then crash .overflow
  else do
    performInit
    let result ← rtConnectionCreate (applicationName componentName) address
    if result ≠ .rtOk then do
      Program.modifyState fun w => { w with gConnection := none }
      performCleanup
      unlock
      pure .errorGeneral
    else do
      unlock
      pure .success

/-- `rbus_openBrokerConnection2`. -/
def rbusOpenBrokerConnection2 (componentName brokerAddress : Option CString) :
    CoreM M W RbusError :=
  match componentName with
  | none => pure .errorInvalidParam
  | some componentName => do
      initMutex
      lock
      let w ← Program.getState
      if w.gConnection.isSome then do
        unlock
        pure .success
      else openNewConnection componentName brokerAddress

/-- `rbus_openBrokerConnection`: the status is compared with the function that computes it,
which is never equal to it. -/
def rbusOpenBrokerConnection (componentName : Option CString) : CoreM M W RbusError :=
  rbusOpenBrokerConnection2 componentName none

/-- `rbus_closeBrokerConnection`. -/
def rbusCloseBrokerConnection : CoreM M W RbusError := do
  lock
  let w ← Program.getState
  if w.gConnection.isNone then pure .errorInvalidState
  else do
    performCleanup
    let con ← gConnectionPtr
    let err : RtError ← call (.connectionDestroy con)
    if err ≠ .rtOk then pure .errorGeneral
    else do
      Program.modifyState fun w => { w with gConnection := none }
      unlock
      Program.modifyState fun w => { w with gMutexInit := false }
      pure .success

/-- `rbus_getConnection`. -/
def rbusGetConnection : CoreM M W (Option Ptr) := gConnectionPtr

end Open

section Disconnect

variable {M W : Type}

/-- `rbus_registerClientDisconnectHandler`. -/
def rbusRegisterClientDisconnectHandler (callback : Option Nat) : CoreM M W RbusError := do
  lock
  let w ← Program.getState
  if w.gAdvisoryListenerInstalled then do
    unlock
    pure .success
  else do
    let err ← rtConnectionAddListener w.rtmsgAdvisoryTopic .rtroutedAdvisoryCallback
    if err = .rtOk then do
      Program.modifyState fun w =>
        { w with gAdvisoryListenerInstalled := true, gClientDisconnectCallback := callback }
      unlock
      pure .success
    else do
      unlock
      pure .errorGeneral

/-- Remove the advisory listener. -/
def removeAdvisoryListener : CoreM M W Unit := do
  let w ← Program.getState
  if w.gAdvisoryListenerInstalled then do
    let _ ← rtConnectionRemoveListener w.rtmsgAdvisoryTopic
    Program.modifyState fun w => { w with gAdvisoryListenerInstalled := false }
  else pure ()

/-- `rbus_unregisterClientDisconnectHandler`. -/
def rbusUnregisterClientDisconnectHandler : CoreM M W RbusError := do
  lock
  removeAdvisoryListener
  unlock
  pure .success

/-- An advisory message of the router, as far as it can be read. -/
inductive Advisory where
  | clientDisconnect (inbox : Option CString)
  | otherEvent
  | malformed

/-- `rtrouted_advisory_callback`. -/
def rtroutedAdvisoryCallback (msg : Advisory) : CoreM M W Unit := do
  let w ← Program.getState
  match w.gClientDisconnectCallback with
  | none => pure ()
  | some callback =>
      match msg with
      | .clientDisconnect (some listener) => do
          let _ ← call (.clientDisconnectCallback callback listener)
          pure ()
      | .clientDisconnect none | .otherEvent | .malformed => pure ()

end Disconnect

end RbusCore
