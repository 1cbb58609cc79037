import RbusCore.Lib.Resumption
import RbusCore.MessageApi

/-!
# The state of a process

The records and global variables of `rbus_core.c`, the calls the library makes to
the transport, the file system and the application, and the history of a process.
The history is not part of the program: it records what the library does so that
whole runs can be spoken about.  Log output is left out.

Records live in the vectors that own them.  A record that is referred to from
elsewhere has an address, and using an address whose record is gone is a fault.
-/

namespace RbusCore

open CStrings Resumption

/-- Addresses of records, and opaque user data. -/
abbrev Ptr : Type := Nat

/-- `rtVector`: never created, created, or destroyed while still referred to. -/
inductive RtVector (α : Type) where
  | null
  | live (items : List α)
  | destroyed

namespace RtVector

variable {α : Type}

/-- What is stored. -/
def items : RtVector α → List α
  | .live items => items
  | .null | .destroyed => []

/-- Change what is stored: only a created vector stores something. -/
def update (f : List α → List α) : RtVector α → RtVector α
  | .live items => .live (f items)
  | .null => .null
  | .destroyed => .destroyed

/-- `rtVector_Destroy`: the variable keeps the address. -/
def destroy : RtVector α → RtVector α
  | .live _ => .destroyed
  | .null => .null
  | .destroyed => .destroyed

@[simp] theorem items_live (l : List α) : (live l).items = l := rfl
@[simp] theorem items_null : (null : RtVector α).items = [] := rfl
@[simp] theorem items_destroyed : (destroyed : RtVector α).items = [] := rfl
@[simp] theorem update_live (f : List α → List α) (l : List α) :
    (live l).update f = live (f l) := rfl
@[simp] theorem destroy_live (l : List α) : (live l).destroy = .destroyed := rfl

end RtVector

/-- `rbus_callback_t` as it stands in a method table. -/
inductive MethodCallback where
  | subscriptionHandler
  | app (id : Nat)
deriving DecidableEq

/-- `struct _server_method`. -/
structure ServerMethod where
  name : BoundedName maxMethodNameLength
  callback : MethodCallback
  data : Ptr
deriving DecidableEq

/-- `struct _server_event`. -/
structure ServerEvent where
  name : BoundedName maxEventNameLength
  object : Ptr
  listeners : List CString
  subCallback : Option Nat
  subData : Ptr
deriving DecidableEq

/-- `struct _server_object`. -/
structure ServerObject where
  ptr : Ptr
  name : BoundedName maxObjectNameLength
  data : Ptr
  callback : Nat
  processEventSubscriptions : Bool
  methods : List ServerMethod
  subscriptions : List ServerEvent
  subscribeHandlerOverride : Option Nat
  subscribeHandlerData : Ptr
deriving DecidableEq

/-- `struct _client_event`. -/
structure ClientEvent where
  name : BoundedName maxEventNameLength
  callback : Nat
  data : Ptr
deriving DecidableEq

/-- `struct _client_subscription`. -/
structure ClientSubscription where
  ptr : Ptr
  object : BoundedName maxObjectNameLength
  events : List ClientEvent
deriving DecidableEq

/-- A reference to a message.  The functions that change a message return the
reference with the new contents. -/
structure MessageRef (M : Type) where
  ptr : Ptr
  val : M
deriving DecidableEq

/-- `struct _queued_request`. -/
structure QueuedRequest (M : Type) where
  ptr : Ptr
  hdr : RtMessageHeader
  msg : MessageRef M
  obj : Ptr

/-- The callbacks the library installs as listeners, with their closure. -/
inductive ListenerCallback where
  | onMessage (closure : Ptr)
  | rtroutedAdvisoryCallback
deriving DecidableEq

/-- `rtConnection`: the part of the transport's state the library relies on.  The return
address is a topic, and shorter than topics may be. -/
structure Connection where
  ptr : Ptr
  returnAddress : BoundedName maxObjectNameLength
  defaultListener : Bool
  listeners : List (CString × ListenerCallback)
deriving DecidableEq

/-- The requests of the discovery functions. -/
inductive Discovery where
  | wildcardDestinations (expression : CString)
  | objectElements (object : CString)
  | elementObjects (count : Int) (elements : List CString)
  | registeredComponents

/-- The fields of a discovery reply: `none` where reading fails. -/
structure DiscoveryReply where
  result : Option Int
  count : Option Int
  arrayLength : Option Int
  items : Int → Option CString

/-- What a method callback returns and stores through its `response` argument. -/
structure HandlerResult (M : Type) where
  ret : RbusError
  response : Option M

/-- Calls out of the library.  The connection argument is `g_connection`, possibly
NULL.  A string that a getter handed out is NULL or the memory it points to. -/
inductive Call (M W : Type) where
  | connectionCreate (applicationName routerConfig : CString)
  | connectionDestroy (con : Option Ptr)
  | addListener (con : Option Ptr) (expression : CString) (callback : ListenerCallback)
  | removeListener (con : Option Ptr) (expression : CString)
  | addAlias (con : Option Ptr) (existing element : CString)
  | removeAlias (con : Option Ptr) (existing element : CString)
  | addDefaultListener (con : Option Ptr)
  | sendBinaryRequest (con : Option Ptr) (data : W) (topic : CString) (timeout : Int)
  | sendBinaryDirect (con : Option Ptr) (data : W) (topic replyTopic : CString)
  | sendBinaryResponse (con : Option Ptr) (hdr : RtMessageHeader) (data : W) (timeout : Int)
  | sendRequest (con : Option Ptr) (request : Discovery) (timeout : Int)
  | readRouterConfig
  | accessDisableFile
  | tryMalloc (size : Int)
  | strndup (value : CString)
  | methodCallback (id : Nat) (topic : CString) (method : Option (List UInt8)) (msg : M)
      (data : Ptr) (hdr : RtMessageHeader)
  | subscribeCallback (id : Nat) (object event listener : CString) (added : Bool)
      (payload : Option M) (data : Ptr)
  | eventCallback (id : Nat) (sender : CString) (event : Option (List UInt8)) (msg : M)
      (data : Ptr)
  | clientDisconnectCallback (id : Nat) (listener : CString)
  -- a loop that has used up its rounds: it does not go on
  | loop

/-- The answers to a call. -/
@[reducible] def Call.Answer {M W : Type} : Call M W → Type
  | .connectionCreate .. => Except RtError (BoundedName maxObjectNameLength)
  | .connectionDestroy .. | .addListener .. | .removeListener .. | .addAlias ..
  | .removeAlias .. | .addDefaultListener .. | .sendBinaryDirect ..
  | .sendBinaryResponse .. => RtError
  | .sendBinaryRequest .. => Except RtError W
  | .sendRequest .. => Except RtError DiscoveryReply
  | .readRouterConfig => Option (List UInt8)
  | .accessDisableFile => Bool
  | .tryMalloc .. => Bool
  | .strndup .. => Bool
  | .methodCallback .. => HandlerResult M
  | .subscribeCallback .. => RbusError
  | .eventCallback .. => RbusError
  | .clientDisconnectCallback .. => Unit
  | .loop => Empty

/-- Calls that wait for another party or run application code.  During the others
nothing else happens in the process. -/
def Call.blocking {M W : Type} : Call M W → Bool
  | .sendBinaryRequest .. | .sendRequest .. | .methodCallback .. | .subscribeCallback ..
  | .eventCallback .. | .clientDisconnectCallback .. => true
  | _ => false

/-- Ways to leave defined behaviour.  The use of a vector that has not been created is
recorded among them, though such a vector is like an empty one. -/
inductive Fault where
  | nullPointer
  | uninitialized
  | noVector
  | vector
  | object
  | subscription
  | index
  | message
  | packer
  | string
  | overflow
deriving DecidableEq

/-- What the history of a process records.  `owned` is the state of the mutex just
before, `depth` the value of `stack_counter` on arrival. -/
inductive Event (M W : Type) where
  | lock (owned : Bool)
  | unlock (owned : Bool)
  | write (owned : Bool)
  | deliver (depth : Nat) (hdr : RtMessageHeader) (msg : M) (obj : Ptr)
  | dispatch (hdr : RtMessageHeader) (msg : M) (obj : Ptr)
  | dispatched
  | call (e : Call M W)
  | fault (f : Fault)

/-- The global variables of the library, the part of the transport and of the heap
it relies on, and the history.  `rtmsgAdvisoryTopic` is a constant of the transport. -/
structure World (M W : Type) where
  rtmsgAdvisoryTopic : CString
  gDaemonAddress : CString
  gConnection : Option Connection
  gServerObjects : RtVector ServerObject
  mutexOwned : Bool
  gMutexInit : Bool
  gRunEventClientDispatch : Bool
  gEventSubscriptionsForClient : RtVector ClientSubscription
  gQueuedRequests : RtVector (QueuedRequest M)
  gAdvisoryListenerInstalled : Bool
  gClientDisconnectCallback : Option Nat
  gMasterEventCallback : Option Nat
  gMasterEventUserData : Ptr
  stackCounter : Nat
  nextPtr : Ptr
  refCount : Ptr → Nat
  log : List (Event M W)

/-- The process before it calls the library. -/
def World.initial {M W : Type} (daemonAddress advisoryTopic : CString) : World M W where
  rtmsgAdvisoryTopic := advisoryTopic
  gDaemonAddress := daemonAddress
  gConnection := none
  gServerObjects := .null
  mutexOwned := false
  gMutexInit := false
  gRunEventClientDispatch := false
  gEventSubscriptionsForClient := .null
  gQueuedRequests := .null
  gAdvisoryListenerInstalled := false
  gClientDisconnectCallback := none
  gMasterEventCallback := none
  gMasterEventUserData := 0
  stackCounter := 0
  nextPtr := 1
  refCount := fun _ => 0
  log := []

/-- Code of the library. -/
abbrev CoreM (M W : Type) (α : Type) : Type :=
  Program (Call.Answer (M := M) (W := W)) (World M W) α

section Primitives

variable {M W α : Type}

/-- Append to the history. -/
def record (e : Event M W) : CoreM M W Unit :=
  Program.modifyState fun w => { w with log := w.log ++ [e] }

/-- Behaviour the language leaves undefined. -/
def crash (f : Fault) : CoreM M W α := do
  record (.fault f)
  Program.undefined

/-- Call out of the library. -/
def call (e : Call M W) : CoreM M W e.Answer := do
  record (.call e)
  Program.perform e

/-- A pointer that is used without a test. -/
def deref (p : Option α) : CoreM M W α :=
  match p with
  | some a => pure a
  | none => crash .nullPointer

/-- `lock`, of an error-checking mutex: a relock by the owner has no effect. -/
def lock : CoreM M W Unit :=
  Program.modifyState fun w =>
    { w with mutexOwned := true, log := w.log ++ [.lock w.mutexOwned] }

/-- `unlock`: the owner's unlock frees the mutex at once. -/
def unlock : CoreM M W Unit :=
  Program.modifyState fun w =>
    { w with mutexOwned := false, log := w.log ++ [.unlock w.mutexOwned] }

/-- A fresh address. -/
def rtMalloc : CoreM M W Ptr := do
  let w ← Program.getState
  Program.modifyState fun w => { w with nextPtr := w.nextPtr + 1 }
  pure w.nextPtr

/-- `g_connection` as an argument. -/
def gConnectionPtr : CoreM M W (Option Ptr) := do
  let w ← Program.getState
  pure (w.gConnection.map Connection.ptr)

/-- Access to the contents of a vector. -/
def accessVector {β : Type} (v : RtVector β) : CoreM M W (List β) :=
  match v with
  | .live items => pure items
  | .null => do
      record (.fault .noVector)
      pure []
  | .destroyed => crash .vector

/-- The contents of `g_server_objects`. -/
def serverObjects : CoreM M W (List ServerObject) := do
  let w ← Program.getState
  accessVector w.gServerObjects

/-- Change `g_server_objects` or an object in it. -/
def updateServerObjects (f : List ServerObject → List ServerObject) : CoreM M W Unit :=
  Program.modifyState fun w =>
    { w with
      gServerObjects := w.gServerObjects.update f
      log := w.log ++ [.write w.mutexOwned] }

/-- Change the record at an address. -/
def updateAt {β : Type} (ptr : β → Ptr) (p : Ptr) (f : β → β) (xs : List β) : List β :=
  xs.map fun x => if ptr x = p then f x else x

/-- Change the object at an address. -/
def updateObject (p : Ptr) (f : ServerObject → ServerObject) : CoreM M W Unit :=
  updateServerObjects (updateAt ServerObject.ptr p f)

/-- The object at an address. -/
def derefObject (p : Ptr) : CoreM M W ServerObject := do
  let w ← Program.getState
  match w.gServerObjects.items.find? (fun o => o.ptr = p) with
  | some o => pure o
  | none => crash .object

/-- The contents of `g_event_subscriptions_for_client`. -/
def clientSubscriptions : CoreM M W (List ClientSubscription) := do
  let w ← Program.getState
  accessVector w.gEventSubscriptionsForClient

/-- Change `g_event_subscriptions_for_client` or an entry in it. -/
def updateClientSubscriptions
    (f : List ClientSubscription → List ClientSubscription) : CoreM M W Unit :=
  Program.modifyState fun w =>
    { w with
      gEventSubscriptionsForClient := w.gEventSubscriptionsForClient.update f
      log := w.log ++ [.write w.mutexOwned] }

/-- The subscription record at an address. -/
def derefSubscription (p : Ptr) : CoreM M W ClientSubscription := do
  let w ← Program.getState
  match w.gEventSubscriptionsForClient.items.find? (fun s => s.ptr = p) with
  | some s => pure s
  | none => crash .subscription

end Primitives

section Vectors

variable {M W α : Type}

/-- `rtVector_Find`. -/
def rtVectorFind (compare : α → CString → Int) (xs : List α) (key : CString) : Option α :=
  xs.find? fun x => compare x key = 0

/-- `rtVector_Find` with a key that a getter handed out, comparing names with it.
There is no result when a comparison leaves the memory of the key. -/
def findAt?
    (n : Nat) (name : α → CString) (key : List UInt8) : List α → Option (Option α)
  | [] => some none
  | x :: xs =>
      match strncmpMemory n (name x).chars key with
      | none => none
      | some r => if r = 0 then some (some x) else findAt? n name key xs

/-- `rtVector_Find` with a key that a getter handed out. -/
def rtVectorFindAt
    (n : Nat) (name : α → CString) (key : List UInt8) (xs : List α) : CoreM M W (Option α) :=
  match findAt? n name key xs with
  | some found => pure found
  | none => crash .string

/-- `rtVector_RemoveItem`, of the item that `rtVector_Find` has just returned. -/
def rtVectorRemoveFound
    (compare : α → CString → Int) (key : CString) (xs : List α) : List α :=
  xs.eraseP fun x => compare x key = 0

/-- A change through the pointer that `rtVector_Find` has just returned. -/
def rtVectorUpdateFound
    (compare : α → CString → Int) (key : CString) (f : α → α) : List α → List α
  | [] => []
  | x :: xs =>
      if compare x key = 0 then f x :: xs
      else x :: rtVectorUpdateFound compare key f xs

/-- `rtVector_Find` with a key that may be NULL: an empty vector is not searched. -/
def rtVectorFindDeref
    (compare : α → CString → Int) (xs : List α) (key : Option CString) :
    CoreM M W (Option α) :=
  match xs with
  | [] => pure none
  | x :: xs => do
      let key ← deref key
      pure (rtVectorFind compare (x :: xs) key)

/-- `rtVector_At`. -/
def rtVectorAt (xs : List α) (i : Nat) : CoreM M W α :=
  match xs[i]? with
  | some x => pure x
  | none => crash .index

/-- `strcpy` of a name into a record. -/
def strcpy (n : Nat) (s : CString) : CoreM M W (BoundedName n) :=
  match BoundedName.check? n s with
  | some name => pure name
  | none => crash .overflow

end Vectors

section Messages

variable {M W : Type}

/-- A message with one reference to it. -/
def newMessage (m : M) : CoreM M W (MessageRef M) := do
  let p ← rtMalloc
  Program.modifyState fun w => { w with refCount := Function.update w.refCount p 1 }
  pure ⟨p, m⟩

/-- Use of a message: it must not have been freed. -/
def derefMessage (m : MessageRef M) : CoreM M W M := do
  let w ← Program.getState
  if w.refCount m.ptr = 0 then crash .message else pure m.val

/-- `rbusMessage_Release`. -/
def rbusMessageRelease (m : MessageRef M) : CoreM M W Unit := do
  let w ← Program.getState
  if w.refCount m.ptr = 0 then crash .message
  else
    Program.modifyState fun w =>
      { w with refCount := Function.update w.refCount m.ptr (w.refCount m.ptr - 1) }

/-- The result of a setter. -/
def written (m : MessageRef M) (r : Option M) : CoreM M W (MessageRef M) :=
  match r with
  | some v => pure { m with val := v }
  | none => crash .packer

/-- The C string at a pointer that a getter handed out. -/
def stringAt (region : List UInt8) : CoreM M W CString :=
  match CString.ofMemory region with
  | some s => pure s
  | none => crash .string

/-- `strncmp` with the characters at a pointer that a getter handed out. -/
def strncmpAt (n : Nat) (s : CString) (region : List UInt8) : CoreM M W Int :=
  match strncmpMemory n s.chars region with
  | some r => pure r
  | none => crash .string

variable [MessageApi M W]

/-- `rbusMessage_SetString` through a reference. -/
def setStringRef (m : MessageRef M) (value : Option CString) : CoreM M W (MessageRef M) :=
  written m (MessageApi.setString m.val value)

/-- `rbusMessage_SetInt32` through a reference. -/
def setInt32Ref (m : MessageRef M) (value : Int) : CoreM M W (MessageRef M) :=
  written m (MessageApi.setInt32 m.val value)

/-- `rbusMessage_SetMessage` through a reference. -/
def setMessageRef (m item : MessageRef M) : CoreM M W (MessageRef M) :=
  written m (MessageApi.setMessage m.val item.val)

/-- `rbusMessage_BeginMetaSectionWrite` through a reference. -/
def beginMetaSectionWriteRef (m : MessageRef M) : MessageRef M :=
  { m with val := MessageApi.beginMetaSectionWrite m.val }

@[simp] theorem beginMetaSectionWriteRef_ptr
    (m : MessageRef M) :
    (beginMetaSectionWriteRef m).ptr = m.ptr := by
  rw [beginMetaSectionWriteRef]

/-- `rbusMessage_EndMetaSectionWrite` through a reference. -/
def endMetaSectionWriteRef (m : MessageRef M) : CoreM M W (MessageRef M) :=
  written m (MessageApi.endMetaSectionWrite m.val)

end Messages

section Transport

variable {M W : Type}

/-- Change the transport's record of the connection. -/
def updateConnection (f : Connection → Connection) : CoreM M W Unit :=
  Program.modifyState fun w => { w with gConnection := w.gConnection.map f }

/-- `rtConnection_AddListener`: a call that fails installs nothing. -/
def rtConnectionAddListener
    (expression : CString) (callback : ListenerCallback) : CoreM M W RtError := do
  let con ← gConnectionPtr
  let err : RtError ← call (.addListener con expression callback)
  if err = .rtOk then
    updateConnection fun c => { c with listeners := c.listeners ++ [(expression, callback)] }
    pure err
  else pure err

/-- `rtConnection_RemoveListener`: a call that fails removes nothing. -/
def rtConnectionRemoveListener (expression : CString) : CoreM M W RtError := do
  let con ← gConnectionPtr
  let err : RtError ← call (.removeListener con expression)
  if err = .rtOk then
    updateConnection fun c =>
      { c with listeners := c.listeners.filter fun l => l.1 ≠ expression }
    pure err
  else pure err

/-- `rtConnection_AddDefaultListener`: it installs one on the connection it is given. -/
def rtConnectionAddDefaultListener : CoreM M W Unit := do
  let con ← gConnectionPtr
  let _ ← call (.addDefaultListener con)
  updateConnection fun c => { c with defaultListener := true }

/-- `rtConnection_GetReturnAddress`. -/
def rtConnectionGetReturnAddress : CoreM M W CString := do
  let w ← Program.getState
  match w.gConnection with
  | some c => pure c.returnAddress.val
  | none => crash .nullPointer

end Transport

section Rules

variable {M W α : Type}
variable {C : Contract (Call.Answer (M := M) (W := W)) (World M W)}
variable {w : World M W}

@[simp] theorem sat_record
    (e : Event M W)
    (Q : Unit → World M W → Prop) :
    Program.Sat C (record e) Q w ↔ Q () { w with log := w.log ++ [e] } :=
  Iff.rfl

@[simp] theorem sat_crash
    (f : Fault)
    (Q : α → World M W → Prop) :
    Program.Sat C (crash f) Q w ↔ C.atUndef { w with log := w.log ++ [.fault f] } :=
  Iff.rfl

@[simp] theorem sat_call
    (e : Call M W)
    (Q : e.Answer → World M W → Prop) :
    Program.Sat (α := no_index e.Answer) C (call e) Q w ↔
      C.atCall e { w with log := w.log ++ [.call e] } ∧
        ∀ a w', C.env e { w with log := w.log ++ [.call e] } a w' → Q a w' :=
  Iff.rfl

@[simp] theorem sat_deref_some
    (a : α)
    (Q : α → World M W → Prop) :
    Program.Sat C (deref (some a)) Q w ↔ Q a w :=
  Iff.rfl

@[simp] theorem sat_lock
    (Q : Unit → World M W → Prop) :
    Program.Sat C lock Q w ↔
      Q () { w with mutexOwned := true, log := w.log ++ [.lock w.mutexOwned] } :=
  Iff.rfl

@[simp] theorem sat_unlock
    (Q : Unit → World M W → Prop) :
    Program.Sat C unlock Q w ↔
      Q () { w with mutexOwned := false, log := w.log ++ [.unlock w.mutexOwned] } :=
  Iff.rfl

@[simp] theorem sat_rtMalloc
    (Q : Ptr → World M W → Prop) :
    Program.Sat C rtMalloc Q w ↔ Q w.nextPtr { w with nextPtr := w.nextPtr + 1 } :=
  Iff.rfl

@[simp] theorem sat_gConnectionPtr
    (Q : Option Ptr → World M W → Prop) :
    Program.Sat C gConnectionPtr Q w ↔ Q (w.gConnection.map Connection.ptr) w :=
  Iff.rfl

@[simp] theorem sat_updateServerObjects
    (f : List ServerObject → List ServerObject)
    (Q : Unit → World M W → Prop) :
    Program.Sat C (updateServerObjects f) Q w ↔
      Q () { w with
        gServerObjects := w.gServerObjects.update f
        log := w.log ++ [.write w.mutexOwned] } :=
  Iff.rfl

@[simp] theorem sat_updateClientSubscriptions
    (f : List ClientSubscription → List ClientSubscription)
    (Q : Unit → World M W → Prop) :
    Program.Sat C (updateClientSubscriptions f) Q w ↔
      Q () { w with
        gEventSubscriptionsForClient := w.gEventSubscriptionsForClient.update f
        log := w.log ++ [.write w.mutexOwned] } :=
  Iff.rfl

@[simp] theorem sat_newMessage
    (m : M)
    (Q : MessageRef M → World M W → Prop) :
    Program.Sat C (newMessage m) Q w ↔
      Q ⟨w.nextPtr, m⟩ { w with
        nextPtr := w.nextPtr + 1
        refCount := Function.update w.refCount w.nextPtr 1 } :=
  Iff.rfl

@[simp] theorem sat_updateConnection
    (f : Connection → Connection)
    (Q : Unit → World M W → Prop) :
    Program.Sat C (updateConnection f) Q w ↔
      Q () { w with gConnection := w.gConnection.map f } :=
  Iff.rfl

theorem derefObject_of_find
    {p : Ptr} {o : ServerObject}
    (h : w.gServerObjects.items.find? (fun o => o.ptr = p) = some o) :
    derefObject p w = .done o w := by
  simp only [derefObject, bind, Program.getState, Prog.bind, h]
  rfl

theorem rbusMessageRelease_of_live
    {m : MessageRef M}
    (h : w.refCount m.ptr ≠ 0) :
    rbusMessageRelease (W := W) m w =
      .done () { w with
        refCount := Function.update w.refCount m.ptr (w.refCount m.ptr - 1) } := by
  simp only [rbusMessageRelease]
  exact congrFun (if_neg h) w

end Rules

section Samples

/-- The object that examples are about. -/
def sampleObjectName : BoundedName maxObjectNameLength := ⟨.ofChars ['o'], by decide⟩

/-- The element that examples are about: an event used as an object. -/
def sampleElementName : BoundedName maxObjectNameLength := ⟨.ofChars ['e'], by decide⟩

/-- The event that examples are about. -/
def sampleEventName : BoundedName maxEventNameLength := ⟨.ofChars ['e'], by decide⟩

/-- The inbox of a client in examples. -/
def sampleInbox : CString := .ofChars ['c']

/-- A new connection, for examples. -/
def sampleConnection (p : Ptr) : Connection where
  ptr := p
  returnAddress := ⟨.empty, by decide⟩
  defaultListener := false
  listeners := []

end Samples

end RbusCore
