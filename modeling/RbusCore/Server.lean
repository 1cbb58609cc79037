import RbusCore.Lib.KeyedList
import RbusCore.World

/-!
# The server side

Objects, their methods and their events, and the functions that register and
unregister them.

**Results.**
* `serverObjectCompare_eq_zero_iff` and its siblings: every comparison of a stored name
  with a key decides equality, whatever the length of the key.
* `rtVectorFind_eq_lookup` and its siblings: such comparisons make a vector a list of
  records with a key.
-/

namespace RbusCore

open CStrings Resumption

section Compare

/-- A stored name against a key, under the bound of the name. -/
def compareName {n : Nat} (name : BoundedName n) (key : CString) : Int :=
  strncmp n name.val.chars key.chars

/-- `server_method_compare`. -/
def serverMethodCompare (m : ServerMethod) (key : CString) : Int :=
  compareName m.name key

/-- `server_event_compare`. -/
def serverEventCompare (e : ServerEvent) (key : CString) : Int :=
  compareName e.name key

/-- `server_object_compare`. -/
def serverObjectCompare (o : ServerObject) (key : CString) : Int :=
  compareName o.name key

theorem compareName_eq_zero_iff
    {n : Nat}
    (name : BoundedName n)
    (key : CString) :
    compareName name key = 0 ↔ name.val = key :=
  name.strncmp_eq_zero_iff key

@[simp] theorem serverMethodCompare_eq_zero_iff
    (m : ServerMethod)
    (key : CString) :
    serverMethodCompare m key = 0 ↔ m.name.val = key :=
  compareName_eq_zero_iff m.name key

@[simp] theorem serverEventCompare_eq_zero_iff
    (e : ServerEvent)
    (key : CString) :
    serverEventCompare e key = 0 ↔ e.name.val = key :=
  compareName_eq_zero_iff e.name key

@[simp] theorem serverObjectCompare_eq_zero_iff
    (o : ServerObject)
    (key : CString) :
    serverObjectCompare o key = 0 ↔ o.name.val = key :=
  compareName_eq_zero_iff o.name key

variable {α : Type} {compare : α → CString → Int} {name : α → CString}

theorem rtVectorFind_eq_lookup
    (hcompare : ∀ x key, compare x key = 0 ↔ name x = key)
    (xs : List α)
    (key : CString) :
    rtVectorFind compare xs key = KeyedList.lookup name key xs := by
  simp only [rtVectorFind, KeyedList.lookup, hcompare]

theorem rtVectorRemoveFound_eq_erase
    (hcompare : ∀ x key, compare x key = 0 ↔ name x = key)
    (key : CString)
    (xs : List α) :
    rtVectorRemoveFound compare key xs = KeyedList.erase name key xs := by
  simp only [rtVectorRemoveFound, KeyedList.erase, hcompare]

/-- A change to the record that is found first, where it is the only one. -/
theorem rtVectorUpdateFound_eq_modify
    (hcompare : ∀ x key, compare x key = 0 ↔ name x = key)
    {xs : List α}
    (hxs : KeyedList.Distinct name xs)
    (key : CString)
    (f : α → α) :
    rtVectorUpdateFound compare key f xs = KeyedList.modify name key f xs := by
  induction xs with
  | nil =>
      rfl
  | cons x xs ih =>
      obtain ⟨hx, hxs⟩ := KeyedList.distinct_cons.mp hxs
      by_cases hkey : name x = key
      · have hrest : KeyedList.modify name key f xs = xs :=
          KeyedList.modify_eq_self fun y hy hy' =>
            absurd (hy'.trans hkey.symm) (KeyedList.lookup_eq_none_iff.mp hx y hy)
        have hcons : KeyedList.modify name key f (x :: xs) =
            f x :: KeyedList.modify name key f xs := by
          simp [KeyedList.modify, hkey]
        rw [rtVectorUpdateFound, if_pos ((hcompare x key).mpr hkey), hcons, hrest]
      · have hcons : KeyedList.modify name key f (x :: xs) =
            x :: KeyedList.modify name key f xs := by
          simp [KeyedList.modify, hkey]
        rw [rtVectorUpdateFound, if_neg (fun h => hkey ((hcompare x key).mp h)), hcons, ih hxs]

/-- A lookup with a terminated key finds the entry with that very name. -/
theorem findAt?_of_ofMemory
    {n : Nat}
    (name : α → BoundedName n)
    {region : List UInt8} {s : CString}
    (h : CString.ofMemory region = some s)
    (xs : List α) :
    findAt? n (fun x => (name x).val) region xs = some (xs.find? fun x => (name x).val = s) := by
  induction xs with
  | nil =>
      rfl
  | cons x xs ih =>
      have horder := strncmpMemory_of_ofMemory n (s := (name x).val) h
      have hzero := BoundedName.strncmp_eq_zero_iff (name x) s
      rw [findAt?, horder]
      by_cases hname : (name x).val = s
      · rw [List.find?_cons_of_pos (by simpa using hname)]
        exact if_pos (hzero.mpr hname)
      · rw [List.find?_cons_of_neg (by simpa using hname), ← ih]
        exact if_neg (mt hzero.mp hname)

/-- A lookup finds an entry whose name is the string in the region. -/
theorem ofMemory_of_findAt?
    {n : Nat} {name : α → BoundedName n} {region : List UInt8}
    {xs : List α} {x : α}
    (h : findAt? n (fun x => (name x).val) region xs = some (some x)) :
    x ∈ xs ∧ CString.ofMemory region = some (name x).val := by
  induction xs with
  | nil =>
      cases h
  | cons y ys ih =>
      rw [findAt?] at h
      split at h
      case h_1 =>
        cases h
      case h_2 order horder =>
        split at h
        case isTrue hzero =>
          obtain rfl := Option.some.inj (Option.some.inj h)
          rw [hzero] at horder
          exact ⟨List.mem_cons_self, ofMemory_of_strncmpMemory (name y).property horder⟩
        case isFalse =>
          obtain ⟨hmem, hregion⟩ := ih h
          exact ⟨List.mem_cons_of_mem _ hmem, hregion⟩

end Compare

section Events

variable {M W : Type}

/-- A change to an event of the object at `object`. -/
def updateEvent
    (object : Ptr) (event : CString) (f : ServerEvent → ServerEvent) : CoreM M W Unit :=
  updateObject object fun o =>
    { o with subscriptions := rtVectorUpdateFound serverEventCompare event f o.subscriptions }

/-- The call of the event's `sub_callback`, if it has one. -/
def invokeSubCallback (event : ServerEvent) (listener : CString) (added : Bool) :
    CoreM M W Unit :=
  match event.subCallback with
  | some callback => do
      let object ← derefObject event.object
      let _ ← call (.subscribeCallback callback object.name.val event.name.val listener
        added none event.subData)
      pure ()
  | none => pure ()

/-- `server_event_addListener`. -/
def serverEventAddListener
    (event : ServerEvent) (listener : Option CString) : CoreM M W Unit :=
  match listener with
  | none => pure ()
  | some listener =>
      if listener ∉ event.listeners then do
        updateEvent event.object event.name.val fun e =>
          { e with listeners := e.listeners ++ [listener] }
        invokeSubCallback event listener true
      else pure ()

/-- `server_event_removeListener`. -/
def serverEventRemoveListener
    (event : ServerEvent) (listener : Option CString) : CoreM M W Unit :=
  match listener with
  | none => pure ()
  | some listener =>
      if listener ∈ event.listeners then do
        updateEvent event.object event.name.val fun e =>
          { e with listeners := e.listeners.erase listener }
        invokeSubCallback event listener false
      else pure ()

/-- Add or remove a listener. -/
def changeListener (event : ServerEvent) (listener : CString) (added : Bool) :
    CoreM M W Unit :=
  if added then serverEventAddListener event (some listener)
  else serverEventRemoveListener event (some listener)

/-- `server_object_subscription_handler`, from the lookup of the event on. -/
def notifyServerEvent
    (obj : Ptr) (event : CString) (subscriber : CString) (added : Bool) :
    CoreM M W RbusError := do
  let object ← derefObject obj
  match rtVectorFind serverEventCompare object.subscriptions event with
  | some serverEvent => do
      changeListener serverEvent subscriber added
      pure .success
  | none => pure .errorUnsupportedEvent

/-- `server_object_subscription_handler`. -/
def serverObjectSubscriptionHandler
    (obj : Ptr) (event subscriber : Option (List UInt8)) (added : Bool) (payload : Option M) :
    CoreM M W RbusError :=
  match event, subscriber with
  | some event, some subscriber => do
      let subscriber ← stringAt subscriber
      if maxSubscriberNameLength ≤ subscriber.strlen then pure .errorInvalidParam
      else do
        let event ← stringAt event
        if maxEventNameLength ≤ event.strlen then pure .errorInvalidParam
        else do
          let object ← derefObject obj
          match object.subscribeHandlerOverride with
          | some override => do
              let ret : RbusError ← call (.subscribeCallback override object.name.val event
                subscriber added payload object.subscribeHandlerData)
              if ret ≠ .subscribeNotHandled then pure ret
              else notifyServerEvent obj event subscriber added
          | none => notifyServerEvent obj event subscriber added
  | _, _ => pure .errorInvalidParam

end Events

section Objects

variable {M W : Type}

/-- `get_object`. -/
def getObject (objectName : Option CString) : CoreM M W (Option ServerObject) := do
  let objects ← serverObjects
  rtVectorFindDeref serverObjectCompare objects objectName

/-- `server_object_create`. -/
def serverObjectCreate
    (name : CString) (callback : Nat) (data : Ptr) : CoreM M W ServerObject := do
  let p ← rtMalloc
  let name ← strcpy maxObjectNameLength name
  pure
    { ptr := p
      name := name
      data := data
      callback := callback
      processEventSubscriptions := false
      methods := []
      subscriptions := []
      subscribeHandlerOverride := none
      subscribeHandlerData := 0 }

/-- The length test of an `int` length against the object name limit. -/
def objectNameLengthInvalid (name : CString) : Bool :=
  decide ((maxObjectNameLength : Int) ≤ toInt32 name.strlen) || decide (toInt32 name.strlen = 0)

/-- `rbus_registerObj`. -/
def rbusRegisterObj
    (objectName : Option CString) (handler : Nat) (userData : Ptr) :
    CoreM M W RbusError := do
  let w ← Program.getState
  if w.gConnection.isNone then pure .errorInvalidState
  else
    match objectName with
    | none => pure .errorInvalidParam
    | some objectName =>
        if objectNameLengthInvalid objectName then pure .errorInvalidParam
        else do
          lock
          let objects ← serverObjects
          let found := rtVectorFind serverObjectCompare objects objectName
          unlock
          if found.isSome then pure .errorInvalidParam
          else do
            let obj ← serverObjectCreate objectName handler userData
            let err ← rtConnectionAddListener objectName (.onMessage obj.ptr)
            if err = .rtOk then do
              lock
              let _ ← serverObjects
              updateServerObjects fun objects => objects ++ [obj]
              unlock
              pure .success
            else
              -- server_object_destroy: nothing refers to the object
              pure .errorGeneral

/-- `rbus_registerMethod`, with the mutex taken. -/
def registerMethodLocked
    (objectName : Option CString) (name : BoundedName maxMethodNameLength)
    (handler : MethodCallback) (userData : Ptr) : CoreM M W RbusError := do
  let obj ← getObject objectName
  match obj with
  | some obj =>
      if maxSupportedMethods ≤ obj.methods.length then do
        unlock
        pure .errorOutOfResources
      else if (rtVectorFind serverMethodCompare obj.methods name.val).isSome then do
        unlock
        pure .errorInvalidParam
      else do
        updateObject obj.ptr fun o =>
          { o with
            methods := o.methods ++ [{ name := name, callback := handler, data := userData }] }
        unlock
        pure .success
  | none => do
      unlock
      pure .errorInvalidParam

/-- `rbus_registerMethod`. -/
def rbusRegisterMethod
    (objectName methodName : Option CString) (handler : MethodCallback) (userData : Ptr) :
    CoreM M W RbusError := do
  let methodName ← deref methodName
  match BoundedName.check? maxMethodNameLength methodName with
  | none => pure .errorInvalidParam
  | some name => do
      lock
      registerMethodLocked objectName name handler userData

/-- `rbus_unregisterMethod`. -/
def rbusUnregisterMethod (objectName methodName : Option CString) : CoreM M W RbusError := do
  lock
  let obj ← getObject objectName
  match obj with
  | some obj => do
      let method ← rtVectorFindDeref serverMethodCompare obj.methods methodName
      match method with
      | some method => do
          updateObject obj.ptr fun o =>
            { o with
              methods := rtVectorRemoveFound serverMethodCompare method.name.val o.methods }
          unlock
          pure .success
      | none => do
          unlock
          pure .errorGeneral
  | none => do
      unlock
      pure .errorInvalidParam

/-- `rbus_method_table_entry_t`. -/
structure RbusMethodTableEntry where
  method : Option CString
  userData : Ptr
  callback : MethodCallback

/-- `rbus_registerMethodTable`: the entries in order, up to the first failure. -/
def rbusRegisterMethodTable
    (objectName : Option CString) : List RbusMethodTableEntry → CoreM M W RbusError
  | [] => pure .success
  | entry :: table => do
      let ret ← rbusRegisterMethod objectName entry.method entry.callback entry.userData
      if ret ≠ .success then pure ret
      else rbusRegisterMethodTable objectName table

/-- `rbus_unregisterMethodTable`: the entries in order, up to the first failure. -/
def rbusUnregisterMethodTable
    (objectName : Option CString) : List RbusMethodTableEntry → CoreM M W RbusError
  | [] => pure .success
  | entry :: table => do
      let ret ← rbusUnregisterMethod objectName entry.method
      if ret ≠ .success then pure ret
      else rbusUnregisterMethodTable objectName table

/-- `rbus_unregisterObj`. -/
def rbusUnregisterObj (objectName : Option CString) : CoreM M W RbusError :=
  match objectName with
  | none => pure .errorInvalidParam
  | some objectName =>
      if objectName.strlen = 0 ∨ maxObjectNameLength ≤ objectName.strlen then
        pure .errorInvalidParam
      else do
        let err ← rtConnectionRemoveListener objectName
        if err ≠ .rtOk then pure .errorGeneral
        else do
          lock
          let obj ← getObject (some objectName)
          match obj with
          | some _ => do
              updateServerObjects (rtVectorRemoveFound serverObjectCompare objectName)
              unlock
              pure .success
          | none => do
              unlock
              pure .errorGeneral

end Objects

section Elements

variable {M W : Type}

/-- The tests `rbus_addElement` and `rbus_removeElement` make before they call the
transport with both names. -/
def withElement
    (objectName element : Option CString)
    (act : CString → CString → CoreM M W RbusError) : CoreM M W RbusError := do
  let w ← Program.getState
  if w.gConnection.isNone then pure .errorInvalidState
  else
    match objectName, element with
    | some objectName, some element =>
        if objectNameLengthInvalid objectName || objectNameLengthInvalid element then
          pure .errorInvalidParam
        else act objectName element
    | _, _ => pure .errorInvalidParam

/-- `rbus_addElement`. -/
def rbusAddElement (objectName element : Option CString) : CoreM M W RbusError :=
  withElement objectName element fun objectName element => do
    let con ← gConnectionPtr
    let err : RtError ← call (.addAlias con objectName element)
    if err = .rtOk then pure .success
    else if err = .rtErrorDuplicateEntry then pure .errorDuplicateEntry
    else pure .errorGeneral

/-- `rbus_addElementEvent`. -/
def rbusAddElementEvent (objectName event : Option CString) : CoreM M W RbusError :=
  rbusAddElement objectName event

/-- `rbus_removeElement`. -/
def rbusRemoveElement (object element : Option CString) : CoreM M W RbusError :=
  withElement object element fun object element => do
    let con ← gConnectionPtr
    let err : RtError ← call (.removeAlias con object element)
    if err = .rtOk then pure .success
    else pure .errorGeneral

end Elements

section EventRegistration

variable {M W : Type}

/-- `server_event_create`: the event is in no vector yet. -/
def serverEventCreate
    (name : BoundedName maxEventNameLength) (obj : Ptr) (subCallback : Option Nat)
    (subData : Ptr) : ServerEvent :=
  { name := name, object := obj, listeners := [], subCallback := subCallback
    subData := subData }

/-- `install_subscription_handlers`. -/
def installSubscriptionHandlers (object : Ptr) : CoreM M W RbusError := do
  let obj ← derefObject object
  match rtVectorFind serverMethodCompare obj.methods methodAddEventSubscription with
  | some _ => pure .success
  | none => do
      let ret ← rbusRegisterMethod (some obj.name.val) (some methodAddEventSubscription)
        .subscriptionHandler object
      if ret ≠ .success then pure ret
      else do
        let ret ← rbusRegisterMethod (some obj.name.val) (some methodRemoveEventSubscription)
          .subscriptionHandler object
        if ret ≠ .success then pure ret
        else do
          updateObject object fun o => { o with processEventSubscriptions := true }
          pure ret

/-- The last step of `rbus_registerEvent` and `rbus_registerSubscribeHandler` at an
object. -/
def ensureSubscriptionHandlers (object : Ptr) : CoreM M W RbusError := do
  let obj ← derefObject object
  if obj.processEventSubscriptions then pure .success
  else installSubscriptionHandlers object

/-- Enter an event at an object that does not have it yet. -/
def addServerEvent
    (obj : ServerObject) (name : BoundedName maxEventNameLength) (callback : Option Nat)
    (userData : Ptr) : CoreM M W Unit :=
  if (rtVectorFind serverEventCompare obj.subscriptions name.val).isSome then pure ()
  else
    updateObject obj.ptr fun o =>
      { o with
        subscriptions := o.subscriptions ++ [serverEventCreate name obj.ptr callback userData] }

/-- `rbus_registerEvent`. -/
def rbusRegisterEvent
    (objectName eventName : Option CString) (callback : Option Nat) (userData : Ptr) :
    CoreM M W RbusError := do
  let w ← Program.getState
  if w.gConnection.isNone then pure .errorInvalidState
  else if objectName.isNone then pure .errorInvalidParam
  else
    match BoundedName.check? maxEventNameLength (eventName.getD defaultEvent) with
    | none => pure .errorInvalidParam
    | some name => do
        lock
        let obj ← getObject objectName
        match obj with
        | some obj => do
            addServerEvent obj name callback userData
            let ret ← ensureSubscriptionHandlers obj.ptr
            unlock
            pure ret
        | none => do
            unlock
            pure .errorInvalidParam

/-- `rbus_unregisterEvent`. -/
def rbusUnregisterEvent (objectName eventName : Option CString) : CoreM M W RbusError := do
  let eventName := eventName.getD defaultEvent
  lock
  let obj ← getObject objectName
  match obj with
  | some obj =>
      match rtVectorFind serverEventCompare obj.subscriptions eventName with
      | some _ => do
          updateObject obj.ptr fun o =>
            { o with
              subscriptions := rtVectorRemoveFound serverEventCompare eventName o.subscriptions }
          unlock
          pure .success
      | none => do
          unlock
          pure .errorInvalidParam
  | none => do
      unlock
      pure .errorInvalidParam

/-- `rbus_registerSubscribeHandler`. -/
def rbusRegisterSubscribeHandler
    (objectName : Option CString) (callback : Option Nat) (userData : Ptr) :
    CoreM M W RbusError :=
  if objectName.isNone || callback.isNone then pure .errorInvalidParam
  else do
    lock
    let obj ← getObject objectName
    match obj with
    | some obj => do
        updateObject obj.ptr fun o =>
          { o with subscribeHandlerOverride := callback, subscribeHandlerData := userData }
        let ret ← ensureSubscriptionHandlers obj.ptr
        unlock
        pure ret
    | none => do
        unlock
        pure .errorInvalidParam

end EventRegistration

end RbusCore
