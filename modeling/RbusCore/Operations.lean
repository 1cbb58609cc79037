import RbusCore.Discovery

/-!
# The public operations

The operations of `rbus_core.h` as one type, and what those leave alone that are not about the
connection and the objects on it.

**Results.**
* `keeps_rbusRegisterMethod` and its siblings: the operations on records, with the mutex
  taken where records change (`Managing`).
* `keeps_subscribeChecked`: subscribing, up to how event dispatch is started and how a failed
  subscription is undone.
-/

namespace RbusCore

open CStrings Resumption

section Operations

/-- The public operations. -/
inductive PublicOp (M : Type) where
  | openBrokerConnection (componentName : Option CString)
  | openBrokerConnection2 (componentName brokerAddress : Option CString)
  | closeBrokerConnection
  | getConnection
  | registerObj (objectName : Option CString) (handler : Nat) (userData : Ptr)
  | unregisterObj (objectName : Option CString)
  | addElement (objectName element : Option CString)
  | removeElement (objectName element : Option CString)
  | registerMethod (objectName methodName : Option CString) (handler : MethodCallback)
      (userData : Ptr)
  | unregisterMethod (objectName methodName : Option CString)
  | registerMethodTable (objectName : Option CString) (table : List RbusMethodTableEntry)
  | unregisterMethodTable (objectName : Option CString) (table : List RbusMethodTableEntry)
  | invokeRemoteMethod (objectName method : Option CString) (out : Option (MessageRef M))
      (timeout : Int)
  | publishEvent (objectName eventName : Option CString) (out : MessageRef M)
  | publishSubscriberEvent (objectName eventName : Option CString) (listener : CString)
      (out : MessageRef M)
  | registerEvent (objectName eventName : Option CString) (callback : Option Nat)
      (userData : Ptr)
  | unregisterEvent (objectName eventName : Option CString)
  | addElementEvent (objectName event : Option CString)
  | subscribeToEvent (objectName eventName : Option CString) (callback : Option Nat)
      (payload : Option (MessageRef M)) (userData : Ptr)
  | subscribeToEventTimeout (objectName eventName : Option CString) (callback : Option Nat)
      (payload : Option (MessageRef M)) (userData : Ptr) (timeout : Int)
  | unsubscribeFromEvent (objectName eventName : Option CString)
      (payload : Option (MessageRef M))
  | registerSubscribeHandler (objectName : Option CString) (callback : Option Nat)
      (userData : Ptr)
  | registerMasterEventHandler (callback : Option Nat) (userData : Ptr)
  | registerClientDisconnectHandler (callback : Option Nat)
  | unregisterClientDisconnectHandler
  | pushObj (objectName : Option CString) (message : Option (MessageRef M)) (timeout : Int)
  | pushObjNoAck (objectName : Option CString) (message : Option (MessageRef M))
  | pullObj (objectName : Option CString) (timeout : Int)
  | discoverWildcardDestinations (expression : Option CString)
  | discoverObjectElements (object : Option CString)
  | discoverElementObjects (element : Option CString)
  | discoverElementsObjects (numElements : Int) (elements : Option (List CString))
  | discoverRegisteredComponents
  | checkBusStatus
  | sendResponse (hdr : RtMessageHeader) (response : Option (MessageRef M))

/-- The operations that only send and receive messages. -/
def PublicOp.handlesMessages {M : Type} : PublicOp M → Bool
  | .getConnection | .addElement .. | .removeElement .. | .addElementEvent ..
  | .invokeRemoteMethod .. | .pushObj .. | .pushObjNoAck .. | .pullObj ..
  | .discoverWildcardDestinations .. | .discoverObjectElements .. | .discoverElementObjects ..
  | .discoverElementsObjects .. | .discoverRegisteredComponents | .checkBusStatus
  | .sendResponse .. => true
  | _ => false

variable {M W : Type}

/-- A call whose result is dropped. -/
def ignoreResult {α : Type} (x : CoreM M W α) : CoreM M W Unit := do
  let _ ← x
  pure ()

/-- The functions of the library. -/
def PublicOp.run [MessageApi M W] : PublicOp M → CoreM M W Unit
  | .openBrokerConnection componentName => ignoreResult (rbusOpenBrokerConnection componentName)
  | .openBrokerConnection2 componentName brokerAddress =>
      ignoreResult (rbusOpenBrokerConnection2 componentName brokerAddress)
  | .closeBrokerConnection => ignoreResult rbusCloseBrokerConnection
  | .getConnection => ignoreResult rbusGetConnection
  | .registerObj objectName handler userData =>
      ignoreResult (rbusRegisterObj objectName handler userData)
  | .unregisterObj objectName => ignoreResult (rbusUnregisterObj objectName)
  | .addElement objectName element => ignoreResult (rbusAddElement objectName element)
  | .removeElement objectName element => ignoreResult (rbusRemoveElement objectName element)
  | .registerMethod objectName methodName handler userData =>
      ignoreResult (rbusRegisterMethod objectName methodName handler userData)
  | .unregisterMethod objectName methodName =>
      ignoreResult (rbusUnregisterMethod objectName methodName)
  | .registerMethodTable objectName table =>
      ignoreResult (rbusRegisterMethodTable objectName table)
  | .unregisterMethodTable objectName table =>
      ignoreResult (rbusUnregisterMethodTable objectName table)
  | .invokeRemoteMethod objectName method out timeout =>
      ignoreResult (rbusInvokeRemoteMethod objectName method out timeout)
  | .publishEvent objectName eventName out =>
      ignoreResult (rbusPublishEvent objectName eventName out)
  | .publishSubscriberEvent objectName eventName listener out =>
      ignoreResult (rbusPublishSubscriberEvent objectName eventName listener out)
  | .registerEvent objectName eventName callback userData =>
      ignoreResult (rbusRegisterEvent objectName eventName callback userData)
  | .unregisterEvent objectName eventName =>
      ignoreResult (rbusUnregisterEvent objectName eventName)
  | .addElementEvent objectName event => ignoreResult (rbusAddElementEvent objectName event)
  | .subscribeToEvent objectName eventName callback payload userData =>
      ignoreResult (rbusSubscribeToEvent objectName eventName callback payload userData)
  | .subscribeToEventTimeout objectName eventName callback payload userData timeout =>
      ignoreResult
        (rbusSubscribeToEventTimeout objectName eventName callback payload userData timeout)
  | .unsubscribeFromEvent objectName eventName payload =>
      ignoreResult (rbusUnsubscribeFromEvent objectName eventName payload)
  | .registerSubscribeHandler objectName callback userData =>
      ignoreResult (rbusRegisterSubscribeHandler objectName callback userData)
  | .registerMasterEventHandler callback userData =>
      ignoreResult (rbusRegisterMasterEventHandler callback userData)
  | .registerClientDisconnectHandler callback =>
      ignoreResult (rbusRegisterClientDisconnectHandler callback)
  | .unregisterClientDisconnectHandler => ignoreResult rbusUnregisterClientDisconnectHandler
  | .pushObj objectName message timeout => ignoreResult (rbusPushObj objectName message timeout)
  | .pushObjNoAck objectName message => ignoreResult (rbusPushObjNoAck objectName message)
  | .pullObj objectName timeout => ignoreResult (rbusPullObj objectName timeout)
  | .discoverWildcardDestinations expression =>
      ignoreResult (rbusDiscoverWildcardDestinations expression)
  | .discoverObjectElements object => ignoreResult (rbusDiscoverObjectElements object)
  | .discoverElementObjects element => ignoreResult (rbusDiscoverElementObjects element)
  | .discoverElementsObjects numElements elements =>
      ignoreResult (rbusDiscoverElementsObjects numElements elements)
  | .discoverRegisteredComponents => ignoreResult rbusDiscoverRegisteredComponents
  | .checkBusStatus => ignoreResult rbuscoreCheckBusStatus
  | .sendResponse hdr response => ignoreResult (rbusSendResponse hdr response)

end Operations

section Publishing

variable {M W : Type} [MessageApi M W]
variable {C : Contract (Call.Answer (M := M) (W := W)) (World M W)}
variable {P : World M W → Prop} (h : Calling C P)

include h

theorem keeps_rbusSendMessage
    (msg : MessageRef M) (destination sender : CString) :
    Program.Keeps C P (rbusSendMessage msg destination sender : CoreM M W RbusError) := by
  refine Program.keeps_bind Program.keeps_getState fun w => ?_
  refine Program.keeps_ite (Program.keeps_pure _) ?_
  refine Program.keeps_bind keeps_gConnectionPtr fun con => ?_
  exact Program.keeps_bind (keeps_call h rfl) fun _ => Program.keeps_pure _

theorem keeps_sendToListeners
    (out : MessageRef M) (objectName : CString) (listeners : List CString) :
    Program.Keeps C P (sendToListeners out objectName listeners : CoreM M W Unit) := by
  induction listeners with
  | nil =>
      exact Program.keeps_pure _
  | cons listener listeners ih =>
      exact Program.keeps_bind (keeps_rbusSendMessage h _ _ _) fun _ => ih

theorem keeps_setEventMetaSection
    (out : MessageRef M) (eventName objectName : CString) (flag : Int) :
    Program.Keeps C P
      (setEventMetaSection out eventName objectName flag : CoreM M W (MessageRef M)) := by
  rw [setEventMetaSection_eq]
  exact keeps_written h _ _

end Publishing

section Messaging

variable {M W : Type}
variable {C : Contract (Call.Answer (M := M) (W := W)) (World M W)}
variable {P : World M W → Prop} (h : Steady C P)

omit h in
theorem keeps_ignoreResult
    {α : Type} {x : CoreM M W α}
    (hx : Program.Keeps C P x) :
    Program.Keeps C P (ignoreResult x) :=
  Program.keeps_bind hx fun _ => Program.keeps_pure _

omit h in
theorem keeps_withElement
    (objectName element : Option CString)
    {act : CString → CString → CoreM M W RbusError}
    (hact : ∀ objectName element, Program.Keeps C P (act objectName element)) :
    Program.Keeps C P (withElement objectName element act) := by
  refine Program.keeps_bind Program.keeps_getState fun w => ?_
  refine Program.keeps_ite (Program.keeps_pure _) ?_
  split
  case h_1 objectName element =>
    generalize (objectNameLengthInvalid objectName || objectNameLengthInvalid element) = invalid
    exact Program.keeps_ite (Program.keeps_pure _) (hact _ _)
  case h_2 =>
    exact Program.keeps_pure _

include h

theorem keeps_rbusAddElement
    (objectName element : Option CString) :
    Program.Keeps C P (rbusAddElement objectName element : CoreM M W RbusError) := by
  refine keeps_withElement _ _ fun objectName element => ?_
  refine Program.keeps_bind keeps_gConnectionPtr fun con => ?_
  refine Program.keeps_bind (keeps_call h rfl) fun err => ?_
  exact Program.keeps_ite (Program.keeps_pure _)
    (Program.keeps_ite (Program.keeps_pure _) (Program.keeps_pure _))

theorem keeps_rbusRemoveElement
    (object element : Option CString) :
    Program.Keeps C P (rbusRemoveElement object element : CoreM M W RbusError) := by
  refine keeps_withElement _ _ fun object element => ?_
  refine Program.keeps_bind keeps_gConnectionPtr fun con => ?_
  refine Program.keeps_bind (keeps_call h rfl) fun err => ?_
  exact Program.keeps_ite (Program.keeps_pure _) (Program.keeps_pure _)

theorem keeps_rbuscoreCheckBusStatus :
    Program.Keeps C P (rbuscoreCheckBusStatus : CoreM M W RbuscoreBusStatus) :=
  Program.keeps_bind (keeps_call h rfl) fun _ =>
    Program.keeps_ite (Program.keeps_pure _) (Program.keeps_pure _)

variable [MessageApi M W]

theorem keeps_rbusPushObj
    (objectName : Option CString) (message : Option (MessageRef M)) (timeout : Int) :
    Program.Keeps C P (rbusPushObj objectName message timeout : CoreM M W RbusError) := by
  refine Program.keeps_bind (keeps_rbusInvokeRemoteMethod h _ _ _ _) fun reply => ?_
  refine Program.keeps_ite (Program.keeps_pure _) ?_
  refine Program.keeps_bind (keeps_deref h _) fun response => ?_
  exact Program.keeps_bind (keeps_rbusMessageRelease h _) fun _ => Program.keeps_pure _

theorem keeps_rbusPullObj
    (objectName : Option CString) (timeout : Int) :
    Program.Keeps C P
      (rbusPullObj objectName timeout :
        CoreM M W (RbusError × Option (Option (MessageRef M)))) := by
  refine Program.keeps_bind (keeps_rbusInvokeRemoteMethod h _ _ _ _) fun reply => ?_
  refine Program.keeps_ite (Program.keeps_pure _) ?_
  refine Program.keeps_bind (keeps_deref h _) fun response => ?_
  refine Program.keeps_ite ?_ (Program.keeps_pure _)
  exact Program.keeps_bind (keeps_rbusMessageRelease h _) fun _ => Program.keeps_pure _

omit h in
theorem keeps_messageOp
    (h : Responding C P)
    {op : PublicOp M}
    (hop : op.handlesMessages = true) :
    Program.Keeps C P op.run := by
  have hsteady := h.toSteady
  cases op with
  | getConnection =>
      exact keeps_ignoreResult keeps_gConnectionPtr
  | addElement objectName element =>
      exact keeps_ignoreResult (keeps_rbusAddElement hsteady objectName element)
  | removeElement objectName element =>
      exact keeps_ignoreResult (keeps_rbusRemoveElement hsteady objectName element)
  | addElementEvent objectName event =>
      exact keeps_ignoreResult (keeps_rbusAddElement hsteady objectName event)
  | invokeRemoteMethod objectName method out timeout =>
      exact keeps_ignoreResult (keeps_rbusInvokeRemoteMethod hsteady objectName method out timeout)
  | pushObj objectName message timeout =>
      exact keeps_ignoreResult (keeps_rbusPushObj hsteady objectName message timeout)
  | pushObjNoAck objectName message =>
      exact keeps_ignoreResult (keeps_rbusPushObj hsteady objectName message _)
  | pullObj objectName timeout =>
      exact keeps_ignoreResult (keeps_rbusPullObj hsteady objectName timeout)
  | discoverWildcardDestinations expression =>
      exact keeps_ignoreResult (keeps_rbusDiscoverWildcardDestinations hsteady expression)
  | discoverObjectElements object =>
      exact keeps_ignoreResult (keeps_rbusDiscoverObjectElements hsteady object)
  | discoverElementObjects element =>
      exact keeps_ignoreResult (keeps_rbusDiscoverElementObjects hsteady element)
  | discoverElementsObjects numElements elements =>
      exact keeps_ignoreResult (keeps_rbusDiscoverElementsObjects hsteady numElements elements)
  | discoverRegisteredComponents =>
      exact keeps_ignoreResult (keeps_rbusDiscoverRegisteredComponents hsteady)
  | checkBusStatus =>
      exact keeps_ignoreResult (keeps_rbuscoreCheckBusStatus hsteady)
  | sendResponse hdr response =>
      exact keeps_ignoreResult (keeps_rbusSendResponse h hdr response)
  | _ =>
      exact absurd hop Bool.false_ne_true

end Messaging

section Records

variable {M W : Type}

/-- A contract for code that also changes the objects in `g_server_objects`, other than their
names, with the mutex taken. -/
structure Managing
    (C : Contract (Call.Answer (M := M) (W := W)) (World M W))
    (I : Bool → World M W → Prop) : Prop
    extends Locking C I where
  records : ∀ w (object : Ptr) (f : ServerObject → ServerObject),
    (∀ o, (f o).ptr = o.ptr ∧ (f o).name = o.name) → I true w →
    I true { w with
      gServerObjects := w.gServerObjects.update (updateAt ServerObject.ptr object f)
      log := w.log ++ [.write w.mutexOwned] }
  unusableObjects : ∀ owned w f, w.gServerObjects.fault? = some f → I owned w →
    I owned { w with log := w.log ++ [.fault f] }

/-- A contract for code that looks objects up, with the mutex taken. -/
structure Searching
    (C : Contract (Call.Answer (M := M) (W := W)) (World M W))
    (I : Bool → World M W → Prop) : Prop
    extends Exclusive C I where
  unusableObjects : ∀ owned w f, w.gServerObjects.fault? = some f → I owned w →
    I owned { w with log := w.log ++ [.fault f] }

variable {C : Contract (Call.Answer (M := M) (W := W)) (World M W)}
variable {I : Bool → World M W → Prop}

theorem Managing.searching
    (h : Managing C I) :
    Searching C I :=
  ⟨h.exclusive, h.unusableObjects⟩

theorem Managing.keeps_updateObject
    (h : Managing C I)
    (object : Ptr)
    {f : ServerObject → ServerObject}
    (hf : ∀ o, (f o).ptr = o.ptr ∧ (f o).name = o.name) :
    Program.Keeps C (I true) (updateObject object f : CoreM M W Unit) :=
  fun w hw => h.records w object f hf hw

section Lookup

variable (h : Searching C I)

include h

theorem keeps_lockedObject
    (objectName : Option CString) :
    Program.Keeps C (I true) (getObject objectName : CoreM M W (Option ServerObject)) :=
  keeps_getObject (h.calling true) (h.unusableObjects true) objectName

/-- The object is looked up with the mutex taken, and something is done with what is found. -/
theorem keeps_withObject
    {α : Type}
    (objectName : Option CString)
    {act : Option ServerObject → CoreM M W α}
    (hact : ∀ obj, Program.Leads C (I true) (act obj) (I false)) :
    Program.Keeps C (I false) (do
      lock
      let obj ← getObject objectName
      act obj) :=
  Program.leads_bind (leads_lock h.toExclusive) fun _ =>
    Program.leads_bind (keeps_lockedObject h objectName) hact

/-- A method is registered, where methods with its name may be added. -/
theorem keeps_rbusRegisterMethod
    (objectName methodName : Option CString) (handler : MethodCallback) (userData : Ptr)
    (hadd : ∀ p (name : BoundedName maxMethodNameLength), methodName = some name.val →
      Program.Keeps C (I true) (updateObject p fun o =>
        { o with
          methods :=
            o.methods ++ [{ name := name, callback := handler, data := userData }] } :
        CoreM M W Unit)) :
    Program.Keeps C (I false)
      (rbusRegisterMethod objectName methodName handler userData : CoreM M W RbusError) := by
  have hunlock (ret : RbusError) := leads_unlock_pure h.toExclusive ret
  intro w hw
  cases methodName with
  | none =>
      exact (h.calling false).atUndef _ ((h.calling false).fault w .nullPointer rfl hw)
  | some methodName =>
      rw [rbusRegisterMethod, Program.sat_bind, sat_deref_some]
      cases hname : BoundedName.check? maxMethodNameLength methodName with
      | none =>
          exact hw
      | some name =>
          have hadd (p : Ptr) := hadd p name
            (congrArg some (BoundedName.check?_eq_some_iff.mp hname).symm)
          refine keeps_withObject h objectName (fun obj => ?_) w hw
          cases obj with
          | none =>
              exact hunlock _
          | some obj =>
              refine Program.leads_ite (hunlock _) (Program.leads_ite (hunlock _) ?_)
              exact Program.leads_bind (hadd obj.ptr) fun _ => hunlock _

/-- What a search with a key that may be NULL finds has this key. -/
theorem sat_rtVectorFindDeref_method
    {w : World M W}
    (hw : I true w)
    (methods : List ServerMethod) (methodName : Option CString) :
    Program.Sat C (rtVectorFindDeref serverMethodCompare methods methodName)
      (fun found w' => I true w' ∧ ∀ m, found = some m → methodName = some m.name.val) w := by
  cases methods with
  | nil =>
      refine ⟨hw, ?_⟩
      rintro m ⟨⟩
  | cons x methods =>
      cases methodName with
      | none =>
          exact (h.calling true).atUndef _ ((h.calling true).fault w .nullPointer rfl hw)
      | some name =>
          refine ⟨hw, fun m hm => ?_⟩
          have hzero := List.find?_some hm
          rw [decide_eq_true_eq, serverMethodCompare_eq_zero_iff] at hzero
          rw [hzero]

/-- A method is unregistered, where methods with its name may be removed. -/
theorem keeps_rbusUnregisterMethod
    (objectName methodName : Option CString)
    (hremove : ∀ p name, methodName = some name →
      Program.Keeps C (I true) (updateObject p fun o =>
        { o with methods := rtVectorRemoveFound serverMethodCompare name o.methods } :
        CoreM M W Unit)) :
    Program.Keeps C (I false)
      (rbusUnregisterMethod objectName methodName : CoreM M W RbusError) := by
  have hunlock (ret : RbusError) := leads_unlock_pure h.toExclusive ret
  refine keeps_withObject h objectName fun obj => ?_
  cases obj with
  | none =>
      exact hunlock _
  | some obj =>
      intro w hw
      refine (sat_rtVectorFindDeref_method h hw obj.methods methodName).bind ?_
      rintro method w₁ ⟨hw₁, hname⟩
      cases method with
      | none =>
          exact hunlock _ w₁ hw₁
      | some method =>
          exact (hremove obj.ptr _ (hname method rfl) w₁ hw₁).bind fun _ w₂ hw₂ => hunlock _ w₂ hw₂

/-- An event is unregistered, where events may be removed. -/
theorem keeps_rbusUnregisterEvent
    (objectName eventName : Option CString)
    (hremove : ∀ p name,
      Program.Keeps C (I true) (updateObject p fun o =>
        { o with subscriptions := rtVectorRemoveFound serverEventCompare name o.subscriptions } :
        CoreM M W Unit)) :
    Program.Keeps C (I false)
      (rbusUnregisterEvent objectName eventName : CoreM M W RbusError) := by
  have hunlock (ret : RbusError) := leads_unlock_pure h.toExclusive ret
  refine keeps_withObject h objectName fun obj => ?_
  cases obj with
  | none =>
      exact hunlock _
  | some obj =>
      dsimp only
      split
      · exact Program.leads_bind (hremove _ _) fun _ => hunlock _
      · exact hunlock _

variable [MessageApi M W]

theorem keeps_rbusPublishEvent
    (objectName eventName : Option CString) (out : MessageRef M) :
    Program.Keeps C (I false)
      (rbusPublishEvent objectName eventName out : CoreM M W (RbusError × MessageRef M)) := by
  have hunlock (ret : RbusError × MessageRef M) := leads_unlock_pure h.toExclusive ret
  refine Program.keeps_bind Program.keeps_getState fun w => ?_
  refine Program.keeps_ite (Program.keeps_pure _) ?_
  refine Program.keeps_bind (keeps_deref (h.calling false) _) fun objectName => ?_
  refine Program.keeps_ite (Program.keeps_pure _) ?_
  refine Program.keeps_bind (keeps_setEventMetaSection (h.calling false) _ _ _ _) fun out => ?_
  refine keeps_withObject h _ fun obj => ?_
  cases obj with
  | none =>
      exact hunlock _
  | some obj =>
      dsimp only
      split
      · exact Program.leads_bind (keeps_sendToListeners (h.calling true) _ _ _) fun _ => hunlock _
      · exact hunlock _

theorem keeps_rbusPublishSubscriberEvent
    (objectName eventName : Option CString) (listener : CString) (out : MessageRef M) :
    Program.Keeps C (I false)
      (rbusPublishSubscriberEvent objectName eventName listener out :
        CoreM M W (RbusError × MessageRef M)) := by
  refine Program.keeps_bind (keeps_deref (h.calling false) _) fun objectName => ?_
  refine Program.keeps_ite (Program.keeps_pure _) ?_
  refine Program.keeps_bind (keeps_setEventMetaSection (h.calling false) _ _ _ _) fun out => ?_
  refine keeps_withObject h _ fun obj => ?_
  exact Program.leads_bind (keeps_rbusSendMessage (h.calling true) _ _ _) fun _ =>
    leads_unlock_pure h.toExclusive _

end Lookup

/-- A loop over a table that ends with the first error. -/
theorem keeps_tableLoop
    {loop : List RbusMethodTableEntry → CoreM M W RbusError}
    {act : RbusMethodTableEntry → CoreM M W RbusError} {table : List RbusMethodTableEntry}
    (hact : ∀ entry ∈ table, Program.Keeps C (I false) (act entry))
    (hnil : loop [] = pure .success)
    (hcons : ∀ entry table, loop (entry :: table) =
      do
        let ret ← act entry
        if ret ≠ .success then pure ret else loop table) :
    Program.Keeps C (I false) (loop table) := by
  induction table with
  | nil =>
      rw [hnil]
      exact Program.keeps_pure _
  | cons entry table ih =>
      have hrest := ih fun e he => hact e (List.mem_cons_of_mem entry he)
      rw [hcons]
      exact Program.keeps_bind (hact entry List.mem_cons_self) fun _ =>
        Program.keeps_ite (Program.keeps_pure _) hrest

/-- A table is registered, where its entries may be. -/
theorem keeps_rbusRegisterMethodTable
    (objectName : Option CString) (table : List RbusMethodTableEntry)
    (hentry : ∀ entry ∈ table, Program.Keeps C (I false)
      (rbusRegisterMethod objectName entry.method entry.callback entry.userData :
        CoreM M W RbusError)) :
    Program.Keeps C (I false)
      (rbusRegisterMethodTable objectName table : CoreM M W RbusError) :=
  keeps_tableLoop hentry rfl fun _ _ => rfl

/-- A table is unregistered, where its entries may be. -/
theorem keeps_rbusUnregisterMethodTable
    (objectName : Option CString) (table : List RbusMethodTableEntry)
    (hentry : ∀ entry ∈ table, Program.Keeps C (I false)
      (rbusUnregisterMethod objectName entry.method : CoreM M W RbusError)) :
    Program.Keeps C (I false)
      (rbusUnregisterMethodTable objectName table : CoreM M W RbusError) :=
  keeps_tableLoop hentry rfl fun _ _ => rfl

variable (h : Managing C I)

include h

/-- Where all records may be changed, all methods may be registered. -/
theorem Managing.keeps_rbusRegisterMethod
    (objectName methodName : Option CString) (handler : MethodCallback) (userData : Ptr) :
    Program.Keeps C (I false)
      (rbusRegisterMethod objectName methodName handler userData : CoreM M W RbusError) :=
  RbusCore.keeps_rbusRegisterMethod h.searching _ _ _ _ fun _ _ _ =>
    h.keeps_updateObject _ fun _ => ⟨rfl, rfl⟩

theorem keeps_addServerEvent
    (obj : ServerObject) (name : BoundedName maxEventNameLength) (callback : Option Nat)
    (userData : Ptr) :
    Program.Keeps C (I true) (addServerEvent obj name callback userData : CoreM M W Unit) :=
  Program.keeps_ite (Program.keeps_pure _) fun w hw =>
    h.records w obj.ptr _ (fun _ => ⟨rfl, rfl⟩) hw

variable (hensure : ∀ p, Program.Keeps C (I true)
  (ensureSubscriptionHandlers p : CoreM M W RbusError))

include hensure in
theorem keeps_rbusRegisterEvent
    (objectName eventName : Option CString) (callback : Option Nat) (userData : Ptr) :
    Program.Keeps C (I false)
      (rbusRegisterEvent objectName eventName callback userData : CoreM M W RbusError) := by
  have hunlock (ret : RbusError) := leads_unlock_pure h.exclusive ret
  refine Program.keeps_bind Program.keeps_getState fun w => ?_
  refine Program.keeps_ite (Program.keeps_pure _) (Program.keeps_ite (Program.keeps_pure _) ?_)
  split
  · exact Program.keeps_pure _
  · refine keeps_withObject h.searching objectName fun obj => ?_
    cases obj with
    | none =>
        exact hunlock _
    | some obj =>
        refine Program.leads_bind (keeps_addServerEvent h _ _ _ _) fun _ => ?_
        exact Program.leads_bind (hensure _) fun _ => hunlock _

include hensure in
theorem keeps_rbusRegisterSubscribeHandler
    (objectName : Option CString) (callback : Option Nat) (userData : Ptr) :
    Program.Keeps C (I false)
      (rbusRegisterSubscribeHandler objectName callback userData : CoreM M W RbusError) := by
  have hunlock (ret : RbusError) := leads_unlock_pure h.exclusive ret
  refine Program.keeps_ite (Program.keeps_pure _) ?_
  refine keeps_withObject h.searching objectName fun obj => ?_
  cases obj with
  | none =>
      exact hunlock _
  | some obj =>
      refine Program.leads_bind (fun w hw => ?_) fun _ =>
        Program.leads_bind (hensure _) fun _ => hunlock _
      exact h.records w obj.ptr _ (fun _ => ⟨rfl, rfl⟩) hw

omit h in
/-- The reserved methods are installed, where the owner of the mutex does not matter. -/
theorem keeps_ensureSubscriptionHandlers
    {P : World M W → Prop}
    (h : Managing C fun _ => P)
    (object : Ptr) :
    Program.Keeps C P (ensureSubscriptionHandlers object : CoreM M W RbusError) := by
  have hderef := keeps_derefObject (h.steady true).toCalling object
  refine Program.keeps_bind hderef fun obj => Program.keeps_ite (Program.keeps_pure _) ?_
  refine Program.keeps_bind hderef fun obj => ?_
  split
  · exact Program.keeps_pure _
  · refine Program.keeps_bind (h.keeps_rbusRegisterMethod _ _ _ _) fun ret => ?_
    refine Program.keeps_ite (Program.keeps_pure _) ?_
    refine Program.keeps_bind (h.keeps_rbusRegisterMethod _ _ _ _) fun ret => ?_
    refine Program.keeps_ite (Program.keeps_pure _) ?_
    refine Program.keeps_bind (fun w hw => ?_) fun _ => Program.keeps_pure _
    exact h.records w object _ (fun _ => ⟨rfl, rfl⟩) hw

end Records

section Subscribing

variable {M W : Type} [MessageApi M W]
variable {C : Contract (Call.Answer (M := M) (W := W)) (World M W)}
variable {I : Bool → World M W → Prop} (h : Locking C I)
variable (hstart : Program.Keeps C (I true) (startEventDispatch : CoreM M W Unit))
variable (hrollback : ∀ objectName eventName,
  Program.Keeps C (I false) (rollbackUnlessMaster objectName eventName : CoreM M W Unit))

include h hstart hrollback

/-- From the moment the mutex has been taken. -/
theorem sat_subscribeChecked_locked
    {w : World M W}
    (hw : I true { w with mutexOwned := true, log := w.log ++ [.lock w.mutexOwned] })
    (objectName : BoundedName maxObjectNameLength) (eventName : BoundedName maxEventNameLength)
    (callback : Nat) (payload : Option (MessageRef M)) (userData : Ptr) (timeout : Int) :
    Program.Sat C (subscribeChecked objectName eventName callback payload userData timeout)
      (fun _ => I false) w := by
  rw [subscribeChecked, Program.sat_bind, sat_lock]
  refine (hstart _ hw).bind fun _ w₁ h₁ => ?_
  refine (keeps_addUnlessMaster h _ _ _ _ w₁ h₁).bind fun present w₂ h₂ => ?_
  refine (leads_unlock h w₂ h₂).bind fun _ w₃ h₃ => ?_
  refine Program.leads_ite (Program.leads_pure _) ?_ w₃ h₃
  refine Program.leads_bind (keeps_sendSubscriptionRequest (h.steady false) _ _ _ _ _)
    fun reply => ?_
  refine Program.leads_ite ?_ (Program.leads_pure _)
  exact Program.leads_bind (hrollback _ _) fun _ => Program.leads_pure _

theorem keeps_subscribeChecked
    (objectName : BoundedName maxObjectNameLength) (eventName : BoundedName maxEventNameLength)
    (callback : Nat) (payload : Option (MessageRef M)) (userData : Ptr) (timeout : Int) :
    Program.Keeps C (I false)
      (subscribeChecked objectName eventName callback payload userData timeout :
        CoreM M W (RbusError × Option Int)) :=
  fun w hw => sat_subscribeChecked_locked h hstart hrollback (h.locked w hw) _ _ _ _ _ _

theorem keeps_rbusSubscribeToEventInternal
    (objectName eventName : Option CString) (callback : Option Nat)
    (payload : Option (MessageRef M)) (userData : Ptr) (timeout : Int) :
    Program.Keeps C (I false)
      (rbusSubscribeToEventInternal objectName eventName callback payload userData timeout :
        CoreM M W (RbusError × Option Int)) := by
  refine Program.keeps_bind Program.keeps_getState fun w => ?_
  refine Program.keeps_ite (Program.keeps_pure _) ?_
  split
  · split
    · exact Program.keeps_pure _
    · refine Program.keeps_bind (keeps_deref (h.steady false) _) fun eventName => ?_
      split
      · exact Program.keeps_pure _
      · exact keeps_subscribeChecked h hstart hrollback _ _ _ _ _ _
  · exact Program.keeps_pure _

end Subscribing

section Listeners

variable {M W : Type}
variable {C : Contract (Call.Answer (M := M) (W := W)) (World M W)}
variable {P : World M W → Prop} (h : Calling C P)
variable (hconnection : ∀ w f, P w → P { w with gConnection := w.gConnection.map f })

include h hconnection

theorem keeps_rtConnectionAddListener
    (expression : CString) (callback : ListenerCallback) :
    Program.Keeps C P (rtConnectionAddListener expression callback : CoreM M W RtError) :=
  keeps_acceptedUpdate (fun _ => keeps_call h rfl) fun w hw => hconnection w _ hw

theorem keeps_rtConnectionRemoveListener
    (expression : CString) :
    Program.Keeps C P (rtConnectionRemoveListener expression : CoreM M W RtError) :=
  keeps_acceptedUpdate (fun _ => keeps_call h rfl) fun w hw => hconnection w _ hw

variable {I : World M W → Prop}
variable (hlock : Program.Leads C I (lock : CoreM M W Unit) P)
variable (hunlock : Program.Leads C P (unlock : CoreM M W Unit) I)
variable (hadvisory : ∀ w installed callback, P w →
  P { w with gAdvisoryListenerInstalled := installed, gClientDisconnectCallback := callback })

include hlock hunlock hadvisory

theorem keeps_rbusRegisterClientDisconnectHandler
    (callback : Option Nat) :
    Program.Keeps C I (rbusRegisterClientDisconnectHandler callback : CoreM M W RbusError) := by
  have hdone (ret : RbusError) : Program.Leads C P (do unlock; pure ret : CoreM M W _) I :=
    Program.leads_bind hunlock fun _ => Program.leads_pure ret
  refine Program.leads_bind hlock fun _ => ?_
  refine Program.leads_bind Program.keeps_getState fun w => ?_
  refine Program.leads_ite (hdone _) ?_
  refine Program.leads_bind (keeps_rtConnectionAddListener h hconnection _ _) fun err => ?_
  refine Program.leads_ite ?_ (hdone _)
  exact Program.leads_bind (fun w hw => hadvisory w true callback hw) fun _ => hdone _

theorem keeps_rbusUnregisterClientDisconnectHandler :
    Program.Keeps C I (rbusUnregisterClientDisconnectHandler : CoreM M W RbusError) := by
  refine Program.leads_bind hlock fun _ => ?_
  refine Program.leads_bind (Q := P) ?_ fun _ =>
    Program.leads_bind hunlock fun _ => Program.leads_pure _
  refine Program.leads_bind Program.keeps_getState fun w => Program.leads_ite ?_ ?_
  · refine Program.leads_bind (keeps_rtConnectionRemoveListener h hconnection _) fun _ => ?_
    exact fun w hw => hadvisory w false w.gClientDisconnectCallback hw
  · exact Program.leads_pure _

end Listeners

section Objects

variable {M W : Type}
variable {C : Contract (Call.Answer (M := M) (W := W)) (World M W)}
variable {I : Bool → World M W → Prop} (h : Searching C I)
variable (hconnection : ∀ w f, I false w → I false { w with gConnection := w.gConnection.map f })

include h hconnection

/-- An object is registered, where objects may be made and added. -/
theorem keeps_rbusRegisterObj
    (hmalloc : Program.Keeps C (I false) (rtMalloc : CoreM M W Ptr))
    (hadd : ∀ obj, Program.Keeps C (I true)
      (updateServerObjects fun objects => objects ++ [obj] : CoreM M W Unit))
    (objectName : Option CString) (handler : Nat) (userData : Ptr) :
    Program.Keeps C (I false)
      (rbusRegisterObj objectName handler userData : CoreM M W RbusError) := by
  have hsearch : Program.Keeps C (I true) (serverObjects : CoreM M W _) :=
    keeps_serverObjects (h.calling true) (h.unusableObjects true)
  refine Program.keeps_bind Program.keeps_getState fun w => ?_
  refine Program.keeps_ite (Program.keeps_pure _) ?_
  cases objectName with
  | none =>
      exact Program.keeps_pure _
  | some objectName =>
      dsimp only
      generalize objectNameLengthInvalid objectName = invalid
      refine Program.keeps_ite (Program.keeps_pure _) ?_
      refine Program.leads_bind (leads_lock h.toExclusive) fun _ => ?_
      refine Program.leads_bind hsearch fun objects => ?_
      refine Program.leads_bind (leads_unlock h.toExclusive) fun _ => ?_
      refine Program.leads_ite (Program.leads_pure _) ?_
      refine Program.leads_bind (Program.keeps_bind hmalloc fun _ =>
        Program.keeps_bind (keeps_strcpy (h.calling false) _ _) fun _ => Program.keeps_pure _)
          fun obj => ?_
      refine Program.leads_bind
        (keeps_rtConnectionAddListener (h.calling false) hconnection _ _) fun err => ?_
      refine Program.leads_ite ?_ (Program.leads_pure _)
      refine Program.leads_bind (leads_lock h.toExclusive) fun _ => ?_
      refine Program.leads_bind hsearch fun _ => ?_
      exact Program.leads_bind (hadd _) fun _ => leads_unlock_pure h.toExclusive _

/-- An object is unregistered, where objects may be removed. -/
theorem keeps_rbusUnregisterObj
    (objectName : Option CString)
    (hremove : ∀ name, Program.Keeps C (I true)
      (updateServerObjects (rtVectorRemoveFound serverObjectCompare name) : CoreM M W Unit)) :
    Program.Keeps C (I false) (rbusUnregisterObj objectName : CoreM M W RbusError) := by
  cases objectName with
  | none =>
      exact Program.keeps_pure _
  | some objectName =>
      refine Program.keeps_ite (Program.keeps_pure _) ?_
      refine Program.leads_bind
        (keeps_rtConnectionRemoveListener (h.calling false) hconnection _) fun err => ?_
      refine Program.leads_ite (Program.leads_pure _) ?_
      refine keeps_withObject h _ fun obj => ?_
      cases obj with
      | none =>
          exact leads_unlock_pure h.toExclusive _
      | some obj =>
          exact Program.leads_bind (hremove objectName) fun _ => leads_unlock_pure h.toExclusive _

end Objects

section Opening

variable {M W : Type}
variable {C : Contract (Call.Answer (M := M) (W := W)) (World M W)}

theorem keeps_initMutex
    {P : World M W → Prop}
    (hfree : ∀ w, P w → P { w with gMutexInit := true, mutexOwned := false }) :
    Program.Keeps C P (initMutex : CoreM M W Unit) :=
  Program.keeps_bind Program.keeps_getState fun _ =>
    Program.keeps_ite (fun w h => hfree w h) (Program.keeps_pure _)

theorem keeps_routerConfig
    {P : World M W → Prop}
    (h : Steady C P)
    (haddress : ∀ w address, P w → P { w with gDaemonAddress := address })
    (brokerAddress : Option CString) :
    Program.Keeps C P (routerConfig brokerAddress : CoreM M W CString) := by
  unfold routerConfig
  split
  · exact Program.keeps_pure _
  · refine Program.keeps_bind (Program.keeps_bind (keeps_call h rfl) fun file => ?_)
      fun _ => Program.keeps_bind Program.keeps_getState fun _ => Program.keeps_pure _
    split
    · exact fun w hw => haddress w _ hw
    · exact Program.keeps_pure _

/-- What `rtConnection_Create` leads to: a new connection, or an error. -/
theorem sat_rtConnectionCreate
    {w : World M W} {Q : RtError → World M W → Prop}
    (applicationName routerConfig : CString)
    (hcall : C.atCall (.connectionCreate applicationName routerConfig)
      { w with log := w.log ++ [.call (.connectionCreate applicationName routerConfig)] })
    (hcreated : ∀ address w',
      C.env (.connectionCreate applicationName routerConfig)
        { w with log := w.log ++ [.call (.connectionCreate applicationName routerConfig)] }
        (.ok address) w' →
      Q .rtOk { w' with
        nextPtr := w'.nextPtr + 1
        gConnection := some
          { ptr := w'.nextPtr, returnAddress := address, defaultListener := false
            listeners := [] } })
    (hfailed : ∀ err w',
      C.env (.connectionCreate applicationName routerConfig)
        { w with log := w.log ++ [.call (.connectionCreate applicationName routerConfig)] }
        (.error err) w' →
      Q err w') :
    Program.Sat C (rtConnectionCreate applicationName routerConfig) Q w := by
  rw [rtConnectionCreate, Program.sat_bind, sat_call]
  refine ⟨hcall, fun result w' henv => ?_⟩
  cases result with
  | ok address =>
      exact hcreated address w' henv
  | error err =>
      exact hfailed err w' henv

variable [MessageApi M W]

/-- Opening a connection, from the state before it (`P`) over the one with the mutex taken
(`L`), without a connection (`D`), to the one with a new connection (`O`) or none (`F`). -/
theorem leads_rbusOpenBrokerConnection2
    {P L D O F Q : World M W → Prop}
    (hrefused : ∀ w, P w → Q w)
    (hinit : Program.Keeps C P (initMutex : CoreM M W Unit))
    (hlock : Program.Leads C P (lock : CoreM M W Unit) L)
    (hpresent : ∀ w c, w.gConnection = some c → L w → Program.Sat C unlock (fun _ => Q) w)
    (habsent : ∀ w, w.gConnection = none → L w → D w)
    (hsteady : Steady C D)
    (haddress : ∀ w address, D w → D { w with gDaemonAddress := address })
    (hcreate : ∀ applicationName address w, D w →
      Program.Sat C
        (do
          performInit
          rtConnectionCreate applicationName address)
        (fun result w' => (result = .rtOk → O w') ∧ (result ≠ .rtOk → F w')) w)
    (hopened : Program.Leads C O (unlock : CoreM M W Unit) Q)
    (hfailed : Program.Leads C F
      (do
        Program.modifyState fun w => { w with gConnection := none }
        performCleanup
        unlock : CoreM M W Unit) Q)
    (componentName brokerAddress : Option CString) :
    Program.Leads C P
      (rbusOpenBrokerConnection2 componentName brokerAddress : CoreM M W RbusError) Q := by
  intro w hw
  unfold rbusOpenBrokerConnection2
  split
  · exact hrefused w hw
  case h_2 name =>
    refine (hinit w hw).bind fun _ w hw => ?_
    refine (hlock w hw).bind fun _ w hw => ?_
    rw [Program.sat_bind, Program.sat_getState, Program.sat_ite]
    split
    case isTrue hsome =>
      obtain ⟨c, hc⟩ := Option.isSome_iff_exists.mp hsome
      exact (hpresent w c hc hw).bind fun _ _ h => h
    case isFalse hnone =>
      have hd := habsent w (by simpa using hnone) hw
      refine (keeps_routerConfig hsteady haddress brokerAddress w hd).bind fun address w hd => ?_
      rw [Program.sat_ite]
      split
      · exact hsteady.atUndef _ (hsteady.fault w .overflow rfl hd)
      · have hrun := hcreate (applicationName name) address w hd
        rw [Program.sat_bind] at hrun ⊢
        refine hrun.mono fun _ w hrun => ?_
        refine hrun.bind fun result w hresult => ?_
        rw [Program.sat_ite]
        split
        case isTrue herr =>
          have htail := hfailed w (hresult.2 herr)
          simp only [Program.sat_bind] at htail ⊢
          exact htail
        case isFalse hok =>
          exact (hopened w (hresult.1 (not_not.mp hok))).bind fun _ _ h => h

end Opening

end RbusCore
