import RbusCore.Message
import RbusCore.Operations
import RbusCore.SubscriptionHandlers

/-!
# All or nothing

`rbus_registerEvent` and `rbus_registerSubscribeHandler` enter something at an object and then
install the methods that answer subscription requests, one after the other.  What has been
entered stays when a method is refused, and so does the first method when the second one is
refused; the next installation finds the first method and takes both for installed.

**Results.**
* `keeps_publicOp_since`, `keeps_onMessage_since`: the operations, and the requests that arrive,
  leave the reserved methods in order.
* `SparingRun.recorded`: so does every run, however the operations are nested in each other.
* `all_or_nothing_iff`: when the two operations are done as a whole or not at all.
-/

namespace RbusCore

open CStrings Resumption

section Records

variable {M W : Type}

/-- Objects at different addresses, with the reserved methods in order. -/
structure Records (nextPtr : Ptr) (objects : List ServerObject) : Prop where
  addresses : KeyedList.Distinct ServerObject.ptr objects
  allocated : ∀ o ∈ objects, o.ptr < nextPtr
  handlers : ∀ o ∈ objects, HandlersInv o

/-- A process with a connection and such objects. -/
structure Recorded (w : World M W) : Prop where
  connected : w.gConnection.isSome = true
  vector : w.gServerObjects = .live w.gServerObjects.items
  records : Records w.nextPtr w.gServerObjects.items

/-- Objects are where they were, or at new addresses. -/
structure Grown (w w' : World M W) : Prop where
  nextPtr : w.nextPtr ≤ w'.nextPtr
  objects : ∀ o' ∈ w'.gServerObjects.items,
    (∃ o ∈ w.gServerObjects.items, o.ptr = o'.ptr) ∨ w.nextPtr ≤ o'.ptr

/-- What is kept since a state. -/
def Since (w₀ w : World M W) : Prop :=
  Recorded w ∧ Grown w₀ w

/-- Whatever happens during a call keeps this up. -/
def recording : Contract (Call.Answer (M := M) (W := W)) (World M W) where
  env _ w _ w' := Recorded w → Since w w'
  atCall _ w := Recorded w
  atUndef _ := True

variable {nextPtr : Ptr} {objects : List ServerObject} {w₀ w w' : World M W}

theorem Grown.refl
    (w : World M W) :
    Grown w w :=
  ⟨Nat.le_refl _, fun o ho => Or.inl ⟨o, ho, rfl⟩⟩

theorem Grown.trans
    (h : Grown w₀ w)
    (h' : Grown w w') :
    Grown w₀ w' := by
  refine ⟨h.nextPtr.trans h'.nextPtr, fun o' ho' => ?_⟩
  rcases h'.objects o' ho' with ⟨o, ho, hptr⟩ | hnew
  · rw [← hptr]
    exact h.objects o ho
  · exact Or.inr (h.nextPtr.trans hnew)

theorem Since.trans
    (h : Since w₀ w)
    (h' : Recorded w → Since w w') :
    Since w₀ w' :=
  ⟨(h' h.1).1, h.2.trans (h' h.1).2⟩

theorem Records.mono
    {nextPtr' : Ptr}
    (h : Records nextPtr objects)
    (hle : nextPtr ≤ nextPtr') :
    Records nextPtr' objects :=
  { h with allocated := fun o ho => Nat.lt_of_lt_of_le (h.allocated o ho) hle }

/-- The object at an address is changed. -/
theorem Records.updateAt
    {p : Ptr} {f : ServerObject → ServerObject}
    (h : Records nextPtr objects)
    (hptr : ∀ o, o.ptr = p → (f o).ptr = p)
    (hhandlers : ∀ o, o.ptr = p → HandlersInv o → HandlersInv (f o)) :
    Records nextPtr (updateAt ServerObject.ptr p f objects) := by
  have hsame (o : ServerObject) : (if o.ptr = p then f o else o).ptr = o.ptr := by
    split
    case isTrue ho =>
      rw [hptr o ho, ho]
    case isFalse =>
      rfl
  have haddresses : (RbusCore.updateAt ServerObject.ptr p f objects).map ServerObject.ptr =
      objects.map ServerObject.ptr := by
    rw [RbusCore.updateAt, List.map_map]
    exact List.map_congr_left fun o _ => hsame o
  refine ⟨?_, ?_, ?_⟩
  · rw [KeyedList.Distinct, haddresses]
    exact h.addresses
  · intro o' ho'
    obtain ⟨o, ho, rfl⟩ := List.mem_map.mp ho'
    rw [hsame]
    exact h.allocated o ho
  · intro o' ho'
    obtain ⟨o, ho, rfl⟩ := List.mem_map.mp ho'
    split
    case isTrue hp =>
      exact hhandlers o hp (h.handlers o ho)
    case isFalse =>
      exact h.handlers o ho

/-- Nothing but addresses is handed out. -/
theorem Since.same
    (h : Since w₀ w)
    (hconnected : w'.gConnection.isSome = w.gConnection.isSome)
    (hvector : w'.gServerObjects = w.gServerObjects)
    (hnextPtr : w.nextPtr ≤ w'.nextPtr) :
    Since w₀ w' := by
  obtain ⟨⟨hcon, hlive, hrecords⟩, hgrown⟩ := h
  refine ⟨⟨hconnected.trans hcon, ?_, ?_⟩, hgrown.trans ⟨hnextPtr, fun o ho => ?_⟩⟩
  · rw [hvector]
    exact hlive
  · rw [hvector]
    exact hrecords.mono hnextPtr
  · exact Or.inl ⟨o, hvector ▸ ho, rfl⟩

/-- Other objects are in the vector, at the same addresses. -/
theorem Since.withObjects
    (h : Since w₀ w)
    (objects : List ServerObject)
    (hconnected : w'.gConnection.isSome = w.gConnection.isSome)
    (hvector : w'.gServerObjects = .live objects)
    (hnextPtr : w'.nextPtr = w.nextPtr)
    (hrecords : Records w.nextPtr objects)
    (hsame : ∀ o' ∈ objects, ∃ o ∈ w.gServerObjects.items, o.ptr = o'.ptr) :
    Since w₀ w' := by
  refine ⟨⟨hconnected.trans h.1.connected, ?_, ?_⟩, h.2.trans ⟨hnextPtr.ge, fun o ho => ?_⟩⟩
  · rw [hvector, RtVector.items_live]
  · rw [hvector, RtVector.items_live, hnextPtr]
    exact hrecords
  · rw [hvector, RtVector.items_live] at ho
    exact Or.inl (hsame o ho)

/-- The object at an address is changed. -/
theorem keeps_updateObject_since
    {f : ServerObject → ServerObject}
    (hptr : ∀ o, (f o).ptr = o.ptr)
    (hhandlers : ∀ o, HandlersInv o → HandlersInv (f o))
    (p : Ptr) :
    Program.Keeps recording (Since w₀) (updateObject p f : CoreM M W Unit) := by
  intro w h
  rw [updateObject, sat_updateServerObjects]
  refine h.withObjects (updateAt ServerObject.ptr p f w.gServerObjects.items) rfl ?_
    rfl (h.1.records.updateAt (fun o ho => (hptr o).trans ho) fun o _ => hhandlers o) ?_
  · dsimp only
    rw [h.1.vector, RtVector.update_live, RtVector.items_live]
  · intro o' ho'
    obtain ⟨o, ho, rfl⟩ := List.mem_map.mp ho'
    refine ⟨o, ho, ?_⟩
    split
    · exact (hptr o).symm
    · rfl

theorem steady_since : Steady recording (Since w₀ : World M W → Prop) where
  messages := fun _ _ _ hle h => h.same rfl rfl hle
  called := fun _ _ _ h => h.same rfl rfl (Nat.le_refl _)
  fault := fun _ _ _ h => h.same rfl rfl (Nat.le_refl _)
  env := fun _ _ _ _ henv h => h.trans henv
  atCall := fun _ _ _ h => h.1
  atUndef := fun _ _ => trivial

theorem listening_since : Listening recording (Since w₀ : World M W → Prop) where
  toSteady := steady_since
  listeners := fun w object f h =>
    keeps_updateObject_since (f := fun o => { o with subscriptions := f o.subscriptions })
      (fun _ => rfl) (fun _ ho => ho.of_same rfl rfl fun _ _ => rfl) object w h

theorem responding_since : Responding recording (Since w₀ : World M W → Prop) where
  toSteady := steady_since
  flowCalled := fun _ _ _ h => h.same rfl rfl (Nat.le_refl _)
  flowAtCall := fun _ _ _ h => h.1

theorem locking_since : Locking recording fun _ => (Since w₀ : World M W → Prop) where
  steady := fun _ => steady_since
  locked := fun _ h => h.same rfl rfl (Nat.le_refl _)
  unlocked := fun _ h => h.same rfl rfl (Nat.le_refl _)
  unusable := fun _ _ _ _ h => h.same rfl rfl (Nat.le_refl _)
  subscriptions := fun _ _ h => h.same rfl rfl (Nat.le_refl _)

theorem searching_since : Searching recording fun _ => (Since w₀ : World M W → Prop) where
  toExclusive := locking_since.exclusive
  unusableObjects := fun _ _ _ _ h => h.same rfl rfl (Nat.le_refl _)

theorem serving_since : Serving recording (Since w₀ : World M W → Prop) where
  toListening := listening_since
  flowCalled := responding_since.flowCalled
  flowAtCall := responding_since.flowAtCall
  locking := locking_since

end Records

section Operations

/-- A name that is none of a reserved method. -/
def SparesReserved (methodName : Option CString) : Prop :=
  ∀ name, methodName = some name → ¬Reserved name

/-- The operations that leave the reserved methods alone, and the connection open. -/
def PublicOp.sparesReserved {M : Type} : PublicOp M → Prop
  | .closeBrokerConnection => False
  | .registerMethod _ methodName _ _ | .unregisterMethod _ methodName =>
      SparesReserved methodName
  | .registerMethodTable _ table | .unregisterMethodTable _ table =>
      ∀ entry ∈ table, SparesReserved entry.method
  | _ => True

variable {M W : Type} {w₀ w : World M W}

theorem keeps_registerMethod_since
    {methodName : Option CString}
    (hspares : SparesReserved methodName)
    (objectName : Option CString) (handler : MethodCallback) (userData : Ptr) :
    Program.Keeps recording (Since w₀)
      (rbusRegisterMethod objectName methodName handler userData : CoreM M W RbusError) := by
  refine keeps_rbusRegisterMethod searching_since _ _ _ _ fun p name hname => ?_
  refine keeps_updateObject_since ?_ ?_ p <;> intro o
  · rfl
  · intro ho
    exact ho.push (hspares name.val hname)

theorem keeps_unregisterMethod_since
    {methodName : Option CString}
    (hspares : SparesReserved methodName)
    (objectName : Option CString) :
    Program.Keeps recording (Since w₀)
      (rbusUnregisterMethod objectName methodName : CoreM M W RbusError) := by
  refine keeps_rbusUnregisterMethod searching_since _ _ fun p name hname => ?_
  refine keeps_updateObject_since ?_ ?_ p <;> intro o
  · rfl
  · intro ho
    exact ho.remove (hspares name hname)

theorem keeps_unregisterEvent_since
    (objectName eventName : Option CString) :
    Program.Keeps recording (Since w₀)
      (rbusUnregisterEvent objectName eventName : CoreM M W RbusError) := by
  refine keeps_rbusUnregisterEvent searching_since _ _ fun p name => ?_
  refine keeps_updateObject_since ?_ ?_ p <;> intro o
  · rfl
  · intro ho
    exact ho.of_same rfl rfl fun _ _ => rfl

theorem keeps_removeObject_since
    (name : CString) :
    Program.Keeps recording (Since w₀)
      (updateServerObjects (rtVectorRemoveFound serverObjectCompare name) :
        CoreM M W Unit) := by
  intro w h
  have hsub : (rtVectorRemoveFound serverObjectCompare name w.gServerObjects.items).Sublist
      w.gServerObjects.items := List.eraseP_sublist
  rw [sat_updateServerObjects]
  refine h.withObjects (rtVectorRemoveFound serverObjectCompare name w.gServerObjects.items)
    rfl ?_ rfl ⟨?_, ?_, ?_⟩ fun o ho => ⟨o, hsub.subset ho, rfl⟩
  · dsimp only
    rw [h.1.vector, RtVector.update_live, RtVector.items_live]
  · exact h.1.records.addresses.sublist (hsub.map ServerObject.ptr)
  · exact fun o ho => h.1.records.allocated o (hsub.subset ho)
  · exact fun o ho => h.1.records.handlers o (hsub.subset ho)

theorem map_connection_since
    (f : Connection → Connection)
    (h : Since w₀ w) :
    Since w₀ { w with gConnection := w.gConnection.map f } :=
  h.same Option.isSome_map rfl (Nat.le_refl _)

/-- A new object, at an address that no other one will get. -/
structure Fresh (o : ServerObject) (w : World M W) : Prop where
  methods : o.methods = []
  flag : o.processEventSubscriptions = false
  allocated : o.ptr < w.nextPtr
  absent : ∀ x ∈ w.gServerObjects.items, x.ptr ≠ o.ptr

theorem Fresh.grown
    {o : ServerObject} {w' : World M W}
    (h : Fresh o w)
    (hgrown : Grown w w') :
    Fresh o w' := by
  refine ⟨h.methods, h.flag, Nat.lt_of_lt_of_le h.allocated hgrown.nextPtr, fun x hx hptr => ?_⟩
  rcases hgrown.objects x hx with ⟨y, hy, hsame⟩ | hnew
  · exact h.absent y hy (hsame.trans hptr)
  · rw [hptr] at hnew
    exact Nat.not_le_of_lt h.allocated hnew

theorem Fresh.handlersInv
    {o : ServerObject}
    (h : Fresh o w) :
    HandlersInv o := by
  refine .absent h.flag ?_ ?_ <;> rw [ServerObject.method?, h.methods] <;> rfl

/-- The new object is entered. -/
theorem sat_pushObject_since
    {o : ServerObject}
    (h : Since w₀ w)
    (ho : Fresh o w)
    (hnew : w₀.nextPtr ≤ o.ptr) :
    Program.Sat recording (updateServerObjects fun objects => objects ++ [o])
      (fun _ => Since w₀) w := by
  obtain ⟨⟨hcon, hvector, hrecords⟩, hgrown⟩ := h
  have hitems : (w.gServerObjects.update fun objects => objects ++ [o]) =
      .live (w.gServerObjects.items ++ [o]) := by
    rw [hvector, RtVector.update_live, RtVector.items_live]
  have hfree : KeyedList.lookup ServerObject.ptr o.ptr w.gServerObjects.items = none :=
    KeyedList.lookup_eq_none_iff.mpr ho.absent
  rw [sat_updateServerObjects]
  refine ⟨⟨hcon, ?_, ?_⟩, hgrown.nextPtr, ?_⟩ <;> dsimp only <;>
    rw [hitems, RtVector.items_live]
  · refine ⟨hrecords.addresses.append hfree, fun x hx => ?_, fun x hx => ?_⟩ <;>
      rcases List.mem_append.mp hx with hold | hlast
    · exact hrecords.allocated x hold
    · exact List.mem_singleton.mp hlast ▸ ho.allocated
    · exact hrecords.handlers x hold
    · exact List.mem_singleton.mp hlast ▸ ho.handlersInv
  · intro x hx
    rcases List.mem_append.mp hx with hold | hlast
    · exact hgrown.objects x hold
    · exact Or.inr (List.mem_singleton.mp hlast ▸ hnew)

theorem keeps_registerObj_since
    (objectName : Option CString) (handler : Nat) (userData : Ptr) :
    Program.Keeps recording (Since w₀)
      (rbusRegisterObj objectName handler userData : CoreM M W RbusError) := by
  have hsearch (v : World M W) : Program.Keeps recording (Since v) serverObjects :=
    keeps_serverObjects steady_since.toCalling fun _ _ _ h => h.same rfl rfl (Nat.le_refl _)
  have hlock (v : World M W) : Program.Keeps recording (Since v) lock :=
    leads_lock searching_since.toExclusive
  have hunlock := leads_unlock_pure (I := fun _ => Since w₀) searching_since.toExclusive
    RbusError.success
  refine Program.keeps_bind Program.keeps_getState fun _ => ?_
  refine Program.keeps_ite (Program.keeps_pure _) ?_
  cases objectName with
  | none =>
      exact Program.keeps_pure _
  | some objectName =>
      dsimp only
      generalize objectNameLengthInvalid objectName = invalid
      refine Program.keeps_ite (Program.keeps_pure _) ?_
      refine Program.keeps_bind (hlock w₀) fun _ => Program.keeps_bind (hsearch w₀) fun _ => ?_
      refine Program.keeps_bind (leads_unlock searching_since.toExclusive) fun _ => ?_
      refine Program.keeps_ite (Program.keeps_pure _) fun w h => ?_
      rw [serverObjectCreate]
      cases hname : BoundedName.check? maxObjectNameLength objectName with
      | none =>
          rw [strcpy, hname]
          exact trivial
      | some name =>
          rw [strcpy, hname]
          let o : ServerObject :=
            { ptr := w.nextPtr, name := name, data := userData, callback := handler
              processEventSubscriptions := false, methods := [], subscriptions := []
              subscribeHandlerOverride := none, subscribeHandlerData := 0 }
          let w₁ : World M W := { w with nextPtr := w.nextPtr + 1 }
          have h₁ : Since w₀ w₁ := h.same rfl rfl (Nat.le_succ _)
          have ho : Fresh o w₁ := by
            refine ⟨rfl, rfl, Nat.lt_succ_self _, fun x hx hptr => ?_⟩
            exact Nat.lt_irrefl _ (hptr ▸ h.1.records.allocated x hx)
          have hadd : Program.Keeps recording (Since w₁ : World M W → Prop)
              (rtConnectionAddListener objectName (.onMessage o.ptr)) :=
            keeps_rtConnectionAddListener steady_since.toCalling
              (fun _ f h => map_connection_since f h) _ _
          refine (hadd w₁ ⟨h₁.1, .refl _⟩).bind fun err w₂ h₂ => ?_
          rw [Program.sat_ite]
          split
          · refine (hlock w₁ w₂ h₂).bind fun _ w₃ h₃ => ?_
            refine (hsearch w₁ w₃ h₃).bind fun _ w₄ h₄ => ?_
            have h₀₄ : Since w₀ w₄ := h₁.trans fun _ => h₄
            exact (sat_pushObject_since h₀₄ (ho.grown h₄.2) h.2.nextPtr).bind fun _ w₅ h₅ =>
              hunlock w₅ h₅
          · exact h₁.trans fun _ => h₂

/-- The operations that install the reserved methods keep them in order, too. -/
theorem keeps_installingOp_since
    (op : InstallingOp) :
    Program.Keeps recording (Since w₀) (op.run : CoreM M W RbusError) := by
  intro w h
  have hrecords := h.1.records
  refine (sat_installingOp hrecords.addresses h.1.vector op).mono fun ret w' hret => ?_
  cases hfound : op.object? w with
  | none =>
      rw [hfound] at hret
      obtain ⟨-, hvector, hnextPtr, hconnection⟩ := hret
      exact h.same (congrArg Option.isSome hconnection) (hvector.trans h.1.vector.symm)
        hnextPtr.ge
  | some o =>
      rw [hfound] at hret
      obtain ⟨-, hvector, hnextPtr, hconnection⟩ := hret
      have hentered := op.enter_same o
      have hensured := ensureHandlers_same (op.enter o)
      have hmem := KeyedList.mem_of_lookup (InstallingOp.lookup_of_object? hfound)
      have hhandlers := (hentered.handlersInv (hrecords.handlers o hmem)).ensureHandlers
      refine h.withObjects _ (congrArg Option.isSome hconnection) hvector hnextPtr
        (hrecords.updateAt (fun _ _ => rfl) fun _ _ _ => hhandlers) fun x hx => ?_
      obtain ⟨y, hy, rfl⟩ := List.mem_map.mp hx
      refine ⟨y, hy, ?_⟩
      split
      case isTrue hptr =>
        exact hptr
      case isFalse =>
        rfl

variable [MessageApi M W]

/-- There is a connection already. -/
theorem keeps_open_since
    (componentName brokerAddress : Option CString) :
    Program.Keeps recording (Since w₀)
      (rbusOpenBrokerConnection2 componentName brokerAddress : CoreM M W RbusError) := by
  have hunlock : Program.Keeps recording (Since w₀ : World M W → Prop) unlock :=
    leads_unlock searching_since.toExclusive
  refine leads_rbusOpenBrokerConnection2 (L := Since w₀) (D := fun _ => False)
    (O := fun _ => False) (F := fun _ => False) (fun _ h => h)
    (keeps_initMutex fun _ h => h.same rfl rfl (Nat.le_refl _))
    (leads_lock searching_since.toExclusive) (fun w _ _ h => hunlock w h) ?_ ?_
    (fun _ _ h => h.elim) (fun _ _ _ h => h.elim) (fun _ h => h.elim) (fun _ h => h.elim) _ _
  · intro w hnone h
    have hconnected := h.1.connected
    rw [hnone] at hconnected
    cases hconnected
  · exact ⟨⟨fun _ _ _ h => h, fun _ _ _ h => h, fun _ _ _ _ _ h => h, fun _ _ _ h => h.elim,
      fun _ h => h.elim⟩, fun _ _ _ _ h => h⟩

theorem keeps_subscribe_since
    (objectName eventName : Option CString) (callback : Option Nat)
    (payload : Option (MessageRef M)) (userData : Ptr) (timeout : Int) :
    Program.Keeps recording (Since w₀)
      (rbusSubscribeToEventInternal objectName eventName callback payload userData timeout :
        CoreM M W (RbusError × Option Int)) := by
  have hlocking : Locking recording fun _ => (Since w₀ : World M W → Prop) :=
    locking_since
  refine keeps_rbusSubscribeToEventInternal (I := fun _ => Since w₀) hlocking
    ?_ (fun _ _ => keeps_rollbackUnlessMaster hlocking _ _) _ _ _ _ _ _
  exact keeps_startEventDispatch steady_since (fun w f h => map_connection_since f h)
    fun _ h => h.same rfl rfl (Nat.le_refl _)

/-- Every operation keeps the objects in order that leaves the reserved methods alone. -/
theorem keeps_publicOp_since
    {op : PublicOp M}
    (hspares : op.sparesReserved) :
    Program.Keeps recording (Since w₀) (op.run : CoreM M W Unit) := by
  have hlock : Program.Keeps recording (Since w₀ : World M W → Prop) lock :=
    leads_lock searching_since.toExclusive
  have hunlock : Program.Keeps recording (Since w₀ : World M W → Prop) unlock :=
    leads_unlock searching_since.toExclusive
  have hmap (w : World M W) (f : Connection → Connection) (h : Since w₀ w) :=
    map_connection_since f h
  have hadvisory (w : World M W) (installed : Bool) (callback : Option Nat) (h : Since w₀ w) :
      Since w₀
        { w with gAdvisoryListenerInstalled := installed, gClientDisconnectCallback := callback } :=
    h.same rfl rfl (Nat.le_refl _)
  cases op with
  | openBrokerConnection componentName =>
      exact keeps_ignoreResult (keeps_open_since componentName none)
  | openBrokerConnection2 componentName brokerAddress =>
      exact keeps_ignoreResult (keeps_open_since componentName brokerAddress)
  | closeBrokerConnection =>
      exact hspares.elim
  | registerObj objectName handler userData =>
      exact keeps_ignoreResult (keeps_registerObj_since _ _ _)
  | unregisterObj objectName =>
      exact keeps_ignoreResult (keeps_rbusUnregisterObj searching_since hmap _
        keeps_removeObject_since)
  | registerMethod objectName methodName handler userData =>
      exact keeps_ignoreResult (keeps_registerMethod_since hspares _ _ _)
  | unregisterMethod objectName methodName =>
      exact keeps_ignoreResult (keeps_unregisterMethod_since hspares _)
  | registerMethodTable objectName table =>
      exact keeps_ignoreResult (keeps_rbusRegisterMethodTable (I := fun _ => Since w₀) _ _
        fun entry he => keeps_registerMethod_since (hspares entry he) _ _ _)
  | unregisterMethodTable objectName table =>
      exact keeps_ignoreResult (keeps_rbusUnregisterMethodTable (I := fun _ => Since w₀) _ _
        fun entry he => keeps_unregisterMethod_since (hspares entry he) _)
  | publishEvent objectName eventName out =>
      exact keeps_ignoreResult (keeps_rbusPublishEvent searching_since _ _ _)
  | publishSubscriberEvent objectName eventName listener out =>
      exact keeps_ignoreResult (keeps_rbusPublishSubscriberEvent searching_since _ _ _ _)
  | registerEvent objectName eventName callback userData =>
      exact keeps_ignoreResult
        (keeps_installingOp_since (.registerEvent objectName eventName callback userData))
  | unregisterEvent objectName eventName =>
      exact keeps_ignoreResult (keeps_unregisterEvent_since _ _)
  | subscribeToEvent objectName eventName callback payload userData =>
      exact keeps_ignoreResult (keeps_subscribe_since _ _ _ _ _ _)
  | subscribeToEventTimeout objectName eventName callback payload userData timeout =>
      exact keeps_ignoreResult (keeps_subscribe_since _ _ _ _ _ _)
  | unsubscribeFromEvent objectName eventName payload =>
      exact keeps_ignoreResult (keeps_rbusUnsubscribeFromEvent locking_since _ _ _)
  | registerSubscribeHandler objectName callback userData =>
      exact keeps_ignoreResult
        (keeps_installingOp_since (.registerSubscribeHandler objectName callback userData))
  | registerMasterEventHandler callback userData =>
      exact keeps_ignoreResult fun _ h => h.same rfl rfl (Nat.le_refl _)
  | registerClientDisconnectHandler callback =>
      exact keeps_ignoreResult (keeps_rbusRegisterClientDisconnectHandler steady_since.toCalling
        hmap hlock hunlock hadvisory callback)
  | unregisterClientDisconnectHandler =>
      exact keeps_ignoreResult (keeps_rbusUnregisterClientDisconnectHandler steady_since.toCalling
        hmap hlock hunlock hadvisory)
  | _ =>
      exact keeps_messageOp responding_since rfl

theorem keeps_recordedDispatch_since
    (msg : MessageRef M) (hdr : RtMessageHeader) (obj : Ptr) :
    Program.Keeps recording (Since w₀) (recordedDispatch msg hdr obj : CoreM M W Unit) := by
  refine Program.keeps_bind (fun _ h => h.same rfl rfl (Nat.le_refl _)) fun _ => ?_
  refine Program.keeps_bind (keeps_dispatchMethodCall serving_since msg hdr obj) fun _ => ?_
  exact fun _ h => h.same rfl rfl (Nat.le_refl _)

/-- The loop over the queue of requests. -/
theorem keeps_drainQueuedRequests_since
    (rounds : Nat) :
    Program.Keeps recording (Since w₀) (drainQueuedRequests rounds : CoreM M W Unit) := by
  induction rounds with
  | zero =>
      intro w h
      have hcall : Since w₀ { w with log := w.log ++ [.call .loop] } :=
        h.same rfl rfl (Nat.le_refl _)
      refine ⟨hcall.1, ?_⟩
      rintro ⟨⟩
  | succ rounds ih =>
      refine Program.keeps_bind Program.keeps_getState fun w => ?_
      split
      · exact Program.keeps_pure _
      · refine Program.keeps_bind (keeps_recordedDispatch_since _ _ _) fun _ => ?_
        exact Program.keeps_bind (fun _ h => h.same rfl rfl (Nat.le_refl _)) fun _ => ih

/-- A request that arrives, however it is answered. -/
theorem keeps_onMessage_since
    (rounds : Nat) (hdr : RtMessageHeader) (data : W) (closure : Ptr) :
    Program.Keeps recording (Since w₀) (onMessage rounds hdr data closure : CoreM M W Unit) := by
  have hcounter (f : Nat → Nat) :
      Program.Keeps recording (Since w₀ : World M W → Prop) (updateStackCounter f) :=
    fun _ h => h.same rfl rfl (Nat.le_refl _)
  refine Program.keeps_bind (keeps_newMessage steady_since _) fun msg => ?_
  refine Program.keeps_bind Program.keeps_getState fun _ => ?_
  refine Program.keeps_bind (fun _ h => h.same rfl rfl (Nat.le_refl _)) fun _ => ?_
  refine Program.keeps_bind (hcounter _) fun _ => ?_
  refine Program.keeps_bind ?_ fun _ => Program.keeps_bind ?_ fun _ =>
    Program.keeps_bind (hcounter _) fun _ => keeps_rbusMessageRelease steady_since msg
  · refine Program.keeps_bind Program.keeps_getState fun w => ?_
    refine Program.keeps_ite ?_ (keeps_recordedDispatch_since _ _ _)
    refine Program.keeps_bind (Program.keeps_bind (keeps_rtMalloc steady_since) fun _ =>
      Program.keeps_pure _) fun _ => ?_
    exact fun _ h => h.same rfl rfl (Nat.le_refl _)
  · refine Program.keeps_bind Program.keeps_getState fun w => ?_
    exact Program.keeps_ite (keeps_drainQueuedRequests_since rounds) (Program.keeps_pure _)

end Operations

section Runs

/-- What a process does that leaves the reserved methods alone: calls of the library, requests
that arrive, and what has nothing to do with the objects. -/
inductive SparingActivity (M W : Type) where
  | call (op : PublicOp M) (hspares : op.sparesReserved)
  | deliver (rounds : Nat) (hdr : RtMessageHeader) (data : W) (closure : Ptr)
  | other (f : World M W → World M W)
      (hconnected : ∀ w, (f w).gConnection.isSome = w.gConnection.isSome)
      (hvector : ∀ w, (f w).gServerObjects = w.gServerObjects)
      (hnextPtr : ∀ w, w.nextPtr ≤ (f w).nextPtr)

variable {M W : Type} [MessageApi M W]

/-- The code an activity runs. -/
def SparingActivity.run : SparingActivity M W → CoreM M W Unit
  | .call op _ => op.run
  | .deliver rounds hdr data closure => onMessage rounds hdr data closure
  | .other f _ _ _ => Program.modifyState f

/-- Answers to calls, with activities nested in them to depth `n`. -/
abbrev sparing (n : Nat) : (e : Call M W) → World M W → e.Answer → World M W → Prop :=
  Nest SparingActivity.run (fun _ => True) n

/-- Runs from a freshly opened connection in which the application leaves the reserved methods
alone, between its activities and inside them. -/
inductive SparingRun : World M W → Prop
  | opened {w : World M W}
      (hconnected : w.gConnection.isSome = true)
      (hvector : w.gServerObjects = .live []) :
      SparingRun w
  | activity {n : Nat} {a : SparingActivity M W} {w w' : World M W}
      (h : SparingRun w)
      (hreturns : Program.Returns (sparing n) a.run w () w') :
      SparingRun w'
  | inside {n : Nat} {a : SparingActivity M W} {w w' : World M W} {e : Call M W}
      (h : SparingRun w)
      (hwaits : Program.Waits (sparing n) a.run w e w') :
      SparingRun w'

theorem keeps_sparingActivity
    (w₀ : World M W)
    (a : SparingActivity M W) :
    Program.Keeps recording (Since w₀) a.run := by
  cases a with
  | call op hspares =>
      exact keeps_publicOp_since hspares
  | deliver rounds hdr data closure =>
      exact keeps_onMessage_since rounds hdr data closure
  | other f hconnected hvector hnextPtr =>
      exact fun w h => h.same (hconnected w) (hvector w) (hnextPtr w)

/-- Whatever is nested in a call, to any depth, keeps the objects in order. -/
theorem sparing_since
    (n : Nat) (e : Call M W) (w : World M W) (a : e.Answer) (w' : World M W)
    (h : sparing n e w a w') :
    Recorded w → Since w w' := by
  refine nest_guarantee SparingActivity.run _ (fun w w' => Recorded w → Since w w')
    (fun w hw => ⟨hw, .refl w⟩) (fun _ _ _ h h' hw => (h hw).trans h')
    (fun R hR i s s' hreturns hs => ?_) n e w a w' h
  have hend := Program.returns_of_sat hR (keeps_sparingActivity s i s ⟨hs, .refl s⟩) hreturns
  exact hend

/-- Every run keeps the objects in order. -/
theorem SparingRun.recorded
    {w : World M W}
    (h : SparingRun w) :
    Recorded w := by
  induction h with
  | opened hconnected hvector =>
      refine ⟨hconnected, ?_, ?_⟩ <;> rw [hvector, RtVector.items_live]
      exact ⟨KeyedList.distinct_nil, by simp, by simp⟩
  | @activity n a w w' _ hreturns ih =>
      have hend := Program.returns_of_sat (sparing_since n)
        (keeps_sparingActivity w a w ⟨ih, .refl w⟩) hreturns
      exact hend.1
  | @inside n a w w' e _ hwaits ih =>
      have hcall := Program.waits_of_sat (sparing_since n)
        (keeps_sparingActivity w a w ⟨ih, .refl w⟩) hwaits
      exact hcall

end Runs

section Outcome

variable {M W : Type}

/-- The object registered under a name. -/
def objectNamed (w : World M W) (name : CString) : Option ServerObject :=
  rtVectorFind serverObjectCompare w.gServerObjects.items name

/-- The object an operation is about. -/
def InstallingOp.objectName : InstallingOp → Option CString
  | .registerEvent objectName _ _ _ => objectName
  | .registerSubscribeHandler objectName _ _ => objectName

/-- A success enters something and leaves both methods at the object, and an error changes
nothing of any object. -/
structure AllOrNothing (op : InstallingOp) (w : World M W) (ret : RbusError) (w' : World M W) :
    Prop where
  success : ret = .success → ∃ name o, op.objectName = some name ∧ objectNamed w' name = some o ∧
    op.Entered o ∧ o.Handles methodAddEventSubscription ∧ o.Handles methodRemoveEventSubscription
  failure : ret ≠ .success → ∀ name, (objectNamed w' name).map ServerObject.registration =
    (objectNamed w name).map ServerObject.registration

/-- The object has both methods or room for them; or it has no room for the first one, and what
is to be entered has been entered already. -/
def InstallingOp.Settles (op : InstallingOp) (w : World M W) : Prop :=
  ∀ o, op.object? w = some o → o.Installs ∨ o.Refuses ∧ op.Entered o

variable {w w' : World M W} {op : InstallingOp} {o : ServerObject} {ret : RbusError}

theorem InstallingOp.objectName_of_object?
    (h : op.object? w = some o) :
    op.objectName = some o.key := by
  have hkey {objectName : Option CString}
      (h : objectName.bind (fun name =>
        rtVectorFind serverObjectCompare w.gServerObjects.items name) = some o) :
      objectName = some o.key := by
    obtain ⟨name, hname, hfound⟩ := Option.bind_eq_some_iff.mp h
    rw [find_object] at hfound
    rw [hname, KeyedList.key_of_lookup hfound]
  cases op with
  | registerEvent | registerSubscribeHandler =>
      rw [InstallingOp.object?] at h
      split at h
      · exact hkey h
      · cases h

/-- What is entered at an object is there afterwards, and changes nothing exactly when it was
there before. -/
theorem InstallingOp.enter_spec
    (h : op.object? w = some o) :
    op.Entered (op.enter o) ∧
      ((op.enter o).subscriptions = o.subscriptions ∧
        (op.enter o).subscribeHandlerOverride = o.subscribeHandlerOverride ∧
        (op.enter o).subscribeHandlerData = o.subscribeHandlerData ↔ op.Entered o) := by
  cases op with
  | registerSubscribeHandler objectName callback userData =>
      refine ⟨⟨rfl, rfl⟩, fun hsame => ⟨hsame.2.1.symm, hsame.2.2.symm⟩, fun hentered => ?_⟩
      exact ⟨rfl, hentered.1.symm, hentered.2.symm⟩
  | registerEvent objectName eventName callback userData =>
      rw [InstallingOp.object?] at h
      split at h
      case isFalse =>
        cases h
      case isTrue hfits =>
        obtain ⟨name, hname⟩ := Option.isSome_iff_exists.mp hfits.2
        have hval : name.val = eventName.getD defaultEvent := BoundedName.check?_eq_some_iff.mp hname
        have hcheck : BoundedName.check? maxEventNameLength name.val = some name :=
          BoundedName.check?_eq_some_iff.mpr rfl
        simp only [InstallingOp.enter, InstallingOp.Entered, ← hval, hcheck]
        split
        case isTrue hfound =>
          exact ⟨hfound, fun _ => hfound, fun _ => ⟨rfl, rfl, rfl⟩⟩
        case isFalse hnew =>
          refine ⟨?_, fun hsame => ?_, fun hfound => absurd hfound hnew⟩
          · rw [rtVectorFind, List.find?_isSome]
            refine ⟨_, List.mem_append_right _ List.mem_cons_self, decide_eq_true ?_⟩
            exact (serverEventCompare_eq_zero_iff _ _).mpr rfl
          · have hlength := congrArg List.length hsame.1
            rw [List.length_append, List.length_singleton] at hlength
            omega

/-- With the methods of another object, the same is installed and refused. -/
theorem SameMethods.installs_iff
    {o' : ServerObject}
    (h : SameMethods o o') :
    (o'.Installs ↔ o.Installs) ∧ (o'.Refuses ↔ o.Refuses) := by
  have hmethod : o'.method? methodAddEventSubscription = o.method? methodAddEventSubscription := by
    rw [ServerObject.method?, h.methods]
    rfl
  rw [ServerObject.Installs, ServerObject.Installs, ServerObject.Refuses, ServerObject.Refuses,
    h.flag, h.methods, hmethod]
  exact ⟨Iff.rfl, Iff.rfl⟩

/-- Nothing of any object changes exactly when nothing of the one does that is replaced. -/
theorem Holding.unchanged_iff
    {old : ServerObject}
    (h : Replaces w.gServerObjects.items old o)
    (hw : Holding w.gServerObjects.items w o w') :
    (∀ name, (objectNamed w' name).map ServerObject.registration =
        (objectNamed w name).map ServerObject.registration) ↔
      o.registration = old.registration := by
  have hlookup (name : CString) : objectNamed w' name =
      (objectNamed w name).map fun x => if x.ptr = o.ptr then o else x := by
    rw [objectNamed, objectNamed, find_object, find_object, hw.vector, RtVector.items_live]
    exact h.lookup name
  constructor
  · intro hsame
    have hfound : objectNamed w old.key = some old := by
      rw [objectNamed, find_object]
      exact h.found
    have hold := hsame old.key
    rw [hlookup, hfound, Option.map_some, if_pos h.ptr.symm] at hold
    exact Option.some.inj hold
  · intro hsame name
    rw [hlookup, Option.map_map]
    cases hfound : objectNamed w name with
    | none =>
        rfl
    | some x =>
        rw [Option.map_some, Option.map_some, Function.comp_apply]
        split
        case isTrue hptr =>
          rw [objectNamed, find_object] at hfound
          rw [h.eq_old (KeyedList.mem_of_lookup hfound) hptr, hsame]
        case isFalse =>
          rfl

theorem InstallingOp.Entered.of_same
    {o' : ServerObject}
    (h : op.Entered o)
    (hsame : SameEntries o o') :
    op.Entered o' := by
  cases op with
  | registerEvent objectName eventName callback userData =>
      rw [InstallingOp.Entered, hsame.subscriptions]
      exact h
  | registerSubscribeHandler objectName callback userData =>
      exact ⟨hsame.subscribeHandlerOverride.trans h.1, hsame.subscribeHandlerData.trans h.2⟩

/-- What an operation does at its object, in terms of the object alone. -/
theorem allOrNothing_iff
    (hrecords : Records w.nextPtr w.gServerObjects.items)
    (hfound : op.object? w = some o)
    (hw : Holding w.gServerObjects.items w (op.enter o).ensureHandlers.2 w') :
    AllOrNothing op w ret w' ↔
      (ret = .success → (op.enter o).ensureHandlers.2.Handles methodAddEventSubscription ∧
        (op.enter o).ensureHandlers.2.Handles methodRemoveEventSubscription) ∧
      (ret ≠ .success → (op.enter o).ensureHandlers.2.registration = o.registration) := by
  have hsame := ensureHandlers_same (op.enter o)
  have henter := op.enter_same o
  have hreplaces : Replaces w.gServerObjects.items o (op.enter o).ensureHandlers.2 :=
    ⟨hrecords.addresses, InstallingOp.lookup_of_object? hfound, hsame.ptr.trans henter.ptr,
      hsame.name.trans henter.name⟩
  have hkey : (op.enter o).ensureHandlers.2.key = o.key := congrArg Subtype.val hreplaces.name
  have hnamed : objectNamed w' o.key = some (op.enter o).ensureHandlers.2 := by
    rw [objectNamed, find_object, hw.vector, RtVector.items_live, ← hkey]
    exact hreplaces.lookup_key
  have hname := InstallingOp.objectName_of_object? hfound
  constructor
  · rintro ⟨hsuccess, hfailure⟩
    refine ⟨fun hret => ?_, fun hret => (hw.unchanged_iff hreplaces).mp (hfailure hret)⟩
    obtain ⟨name, x, hx, hfoundx, -, hadd, hremove⟩ := hsuccess hret
    rw [hname] at hx
    obtain rfl := Option.some.inj hx
    rw [hnamed] at hfoundx
    obtain rfl := Option.some.inj hfoundx
    exact ⟨hadd, hremove⟩
  · rintro ⟨hsuccess, hfailure⟩
    refine ⟨fun hret => ?_, fun hret => (hw.unchanged_iff hreplaces).mpr (hfailure hret)⟩
    obtain ⟨hadd, hremove⟩ := hsuccess hret
    exact ⟨o.key, _, hname, hnamed, (InstallingOp.enter_spec hfound).1.of_same hsame, hadd, hremove⟩

/-- Nothing of the object changes when no method is added and nothing is entered. -/
theorem registration_iff
    (hfound : op.object? w = some o) :
    (op.enter o).ensureHandlers.2.registration = o.registration ↔
      (op.enter o).ensureHandlers.2.methods = (op.enter o).methods ∧ op.Entered o := by
  have hsame := ensureHandlers_same (op.enter o)
  rw [← (InstallingOp.enter_spec hfound).2, (op.enter_same o).methods, ServerObject.registration,
    ServerObject.registration, hsame.subscriptions, hsame.subscribeHandlerOverride,
    hsame.subscribeHandlerData]
  simp only [Prod.mk.injEq]
  tauto

variable [MessageApi M W]

/-- Both operations come to an end at once. -/
theorem SparingRun.performed
    (h : SparingRun w)
    (op : InstallingOp) :
    ∃ ret w', op.run w = .done ret w' ∧
      Performed op w.gServerObjects.items w (op.object? w) ret w' := by
  let C : Contract (Call.Answer (M := M) (W := W)) (World M W) :=
    { env := fun _ _ _ _ => True, atCall := fun _ _ => False, atUndef := fun _ => False }
  exact Program.done_of_sat (C := C) (fun _ _ hcall => hcall) (fun _ hundef => hundef)
    (sat_installingOp h.recorded.records.addresses h.recorded.vector op)

/--
In every run in which the application leaves the reserved methods alone, both operations come
to an end, and what they do is done as a whole or not at all exactly when the object has both
reserved methods or room for both, or no room for the first one and nothing new to be entered.
-/
theorem all_or_nothing_iff
    (h : SparingRun w)
    (op : InstallingOp) :
    (∃ ret w', op.run w = .done ret w') ∧
      ∀ ret w', op.run w = .done ret w' → (AllOrNothing op w ret w' ↔ op.Settles w) := by
  have hrecords := h.recorded.records
  obtain ⟨ret, w', hdone, hperformed⟩ := h.performed op
  refine ⟨⟨ret, w', hdone⟩, fun ret₁ w₁ hdone₁ => ?_⟩
  rw [hdone] at hdone₁
  obtain ⟨rfl, rfl⟩ := Prog.done.inj hdone₁
  cases hfound : op.object? w with
  | none =>
      rw [hfound] at hperformed
      obtain ⟨hret, hvector, -, -⟩ := hperformed
      refine ⟨fun _ o ho => ?_, fun _ => ⟨fun hsuccess => absurd hsuccess hret, fun _ name => ?_⟩⟩
      · rw [hfound] at ho
        cases ho
      · rw [objectNamed, objectNamed, hvector, RtVector.items_live]
  | some o =>
      rw [hfound] at hperformed
      obtain ⟨rfl, hw⟩ := hperformed
      have henter := op.enter_same o
      have hmem := KeyedList.mem_of_lookup (InstallingOp.lookup_of_object? hfound)
      have hhandlers := henter.handlersInv (hrecords.handlers o hmem)
      have hinstalled := ensureHandlers_success_iff hhandlers
      have hrefused := ensureHandlers_failure_iff hhandlers
      have hsettles : op.Settles w ↔
          (op.enter o).Installs ∨ (op.enter o).Refuses ∧ op.Entered o := by
        rw [henter.installs_iff.1, henter.installs_iff.2]
        refine ⟨fun hall => hall o hfound, fun hone x hx => ?_⟩
        rw [hfound] at hx
        exact Option.some.inj hx ▸ hone
      rw [allOrNothing_iff hrecords hfound hw, hsettles, registration_iff hfound]
      by_cases hret : (op.enter o).ensureHandlers.1 = .success
      · constructor
        · intro hall
          exact Or.inl (hinstalled.mp ⟨hret, hall.1 hret⟩)
        · rintro (hinstalls | ⟨hrefuses, -⟩)
          · exact ⟨fun _ => (hinstalled.mpr hinstalls).2, fun hfail => absurd hret hfail⟩
          · exact absurd hret (hrefused.mpr hrefuses).1
      · constructor
        · intro hall
          obtain ⟨hmethods, hentered⟩ := hall.2 hret
          exact Or.inr ⟨hrefused.mp ⟨hret, hmethods⟩, hentered⟩
        · rintro (hinstalls | ⟨hrefuses, hentered⟩)
          · exact absurd (hinstalled.mpr hinstalls).1 hret
          · exact ⟨fun hsuccess => absurd hsuccess hret,
              fun _ => ⟨(hrefused.mpr hrefuses).2, hentered⟩⟩

end Outcome

section Run

/-- A process that has just opened a connection. -/
def freshProcess : World Bytes (List UInt8) :=
  { (World.initial .empty .empty : World Bytes (List UInt8)) with
    gConnection := some (sampleConnection 1)
    gServerObjects := .live []
    gEventSubscriptionsForClient := .live []
    nextPtr := 2 }

/-- A transport that takes every listener. -/
def takingAnswer :
    (e : Call Bytes (List UInt8)) → World Bytes (List UInt8) →
      Option (e.Answer × World Bytes (List UInt8))
  | .addListener .., w => some (.rtOk, w)
  | _, _ => none

theorem SparingRun.run
    {w w' : World Bytes (List UInt8)} {op : PublicOp Bytes}
    (h : SparingRun w)
    (hspares : op.sparesReserved)
    (hrun : (op.run w).run takingAnswer = some ((), w')) :
    SparingRun w' := by
  refine .activity (n := 0) (a := .call op hspares) h (Program.returns_of_run ?_ hrun)
  intro e w a w' hanswer
  cases e with
  | addListener =>
      exact (congrArg Prod.snd (Option.some.inj hanswer)).symm
  | _ =>
      cases hanswer

/-- The object `o` is registered. -/
def sampleRegisterObj : PublicOp Bytes :=
  .registerObj (some sampleObjectName.val) 0 0

/-- The event `e` of the object. -/
def sampleRegisterEvent : InstallingOp :=
  .registerEvent (some sampleObjectName.val) (some sampleEventName.val) none 0

/-- Methods of the application: their names have different lengths. -/
def appMethods (count : Nat) : List RbusMethodTableEntry :=
  (List.range count).map fun i =>
    { method := some ⟨List.replicate (i + 1) 109, fun c hc => by
        rw [List.eq_of_mem_replicate hc]
        decide⟩
      userData := 0
      callback := .app 0 }

/-- So many methods are registered at the object. -/
def sampleRegisterMethods (count : Nat) : PublicOp Bytes :=
  .registerMethodTable (some sampleObjectName.val) (appMethods count)

/-- How many methods an object has, and which of the reserved ones. -/
structure MethodCount where
  methods : Nat
  add : Bool
  remove : Bool
deriving DecidableEq

/-- The methods of the object `o`. -/
def methodsAt (w : World Bytes (List UInt8)) : Option MethodCount :=
  (objectNamed w sampleObjectName.val).map fun o =>
    { methods := o.methods.length
      add := (o.method? methodAddEventSubscription).isSome
      remove := (o.method? methodRemoveEventSubscription).isSome }

/-- An operation that is called twice: whether it succeeds, and the methods before and after
it. -/
structure Attempts where
  before : Option MethodCount
  first : Bool
  between : Option MethodCount
  second : Bool
  after : Option MethodCount
deriving DecidableEq

/-- Call it twice. -/
def attempts (op : InstallingOp) (w : World Bytes (List UInt8)) : Option Attempts :=
  match op.run w with
  | .done ret w₁ =>
      match op.run w₁ with
      | .done ret' w₂ =>
          some { before := methodsAt w, first := ret = .success, between := methodsAt w₁
                 second := ret' = .success, after := methodsAt w₂ }
      | _ => none
  | _ => none

theorem sampleRegisterMethods_spares
    (count : Nat) :
    (sampleRegisterMethods count).sparesReserved := by
  intro entry he name hname hreserved
  obtain ⟨i, -, rfl⟩ := List.mem_map.mp he
  obtain rfl := Option.some.inj hname
  have hadd : some (109 : UInt8) ≠ methodAddEventSubscription.chars.head? := by decide
  have hremove : some (109 : UInt8) ≠ methodRemoveEventSubscription.chars.head? := by decide
  rcases hreserved with heq | heq
  · exact hadd (congrArg (fun s : CString => s.chars.head?) heq)
  · exact hremove (congrArg (fun s : CString => s.chars.head?) heq)

/-- An object without methods gets both. -/
theorem roomy_object_settles :
    ∃ w : World Bytes (List UInt8), methodsAt w = some ⟨0, false, false⟩ ∧
      (∃ ret w', sampleRegisterEvent.run w = .done ret w') ∧
        ∀ ret w', sampleRegisterEvent.run w = .done ret w' →
          (AllOrNothing sampleRegisterEvent w ret w' ↔ sampleRegisterEvent.Settles w) := by
  have hrun : ((sampleRegisterObj.run freshProcess).run takingAnswer).map
      (fun r => methodsAt r.2) = some (some ⟨0, false, false⟩) := by
    decide +kernel
  obtain ⟨⟨⟨⟩, w⟩, hw, hmethods⟩ := Option.map_eq_some_iff.mp hrun
  have hspares : sampleRegisterObj.sparesReserved := trivial
  have hsparing : SparingRun w := (SparingRun.opened rfl rfl).run hspares hw
  exact ⟨w, hmethods, all_or_nothing_iff hsparing sampleRegisterEvent⟩

/-- An object with 31 methods has room for the first of the two only: the registration of an
event fails and leaves this method behind; and when it is repeated, it succeeds without the
second one. -/
theorem half_installed :
    ∃ (w w₁ w₂ : World Bytes (List UInt8)) (ret : RbusError),
      SparingRun w ∧ methodsAt w = some ⟨31, false, false⟩ ∧
        sampleRegisterEvent.run w = .done ret w₁ ∧ ret ≠ .success ∧
        methodsAt w₁ = some ⟨32, true, false⟩ ∧ ¬AllOrNothing sampleRegisterEvent w ret w₁ ∧
        SparingRun w₁ ∧ sampleRegisterEvent.run w₁ = .done .success w₂ ∧
        methodsAt w₂ = some ⟨32, true, false⟩ ∧
        ¬AllOrNothing sampleRegisterEvent w₁ .success w₂ := by
  have hrun : (((sampleRegisterObj.run freshProcess).run takingAnswer).bind fun r =>
      ((sampleRegisterMethods 31).run r.2).run takingAnswer).map
        (fun r => attempts sampleRegisterEvent r.2) =
      some (some ⟨some ⟨31, false, false⟩, false, some ⟨32, true, false⟩, true,
        some ⟨32, true, false⟩⟩) := by
    decide +kernel
  obtain ⟨⟨⟨⟩, w⟩, hw, hattempts⟩ := Option.map_eq_some_iff.mp hrun
  obtain ⟨⟨⟨⟩, w₀⟩, hw₀, hw⟩ := Option.bind_eq_some_iff.mp hw
  have hspares : sampleRegisterObj.sparesReserved := trivial
  have h₀ : SparingRun w₀ := (SparingRun.opened rfl rfl).run hspares hw₀
  have h : SparingRun w := h₀.run (sampleRegisterMethods_spares 31) hw
  obtain ⟨ret, w₁, hdone, -⟩ := h.performed sampleRegisterEvent
  have h₁ : SparingRun w₁ := by
    have hspares : (PublicOp.registerEvent (some sampleObjectName.val)
      (some sampleEventName.val) none 0 : PublicOp Bytes).sparesReserved := trivial
    refine .activity (n := 0) (a := .call _ hspares) h (Program.returns_of_eq ?_)
    exact Program.bind_of_done hdone _
  obtain ⟨ret', w₂, hdone', -⟩ := h₁.performed sampleRegisterEvent
  simp only [attempts, hdone, hdone', Option.some.injEq, Attempts.mk.injEq,
    decide_eq_false_iff_not, decide_eq_true_eq] at hattempts
  obtain ⟨hbefore, hfail, hhalf, rfl, hlast⟩ := hattempts
  refine ⟨w, w₁, w₂, ret, h, hbefore, hdone, hfail, hhalf, ?_, h₁, hdone', hlast, ?_⟩
  · intro hall
    obtain ⟨o, ho, hcount⟩ := Option.map_eq_some_iff.mp hbefore
    obtain ⟨o₁, ho₁, hcount₁⟩ := Option.map_eq_some_iff.mp hhalf
    have hsame := hall.failure hfail sampleObjectName.val
    rw [ho, ho₁] at hsame
    have hmethods : o₁.methods = o.methods :=
      congrArg (fun r => r.2.2.2) (Option.some.inj hsame)
    have hlength : o.methods.length = 31 := congrArg MethodCount.methods hcount
    have hlength₁ : o₁.methods.length = 32 := congrArg MethodCount.methods hcount₁
    rw [hmethods, hlength] at hlength₁
    cases hlength₁
  · intro hall
    obtain ⟨name, o, hname, ho, -, -, hremove⟩ := hall.success rfl
    obtain rfl := Option.some.inj hname
    rw [methodsAt, ho] at hlast
    have hmissing := congrArg MethodCount.remove (Option.some.inj hlast)
    exact Option.isSome_eq_false_iff.mp hmissing |> Option.isNone_iff_eq_none.mp |> hremove.ne_none

end Run

end RbusCore
