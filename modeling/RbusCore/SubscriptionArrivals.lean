import RbusCore.Arrivals
import RbusCore.Listeners
import RbusCore.SubscriptionRequests

/-!
# The arrival of subscription requests

The bytes of a subscription request arrive for an object that answers such requests itself, and
what they ask for is done to the listeners of the event.

**Results.**
* `sat_onMessage_listing`: an arrival changes the listeners as the request in the bytes does.
* `keeps_providerOp_stands`: what leaves an object in place, with the methods that the library
  has installed at it.
* `sat_onMessage_serves`, `sat_providerOp_serves`: what a subscriber has asked of an event last.
-/

namespace RbusCore

open CStrings Resumption MessagePack

section Standing

variable {M W : Type}

/-- The object has this address and this name, and answers subscription requests itself. -/
structure StandsAs (p : Ptr) (name : CString) (o : ServerObject) : Prop where
  ptr : o.ptr = p
  name : o.key = name
  handles : ∀ method, Reserved method → o.Handles method

/-- Such an object is registered. -/
def Stands (p : Ptr) (name : CString) (w : World M W) : Prop :=
  ∃ o ∈ w.gServerObjects.items, StandsAs p name o

variable {p : Ptr} {name : CString} {o o' : ServerObject} {w w' : World M W}

theorem StandsAs.of_same
    (h : StandsAs p name o)
    (hptr : o'.ptr = o.ptr)
    (hname : o'.name = o.name)
    (hmethods : ∀ method, Reserved method → o.Handles method → o'.Handles method) :
    StandsAs p name o' :=
  ⟨hptr.trans h.ptr, (congrArg Subtype.val hname).trans h.name,
    fun method hreserved => hmethods method hreserved (h.handles method hreserved)⟩

/-- Objects may be added and changed, as long as this one stays. -/
theorem Stands.update
    {f : List ServerObject → List ServerObject}
    (h : Stands p name w)
    (hf : ∀ objects, ∀ o ∈ objects, StandsAs p name o → ∃ o' ∈ f objects, StandsAs p name o')
    (hvector : w'.gServerObjects = w.gServerObjects.update f) :
    Stands p name w' := by
  obtain ⟨o, ho, hstands⟩ := h
  rw [Stands, hvector]
  cases hlive : w.gServerObjects with
  | live objects =>
      rw [hlive, RtVector.items_live] at ho
      exact hf objects o ho hstands
  | null =>
      rw [hlive] at ho
      exact absurd ho List.not_mem_nil
  | destroyed =>
      rw [hlive] at ho
      exact absurd ho List.not_mem_nil

/-- The object at an address is changed. -/
theorem keeps_updateObject_stands
    {f : ServerObject → ServerObject}
    (hptr : ∀ o, (f o).ptr = o.ptr)
    (hname : ∀ o, (f o).name = o.name)
    (hmethods : ∀ o method, Reserved method → o.Handles method → (f o).Handles method)
    (q : Ptr) :
    Program.Keeps unheeded (Stands p name) (updateObject q f : CoreM M W Unit) := by
  intro w h
  rw [updateObject, sat_updateServerObjects]
  refine h.update (fun objects o ho hstands => ?_) rfl
  refine ⟨if o.ptr = q then f o else o, List.mem_map_of_mem ho, ?_⟩
  split
  · exact hstands.of_same (hptr o) (hname o) (hmethods o)
  · exact hstands

/-- The methods of the object are left alone. -/
theorem keeps_updateRecord_stands
    {f : ServerObject → ServerObject}
    (hptr : ∀ o, (f o).ptr = o.ptr)
    (hname : ∀ o, (f o).name = o.name)
    (hmethods : ∀ o, (f o).methods = o.methods)
    (q : Ptr) :
    Program.Keeps unheeded (Stands p name) (updateObject q f : CoreM M W Unit) := by
  refine keeps_updateObject_stands hptr hname (fun o method _ hhandles => ?_) q
  refine hhandles.of_same (hptr o) ?_
  rw [ServerObject.method?, hmethods o]
  rfl

/-- A method is added behind the others. -/
theorem keeps_addMethod_stands
    (m : ServerMethod) (q : Ptr) :
    Program.Keeps unheeded (Stands p name)
      (updateObject q fun o => { o with methods := o.methods ++ [m] } : CoreM M W Unit) := by
  refine keeps_updateObject_stands ?_ ?_ ?_ q
  · exact fun _ => rfl
  · exact fun _ => rfl
  · rintro o method - ⟨found, hfound, hcallback, hdata⟩
    refine ⟨found, ?_, hcallback, hdata⟩
    rw [ServerObject.method?_eq_lookup] at hfound ⊢
    rw [KeyedList.lookup_append_singleton, hfound]
    rfl

/-- A method with another name is removed. -/
theorem keeps_removeMethod_stands
    {key : CString}
    (hkey : ¬Reserved key)
    (q : Ptr) :
    Program.Keeps unheeded (Stands p name)
      (updateObject q fun o =>
        { o with methods := rtVectorRemoveFound serverMethodCompare key o.methods } :
          CoreM M W Unit) := by
  refine keeps_updateObject_stands ?_ ?_ ?_ q
  · exact fun _ => rfl
  · exact fun _ => rfl
  · intro o method hreserved hhandles
    have hne : key ≠ method := by
      rintro rfl
      exact hkey hreserved
    refine hhandles.of_same rfl ?_
    rw [ServerObject.method?_eq_lookup, ServerObject.method?_eq_lookup, remove_method,
      KeyedList.lookup_erase_of_ne hne]

theorem steady_stands : Steady unheeded (Stands p name : World M W → Prop) where
  messages := fun _ _ _ _ h => h
  called := fun _ _ _ h => h
  fault := fun _ _ _ h => h
  env := fun _ _ _ _ henv h => henv ▸ h
  atCall := fun _ _ _ _ => trivial
  atUndef := fun _ _ => trivial

theorem serving_stands : Serving unheeded (Stands p name : World M W → Prop) where
  toSteady := steady_stands
  listeners := fun w object f h =>
    keeps_updateRecord_stands (f := fun o => { o with subscriptions := f o.subscriptions })
      (fun _ => rfl) (fun _ => rfl) (fun _ => rfl) object w h
  flowCalled := fun _ _ _ h => h
  flowAtCall := fun _ _ _ _ => trivial
  locking :=
    { steady := fun _ => steady_stands
      locked := fun _ h => h
      unlocked := fun _ h => h
      unusable := fun _ _ _ _ h => h
      subscriptions := fun _ _ h => h }

theorem searching_stands : Searching unheeded fun _ => (Stands p name : World M W → Prop) where
  toExclusive := serving_stands.locking.exclusive
  unusableObjects := fun _ _ _ _ h => h

/-- Methods are registered. -/
theorem keeps_registerMethod_stands
    (objectName methodName : Option CString) (handler : MethodCallback) (userData : Ptr) :
    Program.Keeps unheeded (Stands p name)
      (rbusRegisterMethod objectName methodName handler userData : CoreM M W RbusError) :=
  keeps_rbusRegisterMethod searching_stands _ _ _ _ fun q _ _ => keeps_addMethod_stands _ q

/-- The reserved methods are installed at an object that does not have them. -/
theorem keeps_ensureSubscriptionHandlers_stands
    (object : Ptr) :
    Program.Keeps unheeded (Stands p name)
      (ensureSubscriptionHandlers object : CoreM M W RbusError) := by
  have hderef := keeps_derefObject (C := unheeded) (P := Stands p name (M := M) (W := W))
    steady_stands.toCalling object
  refine Program.keeps_bind hderef fun obj => Program.keeps_ite (Program.keeps_pure _) ?_
  refine Program.keeps_bind hderef fun obj => ?_
  split
  · exact Program.keeps_pure _
  · refine Program.keeps_bind (keeps_registerMethod_stands _ _ _ _) fun ret => ?_
    refine Program.keeps_ite (Program.keeps_pure _) ?_
    refine Program.keeps_bind (keeps_registerMethod_stands _ _ _ _) fun ret => ?_
    refine Program.keeps_ite (Program.keeps_pure _) ?_
    refine Program.keeps_bind (keeps_updateRecord_stands ?_ ?_ ?_ _) fun _ =>
      Program.keeps_pure _ <;> exact fun _ => rfl

theorem keeps_registerEvent_stands
    (objectName eventName : Option CString) (callback : Option Nat) (userData : Ptr) :
    Program.Keeps unheeded (Stands p name)
      (rbusRegisterEvent objectName eventName callback userData : CoreM M W RbusError) := by
  have hunlock (ret : RbusError) : Program.Keeps unheeded (Stands p name)
      (do unlock; pure ret : CoreM M W RbusError) :=
    leads_unlock_pure searching_stands.toExclusive ret
  refine Program.keeps_bind Program.keeps_getState fun w => ?_
  refine Program.keeps_ite (Program.keeps_pure _) (Program.keeps_ite (Program.keeps_pure _) ?_)
  split
  · exact Program.keeps_pure _
  · refine keeps_withObject searching_stands objectName fun obj => ?_
    cases obj with
    | none =>
        exact hunlock _
    | some obj =>
        refine Program.keeps_bind (Program.keeps_ite (Program.keeps_pure _)
          (keeps_updateRecord_stands ?_ ?_ ?_ _)) fun _ => ?_
        · exact fun _ => rfl
        · exact fun _ => rfl
        · exact fun _ => rfl
        · exact Program.keeps_bind (keeps_ensureSubscriptionHandlers_stands _) fun _ => hunlock _

theorem keeps_unregisterEvent_stands
    (objectName eventName : Option CString) :
    Program.Keeps unheeded (Stands p name)
      (rbusUnregisterEvent objectName eventName : CoreM M W RbusError) := by
  refine keeps_rbusUnregisterEvent searching_stands _ _ fun q event => ?_
  refine keeps_updateRecord_stands ?_ ?_ ?_ q <;> exact fun _ => rfl

theorem keeps_registerObj_stands
    (objectName : Option CString) (handler : Nat) (userData : Ptr) :
    Program.Keeps unheeded (Stands p name)
      (rbusRegisterObj objectName handler userData : CoreM M W RbusError) := by
  refine keeps_rbusRegisterObj searching_stands (fun _ _ h => h) (keeps_rtMalloc steady_stands)
    (fun obj w h => ?_) _ _ _
  rw [sat_updateServerObjects]
  exact h.update (fun objects o ho hstands => ⟨o, List.mem_append_left _ ho, hstands⟩) rfl

/-- An object with another name is unregistered. -/
theorem keeps_unregisterObj_stands
    {objectName : Option CString}
    (hother : objectName ≠ some name) :
    Program.Keeps unheeded (Stands p name)
      (rbusUnregisterObj objectName : CoreM M W RbusError) := by
  have hunlock (ret : RbusError) : Program.Keeps unheeded (Stands p name)
      (do unlock; pure ret : CoreM M W RbusError) :=
    leads_unlock_pure searching_stands.toExclusive ret
  cases objectName with
  | none =>
      exact Program.keeps_pure _
  | some objectName =>
      refine Program.keeps_ite (Program.keeps_pure _) ?_
      refine Program.keeps_bind (keeps_rtConnectionRemoveListener steady_stands.toCalling
        (fun _ _ h => h) _) fun err => ?_
      refine Program.keeps_ite (Program.keeps_pure _) ?_
      refine keeps_withObject searching_stands _ fun obj => ?_
      cases obj with
      | none =>
          exact hunlock _
      | some obj =>
          refine Program.keeps_bind (fun w h => ?_) fun _ => hunlock _
          rw [sat_updateServerObjects]
          refine h.update (fun objects o ho hstands => ⟨o, ?_, hstands⟩) rfl
          have hkey : o.key ≠ objectName := by
            rw [hstands.name]
            rintro rfl
            exact hother rfl
          rw [remove_object, KeyedList.erase]
          exact (List.mem_eraseP_of_neg (by simpa using hkey)).mpr ho

theorem arriving_stands : Arriving unheeded (Stands p name : World M W → Prop) where
  toServing := serving_stands
  depth := fun _ _ h => h
  queued := fun _ _ h => h
  delivered := fun _ _ _ _ _ h => h
  dispatching := fun _ _ _ _ h => h
  dispatched := fun _ h => h
  looping := fun _ _ => trivial

/-- The operations that leave the object in place, with its methods. -/
def ProviderOp.leaves (name : CString) : ProviderOp M → Prop
  | .unregisterObj objectName => objectName ≠ some name
  | .unregisterMethod _ methodName => SparesReserved methodName
  | _ => True

variable [MessageApi M W]

theorem keeps_providerOp_stands
    {op : ProviderOp M}
    (hop : op.leaves name) :
    Program.Keeps unheeded (Stands p name) (op.run : CoreM M W RbusError) := by
  cases op with
  | registerObj objectName handler userData =>
      exact keeps_registerObj_stands objectName handler userData
  | unregisterObj objectName =>
      exact keeps_unregisterObj_stands hop
  | registerMethod objectName methodName handler userData =>
      exact keeps_registerMethod_stands objectName methodName handler userData
  | unregisterMethod objectName methodName =>
      exact keeps_rbusUnregisterMethod searching_stands _ _ fun q key hkey =>
        keeps_removeMethod_stands (hop key hkey) q
  | registerEvent objectName eventName callback userData =>
      exact keeps_registerEvent_stands objectName eventName callback userData
  | unregisterEvent objectName eventName =>
      exact keeps_unregisterEvent_stands objectName eventName
  | request object event subscriber added payload =>
      exact keeps_serverObjectSubscriptionHandler serving_stands.toNotifying _ _ _ _ _
  | publishEvent objectName eventName out =>
      exact Program.keeps_bind (keeps_rbusPublishEvent searching_stands _ _ _) fun _ =>
        Program.keeps_pure _

end Standing

section Messages

variable {M W : Type} {w₀ : World M W}

/-- Messages are made and freed. -/
theorem keeps_newMessage_tacit
    (m : M) :
    Program.Keeps unheeded (Tacit w₀) (newMessage m : CoreM M W (MessageRef M)) :=
  fun _ h => ⟨h.vector, Nat.le_succ_of_le h.nextPtr, h.log⟩

theorem keeps_rbusMessageRelease_tacit
    (m : MessageRef M) :
    Program.Keeps unheeded (Tacit w₀) (rbusMessageRelease m : CoreM M W Unit) := by
  refine Program.keeps_bind Program.keeps_getState fun w => ?_
  exact Program.keeps_ite (fun _ _ => trivial) fun _ h => ⟨h.vector, h.nextPtr, h.log⟩

theorem keeps_releaseUnlessNull_tacit
    (message : Option (MessageRef M)) :
    Program.Keeps unheeded (Tacit w₀) (releaseUnlessNull message : CoreM M W Unit) := by
  cases message with
  | none =>
      exact Program.keeps_pure _
  | some message =>
      exact keeps_rbusMessageRelease_tacit message

variable [MessageApi M W]

theorem keeps_rbusSendResponse_tacit
    (hdr : RtMessageHeader) (response : Option (MessageRef M)) :
    Program.Keeps unheeded (Tacit w₀) (rbusSendResponse hdr response : CoreM M W RbusError) := by
  refine Program.keeps_ite ?_ (Program.keeps_pure _)
  refine Program.keeps_bind ?_ fun response => ?_
  · cases response with
    | none =>
        exact Program.keeps_bind (keeps_newMessage_tacit _) fun _ => keeps_written_tacit _ _
    | some response =>
        exact Program.keeps_pure _
  · refine Program.keeps_bind (Program.keeps_bind (keeps_written_tacit _ _) fun _ =>
      keeps_written_tacit _ _) fun response => ?_
    refine Program.keeps_bind keeps_gConnectionPtr fun con => ?_
    refine Program.keeps_bind (keeps_call_tacit rfl) fun err => ?_
    exact Program.keeps_bind (keeps_rbusMessageRelease_tacit response) fun _ =>
      Program.keeps_pure _

end Messages

section Arrival

variable {U : Unpacker}
variable {L : Ledger} {objects : List ServerObject} {o : ServerObject}
variable {w : World (RbusMessage U) (List UInt8)}

/-- The handler of the library does what the request asks for. -/
theorem sat_subscriptionHandler_listing
    {received : RbusMessage U} {event address : CString} {activate : Bool}
    {payload : Option (RbusMessage U)} {region : List UInt8}
    (h : Listing L objects w)
    (hdelivers : Delivers received
      ((subscriptionValues event address payload).map Setting.value))
    (hregion : CString.ofMemory region = some (subscriptionMethod activate))
    (obj : Ptr) :
    ∃ e s, CString.ofMemory e = some event ∧ CString.ofMemory s = some address ∧
      Program.Sat unheeded (subscriptionHandler (some region) received obj)
        (fun _ w' => ∃ objects',
          Listing (L.request obj (some e) (some s) activate) objects' w') w := by
  obtain ⟨vs, hvalues⟩ : ∃ vs, (subscriptionValues event address payload).map Setting.value =
      .str event :: .str address :: vs := by
    cases payload <;> exact ⟨_, rfl⟩
  rw [hvalues] at hdelivers
  obtain ⟨e, m₁, he, hevent, hdelivers₁⟩ := getString_of_delivers hdelivers
  obtain ⟨s, m₂, hs, haddress, hdelivers₂⟩ := getString_of_delivers hdelivers₁
  have horder : strncmpAt (M := RbusMessage U) (W := List UInt8) maxMethodNameLength
      methodAddEventSubscription region =
        pure (strncmp maxMethodNameLength methodAddEventSubscription.chars
          (subscriptionMethod activate).chars) := by
    rw [strncmpAt, strncmpMemory_of_ofMemory maxMethodNameLength hregion]
  have hadded : decide (strncmp maxMethodNameLength methodAddEventSubscription.chars
      (subscriptionMethod activate).chars = 0) = activate := by
    cases activate <;> decide
  have hmatched : subscriptionHandler (some region) received obj = (do
      let out ← newMessage (MessageApi.init (W := List UInt8))
      let ret ← handleSubscription (some region) e s m₂ obj
      let out ← setInt32Ref out ret.toInt
      pure (.success, some out)) := by
    unfold subscriptionHandler
    simp only [he, hs]
  refine ⟨e, s, hevent, haddress, ?_⟩
  rw [hmatched]
  refine (sat_tacit h (keeps_newMessage_tacit _)).bind ?_
  rintro out w₁ ⟨objects₁, h₁⟩
  rw [handleSubscription, bind_assoc]
  refine (sat_tacit h₁ ?_).bind ?_
  · unfold subscriptionPayload
    split
    · exact Program.keeps_bind (keeps_newMessage_tacit _) fun _ => Program.keeps_pure _
    · exact Program.keeps_pure _
  · rintro item w₂ ⟨objects₂, h₂⟩
    rw [bind_assoc, Program.sat_bind, sat_deref_some, bind_assoc, horder, pure_bind, hadded,
      bind_assoc]
    refine (sat_serverObjectSubscriptionHandler h₂ obj _ _ _ _).bind ?_
    rintro ret w₃ ⟨objects₃, h₃⟩
    rw [bind_assoc]
    refine (sat_tacit h₃ (keeps_releaseUnlessNull_tacit item)).bind ?_
    rintro _ w₄ ⟨objects₄, h₄⟩
    rw [pure_bind]
    exact sat_tacit h₄ (Program.keeps_bind (keeps_written_tacit _ _) fun _ =>
      Program.keeps_pure _)

/-- A request with these bytes is dispatched to the handler of the library. -/
theorem sat_dispatchMethodCall_listing
    {event address : CString} {activate : Bool} {payload : Option (RbusMessage U)}
    (h : Listing L objects w)
    (ho : o ∈ objects)
    (hhandles : o.Handles (subscriptionMethod activate))
    (hsize : messageSize (subscriptionValues event address payload)
      (subscriptionMethod activate) < 2 ^ 31 - 2 ^ 15)
    (q : Ptr) (hdr : RtMessageHeader) :
    ∃ e s, CString.ofMemory e = some event ∧ CString.ofMemory s = some address ∧
      Program.Sat unheeded
        (dispatchMethodCall
          ⟨q, (rbusMessageFromBytes (subscriptionBytes event address activate payload) :
            RbusMessage U)⟩ hdr o.ptr)
        (fun _ w' => ∃ objects',
          Listing (L.request o.ptr (some e) (some s) activate) objects' w') w := by
  obtain ⟨region, m₁, m₂, hname, hregion, hend, hwhole⟩ := readMethod hsize
  obtain ⟨method, hmethod, hcallback, hdata⟩ := hhandles
  have hdelivers := hwhole.delivers_message hsize
  have hfound (v : World (RbusMessage U) (List UInt8)) (hv : Listing L objects v) :
      v.gServerObjects.items.find? (fun x => x.ptr = o.ptr) = some o := by
    rw [hv.vector, RtVector.items_live]
    exact hv.addresses.lookup_of_mem ho
  have hfind : findMethod (M := RbusMessage U) (W := List UInt8) o (some region) =
      pure (some method) := by
    rw [findMethod_of_ofMemory o hregion]
    refine congrArg pure ?_
    rw [← hmethod, ServerObject.method?_eq_lookup]
    rfl
  -- the handler runs with the mutex free again
  obtain ⟨w₁, h₁, w₂, h₂, hrun⟩ : ∃ w₁, Listing L objects w₁ ∧ ∃ w₂, Listing L objects w₂ ∧
      (lock (M := RbusMessage U) (W := List UInt8) w = .done () w₁ ∧
        unlock (M := RbusMessage U) (W := List UInt8) w₁ = .done () w₂) :=
    ⟨_, sat_lock_listing h, _, sat_unlock_listing (sat_lock_listing h), rfl, rfl⟩
  obtain ⟨e, s, hevent, haddress, hsat⟩ :=
    sat_subscriptionHandler_listing h₂ hdelivers hregion o.ptr
  refine ⟨e, s, hevent, haddress, ?_⟩
  rw [dispatchMethodCall, subscriptionBytes, derefMessage, bind_assoc, Program.sat_bind,
    Program.sat_getState]
  split
  · exact trivial
  · rw [pure_bind]
    dsimp only
    rw [hname]
    dsimp only
    rw [hend, Program.sat_bind, Program.sat_of_done hrun.1, Program.sat_bind,
      Program.sat_of_done (derefObject_of_find (hfound w₁ h₁)), hfind, pure_bind,
      Program.sat_bind, Program.sat_of_done hrun.2, dispatchTo, dispatchToMethod, hcallback, hdata,
      invokeMethodCallback]
    refine hsat.bind ?_
    rintro result w₃ ⟨objects₃, h₃⟩
    exact sat_tacit h₃ (Program.keeps_bind (keeps_rbusSendResponse_tacit _ _) fun _ =>
      Program.keeps_pure _)

theorem quiet_occupied {M W : Type} : Quiet unheeded (Occupied : World M W → Prop) where
  same := fun w w' hsame h =>
    ⟨hsame.stackCounter.trans h.stackCounter, by rw [hsame.gQueuedRequests, h.queue]⟩
  env := fun _ _ _ _ henv h => henv ▸ h
  atCall := fun _ _ _ _ => trivial
  atUndef := fun _ _ => trivial

theorem serving_occupied {M W : Type} : Serving unheeded (Occupied : World M W → Prop) :=
  quiet_occupied.serving fun _ _ _ h => ⟨h.stackCounter, h.queue⟩

/-- Addresses are handed out, and nothing else happens that matters. -/
theorem Listing.allocate
    {M W : Type} {w w' : World M W}
    (h : Listing L objects w)
    (hvector : w'.gServerObjects = w.gServerObjects)
    (hnextPtr : w.nextPtr ≤ w'.nextPtr)
    (hlog : w'.log = w.log) :
    Listing L objects w' := by
  refine ⟨hvector.trans h.vector, h.names, h.addresses, ?_, ?_, ?_⟩
  · exact fun o ho => Nat.lt_of_lt_of_le (h.allocated o ho) hnextPtr
  · rw [hlog]
    exact h.objects
  · exact fun p hp => h.fresh p (hnextPtr.trans hp)

/-- A request with these bytes arrives while no other message is handled. -/
theorem sat_onMessage_listing
    {event address : CString} {activate : Bool} {payload : Option (RbusMessage U)}
    (h : Listing L objects w)
    (hidle : Unoccupied w)
    (ho : o ∈ objects)
    (hhandles : o.Handles (subscriptionMethod activate))
    (hsize : messageSize (subscriptionValues event address payload)
      (subscriptionMethod activate) < 2 ^ 31 - 2 ^ 15)
    (rounds : Nat) (hdr : RtMessageHeader) :
    ∃ e s, CString.ofMemory e = some event ∧ CString.ofMemory s = some address ∧
      Program.Sat unheeded
        (onMessage rounds hdr (subscriptionBytes event address activate payload) o.ptr)
        (fun _ w' => ∃ objects',
          Listing (L.request o.ptr (some e) (some s) activate) objects' w') w := by
  let msg : RbusMessage U :=
    rbusMessageFromBytes (subscriptionBytes event address activate payload)
  have hallocated : Listing L objects { w with nextPtr := w.nextPtr + 1 } :=
    h.allocate rfl (Nat.le_succ _) rfl
  have hdelivered : Listing L objects
      { w with
        nextPtr := w.nextPtr + 1
        refCount := Function.update w.refCount w.nextPtr 1
        log := w.log ++ [.deliver w.stackCounter hdr msg o.ptr] } :=
    hallocated.entry (e := .deliver w.stackCounter hdr msg o.ptr) rfl rfl rfl rfl
  have hdispatching : Listing L objects (w.dispatching hdr msg o.ptr) :=
    hdelivered.entry (e := .dispatch hdr msg o.ptr) rfl rfl rfl rfl
  have hbusy : Occupied (w.dispatching hdr msg o.ptr) :=
    ⟨congrArg (· + 1) hidle.stackCounter, hidle.queue⟩
  obtain ⟨e, s, hevent, haddress, hsat⟩ :=
    sat_dispatchMethodCall_listing hdispatching ho hhandles hsize w.nextPtr hdr
  refine ⟨e, s, hevent, haddress, ?_⟩
  refine sat_onMessage_unoccupied hidle
    (hsat.and (keeps_dispatchMethodCall serving_occupied _ hdr o.ptr _ hbusy)) ?_ rounds
  rintro w' ⟨objects', h'⟩ -
  have hdispatched : Listing (L.request o.ptr (some e) (some s) activate) objects'
      w'.dispatched :=
    h'.entry (e := .dispatched) rfl rfl rfl rfl
  exact sat_tacit hdispatched (keeps_rbusMessageRelease_tacit _)

end Arrival

section Serving

variable {M W : Type}

/-- The event is registered at the object at this address, and listens to the subscriber. -/
def Listens (p : Ptr) (event address : CString) (w : World M W) : Prop :=
  ∃ o ∈ w.gServerObjects.items, o.ptr = p ∧
    ∃ e ∈ o.subscriptions, e.name.val = event ∧ address ∈ e.listeners

/-- What a subscriber has asked of a registration last. -/
def Registration.latest (r : Registration) (address : CString) : Option Bool :=
  (Membership.requestsOf address r.requests).getLast?

/-- The object is in place, the event is registered at it, and this is what the subscriber has
asked of it last. -/
def Serves
    (p : Ptr) (name event address : CString) (last : Option Bool) (w : World M W) : Prop :=
  Stands p name w ∧ ∃ (L : Ledger) (objects : List ServerObject) (reg : Registration),
    Listing L objects w ∧ L p event = some reg ∧ reg.latest address = last

variable {p : Ptr} {name event address : CString} {last : Option Bool} {w : World M W}
variable {L : Ledger} {objects : List ServerObject}

/-- The event listens to the subscriber if he asked last to be added. -/
theorem Serves.listens_iff
    (h : Serves p name event address last w) :
    Listens p event address w ↔ last = some true := by
  obtain ⟨⟨x, hx, hstands⟩, L, objects, reg, hlisting, hreg, rfl⟩ := h
  rw [hlisting.vector, RtVector.items_live] at hx
  have hlisteners := (hlisting.objects x hx).listeners event
  rw [hstands.ptr, hreg, Option.map_some] at hlisteners
  obtain ⟨e, hfound, hmembers⟩ := Option.map_eq_some_iff.mp hlisteners
  rw [Registration.latest, ← Membership.mem_members_iff, ← hmembers]
  constructor
  · rintro ⟨o, ho, hptr, e', he', rfl, hlistens⟩
    rw [hlisting.vector, RtVector.items_live] at ho
    obtain rfl : o = x :=
      List.inj_on_of_nodup_map hlisting.addresses ho hx (hptr.trans hstands.ptr.symm)
    have hsame := (hlisting.objects o ho).names.lookup_of_mem he'
    rw [hfound] at hsame
    rwa [Option.some.inj hsame]
  · intro hlistens
    have hkey : e.key = event := KeyedList.key_of_lookup hfound
    refine ⟨x, ?_, hstands.ptr, e, KeyedList.mem_of_lookup hfound, hkey, hlistens⟩
    rw [hlisting.vector, RtVector.items_live]
    exact hx

/-- A request of somebody, for some event. -/
theorem Ledger.enter_latest
    {reg : Registration} {object : Ptr} {event' subscriber : CString} {added : Bool}
    (hreg : L p event = some reg) :
    ∃ reg', L.enter object event' (subscriber, added) p event = some reg' ∧
      reg'.latest address =
        if p = object ∧ event = event' ∧ subscriber = address then some added
        else reg.latest address := by
  rw [Ledger.enter, hreg, Option.map_some]
  by_cases hsame : p = object ∧ event = event'
  · refine ⟨_, if_pos hsame, ?_⟩
    rw [Registration.latest, Membership.requestsOf_concat]
    by_cases hsubscriber : subscriber = address
    · rw [if_pos hsubscriber, if_pos ⟨hsame.1, hsame.2, hsubscriber⟩, List.getLast?_concat]
    · rw [if_neg hsubscriber, if_neg fun h => hsubscriber h.2.2, Registration.latest]
  · exact ⟨reg, if_neg hsame, (if_neg fun h => hsame ⟨h.1, h.2.1⟩).symm⟩

/-- The operations that leave the registration in place, and what the subscriber has asked of
it. -/
def ProviderOp.spares (name event address : CString) : ProviderOp M → Prop
  | .unregisterObj objectName => objectName ≠ some name
  | .unregisterMethod _ methodName => SparesReserved methodName
  | .unregisterEvent objectName eventName =>
      ¬(objectName = some name ∧ eventName.getD defaultEvent = event)
  | .request _ _ subscriber _ _ => subscriber.bind CString.ofMemory ≠ some address
  | _ => True

theorem ProviderOp.spares.leaves
    {op : ProviderOp M}
    (h : op.spares name event address) :
    op.leaves name := by
  cases op with
  | unregisterObj objectName =>
      exact h
  | unregisterMethod objectName methodName =>
      exact h
  | _ =>
      trivial

/-- What is registered stays as it is when it is registered again. -/
theorem Ledger.register_of_registered
    {reg : Registration}
    (hreg : L p event = some reg)
    (w : World M W) (objectName eventName : Option CString) :
    L.register w objectName eventName p event = some reg := by
  rw [Ledger.register]
  cases (InstallingOp.registerEvent objectName eventName none 0).object? w with
  | none =>
      exact hreg
  | some o =>
      show (if (L o.ptr (eventName.getD defaultEvent)).isSome then L
        else L.set o.ptr (eventName.getD defaultEvent) _) p event = some reg
      by_cases hsome : (L o.ptr (eventName.getD defaultEvent)).isSome = true
      · rw [if_pos hsome, hreg]
      · rw [if_neg hsome, Ledger.set, if_neg, hreg]
        rintro ⟨rfl, rfl⟩
        exact hsome (by rw [hreg]; rfl)

/-- Another event is unregistered. -/
theorem Ledger.unregister_other
    {o : ServerObject} {objectName eventName : Option CString}
    (h : Listing L objects w)
    (ho : o ∈ objects)
    (hother : ¬(objectName = some o.key ∧ eventName.getD defaultEvent = event)) :
    L.unregister w objectName eventName o.ptr event = L o.ptr event := by
  rw [Ledger.unregister]
  cases hfound : objectName.bind (rtVectorFind serverObjectCompare w.gServerObjects.items) with
  | none =>
      rfl
  | some x =>
      refine if_neg ?_
      rintro ⟨hptr, hevent⟩
      obtain ⟨found, rfl, hx⟩ := Option.bind_eq_some_iff.mp hfound
      rw [find_object, h.vector, RtVector.items_live] at hx
      have hmem : x ∈ objects := KeyedList.mem_of_lookup hx
      have hkey : x.key = found := KeyedList.key_of_lookup hx
      obtain rfl : x = o := List.inj_on_of_nodup_map h.addresses hmem ho hptr.symm
      exact hother ⟨congrArg some hkey.symm, hevent.symm⟩

/-- The request of somebody else. -/
theorem Ledger.request_other
    {reg : Registration} {event' subscriber : Option (List UInt8)}
    (hreg : L p event = some reg)
    (hother : subscriber.bind CString.ofMemory ≠ some address)
    (object : Ptr) (added : Bool) :
    ∃ reg', L.request object event' subscriber added p event = some reg' ∧
      reg'.latest address = reg.latest address := by
  rw [Ledger.request]
  cases hevent : legalName maxEventNameLength event' with
  | none =>
      exact ⟨reg, hreg, rfl⟩
  | some event' =>
      cases hsubscriber : legalName maxSubscriberNameLength subscriber with
      | none =>
          exact ⟨reg, hreg, rfl⟩
      | some subscriber =>
          obtain ⟨reg', hreg', hlatest⟩ := Ledger.enter_latest hreg
          refine ⟨reg', hreg', hlatest.trans (if_neg ?_)⟩
          rintro ⟨-, -, rfl⟩
          rw [legalName, Option.filter_eq_some_iff] at hsubscriber
          exact hother hsubscriber.1

theorem Ledger.after_latest
    {reg : Registration} {op : ProviderOp M} {o : ServerObject}
    (h : Listing L objects w)
    (ho : o ∈ objects)
    (hreg : L o.ptr event = some reg)
    (hop : op.spares o.key event address) :
    ∃ reg', L.after w op o.ptr event = some reg' ∧
      reg'.latest address = reg.latest address := by
  cases op with
  | registerEvent objectName eventName callback userData =>
      exact ⟨reg, Ledger.register_of_registered hreg w objectName eventName, rfl⟩
  | unregisterEvent objectName eventName =>
      exact ⟨reg, (Ledger.unregister_other h ho hop).trans hreg, rfl⟩
  | request object event' subscriber added payload =>
      exact Ledger.request_other hreg hop object added
  | _ =>
      exact ⟨reg, hreg, rfl⟩

/-- What the provider does otherwise does not matter to the subscriber. -/
theorem sat_providerOp_serves
    [MessageApi M W] {op : ProviderOp M}
    (h : Serves p name event address last w)
    (hop : op.spares name event address) :
    Program.Sat unheeded op.run (fun _ => Serves p name event address last) w := by
  obtain ⟨hstands, L, objects, reg, hlisting, hreg, rfl⟩ := h
  have hkept := keeps_providerOp_stands hop.leaves w hstands
  refine (hkept.and (sat_providerOp hlisting op)).mono ?_
  rintro _ w' ⟨hstands', objects', hlisting'⟩
  obtain ⟨o, ho, hstandsAs⟩ := hstands
  rw [hlisting.vector, RtVector.items_live] at ho
  obtain ⟨rfl, rfl, -⟩ := hstandsAs
  obtain ⟨reg', hreg', hlatest⟩ := Ledger.after_latest hlisting ho hreg hop
  exact ⟨hstands', _, objects', reg', hlisting', hreg', hlatest⟩

/-- The names of registered events are short. -/
theorem Listing.name_lt
    {o : ServerObject} {reg : Registration}
    (h : Listing L objects w)
    (ho : o ∈ objects)
    (hreg : L o.ptr event = some reg) :
    event.strlen < maxEventNameLength := by
  have hlisteners := (h.objects o ho).listeners event
  rw [hreg, Option.map_some] at hlisteners
  obtain ⟨e, hfound, -⟩ := Option.map_eq_some_iff.mp hlisteners
  obtain rfl : e.key = event := KeyedList.key_of_lookup hfound
  exact e.name.property

variable {U : Unpacker}

/-- A request arrives, of the subscriber or of another one. -/
theorem sat_onMessage_serves
    {event' subscriber : CString} {activate : Bool} {payload : Option (RbusMessage U)}
    {w : World (RbusMessage U) (List UInt8)}
    (h : Serves p name event address last w)
    (hidle : Unoccupied w)
    (haddress : address.strlen < maxSubscriberNameLength)
    (hsize : messageSize (subscriptionValues event' subscriber payload)
      (subscriptionMethod activate) < 2 ^ 31 - 2 ^ 15)
    (rounds : Nat) (hdr : RtMessageHeader) :
    Program.Sat unheeded
      (onMessage rounds hdr (subscriptionBytes event' subscriber activate payload) p)
      (fun _ => Serves p name event address
        (if event' = event ∧ subscriber = address then some activate else last)) w := by
  obtain ⟨hstands, L, objects, reg, hlisting, hreg, rfl⟩ := h
  have hkept := keeps_onMessage arriving_stands rounds hdr
    (subscriptionBytes event' subscriber activate payload) p w hstands
  obtain ⟨o, ho, rfl, hname, hhandles⟩ := hstands
  rw [hlisting.vector, RtVector.items_live] at ho
  have hreserved : Reserved (subscriptionMethod activate) := by
    cases activate
    · exact Or.inr rfl
    · exact Or.inl rfl
  obtain ⟨e, s, he, hs, hsat⟩ :=
    sat_onMessage_listing hlisting hidle ho (hhandles _ hreserved) hsize rounds hdr
  refine (hkept.and hsat).mono ?_
  rintro _ w' ⟨hstands', objects', hlisting'⟩
  refine ⟨hstands', L.request o.ptr (some e) (some s) activate, objects', ?_⟩
  by_cases hlong : maxEventNameLength ≤ event'.strlen
  · -- a name that is too long is the name of no event
    have hother : ¬(event' = event ∧ subscriber = address) := by
      rintro ⟨rfl, -⟩
      exact Nat.not_lt_of_le hlong (hlisting.name_lt ho hreg)
    rw [Ledger.request_of_none (Or.inl (legalName_of_le he hlong))] at hlisting' ⊢
    rw [if_neg hother]
    exact ⟨reg, hlisting', hreg, rfl⟩
  · by_cases hsubscriber : maxSubscriberNameLength ≤ subscriber.strlen
    · -- neither is one that is too long the address of the subscriber
      have hother : ¬(event' = event ∧ subscriber = address) := by
        rintro ⟨-, rfl⟩
        exact Nat.not_lt_of_le hsubscriber haddress
      rw [Ledger.request_of_none (Or.inr (legalName_of_le hs hsubscriber))] at hlisting' ⊢
      rw [if_neg hother]
      exact ⟨reg, hlisting', hreg, rfl⟩
    · have hrequest : L.request o.ptr (some e) (some s) activate =
          L.enter o.ptr event' (subscriber, activate) := by
        rw [Ledger.request, legalName_of_lt he (Nat.lt_of_not_le hlong),
          legalName_of_lt hs (Nat.lt_of_not_le hsubscriber)]
      rw [hrequest] at hlisting' ⊢
      obtain ⟨reg', hreg', hlatest⟩ := Ledger.enter_latest hreg
      refine ⟨reg', hlisting', hreg', hlatest.trans ?_⟩
      by_cases hsame : event' = event ∧ subscriber = address
      · rw [if_pos hsame, if_pos ⟨rfl, hsame.1.symm, hsame.2⟩]
      · rw [if_neg hsame, if_neg fun h => hsame ⟨h.2.1.symm, h.2.2⟩]

end Serving

end RbusCore
