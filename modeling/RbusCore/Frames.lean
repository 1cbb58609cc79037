import RbusCore.Connection

/-!
# What code leaves alone

Most of the library builds, sends and reads messages.  `Steady` says which predicates such
code keeps: those that do not depend on addresses, reference counts and the calls in the
history.  The client changes its table, with the mutex taken (`Locking`).  Handling a request
changes the listeners of events (`Listening`), invokes a handler and sends a response
(`Serving`).

**Results.**
* `keeps_rbusInvokeRemoteMethod`, `keeps_sendSubscriptionRequest`: requests and their replies.
* `keeps_masterEventCallback`: the arrival of an event.
* `keeps_rbusUnsubscribeFromEvent`, `leads_performCleanup`: the table of the client.
* `keeps_subscriptionHandler`, `keeps_dispatchMethodCall`: the handling of a request.
-/

namespace RbusCore

open CStrings Resumption

section Steady

variable {M W : Type}

/-- The calls that handle a request: the handlers and the responses. -/
def Call.isFlow : Call M W → Bool
  | .methodCallback .. | .sendBinaryResponse .. => true
  | _ => false

/-- The calls of code that handles messages. -/
def Call.isInert : Call M W → Bool
  | .loop => false
  | e => !e.isFlow

/-- What is wrong with the use of a vector: nothing, once it has been created and as long as
it has not been destroyed. -/
def RtVector.fault? {α : Type} : RtVector α → Option Fault
  | .live _ => none
  | .null => some .noVector
  | .destroyed => some .vector

/-- The faults of vectors. -/
def Fault.isVector : Fault → Bool
  | .noVector | .vector => true
  | _ => false

/-- A contract under which code that makes and frees no message keeps `P`. -/
structure Calling
    (C : Contract (Call.Answer (M := M) (W := W)) (World M W)) (P : World M W → Prop) :
    Prop where
  called : ∀ w e, e.isInert = true → P w → P { w with log := w.log ++ [.call e] }
  fault : ∀ w f, f.isVector = false → P w → P { w with log := w.log ++ [.fault f] }
  env : ∀ e w a w', C.env e w a w' → P w → P w'
  atCall : ∀ e w, e.isInert = true → P w → C.atCall e w
  atUndef : ∀ w, P w → C.atUndef w

/-- The same for code that handles messages. -/
structure Steady
    (C : Contract (Call.Answer (M := M) (W := W)) (World M W)) (P : World M W → Prop) : Prop
    extends Calling C P where
  messages : ∀ w n r, w.nextPtr ≤ n → P w → P { w with nextPtr := n, refCount := r }

instance
    {C : Contract (Call.Answer (M := M) (W := W)) (World M W)} {P : World M W → Prop} :
    Coe (Steady C P) (Calling C P) :=
  ⟨Steady.toCalling⟩

/-- The same for code that changes the listeners of events. -/
structure Notifying
    (C : Contract (Call.Answer (M := M) (W := W)) (World M W)) (P : World M W → Prop) : Prop
    extends Calling C P where
  listeners : ∀ w (object : Ptr) (f : List ServerEvent → List ServerEvent), P w →
    P { w with
      gServerObjects := w.gServerObjects.update (updateAt ServerObject.ptr object fun o =>
        { o with subscriptions := f o.subscriptions })
      log := w.log ++ [.write w.mutexOwned] }

/-- The same for code that handles messages, too. -/
structure Listening
    (C : Contract (Call.Answer (M := M) (W := W)) (World M W)) (P : World M W → Prop) : Prop
    extends Steady C P, Notifying C P

/-- The same for code that takes the mutex: what is kept may depend on who owns it. -/
structure Exclusive
    (C : Contract (Call.Answer (M := M) (W := W)) (World M W))
    (I : Bool → World M W → Prop) : Prop where
  calling : ∀ owned, Calling C (I owned)
  locked : ∀ w, I false w →
    I true { w with mutexOwned := true, log := w.log ++ [.lock w.mutexOwned] }
  unlocked : ∀ w, I true w →
    I false { w with mutexOwned := false, log := w.log ++ [.unlock w.mutexOwned] }

/-- The same for code that changes the table of the client, with the mutex taken. -/
structure Locking
    (C : Contract (Call.Answer (M := M) (W := W)) (World M W))
    (I : Bool → World M W → Prop) : Prop where
  steady : ∀ owned, Steady C (I owned)
  locked : ∀ w, I false w →
    I true { w with mutexOwned := true, log := w.log ++ [.lock w.mutexOwned] }
  unlocked : ∀ w, I true w →
    I false { w with mutexOwned := false, log := w.log ++ [.unlock w.mutexOwned] }
  unusable : ∀ owned w f, w.gEventSubscriptionsForClient.fault? = some f → I owned w →
    I owned { w with log := w.log ++ [.fault f] }
  subscriptions : ∀ w (f : List ClientSubscription → List ClientSubscription), I true w →
    I true { w with
      gEventSubscriptionsForClient := w.gEventSubscriptionsForClient.update f
      log := w.log ++ [.write w.mutexOwned] }

theorem Locking.exclusive
    {C : Contract (Call.Answer (M := M) (W := W)) (World M W)} {I : Bool → World M W → Prop}
    (h : Locking C I) :
    Exclusive C I :=
  ⟨fun owned => (h.steady owned).toCalling, h.locked, h.unlocked⟩

instance
    {C : Contract (Call.Answer (M := M) (W := W)) (World M W)} {I : Bool → World M W → Prop} :
    Coe (Locking C I) (Exclusive C I) :=
  ⟨Locking.exclusive⟩

/-- The same for code that sends responses. -/
structure Responding
    (C : Contract (Call.Answer (M := M) (W := W)) (World M W)) (P : World M W → Prop) : Prop
    extends Steady C P where
  flowCalled : ∀ w e, e.isFlow = true → P w → P { w with log := w.log ++ [.call e] }
  flowAtCall : ∀ e w, e.isFlow = true → P w → C.atCall e w

/-- The same for code that handles requests. -/
structure Serving
    (C : Contract (Call.Answer (M := M) (W := W)) (World M W)) (P : World M W → Prop) : Prop
    extends Listening C P, Responding C P where
  locking : Locking C fun _ => P

/-- A fact that does not depend on the state may be kept along. -/
theorem Steady.and_const
    {C : Contract (Call.Answer (M := M) (W := W)) (World M W)} {P : World M W → Prop}
    (h : Steady C P)
    (p : Prop) :
    Steady C fun w => p ∧ P w where
  messages := fun w n r hle hw => ⟨hw.1, h.messages w n r hle hw.2⟩
  called := fun w e he hw => ⟨hw.1, h.called w e he hw.2⟩
  fault := fun w f hf hw => ⟨hw.1, h.fault w f hf hw.2⟩
  env := fun e w a w' henv hw => ⟨hw.1, h.env e w a w' henv hw.2⟩
  atCall := fun e w he hw => h.atCall e w he hw.2
  atUndef := fun w hw => h.atUndef w hw.2

end Steady

section Primitives

variable {M W : Type}
variable {C : Contract (Call.Answer (M := M) (W := W)) (World M W)}
variable {P : World M W → Prop}

section Calls

variable (h : Calling C P)

include h

theorem keeps_crash
    {α : Type} {f : Fault}
    (hf : f.isVector = false) :
    Program.Keeps C P (crash f : CoreM M W α) :=
  Program.keeps_bind (fun w hw => h.fault w f hf hw) fun _ => Program.keeps_undefined h.atUndef

theorem keeps_call
    {e : Call M W}
    (he : e.isInert = true) :
    Program.Keeps C P (call e) :=
  Program.keeps_bind (fun w hw => h.called w e he hw) fun _ =>
    Program.keeps_perform (fun w => h.atCall e w he) fun w a w' hw henv => h.env e w a w' henv hw

theorem keeps_derefMessage
    (m : MessageRef M) :
    Program.Keeps C P (derefMessage m : CoreM M W M) :=
  Program.keeps_bind Program.keeps_getState fun _ =>
    Program.keeps_ite (keeps_crash h rfl) (Program.keeps_pure _)

omit h in
theorem keeps_gConnectionPtr :
    Program.Keeps C P (gConnectionPtr : CoreM M W (Option Ptr)) :=
  Program.keeps_bind Program.keeps_getState fun _ => Program.keeps_pure _

omit h in
/-- A change of the connection, once the transport has accepted it. -/
theorem keeps_acceptedUpdate
    {x : Option Ptr → CoreM M W RtError} {f : Connection → Connection}
    (hx : ∀ con, Program.Keeps C P (x con))
    (hf : Program.Keeps C P (updateConnection f : CoreM M W Unit)) :
    Program.Keeps C P
      (do
        let con ← gConnectionPtr
        let err ← x con
        if err = .rtOk then
          updateConnection f
          pure err
        else pure err) := by
  refine Program.keeps_bind keeps_gConnectionPtr fun con => ?_
  refine Program.keeps_bind (hx con) fun err => ?_
  exact Program.keeps_ite (Program.keeps_bind hf fun _ => Program.keeps_pure _)
    (Program.keeps_pure _)

theorem keeps_deref
    {α : Type}
    (p : Option α) :
    Program.Keeps C P (deref p : CoreM M W α) := by
  cases p with
  | none =>
      exact keeps_crash h rfl
  | some a =>
      exact Program.keeps_pure a

/-- Access to a vector, where its faults are allowed for. -/
theorem sat_accessVector
    {α : Type} {v : RtVector α} {w : World M W}
    (hw : P w)
    (hfault : ∀ f, v.fault? = some f → P { w with log := w.log ++ [.fault f] }) :
    Program.Sat C (accessVector v) (fun _ => P) w := by
  cases v with
  | live items =>
      exact hw
  | null =>
      exact hfault .noVector rfl
  | destroyed =>
      exact h.atUndef _ (hfault .vector rfl)

theorem keeps_serverObjects
    (hfault : ∀ w f, w.gServerObjects.fault? = some f → P w →
      P { w with log := w.log ++ [.fault f] }) :
    Program.Keeps C P (serverObjects : CoreM M W _) :=
  fun w hw => sat_accessVector h hw fun f hf => hfault w f hf hw

theorem keeps_clientSubscriptions
    (hfault : ∀ w f, w.gEventSubscriptionsForClient.fault? = some f → P w →
      P { w with log := w.log ++ [.fault f] }) :
    Program.Keeps C P (clientSubscriptions : CoreM M W _) :=
  fun w hw => sat_accessVector h hw fun f hf => hfault w f hf hw

theorem keeps_derefObject
    (p : Ptr) :
    Program.Keeps C P (derefObject p : CoreM M W ServerObject) := by
  refine Program.keeps_bind Program.keeps_getState fun w => ?_
  split
  · exact Program.keeps_pure _
  · exact keeps_crash h rfl

theorem keeps_derefSubscription
    (p : Ptr) :
    Program.Keeps C P (derefSubscription p : CoreM M W ClientSubscription) := by
  refine Program.keeps_bind Program.keeps_getState fun w => ?_
  split
  · exact Program.keeps_pure _
  · exact keeps_crash h rfl

theorem keeps_rtVectorAt
    {α : Type}
    (xs : List α) (i : Nat) :
    Program.Keeps C P (rtVectorAt xs i : CoreM M W α) := by
  unfold rtVectorAt
  split
  · exact Program.keeps_pure _
  · exact keeps_crash h rfl

theorem keeps_rtVectorFindAt
    {α : Type}
    (n : Nat) (name : α → CString) (key : List UInt8) (xs : List α) :
    Program.Keeps C P (rtVectorFindAt n name key xs : CoreM M W (Option α)) := by
  unfold rtVectorFindAt
  split
  · exact Program.keeps_pure _
  · exact keeps_crash h rfl

theorem keeps_rtVectorFindDeref
    {α : Type}
    (compare : α → CString → Int) (xs : List α) (key : Option CString) :
    Program.Keeps C P (rtVectorFindDeref compare xs key : CoreM M W (Option α)) := by
  cases xs with
  | nil =>
      exact Program.keeps_pure _
  | cons x xs =>
      exact Program.keeps_bind (keeps_deref h key) fun _ => Program.keeps_pure _

theorem keeps_getObject
    (hfault : ∀ w f, w.gServerObjects.fault? = some f → P w →
      P { w with log := w.log ++ [.fault f] })
    (objectName : Option CString) :
    Program.Keeps C P (getObject objectName : CoreM M W (Option ServerObject)) :=
  Program.keeps_bind (keeps_serverObjects h hfault) fun _ => keeps_rtVectorFindDeref h _ _ _

theorem keeps_stringAt
    (region : List UInt8) :
    Program.Keeps C P (stringAt region : CoreM M W CString) := by
  unfold stringAt
  split
  · exact Program.keeps_pure _
  · exact keeps_crash h rfl

theorem keeps_strncmpAt
    (n : Nat) (s : CString) (region : List UInt8) :
    Program.Keeps C P (strncmpAt n s region : CoreM M W Int) := by
  unfold strncmpAt
  split
  · exact Program.keeps_pure _
  · exact keeps_crash h rfl

theorem keeps_strcpy
    (n : Nat) (s : CString) :
    Program.Keeps C P (strcpy n s : CoreM M W (BoundedName n)) := by
  unfold strcpy
  split
  · exact Program.keeps_pure _
  · exact keeps_crash h rfl

theorem keeps_written
    (m : MessageRef M) (r : Option M) :
    Program.Keeps C P (written m r : CoreM M W (MessageRef M)) := by
  cases r with
  | none =>
      exact keeps_crash h rfl
  | some v =>
      exact Program.keeps_pure _

theorem keeps_rtConnectionGetReturnAddress :
    Program.Keeps C P (rtConnectionGetReturnAddress : CoreM M W CString) := by
  refine Program.keeps_bind Program.keeps_getState fun w => ?_
  split
  · exact Program.keeps_pure _
  · exact keeps_crash h rfl

end Calls

variable (h : Steady C P)

include h

theorem keeps_rtMalloc : Program.Keeps C P (rtMalloc : CoreM M W Ptr) :=
  fun w hw => h.messages w (w.nextPtr + 1) w.refCount (Nat.le_succ _) hw

theorem keeps_newMessage
    (m : M) :
    Program.Keeps C P (newMessage m : CoreM M W (MessageRef M)) :=
  fun w hw => h.messages w (w.nextPtr + 1) _ (Nat.le_succ _) hw

theorem keeps_rbusMessageRelease
    (m : MessageRef M) :
    Program.Keeps C P (rbusMessageRelease m : CoreM M W Unit) :=
  Program.keeps_bind Program.keeps_getState fun _ =>
    Program.keeps_ite (keeps_crash h rfl)
      fun w hw => h.messages w w.nextPtr _ (Nat.le_refl _) hw

theorem keeps_newMessageUnlessNull
    (message : Option M) :
    Program.Keeps C P (newMessageUnlessNull message : CoreM M W (Option (MessageRef M))) := by
  cases message with
  | none =>
      exact Program.keeps_pure _
  | some message =>
      exact Program.keeps_bind (keeps_newMessage h _) fun _ => Program.keeps_pure _

end Primitives

section Requests

variable {M W : Type} [MessageApi M W]
variable {C : Contract (Call.Answer (M := M) (W := W)) (World M W)}
variable {P : World M W → Prop} (h : Steady C P)

include h

theorem keeps_setMessageMethod
    (msg : MessageRef M) (method : Option CString) :
    Program.Keeps C P (setMessageMethod msg method : CoreM M W (MessageRef M)) :=
  Program.keeps_bind (keeps_written h _ _) fun _ => keeps_written h _ _

theorem keeps_responseOrUnsupported
    (response : Option (MessageRef M)) :
    Program.Keeps C P (responseOrUnsupported response : CoreM M W (MessageRef M)) := by
  cases response with
  | none =>
      exact Program.keeps_bind (keeps_newMessage h _) fun _ => keeps_written h _ _
  | some response =>
      exact Program.keeps_pure _

theorem keeps_rbusSendRequest
    (req : MessageRef M) (topic : CString) (timeout : Int) :
    Program.Keeps C P
      (rbusSendRequest req topic timeout : CoreM M W (Except RtError (MessageRef M))) := by
  refine Program.keeps_bind keeps_gConnectionPtr fun con => ?_
  refine Program.keeps_bind (keeps_call h rfl) fun reply => ?_
  split
  · exact Program.keeps_bind (keeps_newMessage h _) fun _ => Program.keeps_pure _
  · exact Program.keeps_pure _

omit [MessageApi M W] in
theorem keeps_checkResponse
    (methodName : Option (List UInt8)) :
    Program.Keeps C P (checkResponse methodName : CoreM M W RbusError) := by
  cases methodName with
  | none =>
      exact Program.keeps_pure _
  | some region =>
      exact Program.keeps_bind (keeps_strncmpAt h _ _ _) fun _ =>
        Program.keeps_ite (Program.keeps_pure _) (Program.keeps_pure _)

theorem keeps_receiveReply
    (out : MessageRef M) (reply : Except RtError (MessageRef M)) :
    Program.Keeps C P
      (receiveReply out reply : CoreM M W (RbusError × Option (Option (MessageRef M)))) := by
  cases reply with
  | error err =>
      exact Program.keeps_bind (keeps_rbusMessageRelease h _) fun _ => Program.keeps_pure _
  | ok res =>
      refine Program.keeps_bind (keeps_checkResponse h _) fun ret => ?_
      refine Program.keeps_bind (keeps_rbusMessageRelease h _) fun _ => ?_
      refine Program.keeps_ite ?_ (Program.keeps_pure _)
      exact Program.keeps_bind (keeps_rbusMessageRelease h _) fun _ => Program.keeps_pure _

theorem keeps_messageOrEmpty
    (out : Option (MessageRef M)) :
    Program.Keeps C P (messageOrEmpty out : CoreM M W (MessageRef M)) := by
  cases out with
  | none =>
      exact keeps_newMessage h _
  | some out =>
      exact Program.keeps_pure _

theorem keeps_rbusInvokeRemoteMethod
    (objectName method : Option CString) (out : Option (MessageRef M)) (timeout : Int) :
    Program.Keeps C P
      (rbusInvokeRemoteMethod objectName method out timeout :
        CoreM M W (RbusError × Option (Option (MessageRef M)))) := by
  refine Program.keeps_bind Program.keeps_getState fun w => ?_
  refine Program.keeps_ite (Program.keeps_pure _) ?_
  refine Program.keeps_bind (keeps_deref h _) fun name => ?_
  refine Program.keeps_ite (Program.keeps_pure _) ?_
  refine Program.keeps_bind (keeps_messageOrEmpty h _) fun out => ?_
  refine Program.keeps_bind (keeps_setMessageMethod h _ _) fun out => ?_
  exact Program.keeps_bind (keeps_rbusSendRequest h _ _ _) fun reply => keeps_receiveReply h _ _

theorem keeps_setPayload
    (request : MessageRef M) (payload : Option (MessageRef M)) :
    Program.Keeps C P (setPayload request payload : CoreM M W (MessageRef M)) := by
  cases payload with
  | none =>
      exact keeps_written h _ _
  | some payload =>
      exact Program.keeps_bind (keeps_written h _ _) fun _ => keeps_written h _ _

theorem keeps_sendSubscriptionRequest
    (objectName eventName : CString) (activate : Bool) (payload : Option (MessageRef M))
    (timeoutMs : Int) :
    Program.Keeps C P
      (sendSubscriptionRequest objectName eventName activate payload timeoutMs :
        CoreM M W (RbusError × Option Int)) := by
  refine Program.keeps_bind (keeps_newMessage h _) fun request => ?_
  refine Program.keeps_bind (keeps_written h _ _) fun request => ?_
  refine Program.keeps_bind (keeps_rtConnectionGetReturnAddress h) fun address => ?_
  refine Program.keeps_bind (keeps_written h _ _) fun request => ?_
  refine Program.keeps_bind (keeps_setPayload h _ _) fun request => ?_
  refine Program.keeps_bind (keeps_rbusInvokeRemoteMethod h _ _ _ _) fun reply => ?_
  refine Program.keeps_ite ?_ (Program.keeps_ite (Program.keeps_pure _) (Program.keeps_pure _))
  refine Program.keeps_bind (keeps_deref h _) fun response => ?_
  exact Program.keeps_bind (keeps_rbusMessageRelease h _) fun _ => Program.keeps_pure _

omit [MessageApi M W] in
/-- Event dispatch is started with the connection and its own flag. -/
theorem keeps_startEventDispatch
    (hconnection : ∀ w f, P w → P { w with gConnection := w.gConnection.map f })
    (hflag : ∀ w, P w → P { w with gRunEventClientDispatch := true }) :
    Program.Keeps C P (startEventDispatch : CoreM M W Unit) := by
  refine Program.keeps_bind Program.keeps_getState fun w => ?_
  refine Program.keeps_ite (Program.keeps_bind ?_ fun _ => hflag) (Program.keeps_pure _)
  refine Program.keeps_bind keeps_gConnectionPtr fun con => ?_
  exact Program.keeps_bind (keeps_call h rfl) fun _ w => hconnection w _

end Requests

section Arrival

variable {M W : Type}
variable {C : Contract (Call.Answer (M := M) (W := W)) (World M W)}
variable {P : World M W → Prop} (h : Steady C P)

include h

theorem keeps_matchesSubscription
    (sender : CString) (eventName : Option (List UInt8)) (sub : ClientSubscription) :
    Program.Keeps C P (matchesSubscription sender eventName sub : CoreM M W Bool) := by
  refine Program.keeps_ite (Program.keeps_pure _) ?_
  refine Program.keeps_bind (keeps_deref h _) fun key => ?_
  exact Program.keeps_bind (keeps_strncmpAt h _ _ _) fun _ => Program.keeps_pure _

theorem keeps_findInSubscription
    (eventName : Option (List UInt8)) (sub : ClientSubscription) (matched : Bool) :
    Program.Keeps C P
      (findInSubscription eventName sub matched : CoreM M W (Option ClientEvent)) :=
  Program.keeps_ite
    (Program.keeps_bind (keeps_deref h _) fun _ => keeps_rtVectorFindAt h _ _ _ _)
    (Program.keeps_pure _)

theorem keeps_findClientEvent
    (sender : CString) (eventName : Option (List UInt8)) (subs : List ClientSubscription) :
    Program.Keeps C P
      (findClientEvent sender eventName subs : CoreM M W (Option ClientEvent)) := by
  induction subs with
  | nil =>
      exact Program.keeps_pure _
  | cons s subs ih =>
      refine Program.keeps_bind (keeps_matchesSubscription h _ _ _) fun matched => ?_
      refine Program.keeps_bind (keeps_findInSubscription h _ _ _) fun found => ?_
      cases found with
      | some event =>
          exact Program.keeps_pure _
      | none =>
          exact ih

variable (hsubscriptions : Program.Keeps C P (clientSubscriptions : CoreM M W _))
variable (hlock : Program.Keeps C P (lock : CoreM M W Unit))
variable (hunlock : Program.Keeps C P (unlock : CoreM M W Unit))

include hsubscriptions hlock hunlock

theorem keeps_dispatchClientEvent
    (sender : CString) (eventName : Option (List UInt8)) (msg : MessageRef M) :
    Program.Keeps C P (dispatchClientEvent sender eventName msg : CoreM M W Unit) := by
  refine Program.keeps_bind hlock fun _ => ?_
  refine Program.keeps_bind hsubscriptions fun subs => ?_
  refine Program.keeps_bind (keeps_findClientEvent h _ _ _) fun found => ?_
  refine Program.keeps_bind hunlock fun _ => ?_
  cases found with
  | some event =>
      exact Program.keeps_bind (keeps_call h rfl) fun _ => keeps_rbusMessageRelease h _
  | none =>
      exact keeps_rbusMessageRelease h _

theorem keeps_masterEventCallback
    [MessageApi M W]
    (hdr : RtMessageHeader) (data : W) :
    Program.Keeps C P (masterEventCallback (M := M) hdr data) := by
  refine Program.keeps_ite (Program.keeps_pure _) ?_
  refine Program.keeps_bind (keeps_newMessage h _) fun msg => ?_
  dsimp only
  split
  · exact keeps_rbusMessageRelease h _
  · refine Program.keeps_bind Program.keeps_getState fun w => ?_
    split
    · refine Program.keeps_bind (keeps_call h rfl) fun err => ?_
      exact Program.keeps_ite (keeps_rbusMessageRelease h _)
        (keeps_dispatchClientEvent h hsubscriptions hlock hunlock _ _ _)
    · exact keeps_dispatchClientEvent h hsubscriptions hlock hunlock _ _ _

end Arrival

section Mutex

variable {M W : Type}
variable {C : Contract (Call.Answer (M := M) (W := W)) (World M W)}
variable {I : Bool → World M W → Prop} (h : Exclusive C I)

include h

theorem leads_lock : Program.Leads C (I false) (lock : CoreM M W Unit) (I true) :=
  fun w hw => h.locked w hw

theorem leads_unlock : Program.Leads C (I true) (unlock : CoreM M W Unit) (I false) :=
  fun w hw => h.unlocked w hw

/-- The mutex is released with a result. -/
theorem leads_unlock_pure
    {α : Type}
    (a : α) :
    Program.Leads C (I true) (do unlock; pure a : CoreM M W α) (I false) :=
  Program.leads_bind (leads_unlock h) fun _ => Program.leads_pure a

end Mutex

section Table

variable {M W : Type}
variable {C : Contract (Call.Answer (M := M) (W := W)) (World M W)}
variable {I : Bool → World M W → Prop} (h : Locking C I)

include h

theorem keeps_table
    (owned : Bool) :
    Program.Keeps C (I owned) (clientSubscriptions : CoreM M W _) :=
  keeps_clientSubscriptions (h.steady owned) (h.unusable owned)

theorem keeps_updateClientSubscriptions
    (f : List ClientSubscription → List ClientSubscription) :
    Program.Keeps C (I true) (updateClientSubscriptions f : CoreM M W Unit) :=
  fun w hw => h.subscriptions w _ hw

theorem keeps_removeClientEvent
    (sub : Ptr) (objectName eventName : CString) :
    Program.Keeps C (I true) (removeClientEvent sub objectName eventName : CoreM M W Unit) := by
  refine Program.keeps_bind (keeps_updateClientSubscriptions h _) fun _ => ?_
  refine Program.keeps_bind (keeps_derefSubscription (h.steady true) sub) fun sub => ?_
  exact Program.keeps_ite (keeps_updateClientSubscriptions h _) (Program.keeps_pure _)

theorem leads_removeSubscriptionLocked
    (objectName eventName : CString) :
    Program.Leads C (I true) (removeSubscriptionLocked objectName eventName :
      CoreM M W RbusError) (I false) := by
  refine Program.leads_bind (keeps_table h true) fun subs => ?_
  split
  case h_1 sub _ =>
    split
    · exact Program.leads_bind (keeps_removeClientEvent h _ _ _) fun _ => leads_unlock_pure h _
    · exact leads_unlock_pure h _
  case h_2 =>
    exact leads_unlock_pure h _

theorem keeps_removeSubscriptionCallback
    (objectName eventName : CString) :
    Program.Keeps C (I false) (removeSubscriptionCallback objectName eventName :
      CoreM M W RbusError) :=
  Program.leads_bind (leads_lock h) fun _ => leads_removeSubscriptionLocked h _ _

theorem keeps_addSubscriptionCallback
    (objectName : BoundedName maxObjectNameLength) (eventName : BoundedName maxEventNameLength)
    (callback : Nat) (userData : Ptr) :
    Program.Keeps C (I true)
      (addSubscriptionCallback objectName eventName callback userData : CoreM M W Bool) := by
  refine Program.keeps_bind (keeps_table h true) fun subs => ?_
  split
  · refine Program.keeps_ite (Program.keeps_pure _) ?_
    exact Program.keeps_bind (keeps_updateClientSubscriptions h _) fun _ => Program.keeps_pure _
  · refine Program.keeps_bind (Program.keeps_bind (keeps_rtMalloc (h.steady true))
      fun _ => Program.keeps_pure _) fun sub => ?_
    refine Program.keeps_bind (keeps_updateClientSubscriptions h _) fun _ => ?_
    exact Program.keeps_bind (keeps_updateClientSubscriptions h _) fun _ => Program.keeps_pure _

theorem keeps_addUnlessMaster
    (objectName : BoundedName maxObjectNameLength) (eventName : BoundedName maxEventNameLength)
    (callback : Nat) (userData : Ptr) :
    Program.Keeps C (I true)
      (addUnlessMaster objectName eventName callback userData : CoreM M W Bool) :=
  Program.keeps_bind Program.keeps_getState fun _ =>
    Program.keeps_ite (keeps_addSubscriptionCallback h _ _ _ _) (Program.keeps_pure _)

theorem keeps_removeUnlessMaster
    (objectName eventName : CString) :
    Program.Keeps C (I false) (removeUnlessMaster objectName eventName : CoreM M W Unit) :=
  Program.keeps_bind Program.keeps_getState fun _ =>
    Program.keeps_ite (Program.keeps_bind (keeps_removeSubscriptionCallback h _ _)
      fun _ => Program.keeps_pure _) (Program.keeps_pure _)

/-- `rtVector_Destroy` of the table. -/
theorem leads_destroyClientSubscriptions
    {Q : World M W → Prop}
    (hdestroy : ∀ w, I true w →
      Q { w with
        gEventSubscriptionsForClient := w.gEventSubscriptionsForClient.destroy
        log := w.log ++ [.write w.mutexOwned] }) :
    Program.Leads C (I true) (destroyClientSubscriptions : CoreM M W Unit) Q :=
  Program.leads_bind (keeps_table h true) fun _ w hw => hdestroy w hw

omit h in
/-- `rtVector_Destroy` of the objects. -/
theorem leads_destroyServerObjects
    {P Q : World M W → Prop}
    (hsteady : Steady C P)
    (hfault : ∀ w f, w.gServerObjects.fault? = some f → P w →
      P { w with log := w.log ++ [.fault f] })
    (hdestroy : ∀ w, P w →
      Q { w with
        gServerObjects := w.gServerObjects.destroy
        log := w.log ++ [.write w.mutexOwned] }) :
    Program.Leads C P (destroyServerObjects : CoreM M W Unit) Q :=
  Program.leads_bind (keeps_serverObjects hsteady hfault) fun _ w hw => hdestroy w hw

omit h in
/-- What is undone after a failed request, where the owner of the mutex does not matter. -/
theorem keeps_rollbackUnlessMaster
    {P : World M W → Prop}
    (hlocking : Locking C fun _ => P)
    (objectName eventName : CString) :
    Program.Keeps C P (rollbackUnlessMaster objectName eventName : CoreM M W Unit) := by
  refine Program.keeps_bind Program.keeps_getState fun _ =>
    Program.keeps_ite ?_ (Program.keeps_pure _)
  refine Program.keeps_bind (leads_lock hlocking.exclusive) fun _ => ?_
  exact Program.keeps_bind (keeps_removeSubscriptionCallback hlocking _ _) fun _ =>
    leads_unlock hlocking.exclusive

variable [MessageApi M W]

theorem keeps_rbusUnsubscribeFromEvent
    (objectName eventName : Option CString) (payload : Option (MessageRef M)) :
    Program.Keeps C (I false)
      (rbusUnsubscribeFromEvent objectName eventName payload : CoreM M W RbusError) := by
  unfold rbusUnsubscribeFromEvent
  split
  · exact Program.keeps_pure _
  · refine Program.keeps_ite (Program.keeps_pure _) ?_
    refine Program.keeps_bind (keeps_removeUnlessMaster h _ _) fun _ => ?_
    exact Program.keeps_bind (keeps_sendSubscriptionRequest (h.steady false) _ _ _ _ _)
      fun _ => Program.keeps_pure _

theorem keeps_cancelSubscription
    (i : Nat) :
    Program.Keeps C (I false) (cancelSubscription i : CoreM M W Unit) := by
  have hsteady := h.steady false
  refine Program.keeps_bind (keeps_table h false) fun subs => ?_
  refine Program.keeps_bind (keeps_rtVectorAt hsteady _ _) fun sub => ?_
  refine Program.keeps_forLoop fun i2 => ?_
  refine Program.keeps_bind (keeps_derefSubscription hsteady _) fun sub => ?_
  refine Program.keeps_bind (keeps_rtVectorAt hsteady _ _) fun event => ?_
  exact Program.keeps_bind (keeps_sendSubscriptionRequest hsteady _ _ _ _ _) fun _ =>
    Program.keeps_pure _

theorem keeps_cancelSubscriptions :
    Program.Keeps C (I true) (cancelSubscriptions : CoreM M W Unit) := by
  refine Program.keeps_bind (keeps_table h true) fun subs => ?_
  refine Program.keeps_ite ?_ (Program.keeps_pure _)
  refine Program.leads_bind (leads_unlock h) fun _ => ?_
  exact Program.leads_bind (Program.keeps_forLoop fun i => keeps_cancelSubscription h i)
    fun _ => leads_lock h

/-- The clean-up, from the state before it over the one without objects to the one without
both vectors. -/
theorem leads_performCleanup
    {P Q R : World M W → Prop}
    (hlock : Program.Leads C P (lock : CoreM M W Unit) Q)
    (hobjects : Program.Leads C Q (destroyServerObjects : CoreM M W Unit) (I true))
    (htable : Program.Leads C (I true) (destroyClientSubscriptions : CoreM M W Unit) R) :
    Program.Leads C P (performCleanup : CoreM M W Unit)
      (fun w => ∃ w₀, R w₀ ∧
        w = { w₀ with mutexOwned := false, log := w₀.log ++ [.unlock w₀.mutexOwned] }) := by
  refine Program.leads_bind hlock fun _ => ?_
  refine Program.leads_bind hobjects fun _ => ?_
  refine Program.leads_bind (keeps_cancelSubscriptions h) fun _ => ?_
  exact Program.leads_bind htable fun _ w hw => ⟨w, hw, rfl⟩

omit h in
/-- The clean-up, where neither the vectors nor the owner of the mutex matter. -/
theorem keeps_performCleanup
    {P : World M W → Prop}
    (hlocking : Locking C fun _ => P)
    (hvectors : ∀ (w : World M W) objects subscriptions e, P w →
      P { w with
        gServerObjects := objects
        gEventSubscriptionsForClient := subscriptions
        log := w.log ++ [e] }) :
    Program.Keeps C P (performCleanup : CoreM M W Unit) := by
  have hcleanup := leads_performCleanup hlocking (leads_lock hlocking.exclusive)
    (leads_destroyServerObjects (hlocking.steady true)
      (fun w f _ hw => hvectors w _ _ _ hw) fun w hw => hvectors w _ _ _ hw)
    (leads_destroyClientSubscriptions hlocking fun w hw => hvectors w _ _ _ hw)
  intro w hw
  refine (hcleanup w hw).mono ?_
  rintro _ _ ⟨w₀, h₀, rfl⟩
  exact hlocking.unlocked w₀ h₀

end Table

section Handler

variable {M W : Type}
variable {C : Contract (Call.Answer (M := M) (W := W)) (World M W)}
variable {P : World M W → Prop}

section Notification

variable (h : Notifying C P)

include h

theorem keeps_invokeSubCallback
    (event : ServerEvent) (listener : CString) (added : Bool) :
    Program.Keeps C P (invokeSubCallback event listener added : CoreM M W Unit) := by
  unfold invokeSubCallback
  split
  · exact Program.keeps_bind (keeps_derefObject h.toCalling _) fun _ =>
      Program.keeps_bind (keeps_call h.toCalling rfl) fun _ => Program.keeps_pure _
  · exact Program.keeps_pure _

theorem keeps_updateEvent
    (object : Ptr) (event : CString) (f : ServerEvent → ServerEvent) :
    Program.Keeps C P (updateEvent object event f : CoreM M W Unit) :=
  fun w hw => h.listeners w object (rtVectorUpdateFound serverEventCompare event f) hw

theorem keeps_changeListener
    (event : ServerEvent) (listener : CString) (added : Bool) :
    Program.Keeps C P (changeListener event listener added : CoreM M W Unit) := by
  refine Program.keeps_ite (Program.keeps_ite ?_ (Program.keeps_pure _))
    (Program.keeps_ite ?_ (Program.keeps_pure _))
  · exact Program.keeps_bind (keeps_updateEvent h _ _ _) fun _ =>
      keeps_invokeSubCallback h event listener true
  · exact Program.keeps_bind (keeps_updateEvent h _ _ _) fun _ =>
      keeps_invokeSubCallback h event listener false

theorem keeps_notifyServerEvent
    (obj : Ptr) (event subscriber : CString) (added : Bool) :
    Program.Keeps C P (notifyServerEvent obj event subscriber added : CoreM M W RbusError) := by
  refine Program.keeps_bind (keeps_derefObject h.toCalling obj) fun object => ?_
  split
  · exact Program.keeps_bind (keeps_changeListener h _ _ _) fun _ => Program.keeps_pure _
  · exact Program.keeps_pure _

theorem keeps_serverObjectSubscriptionHandler
    (obj : Ptr) (event subscriber : Option (List UInt8)) (added : Bool) (payload : Option M) :
    Program.Keeps C P
      (serverObjectSubscriptionHandler obj event subscriber added payload :
        CoreM M W RbusError) := by
  unfold serverObjectSubscriptionHandler
  split
  case h_1 event subscriber =>
    refine Program.keeps_bind (keeps_stringAt h.toCalling _) fun subscriber => ?_
    refine Program.keeps_ite (Program.keeps_pure _) ?_
    refine Program.keeps_bind (keeps_stringAt h.toCalling _) fun event => ?_
    refine Program.keeps_ite (Program.keeps_pure _) ?_
    refine Program.keeps_bind (keeps_derefObject h.toCalling obj) fun object => ?_
    split
    · refine Program.keeps_bind (keeps_call h.toCalling rfl) fun ret => ?_
      exact Program.keeps_ite (Program.keeps_pure _) (keeps_notifyServerEvent h _ _ _ _)
    · exact keeps_notifyServerEvent h _ _ _ _
  case h_2 =>
    exact Program.keeps_pure _

end Notification

variable (h : Listening C P)

include h

variable [MessageApi M W]

theorem keeps_handleSubscription
    (methodName : Option (List UInt8)) (eventName sender : List UInt8) (request : M)
    (userData : Ptr) :
    Program.Keeps C P
      (handleSubscription methodName eventName sender request userData :
        CoreM M W RbusError) := by
  refine Program.keeps_bind ?_ fun payload => ?_
  · unfold subscriptionPayload
    split
    · exact Program.keeps_bind (keeps_newMessage h.toSteady _) fun _ => Program.keeps_pure _
    · exact Program.keeps_pure _
  · refine Program.keeps_bind (keeps_deref h.toSteady _) fun name => ?_
    refine Program.keeps_bind (keeps_strncmpAt h.toSteady _ _ _) fun order => ?_
    refine Program.keeps_bind
      (keeps_serverObjectSubscriptionHandler h.toNotifying _ _ _ _ _) fun ret => ?_
    refine Program.keeps_bind ?_ fun _ => Program.keeps_pure _
    cases payload with
    | none =>
        exact Program.keeps_pure _
    | some payload =>
        exact keeps_rbusMessageRelease h.toSteady payload

theorem keeps_subscriptionHandler
    (methodName : Option (List UInt8)) (request : M) (userData : Ptr) :
    Program.Keeps C P
      (subscriptionHandler methodName request userData :
        CoreM M W (RbusError × Option (MessageRef M))) := by
  refine Program.keeps_bind (keeps_newMessage h.toSteady _) fun out => ?_
  dsimp only
  split
  · exact Program.keeps_bind (keeps_handleSubscription h _ _ _ _ _) fun _ =>
      Program.keeps_bind (keeps_written h.toSteady _ _) fun _ => Program.keeps_pure _
  · exact Program.keeps_pure _

end Handler

section Dispatch

variable {M W : Type}
variable {C : Contract (Call.Answer (M := M) (W := W)) (World M W)}
variable {P : World M W → Prop}

theorem keeps_findMethod
    (h : Calling C P)
    (object : ServerObject) (methodName : Option (List UInt8)) :
    Program.Keeps C P (findMethod object methodName : CoreM M W (Option ServerMethod)) := by
  cases methodName with
  | none =>
      exact Program.keeps_pure _
  | some key =>
      exact keeps_rtVectorFindAt h _ _ _ _

section Responses

variable (h : Responding C P)

include h

theorem keeps_flowCall
    {e : Call M W}
    (he : e.isFlow = true) :
    Program.Keeps C P (call e) :=
  Program.keeps_bind (fun w hw => h.flowCalled w e he hw) fun _ =>
    Program.keeps_perform (fun w => h.flowAtCall e w he) fun w a w' hw henv =>
      h.env e w a w' henv hw

theorem keeps_appMethodCallback
    (id : Nat) (topic : CString) (methodName : Option (List UInt8)) (request : M)
    (data : Ptr) (hdr : RtMessageHeader) :
    Program.Keeps C P
      (appMethodCallback id topic methodName request data hdr :
        CoreM M W (RbusError × Option (MessageRef M))) :=
  Program.keeps_bind (keeps_flowCall h rfl) fun _ =>
    Program.keeps_bind (keeps_newMessageUnlessNull h.toSteady _) fun _ => Program.keeps_pure _

variable [MessageApi M W]

theorem keeps_rbusSendResponse
    (hdr : RtMessageHeader) (response : Option (MessageRef M)) :
    Program.Keeps C P (rbusSendResponse hdr response : CoreM M W RbusError) := by
  refine Program.keeps_ite ?_ (Program.keeps_pure _)
  refine Program.keeps_bind (keeps_responseOrUnsupported h.toSteady _) fun response => ?_
  refine Program.keeps_bind (keeps_setMessageMethod h.toSteady _ _) fun response => ?_
  refine Program.keeps_bind keeps_gConnectionPtr fun con => ?_
  refine Program.keeps_bind (keeps_flowCall h rfl) fun err => ?_
  exact Program.keeps_bind (keeps_rbusMessageRelease h.toSteady response) fun _ =>
    Program.keeps_pure _

end Responses

variable (h : Serving C P) [MessageApi M W]

include h

theorem keeps_dispatchTo
    (method : Option ServerMethod) (obj : Ptr) (methodName : Option (List UInt8)) (request : M)
    (hdr : RtMessageHeader) :
    Program.Keeps C P (dispatchTo method obj methodName request hdr : CoreM M W Unit) := by
  cases method with
  | some method =>
      refine Program.keeps_bind ?_ fun result =>
        Program.keeps_bind (keeps_rbusSendResponse h.toResponding _ _) fun _ => Program.keeps_pure _
      unfold invokeMethodCallback
      split
      · exact keeps_subscriptionHandler h.toListening _ _ _
      · exact keeps_appMethodCallback h.toResponding _ _ _ _ _ _
  | none =>
      refine Program.keeps_bind (keeps_derefObject h.toSteady obj) fun object => ?_
      refine Program.keeps_bind (keeps_appMethodCallback h.toResponding _ _ _ _ _ _) fun result => ?_
      refine Program.keeps_ite (Program.keeps_pure _) ?_
      exact Program.keeps_bind (keeps_rbusSendResponse h.toResponding _ _) fun _ => Program.keeps_pure _

theorem keeps_dispatchMethodCall
    (msg : MessageRef M) (hdr : RtMessageHeader) (obj : Ptr) :
    Program.Keeps C P (dispatchMethodCall msg hdr obj : CoreM M W Unit) := by
  refine Program.keeps_bind (keeps_derefMessage h.toSteady msg) fun m => ?_
  refine Program.keeps_bind (leads_lock h.locking.exclusive) fun _ => ?_
  refine Program.keeps_bind (keeps_derefObject h.toSteady obj) fun object => ?_
  refine Program.keeps_bind (keeps_findMethod h.toSteady _ _) fun method => ?_
  refine Program.keeps_bind (leads_unlock h.locking.exclusive) fun _ => ?_
  exact keeps_dispatchTo h _ _ _ _ _

end Dispatch

end RbusCore
