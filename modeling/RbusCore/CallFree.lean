import RbusCore.Lib.SingleCalls
import RbusCore.Operations

/-!
# Code without calls

Most of what the library does to its records it does without calling the transport or the
application, and a request is sent by a single call.

**Results.**
* `callFree_rbusRegisterMethod` and its siblings: operations that call nobody.
* `callsOnce_sendSubscriptionRequest`: a request that is sent at most once.
-/

namespace RbusCore

open CStrings Resumption

section Once

variable {M W : Type}

theorem callFree_crash
    {α : Type}
    (f : Fault) :
    Program.CallFree (crash f : CoreM M W α) :=
  fun _ => trivial

theorem callFree_deref
    {α : Type}
    (p : Option α) :
    Program.CallFree (deref p : CoreM M W α) := by
  cases p with
  | none =>
      exact callFree_crash _
  | some a =>
      exact Program.callFree_pure a

theorem callFree_newMessage
    (m : M) :
    Program.CallFree (newMessage m : CoreM M W (MessageRef M)) :=
  fun _ => trivial

theorem callFree_rbusMessageRelease
    (m : MessageRef M) :
    Program.CallFree (rbusMessageRelease m : CoreM M W Unit) :=
  Program.callFree_bind Program.callFree_getState fun _ =>
    Program.callFree_ite (callFree_crash _) (Program.callFree_modifyState _)

theorem callFree_written
    (m : MessageRef M) (r : Option M) :
    Program.CallFree (written m r : CoreM M W (MessageRef M)) := by
  cases r with
  | none =>
      exact callFree_crash _
  | some v =>
      exact Program.callFree_pure _

theorem callFree_returnAddress :
    Program.CallFree (rtConnectionGetReturnAddress : CoreM M W CString) := by
  refine Program.callFree_bind Program.callFree_getState fun w => ?_
  split
  · exact Program.callFree_pure _
  · exact callFree_crash _

theorem callFree_checkResponse
    (name : Option (List UInt8)) :
    Program.CallFree (checkResponse name : CoreM M W RbusError) := by
  cases name with
  | none =>
      exact Program.callFree_pure _
  | some region =>
      refine Program.callFree_bind ?_ fun _ =>
        Program.callFree_ite (Program.callFree_pure _) (Program.callFree_pure _)
      unfold strncmpAt
      split
      · exact Program.callFree_pure _
      · exact callFree_crash _

theorem callsOnce_call
    (e : Call M W) :
    Program.CallsOnce (call e : CoreM M W e.Answer) :=
  Program.callsOnce_bind (Program.callFree_modifyState _) fun _ => Program.callsOnce_perform e

theorem callFree_accessVector
    {β : Type} (v : RtVector β) :
    Program.CallFree (accessVector v : CoreM M W (List β)) := by
  cases v with
  | live items =>
      exact Program.callFree_pure _
  | null =>
      exact fun _ => trivial
  | destroyed =>
      exact callFree_crash _

theorem callFree_clientSubscriptions :
    Program.CallFree (clientSubscriptions : CoreM M W (List ClientSubscription)) :=
  Program.callFree_bind Program.callFree_getState fun _ => callFree_accessVector _

theorem callFree_removeSubscriptionCallback
    (objectName eventName : CString) :
    Program.CallFree (removeSubscriptionCallback objectName eventName : CoreM M W RbusError) := by
  have hunlock (ret : RbusError) : Program.CallFree (do unlock; pure ret : CoreM M W RbusError) :=
    fun _ => trivial
  refine Program.callFree_bind (Program.callFree_modifyState _) fun _ => ?_
  refine Program.callFree_bind callFree_clientSubscriptions fun subs => ?_
  split
  · split
    · refine Program.callFree_bind ?_ fun _ => hunlock _
      refine Program.callFree_bind (Program.callFree_modifyState _) fun _ => ?_
      refine Program.callFree_bind ?_ fun sub =>
        Program.callFree_ite (Program.callFree_modifyState _) (Program.callFree_pure _)
      refine Program.callFree_bind Program.callFree_getState fun w => ?_
      split
      · exact Program.callFree_pure _
      · exact callFree_crash _
    · exact hunlock _
  · exact hunlock _

theorem callFree_rollbackUnlessMaster
    (objectName eventName : CString) :
    Program.CallFree (rollbackUnlessMaster objectName eventName : CoreM M W Unit) := by
  refine Program.callFree_bind Program.callFree_getState fun w => ?_
  refine Program.callFree_ite ?_ (Program.callFree_pure _)
  refine Program.callFree_bind (Program.callFree_modifyState _) fun _ => ?_
  exact Program.callFree_bind (callFree_removeSubscriptionCallback _ _) fun _ =>
    Program.callFree_modifyState _

theorem callFree_removeUnlessMaster
    (objectName eventName : CString) :
    Program.CallFree (removeUnlessMaster objectName eventName : CoreM M W Unit) := by
  refine Program.callFree_bind Program.callFree_getState fun w => ?_
  exact Program.callFree_ite (Program.callFree_bind
    (callFree_removeSubscriptionCallback _ _) fun _ => Program.callFree_pure _)
    (Program.callFree_pure _)

theorem callFree_addUnlessMaster
    (objectName : BoundedName maxObjectNameLength) (eventName : BoundedName maxEventNameLength)
    (callback : Nat) (userData : Ptr) :
    Program.CallFree
      (addUnlessMaster objectName eventName callback userData : CoreM M W Bool) := by
  refine Program.callFree_bind Program.callFree_getState fun w => ?_
  refine Program.callFree_ite ?_ (Program.callFree_pure _)
  refine Program.callFree_bind callFree_clientSubscriptions fun subs => ?_
  split
  · exact Program.callFree_ite (Program.callFree_pure _)
      (Program.callFree_bind (Program.callFree_modifyState _) fun _ => Program.callFree_pure _)
  · refine Program.callFree_bind (Program.callFree_bind (fun _ => trivial) fun _ =>
      Program.callFree_pure _) fun sub => ?_
    refine Program.callFree_bind (Program.callFree_modifyState _) fun _ => ?_
    exact Program.callFree_bind (Program.callFree_modifyState _) fun _ => Program.callFree_pure _

variable [MessageApi M W]

theorem callFree_setPayload
    (request : MessageRef M) (payload : Option (MessageRef M)) :
    Program.CallFree (setPayload request payload : CoreM M W (MessageRef M)) := by
  cases payload with
  | none =>
      exact callFree_written _ _
  | some payload =>
      exact Program.callFree_bind (callFree_written _ _) fun _ => callFree_written _ _

theorem callFree_receiveReply
    (out : MessageRef M) (reply : Except RtError (MessageRef M)) :
    Program.CallFree
      (receiveReply out reply : CoreM M W (RbusError × Option (Option (MessageRef M)))) := by
  cases reply with
  | error err =>
      exact Program.callFree_bind (callFree_rbusMessageRelease out) fun _ =>
        Program.callFree_pure _
  | ok res =>
      refine Program.callFree_bind (callFree_checkResponse _) fun _ => ?_
      refine Program.callFree_bind (callFree_rbusMessageRelease out) fun _ => ?_
      exact Program.callFree_ite (Program.callFree_bind (callFree_rbusMessageRelease res)
        fun _ => Program.callFree_pure _) (Program.callFree_pure _)

theorem callsOnce_rbusSendRequest
    (req : MessageRef M) (topic : CString) (timeout : Int) :
    Program.CallsOnce
      (rbusSendRequest req topic timeout : CoreM M W (Except RtError (MessageRef M))) := by
  refine Program.callsOnce_bind (fun _ => trivial) fun con => ?_
  refine (callsOnce_call _).bind fun reply => ?_
  split
  · exact Program.callFree_bind (callFree_newMessage _) fun _ => Program.callFree_pure _
  · exact Program.callFree_pure _

theorem callFree_messageOrEmpty
    (out : Option (MessageRef M)) :
    Program.CallFree (messageOrEmpty out : CoreM M W (MessageRef M)) := by
  cases out with
  | none =>
      exact callFree_newMessage _
  | some out =>
      exact Program.callFree_pure _

theorem callFree_setMessageMethod
    (out : MessageRef M) (method : Option CString) :
    Program.CallFree (setMessageMethod out method : CoreM M W (MessageRef M)) :=
  Program.callFree_bind (callFree_written _ _) fun _ => callFree_written _ _

theorem callsOnce_rbusInvokeRemoteMethod
    (objectName method : Option CString) (out : Option (MessageRef M)) (timeout : Int) :
    Program.CallsOnce
      (rbusInvokeRemoteMethod objectName method out timeout :
        CoreM M W (RbusError × Option (Option (MessageRef M)))) := by
  have hdone {α : Type} (a : α) : Program.CallsOnce (pure a : CoreM M W α) :=
    (Program.callFree_pure a).callsOnce
  refine Program.callsOnce_bind Program.callFree_getState fun w => ?_
  refine Program.callsOnce_ite (hdone _) ?_
  refine Program.callsOnce_bind (callFree_deref _) fun objectName => ?_
  refine Program.callsOnce_ite (hdone _) ?_
  refine Program.callsOnce_bind (callFree_messageOrEmpty _) fun out => ?_
  refine Program.callsOnce_bind (callFree_setMessageMethod _ _) fun out => ?_
  exact (callsOnce_rbusSendRequest _ _ _).bind fun reply => callFree_receiveReply out reply

/-- A subscription request is sent at most once. -/
theorem callsOnce_sendSubscriptionRequest
    (objectName eventName : CString) (activate : Bool) (payload : Option (MessageRef M))
    (timeoutMs : Int) :
    Program.CallsOnce
      (sendSubscriptionRequest objectName eventName activate payload timeoutMs :
        CoreM M W (RbusError × Option Int)) := by
  refine Program.callsOnce_bind (callFree_newMessage _) fun request => ?_
  refine Program.callsOnce_bind (callFree_written _ _) fun request => ?_
  refine Program.callsOnce_bind callFree_returnAddress fun address => ?_
  refine Program.callsOnce_bind (callFree_written _ _) fun request => ?_
  refine Program.callsOnce_bind (callFree_setPayload _ _) fun request => ?_
  refine (callsOnce_rbusInvokeRemoteMethod _ _ _ _).bind fun reply => ?_
  refine Program.callFree_ite ?_
    (Program.callFree_ite (Program.callFree_pure _) (Program.callFree_pure _))
  refine Program.callFree_bind (callFree_deref _) fun response => ?_
  exact Program.callFree_bind (callFree_rbusMessageRelease _) fun _ => Program.callFree_pure _

end Once

section Registration

variable {M W : Type}

theorem callFree_unlock_pure
    {α : Type}
    (ret : α) :
    Program.CallFree (do unlock; pure ret : CoreM M W α) :=
  fun _ => trivial

theorem callFree_serverObjects :
    Program.CallFree (serverObjects : CoreM M W (List ServerObject)) :=
  Program.callFree_bind Program.callFree_getState fun _ => callFree_accessVector _

theorem callFree_rtVectorFindDeref
    {α : Type}
    (compare : α → CString → Int) (xs : List α) (key : Option CString) :
    Program.CallFree (rtVectorFindDeref compare xs key : CoreM M W (Option α)) := by
  cases xs with
  | nil =>
      exact Program.callFree_pure _
  | cons x xs =>
      exact Program.callFree_bind (callFree_deref key) fun _ => Program.callFree_pure _

theorem callFree_getObject
    (objectName : Option CString) :
    Program.CallFree (getObject objectName : CoreM M W (Option ServerObject)) :=
  Program.callFree_bind callFree_serverObjects fun _ => callFree_rtVectorFindDeref _ _ _

theorem callFree_derefObject
    (p : Ptr) :
    Program.CallFree (derefObject p : CoreM M W ServerObject) := by
  refine Program.callFree_bind Program.callFree_getState fun w => ?_
  split
  · exact Program.callFree_pure _
  · exact callFree_crash _

/-- An object is looked up with the mutex taken. -/
theorem callFree_withObject
    {α : Type}
    (objectName : Option CString)
    {act : Option ServerObject → CoreM M W α}
    (hact : ∀ obj, Program.CallFree (act obj)) :
    Program.CallFree (do
      lock
      let obj ← getObject objectName
      act obj) :=
  Program.callFree_bind (Program.callFree_modifyState _) fun _ =>
    Program.callFree_bind (callFree_getObject objectName) hact

theorem callFree_rbusRegisterMethod
    (objectName methodName : Option CString) (handler : MethodCallback) (userData : Ptr) :
    Program.CallFree
      (rbusRegisterMethod objectName methodName handler userData : CoreM M W RbusError) := by
  refine Program.callFree_bind (callFree_deref methodName) fun methodName => ?_
  split
  · exact Program.callFree_pure _
  · refine callFree_withObject objectName fun obj => ?_
    cases obj with
    | none =>
        exact callFree_unlock_pure _
    | some obj =>
        refine Program.callFree_ite (callFree_unlock_pure _)
          (Program.callFree_ite (callFree_unlock_pure _) ?_)
        exact Program.callFree_bind (Program.callFree_modifyState _) fun _ =>
          callFree_unlock_pure _

theorem callFree_rbusUnregisterMethod
    (objectName methodName : Option CString) :
    Program.CallFree
      (rbusUnregisterMethod objectName methodName : CoreM M W RbusError) := by
  refine callFree_withObject objectName fun obj => ?_
  cases obj with
  | none =>
      exact callFree_unlock_pure _
  | some obj =>
      refine Program.callFree_bind (callFree_rtVectorFindDeref _ _ _) fun method => ?_
      cases method with
      | none =>
          exact callFree_unlock_pure _
      | some method =>
          exact Program.callFree_bind (Program.callFree_modifyState _) fun _ =>
            callFree_unlock_pure _

theorem callFree_rbusRegisterMethodTable
    (objectName : Option CString) (table : List RbusMethodTableEntry) :
    Program.CallFree (rbusRegisterMethodTable objectName table : CoreM M W RbusError) := by
  induction table with
  | nil =>
      exact Program.callFree_pure _
  | cons entry table ih =>
      exact Program.callFree_bind (callFree_rbusRegisterMethod _ _ _ _) fun _ =>
        Program.callFree_ite (Program.callFree_pure _) ih

theorem callFree_rbusUnregisterMethodTable
    (objectName : Option CString) (table : List RbusMethodTableEntry) :
    Program.CallFree (rbusUnregisterMethodTable objectName table : CoreM M W RbusError) := by
  induction table with
  | nil =>
      exact Program.callFree_pure _
  | cons entry table ih =>
      exact Program.callFree_bind (callFree_rbusUnregisterMethod _ _) fun _ =>
        Program.callFree_ite (Program.callFree_pure _) ih

theorem callFree_ensureSubscriptionHandlers
    (object : Ptr) :
    Program.CallFree (ensureSubscriptionHandlers object : CoreM M W RbusError) := by
  refine Program.callFree_bind (callFree_derefObject object) fun obj =>
    Program.callFree_ite (Program.callFree_pure _) ?_
  refine Program.callFree_bind (callFree_derefObject object) fun obj => ?_
  split
  · exact Program.callFree_pure _
  · refine Program.callFree_bind (callFree_rbusRegisterMethod _ _ _ _) fun ret => ?_
    refine Program.callFree_ite (Program.callFree_pure _) ?_
    refine Program.callFree_bind (callFree_rbusRegisterMethod _ _ _ _) fun ret => ?_
    refine Program.callFree_ite (Program.callFree_pure _) ?_
    exact Program.callFree_bind (Program.callFree_modifyState _) fun _ => Program.callFree_pure _

theorem callFree_rbusRegisterEvent
    (objectName eventName : Option CString) (callback : Option Nat) (userData : Ptr) :
    Program.CallFree
      (rbusRegisterEvent objectName eventName callback userData : CoreM M W RbusError) := by
  refine Program.callFree_bind Program.callFree_getState fun w => ?_
  refine Program.callFree_ite (Program.callFree_pure _)
    (Program.callFree_ite (Program.callFree_pure _) ?_)
  split
  · exact Program.callFree_pure _
  · refine callFree_withObject objectName fun obj => ?_
    cases obj with
    | none =>
        exact callFree_unlock_pure _
    | some obj =>
        refine Program.callFree_bind (Program.callFree_ite (Program.callFree_pure _)
          (Program.callFree_modifyState _)) fun _ => ?_
        exact Program.callFree_bind (callFree_ensureSubscriptionHandlers _) fun _ =>
          callFree_unlock_pure _

theorem callFree_rbusUnregisterEvent
    (objectName eventName : Option CString) :
    Program.CallFree (rbusUnregisterEvent objectName eventName : CoreM M W RbusError) := by
  refine callFree_withObject objectName fun obj => ?_
  cases obj with
  | none =>
      exact callFree_unlock_pure _
  | some obj =>
      dsimp only
      split
      · exact Program.callFree_bind (Program.callFree_modifyState _) fun _ =>
          callFree_unlock_pure _
      · exact callFree_unlock_pure _

theorem callFree_rbusRegisterSubscribeHandler
    (objectName : Option CString) (callback : Option Nat) (userData : Ptr) :
    Program.CallFree
      (rbusRegisterSubscribeHandler objectName callback userData : CoreM M W RbusError) := by
  refine Program.callFree_ite (Program.callFree_pure _) ?_
  refine callFree_withObject objectName fun obj => ?_
  cases obj with
  | none =>
      exact callFree_unlock_pure _
  | some obj =>
      refine Program.callFree_bind (Program.callFree_modifyState _) fun _ => ?_
      exact Program.callFree_bind (callFree_ensureSubscriptionHandlers _) fun _ =>
        callFree_unlock_pure _

end Registration

section Searches

variable {M W : Type}

theorem callFree_rtVectorFindAt
    {α : Type}
    (n : Nat) (name : α → CString) (key : List UInt8) (xs : List α) :
    Program.CallFree (rtVectorFindAt n name key xs : CoreM M W (Option α)) := by
  unfold rtVectorFindAt
  split
  · exact Program.callFree_pure _
  · exact callFree_crash _

theorem callFree_findMethod
    [MessageApi M W]
    (object : ServerObject) (methodName : Option (List UInt8)) :
    Program.CallFree (findMethod object methodName : CoreM M W (Option ServerMethod)) := by
  cases methodName with
  | none =>
      exact Program.callFree_pure _
  | some key =>
      exact callFree_rtVectorFindAt _ _ _ _

theorem callFree_findClientEvent
    (sender : CString) (eventName : Option (List UInt8)) (subs : List ClientSubscription) :
    Program.CallFree
      (findClientEvent sender eventName subs : CoreM M W (Option ClientEvent)) := by
  induction subs with
  | nil =>
      exact Program.callFree_pure _
  | cons sub subs ih =>
      refine Program.callFree_bind ?_ fun matched => Program.callFree_bind ?_ fun found => ?_
      · refine Program.callFree_ite (Program.callFree_pure _) ?_
        refine Program.callFree_bind (callFree_deref _) fun key => Program.callFree_bind ?_ fun _ =>
          Program.callFree_pure _
        unfold strncmpAt
        split
        · exact Program.callFree_pure _
        · exact callFree_crash _
      · exact Program.callFree_ite (Program.callFree_bind (callFree_deref _) fun key =>
          callFree_rtVectorFindAt _ _ _ _) (Program.callFree_pure _)
      · cases found with
        | none =>
            exact ih
        | some event =>
            exact Program.callFree_pure _

end Searches

end RbusCore
