import RbusCore.Arrivals
import RbusCore.CallFree
import RbusCore.ClientTable
import RbusCore.Lib.Reentry

/-!
# Waiting with the mutex

The mutex protects the tables of the library.  Callbacks of the application call the library
again, and replies may be long in coming: whoever waits for them must not own the mutex.  Where
locked code calls an operation that takes and releases the mutex itself, the mutex is free early,
and never late.

**Results.**
* `keeps_free_of_callFree`: operations without calls only have to release the mutex.
* `Patient`: code that can be run with the mutex taken.
* `sat_publicOp_free`: what the operations do with the mutex.
* `mutex_free_at_waits`: in every run the mutex is free whenever the library waits; closing what
  is not open is the one thing that must not be done.
-/

namespace RbusCore

open CStrings Resumption

section Free

variable {M W : Type}

/-- Nobody owns the mutex. -/
def MutexFree (w : World M W) : Prop :=
  w.mutexOwned = false

/-- Code that waits only while the mutex is free. -/
abbrev unowned : Contract (Call.Answer (M := M) (W := W)) (World M W) :=
  yielding MutexFree fun e => e.blocking = true

/-- Code that calls nobody. -/
def alone : Contract (Call.Answer (M := M) (W := W)) (World M W) where
  env _ _ _ _ := False
  atCall _ _ := True
  atUndef _ := True

theorem unowned_env_free
    {e : Call M W} {w : World M W} {a : e.Answer} {w' : World M W}
    (h : (unowned (M := M) (W := W)).env e w a w')
    (hw : MutexFree w) :
    MutexFree w' := by
  rcases h with rfl | ⟨-, hkeeps⟩
  · exact hw
  · exact hkeeps hw

theorem steady_free : Steady unowned (MutexFree : World M W → Prop) where
  messages := fun _ _ _ _ h => h
  called := fun _ _ _ h => h
  fault := fun _ _ _ h => h
  env := fun _ _ _ _ => unowned_env_free
  atCall := fun _ _ _ h _ => h
  atUndef := fun _ _ => trivial

theorem listening_free : Listening unowned (MutexFree : World M W → Prop) where
  toSteady := steady_free
  listeners := fun _ _ _ h => h

theorem responding_free : Responding unowned (MutexFree : World M W → Prop) where
  toSteady := steady_free
  flowCalled := fun _ _ _ h => h
  flowAtCall := fun _ _ _ h _ => h

/-- The owner of the mutex does not matter as long as it is released. -/
theorem managing_alone :
    Managing alone fun owned (w : World M W) => owned = false → MutexFree w where
  steady := fun _ =>
    { messages := fun _ _ _ _ h => h
      called := fun _ _ _ h => h
      fault := fun _ _ _ h => h
      env := fun _ _ _ _ henv _ => henv.elim
      atCall := fun _ _ _ _ => trivial
      atUndef := fun _ _ => trivial }
  locked := by
    rintro _ _ ⟨⟩
  unlocked := fun _ _ _ => rfl
  unusable := fun _ _ _ _ h => h
  subscriptions := fun _ _ h => h
  records := fun _ _ _ _ h => h
  unusableObjects := fun _ _ _ _ h => h

/-- An operation that calls nobody keeps the mutex free if it releases it. -/
theorem keeps_free_of_callFree
    {α : Type} {x : CoreM M W α}
    (hx : Program.CallFree x)
    (h : Program.Keeps alone (fun w : World M W => false = false → MutexFree w) x) :
    Program.Keeps unowned (MutexFree : World M W → Prop) x :=
  fun w hw => (hx.sat_of_sat (fun _ => trivial) (h w fun _ => hw)).mono fun _ _ h' => h' rfl

end Free

section Patience

variable {M W : Type}

/-- Code that does not wait, unless the mutex is free at that time. -/
abbrev Patient {α : Type} (x : CoreM M W α) : Prop :=
  Program.Keeps unowned (fun _ => True) x

theorem patient_of_callFree
    {α : Type} {x : CoreM M W α}
    (hx : Program.CallFree x) :
    Patient x :=
  fun w _ => hx.sat (fun _ => trivial) w

/-- A call that does not wait. -/
theorem patient_call
    {e : Call M W}
    (he : e.blocking = false) :
    Patient (call e) :=
  fun _ _ => ⟨fun hblocking => absurd (he.symm.trans hblocking) Bool.false_ne_true,
    fun _ _ _ => trivial⟩

theorem leads_lock_patient :
    Program.Leads unowned (MutexFree : World M W → Prop) lock fun _ => True :=
  fun _ _ => trivial

theorem leads_unlock_free :
    Program.Leads unowned (fun _ => True) (unlock : CoreM M W Unit) MutexFree :=
  fun _ _ => rfl

theorem leads_unlock_pure_free
    {α : Type}
    (ret : α) :
    Program.Leads unowned (fun _ => True) (do unlock; pure ret : CoreM M W α) MutexFree :=
  fun _ _ => rfl

/-- The mutex is taken for code that can be run with it. -/
theorem keeps_critical
    {α β : Type} {x : CoreM M W α} {k : α → CoreM M W β}
    (hx : Patient x)
    (hk : ∀ a, Program.Keeps unowned MutexFree (k a)) :
    Program.Keeps unowned MutexFree (do
      lock
      let a ← x
      unlock
      k a) :=
  Program.leads_bind leads_lock_patient fun _ => Program.leads_bind hx fun a =>
    Program.leads_bind leads_unlock_free fun _ => hk a

theorem patient_gConnectionPtr :
    Patient (gConnectionPtr : CoreM M W (Option Ptr)) :=
  keeps_gConnectionPtr

theorem patient_startEventDispatch :
    Patient (startEventDispatch : CoreM M W Unit) := by
  refine Program.keeps_bind Program.keeps_getState fun w => Program.keeps_ite ?_
    (Program.keeps_pure _)
  refine Program.keeps_bind (Program.keeps_bind patient_gConnectionPtr fun con => ?_) fun _ => ?_
  · exact Program.keeps_bind (patient_call rfl) fun _ _ _ => trivial
  · exact fun _ _ => trivial

theorem patient_rtConnectionAddListener
    (expression : CString) (callback : ListenerCallback) :
    Patient (rtConnectionAddListener expression callback : CoreM M W RtError) :=
  keeps_acceptedUpdate (fun _ => patient_call rfl) fun _ _ => trivial

theorem patient_rtConnectionRemoveListener
    (expression : CString) :
    Patient (rtConnectionRemoveListener expression : CoreM M W RtError) :=
  keeps_acceptedUpdate (fun _ => patient_call rfl) fun _ _ => trivial

theorem patient_routerConfig
    (brokerAddress : Option CString) :
    Patient (routerConfig brokerAddress : CoreM M W CString) := by
  cases brokerAddress with
  | some address =>
      exact Program.keeps_pure _
  | none =>
      refine Program.keeps_bind (Program.keeps_bind (patient_call rfl) fun file => ?_) fun _ =>
        Program.keeps_bind Program.keeps_getState fun _ => Program.keeps_pure _
      split
      · exact fun _ _ => trivial
      · exact Program.keeps_pure _

theorem patient_rtConnectionCreate
    (name address : CString) :
    Patient (rtConnectionCreate name address : CoreM M W RtError) := by
  refine Program.keeps_bind (patient_call rfl) fun result => ?_
  cases result with
  | ok returnAddress =>
      exact fun _ _ => trivial
  | error err =>
      exact Program.keeps_pure _

variable [MessageApi M W]

theorem patient_rbusSendMessage
    (msg : MessageRef M) (destination sender : CString) :
    Patient (rbusSendMessage msg destination sender : CoreM M W RbusError) := by
  refine Program.keeps_bind Program.keeps_getState fun w => ?_
  refine Program.keeps_ite (Program.keeps_pure _) ?_
  refine Program.keeps_bind patient_gConnectionPtr fun con => ?_
  exact Program.keeps_bind (patient_call rfl) fun _ => Program.keeps_pure _

/-- Messages to listeners are not answered. -/
theorem patient_sendToListeners
    (out : MessageRef M) (objectName : CString) (listeners : List CString) :
    Patient (sendToListeners out objectName listeners : CoreM M W Unit) := by
  induction listeners with
  | nil =>
      exact Program.keeps_pure _
  | cons listener listeners ih =>
      exact Program.keeps_bind (patient_rbusSendMessage _ _ _) fun _ => ih

/-- The loops of the clean-up wait for replies, and have released the mutex before. -/
theorem patient_cancelSubscriptions :
    Patient (cancelSubscriptions : CoreM M W Unit) := by
  refine Program.keeps_bind (patient_of_callFree callFree_clientSubscriptions) fun subs => ?_
  refine Program.keeps_ite ?_ (Program.keeps_pure _)
  refine Program.leads_bind leads_unlock_free fun _ =>
    Program.leads_bind (Q := MutexFree) ?_ fun _ => leads_lock_patient
  refine Program.keeps_forLoop fun i => ?_
  refine Program.keeps_bind (fun w hw => ?_) fun subs => ?_
  · exact (callFree_clientSubscriptions.sat_of_sat (fun _ => trivial)
      (keeps_table managing_alone.toLocking false w fun _ => hw)).mono fun _ _ h => h rfl
  · refine Program.keeps_bind (keeps_rtVectorAt steady_free.toCalling _ _) fun sub =>
      Program.keeps_forLoop fun i2 => ?_
    refine Program.keeps_bind (keeps_derefSubscription steady_free.toCalling _) fun sub => ?_
    refine Program.keeps_bind (keeps_rtVectorAt steady_free.toCalling _ _) fun event => ?_
    exact Program.keeps_bind (keeps_sendSubscriptionRequest steady_free _ _ _ _ _) fun _ =>
      Program.keeps_pure _

/-- The clean-up releases the mutex, whoever has taken it. -/
theorem leads_performCleanup_free :
    Program.Leads unowned (fun _ => True) (performCleanup : CoreM M W Unit) MutexFree := by
  refine Program.leads_bind (Q := fun _ => True) (fun _ _ => trivial) fun _ => ?_
  refine Program.leads_bind (Program.keeps_bind (patient_of_callFree callFree_serverObjects)
    fun _ _ _ => trivial) fun _ => ?_
  refine Program.leads_bind patient_cancelSubscriptions fun _ => ?_
  exact Program.leads_bind (Program.keeps_bind (patient_of_callFree callFree_clientSubscriptions)
    fun _ _ _ => trivial) fun _ => leads_unlock_free

end Patience

section Objects

variable {M W : Type}

theorem keeps_serverObjectCreate_free
    (name : CString) (callback : Nat) (data : Ptr) :
    Program.Keeps unowned (MutexFree : World M W → Prop)
      (serverObjectCreate name callback data) :=
  Program.keeps_bind (keeps_rtMalloc steady_free) fun _ =>
    Program.keeps_bind (keeps_strcpy steady_free.toCalling _ _) fun _ => Program.keeps_pure _

theorem keeps_rbusRegisterObj_free
    (objectName : Option CString) (handler : Nat) (userData : Ptr) :
    Program.Keeps unowned (MutexFree : World M W → Prop)
      (rbusRegisterObj objectName handler userData) := by
  have hobjects : Patient (serverObjects : CoreM M W (List ServerObject)) :=
    patient_of_callFree callFree_serverObjects
  refine Program.keeps_bind Program.keeps_getState fun w => ?_
  refine Program.keeps_ite (Program.keeps_pure _) ?_
  cases objectName with
  | none =>
      exact Program.keeps_pure _
  | some objectName =>
      dsimp only
      generalize objectNameLengthInvalid objectName = invalid
      refine Program.keeps_ite (Program.keeps_pure _) ?_
      refine keeps_critical hobjects fun objects => ?_
      refine Program.keeps_ite (Program.keeps_pure _) ?_
      refine Program.keeps_bind (keeps_serverObjectCreate_free _ _ _) fun obj => ?_
      refine Program.keeps_bind (keeps_rtConnectionAddListener steady_free.toCalling
        (fun _ _ h => h) _ _) fun err => ?_
      refine Program.keeps_ite ?_ (Program.keeps_pure _)
      refine Program.leads_bind leads_lock_patient fun _ => Program.leads_bind hobjects fun _ => ?_
      exact Program.leads_bind (Q := fun _ => True) (fun _ _ => trivial) fun _ =>
        leads_unlock_pure_free _

theorem keeps_rbusUnregisterObj_free
    (objectName : Option CString) :
    Program.Keeps unowned (MutexFree : World M W → Prop) (rbusUnregisterObj objectName) := by
  cases objectName with
  | none =>
      exact Program.keeps_pure _
  | some objectName =>
      refine Program.keeps_ite (Program.keeps_pure _) ?_
      refine Program.keeps_bind (keeps_rtConnectionRemoveListener steady_free.toCalling
        (fun _ _ h => h) _) fun err => ?_
      refine Program.keeps_ite (Program.keeps_pure _) ?_
      refine Program.leads_bind leads_lock_patient fun _ =>
        Program.leads_bind (patient_of_callFree (callFree_getObject _)) fun obj => ?_
      cases obj with
      | none =>
          exact leads_unlock_pure_free _
      | some obj =>
          exact Program.leads_bind (Q := fun _ => True) (fun _ _ => trivial) fun _ =>
            leads_unlock_pure_free _

theorem keeps_rbusRegisterClientDisconnectHandler_free
    (callback : Option Nat) :
    Program.Keeps unowned (MutexFree : World M W → Prop)
      (rbusRegisterClientDisconnectHandler callback) := by
  refine Program.leads_bind leads_lock_patient fun _ =>
    Program.leads_bind Program.keeps_getState fun w => ?_
  refine Program.leads_ite (leads_unlock_pure_free _) ?_
  refine Program.leads_bind (patient_rtConnectionAddListener _ _) fun err => ?_
  refine Program.leads_ite ?_ (leads_unlock_pure_free _)
  exact Program.leads_bind (Q := fun _ => True) (fun _ _ => trivial) fun _ =>
    leads_unlock_pure_free _

theorem keeps_rbusUnregisterClientDisconnectHandler_free :
    Program.Keeps unowned (MutexFree : World M W → Prop)
      rbusUnregisterClientDisconnectHandler := by
  refine Program.leads_bind leads_lock_patient fun _ =>
    Program.leads_bind (Q := fun _ => True) ?_ fun _ => leads_unlock_pure_free _
  refine Program.keeps_bind Program.keeps_getState fun w =>
    Program.keeps_ite ?_ (Program.keeps_pure _)
  exact Program.keeps_bind (patient_rtConnectionRemoveListener _) fun _ _ _ => trivial

end Objects

section Events

variable {M W : Type} [MessageApi M W]

theorem keeps_rbusPublishEvent_free
    (objectName eventName : Option CString) (out : MessageRef M) :
    Program.Keeps unowned (MutexFree : World M W → Prop)
      (rbusPublishEvent objectName eventName out) := by
  refine Program.keeps_bind Program.keeps_getState fun w => ?_
  refine Program.keeps_ite (Program.keeps_pure _) ?_
  refine Program.keeps_bind (keeps_deref steady_free.toCalling _) fun objectName => ?_
  refine Program.keeps_ite (Program.keeps_pure _) ?_
  refine Program.keeps_bind (keeps_setEventMetaSection steady_free.toCalling _ _ _ _) fun out => ?_
  refine Program.leads_bind leads_lock_patient fun _ =>
    Program.leads_bind (patient_of_callFree (callFree_getObject _)) fun obj => ?_
  cases obj with
  | none =>
      exact leads_unlock_pure_free _
  | some obj =>
      dsimp only
      split
      · exact Program.leads_bind (patient_sendToListeners _ _ _) fun _ => leads_unlock_pure_free _
      · exact leads_unlock_pure_free _

theorem keeps_rbusPublishSubscriberEvent_free
    (objectName eventName : Option CString) (listener : CString) (out : MessageRef M) :
    Program.Keeps unowned (MutexFree : World M W → Prop)
      (rbusPublishSubscriberEvent objectName eventName listener out) := by
  refine Program.keeps_bind (keeps_deref steady_free.toCalling _) fun objectName => ?_
  refine Program.keeps_ite (Program.keeps_pure _) ?_
  refine Program.keeps_bind (keeps_setEventMetaSection steady_free.toCalling _ _ _ _) fun out => ?_
  refine Program.leads_bind leads_lock_patient fun _ =>
    Program.leads_bind (patient_of_callFree (callFree_getObject _)) fun obj => ?_
  exact Program.leads_bind (patient_rbusSendMessage _ _ _) fun _ => leads_unlock_pure_free _

/-- The request is sent when the table has been changed. -/
theorem keeps_subscribe_free
    (objectName eventName : Option CString) (callback : Option Nat)
    (payload : Option (MessageRef M)) (userData : Ptr) (timeout : Int) :
    Program.Keeps unowned (MutexFree : World M W → Prop)
      (rbusSubscribeToEventInternal objectName eventName callback payload userData timeout) := by
  refine Program.keeps_bind Program.keeps_getState fun w => ?_
  refine Program.keeps_ite (Program.keeps_pure _) ?_
  split
  · split
    · exact Program.keeps_pure _
    · refine Program.keeps_bind (keeps_deref steady_free.toCalling _) fun eventName => ?_
      split
      · exact Program.keeps_pure _
      · refine Program.leads_bind leads_lock_patient fun _ =>
          Program.leads_bind patient_startEventDispatch fun _ => ?_
        refine Program.leads_bind (patient_of_callFree (callFree_addUnlessMaster _ _ _ _))
          fun present => Program.leads_bind leads_unlock_free fun _ => ?_
        refine Program.keeps_ite (Program.keeps_pure _) ?_
        refine Program.keeps_bind (keeps_sendSubscriptionRequest steady_free _ _ _ _ _)
          fun reply => ?_
        refine Program.keeps_ite (Program.keeps_bind ?_ fun _ => Program.keeps_pure _)
          (Program.keeps_pure _)
        refine keeps_free_of_callFree (callFree_rollbackUnlessMaster _ _) ?_
        refine Program.keeps_bind Program.keeps_getState fun w =>
          Program.keeps_ite ?_ (Program.keeps_pure _)
        refine Program.leads_bind (Q := fun _ => True) (fun _ _ => trivial) fun _ =>
          Program.leads_bind (Q := fun _ => True) (fun w _ => ?_) fun _ _ _ _ => rfl
        exact (callFree_removeSubscriptionCallback _ _).sat (fun _ => trivial) w
  · exact Program.keeps_pure _

theorem keeps_rbusUnsubscribeFromEvent_free
    (objectName eventName : Option CString) (payload : Option (MessageRef M)) :
    Program.Keeps unowned (MutexFree : World M W → Prop)
      (rbusUnsubscribeFromEvent objectName eventName payload) := by
  unfold rbusUnsubscribeFromEvent
  split
  · exact Program.keeps_pure _
  · refine Program.keeps_ite (Program.keeps_pure _) ?_
    refine Program.keeps_bind ?_ fun _ =>
      Program.keeps_bind (keeps_sendSubscriptionRequest steady_free _ _ _ _ _) fun _ =>
        Program.keeps_pure _
    exact keeps_free_of_callFree (callFree_removeUnlessMaster _ _)
      (keeps_removeUnlessMaster managing_alone.toLocking _ _)

/-- An event is dispatched when the table has been searched. -/
theorem keeps_masterEventCallback_free
    (hdr : RtMessageHeader) (data : W) :
    Program.Keeps unowned (MutexFree : World M W → Prop)
      (masterEventCallback (M := M) hdr data) := by
  have hdispatch (eventName : Option (List UInt8)) (msg : MessageRef M) :
      Program.Keeps unowned (MutexFree : World M W → Prop)
        (dispatchClientEvent hdr.replyTopic eventName msg) := by
    refine Program.leads_bind leads_lock_patient fun _ =>
      Program.leads_bind (patient_of_callFree callFree_clientSubscriptions) fun subs => ?_
    refine Program.leads_bind (patient_of_callFree (callFree_findClientEvent _ _ _)) fun found =>
      Program.leads_bind leads_unlock_free fun _ => ?_
    cases found with
    | none =>
        exact keeps_rbusMessageRelease steady_free _
    | some event =>
        exact Program.keeps_bind (keeps_call steady_free.toCalling rfl) fun _ =>
          keeps_rbusMessageRelease steady_free _
  refine Program.keeps_ite (Program.keeps_pure _) ?_
  refine Program.keeps_bind (keeps_newMessage steady_free _) fun msg => ?_
  dsimp only
  split
  · exact keeps_rbusMessageRelease steady_free _
  · refine Program.keeps_bind Program.keeps_getState fun w => ?_
    split
    · refine Program.keeps_bind (keeps_call steady_free.toCalling rfl) fun err => ?_
      exact Program.keeps_ite (keeps_rbusMessageRelease steady_free _) (hdispatch _ _)
    · exact hdispatch _ _

end Events

section Requests

variable {M W : Type} [MessageApi M W]

/-- A handler runs when the mutex has been released. -/
theorem keeps_dispatchMethodCall_free
    (msg : MessageRef M) (hdr : RtMessageHeader) (obj : Ptr) :
    Program.Keeps unowned (MutexFree : World M W → Prop) (dispatchMethodCall msg hdr obj) := by
  refine Program.keeps_bind (keeps_derefMessage steady_free.toCalling msg) fun m => ?_
  refine Program.leads_bind leads_lock_patient fun _ =>
    Program.leads_bind (patient_of_callFree (callFree_derefObject obj)) fun object => ?_
  refine Program.leads_bind (patient_of_callFree (callFree_findMethod _ _)) fun method =>
    Program.leads_bind leads_unlock_free fun _ => ?_
  cases method with
  | some method =>
      refine Program.keeps_bind ?_ fun result => Program.keeps_bind
        (keeps_rbusSendResponse responding_free _ _) fun _ => Program.keeps_pure _
      unfold invokeMethodCallback
      split
      · exact keeps_subscriptionHandler listening_free _ _ _
      · exact keeps_appMethodCallback responding_free _ _ _ _ _ _
  | none =>
      refine Program.keeps_bind (keeps_derefObject steady_free.toCalling obj) fun object => ?_
      refine Program.keeps_bind (keeps_appMethodCallback responding_free _ _ _ _ _ _)
        fun result => ?_
      refine Program.keeps_ite (Program.keeps_pure _) ?_
      exact Program.keeps_bind (keeps_rbusSendResponse responding_free _ _) fun _ =>
        Program.keeps_pure _

theorem keeps_recordedDispatch_free
    (msg : MessageRef M) (hdr : RtMessageHeader) (obj : Ptr) :
    Program.Keeps unowned (MutexFree : World M W → Prop) (recordedDispatch msg hdr obj) := by
  refine Program.keeps_bind (fun _ h => h) fun _ => ?_
  exact Program.keeps_bind (keeps_dispatchMethodCall_free msg hdr obj) fun _ _ h => h

theorem keeps_drainQueuedRequests_free
    (rounds : Nat) :
    Program.Keeps unowned (MutexFree : World M W → Prop) (drainQueuedRequests rounds) := by
  induction rounds with
  | zero =>
      intro w hw
      refine ⟨fun hblocking => absurd hblocking Bool.false_ne_true, ?_⟩
      rintro ⟨⟩
  | succ rounds ih =>
      refine Program.keeps_bind Program.keeps_getState fun w => ?_
      split
      · exact Program.keeps_pure _
      · refine Program.keeps_bind (keeps_recordedDispatch_free _ _ _) fun _ => ?_
        exact Program.keeps_bind (fun _ h => h) fun _ => ih

theorem keeps_onMessage_free
    (rounds : Nat) (hdr : RtMessageHeader) (data : W) (closure : Ptr) :
    Program.Keeps unowned (MutexFree : World M W → Prop)
      (onMessage (M := M) rounds hdr data closure) := by
  refine Program.keeps_bind (keeps_newMessage steady_free _) fun msg => ?_
  refine Program.keeps_bind Program.keeps_getState fun w => ?_
  refine Program.keeps_bind (fun _ h => h) fun _ => Program.keeps_bind (fun _ h => h) fun _ => ?_
  refine Program.keeps_bind ?_ fun _ => Program.keeps_bind ?_ fun _ =>
    Program.keeps_bind (fun _ h => h) fun _ => keeps_rbusMessageRelease steady_free msg
  · refine Program.keeps_bind Program.keeps_getState fun w => ?_
    refine Program.keeps_ite ?_ (keeps_recordedDispatch_free _ _ _)
    refine Program.keeps_bind (Program.keeps_bind (keeps_rtMalloc steady_free) fun _ =>
      Program.keeps_pure _) fun _ _ h => h
  · refine Program.keeps_bind Program.keeps_getState fun w => ?_
    exact Program.keeps_ite (keeps_drainQueuedRequests_free rounds) (Program.keeps_pure _)

end Requests

section Connections

variable {M W : Type} [MessageApi M W] {w : World M W}

/-- The mutex is released whether or not a connection can be made. -/
theorem keeps_open_free
    (componentName brokerAddress : Option CString) :
    Program.Keeps unowned (MutexFree : World M W → Prop)
      (rbusOpenBrokerConnection2 componentName brokerAddress) := by
  unfold rbusOpenBrokerConnection2
  split
  · exact Program.keeps_pure _
  · refine Program.keeps_bind (keeps_initMutex fun _ _ => rfl) fun _ => ?_
    refine Program.leads_bind leads_lock_patient fun _ =>
      Program.leads_bind Program.keeps_getState fun w => ?_
    refine Program.leads_ite (leads_unlock_pure_free _) ?_
    refine Program.leads_bind (patient_routerConfig _) fun address => ?_
    refine Program.leads_ite (fun _ _ => trivial) ?_
    refine Program.leads_bind (Q := fun _ => True) (fun _ _ => trivial) fun _ => ?_
    refine Program.leads_bind (patient_rtConnectionCreate _ _) fun result => ?_
    refine Program.leads_ite ?_ (leads_unlock_pure_free _)
    refine Program.leads_bind (Q := fun _ => True) (fun _ _ => trivial) fun _ => ?_
    exact Program.leads_bind leads_performCleanup_free fun _ _ _ => rfl

/-- The mutex is released by the clean-up, and nothing takes it again. -/
theorem sat_close_free
    (hconnection : w.gConnection.isSome = true) :
    Program.Sat unowned rbusCloseBrokerConnection (fun _ => MutexFree) w := by
  have hsome : ¬w.gConnection.isNone = true := by
    rw [Option.isNone_iff_eq_none]
    exact Option.isSome_iff_ne_none.mp hconnection
  rw [rbusCloseBrokerConnection, Program.sat_bind, sat_lock, Program.sat_bind,
    Program.sat_getState, if_neg hsome]
  refine (leads_performCleanup_free _ trivial).bind fun _ w₁ h₁ => ?_
  rw [Program.sat_bind, sat_gConnectionPtr, Program.sat_bind]
  refine (keeps_call steady_free.toCalling rfl w₁ h₁).mono fun err w₂ h₂ => ?_
  rw [Program.sat_ite]
  split
  · exact h₂
  · exact rfl

/-- Without a connection the mutex is taken for good. -/
theorem sat_close_unopened
    {C : Contract (Call.Answer (M := M) (W := W)) (World M W)}
    (hconnection : w.gConnection = none) :
    Program.Sat C rbusCloseBrokerConnection (fun _ w' => w'.mutexOwned = true) w := by
  have hnone : w.gConnection.isNone = true := by
    rw [hconnection]
    rfl
  rw [rbusCloseBrokerConnection, Program.sat_bind, sat_lock, Program.sat_bind,
    Program.sat_getState, if_pos hnone]
  rfl

end Connections

section Runs

variable {M W : Type} [MessageApi M W] {w w' : World M W}

/-- Only what is open is closed. -/
def LibraryActivity.Permitted {M W : Type} : LibraryActivity M W → World M W → Prop
  | .call .closeBrokerConnection, w => w.gConnection.isSome = true
  | _, _ => True

/-- The operations wait only while the mutex is free, and release it. -/
theorem sat_publicOp_free
    {op : PublicOp M}
    (hpermitted : (LibraryActivity.call (W := W) op).Permitted w)
    (hw : MutexFree w) :
    Program.Sat unowned op.run (fun _ => MutexFree) w := by
  have hmanaging := managing_alone (M := M) (W := W)
  have hkept {x : CoreM M W RbusError} (hx : Program.Keeps unowned MutexFree x) :
      Program.Sat unowned (ignoreResult x) (fun _ => MutexFree) w :=
    keeps_ignoreResult hx w hw
  have hensure (p : Ptr) : Program.Keeps alone (fun w : World M W => true = false → MutexFree w)
      (ensureSubscriptionHandlers p) := by
    intro w _
    refine ((callFree_ensureSubscriptionHandlers p).sat (fun _ => trivial) w).mono ?_
    rintro _ _ _ ⟨⟩
  have hrecords (p : Ptr) (f : ServerObject → ServerObject) :
      Program.Keeps alone (fun w : World M W => true = false → MutexFree w) (updateObject p f) := by
    rintro w _ ⟨⟩
  cases op with
  | openBrokerConnection componentName =>
      exact hkept (keeps_open_free componentName none)
  | openBrokerConnection2 componentName brokerAddress =>
      exact hkept (keeps_open_free componentName brokerAddress)
  | closeBrokerConnection =>
      exact (sat_close_free hpermitted).bind fun _ _ h => h
  | registerObj objectName handler userData =>
      exact hkept (keeps_rbusRegisterObj_free _ _ _)
  | unregisterObj objectName =>
      exact hkept (keeps_rbusUnregisterObj_free _)
  | registerMethod objectName methodName handler userData =>
      exact hkept (keeps_free_of_callFree (callFree_rbusRegisterMethod _ _ _ _)
        (hmanaging.keeps_rbusRegisterMethod _ _ _ _))
  | unregisterMethod objectName methodName =>
      exact hkept (keeps_free_of_callFree (callFree_rbusUnregisterMethod _ _)
        (keeps_rbusUnregisterMethod hmanaging.searching _ _ fun p _ _ => hrecords p _))
  | registerMethodTable objectName table =>
      exact hkept (keeps_free_of_callFree (callFree_rbusRegisterMethodTable _ _)
        (keeps_rbusRegisterMethodTable (I := fun owned w => owned = false → MutexFree w) _ _
          fun entry _ => hmanaging.keeps_rbusRegisterMethod _ _ _ _))
  | unregisterMethodTable objectName table =>
      exact hkept (keeps_free_of_callFree (callFree_rbusUnregisterMethodTable _ _)
        (keeps_rbusUnregisterMethodTable (I := fun owned w => owned = false → MutexFree w) _ _
          fun entry _ => keeps_rbusUnregisterMethod hmanaging.searching _ _ fun p _ _ =>
            hrecords p _))
  | publishEvent objectName eventName out =>
      exact keeps_ignoreResult (keeps_rbusPublishEvent_free _ _ _) w hw
  | publishSubscriberEvent objectName eventName listener out =>
      exact keeps_ignoreResult (keeps_rbusPublishSubscriberEvent_free _ _ _ _) w hw
  | registerEvent objectName eventName callback userData =>
      exact hkept (keeps_free_of_callFree (callFree_rbusRegisterEvent _ _ _ _)
        (keeps_rbusRegisterEvent hmanaging hensure _ _ _ _))
  | unregisterEvent objectName eventName =>
      exact hkept (keeps_free_of_callFree (callFree_rbusUnregisterEvent _ _)
        (keeps_rbusUnregisterEvent hmanaging.searching _ _ fun p _ => hrecords p _))
  | subscribeToEvent objectName eventName callback payload userData =>
      exact keeps_ignoreResult (keeps_subscribe_free _ _ _ _ _ _) w hw
  | subscribeToEventTimeout objectName eventName callback payload userData timeout =>
      exact keeps_ignoreResult (keeps_subscribe_free _ _ _ _ _ _) w hw
  | unsubscribeFromEvent objectName eventName payload =>
      exact hkept (keeps_rbusUnsubscribeFromEvent_free _ _ _)
  | registerSubscribeHandler objectName callback userData =>
      exact hkept (keeps_free_of_callFree (callFree_rbusRegisterSubscribeHandler _ _ _)
        (keeps_rbusRegisterSubscribeHandler hmanaging hensure _ _ _))
  | registerMasterEventHandler callback userData =>
      exact hkept fun _ h => h
  | registerClientDisconnectHandler callback =>
      exact hkept (keeps_rbusRegisterClientDisconnectHandler_free callback)
  | unregisterClientDisconnectHandler =>
      exact hkept keeps_rbusUnregisterClientDisconnectHandler_free
  | _ =>
      exact keeps_messageOp responding_free rfl w hw

theorem sat_libraryActivity_free
    (a : LibraryActivity M W)
    (w : World M W)
    (hpermitted : a.Permitted w)
    (hw : MutexFree w) :
    Program.Sat unowned a.run (fun _ => MutexFree) w := by
  cases a with
  | call op =>
      exact sat_publicOp_free hpermitted hw
  | request rounds hdr data closure =>
      exact keeps_onMessage_free rounds hdr data closure w hw
  | event hdr data =>
      exact keeps_masterEventCallback_free hdr data w hw
  | advisory msg =>
      exact keeps_rtroutedAdvisoryCallback steady_free.toCalling msg w hw

/-- Answers to calls, with permitted activities nested in the blocking ones to depth `n`. -/
abbrev considerate (n : Nat) : (e : Call M W) → World M W → e.Answer → World M W → Prop :=
  NestWhen LibraryActivity.run LibraryActivity.Permitted (fun e => e.blocking = true) n

/-- Runs of a process in which only what is open is closed: the states between activities, and
those in which the library waits for a reply or runs a callback. -/
abbrev ConsiderateRun : World M W → Prop :=
  RunWhen LibraryActivity.run LibraryActivity.Permitted (fun e : Call M W => e.blocking = true)
    MutexFree

/--
In every run in which no connection is closed that is not open, however the activities are nested
in each other, the mutex is free between activities and whenever the library waits for a reply or
runs a callback; and an activity that comes to its end leaves it free exactly when it does not
close what is not open.
-/
theorem mutex_free_at_waits
    (h : ConsiderateRun w) :
    w.mutexOwned = false ∧
      ∀ (n : Nat) (a : LibraryActivity M W) (w' : World M W),
        Program.Returns (considerate n) a.run w () w' →
        (w'.mutexOwned = false ↔ a.Permitted w) := by
  have hfree : MutexFree w :=
    h.invariant (fun _ hw => hw) sat_libraryActivity_free
  refine ⟨hfree, fun n a w' hreturns => ?_⟩
  constructor
  · intro hw'
    by_contra hforbidden
    obtain ⟨hop, hconnection⟩ : a = .call .closeBrokerConnection ∧ w.gConnection = none := by
      cases a with
      | call op =>
          cases op with
          | closeBrokerConnection =>
              exact ⟨rfl, Option.not_isSome_iff_eq_none.mp hforbidden⟩
          | _ =>
              exact absurd trivial hforbidden
      | _ =>
          exact absurd trivial hforbidden
    subst hop
    let C : Contract (Call.Answer (M := M) (W := W)) (World M W) :=
      { env := considerate n, atCall := fun _ _ => True, atUndef := fun _ => True }
    have hclose : Program.Sat C (ignoreResult rbusCloseBrokerConnection)
        (fun _ w' => w'.mutexOwned = true) w :=
      (sat_close_unopened hconnection).bind fun _ _ h => h
    have howned := Program.returns_of_sat (fun _ _ _ _ henv => henv) hclose hreturns
    exact Bool.false_ne_true (hw'.symm.trans howned)
  · intro hpermitted
    exact Program.returns_of_sat (Q := fun _ => MutexFree)
      (yielding_of_nestWhen sat_libraryActivity_free n)
      (sat_libraryActivity_free a w hpermitted hfree) hreturns

end Runs

section Run

/-- Unsubscribing from an event, in examples. -/
def sampleUnsubscribing : LibraryActivity Bytes (List UInt8) :=
  .call (.unsubscribeFromEvent (some sampleObjectName.val) (some sampleEventName.val) none)

/-- A client waits for the answer to its request, and the mutex is free. -/
theorem mutex_free_at_waits_sample :
    ∃ (w : World Bytes (List UInt8)) (e : Call Bytes (List UInt8)),
      Program.Waits (considerate 0) sampleUnsubscribing.run sampleSubscriber e w ∧
      e.blocking = true ∧ w.mutexOwned = false := by
  have hcall : ((sampleUnsubscribing.run sampleSubscriber).firstCall.map fun r =>
      r.1.blocking) = some true := by
    decide +kernel
  obtain ⟨⟨e, w⟩, hfirst, hblocking⟩ := Option.map_eq_some_iff.mp hcall
  have hwaits : Program.Waits (considerate 0) sampleUnsubscribing.run sampleSubscriber e w :=
    Program.waits_of_firstCall hfirst
  have hfree : MutexFree sampleSubscriber := rfl
  have hpermitted : sampleUnsubscribing.Permitted sampleSubscriber := trivial
  have hrun : ConsiderateRun w := .waits (.start hfree) hpermitted hwaits hblocking
  exact ⟨w, e, hwaits, hblocking, (mutex_free_at_waits hrun).1⟩

end Run

end RbusCore
