import RbusCore.EventDispatch

/-!
# The lifetime of the vectors

`perform_init` creates the vectors of objects and of subscriptions, and `perform_cleanup`
destroys them.  Some operations look at the connection before they use a vector, and some do
not; and closing a connection destroys the vectors before the connection.

**Results.**
* `sat_connected_op`, `sat_disconnected_op`: what an operation does with the vectors, with a
  connection and without.
* `vectors_live_while_permitted`: in runs in which connections can be destroyed and the
  operations that do not look for a connection have one, vectors are used only while they are
  live.
-/

namespace RbusCore

open CStrings Resumption

section Condition

variable {M W : Type}

/-- No vector has been used before it was created or after it was destroyed. -/
def UsedAlive (log : List (Event M W)) : Prop :=
  ∀ f, Event.fault f ∈ log → f.isVector = false

/-- A method name that `rbus_registerMethod` accepts. -/
def NamesMethod (methodName : Option CString) : Prop :=
  ∃ name, methodName = some name ∧ name.strlen < maxMethodNameLength

/-- The operations that use a vector without looking for a connection, as far as their
arguments and the master handler let them get there. -/
def PublicOp.usesVectors [MessageApi M W] (w : World M W) : PublicOp M → Prop
  | .registerMethod _ methodName _ _ => NamesMethod methodName
  | .unregisterMethod _ _ => True
  | .registerMethodTable _ table => ∃ entry ∈ table.head?, NamesMethod entry.method
  | .unregisterMethodTable _ table => table ≠ []
  | .publishSubscriberEvent objectName eventName _ out =>
      ∃ name, objectName = some name ∧ name.strlen < maxObjectNameLength ∧
        eventMetaSection? (W := W) out.val (eventName.getD defaultEvent) name 1 ≠ none
  | .unregisterEvent _ _ => True
  | .registerSubscribeHandler objectName callback _ => objectName ≠ none ∧ callback ≠ none
  | .unsubscribeFromEvent objectName eventName _ =>
      w.gMasterEventCallback = none ∧
        ∃ name, (objectName <|> eventName) = some name ∧ name.strlen < maxObjectNameLength
  | _ => False

/-- What matters to the vectors stays as it is: whether there is a connection, and which
vectors are live. -/
structure SameTables (w w' : World M W) : Prop where
  connected : w'.gConnection.isSome = w.gConnection.isSome
  objects : w'.gServerObjects.fault? = w.gServerObjects.fault?
  subscriptions : w'.gEventSubscriptionsForClient.fault? = w.gEventSubscriptionsForClient.fault?
  used : UsedAlive w.log → UsedAlive w'.log

/-- Calls with any answer, except that connections can be destroyed, and that without a
connection no listener can be removed. -/
def lifecycleAnswers : (e : Call M W) → World M W → e.Answer → World M W → Prop
  | .connectionDestroy _, w, a, w' => a = RtError.rtOk ∧ SameTables w w'
  | .removeListener con _, w, a, w' => (con = none → a ≠ RtError.rtOk) ∧ SameTables w w'
  | _, w, _, w' => SameTables w w'

theorem sameTables_of_lifecycleAnswers
    {e : Call M W} {w : World M W} {a : e.Answer} {w' : World M W}
    (h : lifecycleAnswers e w a w') :
    SameTables w w' := by
  cases e with
  | connectionDestroy | removeListener =>
      exact h.2
  | _ =>
      exact h

/-- Runs of a process in which connections can be destroyed, and in which an operation has a
connection or does not use a vector. -/
inductive Lived [MessageApi M W] : World M W → Prop
  | initial
      (daemonAddress advisoryTopic : CString) :
      Lived (World.initial daemonAddress advisoryTopic)
  | idle {w w' : World M W}
      (h : Lived w)
      (hidle : SameTables w w') :
      Lived w'
  | step {w w' : World M W} {op : PublicOp M}
      (h : Lived w)
      (hpermitted : w.gConnection.isSome = true ∨ ¬ op.usesVectors w)
      (hop : Program.Returns lifecycleAnswers op.run w () w') :
      Lived w'

end Condition

section Invariant

variable {M W : Type}

/-- Whether there is a connection, and what is wrong with the use of either vector. -/
structure Tables (connected : Bool) (objects subscriptions : Option Fault) (w : World M W) :
    Prop where
  connected : w.gConnection.isSome = connected
  objects : w.gServerObjects.fault? = objects
  subscriptions : w.gEventSubscriptionsForClient.fault? = subscriptions
  used : UsedAlive w.log

/-- With a connection both vectors are live. -/
inductive TablesInv : World M W → Prop
  | connected {w : World M W}
      (h : Tables true none none w) :
      TablesInv w
  | disconnected {w : World M W} {objects subscriptions : Option Fault}
      (h : Tables false objects subscriptions w) :
      TablesInv w

/-- Vectors are used only while they are live. -/
def lifecycle : Contract (Call.Answer (M := M) (W := W)) (World M W) where
  env := lifecycleAnswers
  atCall _ w := UsedAlive w.log
  atUndef w := UsedAlive w.log

variable {connected : Bool} {objects subscriptions : Option Fault} {w w' : World M W}

theorem UsedAlive.append
    {log : List (Event M W)} {e : Event M W}
    (h : UsedAlive log)
    (he : ∀ f, e = .fault f → f.isVector = false) :
    UsedAlive (log ++ [e]) := by
  intro f hf
  rcases List.mem_append.mp hf with hold | hnew
  · exact h f hold
  · exact he f (List.mem_singleton.mp hnew).symm

theorem fault?_update
    {α : Type}
    (v : RtVector α) (f : List α → List α) :
    (v.update f).fault? = v.fault? := by
  cases v <;> rfl

theorem Tables.same
    (h : Tables connected objects subscriptions w)
    (hsame : SameTables w w') :
    Tables connected objects subscriptions w' :=
  ⟨hsame.connected.trans h.connected, hsame.objects.trans h.objects,
    hsame.subscriptions.trans h.subscriptions, hsame.used h.used⟩

/-- An event that is no fault of a vector, and changes that the tables do not depend on. -/
theorem SameTables.of_append
    {e : Event M W}
    (hconnected : w'.gConnection.isSome = w.gConnection.isSome)
    (hobjects : w'.gServerObjects.fault? = w.gServerObjects.fault?)
    (hsubscriptions :
      w'.gEventSubscriptionsForClient.fault? = w.gEventSubscriptionsForClient.fault?)
    (hlog : w'.log = w.log ++ [e])
    (he : ∀ f, e = .fault f → f.isVector = false) :
    SameTables w w' :=
  ⟨hconnected, hobjects, hsubscriptions, fun h => hlog ▸ h.append he⟩

theorem steady_tables : Steady lifecycle
    (Tables connected objects subscriptions : World M W → Prop) where
  messages := fun _ _ _ _ h => h.same ⟨rfl, rfl, rfl, id⟩
  called := fun _ _ _ h => h.same (.of_append rfl rfl rfl rfl (by rintro f ⟨⟩))
  fault := fun _ f hf h => h.same (.of_append rfl rfl rfl rfl (by rintro f ⟨⟩; exact hf))
  env := fun _ _ _ _ henv h => h.same (sameTables_of_lifecycleAnswers henv)
  atCall := fun _ _ _ h => h.used
  atUndef := fun _ h => h.used

theorem responding_tables : Responding lifecycle
    (Tables connected objects subscriptions : World M W → Prop) where
  toSteady := steady_tables
  flowCalled := fun _ _ _ h => h.same (.of_append rfl rfl rfl rfl (by rintro f ⟨⟩))
  flowAtCall := fun _ _ _ h => h.used

theorem keeps_lock_tables : Program.Keeps lifecycle
    (Tables connected objects subscriptions : World M W → Prop) lock :=
  fun _ h => h.same (.of_append rfl rfl rfl rfl (by rintro f ⟨⟩))

theorem keeps_unlock_tables : Program.Keeps lifecycle
    (Tables connected objects subscriptions : World M W → Prop) unlock :=
  fun _ h => h.same (.of_append rfl rfl rfl rfl (by rintro f ⟨⟩))

theorem locking_tables : Locking lifecycle fun _ =>
    (Tables connected objects none : World M W → Prop) where
  steady _ := steady_tables
  locked := keeps_lock_tables
  unlocked := keeps_unlock_tables
  unusable := fun _ w f hf h => by
    rw [h.subscriptions] at hf
    cases hf
  subscriptions := fun _ f h =>
    h.same (.of_append rfl rfl (fault?_update _ f) rfl (by rintro f ⟨⟩))

theorem managing_tables : Managing lifecycle fun _ =>
    (Tables connected none none : World M W → Prop) where
  toLocking := locking_tables
  records := fun _ _ _ _ h =>
    h.same (.of_append rfl (fault?_update _ _) rfl rfl (by rintro f ⟨⟩))
  unusableObjects := fun _ w f hf h => by
    rw [h.objects] at hf
    cases hf

theorem tables_map_connection
    (f : Connection → Connection)
    (h : Tables connected objects subscriptions w) :
    Tables connected objects subscriptions { w with gConnection := w.gConnection.map f } :=
  h.same ⟨Option.isSome_map, rfl, rfl, id⟩

theorem Tables.inv
    (h : Tables connected none none w) :
    TablesInv w := by
  cases connected with
  | true =>
      exact .connected h
  | false =>
      exact .disconnected h

theorem TablesInv.same
    (h : TablesInv w)
    (hsame : SameTables w w') :
    TablesInv w' := by
  cases h with
  | connected h =>
      exact .connected (h.same hsame)
  | disconnected h =>
      exact .disconnected (h.same hsame)

variable [MessageApi M W]

/-- The clean-up destroys both vectors. -/
theorem leads_performCleanup_tables :
    Program.Leads lifecycle (Tables connected none none : World M W → Prop) performCleanup
      (Tables connected (some .vector) (some .vector)) := by
  have hobjects : Program.Leads lifecycle (Tables connected none none : World M W → Prop)
      destroyServerObjects (Tables connected (some .vector) none) := by
    refine leads_destroyServerObjects steady_tables (managing_tables.unusableObjects true)
      fun w h => ?_
    refine ⟨h.connected, ?_, h.subscriptions, h.used.append (by rintro f ⟨⟩)⟩
    have hlive := h.objects
    revert hlive
    cases w.gServerObjects <;> simp [RtVector.fault?]
  have hsubscriptions : Program.Leads lifecycle
      (Tables connected (some .vector) none : World M W → Prop)
      destroyClientSubscriptions (Tables connected (some .vector) (some .vector)) := by
    refine leads_destroyClientSubscriptions locking_tables fun w h => ?_
    refine ⟨h.connected, h.objects, ?_, h.used.append (by rintro f ⟨⟩)⟩
    have hlive := h.subscriptions
    revert hlive
    cases w.gEventSubscriptionsForClient <;> simp [RtVector.fault?]
  intro w h
  refine (leads_performCleanup locking_tables keeps_lock_tables hobjects hsubscriptions w h).mono ?_
  rintro _ _ ⟨w₀, h₀, rfl⟩
  exact h₀.same (.of_append rfl rfl rfl rfl (by rintro f ⟨⟩))

end Invariant

section Operations

variable {M W : Type} [MessageApi M W]
variable {connected : Bool} {objects subscriptions : Option Fault} {w w' : World M W}

/-- Opening a connection creates the vectors, and destroys them again when it fails. -/
theorem sat_open_tables
    (h : TablesInv w)
    (componentName brokerAddress : Option CString) :
    Program.Sat lifecycle (rbusOpenBrokerConnection2 componentName brokerAddress)
      (fun _ => TablesInv) w := by
  have hopen {connected : Bool} {objects subscriptions : Option Fault} {w : World M W}
      (h : Tables connected objects subscriptions w)
      (hinv : ∀ w : World M W, Tables connected objects subscriptions w → TablesInv w) :
      Program.Sat lifecycle (rbusOpenBrokerConnection2 componentName brokerAddress)
        (fun _ => TablesInv) w := by
    refine leads_rbusOpenBrokerConnection2 (P := Tables connected objects subscriptions)
      (L := Tables connected objects subscriptions) (D := Tables false objects subscriptions)
      (O := TablesInv) (F := Tables false none none)
      hinv (keeps_initMutex fun _ h => h.same ⟨rfl, rfl, rfl, id⟩) keeps_lock_tables
      (fun w _ _ h => hinv _ (keeps_unlock_tables w h)) ?_ steady_tables
      (fun _ _ h => h.same ⟨rfl, rfl, rfl, id⟩) ?_ ?_ ?_ componentName brokerAddress w h
    · intro w hnone h
      have hconnected : connected = false := by
        rw [← h.connected, hnone]
        rfl
      exact hconnected ▸ h
    · intro name address w h
      rw [Program.sat_bind, performInit, Program.sat_modifyState]
      have h₁ : Tables false none none
          { w with
            gServerObjects := .live []
            gEventSubscriptionsForClient := .live []
            log := w.log ++ [.write w.mutexOwned] } :=
        ⟨h.connected, rfl, rfl, h.used.append (by rintro f ⟨⟩)⟩
      have h₂ := steady_tables.called _ (.connectionCreate name address) rfl h₁
      refine sat_rtConnectionCreate _ _ h₂.used (fun returnAddress w' hsame => ?_)
        fun err w' hsame => ?_
      · have h₃ := h₂.same hsame
        exact ⟨fun _ => .connected ⟨rfl, h₃.objects, h₃.subscriptions, h₃.used⟩,
          fun hne => absurd rfl hne⟩
      · exact ⟨fun _ => (h₂.same hsame).inv, fun _ => h₂.same hsame⟩
    · exact fun w h => h.same (.of_append rfl rfl rfl rfl (by rintro f ⟨⟩))
    · intro w h
      rw [Program.sat_bind, Program.sat_modifyState]
      have h₁ : Tables false none none { w with gConnection := none } :=
        ⟨rfl, h.objects, h.subscriptions, h.used⟩
      exact (leads_performCleanup_tables _ h₁).bind fun _ w h =>
        .disconnected (keeps_unlock_tables w h)
  cases h with
  | connected h =>
      exact hopen h fun _ h => .connected h
  | disconnected h =>
      exact hopen h fun _ h => .disconnected h

/-- Closing a connection destroys the vectors and then the connection. -/
theorem sat_close_tables
    (h : TablesInv w) :
    Program.Sat lifecycle (rbusCloseBrokerConnection : CoreM M W RbusError)
      (fun _ => TablesInv) w := by
  have hlocked : TablesInv { w with mutexOwned := true, log := w.log ++ [.lock w.mutexOwned] } :=
    h.same (.of_append rfl rfl rfl rfl (by rintro f ⟨⟩))
  rw [rbusCloseBrokerConnection, Program.sat_bind, sat_lock, Program.sat_bind,
    Program.sat_getState, Program.sat_ite]
  split
  · exact hlocked
  case isFalse hsome =>
    cases hlocked with
    | disconnected h =>
        have hnone := h.connected
        rw [Option.isSome_eq_false_iff] at hnone
        exact absurd hnone hsome
    | connected h =>
        refine (leads_performCleanup_tables _ h).bind fun _ w h => ?_
        rw [Program.sat_bind, sat_gConnectionPtr, Program.sat_bind, sat_call]
        have hcall := steady_tables.called w (.connectionDestroy (w.gConnection.map Connection.ptr))
          rfl h
        refine ⟨hcall.used, fun err w₁ henv => ?_⟩
        obtain ⟨hok, hsame⟩ := henv
        have h₁ := hcall.same hsame
        rw [Program.sat_ite, if_neg (not_not.mpr hok)]
        have h₂ : Tables false (some .vector) (some .vector) { w₁ with gConnection := none } :=
          ⟨rfl, h₁.objects, h₁.subscriptions, h₁.used⟩
        exact .disconnected ((keeps_unlock_tables _ h₂).same ⟨rfl, rfl, rfl, id⟩)

omit [MessageApi M W] in
theorem keeps_master_tables
    (callback : Option Nat) (userData : Ptr) :
    Program.Keeps lifecycle (Tables connected objects subscriptions : World M W → Prop)
      (rbusRegisterMasterEventHandler callback userData) :=
  fun _ h => h.same ⟨rfl, rfl, rfl, id⟩

omit [MessageApi M W] in
theorem keeps_disconnectHandler_tables
    (callback : Option Nat) :
    Program.Keeps lifecycle (Tables connected objects subscriptions : World M W → Prop)
        (rbusRegisterClientDisconnectHandler callback) ∧
      Program.Keeps lifecycle (Tables connected objects subscriptions : World M W → Prop)
        rbusUnregisterClientDisconnectHandler := by
  have hconnection (w : World M W) (f : Connection → Connection)
      (h : Tables connected objects subscriptions w) := tables_map_connection f h
  have hadvisory (w : World M W) (installed : Bool) (callback : Option Nat)
      (h : Tables connected objects subscriptions w) :
      Tables connected objects subscriptions
        { w with gAdvisoryListenerInstalled := installed, gClientDisconnectCallback := callback } :=
    h.same ⟨rfl, rfl, rfl, id⟩
  exact ⟨keeps_rbusRegisterClientDisconnectHandler steady_tables.toCalling hconnection
      keeps_lock_tables keeps_unlock_tables hadvisory callback,
    keeps_rbusUnregisterClientDisconnectHandler steady_tables.toCalling hconnection
      keeps_lock_tables keeps_unlock_tables hadvisory⟩

theorem keeps_subscribe_tables
    (objectName eventName : Option CString) (callback : Option Nat)
    (payload : Option (MessageRef M)) (userData : Ptr) (timeout : Int) :
    Program.Keeps lifecycle (Tables true none none : World M W → Prop)
      (rbusSubscribeToEventInternal objectName eventName callback payload userData timeout) := by
  refine keeps_rbusSubscribeToEventInternal (I := fun _ => Tables true none none) locking_tables
    ?_ (fun _ _ => keeps_rollbackUnlessMaster locking_tables _ _) _ _ _ _ _ _
  exact keeps_startEventDispatch steady_tables (fun w f h => tables_map_connection f h)
    fun _ h => h.same ⟨rfl, rfl, rfl, id⟩

/-- With a connection, every operation uses the vectors while they are live. -/
theorem sat_connected_op
    (h : Tables true none none w)
    (op : PublicOp M) :
    Program.Sat lifecycle op.run (fun _ => TablesInv) w := by
  have hkept {α : Type} {x : CoreM M W α}
      (hx : Program.Keeps lifecycle (Tables true none none) x) :
      Program.Sat lifecycle (ignoreResult x) (fun _ => TablesInv) w :=
    (keeps_ignoreResult hx w h).mono fun _ _ h => .connected h
  have hmanaging : Managing lifecycle fun _ => (Tables true none none : World M W → Prop) :=
    managing_tables
  have hmap (w : World M W) (f : Connection → Connection) (h : Tables true none none w) :=
    tables_map_connection f h
  have hobjects (w : World M W) (f : List ServerObject → List ServerObject)
      (h : Tables true none none w) :
      Tables true none none { w with
        gServerObjects := w.gServerObjects.update f
        log := w.log ++ [.write w.mutexOwned] } :=
    h.same (.of_append rfl (fault?_update _ _) rfl rfl (by rintro f ⟨⟩))
  have hensure (p : Ptr) := keeps_ensureSubscriptionHandlers hmanaging p
  have hunregister (objectName methodName : Option CString) :=
    keeps_rbusUnregisterMethod hmanaging.searching objectName methodName fun _ _ _ =>
      hmanaging.keeps_updateObject _ fun _ => ⟨rfl, rfl⟩
  cases op with
  | openBrokerConnection componentName =>
      exact (sat_open_tables (.connected h) componentName none).bind fun _ _ h => h
  | openBrokerConnection2 componentName brokerAddress =>
      exact (sat_open_tables (.connected h) componentName brokerAddress).bind fun _ _ h => h
  | closeBrokerConnection =>
      exact (sat_close_tables (.connected h)).bind fun _ _ h => h
  | registerObj objectName handler userData =>
      exact hkept (keeps_rbusRegisterObj hmanaging.searching hmap
        (keeps_rtMalloc (hmanaging.steady false)) (fun _ w h => hobjects w _ h) _ _ _)
  | unregisterObj objectName =>
      exact hkept (keeps_rbusUnregisterObj hmanaging.searching hmap _ fun _ w h => hobjects w _ h)
  | registerMethod objectName methodName handler userData =>
      exact hkept (hmanaging.keeps_rbusRegisterMethod _ _ _ _)
  | unregisterMethod objectName methodName =>
      exact hkept (hunregister _ _)
  | registerMethodTable objectName table =>
      exact hkept (keeps_rbusRegisterMethodTable (I := fun _ => Tables true none none) _ _
        fun _ _ => hmanaging.keeps_rbusRegisterMethod _ _ _ _)
  | unregisterMethodTable objectName table =>
      exact hkept (keeps_rbusUnregisterMethodTable (I := fun _ => Tables true none none) _ _
        fun _ _ => hunregister _ _)
  | publishEvent objectName eventName out =>
      exact hkept (keeps_rbusPublishEvent hmanaging.searching _ _ _)
  | publishSubscriberEvent objectName eventName listener out =>
      exact hkept (keeps_rbusPublishSubscriberEvent hmanaging.searching _ _ _ _)
  | registerEvent objectName eventName callback userData =>
      exact hkept (keeps_rbusRegisterEvent hmanaging hensure _ _ _ _)
  | unregisterEvent objectName eventName =>
      exact hkept (keeps_rbusUnregisterEvent hmanaging.searching _ _ fun _ _ =>
        hmanaging.keeps_updateObject _ fun _ => ⟨rfl, rfl⟩)
  | subscribeToEvent objectName eventName callback payload userData =>
      exact hkept (keeps_subscribe_tables _ _ _ _ _ _)
  | subscribeToEventTimeout objectName eventName callback payload userData timeout =>
      exact hkept (keeps_subscribe_tables _ _ _ _ _ _)
  | unsubscribeFromEvent objectName eventName payload =>
      exact hkept (keeps_rbusUnsubscribeFromEvent hmanaging.toLocking _ _ _)
  | registerSubscribeHandler objectName callback userData =>
      exact hkept (keeps_rbusRegisterSubscribeHandler hmanaging hensure _ _ _)
  | registerMasterEventHandler callback userData =>
      exact hkept (keeps_master_tables callback userData)
  | registerClientDisconnectHandler callback =>
      exact hkept (keeps_disconnectHandler_tables callback).1
  | unregisterClientDisconnectHandler =>
      exact hkept (keeps_disconnectHandler_tables none).2
  | _ =>
      exact (keeps_messageOp responding_tables rfl w h).mono fun _ _ h => .connected h

end Operations

section Disconnected

variable {M W : Type}
variable {objects subscriptions : Option Fault} {w : World M W}

theorem Tables.disconnected
    (h : Tables false objects subscriptions w) :
    w.gConnection = none :=
  Option.isSome_eq_false_iff.mp h.connected |> Option.isNone_iff_eq_none.mp

/-- The test for a connection that most operations start with. -/
theorem Tables.refused
    {α : Type}
    (h : Tables false objects subscriptions w)
    (e : α) (rest : World M W → CoreM M W α) :
    Program.Sat lifecycle
      (do
        let w ← Program.getState
        if w.gConnection.isNone then pure e else rest w)
      (fun _ => Tables false objects subscriptions) w := by
  rw [Program.sat_bind, Program.sat_getState, if_pos (by rw [h.disconnected]; rfl)]
  exact h

theorem sat_rbusRegisterMethod_disconnected
    (h : Tables false objects subscriptions w)
    (objectName : Option CString)
    {methodName : Option CString}
    (hname : ¬ NamesMethod methodName)
    (handler : MethodCallback) (userData : Ptr) :
    Program.Sat lifecycle (rbusRegisterMethod objectName methodName handler userData)
      (fun ret w' => ret ≠ .success ∧ Tables false objects subscriptions w') w := by
  cases methodName with
  | none =>
      exact (steady_tables.fault w .nullPointer rfl h).used
  | some name =>
      have hlong : BoundedName.check? maxMethodNameLength name = none := by
        refine BoundedName.check?_eq_none_iff.mpr (Nat.le_of_not_lt fun hlt => ?_)
        exact hname ⟨name, rfl, hlt⟩
      rw [rbusRegisterMethod, Program.sat_bind, sat_deref_some, hlong]
      exact ⟨by decide, h⟩

theorem sat_rbusUnregisterObj_disconnected
    (h : Tables false objects subscriptions w)
    (objectName : Option CString) :
    Program.Sat lifecycle (rbusUnregisterObj objectName)
      (fun _ => Tables false objects subscriptions) w := by
  cases objectName with
  | none =>
      exact h
  | some objectName =>
      rw [rbusUnregisterObj, Program.sat_ite]
      split
      · exact h
      · have hcall := steady_tables.called w (.removeListener none objectName) rfl h
        rw [rtConnectionRemoveListener, Program.sat_bind, Program.sat_bind, sat_gConnectionPtr,
          h.disconnected, Option.map_none, Program.sat_bind, sat_call]
        refine ⟨hcall.used, fun err w₁ henv => ?_⟩
        have hrefused : err ≠ .rtOk := henv.1 rfl
        rw [if_neg hrefused, Program.sat_pure, if_pos hrefused]
        exact hcall.same henv.2

variable [MessageApi M W]

/-- A metadata section that cannot be written. -/
theorem sat_setEventMetaSection_unwritable
    (h : Tables false objects subscriptions w)
    {out : MessageRef M} {eventName objectName : CString} {flag : Int}
    (hnone : eventMetaSection? out.val eventName objectName flag = none)
    (Q : MessageRef M → World M W → Prop) :
    Program.Sat lifecycle (setEventMetaSection out eventName objectName flag) Q w := by
  rw [setEventMetaSection_eq, hnone]
  exact (steady_tables.fault w .packer rfl h).used

/-- Without a connection, the other operations do not use a vector. -/
theorem sat_disconnected_op
    (h : Tables false objects subscriptions w)
    {op : PublicOp M}
    (huses : ¬ op.usesVectors w) :
    Program.Sat lifecycle op.run (fun _ => TablesInv) w := by
  have hnone : w.gConnection.isNone = true := by
    rw [h.disconnected]
    rfl
  have hdone {α : Type} {x : CoreM M W α}
      (hx : Program.Sat lifecycle x (fun _ => Tables false objects subscriptions) w) :
      Program.Sat lifecycle (ignoreResult x) (fun _ => TablesInv) w :=
    hx.bind fun _ _ h => .disconnected h
  cases op with
  | openBrokerConnection componentName =>
      exact (sat_open_tables (.disconnected h) componentName none).bind fun _ _ h => h
  | openBrokerConnection2 componentName brokerAddress =>
      exact (sat_open_tables (.disconnected h) componentName brokerAddress).bind fun _ _ h => h
  | closeBrokerConnection =>
      exact (sat_close_tables (.disconnected h)).bind fun _ _ h => h
  | registerObj objectName handler userData =>
      exact hdone (h.refused _ _)
  | unregisterObj objectName =>
      exact hdone (sat_rbusUnregisterObj_disconnected h objectName)
  | registerMethod objectName methodName handler userData =>
      exact hdone ((sat_rbusRegisterMethod_disconnected h _ huses _ _).mono fun _ _ h => h.2)
  | unregisterMethod objectName methodName =>
      exact absurd trivial huses
  | registerMethodTable objectName table =>
      cases table with
      | nil =>
          exact hdone h
      | cons entry table =>
          have hname : ¬ NamesMethod entry.method := fun hname => huses ⟨entry, rfl, hname⟩
          refine hdone ((sat_rbusRegisterMethod_disconnected h _ hname _ _).bind ?_)
          rintro ret w' ⟨hret, h'⟩
          rw [if_pos hret]
          exact h'
  | unregisterMethodTable objectName table =>
      obtain rfl := not_not.mp huses
      exact hdone h
  | publishEvent objectName eventName out =>
      exact hdone (h.refused _ _)
  | publishSubscriberEvent objectName eventName listener out =>
      refine hdone ?_
      rw [rbusPublishSubscriberEvent]
      cases objectName with
      | none =>
          exact (steady_tables.fault w .nullPointer rfl h).used
      | some name =>
          rw [Program.sat_bind, sat_deref_some, Program.sat_ite]
          split
          · exact h
          case isFalse hshort =>
            have hunwritable : eventMetaSection? out.val (eventName.getD defaultEvent) name 1 =
                none := by
              by_contra hwritable
              exact huses ⟨name, rfl, Nat.lt_of_not_le hshort, hwritable⟩
            rw [Program.sat_bind]
            exact sat_setEventMetaSection_unwritable h hunwritable _
  | registerEvent objectName eventName callback userData =>
      exact hdone (h.refused _ _)
  | unregisterEvent objectName eventName =>
      exact absurd trivial huses
  | subscribeToEvent objectName eventName callback payload userData =>
      exact hdone (h.refused _ _)
  | subscribeToEventTimeout objectName eventName callback payload userData timeout =>
      exact hdone (h.refused _ _)
  | unsubscribeFromEvent objectName eventName payload =>
      refine hdone ?_
      unfold rbusUnsubscribeFromEvent
      split
      · exact h
      case h_2 name hname =>
        rw [Program.sat_ite]
        split
        · exact h
        case isFalse hshort =>
          have hmaster : ¬ w.gMasterEventCallback.isNone = true := fun hmaster =>
            huses ⟨Option.isNone_iff_eq_none.mp hmaster, name, hname, Nat.lt_of_not_le hshort⟩
          dsimp only
          rw [removeUnlessMaster, bind_assoc, Program.sat_bind, Program.sat_getState,
            if_neg hmaster, pure_bind]
          exact (keeps_sendSubscriptionRequest steady_tables _ _ _ _ _ w h).bind fun _ _ h => h
  | registerSubscribeHandler objectName callback userData =>
      refine hdone ?_
      have hrefused : (objectName.isNone || callback.isNone) = true := by
        rw [Bool.or_eq_true, Option.isNone_iff_eq_none, Option.isNone_iff_eq_none]
        exact not_and_or.mp huses |>.imp not_not.mp not_not.mp
      rw [rbusRegisterSubscribeHandler, if_pos hrefused]
      exact h
  | registerMasterEventHandler callback userData =>
      exact hdone (keeps_master_tables callback userData w h)
  | registerClientDisconnectHandler callback =>
      exact hdone ((keeps_disconnectHandler_tables callback).1 w h)
  | unregisterClientDisconnectHandler =>
      exact hdone ((keeps_disconnectHandler_tables none).2 w h)
  | _ =>
      exact (keeps_messageOp responding_tables rfl w h).mono fun _ _ h => .disconnected h

end Disconnected

section Runs

variable {M W : Type}

/-- The state a running program is in. -/
def stateOf {α : Type} :
    Prog (Call.Answer (M := M) (W := W)) (World M W) α → World M W
  | .done _ w => w
  | .undef w => w
  | .call _ w _ => w

variable {w : World M W}

theorem TablesInv.used
    (h : TablesInv w) :
    UsedAlive w.log := by
  cases h with
  | connected h =>
      exact h.used
  | disconnected h =>
      exact h.used

variable [MessageApi M W]

/-- A permitted operation uses the vectors only while they are live. -/
theorem TablesInv.sat
    (h : TablesInv w)
    {op : PublicOp M}
    (hpermitted : w.gConnection.isSome = true ∨ ¬ op.usesVectors w) :
    Program.Sat lifecycle op.run (fun _ => TablesInv) w := by
  cases h with
  | connected h =>
      exact sat_connected_op h op
  | disconnected h =>
      refine sat_disconnected_op h (hpermitted.resolve_left fun hsome => ?_)
      rw [h.disconnected] at hsome
      exact Bool.false_ne_true hsome

/-- Every permitted run keeps the invariant. -/
theorem Lived.inv
    (h : Lived w) :
    TablesInv w := by
  induction h with
  | initial daemonAddress advisoryTopic =>
      exact .disconnected ⟨rfl, rfl, rfl, fun _ hf => absurd hf List.not_mem_nil⟩
  | idle _ hidle ih =>
      exact ih.same hidle
  | step _ hpermitted hop ih =>
      exact Program.returns_of_sat (C := lifecycle) (fun _ _ _ _ henv => henv)
        (ih.sat hpermitted) hop

/--
In every run in which connections can be destroyed, and in which the operations that use a vector
without looking for a connection have one, a connection implies that both vectors are live; and
whatever point the next such operation reaches, no vector has been used before it was created or
after it was destroyed, and so none has been destroyed twice.
-/
theorem vectors_live_while_permitted
    (h : Lived w) :
    (w.gConnection.isSome = true →
      (∃ objects, w.gServerObjects = .live objects) ∧
        ∃ subs, w.gEventSubscriptionsForClient = .live subs) ∧
      ∀ op : PublicOp M, w.gConnection.isSome = true ∨ ¬ op.usesVectors w →
        ∀ q, Prog.Reaches lifecycleAnswers (op.run w) q → UsedAlive (stateOf q).log := by
  have hlive {α : Type} {v : RtVector α} (hv : v.fault? = none) : ∃ items, v = .live items := by
    cases v with
    | live items =>
        exact ⟨items, rfl⟩
    | null | destroyed =>
        cases hv
  refine ⟨fun hsome => ?_, fun op hpermitted q hq => ?_⟩
  · cases h.inv with
    | connected hinv =>
        exact ⟨hlive hinv.objects, hlive hinv.subscriptions⟩
    | disconnected hinv =>
        rw [hinv.connected] at hsome
        exact absurd hsome Bool.false_ne_true
  · have hmeets := (Prog.sat_iff_reaches _).mp (h.inv.sat hpermitted) q hq
    cases q with
    | done a w' =>
        exact hmeets.used
    | undef w' =>
        exact hmeets
    | call e w' k =>
        exact hmeets

end Runs

section Run

/-- Opening a connection, in examples. -/
def sampleOpening : PublicOp Bytes := .openBrokerConnection2 (some sampleInbox) (some .empty)

theorem lifecycleAnswers_of_obligingAnswer
    {reply : Except RtError (List UInt8)}
    (e : Call Bytes (List UInt8)) (w : World Bytes (List UInt8)) (a : e.Answer)
    (w' : World Bytes (List UInt8))
    (h : obligingAnswer .rtOk reply e w = some (a, w')) :
    lifecycleAnswers e w a w' := by
  obtain rfl := obligingAnswer_same h
  have hsame : SameTables w' w' := ⟨rfl, rfl, rfl, id⟩
  cases e with
  | connectionDestroy =>
      exact ⟨(Prod.mk.inj (Option.some.inj h)).1.symm, hsame⟩
  | removeListener con expression =>
      refine ⟨fun hcon => ?_, hsame⟩
      rw [← (Prod.mk.inj (Option.some.inj h)).1, if_pos hcon]
      rintro ⟨⟩
  | _ =>
      exact hsame

theorem lived_of_obligingCalls
    {ops : List (PublicOp Bytes)} {w w' : World Bytes (List UInt8)}
    (hops : ∀ op ∈ ops, ∀ w : World Bytes (List UInt8), ¬op.usesVectors w)
    (h : Lived w)
    (hrun : obligingCalls ops w = some w') :
    Lived w' := by
  induction ops generalizing w with
  | nil =>
      cases hrun
      exact h
  | cons op ops ih =>
      obtain ⟨⟨⟨⟩, w₁⟩, hop, hrest⟩ := Option.bind_eq_some_iff.mp hrun
      refine ih (fun op hop => hops op (List.mem_cons_of_mem _ hop)) ?_ hrest
      exact h.step (Or.inr (hops op List.mem_cons_self w))
        (Program.returns_of_run lifecycleAnswers_of_obligingAnswer hop)

/-- The subscription is cancelled, while both vectors have something in them. -/
theorem sampleServing_vectors_live :
    ∃ (w w' : World Bytes (List UInt8)) (objects : List ServerObject)
      (subs : List ClientSubscription),
      w.gConnection.isSome = true ∧ w.gServerObjects = .live objects ∧ objects.length = 1 ∧
      w.gEventSubscriptionsForClient = .live subs ∧ subs.length = 1 ∧
      Program.Returns lifecycleAnswers (PublicOp.unsubscribeFromEvent (M := Bytes)
        (some sampleElementName.val) (some sampleEventName.val) none).run w () w' ∧
      w'.gEventSubscriptionsForClient = .live [] ∧ UsedAlive w'.log := by
  have hrun : (obligingCalls sampleServing (World.initial .empty .empty)).bind (fun w =>
      (((PublicOp.unsubscribeFromEvent (M := Bytes) (some sampleElementName.val)
        (some sampleEventName.val) none).run w).run (obligingAnswer .rtOk (.ok successReply))).map
          fun r => (w.gConnection.isSome, w.gServerObjects.items.length,
            w.gEventSubscriptionsForClient.items.length, r.2.gConnection.isSome,
            r.2.gEventSubscriptionsForClient.items.isEmpty)) =
        some (true, 1, 1, true, true) := by
    decide +kernel
  obtain ⟨w, hw, hrun⟩ := Option.bind_eq_some_iff.mp hrun
  obtain ⟨⟨⟨⟩, w'⟩, hop, hresult⟩ := Option.map_eq_some_iff.mp hrun
  simp only [Prod.mk.injEq] at hresult
  obtain ⟨hsome, hobjects, hsubs, hsome', hempty⟩ := hresult
  have hops : ∀ op ∈ sampleServing, ∀ w : World Bytes (List UInt8), ¬op.usesVectors w := by
    intro op hop w
    simp only [sampleServing, List.mem_cons, List.not_mem_nil, or_false] at hop
    rcases hop with rfl | rfl | rfl <;> exact id
  have hlived : Lived w := lived_of_obligingCalls hops (.initial .empty .empty) hw
  have hreturns := Program.returns_of_run lifecycleAnswers_of_obligingAnswer hop
  obtain ⟨hlive, hused⟩ := vectors_live_while_permitted hlived
  obtain ⟨⟨objects, hvector⟩, subs, htable⟩ := hlive hsome
  rw [hvector] at hobjects
  rw [htable] at hsubs
  have hlived' : Lived w' := hlived.step (Or.inl hsome) hreturns
  obtain ⟨-, subs', htable'⟩ := (vectors_live_while_permitted hlived').1 hsome'
  rw [htable'] at hempty
  obtain rfl : subs' = [] := List.isEmpty_iff.mp hempty
  exact ⟨w, w', objects, subs, hsome, hvector, hobjects, htable, hsubs, hreturns, htable',
    hused _ (Or.inl hsome) _ hreturns⟩

/-- When a connection cannot be destroyed, it stays, and the vectors are destroyed.  When it
can, `rbus_unregisterEvent` uses the vector of objects after it has been destroyed. -/
theorem vectors_used_after_close :
    ∃ w₁ w₂ w₃ w₄ : World Bytes (List UInt8),
      Program.Returns (fun _ w _ w' => SameTables w w') sampleOpening.run
        (World.initial .empty .empty) () w₁ ∧
      (Program.Returns (fun _ w _ w' => SameTables w w')
          (PublicOp.closeBrokerConnection (M := Bytes)).run w₁ () w₂ ∧
        w₂.gConnection.isSome = true ∧ w₂.gServerObjects = .destroyed ∧
        w₂.gEventSubscriptionsForClient = .destroyed) ∧
      Program.Returns (fun _ w _ w' => SameTables w w')
        (PublicOp.closeBrokerConnection (M := Bytes)).run w₁ () w₃ ∧
      (PublicOp.unregisterEvent (M := Bytes) (some sampleObjectName.val)
        (some sampleEventName.val)).run w₃ = .undef w₄ ∧
      Event.fault .vector ∈ w₄.log := by
  have hsame {destroyed : RtError} {reply : Except RtError (List UInt8)}
      (e : Call Bytes (List UInt8)) (w : World Bytes (List UInt8)) (a : e.Answer)
      (w' : World Bytes (List UInt8))
      (h : obligingAnswer destroyed reply e w = some (a, w')) : SameTables w w' := by
    rw [obligingAnswer_same h]
    exact ⟨rfl, rfl, rfl, id⟩
  have hdestroyed {α : Type} {v : RtVector α} (hv : v.fault? = some .vector) :
      v = .destroyed := by
    cases v with
    | destroyed =>
        rfl
    | live | null =>
        cases hv
  have hrun : ((sampleOpening.run (World.initial .empty .empty)).run
      (obligingAnswer .rtOk (.ok successReply))).bind (fun r =>
        ((PublicOp.closeBrokerConnection (M := Bytes)).run r.2).run
          (obligingAnswer .rtFail (.ok successReply)) |>.bind fun r₂ =>
        ((PublicOp.closeBrokerConnection (M := Bytes)).run r.2).run
          (obligingAnswer .rtOk (.ok successReply)) |>.map fun r₃ =>
        (r₂.2.gConnection.isSome, r₂.2.gServerObjects.fault?,
          r₂.2.gEventSubscriptionsForClient.fault?, r₃.2.gServerObjects.fault?)) =
        some (true, some .vector, some .vector, some .vector) := by
    decide +kernel
  obtain ⟨⟨⟨⟩, w₁⟩, hw₁, hrun⟩ := Option.bind_eq_some_iff.mp hrun
  obtain ⟨⟨⟨⟩, w₂⟩, hw₂, hrun⟩ := Option.bind_eq_some_iff.mp hrun
  obtain ⟨⟨⟨⟩, w₃⟩, hw₃, hresult⟩ := Option.map_eq_some_iff.mp hrun
  simp only [Prod.mk.injEq] at hresult
  obtain ⟨hsome, hobjects, hsubscriptions, hobjects₃⟩ := hresult
  let C : Contract (Call.Answer (M := Bytes) (W := List UInt8)) (World Bytes (List UInt8)) :=
    { env := fun _ _ _ _ => True
      atCall := fun _ _ => False
      atUndef := fun w => Event.fault .vector ∈ w.log }
  obtain ⟨w₄, hundef, hfault⟩ := Program.undef_of_sat (C := C) (s := w₃)
    (x := (PublicOp.unregisterEvent (M := Bytes) (some sampleObjectName.val)
      (some sampleEventName.val)).run) (fun _ _ h => h) (by
        show Program.Sat C (rbusUnregisterEvent _ _ >>= _) _ w₃
        rw [Program.sat_bind, rbusUnregisterEvent, Program.sat_bind, sat_lock, Program.sat_bind,
          getObject, Program.sat_bind, serverObjects, Program.sat_bind, Program.sat_getState,
          hdestroyed hobjects₃]
        exact List.mem_append_right _ (List.mem_singleton.mpr rfl))
  exact ⟨w₁, w₂, w₃, w₄, Program.returns_of_run hsame hw₁,
    ⟨Program.returns_of_run hsame hw₂, hsome, hdestroyed hobjects, hdestroyed hsubscriptions⟩,
    Program.returns_of_run hsame hw₃, hundef, hfault⟩

end Run

end RbusCore
