import RbusCore.Operations
import RbusCore.RemoteCalls

/-!
# Event dispatch and the current connection

Event dispatch is started by the first subscribe: it installs `master_event_callback` as the
default listener and sets a flag.  The listener belongs to the connection, while the flag
belongs to the process and stays set when the connection is closed.

**Results.**
* `DispatchInv.step`: how the flag and the default listener hang together, over each call.
* `dispatched_on_current_connection_iff`: after a successful subscribe the listener is
  installed exactly when the flag was not set when the connection was opened.
-/

namespace RbusCore

open CStrings Resumption

section Runs

variable {M W : Type}

/-- The calls that replace the connection, and those that subscribe and unsubscribe on it. -/
inductive DispatchOp (M : Type) where
  | openBrokerConnection (componentName : Option CString)
  | openBrokerConnection2 (componentName brokerAddress : Option CString)
  | closeBrokerConnection
  | subscribeToEvent (objectName eventName : Option CString) (callback : Option Nat)
      (payload : Option (MessageRef M)) (userData : Ptr)
  | subscribeToEventTimeout (objectName eventName : Option CString) (callback : Option Nat)
      (payload : Option (MessageRef M)) (userData : Ptr) (timeout : Int)
  | unsubscribeFromEvent (objectName eventName : Option CString)
      (payload : Option (MessageRef M))

/-- The functions of the library, with their result. -/
def DispatchOp.run [MessageApi M W] : DispatchOp M → CoreM M W RbusError
  | .openBrokerConnection componentName => rbusOpenBrokerConnection componentName
  | .openBrokerConnection2 componentName brokerAddress =>
      rbusOpenBrokerConnection2 componentName brokerAddress
  | .closeBrokerConnection => rbusCloseBrokerConnection
  | .subscribeToEvent objectName eventName callback payload userData => do
      let ret ← rbusSubscribeToEvent objectName eventName callback payload userData
      pure ret.1
  | .subscribeToEventTimeout objectName eventName callback payload userData timeout => do
      let ret ← rbusSubscribeToEventTimeout objectName eventName callback payload userData timeout
      pure ret.1
  | .unsubscribeFromEvent objectName eventName payload =>
      rbusUnsubscribeFromEvent objectName eventName payload

/-- The calls that subscribe. -/
def DispatchOp.subscribes : DispatchOp M → Bool
  | .subscribeToEvent .. | .subscribeToEventTimeout .. => true
  | _ => false

/-- What matters to the dispatch of events stays as it is. -/
structure SameDispatch (w w' : World M W) : Prop where
  connection : w'.gConnection = w.gConnection
  flag : w'.gRunEventClientDispatch = w.gRunEventClientDispatch

/-- Calls with any answer, during which the connection and the flag are left alone. -/
def dispatchAnswers (e : Call M W) (w : World M W) (_ : e.Answer) (w' : World M W) : Prop :=
  SameDispatch w w'

/-- What has happened to the connection there is: the state in which it was opened, and
whether a subscribe has returned SUCCESS on it. -/
structure ConnectionHistory (M W : Type) where
  before : World M W
  subscribed : Bool

/-- The history of the connection after a call. -/
def DispatchOp.follow
    (op : DispatchOp M) (ret : RbusError) (w w' : World M W)
    (history : Option (ConnectionHistory M W)) : Option (ConnectionHistory M W) :=
  if w'.gConnection.isNone then none
  else if w.gConnection.isNone then some { before := w, subscribed := false }
  else
    history.map fun h =>
      { h with subscribed := h.subscribed || (op.subscribes && decide (ret = .success)) }

/-- Runs of a process, with the history of the connection there is. -/
inductive DispatchRun [MessageApi M W] :
    World M W → Option (ConnectionHistory M W) → Prop
  | initial
      (daemonAddress advisoryTopic : CString) :
      DispatchRun (World.initial daemonAddress advisoryTopic) none
  | idle {w w' : World M W} {history : Option (ConnectionHistory M W)}
      (h : DispatchRun w history)
      (hidle : SameDispatch w w') :
      DispatchRun w' history
  | step {w w' : World M W} {history : Option (ConnectionHistory M W)} {op : DispatchOp M}
      {ret : RbusError}
      (h : DispatchRun w history)
      (hop : Program.Returns dispatchAnswers op.run w ret w') :
      DispatchRun w' (op.follow ret w w' history)

end Runs

section Invariant

variable {M W : Type}

/-- The default listener of the connection and the flag. -/
structure Dispatching (con : Option Connection) (flag : Bool) (w : World M W) : Prop where
  connection : w.gConnection = con
  flag : w.gRunEventClientDispatch = flag

/-- Nothing is demanded at a call and where behaviour is undefined. -/
def dispatching : Contract (Call.Answer (M := M) (W := W)) (World M W) where
  env := dispatchAnswers
  atCall _ _ := True
  atUndef _ := True

/-- How the default listener and the flag hang together: the listener is installed when the
flag is set, on the connection there is then. -/
inductive DispatchInv : World M W → Option (ConnectionHistory M W) → Prop
  | disconnected {w : World M W}
      (hnone : w.gConnection = none) :
      DispatchInv w none
  | connected {w : World M W} {c : Connection} {history : ConnectionHistory M W}
      (hsome : w.gConnection = some c)
      (hflag : history.before.gRunEventClientDispatch = true → w.gRunEventClientDispatch = true)
      (hsubscribed : history.subscribed = true → w.gRunEventClientDispatch = true)
      (hlistener : c.defaultListener =
        (w.gRunEventClientDispatch && !history.before.gRunEventClientDispatch)) :
      DispatchInv w (some history)

variable {con : Option Connection} {flag : Bool} {w w' : World M W}

theorem Dispatching.same
    (h : Dispatching con flag w)
    (hsame : SameDispatch w w') :
    Dispatching con flag w' :=
  ⟨hsame.connection.trans h.connection, hsame.flag.trans h.flag⟩

theorem steady_dispatching
    (con : Option Connection) (flag : Bool) :
    Steady dispatching (Dispatching con flag : World M W → Prop) where
  messages := fun _ _ _ _ h => h.same ⟨rfl, rfl⟩
  called := fun _ _ _ h => h.same ⟨rfl, rfl⟩
  fault := fun _ _ _ h => h.same ⟨rfl, rfl⟩
  env := fun _ _ _ _ henv h => h.same henv
  atCall := fun _ _ _ _ => trivial
  atUndef := fun _ _ => trivial

theorem locking_dispatching
    (con : Option Connection) (flag : Bool) :
    Locking dispatching fun _ => (Dispatching con flag : World M W → Prop) where
  steady _ := steady_dispatching con flag
  locked := fun _ h => h.same ⟨rfl, rfl⟩
  unlocked := fun _ h => h.same ⟨rfl, rfl⟩
  unusable := fun _ _ _ _ h => h.same ⟨rfl, rfl⟩
  subscriptions := fun _ _ h => h.same ⟨rfl, rfl⟩

variable [MessageApi M W]

theorem keeps_performCleanup_dispatching :
    Program.Keeps dispatching (Dispatching con flag : World M W → Prop) performCleanup :=
  keeps_performCleanup (locking_dispatching con flag) fun _ _ _ _ h => h.same ⟨rfl, rfl⟩

omit [MessageApi M W] in
/-- Event dispatch is started once: then the connection gets its listener. -/
theorem sat_startEventDispatch_dispatching
    {c : Connection}
    (h : Dispatching (some c) flag w) :
    Program.Sat dispatching startEventDispatch
      (fun _ => Dispatching (some { c with defaultListener := c.defaultListener || !flag }) true)
      w := by
  rw [startEventDispatch, Program.sat_bind, Program.sat_getState, h.flag, Program.sat_ite]
  cases flag with
  | true =>
      rw [if_neg Bool.false_ne_true.symm]
      simpa using h
  | false =>
      rw [if_pos rfl, rtConnectionAddDefaultListener, Program.sat_bind, Program.sat_bind,
        sat_gConnectionPtr, Program.sat_bind, sat_call]
      refine ⟨trivial, fun _ w₁ hsame => ?_⟩
      have hcon : w₁.gConnection = some c := hsame.connection.trans h.connection
      refine ⟨?_, rfl⟩
      simp [hcon]

/-- A subscribe that returns SUCCESS has started event dispatch. -/
theorem sat_rbusSubscribeToEventInternal_dispatching
    {c : Connection}
    (h : Dispatching (some c) flag w)
    (objectName eventName : Option CString) (callback : Option Nat)
    (payload : Option (MessageRef M)) (userData : Ptr) (timeout : Int) :
    Program.Sat dispatching
      (rbusSubscribeToEventInternal objectName eventName callback payload userData timeout)
      (fun ret w' =>
        Dispatching (some { c with defaultListener := c.defaultListener || !flag }) true w' ∨
          ret.1 ≠ .success ∧ Dispatching (some c) flag w') w := by
  have hsteady (con : Option Connection) (flag : Bool) :
      Steady dispatching (Dispatching con flag : World M W → Prop) := steady_dispatching con flag
  have hlocking (con : Option Connection) (flag : Bool) :
      Locking dispatching fun _ => (Dispatching con flag : World M W → Prop) :=
    locking_dispatching con flag
  unfold rbusSubscribeToEventInternal
  rw [Program.sat_bind, Program.sat_getState, Program.sat_ite]
  split
  · exact Or.inr ⟨by decide, h⟩
  · split
    · split
      · exact Or.inr ⟨by decide, h⟩
      · refine (keeps_deref (hsteady _ _).toCalling eventName w h).bind fun event w h => ?_
        split
        · exact Or.inr ⟨by decide, h⟩
        · rw [subscribeChecked]
          refine (leads_lock (hlocking _ _).exclusive w h).bind fun _ w h => ?_
          refine (sat_startEventDispatch_dispatching h).bind fun _ w h => ?_
          refine (keeps_addUnlessMaster (hlocking _ _) _ _ _ _ w h).bind fun present w h => ?_
          refine (leads_unlock (hlocking _ _).exclusive w h).bind fun _ w h => ?_
          rw [Program.sat_ite]
          split
          · exact Or.inl h
          · refine (keeps_sendSubscriptionRequest (hsteady _ _) _ _ _ _ _ w h).bind
              fun reply w h => ?_
            rw [Program.sat_ite]
            split
            · exact (keeps_rollbackUnlessMaster (hlocking _ _) _ _ w h).bind fun _ _ h =>
                Or.inl h
            · exact Or.inl h
    · exact Or.inr ⟨by decide, h⟩

/-- Opening a connection leaves the flag alone; a new connection has no default listener. -/
theorem sat_rbusOpenBrokerConnection2_dispatching
    (h : Dispatching con flag w)
    (componentName brokerAddress : Option CString) :
    Program.Sat dispatching (rbusOpenBrokerConnection2 componentName brokerAddress)
      (fun _ w' => Dispatching con flag w' ∨
        con = none ∧ ∃ c, c.defaultListener = false ∧ Dispatching (some c) flag w') w := by
  have hlocking : Locking dispatching fun _ => (Dispatching con flag : World M W → Prop) :=
    locking_dispatching con flag
  refine leads_rbusOpenBrokerConnection2 (P := Dispatching con flag) (L := Dispatching con flag)
    (D := fun w => con = none ∧ Dispatching con flag w)
    (O := fun w => Dispatching con flag w ∨
      con = none ∧ ∃ c, c.defaultListener = false ∧ Dispatching (some c) flag w)
    (F := fun w => con = none ∧ Dispatching con flag w)
    (fun _ h => Or.inl h) (keeps_initMutex fun _ h => h.same ⟨rfl, rfl⟩) (leads_lock hlocking.exclusive)
    (fun _ _ _ h => Or.inl (h.same ⟨rfl, rfl⟩)) (fun w hnone h => ⟨h.connection ▸ hnone, h⟩)
    ((steady_dispatching con flag).and_const _) (fun _ _ h => ⟨h.1, h.2.same ⟨rfl, rfl⟩⟩)
    ?_ ?_ ?_ componentName brokerAddress w h
  · rintro name address w ⟨hnone, h⟩
    rw [Program.sat_bind, performInit, Program.sat_modifyState]
    refine sat_rtConnectionCreate _ _ trivial (fun returnAddress w' hsame => ?_) fun err w' hsame => ?_
    · exact ⟨fun _ => Or.inr ⟨hnone, _, rfl, rfl, hsame.flag.trans h.flag⟩,
        fun hne => absurd rfl hne⟩
    · have h' : Dispatching con flag w' := h.same ⟨hsame.connection, hsame.flag⟩
      exact ⟨fun _ => Or.inl h', fun _ => ⟨hnone, h'⟩⟩
  · rintro w (h | ⟨hnone, c, hc, h⟩)
    · exact Or.inl (h.same ⟨rfl, rfl⟩)
    · exact Or.inr ⟨hnone, c, hc, h.same ⟨rfl, rfl⟩⟩
  · rintro w ⟨rfl, h⟩
    rw [Program.sat_bind, Program.sat_modifyState]
    have h' : Dispatching none flag { w with gConnection := none } := ⟨rfl, h.flag⟩
    exact (keeps_performCleanup_dispatching _ h').bind fun _ _ h => Or.inl (h.same ⟨rfl, rfl⟩)

/-- Closing the connection leaves the flag alone. -/
theorem sat_rbusCloseBrokerConnection_dispatching
    (h : Dispatching con flag w) :
    Program.Sat dispatching (rbusCloseBrokerConnection : CoreM M W RbusError)
      (fun _ w' => Dispatching con flag w' ∨ Dispatching none flag w') w := by
  rw [rbusCloseBrokerConnection, Program.sat_bind, sat_lock, Program.sat_bind,
    Program.sat_getState, Program.sat_ite]
  split
  · exact Or.inl (h.same ⟨rfl, rfl⟩)
  · have hlocked : Dispatching con flag { w with
        mutexOwned := true, log := w.log ++ [.lock w.mutexOwned] } := h.same ⟨rfl, rfl⟩
    refine (keeps_performCleanup_dispatching _ hlocked).bind fun _ w h => ?_
    rw [Program.sat_bind, sat_gConnectionPtr, Program.sat_bind, sat_call]
    refine ⟨trivial, fun err w₁ hsame => ?_⟩
    have h₁ : Dispatching con flag w₁ := h.same ⟨hsame.connection, hsame.flag⟩
    rw [Program.sat_ite]
    split
    · exact Or.inl h₁
    · exact Or.inr ⟨rfl, h₁.flag⟩

/-- Without a connection a subscribe is refused. -/
theorem sat_rbusSubscribeToEventInternal_disconnected
    (h : Dispatching none flag w)
    (objectName eventName : Option CString) (callback : Option Nat)
    (payload : Option (MessageRef M)) (userData : Ptr) (timeout : Int) :
    Program.Sat dispatching
      (rbusSubscribeToEventInternal objectName eventName callback payload userData timeout)
      (fun _ => Dispatching none flag) w := by
  have hnone : w.gConnection.isNone = true := by
    rw [h.connection]
    rfl
  unfold rbusSubscribeToEventInternal
  rw [Program.sat_bind, Program.sat_getState, if_pos hnone]
  exact h

end Invariant

section Steps

variable {M W : Type} {w w' : World M W} {op : DispatchOp M} {ret : RbusError}
variable {history : Option (ConnectionHistory M W)}

theorem follow_of_none
    (h' : w'.gConnection = none) :
    op.follow ret w w' history = none :=
  if_pos (by rw [h']; rfl)

theorem follow_of_opened
    {c : Connection}
    (h : w.gConnection = none)
    (h' : w'.gConnection = some c) :
    op.follow ret w w' history = some { before := w, subscribed := false } := by
  simp [DispatchOp.follow, h, h']

theorem follow_of_some
    {c c' : Connection} {history : ConnectionHistory M W}
    (h : w.gConnection = some c)
    (h' : w'.gConnection = some c') :
    op.follow ret w w' (some history) =
      some { history with
        subscribed := history.subscribed || (op.subscribes && decide (ret = .success)) } := by
  simp [DispatchOp.follow, h, h']

/-- A call that leaves the connection and the flag alone, and is no successful subscribe. -/
theorem DispatchInv.kept
    (h : DispatchInv w history)
    (hkept : Dispatching w.gConnection w.gRunEventClientDispatch w')
    (hfailed : (op.subscribes && decide (ret = .success)) = false) :
    DispatchInv w' (op.follow ret w w' history) := by
  cases h with
  | disconnected hnone =>
      have hnone' : w'.gConnection = none := hkept.connection.trans hnone
      rw [follow_of_none hnone']
      exact .disconnected hnone'
  | connected hsome hflag hsubscribed hlistener =>
      have hsome' := hkept.connection.trans hsome
      rw [follow_of_some hsome hsome', hfailed, Bool.or_false]
      refine .connected hsome' ?_ ?_ ?_
      · rw [hkept.flag]
        exact hflag
      · rw [hkept.flag]
        exact hsubscribed
      · rw [hkept.flag]
        exact hlistener

/-- The calls that open a connection. -/
theorem DispatchInv.opens
    (h : DispatchInv w history)
    (hno : op.subscribes = false)
    (hopens : Dispatching w.gConnection w.gRunEventClientDispatch w' ∨
      w.gConnection = none ∧
        ∃ c, c.defaultListener = false ∧ Dispatching (some c) w.gRunEventClientDispatch w') :
    DispatchInv w' (op.follow ret w w' history) := by
  rcases hopens with hkept | ⟨hnone, c, hc, hopened⟩
  · exact h.kept hkept (by rw [hno, Bool.false_and])
  · rw [follow_of_opened hnone hopened.connection]
    refine .connected hopened.connection ?_ ?_ ?_
    · rw [hopened.flag]
      exact id
    · exact fun h => absurd h Bool.false_ne_true
    · rw [hopened.flag, hc, Bool.and_not_self]

variable [MessageApi M W]

/-- The calls that subscribe. -/
theorem DispatchInv.subscribes
    (h : DispatchInv w history)
    (objectName eventName : Option CString) (callback : Option Nat)
    (payload : Option (MessageRef M)) (userData : Ptr) (timeout : Int)
    (hrun : op.run = do
      let ret ← rbusSubscribeToEventInternal objectName eventName callback payload userData timeout
      pure ret.1)
    (hop : Program.Returns dispatchAnswers op.run w ret w') :
    DispatchInv w' (op.follow ret w w' history) := by
  rw [hrun] at hop
  cases h with
  | disconnected hnone =>
      have hw : Dispatching none w.gRunEventClientDispatch w := ⟨hnone, rfl⟩
      have hsat := (sat_rbusSubscribeToEventInternal_disconnected hw objectName eventName callback
        payload userData timeout).bind
        (f := fun ret : RbusError × Option Int => pure ret.1)
        (Q := fun _ => Dispatching none w.gRunEventClientDispatch) fun _ _ h => h
      have h' := Program.returns_of_sat (C := dispatching) (fun _ _ _ _ henv => henv) hsat hop
      rw [follow_of_none h'.connection]
      exact .disconnected h'.connection
  | @connected c history hsome hflag hsubscribed hlistener =>
      have hsat := (sat_rbusSubscribeToEventInternal_dispatching ⟨hsome, rfl⟩
        objectName eventName callback payload userData timeout).bind
        (f := fun ret : RbusError × Option Int => pure ret.1)
        (Q := fun (ret : RbusError) w' => Dispatching (some { c with defaultListener :=
            c.defaultListener || !w.gRunEventClientDispatch }) true w' ∨
          ret ≠ .success ∧ Dispatching (some c) w.gRunEventClientDispatch w') fun _ _ h => h
      rcases Program.returns_of_sat (C := dispatching) (fun _ _ _ _ henv => henv) hsat hop with
        hstarted | ⟨hfailed, hkept⟩
      · rw [follow_of_some hsome hstarted.connection]
        refine .connected hstarted.connection (fun _ => hstarted.flag) (fun _ => hstarted.flag) ?_
        rw [hstarted.flag, hlistener, Bool.true_and]
        dsimp only
        cases hb : history.before.gRunEventClientDispatch with
        | true =>
            rw [hflag hb]
            rfl
        | false =>
            cases w.gRunEventClientDispatch <;> rfl
      · rw [← hsome] at hkept
        refine DispatchInv.kept (.connected hsome hflag hsubscribed hlistener) hkept ?_
        rw [decide_eq_false hfailed, Bool.and_false]

/-- Every call keeps the invariant. -/
theorem DispatchInv.step
    (h : DispatchInv w history)
    (hop : Program.Returns dispatchAnswers op.run w ret w') :
    DispatchInv w' (op.follow ret w w' history) := by
  have hnow : Dispatching w.gConnection w.gRunEventClientDispatch w := ⟨rfl, rfl⟩
  cases op with
  | openBrokerConnection componentName =>
      exact h.opens rfl (Program.returns_of_sat (C := dispatching) (fun _ _ _ _ henv => henv)
        (sat_rbusOpenBrokerConnection2_dispatching hnow componentName none) hop)
  | openBrokerConnection2 componentName brokerAddress =>
      exact h.opens rfl (Program.returns_of_sat (C := dispatching) (fun _ _ _ _ henv => henv)
        (sat_rbusOpenBrokerConnection2_dispatching hnow componentName brokerAddress) hop)
  | closeBrokerConnection =>
      rcases Program.returns_of_sat (C := dispatching) (fun _ _ _ _ henv => henv)
        (sat_rbusCloseBrokerConnection_dispatching hnow) hop with hkept | hclosed
      · exact h.kept hkept rfl
      · rw [follow_of_none hclosed.connection]
        exact .disconnected hclosed.connection
  | subscribeToEvent objectName eventName callback payload userData =>
      exact h.subscribes objectName eventName callback payload userData 0 rfl hop
  | subscribeToEventTimeout objectName eventName callback payload userData timeout =>
      exact h.subscribes objectName eventName callback payload userData timeout rfl hop
  | unsubscribeFromEvent objectName eventName payload =>
      have hkept := Program.returns_of_sat (C := dispatching) (fun _ _ _ _ henv => henv)
        (keeps_rbusUnsubscribeFromEvent (locking_dispatching _ _) objectName eventName payload
          w hnow) hop
      exact h.kept hkept rfl

/-- Every run keeps the invariant. -/
theorem DispatchRun.inv
    (h : DispatchRun w history) :
    DispatchInv w history := by
  induction h with
  | initial daemonAddress advisoryTopic =>
      exact .disconnected rfl
  | @idle w w' history _ hidle ih =>
      cases ih with
      | disconnected hnone =>
          exact .disconnected (hidle.connection.trans hnone)
      | connected hsome hflag hsubscribed hlistener =>
          rw [← hidle.flag] at hflag hsubscribed hlistener
          exact .connected (hidle.connection.trans hsome) hflag hsubscribed hlistener
  | step _ hop ih =>
      exact ih.step hop

/--
In every run, once a subscribe has returned SUCCESS on the connection there is, whether it had
to send its request or not, `master_event_callback` is installed as the default listener of this
connection exactly when event dispatch had not been started when the connection was opened.
-/
theorem dispatched_on_current_connection_iff
    {history : ConnectionHistory M W}
    (h : DispatchRun w (some history))
    (hsubscribed : history.subscribed = true) :
    (∃ c, w.gConnection = some c ∧ c.defaultListener = true) ↔
      history.before.gRunEventClientDispatch = false := by
  cases h.inv with
  | @connected c _ hsome _ hstarted hlistener =>
      rw [hstarted hsubscribed, Bool.true_and] at hlistener
      constructor
      · rintro ⟨c', hc', hinstalled⟩
        obtain rfl := Option.some.inj (hsome.symm.trans hc')
        rw [hlistener] at hinstalled
        exact Bool.not_eq_true' _ |>.mp hinstalled
      · intro hbefore
        refine ⟨c, hsome, ?_⟩
        rw [hlistener, hbefore]
        rfl

end Steps

section Run

/-- A transport that accepts everything: requests are answered with `reply`, and closing a
connection with `destroyed`. -/
def obligingAnswer (destroyed : RtError) (reply : Except RtError (List UInt8)) :
    (e : Call Bytes (List UInt8)) → World Bytes (List UInt8) →
      Option (e.Answer × World Bytes (List UInt8))
  | .connectionCreate .., w => some (.ok (sampleConnection 0).returnAddress, w)
  | .connectionDestroy .., w => some (destroyed, w)
  | .addListener .., w => some (.rtOk, w)
  | .removeListener con _, w => some (if con = none then .rtFail else .rtOk, w)
  | .addDefaultListener .., w => some (.rtOk, w)
  | .sendBinaryRequest .., w => some (reply, w)
  | _, _ => none

theorem obligingAnswer_same
    {destroyed : RtError} {reply : Except RtError (List UInt8)}
    {e : Call Bytes (List UInt8)} {w : World Bytes (List UInt8)} {a : e.Answer}
    {w' : World Bytes (List UInt8)}
    (h : obligingAnswer destroyed reply e w = some (a, w')) :
    w' = w := by
  cases e with
  | connectionCreate | connectionDestroy | addListener | removeListener | addDefaultListener
  | sendBinaryRequest =>
      exact (Prod.mk.inj (Option.some.inj h)).2.symm
  | _ =>
      cases h

/-- The answer SUCCESS of a provider. -/
def successReply : List UInt8 := messageBytes (U := .scalars) [.int32 0] methodResponse

/-- Calls one after another, when the transport accepts everything. -/
def obligingCalls : List (PublicOp Bytes) → World Bytes (List UInt8) →
    Option (World Bytes (List UInt8))
  | [], w => some w
  | op :: ops, w =>
      ((op.run w).run (obligingAnswer .rtOk (.ok successReply))).bind fun r => obligingCalls ops r.2

/-- A process that opens a connection, registers an object and subscribes to an event. -/
def sampleServing : List (PublicOp Bytes) :=
  [.openBrokerConnection2 (some sampleInbox) (some .empty),
    .registerObj (some sampleObjectName.val) 0 0,
    .subscribeToEvent (some sampleElementName.val) (some sampleEventName.val) (some 0) none 0]

/-- Calls one after another in a process whose transport accepts everything. -/
def obligingRun :
    List (DispatchOp Bytes) →
      World Bytes (List UInt8) × Option (ConnectionHistory Bytes (List UInt8)) →
      Option (World Bytes (List UInt8) × Option (ConnectionHistory Bytes (List UInt8)))
  | [], r => some r
  | op :: ops, (w, history) =>
      match (op.run w).run (obligingAnswer .rtOk (.ok successReply)) with
      | some (ret, w') => obligingRun ops (w', op.follow ret w w' history)
      | none => none

theorem dispatchAnswers_of_obligingAnswer
    {destroyed : RtError} {reply : Except RtError (List UInt8)}
    (e : Call Bytes (List UInt8)) (w : World Bytes (List UInt8)) (a : e.Answer)
    (w' : World Bytes (List UInt8))
    (h : obligingAnswer destroyed reply e w = some (a, w')) :
    dispatchAnswers e w a w' := by
  rw [obligingAnswer_same h]
  exact ⟨rfl, rfl⟩

theorem dispatchRun_of_obligingRun
    {ops : List (DispatchOp Bytes)} {w w' : World Bytes (List UInt8)}
    {history history' : Option (ConnectionHistory Bytes (List UInt8))}
    (h : DispatchRun w history)
    (hrun : obligingRun ops (w, history) = some (w', history')) :
    DispatchRun w' history' := by
  induction ops generalizing w history with
  | nil =>
      cases hrun
      exact h
  | cons op ops ih =>
      rw [obligingRun] at hrun
      split at hrun
      case h_1 ret w₁ hop =>
        exact ih (h.step (Program.returns_of_run dispatchAnswers_of_obligingAnswer hop)) hrun
      case h_2 =>
        cases hrun

/-- The request of a subscription on a connection. -/
def Event.isRequestOn (p : Ptr) : Event Bytes (List UInt8) → Bool
  | .call (.sendBinaryRequest con ..) => con = some p
  | _ => false

/-- The calls of the examples. -/
def sampleOpen : DispatchOp Bytes := .openBrokerConnection2 (some sampleInbox) (some .empty)

/-- Subscribing to the event of the object of the examples. -/
def sampleSubscription : DispatchOp Bytes :=
  .subscribeToEvent (some sampleObjectName.val) (some sampleEventName.val) (some 0) none 0

/-- On the first connection of a process, the listener is installed. -/
theorem dispatched_on_first_connection :
    ∃ (w : World Bytes (List UInt8)) (history : ConnectionHistory Bytes (List UInt8)),
      history.subscribed = true ∧ ((∃ c, w.gConnection = some c ∧ c.defaultListener = true) ↔
        history.before.gRunEventClientDispatch = false) := by
  have hrun : (obligingRun [sampleOpen, sampleSubscription] (World.initial .empty .empty, none)).map
      (fun r => r.2.map ConnectionHistory.subscribed) = some (some true) := by
    decide +kernel
  obtain ⟨⟨w, history⟩, hw, hresult⟩ := Option.map_eq_some_iff.mp hrun
  obtain ⟨history, rfl, hsubscribed⟩ := Option.map_eq_some_iff.mp hresult
  exact ⟨w, history, hsubscribed, dispatched_on_current_connection_iff
    (dispatchRun_of_obligingRun (.initial .empty .empty) hw) hsubscribed⟩

/-- On a second connection a subscribe sends its request and returns SUCCESS, and there is no
default listener. -/
theorem not_dispatched_after_reopening :
    ∃ (w w' : World Bytes (List UInt8)) (history : ConnectionHistory Bytes (List UInt8))
      (c : Connection),
      DispatchRun w (some history) ∧
      Program.Returns dispatchAnswers sampleSubscription.run w .success w' ∧
      w'.gConnection = some c ∧ (w'.log.drop w.log.length).any (Event.isRequestOn c.ptr) = true ∧
      c.defaultListener = false := by
  have hrun : ((obligingRun [sampleOpen, sampleSubscription, .closeBrokerConnection, sampleOpen]
      (World.initial .empty .empty, none)).bind fun r => r.2.bind fun _ =>
        (sampleSubscription.run r.1).run (obligingAnswer .rtOk (.ok successReply)) |>.bind
          fun r' => r'.2.gConnection.map fun c =>
            (r'.1, (r'.2.log.drop r.1.log.length).any (Event.isRequestOn c.ptr),
              c.defaultListener)) = some (.success, true, false) := by
    decide +kernel
  obtain ⟨⟨w, history⟩, hw, hrun⟩ := Option.bind_eq_some_iff.mp hrun
  obtain ⟨history, rfl, hrun⟩ := Option.bind_eq_some_iff.mp hrun
  obtain ⟨⟨ret, w'⟩, hw', hrun⟩ := Option.bind_eq_some_iff.mp hrun
  obtain ⟨c, hc, hresult⟩ := Option.map_eq_some_iff.mp hrun
  obtain ⟨rfl, hresult⟩ := Prod.mk.inj hresult
  obtain ⟨hsent, hlistener⟩ := Prod.mk.inj hresult
  exact ⟨w, w', history, c, dispatchRun_of_obligingRun (.initial .empty .empty) hw,
    Program.returns_of_run dispatchAnswers_of_obligingAnswer hw', hc, hsent, hlistener⟩

end Run

end RbusCore
