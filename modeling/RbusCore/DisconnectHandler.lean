import RbusCore.EventDispatch

/-!
# The client disconnect handler

An advisory message of the router about a client that has disconnected reaches the handler of the
application through a listener on the connection.  A flag says whether the listener has been
installed, and a variable holds the handler.  The flag outlives the connection, and it is all that
`rbus_registerClientDisconnectHandler` looks at.

**Results.**
* `DisconnectInv.step`: how the flag, the handler and the listener hang together, over each call.
* `disconnect_handler_runs`: the handler that was registered is the one that runs, as long as no
  call finds the three apart.
-/

namespace RbusCore

open CStrings Resumption

section Runs

variable {M W : Type}

/-- The calls that replace the connection, and those about the disconnect handler. -/
inductive DisconnectOp where
  | openBrokerConnection (componentName : Option CString)
  | openBrokerConnection2 (componentName brokerAddress : Option CString)
  | closeBrokerConnection
  | registerClientDisconnectHandler (callback : Option Nat)
  | unregisterClientDisconnectHandler

/-- The functions of the library, with their result. -/
def DisconnectOp.run [MessageApi M W] : DisconnectOp → CoreM M W RbusError
  | .openBrokerConnection componentName => rbusOpenBrokerConnection componentName
  | .openBrokerConnection2 componentName brokerAddress =>
      rbusOpenBrokerConnection2 componentName brokerAddress
  | .closeBrokerConnection => rbusCloseBrokerConnection
  | .registerClientDisconnectHandler callback => rbusRegisterClientDisconnectHandler callback
  | .unregisterClientDisconnectHandler => rbusUnregisterClientDisconnectHandler

/-- The address of the connection there is. -/
def World.connectionPtr (w : World M W) : Option Ptr :=
  w.gConnection.map Connection.ptr

/-- The advisory listeners on the connection there is. -/
def World.advisoryListeners (w : World M W) : List (CString × ListenerCallback) :=
  (w.gConnection.elim [] Connection.listeners).filter fun l =>
    l = (w.rtmsgAdvisoryTopic, .rtroutedAdvisoryCallback)

/-- What matters to the disconnect handler stays as it is. -/
structure SameAdvisory (w w' : World M W) : Prop where
  topic : w'.rtmsgAdvisoryTopic = w.rtmsgAdvisoryTopic
  connection : w'.connectionPtr = w.connectionPtr
  listeners : w'.advisoryListeners = w.advisoryListeners
  installed : w'.gAdvisoryListenerInstalled = w.gAdvisoryListenerInstalled
  callback : w'.gClientDisconnectCallback = w.gClientDisconnectCallback
  allocated : w.nextPtr ≤ w'.nextPtr

/-- Calls during which this is left alone; the removal of a listener has the answer `removal`. -/
def advisoryAnswers (removal : RtError) :
    (e : Call M W) → World M W → e.Answer → World M W → Prop
  | .removeListener .., w, answer, w' => answer = removal ∧ SameAdvisory w w'
  | _, w, _, w' => SameAdvisory w w'

/-- The transport hands an advisory message to the listeners for it. -/
def deliverAdvisory (msg : Advisory) : CoreM M W Unit := do
  let w ← Program.getState
  Program.forLoop (fun _ => rtroutedAdvisoryCallback msg) 0 w.advisoryListeners.length

/-- The calls that an advisory message leads to, whatever happens during them. -/
def AdvisoryCalls (w : World M W) (msg : Advisory) (calls : List (Call M W)) : Prop :=
  ∀ es, Prog.Trace (fun _ _ _ _ => True) (deliverAdvisory msg w) es ↔ es = calls

/-- A call about the handler: registering it, with the result and the connection on which that
was done, and unregistering it. -/
inductive HandlerCall where
  | register (callback : Option Nat) (ret : RbusError) (con : Option Ptr)
  | unregister

/-- The latest call about the handler, after a call. -/
def DisconnectOp.follow
    (op : DisconnectOp) (ret : RbusError) (w' : World M W) (latest : Option HandlerCall) :
    Option HandlerCall :=
  match op with
  | .registerClientDisconnectHandler callback => some (.register callback ret w'.connectionPtr)
  | .unregisterClientDisconnectHandler => some .unregister
  | _ => latest

/-- Runs of a process in which every call is permitted, with the latest call about the handler. -/
inductive DisconnectRun [MessageApi M W]
    (permitted : DisconnectOp → RtError → World M W → Prop) :
    World M W → Option HandlerCall → Prop
  | initial
      (daemonAddress advisoryTopic : CString) :
      DisconnectRun permitted (World.initial daemonAddress advisoryTopic) none
  | idle {w w' : World M W} {latest : Option HandlerCall}
      (h : DisconnectRun permitted w latest)
      (hidle : SameAdvisory w w') :
      DisconnectRun permitted w' latest
  | step {w w' : World M W} {latest : Option HandlerCall} {op : DisconnectOp}
      {removal : RtError} {ret : RbusError}
      (h : DisconnectRun permitted w latest)
      (hpermitted : permitted op removal w)
      (hop : Program.Returns (advisoryAnswers removal) op.run w ret w') :
      DisconnectRun permitted w' (op.follow ret w' latest)

/-- The handler that was registered is the one that runs, and after it has been unregistered none
does. -/
structure HandlerLaw (w : World M W) (latest : Option HandlerCall) : Prop where
  registered : ∀ callback p, latest = some (.register callback .success (some p)) →
    w.connectionPtr = some p →
    w.advisoryListeners ≠ [] ∧
      ∀ inbox, AdvisoryCalls w (.clientDisconnect (some inbox))
        (callback.toList.map fun id => .clientDisconnectCallback id inbox)
  unregistered : latest = some .unregister → ∀ msg, AdvisoryCalls w msg []

/-- The call does not find the flag, the handler and the listener apart: a handler is registered
where none is, or again where it is the one that runs, and a listener that is to be removed is. -/
def DisconnectOp.Consistent (op : DisconnectOp) (removal : RtError) (w : World M W) : Prop :=
  match op with
  | .registerClientDisconnectHandler callback =>
      w.gConnection.isSome = true → w.gAdvisoryListenerInstalled = true →
        w.gClientDisconnectCallback = callback ∧ w.advisoryListeners ≠ []
  | .unregisterClientDisconnectHandler => removal = .rtOk ∨ w.advisoryListeners = []
  | _ => True

end Runs

section Delivery

variable {M W : Type} {w : World M W}

/-- Without a listener nothing is called. -/
theorem advisoryCalls_nil
    (h : w.advisoryListeners = [])
    (msg : Advisory) :
    AdvisoryCalls w msg [] := by
  have hdeliver : deliverAdvisory msg w = .done () w := by
    show (Program.forLoop (fun _ => rtroutedAdvisoryCallback msg) 0
      w.advisoryListeners.length) w = _
    rw [h]
    rfl
  intro es
  rw [hdeliver]
  exact Prog.trace_done

/-- One listener hands the inbox to the handler, if there is one. -/
theorem advisoryCalls_single
    (h : w.advisoryListeners.length = 1)
    (inbox : CString) :
    AdvisoryCalls w (.clientDisconnect (some inbox))
      (w.gClientDisconnectCallback.toList.map fun id => .clientDisconnectCallback id inbox) := by
  have hdeliver : deliverAdvisory (.clientDisconnect (some inbox)) w =
      (rtroutedAdvisoryCallback (.clientDisconnect (some inbox)) >>= fun _ => pure ()) w := by
    show (Program.forLoop (fun _ => rtroutedAdvisoryCallback (.clientDisconnect (some inbox))) 0
      w.advisoryListeners.length) w = _
    rw [h]
    rfl
  have hstate : (Program.getState : CoreM M W (World M W)) w = .done w w := rfl
  intro es
  rw [hdeliver]
  cases hcallback : w.gClientDisconnectCallback with
  | none =>
      have hdone : rtroutedAdvisoryCallback (.clientDisconnect (some inbox)) w = .done () w := by
        rw [rtroutedAdvisoryCallback, Program.bind_of_done hstate, hcallback]
        rfl
      rw [Program.bind_of_done hdone]
      exact Prog.trace_done
  | some id =>
      have hcall : rtroutedAdvisoryCallback (.clientDisconnect (some inbox)) w =
          .call (.clientDisconnectCallback id inbox)
            { w with log := w.log ++ [.call (.clientDisconnectCallback id inbox)] }
            fun _ w' => .done () w' := by
        conv_lhs => rw [rtroutedAdvisoryCallback, Program.bind_of_done hstate, hcallback]
        rfl
      rw [Program.bind_of_call hcall]
      exact Prog.trace_call_iff ⟨(), w, trivial⟩ fun _ w' _ => ⟨(), w', rfl⟩

end Delivery

section Invariant

variable {M W : Type} {w w' : World M W} {latest : Option HandlerCall} {removal : RtError}

theorem SameAdvisory.refl
    (w : World M W) :
    SameAdvisory w w :=
  ⟨rfl, rfl, rfl, rfl, rfl, Nat.le_refl _⟩

theorem SameAdvisory.trans
    {w₁ w₂ w₃ : World M W}
    (h : SameAdvisory w₁ w₂)
    (h' : SameAdvisory w₂ w₃) :
    SameAdvisory w₁ w₃ where
  topic := h'.topic.trans h.topic
  connection := h'.connection.trans h.connection
  listeners := h'.listeners.trans h.listeners
  installed := h'.installed.trans h.installed
  callback := h'.callback.trans h.callback
  allocated := h.allocated.trans h'.allocated

theorem advisoryListeners_of_disconnected
    (h : w.connectionPtr = none) :
    w.advisoryListeners = [] := by
  rw [World.connectionPtr, Option.map_eq_none_iff] at h
  rw [World.advisoryListeners, h]
  rfl

/-- Where there is no connection, none is lost. -/
theorem SameAdvisory.disconnected
    (h : SameAdvisory w w')
    (hnone : w.connectionPtr = none) :
    SameAdvisory w { w' with gConnection := none } where
  topic := h.topic
  connection := hnone.symm
  listeners := (advisoryListeners_of_disconnected hnone).symm
  installed := h.installed
  callback := h.callback
  allocated := h.allocated

theorem sameAdvisory_of_answers
    {e : Call M W} {a : e.Answer}
    (h : advisoryAnswers removal e w a w') :
    SameAdvisory w w' := by
  cases e with
  | removeListener =>
      exact h.2
  | _ =>
      exact h

/-- Nothing is demanded at a call and where behaviour is undefined. -/
def advising (removal : RtError) :
    Contract (Call.Answer (M := M) (W := W)) (World M W) where
  env := advisoryAnswers removal
  atCall _ _ := True
  atUndef _ := True

theorem steady_advisory
    (removal : RtError) (w : World M W) :
    Steady (advising removal) (SameAdvisory w) where
  messages := fun _ _ _ hle h => h.trans ⟨rfl, rfl, rfl, rfl, rfl, hle⟩
  called := fun _ _ _ h => h.trans ⟨rfl, rfl, rfl, rfl, rfl, Nat.le_refl _⟩
  fault := fun _ _ _ h => h.trans ⟨rfl, rfl, rfl, rfl, rfl, Nat.le_refl _⟩
  env := fun _ _ _ _ henv h => h.trans (sameAdvisory_of_answers henv)
  atCall := fun _ _ _ _ => trivial
  atUndef := fun _ _ => trivial

theorem locking_advisory
    (removal : RtError) (w : World M W) :
    Locking (advising removal) fun _ => SameAdvisory w where
  steady _ := steady_advisory removal w
  locked := fun _ h => h.trans ⟨rfl, rfl, rfl, rfl, rfl, Nat.le_refl _⟩
  unlocked := fun _ h => h.trans ⟨rfl, rfl, rfl, rfl, rfl, Nat.le_refl _⟩
  unusable := fun _ _ _ _ h => h.trans ⟨rfl, rfl, rfl, rfl, rfl, Nat.le_refl _⟩
  subscriptions := fun _ _ h => h.trans ⟨rfl, rfl, rfl, rfl, rfl, Nat.le_refl _⟩

/-- The connection is gone, or another one without listeners. -/
structure Replaced (w w' : World M W) : Prop where
  listeners : w'.advisoryListeners = []
  installed : w'.gAdvisoryListenerInstalled = w.gAdvisoryListenerInstalled
  callback : w'.gClientDisconnectCallback = w.gClientDisconnectCallback
  allocated : w.nextPtr ≤ w'.nextPtr
  connection : ∀ p, w'.connectionPtr = some p → w.nextPtr ≤ p ∧ p < w'.nextPtr

/-- Where there is no connection, none is replaced. -/
theorem SameAdvisory.replaced
    (h : SameAdvisory w w')
    (hnone : w.connectionPtr = none) :
    Replaced w w' where
  listeners := h.listeners.trans (advisoryListeners_of_disconnected hnone)
  installed := h.installed
  callback := h.callback
  allocated := h.allocated
  connection := by
    intro p hp
    rw [h.connection, hnone] at hp
    cases hp

theorem Replaced.other
    {w₁ : World M W}
    (h : Replaced w₁ w)
    (hother : SameAdvisory w w') :
    Replaced w₁ w' where
  listeners := hother.listeners.trans h.listeners
  installed := hother.installed.trans h.installed
  callback := hother.callback.trans h.callback
  allocated := h.allocated.trans hother.allocated
  connection := by
    intro p hp
    obtain ⟨hnew, hlt⟩ := h.connection p (hother.connection.symm.trans hp)
    exact ⟨hnew, Nat.lt_of_lt_of_le hlt hother.allocated⟩

/-- The listener is where a registration looks for it. -/
structure DisconnectInv (w : World M W) (latest : Option HandlerCall) : Prop where
  absent : w.gAdvisoryListenerInstalled = false → w.advisoryListeners = []
  single : w.advisoryListeners.length ≤ 1
  fresh : ∀ p, w.connectionPtr = some p → p < w.nextPtr
  registered : ∀ callback p, latest = some (.register callback .success (some p)) →
    p < w.nextPtr ∧ (w.connectionPtr = some p →
      w.advisoryListeners ≠ [] ∧ w.gClientDisconnectCallback = callback)
  unregistered : latest = some .unregister → w.gAdvisoryListenerInstalled = false

/-- What is left alone is still where it was. -/
theorem DisconnectInv.same
    (h : DisconnectInv w latest)
    (hsame : SameAdvisory w w') :
    DisconnectInv w' latest where
  absent := by
    rw [hsame.installed, hsame.listeners]
    exact h.absent
  single := by
    rw [hsame.listeners]
    exact h.single
  fresh := by
    intro p hp
    rw [hsame.connection] at hp
    exact Nat.lt_of_lt_of_le (h.fresh p hp) hsame.allocated
  registered := by
    intro callback p hlatest
    obtain ⟨hlt, hregistered⟩ := h.registered callback p hlatest
    rw [hsame.connection, hsame.listeners, hsame.callback]
    exact ⟨Nat.lt_of_lt_of_le hlt hsame.allocated, hregistered⟩
  unregistered := by
    rw [hsame.installed]
    exact h.unregistered

/-- A new connection is none on which a handler has been registered. -/
theorem DisconnectInv.replaced
    (h : DisconnectInv w latest)
    (hreplaced : Replaced w w') :
    DisconnectInv w' latest where
  absent := fun _ => hreplaced.listeners
  single := by
    rw [hreplaced.listeners]
    exact Nat.zero_le 1
  fresh := fun p hp => (hreplaced.connection p hp).2
  registered := by
    intro callback p hlatest
    have hlt := (h.registered callback p hlatest).1
    refine ⟨Nat.lt_of_lt_of_le hlt hreplaced.allocated, fun hp => ?_⟩
    exact absurd hlt (Nat.not_lt_of_le (hreplaced.connection p hp).1)
  unregistered := by
    rw [hreplaced.installed]
    exact h.unregistered

/-- The three hang together as the law says. -/
theorem DisconnectInv.law
    (h : DisconnectInv w latest) :
    HandlerLaw w latest where
  registered := by
    intro callback p hlatest hp
    obtain ⟨hne, rfl⟩ := (h.registered callback p hlatest).2 hp
    refine ⟨hne, fun inbox => ?_⟩
    have hlength : w.advisoryListeners.length = 1 :=
      Nat.le_antisymm h.single (List.length_pos_iff.mpr hne)
    exact advisoryCalls_single hlength inbox
  unregistered := fun hlatest => advisoryCalls_nil (h.absent (h.unregistered hlatest))

end Invariant

section Operations

variable {M W : Type} {w w₁ : World M W} {removal : RtError}

/-- What `rbus_registerClientDisconnectHandler` does: nothing, where the flag is set. -/
inductive Registers (callback : Option Nat) (w : World M W) : RbusError → World M W → Prop
  | present {w' : World M W}
      (hinstalled : w.gAdvisoryListenerInstalled = true)
      (hsame : SameAdvisory w w') :
      Registers callback w .success w'
  | refused {ret : RbusError} {w' : World M W}
      (hret : ret ≠ .success)
      (hsame : SameAdvisory w w') :
      Registers callback w ret w'
  | installed {w' : World M W}
      (habsent : w.gAdvisoryListenerInstalled = false)
      (hconnection : w'.connectionPtr = w.connectionPtr)
      (hlisteners : w'.advisoryListeners = w.advisoryListeners ++
        (w.connectionPtr.map fun _ =>
          (w.rtmsgAdvisoryTopic, ListenerCallback.rtroutedAdvisoryCallback)).toList)
      (hinstalled : w'.gAdvisoryListenerInstalled = true)
      (hcallback : w'.gClientDisconnectCallback = callback)
      (hallocated : w.nextPtr ≤ w'.nextPtr) :
      Registers callback w .success w'

/-- A listener that the transport has added. -/
theorem advisoryListeners_add
    (w : World M W) (callback : Option Nat) (log : List (Event M W)) (owned : Bool) :
    ({ w with
        gConnection := w.gConnection.map fun c =>
          { c with listeners := c.listeners ++ [(w.rtmsgAdvisoryTopic, .rtroutedAdvisoryCallback)] }
        gAdvisoryListenerInstalled := true
        gClientDisconnectCallback := callback
        mutexOwned := owned
        log := log } : World M W).advisoryListeners =
      w.advisoryListeners ++ (w.connectionPtr.map fun _ =>
        (w.rtmsgAdvisoryTopic, ListenerCallback.rtroutedAdvisoryCallback)).toList := by
  cases hcon : w.gConnection with
  | none =>
      simp [World.advisoryListeners, World.connectionPtr, hcon]
  | some c =>
      simp [World.advisoryListeners, World.connectionPtr, hcon]

theorem sat_rbusRegisterClientDisconnectHandler
    (callback : Option Nat)
    (w : World M W) :
    Program.Sat (advising removal) (rbusRegisterClientDisconnectHandler callback)
      (Registers callback w) w := by
  rw [rbusRegisterClientDisconnectHandler, Program.sat_bind, sat_lock, Program.sat_bind,
    Program.sat_getState, Program.sat_ite]
  split
  case isTrue hinstalled =>
    exact .present hinstalled ⟨rfl, rfl, rfl, rfl, rfl, Nat.le_refl _⟩
  case isFalse habsent =>
    rw [Program.sat_bind, rtConnectionAddListener, Program.sat_bind, sat_gConnectionPtr,
      Program.sat_bind, sat_call]
    refine ⟨trivial, fun err w₁ henv => ?_⟩
    have hsame : SameAdvisory w w₁ :=
      (steady_advisory removal w).env _ _ _ _ henv ⟨rfl, rfl, rfl, rfl, rfl, Nat.le_refl _⟩
    rw [Program.sat_ite]
    split
    case isTrue hok =>
      rw [Program.sat_bind, updateConnection, Program.sat_modifyState, Program.sat_pure,
        Program.sat_ite, if_pos hok]
      refine .installed (Bool.eq_false_of_not_eq_true habsent) ?_ ?_ rfl rfl hsame.allocated
      · refine Eq.trans ?_ hsame.connection
        exact Option.map_map ..
      · rw [← hsame.listeners, ← hsame.connection, ← hsame.topic]
        exact advisoryListeners_add w₁ callback _ _
    case isFalse hfailed =>
      rw [Program.sat_pure, Program.sat_ite, if_neg hfailed]
      exact .refused RbusError.noConfusion
        (hsame.trans ⟨rfl, rfl, rfl, rfl, rfl, Nat.le_refl _⟩)

/-- What `rbus_unregisterClientDisconnectHandler` does: the flag is cleared, whether the listener
could be removed or not. -/
structure Unregisters (removal : RtError) (w w' : World M W) : Prop where
  connection : w'.connectionPtr = w.connectionPtr
  listeners : w'.advisoryListeners =
    if w.gAdvisoryListenerInstalled = true ∧ removal = .rtOk then [] else w.advisoryListeners
  installed : w'.gAdvisoryListenerInstalled = false
  allocated : w.nextPtr ≤ w'.nextPtr

/-- No advisory listener is left among those for other topics. -/
theorem advisoryListeners_remove
    (w : World M W) (log : List (Event M W)) (owned : Bool) :
    ({ w with
        gConnection := w.gConnection.map fun c =>
          { c with listeners := c.listeners.filter fun l => l.1 ≠ w.rtmsgAdvisoryTopic }
        gAdvisoryListenerInstalled := false
        mutexOwned := owned
        log := log } : World M W).advisoryListeners = [] := by
  cases hcon : w.gConnection with
  | none =>
      simp [World.advisoryListeners]
  | some c =>
      simp +contextual [World.advisoryListeners, List.filter_eq_nil_iff]

theorem sat_rbusUnregisterClientDisconnectHandler
    (w : World M W) :
    Program.Sat (advising removal) rbusUnregisterClientDisconnectHandler
      (fun _ => Unregisters removal w) w := by
  rw [rbusUnregisterClientDisconnectHandler, Program.sat_bind, sat_lock, Program.sat_bind,
    removeAdvisoryListener, Program.sat_bind, Program.sat_getState, Program.sat_ite]
  split
  case isTrue hinstalled =>
    rw [Program.sat_bind, rtConnectionRemoveListener, Program.sat_bind, sat_gConnectionPtr,
      Program.sat_bind, sat_call]
    refine ⟨trivial, ?_⟩
    rintro err w₁ henv
    have hsame : SameAdvisory w w₁ :=
      (steady_advisory removal w).env _ _ _ _ henv ⟨rfl, rfl, rfl, rfl, rfl, Nat.le_refl _⟩
    rw [Program.sat_ite]
    split
    case isTrue hok =>
      have hremoved : removal = .rtOk := henv.1.symm.trans hok
      rw [Program.sat_bind, updateConnection, Program.sat_modifyState, Program.sat_pure]
      refine ⟨Eq.trans (Option.map_map ..) hsame.connection, ?_, rfl, hsame.allocated⟩
      rw [if_pos ⟨hinstalled, hremoved⟩]
      dsimp only
      rw [← hsame.topic]
      exact advisoryListeners_remove w₁ _ _
    case isFalse hfailed =>
      refine ⟨hsame.connection, ?_, rfl, hsame.allocated⟩
      rw [if_neg fun h => hfailed (henv.1.trans h.2)]
      exact hsame.listeners
  case isFalse habsent =>
    refine ⟨rfl, ?_, Bool.eq_false_of_not_eq_true habsent, Nat.le_refl _⟩
    rw [if_neg fun h => habsent h.1]
    rfl

variable [MessageApi M W]

theorem keeps_performCleanup_advisory
    (w : World M W) :
    Program.Keeps (advising removal) (SameAdvisory w) performCleanup :=
  keeps_performCleanup (locking_advisory removal w) fun _ _ _ _ h =>
    h.trans ⟨rfl, rfl, rfl, rfl, rfl, Nat.le_refl _⟩

/-- Opening a connection leaves what there is, or there was no connection before. -/
theorem sat_rbusOpenBrokerConnection2_advisory
    (w : World M W)
    (componentName brokerAddress : Option CString) :
    Program.Sat (advising removal) (rbusOpenBrokerConnection2 componentName brokerAddress)
      (fun _ w' => SameAdvisory w w' ∨ Replaced w w') w := by
  have hlocking := locking_advisory removal w
  have hunlock {w₁ : World M W} : SameAdvisory w₁
      { w₁ with mutexOwned := false, log := w₁.log ++ [.unlock w₁.mutexOwned] } :=
    ⟨rfl, rfl, rfl, rfl, rfl, Nat.le_refl _⟩
  refine leads_rbusOpenBrokerConnection2 (P := SameAdvisory w) (L := SameAdvisory w)
    (D := fun w₁ => w.connectionPtr = none ∧ SameAdvisory w w₁) (O := Replaced w)
    (F := fun w₁ => w.connectionPtr = none ∧ SameAdvisory w w₁) (fun _ h => Or.inl h)
    (keeps_initMutex fun _ h => h.trans ⟨rfl, rfl, rfl, rfl, rfl, Nat.le_refl _⟩)
    (leads_lock hlocking.exclusive) (fun _ _ _ h => Or.inl (h.trans hunlock)) ?_
    ((steady_advisory removal w).and_const _)
    (fun _ _ h => ⟨h.1, h.2.trans ⟨rfl, rfl, rfl, rfl, rfl, Nat.le_refl _⟩⟩) ?_ ?_ ?_ componentName
    brokerAddress w (.refl w)
  · intro w₁ hnone h
    refine ⟨h.connection.symm.trans ?_, h⟩
    rw [World.connectionPtr, hnone]
    rfl
  · rintro name address w₁ ⟨hnone, h⟩
    rw [Program.sat_bind, performInit, Program.sat_modifyState]
    have hsteady := steady_advisory removal w
    have h₁ : SameAdvisory w { w₁ with
        gServerObjects := .live []
        gEventSubscriptionsForClient := .live []
        log := w₁.log ++ [.write w₁.mutexOwned] ++ [.call (.connectionCreate name address)] } :=
      h.trans ⟨rfl, rfl, rfl, rfl, rfl, Nat.le_refl _⟩
    refine sat_rtConnectionCreate _ _ trivial (fun returnAddress w₂ henv => ?_)
      fun err w₂ henv => ?_
    · have h₂ := hsteady.env _ _ _ _ henv h₁
      refine ⟨fun _ => ?_, fun hne => absurd rfl hne⟩
      refine ⟨rfl, h₂.installed, h₂.callback, Nat.le_succ_of_le h₂.allocated, ?_⟩
      rintro p ⟨⟩
      exact ⟨h₂.allocated, Nat.lt_succ_self _⟩
    · have h₂ := hsteady.env _ _ _ _ henv h₁
      exact ⟨fun _ => h₂.replaced hnone, fun _ => ⟨hnone, h₂⟩⟩
  · exact fun _ h => Or.inr (h.other hunlock)
  · rintro w₁ ⟨hnone, h⟩
    rw [Program.sat_bind, Program.sat_modifyState]
    have h₁ : SameAdvisory w { w₁ with gConnection := none } := h.disconnected hnone
    exact (keeps_performCleanup_advisory w _ h₁).bind fun _ _ h => Or.inl (h.trans hunlock)

/-- Closing a connection leaves what there is, or there is no connection after it. -/
theorem sat_rbusCloseBrokerConnection_advisory
    (w : World M W) :
    Program.Sat (advising removal) rbusCloseBrokerConnection
      (fun _ w' => SameAdvisory w w' ∨ Replaced w w') w := by
  have hlocked : SameAdvisory w
      { w with mutexOwned := true, log := w.log ++ [.lock w.mutexOwned] } :=
    ⟨rfl, rfl, rfl, rfl, rfl, Nat.le_refl _⟩
  rw [rbusCloseBrokerConnection, Program.sat_bind, sat_lock, Program.sat_bind,
    Program.sat_getState, Program.sat_ite]
  split
  case isTrue =>
    exact Or.inl hlocked
  case isFalse =>
    refine (keeps_performCleanup_advisory w _ hlocked).bind fun _ w₁ h₁ => ?_
    rw [Program.sat_bind, sat_gConnectionPtr, Program.sat_bind, sat_call]
    refine ⟨trivial, fun err w₂ henv => ?_⟩
    have h₂ : SameAdvisory w w₂ := (steady_advisory removal w).env _ _ _ _ henv
      (h₁.trans ⟨rfl, rfl, rfl, rfl, rfl, Nat.le_refl _⟩)
    rw [Program.sat_ite]
    split
    case isTrue =>
      exact Or.inl h₂
    case isFalse =>
      exact Or.inr ⟨rfl, h₂.installed, h₂.callback, h₂.allocated, by rintro p ⟨⟩⟩

end Operations

section Steps

variable {M W : Type} [MessageApi M W]
variable {w w' : World M W} {latest : Option HandlerCall} {op : DisconnectOp}
variable {removal : RtError} {ret : RbusError}

omit [MessageApi M W] in
/-- The handler is registered where none is, or again. -/
theorem DisconnectInv.registers
    {callback : Option Nat}
    (h : DisconnectInv w latest)
    (hconsistent : (DisconnectOp.registerClientDisconnectHandler callback).Consistent removal w)
    (hregisters : Registers callback w ret w') :
    DisconnectInv w' (some (.register callback ret w'.connectionPtr)) := by
  cases hregisters with
  | present hinstalled hsame =>
      have h' := h.same hsame
      refine ⟨h'.absent, h'.single, h'.fresh, ?_, by rintro ⟨⟩⟩
      intro callback' p hlatest
      obtain ⟨rfl, -, hp⟩ := HandlerCall.register.inj (Option.some.inj hlatest)
      refine ⟨h'.fresh p hp, fun _ => ?_⟩
      have hsome : w.gConnection.isSome = true := by
        rw [hsame.connection, World.connectionPtr, Option.map_eq_some_iff] at hp
        obtain ⟨c, hc, -⟩ := hp
        rw [hc]
        rfl
      obtain ⟨hcallback, hne⟩ := hconsistent hsome hinstalled
      rw [hsame.listeners, hsame.callback]
      exact ⟨hne, hcallback⟩
  | refused hret hsame =>
      have h' := h.same hsame
      refine ⟨h'.absent, h'.single, h'.fresh, ?_, by rintro ⟨⟩⟩
      intro callback' p hlatest
      exact absurd (HandlerCall.register.inj (Option.some.inj hlatest)).2.1 hret
  | installed habsent hconnection hlisteners hinstalled hcallback hallocated =>
      rw [h.absent habsent, List.nil_append] at hlisteners
      have hfresh (p : Ptr) (hp : w'.connectionPtr = some p) : p < w'.nextPtr := by
        rw [hconnection] at hp
        exact Nat.lt_of_lt_of_le (h.fresh p hp) hallocated
      refine ⟨?_, ?_, hfresh, ?_, by rintro ⟨⟩⟩
      · intro hnot
        rw [hinstalled] at hnot
        cases hnot
      · rw [hlisteners]
        cases w.connectionPtr <;> simp
      · intro callback' p hlatest
        obtain ⟨rfl, -, hp⟩ := HandlerCall.register.inj (Option.some.inj hlatest)
        refine ⟨hfresh p hp, fun _ => ⟨?_, hcallback⟩⟩
        rw [hlisteners, hconnection.symm.trans hp]
        exact List.cons_ne_nil _ _

omit [MessageApi M W] in
/-- The listener is removed with the flag. -/
theorem DisconnectInv.unregisters
    (h : DisconnectInv w latest)
    (hconsistent : DisconnectOp.unregisterClientDisconnectHandler.Consistent removal w)
    (hunregisters : Unregisters removal w w') :
    DisconnectInv w' (some .unregister) := by
  have hnone : w'.advisoryListeners = [] := by
    rw [hunregisters.listeners]
    split
    case isTrue =>
      rfl
    case isFalse hkept =>
      rcases hconsistent with hremoved | hnone
      · refine h.absent (Bool.eq_false_of_not_eq_true fun hinstalled => ?_)
        exact hkept ⟨hinstalled, hremoved⟩
      · exact hnone
  refine ⟨fun _ => hnone, ?_, ?_, by rintro callback p ⟨⟩, fun _ => hunregisters.installed⟩
  · rw [hnone]
    exact Nat.zero_le 1
  · intro p hp
    rw [hunregisters.connection] at hp
    exact Nat.lt_of_lt_of_le (h.fresh p hp) hunregisters.allocated

/-- Every call that does not find the three apart keeps them together. -/
theorem DisconnectInv.step
    (h : DisconnectInv w latest)
    (hconsistent : op.Consistent removal w)
    (hop : Program.Returns (advisoryAnswers removal) op.run w ret w') :
    DisconnectInv w' (op.follow ret w' latest) := by
  have hends {Q : RbusError → World M W → Prop}
      (hsat : Program.Sat (advising removal) op.run Q w) : Q ret w' :=
    Program.returns_of_sat (fun _ _ _ _ henv => henv) hsat hop
  cases op with
  | openBrokerConnection componentName =>
      exact (hends (sat_rbusOpenBrokerConnection2_advisory w componentName none)).elim
        h.same h.replaced
  | openBrokerConnection2 componentName brokerAddress =>
      exact (hends (sat_rbusOpenBrokerConnection2_advisory w componentName brokerAddress)).elim
        h.same h.replaced
  | closeBrokerConnection =>
      exact (hends (sat_rbusCloseBrokerConnection_advisory w)).elim h.same h.replaced
  | registerClientDisconnectHandler callback =>
      exact h.registers hconsistent (hends (sat_rbusRegisterClientDisconnectHandler callback w))
  | unregisterClientDisconnectHandler =>
      exact h.unregisters hconsistent (hends (sat_rbusUnregisterClientDisconnectHandler w))

/-- Every run of such calls keeps the invariant. -/
theorem DisconnectRun.inv
    (h : DisconnectRun DisconnectOp.Consistent w latest) :
    DisconnectInv w latest := by
  induction h with
  | initial daemonAddress advisoryTopic =>
      exact ⟨fun _ => rfl, Nat.zero_le 1, by rintro p ⟨⟩, by rintro callback p ⟨⟩, by rintro ⟨⟩⟩
  | idle _ hidle ih =>
      exact ih.same hidle
  | step _ hconsistent hop ih =>
      exact ih.step hconsistent hop

/--
In every run in which no call finds the flag, the handler and the listener apart, a handler whose
registration was the latest call about it and returned SUCCESS on the connection there is gets
every inbox of a client that has disconnected, once and alone, through a listener on this
connection; and after the handler has been unregistered, no advisory message leads to a call.
-/
theorem disconnect_handler_runs
    (h : DisconnectRun DisconnectOp.Consistent w latest) :
    HandlerLaw w latest :=
  h.inv.law

end Steps

section Run

/-- A transport that opens connections and adds listeners. -/
def advisoryAnswer :
    (e : Call Bytes (List UInt8)) → World Bytes (List UInt8) →
      Option (e.Answer × World Bytes (List UInt8))
  | .connectionCreate .., w => some (.ok (sampleConnection 0).returnAddress, w)
  | .addListener .., w => some (.rtOk, w)
  | _, _ => none

theorem advisoryAnswers_of_advisoryAnswer
    (e : Call Bytes (List UInt8)) (w : World Bytes (List UInt8)) (a : e.Answer)
    (w' : World Bytes (List UInt8))
    (h : advisoryAnswer e w = some (a, w')) :
    advisoryAnswers .rtOk e w a w' := by
  cases e with
  | connectionCreate | addListener =>
      obtain rfl := (Prod.mk.inj (Option.some.inj h)).2
      exact .refl w
  | _ =>
      cases h

/-- Opening a connection, in examples. -/
def sampleConnect : DisconnectOp := .openBrokerConnection2 (some sampleInbox) (some .empty)

/-- The first handler that is registered is the one that runs. -/
theorem first_handler_runs :
    ∃ w : World Bytes (List UInt8), w.connectionPtr = some 1 ∧
      HandlerLaw w (some (.register (some 1) .success (some 1))) := by
  have hrun : ((sampleConnect.run (World.initial .empty .empty)).run advisoryAnswer).bind
      (fun r =>
        ((DisconnectOp.registerClientDisconnectHandler (some 1)).run r.2).run advisoryAnswer
          |>.map fun r₂ => (r.2.gAdvisoryListenerInstalled, r₂.1, r₂.2.connectionPtr)) =
        some (false, .success, some 1) := by
    decide +kernel
  obtain ⟨⟨ret, w₁⟩, hw₁, hrun⟩ := Option.bind_eq_some_iff.mp hrun
  obtain ⟨⟨ret₂, w₂⟩, hw₂, hresult⟩ := Option.map_eq_some_iff.mp hrun
  obtain ⟨habsent, hret, hptr⟩ : w₁.gAdvisoryListenerInstalled = false ∧ ret₂ = .success ∧
      w₂.connectionPtr = some 1 := by
    simpa only [Prod.mk.injEq] using hresult
  have hopened : DisconnectRun DisconnectOp.Consistent w₁ none :=
    .step (.initial .empty .empty) trivial
      (Program.returns_of_run advisoryAnswers_of_advisoryAnswer hw₁)
  have hconsistent : (DisconnectOp.registerClientDisconnectHandler (some 1)).Consistent .rtOk
      w₁ := by
    intro _ hinstalled
    rw [habsent] at hinstalled
    cases hinstalled
  have hregistered : DisconnectRun DisconnectOp.Consistent w₂
      (some (.register (some 1) ret₂ w₂.connectionPtr)) :=
    .step hopened hconsistent (Program.returns_of_run advisoryAnswers_of_advisoryAnswer hw₂)
  rw [hret, hptr] at hregistered
  exact ⟨w₂, hptr, disconnect_handler_runs hregistered⟩

/-- The second handler that is registered is accepted, and the first one runs. -/
theorem second_handler_dropped :
    ∃ w : World Bytes (List UInt8),
      DisconnectRun (fun _ _ _ => True) w (some (.register (some 2) .success (some 1))) ∧
      ¬HandlerLaw w (some (.register (some 2) .success (some 1))) := by
  have hrun : ((sampleConnect.run (World.initial .empty .empty)).run advisoryAnswer).bind
      (fun r =>
        ((DisconnectOp.registerClientDisconnectHandler (some 1)).run r.2).run advisoryAnswer
          |>.bind fun r₂ =>
        ((DisconnectOp.registerClientDisconnectHandler (some 2)).run r₂.2).run advisoryAnswer
          |>.map fun r₃ => (r₃.1, r₃.2.connectionPtr, r₃.2.advisoryListeners.length,
            r₃.2.gClientDisconnectCallback)) =
        some (.success, some 1, 1, some 1) := by
    decide +kernel
  obtain ⟨⟨ret, w₁⟩, hw₁, hrun⟩ := Option.bind_eq_some_iff.mp hrun
  obtain ⟨⟨ret₂, w₂⟩, hw₂, hrun⟩ := Option.bind_eq_some_iff.mp hrun
  obtain ⟨⟨ret₃, w₃⟩, hw₃, hresult⟩ := Option.map_eq_some_iff.mp hrun
  obtain ⟨hret, hptr, hlength, hcallback⟩ : ret₃ = .success ∧ w₃.connectionPtr = some 1 ∧
      w₃.advisoryListeners.length = 1 ∧ w₃.gClientDisconnectCallback = some 1 := by
    simpa only [Prod.mk.injEq] using hresult
  have hstep {w w' : World Bytes (List UInt8)} {latest : Option HandlerCall} {ret : RbusError}
      (op : DisconnectOp)
      (h : DisconnectRun (fun _ _ _ => True) w latest)
      (hw : (op.run w).run advisoryAnswer = some (ret, w')) :
      DisconnectRun (fun _ _ _ => True) w' (op.follow ret w' latest) :=
    .step h trivial (Program.returns_of_run advisoryAnswers_of_advisoryAnswer hw)
  have hregistered := hstep (.registerClientDisconnectHandler (some 2))
    (hstep (.registerClientDisconnectHandler (some 1))
      (hstep sampleConnect (.initial .empty .empty) hw₁) hw₂) hw₃
  rw [DisconnectOp.follow, hret, hptr] at hregistered
  refine ⟨w₃, hregistered, fun hlaw => ?_⟩
  -- the law asks for the second handler, and the first one is called
  have hsecond := (hlaw.registered (some 2) 1 rfl hptr).2 .empty
  have hfirst := advisoryCalls_single hlength .empty
  rw [hcallback] at hfirst
  have hcalls := (hsecond _).mp ((hfirst _).mpr rfl)
  cases hcalls

end Run

end RbusCore
