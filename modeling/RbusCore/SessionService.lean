import RbusCore.MethodTables
import RbusCore.SessionManager
import RbusCore.SubscriptionArrivals

/-!
# Sessions over the bus

The session manager is a process that uses the library: its methods are registered at an object,
requests for them arrive as messages, and clients make the requests as remote calls.

**Results.**
* `SessionManager.after_run`: what the methods have answered is a run of the session manager.
* `ServiceRun.inService`: the object is in place, and every request has been answered, whatever
  arrives.
-/

namespace RbusCore

open CStrings Resumption MessagePack

section Names

/-- `RBUS_SMGR_DESTINATION_NAME`. -/
def rbusSmgrDestinationName : CString :=
  .ofChars ['_', 'r', 'b', 'u', 's', '_', 's', 'e', 's', 's', 'i', 'o', 'n', '_', 'm', 'g', 'r']

/-- `RBUS_SMGR_METHOD_GET_CURRENT_SESSION_ID`, `RBUS_SMGR_METHOD_REQUEST_SESSION_ID` and
`RBUS_SMGR_METHOD_END_SESSION`. -/
def SessionMethod.name : SessionMethod → CString
  | .getSessionId => .ofChars ['g', 'e', 't', '_', 'c', 'u', 'r', 'r', '_', 's']
  | .requestSessionId => .ofChars ['r', 'e', 'q', '_', 'n', 'e', 'w', '_', 's']
  | .endSession => .ofChars ['e', 'n', 'd', '_', 'o', 'f', '_', 's']

theorem sessionNames_fit
    (method : SessionMethod) :
    method.name.strlen < maxMethodNameLength := by
  cases method <;> decide

theorem destinationName_fits :
    1 ≤ rbusSmgrDestinationName.strlen ∧
      rbusSmgrDestinationName.strlen < maxObjectNameLength := by
  decide

/-- The callbacks of the process, as the library knows them: `callback` is the first. -/
def SessionMethod.callback : SessionMethod → Nat
  | .getSessionId => 1
  | .requestSessionId => 2
  | .endSession => 3

/-- The method with a callback. -/
def SessionMethod.ofCallback? : Nat → Option SessionMethod
  | 1 => some .getSessionId
  | 2 => some .requestSessionId
  | 3 => some .endSession
  | _ => none

@[simp] theorem SessionMethod.ofCallback?_callback
    (method : SessionMethod) :
    SessionMethod.ofCallback? method.callback = some method := by
  cases method <;> rfl

/-- The table of `main`, in the source's order. -/
def sessionMethods : List SessionMethod :=
  [.getSessionId, .requestSessionId, .endSession]

end Names

section Process

variable {M W : Type} [MessageApi M W]

/-- The loop of `main` that connects, for at most so many rounds. -/
def connectSessionManager : Nat → CoreM M W Unit
  | 0 => do
      let never : Empty ← call .loop
      nomatch never
  | rounds + 1 => do
      let err ← rbusOpenBrokerConnection (some rbusSmgrDestinationName)
      if err = .success then pure () else connectSessionManager rounds

/-- The entry of a method in the table. -/
def SessionMethod.entry (method : SessionMethod) : MethodEntry where
  method := method.name
  callback := .app method.callback
  userData := 0

/-- `main` of the session manager, up to `pause`. -/
def sessionManagerMain (rounds : Nat) : CoreM M W Unit := do
  connectSessionManager rounds
  let _ ← rbusRegisterObj (some rbusSmgrDestinationName) 0 0
  let _ ← rbusRegisterMethodTable (some rbusSmgrDestinationName)
    (methodTable (sessionMethods.map SessionMethod.entry))
  pure ()

end Process

section Handling

variable {M W : Type} [MessageApi M W]

/-- The request that a callback of the process is called with. -/
def Call.sessionRequest? : Call M W → Option (SessionRequest M)
  | .methodCallback id _ _ msg _ hdr =>
      (SessionMethod.ofCallback? id).map fun method =>
        { hdr := hdr, method := method, request := msg }
  | _ => none

/-- The requests that the methods have been called with, in order. -/
def sessionRequests (log : List (Event M W)) : List (SessionRequest M) :=
  log.filterMap fun
    | .call e => e.sessionRequest?
    | _ => none

/-- The methods called one after another: what they answer, and the session manager behind
them. -/
def SessionManager.after (requests : List (SessionRequest M)) :
    Option (List (SessionRequest M × HandlerResult M) × SessionManager) :=
  requests.foldlM
    (fun state r => (r.handle state.2).map fun step => (state.1 ++ [(r, step.1)], step.2))
    ([], .initial)

/-- What a call of a method is answered. -/
def sessionAnswer (log : List (Event M W)) (r : SessionRequest M) : Option (HandlerResult M) :=
  (SessionManager.after (sessionRequests log).dropLast).bind fun state =>
    (r.handle state.2).map Prod.fst

/-- `callback`: it prints the debug text of a message as a string.  There is no result where the
text leaves its buffer, or is not terminated in it. -/
def baseCallback (toDebugString : M → M × DebugText) (message : M) : Option (HandlerResult M) :=
  let text := (toDebugString message).2
  if text.inBounds = true ∧ 0 ∈ text.buffer then some { ret := .success, response := none }
  else none

/-- The callbacks of the process answer its calls, and a connection that is not made is an error;
nothing else happens meanwhile.  Fresh memory, in which a debug text is printed, holds
anything. -/
def answering
    (toDebugString : List UInt8 → M → M × DebugText) (e : Call M W) (w : World M W) (a : e.Answer)
    (w' : World M W) : Prop :=
  w' = w ∧
    match e, a with
    | .methodCallback id topic method msg data hdr, result =>
        match (Call.methodCallback (W := W) id topic method msg data hdr).sessionRequest? with
        | some r => sessionAnswer w.log r = some result
        | none => ∃ uninit : List UInt8, uninit.length = allocIncrement ∧
            baseCallback (toDebugString uninit) msg = some result
    | .connectionCreate .., result => result ≠ .error .rtOk
    | _, _ => True

/-- Code of the process. -/
def sessionProcess (toDebugString : List UInt8 → M → M × DebugText) :
    Contract (Call.Answer (M := M) (W := W)) (World M W) where
  env := answering toDebugString
  atCall _ _ := True
  atUndef _ := True

/-- What the methods answer one after another is a run of the session manager. -/
theorem SessionManager.after_run
    {requests : List (SessionRequest M)}
    {history : List (SessionRequest M × HandlerResult M)} {s : SessionManager}
    (h : SessionManager.after requests = some (history, s)) :
    SessionRun history s ∧ history.map Prod.fst = requests := by
  induction requests using List.reverseRecOn generalizing history s with
  | nil =>
      obtain ⟨rfl, rfl⟩ := Prod.mk.inj (Option.some.inj h)
      exact ⟨.start, rfl⟩
  | append_singleton requests r ih =>
      rw [SessionManager.after, List.foldlM_append] at h
      obtain ⟨⟨earlier, s₁⟩, hearlier, hlast⟩ := Option.bind_eq_some_iff.mp h
      obtain ⟨hrun, hrequests⟩ := ih hearlier
      rw [List.foldlM_cons] at hlast
      obtain ⟨⟨_, s₂⟩, hstep, hend⟩ := Option.bind_eq_some_iff.mp hlast
      obtain ⟨⟨result, s₃⟩, hhandle, hpair⟩ := Option.map_eq_some_iff.mp hstep
      obtain ⟨rfl, rfl⟩ := Prod.mk.inj hpair
      obtain ⟨rfl, rfl⟩ := Prod.mk.inj (Option.some.inj hend)
      refine ⟨hrun.step hhandle, ?_⟩
      rw [List.map_append, hrequests]
      rfl

/-- One more request. -/
theorem SessionManager.after_concat
    {requests : List (SessionRequest M)} {r : SessionRequest M} {result : HandlerResult M}
    {history : List (SessionRequest M × HandlerResult M)} {s s' : SessionManager}
    (h : SessionManager.after requests = some (history, s))
    (hhandle : r.handle s = some (result, s')) :
    SessionManager.after (requests ++ [r]) = some (history ++ [(r, result)], s') := by
  rw [SessionManager.after] at h
  rw [SessionManager.after, List.foldlM_append, h]
  simp [hhandle]

end Handling

section Setup

variable {M W : Type} {w : World M W}

/-- The handlers called and the responses sent. -/
def flowCalls (log : List (Event M W)) : List (Event M W) :=
  log.filter Event.isFlowCall

theorem flowCalls_concat
    {log : List (Event M W)} {e : Event M W}
    (he : e.isFlowCall = false) :
    flowCalls (log ++ [e]) = flowCalls log := by
  rw [flowCalls, List.filter_append, List.filter_cons_of_neg (by rw [he]; exact Bool.false_ne_true),
    List.filter_nil, List.append_nil]
  rfl

/-- The object of the session manager, with some of its methods. -/
def sessionObject (p : Ptr) (methods : List SessionMethod) : ServerObject where
  ptr := p
  name := ⟨rbusSmgrDestinationName, destinationName_fits.2⟩
  data := 0
  callback := 0
  processEventSubscriptions := false
  methods := methods.map fun method =>
    { name := ⟨method.name, sessionNames_fit method⟩, callback := .app method.callback, data := 0 }
  subscriptions := []
  subscribeHandlerOverride := none
  subscribeHandlerData := 0

/-- No request has been handled. -/
structure Untouched (w : World M W) : Prop where
  idle : Unoccupied w
  calls : flowCalls w.log = []

/-- The connection has no listener yet, and there are no objects. -/
structure Launched (w : World M W) : Prop where
  untouched : Untouched w
  connection : ∃ c, w.gConnection = some c ∧ c.listeners = []
  vector : w.gServerObjects = .live []

/-- The object is there with these methods, and its listener is the only one. -/
structure SetUp (p : Ptr) (methods : List SessionMethod) (w : World M W) : Prop where
  untouched : Untouched w
  connection : ∃ c, w.gConnection = some c ∧
    c.listeners = [(rbusSmgrDestinationName, .onMessage p)]
  vector : w.gServerObjects = .live [sessionObject p methods]

/-- Nothing listens. -/
structure Deaf (w : World M W) : Prop where
  untouched : Untouched w
  listeners : ∀ c, w.gConnection = some c → c.listeners = []

/-- What the registration of methods leaves alone. -/
structure SameSetting (w w' : World M W) : Prop where
  stackCounter : w'.stackCounter = w.stackCounter
  queue : w'.gQueuedRequests = w.gQueuedRequests
  connection : w'.gConnection = w.gConnection
  calls : flowCalls w'.log = flowCalls w.log

theorem Unoccupied.same
    {w' : World M W}
    (h : Unoccupied w)
    (hsame : SameSetting w w') :
    Unoccupied w' :=
  ⟨hsame.stackCounter.trans h.stackCounter, by rw [hsame.queue, h.queue]⟩

theorem Untouched.moved
    {w' : World M W}
    (h : Untouched w)
    (hstack : w'.stackCounter = w.stackCounter)
    (hqueue : w'.gQueuedRequests = w.gQueuedRequests)
    (hcalls : flowCalls w'.log = flowCalls w.log) :
    Untouched w' :=
  ⟨⟨hstack.trans h.idle.stackCounter, by rw [hqueue, h.idle.queue]⟩, hcalls.trans h.calls⟩

theorem Untouched.same
    {w' : World M W}
    (h : Untouched w)
    (hsame : SameSetting w w') :
    Untouched w' :=
  h.moved hsame.stackCounter hsame.queue hsame.calls

theorem Launched.same
    {w' : World M W}
    (h : Launched w)
    (hsame : SameSetting w w')
    (hvector : w'.gServerObjects = w.gServerObjects) :
    Launched w' :=
  ⟨h.untouched.same hsame, hsame.connection ▸ h.connection, hvector.trans h.vector⟩

theorem Deaf.same
    {w' : World M W}
    (h : Deaf w)
    (hsame : SameSetting w w') :
    Deaf w' :=
  ⟨h.untouched.same hsame, fun c hc => h.listeners c (hsame.connection ▸ hc)⟩

variable [MessageApi M W] {toDebugString : List UInt8 → M → M × DebugText}

theorem managing_of_same
    {P : World M W → Prop}
    (hsame : ∀ w w', SameSetting w w' → P w → P w') :
    Managing (sessionProcess toDebugString) fun _ => P where
  steady := fun _ =>
    { messages := fun w _ _ _ h => hsame w _ ⟨rfl, rfl, rfl, rfl⟩ h
      called := fun w e he h => by
        refine hsame w _ ⟨rfl, rfl, rfl, flowCalls_concat ?_⟩ h
        cases e <;> first | rfl | cases he
      fault := fun w _ _ h => hsame w _ ⟨rfl, rfl, rfl, flowCalls_concat rfl⟩ h
      env := fun _ _ _ _ henv h => henv.1 ▸ h
      atCall := fun _ _ _ _ => trivial
      atUndef := fun _ _ => trivial }
  locked := fun w h => hsame w _ ⟨rfl, rfl, rfl, flowCalls_concat rfl⟩ h
  unlocked := fun w h => hsame w _ ⟨rfl, rfl, rfl, flowCalls_concat rfl⟩ h
  unusable := fun _ w _ _ h => hsame w _ ⟨rfl, rfl, rfl, flowCalls_concat rfl⟩ h
  subscriptions := fun w _ h => hsame w _ ⟨rfl, rfl, rfl, flowCalls_concat rfl⟩ h
  records := fun w _ _ _ h => hsame w _ ⟨rfl, rfl, rfl, flowCalls_concat rfl⟩ h
  unusableObjects := fun _ w _ _ h => hsame w _ ⟨rfl, rfl, rfl, flowCalls_concat rfl⟩ h

/-- No connection has been made. -/
structure Unconnected (w : World M W) : Prop where
  untouched : Untouched w
  connection : w.gConnection = none

omit [MessageApi M W] in
theorem Unconnected.same
    {w' : World M W}
    (h : Unconnected w)
    (hsame : SameSetting w w') :
    Unconnected w' :=
  ⟨h.untouched.same hsame, hsame.connection.trans h.connection⟩

/-- Code that does not look at the connection. -/
theorem managing_unconnected :
    Managing (sessionProcess toDebugString) fun _ => (Unconnected : World M W → Prop) :=
  managing_of_same fun _ _ hsame h => h.same hsame

/-- The tables are there, and empty. -/
structure Initialized (w : World M W) : Prop
    extends Unconnected w where
  objects : w.gServerObjects = .live []
  subscriptions : w.gEventSubscriptionsForClient = .live []

/-- Tables that are empty are cleaned up without a call. -/
theorem sat_performCleanup_empty
    (h : Initialized w) :
    Program.Sat (sessionProcess toDebugString) performCleanup (fun _ => Unconnected) w := by
  simp [performCleanup, cleanupLocked, destroyServerObjects, serverObjects, cancelSubscriptions,
    destroyClientSubscriptions, clientSubscriptions, accessVector, h.objects, h.subscriptions]
  refine h.toUnconnected.same ⟨rfl, rfl, rfl, ?_⟩
  simp [flowCalls, Event.isFlowCall]

/-- A connection is made, or it is not. -/
theorem sat_connectionCreate_initialized
    (name address : CString)
    (h : Initialized w) :
    Program.Sat (sessionProcess toDebugString) (rtConnectionCreate name address)
      (fun result w' => (result = .rtOk → Launched w') ∧ (result ≠ .rtOk → Initialized w')) w := by
  rw [rtConnectionCreate, Program.sat_bind, sat_call]
  refine ⟨trivial, ?_⟩
  rintro result _ ⟨rfl, hresult⟩
  cases result with
  | ok returnAddress =>
      refine ⟨fun _ => ⟨?_, ⟨_, rfl, rfl⟩, h.objects⟩, fun hne => absurd rfl hne⟩
      exact h.untouched.moved rfl rfl (flowCalls_concat rfl)
  | error err =>
      refine ⟨fun hok => absurd (congrArg Except.error hok) hresult, fun _ => ?_⟩
      exact ⟨h.toUnconnected.same ⟨rfl, rfl, rfl, flowCalls_concat rfl⟩, h.objects,
        h.subscriptions⟩

/-- A connection is opened, or it is as before. -/
theorem sat_open_launched
    (h : Unconnected w) :
    Program.Sat (sessionProcess toDebugString)
      (rbusOpenBrokerConnection (some rbusSmgrDestinationName))
      (fun ret w' => (ret = .success → Launched w') ∧ (ret ≠ .success → Unconnected w')) w := by
  have hsteady : Steady (sessionProcess toDebugString) (Unconnected : World M W → Prop) :=
    managing_unconnected.steady false
  rw [rbusOpenBrokerConnection, rbusOpenBrokerConnection2]
  refine (keeps_initMutex (fun _ h => h.same ⟨rfl, rfl, rfl, rfl⟩) w h).bind fun _ w₁ h₁ => ?_
  refine (leads_lock managing_unconnected.exclusive w₁ h₁).bind fun _ w₂ h₂ => ?_
  have habsent : ¬w₂.gConnection.isSome = true := by
    rw [h₂.connection]
    exact Bool.false_ne_true
  rw [Program.sat_bind, Program.sat_getState, if_neg habsent, openNewConnection]
  refine (keeps_routerConfig hsteady (fun _ _ h => h.same ⟨rfl, rfl, rfl, rfl⟩) none _ h₂).bind
    fun address w₃ h₃ => ?_
  rw [Program.sat_ite]
  split
  · exact trivial
  refine Program.Sat.bind (P := fun _ => Initialized)
    ⟨h₃.same ⟨rfl, rfl, rfl, flowCalls_concat rfl⟩, rfl, rfl⟩ fun _ w₄ h₄ => ?_
  refine (sat_connectionCreate_initialized _ address h₄).bind ?_
  rintro result w₅ ⟨hmade, hrefused⟩
  rw [Program.sat_ite]
  split
  case isTrue hresult =>
    have h₅ := hrefused hresult
    refine Program.Sat.bind (P := fun _ => Initialized)
      ⟨⟨h₅.untouched.same ⟨rfl, rfl, h₅.connection.symm, rfl⟩, rfl⟩, h₅.objects, h₅.subscriptions⟩
      fun _ w₆ h₆ => ?_
    refine (sat_performCleanup_empty h₆).bind fun _ w₇ h₇ => ?_
    exact ⟨fun hret => absurd hret RbusError.noConfusion,
      fun _ => h₇.same ⟨rfl, rfl, rfl, flowCalls_concat rfl⟩⟩
  case isFalse hresult =>
    have h₅ := hmade (not_not.mp hresult)
    exact ⟨fun _ => h₅.same ⟨rfl, rfl, rfl, flowCalls_concat rfl⟩ rfl,
      fun hret => absurd rfl hret⟩

/-- There is a connection when the loop has come to its end. -/
theorem sat_connectSessionManager
    (rounds : Nat)
    (h : Unconnected w) :
    Program.Sat (sessionProcess toDebugString) (connectSessionManager rounds)
      (fun _ => Launched) w := by
  induction rounds generalizing w with
  | zero =>
      refine ⟨trivial, ?_⟩
      rintro ⟨⟩
  | succ rounds ih =>
      refine (sat_open_launched h).bind ?_
      rintro ret w₁ ⟨hlaunched, hclosed⟩
      rw [Program.sat_ite]
      split
      case isTrue hret =>
        exact hlaunched hret
      case isFalse hret =>
        exact ih (hclosed hret)

/-- The object is made, without methods. -/
theorem sat_serverObjectCreate_launched
    (h : Launched w) :
    Program.Sat (sessionProcess toDebugString) (serverObjectCreate rbusSmgrDestinationName 0 0)
      (fun o w' => o = sessionObject o.ptr [] ∧ Launched w') w := by
  rw [serverObjectCreate, Program.sat_bind, sat_rtMalloc, strcpy_of_lt destinationName_fits.2]
  exact ⟨rfl, h.same ⟨rfl, rfl, rfl, rfl⟩ rfl⟩

/-- The listener is added, or it is not. -/
theorem sat_addListener_launched
    (p : Ptr)
    (h : Launched w) :
    Program.Sat (sessionProcess toDebugString)
      (rtConnectionAddListener rbusSmgrDestinationName (.onMessage p))
      (fun err w' => (err ≠ .rtOk → Deaf w') ∧
        (err = .rtOk → Untouched w' ∧ w'.gServerObjects = .live [] ∧
          ∃ c, w'.gConnection = some c ∧
            c.listeners = [(rbusSmgrDestinationName, .onMessage p)])) w := by
  obtain ⟨huntouched, ⟨c, hc, hlisteners⟩, hvector⟩ := h
  rw [rtConnectionAddListener, Program.sat_bind, sat_gConnectionPtr, Program.sat_bind, sat_call]
  refine ⟨trivial, ?_⟩
  rintro err _ ⟨rfl, -⟩
  rw [Program.sat_ite]
  split
  case isTrue hok =>
    refine ⟨fun hne => absurd hok hne, fun _ =>
      ⟨huntouched.moved rfl rfl (flowCalls_concat rfl), hvector, ?_⟩⟩
    refine ⟨{ c with listeners := c.listeners ++ [(rbusSmgrDestinationName, .onMessage p)] },
      ?_, ?_⟩
    · exact congrArg (Option.map _) hc
    · rw [hlisteners]
      rfl
  case isFalse hok =>
    refine ⟨fun _ => ⟨huntouched.moved rfl rfl (flowCalls_concat rfl), fun c' hc' => ?_⟩,
      fun hret => absurd hret hok⟩
    obtain rfl := Option.some.inj (hc.symm.trans hc')
    exact hlisteners

/-- The object is registered with its listener, or there is no listener. -/
theorem sat_registerObj_launched
    (h : Launched w) :
    Program.Sat (sessionProcess toDebugString) (rbusRegisterObj (some rbusSmgrDestinationName) 0 0)
      (fun _ w' => Deaf w' ∨ ∃ p, SetUp p [] w') w := by
  obtain ⟨c, hc, -⟩ := h.connection
  have hconnected : ¬w.gConnection.isNone = true := by
    rw [hc]
    exact Bool.false_ne_true
  have hlegal : ¬objectNameLengthInvalid rbusSmgrDestinationName = true := by
    decide
  rw [rbusRegisterObj, Program.sat_bind, Program.sat_getState, if_neg hconnected]
  dsimp only
  rw [if_neg hlegal]
  refine Program.Sat.bind (P := fun _ => Launched)
    (h.same ⟨rfl, rfl, rfl, flowCalls_concat rfl⟩ rfl) fun _ w₁ h₁ => ?_
  rw [Program.sat_bind, sat_serverObjects h₁.vector, find_object, KeyedList.lookup_nil]
  refine Program.Sat.bind (P := fun _ => Launched)
    (h₁.same ⟨rfl, rfl, rfl, flowCalls_concat rfl⟩ rfl) fun _ w₂ h₂ => ?_
  rw [Program.sat_ite]
  split
  case isTrue hfound =>
    cases hfound
  refine (sat_serverObjectCreate_launched h₂).bind ?_
  rintro o w₃ ⟨ho, h₃⟩
  refine (sat_addListener_launched o.ptr h₃).bind ?_
  rintro err w₄ ⟨hrefused, hadded⟩
  rw [Program.sat_ite]
  split
  case isFalse hok =>
    exact Or.inl (hrefused hok)
  case isTrue hok =>
    obtain ⟨huntouched, hvector, hconnection⟩ := hadded hok
    refine Program.Sat.bind (P := fun _ w' => Untouched w' ∧ w'.gServerObjects = .live [] ∧
        ∃ c, w'.gConnection = some c ∧
          c.listeners = [(rbusSmgrDestinationName, .onMessage o.ptr)])
      ⟨huntouched.moved rfl rfl (flowCalls_concat rfl), hvector, hconnection⟩ ?_
    rintro _ w₅ ⟨huntouched₅, hvector₅, hconnection₅⟩
    rw [Program.sat_bind, sat_serverObjects hvector₅, Program.sat_bind, sat_updateServerObjects,
      hvector₅]
    refine Or.inr ⟨o.ptr, huntouched₅.moved rfl rfl ?_, hconnection₅, ?_⟩
    · exact (flowCalls_concat rfl).trans (flowCalls_concat rfl)
    · rw [← ho]
      rfl

/-- One of the methods is registered. -/
theorem sat_registerMethod_setUp
    {p : Ptr} {methods : List SessionMethod} {method : SessionMethod}
    (h : SetUp p methods w)
    (hfew : methods.length < maxSupportedMethods)
    (hnew : ∀ earlier ∈ methods, earlier.name ≠ method.name) :
    Program.Sat (sessionProcess toDebugString)
      (rbusRegisterMethod (some rbusSmgrDestinationName) (some method.name)
        (.app method.callback) 0)
      (fun ret w' => ret = .success ∧ SetUp p (methods ++ [method]) w') w := by
  let o : ServerObject := sessionObject p methods
  let m : ServerMethod :=
    { name := ⟨method.name, sessionNames_fit method⟩, callback := .app method.callback, data := 0 }
  have hself : Replaces [o] o o := by
    refine ⟨List.nodup_singleton _, ?_, rfl, rfl⟩
    rw [KeyedList.lookup_cons, if_pos rfl]
  have hw : Holding [o] w o w := by
    refine ⟨?_, rfl, rfl⟩
    rw [replaced_self hself.addresses hself.found]
    exact h.vector
  have hfree : KeyedList.lookup ServerMethod.key m.key o.methods = none := by
    refine KeyedList.lookup_eq_none_iff.mpr fun x hx => ?_
    obtain ⟨earlier, hearlier, rfl⟩ := List.mem_map.mp hx
    exact hnew earlier hearlier
  have hroom : ¬maxSupportedMethods ≤ o.methods.length := by
    rw [Nat.not_le]
    exact (List.length_map _).trans_lt hfew
  have hunknown : ¬(o.method? m.key).isSome = true := by
    rw [ServerObject.method?_eq_lookup, hfree]
    exact Bool.false_ne_true
  have hregisters : o.registerMethod m = (.success, sessionObject p (methods ++ [method])) := by
    rw [ServerObject.registerMethod, if_neg hroom, if_neg hunknown, sessionObject, List.map_append]
    rfl
  have hkeeps : Program.Keeps (sessionProcess toDebugString) (Untouched : World M W → Prop)
      (rbusRegisterMethod (some rbusSmgrDestinationName) (some method.name)
        (.app method.callback) 0) :=
    (managing_of_same fun _ _ hsame h => h.same hsame).keeps_rbusRegisterMethod _ _ _ _
  refine ((sat_rbusRegisterMethod_replaced hself hw m).and (hkeeps w h.untouched)).mono ?_
  rintro ret w' ⟨⟨hret, hw'⟩, huntouched'⟩
  rw [hregisters] at hret hw'
  refine ⟨hret, huntouched', hw'.connection ▸ h.connection, ?_⟩
  rw [hw'.vector]
  exact congrArg (fun x => RtVector.live [x]) (if_pos rfl)

/-- The methods are registered one after another. -/
theorem sat_registerMethodTable_setUp
    {p : Ptr} {methods rest : List SessionMethod}
    (h : SetUp p methods w)
    (hfew : (methods ++ rest).length ≤ maxSupportedMethods)
    (hnames : (methods ++ rest).Pairwise fun earlier method => earlier.name ≠ method.name) :
    Program.Sat (sessionProcess toDebugString)
      (rbusRegisterMethodTable (some rbusSmgrDestinationName)
        (methodTable (rest.map SessionMethod.entry)))
      (fun _ => SetUp p (methods ++ rest)) w := by
  induction rest generalizing methods w with
  | nil =>
      rw [List.append_nil]
      exact h
  | cons method rest ih =>
      rw [List.append_cons] at hfew hnames ⊢
      have hnew := (List.pairwise_append.mp (List.pairwise_append.mp hnames).1).2.2
      rw [List.length_append] at hfew
      refine (sat_registerMethod_setUp h ?_ fun earlier hearlier =>
        hnew earlier hearlier method List.mem_cons_self).bind ?_
      · have hmore : (methods ++ [method]).length = methods.length + 1 := List.length_append
        omega
      rintro _ w₁ ⟨rfl, h₁⟩
      rw [if_neg (not_not.mpr rfl)]
      exact ih h₁ (by rwa [List.length_append]) hnames

/-- `main` gets as far as `pause` with the object and its methods, or without a listener. -/
theorem sat_sessionManagerMain
    (rounds : Nat)
    (h : Unconnected w) :
    Program.Sat (sessionProcess toDebugString) (sessionManagerMain rounds)
      (fun _ w' => Deaf w' ∨ ∃ p, SetUp p sessionMethods w') w := by
  refine (sat_connectSessionManager rounds h).bind fun _ w₁ h₁ => ?_
  refine (sat_registerObj_launched h₁).bind fun _ w₂ h₂ => ?_
  rcases h₂ with hdeaf | ⟨p, hsetUp⟩
  · have hmanaging : Managing (sessionProcess toDebugString) fun _ => (Deaf : World M W → Prop) :=
      managing_of_same fun _ _ hsame h => h.same hsame
    refine Program.Sat.bind (P := fun _ => Deaf) ?_ fun _ w₃ h₃ => Or.inl h₃
    exact keeps_rbusRegisterMethodTable (I := fun _ => Deaf) _ _
      (fun entry _ => hmanaging.keeps_rbusRegisterMethod _ _ _ _) w₂ hdeaf
  · refine Program.Sat.bind (P := fun _ => SetUp p sessionMethods) ?_ fun _ w₃ h₃ =>
      Or.inr ⟨p, h₃⟩
    exact sat_registerMethodTable_setUp hsetUp (by decide) (by decide)

end Setup

section Attending

variable {M W : Type} {w : World M W}

/-- The objects, the connection, and what has been called and sent for requests. -/
structure Attending
    (objects : RtVector ServerObject) (con : Option Connection) (calls : List (Event M W))
    (w : World M W) : Prop where
  vector : w.gServerObjects = objects
  connection : w.gConnection = con
  calls : flowCalls w.log = calls

/-- The methods have answered whatever they have been called with. -/
def AllAnswered [MessageApi M W] (calls : List (Event M W)) : Prop :=
  (SessionManager.after (sessionRequests calls)).isSome = true

variable {objects : RtVector ServerObject} {con : Option Connection} {calls : List (Event M W)}

theorem sessionRequests_append
    (log log' : List (Event M W)) :
    sessionRequests (log ++ log') = sessionRequests log ++ sessionRequests log' :=
  List.filterMap_append

/-- The requests are among the calls for requests. -/
theorem sessionRequests_flowCalls
    (log : List (Event M W)) :
    sessionRequests (flowCalls log) = sessionRequests log := by
  rw [sessionRequests, flowCalls, List.filterMap_filter, sessionRequests]
  congr 1
  funext e
  cases e with
  | call e =>
      cases e <;> rfl
  | _ =>
      rfl

theorem answered_flowCalls
    [MessageApi M W] {log : List (Event M W)} :
    AllAnswered (flowCalls log) ↔ AllAnswered log := by
  rw [AllAnswered, sessionRequests_flowCalls, AllAnswered]

theorem Untouched.answered
    [MessageApi M W] (h : Untouched w) :
    AllAnswered w.log := by
  rw [← answered_flowCalls, h.calls]
  rfl

/-- Something that is no such call is entered into the history. -/
theorem Attending.entry
    {w' : World M W} {e : Event M W}
    (h : Attending objects con calls w)
    (hflow : e.isFlowCall = false)
    (hvector : w'.gServerObjects = w.gServerObjects)
    (hconnection : w'.gConnection = w.gConnection)
    (hlog : w'.log = w.log ++ [e]) :
    Attending objects con calls w' := by
  refine ⟨hvector.trans h.vector, hconnection.trans h.connection, ?_⟩
  rw [hlog, flowCalls_concat hflow]
  exact h.calls

/-- A call for a request is entered. -/
theorem Attending.flowCall
    {e : Call M W}
    (h : Attending objects con calls w)
    (hflow : e.isFlow = true) :
    Attending objects con (calls ++ [.call e]) { w with log := w.log ++ [.call e] } := by
  refine ⟨h.vector, h.connection, ?_⟩
  have hevent : (Event.call e).isFlowCall = true := hflow
  rw [flowCalls, List.filter_append, List.filter_cons_of_pos hevent, List.filter_nil]
  exact congrArg (· ++ [Event.call e]) h.calls

variable [MessageApi M W] {toDebugString : List UInt8 → M → M × DebugText}

theorem steady_attending :
    Steady (sessionProcess toDebugString) (Attending objects con calls : World M W → Prop) where
  messages := fun _ _ _ _ h => ⟨h.vector, h.connection, h.calls⟩
  called := fun _ e he h => by
    refine h.entry (e := .call e) ?_ rfl rfl rfl
    cases e <;> first | rfl | cases he
  fault := fun _ f _ h => h.entry (e := .fault f) rfl rfl rfl rfl
  env := fun _ _ _ _ henv h => henv.1 ▸ h
  atCall := fun _ _ _ _ => trivial
  atUndef := fun _ _ => trivial

theorem keeps_lock_attending :
    Program.Keeps (sessionProcess toDebugString)
      (Attending objects con calls : World M W → Prop) lock :=
  fun w h => h.entry (e := .lock w.mutexOwned) rfl rfl rfl rfl

theorem keeps_unlock_attending :
    Program.Keeps (sessionProcess toDebugString)
      (Attending objects con calls : World M W → Prop) unlock :=
  fun w h => h.entry (e := .unlock w.mutexOwned) rfl rfl rfl rfl

/-- A response is sent, unless the message asks for none. -/
theorem sat_rbusSendResponse_attending
    (h : Attending objects con calls w)
    (hdr : RtMessageHeader) (response : Option (MessageRef M)) :
    Program.Sat (sessionProcess toDebugString) (rbusSendResponse hdr response)
      (fun _ w' => ∃ new, Attending objects con (calls ++ new) w' ∧ sessionRequests new = [])
      w := by
  rw [rbusSendResponse, Program.sat_ite]
  split
  · refine (keeps_responseOrUnsupported steady_attending response w h).bind fun response w₁ h₁ => ?_
    refine (keeps_setMessageMethod steady_attending _ _ w₁ h₁).bind fun response w₂ h₂ => ?_
    rw [Program.sat_bind, sat_gConnectionPtr, Program.sat_bind, sat_call]
    refine ⟨trivial, ?_⟩
    rintro err _ ⟨rfl, -⟩
    refine (keeps_rbusMessageRelease steady_attending response _ (h₂.flowCall rfl)).bind ?_
    exact fun _ w₃ h₃ => ⟨_, h₃, rfl⟩
  · refine ⟨[], ?_, rfl⟩
    rw [List.append_nil]
    exact h

/-- What a callback stores becomes a message of the library. -/
theorem sat_newMessageUnlessNull_attending
    (h : Attending objects con calls w)
    (message : Option M) :
    Program.Sat (sessionProcess toDebugString) (newMessageUnlessNull message)
      (fun r w' => Attending objects con calls w' ∧ r.map MessageRef.val = message) w := by
  cases message with
  | none =>
      exact ⟨h, rfl⟩
  | some message =>
      exact ⟨⟨h.vector, h.connection, h.calls⟩, rfl⟩

/-- A callback of the process answers, and what it answers becomes a message. -/
theorem sat_appMethodCallback_attending
    (h : Attending objects con calls w)
    (id : Nat) (topic : CString) (name : Option (List UInt8)) (request : M) (data : Ptr)
    (hdr : RtMessageHeader) :
    Program.Sat (sessionProcess toDebugString) (appMethodCallback id topic name request data hdr)
      (fun r w' =>
        Attending objects con (calls ++ [.call (.methodCallback id topic name request data hdr)])
            w' ∧
          ∃ result : HandlerResult M, r.2.map MessageRef.val = result.response ∧
            ∀ method, SessionMethod.ofCallback? id = some method →
              sessionAnswer (calls ++ [.call (.methodCallback id topic name request data hdr)])
                { hdr := hdr, method := method, request := request } = some result) w := by
  have hcalled := h.flowCall (e := .methodCallback id topic name request data hdr) rfl
  rw [appMethodCallback, Program.sat_bind, sat_call]
  refine ⟨trivial, ?_⟩
  rintro (result : HandlerResult M) _ ⟨rfl, hanswer⟩
  have hmethod (method : SessionMethod) (hid : SessionMethod.ofCallback? id = some method) :
      sessionAnswer (calls ++ [.call (.methodCallback id topic name request data hdr)])
        { hdr := hdr, method := method, request := request } = some result := by
    dsimp only [Call.sessionRequest?] at hanswer
    rw [hid, Option.map_some] at hanswer
    rw [← hcalled.calls, sessionAnswer, sessionRequests_flowCalls]
    exact hanswer
  refine (sat_newMessageUnlessNull_attending hcalled result.response).bind ?_
  rintro response w₁ ⟨h₁, hresponse⟩
  exact ⟨h₁, result, hresponse, hmethod⟩

omit [MessageApi M W] in
theorem sessionRequest?_callback
    (method : SessionMethod) (topic : CString) (name : Option (List UInt8)) (request : M)
    (data : Ptr) (hdr : RtMessageHeader) :
    (Call.methodCallback (W := W) method.callback topic name request data hdr).sessionRequest? =
      some { hdr := hdr, method := method, request := request } := by
  rw [Call.sessionRequest?, SessionMethod.ofCallback?_callback, Option.map_some]

omit [MessageApi M W] in
theorem sessionRequests_concat
    {r : SessionRequest M} {e : Call M W}
    (hrequest : e.sessionRequest? = some r) :
    sessionRequests (calls ++ [.call e]) = sessionRequests calls ++ [r] := by
  rw [sessionRequests_append]
  congr 1
  rw [sessionRequests, List.filterMap_cons]
  simp only [hrequest, List.filterMap_nil]

/-- A request for a method has been answered. -/
theorem sessionAnswer_concat
    {r : SessionRequest M} {result : HandlerResult M} {e : Call M W}
    (hrequest : e.sessionRequest? = some r)
    (hanswer : sessionAnswer (calls ++ [.call e]) r = some result) :
    ∃ history s s', SessionManager.after (sessionRequests calls) = some (history, s) ∧
      r.handle s = some (result, s') ∧
      SessionManager.after (sessionRequests (calls ++ [.call e])) =
        some (history ++ [(r, result)], s') := by
  rw [sessionAnswer, sessionRequests_concat hrequest, List.dropLast_concat] at hanswer
  obtain ⟨⟨history, s⟩, hafter, hstep⟩ := Option.bind_eq_some_iff.mp hanswer
  obtain ⟨⟨_, s'⟩, hhandle, rfl⟩ := Option.map_eq_some_iff.mp hstep
  refine ⟨history, s, s', hafter, hhandle, ?_⟩
  rw [sessionRequests_concat hrequest]
  exact SessionManager.after_concat hafter hhandle

end Attending

section Arrivals

variable {M W : Type} [MessageApi M W] {w : World M W}
variable {toDebugString : List UInt8 → M → M × DebugText}
variable {p : Ptr} {con : Option Connection} {calls : List (Event M W)}

theorem mem_of_findAt?
    {α : Type} {n : Nat} {name : α → CString} {key : List UInt8} {xs : List α} {x : α}
    (h : findAt? n name key xs = some (some x)) :
    x ∈ xs := by
  induction xs with
  | nil =>
      cases h
  | cons y xs ih =>
      rw [findAt?] at h
      split at h
      · cases h
      · split at h
        · obtain rfl := Option.some.inj (Option.some.inj h)
          exact List.mem_cons_self
        · exact List.mem_cons_of_mem _ (ih h)

/-- A method that is found is one of the methods of the object. -/
theorem sat_findMethod_mem
    (object : ServerObject) (name : Option (List UInt8)) :
    Program.Sat (sessionProcess toDebugString) (findMethod (M := M) (W := W) object name)
      (fun found w' => w' = w ∧ ∀ m ∈ found, m ∈ object.methods) w := by
  cases name with
  | none =>
      refine ⟨rfl, ?_⟩
      rintro m ⟨⟩
  | some key =>
      rw [findMethod, rtVectorFindAt]
      cases hfound : findAt? maxMethodNameLength (fun m => m.name.val) key object.methods with
      | none =>
          exact trivial
      | some found =>
          refine ⟨rfl, fun m hm => ?_⟩
          obtain rfl := Option.mem_def.mp hm
          exact mem_of_findAt? hfound

omit [MessageApi M W] in
/-- The object is in place. -/
theorem Attending.derefObject
    (h : Attending (.live [sessionObject p sessionMethods]) con calls w) :
    RbusCore.derefObject p w = .done (sessionObject p sessionMethods) w := by
  refine derefObject_of_find (o := sessionObject p sessionMethods) ?_
  rw [h.vector]
  exact List.find?_cons_of_pos (decide_eq_true rfl)

/-- Nothing is handled besides. -/
theorem AllAnswered.append
    {new : List (Event M W)}
    (h : AllAnswered calls)
    (hnew : sessionRequests new = []) :
    AllAnswered (calls ++ new) := by
  rw [AllAnswered, sessionRequests_append, hnew, List.append_nil]
  exact h

/-- Whatever the message is: it gets to one of the methods or to the default callback. -/
theorem sat_dispatchMethodCall_attending
    (h : Attending (.live [sessionObject p sessionMethods]) con calls w)
    (hanswered : AllAnswered calls)
    (msg : MessageRef M) (hdr : RtMessageHeader) :
    Program.Sat (sessionProcess toDebugString) (dispatchMethodCall msg hdr p)
      (fun _ w' => ∃ calls', Attending (.live [sessionObject p sessionMethods]) con calls' w' ∧
        AllAnswered calls') w := by
  refine (keeps_derefMessage steady_attending.toCalling msg w h).bind fun m w₁ h₁ => ?_
  refine (keeps_lock_attending w₁ h₁).bind fun _ w₂ h₂ => ?_
  rw [Program.sat_bind, Program.sat_of_done h₂.derefObject]
  refine (sat_findMethod_mem _ _).bind ?_
  rintro found _ ⟨rfl, hfound⟩
  refine (keeps_unlock_attending _ h₂).bind fun _ w₃ h₃ => ?_
  cases found with
  | none =>
      rw [dispatchTo, dispatchToObject, Program.sat_bind, Program.sat_of_done h₃.derefObject]
      refine (sat_appMethodCallback_attending h₃ _ _ _ _ _ _).bind ?_
      rintro result w₄ ⟨h₄, -⟩
      -- The default callback is none of the methods.
      rw [Program.sat_ite]
      split
      · exact ⟨_, h₄, hanswered.append rfl⟩
      · refine (sat_rbusSendResponse_attending h₄ _ _).bind ?_
        rintro _ w₅ ⟨new, h₅, hnew⟩
        exact ⟨_, h₅, (hanswered.append rfl).append hnew⟩
  | some method =>
      obtain ⟨method, -, rfl⟩ := List.mem_map.mp (hfound method rfl)
      rw [dispatchTo, dispatchToMethod, invokeMethodCallback]
      refine (sat_appMethodCallback_attending h₃ _ _ _ _ _ _).bind ?_
      rintro response w₄ ⟨h₄, result, -, hanswer⟩
      have hcallback := SessionMethod.ofCallback?_callback method
      obtain ⟨_, _, _, -, -, hafter⟩ :=
        sessionAnswer_concat (sessionRequest?_callback _ _ _ _ _ _) (hanswer method hcallback)
      refine (sat_rbusSendResponse_attending h₄ _ _).bind ?_
      rintro _ w₅ ⟨new, h₅, hnew⟩
      exact ⟨_, h₅, AllAnswered.append (Option.isSome_of_eq_some hafter) hnew⟩

omit [MessageApi M W] in
/-- A message is about to be dispatched. -/
theorem Attending.dispatching
    {objects : RtVector ServerObject}
    (h : Attending objects con calls w)
    (hdr : RtMessageHeader) (msg : M) (p : Ptr) :
    Attending objects con calls (w.dispatching hdr msg p) := by
  have hdelivered : Attending objects con calls
      { w with
        nextPtr := w.nextPtr + 1
        refCount := Function.update w.refCount w.nextPtr 1
        log := w.log ++ [.deliver w.stackCounter hdr msg p] } :=
    h.entry (e := .deliver w.stackCounter hdr msg p) rfl rfl rfl rfl
  exact hdelivered.entry (e := .dispatch hdr msg p) rfl rfl rfl rfl

omit [MessageApi M W] in
theorem dispatching_live
    (w : World M W) (hdr : RtMessageHeader) (msg : M) (p : Ptr) :
    (w.dispatching hdr msg p).refCount w.nextPtr ≠ 0 := by
  show Function.update w.refCount w.nextPtr 1 w.nextPtr ≠ 0
  rw [Function.update_self]
  exact Nat.one_ne_zero

/-- A message that arrives while no other is handled. -/
theorem sat_onMessage_attending
    {P : List (Event M W) → Prop} {data : W}
    (hidle : Unoccupied w)
    (h : Attending (.live [sessionObject p sessionMethods]) con calls w)
    (hdr : RtMessageHeader)
    (hdispatch : ∀ w', Attending (.live [sessionObject p sessionMethods]) con calls w' →
      w'.refCount w.nextPtr ≠ 0 →
      Program.Sat (sessionProcess toDebugString)
        (dispatchMethodCall ⟨w.nextPtr, MessageApi.fromBytes data⟩ hdr p)
        (fun _ w'' => ∃ calls',
          Attending (.live [sessionObject p sessionMethods]) con calls' w'' ∧ P calls') w')
    (rounds : Nat) :
    Program.Sat (sessionProcess toDebugString) (onMessage (M := M) rounds hdr data p)
      (fun _ w' => Unoccupied w' ∧ ∃ calls',
        Attending (.live [sessionObject p sessionMethods]) con calls' w' ∧ P calls') w := by
  let msg : M := MessageApi.fromBytes data
  have hbusy : Occupied (w.dispatching hdr msg p) :=
    ⟨congrArg (· + 1) hidle.stackCounter, hidle.queue⟩
  have hoccupied := (keeps_dispatchMethodCall serving_occupied ⟨w.nextPtr, msg⟩ hdr p _
    hbusy).weaken (fun _ _ _ _ (henv : (sessionProcess toDebugString).env _ _ _ _) => henv.1)
      (fun _ _ _ => trivial) fun _ _ => trivial
  refine sat_onMessage_unoccupied hidle
    ((hdispatch _ (h.dispatching hdr msg p) (dispatching_live w hdr msg p)).and hoccupied) ?_ rounds
  rintro w' ⟨calls', h', hP⟩ hbusy'
  have hidle' : Unoccupied w'.dispatched :=
    ⟨congrArg (· - 1) hbusy'.stackCounter, hbusy'.queue⟩
  have hdispatched : Attending (.live [sessionObject p sessionMethods]) con calls' w'.dispatched :=
    h'.entry (e := .dispatched) rfl rfl rfl rfl
  have hmanaging :
      Managing (sessionProcess toDebugString) fun _ => (Unoccupied : World M W → Prop) :=
    managing_of_same fun _ _ hsame h => h.same hsame
  refine ((keeps_rbusMessageRelease (hmanaging.steady false) _ _ hidle').and
    (keeps_rbusMessageRelease steady_attending _ _ hdispatched)).mono ?_
  exact fun _ w'' h'' => ⟨h''.1, calls', h''.2, hP⟩

end Arrivals

section Runs

variable {M W : Type} [MessageApi M W] {w w' : World M W}
variable {toDebugString : List UInt8 → M → M × DebugText}

/-- Messages for a name get to this closure. -/
def ListensAt (name : CString) (p : Ptr) (w : World M W) : Prop :=
  ∃ c, w.gConnection = some c ∧ (name, ListenerCallback.onMessage p) ∈ c.listeners

/-- Runs of the process: it is started, and messages arrive, with any bytes.  What arrives is
handled to the end, also where it gets to `callback`. -/
inductive ServiceRun (toDebugString : List UInt8 → M → M × DebugText) : World M W → Prop
  | started {rounds : Nat} {daemonAddress advisoryTopic : CString} {w : World M W}
      (hmain : Program.Returns (answering toDebugString) (sessionManagerMain rounds)
        (World.initial daemonAddress advisoryTopic) () w) :
      ServiceRun toDebugString w
  | arrives {rounds : Nat} {hdr : RtMessageHeader} {data : W} {name : CString} {p : Ptr}
      {w w' : World M W}
      (h : ServiceRun toDebugString w)
      (hlistens : ListensAt name p w)
      (hrun : Program.Returns (answering toDebugString)
        (onMessage (M := M) rounds hdr data p) w () w') :
      ServiceRun toDebugString w'

/-- The process between two messages. -/
structure InService (w : World M W) : Prop where
  idle : Unoccupied w
  object : ∀ name p, ListensAt name p w →
    w.gServerObjects = .live [sessionObject p sessionMethods]
  answered : AllAnswered w.log

theorem ServiceRun.inService
    (h : ServiceRun toDebugString w) :
    InService w := by
  induction h with
  | started hmain =>
      rename_i rounds daemonAddress advisoryTopic w
      have hinitial : Unconnected (World.initial daemonAddress advisoryTopic : World M W) :=
        ⟨⟨⟨rfl, rfl⟩, rfl⟩, rfl⟩
      have hready := Program.returns_of_sat (C := sessionProcess toDebugString)
        (fun _ _ _ _ henv => henv) (sat_sessionManagerMain rounds hinitial) hmain
      rcases hready with hdeaf | ⟨p, hsetUp⟩
      · refine ⟨hdeaf.untouched.idle, ?_, hdeaf.untouched.answered⟩
        rintro name p ⟨c, hc, hmem⟩
        rw [hdeaf.listeners c hc] at hmem
        cases hmem
      · refine ⟨hsetUp.untouched.idle, ?_, hsetUp.untouched.answered⟩
        rintro name q ⟨c, hc, hmem⟩
        obtain ⟨c', hc', hlisteners⟩ := hsetUp.connection
        obtain rfl := Option.some.inj (hc.symm.trans hc')
        rw [hlisteners, List.mem_singleton] at hmem
        obtain rfl := ListenerCallback.onMessage.inj (Prod.mk.inj hmem).2
        exact hsetUp.vector
  | arrives h hlistens hrun ih =>
      rename_i rounds hdr data name p w w'
      have hattending : Attending (.live [sessionObject p sessionMethods]) w.gConnection
          (flowCalls w.log) w := ⟨ih.object name p hlistens, rfl, rfl⟩
      have hanswered := answered_flowCalls.mpr ih.answered
      have hafter := Program.returns_of_sat (C := sessionProcess toDebugString)
        (fun _ _ _ _ henv => henv)
        (sat_onMessage_attending (P := AllAnswered) ih.idle hattending hdr
          (fun w₁ h₁ _ => sat_dispatchMethodCall_attending h₁ hanswered _ hdr) rounds) hrun
      obtain ⟨hidle, calls', hattending', hanswered'⟩ := hafter
      refine ⟨hidle, ?_, answered_flowCalls.mp (hattending'.calls ▸ hanswered')⟩
      rintro name' q ⟨c, hc, hmem⟩
      have hlistens' : ListensAt name' q w := ⟨c, hattending'.connection ▸ hc, hmem⟩
      exact hattending'.vector.trans ((ih.object name p hlistens).symm.trans
        (ih.object name' q hlistens'))

end Runs

end RbusCore
