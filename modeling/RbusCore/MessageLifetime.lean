import RbusCore.MessageOwnership
import RbusCore.RequestQueue
import RbusCore.TableLifecycle

/-!
# The lifetime of a request's message

Here the queue of requests has been created.  A request that arrives while another one is
handled is put into it, and its message is released at once: it is freed before the queue is
consumed.

**Results.**
* `interrupted_interferes`: what nested activities do to the queue and to messages.
* `sat_onMessage_idle`: the handling of a request that finds nothing else going on.
* `dispatched_alive_iff`: queued requests keep their messages as long as there are none.
-/

namespace RbusCore

open CStrings Resumption

section Growth

variable {M W : Type}

/-- No message of before has been changed. -/
structure Spared (w w' : World M W) : Prop where
  nextPtr : w.nextPtr ≤ w'.nextPtr
  refCount : ∀ p < w.nextPtr, w'.refCount p = w.refCount p

theorem Spared.of_eq
    {w w' : World M W}
    (hptr : w'.nextPtr = w.nextPtr)
    (hcount : w'.refCount = w.refCount) :
    Spared w w' :=
  ⟨hptr.ge, fun p _ => congrFun hcount p⟩

theorem Spared.refl
    (w : World M W) :
    Spared w w :=
  .of_eq rfl rfl

theorem Spared.trans
    {w₁ w₂ w₃ : World M W}
    (h₁ : Spared w₁ w₂)
    (h₂ : Spared w₂ w₃) :
    Spared w₁ w₃ := by
  refine ⟨h₁.nextPtr.trans h₂.nextPtr, fun p hp => ?_⟩
  rw [h₂.refCount p (hp.trans_le h₁.nextPtr), h₁.refCount p hp]

/-- A queued request without a message. -/
structure Freed (w : World M W) (req : QueuedRequest M) : Prop where
  known : req.msg.ptr < w.nextPtr
  freed : w.refCount req.msg.ptr = 0

theorem Freed.spared
    {w w' : World M W} {req : QueuedRequest M}
    (h : Freed w req)
    (hspared : Spared w w') :
    Freed w' req :=
  ⟨h.known.trans_le hspared.nextPtr, (hspared.refCount _ h.known).trans h.freed⟩

/-- What is added while a request is handled: requests without messages, each with its
arrival. -/
structure Arrivals
    (w' : World M W) (reqs : List (QueuedRequest M)) (events : List (Event M W)) : Prop where
  freed : ∀ req ∈ reqs, Freed w' req
  nested : ∀ e ∈ events, e.isNested = true
  none : reqs = [] ↔ ∀ e ∈ events, e.isNestedArrival = false

theorem Arrivals.append
    {w₁ w₂ : World M W} {reqs₁ reqs₂ : List (QueuedRequest M)} {events₁ events₂ : List (Event M W)}
    (h₁ : Arrivals w₁ reqs₁ events₁)
    (hspared : Spared w₁ w₂)
    (h₂ : Arrivals w₂ reqs₂ events₂) :
    Arrivals w₂ (reqs₁ ++ reqs₂) (events₁ ++ events₂) where
  freed req hreq := by
    rcases List.mem_append.mp hreq with hreq | hreq
    · exact (h₁.freed req hreq).spared hspared
    · exact h₂.freed req hreq
  nested e he := by
    rcases List.mem_append.mp he with he | he
    · exact h₁.nested e he
    · exact h₂.nested e he
  none := by
    rw [List.append_eq_nil_iff, h₁.none, h₂.none, List.forall_mem_append]

/-- What happens while a request is handled. -/
structure Growth (w w' : World M W) : Prop
    extends Spared w w' where
  stackCounter : w'.stackCounter = w.stackCounter
  arrivals : ∃ reqs new events,
    w.gQueuedRequests = .live reqs ∧ w'.gQueuedRequests = .live (reqs ++ new) ∧
      flow w'.log = flow w.log ++ events ∧ Arrivals w' new events

theorem Growth.trans
    {w₁ w₂ w₃ : World M W}
    (h₁ : Growth w₁ w₂)
    (h₂ : Growth w₂ w₃) :
    Growth w₁ w₃ := by
  obtain ⟨hspared₁, hstack₁, reqs, new₁, events₁, hqueue, hqueue₁, hflow₁, harrivals₁⟩ := h₁
  obtain ⟨hspared₂, hstack₂, reqs', new₂, events₂, hqueue', hqueue₂, hflow₂, harrivals₂⟩ := h₂
  obtain rfl : reqs ++ new₁ = reqs' := RtVector.live.inj (hqueue₁.symm.trans hqueue')
  refine ⟨hspared₁.trans hspared₂, hstack₂.trans hstack₁, reqs, new₁ ++ new₂, events₁ ++ events₂,
    hqueue, ?_, ?_, harrivals₁.append hspared₂ harrivals₂⟩
  · rw [hqueue₂, List.append_assoc]
  · rw [hflow₂, hflow₁, List.append_assoc]

/-- What the application may do besides: it leaves the queue, the counter and the messages of
others alone. -/
structure Aside (w w' : World M W) : Prop
    extends Elsewhere w w', Spared w w'

theorem Aside.growth
    {w w' : World M W} {reqs : List (QueuedRequest M)}
    (h : Aside w w')
    (hqueue : w.gQueuedRequests = .live reqs) :
    Growth w w' := by
  obtain ⟨⟨hstack, hsame, calls, hflow, hcalls⟩, hspared⟩ := h
  refine ⟨hspared, hstack, reqs, [], calls, hqueue, ?_, hflow, ?_, ?_, ?_⟩
  · rw [hsame, hqueue, List.append_nil]
  · rintro req ⟨⟩
  · intro e he
    rw [Event.isNested, hcalls e he, Bool.or_true]
  · refine ⟨fun _ e he => ?_, fun _ => rfl⟩
    have hcall := hcalls e he
    cases e <;> first | rfl | cases hcall

theorem SameFlow.aside
    {w w' : World M W}
    (h : SameFlow w w')
    (hspared : Spared w w') :
    Aside w w' :=
  ⟨⟨h.stackCounter, h.gQueuedRequests, [], by rw [h.flow, List.append_nil], by simp⟩, hspared⟩

/-- Nothing is going on, and no request has been queued so far. -/
structure Idle (w : World M W) : Prop where
  stackCounter : w.stackCounter = 0
  gQueuedRequests : w.gQueuedRequests = .live []
  oneAtATime : ∀ e ∈ flow w.log, e.isNestedArrival = false

theorem Idle.aside
    {w w' : World M W}
    (h : Idle w)
    (haside : Aside w w') :
    Idle w' := by
  obtain ⟨⟨hstack, hsame, calls, hflow, hcalls⟩, -⟩ := haside
  refine ⟨hstack.trans h.stackCounter, hsame.trans h.gQueuedRequests, fun e he => ?_⟩
  rw [hflow] at he
  rcases List.mem_append.mp he with he | he
  · exact h.oneAtATime e he
  · have hcall := hcalls e he
    cases e <;> first | rfl | cases hcall

/-- No request arrived while another one was handled. -/
def OneAtATime (log : List (Event M W)) : Prop :=
  ∀ e ∈ log, e.isNestedArrival = false

/-- Only the flow of requests is looked at. -/
theorem oneAtATime_iff_flow
    (log : List (Event M W)) :
    OneAtATime log ↔ ∀ e ∈ flow log, e.isNestedArrival = false := by
  refine ⟨fun h e he => h e (List.mem_of_mem_filter he), fun h e he => ?_⟩
  cases hflow : e.isFlow with
  | true =>
      exact h e (List.mem_filter.mpr ⟨he, hflow⟩)
  | false =>
      cases e <;> first | rfl | cases hflow

/-- What other activities may do at any time. -/
structure Interferes (w w' : World M W) : Prop where
  busy : ∀ reqs, w.gQueuedRequests = .live reqs → w.stackCounter ≠ 0 → Growth w w'
  idle : Idle w → Idle w' ∧ Spared w w'

theorem Interferes.refl
    (w : World M W) :
    Interferes w w where
  busy _ hqueue _ := (SameFlow.refl w).aside (.refl w) |>.growth hqueue
  idle h := ⟨h, .refl w⟩

theorem Interferes.trans
    {w₁ w₂ w₃ : World M W}
    (h₁ : Interferes w₁ w₂)
    (h₂ : Interferes w₂ w₃) :
    Interferes w₁ w₃ where
  busy reqs hqueue hne := by
    have hgrowth := h₁.busy reqs hqueue hne
    obtain ⟨_, new, _, _, hqueue₂, _, _⟩ := hgrowth.arrivals
    exact hgrowth.trans (h₂.busy _ hqueue₂ (hgrowth.stackCounter ▸ hne))
  idle h := by
    obtain ⟨hidle₂, hspared₂⟩ := h₁.idle h
    obtain ⟨hidle₃, hspared₃⟩ := h₂.idle hidle₂
    exact ⟨hidle₃, hspared₂.trans hspared₃⟩

/-- Programs between whose calls other activities take place. -/
def interfered (At : World M W → Prop) :
    Contract (Call.Answer (M := M) (W := W)) (World M W) where
  env _ w _ w' := Interferes w w'
  atCall _ := At
  atUndef := At

end Growth

section Kept

variable {M W : Type} {s w w' : World M W} {At : World M W → Prop}

theorem sameFlow_inert
    {e : Call M W}
    (he : e.isInert = true) :
    SameFlow w { w with log := w.log ++ [.call e] } := by
  refine ⟨rfl, rfl, ?_⟩
  have hflow : flow [Event.call e] = [] := by
    cases e <;> first | rfl | cases he
  rw [flow_append, hflow, List.append_nil]

theorem Growth.aside
    (h : Growth s w)
    (haside : Aside w w') :
    Growth s w' := by
  obtain ⟨_, new, _, _, hqueue, _, _⟩ := h.arrivals
  exact h.trans (haside.growth hqueue)

theorem Growth.same
    (h : Growth s w)
    (hsame : SameFlow w w')
    (hspared : Spared w w') :
    Growth s w' :=
  h.aside (hsame.aside hspared)

theorem Growth.interferes
    (h : Growth s w)
    (hbusy : s.stackCounter ≠ 0)
    (hinterferes : Interferes w w') :
    Growth s w' := by
  obtain ⟨_, new, _, _, hqueue, _, _⟩ := h.arrivals
  exact h.trans (hinterferes.busy _ hqueue (h.stackCounter ▸ hbusy))

/-- A call of a handler, or of the transport by the response. -/
theorem Growth.flowCall
    (h : Growth s w)
    {e : Call M W}
    (he : e.isFlow = true) :
    Growth s { w with log := w.log ++ [.call e] } := by
  refine h.aside ⟨⟨rfl, rfl, [.call e], ?_, ?_⟩, .of_eq rfl rfl⟩
  · have hflow : flow [Event.call e] = [.call e] := by
      simp [flow, Event.isFlow, he]
    rw [flow_append, hflow]
  · intro e' he'
    rw [List.mem_singleton.mp he', Event.isFlowCall, he]

/-- Messages of after may be released. -/
theorem Growth.released
    (h : Growth s w)
    {p : Ptr}
    (hp : s.nextPtr ≤ p) :
    Growth s { w with refCount := Function.update w.refCount p (w.refCount p - 1) } := by
  obtain ⟨hspared, hstack, reqs, new, events, hqueue, hqueue', hflow, harrivals⟩ := h
  refine ⟨⟨hspared.nextPtr, fun q hq => ?_⟩, hstack, reqs, new, events, hqueue, hqueue', hflow,
    fun req hreq => ?_, harrivals.nested, harrivals.none⟩
  · exact (Function.update_of_ne (hq.trans_le hp).ne _ _).trans (hspared.refCount q hq)
  · obtain ⟨hknown, hfreed⟩ := harrivals.freed req hreq
    refine ⟨hknown, ?_⟩
    by_cases hptr : req.msg.ptr = p
    · subst hptr
      exact (Function.update_self _ _ _).trans (congrArg (· - 1) hfreed)
    · exact (Function.update_of_ne hptr _ _).trans hfreed

/-- The dispatch of a request, as long as it is not finished. -/
theorem owning_growth
    (hbusy : s.stackCounter ≠ 0)
    (hAt : ∀ w, Growth s w → At w) :
    Owning (interfered At) s.nextPtr (Growth s) where
  called w e he h := h.same (sameFlow_inert he) (.of_eq rfl rfl)
  fault w f _ h := h.same ⟨rfl, rfl, by simp [flow, Event.isFlow]⟩ (.of_eq rfl rfl)
  env _ _ _ _ henv h := h.interferes hbusy henv
  atCall _ w _ h := hAt w h
  atUndef w h := hAt w h
  listeners w _ _ h := h.same ⟨rfl, rfl, by simp [flow, Event.isFlow]⟩ (.of_eq rfl rfl)
  locked w h := h.same ⟨rfl, rfl, by simp [flow, Event.isFlow]⟩ (.of_eq rfl rfl)
  unlocked w h := h.same ⟨rfl, rfl, by simp [flow, Event.isFlow]⟩ (.of_eq rfl rfl)
  bounded _ h := h.nextPtr
  created w h := h.same ⟨rfl, rfl, rfl⟩
    ⟨Nat.le_succ _, fun p hp => Function.update_of_ne hp.ne _ _⟩
  released _ _ hp h := h.released hp
  flowCalled _ _ he h := h.flowCall he
  flowAtCall _ w _ h := hAt w h

/-- What everything keeps but the arrival of a request. -/
structure Bystanding (P : World M W → Prop) : Prop where
  aside : ∀ w w', Aside w w' → P w → P w'
  interferes : ∀ w w', Interferes w w' → P w → P w'

theorem bystanding_growth
    (hbusy : s.stackCounter ≠ 0) :
    Bystanding (Growth s) where
  aside _ _ haside h := h.aside haside
  interferes _ _ hinterferes h := h.interferes hbusy hinterferes

theorem bystanding_idle : Bystanding fun w => Idle w ∧ Spared s w where
  aside _ _ haside h := ⟨h.1.aside haside, h.2.trans haside.toSpared⟩
  interferes _ _ hinterferes h := by
    obtain ⟨hidle, hspared⟩ := hinterferes.idle h.1
    exact ⟨hidle, h.2.trans hspared⟩

variable {P : World M W → Prop} (h : Bystanding P)

include h

theorem Bystanding.same
    (hw : P w)
    (hsame : SameFlow w w')
    (hspared : Spared w w') :
    P w' :=
  h.aside w w' (hsame.aside hspared) hw

theorem Bystanding.searching : Searching (interfered fun _ => True) fun _ => P where
  calling _ :=
    { called := fun _ _ he hw => h.same hw (sameFlow_inert he) (.of_eq rfl rfl)
      fault := fun w f _ hw => h.same hw ⟨rfl, rfl, by simp [flow, Event.isFlow]⟩ (.of_eq rfl rfl)
      env := fun _ w _ w' henv => h.interferes w w' henv
      atCall := fun _ _ _ _ => trivial
      atUndef := fun _ _ => trivial }
  locked _ hw := h.same hw ⟨rfl, rfl, by simp [flow, Event.isFlow]⟩ (.of_eq rfl rfl)
  unlocked _ hw := h.same hw ⟨rfl, rfl, by simp [flow, Event.isFlow]⟩ (.of_eq rfl rfl)
  unusableObjects _ _ _ _ hw :=
    h.same hw ⟨rfl, rfl, by simp [flow, Event.isFlow]⟩ (.of_eq rfl rfl)

theorem Bystanding.keeps_registration
    (objectName : Option CString) (handler : Nat) (userData : Ptr) :
    Program.Keeps (interfered fun _ => True) P
        (rbusRegisterObj objectName handler userData : CoreM M W RbusError) ∧
      Program.Keeps (interfered fun _ => True) P
        (rbusUnregisterObj objectName : CoreM M W RbusError) := by
  have hconnection (w : World M W) (f : Connection → Connection) (hw : P w) :
      P { w with gConnection := w.gConnection.map f } :=
    h.same hw ⟨rfl, rfl, rfl⟩ (.of_eq rfl rfl)
  have hobjects (f : List ServerObject → List ServerObject) :
      Program.Keeps (interfered fun _ => True) P (updateServerObjects f : CoreM M W Unit) :=
    fun w hw => h.same hw ⟨rfl, rfl, by simp [flow, Event.isFlow]⟩ (.of_eq rfl rfl)
  have hmalloc : Program.Keeps (interfered fun _ => True) P (rtMalloc : CoreM M W Ptr) :=
    fun w hw => h.same hw ⟨rfl, rfl, rfl⟩ ⟨Nat.le_succ _, fun _ _ => rfl⟩
  exact ⟨keeps_rbusRegisterObj h.searching hconnection hmalloc (fun _ => hobjects _) _ _ _,
    keeps_rbusUnregisterObj h.searching hconnection _ fun _ => hobjects _⟩

end Kept

section Delivery

variable {M W : Type} [MessageApi M W] {w : World M W}

/-- A request that arrives while another one is handled: it is queued without its message. -/
theorem sat_onMessage_busy
    {C : Contract (Call.Answer (M := M) (W := W)) (World M W)} {reqs : List (QueuedRequest M)}
    (hqueue : w.gQueuedRequests = .live reqs)
    (hbusy : w.stackCounter ≠ 0)
    (rounds : Nat) (hdr : RtMessageHeader) (data : W) (closure : Ptr) :
    Program.Sat C (onMessage rounds hdr data closure) (fun _ => Growth w) w := by
  have hcounter : w.stackCounter + 1 ≠ 1 := by omega
  simp only [onMessage, queueOrDispatch, queuedRequestCreate, updateQueuedRequests, consumeQueue,
    updateStackCounter, rbusMessageRelease, Program.sat_bind, sat_newMessage, Program.sat_getState,
    sat_record, Program.sat_modifyState, Program.sat_ite, sat_rtMalloc, Program.sat_pure,
    sat_crash, hqueue, RtVector.update, ne_eq, hcounter, not_false_eq_true, if_true, false_and,
    if_false, Function.update_self, Nat.one_ne_zero, Nat.add_sub_cancel, Nat.sub_self]
  refine
    { nextPtr := Nat.le_add_right _ 2
      refCount := fun p hp => ?_
      stackCounter := rfl
      arrivals := ⟨reqs, _, [.deliver w.stackCounter hdr (MessageApi.fromBytes data) closure],
        hqueue, rfl, flow_append _ _, ?_⟩ }
  · exact (Function.update_of_ne hp.ne _ _).trans (Function.update_of_ne hp.ne _ _)
  · have hnested : Event.isNestedArrival (.deliver (M := M) (W := W) w.stackCounter hdr
        (MessageApi.fromBytes data) closure) = true :=
      decide_eq_true hbusy
    refine ⟨fun req hreq => ?_, fun e he => ?_, by simp [hnested]⟩
    · rw [List.mem_singleton.mp hreq]
      exact ⟨Nat.lt_add_of_pos_right Nat.two_pos, Function.update_self _ _ _⟩
    · rw [List.mem_singleton.mp he, Event.isNested, hnested, Bool.true_or]

/-- The result of the handling of a request is known once it has been dispatched. -/
structure Handled (w : World M W) (r : Request M) (w' : World M W) : Prop where
  released : w'.refCount w.nextPtr = 0
  dispatched : ∃ calls, (∀ e ∈ calls, e.isFlowCall = true) ∧
    flow w'.log = flow w.log ++
      .deliver 0 r.hdr r.msg r.obj :: .dispatch r.hdr r.msg r.obj :: calls ++ [.dispatched]

/-- A queued request that can be dispatched. -/
structure Dispatchable (w : World M W) (req : QueuedRequest M) : Prop where
  alive : 1 ≤ w.refCount req.msg.ptr
  unchanged : ⟨req.hdr, req.msg.val, req.obj⟩ ∈ deliveredRequests w.log
  target : ∃ object ∈ w.gServerObjects.items, object.ptr = req.obj

/-- What the state says about the messages, while a request is handled that arrived in `w`. -/
structure Attended (w w' : World M W) : Prop where
  waiting : (∀ req ∈ w'.gQueuedRequests.items, Dispatchable w' req) ↔ OneAtATime w'.log
  held : OneAtATime w'.log → w'.refCount w.nextPtr = 1

/-- The state in which the dispatch of a request begins that arrived in `w`. -/
def entered (w : World M W) (r : Request M) : World M W :=
  { w with
    nextPtr := w.nextPtr + 1
    refCount := Function.update w.refCount w.nextPtr 1
    stackCounter := 1
    log := w.log ++ [.deliver 0 r.hdr r.msg r.obj] ++ [.dispatch r.hdr r.msg r.obj] }

omit [MessageApi M W] in
theorem oneAtATime_concat
    {log : List (Event M W)} {e : Event M W}
    (he : e.isNestedArrival = false) :
    OneAtATime (log ++ [e]) ↔ OneAtATime log := by
  rw [OneAtATime, List.forall_mem_append]
  refine and_iff_left fun e' he' => ?_
  rw [List.mem_singleton.mp he', he]

omit [MessageApi M W] in
/-- What arrived while the request was dispatched can be seen in the queue. -/
theorem Growth.oneAtATime_iff
    {r : Request M} {w' : World M W}
    (hidle : Idle w)
    (h : Growth (entered w r) w') :
    ∃ new, w'.gQueuedRequests = .live new ∧ (∀ req ∈ new, Freed w' req) ∧
      (OneAtATime w'.log ↔ new = []) := by
  obtain ⟨reqs, new, events, hqueue, hqueue', hflow, hfreed, -, hnone⟩ := h.arrivals
  have hempty : reqs = [] := RtVector.live.inj (hqueue.symm.trans hidle.gQueuedRequests)
  subst hempty
  refine ⟨new, hqueue', hfreed, ?_⟩
  rw [oneAtATime_iff_flow, hflow, hnone, List.forall_mem_append]
  refine and_iff_right ((oneAtATime_iff_flow _).mp ?_)
  refine (oneAtATime_concat rfl).mpr ((oneAtATime_concat rfl).mpr ?_)
  exact (oneAtATime_iff_flow _).mpr hidle.oneAtATime

omit [MessageApi M W] in
theorem Growth.attended
    {r : Request M} {w₁ w' : World M W}
    (hidle : Idle w)
    (h : Growth (entered w r) w₁)
    (hqueue : w'.gQueuedRequests = w₁.gQueuedRequests)
    (hcount : w'.refCount = w₁.refCount)
    (hlog : OneAtATime w'.log ↔ OneAtATime w₁.log) :
    Attended w w' := by
  obtain ⟨new, hqueue₁, hfreed, hiff⟩ := h.oneAtATime_iff hidle
  constructor
  · rw [hqueue, hqueue₁, hlog, hiff]
    cases new with
    | nil =>
        exact iff_of_true (fun _ hreq => absurd hreq List.not_mem_nil) rfl
    | cons req new =>
        refine iff_of_false (fun hwaiting => ?_) (List.cons_ne_nil _ _)
        have halive := (hwaiting req List.mem_cons_self).alive
        rw [hcount, (hfreed req List.mem_cons_self).freed] at halive
        exact Nat.not_succ_le_zero 0 halive
  · intro _
    rw [hcount, h.refCount w.nextPtr (Nat.lt_succ_self _)]
    exact Function.update_self _ _ _

/-- The queue is consumed after a dispatch: the first request in it has no message. -/
theorem sat_consumeQueue_idle
    {r : Request M} {w₁ : World M W} {Q : Unit → World M W → Prop}
    (hidle : Idle w)
    (h : Growth (entered w r) w₁)
    (hQ : OneAtATime w₁.log → Q () { w₁ with log := w₁.log ++ [.dispatched] })
    (rounds : Nat) :
    Program.Sat (interfered (Attended w)) (consumeQueue rounds) Q
      { w₁ with log := w₁.log ++ [.dispatched] } := by
  obtain ⟨new, hqueue, hfreed, hiff⟩ := h.oneAtATime_iff hidle
  have hone : w₁.stackCounter = 1 := h.stackCounter
  cases new with
  | nil =>
      simpa [consumeQueue, hqueue] using hQ (hiff.mpr rfl)
  | cons req new =>
      have hdead : w₁.refCount req.msg.ptr = 0 := (hfreed req List.mem_cons_self).freed
      simp only [consumeQueue, Program.sat_bind, Program.sat_getState, hone, hqueue,
        RtVector.items_live, ne_eq, reduceCtorEq, not_false_eq_true, and_self, if_true]
      cases rounds with
      | zero =>
          rw [drainQueuedRequests, Program.sat_bind, sat_call]
          refine ⟨h.attended hidle hqueue.symm rfl ?_, fun never => never.elim⟩
          rw [oneAtATime_concat rfl, oneAtATime_concat rfl]
      | succ rounds =>
          simp only [drainQueuedRequests, Program.sat_bind, Program.sat_getState,
            RtVector.items_live, recordedDispatch, dispatchMethodCall, derefMessage, sat_record,
            Program.sat_ite, hdead, if_true, sat_crash]
          refine h.attended hidle hqueue.symm rfl ?_
          rw [oneAtATime_concat rfl, oneAtATime_concat rfl, oneAtATime_concat rfl]

omit [MessageApi M W] in
/-- Nothing is left of a request but its history. -/
theorem Growth.finished
    {r : Request M} {w₁ w' : World M W}
    (hidle : Idle w)
    (h : Growth (entered w r) w₁)
    (hsingle : OneAtATime w₁.log)
    (hstack : w'.stackCounter = 0)
    (hqueue : w'.gQueuedRequests = w₁.gQueuedRequests)
    (hptr : w'.nextPtr = w₁.nextPtr)
    (hcount : w'.refCount = Function.update w₁.refCount w.nextPtr 0)
    (hlog : w'.log = w₁.log ++ [.dispatched]) :
    Idle w' ∧ Spared w w' ∧ Handled w r w' := by
  refine ⟨⟨hstack, ?_, ?_⟩, ⟨?_, fun p hp => ?_⟩, ?_, ?_⟩
  · obtain ⟨new, hnew, -, hiff⟩ := h.oneAtATime_iff hidle
    rw [hqueue, hnew, hiff.mp hsingle]
  · rw [← oneAtATime_iff_flow, hlog]
    exact (oneAtATime_concat rfl).mpr hsingle
  · exact (Nat.le_succ _).trans (h.nextPtr.trans hptr.ge)
  · rw [hcount, Function.update_of_ne hp.ne, h.refCount p (Nat.lt_succ_of_lt hp)]
    exact Function.update_of_ne hp.ne _ _
  · rw [hcount, Function.update_self]
  · obtain ⟨_, _, events, _, _, hflow, harrivals⟩ := h.arrivals
    have harrived : ∀ e ∈ events, e.isNestedArrival = false := fun e he =>
      (oneAtATime_iff_flow _).mp hsingle e (hflow ▸ List.mem_append_right _ he)
    refine ⟨events, fun e he => ?_, ?_⟩
    · have hnested := harrivals.nested e he
      rwa [Event.isNested, harrived e he, Bool.false_or] at hnested
    · have hfirst : flow (entered w r).log =
          flow w.log ++ [.deliver 0 r.hdr r.msg r.obj, .dispatch r.hdr r.msg r.obj] := by
        simp [entered, flow, Event.isFlow]
      have hlast : flow [Event.dispatched (M := M) (W := W)] = [.dispatched] := rfl
      rw [hlog, flow_append, hflow, hfirst, hlast]
      simp

/-- The handling of a request that finds nothing else going on. -/
theorem sat_onMessage_idle
    (hidle : Idle w)
    (rounds : Nat) (hdr : RtMessageHeader) (data : W) (closure : Ptr) :
    Program.Sat (interfered (Attended w)) (onMessage rounds hdr data closure)
      (fun _ w' => Idle w' ∧ Spared w w' ∧
        Handled w ⟨hdr, MessageApi.fromBytes data, closure⟩ w') w := by
  let r : Request M := ⟨hdr, MessageApi.fromBytes data, closure⟩
  have hentered : Growth (entered w r) (entered w r) :=
    ((SameFlow.refl _).aside (.refl _)).growth hidle.gQueuedRequests
  have howning : Owning (interfered (Attended w)) (w.nextPtr + 1) (Growth (entered w r)) :=
    owning_growth Nat.one_ne_zero fun w' h => h.attended hidle rfl rfl Iff.rfl
  have hdispatch := sat_dispatchMethodCall_owning howning hentered ⟨w.nextPtr, r.msg⟩ hdr closure
  simp only [onMessage, queueOrDispatch, recordedDispatch, updateStackCounter, Program.sat_bind,
    sat_newMessage, Program.sat_getState, sat_record, Program.sat_modifyState, Program.sat_ite,
    hidle.stackCounter, Nat.zero_add, ne_eq, not_true_eq_false, if_false]
  refine hdispatch.mono fun _ w₁ h => ?_
  refine sat_consumeQueue_idle hidle h (fun hsingle => ?_) rounds
  have hone : w₁.refCount w.nextPtr = 1 :=
    (h.attended hidle rfl rfl Iff.rfl).held hsingle
  simp only [Program.sat_bind, Program.sat_modifyState, rbusMessageRelease, Program.sat_getState,
    Program.sat_ite, hone, Nat.one_ne_zero, if_false]
  exact h.finished hidle hsingle (congrArg (· - 1) h.stackCounter) rfl rfl rfl rfl

end Delivery

section Receipts

variable {M W : Type} [MessageApi M W] {w w' : World M W}

/-- What happens in a process: requests arrive, objects are registered and unregistered, and
the application does something else. -/
inductive Receipt (M W : Type) where
  | deliver (rounds : Nat) (hdr : RtMessageHeader) (data : W) (closure : Ptr)
  | registerObj (objectName : Option CString) (handler : Nat) (userData : Ptr)
  | unregisterObj (objectName : Option CString)
  | other (f : World M W → World M W) (h : ∀ w, Aside w (f w))

/-- The code an activity runs. -/
def Receipt.run : Receipt M W → CoreM M W Unit
  | .deliver rounds hdr data closure => onMessage rounds hdr data closure
  | .registerObj objectName handler userData =>
      ignoreResult (rbusRegisterObj objectName handler userData)
  | .unregisterObj objectName => ignoreResult (rbusUnregisterObj objectName)
  | .other f _ => Program.modifyState f

/-- Answers to calls, with activities nested in the blocking ones to depth `n`. -/
abbrev interrupted (n : Nat) : (e : Call M W) → World M W → e.Answer → World M W → Prop :=
  Nest Receipt.run (fun e => e.blocking = true) n

variable {R : (e : Call M W) → World M W → e.Answer → World M W → Prop}

/-- What holds after an activity, if it does after the arrival of a request. -/
theorem Bystanding.returns
    {P : World M W → Prop} {a : Receipt M W}
    (h : Bystanding P)
    (hR : ∀ e w a w', R e w a w' → Interferes w w')
    (hw : P w)
    (hdeliver : ∀ rounds hdr data closure,
      Program.Returns R (onMessage rounds hdr data closure) w () w' → P w')
    (hreturns : Program.Returns R a.run w () w') :
    P w' := by
  have hkept (hkeeps : Program.Keeps (interfered fun _ => True) P a.run) : P w' :=
    Program.returns_of_sat (Q := fun _ => P) hR (hkeeps w hw) hreturns
  cases a with
  | deliver rounds hdr data closure =>
      exact hdeliver rounds hdr data closure hreturns
  | registerObj objectName handler userData =>
      exact hkept (keeps_ignoreResult (h.keeps_registration objectName handler userData).1)
  | unregisterObj objectName =>
      exact hkept (keeps_ignoreResult (h.keeps_registration objectName 0 0).2)
  | other f hf =>
      exact hkept fun w hw => h.aside w (f w) (hf w) hw

/-- Every activity keeps to what other ones rely on. -/
theorem Receipt.returns_interferes
    (hR : ∀ e w a w', R e w a w' → Interferes w w')
    (a : Receipt M W)
    (hreturns : Program.Returns R a.run w () w') :
    Interferes w w' where
  busy reqs hqueue hbusy := by
    refine (bystanding_growth hbusy).returns hR
      ((SameFlow.refl w).aside (.refl w) |>.growth hqueue) ?_ hreturns
    intro rounds hdr data closure hreturns
    exact Program.returns_of_sat (C := interfered fun _ => True) (Q := fun _ => Growth w) hR
      (sat_onMessage_busy hqueue hbusy rounds hdr data closure) hreturns
  idle hidle := by
    refine (bystanding_idle (s := w)).returns hR ⟨hidle, .refl w⟩ ?_ hreturns
    intro rounds hdr data closure hreturns
    have hend := Program.returns_of_sat hR (sat_onMessage_idle hidle rounds hdr data closure)
      hreturns
    exact ⟨hend.1, hend.2.1⟩

/-- What nested activities do to the queue and to messages, to any depth. -/
theorem interrupted_interferes
    (n : Nat) (e : Call M W) (w : World M W) (a : e.Answer) (w' : World M W)
    (h : interrupted n e w a w') :
    Interferes w w' :=
  nest_guarantee Receipt.run _ Interferes .refl (fun _ _ _ => .trans)
    (fun _ hR a _ _ hreturns => a.returns_interferes hR hreturns) n e w a w' h

/-- The states of a process between its activities, from `perform_init` on and with the queue
created. -/
inductive Receiving : World M W → Prop
  | init {daemonAddress advisoryTopic : CString} {w : World M W}
      (h : afterPerformInit daemonAddress advisoryTopic w) :
      Receiving { w with gQueuedRequests := .live [] }
  | activity {n : Nat} {a : Receipt M W} {w w' : World M W}
      (h : Receiving w)
      (hreturns : Program.Returns (interrupted n) a.run w () w') :
      Receiving w'

theorem Receiving.idle
    (h : Receiving w) :
    Idle w := by
  induction h with
  | @init daemonAddress advisoryTopic w h =>
      have hsat : Program.Sat (guaranteed (M := M) (W := W)) performInit
          (fun _ w => Idle { w with gQueuedRequests := .live [] })
          (World.initial daemonAddress advisoryTopic) :=
        ⟨rfl, rfl, by simp [World.initial, flow, Event.isFlow]⟩
      have hend := Program.returns_of_sat (nested_growth 0) hsat h
      exact hend
  | @activity n a w w' _ hreturns ih =>
      exact ((a.returns_interferes (interrupted_interferes n) hreturns).idle ih).1

/-- The messages are in order at a point of the handling of a request that arrived in `w`:
queued requests can be dispatched, the request has its message until it has been dispatched,
and it is freed then. -/
structure ServedAlive (w : World M W) (r : Request M)
    (q : Prog (Call.Answer (M := M) (W := W)) (World M W) Unit) : Prop where
  waiting : ∀ req ∈ (stateOf q).gQueuedRequests.items, Dispatchable (stateOf q) req
  held : (∀ w', q ≠ .done () w') → (stateOf q).refCount w.nextPtr = 1
  handled : ∀ w', q = .done () w' → Handled w r w'

/--
With the queue created, for any nesting of requests, and for handlers that also register and
unregister objects: at every point of the handling of a request, all queued requests can be
dispatched, and the message of the request itself is freed after its dispatch and not before,
exactly when no request arrived while another one was handled.  What is freed stays so, and the
handling during which another request arrived does not come to an end.
-/
theorem dispatched_alive_iff
    (h : Receiving w)
    (n : Nat) :
    (∀ rounds hdr data closure q,
      Prog.Reaches (interrupted n) (onMessage rounds hdr data closure w) q →
        (ServedAlive w ⟨hdr, MessageApi.fromBytes data, closure⟩ q ↔
          OneAtATime (stateOf q).log)) ∧
      ∀ (a : Receipt M W) w', Program.Returns (interrupted n) a.run w () w' →
        Spared w w' ∧ OneAtATime w'.log := by
  have hidle := h.idle
  constructor
  · intro rounds hdr data closure q hreach
    have hpoint := Program.meets_of_sat (interrupted_interferes n)
      (sat_onMessage_idle hidle rounds hdr data closure) hreach
    have hattended {w' : World M W} (hstate : stateOf q = w') (hrunning : ∀ w', q ≠ .done () w')
        (h : Attended w w') :
        ServedAlive w ⟨hdr, MessageApi.fromBytes data, closure⟩ q ↔
          OneAtATime (stateOf q).log := by
      rw [hstate]
      refine ⟨fun hserved => h.waiting.mp (hstate ▸ hserved.waiting), fun hsingle => ?_⟩
      refine ⟨?_, fun _ => ?_, fun w' hdone => absurd hdone (hrunning w')⟩
      · rw [hstate]
        exact h.waiting.mpr hsingle
      · rw [hstate]
        exact h.held hsingle
    cases q with
    | done a w' =>
        obtain ⟨hidle', -, hhandled⟩ := hpoint
        refine iff_of_true ⟨?_, fun hrunning => absurd rfl (hrunning w'), ?_⟩ ?_
        · rw [stateOf, hidle'.gQueuedRequests]
          exact fun _ hreq => absurd hreq List.not_mem_nil
        · rintro _ ⟨⟩
          exact hhandled
        · exact (oneAtATime_iff_flow _).mpr hidle'.oneAtATime
    | undef w' =>
        exact hattended rfl (by rintro _ ⟨⟩) hpoint
    | call e w' k =>
        exact hattended rfl (by rintro _ ⟨⟩) hpoint
  · intro a w' hreturns
    obtain ⟨hidle', hspared⟩ :=
      (a.returns_interferes (interrupted_interferes n) hreturns).idle hidle
    exact ⟨hspared, (oneAtATime_iff_flow _).mpr hidle'.oneAtATime⟩

end Receipts

section Run

/-- The object `o` has been registered, and the queue has been created. -/
def sampleQueued : World Bytes (List UInt8) :=
  { sampleRegistered sampleObject with gQueuedRequests := .live [] }

theorem receiving_sampleQueued : Receiving sampleQueued := by
  refine .activity (n := 0) (a := .other (fun w => { w with
    gServerObjects := .live [sampleObject] }) fun w => ?_) (.init afterPerformInit_sampleInit) .refl
  exact ⟨⟨rfl, rfl, [], by simp, by simp⟩, .of_eq rfl rfl⟩

/-- A request that finds nothing else going on is freed after its dispatch. -/
theorem single_request_freed :
    ∃ w : World Bytes (List UInt8),
      Program.Returns (interrupted 0) (onMessage 0 (sampleHeader 1) [] 1) sampleQueued () w ∧
        ServedAlive sampleQueued ⟨sampleHeader 1, MessageApi.fromBytes [], 1⟩ (.done () w) := by
  have hrun : ((onMessage 0 (sampleHeader 1) [] 1 sampleQueued).run plainAnswer).isSome = true := by
    decide +kernel
  obtain ⟨⟨⟨⟩, w⟩, hw⟩ := Option.isSome_iff_exists.mp hrun
  have hreturns : Program.Returns (interrupted 0) (onMessage 0 (sampleHeader 1) [] 1)
      sampleQueued () w :=
    Program.returns_of_run (fun _ _ _ _ h => nest_of_eq (plainAnswer_same h)) hw
  obtain ⟨hserved, hlater⟩ := dispatched_alive_iff receiving_sampleQueued 0
  have hsingle := (hlater (.deliver 0 (sampleHeader 1) [] 1) w hreturns).2
  exact ⟨w, hreturns, (hserved _ _ _ _ _ hreturns).mpr hsingle⟩

/-- A second request arrives during the handling of the first. -/
def queueingAnswer :
    (e : Call Bytes (List UInt8)) → World Bytes (List UInt8) →
      Option (e.Answer × World Bytes (List UInt8))
  | .methodCallback .., w =>
      (onMessage 1 (sampleHeader 2) [] 1 w).run plainAnswer |>.map fun r => (⟨.success, none⟩, r.2)
  | .sendBinaryResponse .., w => some (.rtOk, w)
  | _, _ => none

theorem interrupted_of_queueingAnswer
    (e : Call Bytes (List UInt8)) (w : World Bytes (List UInt8)) (a : e.Answer)
    (w' : World Bytes (List UInt8))
    (h : queueingAnswer e w = some (a, w')) :
    interrupted 1 e w a w' := by
  cases e with
  | methodCallback =>
      obtain ⟨r, hr, heq⟩ := Option.map_eq_some_iff.mp h
      obtain ⟨rfl, rfl⟩ := Prod.mk.inj heq
      refine Or.inr ⟨rfl, .single ⟨.deliver 1 (sampleHeader 2) [] 1, ?_⟩⟩
      exact Program.returns_of_run (fun _ _ _ _ h => nest_of_eq (plainAnswer_same h)) hr
  | sendBinaryResponse =>
      obtain ⟨rfl, rfl⟩ := Prod.mk.inj (Option.some.inj h)
      exact Or.inl rfl
  | _ =>
      cases h

/-- What can be seen where a run ends: the requests that arrived and that were dispatched, the
counts of the queued messages, and what is wrong. -/
structure Ending where
  counts : Nat × Nat
  queued : List Nat
  fault : List Fault
deriving DecidableEq

/-- What is wrong. -/
def Event.fault? {M W : Type} : Event M W → Option Fault
  | .fault f => some f
  | _ => none

def ending (w : World Bytes (List UInt8)) : Ending where
  counts := requestCounts w
  queued := w.gQueuedRequests.items.map fun req => w.refCount req.msg.ptr
  fault := w.log.filterMap Event.fault?

/-- A request that arrives during the handling of another one is dispatched without its
message. -/
theorem queued_request_freed :
    ∃ q, Receiving sampleQueued ∧
      Prog.Reaches (interrupted 1) (onMessage 1 (sampleHeader 1) [] 1 sampleQueued) q ∧
      ending (stateOf q) = ⟨(2, 2), [0], [.message]⟩ ∧
        ¬ ServedAlive sampleQueued ⟨sampleHeader 1, MessageApi.fromBytes [], 1⟩ q := by
  have hending : ending (stateOf
      ((onMessage 1 (sampleHeader 1) [] 1 sampleQueued).stop queueingAnswer)) =
        ⟨(2, 2), [0], [.message]⟩ := by
    decide +kernel
  have hreach := Prog.reaches_stop interrupted_of_queueingAnswer
    (onMessage 1 (sampleHeader 1) [] 1 sampleQueued)
  generalize (onMessage 1 (sampleHeader 1) [] 1 sampleQueued).stop queueingAnswer = q
    at hending hreach
  refine ⟨q, receiving_sampleQueued, hreach, hending, fun hserved => ?_⟩
  have hqueued : (stateOf q).gQueuedRequests.items.map
      (fun req => (stateOf q).refCount req.msg.ptr) = [0] :=
    congrArg Ending.queued hending
  have hzero : 0 ∈ (stateOf q).gQueuedRequests.items.map
      fun req => (stateOf q).refCount req.msg.ptr :=
    hqueued ▸ List.mem_singleton_self 0
  obtain ⟨req, hreq, hcount⟩ := List.mem_map.mp hzero
  have halive := (hserved.waiting req hreq).alive
  omega

end Run

end RbusCore
