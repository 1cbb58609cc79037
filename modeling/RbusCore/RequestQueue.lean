import Mathlib.Data.List.Basic
import RbusCore.Message
import RbusCore.RequestFlow

/-!
# Requests that arrive while another one is handled

A handler may wait, and requests that arrive in the meantime re-enter `onMessage`,
which is to queue them and to consume the queue afterwards.  `perform_init` does not
create the queue, so nothing is ever stored in it.

**Results.**
* `nested_growth`: whatever is nested in a handler, to any depth, leaves the counter and
  the queue alone and dispatches nothing.
* `served_iff_no_nested_arrival`: the requests of a session are all dispatched exactly
  when none of them arrived while another one was handled.
-/

namespace RbusCore

open CStrings Resumption

section Observation

variable {M W : Type}

/-- A request: header, message and target. -/
structure Request (M : Type) where
  hdr : RtMessageHeader
  msg : M
  obj : Ptr

/-- The request an arrival brings. -/
def Event.delivered? : Event M W → Option (Request M)
  | .deliver _ hdr msg obj => some ⟨hdr, msg, obj⟩
  | _ => none

/-- The request a dispatch is about. -/
def Event.dispatched? : Event M W → Option (Request M)
  | .dispatch hdr msg obj => some ⟨hdr, msg, obj⟩
  | _ => none

/-- An arrival while another request is being handled. -/
def Event.isNestedArrival : Event M W → Bool
  | .deliver depth _ _ _ => decide (depth ≠ 0)
  | _ => false

/-- Whether a dispatch is running after an event; there is no answer once two were. -/
def Event.running : Option Bool → Event M W → Option Bool
  | some false, .dispatch .. => some true
  | some true, .dispatch .. => none
  | some _, .dispatched => some false
  | r, _ => r

/-- The requests that arrived. -/
def deliveredRequests (log : List (Event M W)) : List (Request M) :=
  log.filterMap Event.delivered?

/-- The requests that were dispatched. -/
def dispatchedRequests (log : List (Event M W)) : List (Request M) :=
  log.filterMap Event.dispatched?

/-- Every request is dispatched once, in order of arrival and one at a time, and nothing
is left of it. -/
structure Served (w : World M W) : Prop where
  inOrder : dispatchedRequests w.log = deliveredRequests w.log
  oneAtATime : w.log.foldl Event.running (some false) ≠ none
  queueEmpty : w.gQueuedRequests.items = []
  stackCounter : w.stackCounter = 0

/-- Only the flow of requests is looked at. -/
theorem filterMap_flow
    {α : Type}
    {f : Event M W → Option α}
    (hf : ∀ e, e.isFlow = false → f e = none)
    (log : List (Event M W)) :
    (flow log).filterMap f = log.filterMap f := by
  induction log with
  | nil =>
      rfl
  | cons e log ih =>
      cases he : e.isFlow with
      | true =>
          simp only [flow, List.filter_cons_of_pos he, List.filterMap_cons]
          rw [← flow, ih]
      | false =>
          simp only [flow, List.filter_cons, he, Bool.false_eq_true, if_false,
            List.filterMap_cons, hf e he]
          exact ih

theorem foldl_running_flow
    (log : List (Event M W))
    (r : Option Bool) :
    (flow log).foldl Event.running r = log.foldl Event.running r := by
  induction log generalizing r with
  | nil =>
      rfl
  | cons e log ih =>
      cases he : e.isFlow with
      | true =>
          simp only [flow, List.filter_cons_of_pos he, List.foldl_cons]
          exact ih _
      | false =>
          have hsame : Event.running r e = r := by
            cases e <;> cases r <;> simp_all [Event.isFlow, Event.running]
          simp only [flow, List.filter_cons, he, Bool.false_eq_true, if_false,
            List.foldl_cons, hsame]
          exact ih _

/-- The request of an arrival at the outermost level. -/
def Event.outermost? : Event M W → Option (Request M)
  | .deliver 0 hdr msg obj => some ⟨hdr, msg, obj⟩
  | _ => none

/-- The requests that arrived while no other was being handled. -/
def outermostRequests (log : List (Event M W)) : List (Request M) :=
  log.filterMap Event.outermost?

/-- Arrivals are outermost or nested. -/
theorem length_deliveredRequests
    (log : List (Event M W)) :
    (deliveredRequests log).length =
      (outermostRequests log).length + log.countP Event.isNestedArrival := by
  unfold deliveredRequests outermostRequests
  induction log with
  | nil =>
      rfl
  | cons e log ih =>
      cases e with
      | deliver depth hdr msg obj =>
          cases depth <;>
            simp [Event.delivered?, Event.outermost?, Event.isNestedArrival, ih] <;> omega
      | _ =>
          simp [List.filterMap_cons, Event.delivered?, Event.outermost?,
            Event.isNestedArrival, ih]

/-- Without nested arrivals all arrivals are outermost. -/
theorem deliveredRequests_of_no_nested
    {log : List (Event M W)}
    (h : ∀ e ∈ log, e.isNestedArrival = false) :
    deliveredRequests log = outermostRequests log := by
  refine List.filterMap_congr fun e he => ?_
  have hnone := h e he
  cases e with
  | deliver depth hdr msg obj =>
      have hdepth : depth = 0 := by
        simpa [Event.isNestedArrival] using hnone
      subst hdepth
      rfl
  | _ =>
      rfl

end Observation

section Activity

variable {M W : Type} [MessageApi M W]

/-- What the application may do besides: it leaves the queue and the counter alone. -/
structure Elsewhere (w w' : World M W) : Prop where
  stackCounter : w'.stackCounter = w.stackCounter
  gQueuedRequests : w'.gQueuedRequests = w.gQueuedRequests
  flow : ∃ calls, flow w'.log = flow w.log ++ calls ∧ ∀ e ∈ calls, e.isFlowCall = true

/-- What happens in a process: requests arrive, and the application does something else. -/
inductive Activity (M W : Type) where
  | deliver (rounds : Nat) (hdr : RtMessageHeader) (data : W) (closure : Ptr)
  | other (f : World M W → World M W) (h : ∀ w, Elsewhere w (f w))

/-- The code an activity runs. -/
def Activity.run : Activity M W → CoreM M W Unit
  | .deliver rounds hdr data closure => onMessage rounds hdr data closure
  | .other f _ => Program.modifyState f

/-- Answers to calls, with activities nested in the blocking ones to depth `n`. -/
abbrev nested (n : Nat) : (e : Call M W) → World M W → e.Answer → World M W → Prop :=
  Nest Activity.run (fun e => e.blocking = true) n

/-- Activities one after another, each with nested activities to depth `n`. -/
def Session (n : Nat) : World M W → World M W → Prop :=
  Relation.ReflTransGen fun w w' =>
    ∃ a : Activity M W, Program.Returns (nested n) a.run w () w'

end Activity

section Nesting

variable {M W : Type}

/-- Events that can be nested in a handler: arrivals, and calls of the application. -/
def Event.isNested (e : Event M W) : Bool :=
  e.isNestedArrival || e.isFlowCall

/-- Nested events are no dispatches and no outermost arrivals. -/
theorem nested_unseen
    {e : Event M W}
    (h : e.isNested = true)
    (r : Option Bool) :
    e.dispatched? = none ∧ e.outermost? = none ∧ Event.running r e = r := by
  cases e with
  | deliver depth hdr msg obj =>
      have hdepth : depth ≠ 0 := by
        simpa [Event.isNested, Event.isNestedArrival, Event.isFlowCall] using h
      obtain ⟨k, rfl⟩ := Nat.exists_eq_succ_of_ne_zero hdepth
      cases r <;> simp [Event.dispatched?, Event.outermost?, Event.running]
  | call e =>
      cases r <;> simp [Event.dispatched?, Event.outermost?, Event.running]
  | _ =>
      simp [Event.isNested, Event.isNestedArrival, Event.isFlowCall] at h

/-- A stretch of nested events adds no dispatch and no outermost arrival. -/
theorem nested_stretch
    {ext : List (Event M W)}
    (h : ∀ e ∈ ext, e.isNested = true)
    (r : Option Bool) :
    dispatchedRequests ext = [] ∧ outermostRequests ext = [] ∧
      ext.foldl Event.running r = r := by
  induction ext with
  | nil =>
      exact ⟨rfl, rfl, rfl⟩
  | cons e ext ih =>
      obtain ⟨hdisp, hout, hrun⟩ := nested_unseen (h e (by simp)) r
      obtain ⟨hdisps, houts, hruns⟩ := ih fun e' he' => h e' (List.mem_cons_of_mem _ he')
      unfold dispatchedRequests at hdisps ⊢
      unfold outermostRequests at houts ⊢
      simp [hdisp, hout, hrun, hdisps, houts, hruns]

/-- What nested activities do to the flow of requests. -/
structure NestedGrowth (w w' : World M W) : Prop where
  stackCounter : w'.stackCounter = w.stackCounter
  gQueuedRequests : w'.gQueuedRequests = .null
  flow : ∃ ext, flow w'.log = flow w.log ++ ext ∧
    (w.stackCounter ≠ 0 → ∀ e ∈ ext, e.isNested = true)

/-- The guarantee of nested activities, as long as the queue has not been created. -/
def Guarantee (w w' : World M W) : Prop :=
  w.gQueuedRequests = .null → NestedGrowth w w'

theorem Guarantee.refl
    (w : World M W) :
    Guarantee w w :=
  fun hqueue => ⟨rfl, hqueue, [], by simp, by simp⟩

theorem Guarantee.trans
    {w₁ w₂ w₃ : World M W}
    (h₁ : Guarantee w₁ w₂)
    (h₂ : Guarantee w₂ w₃) :
    Guarantee w₁ w₃ := by
  intro hqueue
  obtain ⟨hstack₁, hqueue₁, ext₁, hflow₁, hext₁⟩ := h₁ hqueue
  obtain ⟨hstack₂, hqueue₂, ext₂, hflow₂, hext₂⟩ := h₂ hqueue₁
  refine ⟨hstack₂.trans hstack₁, hqueue₂, ext₁ ++ ext₂, ?_, ?_⟩
  · rw [hflow₂, hflow₁, List.append_assoc]
  · intro hne e he
    rcases List.mem_append.mp he with he | he
    · exact hext₁ hne e he
    · exact hext₂ (by rw [hstack₁]; exact hne) e he

/-- Programs between whose calls nested activities take place. -/
def guaranteed : Contract (Call.Answer (M := M) (W := W)) (World M W) where
  env _ w _ w' := Guarantee w w'
  atCall e _ := e ≠ .loop
  atUndef _ := True

/-- A request is being handled: since the history `base` only nested events happened. -/
structure Handling (base : List (Event M W)) (w : World M W) : Prop where
  stackCounter : w.stackCounter = 1
  gQueuedRequests : w.gQueuedRequests = .null
  flow : ∃ ext, flow w.log = base ++ ext ∧ ∀ e ∈ ext, e.isNested = true

/-- Code that leaves the flow alone keeps this up. -/
theorem quiet_handling
    (base : List (Event M W)) :
    Quiet (guaranteed (M := M) (W := W)) (Handling base) where
  same := by
    rintro w w' ⟨hstack, hqueue, hflow⟩ ⟨hone, hnull, ext, hext⟩
    exact ⟨hstack.trans hone, hqueue.trans hnull, ext, by rw [hflow]; exact hext⟩
  env := by
    rintro e w a w' henv ⟨hone, hnull, ext, hext, hnested⟩
    obtain ⟨hstack, hqueue, ext', hflow', hnested'⟩ := henv hnull
    refine ⟨hstack.trans hone, hqueue, ext ++ ext', ?_, ?_⟩
    · rw [hflow', hext, List.append_assoc]
    · intro e he
      rcases List.mem_append.mp he with he | he
      · exact hnested e he
      · exact hnested' (by rw [hone]; decide) e he
  atCall := fun _ _ hloop _ => hloop
  atUndef := fun _ _ => trivial

theorem handling_flowCall
    (base : List (Event M W))
    (w : World M W) (e : Call M W)
    (he : e.isFlow = true)
    (h : Handling base w) :
    Handling base { w with log := w.log ++ [.call e] } := by
  obtain ⟨hone, hnull, ext, hext, hnested⟩ := h
  refine ⟨hone, hnull, ext ++ [.call e], ?_, ?_⟩
  · have hnew : flow [Event.call e] = [.call e] := by
      simp [flow, Event.isFlow, he]
    simp only [flow_append, hnew]
    rw [hext, List.append_assoc]
  · intro e' he'
    rcases List.mem_append.mp he' with he' | he'
    · exact hnested e' he'
    · rw [List.mem_singleton.mp he', Event.isNested, Event.isFlowCall, he, Bool.or_true]

variable [MessageApi M W]

/-- One dispatch: it is entered, what happens during it is nested, it is left. -/
theorem sat_recordedDispatch
    (msg : MessageRef M) (hdr : RtMessageHeader) (obj : Ptr)
    {w : World M W}
    (hone : w.stackCounter = 1)
    (hqueue : w.gQueuedRequests = .null) :
    Program.Sat guaranteed (recordedDispatch msg hdr obj)
      (fun _ w' => w'.stackCounter = 1 ∧ w'.gQueuedRequests = .null ∧
        ∃ ext, flow w'.log = flow w.log ++ .dispatch hdr msg.val obj :: ext ++ [.dispatched] ∧
          ∀ e ∈ ext, e.isNested = true) w := by
  have hstart : Handling (flow w.log ++ [.dispatch hdr msg.val obj])
      { w with log := w.log ++ [.dispatch hdr msg.val obj] } :=
    ⟨hone, hqueue, [], by simp [flow, Event.isFlow], by simp⟩
  have hbody := keeps_dispatchMethodCall ((quiet_handling _).serving (handling_flowCall _))
    msg hdr obj _ hstart
  simp only [recordedDispatch, Program.sat_bind, sat_record]
  refine hbody.mono fun _ w' h' => ?_
  obtain ⟨hone', hqueue', ext, hflow, hext⟩ := h'
  refine ⟨hone', hqueue', ext, ?_, hext⟩
  have hleft : flow [Event.dispatched (M := M) (W := W)] = [.dispatched] := rfl
  rw [flow_append, hleft, hflow, List.append_assoc (flow w.log) [_] ext]
  rfl

/-- A queue that was never created is not consumed. -/
theorem sat_consumeQueue
    (rounds : Nat)
    {Q : Unit → World M W → Prop} {w : World M W}
    (hqueue : w.gQueuedRequests = .null)
    (hQ : Q () w) :
    Program.Sat guaranteed (consumeQueue rounds) Q w := by
  simpa [consumeQueue, hqueue] using hQ

/-- What one arrival adds to the flow. -/
def arrivalFlow (depth : Nat) (hdr : RtMessageHeader) (msg : M) (obj : Ptr)
    (ext : List (Event M W)) : List (Event M W) :=
  if depth = 0 then .deliver depth hdr msg obj :: .dispatch hdr msg obj :: ext ++ [.dispatched]
  else [.deliver depth hdr msg obj]

/-- `queueOrDispatch`, behind an arrival at `depth`. -/
theorem sat_queueOrDispatch
    (msg : MessageRef M) (hdr : RtMessageHeader) (obj : Ptr)
    (depth : Nat) (base : List (Event M W))
    {w : World M W}
    (hstack : w.stackCounter = depth + 1)
    (hqueue : w.gQueuedRequests = .null)
    (hflow : flow w.log = base ++ [.deliver depth hdr msg.val obj]) :
    Program.Sat guaranteed (queueOrDispatch msg hdr obj)
      (fun _ w' => w'.stackCounter = depth + 1 ∧ w'.gQueuedRequests = .null ∧
        ∃ ext, flow w'.log = base ++ arrivalFlow depth hdr msg.val obj ext ∧
          ∀ e ∈ ext, e.isNested = true) w := by
  simp only [queueOrDispatch, Program.sat_bind, Program.sat_getState, Program.sat_ite]
  split
  case isTrue hne =>
    have hdepth : depth ≠ 0 := by omega
    simp only [queuedRequestCreate, updateQueuedRequests, Program.sat_bind, sat_rtMalloc,
      Program.sat_pure, Program.sat_modifyState, hqueue]
    exact ⟨hstack, rfl, [], by rw [hflow, arrivalFlow, if_neg hdepth], by simp⟩
  case isFalse hone =>
    have hdepth : depth = 0 := by omega
    subst hdepth
    refine (sat_recordedDispatch msg hdr obj (by omega) hqueue).mono fun _ w' h' => ?_
    obtain ⟨hone', hqueue', ext, hflow', hext⟩ := h'
    refine ⟨hone', hqueue', ext, ?_, hext⟩
    rw [hflow', hflow, arrivalFlow, if_pos rfl, List.append_assoc, List.append_assoc]
    rfl

/-- `onMessage`, with the queue not created: an arrival during another request's handling
is stored nowhere. -/
theorem sat_onMessage
    (rounds : Nat) (hdr : RtMessageHeader) (data : W) (closure : Ptr)
    {w : World M W}
    (hqueue : w.gQueuedRequests = .null) :
    Program.Sat guaranteed (onMessage rounds hdr data closure)
      (fun _ w' => w'.stackCounter = w.stackCounter ∧ w'.gQueuedRequests = .null ∧
        ∃ ext, flow w'.log = flow w.log ++
            arrivalFlow w.stackCounter hdr (MessageApi.fromBytes data) closure ext ∧
          ∀ e ∈ ext, e.isNested = true) w := by
  simp only [onMessage, Program.sat_bind, sat_newMessage, Program.sat_getState, sat_record,
    updateStackCounter, Program.sat_modifyState]
  refine Program.Sat.mono (sat_queueOrDispatch _ hdr closure w.stackCounter (flow w.log)
    ?_ ?_ ?_) fun _ w₁ h₁ => ?_
  · rfl
  · exact hqueue
  · simp [flow, Event.isFlow]
  obtain ⟨hstack₁, hqueue₁, hflow₁⟩ := h₁
  refine sat_consumeQueue rounds hqueue₁ ?_
  simp only [rbusMessageRelease, Program.sat_bind, Program.sat_getState, Program.sat_ite,
    sat_crash, Program.sat_modifyState]
  split
  · trivial
  · exact ⟨by simp [hstack₁], hqueue₁, hflow₁⟩

end Nesting

section Sessions

variable {M W : Type} [MessageApi M W]

/-- Every activity keeps the guarantee. -/
theorem sat_activity
    (a : Activity M W)
    {w : World M W}
    (hqueue : w.gQueuedRequests = .null) :
    Program.Sat guaranteed a.run (fun _ w' => NestedGrowth w w') w := by
  cases a with
  | deliver rounds hdr data closure =>
      refine (sat_onMessage rounds hdr data closure hqueue).mono fun _ w' h' => ?_
      obtain ⟨hstack, hqueue', ext, hflow, -⟩ := h'
      refine ⟨hstack, hqueue', _, hflow, fun hne e he => ?_⟩
      rw [arrivalFlow, if_neg hne] at he
      rw [List.mem_singleton.mp he]
      simp [Event.isNested, Event.isNestedArrival, hne]
  | other f h =>
      obtain ⟨hstack, hqueue', calls, hflow, hcalls⟩ := h w
      refine ⟨hstack, hqueue'.trans hqueue, calls, hflow, fun _ e he => ?_⟩
      rw [Event.isNested, hcalls e he, Bool.or_true]

/-- Whatever is nested in a handler, to any depth, leaves the counter and the queue alone
and dispatches nothing. -/
theorem nested_growth
    (n : Nat) (e : Call M W) (w : World M W) (a : e.Answer) (w' : World M W)
    (h : nested n e w a w') :
    Guarantee w w' := by
  refine nest_guarantee Activity.run _ Guarantee Guarantee.refl
    (fun _ _ _ => Guarantee.trans) (fun R hR i s s' hreturns hqueue => ?_) n e w a w' h
  have hgrowth := Program.returns_of_sat hR (sat_activity i hqueue) hreturns
  exact hgrowth

/-- What is known about a session: nothing is running, and apart from the nested arrivals
every request has been dispatched. -/
structure Between (w : World M W) : Prop where
  stackCounter : w.stackCounter = 0
  gQueuedRequests : w.gQueuedRequests = .null
  running : (flow w.log).foldl Event.running (some false) = some false
  dispatched : dispatchedRequests (flow w.log) = outermostRequests (flow w.log)

/-- One activity at the outermost level. -/
theorem between_activity
    {n : Nat} {a : Activity M W} {w w' : World M W}
    (h : Between w)
    (hreturns : Program.Returns (nested n) a.run w () w') :
    Between w' := by
  obtain ⟨hstack, hqueue, hrunning, hdispatched⟩ := h
  cases a with
  | deliver rounds hdr data closure =>
      have hsat := sat_onMessage rounds hdr data closure hqueue
      obtain ⟨hstack', hqueue', ext, hflow, hext⟩ :=
        Program.returns_of_sat (nested_growth n) hsat hreturns
      obtain ⟨hdisp, hout, hrun⟩ := nested_stretch hext (some true)
      refine ⟨hstack'.trans hstack, hqueue', ?_, ?_⟩
      · rw [hflow, hstack, arrivalFlow, if_pos rfl, List.foldl_append, hrunning]
        simp [Event.running, hrun]
      · unfold dispatchedRequests at hdisp hdispatched ⊢
        unfold outermostRequests at hout hdispatched ⊢
        rw [hflow, hstack, arrivalFlow, if_pos rfl]
        simp [List.filterMap_cons, Event.dispatched?, Event.outermost?, hdisp, hout,
          hdispatched]
  | other f hf =>
      obtain ⟨hstack', hqueue', calls, hflow, hcalls⟩ := hf w
      have hreach : w' = f w := by
        have hsat : Program.Sat (guaranteed (M := M) (W := W))
            (Activity.other f hf).run (fun _ w' => w' = f w) w := rfl
        have hend := Program.returns_of_sat (nested_growth n) hsat hreturns
        exact hend
      have hnested : ∀ e ∈ calls, e.isNested = true := fun e he => by
        rw [Event.isNested, hcalls e he, Bool.or_true]
      obtain ⟨hdisp, hout, hrun⟩ := nested_stretch hnested (some false)
      subst hreach
      refine ⟨hstack'.trans hstack, hqueue'.trans hqueue, ?_, ?_⟩
      · rw [hflow, List.foldl_append, hrunning, hrun]
      · unfold dispatchedRequests at hdisp hdispatched ⊢
        unfold outermostRequests at hout hdispatched ⊢
        rw [hflow, List.filterMap_append, List.filterMap_append, hdisp, hout, hdispatched]

/-- A session from a state in which nothing happened yet. -/
theorem between_session
    {n : Nat} {w w' : World M W}
    (h : Between w)
    (hsession : Session n w w') :
    Between w' := by
  induction hsession with
  | refl =>
      exact h
  | tail _ hstep ih =>
      obtain ⟨a, hreturns⟩ := hstep
      exact between_activity ih hreturns

/-- The history of a process up to the creation of its tables: `perform_init` in a fresh
process. -/
def afterPerformInit (daemonAddress advisoryTopic : CString) (w : World M W) : Prop :=
  Program.Returns (nested 0) performInit (World.initial daemonAddress advisoryTopic) () w

/-- The states of a process from `perform_init` on: between its activities, and inside
them wherever the library waits or runs application code. -/
inductive Reached : World M W → Prop
  | init {daemonAddress advisoryTopic : CString} {w : World M W}
      (h : afterPerformInit daemonAddress advisoryTopic w) :
      Reached w
  | activity {n : Nat} {a : Activity M W} {w w' : World M W}
      (h : Reached w)
      (hreturns : Program.Returns (nested n) a.run w () w') :
      Reached w'
  | inside {n : Nat} {a : Activity M W} {w w' : World M W} {e : Call M W}
      (h : Reached w)
      (hwaits : Program.Waits (nested n) a.run w e w') :
      Reached w'

/-- Programs that never see a queue. -/
def queueless : Contract (Call.Answer (M := M) (W := W)) (World M W) where
  env _ w _ w' := Guarantee w w'
  atCall _ w := w.gQueuedRequests = .null
  atUndef _ := True

omit [MessageApi M W] in
theorem quiet_queueless :
    Quiet (queueless (M := M) (W := W)) (fun w => w.gQueuedRequests = .null) where
  same _ _ hsame hqueue := hsame.gQueuedRequests.trans hqueue
  env _ _ _ _ henv hqueue := (henv hqueue).gQueuedRequests
  atCall _ _ _ hqueue := hqueue
  atUndef _ _ := trivial

/-- No activity creates the queue. -/
theorem keeps_queueless
    (a : Activity M W) :
    Program.Keeps queueless (fun w => w.gQueuedRequests = .null) a.run := by
  cases a with
  | deliver rounds hdr data closure =>
      have hrecord (e : Event M W) :
          Program.Keeps queueless (fun w => w.gQueuedRequests = .null) (record e) :=
        fun _ hqueue => hqueue
      refine Program.keeps_bind (keeps_newMessage quiet_queueless.listening.toSteady _) fun msg => ?_
      refine Program.keeps_bind Program.keeps_getState fun _ => ?_
      refine Program.keeps_bind (hrecord _) fun _ => ?_
      refine Program.keeps_bind (Program.keeps_modifyState fun _ hqueue => hqueue) fun _ => ?_
      refine Program.keeps_bind ?_ fun _ => Program.keeps_bind ?_ fun _ =>
        Program.keeps_bind (Program.keeps_modifyState fun _ hqueue => hqueue) fun _ =>
          keeps_rbusMessageRelease quiet_queueless.listening.toSteady msg
      · refine Program.keeps_bind Program.keeps_getState fun _ => Program.keeps_ite ?_ ?_
        · refine Program.keeps_bind (Program.keeps_bind
            (keeps_rtMalloc quiet_queueless.listening.toSteady)
              fun _ => Program.keeps_pure _) fun _ => ?_
          exact Program.keeps_modifyState fun w hqueue => by simp [hqueue, RtVector.update]
        · exact Program.keeps_bind (hrecord _) fun _ => Program.keeps_bind
            (keeps_dispatchMethodCall (quiet_queueless.serving fun _ _ _ hqueue => hqueue) _ _ _)
              fun _ => hrecord _
      · intro w hqueue
        simp [consumeQueue, hqueue]
  | other f h =>
      exact Program.keeps_modifyState fun w hqueue => (h w).gQueuedRequests.trans hqueue

/-- The queue is never created. -/
theorem Reached.gQueuedRequests
    {w : World M W}
    (h : Reached w) :
    w.gQueuedRequests = .null := by
  induction h with
  | @init daemonAddress advisoryTopic w h =>
      have hsat : Program.Sat (guaranteed (M := M) (W := W)) performInit
          (fun _ w => w.gQueuedRequests = .null)
          (World.initial daemonAddress advisoryTopic) := rfl
      have hend := Program.returns_of_sat (nested_growth 0) hsat h
      exact hend
  | @activity n a w w' _ hreturns ih =>
      have hend := Program.returns_of_sat (nested_growth n) (keeps_queueless a w ih) hreturns
      exact hend
  | @inside n a w w' e _ hwaits ih =>
      have hcall := Program.waits_of_sat (nested_growth n) (keeps_queueless a w ih) hwaits
      exact hcall

/--
From the state `perform_init` leaves, and for sessions of any length with arrivals nested
to any depth: the requests are dispatched once each, in the order of their arrival and one
at a time, with the queue empty and the counter back at zero, exactly when no request
arrived while another one was being handled.
-/
theorem served_iff_no_nested_arrival
    (daemonAddress advisoryTopic : CString)
    (n : Nat)
    (w₀ w : World M W)
    (hinit : afterPerformInit daemonAddress advisoryTopic w₀)
    (hsession : Session n w₀ w) :
    Served w ↔ ∀ e ∈ w.log, e.isNestedArrival = false := by
  have hstart : Between w₀ := by
    have hsat : Program.Sat (guaranteed (M := M) (W := W)) performInit
        (fun _ w => Between w) (World.initial daemonAddress advisoryTopic) :=
      ⟨rfl, rfl, rfl, rfl⟩
    have hend := Program.returns_of_sat (nested_growth 0) hsat hinit
    exact hend
  obtain ⟨hstack, hqueue, hrunning, hdispatched⟩ := between_session hstart hsession
  have hdisp : dispatchedRequests w.log = outermostRequests w.log := by
    have hunseen (e : Event M W) (he : e.isFlow = false) :
        e.dispatched? = none ∧ e.outermost? = none := by
      cases e <;> simp_all [Event.isFlow, Event.dispatched?, Event.outermost?]
    unfold dispatchedRequests outermostRequests at hdispatched ⊢
    rwa [filterMap_flow fun e he => (hunseen e he).1,
      filterMap_flow fun e he => (hunseen e he).2] at hdispatched
  constructor
  · intro hserved e he
    have hlen := length_deliveredRequests w.log
    rw [← hserved.inOrder, hdisp] at hlen
    have hcount : w.log.countP Event.isNestedArrival = 0 := by omega
    simpa using List.countP_eq_zero.mp hcount e he
  · intro hnone
    refine ⟨?_, ?_, ?_, hstack⟩
    · rw [hdisp, deliveredRequests_of_no_nested hnone]
    · rw [← foldl_running_flow, hrunning]
      decide
    · rw [hqueue]
      rfl

end Sessions

section Run

/-- The header of a request to the object `o`. -/
def sampleHeader (sequenceNumber : Nat) : RtMessageHeader where
  topic := sampleObjectName.val
  replyTopic := sampleInbox
  sequenceNumber := sequenceNumber
  request := true

/-- The object `o` at address 1, with nothing but its default callback. -/
def sampleObject : ServerObject where
  ptr := 1
  name := sampleObjectName
  data := 0
  callback := 0
  processEventSubscriptions := false
  methods := []
  subscriptions := []
  subscribeHandlerOverride := none
  subscribeHandlerData := 0

/-- An object is registered. -/
def sampleRegistration (object : ServerObject) : Activity Bytes (List UInt8) :=
  .other (fun w => { w with gServerObjects := .live [object] })
    fun _ => ⟨rfl, rfl, [], by simp, by simp⟩

/-- A request with an empty message arrives. -/
def sampleArrival (sequenceNumber : Nat) : Activity Bytes (List UInt8) :=
  .deliver 0 (sampleHeader sequenceNumber) [] 1

/-- A handler that declines to respond, and a transport that accepts everything. -/
def plainAnswer :
    (e : Call Bytes (List UInt8)) → World Bytes (List UInt8) →
      Option (e.Answer × World Bytes (List UInt8))
  | .methodCallback .., w => some (⟨.success, none⟩, w)
  | .sendBinaryResponse .., w => some (.rtOk, w)
  | _, _ => none

/-- The same, with a second request during the handling of the first. -/
def nestingAnswer :
    (e : Call Bytes (List UInt8)) → World Bytes (List UInt8) →
      Option (e.Answer × World Bytes (List UInt8))
  | .methodCallback .., w =>
      ((sampleArrival 2).run w).run plainAnswer |>.map fun r => (⟨.success, none⟩, r.2)
  | .sendBinaryResponse .., w => some (.rtOk, w)
  | _, _ => none

/-- These answers change no state. -/
theorem plainAnswer_same
    {e : Call Bytes (List UInt8)} {w w' : World Bytes (List UInt8)} {a : e.Answer}
    (h : plainAnswer e w = some (a, w')) :
    w' = w := by
  cases e with
  | methodCallback =>
      exact (congrArg Prod.snd (Option.some.inj h)).symm
  | sendBinaryResponse =>
      exact (congrArg Prod.snd (Option.some.inj h)).symm
  | _ =>
      cases h

theorem nested_of_plainAnswer
    {n : Nat} (e : Call Bytes (List UInt8)) (w : World Bytes (List UInt8)) (a : e.Answer)
    (w' : World Bytes (List UInt8))
    (h : plainAnswer e w = some (a, w')) :
    nested n e w a w' :=
  nest_of_eq (plainAnswer_same h)

theorem nested_of_nestingAnswer
    (e : Call Bytes (List UInt8)) (w : World Bytes (List UInt8)) (a : e.Answer)
    (w' : World Bytes (List UInt8))
    (h : nestingAnswer e w = some (a, w')) :
    nested 1 e w a w' := by
  cases e with
  | methodCallback =>
      obtain ⟨r, hr, heq⟩ := Option.map_eq_some_iff.mp h
      obtain ⟨rfl, rfl⟩ := Prod.mk.inj heq
      refine Or.inr ⟨rfl, .single ⟨sampleArrival 2, ?_⟩⟩
      exact Program.returns_of_run nested_of_plainAnswer hr
  | sendBinaryResponse =>
      obtain ⟨rfl, rfl⟩ := Prod.mk.inj (Option.some.inj h)
      exact Or.inl rfl
  | _ =>
      cases h

/-- The state `perform_init` leaves. -/
def sampleInit : World Bytes (List UInt8) :=
  { (World.initial .empty .empty : World Bytes (List UInt8)) with
    gServerObjects := .live []
    gEventSubscriptionsForClient := .live []
    log := [.write false] }

theorem afterPerformInit_sampleInit : afterPerformInit .empty .empty sampleInit :=
  Relation.ReflTransGen.refl

/-- The state with an object registered. -/
def sampleRegistered (object : ServerObject) : World Bytes (List UInt8) :=
  { sampleInit with gServerObjects := .live [object] }

theorem session_sampleRegistered
    (n : Nat)
    (object : ServerObject) :
    Session n sampleInit (sampleRegistered object) :=
  .single ⟨sampleRegistration object, Relation.ReflTransGen.refl⟩

theorem reached_sampleRegistered
    (object : ServerObject) :
    Reached (sampleRegistered object) :=
  .activity (n := 0) (a := sampleRegistration object) (.init afterPerformInit_sampleInit) .refl

/-- Numbers of requests that arrived and that were dispatched. -/
def requestCounts (w : World Bytes (List UInt8)) : Nat × Nat :=
  ((deliveredRequests w.log).length, (dispatchedRequests w.log).length)

/-- A request that finds nothing else going on is served. -/
theorem single_request_served :
    ∃ w₀ w : World Bytes (List UInt8),
      afterPerformInit .empty .empty w₀ ∧ Session 0 w₀ w ∧
        requestCounts w = (1, 1) ∧ Served w := by
  have hrun : (((sampleArrival 1).run (sampleRegistered sampleObject)).run plainAnswer).map
      (fun r => (requestCounts r.2, r.2.log.all fun e => !e.isNestedArrival)) =
        some ((1, 1), true) := by
    decide +kernel
  obtain ⟨⟨⟨⟩, w⟩, hw, hcounts⟩ := Option.map_eq_some_iff.mp hrun
  have hsession : Session 0 sampleInit w :=
    (session_sampleRegistered 0 sampleObject).tail
      ⟨sampleArrival 1, Program.returns_of_run nested_of_plainAnswer hw⟩
  refine ⟨sampleInit, w, afterPerformInit_sampleInit, hsession, congrArg Prod.fst hcounts, ?_⟩
  have hnone : w.log.all (fun e => !e.isNestedArrival) = true := congrArg Prod.snd hcounts
  refine (served_iff_no_nested_arrival .empty .empty 0 sampleInit w
    afterPerformInit_sampleInit hsession).mpr fun e he => ?_
  simpa using List.all_eq_true.mp hnone e he

/-- A request that arrives during the handling of another one is lost. -/
theorem nested_request_lost :
    ∃ w₀ w : World Bytes (List UInt8),
      afterPerformInit .empty .empty w₀ ∧ Session 1 w₀ w ∧
        requestCounts w = (2, 1) ∧ ¬ Served w := by
  have hrun : (((sampleArrival 1).run (sampleRegistered sampleObject)).run nestingAnswer).map
      (fun r => requestCounts r.2) = some (2, 1) := by
    decide +kernel
  obtain ⟨⟨⟨⟩, w⟩, hw, hcounts⟩ := Option.map_eq_some_iff.mp hrun
  refine ⟨sampleInit, w, afterPerformInit_sampleInit, ?_, hcounts, fun hserved => ?_⟩
  · exact (session_sampleRegistered 1 sampleObject).tail
      ⟨sampleArrival 1, Program.returns_of_run nested_of_nestingAnswer hw⟩
  · have hlen := congrArg List.length hserved.inOrder
    have hone : (dispatchedRequests w.log).length = 1 := congrArg Prod.snd hcounts
    have htwo : (deliveredRequests w.log).length = 2 := congrArg Prod.fst hcounts
    omega

end Run

end RbusCore
