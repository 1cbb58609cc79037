import RbusCore.MetaSection
import RbusCore.RequestQueue

/-!
# Responses to requests

A handler that returns `RTMESSAGE_BUS_SUCCESS_ASYNC` sends its response later.  For the
default callback of an object `dispatch_method_call` looks at what it returns, for a
callback of the method table it does not.

**Results.**
* `sat_onMessage_counts`: how many responses one arrival leads to.
* `sat_serve_counts`: the same with the response that a handler sends later.
-/

namespace RbusCore

open CStrings Resumption MessagePack

section Counting

variable {M W : Type}

/-- A response that carries a header. -/
def Event.isResponseFor (hdr : RtMessageHeader) : Event M W → Bool
  | .call (.sendBinaryResponse _ hdr' _ _) => decide (hdr' = hdr)
  | _ => false

/-- The invocation of a handler of the application. -/
def Event.isHandlerCall : Event M W → Bool
  | .call (.methodCallback ..) => true
  | _ => false

/-- Responses that carry a header, and handlers invoked. -/
def responseCounts (hdr : RtMessageHeader) (log : List (Event M W)) : Nat × Nat :=
  (log.countP (Event.isResponseFor hdr), log.countP Event.isHandlerCall)

@[simp] theorem responseCounts_append
    (hdr : RtMessageHeader)
    (log log' : List (Event M W)) :
    responseCounts hdr (log ++ log') = responseCounts hdr log + responseCounts hdr log' := by
  simp [responseCounts]

/-- Only the flow of requests is looked at. -/
theorem responseCounts_flow
    (hdr : RtMessageHeader)
    (log : List (Event M W)) :
    responseCounts hdr (flow log) = responseCounts hdr log := by
  unfold responseCounts flow
  rw [List.countP_filter, List.countP_filter]
  have hresponse (e : Event M W) :
      (e.isResponseFor hdr && e.isFlow) = e.isResponseFor hdr := by
    cases e with
    | call e =>
        cases e <;> simp [Event.isResponseFor, Event.isFlow, Call.isFlow]
    | _ =>
        rfl
  have hhandler (e : Event M W) : (e.isHandlerCall && e.isFlow) = e.isHandlerCall := by
    cases e with
    | call e =>
        cases e <;> rfl
    | _ =>
        rfl
  simp only [hresponse, hhandler]

end Counting

section Service

variable {U : Unpacker}

/-- Handlers answer with `result`. -/
def AnswersWith (result : HandlerResult (RbusMessage U)) :
    (e : Call (RbusMessage U) (List UInt8)) → e.Answer → Prop
  | .methodCallback .., a => a = result
  | _, _ => True

/-- The process while a request is served: what else happens in it is not entered into the
history, and requests that arrive meanwhile leave the counter and the queue as they were. -/
def serving (result : HandlerResult (RbusMessage U)) :
    (e : Call (RbusMessage U) (List UInt8)) → World (RbusMessage U) (List UInt8) → e.Answer →
      World (RbusMessage U) (List UInt8) → Prop :=
  fun e w a w' =>
    AnswersWith result e a ∧
      (if e.blocking then
        w'.log = w.log ∧ w'.stackCounter = w.stackCounter ∧
          w'.gQueuedRequests = w.gQueuedRequests
      else w' = w)

/-- The handler has been invoked and has deferred its response. -/
def Deferred
    (hdr : RtMessageHeader) (result : HandlerResult (RbusMessage U))
    (w : World (RbusMessage U) (List UInt8)) : Prop :=
  (responseCounts hdr w.log).2 ≠ 0 ∧ result.ret = .successAsync

instance
    (hdr : RtMessageHeader) (result : HandlerResult (RbusMessage U))
    (w : World (RbusMessage U) (List UInt8)) :
    Decidable (Deferred hdr result w) :=
  inferInstanceAs (Decidable (_ ∧ _))

/-- A request from its arrival to the response of a handler that has deferred it. -/
def serve
    (rounds : Nat) (hdr : RtMessageHeader) (data : List UInt8) (obj : Ptr)
    (result : HandlerResult (RbusMessage U)) (later : Option (RbusMessage U)) :
    CoreM (RbusMessage U) (List UInt8) Unit := do
  onMessage rounds hdr data obj
  let w ← Program.getState
  if Deferred hdr result w then do
    let response ← newMessageUnlessNull later
    let _ ← rbusSendResponse hdr response
    pure ()
  else pure ()

/-- The state with an empty history. -/
def World.fresh {M W : Type} (w : World M W) : World M W := { w with log := [] }

/-- The method of the table that a message is for. -/
def lookupMethod
    (w : World (RbusMessage U) (List UInt8)) (data : List UInt8) (obj : Ptr) :
    Option ServerMethod := do
  let object ← w.gServerObjects.items.find? fun o => o.ptr = obj
  let name ← (MessageApi.getString
    (MessageApi.beginMetaSectionRead (rbusMessageFromBytes data : RbusMessage U))).1
  let found ← findAt? maxMethodNameLength (fun m => m.name.val) name object.methods
  found

/-- The contract of code that serves a request. -/
def servingContract (result : HandlerResult (RbusMessage U)) :
    Contract (Call.Answer (M := RbusMessage U) (W := List UInt8))
      (World (RbusMessage U) (List UInt8)) where
  env := serving result
  atCall _ _ := True
  atUndef _ := True

/-- Counter, queue and counts. -/
structure Counted
    (hdr : RtMessageHeader) (k : Nat) (counts : Nat × Nat)
    (w : World (RbusMessage U) (List UInt8)) : Prop where
  stackCounter : w.stackCounter = k
  gQueuedRequests : w.gQueuedRequests = .null
  counts : responseCounts hdr w.log = counts

variable {result : HandlerResult (RbusMessage U)} {hdr : RtMessageHeader}
variable {k : Nat} {counts : Nat × Nat}

theorem quiet_counted : Quiet (servingContract result) (Counted hdr k counts) where
  same := by
    rintro w w' ⟨hstack, hqueue, hflow⟩ ⟨hk, hnull, hcounts⟩
    refine ⟨hstack.trans hk, hqueue.trans hnull, ?_⟩
    rw [← responseCounts_flow, hflow, responseCounts_flow, hcounts]
  env := by
    rintro e w a w' ⟨-, henv⟩ ⟨hk, hnull, hcounts⟩
    split at henv
    · obtain ⟨hlog, hstack, hqueue⟩ := henv
      exact ⟨hstack.trans hk, hqueue.trans hnull, by rw [hlog, hcounts]⟩
    · subst henv
      exact ⟨hk, hnull, hcounts⟩
  atCall := fun _ _ _ _ => trivial
  atUndef := fun _ _ => trivial

/-- The header's share in a response. -/
def requestCount (hdr : RtMessageHeader) : Nat := if hdr.request = true then 1 else 0

/-- Beginning a section keeps the packer. -/
theorem exists_beginMetaSectionWriteRef
    (m : MessageRef (RbusMessage U)) :
    ∃ b : RbusMessage U, beginMetaSectionWriteRef m = ⟨m.ptr, b⟩ ∧ b.pk = m.val.pk := by
  refine ⟨rbusMessageBeginMetaSectionWrite m.val, ?_, rbusMessageBeginMetaSectionWrite_pk m.val⟩
  rw [beginMetaSectionWriteRef, messageApi_beginMetaSectionWrite]

/-- Nothing can be written to a message that has been received. -/
theorem setMessageMethod_unwritable
    {m : MessageRef (RbusMessage U)}
    (hpk : m.val.pk = false)
    (method : Option CString)
    (w : World (RbusMessage U) (List UInt8)) :
    ∃ w', setMessageMethod m method w = .undef w' := by
  obtain ⟨b, hval, hbegin⟩ := exists_beginMetaSectionWriteRef m
  have hset : rbusMessageSetString b method = none := by
    have hwrite (bytes : List UInt8) : packerWrite b bytes = none := by
      simp only [packerWrite, hbegin, hpk, Bool.false_eq_true, if_false]
    simp only [rbusMessageSetString, hwrite, ite_self]
  have hstring : setStringRef (W := List UInt8) (beginMetaSectionWriteRef m) method =
      crash .packer := by
    rw [setStringRef, hval, messageApi_setString, hset, written]
  rw [setMessageMethod, hstring]
  exact ⟨_, rfl⟩

/-- A response that can be written to, if there is one. -/
def Writable (response : Option (RbusMessage U)) : Prop :=
  ∀ m, response = some m → m.pk = true

/-- `rbus_sendResponse` sends one response for a request and none for anything else. -/
theorem sat_rbusSendResponse_counts
    (response : Option (MessageRef (RbusMessage U)))
    {w : World (RbusMessage U) (List UInt8)}
    (h : Counted hdr k counts w) :
    Program.Sat (servingContract result) (rbusSendResponse hdr response)
      (fun _ w' => (hdr.request = true → Writable (response.map MessageRef.val)) ∧
        Counted hdr k (counts + (requestCount hdr, 0)) w') w := by
  unfold rbusSendResponse
  rw [Program.sat_ite]
  split
  case isTrue hrequest =>
    have hquiet {counts : Nat × Nat} :
        Quiet (servingContract result) (Counted hdr k counts) := quiet_counted
    have hmade : Program.Sat (servingContract result) (responseOrUnsupported response)
        (fun r w₁ => Counted hdr k counts w₁ ∧
          (r.val.pk = true → Writable (response.map MessageRef.val))) w := by
      cases response with
      | none =>
          have hnone : Writable (none : Option (RbusMessage U)) := by simp [Writable]
          refine (Program.keeps_bind (keeps_newMessage hquiet.listening.toSteady _)
            (fun _ => keeps_written hquiet.listening.toCalling _ _) w h).mono fun _ w₁ h₁ =>
              ⟨h₁, fun _ => hnone⟩
      | some response =>
          refine ⟨h, fun hpk m hm => ?_⟩
          obtain rfl := Option.some.inj hm
          exact hpk
    rw [Program.sat_bind]
    refine hmade.mono fun response₁ w₁ h₁ => ?_
    obtain ⟨h₁, hwritable⟩ := h₁
    rw [Program.sat_bind]
    cases hpk : response₁.val.pk with
    | false =>
        obtain ⟨w₂, hundef⟩ := setMessageMethod_unwritable hpk (some methodResponse) w₁
        rw [Program.Sat, hundef]
        trivial
    | true =>
        have hmethod := keeps_setMessageMethod hquiet.listening.toSteady response₁
          (some methodResponse) w₁ h₁
        refine hmethod.mono fun response₂ w₂ h₂ => ?_
        simp only [Program.sat_bind, sat_gConnectionPtr, sat_call]
        refine ⟨trivial, fun err w₃ henv => ?_⟩
        have h₃ : Counted hdr k (counts + (requestCount hdr, 0)) w₃ := by
          refine hquiet.env _ _ _ _ henv ⟨h₂.stackCounter, h₂.gQueuedRequests, ?_⟩
          have hone : requestCount hdr = 1 := if_pos hrequest
          rw [hone, responseCounts_append, h₂.counts]
          simp [responseCounts, Event.isResponseFor, Event.isHandlerCall]
        exact (keeps_rbusMessageRelease hquiet.listening.toSteady response₂ w₃ h₃).mono
          fun _ _ h₄ => ⟨fun _ => hwritable hpk, h₄⟩
  case isFalse hrequest =>
    have hzero : requestCount hdr = 0 := if_neg hrequest
    rw [hzero]
    exact ⟨fun hyes => absurd hyes hrequest, h⟩

/-- A handler of the application is invoked once and gives its result. -/
theorem sat_appMethodCallback_counts
    (id : Nat) (topic : CString) (methodName : Option (List UInt8)) (request : RbusMessage U)
    (data : Ptr)
    {w : World (RbusMessage U) (List UInt8)}
    (h : Counted hdr k counts w) :
    Program.Sat (servingContract result) (appMethodCallback id topic methodName request data hdr)
      (fun r w' => (r.1 = result.ret ∧ r.2.map MessageRef.val = result.response) ∧
        Counted hdr k (counts + (0, 1)) w') w := by
  have hquiet : Quiet (servingContract result) (Counted hdr k (counts + (0, 1))) :=
    quiet_counted
  simp only [appMethodCallback, Program.sat_bind, sat_call]
  refine ⟨trivial, fun a w₁ henv => ?_⟩
  obtain rfl : a = result := henv.1
  have h₁ : Counted hdr k (counts + (0, 1)) w₁ := by
    refine hquiet.env _ _ _ _ henv ⟨h.stackCounter, h.gQueuedRequests, ?_⟩
    rw [responseCounts_append, h.counts]
    simp [responseCounts, Event.isResponseFor, Event.isHandlerCall]
  cases hresponse : a.response with
  | none =>
      exact ⟨⟨rfl, rfl⟩, h₁⟩
  | some m =>
      simp only [newMessageUnlessNull, Program.sat_bind]
      exact ⟨⟨rfl, rfl⟩, keeps_newMessage hquiet.listening.toSteady m w₁ h₁⟩

theorem counts_add
    (counts : Nat × Nat)
    (a b : Nat) :
    counts + (0, b) + (a, 0) = counts + (a, b) :=
  Prod.ext (by simp) (by simp)

/-- What `dispatch_method_call` leads to: the response is sent at once unless the default
callback has deferred it. -/
def dispatchCounts (method : Option ServerMethod) (ret : RbusError) (hdr : RtMessageHeader) :
    Nat × Nat :=
  match method with
  | some method =>
      (requestCount hdr, if method.callback = .subscriptionHandler then 0 else 1)
  | none => (if ret = .successAsync then 0 else requestCount hdr, 1)

/-- A response of the application, where it is sent at once, can be written to. -/
def ResponseWritable
    (result : HandlerResult (RbusMessage U)) : Option ServerMethod → Prop
  | some method => ∀ id, method.callback = .app id → Writable result.response
  | none => result.ret ≠ .successAsync → Writable result.response

theorem sat_dispatchTo_counts
    (method : Option ServerMethod) (obj : Ptr) (methodName : Option (List UInt8))
    (request : RbusMessage U)
    {w : World (RbusMessage U) (List UInt8)}
    (h : Counted hdr k counts w) :
    Program.Sat (servingContract result) (dispatchTo method obj methodName request hdr)
      (fun _ w' => (hdr.request = true → ResponseWritable result method) ∧
        Counted hdr k (counts + dispatchCounts method result.ret hdr) w') w := by
  cases method with
  | some method =>
      have hinvoke : Program.Sat (servingContract result)
          (invokeMethodCallback method.callback hdr.topic methodName request method.data hdr)
          (fun r w' =>
            (∀ id, method.callback = .app id → r.2.map MessageRef.val = result.response) ∧
              Counted hdr k
                (counts + (0, if method.callback = .subscriptionHandler then 0 else 1)) w') w := by
        cases hcallback : method.callback with
        | subscriptionHandler =>
            refine (keeps_subscriptionHandler quiet_counted.listening _ _ _ w h).mono
              fun _ _ h' => ?_
            exact ⟨by simp, h'⟩
        | app id =>
            refine (sat_appMethodCallback_counts id _ methodName request _ h).mono
              fun _ _ h' => ?_
            exact ⟨fun _ _ => h'.1.2, h'.2⟩
      simp only [dispatchTo, dispatchToMethod, Program.sat_bind, Program.sat_pure]
      refine hinvoke.mono fun r w₁ h₁ => ?_
      refine (sat_rbusSendResponse_counts r.2 h₁.2).mono fun _ w₂ h₂ => ?_
      obtain ⟨hwritable, h₂⟩ := h₂
      rw [counts_add] at h₂
      refine ⟨fun hrequest id hcallback => ?_, h₂⟩
      rw [← h₁.1 id hcallback]
      exact hwritable hrequest
  | none =>
      simp only [dispatchTo, dispatchToObject, Program.sat_bind, Program.sat_ite,
        Program.sat_pure]
      refine (keeps_derefObject quiet_counted.listening.toCalling obj w h).mono
        fun object w₁ h₁ => ?_
      refine (sat_appMethodCallback_counts object.callback _ methodName request _ h₁).mono
        fun r w₂ h₂ => ?_
      obtain ⟨⟨hret, hresponse⟩, h₂⟩ := h₂
      rw [hret]
      split
      case isTrue hasync =>
        refine ⟨fun _ hnot => absurd hasync hnot, ?_⟩
        simpa only [dispatchCounts, hasync, if_true] using h₂
      case isFalse hnot =>
        refine (sat_rbusSendResponse_counts r.2 h₂).mono fun _ w₃ h₃ => ?_
        obtain ⟨hwritable, h₄⟩ := h₃
        rw [hresponse] at hwritable
        refine ⟨fun hrequest _ => hwritable hrequest, ?_⟩
        rw [counts_add] at h₄
        simpa only [dispatchCounts, hnot, if_false] using h₄

/-- The lookup of `dispatch_method_call`. -/
theorem sat_findMethod
    {C : Contract (Call.Answer (M := RbusMessage U) (W := List UInt8))
      (World (RbusMessage U) (List UInt8))}
    (hundef : ∀ w, C.atUndef w)
    (object : ServerObject) (name : Option (List UInt8))
    {Q : Option ServerMethod → World (RbusMessage U) (List UInt8) → Prop}
    {w : World (RbusMessage U) (List UInt8)}
    (h : Q (do
      let name ← name
      let found ← findAt? maxMethodNameLength (fun m => m.name.val) name object.methods
      found) w) :
    Program.Sat C (findMethod object name) Q w := by
  cases name with
  | none =>
      exact h
  | some name =>
      simp only [findMethod, rtVectorFindAt]
      cases hfound : findAt? maxMethodNameLength (fun m => m.name.val) name object.methods with
      | none =>
          exact hundef _
      | some found =>
          simpa [hfound] using h

/-- The responses one arrival leads to, and the handlers invoked for it. -/
def arrivalCounts
    (w : World (RbusMessage U) (List UInt8)) (hdr : RtMessageHeader) (data : List UInt8)
    (obj : Ptr) (ret : RbusError) : Nat × Nat :=
  if w.stackCounter = 0 then dispatchCounts (lookupMethod w data obj) ret hdr else (0, 0)

/-- The response of a handler that is invoked for a request, where it is sent at once, can be
written to. -/
def ArrivalWritable
    (w : World (RbusMessage U) (List UInt8)) (hdr : RtMessageHeader) (data : List UInt8)
    (obj : Ptr) (result : HandlerResult (RbusMessage U)) : Prop :=
  w.stackCounter = 0 → hdr.request = true → ResponseWritable result (lookupMethod w data obj)

/-- Arrivals and dispatches are not counted. -/
theorem Counted.record
    {w : World (RbusMessage U) (List UInt8)} {e : Event (RbusMessage U) (List UInt8)}
    (h : Counted hdr k counts w)
    (he : responseCounts hdr [e] = (0, 0)) :
    Counted hdr k counts { w with log := w.log ++ [e] } := by
  refine ⟨h.stackCounter, h.gQueuedRequests, ?_⟩
  rw [responseCounts_append, he, h.counts]
  rfl

variable (result) in
theorem sat_dispatchMethodCall_counts
    (msg : MessageRef (RbusMessage U)) (data : List UInt8) (obj : Ptr)
    {w : World (RbusMessage U) (List UInt8)}
    (hmsg : msg.val = rbusMessageFromBytes data)
    (h : Counted hdr k counts w) :
    Program.Sat (servingContract result) (dispatchMethodCall msg hdr obj)
      (fun _ w' => (hdr.request = true → ResponseWritable result (lookupMethod w data obj)) ∧
        Counted hdr k (counts + dispatchCounts (lookupMethod w data obj) result.ret hdr) w') w := by
  simp only [dispatchMethodCall, derefMessage, Program.sat_bind, Program.sat_getState,
    Program.sat_ite, sat_crash, Program.sat_pure, sat_lock, derefObject]
  split
  · trivial
  cases hobj : w.gServerObjects.items.find? (fun o => o.ptr = obj) with
  | none =>
      trivial
  | some object =>
      simp only [Program.sat_pure]
      refine sat_findMethod (fun _ => trivial) object _ ?_
      simp only [sat_unlock]
      have hlookup : (do
          let name ← (MessageApi.getString (MessageApi.beginMetaSectionRead msg.val)).1
          let found ← findAt? maxMethodNameLength (fun m => m.name.val) name object.methods
          found) = lookupMethod w data obj := by
        simp [lookupMethod, hobj, hmsg]
      rw [hlookup]
      refine sat_dispatchTo_counts _ obj _ _ ⟨h.stackCounter, h.gQueuedRequests, ?_⟩
      rw [responseCounts_append, responseCounts_append, h.counts]
      rfl

/-- How many responses one arrival leads to. -/
theorem sat_onMessage_counts
    (rounds : Nat) (data : List UInt8) (obj : Ptr)
    {w : World (RbusMessage U) (List UInt8)}
    (hqueue : w.gQueuedRequests = .null) :
    Program.Sat (servingContract result) (onMessage rounds hdr data obj)
      (fun _ w' => ArrivalWritable w hdr data obj result ∧
        Counted hdr w.stackCounter (arrivalCounts w hdr data obj result.ret) w') w.fresh := by
  simp only [onMessage, Program.sat_bind, sat_newMessage, Program.sat_getState, sat_record,
    updateStackCounter, Program.sat_modifyState]
  have hqueued (msg : MessageRef (RbusMessage U)) (hmsg : msg.val = rbusMessageFromBytes data)
      (w₁ : World (RbusMessage U) (List UInt8))
      (hobjects : w₁.gServerObjects = w.gServerObjects)
      (h₁ : Counted hdr (w.stackCounter + 1) (0, 0) w₁) :
      Program.Sat (servingContract result) (queueOrDispatch msg hdr obj)
        (fun _ w' => ArrivalWritable w hdr data obj result ∧
          Counted hdr (w.stackCounter + 1) (arrivalCounts w hdr data obj result.ret) w') w₁ := by
    simp only [queueOrDispatch, Program.sat_bind, Program.sat_getState, Program.sat_ite]
    split
    case isTrue hne =>
      have hstack : w.stackCounter ≠ 0 := by
        rw [h₁.stackCounter] at hne
        omega
      simp only [queuedRequestCreate, updateQueuedRequests, Program.sat_bind, sat_rtMalloc,
        Program.sat_pure, Program.sat_modifyState, h₁.gQueuedRequests, arrivalCounts,
        if_neg hstack]
      exact ⟨fun hzero => absurd hzero hstack, h₁.stackCounter, rfl, h₁.counts⟩
    case isFalse hone =>
      have hstack : w.stackCounter = 0 := by
        have := h₁.stackCounter
        omega
      have hlookup :
          lookupMethod { w₁ with log := w₁.log ++ [.dispatch hdr msg.val obj] } data obj =
            lookupMethod w data obj := by
        simp [lookupMethod, hobjects]
      have hdispatch := sat_dispatchMethodCall_counts result msg data obj hmsg
        (h₁.record (e := .dispatch hdr msg.val obj) rfl)
      rw [hlookup] at hdispatch
      simp only [recordedDispatch, Program.sat_bind, sat_record]
      refine hdispatch.mono fun _ w₂ h₂ => ?_
      obtain ⟨hwritable, h₂⟩ := h₂
      rw [arrivalCounts, if_pos hstack]
      have hsum (c : Nat × Nat) : (0, 0) + c = c := Prod.ext (by simp) (by simp)
      rw [hsum] at h₂
      exact ⟨fun _ => hwritable, h₂.record rfl⟩
  refine (hqueued _ ?_ _ ?_ ?_).mono fun _ w₁ h₁ => ?_
  · rfl
  · rfl
  · exact ⟨rfl, hqueue, rfl⟩
  · obtain ⟨hwritable, h₁⟩ := h₁
    simp only [consumeQueue, rbusMessageRelease, Program.sat_bind, Program.sat_getState,
      Program.sat_ite, Program.sat_pure, Program.sat_modifyState, sat_crash,
      h₁.gQueuedRequests, RtVector.items_null]
    rw [if_neg (by simp)]
    split
    · trivial
    · exact ⟨hwritable, by simp [h₁.stackCounter], rfl, h₁.counts⟩

/-- The handler's later response is the one response of a request it has deferred. -/
theorem sat_serve_counts
    (rounds : Nat) (data : List UInt8) (obj : Ptr) (later : Option (RbusMessage U))
    {w : World (RbusMessage U) (List UInt8)}
    (hqueue : w.gQueuedRequests = .null) :
    Program.Sat (servingContract result) (serve rounds hdr data obj result later)
      (fun _ w' => ∃ w₁, ArrivalWritable w hdr data obj result ∧
        Counted hdr w.stackCounter (arrivalCounts w hdr data obj result.ret) w₁ ∧
        (Deferred hdr result w₁ → hdr.request = true → Writable later) ∧
        (responseCounts hdr w'.log).1 = (responseCounts hdr w₁.log).1 +
          if Deferred hdr result w₁ then requestCount hdr else 0) w.fresh := by
  simp only [serve, Program.sat_bind, Program.sat_getState, Program.sat_ite, Program.sat_pure]
  refine (sat_onMessage_counts rounds data obj hqueue).mono fun _ w₁ h₁ => ?_
  obtain ⟨hwritable, h₁⟩ := h₁
  split
  case isTrue hdeferred =>
    have hquiet : Quiet (servingContract result)
        (Counted hdr w.stackCounter (arrivalCounts w hdr data obj result.ret)) := quiet_counted
    have hmade : Program.Sat (servingContract result) (newMessageUnlessNull later)
        (fun response w₂ => response.map MessageRef.val = later ∧
          Counted hdr w.stackCounter (arrivalCounts w hdr data obj result.ret) w₂) w₁ := by
      cases later with
      | none =>
          exact ⟨rfl, h₁⟩
      | some m =>
          exact ⟨rfl, keeps_newMessage hquiet.listening.toSteady m w₁ h₁⟩
    refine hmade.mono fun response w₂ h₂ => ?_
    obtain ⟨rfl, h₂⟩ := h₂
    refine (sat_rbusSendResponse_counts response h₂).mono fun _ w₃ h₃ =>
      ⟨w₁, hwritable, h₁, fun _ => h₃.1, ?_⟩
    rw [if_pos hdeferred, h₃.2.counts, h₁.counts]
    rfl
  case isFalse hnot =>
    refine ⟨w₁, hwritable, h₁, fun hdeferred => absurd hdeferred hnot, ?_⟩
    rw [if_neg hnot, Nat.add_zero]

/-- The size of the response's method name. -/
theorem methodResponse_encode_length : (Value.str methodResponse).encode.length = 17 := by
  decide

/-- A method name can be set on every message with a packer. -/
theorem exists_setMessageMethod
    {m : MessageRef (RbusMessage U)}
    (hpk : m.val.pk = true) :
    ∃ v, ∀ w : World (RbusMessage U) (List UInt8),
      setMessageMethod m (some methodResponse) w = .done ⟨m.ptr, v⟩ w := by
  obtain ⟨b, hval, hbegin⟩ := exists_beginMetaSectionWriteRef m
  rw [hpk] at hbegin
  have hlen := methodResponse_encode_length
  have hvalue (s : CString) : (Setting.str (some s) : Setting U).value = .str s := rfl
  have hset := rbusMessageSet_eq b (.str (some methodResponse))
    (Value.fits_of_length _ (by rw [hvalue, hlen]; decide))
  rw [packerWrite, if_pos hbegin, hvalue, rbusMessageSet] at hset
  obtain ⟨v, hend⟩ := exists_rbusMessageEndMetaSectionWrite (U := U)
    (m := { b with sbuf := b.sbuf ++ (Value.str methodResponse).encode })
    hbegin (by rw [List.length_append, hlen]; omega)
  refine ⟨v, fun w => ?_⟩
  have hstring : setStringRef (W := List UInt8) (beginMetaSectionWriteRef m) (some methodResponse) =
      pure ⟨m.ptr, { b with sbuf := b.sbuf ++ (Value.str methodResponse).encode }⟩ := by
    rw [setStringRef, hval, messageApi_setString, hset, written]
  have hclose : endMetaSectionWriteRef (W := List UInt8)
      ⟨m.ptr, { b with sbuf := b.sbuf ++ (Value.str methodResponse).encode }⟩ =
      pure ⟨m.ptr, v⟩ := by
    rw [endMetaSectionWriteRef, messageApi_endMetaSectionWrite, hend, written]
  rw [setMessageMethod, hstring]
  exact congrFun hclose w

/-- The response made up for a request that has been left without one. -/
def unsupportedMethodResponse : RbusMessage U :=
  { (rbusMessageInit : RbusMessage U) with
    sbuf := packInt (toInt32 RbusError.errorUnsupportedMethod.toInt) }

theorem responseOrUnsupported_none
    (w : World (RbusMessage U) (List UInt8)) :
    responseOrUnsupported none w =
      .done ⟨w.nextPtr, unsupportedMethodResponse⟩
        { w with
          nextPtr := w.nextPtr + 1
          refCount := Function.update w.refCount w.nextPtr 1 } := by
  have hset : rbusMessageSetInt32 (rbusMessageInit : RbusMessage U)
      RbusError.errorUnsupportedMethod.toInt = some unsupportedMethodResponse := by
    simp only [rbusMessageSetInt32, packerWrite, rbusMessageInit, if_true, List.nil_append,
      unsupportedMethodResponse]
  have hwritten (p : Ptr) : setInt32Ref (W := List UInt8) ⟨p, (rbusMessageInit : RbusMessage U)⟩
      RbusError.errorUnsupportedMethod.toInt = pure ⟨p, unsupportedMethodResponse⟩ := by
    rw [setInt32Ref, messageApi_setInt32, hset, written]
  exact congrFun (hwritten w.nextPtr) _

end Service

section Samples

/-- The object `o` with the method `m`. -/
def sampleMethodObject : ServerObject :=
  { sampleObject with methods := [⟨⟨.ofChars ['m'], by decide⟩, .app 0, 0⟩] }

/-- A message for the method `m`: the name and the trailer. -/
def sampleMethodMessage : List UInt8 := [0xa2, 0x6d, 0x00, 0xd2, 0x00, 0x00, 0x00, 0x00]

end Samples

end RbusCore
