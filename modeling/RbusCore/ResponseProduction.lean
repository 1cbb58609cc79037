import RbusCore.Arrivals
import RbusCore.Responses

/-!
# The response to a request is produced

A request gets its response when `dispatch_method_call` gets through with it: the object is in
place, the name of the method can be compared, and the response that the application leaves, if
any, can be written to, for it gets a method name.  A message that has been received cannot.

**Results.**
* `completes_serve`: a request is served to the end.
* `exists_dispatchTo_of_sat`, `subscriptionServed_of_sat`: what a request needs for it.
* `exactlyOneResponse_iff`: exactly when exactly one response is sent.
-/

namespace RbusCore

open CStrings Resumption MessagePack

section Production

variable {U : Unpacker}

/-- Subscription callbacks leave the objects as they are. -/
def KeepsObjects :
    Call (RbusMessage U) (List UInt8) → World (RbusMessage U) (List UInt8) →
      World (RbusMessage U) (List UInt8) → Prop
  | .subscribeCallback .., w, w' => w'.gServerObjects = w.gServerObjects
  | _, _, _ => True

/-- What happens meanwhile takes no message away from the library. -/
structure LeavesInUse
    (e : Call (RbusMessage U) (List UInt8)) (w w' : World (RbusMessage U) (List UInt8)) :
    Prop where
  allocated : w.nextPtr ≤ w'.nextPtr
  live : ∀ p < w.nextPtr, w.refCount p ≠ 0 → w'.refCount p ≠ 0
  objects : KeepsObjects e w w'

/-- The process while a request is served, with messages left in use. -/
def producing (result : HandlerResult (RbusMessage U)) :
    (e : Call (RbusMessage U) (List UInt8)) → World (RbusMessage U) (List UInt8) → e.Answer →
      World (RbusMessage U) (List UInt8) → Prop :=
  fun e w a w' => serving result e w a w' ∧ LeavesInUse e w w'

/--
Exactly one response carries the header of a request, sent by `dispatch_method_call` unless
the handler has deferred it, and by the handler's later call then; a message that is not a
request gets none.  The response is produced: the request is served to the end, whatever is
answered meanwhile.
-/
structure ExactlyOneResponse
    (rounds : Nat) (hdr : RtMessageHeader) (data : List UInt8) (obj : Ptr)
    (result : HandlerResult (RbusMessage U)) (later : Option (RbusMessage U))
    (w : World (RbusMessage U) (List UInt8)) : Prop where
  onDispatch : ∀ w',
    Program.Returns (serving result) (onMessage rounds hdr data obj) w.fresh () w' →
    (responseCounts hdr w'.log).1 =
      if hdr.request = true ∧ ¬ Deferred hdr result w' then 1 else 0
  inTotal : ∀ w', Program.Returns (serving result) (serve rounds hdr data obj result later)
      w.fresh () w' →
    (responseCounts hdr w'.log).1 = if hdr.request = true then 1 else 0
  produced : hdr.request = true →
    Program.Completes (producing result) (serve rounds hdr data obj result later) w.fresh

/-- The method's name in a message. -/
def methodName? (U : Unpacker) (data : List UInt8) : Option (List UInt8) :=
  (MessageApi.getString
    (MessageApi.beginMetaSectionRead (rbusMessageFromBytes data : RbusMessage U))).1

/-- The message as a handler gets it. -/
def handlerRequest (U : Unpacker) (data : List UInt8) : RbusMessage U :=
  MessageApi.endMetaSectionRead (MessageApi.getString
    (MessageApi.beginMetaSectionRead (rbusMessageFromBytes data : RbusMessage U))).2

/-- The method that `findMethod` delivers; there is no result when a comparison with the name
leaves the message. -/
def findMethod? (object : ServerObject) (name : Option (List UInt8)) :
    Option (Option ServerMethod) :=
  match name with
  | some key => findAt? maxMethodNameLength (fun m => m.name.val) key object.methods
  | none => some none

/-- The handler a message is for: a method of the table, or the default callback.  There is none
when the object is not in place, or when a comparison with the name leaves the message. -/
def handler?
    (w : World (RbusMessage U) (List UInt8)) (data : List UInt8) (obj : Ptr) :
    Option (Option ServerMethod) :=
  (w.gServerObjects.items.find? fun o => o.ptr = obj).bind fun object =>
    findMethod? object (methodName? U data)

/-- The callback of an event finds its object, where a change of the listeners calls it. -/
def CallbackFinds
    (objects : List ServerObject) (e : ServerEvent) (subscriber : CString) (added : Bool) : Prop :=
  e.subCallback ≠ none → (subscriber ∈ e.listeners ↔ added = false) →
    (objects.find? fun o => o.ptr = e.object).isSome = true

/-- The subscription handler of the object at `p` gets through with a request: the strings in it
are terminated, and the records that it uses are in place. -/
def SubscriptionServed
    (objects : List ServerObject) (request : RbusMessage U) (p : Ptr) (added : Bool) : Prop :=
  ∀ event sender,
    (MessageApi.getString request).1 = some event →
    (MessageApi.getString (MessageApi.getString request).2).1 = some sender →
    ∃ subscriber, CString.ofMemory sender = some subscriber ∧
      (subscriber.strlen < maxSubscriberNameLength →
        ∃ name, CString.ofMemory event = some name ∧
          (name.strlen < maxEventNameLength →
            ∃ o, objects.find? (fun o => o.ptr = p) = some o ∧
              ∀ e, rtVectorFind serverEventCompare o.subscriptions name = some e →
                CallbackFinds objects e subscriber added))

/-- Whether a subscription is added by the method. -/
def ServerMethod.adds (method : ServerMethod) : Bool :=
  decide (method.name.val = methodAddEventSubscription)

/-- The handler of a request sees to one response: a callback of the method table does not defer
it, and a response that the application leaves, at once or later, can be written to. -/
def HandlesOnce
    (objects : List ServerObject) (data : List UInt8) (result : HandlerResult (RbusMessage U))
    (later : Option (RbusMessage U)) : Option ServerMethod → Prop
  | none =>
      if result.ret = .successAsync then Writable later else Writable result.response
  | some method =>
      match method.callback with
      | .app _ => result.ret ≠ .successAsync ∧ Writable result.response
      | .subscriptionHandler =>
          SubscriptionServed objects (handlerRequest U data) method.data method.adds

/-- Where the code does as it should. -/
def RespondsOnce
    (w : World (RbusMessage U) (List UInt8)) (hdr : RtMessageHeader) (data : List UInt8)
    (obj : Ptr) (result : HandlerResult (RbusMessage U)) (later : Option (RbusMessage U)) : Prop :=
  hdr.request = false ∨
    w.stackCounter = 0 ∧ ∃ handler, handler? w data obj = some handler ∧
      HandlesOnce w.gServerObjects.items data result later handler

theorem lookupMethod_of_handler?
    {w : World (RbusMessage U) (List UInt8)} {data : List UInt8} {obj : Ptr}
    {handler : Option ServerMethod}
    (h : handler? w data obj = some handler) :
    lookupMethod w data obj = handler := by
  obtain ⟨object, hobject, hfound⟩ := Option.bind_eq_some_iff.mp h
  rw [methodName?] at hfound
  simp only [lookupMethod, hobject, Option.bind_eq_bind, Option.bind_some]
  cases hname : (MessageApi.getString
      (MessageApi.beginMetaSectionRead (rbusMessageFromBytes data : RbusMessage U))).1 with
  | none =>
      rw [hname] at hfound
      exact Option.some.inj hfound
  | some name =>
      rw [hname, findMethod?] at hfound
      rw [Option.bind_some, hfound]
      rfl

theorem findMethod_eq
    (object : ServerObject)
    (name : Option (List UInt8)) :
    findMethod (M := RbusMessage U) (W := List UInt8) object name =
      match findMethod? object name with
      | some found => pure found
      | none => crash .string := by
  cases name with
  | none =>
      rfl
  | some key =>
      rw [findMethod, rtVectorFindAt, findMethod?]
      cases findAt? maxMethodNameLength (fun m : ServerMethod => m.name.val) key object.methods <;>
        rfl

/-- The name of a method that is looked up. -/
theorem ofMemory_of_handler?
    {w : World (RbusMessage U) (List UInt8)} {data : List UInt8} {obj : Ptr}
    {method : ServerMethod}
    (h : handler? w data obj = some (some method)) :
    ∃ region, methodName? U data = some region ∧
      CString.ofMemory region = some method.name.val := by
  obtain ⟨object, -, hfound⟩ := Option.bind_eq_some_iff.mp h
  cases hname : methodName? U data with
  | none =>
      rw [hname] at hfound
      cases Option.some.inj hfound
  | some region =>
      rw [hname] at hfound
      obtain ⟨-, hregion⟩ :
          method ∈ object.methods ∧ CString.ofMemory region = some method.name.val :=
        ofMemory_of_findAt? hfound
      exact ⟨region, rfl, hregion⟩

variable (U) in
/-- The comparison that tells an addition from a removal. -/
theorem exists_order
    {region : List UInt8} {method : CString}
    (hname : CString.ofMemory region = some method) :
    ∃ order, strncmpAt (M := RbusMessage U) (W := List UInt8) maxMethodNameLength
        methodAddEventSubscription region = pure order ∧
      decide (order = 0) = decide (method = methodAddEventSubscription) := by
  refine ⟨strncmp maxMethodNameLength methodAddEventSubscription.chars method.chars, ?_, ?_⟩
  · rw [strncmpAt, strncmpMemory_of_ofMemory maxMethodNameLength hname]
  · have hzero := BoundedName.strncmp_eq_zero_iff (n := maxMethodNameLength)
      ⟨methodAddEventSubscription, by decide⟩ method
    exact decide_eq_decide.mpr (hzero.trans eq_comm)

end Production

section Completion

variable {U : Unpacker} {result : HandlerResult (RbusMessage U)} {hdr : RtMessageHeader}
variable {w : World (RbusMessage U) (List UInt8)} {ps : List Ptr}

/-- The contract of a request that is served to the end. -/
abbrev serviceContract (result : HandlerResult (RbusMessage U)) :
    Contract (Call.Answer (M := RbusMessage U) (W := List UInt8))
      (World (RbusMessage U) (List UInt8)) :=
  Program.completing (producing result)

/-- The queue has not been created, and the messages at `ps` are in use. -/
structure InUse (ps : List Ptr) (w : World (RbusMessage U) (List UInt8)) : Prop where
  gQueuedRequests : w.gQueuedRequests = .null
  live : ∀ p ∈ ps, p < w.nextPtr ∧ w.refCount p ≠ 0

/-- A response, unless there is none, is in use and none of the messages at `ps`. -/
structure ResponseInUse
    (ps : List Ptr) (response : Option (MessageRef (RbusMessage U)))
    (w : World (RbusMessage U) (List UInt8)) : Prop where
  holding : InUse (response.toList.map MessageRef.ptr ++ ps) w
  apart : ∀ m, response = some m → m.ptr ∉ ps

/-- A call may change nothing. -/
theorem producing_same
    {e : Call (RbusMessage U) (List UInt8)} {a : e.Answer}
    (h : AnswersWith result e a)
    (w : World (RbusMessage U) (List UInt8)) :
    producing result e w a w := by
  refine ⟨⟨h, ?_⟩, Nat.le_refl _, fun _ _ => id, ?_⟩
  · split
    · exact ⟨rfl, rfl, rfl⟩
    · rfl
  · cases e <;> trivial

/-- Every call can be answered that has answers. -/
theorem exists_answer
    (e : Call (RbusMessage U) (List UInt8))
    (w : World (RbusMessage U) (List UInt8))
    (h : Nonempty e.Answer) :
    ∃ a w', producing result e w a w' := by
  cases e with
  | methodCallback =>
      refine ⟨result, w, producing_same ?_ w⟩
      rfl
  | _ =>
      obtain ⟨a⟩ := h
      refine ⟨a, w, producing_same ?_ w⟩
      trivial

/-- A call is answered, and takes no message away. -/
theorem sat_call_inUse
    (e : Call (RbusMessage U) (List UInt8))
    (hanswer : Nonempty e.Answer)
    (h : InUse ps w) :
    Program.Sat (serviceContract result) (call e)
      (fun a w' => AnswersWith result e a ∧ KeepsObjects e w w' ∧ InUse ps w') w := by
  rw [sat_call]
  refine ⟨exists_answer _ _ hanswer, fun a w' henv => ?_⟩
  obtain ⟨⟨hresult, hserving⟩, hallocated, hlive, hobjects⟩ := henv
  refine ⟨hresult, ?_, ?_, ?_⟩
  · cases e <;> exact hobjects
  · split at hserving
    · exact hserving.2.2.trans h.gQueuedRequests
    · rw [hserving]
      exact h.gQueuedRequests
  · intro p hp
    obtain ⟨hlt, href⟩ := h.live p hp
    exact ⟨Nat.lt_of_lt_of_le hlt hallocated, hlive p hlt href⟩

theorem InUse.subset
    {qs : List Ptr}
    (h : InUse ps w)
    (hsubset : qs ⊆ ps) :
    InUse qs w :=
  ⟨h.gQueuedRequests, fun p hp => h.live p (hsubset hp)⟩

theorem InUse.not_mem_next
    (h : InUse ps w) :
    w.nextPtr ∉ ps :=
  fun hmem => Nat.lt_irrefl _ (h.live _ hmem).1

/-- A new message is in use, too. -/
theorem InUse.newMessage
    (h : InUse ps w) :
    InUse (U := U) (w.nextPtr :: ps) { w with
      nextPtr := w.nextPtr + 1
      refCount := Function.update w.refCount w.nextPtr 1 } := by
  refine ⟨h.gQueuedRequests, fun p hp => ?_⟩
  rcases List.mem_cons.mp hp with rfl | hmem
  · exact ⟨Nat.lt_succ_self _, by simp⟩
  · obtain ⟨hlt, href⟩ := h.live p hmem
    refine ⟨Nat.lt_succ_of_lt hlt, ?_⟩
    show Function.update w.refCount w.nextPtr 1 p ≠ 0
    rwa [Function.update_of_ne (Nat.ne_of_lt hlt)]

/-- A message is released, and the others stay in use. -/
theorem sat_rbusMessageRelease_inUse
    {m : MessageRef (RbusMessage U)}
    (h : InUse (m.ptr :: ps) w)
    (hapart : m.ptr ∉ ps) :
    Program.Sat (serviceContract result) (rbusMessageRelease m) (fun _ => InUse ps) w := by
  have hlive := (h.live m.ptr (List.mem_cons_self ..)).2
  rw [Program.sat_of_done (rbusMessageRelease_of_live hlive)]
  refine ⟨h.gQueuedRequests, fun p hp => ?_⟩
  obtain ⟨hlt, href⟩ := h.live p (List.mem_cons_of_mem _ hp)
  refine ⟨hlt, ?_⟩
  show Function.update w.refCount m.ptr (w.refCount m.ptr - 1) p ≠ 0
  rw [Function.update_of_ne]
  · exact href
  · rintro rfl
    exact hapart hp

theorem sat_newMessageUnlessNull_inUse
    (message : Option (RbusMessage U))
    (h : InUse ps w) :
    Program.Sat (serviceContract result) (newMessageUnlessNull message)
      (fun response w' =>
        response.map MessageRef.val = message ∧ ResponseInUse ps response w') w := by
  cases message with
  | none =>
      exact ⟨rfl, h, fun _ hm => absurd hm.symm (Option.some_ne_none _)⟩
  | some m =>
      refine ⟨rfl, h.newMessage, fun m' hm' => ?_⟩
      obtain rfl := Option.some.inj hm'
      exact h.not_mem_next

/-- A response is sent and released. -/
theorem sat_rbusSendResponse_inUse
    {response : Option (MessageRef (RbusMessage U))}
    (h : ResponseInUse ps response w)
    (hwritable : Writable (response.map MessageRef.val)) :
    Program.Sat (serviceContract result) (rbusSendResponse hdr response) (fun _ => InUse ps) w := by
  unfold rbusSendResponse
  rw [Program.sat_ite]
  split
  case isFalse =>
    exact h.holding.subset (List.subset_append_right _ _)
  case isTrue =>
    -- the response as it is before its method is set
    have hmade : Program.Sat (serviceContract result) (responseOrUnsupported response)
        (fun m w₁ => m.val.pk = true ∧ m.ptr ∉ ps ∧ InUse (m.ptr :: ps) w₁) w := by
      cases response with
      | some m =>
          exact ⟨hwritable m.val rfl, h.apart m rfl, h.holding⟩
      | none =>
          rw [Program.sat_of_done (responseOrUnsupported_none w)]
          exact ⟨rfl, h.holding.not_mem_next, h.holding.newMessage⟩
    refine hmade.bind ?_
    rintro m w₁ ⟨hpk, hapart, h₁⟩
    obtain ⟨v, hmethod⟩ := exists_setMessageMethod hpk
    rw [Program.sat_bind, Program.sat_of_done (hmethod w₁), Program.sat_bind, sat_gConnectionPtr]
    refine (sat_call_inUse _ ⟨RtError.rtOk⟩ h₁).bind fun err w₂ h₂ => ?_
    rw [Program.sat_bind]
    exact sat_rbusMessageRelease_inUse (m := ⟨m.ptr, v⟩) h₂.2.2 hapart

variable (hdr) in
/-- A handler of the application returns its result. -/
theorem sat_appMethodCallback_inUse
    (id : Nat) (topic : CString) (methodName : Option (List UInt8)) (request : RbusMessage U)
    (data : Ptr)
    (h : InUse ps w) :
    Program.Sat (serviceContract result) (appMethodCallback id topic methodName request data hdr)
      (fun r w' => r.1 = result.ret ∧ r.2.map MessageRef.val = result.response ∧
        ResponseInUse ps r.2 w') w := by
  rw [appMethodCallback]
  refine (sat_call_inUse _ ⟨result⟩ h).bind ?_
  rintro _ w₁ ⟨rfl, -, h₁⟩
  rw [Program.sat_bind]
  exact (sat_newMessageUnlessNull_inUse _ h₁).mono fun _ _ h₂ => ⟨rfl, h₂⟩

/-- A change of an object takes none away. -/
theorem find_update_isSome
    {f : ServerObject → ServerObject}
    (hptr : ∀ o, (f o).ptr = o.ptr)
    (v : RtVector ServerObject) (p q : Ptr) :
    ((v.update (updateAt ServerObject.ptr p f)).items.find? fun o => o.ptr = q).isSome =
      (v.items.find? fun o => o.ptr = q).isSome := by
  cases v with
  | live objects =>
      have hsame (o : ServerObject) : (if o.ptr = p then f o else o).ptr = o.ptr := by
        split
        · exact hptr o
        · rfl
      rw [RtVector.update_live, RtVector.items_live, RtVector.items_live, updateAt,
        List.find?_map, Option.isSome_map]
      simp only [Function.comp_def, hsame]
  | _ =>
      rfl

/-- The listeners of an event change, and its callback is called. -/
theorem sat_changeListener_inUse
    {e : ServerEvent} {subscriber : CString} {added : Bool}
    (hfinds : CallbackFinds w.gServerObjects.items e subscriber added)
    (h : InUse ps w) :
    Program.Sat (serviceContract result) (changeListener e subscriber added)
      (fun _ => InUse ps) w := by
  have hinvoke {w₁ : World (RbusMessage U) (List UInt8)}
      (hmember : subscriber ∈ e.listeners ↔ added = false)
      (hobjects : (w₁.gServerObjects.items.find? fun o => o.ptr = e.object).isSome =
        (w.gServerObjects.items.find? fun o => o.ptr = e.object).isSome)
      (h₁ : InUse ps w₁) :
      Program.Sat (serviceContract result) (invokeSubCallback e subscriber added)
        (fun _ => InUse ps) w₁ := by
    rw [invokeSubCallback]
    cases hcallback : e.subCallback with
    | none =>
        exact h₁
    | some callback =>
        have hfound := hfinds (by rw [hcallback]; exact Option.some_ne_none _) hmember
        rw [← hobjects] at hfound
        obtain ⟨o, ho⟩ := Option.isSome_iff_exists.mp hfound
        rw [Program.sat_bind, Program.sat_of_done (derefObject_of_find ho)]
        exact (sat_call_inUse _ ⟨RbusError.success⟩ h₁).bind fun _ _ h₂ => h₂.2.2
  have hchange (f : ServerEvent → ServerEvent)
      (hmember : subscriber ∈ e.listeners ↔ added = false) :
      Program.Sat (serviceContract result)
        (do updateEvent e.object e.name.val f; invokeSubCallback e subscriber added)
        (fun _ => InUse ps) w := by
    rw [Program.sat_bind, updateEvent, updateObject, sat_updateServerObjects]
    refine hinvoke hmember ?_ ⟨h.gQueuedRequests, h.live⟩
    apply find_update_isSome
    intro o
    rfl
  rw [changeListener]
  cases added with
  | true =>
      rw [if_pos rfl, serverEventAddListener, Program.sat_ite]
      split
      case isTrue hnew =>
        exact hchange _ (iff_of_false hnew (by decide))
      case isFalse =>
        exact h
  | false =>
      rw [if_neg Bool.false_ne_true, serverEventRemoveListener, Program.sat_ite]
      split
      case isTrue hold =>
        exact hchange _ (iff_of_true hold rfl)
      case isFalse =>
        exact h

/-- A subscription request is handled to the end. -/
theorem sat_serverObjectSubscriptionHandler_inUse
    {request : RbusMessage U} {p : Ptr} {added : Bool} {event sender : List UInt8}
    (payload : Option (RbusMessage U))
    (hserved : SubscriptionServed w.gServerObjects.items request p added)
    (hevent : (MessageApi.getString request).1 = some event)
    (hsender : (MessageApi.getString (MessageApi.getString request).2).1 = some sender)
    (h : InUse ps w) :
    Program.Sat (serviceContract result)
      (serverObjectSubscriptionHandler p (some event) (some sender) added payload)
      (fun _ => InUse ps) w := by
  obtain ⟨subscriber, hsubscriber, hserved⟩ := hserved event sender hevent hsender
  have hstringAt {region : List UInt8} {s : CString} (hs : CString.ofMemory region = some s)
      (w : World (RbusMessage U) (List UInt8)) :
      stringAt (M := RbusMessage U) (W := List UInt8) region w = .done s w := by
    rw [stringAt, hs]
    rfl
  rw [serverObjectSubscriptionHandler, Program.sat_bind,
    Program.sat_of_done (hstringAt hsubscriber w), Program.sat_ite]
  split
  case isTrue =>
    exact h
  case isFalse hshort =>
    obtain ⟨name, hname, hserved⟩ := hserved (Nat.lt_of_not_le hshort)
    rw [Program.sat_bind, Program.sat_of_done (hstringAt hname w), Program.sat_ite]
    split
    case isTrue =>
      exact h
    case isFalse hlegal =>
      obtain ⟨o, ho, hfinds⟩ := hserved (Nat.lt_of_not_le hlegal)
      -- the event may have been looked at by the override before
      have hnotify {w₁ : World (RbusMessage U) (List UInt8)}
          (hobjects : w₁.gServerObjects = w.gServerObjects) (h₁ : InUse ps w₁) :
          Program.Sat (serviceContract result) (notifyServerEvent p name subscriber added)
            (fun _ => InUse ps) w₁ := by
        rw [← hobjects] at ho hfinds
        rw [notifyServerEvent, Program.sat_bind, Program.sat_of_done (derefObject_of_find ho)]
        cases hfound : rtVectorFind serverEventCompare o.subscriptions name with
        | none =>
            exact h₁
        | some e =>
            exact (sat_changeListener_inUse (hfinds e hfound) h₁).bind fun _ _ h₂ => h₂
      rw [Program.sat_bind, Program.sat_of_done (derefObject_of_find ho)]
      cases o.subscribeHandlerOverride with
      | none =>
          exact hnotify rfl h
      | some override =>
          refine (sat_call_inUse _ ⟨RbusError.success⟩ h).bind ?_
          rintro ret w₁ ⟨-, hobjects, h₁⟩
          rw [Program.sat_ite]
          split
          · exact h₁
          · exact hnotify hobjects h₁

/-- A subscription request is handled to the end, with its payload. -/
theorem sat_handleSubscription_inUse
    {request : RbusMessage U} {p : Ptr} {event sender region : List UInt8} {method : CString}
    (rest : RbusMessage U)
    (h : InUse ps w)
    (hname : CString.ofMemory region = some method)
    (hserved : SubscriptionServed w.gServerObjects.items request p
      (decide (method = methodAddEventSubscription)))
    (hevent : (MessageApi.getString request).1 = some event)
    (hsender : (MessageApi.getString (MessageApi.getString request).2).1 = some sender) :
    Program.Sat (serviceContract result) (handleSubscription (some region) event sender rest p)
      (fun _ => InUse ps) w := by
  have hpayload (hasPayload : Option Int) (m : RbusMessage U) :
      Program.Sat (serviceContract result) (subscriptionPayload hasPayload m)
        (fun payload w' => w'.gServerObjects = w.gServerObjects ∧ ResponseInUse ps payload w')
        w := by
    rw [subscriptionPayload]
    split
    · rename_i payload _
      refine ⟨rfl, h.newMessage, fun m' hm' => ?_⟩
      obtain rfl := Option.some.inj hm'
      exact h.not_mem_next
    · exact ⟨rfl, h, fun _ hm => absurd hm.symm (Option.some_ne_none _)⟩
  obtain ⟨order, horder, hadds⟩ := exists_order U hname
  rw [handleSubscription]
  refine (hpayload _ _).bind ?_
  rintro payload w₁ ⟨hobjects, hpayload₁⟩
  rw [← hobjects] at hserved
  rw [Program.sat_bind, sat_deref_some, horder, pure_bind, hadds]
  refine (sat_serverObjectSubscriptionHandler_inUse _ hserved hevent hsender
    hpayload₁.holding).bind fun ret w₂ h₂ => ?_
  refine Program.Sat.bind (P := fun _ => InUse ps) ?_ fun _ _ h₃ => h₃
  cases payload with
  | none =>
      exact h₂
  | some payload =>
      exact sat_rbusMessageRelease_inUse h₂ (hpayload₁.apart payload rfl)

/-- The subscription handler returns a response. -/
theorem sat_subscriptionHandler_inUse
    {request : RbusMessage U} {p : Ptr} {region : List UInt8} {method : CString}
    (hname : CString.ofMemory region = some method)
    (hserved : SubscriptionServed w.gServerObjects.items request p
      (decide (method = methodAddEventSubscription)))
    (h : InUse ps w) :
    Program.Sat (serviceContract result) (subscriptionHandler (some region) request p)
      (fun r w' => Writable (r.2.map MessageRef.val) ∧ ResponseInUse ps r.2 w') w := by
  have hresponse {p : Ptr} {v : RbusMessage U} {w₁ : World (RbusMessage U) (List UInt8)}
      (hpk : v.pk = true) (hapart : p ∉ ps) (h₁ : InUse (p :: ps) w₁) :
      Writable (Option.map MessageRef.val (some ⟨p, v⟩)) ∧ ResponseInUse ps (some ⟨p, v⟩) w₁ := by
    refine ⟨fun m hm => ?_, h₁, fun m hm => ?_⟩
    · obtain rfl := Option.some.inj hm
      exact hpk
    · obtain rfl := Option.some.inj hm
      exact hapart
  unfold subscriptionHandler
  rw [Program.sat_bind, sat_newMessage]
  dsimp only
  cases hevent : (MessageApi.getString request).1 with
  | none =>
      exact hresponse rfl h.not_mem_next h.newMessage
  | some event =>
      cases hsender : (MessageApi.getString (MessageApi.getString request).2).1 with
      | none =>
          exact hresponse rfl h.not_mem_next h.newMessage
      | some sender =>
          refine (sat_handleSubscription_inUse _ h.newMessage hname hserved hevent
            hsender).bind fun ret w₁ h₁ => ?_
          exact hresponse rfl h.not_mem_next h₁

variable {data : List UInt8} {obj : Ptr} {later : Option (RbusMessage U)}
variable {handler : Option ServerMethod}

variable (hdr) in
/-- A request whose handler sees to one response is dispatched to the end. -/
theorem sat_dispatchTo_inUse
    {methodName : Option (List UInt8)}
    (hobject : (w.gServerObjects.items.find? fun o => o.ptr = obj).isSome = true)
    (hname : ∀ method, handler = some method →
      ∃ region, methodName = some region ∧ CString.ofMemory region = some method.name.val)
    (hhandles : HandlesOnce w.gServerObjects.items data result later handler)
    (h : InUse ps w) :
    Program.Sat (serviceContract result)
      (dispatchTo handler obj methodName (handlerRequest U data) hdr) (fun _ => InUse ps) w := by
  cases handler with
  | none =>
      obtain ⟨o, ho⟩ := Option.isSome_iff_exists.mp hobject
      rw [dispatchTo, dispatchToObject, Program.sat_bind,
        Program.sat_of_done (derefObject_of_find ho)]
      refine (sat_appMethodCallback_inUse hdr _ _ _ _ _ h).bind ?_
      rintro ⟨ret, response⟩ w₁ ⟨rfl, hresponse, h₁⟩
      rw [Program.sat_ite]
      split
      case isTrue =>
        exact h₁.holding.subset (List.subset_append_right _ _)
      case isFalse hsync =>
        rw [HandlesOnce, if_neg hsync, ← hresponse] at hhandles
        exact (sat_rbusSendResponse_inUse h₁ hhandles).bind fun _ _ h₂ => h₂
  | some method =>
      have hinvoke : Program.Sat (serviceContract result)
          (invokeMethodCallback method.callback hdr.topic methodName (handlerRequest U data)
            method.data hdr)
          (fun r w' => Writable (r.2.map MessageRef.val) ∧ ResponseInUse ps r.2 w') w := by
        rw [HandlesOnce] at hhandles
        cases hcallback : method.callback with
        | app id =>
            rw [hcallback] at hhandles
            refine (sat_appMethodCallback_inUse hdr id _ _ _ _ h).mono ?_
            rintro ⟨ret, response⟩ w₁ ⟨-, hresponse, h₁⟩
            rw [← hresponse] at hhandles
            exact ⟨hhandles.2, h₁⟩
        | subscriptionHandler =>
            rw [hcallback] at hhandles
            obtain ⟨region, rfl, hregion⟩ := hname method rfl
            exact sat_subscriptionHandler_inUse hregion hhandles h
      refine hinvoke.bind ?_
      rintro r w₁ ⟨hwritable, h₁⟩
      exact (sat_rbusSendResponse_inUse h₁ hwritable).bind fun _ _ h₂ => h₂

variable (hdr) in
/-- The same from the message on. -/
theorem sat_dispatchMethodCall_inUse
    {p : Ptr}
    (hfound : handler? w data obj = some handler)
    (hhandles : HandlesOnce w.gServerObjects.items data result later handler)
    (h : InUse (p :: ps) w) :
    Program.Sat (serviceContract result)
      (dispatchMethodCall ⟨p, (rbusMessageFromBytes data : RbusMessage U)⟩ hdr obj)
      (fun _ => InUse (p :: ps)) w := by
  obtain ⟨object, hobject, hmethod⟩ := Option.bind_eq_some_iff.mp hfound
  have hmessage :
      derefMessage (W := List UInt8) ⟨p, (rbusMessageFromBytes data : RbusMessage U)⟩ w =
      .done (rbusMessageFromBytes data) w :=
    congrFun (if_neg (h.live p (List.mem_cons_self ..)).2) w
  have hfind : findMethod (M := RbusMessage U) (W := List UInt8) object (methodName? U data) =
      pure handler := by
    rw [findMethod_eq, hmethod]
  obtain ⟨w₀, hlocked, hsame, hnext⟩ : ∃ w₀, lock w = .done () w₀ ∧
      w₀.gServerObjects = w.gServerObjects ∧
      ∃ w₁, unlock w₀ = .done () w₁ ∧ w₁.gServerObjects = w.gServerObjects ∧
        InUse (p :: ps) w₁ :=
    ⟨_, rfl, rfl, _, rfl, rfl, h.gQueuedRequests, h.live⟩
  obtain ⟨w₁, hunlocked, hobjects, h₁⟩ := hnext
  rw [dispatchMethodCall, Program.sat_bind, Program.sat_of_done hmessage]
  dsimp only
  rw [Program.sat_bind, Program.sat_of_done hlocked, Program.sat_bind]
  rw [← hsame] at hobject
  rw [Program.sat_of_done (derefObject_of_find hobject), Program.sat_bind, ← methodName?, hfind,
    Program.sat_pure, Program.sat_bind, Program.sat_of_done hunlocked]
  rw [hsame, ← hobjects] at hobject
  rw [← hobjects] at hhandles
  refine sat_dispatchTo_inUse hdr (Option.isSome_iff_exists.mpr ⟨object, hobject⟩) ?_ hhandles h₁
  rintro method rfl
  exact ofMemory_of_handler? hfound

variable (hdr) in
/-- A request that finds the process idle is handled to the end. -/
theorem sat_onMessage_inUse
    (rounds : Nat)
    (hqueue : w.gQueuedRequests = .null)
    (hstack : w.stackCounter = 0)
    (hfound : handler? w data obj = some handler)
    (hhandles : HandlesOnce w.gServerObjects.items data result later handler) :
    Program.Sat (serviceContract result) (onMessage rounds hdr data obj)
      (fun _ => InUse []) w.fresh := by
  have hnew : InUse (w.nextPtr :: []) { w.fresh with
      nextPtr := w.nextPtr + 1
      refCount := Function.update w.refCount w.nextPtr 1 } :=
    InUse.newMessage (w := w.fresh) ⟨hqueue, List.forall_mem_nil _⟩
  rw [sat_onMessage_iff (w := w.fresh) hstack]
  refine (sat_dispatchMethodCall_inUse hdr (w := w.fresh.dispatching hdr _ obj) hfound hhandles
    ⟨hnew.gQueuedRequests, hnew.live⟩).mono fun _ w₂ h₂ => ?_
  rw [Program.sat_bind, consumeQueue, Program.sat_bind, Program.sat_getState, Program.sat_ite,
    if_neg, Program.sat_pure, Program.sat_bind, updateStackCounter, Program.sat_modifyState]
  · exact sat_rbusMessageRelease_inUse (m := ⟨w.nextPtr, rbusMessageFromBytes data⟩)
      ⟨h₂.gQueuedRequests, h₂.live⟩ List.not_mem_nil
  · rw [h₂.gQueuedRequests]
    exact fun hsome => hsome.2 rfl

/-- A request that finds the process idle is served to the end, with the later response. -/
theorem completes_serve
    (rounds : Nat)
    (hqueue : w.gQueuedRequests = .null)
    (hstack : w.stackCounter = 0)
    (hfound : handler? w data obj = some handler)
    (hhandles : HandlesOnce w.gServerObjects.items data result later handler) :
    Program.Completes (producing result) (serve rounds hdr data obj result later) w.fresh := by
  obtain ⟨hcompletes, hholds⟩ := Program.sat_completing_iff.mp
    (sat_onMessage_inUse hdr rounds hqueue hstack hfound hhandles)
  have hcounts (u : Unit) (w' : World (RbusMessage U) (List UInt8))
      (hreturns : Program.Returns (producing result) (onMessage rounds hdr data obj) w.fresh u w') :
      responseCounts hdr w'.log = dispatchCounts handler result.ret hdr := by
    have hcounted := (Program.returns_of_sat (fun _ _ _ _ henv => henv.1)
      (sat_onMessage_counts rounds data obj hqueue) hreturns).2.counts
    rwa [arrivalCounts, if_pos hstack, lookupMethod_of_handler? hfound] at hcounted
  have hhandled := Program.sat_completing_iff.mpr
    ⟨hcompletes, fun u w' hreturns => And.intro (hholds u w' hreturns) (hcounts u w' hreturns)⟩
  rw [Program.completes_iff_sat, serve]
  refine hhandled.bind ?_
  rintro _ w₁ ⟨h₁, hcounts₁⟩
  rw [Program.sat_bind, Program.sat_getState, Program.sat_ite]
  split
  case isTrue hdeferred =>
    have hwritable : Writable later := by
      rw [Deferred, hcounts₁] at hdeferred
      obtain ⟨hinvoked, hasync⟩ := hdeferred
      cases handler with
      | none =>
          rwa [HandlesOnce, if_pos hasync] at hhandles
      | some method =>
          rw [HandlesOnce] at hhandles
          cases hcallback : method.callback with
          | app id =>
              rw [hcallback] at hhandles
              exact absurd hasync hhandles.1
          | subscriptionHandler =>
              rw [dispatchCounts, hcallback] at hinvoked
              exact absurd rfl hinvoked
    refine (sat_newMessageUnlessNull_inUse later h₁).bind ?_
    rintro response w₂ ⟨rfl, h₂⟩
    exact (sat_rbusSendResponse_inUse h₂ hwritable).bind fun _ _ _ => trivial
  case isFalse =>
    trivial

end Completion

section Necessity

variable {U : Unpacker} {result : HandlerResult (RbusMessage U)} {hdr : RtMessageHeader}
variable {w : World (RbusMessage U) (List UInt8)} {data : List UInt8} {obj : Ptr}

/-- A request is dispatched to its end only if it has a handler. -/
theorem exists_dispatchTo_of_sat
    {p : Ptr} {Q : Unit → World (RbusMessage U) (List UInt8) → Prop}
    (h : Program.Sat (serviceContract result)
      (dispatchMethodCall ⟨p, (rbusMessageFromBytes data : RbusMessage U)⟩ hdr obj) Q w) :
    ∃ handler w₁, handler? w data obj = some handler ∧ w₁.gServerObjects = w.gServerObjects ∧
      ∃ R, Program.Sat (serviceContract result)
        (dispatchTo handler obj (methodName? U data) (handlerRequest U data) hdr) R w₁ := by
  simp only [dispatchMethodCall, derefMessage, derefObject, findMethod_eq, Program.sat_bind,
    Program.sat_getState, Program.sat_ite, sat_crash, Program.sat_pure, sat_lock] at h
  rw [handler?]
  split at h
  · exact h.elim
  cases hobject : w.gServerObjects.items.find? fun o => o.ptr = obj with
  | none =>
      rw [hobject] at h
      exact h.elim
  | some object =>
      rw [hobject, Program.sat_pure] at h
      change Program.Sat _ (match findMethod? object (methodName? U data) with
        | some found => pure found
        | none => crash .string) _ _ at h
      cases hfound : findMethod? object (methodName? U data) with
      | none =>
          rw [hfound] at h
          exact h.elim
      | some handler =>
          rw [hfound, Program.sat_pure, sat_unlock] at h
          exact ⟨handler, _, hfound, by rfl, _, h⟩

/-- The callback of an event is called to its end only if it finds its object. -/
theorem callbackFinds_of_sat
    {e : ServerEvent} {subscriber : CString} {added : Bool}
    {Q : Unit → World (RbusMessage U) (List UInt8) → Prop}
    (h : Program.Sat (serviceContract result) (changeListener e subscriber added) Q w) :
    CallbackFinds w.gServerObjects.items e subscriber added := by
  intro hsome hmember
  have hinvoked (f : ServerEvent → ServerEvent)
      (h : Program.Sat (serviceContract result)
        (do updateEvent e.object e.name.val f; invokeSubCallback e subscriber added) Q w) :
      (w.gServerObjects.items.find? fun o => o.ptr = e.object).isSome = true := by
    obtain ⟨callback, hcallback⟩ := Option.ne_none_iff_exists'.mp hsome
    rw [Program.sat_bind, updateEvent, updateObject, sat_updateServerObjects, invokeSubCallback,
      hcallback] at h
    rw [← find_update_isSome (f := fun o => { o with
      subscriptions := rtVectorUpdateFound serverEventCompare e.name.val f o.subscriptions })
      (fun _ => rfl) w.gServerObjects e.object e.object]
    simp only [derefObject, Program.sat_bind, Program.sat_getState] at h
    generalize List.find? _ _ = found at h ⊢
    cases found with
    | none =>
        exact h.elim
    | some o =>
        rfl
  rw [changeListener] at h
  cases added with
  | true =>
      have hnew : subscriber ∉ e.listeners := fun hold => absurd (hmember.mp hold) (by decide)
      rw [if_pos rfl, serverEventAddListener, if_pos hnew] at h
      exact hinvoked _ h
  | false =>
      rw [if_neg Bool.false_ne_true, serverEventRemoveListener, if_pos (hmember.mpr rfl)] at h
      exact hinvoked _ h

/-- A subscription request is handled to the end only if its strings are terminated and the
records are in place. -/
theorem served_of_sat
    {p : Ptr} {added : Bool} {event sender : List UInt8} {payload : Option (RbusMessage U)}
    {Q : RbusError → World (RbusMessage U) (List UInt8) → Prop}
    (h : Program.Sat (serviceContract result)
      (serverObjectSubscriptionHandler p (some event) (some sender) added payload) Q w) :
    ∃ subscriber, CString.ofMemory sender = some subscriber ∧
      (subscriber.strlen < maxSubscriberNameLength →
        ∃ name, CString.ofMemory event = some name ∧
          (name.strlen < maxEventNameLength →
            ∃ o, w.gServerObjects.items.find? (fun o => o.ptr = p) = some o ∧
              ∀ e, rtVectorFind serverEventCompare o.subscriptions name = some e →
                CallbackFinds w.gServerObjects.items e subscriber added)) := by
  rw [serverObjectSubscriptionHandler, Program.sat_bind, stringAt] at h
  cases hsubscriber : CString.ofMemory sender with
  | none =>
      rw [hsubscriber] at h
      exact h.elim
  | some subscriber =>
      refine ⟨subscriber, rfl, fun hshort => ?_⟩
      rw [hsubscriber, Program.sat_pure, if_neg (Nat.not_le_of_lt hshort), Program.sat_bind,
        stringAt] at h
      cases hname : CString.ofMemory event with
      | none =>
          rw [hname] at h
          exact h.elim
      | some name =>
          refine ⟨name, rfl, fun hlegal => ?_⟩
          rw [hname, Program.sat_pure, if_neg (Nat.not_le_of_lt hlegal), Program.sat_bind,
            derefObject, Program.sat_bind, Program.sat_getState] at h
          cases hobject : w.gServerObjects.items.find? fun o => o.ptr = p with
          | none =>
              rw [hobject] at h
              exact h.elim
          | some o =>
              refine ⟨o, rfl, fun e hfound => ?_⟩
              rw [hobject, Program.sat_pure] at h
              have hnotified {w₁ : World (RbusMessage U) (List UInt8)}
                  (hobjects : w₁.gServerObjects = w.gServerObjects)
                  (h₁ : Program.Sat (serviceContract result)
                    (notifyServerEvent p name subscriber added) Q w₁) :
                  CallbackFinds w.gServerObjects.items e subscriber added := by
                rw [← hobjects] at hobject ⊢
                rw [notifyServerEvent, Program.sat_bind,
                  Program.sat_of_done (derefObject_of_find hobject), hfound, Program.sat_bind] at h₁
                exact callbackFinds_of_sat h₁
              cases hoverride : o.subscribeHandlerOverride with
              | none =>
                  rw [hoverride] at h
                  exact hnotified rfl h
              | some override =>
                  rw [hoverride, Program.sat_bind, sat_call] at h
                  -- the override leaves the subscription to the library
                  have hanswered := h.2 RbusError.subscribeNotHandled _
                    (by exact producing_same (by trivial) _)
                  rw [if_neg (not_not_intro rfl)] at hanswered
                  exact hnotified (by rfl) hanswered

/-- The subscription handler returns only if it gets through with the request. -/
theorem subscriptionServed_of_sat
    {request : RbusMessage U} {p : Ptr} {region : List UInt8} {method : CString}
    {Q : RbusError × Option (MessageRef (RbusMessage U)) →
      World (RbusMessage U) (List UInt8) → Prop}
    (hname : CString.ofMemory region = some method)
    (h : Program.Sat (serviceContract result) (subscriptionHandler (some region) request p) Q w) :
    SubscriptionServed w.gServerObjects.items request p
      (decide (method = methodAddEventSubscription)) := by
  intro event sender hevent hsender
  unfold subscriptionHandler at h
  rw [Program.sat_bind, sat_newMessage] at h
  simp only [hevent, hsender] at h
  obtain ⟨order, horder, hadds⟩ := exists_order U hname
  rw [handleSubscription, Program.sat_bind, Program.sat_bind, subscriptionPayload] at h
  split at h
  all_goals
    simp only [Program.sat_bind, sat_newMessage, Program.sat_pure, sat_deref_some, horder,
      hadds] at h
    obtain ⟨subscriber, hsubscriber, hserved⟩ := served_of_sat h
    exact ⟨subscriber, hsubscriber, hserved⟩

end Necessity

section Responses

variable {U : Unpacker} {result : HandlerResult (RbusMessage U)} {hdr : RtMessageHeader}
variable {w : World (RbusMessage U) (List UInt8)} {data : List UInt8} {obj : Ptr}
variable {later : Option (RbusMessage U)}

/-- Under the condition, what one arrival leads to adds up. -/
theorem counts_of_respondsOnce
    {w₁ : World (RbusMessage U) (List UInt8)}
    (hcond : RespondsOnce w hdr data obj result later)
    (h₁ : responseCounts hdr w₁.log = arrivalCounts w hdr data obj result.ret) :
    (responseCounts hdr w₁.log).1 =
      if hdr.request = true ∧ ¬ Deferred hdr result w₁ then 1 else 0 := by
  have hdeferred : Deferred hdr result w₁ ↔
      (arrivalCounts w hdr data obj result.ret).2 ≠ 0 ∧ result.ret = .successAsync := by
    rw [Deferred, h₁]
  simp only [hdeferred, h₁]
  by_cases hrequest : hdr.request = true
  · obtain ⟨hstack, handler, hfound, hhandles⟩ := hcond.resolve_left (by simp [hrequest])
    rw [arrivalCounts, if_pos hstack, lookupMethod_of_handler? hfound]
    cases handler with
    | none =>
        by_cases hasync : result.ret = .successAsync <;>
          simp [dispatchCounts, requestCount, hasync, hrequest]
    | some method =>
        rw [HandlesOnce] at hhandles
        cases hcallback : method.callback with
        | subscriptionHandler =>
            simp [dispatchCounts, requestCount, hcallback, hrequest]
        | app id =>
            rw [hcallback] at hhandles
            simp [dispatchCounts, requestCount, hcallback, hhandles.1, hrequest]
  · have hzero : requestCount hdr = 0 := if_neg hrequest
    rw [if_neg (by simp [hrequest])]
    unfold arrivalCounts dispatchCounts
    split
    · split <;> simp [hzero]
    · rfl

/-- Under the condition every request gets exactly one response. -/
theorem exactlyOneResponse_of_respondsOnce
    (rounds : Nat)
    (hqueue : w.gQueuedRequests = .null)
    (hcond : RespondsOnce w hdr data obj result later) :
    ExactlyOneResponse rounds hdr data obj result later w where
  onDispatch w' hreturns := by
    obtain ⟨-, h₁⟩ := Program.sat_iff_returns.mp
      (sat_onMessage_counts rounds data obj hqueue) () w' hreturns
    exact counts_of_respondsOnce hcond h₁.counts
  inTotal w' hreturns := by
    obtain ⟨w₁, -, h₁, -, htotal⟩ := Program.sat_iff_returns.mp
      (sat_serve_counts rounds data obj later hqueue) () w' hreturns
    rw [htotal, counts_of_respondsOnce hcond h₁.counts, requestCount]
    by_cases hrequest : hdr.request = true
    · by_cases hdeferred : Deferred hdr result w₁ <;> simp [hrequest, hdeferred]
    · simp [hrequest]
  produced hrequest := by
    obtain ⟨hstack, handler, hfound, hhandles⟩ := hcond.resolve_left (by simp [hrequest])
    exact completes_serve rounds hqueue hstack hfound hhandles

/-- A request that gets exactly one response meets the condition. -/
theorem respondsOnce_of_exactlyOneResponse
    {rounds : Nat}
    (hqueue : w.gQueuedRequests = .null)
    (hrequest : hdr.request = true)
    (honce : ExactlyOneResponse rounds hdr data obj result later w) :
    w.stackCounter = 0 ∧ ∃ handler, handler? w data obj = some handler ∧
      HandlesOnce w.gServerObjects.items data result later handler := by
  have hcompletes := honce.produced hrequest
  obtain ⟨_, w', hreturns⟩ := hcompletes.returns
  -- a complete run, and what it shows
  have hserving : Program.Returns (serving result) (serve rounds hdr data obj result later)
      w.fresh () w' :=
    hreturns.mono fun _ _ _ _ henv => henv.1
  obtain ⟨w₁, hwritable, hcounted, hlater, htotal⟩ := Program.sat_iff_returns.mp
    (sat_serve_counts rounds data obj later hqueue) () w' hserving
  have hone := honce.inTotal w' hserving
  rw [htotal, hcounted.counts, if_pos hrequest] at hone
  have hdeferred : Deferred hdr result w₁ ↔
      (arrivalCounts w hdr data obj result.ret).2 ≠ 0 ∧ result.ret = .successAsync := by
    rw [Deferred, hcounted.counts]
  have hstack : w.stackCounter = 0 := by
    by_contra hne
    rw [arrivalCounts, if_neg hne] at hdeferred hone
    rw [if_neg fun h => (hdeferred.mp h).1 rfl] at hone
    cases hone
  rw [arrivalCounts, if_pos hstack] at hdeferred hone
  have hwritable := hwritable hstack hrequest
  rw [Program.completes_iff_sat, serve, Program.sat_bind, sat_onMessage_iff (w := w.fresh) hstack]
    at hcompletes
  obtain ⟨handler, w₂, hfound, hobjects, R, hdispatched⟩ := exists_dispatchTo_of_sat hcompletes
  have hfound : handler? w data obj = some handler := hfound
  have hobjects : w₂.gServerObjects = w.gServerObjects := hobjects
  rw [lookupMethod_of_handler? hfound] at hdeferred hone hwritable
  refine ⟨hstack, handler, hfound, ?_⟩
  cases handler with
  | none =>
      rw [HandlesOnce]
      split
      case isTrue hasync =>
        exact hlater (hdeferred.mpr ⟨by simp [dispatchCounts], hasync⟩) hrequest
      case isFalse hsync =>
        exact hwritable hsync
  | some method =>
      rw [HandlesOnce]
      cases hcallback : method.callback with
      | app id =>
          refine ⟨fun hasync => ?_, hwritable id hcallback⟩
          have htwice : Deferred hdr result w₁ :=
            hdeferred.mpr ⟨by simp [dispatchCounts, hcallback], hasync⟩
          rw [if_pos htwice, dispatchCounts, requestCount, if_pos hrequest] at hone
          cases hone
      | subscriptionHandler =>
          obtain ⟨region, hname, hregion⟩ := ofMemory_of_handler? hfound
          rw [dispatchTo, dispatchToMethod, hcallback, hname, Program.sat_bind] at hdispatched
          rw [← hobjects]
          exact subscriptionServed_of_sat hregion hdispatched

/--
For every message that arrives in a state that can be reached, every content of the method table,
every result of a handler and every response that it sends later: exactly one response is sent
for a request, and is produced, and none for anything else, exactly if the message is no request,
or arrives while no other request is handled and has a handler that sees to one response.
-/
theorem exactlyOneResponse_iff
    (rounds : Nat)
    (hdr : RtMessageHeader)
    (data : List UInt8)
    (obj : Ptr)
    (result : HandlerResult (RbusMessage U))
    (later : Option (RbusMessage U))
    (w : World (RbusMessage U) (List UInt8))
    (hreached : Reached w) :
    ExactlyOneResponse rounds hdr data obj result later w ↔
      RespondsOnce w hdr data obj result later := by
  have hqueue := hreached.gQueuedRequests
  refine ⟨fun honce => ?_, exactlyOneResponse_of_respondsOnce rounds hqueue⟩
  by_cases hrequest : hdr.request = true
  · exact Or.inr (respondsOnce_of_exactlyOneResponse hqueue hrequest honce)
  · exact Or.inl (by simpa using hrequest)

end Responses

section Run

/-- A handler that defers its response, and a transport that accepts everything. -/
def deferringAnswer :
    (e : Call Bytes (List UInt8)) → World Bytes (List UInt8) →
      Option (e.Answer × World Bytes (List UInt8))
  | .methodCallback .., w => some (⟨.successAsync, none⟩, w)
  | .sendBinaryResponse .., w => some (.rtOk, w)
  | _, _ => none

theorem serving_of_deferringAnswer
    (e : Call Bytes (List UInt8)) (w : World Bytes (List UInt8)) (a : e.Answer)
    (w' : World Bytes (List UInt8))
    (h : deferringAnswer e w = some (a, w')) :
    serving ⟨.successAsync, none⟩ e w a w' := by
  cases e with
  | methodCallback =>
      obtain ⟨rfl, rfl⟩ := Prod.mk.inj (Option.some.inj h)
      exact ⟨rfl, rfl, rfl, rfl⟩
  | sendBinaryResponse =>
      obtain ⟨rfl, rfl⟩ := Prod.mk.inj (Option.some.inj h)
      exact ⟨trivial, rfl⟩
  | _ =>
      cases h

/-- The default callback defers its response, and the request gets exactly one. -/
theorem default_callback_responds_once :
    ExactlyOneResponse 0 (sampleHeader 1) [] 1
      (⟨.successAsync, none⟩ : HandlerResult Bytes) none (sampleRegistered sampleObject) := by
  have hfound : handler? (sampleRegistered sampleObject) [] 1 = some none := by
    decide +kernel
  refine (exactlyOneResponse_iff 0 (sampleHeader 1) [] 1 ⟨.successAsync, none⟩ none
    (sampleRegistered sampleObject) (reached_sampleRegistered sampleObject)).mpr
    (Or.inr ⟨rfl, none, hfound, ?_⟩)
  rw [HandlesOnce, if_pos rfl]
  intro m hm
  cases hm

/-- A callback of the method table defers its response: the request is answered at once and
answered again later. -/
theorem table_callback_responds_twice :
    ∃ w w' : World Bytes (List UInt8),
      Reached w ∧
      Program.Returns (serving ⟨.successAsync, none⟩)
        (serve 0 (sampleHeader 1) sampleMethodMessage 1 ⟨.successAsync, none⟩ none) w.fresh () w' ∧
      (responseCounts (sampleHeader 1) w'.log).1 = 2 ∧
      ¬ExactlyOneResponse 0 (sampleHeader 1) sampleMethodMessage 1 ⟨.successAsync, none⟩ none
        w := by
  have hrun : ((serve 0 (sampleHeader 1) sampleMethodMessage 1 ⟨.successAsync, none⟩ none
      (sampleRegistered sampleMethodObject).fresh).run deferringAnswer).map
        (fun r => (responseCounts (sampleHeader 1) r.2.log).1) = some 2 := by
    decide +kernel
  obtain ⟨⟨⟨⟩, w'⟩, hw', hcounts⟩ := Option.map_eq_some_iff.mp hrun
  have hreturns := Program.returns_of_run serving_of_deferringAnswer hw'
  refine ⟨sampleRegistered sampleMethodObject, w', reached_sampleRegistered sampleMethodObject,
    hreturns, hcounts, fun honce => ?_⟩
  have hone := honce.inTotal w' hreturns
  rw [show (responseCounts (sampleHeader 1) w'.log).1 = 2 from hcounts] at hone
  cases hone

end Run

end RbusCore
