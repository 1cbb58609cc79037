import RbusCore.EventMessages
import RbusCore.Frames

/-!
# The end of a body

The body of a message and its metadata section are read by the same getters with the same
cursor, and nothing marks the end of the body.  The section starts with a string: the name of
the method or of the event.

**Results.**
* `metaSectionRead_whole`: reading the section puts the cursor back to the start of all bytes.
* `Whole.reads_on`: behind the body comes the name.
* `BodyReceived.reads_on`: the three kinds of messages, from the sender to the receiver.
* `body_never_isolated`: the getter of a string delivers the name.
-/

namespace RbusCore

open CStrings Resumption MessagePack

section Boundary

variable {U : Unpacker}

/-- The values `vs` are delivered, and every further getter fails. -/
def IsolatedBody (m : RbusMessage U) (vs : List Value) : Prop :=
  Delivers m vs ∧
    ∀ ks : List Kind, ∀ r ∈ (rbusMessageGets (rbusMessageGets m (vs.map Value.kind)).2 ks).1,
      r = none

/-- The values `vs` are delivered, and behind them the getter of a string delivers `s`. -/
def ReadsOn (m : RbusMessage U) (vs : List Value) (s : CString) : Prop :=
  Delivers m vs ∧
    (rbusMessageGet (rbusMessageGets m (vs.map Value.kind)).2 .str).1 = some (.str (some s))

theorem ReadsOn.not_isolated
    {m : RbusMessage U} {vs : List Value} {s : CString}
    (h : ReadsOn m vs s) :
    ¬IsolatedBody m vs := by
  intro hisolated
  have hnone := hisolated.2 [.str] _ (List.mem_singleton_self _)
  rw [h.2] at hnone
  cases hnone

/-- Behind the body comes the name. -/
theorem Whole.reads_on
    {m : RbusMessage U} {vs : List Value} {s : CString} {rest : List UInt8}
    (h : Whole m (encodeAll vs ++ ((Value.str s).encode ++ rest)))
    (hsize : (encodeAll vs).length + (Value.str s).encode.length < 2147483648) :
    ReadsOn m vs s := by
  have hdrop : m.sbuf.drop m.readOffset = encodeAll vs ++ ((Value.str s).encode ++ rest) := by
    rw [h.1, h.2, List.drop_zero]
  have hbody : (encodeAll vs).length < 2147483648 := by omega
  have hbehind : m.sbuf.drop (m.readOffset + (encodeAll vs).length) =
      (Value.str s).encode ++ rest := by
    rw [← List.drop_drop, hdrop, List.drop_left]
  let behind : RbusMessage U := { m with readOffset := m.readOffset + (encodeAll vs).length }
  have hname := rbusMessageGet_value (m := behind) ((Value.str s).fits_of_length (by omega)) hbehind
  refine ⟨h.delivers hbody, ?_⟩
  rw [rbusMessageGets_values hbody hdrop]
  exact congrArg Prod.fst hname

/-- A receiver that has read the section holds the whole message. -/
theorem metaSectionRead_whole
    (data : List UInt8)
    (ks : List Kind) :
    Whole (metaSectionRead (rbusMessageFromBytes data : RbusMessage U) ks) data := by
  rw [metaSectionRead_eq _ _ (Nat.zero_lt_succ _)]
  exact ⟨rfl, rfl⟩

end Boundary

section Senders

variable {U : Unpacker} {as : List (Setting U)}

/-- A method name that is NULL is written as an empty one. -/
theorem setMessageMethod_getD
    (m : MessageRef (RbusMessage U)) (s : Option CString) :
    setMessageMethod (W := List UInt8) m s = setMessageMethod m (some (s.getD CString.empty)) := by
  cases s with
  | none =>
      rfl
  | some s =>
      rfl

/-- The message with the values, or an empty one in the place of NULL. -/
theorem messageOrEmpty_of_passes
    {out : Option (MessageRef (RbusMessage U))} {w : World (RbusMessage U) (List UInt8)}
    (hpasses : Passes out as w) :
    ∃ m w', messageOrEmpty out w = .done m w' ∧
      rbusMessageSets rbusMessageInit as = some m.val := by
  cases out with
  | some out =>
      exact ⟨out, w, rfl, hpasses.1⟩
  | none =>
      obtain rfl : as = [] := hpasses
      exact ⟨_, _, rfl, rfl⟩

/-- What is sent as a request. -/
theorem rbusInvokeRemoteMethod_sent
    {object method : Option CString} {out : Option (MessageRef (RbusMessage U))}
    {timeout t : Int} {con : Option Ptr} {data : List UInt8} {topic : CString}
    {w w' : World (RbusMessage U) (List UInt8)}
    (hpasses : Passes out as w)
    (hsize : messageSize as (method.getD CString.empty) < 2 ^ 31 - 2 ^ 15)
    (hsent : (rbusInvokeRemoteMethod object method out timeout w).firstCall =
      some (.sendBinaryRequest con data topic t, w')) :
    data = messageBytes as (method.getD CString.empty) := by
  rw [rbusInvokeRemoteMethod, Program.bind_of_done (x := Program.getState) rfl] at hsent
  split at hsent
  · cases hsent
  · cases object with
    | none =>
        cases hsent
    | some object =>
        rw [Program.bind_of_done (x := deref (some object)) rfl] at hsent
        split at hsent
        · cases hsent
        · obtain ⟨m, w₀, hmade, hset⟩ := messageOrEmpty_of_passes hpasses
          obtain ⟨v, hbuf, hmethod⟩ := exists_setMessageMethod_values hset hsize
          have hbytes : rbusMessageToBytes v = messageBytes as (method.getD CString.empty) := by
            rw [rbusMessageToBytes_of_lt, hbuf]
            rw [hbuf, messageBytes_length]
            omega
          rw [Program.bind_of_done hmade, setMessageMethod_getD, hmethod,
            Program.bind_of_done (x := pure _) rfl] at hsent
          obtain ⟨hcall, -⟩ := Prod.mk.inj (Option.some.inj hsent)
          rw [← hbytes]
          exact (Call.sendBinaryRequest.inj hcall).2.1.symm

/-- What is sent as a response. -/
theorem rbusSendResponse_sent
    {hdr hdr' : RtMessageHeader} {response : Option (MessageRef (RbusMessage U))}
    {t : Int} {con : Option Ptr} {data : List UInt8} {w w' : World (RbusMessage U) (List UInt8)}
    (hanswers : Answers response as)
    (hsize : messageSize as methodResponse < 2 ^ 31 - 2 ^ 15)
    (hsent : (rbusSendResponse hdr response w).firstCall =
      some (.sendBinaryResponse con hdr' data t, w')) :
    data = messageBytes as methodResponse := by
  by_cases hrequest : hdr.request = true
  · obtain ⟨w₁, k, heq⟩ := rbusSendResponse_sends w hrequest hanswers hsize
    rw [heq] at hsent
    obtain ⟨hcall, -⟩ := Prod.mk.inj (Option.some.inj hsent)
    exact (Call.sendBinaryResponse.inj hcall).2.2.1.symm
  · rw [rbusSendResponse, rtMessageHeaderIsRequest, if_neg hrequest] at hsent
    cases hsent

end Senders

section Receivers

variable {M W : Type} [MessageApi M W] {data : W} {w : World M W}
variable {R : (e : Call M W) → World M W → e.Answer → World M W → Prop}

/-- The message that is handed on once the first string of its section has been read. -/
def handedOn (M : Type) [MessageApi M W] (data : W) : M :=
  MessageApi.endMetaSectionRead
    (MessageApi.getString (MessageApi.beginMetaSectionRead (MessageApi.fromBytes data : M))).2

/-- Every callback for a request is given what is handed on. -/
def requestReceived
    (R : (e : Call M W) → World M W → e.Answer → World M W → Prop)
    (data : W) :
    Contract (Call.Answer (M := M) (W := W)) (World M W) where
  env := R
  atCall
    | .methodCallback _ _ _ received _ _, _ => received = handedOn M data
    | _, _ => True
  atUndef _ := True

/-- The code around the callbacks of the application does not get in the way. -/
theorem listening_requestReceived :
    Listening (requestReceived R data) fun _ => True where
  messages _ _ _ _ _ := trivial
  called _ _ _ _ := trivial
  fault _ _ _ _ := trivial
  env _ _ _ _ _ _ := trivial
  atCall e _ he _ := by
    cases e <;> trivial
  atUndef _ _ := trivial
  listeners _ _ _ _ := trivial

theorem sat_appMethodCallback
    (id : Nat) (topic : CString) (methodName : Option (List UInt8)) (userData : Ptr)
    (hdr : RtMessageHeader) :
    Program.Sat (requestReceived R data)
      (appMethodCallback id topic methodName (handedOn M data) userData hdr) (fun _ _ => True)
      w := by
  rw [appMethodCallback, Program.sat_bind, sat_call]
  refine ⟨rfl, fun result w' _ => ?_⟩
  exact Program.keeps_bind (keeps_newMessageUnlessNull listening_requestReceived.toSteady _)
    (fun _ => Program.keeps_pure _) w' trivial

theorem keeps_rbusSendResponse_received
    (hdr : RtMessageHeader) (response : Option (MessageRef M)) :
    Program.Keeps (requestReceived R data) (fun _ => True) (rbusSendResponse hdr response) := by
  have h : Steady (requestReceived R data) fun _ => True := listening_requestReceived.toSteady
  refine Program.keeps_ite ?_ (Program.keeps_pure _)
  refine Program.keeps_bind (keeps_responseOrUnsupported h _) fun response => ?_
  refine Program.keeps_bind (keeps_setMessageMethod h _ _) fun response => ?_
  refine Program.keeps_bind keeps_gConnectionPtr fun con => ?_
  refine Program.keeps_bind (fun w _ => ⟨trivial, fun _ _ _ => trivial⟩) fun err => ?_
  exact Program.keeps_bind (keeps_rbusMessageRelease h response) fun _ => Program.keeps_pure _

/-- A request is handed to whichever callback as a whole. -/
theorem sat_dispatchMethodCall_handsOn
    (p : Ptr) (hdr : RtMessageHeader) (obj : Ptr) :
    Program.Sat (requestReceived R data)
      (dispatchMethodCall ⟨p, (MessageApi.fromBytes data : M)⟩ hdr obj)
      (fun _ _ => True) w := by
  have h : Listening (requestReceived R data) fun _ => True := listening_requestReceived
  refine Program.Sat.bind (P := fun m _ => m = MessageApi.fromBytes data) ?_ ?_
  · rw [derefMessage, Program.sat_bind, Program.sat_getState, Program.sat_ite]
    split
    · trivial
    · rfl
  · rintro m w rfl
    rw [Program.sat_bind, sat_lock]
    refine (keeps_derefObject h.toCalling obj).bind trivial fun object w _ => ?_
    refine (keeps_findMethod h.toCalling object _).bind trivial fun method w _ => ?_
    rw [Program.sat_bind, sat_unlock]
    cases method with
    | some method =>
        refine Program.Sat.bind (P := fun _ _ => True) ?_ fun result w _ =>
          Program.keeps_bind (keeps_rbusSendResponse_received hdr result.2)
            (fun _ => Program.keeps_pure _) w trivial
        unfold invokeMethodCallback
        split
        · exact keeps_subscriptionHandler h _ _ _ _ trivial
        · exact sat_appMethodCallback _ _ _ _ _
    | none =>
        refine (keeps_derefObject h.toCalling obj).bind trivial fun object w _ => ?_
        refine Program.Sat.bind (sat_appMethodCallback _ _ _ _ _) fun result w _ => ?_
        exact Program.keeps_ite (Program.keeps_pure _)
          (Program.keeps_bind (keeps_rbusSendResponse_received hdr result.2)
            fun _ => Program.keeps_pure _) w trivial

/-- A transport that answers a request with these bytes. -/
def repliesWith
    (R : (e : Call M W) → World M W → e.Answer → World M W → Prop)
    (data : W) :
    (e : Call M W) → World M W → e.Answer → World M W → Prop
  | .sendBinaryRequest con bytes topic timeout, w, a, w' =>
      R (.sendBinaryRequest con bytes topic timeout) w a w' ∧ a = .ok data
  | e, w, a, w' => R e w a w'

/-- Nothing is asked of the code around a reply. -/
def replyReceived
    (R : (e : Call M W) → World M W → e.Answer → World M W → Prop)
    (data : W) :
    Contract (Call.Answer (M := M) (W := W)) (World M W) where
  env := repliesWith R data
  atCall _ _ := True
  atUndef _ := True

omit [MessageApi M W] in
theorem steady_replyReceived :
    Steady (replyReceived R data) fun _ => True where
  messages _ _ _ _ _ := trivial
  called _ _ _ _ := trivial
  fault _ _ _ _ := trivial
  env _ _ _ _ _ _ := trivial
  atCall _ _ _ _ := trivial
  atUndef _ _ := trivial

/-- A response is returned as a whole. -/
theorem sat_receiveReply
    {res : MessageRef M}
    (hres : res.val = MessageApi.fromBytes data)
    (out : MessageRef M) :
    Program.Sat (replyReceived R data) (receiveReply out (.ok res))
      (fun r _ => ∀ res, r.2 = some (some res) → res.val = handedOn M data) w := by
  have h : Steady (replyReceived R data) fun _ => True := steady_replyReceived
  rw [receiveReply]
  refine Program.Sat.bind (keeps_checkResponse h _ w trivial) fun ret w _ => ?_
  refine (keeps_rbusMessageRelease h out).bind trivial fun _ w _ => ?_
  rw [Program.sat_ite]
  split
  · refine (keeps_rbusMessageRelease h res).bind trivial fun _ w _ => ?_
    rintro res ⟨⟩
  · rintro res ⟨⟩
    rw [hres]
    rfl

theorem sat_rbusSendRequest
    (req : MessageRef M) (topic : CString) (timeout : Int) :
    Program.Sat (replyReceived R data) (rbusSendRequest req topic timeout)
      (fun reply _ => ∃ res, reply = .ok res ∧ res.val = MessageApi.fromBytes data) w := by
  rw [rbusSendRequest, Program.sat_bind, sat_gConnectionPtr, Program.sat_bind, sat_call]
  refine ⟨trivial, ?_⟩
  rintro reply w' ⟨-, rfl⟩
  rw [Program.sat_bind, sat_newMessage]
  exact ⟨_, rfl, rfl⟩

theorem sat_rbusInvokeRemoteMethod
    (object method : Option CString) (out : Option (MessageRef M)) (timeout : Int) :
    Program.Sat (replyReceived R data) (rbusInvokeRemoteMethod object method out timeout)
      (fun r _ => ∀ res, r.2 = some (some res) → res.val = handedOn M data) w := by
  have h : Steady (replyReceived R data) fun _ => True := steady_replyReceived
  rw [rbusInvokeRemoteMethod, Program.sat_bind, Program.sat_getState, Program.sat_ite]
  split
  · rintro res ⟨⟩
  · refine (keeps_deref h.toCalling object).bind trivial fun object w _ => ?_
    rw [Program.sat_ite]
    split
    · rintro res ⟨⟩
    · refine (keeps_messageOrEmpty h out).bind trivial fun out w _ => ?_
      refine (keeps_setMessageMethod h out method).bind trivial fun out w _ => ?_
      refine Program.Sat.bind (sat_rbusSendRequest out object timeout) ?_
      rintro reply w ⟨res, rfl, hres⟩
      exact sat_receiveReply hres out

/-- Every callback for an event is given this message. -/
def eventReceived
    (R : (e : Call M W) → World M W → e.Answer → World M W → Prop)
    (body : M) :
    Contract (Call.Answer (M := M) (W := W)) (World M W) where
  env := R
  atCall
    | .eventCallback _ _ _ received _, _ => received = body
    | _, _ => True
  atUndef _ := True

variable {body : M}

omit [MessageApi M W] in
theorem keeps_rbusMessageRelease_received
    (m : MessageRef M) :
    Program.Keeps (eventReceived R body) (fun _ => True) (rbusMessageRelease m) := by
  refine Program.keeps_bind Program.keeps_getState fun w => ?_
  exact Program.keeps_ite (fun _ _ => trivial) fun _ _ => trivial

omit [MessageApi M W] in
/-- An event that is left to the table. -/
theorem sat_dispatchClientEvent
    {sender event : CString} {region : List UInt8} {m : MessageRef M}
    (hregion : CString.ofMemory region = some event) :
    Program.Sat (eventReceived R m.val) (dispatchClientEvent sender (some region) m)
      (fun _ _ => True) w := by
  rw [dispatchClientEvent, Program.sat_bind, sat_lock]
  refine Program.Sat.bind (P := fun _ _ => True) ?_ fun subs w _ => ?_
  · rw [clientSubscriptions, Program.sat_bind, Program.sat_getState]
    cases w.gEventSubscriptionsForClient <;> trivial
  · rw [findClientEvent_eq hregion, pure_bind, Program.sat_bind, sat_unlock]
    cases findDelivery sender event subs with
    | none =>
        exact keeps_rbusMessageRelease_received m _ trivial
    | some e =>
        refine ⟨rfl, fun ret w' _ => keeps_rbusMessageRelease_received m w' trivial⟩

/-- An event is handed to whichever callback as a whole. -/
theorem sat_masterEventCallback_handsOn
    {hdr : RtMessageHeader} {region : List UInt8} {event : CString} {flag : Int}
    (hevent : EventMessage data region event flag body) :
    Program.Sat (eventReceived R body) (masterEventCallback (M := M) hdr data)
      (fun _ _ => True) w := by
  by_cases hsender : hdr.replyTopic.strlen < maxObjectNameLength
  · obtain ⟨p, w', -, -, heq⟩ := masterEventCallback_eq (w := w) hsender hevent
    rw [Program.Sat, heq]
    cases if flag ≠ 0 then w.gMasterEventCallback else none with
    | none =>
        exact sat_dispatchClientEvent (m := ⟨p, body⟩) hevent.terminated
    | some callback =>
        refine ⟨rfl, fun ret w _ => ?_⟩
        show Program.Sat (eventReceived R body)
          (if ret ≠ .eventNotHandled then rbusMessageRelease ⟨p, body⟩
            else dispatchClientEvent hdr.replyTopic (some region) ⟨p, body⟩) (fun _ _ => True) w
        rw [Program.sat_ite]
        split
        · exact keeps_rbusMessageRelease_received ⟨p, body⟩ w trivial
        · exact sat_dispatchClientEvent (m := ⟨p, body⟩) hevent.terminated
  · rw [masterEventCallback, if_pos (Nat.le_of_not_lt hsender)]
    trivial

end Receivers

section Publishing

variable {U : Unpacker} {as : List (Setting U)} {published : List (CString × CString)}
variable {w : World (RbusMessage U) (List UInt8)}
variable {R : (e : Call (RbusMessage U) (List UInt8)) → World (RbusMessage U) (List UInt8) →
  e.Answer → World (RbusMessage U) (List UInt8) → Prop}

/-- `rbus_publishEvent`, or `rbus_publishSubscriberEvent` for one subscriber. -/
def publishing
    (subscriber : Option CString) (object : CString) (event : Option CString)
    (out : MessageRef (RbusMessage U)) :
    CoreM (RbusMessage U) (List UInt8) (RbusError × MessageRef (RbusMessage U)) :=
  match subscriber with
  | none => rbusPublishEvent (some object) event out
  | some listener => rbusPublishSubscriberEvent (some object) event listener out

/-- The flag for `rbus` 2.0. -/
def publishFlag (subscriber : Option CString) : Int32 := if subscriber.isSome then 1 else 0

theorem publishFlag_eq
    (subscriber : Option CString) :
    publishFlag subscriber = 0 ∨ publishFlag subscriber = 1 := by
  cases subscriber with
  | none =>
      exact Or.inl rfl
  | some _ =>
      exact Or.inr rfl

/-- The bytes for one subscriber. -/
theorem sat_rbusPublishSubscriberEvent
    {object event listener : CString} {out : MessageRef (RbusMessage U)}
    (h : Carries as published out.val)
    (hsize : eventSize as (published ++ [(object, event)]) < 2 ^ 31 - 2 ^ 15) :
    Program.Sat (sending R object (withEvent object event out.val 1))
      (rbusPublishSubscriberEvent (some object) (some event) listener out)
      (fun r _ => Carries as (published ++ [(object, event)]) r.2.val) w := by
  have hwritten := h.withEvent (Or.inr rfl) object event
  have hone : (1 : Int) = (1 : Int32).toInt := by decide
  rw [rbusPublishSubscriberEvent, Program.sat_bind, sat_deref_some, Program.sat_ite]
  split
  case isTrue =>
    exact h.append object event
  case isFalse hlegal =>
    dsimp only [Option.getD_some]
    rw [hone, h.setEventMetaSection (Or.inr rfl) hsize, pure_bind, Program.sat_bind, sat_lock]
    refine Program.Sat.bind (P := fun _ _ => True) ?_ fun found w _ => ?_
    · exact sat_getObject_sending object
    · refine Program.Sat.bind
        (sat_rbusSendMessage ⟨out.ptr, _⟩ listener (Nat.lt_of_not_le hlegal)) fun _ w _ => ?_
      exact hwritten

/-- An event that is NULL is the default event. -/
theorem publishing_getD
    (subscriber : Option CString) (object : CString) (event : Option CString)
    (out : MessageRef (RbusMessage U)) :
    publishing subscriber object event out =
      publishing subscriber object (some (event.getD defaultEvent)) out := by
  cases event with
  | none =>
      cases subscriber <;> rfl
  | some event =>
      rfl

/-- Whichever publish it is: its bytes, and the message behind it. -/
theorem sat_publishing
    {object : CString} {event : Option CString}
    (subscriber : Option CString) (out : MessageRef (RbusMessage U))
    (h : Carries as published out.val)
    (hsize : eventSize as (published ++ [(object, event.getD defaultEvent)]) < 2 ^ 31 - 2 ^ 15) :
    Program.Sat
      (sending R object
        (withEvent object (event.getD defaultEvent) out.val (publishFlag subscriber)))
      (publishing subscriber object event out)
      (fun r _ => Carries as (published ++ [(object, event.getD defaultEvent)]) r.2.val) w := by
  rw [publishing_getD]
  cases subscriber with
  | none =>
      exact sat_rbusPublishEvent out h hsize
  | some listener =>
      exact sat_rbusPublishSubscriberEvent h hsize

/-- A message that was built by setters and published some times, in either way and from any
states of the provider. -/
inductive EventBuilt
    (R : (e : Call (RbusMessage U) (List UInt8)) → World (RbusMessage U) (List UInt8) →
      e.Answer → World (RbusMessage U) (List UInt8) → Prop)
    (as : List (Setting U)) : List (CString × CString) → RbusMessage U → Prop
  | built
      {m : RbusMessage U}
      (hset : rbusMessageSets rbusMessageInit as = some m) :
      EventBuilt R as [] m
  | publish
      {published : List (CString × CString)} {m : RbusMessage U}
      {subscriber event : Option CString} {object : CString} {p : Ptr} {ret : RbusError}
      {out : MessageRef (RbusMessage U)} {w w' : World (RbusMessage U) (List UInt8)}
      (h : EventBuilt R as published m)
      (hpublish : Program.Returns R (publishing subscriber object event ⟨p, m⟩) w (ret, out) w') :
      EventBuilt R as (published ++ [(object, event.getD defaultEvent)]) out.val

theorem EventBuilt.carries
    {m : RbusMessage U}
    (h : EventBuilt R as published m)
    (hsize : eventSize as published < 2 ^ 31 - 2 ^ 15) :
    Carries as published m := by
  induction h with
  | built hset =>
      exact carries_of_sets hset hsize
  | @publish published m subscriber event object p ret out w w' _ hpublish ih =>
      have hearlier : eventSize as published < 2 ^ 31 - 2 ^ 15 := by
        rw [eventSize_append] at hsize
        omega
      have hsat := sat_publishing (R := R) (w := w) subscriber ⟨p, m⟩ (ih hearlier) hsize
      exact Program.returns_of_sat (a := (ret, out)) (fun _ _ _ _ hR => hR) hsat hpublish

/-- The bytes of a publish. -/
theorem publishing_sent
    {m : RbusMessage U} {subscriber event : Option CString} {object : CString} {p : Ptr}
    {con : Option Ptr} {data : List UInt8} {listener sender : CString}
    {w' : World (RbusMessage U) (List UInt8)}
    (h : Carries as published m)
    (hsize : eventSize as (published ++ [(object, event.getD defaultEvent)]) < 2 ^ 31 - 2 ^ 15)
    (hsent : Program.Waits R (publishing subscriber object event ⟨p, m⟩) w
      (.sendBinaryDirect con data listener sender) w') :
    data = rbusMessageToBytes
      (withEvent object (event.getD defaultEvent) m (publishFlag subscriber)) := by
  have hsat := sat_publishing (R := R) (w := w) subscriber ⟨p, m⟩ h hsize
  obtain ⟨-, _, _, hcall⟩ := Program.waits_of_sat (fun _ _ _ _ hR => hR) hsat hsent
  exact (Call.sendBinaryDirect.inj hcall).2.1

end Publishing

section Reception

variable {U : Unpacker}
variable {R : (e : Call (RbusMessage U) (List UInt8)) → World (RbusMessage U) (List UInt8) →
  e.Answer → World (RbusMessage U) (List UInt8) → Prop}

/-- A message with the body `as` that has been sent and received: the size of the message, the
names its sections may start with, and what the receiver is given. -/
inductive BodyReceived
    (R : (e : Call (RbusMessage U) (List UInt8)) → World (RbusMessage U) (List UInt8) →
      e.Answer → World (RbusMessage U) (List UInt8) → Prop)
    (as : List (Setting U)) : Nat → List CString → RbusMessage U → Prop
  | request
      {object method : Option CString} {out : Option (MessageRef (RbusMessage U))}
      {timeout t : Int} {con : Option Ptr} {data : List UInt8} {topic topic' : CString}
      {hdr hdr' : RtMessageHeader} {obj p userData : Ptr} {id : Nat}
      {name : Option (List UInt8)} {received : RbusMessage U}
      {caller caller' provider provider' : World (RbusMessage U) (List UInt8)}
      (hpasses : Passes out as caller)
      (hsent : (rbusInvokeRemoteMethod object method out timeout caller).firstCall =
        some (.sendBinaryRequest con data topic t, caller'))
      (hhandled : Program.Waits R (dispatchMethodCall ⟨p, rbusMessageFromBytes data⟩ hdr obj)
        provider (.methodCallback id topic' name received userData hdr') provider') :
      BodyReceived R as (messageSize as (method.getD CString.empty)) [method.getD CString.empty]
        received
  | response
      {object method : Option CString} {out response : Option (MessageRef (RbusMessage U))}
      {timeout t : Int} {con : Option Ptr} {data : List UInt8} {hdr hdr' : RtMessageHeader}
      {ret : RbusError} {res : MessageRef (RbusMessage U)}
      {caller caller' provider provider' : World (RbusMessage U) (List UInt8)}
      (hanswers : Answers response as)
      (hsent : (rbusSendResponse hdr response provider).firstCall =
        some (.sendBinaryResponse con hdr' data t, provider'))
      (hreturned : Program.Returns (repliesWith R data)
        (rbusInvokeRemoteMethod object method out timeout) caller (ret, some (some res)) caller') :
      BodyReceived R as (messageSize as methodResponse) [methodResponse] res.val
  | event
      {published : List (CString × CString)} {m received : RbusMessage U}
      {subscriber event : Option CString} {object listener sender sender' : CString}
      {p userData : Ptr} {id : Nat} {name : Option (List UInt8)} {con : Option Ptr}
      {data : List UInt8} {hdr : RtMessageHeader}
      {client client' provider provider' : World (RbusMessage U) (List UInt8)}
      (hbuilt : EventBuilt R as published m)
      (hsent : Program.Waits R (publishing subscriber object event ⟨p, m⟩) provider
        (.sendBinaryDirect con data listener sender) provider')
      (hhandled : Program.Waits R (masterEventCallback (M := RbusMessage U) hdr data) client
        (.eventCallback id sender' name received userData) client') :
      BodyReceived R as (eventSize as (published ++ [(object, event.getD defaultEvent)]))
        ((published ++ [(object, event.getD defaultEvent)]).map Prod.snd) received

theorem handedOn_whole
    (data : List UInt8) :
    Whole (handedOn (RbusMessage U) data) data :=
  metaSectionRead_whole data [.str]

/-- A message that is all of what was sent as a remote call reads on. -/
theorem Whole.reads_on_message
    {m : RbusMessage U} {as : List (Setting U)} {s : CString}
    (h : Whole m (messageBytes as s))
    (hsize : messageSize as s < 2 ^ 31 - 2 ^ 15) :
    ReadsOn m (as.map Setting.value) s := by
  have hlen := encodeAll_length_lt hsize
  rw [messageBytes, List.append_assoc] at h
  exact h.reads_on (by omega)

/-- Behind the body the receiver comes to the name. -/
theorem BodyReceived.reads_on
    {as : List (Setting U)} {size : Nat} {names : List CString} {received : RbusMessage U}
    (h : BodyReceived R as size names received)
    (hsize : size < 2 ^ 31 - 2 ^ 15) :
    ∃ s ∈ names, ReadsOn received (as.map Setting.value) s := by
  cases h with
  | request hpasses hsent hhandled =>
      have hdata := rbusInvokeRemoteMethod_sent hpasses hsize hsent
      have hreceived := Program.waits_of_sat (fun _ _ _ _ hR => hR)
        (sat_dispatchMethodCall_handsOn (R := R) _ _ _) hhandled
      refine ⟨_, List.mem_singleton_self _, Whole.reads_on_message ?_ hsize⟩
      rw [← hdata, show received = _ from hreceived]
      exact handedOn_whole _
  | response hanswers hsent hreturned =>
      have hdata := rbusSendResponse_sent hanswers hsize hsent
      have hreceived := Program.returns_of_sat (fun _ _ _ _ hR => hR)
        (sat_rbusInvokeRemoteMethod (R := R) _ _ _ _) hreturned
      refine ⟨_, List.mem_singleton_self _, Whole.reads_on_message ?_ hsize⟩
      rw [← hdata, hreceived _ rfl]
      exact handedOn_whole _
  | @event published m received subscriber event object _ _ _ _ _ _ _ _ _ hdr _ _ _ _ hbuilt
      hsent hhandled =>
      have hpublished : eventSize as published < 2 ^ 31 - 2 ^ 15 := by
        rw [eventSize_append] at hsize
        omega
      have hcarries := hbuilt.carries hpublished
      have hflag := publishFlag_eq subscriber
      obtain ⟨region, body, hevent, hwhole⟩ :=
        hcarries.eventMessage hflag object (event.getD defaultEvent) hsize
      rw [publishing_sent hcarries hsize hsent] at hhandled
      have hreceived := Program.waits_of_sat (fun _ _ _ _ hR => hR)
        (sat_masterEventCallback_handsOn (R := R) hevent) hhandled
      obtain ⟨pair, hmem, rest, hbytes⟩ :=
        hcarries.startsWithEvent object (event.getD defaultEvent) (publishFlag subscriber)
      have hlen := (hcarries.withEvent hflag object (event.getD defaultEvent)).size
      rw [hbytes, List.length_append, List.length_append] at hlen
      rw [hbytes, ← show received = body from hreceived] at hwhole
      exact ⟨pair.2, List.mem_map_of_mem hmem, hwhole.reads_on (by omega)⟩

/--
A receiver can never tell where a body ends.  Whatever the body, and for a request, a response
and an event alike, once all its values have been delivered the getter of a string does not
fail: it delivers the name in the metadata section, of the method or of an event.
-/
theorem body_never_isolated
    {as : List (Setting U)} {size : Nat} {names : List CString} {received : RbusMessage U}
    (h : BodyReceived R as size names received)
    (hsize : size < 2 ^ 31 - 2 ^ 15) :
    (∃ s ∈ names, ReadsOn received (as.map Setting.value) s) ∧
      ¬IsolatedBody received (as.map Setting.value) := by
  obtain ⟨s, hs, hreads⟩ := h.reads_on hsize
  exact ⟨⟨s, hs, hreads⟩, hreads.not_isolated⟩

end Reception

section Run

/-- One number is sent to the method `m` of the object `o`, and the method is called. -/
theorem exists_numberReceived :
    ∃ received : Bytes,
      BodyReceived (fun _ _ _ _ => True) [.int32 7] (messageSize (U := .scalars) [.int32 7]
        (.ofChars ['m'])) [.ofChars ['m']] received := by
  have hsent : ∃ data caller', (rbusInvokeRemoteMethod (some (.ofChars ['o']))
      (some (.ofChars ['m'])) (some ⟨5, sampleNumber 7⟩) 1000 sampleCaller).firstCall =
        some (.sendBinaryRequest (some 9) data (.ofChars ['o']) 1000, caller') ∧
      data = messageBytes (U := .scalars) [.int32 7] (.ofChars ['m']) :=
    ⟨_, _, rfl, by decide +kernel⟩
  obtain ⟨data, caller', hsent, hdata⟩ := hsent
  have hhandled : ∃ name received provider',
      (dispatchMethodCall ⟨3, (rbusMessageFromBytes
        (messageBytes (U := .scalars) [.int32 7] (.ofChars ['m'])) : Bytes)⟩ (sampleHeader 1) 1
        sampleProvider).firstCall =
        some (.methodCallback 0 (.ofChars ['o']) name received 0 (sampleHeader 1), provider') :=
    ⟨_, _, _, rfl⟩
  obtain ⟨name, received, provider', hhandled⟩ := hhandled
  rw [← hdata] at hhandled
  have hpasses : Passes (U := .scalars) (some ⟨5, sampleNumber 7⟩) [.int32 7] sampleCaller :=
    ⟨by decide, by decide⟩
  have hreceived := BodyReceived.request hpasses hsent
    (Program.waits_of_firstCall (R := fun _ _ _ _ => True) hhandled)
  exact ⟨received, hreceived⟩

/-- The method reads the number, and then its own name. -/
theorem number_then_method_name :
    ∃ received : Bytes,
      BodyReceived (fun _ _ _ _ => True) [.int32 7] (messageSize (U := .scalars) [.int32 7]
        (.ofChars ['m'])) [.ofChars ['m']] received ∧
      ReadsOn received [.int32 7] (.ofChars ['m']) := by
  obtain ⟨received, h⟩ := exists_numberReceived
  obtain ⟨⟨s, hs, hreads⟩, -⟩ := body_never_isolated h (by decide +kernel)
  obtain rfl := List.mem_singleton.mp hs
  exact ⟨received, h, hreads⟩

/-- The body of this request is not isolated. -/
theorem number_not_isolated :
    ∃ received : Bytes,
      BodyReceived (fun _ _ _ _ => True) [.int32 7] (messageSize (U := .scalars) [.int32 7]
        (.ofChars ['m'])) [.ofChars ['m']] received ∧
      Delivers received [.int32 7] ∧
      ¬IsolatedBody received [.int32 7] := by
  obtain ⟨received, h⟩ := exists_numberReceived
  obtain ⟨s, -, hreads⟩ := h.reads_on (by decide +kernel)
  exact ⟨received, h, hreads.1, hreads.not_isolated⟩

end Run

end RbusCore
