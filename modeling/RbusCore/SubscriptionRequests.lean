import RbusCore.RemoteCalls

/-!
# Subscription requests

A request to add or to remove a listener is a remote call with the event, the address of the
subscriber, a flag and behind it an optional message.  The provider reads the fields in this
order, and answers with one integer.

**Results.**
* `sendSubscriptionRequest_sends`: what the client sends, and what it makes of the answer.
* `subscriptionHandler_reads`: what the provider reads.
* `serverObjectSubscriptionHandler_long`: a name that is too long.
* `subscription_request_agreement`: both sides together.
-/

namespace RbusCore

open CStrings Resumption MessagePack

section Format

variable {U : Unpacker}

/-- The fields of a subscription request. -/
def subscriptionValues (event address : CString) (payload : Option (RbusMessage U)) :
    List (Setting U) :=
  match payload with
  | some item => [.str (some event), .str (some address), .int32 1, .message item]
  | none => [.str (some event), .str (some address), .int32 0]

/-- The bytes of a subscription request. -/
def subscriptionBytes
    (event address : CString) (activate : Bool) (payload : Option (RbusMessage U)) : List UInt8 :=
  messageBytes (subscriptionValues event address payload) (subscriptionMethod activate)

/-- The bytes of the answer to a subscription request. -/
def resultBytes (U : Unpacker) (r : Int32) : List UInt8 :=
  messageBytes (U := U) [.int32 r] methodResponse

/-- A received payload holds the values of the one that was sent, from the first one. -/
def PayloadReceived : Option (RbusMessage U) → Option (RbusMessage U) → Prop
  | none, none => True
  | some sent, some received =>
      ∀ ks, (rbusMessageGets received ks).1 = (rbusMessageGets { sent with readOffset := 0 } ks).1
  | _, _ => False

theorem rbusMessageSets_cons
    {m v : RbusMessage U} {a : Setting U} {as : List (Setting U)}
    (h : rbusMessageSets m (a :: as) = some v) :
    ∃ m₁, rbusMessageSet m a = some m₁ ∧ rbusMessageSets m₁ as = some v := by
  rw [rbusMessageSets, List.foldlM_cons] at h
  exact Option.bind_eq_some_iff.mp h

theorem setStringRef_of_set
    {p : Ptr} {m v : RbusMessage U} {s : CString}
    (h : rbusMessageSet m (.str (some s)) = some v) :
    setStringRef (W := List UInt8) ⟨p, m⟩ (some s) = pure ⟨p, v⟩ := by
  rw [setStringRef_eq]
  exact congrArg (written _) h

theorem setInt32Ref_of_set
    {p : Ptr} {m v : RbusMessage U} {i : Int32}
    (h : rbusMessageSet m (.int32 i) = some v) :
    setInt32Ref (W := List UInt8) ⟨p, m⟩ i.toInt = pure ⟨p, v⟩ := by
  rw [setInt32Ref_eq]
  exact congrArg (written _) h

/-- The fields of a request can be written one after another. -/
theorem subscriptionRequest_of_sets
    {event address : CString} {payload : Option (MessageRef (RbusMessage U))}
    {v : RbusMessage U}
    (hset : rbusMessageSets rbusMessageInit
      (subscriptionValues event address (payload.map MessageRef.val)) = some v)
    (p : Ptr) :
    ∃ v₁ v₂ : RbusMessage U,
      setStringRef (W := List UInt8) ⟨p, rbusMessageInit⟩ (some event) = pure ⟨p, v₁⟩ ∧
      setStringRef (W := List UInt8) ⟨p, v₁⟩ (some address) = pure ⟨p, v₂⟩ ∧
      setPayload (W := List UInt8) ⟨p, v₂⟩ payload = pure ⟨p, v⟩ := by
  cases payload with
  | none =>
      have hset : rbusMessageSets (rbusMessageInit : RbusMessage U)
        [.str (some event), .str (some address), .int32 0] = some v := hset
      obtain ⟨v₁, h₁, hset₁⟩ := rbusMessageSets_cons hset
      obtain ⟨v₂, h₂, hset₂⟩ := rbusMessageSets_cons hset₁
      obtain ⟨v₃, h₃, hset₃⟩ := rbusMessageSets_cons hset₂
      obtain rfl : v₃ = v := Option.some.inj hset₃
      have hflag := setInt32Ref_of_set (p := p) h₃
      have hzero : (0 : Int32).toInt = 0 := by decide
      rw [hzero] at hflag
      refine ⟨v₁, v₂, setStringRef_of_set h₁, setStringRef_of_set h₂, ?_⟩
      rw [setPayload, hflag]
  | some payload =>
      have hset : rbusMessageSets (rbusMessageInit : RbusMessage U)
        [.str (some event), .str (some address), .int32 1, .message payload.val] = some v := hset
      obtain ⟨v₁, h₁, hset₁⟩ := rbusMessageSets_cons hset
      obtain ⟨v₂, h₂, hset₂⟩ := rbusMessageSets_cons hset₁
      obtain ⟨v₃, h₃, hset₃⟩ := rbusMessageSets_cons hset₂
      obtain ⟨v₄, h₄, hset₄⟩ := rbusMessageSets_cons hset₃
      obtain rfl : v₄ = v := Option.some.inj hset₄
      have hflag := setInt32Ref_of_set (p := p) h₃
      have hone : (1 : Int32).toInt = 1 := by decide
      rw [hone] at hflag
      refine ⟨v₁, v₂, setStringRef_of_set h₁, setStringRef_of_set h₂, ?_⟩
      rw [setPayload, hflag, pure_bind, setMessageRef]
      exact congrArg (written _) h₄

theorem messageSize_int32_lt
    (r : Int32) :
    messageSize (U := U) [.int32 r] methodResponse < 2 ^ 31 - 2 ^ 15 := by
  have hint : (Value.int32 r).encode.length ≤ 9 := packInt_length_le r.toInt
  have hname : (Value.str methodResponse).encode.length = 17 := by decide
  rw [← messageBytes_length, messageBytes]
  simp only [List.map_cons, List.map_nil, Setting.value, encodeAll_cons, encodeAll_nil,
    List.append_nil, List.length_append, trailer_length]
  omega

end Format

section Client

variable {U : Unpacker}

/-- A subscription request is a remote call of a method with the fields in a new message. -/
theorem sendSubscriptionRequest_eq
    (objectName : CString) {event : CString} (activate : Bool)
    {payload : Option (MessageRef (RbusMessage U))} (timeout : Int)
    {con : Connection} {v : RbusMessage U} {w : World (RbusMessage U) (List UInt8)}
    (hcon : w.gConnection = some con)
    (hset : rbusMessageSets rbusMessageInit
      (subscriptionValues event con.returnAddress.val (payload.map MessageRef.val)) = some v) :
    ∃ w₀, ∃ f : RbusError × Option (Option (MessageRef (RbusMessage U))) →
        CoreM (RbusMessage U) (List UInt8) (RbusError × Option Int),
      w₀.gConnection = some con ∧ w₀.refCount w.nextPtr ≠ 0 ∧
      sendSubscriptionRequest objectName event activate payload timeout w =
        (rbusInvokeRemoteMethod (some objectName) (some (subscriptionMethod activate))
          (some ⟨w.nextPtr, v⟩) (if timeout ≤ 0 then timeoutValueFireAndForget else timeout) >>= f)
          w₀ ∧
      ∀ res, f (.success, some (some res)) = (do
        rbusMessageRelease res
        pure (subscriptionResult (MessageApi.getInt32 (W := List UInt8) res.val).1)) := by
  obtain ⟨v₁, v₂, h₁, h₂, h₃⟩ := subscriptionRequest_of_sets hset w.nextPtr
  obtain ⟨w₀, hnew, hcon₀, hlive₀⟩ : ∃ w₀ : World (RbusMessage U) (List UInt8),
      newMessage (MessageApi.init (W := List UInt8)) w = .done ⟨w.nextPtr, rbusMessageInit⟩ w₀ ∧
      w₀.gConnection = some con ∧ w₀.refCount w.nextPtr ≠ 0 :=
    ⟨_, rfl, hcon, by simp⟩
  have haddress : rtConnectionGetReturnAddress w₀ = .done con.returnAddress.val w₀ := by
    rw [rtConnectionGetReturnAddress, Program.bind_of_done (x := Program.getState) rfl, hcon₀]
    rfl
  obtain ⟨f, hf, hsuccess⟩ : ∃ f : RbusError × Option (Option (MessageRef (RbusMessage U))) →
      CoreM (RbusMessage U) (List UInt8) (RbusError × Option Int),
      sendSubscriptionRequest objectName event activate payload timeout = (do
        let request ← newMessage (MessageApi.init (W := List UInt8))
        let request ← setStringRef request (some event)
        let returnAddress ← rtConnectionGetReturnAddress
        let request ← setStringRef request (some returnAddress)
        let request ← setPayload request payload
        let reply ← rbusInvokeRemoteMethod (some objectName) (some (subscriptionMethod activate))
          (some request) (if timeout ≤ 0 then timeoutValueFireAndForget else timeout)
        f reply) ∧
      ∀ res, f (.success, some (some res)) = (do
        rbusMessageRelease res
        pure (subscriptionResult (MessageApi.getInt32 (W := List UInt8) res.val).1)) :=
    ⟨_, rfl, fun _ => rfl⟩
  refine ⟨w₀, f, hcon₀, hlive₀, ?_, hsuccess⟩
  rw [hf, Program.bind_of_done hnew, h₁, pure_bind, Program.bind_of_done haddress, h₂, pure_bind,
    h₃, pure_bind]

/-- The request on the wire, and what is made of the answer to it. -/
theorem sendSubscriptionRequest_sends
    (o : BoundedName maxObjectNameLength) (event : CString) (activate : Bool)
    (payload : Option (MessageRef (RbusMessage U))) (timeout : Int)
    {con : Connection} {w : World (RbusMessage U) (List UInt8)}
    (hcon : w.gConnection = some con)
    (hsize : messageSize
      (subscriptionValues event con.returnAddress.val (payload.map MessageRef.val))
      (subscriptionMethod activate) < 2 ^ 31 - 2 ^ 15) :
    ∃ w₁ k p,
      sendSubscriptionRequest o.val event activate payload timeout w =
        .call (.sendBinaryRequest (some con.ptr)
          (subscriptionBytes event con.returnAddress.val activate (payload.map MessageRef.val))
          o.val (if timeout ≤ 0 then timeoutValueFireAndForget else timeout)) w₁ k ∧
      w₁.refCount p ≠ 0 ∧
      ∀ (r : Int32) (w₂ : World (RbusMessage U) (List UInt8)),
        w₂.refCount p ≠ 0 → p ≠ w₂.nextPtr →
        ∃ w₃, k (.ok (resultBytes U r)) w₂ = .done (subscriptionResult (some r.toInt)) w₃ := by
  have hlen := encodeAll_length_lt hsize
  obtain ⟨v, hset⟩ : ∃ v, rbusMessageSets (rbusMessageInit : RbusMessage U)
      (subscriptionValues event con.returnAddress.val (payload.map MessageRef.val)) = some v :=
    ⟨_, rbusMessageSets_eq _ rfl (fits_of_encodeAll (by omega))⟩
  obtain ⟨w₀, f, hcon₀, hlive₀, hf, hsuccess⟩ :=
    sendSubscriptionRequest_eq o.val activate timeout hcon hset
  have hpasses : Passes (some ⟨w.nextPtr, v⟩) _ w₀ := ⟨hset, hlive₀⟩
  obtain ⟨w₁, k, p, hsent, hlive, hback⟩ := rbusInvokeRemoteMethod_sends o
    (if timeout ≤ 0 then timeoutValueFireAndForget else timeout) hcon₀ hpasses hsize
  rw [Program.bind_of_call hsent] at hf
  refine ⟨w₁, _, p, hf, hlive, fun r w₂ hlive₂ hne => ?_⟩
  obtain ⟨res, w₃, hres, hwhole, hlive₃⟩ := hback [.int32 r] w₂ (messageSize_int32_lt r) hlive₂
  have hdelivers := hwhole.delivers_message (messageSize_int32_lt r)
  have hresult : (rbusMessageGetInt32 res.val).1 = some r.toInt := by
    simpa [Delivers, rbusMessageGets, rbusMessageGet, Setting.value, Value.kind, Value.reading]
      using hdelivers
  obtain ⟨w₄, hreleased⟩ : ∃ w₄, rbusMessageRelease res w₃ = .done () w₄ :=
    ⟨_, rbusMessageRelease_of_live (hlive₃ hne)⟩
  have hk : k (.ok (resultBytes U r)) w₂ = .done (.success, some (some res)) w₃ := hres
  refine ⟨w₄, ?_⟩
  rw [hk]
  show f (.success, some (some res)) w₃ = _
  rw [hsuccess, Program.bind_of_done hreleased, messageApi_getInt32, hresult]
  rfl

end Client

section Server

variable {U : Unpacker}

/-- What the provider does with the result of a subscription request. -/
def answerSubscription
    (p : Ptr) (item : Option (MessageRef (RbusMessage U))) (ret : RbusError) :
    CoreM (RbusMessage U) (List UInt8) (RbusError × Option (MessageRef (RbusMessage U))) := do
  releaseUnlessNull item
  let out ← setInt32Ref ⟨p, rbusMessageInit⟩ ret.toInt
  pure (.success, some out)

/-- Getters that deliver a list of values deliver the first one, and then the others. -/
theorem delivers_cons
    {m : RbusMessage U} {v : Value} {vs : List Value}
    (h : Delivers m (v :: vs)) :
    (rbusMessageGet m v.kind).1 = some v.reading ∧ Delivers (rbusMessageGet m v.kind).2 vs := by
  rw [Delivers, List.map_cons, List.map_cons, rbusMessageGets] at h
  exact List.cons.inj h

theorem getString_of_delivers
    {m : RbusMessage U} {s : CString} {vs : List Value}
    (h : Delivers m (.str s :: vs)) :
    ∃ region, ∃ m' : RbusMessage U,
      MessageApi.getString m = (some region, m') ∧ CString.ofMemory region = some s ∧
        Delivers m' vs := by
  obtain ⟨hread, hrest⟩ := delivers_cons h
  obtain ⟨p, hp, htext⟩ := Option.map_eq_some_iff.mp hread
  refine ⟨_, _, ?_, Reading.str.inj htext, hrest⟩
  rw [messageApi_getString, hp, Option.map_some]
  rfl

theorem rbusMessageGets_withoutPacker
    (m : RbusMessage U) (ks : List Kind) :
    (rbusMessageGets (withoutPacker m) ks).1 = (rbusMessageGets m ks).1 := by
  induction ks generalizing m with
  | nil =>
      rfl
  | cons k ks ih =>
      rw [rbusMessageGets, rbusMessageGets, rbusMessageGet_withoutPacker, ih]

/-- A message made from the bytes of another one is read like the other one. -/
theorem payloadReceived_fromBytes
    (sent : RbusMessage U) :
    PayloadReceived (some sent) (some (rbusMessageFromBytes sent.sbuf)) := by
  intro ks
  let start : RbusMessage U := { sent with readOffset := 0 }
  have hsame : (rbusMessageFromBytes sent.sbuf : RbusMessage U) =
      withoutPacker { start with metaOffset := 0 } := by
    rw [rbusMessageFromBytes, withoutPacker]
  rw [hsame, rbusMessageGets_withoutPacker, rbusMessageGets_setMeta start]

/-- The flag and the payload behind it are read. -/
theorem subscriptionPayload_reads
    {m : RbusMessage U} {event address : CString} {payload : Option (RbusMessage U)}
    {vs : List Value}
    (hvalues : (subscriptionValues event address payload).map Setting.value =
      .str event :: .str address :: vs)
    (hdelivers : Delivers m vs)
    (w : World (RbusMessage U) (List UInt8)) :
    ∃ item w₁,
      subscriptionPayload (MessageApi.getInt32 (W := List UInt8) m).1
        (MessageApi.getInt32 (W := List UInt8) m).2 w = .done item w₁ ∧
      w₁.gServerObjects = w.gServerObjects ∧
      PayloadReceived payload (item.map MessageRef.val) := by
  rw [messageApi_getInt32]
  cases payload with
  | none =>
      obtain rfl : [.int32 0] = vs := (List.cons.inj (List.cons.inj hvalues).2).2
      obtain ⟨hflag, -⟩ := delivers_cons hdelivers
      obtain ⟨i, hi, hread⟩ := Option.map_eq_some_iff.mp hflag
      have hzero : i = 0 := Reading.int32.inj hread
      refine ⟨none, w, ?_, rfl, trivial⟩
      rw [hi, hzero]
      rfl
  | some sent =>
      obtain rfl : [.int32 1, .message sent.sbuf] = vs :=
        (List.cons.inj (List.cons.inj hvalues).2).2
      obtain ⟨hflag, hrest⟩ := delivers_cons hdelivers
      obtain ⟨i, hi, hread⟩ := Option.map_eq_some_iff.mp hflag
      have hone : i = 1 := Reading.int32.inj hread
      obtain ⟨hitem, -⟩ := delivers_cons hrest
      obtain ⟨g, hg, hreceived⟩ := Option.map_eq_some_iff.mp hitem
      obtain rfl : g = rbusMessageFromBytes sent.sbuf := Reading.message.inj hreceived
      have htaken : (if (rbusMessageGetInt32 m).1.getD 0 ≠ 0 then
          (MessageApi.getMessage (W := List UInt8) (rbusMessageGetInt32 m).2).1 else none) =
            some (rbusMessageFromBytes sent.sbuf) := by
        rw [hi, hone, Option.getD_some, if_pos Int.one_ne_zero]
        exact hg
      obtain ⟨w₁, hnew, hsame⟩ : ∃ w₁, newMessage (rbusMessageFromBytes sent.sbuf) w =
          .done ⟨w.nextPtr, (rbusMessageFromBytes sent.sbuf : RbusMessage U)⟩ w₁ ∧
          w₁.gServerObjects = w.gServerObjects := ⟨_, rfl, rfl⟩
      refine ⟨some ⟨w.nextPtr, rbusMessageFromBytes sent.sbuf⟩, w₁, ?_, hsame,
        payloadReceived_fromBytes sent⟩
      rw [subscriptionPayload, htaken]
      exact Program.bind_of_done hnew _

/-- The provider reads the fields that were written. -/
theorem subscriptionHandler_reads
    {received : RbusMessage U} {event address : CString} {activate : Bool}
    {payload : Option (RbusMessage U)} {region : List UInt8}
    (hdelivers : Delivers received
      ((subscriptionValues event address payload).map Setting.value))
    (hregion : CString.ofMemory region = some (subscriptionMethod activate))
    (userData : Ptr) (w : World (RbusMessage U) (List UInt8)) :
    ∃ e s p, ∃ item : Option (MessageRef (RbusMessage U)), ∃ w₁,
      CString.ofMemory e = some event ∧
      CString.ofMemory s = some address ∧
      PayloadReceived payload (item.map MessageRef.val) ∧
      w₁.gServerObjects = w.gServerObjects ∧
      subscriptionHandler (some region) received userData w =
        (serverObjectSubscriptionHandler userData (some e) (some s) activate
            (item.map MessageRef.val) >>= answerSubscription p item) w₁ := by
  obtain ⟨vs, hvalues⟩ : ∃ vs, (subscriptionValues event address payload).map Setting.value =
      .str event :: .str address :: vs := by
    cases payload <;> exact ⟨_, rfl⟩
  rw [hvalues] at hdelivers
  obtain ⟨e, m₁, he, hevent, hdelivers₁⟩ := getString_of_delivers hdelivers
  obtain ⟨s, m₂, hs, haddress, hdelivers₂⟩ := getString_of_delivers hdelivers₁
  obtain ⟨w₀, hnew, hsame₀⟩ : ∃ w₀, newMessage (MessageApi.init (W := List UInt8)) w =
      .done ⟨w.nextPtr, (rbusMessageInit : RbusMessage U)⟩ w₀ ∧
      w₀.gServerObjects = w.gServerObjects := ⟨_, rfl, rfl⟩
  obtain ⟨item, w₁, hitem, hsame₁, hpayload⟩ := subscriptionPayload_reads hvalues hdelivers₂ w₀
  have horder : strncmpAt (M := RbusMessage U) (W := List UInt8) maxMethodNameLength
      methodAddEventSubscription region =
        pure (strncmp maxMethodNameLength methodAddEventSubscription.chars
          (subscriptionMethod activate).chars) := by
    rw [strncmpAt, strncmpMemory_of_ofMemory maxMethodNameLength hregion]
  have hadded : decide (strncmp maxMethodNameLength methodAddEventSubscription.chars
      (subscriptionMethod activate).chars = 0) = activate := by
    cases activate <;> decide
  have hmatched : subscriptionHandler (some region) received userData = (do
      let out ← newMessage (MessageApi.init (W := List UInt8))
      let ret ← handleSubscription (some region) e s m₂ userData
      let out ← setInt32Ref out ret.toInt
      pure (.success, some out)) := by
    unfold subscriptionHandler
    simp only [he, hs]
  refine ⟨e, s, w.nextPtr, item, w₁, hevent, haddress, hpayload, hsame₁.trans hsame₀, ?_⟩
  rw [hmatched, Program.bind_of_done hnew, handleSubscription, bind_assoc, Program.bind_of_done hitem, bind_assoc,
    Program.bind_of_done (x := deref _) rfl, bind_assoc, horder, pure_bind, hadded]
  simp only [bind_assoc, pure_bind]
  rfl

/-- Names that are too long are refused, and nothing is changed. -/
theorem serverObjectSubscriptionHandler_long
    {M W : Type} {event address : CString} {e s : List UInt8}
    (hevent : CString.ofMemory e = some event)
    (haddress : CString.ofMemory s = some address)
    (hlong : maxEventNameLength ≤ event.strlen ∨ maxSubscriberNameLength ≤ address.strlen)
    (obj : Ptr) (added : Bool) (payload : Option M) (w : World M W) :
    serverObjectSubscriptionHandler obj (some e) (some s) added payload w =
      .done .errorInvalidParam w := by
  have he : (stringAt e : CoreM M W CString) = pure event := by rw [stringAt, hevent]
  have hs : (stringAt s : CoreM M W CString) = pure address := by rw [stringAt, haddress]
  rw [serverObjectSubscriptionHandler, hs, pure_bind]
  by_cases hsubscriber : maxSubscriberNameLength ≤ address.strlen
  · rw [if_pos hsubscriber]
    rfl
  · rw [if_neg hsubscriber, he, pure_bind, if_pos (hlong.resolve_right hsubscriber)]
    rfl

/-- The result goes back in an answer of one integer. -/
theorem answerSubscription_sends
    {object : ServerObject} {s : CString} {hdr : RtMessageHeader} {r : Int32} {ret : RbusError}
    {p : Ptr} {item : Option (MessageRef (RbusMessage U))}
    {w : World (RbusMessage U) (List UInt8)}
    (hrequest : hdr.request = true)
    (hret : ret.toInt = r.toInt)
    (hlive : ∀ m ∈ item, w.refCount m.ptr ≠ 0) :
    ∃ w₁ k, (answerSubscription p item ret >>= afterHandler object s hdr) w =
      .call (.sendBinaryResponse (w.gConnection.map Connection.ptr) hdr (resultBytes U r)
        timeoutValueFireAndForget) w₁ k := by
  obtain ⟨w₀, hreleased, hcon⟩ : ∃ w₀ : World (RbusMessage U) (List UInt8),
      releaseUnlessNull item w = .done () w₀ ∧ w₀.gConnection = w.gConnection := by
    cases item with
    | none =>
        exact ⟨w, rfl, rfl⟩
    | some m =>
        exact ⟨_, rbusMessageRelease_of_live (hlive m rfl), rfl⟩
  obtain ⟨v, hset⟩ : ∃ v, rbusMessageSets (rbusMessageInit : RbusMessage U) [.int32 r] = some v := by
    refine ⟨_, rbusMessageSets_eq _ rfl (fits_of_encodeAll ?_)⟩
    have hsize := encodeAll_length_lt (messageSize_int32_lt (U := U) r)
    omega
  obtain ⟨v', hint, hsame⟩ := rbusMessageSets_cons hset
  obtain rfl : v' = v := Option.some.inj hsame
  have hwritten := setInt32Ref_of_set (p := p) hint
  have hanswer : answerSubscription p item ret w = .done (.success, some ⟨p, v'⟩) w₀ := by
    rw [answerSubscription, Program.bind_of_done hreleased, hret, hwritten]
    rfl
  have hafter : afterHandler object s hdr (.success, some ⟨p, v'⟩) =
      rbusSendResponse hdr (some ⟨p, v'⟩) >>= fun _ => pure () := if_neg fun h => by
    cases h.2
  have hanswers : Answers (some ⟨p, v'⟩) [.int32 r] := hset
  obtain ⟨w₁, k, hresponse⟩ :=
    rbusSendResponse_sends w₀ hrequest hanswers (messageSize_int32_lt r)
  rw [Program.bind_of_done hanswer, hafter, Program.bind_of_call hresponse, hcon]
  exact ⟨w₁, _, rfl⟩

end Server

section Agreement

variable {U : Unpacker}

/-- The client's side of a subscription request: it sends `data` to the object and waits; with
the answer `r` it returns success exactly for 0, and otherwise a general error and `r`. -/
def ClientAgrees
    (o : BoundedName maxObjectNameLength) (event : CString) (activate : Bool)
    (payload : Option (MessageRef (RbusMessage U))) (timeout : Int) (con : Connection)
    (data : List UInt8) (client : World (RbusMessage U) (List UInt8)) : Prop :=
  ∃ client₁ k p,
    sendSubscriptionRequest o.val event activate payload timeout client =
      .call (.sendBinaryRequest (some con.ptr) data o.val
        (if timeout ≤ 0 then timeoutValueFireAndForget else timeout)) client₁ k ∧
    client₁.refCount p ≠ 0 ∧
    ∀ (r : Int32) (client₂ : World (RbusMessage U) (List UInt8)),
      client₂.refCount p ≠ 0 → p ≠ client₂.nextPtr →
      ∃ client₃, k (.ok (resultBytes U r)) client₂ =
        .done (if r.toInt = 0 then (.success, none) else (.errorGeneral, some r.toInt)) client₃

/-- The provider's side of a subscription request: with `data` it comes to
`server_object_subscription_handler`, and it answers with the result `r`.  Names that are too
long are refused, and nothing is changed. -/
def ProviderAgrees
    (object : ServerObject) (event address : CString) (activate : Bool)
    (payload : Option (RbusMessage U)) (hdr : RtMessageHeader) (p : Ptr) (data : List UInt8)
    (provider : World (RbusMessage U) (List UInt8)) : Prop :=
  ∃ e s, ∃ item : Option (MessageRef (RbusMessage U)),
  ∃ answer : RbusError → CoreM (RbusMessage U) (List UInt8) Unit, ∃ provider₁,
    CString.ofMemory e = some event ∧
    CString.ofMemory s = some address ∧
    PayloadReceived payload (item.map MessageRef.val) ∧
    provider₁.gServerObjects = provider.gServerObjects ∧
    dispatchMethodCall ⟨p, (rbusMessageFromBytes data : RbusMessage U)⟩ hdr object.ptr provider =
      (serverObjectSubscriptionHandler object.ptr (some e) (some s) activate
        (item.map MessageRef.val) >>= answer) provider₁ ∧
    (∀ (ret : RbusError) (r : Int32) (provider₂ : World (RbusMessage U) (List UInt8)),
      ret.toInt = r.toInt → (∀ m ∈ item, provider₂.refCount m.ptr ≠ 0) →
      ∃ provider₃ k, answer ret provider₂ =
        .call (.sendBinaryResponse (provider₂.gConnection.map Connection.ptr) hdr
          (resultBytes U r) timeoutValueFireAndForget) provider₃ k) ∧
    (128 ≤ event.strlen ∨ 128 ≤ address.strlen →
      serverObjectSubscriptionHandler object.ptr (some e) (some s) activate
        (item.map MessageRef.val) provider₁ = .done .errorInvalidParam provider₁)

/--
The two sides of a subscription request, of every event and address and with every payload,
where the message stays below the size limit.  Both agree on the request: the client sends it
for its own address and in any state, with any timeout; the provider, in any state in which the
object has the handler that the library installs for the method, reads exactly that event and
that address, `added` for a subscribe, and a payload of the same values if there is one.  Both
agree on the answer, whatever it is.
-/
theorem subscription_request_agreement
    (object : ServerObject)
    (event address : CString)
    (activate : Bool)
    (payload : Option (MessageRef (RbusMessage U)))
    (hsize : messageSize (subscriptionValues event address (payload.map MessageRef.val))
      (subscriptionMethod activate) < 2 ^ 31 - 2 ^ 15) :
    ∃ data,
      (∀ (timeout : Int) (con : Connection) (client : World (RbusMessage U) (List UInt8)),
        client.gConnection = some con → con.returnAddress.val = address →
        ClientAgrees object.name event activate payload timeout con data client) ∧
      ∀ (hdr : RtMessageHeader) (p : Ptr) (provider : World (RbusMessage U) (List UInt8)),
        provider.gServerObjects.items.find? (fun o => o.ptr = object.ptr) = some object →
        handlerFor object (subscriptionMethod activate) = (.subscriptionHandler, object.ptr) →
        provider.refCount p ≠ 0 → hdr.request = true →
        ProviderAgrees object event address activate (payload.map MessageRef.val) hdr p data
          provider := by
  refine ⟨subscriptionBytes event address activate (payload.map MessageRef.val), ?_, ?_⟩
  · rintro timeout con client hcon rfl
    exact sendSubscriptionRequest_sends object.name event activate payload timeout hcon hsize
  · intro hdr p provider hobject hinstalled hmsg hrequest
    obtain ⟨region, received, provider₀, hregion, hwhole, hsame₀, hdispatch⟩ :=
      dispatchMethodCall_handsOver hdr hsize hobject hmsg
    have hdelivers := hwhole.delivers_message hsize
    obtain ⟨e, s, q, item, provider₁, hevent, haddress, hpayload, hsame₁, hhandler⟩ :=
      subscriptionHandler_reads hdelivers hregion object.ptr provider₀
    refine ⟨e, s, item, fun ret => answerSubscription q item ret >>=
      afterHandler object (subscriptionMethod activate) hdr, provider₁, hevent, haddress, hpayload,
      hsame₁.trans hsame₀, ?_, fun ret r provider₂ => answerSubscription_sends hrequest, fun hlong =>
        serverObjectSubscriptionHandler_long hevent haddress hlong object.ptr activate _ provider₁⟩
    have hinvoked : (invokeMethodCallback .subscriptionHandler hdr.topic (some region) received
        object.ptr hdr >>= afterHandler object (subscriptionMethod activate) hdr) provider₀ =
          (subscriptionHandler (some region) received object.ptr provider₀).bind
            (afterHandler object (subscriptionMethod activate) hdr) := rfl
    rw [subscriptionBytes, hdispatch, hinstalled, hinvoked, hhandler]
    exact congrFun (bind_assoc _ (answerSubscription q item) _) provider₁

end Agreement

section Run

/-- The object `o` with the handler for subscriptions that the library installs. -/
def sampleSubscribedObject : ServerObject :=
  { sampleObject with methods := [⟨addHandlerName, .subscriptionHandler, 1⟩] }

/-- A process with this object that has received a message. -/
def sampleSubscribedProvider : World Bytes (List UInt8) :=
  { sampleRegistered sampleSubscribedObject with refCount := fun _ => 1 }

/-- A subscription to the event `e` with a small payload. -/
theorem small_payload_agreement :
    ∃ data,
      ClientAgrees ⟨.ofChars ['o'], by decide⟩ (.ofChars ['e']) true (some ⟨5, sampleNumber 7⟩) 0
        ⟨9, ⟨.empty, by decide⟩, false, []⟩ data sampleCaller ∧
      ProviderAgrees sampleSubscribedObject (.ofChars ['e']) .empty true (some (sampleNumber 7))
        (sampleHeader 1) 3 data sampleSubscribedProvider := by
  obtain ⟨data, hclient, hprovider⟩ := subscription_request_agreement sampleSubscribedObject
    (.ofChars ['e']) .empty true (some ⟨5, sampleNumber 7⟩) (by decide)
  refine ⟨data, hclient 0 _ sampleCaller rfl rfl, ?_⟩
  exact hprovider (sampleHeader 1) 3 sampleSubscribedProvider (by decide) (by decide) (by decide) rfl

/-- A section that starts 13 bytes before 4 GiB is ended with one byte. -/
theorem writeMetaSection_huge
    {U : Unpacker} {v : RbusMessage U}
    (hpk : v.pk = true)
    (hlen : v.sbuf.length = 4294967283) :
    ∃ v', writeMetaSection v [.str (some methodAddEventSubscription)] = some v' ∧
      rbusMessageToBytes v' = [] := by
  have hoffset : toInt32 (v.sbuf.length : Int) = -13 := by
    rw [hlen]
    decide
  have hbegin : rbusMessageBeginMetaSectionWrite v = { v with metaOffset := -13 } := by
    rw [rbusMessageBeginMetaSectionWrite, hoffset]
  have hvalue : [Setting.str (U := U) (some methodAddEventSubscription)].map Setting.value =
      [.str methodAddEventSubscription] := rfl
  have hname : (encodeAll [.str methodAddEventSubscription]).length = 12 := by decide
  have hsets := rbusMessageSets_eq (m := { v with metaOffset := -13 })
    [Setting.str (some methodAddEventSubscription)] hpk
    (fits_of_encodeAll (by rw [hvalue, hname]; decide))
  have hpack : packInt (maskedOffset (-13)) = [0xf3] := by decide
  rw [writeMetaSection, hbegin, hsets, Option.bind_some, hvalue]
  simp only [rbusMessageEndMetaSectionWrite, packerWrite, hpk, if_true, hpack, List.length_append,
    hname, hlen, List.length_singleton]
  refine ⟨_, if_pos (by decide), ?_⟩
  have hfull : (List.modify (v.sbuf ++ encodeAll [.str methodAddEventSubscription] ++ [0xf3])
      (4294967283 + 12 + 1 - 4) (· &&& 0x7F)).length % 4294967296 = 0 := by
    rw [List.length_modify, List.length_append, List.length_append, hname, hlen,
      List.length_singleton]
  rw [rbusMessageToBytes, hfull, List.take_zero]

/-- The fields of a request with a payload of 4 GiB without 24 bytes. -/
theorem exists_hugeRequest
    {U : Unpacker} {item : RbusMessage U}
    (hlen : item.sbuf.length = 4294967272) :
    ∃ v, rbusMessageSets rbusMessageInit (subscriptionValues (.ofChars ['e']) .empty (some item)) =
        some v ∧
      v.pk = true ∧ v.sbuf.length = 4294967283 := by
  let fields : List (Setting U) := [.str (some (.ofChars ['e'])), .str (some .empty), .int32 1]
  have hvalues : fields.map Setting.value = [.str (.ofChars ['e']), .str .empty, .int32 1] := rfl
  have hheader : (encodeAll [.str (.ofChars ['e']), .str .empty, .int32 1]).length = 6 := by decide
  have hbin : (packBin 4294967272).length = 5 := by decide
  have hfields := rbusMessageSets_eq (m := (rbusMessageInit : RbusMessage U)) fields rfl
    (fits_of_encodeAll (by rw [hvalues, hheader]; decide))
  have hsplit : subscriptionValues (.ofChars ['e']) .empty (some item) = fields ++ [.message item] :=
    rfl
  have hall : rbusMessageSets (rbusMessageInit : RbusMessage U)
      (subscriptionValues (.ofChars ['e']) .empty (some item)) =
        (rbusMessageSets rbusMessageInit fields).bind fun m => rbusMessageSet m (.message item) := by
    rw [hsplit, rbusMessageSets, List.foldlM_append]
    refine Option.bind_congr fun m _ => ?_
    rw [List.foldlM_cons]
    exact bind_pure _
  rw [hall, hfields, Option.bind_some, rbusMessageSet, rbusMessageSetMessage, packerWrite, hvalues]
  refine ⟨_, if_pos rfl, rfl, ?_⟩
  simp only [List.length_append, hlen, hbin, hheader, rbusMessageInit, List.length_nil]

/-- The default callback of an object. -/
def Call.isDefaultCallback {M W : Type} : Call M W → Option Nat
  | .methodCallback id _ none _ _ _ => some id
  | _ => none

/-- With a payload of 4 GiB without 24 bytes the request has 4 GiB, and nothing of it is sent;
what arrives is not handed to the handler for subscriptions, but to the default callback. -/
theorem huge_payload_not_delivered :
    ∃ item : Bytes,
      (∃ client₁ k, sendSubscriptionRequest (.ofChars ['o']) (.ofChars ['e']) true
          (some ⟨5, item⟩) 0 sampleCaller =
        .call (.sendBinaryRequest (some 9) [] (.ofChars ['o']) timeoutValueFireAndForget)
          client₁ k) ∧
      handlerFor sampleSubscribedObject methodAddEventSubscription = (.subscriptionHandler, 1) ∧
      ∃ e provider₁, e.isDefaultCallback = some 0 ∧
        (dispatchMethodCall ⟨3, (rbusMessageFromBytes [] : Bytes)⟩ (sampleHeader 1) 1
          sampleSubscribedProvider).firstCall = some (e, provider₁) := by
  let item : Bytes := { sampleNumber 7 with sbuf := List.replicate 4294967272 0 }
  have hlen : item.sbuf.length = 4294967272 := List.length_replicate
  clear_value item
  refine ⟨item, ?_, by decide, ?_⟩
  · obtain ⟨v, hset, hpk, hv⟩ := exists_hugeRequest hlen
    obtain ⟨v', hsection, hbytes⟩ := writeMetaSection_huge hpk hv
    let payload : Option (MessageRef Bytes) := some ⟨5, item⟩
    have hset : rbusMessageSets rbusMessageInit
        (subscriptionValues (.ofChars ['e']) .empty (payload.map MessageRef.val)) = some v := hset
    obtain ⟨w₀, f, hcon₀, -, hf, -⟩ :=
      sendSubscriptionRequest_eq (w := sampleCaller) (.ofChars ['o']) true 0 rfl hset
    have hmethod := setMessageMethod_eq (m := ⟨sampleCaller.nextPtr, v⟩) hsection
    obtain ⟨w₁, k, hsent, -⟩ := rbusSendRequest_sends ⟨sampleCaller.nextPtr, v'⟩ (.ofChars ['o'])
      timeoutValueFireAndForget w₀
    have hempty : MessageApi.toBytes (W := List UInt8) v' = [] := hbytes
    have hconnected : ¬ w₀.gConnection.isNone = true := by simp [hcon₀]
    have hlegal : ¬ maxObjectNameLength ≤ (CString.ofChars ['o']).strlen := by decide
    rw [hcon₀, Option.map_some, hempty] at hsent
    have hf : sendSubscriptionRequest (.ofChars ['o']) (.ofChars ['e']) true (some ⟨5, item⟩) 0
        sampleCaller = (rbusInvokeRemoteMethod (some (.ofChars ['o']))
          (some methodAddEventSubscription) (some ⟨sampleCaller.nextPtr, v⟩)
          timeoutValueFireAndForget >>= f) w₀ := hf
    rw [rbusInvokeRemoteMethod, bind_assoc, Program.bind_of_done (x := Program.getState) rfl,
      if_neg hconnected, bind_assoc, Program.bind_of_done (x := deref _) rfl, if_neg hlegal,
      bind_assoc, Program.bind_of_done (x := messageOrEmpty _) rfl, bind_assoc, hmethod, pure_bind,
      bind_assoc, Program.bind_of_call hsent] at hf
    exact ⟨w₁, _, hf⟩
  · have hfirst : (dispatchMethodCall ⟨3, (rbusMessageFromBytes [] : Bytes)⟩ (sampleHeader 1) 1
        sampleSubscribedProvider).firstCall.map (fun r => r.1.isDefaultCallback) =
          some (some 0) := by
      decide +kernel
    obtain ⟨⟨e, provider₁⟩, hcall, he⟩ := Option.map_eq_some_iff.mp hfirst
    exact ⟨e, provider₁, he, hcall⟩

end Run

end RbusCore
