import RbusCore.ReceivedMessages
import RbusCore.Responses

/-!
# Remote method calls

A request is the body followed by a metadata section with the method name, a response the
values of the handler followed by one with `METHOD_RESPONSE`.  Both ends read the section
first and put the cursor back to the start.

**Results.**
* `rbusInvokeRemoteMethod_sends`: what the caller sends.
* `dispatchMethodCall_handsOver`: which handler is invoked, and what it is given.
* `rbusSendResponse_sends`, `receiveReply_response`: the way back.
* `remote_call_transparent`: a remote call as a whole.
-/

namespace RbusCore

open CStrings Resumption MessagePack

section Messages

variable {U : Unpacker}

/-- Getters of the types of `vs` deliver the values `vs`. -/
def Delivers (m : RbusMessage U) (vs : List Value) : Prop :=
  (rbusMessageGets m (vs.map Value.kind)).1 = vs.map fun v => some v.reading

/-- A message of these bytes, with the cursor at the start. -/
def Whole (m : RbusMessage U) (bytes : List UInt8) : Prop := m.sbuf = bytes ∧ m.readOffset = 0

/-- The size of a message with the values `as` and the method name `s`. -/
def messageSize (as : List (Setting U)) (s : CString) : Nat :=
  (layout [] (as.map WriteOp.set ++ [.metaSection [.str (some s)]])).length

/-- The bytes of a message with the values `as` and the method name `s`. -/
def messageBytes (as : List (Setting U)) (s : CString) : List UInt8 :=
  encodeAll (as.map Setting.value) ++ (Value.str s).encode ++
    trailer (encodeAll (as.map Setting.value)).length

theorem layout_set
    (pre : List UInt8)
    (as : List (Setting U)) :
    layout pre (as.map WriteOp.set) = pre ++ encodeAll (as.map Setting.value) := by
  induction as generalizing pre with
  | nil =>
      simp [layout]
  | cons a as ih =>
      simp [layout, ih]

theorem messageBytes_length
    (as : List (Setting U))
    (s : CString) :
    (messageBytes as s).length = messageSize as s := by
  rw [messageSize, layout_append, layout_set]
  simp [layout, messageBytes, Setting.value]

/-- The values take no more room than the message. -/
theorem encodeAll_length_lt
    {as : List (Setting U)} {s : CString}
    (hsize : messageSize as s < 2 ^ 31 - 2 ^ 15) :
    (encodeAll (as.map Setting.value)).length + (Value.str s).encode.length + 5 <
      2 ^ 31 - 2 ^ 15 := by
  rw [← messageBytes_length, messageBytes, List.length_append, List.length_append,
    trailer_length] at hsize
  exact hsize

/-- What setters leave in a fresh message. -/
theorem values_of_sets
    {m : RbusMessage U} {as : List (Setting U)}
    (hset : rbusMessageSets rbusMessageInit as = some m)
    (hsize : (encodeAll (as.map Setting.value)).length < 2147483648) :
    m.pk = true ∧ m.sbuf = encodeAll (as.map Setting.value) := by
  have hsets := rbusMessageSets_eq (m := (rbusMessageInit : RbusMessage U)) as rfl
    (fits_of_encodeAll hsize)
  obtain rfl := Option.some.inj (hset.symm.trans hsets)
  exact ⟨rfl, by simp [rbusMessageInit]⟩

/-- Writing a method name is writing a metadata section. -/
theorem setMessageMethod_eq
    {m : MessageRef (RbusMessage U)} {s : CString} {v : RbusMessage U}
    (h : writeMetaSection m.val [.str (some s)] = some v) :
    setMessageMethod (W := List UInt8) m (some s) = pure ⟨m.ptr, v⟩ := by
  rw [setMessageMethod_section, messageAfter_section, h, written]

/-- The last write of both ends: the method name behind the values. -/
theorem exists_setMessageMethod_values
    {m : MessageRef (RbusMessage U)} {as : List (Setting U)} {s : CString}
    (hset : rbusMessageSets rbusMessageInit as = some m.val)
    (hsize : messageSize as s < 2 ^ 31 - 2 ^ 15) :
    ∃ v : RbusMessage U, v.sbuf = messageBytes as s ∧
      setMessageMethod (W := List UInt8) m (some s) = pure ⟨m.ptr, v⟩ := by
  have hlen := encodeAll_length_lt hsize
  obtain ⟨hpk, hbuf⟩ := values_of_sets hset (by omega)
  have hvalue : encodeAll ([Setting.str (some s)].map (Setting.value (U := U))) =
      (Value.str s).encode := by
    simp [Setting.value]
  have hsection := writeMetaSection_eq (U := U) [.str (some s)] hpk
    (by rw [hvalue, hbuf]; omega)
  refine ⟨_, ?_, setMessageMethod_eq hsection⟩
  rw [hvalue, hbuf, messageBytes]

/-- Values at the start of a message are delivered. -/
theorem Whole.delivers
    {m : RbusMessage U} {vs : List Value} {rest : List UInt8}
    (h : Whole m (encodeAll vs ++ rest))
    (hsize : (encodeAll vs).length < 2147483648) :
    Delivers m vs := by
  have hdrop : m.sbuf.drop m.readOffset = encodeAll vs ++ rest := by
    rw [h.1, h.2, List.drop_zero]
  rw [Delivers, rbusMessageGets_values hsize hdrop]

/-- The values of a received message are delivered. -/
theorem Whole.delivers_message
    {m : RbusMessage U} {as : List (Setting U)} {s : CString}
    (h : Whole m (messageBytes as s))
    (hsize : messageSize as s < 2 ^ 31 - 2 ^ 15) :
    Delivers m (as.map Setting.value) := by
  have hlen := encodeAll_length_lt hsize
  rw [messageBytes, List.append_assoc] at h
  exact h.delivers (by omega)

/-- The method name is read back, and the cursor is put back to the start. -/
theorem readMethod
    {as : List (Setting U)} {s : CString}
    (hsize : messageSize as s < 2 ^ 31 - 2 ^ 15) :
    ∃ region, ∃ m₁ m₂ : RbusMessage U,
      MessageApi.getString (MessageApi.beginMetaSectionRead
        (rbusMessageFromBytes (messageBytes as s) : RbusMessage U)) = (some region, m₁) ∧
      CString.ofMemory region = some s ∧
      MessageApi.endMetaSectionRead m₁ = m₂ ∧
      Whole m₂ (messageBytes as s) := by
  have hlen := encodeAll_length_lt hsize
  obtain ⟨r, hr⟩ : ∃ r : RbusMessage U, r = rbusMessageFromBytes (messageBytes as s) := ⟨_, rfl⟩
  have hbuf : r.sbuf = messageBytes as s := by rw [hr, rbusMessageFromBytes]
  have hcursor : r.readOffset = 0 := by rw [hr, rbusMessageFromBytes]
  have hread := metaSection_read (r := r) [.str s] (by simpa [messageBytes] using hbuf)
    (by rw [hbuf, messageBytes_length]; exact hsize) (by omega)
  simp only [List.map_cons, List.map_nil, rbusMessageGets, Value.kind, List.cons.injEq,
    and_true, rbusMessageGet, Value.reading, Option.map_eq_some_iff] at hread
  obtain ⟨⟨q, hget, htext⟩, hend⟩ := hread
  obtain ⟨g, hg⟩ : ∃ g, rbusMessageGetString (rbusMessageBeginMetaSectionRead r) = g := ⟨_, rfl⟩
  rw [hg] at hget htext hend
  refine ⟨g.2.sbuf.drop q.offset, g.2, { r with metaOffset := toInt32 r.readOffset },
    ?_, ?_, ?_, ?_⟩
  · rw [messageApi_beginMetaSectionRead, messageApi_getString, ← hr, hg, hget, Option.map_some]
  · exact Reading.str.inj htext
  · rw [messageApi_endMetaSectionRead, hend]
  · exact ⟨hbuf, hcursor⟩

end Messages

section Provider

variable {U : Unpacker}

/-- The handler for a method name: callback and user data. -/
def handlerFor (object : ServerObject) (s : CString) : MethodCallback × Ptr :=
  match object.methods.find? fun method => method.name.val = s with
  | some method => (method.callback, method.data)
  | none => (.app object.callback, object.data)

theorem findMethod_of_ofMemory
    (object : ServerObject)
    {region : List UInt8} {s : CString}
    (h : CString.ofMemory region = some s) :
    findMethod (M := RbusMessage U) (W := List UInt8) object (some region) =
      pure (object.methods.find? fun method => method.name.val = s) := by
  rw [findMethod, rtVectorFindAt, findAt?_of_ofMemory ServerMethod.name h]

/-- What is done with the result of the handler. -/
def afterHandler
    (object : ServerObject) (s : CString) (hdr : RtMessageHeader)
    (result : RbusError × Option (MessageRef (RbusMessage U))) :
    CoreM (RbusMessage U) (List UInt8) Unit :=
  if (object.methods.find? fun method => method.name.val = s).isNone ∧
      result.1 = .successAsync then pure ()
  else do
    let _ ← rbusSendResponse hdr result.2
    pure ()

/-- The handler that is registered for the method name is invoked with that very name and
with the whole message. -/
theorem dispatchMethodCall_handsOver
    (hdr : RtMessageHeader)
    {as : List (Setting U)} {s : CString} {object : ServerObject} {p : Ptr}
    {w : World (RbusMessage U) (List UInt8)}
    (hsize : messageSize as s < 2 ^ 31 - 2 ^ 15)
    (hobject : w.gServerObjects.items.find? (fun o => o.ptr = object.ptr) = some object)
    (hmsg : w.refCount p ≠ 0) :
    ∃ region received w₁,
      CString.ofMemory region = some s ∧
      Whole received (messageBytes as s) ∧
      w₁.gServerObjects = w.gServerObjects ∧
      dispatchMethodCall ⟨p, (rbusMessageFromBytes (messageBytes as s) : RbusMessage U)⟩ hdr
          object.ptr w =
        (invokeMethodCallback (handlerFor object s).1 hdr.topic (some region) received
          (handlerFor object s).2 hdr >>= afterHandler object s hdr) w₁ := by
  obtain ⟨region, m₁, m₂, hname, hregion, hend, hwhole⟩ := readMethod hsize
  obtain ⟨w₀, hlocked, hobject₀, w₁, hunlocked, hobject₁, hsame⟩ : ∃ w₀, lock w = .done () w₀ ∧
      w₀.gServerObjects.items.find? (fun o => o.ptr = object.ptr) = some object ∧
      ∃ w₁, unlock w₀ = .done () w₁ ∧
      w₁.gServerObjects.items.find? (fun o => o.ptr = object.ptr) = some object ∧
      w₁.gServerObjects = w.gServerObjects :=
    ⟨_, rfl, hobject, _, rfl, hobject, rfl⟩
  have hmessage : derefMessage (W := List UInt8)
      ⟨p, (rbusMessageFromBytes (messageBytes as s) : RbusMessage U)⟩ w = .done _ w :=
    congrFun (if_neg hmsg) w
  refine ⟨region, m₂, w₁, hregion, hwhole, hsame, ?_⟩
  rw [dispatchMethodCall, Program.bind_of_done hmessage]
  dsimp only
  rw [hname]
  dsimp only
  rw [hend, Program.bind_of_done hlocked, Program.bind_of_done (derefObject_of_find hobject₀),
    findMethod_of_ofMemory object hregion, Program.bind_of_done (x := pure _) rfl,
    Program.bind_of_done hunlocked]
  cases hfound : object.methods.find? fun method => method.name.val = s with
  | none =>
      have hhandler : handlerFor object s = (.app object.callback, object.data) := by
        simp only [handlerFor, hfound]
      have hafter : afterHandler (U := U) object s hdr = fun result =>
          if result.1 = .successAsync then pure ()
          else rbusSendResponse hdr result.2 >>= fun _ => pure () := by
        funext result
        simp only [afterHandler, hfound, Option.isNone_none, true_and]
      rw [hhandler, hafter, dispatchTo, dispatchToObject,
        Program.bind_of_done (derefObject_of_find hobject₁)]
      rfl
  | some method =>
      have hhandler : handlerFor object s = (method.callback, method.data) := by
        simp only [handlerFor, hfound]
      have hafter : afterHandler (U := U) object s hdr = fun result =>
          rbusSendResponse hdr result.2 >>= fun _ => pure () := by
        funext result
        simp only [afterHandler, hfound, Option.isNone_some, Bool.false_eq_true, false_and,
          if_false]
      rw [hhandler, hafter, dispatchTo, dispatchToMethod]

end Provider

section Response

variable {U : Unpacker}

/-- The handler has answered with the values `bs`: in a fresh message, or by leaving the
response to the library. -/
def Answers (response : Option (MessageRef (RbusMessage U))) (bs : List (Setting U)) : Prop :=
  match response with
  | some response => rbusMessageSets rbusMessageInit bs = some response.val
  | none => bs = [.int32 (Int32.ofInt RbusError.errorUnsupportedMethod.toInt)]

theorem sets_unsupportedMethodResponse :
    rbusMessageSets rbusMessageInit
        [.int32 (Int32.ofInt RbusError.errorUnsupportedMethod.toInt)] =
      some (unsupportedMethodResponse : RbusMessage U) := by
  have hcode : (Int32.ofInt RbusError.errorUnsupportedMethod.toInt).toInt =
      RbusError.errorUnsupportedMethod.toInt := by
    decide
  simp only [rbusMessageSets, List.foldlM_cons, List.foldlM_nil, rbusMessageSet, hcode,
    rbusMessageSetInt32, packerWrite, rbusMessageInit, if_true, List.nil_append,
    unsupportedMethodResponse, Option.bind_eq_bind, Option.bind_some, Option.pure_def]

/-- The response on the wire: the values and the name `METHOD_RESPONSE`. -/
theorem rbusSendResponse_sends
    {hdr : RtMessageHeader} {response : Option (MessageRef (RbusMessage U))}
    {bs : List (Setting U)}
    (w : World (RbusMessage U) (List UInt8))
    (hrequest : hdr.request = true)
    (hanswers : Answers response bs)
    (hsize : messageSize bs methodResponse < 2 ^ 31 - 2 ^ 15) :
    ∃ w₁ k, rbusSendResponse hdr response w =
      .call (.sendBinaryResponse (w.gConnection.map Connection.ptr) hdr
        (messageBytes bs methodResponse) timeoutValueFireAndForget) w₁ k := by
  obtain ⟨m, w₀, hmade, hcon, hset⟩ : ∃ m w₀, responseOrUnsupported response w = .done m w₀ ∧
      w₀.gConnection = w.gConnection ∧ rbusMessageSets rbusMessageInit bs = some m.val := by
    cases response with
    | some response =>
        exact ⟨response, w, rfl, rfl, hanswers⟩
    | none =>
        obtain rfl : bs = _ := hanswers
        exact ⟨_, _, responseOrUnsupported_none w, rfl, sets_unsupportedMethodResponse⟩
  obtain ⟨v, hbuf, hmethod⟩ := exists_setMessageMethod_values hset hsize
  have hlen : v.sbuf.length < 4294967296 := by
    rw [hbuf, messageBytes_length]
    omega
  have hbytes : MessageApi.toBytes v = messageBytes bs methodResponse := by
    rw [messageApi_toBytes, rbusMessageToBytes_of_lt hlen, hbuf]
  have hsend : rbusSendResponse hdr response = (do
      let response ← responseOrUnsupported response
      let response ← setMessageMethod response (some methodResponse)
      let con ← gConnectionPtr
      let err : RtError ← call (.sendBinaryResponse con hdr (MessageApi.toBytes response.val)
        timeoutValueFireAndForget)
      rbusMessageRelease response
      pure (if err = .rtOk then .success else .errorGeneral)) := if_pos hrequest
  rw [hsend, Program.bind_of_done hmade, hmethod, Program.bind_of_done (x := pure _) rfl,
    Program.bind_of_done (x := gConnectionPtr) rfl, hbytes, hcon]
  exact ⟨_, _, rfl⟩

end Response

section Caller

variable {U : Unpacker}

/-- The caller has put the values `as` into a fresh message, or passes none. -/
def Passes
    (out : Option (MessageRef (RbusMessage U))) (as : List (Setting U))
    (w : World (RbusMessage U) (List UInt8)) : Prop :=
  match out with
  | some out => rbusMessageSets rbusMessageInit as = some out.val ∧ w.refCount out.ptr ≠ 0
  | none => as = []

/-- A response is recognized, and handed to the caller as it was sent. -/
theorem receiveReply_response
    (out : MessageRef (RbusMessage U)) (p : Ptr)
    {bs : List (Setting U)} {w : World (RbusMessage U) (List UInt8)}
    (hsize : messageSize bs methodResponse < 2 ^ 31 - 2 ^ 15)
    (hlive : w.refCount out.ptr ≠ 0) :
    ∃ res w', receiveReply out (.ok ⟨p, rbusMessageFromBytes (messageBytes bs methodResponse)⟩) w =
        .done (.success, some (some res)) w' ∧
      Whole res.val (messageBytes bs methodResponse) ∧
      (out.ptr ≠ p → w.refCount p ≠ 0 → w'.refCount res.ptr ≠ 0) := by
  obtain ⟨region, m₁, m₂, hname, hregion, hend, hwhole⟩ := readMethod hsize
  have hcheck : checkResponse (M := RbusMessage U) (W := List UInt8) (some region) =
      pure .success := by
    have horder := strncmpMemory_of_ofMemory maxMethodNameLength (s := methodResponse) hregion
    have hsame : strncmp maxMethodNameLength methodResponse.chars methodResponse.chars = 0 :=
      (strncmp_eq_zero_iff _ methodResponse.noNul methodResponse.noNul).mpr rfl
    rw [checkResponse, strncmpAt, horder, hsame]
    rfl
  obtain ⟨w', hreleased, href⟩ : ∃ w', rbusMessageRelease (W := List UInt8) out w = .done () w' ∧
      w'.refCount = Function.update w.refCount out.ptr (w.refCount out.ptr - 1) :=
    ⟨_, rbusMessageRelease_of_live hlive, rfl⟩
  refine ⟨⟨p, m₂⟩, w', ?_, hwhole, fun hne hp => ?_⟩
  case refine_2 =>
    rwa [href, Function.update_of_ne (Ne.symm hne)]
  rw [receiveReply]
  dsimp only
  rw [hname]
  dsimp only
  rw [hcheck, Program.bind_of_done (x := pure _) rfl, Program.bind_of_done hreleased, hend]
  rfl

/-- `rbus_sendRequest` stops until the reply is there, and makes a message of it. -/
theorem rbusSendRequest_sends
    (req : MessageRef (RbusMessage U)) (topic : CString) (timeout : Int)
    (w : World (RbusMessage U) (List UInt8)) :
    ∃ w₁ k, rbusSendRequest req topic timeout w =
        .call (.sendBinaryRequest (w.gConnection.map Connection.ptr)
          (MessageApi.toBytes req.val) topic timeout) w₁ k ∧
      w₁.refCount = w.refCount ∧
      ∀ (data : List UInt8) (w₂ : World (RbusMessage U) (List UInt8)), ∃ w₃,
        k (.ok data) w₂ = .done (.ok ⟨w₂.nextPtr, rbusMessageFromBytes data⟩) w₃ ∧
        w₃.refCount = Function.update w₂.refCount w₂.nextPtr 1 := by
  rw [rbusSendRequest, Program.bind_of_done (x := gConnectionPtr) rfl]
  exact ⟨_, _, rfl, rfl, fun data w₂ => ⟨_, rfl, rfl⟩⟩

/-- The request on the wire: the values and the method name, sent to the object; and what
is made of a response to it. -/
theorem rbusInvokeRemoteMethod_sends
    (o : BoundedName maxObjectNameLength) (timeout : Int)
    {s : CString} {as : List (Setting U)} {out : Option (MessageRef (RbusMessage U))}
    {con : Connection}
    {w : World (RbusMessage U) (List UInt8)}
    (hcon : w.gConnection = some con)
    (hpasses : Passes out as w)
    (hsize : messageSize as s < 2 ^ 31 - 2 ^ 15) :
    ∃ w₁ k p,
      rbusInvokeRemoteMethod (some o.val) (some s) out timeout w =
        .call (.sendBinaryRequest (some con.ptr) (messageBytes as s) o.val timeout) w₁ k ∧
      w₁.refCount p ≠ 0 ∧
      ∀ (bs : List (Setting U)) (w₂ : World (RbusMessage U) (List UInt8)),
        messageSize bs methodResponse < 2 ^ 31 - 2 ^ 15 → w₂.refCount p ≠ 0 →
        ∃ res w₃, k (.ok (messageBytes bs methodResponse)) w₂ =
            .done (.success, some (some res)) w₃ ∧
          Whole res.val (messageBytes bs methodResponse) ∧
          (p ≠ w₂.nextPtr → w₃.refCount res.ptr ≠ 0) := by
  obtain ⟨m, w₀, hmade, hcon₀, hset, hlive⟩ : ∃ m w₀, messageOrEmpty out w = .done m w₀ ∧
      w₀.gConnection = some con ∧ rbusMessageSets rbusMessageInit as = some m.val ∧
      w₀.refCount m.ptr ≠ 0 := by
    cases out with
    | some out =>
        exact ⟨out, w, rfl, hcon, hpasses.1, hpasses.2⟩
    | none =>
        obtain rfl : as = [] := hpasses
        exact ⟨_, _, rfl, hcon, rfl, by simp⟩
  obtain ⟨v, hbuf, hmethod⟩ := exists_setMessageMethod_values hset hsize
  have hlen : v.sbuf.length < 4294967296 := by
    rw [hbuf, messageBytes_length]
    omega
  have hbytes : MessageApi.toBytes v = messageBytes as s := by
    rw [messageApi_toBytes, rbusMessageToBytes_of_lt hlen, hbuf]
  have hname : ¬ maxObjectNameLength ≤ o.val.strlen := not_le.mpr o.property
  have hconnected : ¬ w.gConnection.isNone = true := by simp [hcon]
  obtain ⟨w₁, k, hsent, href, hreply⟩ := rbusSendRequest_sends ⟨m.ptr, v⟩ o.val timeout w₀
  rw [hcon₀, Option.map_some, hbytes] at hsent
  have hinvoked : rbusInvokeRemoteMethod (some o.val) (some s) out timeout w =
      .call (.sendBinaryRequest (some con.ptr) (messageBytes as s) o.val timeout) w₁
        fun a w₂ => (k a w₂).bind (receiveReply ⟨m.ptr, v⟩) := by
    rw [rbusInvokeRemoteMethod, Program.bind_of_done (x := Program.getState) rfl,
      if_neg hconnected, Program.bind_of_done (x := deref _) rfl, if_neg hname,
      Program.bind_of_done hmade, hmethod, Program.bind_of_done (x := pure _) rfl,
      Program.bind_of_call hsent]
  refine ⟨w₁, _, m.ptr, hinvoked, by rwa [href], fun bs w₂ hbs hlive₂ => ?_⟩
  obtain ⟨w₃, hres, href₃⟩ := hreply (messageBytes bs methodResponse) w₂
  have hlive₃ : w₃.refCount m.ptr ≠ 0 := by
    rw [href₃, Function.update_apply]
    split
    · exact Nat.one_ne_zero
    · exact hlive₂
  obtain ⟨res, w₄, hreceived, hwhole, hres₄⟩ := receiveReply_response ⟨m.ptr, v⟩
    w₂.nextPtr hbs hlive₃
  refine ⟨res, w₄, ?_, hwhole, fun hne => hres₄ hne ?_⟩
  · rw [hres]
    exact hreceived
  · rw [href₃, Function.update_self]
    exact Nat.one_ne_zero

end Caller

section Transparency

variable {U : Unpacker}

/--
A remote call that is transported intact.  The caller stops at sending `data` to the object;
with `data` the provider invokes the handler registered for the method name, or else the
default callback, with that very name and a message that delivers the values of the body;
whatever values the handler answers with, at once and in whichever state, the provider sends
a `reply`; and with `reply` the caller returns success and a message that delivers them.
-/
theorem remote_call_transparent
    (object : ServerObject)
    (s : CString)
    (as : List (Setting U))
    (out : Option (MessageRef (RbusMessage U)))
    (timeout : Int)
    (con : Connection)
    (hdr : RtMessageHeader)
    (p : Ptr)
    (caller provider : World (RbusMessage U) (List UInt8))
    (hcon : caller.gConnection = some con)
    (hpasses : Passes out as caller)
    (hsize : messageSize as s < 2 ^ 31 - 2 ^ 15)
    (hobject : provider.gServerObjects.items.find? (fun o => o.ptr = object.ptr) = some object)
    (hmsg : provider.refCount p ≠ 0)
    (hrequest : hdr.request = true) :
    ∃ data caller₁ k q region received provider₁,
      rbusInvokeRemoteMethod (some object.name.val) (some s) out timeout caller =
        .call (.sendBinaryRequest (some con.ptr) data object.name.val timeout) caller₁ k ∧
      caller₁.refCount q ≠ 0 ∧
      CString.ofMemory region = some s ∧
      Delivers received (as.map Setting.value) ∧
      dispatchMethodCall ⟨p, rbusMessageFromBytes data⟩ hdr object.ptr provider =
        (invokeMethodCallback (handlerFor object s).1 hdr.topic (some region) received
          (handlerFor object s).2 hdr >>= afterHandler object s hdr) provider₁ ∧
      ∀ (result : RbusError × Option (MessageRef (RbusMessage U))) (bs : List (Setting U))
        (provider₂ caller₂ : World (RbusMessage U) (List UInt8)),
        result.1 ≠ .successAsync →
        Answers result.2 bs →
        messageSize bs methodResponse < 2 ^ 31 - 2 ^ 15 →
        caller₂.refCount q ≠ 0 →
        ∃ reply provider₃ k' res caller₃,
          afterHandler object s hdr result provider₂ =
            .call (.sendBinaryResponse (provider₂.gConnection.map Connection.ptr) hdr reply
              timeoutValueFireAndForget) provider₃ k' ∧
          k (.ok reply) caller₂ = .done (.success, some (some res)) caller₃ ∧
          Delivers res.val (bs.map Setting.value) := by
  obtain ⟨caller₁, k, q, hsent, hlive, hback⟩ :=
    rbusInvokeRemoteMethod_sends object.name timeout hcon hpasses hsize
  obtain ⟨region, received, provider₁, hregion, hwhole, -, hdispatch⟩ :=
    dispatchMethodCall_handsOver hdr hsize hobject hmsg
  refine ⟨messageBytes as s, caller₁, k, q, region, received, provider₁, hsent, hlive, hregion,
    hwhole.delivers_message hsize, hdispatch, fun result bs provider₂ caller₂ hsync hanswers hbs hlive₂ => ?_⟩
  obtain ⟨provider₃, k₂, hresponse⟩ := rbusSendResponse_sends provider₂ hrequest hanswers hbs
  obtain ⟨res, caller₃, hreceived, hreply₃, -⟩ := hback bs caller₂ hbs hlive₂
  have hafter : afterHandler object s hdr result =
      rbusSendResponse hdr result.2 >>= fun _ => pure () := if_neg fun h => hsync h.2
  have hreply := Program.bind_of_call hresponse
    (fun _ => (pure () : CoreM (RbusMessage U) (List UInt8) Unit))
  rw [← hafter] at hreply
  exact ⟨_, _, _, res, caller₃, hreply, hreceived, hreply₃.delivers_message hbs⟩

end Transparency

section Run

/-- A message with one small number. -/
def sampleNumber (b : UInt8) : Bytes :=
  { (rbusMessageInit : Bytes) with sbuf := [b] }

/-- A connected process that owns its messages. -/
def sampleCaller : World Bytes (List UInt8) :=
  { sampleInit with gConnection := some (sampleConnection 9), refCount := fun _ => 1 }

/-- A process with the object `o` that has received a message. -/
def sampleProvider : World Bytes (List UInt8) :=
  { sampleRegistered sampleMethodObject with refCount := fun _ => 1 }

/-- The method `m` of the object `o` is called with one number and answers with another. -/
theorem remote_call_transparent_instance :
    ∃ (data : List UInt8) (caller₁ provider₁ : World Bytes (List UInt8))
      (k : Except RtError (List UInt8) → CoreM Bytes (List UInt8)
        (RbusError × Option (Option (MessageRef Bytes))))
      (q : Ptr) (region : List UInt8) (received : Bytes),
      rbusInvokeRemoteMethod (some (.ofChars ['o'])) (some (.ofChars ['m']))
          (some ⟨5, sampleNumber 7⟩) 1000 sampleCaller =
        .call (.sendBinaryRequest (some 9) data (.ofChars ['o']) 1000) caller₁ k ∧
      CString.ofMemory region = some (.ofChars ['m']) ∧
      Delivers received [.int32 7] ∧
      dispatchMethodCall ⟨3, (rbusMessageFromBytes data : Bytes)⟩ (sampleHeader 1) 1
          sampleProvider =
        (appMethodCallback 0 (.ofChars ['o']) (some region) received 0 (sampleHeader 1) >>=
          afterHandler sampleMethodObject (.ofChars ['m']) (sampleHeader 1)) provider₁ ∧
      ∀ caller₂ : World Bytes (List UInt8), caller₂.refCount q ≠ 0 →
        ∃ reply res caller₃, k (.ok reply) caller₂ = .done (.success, some (some res)) caller₃ ∧
          Delivers res.val [.int32 8] := by
  obtain ⟨data, caller₁, k, q, region, received, provider₁, hsent, -, hregion, hdelivers,
      hdispatch, hback⟩ :=
    remote_call_transparent sampleMethodObject (.ofChars ['m']) [.int32 7]
      (some ⟨5, sampleNumber 7⟩) 1000 ⟨9, ⟨.empty, by decide⟩, false, []⟩ (sampleHeader 1) 3 sampleCaller
      sampleProvider rfl ⟨by decide, by decide⟩ (by decide) (by decide) (by decide) rfl
  refine ⟨data, caller₁, provider₁, k, q, region, received, hsent, hregion, hdelivers,
    hdispatch, fun caller₂ hlive => ?_⟩
  have hanswers : rbusMessageSets rbusMessageInit [.int32 8] = some (sampleNumber 8) := by
    decide
  obtain ⟨reply, -, -, res, caller₃, -, hreceived, hvalues⟩ :=
    hback (.success, some ⟨6, sampleNumber 8⟩) [.int32 8] sampleInit caller₂
      (by decide) hanswers (by decide) hlive
  exact ⟨reply, res, caller₃, hreceived, hvalues⟩

end Run

end RbusCore
