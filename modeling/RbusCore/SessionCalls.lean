import RbusCore.DebugText
import RbusCore.SessionService
import RbusCore.SubscriptionRequests

/-!
# Session calls

The clients of the session manager make their requests as remote calls.  Any number of them does
so, and other messages arrive at the session manager, too.

**Results.**
* `sat_onMessage_request`, `completes_onMessage`: a request of a client is answered, and the
  session manager gets that far.
* `session_calls_exclusive`: what the calls return, whatever has arrived before.
-/

namespace RbusCore

open CStrings Resumption MessagePack

section Clients

variable {M W : Type} [MessageApi M W]

/-- The id behind the result code of a response, unless the code is that of an error.  A code that
cannot be read is passed over. -/
def sessionIdOf (response : M) : Option Int :=
  let result := MessageApi.getInt32 response
  if result.1.any (fun code => code ≠ RbusError.success.toInt) = true then none
  else (MessageApi.getInt32 result.2).1

/-- Whether a response says that a session has been ended. -/
def sessionEnded (response : M) : Bool :=
  decide ((MessageApi.getInt32 response).1 = some RbusError.success.toInt)

/-- What the functions of a client have in common: a method is called, and its response is
read. -/
def invokeSessionMethod
    {α : Type} (method : SessionMethod) (out : Option (MessageRef M)) (read : M → α) (failed : α) :
    CoreM M W α := do
  let reply ← rbusInvokeRemoteMethod (some rbusSmgrDestinationName) (some method.name) out 1000
  if reply.1 = .success then do
    let response ← deref reply.2.join
    pure (read response.val)
  else pure failed

/-- `create_session` of a client: the new session id, if it got one. -/
def createSession : CoreM M W (Option Int) :=
  invokeSessionMethod .requestSessionId none sessionIdOf none

/-- `print_current_session_id` of a client: the id that it prints. -/
def printCurrentSessionId : CoreM M W (Option Int) :=
  invokeSessionMethod .getSessionId none sessionIdOf none

/-- `end_session` of a client: whether it says that the session has been ended. -/
def clientEndSession (session : Int32) : CoreM M W Bool := do
  let out ← newMessage MessageApi.init
  let out ← setInt32Ref out session.toInt
  invokeSessionMethod .endSession (some out) sessionEnded false

end Clients

section Service

variable {M W : Type}

/-- The response that a call sends. -/
def Call.response? : Call M W → Option (RtMessageHeader × W)
  | .sendBinaryResponse _ hdr data _ => some (hdr, data)
  | _ => none

/-- The responses that have been sent. -/
def responses (log : List (Event M W)) : List (RtMessageHeader × W) :=
  log.filterMap fun
    | .call e => e.response?
    | _ => none

theorem responses_append
    (log log' : List (Event M W)) :
    responses (log ++ log') = responses log ++ responses log' :=
  List.filterMap_append

/-- The responses are among the calls for requests. -/
theorem responses_flowCalls
    (log : List (Event M W)) :
    responses (flowCalls log) = responses log := by
  rw [responses, flowCalls, List.filterMap_filter, responses]
  congr 1
  funext e
  cases e with
  | call e =>
      cases e <;> rfl
  | _ =>
      rfl

/-- The sessions that are open, and the ids that have been granted. -/
def SessionsAt [MessageApi M W] (w : World M W) (sessions granted : List Int) : Prop :=
  ∃ history s, SessionManager.after (sessionRequests w.log) = some (history, s) ∧
    openSessions history = sessions ∧ grantedIds history = granted

end Service

section Answers

variable {U : Unpacker}

/-- The settings of a response of integers. -/
def int32Settings (U : Unpacker) (values : List Int) : List (Setting U) :=
  values.map fun i => .int32 (Int32.ofInt i)

/-- A message of few integers fits. -/
theorem messageSize_int32s_lt
    {is : List Int32} {s : CString}
    (hname : (Value.str s).encode.length ≤ 17)
    (hlen : is.length ≤ 3) :
    messageSize (U := U) (is.map Setting.int32) s < 2 ^ 31 - 2 ^ 15 := by
  have hvalues : (is.map (Setting.int32 (U := U))).map Setting.value = is.map Value.int32 := by
    rw [List.map_map]
    rfl
  have hbytes := encodeAll_int32s_length_le is
  rw [← messageBytes_length, messageBytes, hvalues]
  simp only [List.length_append, trailer_length]
  omega

/-- A response of few integers fits. -/
theorem messageSize_int32Settings_lt
    {values : List Int}
    (hlen : values.length ≤ 3) :
    messageSize (int32Settings U values) methodResponse < 2 ^ 31 - 2 ^ 15 := by
  have hsettings : int32Settings U values = (values.map Int32.ofInt).map Setting.int32 := by
    rw [int32Settings, List.map_map]
    rfl
  rw [hsettings]
  exact messageSize_int32s_lt (by decide) (by rwa [List.length_map])

/-- A request of one integer at most fits. -/
theorem messageSize_request_lt
    (method : SessionMethod) (is : List Int32)
    (hlen : is.length ≤ 1) :
    messageSize (U := U) (is.map Setting.int32) method.name < 2 ^ 31 - 2 ^ 15 := by
  refine messageSize_int32s_lt ?_ (by omega)
  cases method <;> decide

/-- The values of a method are answered in a new message. -/
inductive AnswersValues (result : HandlerResult (RbusMessage U)) (values : List Int) : Prop
  | mk {response : RbusMessage U}
      (hresponse : result.response = some response)
      (hvalues : int32Response values = some response)
      (hrange : ∀ i ∈ values, -2147483648 ≤ i ∧ i < 2147483648)
      (hlen : values.length ≤ 2)

theorem AnswersValues.answer
    {result : HandlerResult (RbusMessage U)} {values : List Int}
    (h : AnswersValues result values) :
    result.answer = values.map some ++ List.replicate (3 - values.length) none := by
  obtain ⟨hresponse, hvalues, hrange, hlen⟩ := h
  obtain ⟨response', hvalues', hanswer⟩ :=
    int32Response_answer (U := U) hrange (Nat.le_succ_of_le hlen)
  obtain rfl := Option.some.inj (hvalues.symm.trans hvalues')
  rw [← hanswer, HandlerResult.answer, HandlerResult.answer, hresponse]

theorem AnswersValues.length_le
    {result : HandlerResult (RbusMessage U)} {values : List Int}
    (h : AnswersValues result values) :
    values.length ≤ 2 := by
  obtain ⟨-, -, -, hlen⟩ := h
  exact hlen

theorem AnswersValues.range
    {result : HandlerResult (RbusMessage U)} {values : List Int}
    (h : AnswersValues result values) :
    ∀ i ∈ values, -2147483648 ≤ i ∧ i < 2147483648 := by
  obtain ⟨-, -, hrange, -⟩ := h
  exact hrange

theorem AnswersValues.sets
    {result : HandlerResult (RbusMessage U)} {values : List Int}
    (h : AnswersValues result values) :
    ∃ response, result.response = some response ∧
      rbusMessageSets rbusMessageInit (int32Settings U values) = some response := by
  obtain ⟨hresponse, hvalues, hrange, -⟩ := h
  exact ⟨_, hresponse, (int32Response_eq hrange).symm.trans hvalues⟩

variable {s s' : SessionManager} {r : SessionRequest (RbusMessage U)}
variable {result : HandlerResult (RbusMessage U)}

/-- The last step of every method. -/
theorem answersValues_of_bind
    {values : List Int} {t : SessionManager}
    (hrange : ∀ i ∈ values, -2147483648 ≤ i ∧ i < 2147483648)
    (hlen : values.length ≤ 2)
    (h : ((int32Response values).bind fun response => some (⟨.success, some response⟩, t)) =
      some (result, s')) :
    AnswersValues result values := by
  obtain ⟨response, hresponse, hpair⟩ := Option.bind_eq_some_iff.mp h
  obtain ⟨rfl, -⟩ := Prod.mk.inj (Option.some.inj hpair)
  exact ⟨rfl, hresponse, hrange, hlen⟩

/-- Every method answers a result code, and perhaps an id. -/
theorem SessionRequest.answersValues
    (hs : s.InRange)
    (h : r.handle s = some (result, s')) :
    ∃ values, AnswersValues result values := by
  obtain ⟨hnonneg, hle, hcurrent⟩ := hs
  have hcode (code : RbusError) (hcode : -2147483648 ≤ code.toInt ∧ code.toInt < 2147483648) :
      ∀ i ∈ [code.toInt], -2147483648 ≤ i ∧ i < 2147483648 := by
    simpa using hcode
  have hid (id : Int) (hlow : 0 ≤ id) (hhigh : id ≤ 2147483647) :
      ∀ i ∈ [RbusError.success.toInt, id], -2147483648 ≤ i ∧ i < 2147483648 := by
    simp [RbusError.toInt]
    omega
  rw [SessionRequest.handle] at h
  cases hmethod : r.method with
  | requestSessionId =>
      simp only [hmethod, requestSessionId] at h
      split at h
      · split at h
        · cases h
        · exact ⟨_, answersValues_of_bind (hid _ (by omega) (by omega)) (Nat.le_refl 2) h⟩
      · exact ⟨_, answersValues_of_bind (hcode _ (by decide)) (Nat.le_succ 1) h⟩
  | getSessionId =>
      simp only [hmethod, getSessionId] at h
      exact ⟨_, answersValues_of_bind (hid _ (by omega) (by omega)) (Nat.le_refl 2) h⟩
  | endSession =>
      simp only [hmethod, endSession] at h
      split at h
      · split at h
        · exact ⟨_, answersValues_of_bind (hcode _ (by decide)) (Nat.le_succ 1) h⟩
        · exact ⟨_, answersValues_of_bind (hcode _ (by decide)) (Nat.le_succ 1) h⟩
      · exact ⟨_, answersValues_of_bind (hcode _ (by decide)) (Nat.le_succ 1) h⟩

end Answers

section Handling

variable {U : Unpacker} {w : World (RbusMessage U) (List UInt8)}
variable {objects : RtVector ServerObject} {con : Option Connection}
variable {calls calls' : List (Event (RbusMessage U) (List UInt8))}
variable {toDebugString : List UInt8 → RbusMessage U → RbusMessage U × DebugText}

/-- A request for a method has been handled, and one response has been sent. -/
inductive RequestAnswered
    (method : SessionMethod) (as : List (Setting U)) (hdr : RtMessageHeader)
    (calls calls' : List (Event (RbusMessage U) (List UInt8))) : Prop
  | mk {r : SessionRequest (RbusMessage U)} {result : HandlerResult (RbusMessage U)}
      {history : List (SessionRequest (RbusMessage U) × HandlerResult (RbusMessage U))}
      {s s' : SessionManager} {values : List Int}
      (hmethod : r.method = method)
      (hdelivers : Delivers r.request (as.map Setting.value))
      (hbefore : SessionManager.after (sessionRequests calls) = some (history, s))
      (hhandle : r.handle s = some (result, s'))
      (hafter : SessionManager.after (sessionRequests calls') =
        some (history ++ [(r, result)], s'))
      (hvalues : AnswersValues result values)
      (hresponses : responses calls' =
        responses calls ++ [(hdr, messageBytes (int32Settings U values) methodResponse)])

/-- A response with these values is sent. -/
theorem sat_rbusSendResponse_sends
    {hdr : RtMessageHeader} {response : MessageRef (RbusMessage U)} {bs : List (Setting U)}
    (h : Attending objects con calls w)
    (hrequest : hdr.request = true)
    (hset : rbusMessageSets rbusMessageInit bs = some response.val)
    (hsize : messageSize bs methodResponse < 2 ^ 31 - 2 ^ 15) :
    Program.Sat (sessionProcess toDebugString) (rbusSendResponse hdr (some response))
      (fun _ => Attending objects con (calls ++ [.call (.sendBinaryResponse
        (con.map Connection.ptr) hdr (messageBytes bs methodResponse)
        timeoutValueFireAndForget)])) w := by
  obtain rfl : w.gConnection = con := h.connection
  obtain ⟨v, hbuf, hmethod⟩ := exists_setMessageMethod_values hset hsize
  have hlen : v.sbuf.length < 4294967296 := by
    rw [hbuf, messageBytes_length]
    omega
  have hbytes : MessageApi.toBytes v = messageBytes bs methodResponse := by
    rw [messageApi_toBytes, rbusMessageToBytes_of_lt hlen, hbuf]
  have hresponds : rtMessageHeaderIsRequest hdr = true := hrequest
  rw [rbusSendResponse, if_pos hresponds]
  show Program.Sat (sessionProcess toDebugString)
    ((setMessageMethod response (some methodResponse)) >>= _) _ w
  rw [hmethod, pure_bind, Program.sat_bind, sat_gConnectionPtr, Program.sat_bind, sat_call]
  refine ⟨trivial, ?_⟩
  rintro err _ ⟨rfl, -⟩
  have hsent := h.flowCall (e := .sendBinaryResponse (w.gConnection.map Connection.ptr) hdr
    (messageBytes bs methodResponse) timeoutValueFireAndForget) rfl
  rw [hbytes]
  refine (keeps_rbusMessageRelease steady_attending _ _ hsent).bind ?_
  exact fun _ w₁ h₁ => h₁

/-- The object has the method. -/
theorem find_sessionMethod
    (p : Ptr) (method : SessionMethod) :
    (sessionObject p sessionMethods).methods.find? (fun m => m.name.val = method.name) =
      some { name := ⟨method.name, sessionNames_fit method⟩, callback := .app method.callback,
             data := 0 } := by
  cases method <;> rfl

/-- What the dispatch leaves alone before the method is called. -/
structure SameRequests (w w' : World (RbusMessage U) (List UInt8)) : Prop where
  stackCounter : w'.stackCounter = w.stackCounter
  queue : w'.gQueuedRequests = w.gQueuedRequests
  refCount : w'.refCount = w.refCount
  nextPtr : w'.nextPtr = w.nextPtr

/-- A request of a client gets to the method that it is for. -/
theorem dispatchMethodCall_method
    {p q : Ptr} {method : SessionMethod} {as : List (Setting U)}
    (hdr : RtMessageHeader)
    (h : Attending (.live [sessionObject p sessionMethods]) con calls w)
    (hlive : w.refCount q ≠ 0)
    (hsize : messageSize as method.name < 2 ^ 31 - 2 ^ 15) :
    ∃ region, ∃ received : RbusMessage U, ∃ w₁, Whole received (messageBytes as method.name) ∧
      Attending (.live [sessionObject p sessionMethods]) con calls w₁ ∧ SameRequests w w₁ ∧
      dispatchMethodCall
          ⟨q, (rbusMessageFromBytes (messageBytes as method.name) : RbusMessage U)⟩ hdr p w =
        (do
          let result ← appMethodCallback method.callback hdr.topic (some region) received 0 hdr
          let _ ← rbusSendResponse hdr result.2
          pure () : CoreM (RbusMessage U) (List UInt8) Unit) w₁ := by
  obtain ⟨region, m₁, received, hname, hregion, hend, hwhole⟩ := readMethod hsize
  have hmessage : derefMessage (W := List UInt8)
      ⟨q, (rbusMessageFromBytes (messageBytes as method.name) : RbusMessage U)⟩ w = .done _ w :=
    congrFun (if_neg hlive) w
  obtain ⟨w₀, hlocked, h₀, hsame₀⟩ : ∃ w₀, lock w = .done () w₀ ∧
      Attending (.live [sessionObject p sessionMethods]) con calls w₀ ∧ SameRequests w w₀ :=
    ⟨_, rfl, h.entry (e := .lock w.mutexOwned) rfl rfl rfl rfl, rfl, rfl, rfl, rfl⟩
  obtain ⟨w₁, hunlocked, h₁, hsame₁⟩ : ∃ w₁, unlock w₀ = .done () w₁ ∧
      Attending (.live [sessionObject p sessionMethods]) con calls w₁ ∧ SameRequests w₀ w₁ :=
    ⟨_, rfl, h₀.entry (e := .unlock w₀.mutexOwned) rfl rfl rfl rfl, rfl, rfl, rfl, rfl⟩
  refine ⟨region, received, w₁, hwhole, h₁, ⟨hsame₁.stackCounter.trans hsame₀.stackCounter,
    hsame₁.queue.trans hsame₀.queue, hsame₁.refCount.trans hsame₀.refCount,
    hsame₁.nextPtr.trans hsame₀.nextPtr⟩, ?_⟩
  rw [dispatchMethodCall, Program.bind_of_done hmessage]
  dsimp only
  rw [hname]
  dsimp only
  rw [hend, Program.bind_of_done hlocked, Program.bind_of_done h₀.derefObject,
    findMethod_of_ofMemory _ hregion, find_sessionMethod,
    Program.bind_of_done (x := pure _) rfl, Program.bind_of_done hunlocked, dispatchTo,
    dispatchToMethod, invokeMethodCallback]

/-- The method answers a request of a client. -/
theorem sat_dispatchMethodCall_request
    {p q : Ptr} {method : SessionMethod} {as : List (Setting U)} {hdr : RtMessageHeader}
    (h : Attending (.live [sessionObject p sessionMethods]) con calls w)
    (hlive : w.refCount q ≠ 0)
    (hsize : messageSize as method.name < 2 ^ 31 - 2 ^ 15)
    (hrequest : hdr.request = true) :
    Program.Sat (sessionProcess toDebugString)
      (dispatchMethodCall ⟨q, (rbusMessageFromBytes (messageBytes as method.name) : RbusMessage U)⟩
        hdr p)
      (fun _ w' => ∃ calls', Attending (.live [sessionObject p sessionMethods]) con calls' w' ∧
        RequestAnswered method as hdr calls calls') w := by
  obtain ⟨region, received, w₃, hwhole, h₃, -, hdispatch⟩ :=
    dispatchMethodCall_method hdr h hlive hsize
  rw [Program.Sat, hdispatch]
  refine (sat_appMethodCallback_attending h₃ _ _ _ _ _ _).bind ?_
  rintro ⟨ret, response⟩ w₄ ⟨h₄, result, hresponse, hanswer⟩
  obtain ⟨history, s, s', hbefore, hhandle, hafter⟩ :=
    sessionAnswer_concat (sessionRequest?_callback _ _ _ _ _ _)
      (hanswer method (SessionMethod.ofCallback?_callback method))
  have hinv := (SessionManager.after_run hbefore).1.inv
  obtain ⟨values, hvalues⟩ := SessionRequest.answersValues hinv.inRange hhandle
  obtain ⟨message, hmade, hset⟩ := hvalues.sets
  obtain ⟨response, rfl, hval⟩ := Option.map_eq_some_iff.mp (hresponse.trans hmade)
  refine (sat_rbusSendResponse_sends h₄ hrequest (hset.trans (congrArg some hval.symm))
    (messageSize_int32Settings_lt (Nat.le_succ_of_le hvalues.length_le))).bind fun _ w₅ h₅ => ?_
  refine ⟨_, h₅, rfl, hwhole.delivers_message hsize, hbefore, hhandle, ?_, hvalues, ?_⟩
  · rw [sessionRequests_append]
    exact (congrArg _ (List.append_nil _)).trans hafter
  · rw [responses_append, responses_append]
    exact congrArg (· ++ _) (List.append_nil _)

/-- A request of a client arrives: it is handled, and answered once. -/
theorem sat_onMessage_request
    {p : Ptr} {name : CString} {method : SessionMethod} {as : List (Setting U)}
    {hdr : RtMessageHeader}
    (h : InService w)
    (hlistens : ListensAt name p w)
    (hsize : messageSize as method.name < 2 ^ 31 - 2 ^ 15)
    (hrequest : hdr.request = true)
    (rounds : Nat) :
    Program.Sat (sessionProcess toDebugString)
      (onMessage (M := RbusMessage U) rounds hdr (messageBytes as method.name) p)
      (fun _ w' => RequestAnswered method as hdr (flowCalls w.log) (flowCalls w'.log)) w := by
  have hattending : Attending (.live [sessionObject p sessionMethods]) w.gConnection
      (flowCalls w.log) w := ⟨h.object name p hlistens, rfl, rfl⟩
  refine (sat_onMessage_attending (P := RequestAnswered method as hdr (flowCalls w.log)) h.idle
    hattending hdr (fun w₁ h₁ hlive => ?_) rounds).mono ?_
  · exact sat_dispatchMethodCall_request h₁ hlive hsize hrequest
  · rintro _ w' ⟨-, calls', hattending', hhandled⟩
    rwa [hattending'.calls]

/-- Code that is never stuck: every call is answered, and nothing is undefined. -/
abbrev answerable (toDebugString : List UInt8 → RbusMessage U → RbusMessage U × DebugText) :
    Contract (Call.Answer (M := RbusMessage U) (W := List UInt8))
      (World (RbusMessage U) (List UInt8)) :=
  Program.completing (answering toDebugString)

/-- A response is sent, while the request is kept. -/
theorem sat_rbusSendResponse_answerable
    {hdr : RtMessageHeader} {response : MessageRef (RbusMessage U)} {bs : List (Setting U)}
    {q : Ptr}
    (hrequest : hdr.request = true)
    (hset : rbusMessageSets rbusMessageInit bs = some response.val)
    (hsize : messageSize bs methodResponse < 2 ^ 31 - 2 ^ 15)
    (hbusy : Occupied w)
    (hkept : w.refCount q ≠ 0)
    (hlive : w.refCount response.ptr ≠ 0)
    (hne : q ≠ response.ptr) :
    Program.Sat (answerable toDebugString) (rbusSendResponse hdr (some response))
      (fun _ w' => w'.refCount q ≠ 0 ∧ Occupied w') w := by
  obtain ⟨v, -, hmethod⟩ := exists_setMessageMethod_values hset hsize
  have hresponds : rtMessageHeaderIsRequest hdr = true := hrequest
  rw [rbusSendResponse, if_pos hresponds]
  show Program.Sat (answerable toDebugString)
    ((setMessageMethod response (some methodResponse)) >>= _) _ w
  rw [hmethod, pure_bind, Program.sat_bind, sat_gConnectionPtr, Program.sat_bind, sat_call]
  refine ⟨⟨.rtOk, _, rfl, trivial⟩, ?_⟩
  rintro err w₁ ⟨hw₁, -⟩
  have hlive₁ : w₁.refCount response.ptr ≠ 0 := by
    rw [hw₁]
    exact hlive
  have hreleased := rbusMessageRelease_of_live (W := List UInt8) (m := ⟨response.ptr, v⟩) hlive₁
  rw [Program.sat_bind, Program.sat_of_done hreleased, hw₁]
  refine ⟨?_, hbusy.stackCounter, hbusy.queue⟩
  show Function.update w.refCount response.ptr _ q ≠ 0
  rwa [Function.update_of_ne hne]

/-- A method that can answer does so. -/
theorem sessionAnswer_of_handle
    {e : Call (RbusMessage U) (List UInt8)} {r : SessionRequest (RbusMessage U)}
    {history : List (SessionRequest (RbusMessage U) × HandlerResult (RbusMessage U))}
    {s s' : SessionManager} {result : HandlerResult (RbusMessage U)}
    (hrequest : e.sessionRequest? = some r)
    (hbefore : SessionManager.after (sessionRequests calls) = some (history, s))
    (hhandle : r.handle s = some (result, s')) :
    sessionAnswer (calls ++ [.call e]) r = some result := by
  rw [sessionAnswer, sessionRequests_concat hrequest, List.dropLast_concat, hbefore,
    Option.bind_some, hhandle]
  rfl

theorem answering_method_iff
    {method : SessionMethod} {topic : CString} {method? : Option (List UInt8)}
    {request : RbusMessage U} {data : Ptr} {hdr : RtMessageHeader}
    {w w' : World (RbusMessage U) (List UInt8)} {result : HandlerResult (RbusMessage U)} :
    answering toDebugString (.methodCallback method.callback topic method? request data hdr) w
        result w' ↔
      w' = w ∧ sessionAnswer w.log { hdr := hdr, method := method, request := request } =
        some result := by
  cases method <;> exact Iff.rfl

theorem sessionAnswer_flowCalls
    (log : List (Event (RbusMessage U) (List UInt8))) (r : SessionRequest (RbusMessage U)) :
    sessionAnswer (flowCalls log) r = sessionAnswer log r := by
  rw [sessionAnswer, sessionRequests_flowCalls, sessionAnswer]

/-- A request is being handled, and is kept. -/
structure Keeping
    (p q : Ptr) (con : Option Connection) (calls : List (Event (RbusMessage U) (List UInt8)))
    (w : World (RbusMessage U) (List UInt8)) : Prop where
  attending : Attending (.live [sessionObject p sessionMethods]) con calls w
  busy : Occupied w
  kept : w.refCount q ≠ 0
  earlier : q < w.nextPtr

variable (toDebugString) in
/-- A request that a method can answer is dispatched to the end. -/
theorem sat_dispatchMethodCall_answerable
    {p q : Ptr} {method : SessionMethod} {as : List (Setting U)} {hdr : RtMessageHeader}
    {history : List (SessionRequest (RbusMessage U) × HandlerResult (RbusMessage U))}
    {s : SessionManager}
    (h : Keeping p q con calls w)
    (hsize : messageSize as method.name < 2 ^ 31 - 2 ^ 15)
    (hrequest : hdr.request = true)
    (hbefore : SessionManager.after (sessionRequests calls) = some (history, s))
    (hcounter : method = .requestSessionId → s.gCounter ≠ 2147483647) :
    Program.Sat (answerable toDebugString)
      (dispatchMethodCall ⟨q, (rbusMessageFromBytes (messageBytes as method.name) : RbusMessage U)⟩
        hdr p)
      (fun _ w' => w'.refCount q ≠ 0 ∧ Occupied w') w := by
  have hinv := (SessionManager.after_run hbefore).1.inv
  obtain ⟨region, received, w₃, -, h₃, hsame, hdispatch⟩ :=
    dispatchMethodCall_method hdr h.attending h.kept hsize
  have hkept : w₃.refCount q ≠ 0 := hsame.refCount ▸ h.kept
  have hearlier : q ≠ w₃.nextPtr := hsame.nextPtr ▸ Nat.ne_of_lt h.earlier
  have hbusy : Occupied w₃ :=
    ⟨hsame.stackCounter.trans h.busy.stackCounter, by rw [hsame.queue, h.busy.queue]⟩
  have hcalled := h₃.flowCall
    (e := .methodCallback method.callback hdr.topic (some region) received 0 hdr) rfl
  rcases SessionRequest.handle_cases hinv.inRange
    { hdr := hdr, method := method, request := received } with
    ⟨hmethod, -, hmax⟩ | ⟨result, s', hhandle, -⟩
  · exact absurd hmax (hcounter hmethod)
  obtain ⟨values, hvalues⟩ := SessionRequest.answersValues hinv.inRange hhandle
  obtain ⟨message, hmade, hset⟩ := hvalues.sets
  have hanswer := sessionAnswer_of_handle (sessionRequest?_callback method hdr.topic (some region)
    received 0 hdr) hbefore hhandle
  rw [← hcalled.calls, sessionAnswer_flowCalls] at hanswer
  rw [Program.Sat, hdispatch]
  rw [appMethodCallback, bind_assoc, ← Program.Sat, Program.sat_bind, sat_call]
  refine ⟨⟨result, _, answering_method_iff.mpr ⟨rfl, hanswer⟩⟩, ?_⟩
  rintro result' w₄ hanswered
  obtain ⟨rfl, hanswer'⟩ := answering_method_iff.mp hanswered
  obtain rfl : result = result' := Option.some.inj (hanswer.symm.trans hanswer')
  rw [hmade]
  refine Program.Sat.bind (P := fun result w₅ => ∃ response : MessageRef (RbusMessage U),
      result.2 = some response ∧ response.val = message ∧ Occupied w₅ ∧ w₅.refCount q ≠ 0 ∧
        w₅.refCount response.ptr ≠ 0 ∧ q ≠ response.ptr)
    ⟨⟨w₃.nextPtr, message⟩, rfl, rfl, ⟨hbusy.stackCounter, hbusy.queue⟩, ?_, ?_,
      hearlier⟩ ?_
  · show Function.update w₃.refCount w₃.nextPtr 1 q ≠ 0
    rwa [Function.update_of_ne hearlier]
  · show Function.update w₃.refCount w₃.nextPtr 1 w₃.nextPtr ≠ 0
    rw [Function.update_self]
    exact Nat.one_ne_zero
  rintro ⟨ret, _⟩ w₅ ⟨response, rfl, rfl, hbusy₅, hkept₅, hlive₅, hne⟩
  exact (sat_rbusSendResponse_answerable hrequest hset
    (messageSize_int32Settings_lt (Nat.le_succ_of_le hvalues.length_le)) hbusy₅ hkept₅ hlive₅
    hne).bind fun _ _ h => h

/-- A request that a method can answer is handled to the end. -/
theorem completes_onMessage
    {p : Ptr} {name : CString} {method : SessionMethod} {as : List (Setting U)}
    {hdr : RtMessageHeader}
    {history : List (SessionRequest (RbusMessage U) × HandlerResult (RbusMessage U))}
    {s : SessionManager}
    (h : InService w)
    (hlistens : ListensAt name p w)
    (hsize : messageSize as method.name < 2 ^ 31 - 2 ^ 15)
    (hrequest : hdr.request = true)
    (hbefore : SessionManager.after (sessionRequests w.log) = some (history, s))
    (hcounter : method = .requestSessionId → s.gCounter ≠ 2147483647)
    (rounds : Nat) :
    Program.Completes (answering toDebugString)
      (onMessage (M := RbusMessage U) rounds hdr (messageBytes as method.name) p) w := by
  let msg : RbusMessage U := MessageApi.fromBytes (messageBytes as method.name)
  have hbegins : Attending (.live [sessionObject p sessionMethods]) w.gConnection
      (flowCalls w.log) w := ⟨h.object name p hlistens, rfl, rfl⟩
  have hbusy : Occupied (w.dispatching hdr msg p) :=
    ⟨congrArg (· + 1) h.idle.stackCounter, h.idle.queue⟩
  rw [← sessionRequests_flowCalls] at hbefore
  have hkeeping : Keeping p w.nextPtr w.gConnection (flowCalls w.log) (w.dispatching hdr msg p) :=
    ⟨hbegins.dispatching hdr msg p, hbusy, dispatching_live w hdr msg p, Nat.lt_succ_self w.nextPtr⟩
  have hdispatch := sat_dispatchMethodCall_answerable toDebugString hkeeping hsize hrequest hbefore
    hcounter
  have hsat := sat_onMessage_unoccupied (P := fun w' => w'.refCount w.nextPtr ≠ 0)
    (Q := fun _ => True) h.idle hdispatch
    (fun w' hlive _ => (Program.sat_of_done (rbusMessageRelease_of_live hlive)).mpr trivial) rounds
  exact Program.completes_of_sat (C := answerable toDebugString) (fun _ _ hanswer => hanswer)
    (fun _ hundef => hundef) hsat

end Handling

section Law

variable {U : Unpacker}
variable {history : List (SessionRequest (RbusMessage U) × HandlerResult (RbusMessage U))}
variable {s s' : SessionManager} {r : SessionRequest (RbusMessage U)}
variable {result : HandlerResult (RbusMessage U)} {values : List Int}

/-- The values are those that a client reads. -/
theorem AnswersValues.eq_of_answer
    {front : List Int} {n : Nat}
    (h : AnswersValues result values)
    (hanswer : result.answer = front.map some ++ List.replicate n none) :
    values = front := by
  have hread : result.answer.filterMap id = values := by
    rw [h.answer, List.filterMap_append, List.filterMap_map]
    simp
  rw [← hread, hanswer, List.filterMap_append, List.filterMap_map]
  simp

/-- The current id is that of the session that is open, or 0. -/
theorem SessionInv.headD_openSessions
    (h : SessionInv history s) :
    (openSessions history).headD 0 = s.gCurrentSessionId := by
  rw [h.opened]
  split
  case isTrue hzero =>
    exact hzero.symm
  case isFalse =>
    rfl

/-- A session is granted under the next number if none is open, and otherwise refused. -/
theorem SessionInv.requested
    (h : SessionInv history s)
    (hmethod : r.method = .requestSessionId)
    (hstep : r.handle s = some (result, s'))
    (hvalues : AnswersValues result values) :
    (openSessions history = [] ∧ values = [0, ((grantedIds history).length : Int) + 1] ∧
        openSessions (history ++ [(r, result)]) = [((grantedIds history).length : Int) + 1] ∧
        grantedIds (history ++ [(r, result)]) =
          grantedIds history ++ [((grantedIds history).length : Int) + 1]) ∨
      (openSessions history ≠ [] ∧ values = [RbusError.errorInvalidState.toInt] ∧
        openSessions (history ++ [(r, result)]) = openSessions history ∧
        grantedIds (history ++ [(r, result)]) = grantedIds history) := by
  obtain ⟨hcase, hinv⟩ := h.step hstep
  have hopened := hinv.opened
  rw [h.count, grantedIds_append]
  generalize hanswer : result.answer = answer at hcase
  cases hcase with
  | granted _ hcurrent _ =>
      have hgranted : granted? (r, result) = some (s.gCounter + 1) := by
        simp only [granted?, hmethod, hanswer]
      have hpositive : s.gCounter + 1 ≠ 0 := by
        have hnonneg := h.inRange.counter_nonneg
        omega
      refine Or.inl ⟨?_, hvalues.eq_of_answer (n := 1) hanswer, ?_, ?_⟩
      · rw [h.opened, if_pos hcurrent]
      · rw [hopened, if_neg hpositive]
      · rw [hgranted]
        rfl
  | refused _ hcurrent =>
      have hgranted : granted? (r, result) = none := by
        simp only [granted?, hmethod, hanswer]
        rfl
      refine Or.inr ⟨?_, hvalues.eq_of_answer (n := 2) hanswer, ?_, ?_⟩
      · rw [h.opened, if_neg hcurrent]
        exact List.cons_ne_nil _ _
      · rw [hopened, h.opened]
      · rw [hgranted]
        exact List.append_nil _
  | reported hget =>
      exact absurd (hmethod.symm.trans hget) (by decide)
  | ended hend =>
      exact absurd (hmethod.symm.trans hend) (by decide)
  | mismatched hend =>
      exact absurd (hmethod.symm.trans hend) (by decide)
  | unreadable hend =>
      exact absurd (hmethod.symm.trans hend) (by decide)

/-- The session that is open is reported, or 0. -/
theorem SessionInv.reported
    (h : SessionInv history s)
    (hmethod : r.method = .getSessionId)
    (hstep : r.handle s = some (result, s'))
    (hvalues : AnswersValues result values) :
    values = [0, (openSessions history).headD 0] ∧
      openSessions (history ++ [(r, result)]) = openSessions history ∧
      grantedIds (history ++ [(r, result)]) = grantedIds history := by
  obtain ⟨hcase, hinv⟩ := h.step hstep
  have hopened := hinv.opened
  have hgranted : granted? (r, result) = none := by
    simp only [granted?, hmethod]
  rw [h.headD_openSessions, grantedIds_append, hgranted]
  generalize hanswer : result.answer = answer at hcase
  cases hcase with
  | reported _ =>
      exact ⟨hvalues.eq_of_answer (n := 1) hanswer, hopened.trans h.opened.symm,
        List.append_nil _⟩
  | granted hrequest =>
      exact absurd (hmethod.symm.trans hrequest) (by decide)
  | refused hrequest =>
      exact absurd (hmethod.symm.trans hrequest) (by decide)
  | ended hend =>
      exact absurd (hmethod.symm.trans hend) (by decide)
  | mismatched hend =>
      exact absurd (hmethod.symm.trans hend) (by decide)
  | unreadable hend =>
      exact absurd (hmethod.symm.trans hend) (by decide)

/-- The session that is open is ended, and no other. -/
theorem SessionInv.ending
    {id : Int}
    (h : SessionInv history s)
    (hmethod : r.method = .endSession)
    (hid : (rbusMessageGetInt32 r.request).1 = some id)
    (hstep : r.handle s = some (result, s'))
    (hvalues : AnswersValues result values) :
    ∃ code, values = [code] ∧ (code = 0 ↔ id = (openSessions history).headD 0) ∧
      openSessions (history ++ [(r, result)]) = (if code = 0 then [] else openSessions history) ∧
      grantedIds (history ++ [(r, result)]) = grantedIds history := by
  obtain ⟨hcase, hinv⟩ := h.step hstep
  have hopened := hinv.opened
  have hgranted : granted? (r, result) = none := by
    simp only [granted?, hmethod]
  rw [h.headD_openSessions, grantedIds_append, hgranted]
  generalize hanswer : result.answer = answer at hcase
  cases hcase with
  | ended _ hid' =>
      obtain rfl := Option.some.inj (hid.symm.trans hid')
      refine ⟨0, hvalues.eq_of_answer (n := 2) hanswer, by simp, ?_, List.append_nil _⟩
      rw [hopened]
      rfl
  | mismatched _ hid' hne =>
      obtain rfl := Option.some.inj (hid.symm.trans hid')
      refine ⟨_, hvalues.eq_of_answer (n := 2) hanswer, ?_, ?_, List.append_nil _⟩
      · simp [RbusError.toInt, hne]
      · rw [hopened, h.opened]
        rfl
  | unreadable _ hnone =>
      rw [hid] at hnone
      cases hnone
  | granted hrequest =>
      exact absurd (hmethod.symm.trans hrequest) (by decide)
  | refused hrequest =>
      exact absurd (hmethod.symm.trans hrequest) (by decide)
  | reported hget =>
      exact absurd (hmethod.symm.trans hget) (by decide)

end Law

section Requests

variable {U : Unpacker} {α : Type}

/-- A call of a connected client sends the values `as` to a method, and returns `a` once it is
answered with values for which `reads` says so. -/
def Invokes
    (x : CoreM (RbusMessage U) (List UInt8) α) (method : SessionMethod) (as : List (Setting U))
    (reads : List Int → α → Prop) : Prop :=
  ∀ (caller : World (RbusMessage U) (List UInt8)) (con : Connection),
    caller.gConnection = some con →
    ∃ caller₁ k q,
      x caller = .call (.sendBinaryRequest (some con.ptr) (messageBytes as method.name)
        rbusSmgrDestinationName 1000) caller₁ k ∧
      caller₁.refCount q ≠ 0 ∧
      ∀ (values : List Int) (a : α) (caller₂ : World (RbusMessage U) (List UInt8)),
        reads values a →
        values.length ≤ 2 →
        (∀ i ∈ values, -2147483648 ≤ i ∧ i < 2147483648) →
        caller₂.refCount q ≠ 0 →
        ∃ caller₃, k (.ok (messageBytes (int32Settings U values) methodResponse)) caller₂ =
          .done a caller₃

/-- The integers of a response are read one after another. -/
theorem getInt32_of_delivers
    {m : RbusMessage U} {i : Int} {values : List Int}
    (h : Delivers m ((int32Settings U (i :: values)).map Setting.value))
    (hlow : -2147483648 ≤ i)
    (hhigh : i < 2147483648) :
    ∃ m', MessageApi.getInt32 m = (some i, m') ∧
      Delivers m' ((int32Settings U values).map Setting.value) := by
  obtain ⟨hread, hrest⟩ := delivers_cons h
  obtain ⟨i', hi', hsame⟩ := Option.map_eq_some_iff.mp hread
  refine ⟨_, Prod.ext (hi'.trans (congrArg some ?_)) rfl, hrest⟩
  rw [Reading.int32.inj hsame]
  exact Int32.toInt_ofInt_of_le hlow hhigh

/-- What a client makes of the answer to a request for an id. -/
def ReadsId (values : List Int) (id : Option Int) : Prop :=
  match values with
  | [code, i] => code = 0 ∧ id = some i
  | [code] => code ≠ 0 ∧ id = none
  | _ => False

/-- The request of a client, and what it makes of the response. -/
theorem invokeSessionMethod_sends
    {method : SessionMethod} {out : Option (MessageRef (RbusMessage U))} {as : List (Setting U)}
    {caller : World (RbusMessage U) (List UInt8)} {con : Connection}
    (read : RbusMessage U → α) (failed : α)
    (hcon : caller.gConnection = some con)
    (hpasses : Passes out as caller)
    (hsize : messageSize as method.name < 2 ^ 31 - 2 ^ 15) :
    ∃ caller₁ k q,
      invokeSessionMethod method out read failed caller =
        .call (.sendBinaryRequest (some con.ptr) (messageBytes as method.name)
          rbusSmgrDestinationName 1000) caller₁ k ∧
      caller₁.refCount q ≠ 0 ∧
      ∀ (values : List Int) (caller₂ : World (RbusMessage U) (List UInt8)),
        values.length ≤ 2 → caller₂.refCount q ≠ 0 →
        ∃ res caller₃, k (.ok (messageBytes (int32Settings U values) methodResponse)) caller₂ =
            .done (read res) caller₃ ∧
          Delivers res ((int32Settings U values).map Setting.value) := by
  obtain ⟨caller₁, k, q, hsent, hlive, hback⟩ := rbusInvokeRemoteMethod_sends
    ⟨rbusSmgrDestinationName, destinationName_fits.2⟩ 1000 hcon hpasses hsize
  refine ⟨caller₁, _, q, Program.bind_of_call hsent _, hlive, fun values caller₂ hlen hlive₂ => ?_⟩
  have hfits := messageSize_int32Settings_lt (U := U) (Nat.le_succ_of_le hlen)
  obtain ⟨res, caller₃, hres, hwhole, -⟩ := hback _ caller₂ hfits hlive₂
  refine ⟨res.val, caller₃, ?_, hwhole.delivers_message hfits⟩
  rw [hres]
  rfl

theorem sessionIdOf_eq
    {response : RbusMessage U} {values : List Int} {id : Option Int}
    (hreads : ReadsId values id)
    (hdelivers : Delivers response ((int32Settings U values).map Setting.value))
    (hrange : ∀ i ∈ values, -2147483648 ≤ i ∧ i < 2147483648) :
    sessionIdOf response = id := by
  match values, hreads with
  | [code, i], ⟨hcode, hid⟩ =>
      obtain ⟨hlow, hhigh⟩ := hrange code List.mem_cons_self
      obtain ⟨m₁, hfirst, hrest⟩ := getInt32_of_delivers hdelivers hlow hhigh
      obtain ⟨hlow', hhigh'⟩ := hrange i (List.mem_cons_of_mem _ List.mem_cons_self)
      obtain ⟨m₂, hsecond, -⟩ := getInt32_of_delivers hrest hlow' hhigh'
      simp [sessionIdOf, hfirst, hsecond, hcode, hid, RbusError.toInt]
  | [code], ⟨hcode, hid⟩ =>
      obtain ⟨hlow, hhigh⟩ := hrange code List.mem_cons_self
      obtain ⟨m₁, hfirst, -⟩ := getInt32_of_delivers hdelivers hlow hhigh
      simp [sessionIdOf, hfirst, hcode, hid, RbusError.toInt]

theorem invokes_sessionId
    (method : SessionMethod) :
    Invokes (U := U) (invokeSessionMethod method none sessionIdOf none) method [] ReadsId := by
  intro caller con hcon
  obtain ⟨caller₁, k, q, hsent, hlive, hback⟩ := invokeSessionMethod_sends sessionIdOf none hcon
    (show Passes (U := U) none [] caller from rfl)
    (messageSize_request_lt method [] (Nat.zero_le 1))
  refine ⟨caller₁, k, q, hsent, hlive, fun values id caller₂ hreads hlen hrange hlive₂ => ?_⟩
  obtain ⟨res, caller₃, hres, hdelivers⟩ := hback values caller₂ hlen hlive₂
  rw [sessionIdOf_eq hreads hdelivers hrange] at hres
  exact ⟨caller₃, hres⟩

/-- What a client makes of the answer to the end of a session. -/
def ReadsEnd (values : List Int) (b : Bool) : Prop :=
  ∃ code, values = [code] ∧ b = decide (code = 0)

theorem invokes_clientEndSession
    (session : Int32) :
    Invokes (U := U) (clientEndSession session) .endSession [.int32 session] ReadsEnd := by
  intro caller con hcon
  have hsize : messageSize (U := U) [.int32 session] SessionMethod.endSession.name <
      2 ^ 31 - 2 ^ 15 :=
    messageSize_request_lt .endSession [session] (Nat.le_refl 1)
  have hlen := encodeAll_length_lt hsize
  obtain ⟨v, hset⟩ : ∃ v, rbusMessageSets (rbusMessageInit : RbusMessage U) [.int32 session] =
      some v :=
    ⟨_, rbusMessageSets_eq _ rfl (fits_of_encodeAll (by omega))⟩
  obtain ⟨caller₀, hnew, hcon₀, hlive₀⟩ : ∃ caller₀ : World (RbusMessage U) (List UInt8),
      newMessage (MessageApi.init (W := List UInt8)) caller =
        .done ⟨caller.nextPtr, rbusMessageInit⟩ caller₀ ∧
      caller₀.gConnection = some con ∧ caller₀.refCount caller.nextPtr ≠ 0 :=
    ⟨_, rfl, hcon, by simp⟩
  obtain ⟨v', hset', hv'⟩ := rbusMessageSets_cons hset
  obtain rfl : v' = v := Option.some.inj hv'
  obtain ⟨caller₁, k, q, hsent, hlive, hback⟩ := invokeSessionMethod_sends sessionEnded false hcon₀
    (show Passes (some ⟨caller.nextPtr, v'⟩) [.int32 session] caller₀ from ⟨hset, hlive₀⟩) hsize
  refine ⟨caller₁, k, q, ?_, hlive, ?_⟩
  · rw [clientEndSession, Program.bind_of_done hnew, setInt32Ref_of_set hset', pure_bind]
    exact hsent
  rintro values _ caller₂ ⟨code, rfl, rfl⟩ hshort hrange hlive₂
  obtain ⟨res, caller₃, hres, hdelivers⟩ := hback [code] caller₂ hshort hlive₂
  obtain ⟨hlow, hhigh⟩ := hrange code List.mem_cons_self
  obtain ⟨m, hread, -⟩ := getInt32_of_delivers hdelivers hlow hhigh
  have hended : sessionEnded res = decide (code = 0) := by
    simp [sessionEnded, hread, RbusError.toInt]
  rw [hended] at hres
  exact ⟨caller₃, hres⟩

end Requests

section Calls

variable {U : Unpacker} {α : Type} {w : World (RbusMessage U) (List UInt8)}
variable {p : Ptr} {name : CString}
variable {toDebugString : List UInt8 → RbusMessage U → RbusMessage U × DebugText}

/-- Whenever a connected client makes a call, it sends a request.  The session manager handles the
request, if that is possible; and when it has done so, it has sent one response to it, with which
the call returns, with such a result. -/
def AnsweredWith
    (toDebugString : List UInt8 → RbusMessage U → RbusMessage U × DebugText)
    (x : CoreM (RbusMessage U) (List UInt8) α) (p : Ptr) (w : World (RbusMessage U) (List UInt8))
    (possible : Prop) (Q : α → World (RbusMessage U) (List UInt8) → Prop) : Prop :=
  ∀ (caller : World (RbusMessage U) (List UInt8)) (con : Connection),
    caller.gConnection = some con →
    ∃ data caller₁ k,
      x caller = .call (.sendBinaryRequest (some con.ptr) data rbusSmgrDestinationName 1000)
        caller₁ k ∧
      ∀ (rounds : Nat) (hdr : RtMessageHeader), hdr.request = true →
        (possible → Program.Completes (answering toDebugString)
          (onMessage (M := RbusMessage U) rounds hdr data p) w) ∧
        ∀ w', Program.Returns (answering toDebugString)
            (onMessage (M := RbusMessage U) rounds hdr data p) w () w' →
          ∃ reply a, responses w'.log = responses w.log ++ [(hdr, reply)] ∧ Q a w' ∧
            -- the client keeps what it has while it waits
            ∀ caller₂ : World (RbusMessage U) (List UInt8),
              (∀ q, caller₁.refCount q ≠ 0 → caller₂.refCount q ≠ 0) →
              ∃ caller₃, k (.ok reply) caller₂ = .done a caller₃

/-- A call is answered as its request is handled. -/
theorem answeredWith_of_invokes
    {x : CoreM (RbusMessage U) (List UInt8) α} {method : SessionMethod} {as : List (Setting U)}
    {reads : List Int → α → Prop} {possible : Prop}
    {Q : α → World (RbusMessage U) (List UInt8) → Prop}
    {history : List (SessionRequest (RbusMessage U) × HandlerResult (RbusMessage U))}
    {s : SessionManager}
    (h : InService w)
    (hlistens : ListensAt name p w)
    (hx : Invokes x method as reads)
    (hsize : messageSize as method.name < 2 ^ 31 - 2 ^ 15)
    (hbefore : SessionManager.after (sessionRequests w.log) = some (history, s))
    (hcounter : possible → method = .requestSessionId → s.gCounter ≠ 2147483647)
    (hQ : ∀ (w' : World (RbusMessage U) (List UInt8)) (r : SessionRequest (RbusMessage U))
      (result : HandlerResult (RbusMessage U)) (s' : SessionManager) (values : List Int),
      r.method = method →
      Delivers r.request (as.map Setting.value) →
      r.handle s = some (result, s') →
      SessionManager.after (sessionRequests w'.log) = some (history ++ [(r, result)], s') →
      AnswersValues result values →
      ∃ a, reads values a ∧ Q a w') :
    AnsweredWith toDebugString x p w possible Q := by
  intro caller con hcon
  obtain ⟨caller₁, k, q, hsent, hlive, hback⟩ := hx caller con hcon
  refine ⟨_, caller₁, k, hsent, fun rounds hdr hrequest => ⟨fun hpossible => ?_, ?_⟩⟩
  · exact completes_onMessage h hlistens hsize hrequest hbefore (hcounter hpossible) rounds
  intro w' hrun
  have hhandled := Program.returns_of_sat (C := sessionProcess toDebugString)
    (fun _ _ _ _ henv => henv) (sat_onMessage_request h hlistens hsize hrequest rounds) hrun
  obtain ⟨hmethod, hdelivers, hbefore', hhandle, hafter, hvalues, hresponses⟩ := hhandled
  rw [sessionRequests_flowCalls] at hbefore' hafter
  rw [responses_flowCalls, responses_flowCalls] at hresponses
  obtain ⟨rfl, rfl⟩ := Prod.mk.inj (Option.some.inj (hbefore.symm.trans hbefore'))
  obtain ⟨a, hreads, ha⟩ := hQ w' _ _ _ _ hmethod hdelivers hhandle hafter hvalues
  refine ⟨_, a, hresponses, ha, fun caller₂ hkeeps => ?_⟩
  exact hback _ a caller₂ hreads hvalues.length_le hvalues.range (hkeeps q hlive)

/-- The integer of a request. -/
theorem getInt32_request
    {m : RbusMessage U} {session : Int32}
    (h : Delivers m ([Setting.int32 (U := U) session].map Setting.value)) :
    (rbusMessageGetInt32 m).1 = some session.toInt := by
  obtain ⟨hread, -⟩ := delivers_cons h
  obtain ⟨i, hi, hsame⟩ := Option.map_eq_some_iff.mp hread
  rw [hi, Reading.int32.inj hsame]

/--
The session manager has been started, and any messages have arrived at it and been handled.
Those that are for none of its methods get to `callback`, which prints their debug text; a text
that leaves its buffer, or is not terminated in it, is not handled to the end.  At most one of the
sessions that have been granted is open, and their ids increase.  A request of a client that
arrives next is handled, as long as fewer than `2^31 - 1` sessions have been granted or no session
is requested, and answered once.  With the answer `create_session` returns the next number as an
id if no session is open, and otherwise none; `print_current_session_id` returns the id of the
session that is open, or 0; and `end_session` is successful exactly with what
`print_current_session_id` would return, and then no session is open.
-/
theorem session_calls_exclusive
    (print : Obj → List UInt8)
    (h : ServiceRun (rbusMessageToDebugString print) w)
    (hlistens : ListensAt name p w) :
    ∃ sessions granted, SessionsAt w sessions granted ∧ sessions.length ≤ 1 ∧
      granted.Pairwise (· < ·) ∧
      AnsweredWith (rbusMessageToDebugString print) createSession p w
        (granted.length < 2147483647) (fun id w' =>
          if sessions = [] then
            id = some ((granted.length : Int) + 1) ∧
              SessionsAt w' [(granted.length : Int) + 1] (granted ++ [(granted.length : Int) + 1])
          else id = none ∧ SessionsAt w' sessions granted) ∧
      AnsweredWith (rbusMessageToDebugString print) printCurrentSessionId p w True (fun id w' =>
        id = some (sessions.headD 0) ∧ SessionsAt w' sessions granted) ∧
      ∀ session : Int32,
        AnsweredWith (rbusMessageToDebugString print) (clientEndSession session) p w True
          fun b w' =>
            (b = true ↔ session.toInt = sessions.headD 0) ∧
              SessionsAt w' (if b = true then [] else sessions) granted := by
  have hservice := h.inService
  obtain ⟨⟨history, s⟩, hafter⟩ := Option.isSome_iff_exists.mp hservice.answered
  have hinv := (SessionManager.after_run hafter).1.inv
  refine ⟨openSessions history, grantedIds history, ⟨history, s, hafter, rfl, rfl⟩, ?_,
    hinv.increasing, ?_, ?_, fun session => ?_⟩
  · rw [hinv.opened]
    split <;> simp
  · refine answeredWith_of_invokes hservice hlistens (invokes_sessionId .requestSessionId)
      (messageSize_request_lt _ [] (Nat.zero_le 1)) hafter (fun hfew _ => ?_) ?_
    · have hcount := hinv.count
      omega
    intro w' r result s' values hmethod _ hhandle hafter' hvalues
    rcases hinv.requested hmethod hhandle hvalues with
      ⟨hnone, rfl, hopen, hids⟩ | ⟨hsome, rfl, hopen, hids⟩
    · refine ⟨some _, ⟨rfl, rfl⟩, ?_⟩
      rw [if_pos hnone]
      exact ⟨rfl, _, s', hafter', hopen, hids⟩
    · refine ⟨none, ⟨by decide, rfl⟩, ?_⟩
      rw [if_neg hsome]
      exact ⟨rfl, _, s', hafter', hopen, hids⟩
  · refine answeredWith_of_invokes hservice hlistens (invokes_sessionId .getSessionId)
      (messageSize_request_lt _ [] (Nat.zero_le 1)) hafter (fun _ hmethod => nomatch hmethod) ?_
    intro w' r result s' values hmethod _ hhandle hafter' hvalues
    obtain ⟨rfl, hopen, hids⟩ := hinv.reported hmethod hhandle hvalues
    exact ⟨some _, ⟨rfl, rfl⟩, rfl, _, s', hafter', hopen, hids⟩
  · refine answeredWith_of_invokes hservice hlistens (invokes_clientEndSession session)
      (messageSize_request_lt _ [session] (Nat.le_refl 1)) hafter (fun _ hmethod => nomatch hmethod)
      ?_
    intro w' r result s' values hmethod hdelivers hhandle hafter' hvalues
    obtain ⟨code, rfl, hcode, hopen, hids⟩ :=
      hinv.ending hmethod (getInt32_request hdelivers) hhandle hvalues
    refine ⟨decide (code = 0), ⟨code, rfl, rfl⟩, ?_, _, s', hafter', ?_, hids⟩
    · rw [decide_eq_true_iff, hcode]
    · rw [hopen]
      simp only [decide_eq_true_eq]

end Calls

section Run

/-- A router that accepts everything. -/
def launchingAnswer :
    (e : Call Bytes (List UInt8)) → World Bytes (List UInt8) →
      Option (e.Answer × World Bytes (List UInt8))
  | .readRouterConfig, w => some (none, w)
  | .connectionCreate .., w => some (.ok (sampleConnection 9).returnAddress, w)
  | .addListener .., w => some (.rtOk, w)
  | _, _ => none

theorem answering_of_launchingAnswer
    (e : Call Bytes (List UInt8)) (w : World Bytes (List UInt8)) (a : e.Answer)
    (w' : World Bytes (List UInt8))
    (h : launchingAnswer e w = some (a, w')) :
    answering (rbusMessageToDebugString samplePrint) e w a w' := by
  cases e with
  | readRouterConfig =>
      cases h
      exact ⟨rfl, trivial⟩
  | connectionCreate =>
      cases h
      refine ⟨rfl, ?_⟩
      rintro ⟨⟩
  | addListener =>
      cases h
      exact ⟨rfl, trivial⟩
  | _ =>
      cases h

theorem sampleService_started :
    ((sessionManagerMain 1 (World.initial .empty .empty : World Bytes (List UInt8))).run
        launchingAnswer).map (fun r =>
      (r.2.gConnection.map Connection.listeners, (sessionRequests r.2.log).isEmpty)) =
      some (some [(rbusSmgrDestinationName, .onMessage 2)], true) := by
  decide +kernel

/-- The first client to ask for a session gets the number 1. -/
theorem session_calls_exclusive_sample :
    ∃ (w w' caller₁ caller₂ : World Bytes (List UInt8)) (data reply : List UInt8)
      (k : Except RtError (List UInt8) → CoreM Bytes (List UInt8) (Option Int)),
      createSession sampleCaller =
          .call (.sendBinaryRequest (some 9) data rbusSmgrDestinationName 1000) caller₁ k ∧
        Program.Returns (answering (rbusMessageToDebugString samplePrint))
          (onMessage (M := Bytes) 0 (sampleHeader 1) data 2) w () w' ∧
        responses w'.log = responses w.log ++ [(sampleHeader 1, reply)] ∧
        k (.ok reply) caller₁ = .done (some 1) caller₂ ∧ SessionsAt w' [1] [1] := by
  obtain ⟨⟨_, w⟩, hmain, hstarted⟩ := Option.map_eq_some_iff.mp sampleService_started
  obtain ⟨hlisteners, hnone⟩ := Prod.mk.inj hstarted
  obtain ⟨c, hc, hlistener⟩ := Option.map_eq_some_iff.mp hlisteners
  have hlistens : ListensAt rbusSmgrDestinationName 2 w := by
    refine ⟨c, hc, ?_⟩
    rw [hlistener]
    exact List.mem_singleton_self _
  obtain ⟨sessions, granted, ⟨history, s, hafter, hopen, hids⟩, -, -, hcreate, -⟩ :=
    session_calls_exclusive samplePrint
      (.started (Program.returns_of_run answering_of_launchingAnswer hmain)) hlistens
  rw [List.isEmpty_iff.mp hnone] at hafter
  obtain ⟨rfl, rfl⟩ := Prod.mk.inj (Option.some.inj hafter)
  obtain rfl : [] = sessions := hopen
  obtain rfl : [] = granted := hids
  obtain ⟨data, caller₁, k, hsent, hhandled⟩ := hcreate sampleCaller (sampleConnection 9) rfl
  obtain ⟨hpossible, hanswered⟩ := hhandled 0 (sampleHeader 1) rfl
  obtain ⟨_, w', hreturns⟩ := (hpossible (by decide)).returns
  obtain ⟨reply, _, hresponses, ⟨rfl, hsessions⟩, hback⟩ := hanswered w' hreturns
  obtain ⟨caller₂, hdone⟩ := hback caller₁ fun _ hlive => hlive
  exact ⟨w, w', caller₁, caller₂, data, reply, k, hsent, hreturns, hresponses, hdone, hsessions⟩

end Run

end RbusCore
