import RbusCore.MetaSection
import RbusCore.World

/-!
# The session manager

The process of `session_manager.c`: it keeps a counter and the id of the current session, and
answers three methods.  The id 0 stands for no session.

**Results.**
* `SessionRequest.handle_cases`: what the three methods answer and change.
* `SessionRun.inv`: how the counter and the current id belong to what has been granted and
  ended.
* `sessions_exclusive_and_fresh`: at most one session is open at a time, and no id is granted
  twice.
-/

namespace RbusCore

open CStrings MessagePack

section Methods

variable {M W : Type} [MessageApi M W]

/-- `g_counter` and `g_current_session_id`. -/
structure SessionManager where
  gCounter : Int
  gCurrentSessionId : Int
deriving DecidableEq

/-- The process before the first request. -/
def SessionManager.initial : SessionManager := { gCounter := 0, gCurrentSessionId := 0 }

/-- `rbusMessage_Init` of the response, and `rbusMessage_SetInt32` for each integer. -/
def int32Response (values : List Int) : Option M :=
  values.foldlM (fun m i => MessageApi.setInt32 m i) MessageApi.init

/-- `request_session_id`.  There is no result where the counter, an `int`, overflows. -/
def requestSessionId (s : SessionManager) : Option (HandlerResult M × SessionManager) :=
  if s.gCurrentSessionId = 0 then
    if s.gCounter = 2147483647 then none
    else do
      let id := s.gCounter + 1
      let response ← int32Response [RbusError.success.toInt, id]
      pure (⟨.success, some response⟩, { gCounter := id, gCurrentSessionId := id })
  else do
    let response ← int32Response [RbusError.errorInvalidState.toInt]
    pure (⟨.success, some response⟩, s)

/-- `get_session_id`. -/
def getSessionId (s : SessionManager) : Option (HandlerResult M × SessionManager) := do
  let response ← int32Response [RbusError.success.toInt, s.gCurrentSessionId]
  pure (⟨.success, some response⟩, s)

/-- `end_session`. -/
def endSession (request : M) (s : SessionManager) : Option (HandlerResult M × SessionManager) :=
  match (MessageApi.getInt32 request).1 with
  | some sessionid =>
      if sessionid = s.gCurrentSessionId then do
        let response ← int32Response [RbusError.success.toInt]
        pure (⟨.success, some response⟩, { s with gCurrentSessionId := 0 })
      else do
        let response ← int32Response [RbusError.errorInvalidState.toInt]
        pure (⟨.success, some response⟩, s)
  | none => do
      let response ← int32Response [RbusError.errorInvalidParam.toInt]
      pure (⟨.success, some response⟩, s)

/-- The methods of the session manager. -/
inductive SessionMethod where
  | requestSessionId
  | getSessionId
  | endSession
deriving DecidableEq

/-- A call of a method, by the client named in the header. -/
structure SessionRequest (M : Type) where
  hdr : RtMessageHeader
  method : SessionMethod
  request : M

/-- The callback of the method: neither looks at who calls. -/
def SessionRequest.handle (r : SessionRequest M) (s : SessionManager) :
    Option (HandlerResult M × SessionManager) :=
  match r.method with
  | .requestSessionId => RbusCore.requestSessionId s
  | .getSessionId => RbusCore.getSessionId s
  | .endSession => RbusCore.endSession r.request s

/-- Runs of the process: the requests that were handled, each with its result. -/
inductive SessionRun : List (SessionRequest M × HandlerResult M) → SessionManager → Prop
  | start :
      SessionRun [] .initial
  | step
      {history : List (SessionRequest M × HandlerResult M)} {s s' : SessionManager}
      {r : SessionRequest M} {result : HandlerResult M}
      (h : SessionRun history s)
      (hstep : r.handle s = some (result, s')) :
      SessionRun (history ++ [(r, result)]) s'

end Methods

section Observation

variable {M W : Type} [MessageApi M W]

/-- So many integers are read from a message. -/
def readInt32s : Nat → M → List (Option Int)
  | 0, _ => []
  | n + 1, m => (MessageApi.getInt32 m).1 :: readInt32s n (MessageApi.getInt32 m).2

/-- What a client reads from a response: none of the methods answers more than two integers. -/
def HandlerResult.answer (result : HandlerResult M) : List (Option Int) :=
  match result.response with
  | some response => readInt32s 3 response
  | none => []

/-- The id a request was granted. -/
def granted? (entry : SessionRequest M × HandlerResult M) : Option Int :=
  match entry.1.method, entry.2.answer with
  | .requestSessionId, [some 0, some id, none] => some id
  | _, _ => none

/-- The id whose end was successful. -/
def ended? (entry : SessionRequest M × HandlerResult M) : Option Int :=
  match entry.1.method, entry.2.answer with
  | .endSession, [some 0, none, none] => (MessageApi.getInt32 entry.1.request).1
  | _, _ => none

/-- The ids that were granted, in order. -/
def grantedIds (history : List (SessionRequest M × HandlerResult M)) : List Int :=
  history.filterMap granted?

/-- What a request does to the sessions that are open. -/
def openSession (sessions : List Int) (entry : SessionRequest M × HandlerResult M) : List Int :=
  sessions.filter (fun id => ended? entry ≠ some id) ++ (granted? entry).toList

/-- The sessions that were granted and have not been ended since. -/
def openSessions (history : List (SessionRequest M × HandlerResult M)) : List Int :=
  history.foldl openSession []

theorem grantedIds_append
    (history : List (SessionRequest M × HandlerResult M))
    (entry : SessionRequest M × HandlerResult M) :
    grantedIds (history ++ [entry]) = grantedIds history ++ (granted? entry).toList := by
  rw [grantedIds, List.filterMap_append]
  cases h : granted? entry with
  | none =>
      simp [grantedIds, h]
  | some id =>
      simp [grantedIds, h]

theorem openSessions_append
    (history : List (SessionRequest M × HandlerResult M))
    (entry : SessionRequest M × HandlerResult M) :
    openSessions (history ++ [entry]) = openSession (openSessions history) entry := by
  rw [openSessions, List.foldl_append]
  rfl

end Observation

section Answers

variable {U : Unpacker}

/-- Integers in a message are read one after another, and then no more. -/
theorem readInt32s_of_unread
    {n : Nat} {m : RbusMessage U} {is : List Int32}
    (h : Unread m (is.map Value.int32))
    (hsize : m.sbuf.length < 2147483648)
    (hn : is.length ≤ n) :
    readInt32s n m =
      is.map (fun i : Int32 => some i.toInt) ++ List.replicate (n - is.length) none := by
  induction n generalizing m is with
  | zero =>
      obtain rfl := List.length_eq_zero_iff.mp (Nat.le_zero.mp hn)
      rfl
  | succ n ih =>
      cases is with
      | nil =>
          obtain ⟨hnone, hsame⟩ := Prod.mk.inj (rbusMessageGet_atEnd .int32 h.nil_atEnd)
          have hread : (rbusMessageGetInt32 m).1 = none := Option.map_eq_none_iff.mp hnone
          have hstay : (rbusMessageGetInt32 m).2 = m := hsame
          have hrest := ih h hsize (Nat.zero_le n)
          rw [readInt32s, messageApi_getInt32, hread, hstay, hrest]
          rfl
      | cons i is =>
          have hfit := h.cons_size
          obtain ⟨hsome, hmoved⟩ := Prod.mk.inj (rbusMessageGet_value (Value.fits_of_length _ (by omega)) h.rest)
          obtain ⟨i', hread, hi⟩ := Option.map_eq_some_iff.mp hsome
          obtain rfl : i' = i.toInt := Reading.int32.inj hi
          have hmoved : (rbusMessageGetInt32 m).2 =
              { m with readOffset := m.readOffset + (Value.int32 i).encode.length } := hmoved
          have hrest := ih h.next hsize (Nat.le_of_succ_le_succ hn)
          rw [readInt32s, messageApi_getInt32, hread, hmoved, hrest, List.map_cons,
            List.length_cons, Nat.add_sub_add_right]
          rfl

theorem encodeAll_int32s_length_le
    (is : List Int32) :
    (encodeAll (is.map Value.int32)).length ≤ 9 * is.length := by
  induction is with
  | nil =>
      exact Nat.le_refl 0
  | cons i is ih =>
      have hone : (Value.int32 i).encode.length ≤ 9 := packInt_length_le i.toInt
      rw [List.map_cons, encodeAll_cons, List.length_append, List.length_cons]
      omega

/-- A response of integers is written by the typed setter. -/
theorem int32Response_eq
    {values : List Int}
    (hrange : ∀ i ∈ values, -2147483648 ≤ i ∧ i < 2147483648) :
    (int32Response values : Option (RbusMessage U)) =
      rbusMessageSets rbusMessageInit (values.map fun i => Setting.int32 (Int32.ofInt i)) := by
  have hset (m : RbusMessage U) (i : Int) (hi : i ∈ values) :
      rbusMessageSet m (.int32 (Int32.ofInt i)) = rbusMessageSetInt32 m i := by
    obtain ⟨hlow, hhigh⟩ := hrange i hi
    rw [rbusMessageSet, Int32.toInt_ofInt_of_le hlow hhigh]
  have hfold (m : RbusMessage U) :
      values.foldlM (fun m i => rbusMessageSetInt32 m i) m =
        (values.map fun i => Setting.int32 (Int32.ofInt i)).foldlM rbusMessageSet m := by
    clear hrange
    induction values generalizing m with
    | nil =>
        rfl
    | cons i values ih =>
        rw [List.map_cons, List.foldlM_cons, List.foldlM_cons, hset m i List.mem_cons_self]
        refine Option.bind_congr fun m' _ => ?_
        exact ih (fun m j hj => hset m j (List.mem_cons_of_mem _ hj)) m'
  exact hfold rbusMessageInit

/-- Integers of 32 bits are answered as they are. -/
theorem int32Response_answer
    {values : List Int}
    (hrange : ∀ i ∈ values, -2147483648 ≤ i ∧ i < 2147483648)
    (hlen : values.length ≤ 3) :
    ∃ response : RbusMessage U, int32Response values = some response ∧
      (HandlerResult.mk .success (some response)).answer =
        values.map some ++ List.replicate (3 - values.length) none := by
  obtain ⟨is, his⟩ : ∃ is : List Int32, is = values.map Int32.ofInt := ⟨_, rfl⟩
  have hcount : is.length = values.length := by
    rw [his, List.length_map]
  have hbytes := encodeAll_int32s_length_le is
  have hvalues : (values.map fun i => Setting.int32 (U := U) (Int32.ofInt i)).map
      Setting.value = is.map Value.int32 := by
    rw [his, List.map_map, List.map_map]
    rfl
  have hback : is.map (fun i : Int32 => some i.toInt) = values.map some := by
    rw [his, List.map_map]
    refine List.map_congr_left fun i hi => congrArg some ?_
    obtain ⟨hlow, hhigh⟩ := hrange i hi
    exact Int32.toInt_ofInt_of_le hlow hhigh
  have hsets := rbusMessageSets_eq (m := (rbusMessageInit : RbusMessage U))
    (values.map fun i => Setting.int32 (Int32.ofInt i)) rfl
    (fits_of_encodeAll (by rw [hvalues]; omega))
  rw [← int32Response_eq hrange, hvalues] at hsets
  refine ⟨_, hsets, ?_⟩
  have hunread : Unread (U := U)
      { (rbusMessageInit : RbusMessage U) with sbuf := encodeAll (is.map Value.int32) }
      (is.map Value.int32) := ⟨rfl, Nat.zero_le _⟩
  have hsmall : (encodeAll (is.map Value.int32)).length < 2147483648 := by omega
  have hread := readInt32s_of_unread (n := 3) hunread hsmall (by omega)
  rw [hback, hcount] at hread
  exact hread

end Answers

section Invariant

variable {U : Unpacker}

/-- What the methods answer, and what becomes of the counter and the current id. -/
inductive SessionManagerStep (s : SessionManager) (r : SessionRequest (RbusMessage U)) :
    List (Option Int) → SessionManager → Prop
  | granted
      (hmethod : r.method = .requestSessionId)
      (hcurrent : s.gCurrentSessionId = 0)
      (hmax : s.gCounter ≠ 2147483647) :
      SessionManagerStep s r [some 0, some (s.gCounter + 1), none]
        { gCounter := s.gCounter + 1, gCurrentSessionId := s.gCounter + 1 }
  | refused
      (hmethod : r.method = .requestSessionId)
      (hcurrent : s.gCurrentSessionId ≠ 0) :
      SessionManagerStep s r [some RbusError.errorInvalidState.toInt, none, none] s
  | reported
      (hmethod : r.method = .getSessionId) :
      SessionManagerStep s r [some 0, some s.gCurrentSessionId, none] s
  | ended
      (hmethod : r.method = .endSession)
      (hid : (rbusMessageGetInt32 r.request).1 = some s.gCurrentSessionId) :
      SessionManagerStep s r [some 0, none, none] { s with gCurrentSessionId := 0 }
  | mismatched {id : Int}
      (hmethod : r.method = .endSession)
      (hid : (rbusMessageGetInt32 r.request).1 = some id)
      (hne : id ≠ s.gCurrentSessionId) :
      SessionManagerStep s r [some RbusError.errorInvalidState.toInt, none, none] s
  | unreadable
      (hmethod : r.method = .endSession)
      (hid : (rbusMessageGetInt32 r.request).1 = none) :
      SessionManagerStep s r [some RbusError.errorInvalidParam.toInt, none, none] s

/-- The counter has not gone below zero, and the current id is none or one that was counted. -/
structure SessionManager.InRange (s : SessionManager) : Prop where
  counter_nonneg : 0 ≤ s.gCounter
  counter_le : s.gCounter ≤ 2147483647
  current : s.gCurrentSessionId = 0 ∨
    1 ≤ s.gCurrentSessionId ∧ s.gCurrentSessionId ≤ s.gCounter

/-- A result code alone is answered. -/
theorem codeResponse_answer
    (code : RbusError)
    (hcode : code = .success ∨ code = .errorInvalidState ∨ code = .errorInvalidParam) :
    ∃ response : RbusMessage U, int32Response [code.toInt] = some response ∧
      (HandlerResult.mk .success (some response)).answer = [some code.toInt, none, none] := by
  refine int32Response_answer ?_ (by simp)
  rcases hcode with rfl | rfl | rfl <;> simp [RbusError.toInt]

/-- A session id is answered behind the result code. -/
theorem idResponse_answer
    (id : Int)
    (hlow : 0 ≤ id)
    (hhigh : id ≤ 2147483647) :
    ∃ response : RbusMessage U, int32Response [RbusError.success.toInt, id] = some response ∧
      (HandlerResult.mk .success (some response)).answer = [some 0, some id, none] := by
  refine int32Response_answer ?_ (by simp)
  simp [RbusError.toInt]
  omega

/-- Every request is answered, except the one that would overflow the counter. -/
theorem SessionRequest.handle_cases
    {s : SessionManager}
    (hs : s.InRange)
    (r : SessionRequest (RbusMessage U)) :
    (r.method = .requestSessionId ∧ r.handle s = none ∧ s.gCounter = 2147483647) ∨
      ∃ result s', r.handle s = some (result, s') ∧ SessionManagerStep s r result.answer s' := by
  obtain ⟨hnonneg, hle, hcurrent⟩ := hs
  obtain ⟨ok, hok, hokAnswer⟩ := codeResponse_answer (U := U) .success (by simp)
  obtain ⟨state, hstate, hstateAnswer⟩ :=
    codeResponse_answer (U := U) .errorInvalidState (by simp)
  obtain ⟨param, hparam, hparamAnswer⟩ :=
    codeResponse_answer (U := U) .errorInvalidParam (by simp)
  cases hmethod : r.method with
  | requestSessionId =>
      rw [SessionRequest.handle, hmethod]
      simp only [requestSessionId]
      by_cases hzero : s.gCurrentSessionId = 0
      · rw [if_pos hzero]
        by_cases hmax : s.gCounter = 2147483647
        · exact Or.inl ⟨trivial, if_pos hmax, hmax⟩
        · obtain ⟨response, hresponse, hanswer⟩ :=
            idResponse_answer (U := U) (s.gCounter + 1) (by omega) (by omega)
          rw [if_neg hmax, hresponse]
          refine Or.inr ⟨_, _, rfl, ?_⟩
          rw [hanswer]
          exact .granted hmethod hzero hmax
      · rw [if_neg hzero, hstate]
        refine Or.inr ⟨_, _, rfl, ?_⟩
        rw [hstateAnswer]
        exact .refused hmethod hzero
  | getSessionId =>
      obtain ⟨response, hresponse, hanswer⟩ :=
        idResponse_answer (U := U) s.gCurrentSessionId (by omega) (by omega)
      rw [SessionRequest.handle, hmethod]
      simp only [getSessionId, hresponse]
      refine Or.inr ⟨_, _, rfl, ?_⟩
      rw [hanswer]
      exact .reported hmethod
  | endSession =>
      rw [SessionRequest.handle, hmethod]
      simp only [endSession, messageApi_getInt32]
      cases hid : (rbusMessageGetInt32 r.request).1 with
      | none =>
          dsimp only
          rw [hparam]
          refine Or.inr ⟨_, _, rfl, ?_⟩
          rw [hparamAnswer]
          exact .unreadable hmethod hid
      | some id =>
          dsimp only
          by_cases hsame : id = s.gCurrentSessionId
          · rw [if_pos hsame, hok]
            refine Or.inr ⟨_, _, rfl, ?_⟩
            rw [hokAnswer]
            exact .ended hmethod (hid.trans (congrArg some hsame))
          · rw [if_neg hsame, hstate]
            refine Or.inr ⟨_, _, rfl, ?_⟩
            rw [hstateAnswer]
            exact .mismatched hmethod hid hsame

/-- What has been granted and ended belongs to the counter and the current id. -/
structure SessionInv
    (history : List (SessionRequest (RbusMessage U) × HandlerResult (RbusMessage U)))
    (s : SessionManager) : Prop where
  inRange : s.InRange
  count : (grantedIds history).length = s.gCounter
  bounds : ∀ id ∈ grantedIds history, 1 ≤ id ∧ id ≤ s.gCounter
  increasing : (grantedIds history).Pairwise (· < ·)
  opened : openSessions history = if s.gCurrentSessionId = 0 then [] else [s.gCurrentSessionId]

variable {history : List (SessionRequest (RbusMessage U) × HandlerResult (RbusMessage U))}
variable {s s' : SessionManager} {r : SessionRequest (RbusMessage U)}
variable {result : HandlerResult (RbusMessage U)}

theorem sessionInv_nil :
    SessionInv (U := U) [] .initial where
  inRange := ⟨by decide, by decide, Or.inl rfl⟩
  count := rfl
  bounds := by simp [grantedIds]
  increasing := by simp [grantedIds]
  opened := rfl

/-- A request that grants and ends nothing. -/
theorem SessionInv.idle
    (h : SessionInv history s)
    (hgranted : granted? (r, result) = none)
    (hended : ended? (r, result) = none) :
    SessionInv (history ++ [(r, result)]) s := by
  have hids : grantedIds (history ++ [(r, result)]) = grantedIds history := by
    simp [grantedIds_append, hgranted]
  have hopen : openSessions (history ++ [(r, result)]) = openSessions history := by
    simp [openSessions_append, openSession, hgranted, hended]
  exact ⟨h.inRange, hids ▸ h.count, hids ▸ h.bounds, hids ▸ h.increasing, hopen.trans h.opened⟩

/-- A session is granted under the next number. -/
theorem SessionInv.grant
    (h : SessionInv history s)
    (hcurrent : s.gCurrentSessionId = 0)
    (hmax : s.gCounter ≠ 2147483647)
    (hgranted : granted? (r, result) = some (s.gCounter + 1)) :
    SessionInv (history ++ [(r, result)])
      { gCounter := s.gCounter + 1, gCurrentSessionId := s.gCounter + 1 } := by
  have hnonneg := h.inRange.counter_nonneg
  have hle := h.inRange.counter_le
  have hids : grantedIds (history ++ [(r, result)]) = grantedIds history ++ [s.gCounter + 1] := by
    simp [grantedIds_append, hgranted]
  have hopen : openSessions (history ++ [(r, result)]) = [s.gCounter + 1] := by
    rw [openSessions_append, h.opened, if_pos hcurrent, openSession, hgranted]
    rfl
  have hpositive : s.gCounter + 1 ≠ 0 := by omega
  refine ⟨⟨by dsimp only; omega, by dsimp only; omega,
    Or.inr ⟨by dsimp only; omega, Int.le_refl _⟩⟩, ?_, ?_, ?_, ?_⟩
  · simp [hids, h.count]
  · intro id hid
    rw [hids] at hid
    rcases List.mem_append.mp hid with hold | hnew
    · have hbounds := h.bounds id hold
      dsimp only
      omega
    · obtain rfl := List.mem_singleton.mp hnew
      dsimp only
      omega
  · rw [hids, List.pairwise_append]
    refine ⟨h.increasing, List.pairwise_singleton _ _, fun id hid id' hid' => ?_⟩
    obtain rfl := List.mem_singleton.mp hid'
    have hbounds := h.bounds id hid
    omega
  · rw [hopen, if_neg hpositive]

/-- The current session is ended. -/
theorem SessionInv.ends
    (h : SessionInv history s)
    (hgranted : granted? (r, result) = none)
    (hended : ended? (r, result) = some s.gCurrentSessionId) :
    SessionInv (history ++ [(r, result)]) { s with gCurrentSessionId := 0 } := by
  have hids : grantedIds (history ++ [(r, result)]) = grantedIds history := by
    simp [grantedIds_append, hgranted]
  have hopen : openSessions (history ++ [(r, result)]) = [] := by
    rw [openSessions_append, h.opened, openSession, hgranted, hended]
    split <;> simp
  exact ⟨⟨h.inRange.counter_nonneg, h.inRange.counter_le, Or.inl rfl⟩, hids ▸ h.count,
    hids ▸ h.bounds, hids ▸ h.increasing, hopen⟩

/-- One request. -/
theorem SessionInv.step
    (h : SessionInv history s)
    (hstep : r.handle s = some (result, s')) :
    SessionManagerStep s r result.answer s' ∧ SessionInv (history ++ [(r, result)]) s' := by
  rcases SessionRequest.handle_cases h.inRange r with ⟨-, hnone, -⟩ | ⟨result', s'', hsome, hcase⟩
  · rw [hnone] at hstep
    cases hstep
  · rw [hsome] at hstep
    obtain ⟨rfl, rfl⟩ := Prod.mk.inj (Option.some.inj hstep)
    refine ⟨hcase, ?_⟩
    generalize hanswer : result'.answer = answer at hcase
    cases hcase with
    | granted hmethod hcurrent hmax =>
        exact h.grant hcurrent hmax (by simp only [granted?, hmethod, hanswer])
    | refused hmethod hcurrent =>
        exact h.idle (by simp only [granted?, hmethod, hanswer]; rfl) (by simp only [ended?, hmethod])
    | reported hmethod =>
        exact h.idle (by simp only [granted?, hmethod]) (by simp only [ended?, hmethod])
    | ended hmethod hid =>
        exact h.ends (by simp only [granted?, hmethod])
          (by simpa only [ended?, hmethod, hanswer, messageApi_getInt32] using hid)
    | mismatched hmethod hid hne =>
        exact h.idle (by simp only [granted?, hmethod]) (by simp only [ended?, hmethod, hanswer]; rfl)
    | unreadable hmethod hid =>
        exact h.idle (by simp only [granted?, hmethod]) (by simp only [ended?, hmethod, hanswer]; rfl)

/-- Every run keeps the invariant. -/
theorem SessionRun.inv
    (h : SessionRun history s) :
    SessionInv history s := by
  induction h with
  | start =>
      exact sessionInv_nil
  | step _ hstep ih =>
      exact (ih.step hstep).2

end Invariant

section Law

variable {U : Unpacker}

/-- What a request is answered and what it changes, after a history in which `sessions` are
open: a session is granted when there is none, and otherwise refused; the session that is open
is reported; and an end of anything else changes nothing. -/
structure SessionLaw
    (sessions : List Int) (s : SessionManager) (r : SessionRequest (RbusMessage U))
    (result : HandlerResult (RbusMessage U)) (s' : SessionManager) : Prop where
  granted : r.method = .requestSessionId →
    ((∃ id, granted? (r, result) = some id) ↔ sessions = [])
  refused : r.method = .requestSessionId → sessions ≠ [] →
    result.answer = [some RbusError.errorInvalidState.toInt, none, none]
  reported : r.method = .getSessionId → ∀ id ∈ sessions, result.answer = [some 0, some id, none]
  otherEnd : r.method = .endSession →
    ∀ id ∉ sessions, (rbusMessageGetInt32 r.request).1 = some id → s' = s

variable {sessions : List Int} {s s' : SessionManager} {r : SessionRequest (RbusMessage U)}
variable {result : HandlerResult (RbusMessage U)}

/-- The law for a request of a session. -/
theorem SessionLaw.of_request
    (hmethod : r.method = .requestSessionId)
    (hgranted : (∃ id, granted? (r, result) = some id) ↔ sessions = [])
    (hrefused : sessions ≠ [] →
      result.answer = [some RbusError.errorInvalidState.toInt, none, none]) :
    SessionLaw sessions s r result s' where
  granted := fun _ => hgranted
  refused := fun _ => hrefused
  reported := fun hget => absurd (hmethod.symm.trans hget) (by decide)
  otherEnd := fun hend => absurd (hmethod.symm.trans hend) (by decide)

/-- The law for the end of a session. -/
theorem SessionLaw.of_end
    (hmethod : r.method = .endSession)
    (hother : ∀ id ∉ sessions, (rbusMessageGetInt32 r.request).1 = some id → s' = s) :
    SessionLaw sessions s r result s' where
  granted := fun hrequest => absurd (hmethod.symm.trans hrequest) (by decide)
  refused := fun hrequest => absurd (hmethod.symm.trans hrequest) (by decide)
  reported := fun hget => absurd (hmethod.symm.trans hget) (by decide)
  otherEnd := fun _ => hother

theorem SessionInv.law
    {history : List (SessionRequest (RbusMessage U) × HandlerResult (RbusMessage U))}
    (h : SessionInv history s)
    (hstep : r.handle s = some (result, s')) :
    SessionLaw (openSessions history) s r result s' := by
  have hcase := (h.step hstep).1
  rw [h.opened]
  generalize hanswer : result.answer = answer at hcase
  cases hcase with
  | granted hmethod hcurrent hmax =>
      rw [if_pos hcurrent]
      refine .of_request hmethod ⟨fun _ => rfl, fun _ => ⟨s.gCounter + 1, ?_⟩⟩ ?_
      · simp only [granted?, hmethod, hanswer]
      · exact fun hne => absurd rfl hne
  | refused hmethod hcurrent =>
      rw [if_neg hcurrent]
      refine .of_request hmethod ⟨?_, fun hnil => absurd hnil (List.cons_ne_nil _ _)⟩
        fun _ => hanswer
      rintro ⟨id, hid⟩
      simp only [granted?, hmethod, hanswer] at hid
      cases hid
  | reported hmethod =>
      refine ⟨fun hrequest => absurd (hmethod.symm.trans hrequest) (by decide),
        fun hrequest => absurd (hmethod.symm.trans hrequest) (by decide), fun _ id hid => ?_,
        fun hend => absurd (hmethod.symm.trans hend) (by decide)⟩
      split at hid
      · cases hid
      · obtain rfl := List.mem_singleton.mp hid
        exact hanswer
  | ended hmethod hid =>
      refine .of_end hmethod fun id hnot hid' => ?_
      obtain rfl : s.gCurrentSessionId = id := Option.some.inj (hid.symm.trans hid')
      split at hnot
      case isTrue hzero =>
        exact congrArg (SessionManager.mk s.gCounter) hzero.symm
      case isFalse =>
        exact absurd (List.mem_singleton.mpr rfl) hnot
  | mismatched hmethod hid hne =>
      exact .of_end hmethod fun _ _ _ => rfl
  | unreadable hmethod hid =>
      exact .of_end hmethod fun _ _ _ => rfl

/--
In every run of the session manager, at most one session is open; the granted ids are strictly
increasing, and none is 0.  As long as fewer than `2^31 - 1` sessions have been granted, every
further request is answered, as the law says: a session is granted exactly when none is open;
while one is open, other requests for a session are refused, `get_session_id` reports it, and
`end_session` with another id changes nothing.
-/
theorem sessions_exclusive_and_fresh
    {history : List (SessionRequest (RbusMessage U) × HandlerResult (RbusMessage U))}
    (h : SessionRun history s) :
    (openSessions history).length ≤ 1 ∧
      (grantedIds history).Pairwise (· < ·) ∧ (∀ id ∈ grantedIds history, id ≠ 0) ∧
      ((grantedIds history).length < 2147483647 → ∀ r : SessionRequest (RbusMessage U),
        ∃ result s', r.handle s = some (result, s') ∧
          SessionLaw (openSessions history) s r result s') := by
  have hinv := h.inv
  refine ⟨?_, hinv.increasing, fun id hid => ?_, fun hfew r => ?_⟩
  · rw [hinv.opened]
    split <;> simp
  · have hbounds := hinv.bounds id hid
    omega
  · rcases SessionRequest.handle_cases hinv.inRange r with ⟨-, -, hmax⟩ | ⟨result, s', hsome, -⟩
    · have hcount := hinv.count
      omega
    · exact ⟨result, s', hsome, hinv.law hsome⟩

/-- A request of a client, with an empty message. -/
def sampleSessionRequest (method : SessionMethod) : SessionRequest Bytes where
  hdr := { topic := .empty, replyTopic := sampleInbox, sequenceNumber := 0, request := true }
  method := method
  request := rbusMessageInit

/-- After the first session has been granted, another one is refused. -/
theorem second_session_refused :
    ∃ first second s s', (sampleSessionRequest .requestSessionId).handle .initial = some (first, s) ∧
      granted? (sampleSessionRequest .requestSessionId, first) = some 1 ∧
      (sampleSessionRequest .requestSessionId).handle s = some (second, s') ∧
      second.answer = [some 4, none, none] := by
  have hrun : ((sampleSessionRequest .requestSessionId).handle .initial).map
      (fun r => (granted? (sampleSessionRequest .requestSessionId, r.1), r.2)) =
        some (some 1, ⟨1, 1⟩) := by
    decide +kernel
  obtain ⟨⟨first, s⟩, hfirst, heq⟩ := Option.map_eq_some_iff.mp hrun
  have hrunning : SessionRun [(sampleSessionRequest .requestSessionId, first)] s :=
    .step .start hfirst
  have hopen : openSessions [(sampleSessionRequest .requestSessionId, first)] = [1] := by
    have hs : s = ⟨1, 1⟩ := (Prod.mk.inj heq).2
    rw [hrunning.inv.opened, hs]
    rfl
  have hgranted : grantedIds [(sampleSessionRequest .requestSessionId, first)] = [1] := by
    rw [grantedIds, List.filterMap_cons, (Prod.mk.inj heq).1]
    rfl
  obtain ⟨second, s', hsecond, hlaw⟩ := (sessions_exclusive_and_fresh hrunning).2.2.2
    (by rw [hgranted]; decide) (sampleSessionRequest .requestSessionId)
  refine ⟨first, second, s, s', hfirst, (Prod.mk.inj heq).1, hsecond, hlaw.refused rfl ?_⟩
  rw [hopen]
  exact List.cons_ne_nil _ _

end Law

end RbusCore
