import Mathlib.Data.List.Induction
import RbusCore.SessionManager

/-!
# Ends of sessions

`end_session` compares the id of the request with the current id, and the current id is 0 while
no session is active.  The end of a session 0 is therefore answered like the end of the active
session.

**Results.**
* `SessionInv.end_cases`: what `end_session` answers.
* `openSessions_after_end`: no session is active from an end to the next grant.
* `session_ends_iff`: an end is answered as it should be unless it ends the session 0 while none
  is active.
-/

namespace RbusCore

open CStrings MessagePack

section Ends

variable {U : Unpacker}
variable {history : List (SessionRequest (RbusMessage U) × HandlerResult (RbusMessage U))}
variable {s s' : SessionManager} {r : SessionRequest (RbusMessage U)}
variable {result : HandlerResult (RbusMessage U)}

/-- The answer SUCCESS to the end of a session. -/
def HandlerResult.endsSession (result : HandlerResult (RbusMessage U)) : Prop :=
  result.answer = [some RbusError.success.toInt, none, none]

/-- What the end of a session is to be answered while `sessions` are active. -/
structure EndLaw
    (sessions : List Int) (r : SessionRequest (RbusMessage U))
    (result : HandlerResult (RbusMessage U)) : Prop where
  succeeds : result.endsSession ↔ ∃ id ∈ sessions, (rbusMessageGetInt32 r.request).1 = some id
  refused : sessions = [] → ∀ id, (rbusMessageGetInt32 r.request).1 = some id →
    result.answer = [some RbusError.errorInvalidState.toInt, none, none]

/-- What `end_session` answers: it compares with the current id. -/
theorem SessionInv.end_cases
    (h : SessionInv history s)
    (hmethod : r.method = .endSession)
    (hstep : r.handle s = some (result, s')) :
    result.answer =
      match (rbusMessageGetInt32 r.request).1 with
      | none => [some RbusError.errorInvalidParam.toInt, none, none]
      | some id =>
          if id = s.gCurrentSessionId then [some RbusError.success.toInt, none, none]
          else [some RbusError.errorInvalidState.toInt, none, none] := by
  have hcase := (h.step hstep).1
  generalize result.answer = answer at hcase
  cases hcase with
  | granted hrequest | refused hrequest | reported hrequest =>
      rw [hmethod] at hrequest
      cases hrequest
  | ended _ hid =>
      simp only [hid, if_true]
      rfl
  | mismatched _ hid hne =>
      simp only [hid, if_neg hne]
  | unreadable _ hid =>
      simp only [hid]

/-- The end of a session is always answered. -/
theorem SessionInv.end_answered
    (h : SessionInv history s)
    (hmethod : r.method = .endSession) :
    ∃ result s', r.handle s = some (result, s') := by
  rcases SessionRequest.handle_cases h.inRange r with ⟨hrequest, -⟩ | ⟨result, s', hsome, -⟩
  · rw [hmethod] at hrequest
    cases hrequest
  · exact ⟨result, s', hsome⟩

/-- An answered end is in order, unless it ends the session 0 while none is active. -/
theorem SessionInv.endLaw_iff
    (h : SessionInv history s)
    (hmethod : r.method = .endSession)
    (hstep : r.handle s = some (result, s')) :
    EndLaw (openSessions history) r result ↔
      ¬(openSessions history = [] ∧ (rbusMessageGetInt32 r.request).1 = some 0) := by
  have hanswer := h.end_cases hmethod hstep
  rw [h.opened]
  cases hid : (rbusMessageGetInt32 r.request).1 with
  | none =>
      rw [hid] at hanswer
      refine iff_of_true ⟨iff_of_false ?_ ?_, fun _ id hsome => ?_⟩ (by simp)
      · rw [HandlerResult.endsSession, hanswer]
        simp [RbusError.toInt]
      · simp [hid]
      · rw [hid] at hsome
        cases hsome
  | some id =>
      rw [hid] at hanswer
      by_cases hcurrent : id = s.gCurrentSessionId
      · have hends : result.endsSession := hanswer.trans (if_pos hcurrent)
        by_cases hzero : s.gCurrentSessionId = 0
        · rw [if_pos hzero]
          refine iff_of_false (fun hlaw => ?_) fun hcareful => ?_
          · obtain ⟨id', hmem, -⟩ := hlaw.succeeds.mp hends
            exact absurd hmem List.not_mem_nil
          · exact hcareful ⟨rfl, congrArg some (hcurrent.trans hzero)⟩
        · rw [if_neg hzero]
          refine iff_of_true ⟨iff_of_true hends ?_, fun hnil => ?_⟩ fun hnil => ?_
          · exact ⟨_, List.mem_singleton_self _, hid.trans (congrArg some hcurrent)⟩
          · exact absurd hnil (List.cons_ne_nil _ _)
          · exact absurd hnil.1 (List.cons_ne_nil _ _)
      · have hrefused := hanswer.trans (if_neg hcurrent)
        refine iff_of_true ⟨iff_of_false ?_ ?_, fun _ _ _ => hrefused⟩ ?_
        · rw [HandlerResult.endsSession, hrefused]
          simp [RbusError.toInt]
        · rintro ⟨id', hmem, hid'⟩
          obtain rfl : id = id' := Option.some.inj (hid.symm.trans hid')
          split at hmem
          · exact absurd hmem List.not_mem_nil
          · exact hcurrent (List.mem_singleton.mp hmem)
        · rintro ⟨hnil, hzero⟩
          obtain rfl : id = 0 := Option.some.inj hzero
          split at hnil
          case isTrue hcurrent' =>
            exact hcurrent hcurrent'.symm
          case isFalse =>
            exact absurd hnil (List.cons_ne_nil _ _)

/-- No session is active from an end to the next grant. -/
theorem openSessions_after_end
    {later : List (SessionRequest (RbusMessage U) × HandlerResult (RbusMessage U))}
    (hopen : openSessions history = [])
    (hnone : ∀ entry ∈ later, granted? entry = none) :
    openSessions (history ++ later) = [] := by
  induction later generalizing history with
  | nil =>
      rwa [List.append_nil]
  | cons entry later ih =>
      have hfirst : openSessions (history ++ [entry]) = [] := by
        rw [openSessions_append, hopen, openSession, hnone entry List.mem_cons_self]
        rfl
      have hrest := ih hfirst fun e he => hnone e (List.mem_cons_of_mem entry he)
      rwa [List.append_assoc] at hrest

/-- The last step of a run. -/
theorem SessionRun.last
    {entry : SessionRequest (RbusMessage U) × HandlerResult (RbusMessage U)}
    (h : SessionRun (history ++ [entry]) s) :
    ∃ s₀, SessionRun history s₀ ∧ entry.1.handle s₀ = some (entry.2, s) := by
  generalize hwhole : history ++ [entry] = whole at h
  cases h with
  | start =>
      exact absurd hwhole (List.append_ne_nil_of_right_ne_nil _ (List.cons_ne_nil _ _))
  | @step history' s₀ _ r result hrun hstep =>
      obtain ⟨rfl, hlast⟩ := List.append_inj' hwhole rfl
      obtain rfl : entry = (r, result) := List.head_eq_of_cons_eq hlast
      exact ⟨s₀, hrun, hstep⟩

/-- A run up to some earlier request. -/
theorem SessionRun.earlier
    {later : List (SessionRequest (RbusMessage U) × HandlerResult (RbusMessage U))}
    (h : SessionRun (history ++ later) s) :
    ∃ s₀, SessionRun history s₀ := by
  induction later using List.reverseRecOn generalizing s with
  | nil =>
      exact ⟨s, by rwa [List.append_nil] at h⟩
  | append_singleton later entry ih =>
      rw [← List.append_assoc] at h
      obtain ⟨s₀, hrun, -⟩ := h.last
      exact ih hrun

/-- After a successful end no session is active. -/
theorem SessionRun.inactive_after_end
    {entry : SessionRequest (RbusMessage U) × HandlerResult (RbusMessage U)}
    (h : SessionRun (history ++ [entry]) s)
    (hmethod : entry.1.method = .endSession)
    (hends : entry.2.endsSession) :
    openSessions (history ++ [entry]) = [] := by
  obtain ⟨s₀, hrun, hstep⟩ := h.last
  have hcase := (hrun.inv.step hstep).1
  have hidle : s.gCurrentSessionId = 0 := by
    rw [hends] at hcase
    generalize hanswer : [some RbusError.success.toInt, none, none] = answer at hcase
    cases hcase with
    | granted hrequest | refused hrequest | reported hrequest =>
        rw [hmethod] at hrequest
        cases hrequest
    | ended =>
        rfl
    | mismatched | unreadable =>
        simp [RbusError.toInt] at hanswer
  rw [h.inv.opened, if_pos hidle]

/--
In every run of the session manager: a request to end a session is answered.  The answer is
SUCCESS exactly when the session with the id of the request is active, and INVALID_STATE for every
id when none is, unless none is active and the id is 0.  Without such a request, a request for a
session is granted between any two successful ends.
-/
theorem session_ends_iff
    (h : SessionRun history s)
    (hmethod : r.method = .endSession) :
    ∃ result s', r.handle s = some (result, s') ∧
      (EndLaw (openSessions history) r result ↔
        ¬(openSessions history = [] ∧ (rbusMessageGetInt32 r.request).1 = some 0)) ∧
      (¬(openSessions history = [] ∧ (rbusMessageGetInt32 r.request).1 = some 0) →
        result.endsSession → ∀ before first between, history = before ++ first :: between →
          first.1.method = .endSession → first.2.endsSession →
            ∃ entry ∈ between, ∃ id, granted? entry = some id) := by
  obtain ⟨result, s', hstep⟩ := h.inv.end_answered hmethod
  have hiff := h.inv.endLaw_iff hmethod hstep
  refine ⟨result, s', hstep, hiff, fun hcareful hends before first between hhistory hfirst
    hfirstEnds => ?_⟩
  obtain ⟨id, hactive, -⟩ := (hiff.mpr hcareful).succeeds.mp hends
  by_contra hnone
  have hungranted : ∀ entry ∈ between, granted? entry = none := fun entry hentry =>
    Option.eq_none_iff_forall_ne_some.mpr fun id hid => hnone ⟨entry, hentry, id, hid⟩
  subst hhistory
  rw [← List.singleton_append, ← List.append_assoc] at h hactive
  obtain ⟨s₀, hearlier⟩ := h.earlier
  have hinactive := hearlier.inactive_after_end hfirst hfirstEnds
  rw [openSessions_after_end hinactive hungranted] at hactive
  exact List.not_mem_nil hactive

end Ends

section Run

/-- A request to end a session, with its id. -/
def sampleEnd (id : Int) : SessionRequest Bytes where
  hdr := { topic := .empty, replyTopic := sampleInbox, sequenceNumber := 0, request := true }
  method := .endSession
  request :=
    match rbusMessageSetInt32 (rbusMessageInit : Bytes) id with
    | some request => rbusMessageFromBytes (rbusMessageToBytes request)
    | none => rbusMessageInit

/-- The first session is ended by its id. -/
theorem first_session_ended :
    ∃ first s result s', (sampleSessionRequest .requestSessionId).handle .initial = some (first, s) ∧
      granted? (sampleSessionRequest .requestSessionId, first) = some 1 ∧
      (sampleEnd 1).handle s = some (result, s') ∧ result.endsSession := by
  have hrun : ((sampleSessionRequest .requestSessionId).handle .initial).map
      (fun r => (granted? (sampleSessionRequest .requestSessionId, r.1), r.2)) =
        some (some 1, ⟨1, 1⟩) := by
    decide +kernel
  obtain ⟨⟨first, s⟩, hfirst, heq⟩ := Option.map_eq_some_iff.mp hrun
  have hrunning : SessionRun [(sampleSessionRequest .requestSessionId, first)] s :=
    .step .start hfirst
  have hs : s = ⟨1, 1⟩ := (Prod.mk.inj heq).2
  have hopen : openSessions [(sampleSessionRequest .requestSessionId, first)] = [1] := by
    rw [hrunning.inv.opened, hs]
    rfl
  have hid : (rbusMessageGetInt32 (sampleEnd 1).request).1 = some 1 := by
    decide +kernel
  obtain ⟨result, s', hstep, hiff, -⟩ := session_ends_iff hrunning (r := sampleEnd 1) rfl
  have hlaw := hiff.mpr fun hbad => absurd (hopen ▸ hbad.1) (List.cons_ne_nil _ _)
  refine ⟨first, s, result, s', hfirst, (Prod.mk.inj heq).1, hstep, hlaw.succeeds.mpr ⟨1, ?_, hid⟩⟩
  rw [hopen]
  exact List.mem_singleton_self 1

/-- The end of the session 0, before any session has been granted. -/
theorem no_session_ended :
    ∃ result s', SessionRun ([] : List (SessionRequest Bytes × HandlerResult Bytes)) .initial ∧
      (sampleEnd 0).handle .initial = some (result, s') ∧
      result.answer = [some 0, none, none] ∧ ¬EndLaw [] (sampleEnd 0) result := by
  have hrun : ((sampleEnd 0).handle .initial).map (fun r => r.1.answer) =
      some [some 0, none, none] := by
    decide +kernel
  obtain ⟨⟨result, s'⟩, hstep, hanswer⟩ := Option.map_eq_some_iff.mp hrun
  refine ⟨result, s', .start, hstep, hanswer, fun hlaw => ?_⟩
  obtain ⟨id, hmem, -⟩ := hlaw.succeeds.mp hanswer
  exact List.not_mem_nil hmem

end Run

end RbusCore
