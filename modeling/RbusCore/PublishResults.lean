import RbusCore.EventMessages
import RbusCore.Operations
import RbusCore.Registry

/-!
# What the result of a publish says

`rbus_publishEvent` and `rbus_publishSubscriberEvent` look up the object and send the message,
in different orders: the first sends nothing before it has found the event, the second sends
whether or not it has found the object, and drops the result of the send.

**Results.**
* `sat_rbusPublishEvent_results`: an error of `rbus_publishEvent` has sent nothing.
* `sat_rbusPublishSubscriberEvent_results`: what a publish to one listener sends and returns.
* `publish_truthful_iff`: when the result tells what has been sent.
-/

namespace RbusCore

open CStrings Resumption

section Results

variable {M W : Type}

/-- The calls that hand a message to the transport. -/
def Call.isSend : Call M W → Bool
  | .sendBinaryDirect .. | .sendBinaryRequest .. | .sendBinaryResponse .. | .sendRequest .. => true
  | _ => false

/-- The sends in the history. -/
def Event.isSend : Event M W → Bool
  | .call e => e.isSend
  | _ => false

/-- The messages handed to the transport. -/
def sends (log : List (Event M W)) : List (Event M W) :=
  log.filter Event.isSend

/-- The outcomes of the sends to the listeners.  Nothing else happens in the process while a
message is sent directly. -/
def directAnswers (sent : CString → RtError) :
    (e : Call M W) → World M W → e.Answer → World M W → Prop
  | .sendBinaryDirect _ _ topic _, w, err, w' => err = sent topic ∧ w' = w
  | _, w, _, w' => w' = w

/-- A call of one of the two publishing functions. -/
structure PublishCall where
  objectName : CString
  eventName : Option CString
  /-- The listener of `rbus_publishSubscriberEvent`; `rbus_publishEvent` has none. -/
  listener : Option CString

/-- The object is registered. -/
def KnownObject (objectName : CString) (w : World M W) : Prop :=
  (rtVectorFind serverObjectCompare w.gServerObjects.items objectName).isSome = true

/-- The function that is called. -/
def PublishCall.run [MessageApi M W] (c : PublishCall) (out : MessageRef M) :
    CoreM M W (RbusError × MessageRef M) :=
  match c.listener with
  | none => rbusPublishEvent (some c.objectName) c.eventName out
  | some listener => rbusPublishSubscriberEvent (some c.objectName) c.eventName listener out

/-- The result tells what has been sent: nothing with an error, and with SUCCESS of
`rbus_publishSubscriberEvent` one message, for the listener, on behalf of a registered object. -/
structure Truthful
    (c : PublishCall) (sent : CString → RtError)
    (w : World M W) (ret : RbusError) (w' : World M W) :
    Prop where
  error : ret ≠ .success → sends w'.log = sends w.log
  success : ∀ listener, c.listener = some listener → ret = .success →
    KnownObject c.objectName w ∧ sent listener = .rtOk ∧ ∃ con data,
      sends w'.log = sends w.log ++ [.call (.sendBinaryDirect con data listener c.objectName)]

/-- The condition: a publish to one listener is refused for its name, or the object is
registered and the send succeeds, or there is neither object nor connection. -/
def PublishCall.Consistent
    (c : PublishCall) (sent : CString → RtError) (w : World M W) : Prop :=
  ∀ listener, c.listener = some listener → c.objectName.strlen < maxObjectNameLength →
    KnownObject c.objectName w ∧ w.gConnection.isSome = true ∧ sent listener = .rtOk ∨
      ¬ KnownObject c.objectName w ∧ w.gConnection = none

/-- Nothing has been sent, and the registry and the connection are the same. -/
structure Unsent (w w' : World M W) : Prop where
  connection : w'.gConnection = w.gConnection
  objects : w'.gServerObjects = w.gServerObjects
  unsent : sends w'.log = sends w.log

/-- The contract of a publish; nothing is asked of it. -/
def directContract (sent : CString → RtError) :
    Contract (Call.Answer (M := M) (W := W)) (World M W) where
  env := directAnswers sent
  atCall _ _ := True
  atUndef _ := True

variable {w w₀ : World M W} {sent : CString → RtError}

theorem sends_concat
    (log : List (Event M W)) (e : Event M W) :
    sends (log ++ [e]) = if e.isSend then sends log ++ [e] else sends log := by
  rw [sends, List.filter_append, List.filter_singleton]
  cases e.isSend with
  | false =>
      exact List.append_nil _
  | true =>
      rfl

theorem Unsent.refl
    (w : World M W) :
    Unsent w w where
  connection := rfl
  objects := rfl
  unsent := rfl

/-- An entry of the history that is no send. -/
theorem Unsent.entry
    {e : Event M W} {owned : Bool}
    (h : Unsent w₀ w)
    (he : e.isSend = false) :
    Unsent w₀ { w with mutexOwned := owned, log := w.log ++ [e] } where
  connection := h.connection
  objects := h.objects
  unsent := by
    rw [sends_concat, he]
    exact h.unsent

variable [MessageApi M W]

omit [MessageApi M W] in
/-- The lookup sends nothing, and finds a registered object. -/
theorem Unsent.getObject
    (h : Unsent w₀ w)
    (objectName : CString) :
    Program.Sat (directContract sent) (getObject (some objectName))
      (fun obj w' => (obj.isSome = true ↔ KnownObject objectName w₀) ∧ Unsent w₀ w') w := by
  rw [RbusCore.getObject, serverObjects, Program.sat_bind, Program.sat_bind, Program.sat_getState,
    KnownObject, ← h.objects]
  cases hobjects : w.gServerObjects with
  | live objects =>
      rw [accessVector, Program.sat_pure, rtVectorFindDeref_some]
      exact ⟨Iff.rfl, h⟩
  | null =>
      exact ⟨Iff.rfl, h.entry rfl⟩
  | destroyed =>
      trivial

/-- Writing the section sends nothing. -/
theorem sat_setEventMetaSection_unsent
    (out : MessageRef M) (eventName objectName : CString) (flag : Int) :
    Program.Sat (directContract sent) (setEventMetaSection out eventName objectName flag)
      (fun _ => Unsent w) w := by
  rw [setEventMetaSection_eq]
  cases eventMetaSection? out.val eventName objectName flag with
  | none =>
      trivial
  | some v =>
      exact .refl w

/-- What `rbus_sendMessage` sends. -/
theorem Unsent.rbusSendMessage
    (h : Unsent w₀ w)
    (out : MessageRef M) (listener objectName : CString) :
    Program.Sat (directContract sent) (rbusSendMessage out listener objectName)
      (fun _ w' => (w₀.gConnection = none → Unsent w₀ w') ∧
        (w₀.gConnection.isSome = true → ∃ con data,
          sends w'.log = sends w₀.log ++
            [.call (.sendBinaryDirect con data listener objectName)])) w := by
  rw [RbusCore.rbusSendMessage, Program.sat_bind, Program.sat_getState, Program.sat_ite,
    h.connection]
  split
  case isTrue hnone =>
    refine ⟨fun _ => h, fun hsome => ?_⟩
    rw [Option.isNone_iff_eq_none.mp hnone] at hsome
    cases hsome
  case isFalse hsome =>
    refine ⟨trivial, ?_⟩
    rintro err _ ⟨rfl, rfl⟩
    refine ⟨fun hnone => ?_, fun _ =>
      ⟨w.gConnection.map Connection.ptr, MessageApi.toBytes out.val, ?_⟩⟩
    · rw [hnone] at hsome
      exact absurd rfl hsome
    · exact (sends_concat _ _).trans (congrArg (· ++ _) h.unsent)

/-- An error of `rbus_publishEvent` has sent nothing. -/
theorem sat_rbusPublishEvent_results
    (objectName : CString) (eventName : Option CString) (out : MessageRef M) :
    Program.Sat (directContract sent) (rbusPublishEvent (some objectName) eventName out)
      (fun r w' => r.1 ≠ .success → Unsent w w') w := by
  rw [rbusPublishEvent, Program.sat_bind, Program.sat_getState, Program.sat_ite]
  split
  case isTrue =>
    exact fun _ => .refl w
  case isFalse =>
    rw [Program.sat_bind, sat_deref_some, Program.sat_ite]
    split
    case isTrue =>
      exact fun _ => .refl w
    case isFalse =>
      refine (sat_setEventMetaSection_unsent out _ objectName 0).bind fun out w₁ h₁ => ?_
      rw [Program.sat_bind, sat_lock]
      refine (h₁.entry rfl).getObject objectName |>.bind fun obj w₂ h₂ => ?_
      have hunlocked : Unsent w
          { w₂ with mutexOwned := false, log := w₂.log ++ [.unlock w₂.mutexOwned] } :=
        h₂.2.entry rfl
      cases obj with
      | none =>
          exact fun _ => hunlocked
      | some obj =>
          dsimp only
          split
          case h_1 event _ =>
            have hlisteners : Program.Keeps (directContract sent) (fun _ => True)
                (sendToListeners out objectName event.listeners : CoreM M W Unit) :=
              keeps_sendToListeners ⟨fun _ _ _ _ => trivial, fun _ _ _ _ => trivial,
                fun _ _ _ _ _ _ => trivial, fun _ _ _ _ => trivial, fun _ _ => trivial⟩ _ _ _
            refine (hlisteners w₂ trivial).bind fun _ w₃ _ => ?_
            exact fun h => absurd rfl h
          case h_2 =>
            exact fun _ => hunlocked

/-- What a publish to one listener sends and returns. -/
theorem sat_rbusPublishSubscriberEvent_results
    (objectName : CString) (eventName : Option CString) (listener : CString)
    (out : MessageRef M) :
    Program.Sat (directContract sent)
      (rbusPublishSubscriberEvent (some objectName) eventName listener out)
      (fun r w' =>
        (maxObjectNameLength ≤ objectName.strlen → r.1 = .errorInvalidParam ∧ Unsent w w') ∧
        (objectName.strlen < maxObjectNameLength →
          (r.1 = .success ↔ KnownObject objectName w) ∧
          (w.gConnection = none → Unsent w w') ∧
          (w.gConnection.isSome = true → ∃ con data,
            sends w'.log = sends w.log ++
              [.call (.sendBinaryDirect con data listener objectName)]))) w := by
  rw [rbusPublishSubscriberEvent, Program.sat_bind, sat_deref_some, Program.sat_ite]
  split
  case isTrue hlong =>
    exact ⟨fun _ => ⟨rfl, .refl w⟩, fun hshort => absurd hlong (Nat.not_le_of_lt hshort)⟩
  case isFalse hshort =>
    refine (sat_setEventMetaSection_unsent out _ objectName 1).bind fun out w₁ h₁ => ?_
    rw [Program.sat_bind, sat_lock]
    refine (h₁.entry rfl).getObject objectName |>.bind fun obj w₂ h₂ => ?_
    refine (h₂.2.rbusSendMessage out listener objectName).bind fun _ w₃ h₃ => ?_
    refine ⟨fun hlong => absurd hlong hshort, fun _ => ⟨?_, fun hnone => ?_, fun hsome => ?_⟩⟩
    · rw [← h₂.1]
      cases obj with
      | none =>
          exact ⟨RbusError.noConfusion, Bool.noConfusion⟩
      | some obj =>
          exact ⟨fun _ => rfl, fun _ => rfl⟩
    · exact (h₃.1 hnone).entry rfl
    · obtain ⟨con, data, hsent⟩ := h₃.2 hsome
      exact ⟨con, data, (sends_concat _ _).trans hsent⟩

/--
The result of a publish tells what it has sent exactly when a publish to one listener finds the
object, the connection and a transport that takes the message, or finds neither object nor
connection; `rbus_publishEvent` always tells it.
-/
theorem publish_truthful_iff
    {c : PublishCall} {out out' : MessageRef M} {ret : RbusError} {w' : World M W}
    (hreturns : Program.Returns (directAnswers sent) (c.run out) w (ret, out') w') :
    Truthful c sent w ret w' ↔ c.Consistent sent w := by
  obtain ⟨objectName, eventName, _ | listener⟩ := c
  · have herror := Program.returns_of_sat (C := directContract sent) (fun _ _ _ _ henv => henv)
      (sat_rbusPublishEvent_results objectName eventName out) hreturns
    constructor
    · rintro - _ ⟨⟩
    · intro _
      exact ⟨fun hret => (herror hret).unsent, by rintro _ ⟨⟩⟩
  · obtain ⟨hlong, hshort⟩ := Program.returns_of_sat (C := directContract sent)
      (fun _ _ _ _ henv => henv)
      (sat_rbusPublishSubscriberEvent_results objectName eventName listener out) hreturns
    by_cases hname : maxObjectNameLength ≤ objectName.strlen
    · obtain ⟨hret, hsame⟩ := hlong hname
      have hret : ret = .errorInvalidParam := hret
      subst hret
      constructor
      · rintro - _ - hlength
        exact absurd hname (Nat.not_le_of_lt hlength)
      · intro _
        exact ⟨fun _ => hsame.unsent, fun _ _ h => RbusError.noConfusion h⟩
    · obtain ⟨hret, hnone, hsome⟩ := hshort (Nat.lt_of_not_le hname)
      constructor
      · rintro ⟨herror, hsuccess⟩ _ ⟨⟩ -
        by_cases hknown : KnownObject objectName w
        · obtain ⟨-, hsent, con, data, hlog⟩ := hsuccess listener rfl (hret.mpr hknown)
          cases hconnection : w.gConnection with
          | none =>
              rw [(hnone hconnection).unsent] at hlog
              exact absurd (List.self_eq_append_right.mp hlog) (List.cons_ne_nil _ _)
          | some con =>
              exact Or.inl ⟨hknown, rfl, hsent⟩
        · have hunsent := herror (mt hret.mp hknown)
          cases hconnection : w.gConnection with
          | none =>
              exact Or.inr ⟨hknown, rfl⟩
          | some con =>
              obtain ⟨con', data, hlog⟩ := hsome (hconnection ▸ rfl)
              rw [hunsent] at hlog
              exact absurd (List.self_eq_append_right.mp hlog) (List.cons_ne_nil _ _)
      · intro hconsistent
        rcases hconsistent listener rfl (Nat.lt_of_not_le hname) with
          ⟨hknown, hconnected, hsent⟩ | ⟨hunknown, hconnection⟩
        · refine ⟨fun herror => absurd (hret.mpr hknown) herror, ?_⟩
          rintro _ ⟨⟩ -
          exact ⟨hknown, hsent, hsome hconnected⟩
        · refine ⟨fun _ => (hnone hconnection).unsent, ?_⟩
          rintro _ ⟨⟩ hsuccess
          exact absurd (hret.mp hsuccess) hunknown

end Results

section Runs

/-- A transport that takes every message. -/
def directAnswer :
    (e : Call Bytes (List UInt8)) → World Bytes (List UInt8) →
      Option (e.Answer × World Bytes (List UInt8))
  | .sendBinaryDirect .., w => some (.rtOk, w)
  | _, _ => none

theorem directAnswers_of_directAnswer
    (e : Call Bytes (List UInt8)) (w : World Bytes (List UInt8)) (a : e.Answer)
    (w' : World Bytes (List UInt8))
    (h : directAnswer e w = some (a, w')) :
    directAnswers (fun _ => .rtOk) e w a w' := by
  cases e with
  | sendBinaryDirect =>
      obtain ⟨rfl, rfl⟩ := Prod.mk.inj (Option.some.inj h)
      exact ⟨rfl, rfl⟩
  | _ =>
      cases h

/-- A publish of the event `e` of the object `o` to the listener `c`. -/
def samplePublish : PublishCall where
  objectName := sampleObjectName.val
  eventName := some sampleEventName.val
  listener := some sampleInbox

/-- The object is registered, and the event is sent. -/
theorem registered_object_published :
    ∃ (ret : RbusError) (out : MessageRef Bytes) (w : World Bytes (List UInt8)),
      Program.Returns (directAnswers fun _ => .rtOk) (samplePublish.run ⟨0, rbusMessageInit⟩)
        sampleEventProvider (ret, out) w ∧
      Truthful samplePublish (fun _ => .rtOk) sampleEventProvider ret w := by
  have hrun : ((samplePublish.run ⟨0, rbusMessageInit⟩ sampleEventProvider).run
      directAnswer).isSome = true := by
    decide +kernel
  obtain ⟨⟨⟨ret, out⟩, w⟩, hw⟩ := Option.isSome_iff_exists.mp hrun
  have hreturns := Program.returns_of_run directAnswers_of_directAnswer hw
  refine ⟨ret, out, w, hreturns, (publish_truthful_iff hreturns).mpr ?_⟩
  rintro _ ⟨⟩ -
  have hknown : KnownObject samplePublish.objectName sampleEventProvider := by
    rw [KnownObject]
    decide
  exact Or.inl ⟨hknown, rfl, rfl⟩

/-- The object is not registered: the publish reports an error and has sent the message. -/
theorem unknown_object_published :
    ∃ (out : MessageRef Bytes) (w : World Bytes (List UInt8)),
      Program.Returns (directAnswers fun _ => .rtOk) (samplePublish.run ⟨0, rbusMessageInit⟩)
        sampleCaller (.errorInvalidParam, out) w ∧
      (sends w.log).length = 1 ∧
      ¬ Truthful samplePublish (fun _ => .rtOk) sampleCaller .errorInvalidParam w := by
  have hrun : ((samplePublish.run ⟨0, rbusMessageInit⟩ sampleCaller).run directAnswer).map
      (fun r => (r.1.1, (sends r.2.log).length)) = some (.errorInvalidParam, 1) := by
    decide +kernel
  obtain ⟨⟨⟨ret, out⟩, w⟩, hw, hresult⟩ := Option.map_eq_some_iff.mp hrun
  obtain ⟨rfl, hsent⟩ := Prod.mk.inj hresult
  refine ⟨out, w, Program.returns_of_run directAnswers_of_directAnswer hw, hsent, ?_⟩
  rintro ⟨herror, -⟩
  rw [herror RbusError.noConfusion] at hsent
  exact Nat.noConfusion hsent

end Runs

end RbusCore
