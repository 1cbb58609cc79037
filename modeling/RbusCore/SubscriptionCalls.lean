import RbusCore.CallFree
import RbusCore.ClientTable
import RbusCore.SubscriptionRequests

/-!
# The calls of a subscriber

Subscribing to an event and unsubscribing from it send at most one request each.  What the
bytes ask for is determined by them, and the table has a new entry only if the request has been
answered.

**Results.**
* `Asks.unique`: what bytes ask for.
* `sat_clientOp_asks`: what a call sends.
* `sat_clientOp_calmly`, `sat_clientOp_unanswered`: what a call does to the table.
-/

namespace RbusCore

open CStrings Resumption MessagePack

section Requests

/-- Bytes of a request for an event: to add the subscriber, or to remove him. -/
def Asks
    (U : Unpacker) (address : CString) (data : List UInt8) (event : CString) (activate : Bool) :
    Prop :=
  ∃ payload : Option (RbusMessage U),
    messageSize (subscriptionValues event address payload) (subscriptionMethod activate) <
        2 ^ 31 - 2 ^ 15 ∧
      data = subscriptionBytes event address activate payload

variable {U : Unpacker} {address event event' : CString} {data : List UInt8}
variable {activate activate' : Bool}

theorem subscriptionMethod_injective
    (h : subscriptionMethod activate = subscriptionMethod activate') :
    activate = activate' := by
  revert h
  cases activate <;> cases activate' <;> decide

/-- The first value of a request is the name of the event. -/
theorem delivers_event
    {m : RbusMessage U} {payload : Option (RbusMessage U)}
    (h : Delivers m ((subscriptionValues event address payload).map Setting.value)) :
    (rbusMessageGet m .str).1 = some (.str (some event)) := by
  cases payload with
  | none =>
      exact (delivers_cons h).1
  | some _ =>
      exact (delivers_cons h).1

/-- Bytes ask for one thing only. -/
theorem Asks.unique
    (h : Asks U address data event activate)
    (h' : Asks U address data event' activate') :
    event = event' ∧ activate = activate' := by
  obtain ⟨payload, hsize, rfl⟩ := h
  obtain ⟨payload', hsize', hsame⟩ := h'
  obtain ⟨region, m₁, m₂, hname, hregion, hend, hwhole⟩ := readMethod hsize
  obtain ⟨region', m₁', m₂', hname', hregion', hend', hwhole'⟩ := readMethod hsize'
  rw [subscriptionBytes, subscriptionBytes] at hsame
  rw [← hsame, hname] at hname'
  obtain ⟨hregions, rfl⟩ := Prod.mk.inj hname'
  obtain rfl := Option.some.inj hregions
  rw [hend] at hend'
  obtain rfl := hend'
  have hmethods := Option.some.inj (hregion.symm.trans hregion')
  have hevent := delivers_event (hwhole.delivers_message hsize)
  have hevent' := delivers_event (hwhole'.delivers_message hsize')
  rw [hevent] at hevent'
  exact ⟨Option.some.inj (Reading.str.inj (Option.some.inj hevent')),
    subscriptionMethod_injective hmethods⟩

end Requests

section Waiting

variable {M W : Type}

/-- While a subscriber waits, neither his table nor his address changes. -/
structure Calm (w w' : World M W) : Prop extends Undisturbed w w' where
  address : w'.gConnection.map (fun c => c.returnAddress.val) =
    w.gConnection.map fun c => c.returnAddress.val

/-- The address at which the subscriber gets replies and events. -/
def HasAddress (address : CString) (w : World M W) : Prop :=
  w.gConnection.map (fun c => c.returnAddress.val) = some address

/-- An answer that is no reply to a request. -/
def Refuses : (e : Call M W) → e.Answer → Prop
  | .sendBinaryRequest .., reply => ∃ err, reply = .error err
  | _, _ => True

/-- Calls with any answer. -/
def calmly : Contract (Call.Answer (M := M) (W := W)) (World M W) where
  env _ w _ w' := Calm w w'
  atCall _ _ := True
  atUndef _ := True

/-- Requests that are not answered. -/
def unanswered : Contract (Call.Answer (M := M) (W := W)) (World M W) where
  env e w a w' := Calm w w' ∧ Refuses e a
  atCall _ _ := True
  atUndef _ := True

/-- Requests for nothing else than this. -/
def asking (U : Unpacker) (object address event : CString) (activate : Bool) :
    Contract (Call.Answer (M := RbusMessage U) (W := List UInt8))
      (World (RbusMessage U) (List UInt8)) where
  env _ w _ w' := Calm w w'
  atCall e _ :=
    match e with
    | .sendBinaryRequest _ data topic _ => topic = object ∧ Asks U address data event activate
    | _ => True
  atUndef _ := True

variable {address : CString} {w w' : World M W} {subs : List ClientSubscription}

theorem Calm.refl
    (w : World M W) :
    Calm w w :=
  ⟨⟨rfl, rfl, rfl, Nat.le_refl _⟩, rfl⟩

theorem Calm.hasAddress
    (h : Calm w w')
    (hw : HasAddress address w) :
    HasAddress address w' :=
  h.address.trans hw

theorem Calm.tabled
    (h : Calm w w')
    (hw : Tabled subs w) :
    Tabled subs w' :=
  ⟨h.master.trans hw.noMaster, h.table.trans hw.table, hw.inv.mono h.nextPtr⟩

theorem steady_calmly
    (subs : List ClientSubscription) :
    Steady calmly (Tabled subs : World M W → Prop) where
  messages := fun _ _ _ hle h => ⟨h.noMaster, h.table, h.inv.mono hle⟩
  called := fun _ _ _ h => ⟨h.noMaster, h.table, h.inv⟩
  fault := fun _ _ _ h => ⟨h.noMaster, h.table, h.inv⟩
  env := fun _ _ _ _ henv h => henv.tabled h
  atCall := fun _ _ _ _ => trivial
  atUndef := fun _ _ => trivial

theorem steady_unanswered
    (subs : List ClientSubscription) :
    Steady unanswered (Tabled subs : World M W → Prop) where
  messages := (steady_calmly subs).messages
  called := (steady_calmly subs).called
  fault := (steady_calmly subs).fault
  env := fun _ _ _ _ henv h => henv.1.tabled h
  atCall := fun _ _ _ _ => trivial
  atUndef := fun _ _ => trivial

theorem locking_hasAddress :
    Locking calmly fun _ => (HasAddress address : World M W → Prop) where
  steady := fun _ =>
    { messages := fun _ _ _ _ h => h
      called := fun _ _ _ h => h
      fault := fun _ _ _ h => h
      env := fun _ _ _ _ henv h => henv.hasAddress h
      atCall := fun _ _ _ _ => trivial
      atUndef := fun _ _ => trivial }
  locked := fun _ h => h
  unlocked := fun _ h => h
  unusable := fun _ _ _ _ h => h
  subscriptions := fun _ _ h => h

/-- Event dispatch is started at the same address. -/
theorem keeps_startEventDispatch_hasAddress
    {C : Contract (Call.Answer (M := M) (W := W)) (World M W)}
    (henv : ∀ e w a w', C.env e w a w' → Calm w w')
    (hcall : ∀ con w, C.atCall (.addDefaultListener con) w) :
    Program.Keeps C (HasAddress address) startEventDispatch := by
  intro w h
  rw [startEventDispatch, Program.sat_bind, Program.sat_getState, Program.sat_ite]
  split
  · rw [Program.sat_bind, rtConnectionAddDefaultListener, Program.sat_bind]
    refine ⟨hcall _ _, fun err w₁ hanswer => ?_⟩
    have h₁ : HasAddress address w₁ := (henv _ _ _ _ hanswer).hasAddress h
    show HasAddress address _
    rw [HasAddress] at h₁ ⊢
    rw [← h₁]
    exact Option.map_map _ _ _
  · exact h

end Waiting

section Asking

variable {U : Unpacker} {object address event : CString} {activate : Bool}
variable {w : World (RbusMessage U) (List UInt8)}

theorem HasAddress.connection
    {M W : Type} {w : World M W}
    (h : HasAddress address w) :
    ∃ con, w.gConnection = some con ∧ con.returnAddress.val = address :=
  Option.map_eq_some_iff.mp h

/-- The one request that is sent asks for this event. -/
theorem sendSubscriptionRequest_asks
    (h : HasAddress address w)
    (o : BoundedName maxObjectNameLength) (activate : Bool)
    (payload : Option (MessageRef (RbusMessage U)))
    (hsize : messageSize (subscriptionValues event address (payload.map MessageRef.val))
      (subscriptionMethod activate) < 2 ^ 31 - 2 ^ 15)
    (timeout : Int) :
    ∃ e w₁ k, sendSubscriptionRequest o.val event activate payload timeout w = .call e w₁ k ∧
      (asking U o.val address event activate).atCall e w₁ := by
  obtain ⟨con, hcon, rfl⟩ := h.connection
  obtain ⟨w₁, k, p, hsent, -, -⟩ :=
    sendSubscriptionRequest_sends o event activate payload timeout hcon hsize
  exact ⟨_, w₁, k, hsent, rfl, payload.map MessageRef.val, hsize, rfl⟩

-- from here on a request is known by what it asks for, and is not run
attribute [local irreducible] sendSubscriptionRequest

theorem sat_sendSubscriptionRequest_asks
    (h : HasAddress address w)
    (o : BoundedName maxObjectNameLength) (activate : Bool)
    (payload : Option (MessageRef (RbusMessage U)))
    (hsize : messageSize (subscriptionValues event address (payload.map MessageRef.val))
      (subscriptionMethod activate) < 2 ^ 31 - 2 ^ 15)
    (timeout : Int) :
    Program.Sat (asking U o.val address event activate)
      (sendSubscriptionRequest o.val event activate payload timeout) (fun _ _ => True) w := by
  have honce := callsOnce_sendSubscriptionRequest (W := List UInt8) o.val event activate payload
    timeout
  obtain ⟨e, w₁, k, hsent, hasks⟩ :=
    sendSubscriptionRequest_asks h o activate payload hsize timeout
  exact honce.sat (fun _ => trivial) hsent hasks

/-- Subscribing sends a request to add the subscriber, or nothing. -/
theorem sat_subscribeChecked_asks
    {payload : Option (MessageRef (RbusMessage U))}
    (h : HasAddress address w)
    (o : BoundedName maxObjectNameLength) (event : BoundedName maxEventNameLength)
    (hsize : messageSize (subscriptionValues event.val address (payload.map MessageRef.val))
      (subscriptionMethod true) < 2 ^ 31 - 2 ^ 15)
    (callback : Nat) (userData : Ptr) (timeout : Int) :
    Program.Sat (asking U o.val address event.val true)
      (subscribeChecked o event callback payload userData timeout) (fun _ _ => True) w := by
  have hadd (w : World (RbusMessage U) (List UInt8)) (h : HasAddress address w) :
      Program.Sat (asking U o.val address event.val true)
        (addUnlessMaster o event callback userData) (fun _ => HasAddress address) w :=
    (callFree_addUnlessMaster o event callback userData).sat_of_sat (fun _ => trivial)
      (keeps_addUnlessMaster locking_hasAddress o event callback userData w h)
  have hstart : Program.Keeps (asking U o.val address event.val true) (HasAddress address)
      startEventDispatch :=
    keeps_startEventDispatch_hasAddress (fun _ _ _ _ henv => henv) fun _ _ => trivial
  rw [subscribeChecked, Program.sat_bind, sat_lock]
  refine hstart.bind h fun _ w₁ h₁ => ?_
  refine (hadd w₁ h₁).bind fun present w₂ h₂ => ?_
  rw [Program.sat_bind, sat_unlock, Program.sat_ite]
  split
  · trivial
  · refine (sat_sendSubscriptionRequest_asks ?_ o true payload hsize timeout).bind ?_
    · exact h₂
    · intro reply w₃ _
      rw [Program.sat_ite]
      split
      · exact ((callFree_rollbackUnlessMaster o.val event.val).sat (fun _ => trivial) w₃).bind
          fun _ _ _ => trivial
      · trivial

theorem sat_rbusSubscribeToEventInternal_asks
    (h : HasAddress address w)
    (object : Option (BoundedName maxObjectNameLength)) (event : BoundedName maxEventNameLength)
    (callback : Option Nat) (payload : Option (MessageRef (RbusMessage U)))
    (hsize : messageSize (subscriptionValues event.val address (payload.map MessageRef.val))
      (subscriptionMethod true) < 2 ^ 31 - 2 ^ 15)
    (userData : Ptr) (timeout : Int) :
    Program.Sat (asking U (object.getD event).val address event.val true)
      (rbusSubscribeToEventInternal (object.map Subtype.val) (some event.val) callback payload
        userData timeout)
      (fun _ _ => True) w := by
  have hobject : (object.map Subtype.val <|> some event.val) = some (object.getD event).val := by
    cases object <;> rfl
  unfold rbusSubscribeToEventInternal
  rw [Program.sat_bind, Program.sat_getState, Program.sat_ite, hobject]
  split
  · trivial
  · cases callback with
    | none =>
        trivial
    | some callback =>
        dsimp only
        rw [BoundedName.check?_val, Program.sat_bind, sat_deref_some, BoundedName.check?_val]
        exact sat_subscribeChecked_asks h _ event hsize callback userData timeout

/-- Unsubscribing sends a request to remove the subscriber. -/
theorem sat_rbusUnsubscribeFromEvent_asks
    (h : HasAddress address w)
    (object : Option (BoundedName maxObjectNameLength)) (event : BoundedName maxEventNameLength)
    (payload : Option (MessageRef (RbusMessage U)))
    (hsize : messageSize (subscriptionValues event.val address (payload.map MessageRef.val))
      (subscriptionMethod false) < 2 ^ 31 - 2 ^ 15) :
    Program.Sat (asking U (object.getD event).val address event.val false)
      (rbusUnsubscribeFromEvent (object.map Subtype.val) (some event.val) payload)
      (fun _ _ => True) w := by
  have hobject : (object.map Subtype.val <|> some event.val) = some (object.getD event).val := by
    cases object <;> rfl
  have hremove : Program.Sat (asking U (object.getD event).val address event.val false)
      (removeUnlessMaster (object.getD event).val event.val) (fun _ => HasAddress address) w :=
    (callFree_removeUnlessMaster (object.getD event).val event.val).sat_of_sat (fun _ => trivial)
      (keeps_removeUnlessMaster locking_hasAddress (object.getD event).val event.val w h)
  unfold rbusUnsubscribeFromEvent
  rw [hobject]
  dsimp only [Option.getD_some]
  rw [if_neg (Nat.not_le_of_lt (object.getD event).property)]
  refine hremove.bind fun _ w₁ h₁ => ?_
  refine (sat_sendSubscriptionRequest_asks h₁ (object.getD event) false payload hsize 0).bind ?_
  intro _ _ _
  trivial

end Asking

section Operations

variable {M W : Type}

/-- The object that an operation is about. -/
def ClientOp.object : ClientOp M → BoundedName maxObjectNameLength
  | .subscribe object event .. => object.getD event
  | .subscribeTimeout object event .. => object.getD event
  | .unsubscribe object event _ => object.getD event

/-- The event that an operation is about. -/
def ClientOp.event : ClientOp M → BoundedName maxEventNameLength
  | .subscribe _ event .. => event
  | .subscribeTimeout _ event .. => event
  | .unsubscribe _ event _ => event

/-- The payload of the request that an operation sends. -/
def ClientOp.payload : ClientOp M → Option (MessageRef M)
  | .subscribe _ _ _ payload _ => payload
  | .subscribeTimeout _ _ _ payload _ _ => payload
  | .unsubscribe _ _ payload => payload

/-- Whether an operation asks for the subscriber to be added. -/
def ClientOp.activate : ClientOp M → Bool
  | .subscribe .. => true
  | .subscribeTimeout .. => true
  | .unsubscribe .. => false

/-- The table has an entry for the event. -/
def HasEntry (object event : CString) (w : World M W) : Prop :=
  ∃ entry ∈ tableEntries w.gEventSubscriptionsForClient.items, isEntryFor object event entry = true

variable {op : ClientOp M} {object event : CString} {ret : RbusError} {w w' : World M W}

theorem isEntryFor_other
    {object' event' : CString} {entry : CString × ClientEvent}
    (h : isEntryFor object event entry = true)
    (hother : ¬(object' = object ∧ event' = event)) :
    (!isEntryFor object' event' entry) = true := by
  have hfor := of_decide_eq_true h
  rw [isEntryFor, decide_eq_false]
  · rfl
  · rintro ⟨hobject, hevent⟩
    exact hother ⟨hobject.symm.trans hfor.1, hevent.symm.trans hfor.2⟩

theorem hasEntry_iff_of_others
    {object' event' : CString}
    (h : ((tableEntries w'.gEventSubscriptionsForClient.items).filter
        fun entry => !isEntryFor object' event' entry) =
      (tableEntries w.gEventSubscriptionsForClient.items).filter
        fun entry => !isEntryFor object' event' entry)
    (hother : ¬(object' = object ∧ event' = event)) :
    HasEntry object event w' ↔ HasEntry object event w := by
  have hiff (entry : CString × ClientEvent) (hfor : isEntryFor object event entry = true) :
      entry ∈ tableEntries w'.gEventSubscriptionsForClient.items ↔
        entry ∈ tableEntries w.gEventSubscriptionsForClient.items := by
    have hmem := congrArg (entry ∈ ·) h
    simpa only [List.mem_filter, isEntryFor_other hfor hother, and_true, eq_iff_iff] using hmem
  constructor
  · rintro ⟨entry, hentry, hfor⟩
    exact ⟨entry, (hiff entry hfor).mp hentry, hfor⟩
  · rintro ⟨entry, hentry, hfor⟩
    exact ⟨entry, (hiff entry hfor).mpr hentry, hfor⟩

/-- What an unsubscribe leaves of the table. -/
theorem ClientOp.Effect.removes
    (h : op.Effect ret w w')
    (hremoves : op.activate = false) :
    tableEntries w'.gEventSubscriptionsForClient.items =
      (tableEntries w.gEventSubscriptionsForClient.items).filter
        fun entry => !isEntryFor op.object.val op.event.val entry := by
  cases op with
  | unsubscribe o e payload =>
      exact h
  | _ =>
      cases hremoves

/-- The entries for other events are left alone. -/
theorem ClientOp.Effect.hasEntry_iff
    (h : op.Effect ret w w')
    (hother : ¬(op.object.val = object ∧ op.event.val = event)) :
    HasEntry object event w' ↔ HasEntry object event w := by
  refine hasEntry_iff_of_others ?_ hother
  cases op with
  | subscribe o e callback payload userData =>
      exact h.others
  | subscribeTimeout o e callback payload userData timeout =>
      exact h.others
  | unsubscribe o e payload =>
      rw [h.removes rfl, List.filter_filter]
      simp only [Bool.and_self]

/-- After an unsubscribe there is no entry. -/
theorem ClientOp.Effect.not_hasEntry
    (h : op.Effect ret w w')
    (hremoves : op.activate = false) :
    ¬HasEntry op.object.val op.event.val w' := by
  rintro ⟨entry, hentry, hfor⟩
  rw [h.removes hremoves] at hentry
  have hleft := (List.mem_filter.mp hentry).2
  rw [hfor] at hleft
  cases hleft

/-- After an operation that fails there is an entry only if there was one. -/
theorem ClientOp.Effect.of_failed
    (h : op.Effect ret w w')
    (hadds : op.activate = true)
    (hret : ret ≠ .success) :
    HasEntry object event w' ↔ HasEntry object event w := by
  cases op with
  | subscribe o e callback payload userData =>
      rw [HasEntry, HasEntry, h.failed hret]
  | subscribeTimeout o e callback payload userData timeout =>
      rw [HasEntry, HasEntry, h.failed hret]
  | unsubscribe o e payload =>
      cases hadds

theorem Tabled.findEntry_eq_none
    {subs : List ClientSubscription}
    (h : Tabled subs w)
    (hnone : ¬HasEntry object event w) :
    findEntry object event subs = none := by
  have hone := h.inv.entries_filter object event
  cases hfound : findEntry object event subs with
  | none =>
      rfl
  | some e =>
      rw [hfound] at hone
      have hmem : (object, e) ∈ (tableEntries subs).filter (isEntryFor object event) := by
        rw [hone]
        exact List.mem_singleton_self _
      obtain ⟨hentry, hfor⟩ := List.mem_filter.mp hmem
      refine absurd ⟨(object, e), ?_, hfor⟩ hnone
      rw [h.table]
      exact hentry

end Operations

section Refusing

variable {M W : Type} [MessageApi M W] {w : World M W} {subs : List ClientSubscription}

theorem translateRequestError_ne_success
    (err : RtError) :
    translateRequestError err ≠ .success := by
  cases err <;> exact RbusError.noConfusion

/-- A request that is not answered fails. -/
theorem sat_rbusInvokeRemoteMethod_unanswered
    (objectName method : Option CString) (out : Option (MessageRef M)) (timeout : Int)
    (w : World M W) :
    Program.Sat unanswered (rbusInvokeRemoteMethod objectName method out timeout)
      (fun reply _ => reply.1 ≠ .success) w := by
  have hundef (w : World M W) : (unanswered (M := M) (W := W)).atUndef w := trivial
  rw [rbusInvokeRemoteMethod, Program.sat_bind, Program.sat_getState, Program.sat_ite]
  split
  · exact RbusError.noConfusion
  · refine ((callFree_deref objectName).sat hundef w).bind fun object w₁ _ => ?_
    rw [Program.sat_ite]
    split
    · exact RbusError.noConfusion
    · refine ((callFree_messageOrEmpty out).sat hundef w₁).bind fun out w₂ _ => ?_
      refine ((callFree_setMessageMethod out method).sat hundef w₂).bind fun out w₃ _ => ?_
      rw [rbusSendRequest, bind_assoc, Program.sat_bind, sat_gConnectionPtr, bind_assoc,
        Program.sat_bind, sat_call]
      refine ⟨trivial, ?_⟩
      rintro reply w₄ ⟨-, err, rfl⟩
      refine ((callFree_rbusMessageRelease out).sat hundef w₄).bind fun _ w₅ _ => ?_
      exact translateRequestError_ne_success err

theorem sat_sendSubscriptionRequest_unanswered
    (objectName eventName : CString) (activate : Bool) (payload : Option (MessageRef M))
    (timeoutMs : Int) (w : World M W) :
    Program.Sat unanswered
      (sendSubscriptionRequest objectName eventName activate payload timeoutMs)
      (fun reply _ => reply.1 ≠ .success) w := by
  have hundef (w : World M W) : (unanswered (M := M) (W := W)).atUndef w := trivial
  refine ((callFree_newMessage _).sat hundef w).bind fun request w₁ _ => ?_
  refine ((callFree_written _ _).sat hundef w₁).bind fun request w₂ _ => ?_
  refine (callFree_returnAddress.sat hundef w₂).bind fun address w₃ _ => ?_
  refine ((callFree_written _ _).sat hundef w₃).bind fun request w₄ _ => ?_
  refine ((callFree_setPayload _ _).sat hundef w₄).bind fun request w₅ _ => ?_
  refine (sat_rbusInvokeRemoteMethod_unanswered _ _ _ _ w₅).bind fun reply w₆ hfailed => ?_
  rw [if_neg hfailed, Program.sat_ite]
  split
  · exact hfailed
  · exact RbusError.noConfusion

/-- Without an answer no entry is made. -/
theorem sat_subscribeChecked_unanswered
    (h : Tabled subs w)
    (object : BoundedName maxObjectNameLength) (event : BoundedName maxEventNameLength)
    (hnone : findEntry object.val event.val subs = none)
    (callback : Nat) (payload : Option (MessageRef M)) (userData : Ptr) (timeout : Int) :
    Program.Sat unanswered (subscribeChecked object event callback payload userData timeout)
      (fun ret _ => ret.1 ≠ .success) w := by
  rw [subscribeChecked]
  refine h.lock.bind fun _ w h => ?_
  refine (sat_startEventDispatch (steady_unanswered subs) h).bind fun _ w h => ?_
  refine (sat_addUnlessMaster h object event callback userData).bind fun present w hentered => ?_
  rw [Entered, hnone] at hentered
  obtain ⟨rfl, p, hnew⟩ := hentered
  refine hnew.unlock.bind fun _ w _ => ?_
  rw [if_neg Bool.false_ne_true]
  refine (sat_sendSubscriptionRequest_unanswered _ _ _ _ _ w).bind fun reply w hfailed => ?_
  rw [if_pos hfailed]
  exact ((callFree_rollbackUnlessMaster _ _).sat (fun _ => trivial) w).bind fun _ _ _ => hfailed

theorem sat_rbusSubscribeToEventInternal_unanswered
    (h : Tabled subs w)
    (object : Option (BoundedName maxObjectNameLength)) (event : BoundedName maxEventNameLength)
    (hnone : findEntry (object.getD event).val event.val subs = none)
    (callback : Option Nat) (payload : Option (MessageRef M)) (userData : Ptr) (timeout : Int) :
    Program.Sat unanswered
      (rbusSubscribeToEventInternal (object.map Subtype.val) (some event.val) callback payload
        userData timeout)
      (fun ret _ => ret.1 ≠ .success) w := by
  have hobject : (object.map Subtype.val <|> some event.val) = some (object.getD event).val := by
    cases object <;> rfl
  unfold rbusSubscribeToEventInternal
  rw [Program.sat_bind, Program.sat_getState, Program.sat_ite, hobject]
  split
  · exact RbusError.noConfusion
  · cases callback with
    | none =>
        exact RbusError.noConfusion
    | some callback =>
        dsimp only
        rw [BoundedName.check?_val, Program.sat_bind, sat_deref_some, BoundedName.check?_val]
        exact sat_subscribeChecked_unanswered h _ event hnone callback payload userData timeout

end Refusing

section Results

variable {M W : Type}

/-- A subscriber between his calls. -/
def Subscriber (address : CString) (w : World M W) : Prop :=
  (∃ subs, Tabled subs w) ∧ HasAddress address w

variable [MessageApi M W] {w : World M W} {address : CString} {op : ClientOp M}

omit [MessageApi M W] in
theorem Subscriber.calm
    {w' : World M W}
    (h : Subscriber address w)
    (hcalm : Calm w w') :
    Subscriber address w' := by
  obtain ⟨⟨subs, htabled⟩, haddress⟩ := h
  exact ⟨⟨subs, hcalm.tabled htabled⟩, hcalm.hasAddress haddress⟩

theorem keeps_subscribe_hasAddress
    (objectName eventName : Option CString) (callback : Option Nat)
    (payload : Option (MessageRef M)) (userData : Ptr) (timeout : Int) :
    Program.Keeps calmly (HasAddress address)
      (rbusSubscribeToEventInternal objectName eventName callback payload userData timeout :
        CoreM M W (RbusError × Option Int)) :=
  keeps_rbusSubscribeToEventInternal (I := fun _ => HasAddress address) locking_hasAddress
    (keeps_startEventDispatch_hasAddress (fun _ _ _ _ henv => henv) fun _ _ => trivial)
    (fun _ _ => keeps_rollbackUnlessMaster locking_hasAddress _ _) _ _ _ _ _ _

/-- The operations leave the address alone. -/
theorem keeps_clientOp_hasAddress
    (op : ClientOp M) :
    Program.Keeps calmly (HasAddress address) (op.run : CoreM M W RbusError) := by
  cases op with
  | subscribe object event callback payload userData =>
      exact Program.keeps_bind (keeps_subscribe_hasAddress _ _ _ _ _ _) fun _ =>
        Program.keeps_pure _
  | subscribeTimeout object event callback payload userData timeout =>
      exact Program.keeps_bind (keeps_subscribe_hasAddress _ _ _ _ _ _) fun _ =>
        Program.keeps_pure _
  | unsubscribe object event payload =>
      exact keeps_rbusUnsubscribeFromEvent locking_hasAddress _ _ _

/-- What an operation does to the table, whatever the answer. -/
theorem sat_clientOp_calmly
    (h : Subscriber address w)
    (op : ClientOp M) :
    Program.Sat calmly op.run (fun ret w' => op.Effect ret w w' ∧ Subscriber address w') w := by
  obtain ⟨⟨subs, htabled⟩, haddress⟩ := h
  have htable : Program.Sat calmly op.run
      (fun ret w' => op.Effect ret w w' ∧ ∃ subs', Tabled subs' w') w :=
    Prog.Sat.weaken (fun _ _ _ _ henv => henv.toUndisturbed) (fun _ _ _ => trivial)
      (fun _ _ => trivial) (sat_clientOp htabled op)
  refine (htable.and (keeps_clientOp_hasAddress op w haddress)).mono ?_
  rintro ret w' ⟨⟨heffect, htabled'⟩, haddress'⟩
  exact ⟨heffect, htabled', haddress'⟩

/-- Without an answer, a subscribe makes no entry. -/
theorem sat_clientOp_unanswered
    (h : Subscriber address w)
    (hadds : op.activate = true)
    (hnone : ¬HasEntry op.object.val op.event.val w) :
    Program.Sat unanswered op.run
      (fun _ w' => ¬HasEntry op.object.val op.event.val w') w := by
  obtain ⟨⟨subs, htabled⟩, -⟩ := id h
  have hfree := htabled.findEntry_eq_none hnone
  have heffect : Program.Sat unanswered op.run
      (fun ret w' => op.Effect ret w w' ∧ Subscriber address w') w :=
    Prog.Sat.weaken (fun _ _ _ _ henv => henv.1) (fun _ _ _ => trivial) (fun _ _ => trivial)
      (sat_clientOp_calmly h op)
  have hfailed : Program.Sat unanswered op.run (fun ret _ => ret ≠ .success) w := by
    cases op with
    | subscribe object event callback payload userData =>
        exact (sat_rbusSubscribeToEventInternal_unanswered htabled object event hfree callback
          payload userData 0).bind fun _ _ hret => hret
    | subscribeTimeout object event callback payload userData timeout =>
        exact (sat_rbusSubscribeToEventInternal_unanswered htabled object event hfree callback
          payload userData timeout).bind fun _ _ hret => hret
    | unsubscribe object event payload =>
        cases hadds
  refine (heffect.and hfailed).mono ?_
  rintro ret w' ⟨⟨heffect, -⟩, hret⟩
  rw [heffect.of_failed hadds hret]
  exact hnone

end Results

section Asked

variable {U : Unpacker} {w : World (RbusMessage U) (List UInt8)} {address : CString}

/-- The request that an operation sends is not too long. -/
def ClientOp.Fits (address : CString) (op : ClientOp (RbusMessage U)) : Prop :=
  messageSize (subscriptionValues op.event.val address (op.payload.map MessageRef.val))
    (subscriptionMethod op.activate) < 2 ^ 31 - 2 ^ 15

/-- What an operation sends. -/
theorem sat_clientOp_asks
    {op : ClientOp (RbusMessage U)}
    (h : HasAddress address w)
    (hfits : op.Fits address) :
    Program.Sat (asking U op.object.val address op.event.val op.activate) op.run
      (fun _ _ => True) w := by
  cases op with
  | subscribe object event callback payload userData =>
      exact (sat_rbusSubscribeToEventInternal_asks h object event callback payload hfits userData
        0).bind fun _ _ _ => trivial
  | subscribeTimeout object event callback payload userData timeout =>
      exact (sat_rbusSubscribeToEventInternal_asks h object event callback payload hfits userData
        timeout).bind fun _ _ _ => trivial
  | unsubscribe object event payload =>
      exact sat_rbusUnsubscribeFromEvent_asks h object event payload hfits

end Asked

end RbusCore
