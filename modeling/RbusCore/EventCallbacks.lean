import RbusCore.MasterHandler

/-!
# The callbacks of an event

An event that the master handler does not take is searched in the table: the search ends with
the first entry the event is for.  Of the three values in the metadata section only the last is
looked at.

**Results.**
* `entriesServed_iff`: the callbacks of all entries an event is for are called exactly when
  there is at most one such entry.
* `malformed_event_dropped_iff`: when an event is dropped if one of its names is missing.
-/

namespace RbusCore

open CStrings Resumption

section Served

variable {M W : Type} [MessageApi M W]

/-- Any answer to a call, as long as the messages in use are kept. -/
def keepsMessages (e : Call M W) (w : World M W) (_ : e.Answer) (w' : World M W) : Prop :=
  ∀ p, w.refCount p ≠ 0 → w'.refCount p ≠ 0

/-- The entries an event is for. -/
def entriesOf (sender event : CString) (subs : List ClientSubscription) :
    List (CString × ClientEvent) :=
  (tableEntries subs).filter (isEntryOf sender event)

/-- The calls of the callbacks of some entries. -/
def entryCalls
    (sender : CString) (region : List UInt8) (body : M) (entries : List (CString × ClientEvent)) :
    List (Call M W) :=
  entries.map fun entry =>
    .eventCallback entry.2.callback sender (some region) body entry.2.data

/-- A running program calls the callbacks of the entries, each once and in some order, and
nothing else. -/
def EntriesServed
    (x : Prog (Call.Answer (M := M) (W := W)) (World M W) Unit)
    (sender : CString) (region : List UInt8) (body : M) (entries : List (CString × ClientEvent)) :
    Prop :=
  (∃ es, x.Trace keepsMessages es) ∧
    ∀ es, x.Trace keepsMessages es → es.Perm (entryCalls sender region body entries)

/-- The point of a run of `master_event_callback` at which an event is left to the table: at
once, or when the master handler has not handled it. -/
inductive LeftToTable
    (hdr : RtMessageHeader) (data : W) (flag : Int) (w : World M W) :
    Prog (Call.Answer (M := M) (W := W)) (World M W) Unit → List ClientSubscription → Prop
  | direct
      {subs : List ClientSubscription}
      (hmaster : flag = 0 ∨ w.gMasterEventCallback = none)
      (htable : w.gEventSubscriptionsForClient = .live subs) :
      LeftToTable hdr data flag w (masterEventCallback hdr data w) subs
  | notHandled
      {callback : Nat} {event : Option (List UInt8)} {body : M} {w₁ w₂ : World M W}
      {k : RbusError → World M W → Prog (Call.Answer (M := M) (W := W)) (World M W) Unit}
      {subs : List ClientSubscription}
      (hflag : flag ≠ 0)
      (hmaster : w.gMasterEventCallback = some callback)
      (hcall : masterEventCallback hdr data w =
        .call (.eventCallback callback hdr.replyTopic event body w.gMasterEventUserData) w₁ k)
      (hkept : ∀ p, w₁.refCount p ≠ 0 → w₂.refCount p ≠ 0)
      (htable : w₂.gEventSubscriptionsForClient = .live subs) :
      LeftToTable hdr data flag w (k .eventNotHandled w₂) subs

variable {hdr : RtMessageHeader} {data : W} {flag : Int} {w : World M W}
variable {x : Prog (Call.Answer (M := M) (W := W)) (World M W) Unit}
variable {subs : List ClientSubscription} {region : List UInt8} {event : CString} {body : M}

/-- What is left to the table is searched there. -/
theorem LeftToTable.dispatches
    (h : LeftToTable hdr data flag w x subs)
    (hsender : hdr.replyTopic.strlen < maxObjectNameLength)
    (hevent : EventMessage data region event flag body) :
    ∃ p w', w'.refCount p ≠ 0 ∧ w'.gEventSubscriptionsForClient = .live subs ∧
      x = dispatchClientEvent hdr.replyTopic (some region) ⟨p, body⟩ w' := by
  obtain ⟨p, w', hlive, htable', heq⟩ := masterEventCallback_eq (w := w) hsender hevent
  cases h with
  | direct hmaster htable =>
      rw [if_master_eq_none hmaster] at heq
      exact ⟨p, w', hlive, htable'.trans htable, heq⟩
  | notHandled hflag hmaster hcall hkept htable =>
      rw [if_pos hflag, hmaster, hcall] at heq
      cases heq
      exact ⟨p, _, hkept p hlive, htable, rfl⟩

omit [MessageApi M W] in
/-- The search of the table ends with one callback, or with none. -/
theorem trace_dispatchClientEvent_iff
    (sender : CString) (p : Ptr) (body : M) (es : List (Call M W))
    (hregion : CString.ofMemory region = some event)
    (htable : w.gEventSubscriptionsForClient = .live subs)
    (hlive : w.refCount p ≠ 0) :
    (dispatchClientEvent sender (some region) ⟨p, body⟩ w).Trace keepsMessages es ↔
      es = (findDelivery sender event subs).toList.map fun e =>
        .eventCallback e.callback sender (some region) body e.data := by
  obtain ⟨w', href, hdispatch⟩ :=
    dispatchClientEvent_eq (M := M) (W := W) sender hregion htable ⟨p, body⟩
  rw [← href] at hlive
  rw [hdispatch]
  cases findDelivery sender event subs with
  | none =>
      obtain ⟨w'', hreleased⟩ : ∃ w'', rbusMessageRelease ⟨p, body⟩ w' = .done () w'' :=
        ⟨_, rbusMessageRelease_of_live (m := ⟨p, body⟩) hlive⟩
      show Prog.Trace keepsMessages (rbusMessageRelease ⟨p, body⟩ w') es ↔ _
      rw [hreleased, Prog.trace_done]
      rfl
  | some e =>
      refine Prog.trace_call_iff ⟨.success, _, fun p hp => hp⟩ fun ret w'' hkept => ?_
      exact ⟨(), _, rbusMessageRelease_of_live (m := ⟨p, body⟩) (hkept p hlive)⟩

/-- Only one entry is served. -/
theorem EntriesServed.length_le_one
    (h : EntriesServed x hdr.replyTopic region body (entriesOf hdr.replyTopic event subs))
    (hsender : hdr.replyTopic.strlen < maxObjectNameLength)
    (hevent : EventMessage data region event flag body)
    (hleft : LeftToTable hdr data flag w x subs) :
    (entriesOf hdr.replyTopic event subs).length ≤ 1 := by
  obtain ⟨p, w', hlive, htable, rfl⟩ := hleft.dispatches hsender hevent
  have hlength := (h.2 _ ((trace_dispatchClientEvent_iff _ _ _ _ hevent.terminated htable hlive).mpr
    rfl)).length_eq
  rw [entryCalls, List.length_map, List.length_map] at hlength
  rw [← hlength]
  cases findDelivery hdr.replyTopic event subs <;> simp

/--
An event that is left to the table is served to all the entries it is for, which are called
back once each, and to no other, exactly when it is for at most one entry.
-/
theorem entriesServed_iff
    (hsender : hdr.replyTopic.strlen < maxObjectNameLength)
    (hevent : EventMessage data region event flag body)
    (hleft : LeftToTable hdr data flag w x subs) :
    EntriesServed x hdr.replyTopic region body (entriesOf hdr.replyTopic event subs) ↔
      (entriesOf hdr.replyTopic event subs).length ≤ 1 := by
  refine ⟨fun h => h.length_le_one hsender hevent hleft, fun hone => ?_⟩
  obtain ⟨p, w', hlive, htable, rfl⟩ := hleft.dispatches hsender hevent
  have hcalls : (findDelivery hdr.replyTopic event subs).toList.map (fun e =>
      Call.eventCallback e.callback hdr.replyTopic (some region) body e.data) =
        entryCalls (W := W) hdr.replyTopic region body (entriesOf hdr.replyTopic event subs) := by
    match hentries : entriesOf hdr.replyTopic event subs, hone with
    | [], _ =>
        cases hfound : findDelivery hdr.replyTopic event subs with
        | none =>
            rfl
        | some e =>
            obtain ⟨object, hobject⟩ := mem_of_findDelivery hfound
            rw [← entriesOf, hentries] at hobject
            cases hobject
    | [(object, e)], _ =>
        rw [findDelivery_of_unique hentries]
        rfl
  have htrace (es : List (Call M W)) := trace_dispatchClientEvent_iff hdr.replyTopic p body es hevent.terminated htable hlive
  refine ⟨⟨_, (htrace _).mpr rfl⟩, fun es hes => ?_⟩
  rw [(htrace es).mp hes, hcalls]

end Served

section Samples

/-- The event `e` in a table. -/
def sampleClientEvent : ClientEvent := ⟨sampleEventName, 0, 0⟩

/-- A client that has subscribed to the event under the object `o`. -/
def sampleListener : World Bytes (List UInt8) :=
  { sampleSubscriber with
    gEventSubscriptionsForClient := .live [⟨2, sampleObjectName, [sampleClientEvent]⟩] }

/-- A client that has subscribed to the event under the object `o`, and as an element. -/
def sampleDoubleListener : World Bytes (List UInt8) :=
  { sampleSubscriber with
    gEventSubscriptionsForClient := .live
      [⟨2, sampleObjectName, [sampleClientEvent]⟩,
        ⟨3, sampleElementName, [sampleClientEvent]⟩] }

/-- A message from the object `o`. -/
def sampleObjectHeader : RtMessageHeader :=
  { sampleHeader 1 with replyTopic := sampleObjectName.val }

/-- The only entry of a client is served. -/
theorem single_entry_served :
    ∃ region body, EntriesServed (masterEventCallback (M := Bytes) sampleObjectHeader
        sampleEventMessage sampleListener) sampleObjectName.val region body
      [(sampleObjectName.val, sampleClientEvent)] := by
  obtain ⟨region, body, hevent⟩ := exists_eventMessage_sample
  have hsender : sampleObjectHeader.replyTopic.strlen < maxObjectNameLength := by decide
  have hleft : LeftToTable (M := Bytes) sampleObjectHeader sampleEventMessage 0 sampleListener
      (masterEventCallback sampleObjectHeader sampleEventMessage sampleListener)
      [⟨2, sampleObjectName, [sampleClientEvent]⟩] :=
    .direct (Or.inl rfl) rfl
  exact ⟨region, body, (entriesServed_iff hsender hevent hleft).mpr (by decide +kernel)⟩

/-- With entries for the object and for the element, one of them is not served. -/
theorem second_entry_not_served :
    ∃ region body, EventMessage (M := Bytes) sampleEventMessage region (.ofChars ['e']) 0 body ∧
      entriesOf sampleObjectName.val (.ofChars ['e'])
          sampleDoubleListener.gEventSubscriptionsForClient.items =
        [(sampleObjectName.val, sampleClientEvent), (.ofChars ['e'], sampleClientEvent)] ∧
      ¬EntriesServed (masterEventCallback (M := Bytes) sampleObjectHeader sampleEventMessage
          sampleDoubleListener) sampleObjectName.val region body
        (entriesOf sampleObjectName.val (.ofChars ['e'])
          sampleDoubleListener.gEventSubscriptionsForClient.items) := by
  obtain ⟨region, body, hevent⟩ := exists_eventMessage_sample
  have hentries : entriesOf sampleObjectName.val (.ofChars ['e'])
      sampleDoubleListener.gEventSubscriptionsForClient.items =
        [(sampleObjectName.val, sampleClientEvent), (.ofChars ['e'], sampleClientEvent)] := by
    decide +kernel
  refine ⟨region, body, hevent, hentries, fun hserved => ?_⟩
  have hsender : sampleObjectHeader.replyTopic.strlen < maxObjectNameLength := by decide
  have hleft : LeftToTable (M := Bytes) sampleObjectHeader sampleEventMessage 0
      sampleDoubleListener
      (masterEventCallback sampleObjectHeader sampleEventMessage sampleDoubleListener)
      sampleDoubleListener.gEventSubscriptionsForClient.items :=
    .direct (Or.inl rfl) rfl
  have hone := EntriesServed.length_le_one hserved hsender hevent hleft
  exact absurd (congrArg List.length hentries ▸ hone) (by decide)

end Samples

section Malformed

variable {M W : Type} [MessageApi M W]

/-- What `master_event_callback` does with the name and the flag it has read. -/
def handleEvent
    (sender : CString) (eventName : Option (List UInt8)) (isRbusFlag : Int) (msg : MessageRef M) :
    CoreM M W Unit := do
  let w ← Program.getState
  match if isRbusFlag ≠ 0 then w.gMasterEventCallback else none with
  | some callback => do
      let err : RbusError ←
        call (.eventCallback callback sender eventName msg.val w.gMasterEventUserData)
      if err ≠ .eventNotHandled then rbusMessageRelease msg
      else dispatchClientEvent sender eventName msg
  | none => dispatchClientEvent sender eventName msg

/-- What is read from the metadata section of an event. -/
structure EventValues (M : Type) where
  eventName : Option (List UInt8)
  objectName : Option (List UInt8)
  isRbusFlag : Option Int
  body : M

/-- The getters of `master_event_callback`, in their order. -/
def readEvent (data : W) : EventValues M :=
  let eventName := MessageApi.getString (MessageApi.beginMetaSectionRead (MessageApi.fromBytes data : M))
  let objectName := MessageApi.getString eventName.2
  let flag := MessageApi.getInt32 objectName.2
  { eventName := eventName.1
    objectName := objectName.1
    isRbusFlag := flag.1
    body := MessageApi.endMetaSectionRead flag.2 }

/-- The metadata section is a string, a string and an integer. -/
def EventValues.WellFormed (v : EventValues M) : Prop :=
  v.eventName.isSome ∧ v.objectName.isSome ∧ v.isRbusFlag.isSome

variable {hdr : RtMessageHeader} {data : W} {w : World M W}

/-- The callback, as reading and handling. -/
theorem masterEventCallback_eq_handleEvent
    (hsender : hdr.replyTopic.strlen < maxObjectNameLength) :
    masterEventCallback (M := M) hdr data w =
      (match (readEvent data : EventValues M).isRbusFlag with
        | none => rbusMessageRelease ⟨w.nextPtr, (readEvent data : EventValues M).body⟩
        | some flag =>
            handleEvent hdr.replyTopic (readEvent data : EventValues M).eventName flag
              ⟨w.nextPtr, (readEvent data : EventValues M).body⟩)
        { w with
          nextPtr := w.nextPtr + 1
          refCount := Function.update w.refCount w.nextPtr 1 } := by
  rw [masterEventCallback, if_neg (Nat.not_le_of_lt hsender)]
  rfl

/-- The world once a message has been received. -/
def World.received (w : World M W) : World M W :=
  { w with
    nextPtr := w.nextPtr + 1
    refCount := Function.update w.refCount w.nextPtr 1 }

/-- A message has been received and released, and nothing else has happened. -/
structure OnlyReleased (w w' : World M W) : Prop where
  state : w' = { w with
    nextPtr := w.nextPtr + 1
    refCount := Function.update w.refCount w.nextPtr 0
    mutexOwned := w'.mutexOwned
    log := w'.log }
  calls : ∀ e, .call e ∈ w'.log → .call e ∈ w.log

/-- An event is dropped: the message is released, and nothing else happens.  The name is not
even compared: it might be NULL. -/
def EventDropped (M : Type) [MessageApi M W] (hdr : RtMessageHeader) (data : W) (w : World M W) :
    Prop :=
  (∃ w', masterEventCallback (M := M) hdr data w = .done () w' ∧ OnlyReleased w w') ∧
    ∀ flag, (readEvent data : EventValues M).isRbusFlag = some flag →
      ∃ w', handleEvent hdr.replyTopic none flag
        ⟨w.nextPtr, (readEvent data : EventValues M).body⟩ w.received = .done () w'

/-- There is nobody to ask about an event, and no name to compare with its name: no master
handler gets it, and all entries of the table are for the sender and without events. -/
def Unsearched
    (sender : CString) (flag : Int) (w : World M W) (subs : List ClientSubscription) : Prop :=
  (flag = 0 ∨ w.gMasterEventCallback = none) ∧ ∀ s ∈ subs, s.key = sender ∧ s.events = []

variable {subs : List ClientSubscription} {sender : CString}

omit [MessageApi M W] in
/-- A search without a comparison does not depend on the name. -/
theorem findClientEvent_of_unsearched
    (hsubs : ∀ s ∈ subs, s.key = sender ∧ s.events = [])
    (name : Option (List UInt8)) :
    (findClientEvent sender name subs : CoreM M W (Option ClientEvent)) = pure none := by
  induction subs with
  | nil =>
      rfl
  | cons s subs ih =>
      obtain ⟨hkey, hevents⟩ := hsubs s List.mem_cons_self
      have hmatched : (matchesSubscription sender name s : CoreM M W Bool) = pure true :=
        if_pos ((s.object.strncmp_eq_zero_iff sender).mpr hkey)
      have hfound : (findInSubscription name s true : CoreM M W (Option ClientEvent)) =
          pure none :=
        if_neg (by simp [hevents])
      rw [findClientEvent, hmatched, pure_bind, hfound, pure_bind]
      exact ih fun s' hs' => hsubs s' (List.mem_cons_of_mem _ hs')

omit [MessageApi M W] in
/-- A search for NULL that ends has made no comparison. -/
theorem unsearched_of_findClientEvent
    {r : Option ClientEvent} {w' : World M W}
    (h : findClientEvent sender none subs w = .done r w') :
    ∀ s ∈ subs, s.key = sender ∧ s.events = [] := by
  induction subs with
  | nil =>
      intro s hs
      cases hs
  | cons s subs ih =>
      rw [findClientEvent] at h
      by_cases hkey : s.key = sender
      · have hmatched : (matchesSubscription sender none s : CoreM M W Bool) = pure true :=
          if_pos ((s.object.strncmp_eq_zero_iff sender).mpr hkey)
        rw [hmatched, pure_bind] at h
        by_cases hevents : s.events = []
        · have hfound : (findInSubscription none s true : CoreM M W (Option ClientEvent)) =
              pure none :=
            if_neg (by simp [hevents])
          rw [hfound, pure_bind] at h
          exact List.forall_mem_cons.mpr ⟨⟨hkey, hevents⟩, ih h⟩
        · have hfound : (findInSubscription none s true : CoreM M W (Option ClientEvent)) =
              (do let key ← deref none; rtVectorFindAt maxEventNameLength _ key s.events) :=
            if_pos ⟨rfl, hevents⟩
          rw [hfound] at h
          cases h
      · have hmatched : (matchesSubscription sender none s : CoreM M W Bool) =
            (do
              let key ← deref none
              let order ← strncmpAt maxObjectNameLength s.object.val key
              pure (decide (order = 0))) :=
          if_neg (mt (s.object.strncmp_eq_zero_iff sender).mp hkey)
        rw [hmatched] at h
        cases h

/-- The world with the mutex taken. -/
def World.locked (w : World M W) : World M W :=
  { w with mutexOwned := true, log := w.log ++ [.lock w.mutexOwned] }

omit [MessageApi M W] in
/-- The part behind the master handler, up to the search, and when nothing is found. -/
theorem dispatchClientEvent_search
    (sender : CString)
    (htable : w.gEventSubscriptionsForClient = .live subs)
    (name : Option (List UInt8)) (msg : MessageRef M) :
    ∃ f, dispatchClientEvent sender name msg w =
        (findClientEvent sender name subs >>= f) w.locked ∧
      f none = (do
        unlock
        rbusMessageRelease msg) := by
  have hlock : (lock : CoreM M W Unit) w = .done () w.locked := rfl
  have hsubs : w.locked.gEventSubscriptionsForClient = .live subs := htable
  exact ⟨_, (Program.bind_of_done hlock _).trans
    (Program.bind_of_done (clientSubscriptions_of_live hsubs) _), rfl⟩

omit [MessageApi M W] in
theorem handleEvent_of_no_master
    {flag : Int} {msg : MessageRef M}
    (hmaster : flag = 0 ∨ w.gMasterEventCallback = none)
    (name : Option (List UInt8)) :
    handleEvent sender name flag msg w.received = dispatchClientEvent sender name msg w.received := by
  have hnone : (if flag ≠ 0 then w.received.gMasterEventCallback else none) = none :=
    if_master_eq_none hmaster
  rw [handleEvent, Program.bind_of_done (x := Program.getState) rfl, hnone]

omit [MessageApi M W] in
/-- Handling an event that is not searched only releases it. -/
theorem handleEvent_of_unsearched
    {flag : Int}
    (htable : w.gEventSubscriptionsForClient = .live subs)
    (h : Unsearched sender flag w subs)
    (name : Option (List UInt8)) (body : M) :
    ∃ w', handleEvent sender name flag ⟨w.nextPtr, body⟩ w.received = .done () w' ∧
      OnlyReleased w w' := by
  have hsubs : w.received.gEventSubscriptionsForClient = .live subs := htable
  have hunlock : (unlock : CoreM M W Unit) w.received.locked = .done () _ := rfl
  obtain ⟨f, hsearch, hnone⟩ :=
    dispatchClientEvent_search sender hsubs name ⟨w.nextPtr, body⟩
  rw [handleEvent_of_no_master h.1, hsearch, findClientEvent_of_unsearched h.2, pure_bind,
    hnone, Program.bind_of_done hunlock]
  refine ⟨_, rbusMessageRelease_of_live (by simp [World.received, World.locked]), ?_,
    fun e he => ?_⟩
  · simp [World.received, World.locked]
  · simpa [World.received, World.locked] using he

omit [MessageApi M W] in
/-- Handling an event without a name ends only when it is not searched. -/
theorem unsearched_of_handleEvent
    {flag : Int} {body : M} {w' : World M W}
    (htable : w.gEventSubscriptionsForClient = .live subs)
    (h : handleEvent sender none flag ⟨w.nextPtr, body⟩ w.received = .done () w') :
    Unsearched sender flag w subs := by
  have hmaster : flag = 0 ∨ w.gMasterEventCallback = none := by
    by_contra hboth
    obtain ⟨hflag, hsome⟩ := not_or.mp hboth
    obtain ⟨callback, hcallback⟩ := Option.ne_none_iff_exists'.mp hsome
    have hasks : (if flag ≠ 0 then w.received.gMasterEventCallback else none) = some callback :=
      (if_pos hflag).trans hcallback
    rw [handleEvent, Program.bind_of_done (x := Program.getState) rfl, hasks] at h
    cases h
  refine ⟨hmaster, ?_⟩
  have hsubs : w.received.gEventSubscriptionsForClient = .live subs := htable
  obtain ⟨f, hsearch, -⟩ :=
    dispatchClientEvent_search sender hsubs none ⟨w.nextPtr, body⟩
  rw [handleEvent_of_no_master hmaster, hsearch] at h
  cases hfind : (findClientEvent sender none subs : CoreM M W _) w.received.locked with
  | done r w₁ =>
      exact unsearched_of_findClientEvent hfind
  | undef w₁ =>
      rw [Program.bind_of_undef hfind] at h
      cases h
  | call e w₁ k =>
      rw [Program.bind_of_call hfind] at h
      cases h

/--
An event whose metadata section is not a string, a string and an integer is dropped, without
a look at its name, exactly when the integer is missing, which is all that is checked, or
there is nobody to ask and nothing to compare.
-/
theorem malformed_event_dropped_iff
    (hsender : hdr.replyTopic.strlen < maxObjectNameLength)
    (htable : w.gEventSubscriptionsForClient = .live subs) :
    (¬(readEvent data : EventValues M).WellFormed → EventDropped M hdr data w) ↔
      (readEvent data : EventValues M).WellFormed ∨
        ∀ flag, (readEvent data : EventValues M).isRbusFlag = some flag →
          Unsearched hdr.replyTopic flag w subs := by
  constructor
  · intro h
    refine or_iff_not_imp_left.mpr fun hmalformed flag hflag => ?_
    obtain ⟨w', hdone⟩ := (h hmalformed).2 flag hflag
    exact unsearched_of_handleEvent htable hdone
  · rintro (hwell | hunsearched) hmalformed
    · exact absurd hwell hmalformed
    · refine ⟨?_, fun flag hflag => ?_⟩
      · rw [masterEventCallback_eq_handleEvent hsender]
        cases hflag : (readEvent data : EventValues M).isRbusFlag with
        | none =>
            refine ⟨_, rbusMessageRelease_of_live (by simp), ?_, fun e he => he⟩
            simp
        | some flag =>
            exact handleEvent_of_unsearched htable (hunsearched flag hflag) _ _
      · obtain ⟨w', hdone, -⟩ :=
          handleEvent_of_unsearched htable (hunsearched flag hflag) none
            (readEvent data : EventValues M).body
        exact ⟨w', hdone⟩

end Malformed

section MalformedSamples

/-- A message without values is dropped. -/
theorem empty_message_dropped :
    EventDropped Bytes sampleObjectHeader ([] : List UInt8) sampleListener := by
  have hsender : sampleObjectHeader.replyTopic.strlen < maxObjectNameLength := by decide
  have hflag : (readEvent ([] : List UInt8) : EventValues Bytes).isRbusFlag = none := by
    decide +kernel
  refine (malformed_event_dropped_iff (w := sampleListener) hsender rfl).mpr (Or.inr ?_) ?_
  · intro flag h
    rw [hflag] at h
    cases h
  · rintro ⟨-, -, h⟩
    rw [hflag] at h
    cases h

/-- A metadata section of three integers: there are no names, but a flag. -/
def sampleUnnamedEvent : List UInt8 := [1, 2, 0, 0xd2, 0, 0, 0, 0]

/-- A message from the client of examples. -/
def sampleClientHeader : RtMessageHeader :=
  { sampleHeader 1 with replyTopic := sampleInbox }

/-- An event without a name is not dropped: its name, NULL, is compared. -/
theorem unnamed_event_compared :
    (∃ w', masterEventCallback (M := Bytes) sampleClientHeader sampleUnnamedEvent sampleListener =
      .undef w' ∧ w'.log.getLast? = some (.fault .nullPointer)) ∧
    ¬(¬(readEvent sampleUnnamedEvent : EventValues Bytes).WellFormed →
      EventDropped Bytes sampleClientHeader sampleUnnamedEvent sampleListener) := by
  have hname : (readEvent sampleUnnamedEvent : EventValues Bytes).eventName = none := by
    decide +kernel
  have hflag : (readEvent sampleUnnamedEvent : EventValues Bytes).isRbusFlag = some 0 := by
    decide +kernel
  have hsender : sampleClientHeader.replyTopic.strlen < maxObjectNameLength := by decide
  have hrun : masterEventCallback (M := Bytes) sampleClientHeader sampleUnnamedEvent
      sampleListener = .undef { sampleListener.received.locked with
        log := sampleListener.received.locked.log ++ [.fault .nullPointer] } := by
    rw [masterEventCallback_eq_handleEvent hsender, hname, hflag]
    rfl
  refine ⟨⟨_, hrun, List.getLast?_concat⟩, fun h => ?_⟩
  obtain ⟨⟨w', hdone, -⟩, -⟩ := h fun hwell => by
    rw [EventValues.WellFormed, hname] at hwell
    cases hwell.1
  rw [hrun] at hdone
  cases hdone

end MalformedSamples

end RbusCore
