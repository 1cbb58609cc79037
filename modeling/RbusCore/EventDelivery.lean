import RbusCore.ClientTable

/-!
# Delivery of events

An event message arrives with the object as its sender and with the name of the event in its
metadata section.  It is for the first entry of the table for that event, under the object or
under the event as an element; a master handler gets `rbus` 2.0 events first.

**Results.**
* `findClientEvent_eq`: the search of the table, as a function of the table.
* `masterEventCallback_table`, `masterEventCallback_master`: who is called, and that nothing is
  called afterwards.
* `masterEventCallback_discards`: an event for no entry.
-/

namespace RbusCore

open CStrings Resumption

section Search

/-- The entry that gets an event. -/
def findDelivery (sender event : CString) : List ClientSubscription → Option ClientEvent
  | [] => none
  | s :: subs =>
      if s.key = sender ∨ s.key = event then
        (KeyedList.lookup ClientEvent.key event s.events).or (findDelivery sender event subs)
      else findDelivery sender event subs

/-- The entries an event is for. -/
def isEntryOf (sender event : CString) (entry : CString × ClientEvent) : Bool :=
  decide ((entry.1 = sender ∨ entry.1 = event) ∧ entry.2.key = event)

variable {M W : Type} {subs : List ClientSubscription} {sender event : CString}

theorem matchesSubscription_eq
    {region : List UInt8}
    (hregion : CString.ofMemory region = some event)
    (s : ClientSubscription) :
    (matchesSubscription sender (some region) s : CoreM M W Bool) =
      pure (decide (s.key = sender ∨ s.key = event)) := by
  have horder := strncmpMemory_of_ofMemory maxObjectNameLength (s := s.key) hregion
  have hzero := s.object.strncmp_eq_zero_iff
  have hstrncmp : (strncmpAt maxObjectNameLength s.key region : CoreM M W Int) =
      pure (strncmp maxObjectNameLength s.key.chars event.chars) := by
    rw [strncmpAt, horder]
  by_cases hsender : s.key = sender
  · rw [matchesSubscription, if_pos ((hzero sender).mpr hsender)]
    simp [hsender]
  · have hiff : (strncmp maxObjectNameLength s.key.chars event.chars = 0) ↔
        (s.key = sender ∨ s.key = event) := by
      rw [hzero event]
      simp [hsender]
    rw [matchesSubscription, if_neg (mt (hzero sender).mp hsender)]
    refine (congrArg (fun x : CoreM M W Int => x >>= fun order => pure (decide (order = 0)))
      hstrncmp).trans ?_
    rw [pure_bind, decide_eq_decide.mpr hiff]

theorem findInSubscription_eq
    {region : List UInt8}
    (hregion : CString.ofMemory region = some event)
    (s : ClientSubscription)
    (matched : Bool) :
    (findInSubscription (some region) s matched : CoreM M W (Option ClientEvent)) =
      pure (if matched then KeyedList.lookup ClientEvent.key event s.events else none) := by
  by_cases hsearched : matched = true ∧ s.events ≠ []
  · rw [findInSubscription, if_pos hsearched, if_pos hsearched.1]
    show rtVectorFindAt maxEventNameLength _ region s.events = _
    rw [rtVectorFindAt, findAt?_of_ofMemory ClientEvent.name hregion]
    rfl
  · rw [findInSubscription, if_neg hsearched]
    split
    case isTrue hmatched =>
      have hempty : s.events = [] := by_contra fun hne => hsearched ⟨hmatched, hne⟩
      rw [hempty, KeyedList.lookup_nil]
    case isFalse =>
      rfl

/-- The search of the table, with a terminated event name. -/
theorem findClientEvent_eq
    {region : List UInt8}
    (hregion : CString.ofMemory region = some event) :
    (findClientEvent sender (some region) subs : CoreM M W (Option ClientEvent)) =
      pure (findDelivery sender event subs) := by
  induction subs with
  | nil =>
      rfl
  | cons s subs ih =>
      rw [findClientEvent, matchesSubscription_eq hregion, pure_bind,
        findInSubscription_eq hregion, pure_bind, findDelivery]
      by_cases hmatched : s.key = sender ∨ s.key = event
      · rw [if_pos (by simpa using hmatched), if_pos hmatched]
        cases hfound : KeyedList.lookup ClientEvent.key event s.events with
        | some e =>
            rfl
        | none =>
            exact ih
      · rw [if_neg (by simpa using hmatched), if_neg hmatched]
        exact ih

/-- The entry that gets an event is one of those the event is for. -/
theorem mem_of_findDelivery
    {e : ClientEvent}
    (h : findDelivery sender event subs = some e) :
    ∃ object, (object, e) ∈ (tableEntries subs).filter (isEntryOf sender event) := by
  induction subs with
  | nil =>
      cases h
  | cons s subs ih =>
      rw [tableEntries, List.flatMap_cons, List.filter_append, ← tableEntries]
      have hrest (h : findDelivery sender event subs = some e) :
          ∃ object, (object, e) ∈ (s.events.map fun e => (s.key, e)).filter
            (isEntryOf sender event) ++ (tableEntries subs).filter (isEntryOf sender event) := by
        obtain ⟨object, hobject⟩ := ih h
        exact ⟨object, List.mem_append_right _ hobject⟩
      rw [findDelivery] at h
      split at h
      case isTrue hmatched =>
        cases hfound : KeyedList.lookup ClientEvent.key event s.events with
        | none =>
            rw [hfound, Option.none_or] at h
            exact hrest h
        | some e' =>
            rw [hfound, Option.some_or] at h
            obtain rfl := Option.some.inj h
            refine ⟨s.key, List.mem_append_left _ (List.mem_filter.mpr ⟨?_, ?_⟩)⟩
            · exact List.mem_map_of_mem (KeyedList.mem_of_lookup hfound)
            · simpa [isEntryOf] using ⟨hmatched, KeyedList.key_of_lookup hfound⟩
      case isFalse =>
        exact hrest h

/-- An event that no entry gets is for none. -/
theorem findDelivery_isSome
    {entry : CString × ClientEvent}
    (h : entry ∈ (tableEntries subs).filter (isEntryOf sender event)) :
    (findDelivery sender event subs).isSome = true := by
  induction subs with
  | nil =>
      cases h
  | cons s subs ih =>
      rw [tableEntries, List.flatMap_cons, List.filter_append, ← tableEntries,
        List.mem_append] at h
      rw [findDelivery]
      rcases h with hhere | hthere
      · obtain ⟨hmem, hfor⟩ := List.mem_filter.mp hhere
        obtain ⟨e, he, rfl⟩ := List.mem_map.mp hmem
        obtain ⟨hmatched, hkey⟩ := of_decide_eq_true hfor
        rw [if_pos hmatched, Option.isSome_or, Bool.or_eq_true, Option.isSome_iff_ne_none]
        exact Or.inl fun hnone => KeyedList.lookup_eq_none_iff.mp hnone e he hkey
      · split
        · rw [Option.isSome_or, ih hthere, Bool.or_true]
        · exact ih hthere

/-- The only entry an event is for gets it. -/
theorem findDelivery_of_unique
    {object : CString} {e : ClientEvent}
    (h : (tableEntries subs).filter (isEntryOf sender event) = [(object, e)]) :
    findDelivery sender event subs = some e := by
  have hmem : (object, e) ∈ (tableEntries subs).filter (isEntryOf sender event) := by
    rw [h]
    exact List.mem_singleton_self _
  obtain ⟨e', he'⟩ := Option.isSome_iff_exists.mp (findDelivery_isSome hmem)
  obtain ⟨object', hobject'⟩ := mem_of_findDelivery he'
  rw [h, List.mem_singleton] at hobject'
  rw [he', (Prod.mk.inj hobject').2]

end Search

section Arrival

variable {M W : Type} [MessageApi M W]

/-- A message with a complete metadata section of an event: where its name is read, the flag,
and the message that is handed on. -/
structure EventMessage
    (data : W) (region : List UInt8) (event : CString) (flag : Int) (body : M) : Prop where
  terminated : CString.ofMemory region = some event
  reads : ∃ m₁ object m₂ m₃,
    MessageApi.getString (MessageApi.beginMetaSectionRead (MessageApi.fromBytes data : M)) =
      (some region, m₁) ∧
    MessageApi.getString m₁ = (object, m₂) ∧
    MessageApi.getInt32 m₂ = (some flag, m₃) ∧
    MessageApi.endMetaSectionRead m₃ = body

/-- A running program that calls a callback for an event, once, and then ends. -/
def HandsOver
    (x : Prog (Call.Answer (M := M) (W := W)) (World M W) Unit) (callback : Nat)
    (sender : CString) (region : List UInt8) (body : M) (userData : Ptr) : Prop :=
  ∃ w k p, x = .call (.eventCallback callback sender (some region) body userData) w k ∧
    w.refCount p ≠ 0 ∧ ∀ ret w', w'.refCount p ≠ 0 → ∃ w'', k ret w' = .done () w''

variable {subs : List ClientSubscription} {event : CString} {region : List UInt8} {flag : Int}
variable {body : M} {data : W} {hdr : RtMessageHeader} {w : World M W} {e : ClientEvent}

omit [MessageApi M W] in
theorem clientSubscriptions_of_live
    (htable : w.gEventSubscriptionsForClient = .live subs) :
    (clientSubscriptions : CoreM M W _) w = .done subs w := by
  rw [clientSubscriptions, Program.bind_of_done (x := Program.getState) rfl, htable]
  rfl

omit [MessageApi M W] in
/-- The part behind the master handler, from the result of the search on. -/
theorem dispatchClientEvent_eq
    (sender : CString)
    (hregion : CString.ofMemory region = some event)
    (htable : w.gEventSubscriptionsForClient = .live subs)
    (msg : MessageRef M) :
    ∃ w', w'.refCount = w.refCount ∧
      dispatchClientEvent sender (some region) msg w =
        (match findDelivery sender event subs with
          | some e => do
              let _ ← call (.eventCallback e.callback sender (some region) msg.val e.data)
              rbusMessageRelease msg
          | none => rbusMessageRelease msg) w' := by
  obtain ⟨w₁, hlocked, htable₁, href₁⟩ : ∃ w₁, lock w = .done () w₁ ∧
      w₁.gEventSubscriptionsForClient = .live subs ∧ w₁.refCount = w.refCount :=
    ⟨_, rfl, htable, rfl⟩
  obtain ⟨w₂, hunlocked, href₂⟩ : ∃ w₂, unlock w₁ = .done () w₂ ∧ w₂.refCount = w₁.refCount :=
    ⟨_, rfl, rfl⟩
  refine ⟨w₂, href₂.trans href₁, ?_⟩
  rw [dispatchClientEvent, Program.bind_of_done hlocked,
    Program.bind_of_done (clientSubscriptions_of_live htable₁), findClientEvent_eq hregion,
    pure_bind]
  exact Program.bind_of_done hunlocked _

omit [MessageApi M W] in
theorem dispatchClientEvent_handsOver
    {sender : CString}
    (hregion : CString.ofMemory region = some event)
    (htable : w.gEventSubscriptionsForClient = .live subs)
    (hfound : findDelivery sender event subs = some e)
    {m : MessageRef M}
    (hlive : w.refCount m.ptr ≠ 0) :
    HandsOver (dispatchClientEvent sender (some region) m w) e.callback sender region m.val
      e.data := by
  obtain ⟨w', href, hdispatch⟩ := dispatchClientEvent_eq sender hregion htable m
  rw [hfound] at hdispatch
  refine ⟨_, _, m.ptr, hdispatch, ?_⟩
  refine ⟨?_, fun ret w'' hlive'' => ⟨_, rbusMessageRelease_of_live hlive''⟩⟩
  show w'.refCount m.ptr ≠ 0
  rw [href]
  exact hlive

/-- The start of `master_event_callback`, for a complete event message. -/
theorem masterEventCallback_eq
    (hsender : hdr.replyTopic.strlen < maxObjectNameLength)
    (hevent : EventMessage data region event flag body) :
    ∃ (p : Ptr) (w' : World M W), w'.refCount p ≠ 0 ∧
      w'.gEventSubscriptionsForClient = w.gEventSubscriptionsForClient ∧
      masterEventCallback (M := M) hdr data w =
        (match if flag ≠ 0 then w.gMasterEventCallback else none with
          | some callback => do
              let err : RbusError ← call (.eventCallback callback hdr.replyTopic (some region) body
                w.gMasterEventUserData)
              if err ≠ RbusError.eventNotHandled then rbusMessageRelease ⟨p, body⟩
              else dispatchClientEvent hdr.replyTopic (some region) ⟨p, body⟩
          | none => dispatchClientEvent hdr.replyTopic (some region) ⟨p, body⟩) w' := by
  obtain ⟨m₁, object, m₂, m₃, hname, hobject, hflag, hbody⟩ := hevent.reads
  obtain ⟨w', hnew, hlive, hmaster, hdata, htable⟩ : ∃ w',
      newMessage (MessageApi.fromBytes data : M) w = .done ⟨w.nextPtr, MessageApi.fromBytes data⟩ w' ∧
      w'.refCount w.nextPtr ≠ 0 ∧ w'.gMasterEventCallback = w.gMasterEventCallback ∧
      w'.gMasterEventUserData = w.gMasterEventUserData ∧
      w'.gEventSubscriptionsForClient = w.gEventSubscriptionsForClient :=
    ⟨_, rfl, by simp, rfl, rfl, rfl⟩
  refine ⟨w.nextPtr, w', hlive, htable, ?_⟩
  rw [masterEventCallback, if_neg (Nat.not_le_of_lt hsender), Program.bind_of_done hnew]
  dsimp only
  rw [hname, hobject, hflag]
  dsimp only
  rw [hbody, ← hmaster, ← hdata]
  exact Program.bind_of_done (x := Program.getState) rfl _

omit [MessageApi M W] in
theorem if_master_eq_none
    (hmaster : flag = 0 ∨ w.gMasterEventCallback = none) :
    (if flag ≠ 0 then w.gMasterEventCallback else none) = none := by
  rcases hmaster with hflag | hmaster
  · exact if_neg (not_not.mpr hflag)
  · rw [hmaster, ite_self]

/-- An event for the table goes to the entry that is found. -/
theorem masterEventCallback_table
    (hsender : hdr.replyTopic.strlen < maxObjectNameLength)
    (hevent : EventMessage data region event flag body)
    (htable : w.gEventSubscriptionsForClient = .live subs)
    (hfound : findDelivery hdr.replyTopic event subs = some e)
    (hmaster : flag = 0 ∨ w.gMasterEventCallback = none) :
    HandsOver (masterEventCallback (M := M) hdr data w) e.callback hdr.replyTopic region body
      e.data := by
  obtain ⟨p, w', hlive, htable', heq⟩ := masterEventCallback_eq (w := w) hsender hevent
  rw [heq, if_master_eq_none hmaster]
  exact dispatchClientEvent_handsOver (m := ⟨p, body⟩) hevent.terminated (htable'.trans htable)
    hfound hlive

end Arrival

end RbusCore
