import RbusCore.EventMessages
import RbusCore.SubscriptionProtocol

/-!
# Events for a subscriber

The subscription protocol exists for the events: an event that is published while a subscriber
has an entry for it is sent to him once, and the callback of the entry gets it.

**Results.**
* `Serves.publishedEvent`: a publish gets to the event, which listens to the subscriber.
* `event_reaches_subscriber`: from the publish to the callback.
-/

namespace RbusCore

open CStrings Resumption MessagePack

section Publishing

variable {U : Unpacker} {as : List (Setting U)} {published : List (CString × CString)}
variable {p : Ptr} {object event address : CString}
variable {w : World (RbusMessage U) (List UInt8)}

/-- What `rbus_publishEvent` leaves to the caller when it succeeds. -/
theorem sat_rbusPublishEvent_out
    (out : MessageRef (RbusMessage U))
    (h : Carries as published out.val)
    (hsize : eventSize as (published ++ [(object, event)]) < 2 ^ 31 - 2 ^ 15) :
    Program.Sat (sending unheeded.env object (withEvent object event out.val))
      (rbusPublishEvent (some object) (some event) out)
      (fun r _ => r.1 = .success → r.2.val = withEvent object event out.val) w := by
  have hzero : (0 : Int) = (0 : Int32).toInt := rfl
  rw [rbusPublishEvent, Program.sat_bind, Program.sat_getState, Program.sat_ite]
  split
  · exact RbusError.noConfusion
  · rw [Program.sat_bind, sat_deref_some, Program.sat_ite]
    split
    case isTrue =>
      exact RbusError.noConfusion
    case isFalse hlegal =>
      dsimp only [Option.getD_some]
      rw [hzero, h.setEventMetaSection (Or.inl rfl) hsize, pure_bind, Program.sat_bind, sat_lock]
      refine Program.Sat.bind (sat_getObject_sending object) fun found w _ => ?_
      cases found with
      | none =>
          exact RbusError.noConfusion
      | some obj =>
          dsimp only
          cases rtVectorFind serverEventCompare obj.subscriptions event with
          | none =>
              exact RbusError.noConfusion
          | some e =>
              refine Program.Sat.bind (sat_sendToListeners ⟨out.ptr, _⟩
                (Nat.lt_of_not_le hlegal) e.listeners) fun _ _ _ => ?_
              exact fun _ => rfl

/-- A publish gets to the event, which listens to the subscriber. -/
theorem Serves.publishedEvent
    (h : Serves p object event address (some true) w)
    (hconnected : w.gConnection.isSome = true) :
    ∃ e, publishedEvent? object event w = some e ∧ e.listeners.Nodup ∧ address ∈ e.listeners := by
  obtain ⟨⟨o, ho, rfl, rfl, -⟩, L, objects, reg, hlisting, hreg, hlatest⟩ := h
  rw [hlisting.vector, RtVector.items_live] at ho
  have hlisteners := (hlisting.objects o ho).listeners event
  rw [hreg, Option.map_some] at hlisteners
  obtain ⟨e, hfound, hmembers⟩ := Option.map_eq_some_iff.mp hlisteners
  refine ⟨e, ?_, ?_, ?_⟩
  · rw [publishedEvent?, if_pos ⟨hconnected, o.name.property⟩, hlisting.vector,
      RtVector.items_live, hlisting.names.lookup_of_mem ho, Option.bind_some, hfound]
  · rw [hmembers]
    exact Membership.nodup_members reg.requests
  · rw [hmembers, Membership.mem_members_iff]
    exact hlatest

end Publishing

section Delivery

variable {U : Unpacker} {as : List (Setting U)} {published : List (CString × CString)}
variable {p : Ptr} {object event address : CString} {s : System U}

theorem hasEntry_of_filter
    {w : World (RbusMessage U) (List UInt8)} {entry : ClientEvent}
    (h : (tableEntries w.gEventSubscriptionsForClient.items).filter (isEntryOf object event) =
      [(object, entry)]) :
    HasEntry object event w := by
  have hmem : (object, entry) ∈ (tableEntries w.gEventSubscriptionsForClient.items).filter
      (isEntryOf object event) := by
    rw [h]
    exact List.mem_singleton_self _
  obtain ⟨hentry, hfor⟩ := List.mem_filter.mp hmem
  refine ⟨(object, entry), hentry, ?_⟩
  exact decide_eq_true ⟨rfl, (of_decide_eq_true hfor).2⟩

/--
Events reach the subscribers.  Whatever has been lost or has come too late before: while a
subscriber has an entry for an event, and no other entry that the event is for, a publish of the
event on a connected provider comes to its end with success, and sends one buffer, to the
subscriber exactly once; when the buffer arrives, the callback of the entry gets it, once, with
the object, with the event, and with a message that delivers the values of the body.
-/
theorem event_reaches_subscriber
    {w : World (RbusMessage U) (List UInt8)} {entry : ClientEvent}
    (out : MessageRef (RbusMessage U))
    (haddress : address.strlen < maxSubscriberNameLength)
    (h : System.Reachable p object event address s)
    (hidle : s.client = .idle w)
    (hentry : (tableEntries w.gEventSubscriptionsForClient.items).filter
      (isEntryOf object event) = [(object, entry)])
    (hconnected : s.provider.gConnection.isSome = true)
    (hcarries : Carries as published out.val)
    (hsize : eventSize as (published ++ [(object, event)]) < 2 ^ 31 - 2 ^ 15) :
    Program.Completes unheeded.env (rbusPublishEvent (some object) (some event) out) s.provider ∧
    ∀ (ret : RbusError) (out' : MessageRef (RbusMessage U))
      (v' : World (RbusMessage U) (List UInt8)),
      Program.Returns unheeded.env (rbusPublishEvent (some object) (some event) out) s.provider
        (ret, out') v' →
      ret = .success ∧ ∃ (con : Connection) (data : List UInt8) (listeners : List CString),
        sends v'.log = sends s.provider.log ++
          listeners.map (sendTo (some con.ptr) data object) ∧
        listeners.count address = 1 ∧
        ∀ (hdr : RtMessageHeader) (w' : World (RbusMessage U) (List UInt8)),
          hdr.replyTopic = object → Calm w w' →
          ∃ region, ∃ body : RbusMessage U,
            CString.ofMemory region = some event ∧ Delivers body (as.map Setting.value) ∧
            HandsOver (masterEventCallback (M := RbusMessage U) hdr data w') entry.callback object
              region body entry.data := by
  obtain ⟨hserves, -⟩ := h.granted haddress hidle (hasEntry_of_filter hentry)
  obtain ⟨⟨subs, htabled⟩, -⟩ := h.subscriber haddress hidle
  rw [htabled.table, RtVector.items_live] at hentry
  obtain ⟨e, hfound, hnodup, hlistens⟩ := hserves.publishedEvent hconnected
  obtain ⟨⟨o, -, hstands⟩, L, objects, reg, hlisting, -⟩ := hserves
  have hlegal : object.strlen < maxObjectNameLength := hstands.name ▸ o.name.property
  have hwritten := hcarries.eventMetaSection?_eq (Or.inl rfl) hsize
  refine ⟨completes_rbusPublishEvent hlisting.vector ?_, fun ret out' v' hpublish => ?_⟩
  · exact ne_of_eq_of_ne hwritten (Option.some_ne_none _)
  have houtcome := returns_rbusPublishEvent hlisting.vector hpublish
  rw [Option.getD_some, hfound] at houtcome
  obtain ⟨hret, con, hcon, hsends⟩ := houtcome
  have hout := Program.returns_of_sat (fun _ _ _ _ henv => henv)
    (sat_rbusPublishEvent_out out hcarries hsize) hpublish hret
  refine ⟨hret, con, _, e.listeners, hsends, ?_, ?_⟩
  · exact List.count_eq_one_of_mem hnodup hlistens
  · rintro hdr w' hreply hcalm
    rw [hout]
    obtain ⟨region, body, hevent, hwhole⟩ :=
      hcarries.eventMessage (Or.inl rfl) object event hsize
    refine ⟨region, body, hevent.terminated,
      (hcarries.withEvent (Or.inl rfl) object event).delivers hwhole hsize, ?_⟩
    subst hreply
    exact masterEventCallback_table hlegal hevent (hcalm.tabled htabled).table
      (findDelivery_of_unique hentry) (Or.inl rfl)

theorem event_reaches_subscriber_sample :
    ∃ (w v v' : World Bytes (List UInt8)) (con : Connection) (data region : List UInt8)
      (body : Bytes) (listeners : List CString),
      sends v'.log = sends v.log ++
        listeners.map (sendTo (some con.ptr) data sampleObjectName.val) ∧
      listeners.count .empty = 1 ∧ Delivers body [.int32 7] ∧
      HandsOver (masterEventCallback (M := Bytes)
        { sampleHeader 1 with replyTopic := sampleObjectName.val } data w) 0 sampleObjectName.val
        region body 0 := by
  obtain ⟨s, w, hreachable, hidle, ⟨hconnected, ⟨ret, out'⟩, v', hpublish⟩, hentries⟩ :=
    exists_subscribed
  have hcarries : Carries [.int32 7] [] (sampleNumber 7) :=
    carries_of_sets (by decide +kernel) (by decide +kernel)
  have hentry : (tableEntries w.gEventSubscriptionsForClient.items).filter
      (isEntryOf sampleObjectName.val sampleEventName.val) =
        [(sampleObjectName.val, ⟨sampleEventName, 0, 0⟩)] := by
    rw [hentries]
    decide +kernel
  obtain ⟨-, hpublished⟩ := event_reaches_subscriber ⟨5, sampleNumber 7⟩ (by decide) hreachable
    hidle hentry hconnected hcarries (by decide +kernel)
  obtain ⟨-, con, data, listeners, hsends, hcount, hdelivered⟩ :=
    hpublished ret out' v' hpublish
  obtain ⟨region, body, -, hdelivers, hhanded⟩ :=
    hdelivered { sampleHeader 1 with replyTopic := sampleObjectName.val } w rfl (Calm.refl w)
  exact ⟨w, s.provider, v', con, data, region, body, listeners, hsends, hcount, hdelivers, hhanded⟩

end Delivery

end RbusCore
