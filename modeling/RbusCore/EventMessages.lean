import RbusCore.EventDelivery
import RbusCore.RemoteCalls

/-!
# Events from end to end

A publish appends a metadata section to the caller's message and sends the bytes to every
listener, and the message may be published again.  So an event message is the body, the sections
of earlier publishes, and the section of its own publish at the end, which is the one that the
receiver reads.

**Results.**
* `Carries.setEventMetaSection`: what a publish appends.
* `Published.carries`: the message between publishes.
* `Carries.eventMessage`: what the receiver reads in the bytes of a publish.
* `published_event_delivered`: from the publish to the callback.
-/

namespace RbusCore

open CStrings Resumption MessagePack

section Sections

variable {U : Unpacker}

/-- The values in the section of an event. -/
def eventValues (object event : CString) (flag : Int32 := 0) : List Value :=
  [.str event, .str object, .int32 flag]

/-- The section of an event. -/
def eventSection (object event : CString) (flag : Int32 := 0) : List (Setting U) :=
  [.str (some event), .str (some object), .int32 flag]

/-- A body, and the sections of publishes. -/
def eventWrites (as : List (Setting U)) (published : List (CString × CString)) :
    List (WriteOp U) :=
  as.map WriteOp.set ++ published.map fun pair => .metaSection (eventSection pair.1 pair.2)

/-- The size of a message with the body `as` after publishes. -/
def eventSize (as : List (Setting U)) (published : List (CString × CString)) : Nat :=
  (layout [] (eventWrites as published)).length

theorem eventSection_values
    (object event : CString)
    (flag : Int32) :
    (eventSection object event flag).map (Setting.value (U := U)) = eventValues object event flag :=
  rfl

/-- Both flags take one byte. -/
theorem eventValues_length
    {flag : Int32}
    (hflag : flag = 0 ∨ flag = 1)
    (object event : CString) :
    (encodeAll (eventValues object event flag)).length =
      (encodeAll (eventValues object event)).length := by
  rcases hflag with rfl | rfl
  · rfl
  · have hone : (Value.int32 1).encode.length = (Value.int32 0).encode.length := by decide
    simp only [eventValues, encodeAll_cons, List.length_append, hone]

@[simp] theorem eventSize_nil
    (as : List (Setting U)) :
    eventSize as [] = (encodeAll (as.map Setting.value)).length := by
  simp [eventSize, eventWrites, layout_set]

/-- A publish adds its section. -/
theorem eventSize_append
    (as : List (Setting U)) (published : List (CString × CString)) (object event : CString) :
    eventSize as (published ++ [(object, event)]) =
      eventSize as published + (encodeAll (eventValues object event)).length + 5 := by
  have hwrites : eventWrites as (published ++ [(object, event)]) =
      eventWrites as published ++ [.metaSection (eventSection object event)] := by
    simp [eventWrites]
  rw [eventSize, hwrites, layout_append, layout, layout, List.length_append, List.length_append,
    trailer_length, eventSection_values]
  rfl

/-- The sections behind a body: there are none, or the first starts with the name of an event
that was published. -/
def StartsWithEvent (published : List (CString × CString)) (sections : List UInt8) : Prop :=
  sections = [] ∨
    ∃ pair ∈ published, ∃ rest, sections = (Value.str pair.2).encode ++ rest

/-- A message that starts with a body and has room for more. -/
structure Carries
    (as : List (Setting U)) (published : List (CString × CString)) (m : RbusMessage U) :
    Prop where
  pk : m.pk = true
  body : ∃ sections, m.sbuf = encodeAll (as.map Setting.value) ++ sections ∧
    StartsWithEvent published sections
  size : m.sbuf.length ≤ eventSize as published

/-- The message after a publish. -/
def withEvent (object event : CString) (m : RbusMessage U) (flag : Int32 := 0) : RbusMessage U :=
  { m with
    sbuf := m.sbuf ++ encodeAll (eventValues object event flag) ++ trailer m.sbuf.length
    metaOffset := m.sbuf.length }

variable {as : List (Setting U)} {published : List (CString × CString)} {object event : CString}
variable {flag : Int32}

theorem carries_of_sets
    {m : RbusMessage U}
    (hset : rbusMessageSets rbusMessageInit as = some m)
    (hsize : eventSize as [] < 2 ^ 31 - 2 ^ 15) :
    Carries as [] m := by
  rw [eventSize_nil] at hsize
  obtain ⟨hpk, hbuf⟩ := values_of_sets hset (by omega)
  exact ⟨hpk, ⟨[], by rw [hbuf, List.append_nil], Or.inl rfl⟩, by rw [hbuf, eventSize_nil]⟩

theorem StartsWithEvent.append
    {sections : List UInt8}
    (h : StartsWithEvent published sections)
    (pair : CString × CString) :
    StartsWithEvent (published ++ [pair]) sections := by
  rcases h with hnil | ⟨pair', hmem, hstart⟩
  · exact Or.inl hnil
  · exact Or.inr ⟨pair', List.mem_append_left _ hmem, hstart⟩

/-- The section of a publish is the first one, or comes behind it. -/
theorem StartsWithEvent.withSection
    {sections : List UInt8}
    (h : StartsWithEvent published sections)
    (object event : CString) (flag : Int32) (rest : List UInt8) :
    ∃ pair ∈ published ++ [(object, event)], ∃ rest',
      sections ++ (encodeAll (eventValues object event flag) ++ rest) =
        (Value.str pair.2).encode ++ rest' := by
  rcases h with rfl | ⟨pair, hmem, rest₁, rfl⟩
  · refine ⟨(object, event), List.mem_append_right _ (List.mem_singleton_self _),
      encodeAll [.str object, .int32 flag] ++ rest, ?_⟩
    rw [List.nil_append, eventValues, encodeAll_cons, List.append_assoc]
  · exact ⟨pair, List.mem_append_left _ hmem,
      rest₁ ++ (encodeAll (eventValues object event flag) ++ rest), List.append_assoc _ _ _⟩

theorem Carries.append
    {m : RbusMessage U}
    (h : Carries as published m)
    (object event : CString) :
    Carries as (published ++ [(object, event)]) m := by
  obtain ⟨sections, hbody, hstart⟩ := h.body
  refine ⟨h.pk, ⟨sections, hbody, hstart.append _⟩, h.size.trans ?_⟩
  rw [eventSize_append]
  omega

theorem Carries.withEvent
    {m : RbusMessage U}
    (h : Carries as published m)
    (hflag : flag = 0 ∨ flag = 1)
    (object event : CString) :
    Carries as (published ++ [(object, event)]) (withEvent object event m flag) := by
  obtain ⟨sections, hbody, hstart⟩ := h.body
  have hsize := h.size
  refine ⟨h.pk, ⟨sections ++ (encodeAll (eventValues object event flag) ++ trailer m.sbuf.length),
    ?_, Or.inr (hstart.withSection object event flag _)⟩, ?_⟩
  · rw [RbusCore.withEvent, hbody]
    simp only [List.append_assoc]
  · rw [eventSize_append, RbusCore.withEvent, List.length_append, List.length_append,
      trailer_length, eventValues_length hflag]
    omega

/-- A publish appends the section of its event. -/
theorem Carries.eventMetaSection?_eq
    {m : RbusMessage U}
    (h : Carries as published m)
    (hflag : flag = 0 ∨ flag = 1)
    (hsize : eventSize as (published ++ [(object, event)]) < 2 ^ 31 - 2 ^ 15) :
    eventMetaSection? (W := List UInt8) m event object flag.toInt =
      some (RbusCore.withEvent object event m flag) := by
  have hlen := h.size
  rw [eventSize_append] at hsize
  have hsection := writeMetaSection_eq (eventSection object event flag) h.pk
    (by rw [eventSection_values, eventValues_length hflag]; omega)
  rw [eventMetaSection?_section, messageAfter_section]
  show writeMetaSection m (eventSection object event flag) = _
  rw [hsection, eventSection_values]
  rfl

theorem Carries.setEventMetaSection
    {out : MessageRef (RbusMessage U)}
    (h : Carries as published out.val)
    (hflag : flag = 0 ∨ flag = 1)
    (hsize : eventSize as (published ++ [(object, event)]) < 2 ^ 31 - 2 ^ 15) :
    setEventMetaSection (W := List UInt8) out event object flag.toInt =
      pure ⟨out.ptr, RbusCore.withEvent object event out.val flag⟩ := by
  rw [setEventMetaSection_eq, h.eventMetaSection?_eq hflag hsize, written]

/-- The bytes of a publish are the body and sections, the first with the name of an event. -/
theorem Carries.startsWithEvent
    {m : RbusMessage U}
    (h : Carries as published m)
    (object event : CString)
    (flag : Int32) :
    ∃ pair ∈ published ++ [(object, event)], ∃ rest,
      (RbusCore.withEvent object event m flag).sbuf =
        encodeAll (as.map Setting.value) ++ ((Value.str pair.2).encode ++ rest) := by
  obtain ⟨sections, hbody, hstart⟩ := h.body
  obtain ⟨pair, hmem, rest, hrest⟩ :=
    hstart.withSection object event flag (trailer m.sbuf.length)
  refine ⟨pair, hmem, rest, ?_⟩
  rw [← hrest, RbusCore.withEvent, hbody]
  simp only [List.append_assoc]

/-- The values of the body of an event are delivered. -/
theorem Carries.delivers
    {m r : RbusMessage U}
    (h : Carries as published m)
    (hwhole : Whole r m.sbuf)
    (hsize : eventSize as published < 2 ^ 31 - 2 ^ 15) :
    Delivers r (as.map Setting.value) := by
  obtain ⟨sections, hbody, -⟩ := h.body
  have hlen := h.size
  have hpart := congrArg List.length hbody
  rw [List.length_append] at hpart
  rw [hbody] at hwhole
  exact hwhole.delivers (by omega)

/-- The bytes of a publish are a complete event message: the section is that of the publish,
and the cursor is put back to the start. -/
theorem Carries.eventMessage
    {m : RbusMessage U}
    (h : Carries as published m)
    (hflag : flag = 0 ∨ flag = 1)
    (object event : CString)
    (hsize : eventSize as (published ++ [(object, event)]) < 2 ^ 31 - 2 ^ 15) :
    ∃ region, ∃ body : RbusMessage U,
      EventMessage (rbusMessageToBytes (RbusCore.withEvent object event m flag)) region event
        flag.toInt body ∧
      Whole body (RbusCore.withEvent object event m flag).sbuf := by
  have hlen := (h.withEvent hflag object event).size
  have hbytes := rbusMessageToBytes_of_lt (m := RbusCore.withEvent object event m flag) (by omega)
  obtain ⟨r, hr⟩ : ∃ r : RbusMessage U,
      r = rbusMessageFromBytes (rbusMessageToBytes (RbusCore.withEvent object event m flag)) :=
    ⟨_, rfl⟩
  have hbuf : r.sbuf = m.sbuf ++ encodeAll (eventValues object event flag) ++
      trailer m.sbuf.length := by
    rw [hr, hbytes, rbusMessageFromBytes, RbusCore.withEvent]
  have hcursor : r.readOffset = 0 := by rw [hr, rbusMessageFromBytes]
  have hshort : r.sbuf.length < 2 ^ 31 - 2 ^ 15 := by
    have hsame : r.sbuf = (RbusCore.withEvent object event m flag).sbuf := hbuf
    rw [hsame]
    omega
  have hread := metaSection_read (r := r) (eventValues object event flag) hbuf hshort (by omega)
  simp only [eventValues, List.map_cons, List.map_nil, rbusMessageGets, Value.kind,
    List.cons.injEq, and_true, rbusMessageGet, Value.reading, Option.map_eq_some_iff] at hread
  obtain ⟨⟨⟨q, hname, htext⟩, ⟨q', hobject, -⟩, ⟨i, hint, hi⟩⟩, hend⟩ := hread
  obtain ⟨g₁, hg₁⟩ : ∃ g, rbusMessageGetString (rbusMessageBeginMetaSectionRead r) = g :=
    ⟨_, rfl⟩
  rw [hg₁] at hname htext hobject hint hend
  obtain ⟨g₂, hg₂⟩ : ∃ g, rbusMessageGetString g₁.2 = g := ⟨_, rfl⟩
  rw [hg₂] at hobject hint hend
  obtain ⟨g₃, hg₃⟩ : ∃ g, rbusMessageGetInt32 g₂.2 = g := ⟨_, rfl⟩
  rw [hg₃] at hint hend
  refine ⟨g₁.2.sbuf.drop q.offset, { r with metaOffset := toInt32 r.readOffset },
    ⟨Reading.str.inj htext, g₁.2, some (g₂.2.sbuf.drop q'.offset), g₂.2, g₃.2, ?_, ?_, ?_, ?_⟩, ?_⟩
  · rw [messageApi_beginMetaSectionRead, messageApi_getString, messageApi_fromBytes, ← hr, hg₁,
      hname, Option.map_some]
  · rw [messageApi_getString, hg₂, hobject, Option.map_some]
  · have hread : i = flag.toInt := Reading.int32.inj hi
    rw [messageApi_getInt32, hg₃, ← hread, ← hint]
  · rw [messageApi_endMetaSectionRead, hend]
  · exact ⟨hbuf, hcursor⟩

end Sections

section Publishing

variable {U : Unpacker} {as : List (Setting U)} {published : List (CString × CString)}
variable {object event : CString} {w : World (RbusMessage U) (List UInt8)}
variable {R : (e : Call (RbusMessage U) (List UInt8)) → World (RbusMessage U) (List UInt8) →
  e.Answer → World (RbusMessage U) (List UInt8) → Prop}

/-- Sends of the bytes of one message in the name of one object, and nothing else. -/
def sending
    (R : (e : Call (RbusMessage U) (List UInt8)) → World (RbusMessage U) (List UInt8) →
      e.Answer → World (RbusMessage U) (List UInt8) → Prop)
    (object : CString) (m : RbusMessage U) :
    Contract (Call.Answer (M := RbusMessage U) (W := List UInt8))
      (World (RbusMessage U) (List UInt8)) where
  env := R
  atCall e _ := object.strlen < maxObjectNameLength ∧
    ∃ con listener, e = .sendBinaryDirect con (rbusMessageToBytes m) listener object
  atUndef _ := True

theorem sat_rbusSendMessage
    (out : MessageRef (RbusMessage U)) (listener : CString)
    (hlegal : object.strlen < maxObjectNameLength) :
    Program.Sat (sending R object out.val) (rbusSendMessage out listener object)
      (fun _ _ => True) w := by
  rw [rbusSendMessage, Program.sat_bind, Program.sat_getState, Program.sat_ite]
  split
  · trivial
  · rw [Program.sat_bind, sat_gConnectionPtr, Program.sat_bind, sat_call]
    exact ⟨⟨hlegal, _, _, rfl⟩, fun _ _ _ => trivial⟩

theorem sat_sendToListeners
    (out : MessageRef (RbusMessage U))
    (hlegal : object.strlen < maxObjectNameLength)
    (listeners : List CString) :
    Program.Sat (sending R object out.val) (sendToListeners out object listeners)
      (fun _ _ => True) w := by
  induction listeners generalizing w with
  | nil =>
      trivial
  | cons listener listeners ih =>
      rw [sendToListeners]
      exact Program.Sat.bind (sat_rbusSendMessage out listener hlegal) fun _ _ _ => ih

theorem sat_getObject_sending
    {m : RbusMessage U}
    (name : CString) :
    Program.Sat (sending R object m) (getObject (some name)) (fun _ _ => True) w := by
  rw [getObject]
  refine Program.Sat.bind (P := fun _ _ => True) ?_ fun objects w _ => ?_
  · rw [serverObjects, Program.sat_bind, Program.sat_getState]
    cases w.gServerObjects <;> trivial
  · cases objects <;> trivial

/-- A publish leaves the message alone or appends its section, and sends what it leaves. -/
theorem sat_rbusPublishEvent
    (out : MessageRef (RbusMessage U))
    (h : Carries as published out.val)
    (hsize : eventSize as (published ++ [(object, event)]) < 2 ^ 31 - 2 ^ 15) :
    Program.Sat (sending R object (withEvent object event out.val))
      (rbusPublishEvent (some object) (some event) out)
      (fun r _ => Carries as (published ++ [(object, event)]) r.2.val) w := by
  have hkept : Carries as (published ++ [(object, event)]) out.val := h.append object event
  have hwritten := h.withEvent (Or.inl rfl) object event
  have hzero : (0 : Int) = (0 : Int32).toInt := rfl
  rw [rbusPublishEvent, Program.sat_bind, Program.sat_getState, Program.sat_ite]
  split
  · exact hkept
  · rw [Program.sat_bind, sat_deref_some, Program.sat_ite]
    split
    case isTrue =>
      exact hkept
    case isFalse hlegal =>
      dsimp only [Option.getD_some]
      rw [hzero, h.setEventMetaSection (Or.inl rfl) hsize, pure_bind, Program.sat_bind, sat_lock]
      refine Program.Sat.bind (sat_getObject_sending object) fun found w _ => ?_
      cases found with
      | none =>
          exact hwritten
      | some obj =>
          dsimp only
          cases rtVectorFind serverEventCompare obj.subscriptions event with
          | none =>
              exact hwritten
          | some e =>
              dsimp only
              refine Program.Sat.bind (sat_sendToListeners ⟨out.ptr, _⟩
                (Nat.lt_of_not_le hlegal) e.listeners) fun _ _ _ => ?_
              exact hwritten

/-- A message that was built by setters and published some times, from any states of the
provider. -/
inductive Published
    (R : (e : Call (RbusMessage U) (List UInt8)) → World (RbusMessage U) (List UInt8) →
      e.Answer → World (RbusMessage U) (List UInt8) → Prop)
    (as : List (Setting U)) : List (CString × CString) → RbusMessage U → Prop
  | built {m : RbusMessage U}
      (hset : rbusMessageSets rbusMessageInit as = some m) :
      Published R as [] m
  | publish {published : List (CString × CString)} {m : RbusMessage U} {object event : CString}
      {p : Ptr} {ret : RbusError} {out : MessageRef (RbusMessage U)}
      {w w' : World (RbusMessage U) (List UInt8)}
      (h : Published R as published m)
      (hpublish : Program.Returns R (rbusPublishEvent (some object) (some event) ⟨p, m⟩) w
        (ret, out) w') :
      Published R as (published ++ [(object, event)]) out.val

theorem Published.carries
    {m : RbusMessage U}
    (h : Published R as published m)
    (hsize : eventSize as published < 2 ^ 31 - 2 ^ 15) :
    Carries as published m := by
  induction h with
  | built hset =>
      exact carries_of_sets hset hsize
  | @publish published m object event p ret out w w' _ hpublish ih =>
      have hearlier : eventSize as published < 2 ^ 31 - 2 ^ 15 := by
        rw [eventSize_append] at hsize
        omega
      have hsat := sat_rbusPublishEvent (R := R) (w := w) ⟨p, m⟩ (ih hearlier) hsize
      exact Program.returns_of_sat (a := (ret, out)) (fun _ _ _ _ hR => hR) hsat hpublish

/--
Events from the publisher to the callback.  A message is built by setters and published any
number of times, for any pairs of object and event and from any states of the provider, and
now once more; whatever the calls answer, each buffer that this publish sends carries the name
of its object, and delivered to any client whose table has exactly one entry for the event, an
entry under that object, it makes `master_event_callback` call the callback of this entry, once,
with that object, with that event, and with a message that delivers the values of the body.
-/
theorem published_event_delivered
    {m : RbusMessage U} {p : Ptr} {con : Option Ptr} {data : List UInt8}
    {listener sender : CString} {provider provider' : World (RbusMessage U) (List UInt8)}
    (hdr : RtMessageHeader)
    (client : World (RbusMessage U) (List UInt8))
    (subs : List ClientSubscription)
    (entry : ClientEvent)
    (hpublished : Published R as published m)
    (hsize : eventSize as (published ++ [(object, event)]) < 2 ^ 31 - 2 ^ 15)
    (hsent : Program.Waits R (rbusPublishEvent (some object) (some event) ⟨p, m⟩) provider
      (.sendBinaryDirect con data listener sender) provider')
    (htable : client.gEventSubscriptionsForClient = .live subs)
    (hentry : (tableEntries subs).filter (isEntryOf object event) = [(object, entry)])
    (hreply : hdr.replyTopic = object) :
    sender = object ∧
      ∃ region, ∃ body : RbusMessage U,
        CString.ofMemory region = some event ∧
        Delivers body (as.map Setting.value) ∧
        HandsOver (masterEventCallback (M := RbusMessage U) hdr data client) entry.callback object
          region body entry.data := by
  have hearlier : eventSize as published < 2 ^ 31 - 2 ^ 15 := by
    rw [eventSize_append] at hsize
    omega
  have hcarries := hpublished.carries hearlier
  have hsat := sat_rbusPublishEvent (R := R) (w := provider) ⟨p, m⟩ hcarries hsize
  obtain ⟨hlegal, con', listener', hsend⟩ :=
    Program.waits_of_sat (fun _ _ _ _ hR => hR) hsat hsent
  obtain ⟨-, hdata, -, hsender⟩ := Call.sendBinaryDirect.inj hsend
  obtain ⟨region, body, hevent, hwhole⟩ := hcarries.eventMessage (Or.inl rfl) object event hsize
  rw [← hdata] at hevent
  refine ⟨hsender, region, body, hevent.terminated,
    (hcarries.withEvent (Or.inl rfl) object event).delivers hwhole hsize, ?_⟩
  rw [← hreply] at hlegal hentry ⊢
  exact masterEventCallback_table hlegal hevent htable (findDelivery_of_unique hentry)
    (Or.inl rfl)

end Publishing

section Run

/-- A connected provider of the event `e` of the object `o`, with one listener. -/
def sampleEventProvider : World Bytes (List UInt8) :=
  { sampleCaller with
    gServerObjects := .live
      [{ sampleObject with
        subscriptions := [⟨sampleEventName, 1, [sampleInbox], none, 0⟩] }] }

/-- A client with one entry, for this event. -/
def sampleEventClient : World Bytes (List UInt8) :=
  { sampleCaller with
    gEventSubscriptionsForClient := .live
      [⟨1, sampleObjectName, [⟨sampleEventName, 7, 0⟩]⟩] }

/-- A transport that accepts everything. -/
def acceptingAnswer :
    (e : Call Bytes (List UInt8)) → World Bytes (List UInt8) →
      Option (e.Answer × World Bytes (List UInt8))
  | .sendBinaryDirect .., w => some (.rtOk, w)
  | _, _ => none

/-- A message with one number is published twice, and the second buffer is delivered. -/
theorem second_publish_delivered :
    ∃ (m : Bytes) (data region : List UInt8) (body : Bytes) (provider' : World Bytes (List UInt8)),
      Published (fun _ _ _ _ => True) [.int32 7] [(.ofChars ['o'], .ofChars ['e'])] m ∧
      Program.Waits (fun _ _ _ _ => True)
        (rbusPublishEvent (some (.ofChars ['o'])) (some (.ofChars ['e'])) ⟨5, m⟩)
        sampleEventProvider
        (.sendBinaryDirect (some 9) data (.ofChars ['c']) (.ofChars ['o'])) provider' ∧
      Delivers body [.int32 7] ∧
      HandsOver (masterEventCallback (M := Bytes)
        { sampleHeader 1 with replyTopic := .ofChars ['o'] } data sampleEventClient) 7
        (.ofChars ['o']) region body 0 := by
  let publish (m : Bytes) : CoreM Bytes (List UInt8) (RbusError × MessageRef Bytes) :=
    rbusPublishEvent (some (.ofChars ['o'])) (some (.ofChars ['e'])) ⟨5, m⟩
  let m : Bytes := { sampleNumber 7 with
    sbuf := [7, 0xa2, 0x65, 0, 0xa2, 0x6f, 0, 0, 0xd2, 0, 0, 0, 1]
    metaOffset := 1 }
  have hfirst : ((publish (sampleNumber 7) sampleEventProvider).run acceptingAnswer).map
      (fun r => r.1.2.val) = some m := by
    decide +kernel
  obtain ⟨⟨⟨ret, out⟩, w'⟩, hrun, hout⟩ := Option.map_eq_some_iff.mp hfirst
  have hreturns := Program.returns_of_run (R := fun _ _ _ _ => True) (fun _ _ _ _ _ => trivial) hrun
  have hpublished : Published (fun _ _ _ _ => True) [.int32 7]
      [(.ofChars ['o'], .ofChars ['e'])] m :=
    hout ▸ .publish (.built (by decide +kernel)) hreturns
  have hsecond : ∃ data w'', (publish m sampleEventProvider).firstCall =
      some (.sendBinaryDirect (some 9) data (.ofChars ['c']) (.ofChars ['o']), w'') :=
    ⟨_, _, rfl⟩
  obtain ⟨data, w'', hcall⟩ := hsecond
  have hwaits := Program.waits_of_firstCall (R := fun _ _ _ _ => True) hcall
  obtain ⟨-, region, body, -, hdelivers, hhanded⟩ :=
    published_event_delivered { sampleHeader 1 with replyTopic := .ofChars ['o'] }
      sampleEventClient _ ⟨⟨.ofChars ['e'], by decide⟩, 7, 0⟩ hpublished (by decide +kernel)
      hwaits rfl (by decide +kernel) rfl
  exact ⟨m, data, region, body, w'', hpublished, hwaits, hdelivers, hhanded⟩

end Run

end RbusCore
