import RbusCore.Frames
import RbusCore.Message

/-!
# The client's table of subscriptions

The table is a vector of objects, each with its vector of events.  An entry is an event of an
object.  Subscribing enters it before the request is sent and takes it back when the request
fails; unsubscribing removes it first.

**Results.**
* `entries_insertEvent`, `entries_removeEvent`: what the two changes do to the entries.
* `removeEvent_insertEvent`: taking a new entry back restores the table.
* `sat_subscribeChecked`, `sat_rbusUnsubscribeFromEvent`: the effects of the operations.
* `client_table_effects`: in every run the table is well formed, a failed subscribe leaves it
  as it was, a successful one leaves one entry, and an unsubscribe removes just that.
-/

namespace RbusCore

open CStrings Resumption

section Entries

/-- The name of an event. -/
abbrev ClientEvent.key (e : ClientEvent) : CString := e.name.val

/-- The name of an object. -/
abbrev ClientSubscription.key (s : ClientSubscription) : CString := s.object.val

/-- A change of the events of an object. -/
def ClientSubscription.withEvents
    (f : List ClientEvent → List ClientEvent) (s : ClientSubscription) : ClientSubscription :=
  { s with events := f s.events }

@[simp] theorem ClientSubscription.withEvents_key
    (f : List ClientEvent → List ClientEvent)
    (s : ClientSubscription) :
    (s.withEvents f).key = s.key :=
  rfl

@[simp] theorem ClientSubscription.withEvents_ptr
    (f : List ClientEvent → List ClientEvent)
    (s : ClientSubscription) :
    (s.withEvents f).ptr = s.ptr :=
  rfl

@[simp] theorem ClientSubscription.withEvents_events
    (f : List ClientEvent → List ClientEvent)
    (s : ClientSubscription) :
    (s.withEvents f).events = f s.events :=
  rfl

/-- The entries of the table, in order. -/
def tableEntries (subs : List ClientSubscription) : List (CString × ClientEvent) :=
  subs.flatMap fun s => s.events.map fun e => (s.key, e)

/-- The entries for an event of an object. -/
def isEntryFor (object event : CString) (entry : CString × ClientEvent) : Bool :=
  decide (entry.1 = object ∧ entry.2.key = event)

/-- The subscription to an event of an object. -/
def findEntry (object event : CString) (subs : List ClientSubscription) : Option ClientEvent :=
  (KeyedList.lookup ClientSubscription.key object subs).bind fun s =>
    KeyedList.lookup ClientEvent.key event s.events

/-- What holds of the table between the operations. -/
structure TableInv (nextPtr : Ptr) (subs : List ClientSubscription) : Prop where
  objects : KeyedList.Distinct ClientSubscription.key subs
  addresses : KeyedList.Distinct ClientSubscription.ptr subs
  allocated : ∀ s ∈ subs, s.ptr < nextPtr
  nonempty : ∀ s ∈ subs, s.events ≠ []
  events : ∀ s ∈ subs, KeyedList.Distinct ClientEvent.key s.events

/-- A new event, with an object at `p` when the object is new, too. -/
def insertEvent
    (p : Ptr) (object : BoundedName maxObjectNameLength) (event : ClientEvent)
    (subs : List ClientSubscription) : List ClientSubscription :=
  if (KeyedList.lookup ClientSubscription.key object.val subs).isSome then
    KeyedList.modify ClientSubscription.key object.val
      (ClientSubscription.withEvents fun events => events ++ [event]) subs
  else subs ++ [{ ptr := p, object := object, events := [event] }]

/-- The removal of an event, and of the object that is left without events. -/
def removeEvent
    (object event : CString) (subs : List ClientSubscription) : List ClientSubscription :=
  (KeyedList.modify ClientSubscription.key object
    (ClientSubscription.withEvents (KeyedList.erase ClientEvent.key event)) subs).filter
      fun s => s.events ≠ []

variable {nextPtr : Ptr} {subs : List ClientSubscription}

theorem find_subscription
    (key : CString) :
    rtVectorFind clientSubscriptionCompare subs key =
      KeyedList.lookup ClientSubscription.key key subs :=
  rtVectorFind_eq_lookup clientSubscriptionCompare_eq_zero_iff subs key

theorem find_clientEvent
    (events : List ClientEvent)
    (key : CString) :
    rtVectorFind clientEventCompare events key = KeyedList.lookup ClientEvent.key key events :=
  rtVectorFind_eq_lookup clientEventCompare_eq_zero_iff events key

theorem remove_subscription
    (key : CString) :
    rtVectorRemoveFound clientSubscriptionCompare key subs =
      KeyedList.erase ClientSubscription.key key subs :=
  rtVectorRemoveFound_eq_erase clientSubscriptionCompare_eq_zero_iff key subs

theorem remove_clientEvent
    (events : List ClientEvent)
    (key : CString) :
    rtVectorRemoveFound clientEventCompare key events =
      KeyedList.erase ClientEvent.key key events :=
  rtVectorRemoveFound_eq_erase clientEventCompare_eq_zero_iff key events

/-- The table of a new connection. -/
theorem tableInv_nil : TableInv nextPtr [] where
  objects := KeyedList.distinct_nil
  addresses := KeyedList.distinct_nil
  allocated := by simp
  nonempty := by simp
  events := by simp

theorem TableInv.mono
    {nextPtr' : Ptr}
    (h : TableInv nextPtr subs)
    (hle : nextPtr ≤ nextPtr') :
    TableInv nextPtr' subs :=
  { h with allocated := fun s hs => Nat.lt_of_lt_of_le (h.allocated s hs) hle }

theorem TableInv.tail
    {s : ClientSubscription}
    (h : TableInv nextPtr (s :: subs)) :
    TableInv nextPtr subs where
  objects := (KeyedList.distinct_cons.mp h.objects).2
  addresses := (KeyedList.distinct_cons.mp h.addresses).2
  allocated := fun t ht => h.allocated t (List.mem_cons_of_mem s ht)
  nonempty := fun t ht => h.nonempty t (List.mem_cons_of_mem s ht)
  events := fun t ht => h.events t (List.mem_cons_of_mem s ht)

/-- The entries of one object. -/
theorem filter_objectEntries
    {s : ClientSubscription}
    (hs : KeyedList.Distinct ClientEvent.key s.events)
    (object event : CString) :
    (s.events.map fun e => (s.key, e)).filter (isEntryFor object event) =
      if s.key = object then
        (KeyedList.lookup ClientEvent.key event s.events).toList.map fun e => (object, e)
      else [] := by
  rw [List.filter_map]
  split
  case isTrue hkey =>
    subst hkey
    rw [← hs.filter_eq_lookup event]
    congr 1
    exact List.filter_congr fun e _ => by simp [isEntryFor]
  case isFalse hkey =>
    rw [List.filter_eq_nil_iff.mpr fun e _ => by simp [isEntryFor, hkey], List.map_nil]

/-- The entries for an event of an object are the one that is found. -/
theorem TableInv.entries_filter
    (h : TableInv nextPtr subs)
    (object event : CString) :
    (tableEntries subs).filter (isEntryFor object event) =
      (findEntry object event subs).toList.map fun e => (object, e) := by
  induction subs with
  | nil =>
      rfl
  | cons s subs ih =>
      have hs := h.events s List.mem_cons_self
      have hrest := ih h.tail
      rw [tableEntries, List.flatMap_cons, List.filter_append, filter_objectEntries hs, findEntry,
        KeyedList.lookup_cons]
      split
      case isTrue hkey =>
        have hfree := (KeyedList.distinct_cons.mp h.objects).1
        rw [hkey] at hfree
        rw [findEntry, hfree] at hrest
        rw [← tableEntries, hrest]
        simp
      case isFalse hkey =>
        rw [← tableEntries, hrest, findEntry, List.nil_append]

end Entries

section Insert

variable {nextPtr : Ptr} {subs : List ClientSubscription}
variable {object : BoundedName maxObjectNameLength} {event : ClientEvent}

theorem insertEvent_of_some
    {s : ClientSubscription}
    (hfound : KeyedList.lookup ClientSubscription.key object.val subs = some s)
    (p : Ptr) :
    insertEvent p object event subs =
      KeyedList.modify ClientSubscription.key object.val
        (ClientSubscription.withEvents fun events => events ++ [event]) subs :=
  if_pos (by rw [hfound]; rfl)

theorem insertEvent_of_none
    (hfound : KeyedList.lookup ClientSubscription.key object.val subs = none)
    (p : Ptr) :
    insertEvent p object event subs =
      subs ++ [{ ptr := p, object := object, events := [event] }] :=
  if_neg (by rw [hfound]; exact Bool.false_ne_true)

/-- A change of the events of one object. -/
theorem TableInv.modify
    {s : ClientSubscription} {f : List ClientEvent → List ClientEvent}
    (h : TableInv nextPtr subs)
    (hfound : KeyedList.lookup ClientSubscription.key s.key subs = some s)
    (hnonempty : f s.events ≠ [])
    (hevents : KeyedList.Distinct ClientEvent.key (f s.events)) :
    TableInv nextPtr (KeyedList.modify ClientSubscription.key s.key
      (ClientSubscription.withEvents f) subs) := by
  refine ⟨h.objects.modify (ClientSubscription.withEvents_key f) _ _,
    h.addresses.modify (ClientSubscription.withEvents_ptr f) _ _, ?_, ?_, ?_⟩
  all_goals
    intro t ht
    obtain ⟨u, hu, rfl⟩ := List.mem_map.mp ht
    have hsame (hkey : u.key = s.key) : u = s :=
      Option.some.inj ((h.objects.lookup_of_mem hu).symm.trans (hkey ▸ hfound))
    split
  case refine_1.isTrue hkey =>
    exact h.allocated u hu
  case refine_1.isFalse hkey =>
    exact h.allocated u hu
  case refine_2.isTrue hkey =>
    rw [hsame hkey]
    exact hnonempty
  case refine_2.isFalse hkey =>
    exact h.nonempty u hu
  case refine_3.isTrue hkey =>
    rw [hsame hkey]
    exact hevents
  case refine_3.isFalse hkey =>
    exact h.events u hu

/-- A new event of an object that is there. -/
theorem TableInv.addEvent
    {s : ClientSubscription}
    (h : TableInv nextPtr subs)
    (hfound : KeyedList.lookup ClientSubscription.key object.val subs = some s)
    (hfree : KeyedList.lookup ClientEvent.key event.key s.events = none)
    (p : Ptr) :
    TableInv nextPtr (insertEvent p object event subs) := by
  have hkey : s.key = object.val := KeyedList.key_of_lookup hfound
  have hevents := (h.events s (KeyedList.mem_of_lookup hfound)).append hfree
  have hmodify := h.modify (f := fun events => events ++ [event]) (hkey.symm ▸ hfound)
    (by simp) hevents
  rw [insertEvent_of_some hfound, ← hkey]
  exact hmodify

/-- A new object with its first event. -/
theorem TableInv.addObject
    (h : TableInv nextPtr subs)
    (hfound : KeyedList.lookup ClientSubscription.key object.val subs = none) :
    TableInv (nextPtr + 1) (insertEvent nextPtr object event subs) := by
  have haddress : KeyedList.lookup ClientSubscription.ptr nextPtr subs = none := by
    refine KeyedList.lookup_eq_none_iff.mpr fun s hs heq => ?_
    exact Nat.lt_irrefl nextPtr (heq ▸ h.allocated s hs)
  rw [insertEvent_of_none hfound]
  refine ⟨h.objects.append hfound, h.addresses.append haddress, ?_, ?_, ?_⟩
  all_goals
    intro s hs
    rcases List.mem_append.mp hs with hold | hnew
  · exact Nat.lt_succ_of_lt (h.allocated s hold)
  · rw [List.mem_singleton.mp hnew]
    exact Nat.lt_succ_self nextPtr
  · exact h.nonempty s hold
  · rw [List.mem_singleton.mp hnew]
    exact List.cons_ne_nil event []
  · exact h.events s hold
  · rw [List.mem_singleton.mp hnew]
    exact KeyedList.distinct_nil.append rfl

/-- What was entered is found. -/
theorem findEntry_insertEvent
    (hfree : findEntry object.val event.key subs = none)
    (p : Ptr) :
    findEntry object.val event.key (insertEvent p object event subs) = some event := by
  cases hfound : KeyedList.lookup ClientSubscription.key object.val subs with
  | some s =>
      rw [findEntry, hfound] at hfree
      rw [insertEvent_of_some hfound, findEntry,
        KeyedList.lookup_modify (ClientSubscription.withEvents_key _), if_pos rfl, hfound]
      exact (KeyedList.lookup_append hfree event.key).trans (if_pos rfl)
  | none =>
      rw [insertEvent_of_none hfound, findEntry]
      let s : ClientSubscription := { ptr := p, object := object, events := [event] }
      have hnew : KeyedList.lookup ClientSubscription.key s.key subs = none := hfound
      rw [KeyedList.lookup_append hnew, if_pos rfl]
      exact (KeyedList.lookup_cons event.key event []).trans (if_pos rfl)

/-- No other entry changes. -/
theorem entries_insertEvent
    (p : Ptr) :
    ((tableEntries (insertEvent p object event subs)).filter
        fun entry => !isEntryFor object.val event.key entry) =
      (tableEntries subs).filter fun entry => !isEntryFor object.val event.key entry := by
  have hself : isEntryFor object.val event.key (object.val, event) = true := by simp [isEntryFor]
  cases hfound : KeyedList.lookup ClientSubscription.key object.val subs with
  | some s =>
      rw [insertEvent_of_some hfound, tableEntries, tableEntries, List.filter_flatMap,
        List.filter_flatMap, KeyedList.modify, List.flatMap_map]
      refine List.flatMap_congr fun t _ => ?_
      split
      case isTrue hkey =>
        simp [hkey, hself]
      case isFalse =>
        rfl
  | none =>
      rw [insertEvent_of_none hfound]
      simp [tableEntries, hself]

end Insert

section Remove

variable {nextPtr : Ptr} {subs : List ClientSubscription}

/-- The objects after the removal of an event, those left without events included. -/
def withoutEvent
    (object event : CString) (subs : List ClientSubscription) : List ClientSubscription :=
  KeyedList.modify ClientSubscription.key object
    (ClientSubscription.withEvents (KeyedList.erase ClientEvent.key event)) subs

theorem removeEvent_eq
    (object event : CString) :
    removeEvent object event subs =
      (withoutEvent object event subs).filter fun s => s.events ≠ [] :=
  rfl

theorem TableInv.withoutEvent_events
    (h : TableInv nextPtr subs)
    (object event : CString) :
    ∀ s ∈ withoutEvent object event subs, KeyedList.Distinct ClientEvent.key s.events := by
  intro s hs
  obtain ⟨t, ht, rfl⟩ := List.mem_map.mp hs
  split
  · exact (h.events t ht).erase event
  · exact h.events t ht

theorem TableInv.removeEvent
    (h : TableInv nextPtr subs)
    (object event : CString) :
    TableInv nextPtr (removeEvent object event subs) := by
  have hobjects : KeyedList.Distinct ClientSubscription.key (withoutEvent object event subs) :=
    h.objects.modify (ClientSubscription.withEvents_key _) _ _
  have haddresses : KeyedList.Distinct ClientSubscription.ptr (withoutEvent object event subs) :=
    h.addresses.modify (ClientSubscription.withEvents_ptr _) _ _
  refine ⟨hobjects.sublist (List.filter_sublist.map _),
    haddresses.sublist (List.filter_sublist.map _), ?_, ?_, ?_⟩
  · intro s hs
    obtain ⟨t, ht, rfl⟩ := List.mem_map.mp (List.mem_of_mem_filter hs)
    split
    · exact h.allocated t ht
    · exact h.allocated t ht
  · intro s hs
    simpa using (List.mem_filter.mp hs).2
  · intro s hs
    exact h.withoutEvent_events object event s (List.mem_of_mem_filter hs)

/-- Exactly the entry for the event goes. -/
theorem TableInv.entries_removeEvent
    (h : TableInv nextPtr subs)
    (object event : CString) :
    tableEntries (RbusCore.removeEvent object event subs) =
      (tableEntries subs).filter fun entry => !isEntryFor object event entry := by
  have hdrop (l : List ClientSubscription) :
      tableEntries (l.filter fun s => s.events ≠ []) = tableEntries l := by
    induction l with
    | nil =>
        rfl
    | cons s l ih =>
        by_cases hs : s.events = []
        · rw [List.filter_cons_of_neg (by simpa using hs), ih]
          simp [tableEntries, hs]
        · rw [List.filter_cons_of_pos (by simpa using hs), tableEntries, List.flatMap_cons,
            ← tableEntries, ih]
          rfl
  rw [removeEvent_eq, hdrop, tableEntries, tableEntries, List.filter_flatMap, withoutEvent,
    KeyedList.modify, List.flatMap_map]
  refine List.flatMap_congr fun s hs => ?_
  rw [List.filter_map]
  split
  case isTrue hkey =>
    rw [ClientSubscription.withEvents_key, ClientSubscription.withEvents_events,
      (h.events s hs).erase_eq_filter]
    congr 1
    exact List.filter_congr fun e _ => by simp [isEntryFor, hkey]
  case isFalse hkey =>
    congr 1
    exact (List.filter_eq_self.mpr fun e _ => by simp [isEntryFor, hkey]).symm

/-- Removing what is not there. -/
theorem TableInv.removeEvent_of_none
    {object event : CString}
    (h : TableInv nextPtr subs)
    (hnone : findEntry object event subs = none) :
    RbusCore.removeEvent object event subs = subs := by
  have hsame : withoutEvent object event subs = subs := by
    refine KeyedList.modify_eq_self fun s hs hkey => ?_
    have hfound := h.objects.lookup_of_mem hs
    rw [findEntry, ← hkey, hfound] at hnone
    rw [ClientSubscription.withEvents, KeyedList.erase_of_lookup_eq_none hnone]
  rw [removeEvent_eq, hsame]
  exact List.filter_eq_self.mpr fun s hs => by simpa using h.nonempty s hs

/-- Taking a new entry back restores the table, its order included. -/
theorem TableInv.removeEvent_insertEvent
    {object : BoundedName maxObjectNameLength} {event : ClientEvent}
    (h : TableInv nextPtr subs)
    (hfree : findEntry object.val event.key subs = none)
    (p : Ptr) :
    RbusCore.removeEvent object.val event.key (insertEvent p object event subs) = subs := by
  have hkept : subs.filter (fun s => s.events ≠ []) = subs :=
    List.filter_eq_self.mpr fun s hs => by simpa using h.nonempty s hs
  cases hfound : KeyedList.lookup ClientSubscription.key object.val subs with
  | some s =>
      have hundone : withoutEvent object.val event.key (insertEvent p object event subs) =
          subs := by
        rw [insertEvent_of_some hfound, withoutEvent,
          KeyedList.modify_modify (ClientSubscription.withEvents_key _)]
        refine KeyedList.modify_eq_self fun t ht hkey => ?_
        have hsame : t = s :=
          Option.some.inj ((h.objects.lookup_of_mem ht).symm.trans (hkey ▸ hfound))
        rw [findEntry, hfound] at hfree
        subst hsame
        exact congrArg (fun events => { t with events := events }) (KeyedList.erase_append hfree)
      rw [removeEvent_eq, hundone, hkept]
  | none =>
      have hold : withoutEvent object.val event.key subs = subs :=
        KeyedList.modify_eq_self fun t ht hkey =>
          absurd hkey (KeyedList.lookup_eq_none_iff.mp hfound t ht)
      have hnew : withoutEvent object.val event.key
          [{ ptr := p, object := object, events := [event] }] =
            [{ ptr := p, object := object, events := [] }] := by
        simp [withoutEvent, KeyedList.modify, KeyedList.erase, ClientSubscription.withEvents]
      rw [removeEvent_eq, insertEvent_of_none hfound, withoutEvent, KeyedList.modify_append,
        ← withoutEvent, ← withoutEvent, hold, hnew, List.filter_append, hkept]
      simp

/-- An object that keeps an event stays. -/
theorem TableInv.removeEvent_of_left
    {object event : CString} {s : ClientSubscription}
    (h : TableInv nextPtr subs)
    (hfound : KeyedList.lookup ClientSubscription.key object subs = some s)
    (hleft : KeyedList.erase ClientEvent.key event s.events ≠ []) :
    RbusCore.removeEvent object event subs = withoutEvent object event subs := by
  refine List.filter_eq_self.mpr fun t ht => ?_
  obtain ⟨u, hu, rfl⟩ := List.mem_map.mp ht
  split
  case isTrue hkey =>
    have hsame := (h.objects.lookup_of_mem hu).symm.trans (hkey ▸ hfound)
    rw [Option.some.inj hsame]
    exact decide_eq_true hleft
  case isFalse =>
    simpa using h.nonempty u hu

/-- An object that loses its last event goes. -/
theorem TableInv.removeEvent_of_last
    {object event : CString} {s : ClientSubscription}
    (h : TableInv nextPtr subs)
    (hfound : KeyedList.lookup ClientSubscription.key object subs = some s)
    (hlast : KeyedList.erase ClientEvent.key event s.events = []) :
    RbusCore.removeEvent object event subs =
      KeyedList.erase ClientSubscription.key object (withoutEvent object event subs) := by
  have hobjects : KeyedList.Distinct ClientSubscription.key (withoutEvent object event subs) :=
    h.objects.modify (ClientSubscription.withEvents_key _) _ _
  rw [hobjects.erase_eq_filter]
  refine List.filter_congr fun t ht => ?_
  obtain ⟨u, hu, rfl⟩ := List.mem_map.mp ht
  split
  case isTrue hkey =>
    have hsame := (h.objects.lookup_of_mem hu).symm.trans (hkey ▸ hfound)
    rw [ClientSubscription.withEvents_events, ClientSubscription.withEvents_key, hkey,
      Option.some.inj hsame, hlast]
    simp
  case isFalse hkey =>
    simp [hkey, h.nonempty u hu]

end Remove

section Effects

variable {M W : Type}
variable {C : Contract (Call.Answer (M := M) (W := W)) (World M W)}
variable {subs : List ClientSubscription} {w : World M W}

/-- A process without a master handler that has this table. -/
structure Tabled (subs : List ClientSubscription) (w : World M W) : Prop where
  noMaster : w.gMasterEventCallback = none
  table : w.gEventSubscriptionsForClient = .live subs
  inv : TableInv w.nextPtr subs

theorem Tabled.lock
    (h : Tabled subs w) :
    Program.Sat C lock (fun _ => Tabled subs) w :=
  ⟨h.noMaster, h.table, h.inv⟩

theorem Tabled.unlock
    (h : Tabled subs w) :
    Program.Sat C unlock (fun _ => Tabled subs) w :=
  ⟨h.noMaster, h.table, h.inv⟩

theorem sat_clientSubscriptions
    (h : Tabled subs w)
    (Q : List ClientSubscription → World M W → Prop) :
    Program.Sat C clientSubscriptions Q w ↔ Q subs w := by
  rw [clientSubscriptions, Program.sat_bind, Program.sat_getState, h.table]
  rfl

/-- The object that a lookup finds can be changed through its address. -/
theorem TableInv.updateAt_eq
    {nextPtr : Ptr} {key : CString} {s : ClientSubscription}
    (h : TableInv nextPtr subs)
    (hfound : KeyedList.lookup ClientSubscription.key key subs = some s)
    (f : ClientSubscription → ClientSubscription) :
    updateAt ClientSubscription.ptr s.ptr f subs =
      KeyedList.modify ClientSubscription.key key f subs := by
  have hkey : s.key = key := KeyedList.key_of_lookup hfound
  rw [← hkey]
  exact KeyedList.modify_congr_field h.objects h.addresses (KeyedList.mem_of_lookup hfound) f

/-- What is known after the table has been asked for an entry and given one. -/
def Entered
    (object : BoundedName maxObjectNameLength) (event : ClientEvent)
    (subs : List ClientSubscription) (present : Bool) (w' : World M W) : Prop :=
  match findEntry object.val event.key subs with
  | some _ => present = true ∧ Tabled subs w'
  | none => present = false ∧ ∃ p, Tabled (insertEvent p object event subs) w'

theorem Entered.of_some
    {object : BoundedName maxObjectNameLength} {event e : ClientEvent}
    (hfound : findEntry object.val event.key subs = some e)
    (h : Tabled subs w) :
    Entered object event subs true w := by
  rw [Entered, hfound]
  exact ⟨rfl, h⟩

theorem Entered.of_none
    {object : BoundedName maxObjectNameLength} {event : ClientEvent} {p : Ptr}
    (hfree : findEntry object.val event.key subs = none)
    (h : Tabled (insertEvent p object event subs) w) :
    Entered object event subs false w := by
  rw [Entered, hfree]
  exact ⟨rfl, p, h⟩

theorem sat_addSubscriptionCallback
    (h : Tabled subs w)
    (object : BoundedName maxObjectNameLength) (event : BoundedName maxEventNameLength)
    (callback : Nat) (userData : Ptr) :
    Program.Sat C (addSubscriptionCallback object event callback userData)
      (Entered object { name := event, callback := callback, data := userData } subs) w := by
  let e : ClientEvent := { name := event, callback := callback, data := userData }
  rw [addSubscriptionCallback, Program.sat_bind, sat_clientSubscriptions h, find_subscription]
  cases hfound : KeyedList.lookup ClientSubscription.key object.val subs with
  | some s =>
      have hentry : findEntry object.val event.val subs =
          KeyedList.lookup ClientEvent.key event.val s.events := by
        rw [findEntry, hfound, Option.bind_some]
      dsimp only
      rw [find_clientEvent, ← hentry, Program.sat_ite]
      cases hevent : findEntry object.val event.val subs with
      | some e' =>
          rw [if_pos (by rfl)]
          exact Entered.of_some hevent h
      | none =>
          have hinv : TableInv w.nextPtr (insertEvent 0 object e subs) :=
            h.inv.addEvent hfound (hentry.symm.trans hevent) 0
          rw [if_neg (by simp), Program.sat_bind, addClientEvent, updateSubscription,
            sat_updateClientSubscriptions, h.table, RtVector.update_live,
            h.inv.updateAt_eq hfound]
          refine Entered.of_none (p := 0) hevent ⟨h.noMaster, ?_, hinv⟩
          rw [insertEvent_of_some hfound]
          rfl
  | none =>
      have hfree : findEntry object.val event.val subs = none := by
        rw [findEntry, hfound, Option.bind_none]
      have haddress : ∀ s ∈ subs, s.ptr ≠ w.nextPtr := fun s hs heq =>
        Nat.lt_irrefl w.nextPtr (heq ▸ h.inv.allocated s hs)
      have hold (f : ClientSubscription → ClientSubscription) :
          updateAt ClientSubscription.ptr w.nextPtr f subs = subs :=
        KeyedList.modify_eq_self fun s hs heq => absurd heq (haddress s hs)
      have hinv : TableInv (w.nextPtr + 1) (insertEvent w.nextPtr object e subs) :=
        h.inv.addObject hfound
      rw [Program.sat_bind, clientSubscriptionCreate, Program.sat_bind, sat_rtMalloc,
        Program.sat_pure, Program.sat_bind, sat_updateClientSubscriptions, h.table,
        RtVector.update_live, Program.sat_bind, addClientEvent, updateSubscription,
        sat_updateClientSubscriptions, RtVector.update_live]
      refine Entered.of_none (p := w.nextPtr) hfree ⟨h.noMaster, ?_, hinv⟩
      rw [insertEvent_of_none hfound]
      dsimp only
      rw [updateAt, List.map_append, ← updateAt, hold]
      simp [clientEventCreate]

theorem sat_addUnlessMaster
    (h : Tabled subs w)
    (object : BoundedName maxObjectNameLength) (event : BoundedName maxEventNameLength)
    (callback : Nat) (userData : Ptr) :
    Program.Sat C (addUnlessMaster object event callback userData)
      (Entered object { name := event, callback := callback, data := userData } subs) w := by
  have hmaster : w.gMasterEventCallback.isNone = true := by rw [h.noMaster]; rfl
  rw [addUnlessMaster, Program.sat_bind, Program.sat_getState, if_pos hmaster]
  exact sat_addSubscriptionCallback h object event callback userData

theorem derefSubscription_of_find
    {p : Ptr} {s : ClientSubscription}
    (h : KeyedList.lookup ClientSubscription.ptr p w.gEventSubscriptionsForClient.items = some s) :
    derefSubscription p w = .done s w := by
  rw [KeyedList.lookup] at h
  simp only [derefSubscription, bind, Program.getState, Prog.bind, h]
  rfl

/-- The removal of an event that is there. -/
theorem sat_removeClientEvent
    {object event : CString} {s : ClientSubscription}
    (h : Tabled subs w)
    (hfound : KeyedList.lookup ClientSubscription.key object subs = some s) :
    Program.Sat C (removeClientEvent s.ptr object event)
      (fun _ => Tabled (removeEvent object event subs)) w := by
  have hkey : s.key = object := KeyedList.key_of_lookup hfound
  have hremoved : (fun s : ClientSubscription =>
      { s with events := rtVectorRemoveFound clientEventCompare event s.events }) =
        ClientSubscription.withEvents (KeyedList.erase ClientEvent.key event) := by
    funext t
    rw [remove_clientEvent]
    rfl
  have hupdate : updateAt ClientSubscription.ptr s.ptr
      (ClientSubscription.withEvents (KeyedList.erase ClientEvent.key event)) subs =
        withoutEvent object event subs :=
    h.inv.updateAt_eq hfound _
  have haddress : KeyedList.lookup ClientSubscription.ptr s.ptr (withoutEvent object event subs) =
      some (s.withEvents (KeyedList.erase ClientEvent.key event)) := by
    rw [← hupdate]
    have hptr := h.inv.addresses.lookup_of_mem (KeyedList.mem_of_lookup hfound)
    exact (KeyedList.lookup_modify (ClientSubscription.withEvents_ptr _) s.ptr s.ptr subs).trans
      (by rw [if_pos rfl, hptr]; rfl)
  have hinv := h.inv.removeEvent object event
  rw [removeClientEvent, updateSubscription, hremoved, Program.sat_bind,
    sat_updateClientSubscriptions, h.table, RtVector.update_live, hupdate, Program.sat_bind]
  refine (Program.sat_of_done (derefSubscription_of_find haddress)).mpr ?_
  rw [Program.sat_ite]
  split
  case isTrue hlength =>
    have hlast : KeyedList.erase ClientEvent.key event s.events = [] :=
      List.length_eq_zero_iff.mp hlength
    rw [sat_updateClientSubscriptions, RtVector.update_live, remove_subscription]
    refine ⟨h.noMaster, ?_, hinv⟩
    rw [h.inv.removeEvent_of_last hfound hlast]
  case isFalse hlength =>
    have hleft : KeyedList.erase ClientEvent.key event s.events ≠ [] := fun hlast =>
      hlength (List.length_eq_zero_iff.mpr hlast)
    refine ⟨h.noMaster, ?_, hinv⟩
    rw [h.inv.removeEvent_of_left hfound hleft]

/-- `remove_subscription_callback` removes the entry, if there is one. -/
theorem sat_removeSubscriptionCallback
    (h : Tabled subs w)
    (object event : CString) :
    Program.Sat C (removeSubscriptionCallback object event)
      (fun _ => Tabled (removeEvent object event subs)) w := by
  rw [removeSubscriptionCallback]
  refine h.lock.bind fun _ w h => ?_
  rw [removeSubscriptionLocked, Program.sat_bind, sat_clientSubscriptions h, find_subscription]
  cases hfound : KeyedList.lookup ClientSubscription.key object subs with
  | none =>
      have hnone : findEntry object event subs = none := by rw [findEntry, hfound, Option.bind_none]
      rw [h.inv.removeEvent_of_none hnone]
      exact h.unlock.bind fun _ _ h => h
  | some s =>
      dsimp only
      rw [find_clientEvent]
      cases hevent : KeyedList.lookup ClientEvent.key event s.events with
      | none =>
          have hnone : findEntry object event subs = none := by
            rw [findEntry, hfound, Option.bind_some, hevent]
          rw [h.inv.removeEvent_of_none hnone]
          exact h.unlock.bind fun _ _ h => h
      | some e =>
          exact (sat_removeClientEvent h hfound).bind fun _ _ h => h.unlock.bind fun _ _ h => h

theorem sat_removeUnlessMaster
    (h : Tabled subs w)
    (object event : CString) :
    Program.Sat C (removeUnlessMaster object event)
      (fun _ => Tabled (removeEvent object event subs)) w := by
  have hmaster : w.gMasterEventCallback.isNone = true := by rw [h.noMaster]; rfl
  rw [removeUnlessMaster, Program.sat_bind, Program.sat_getState, if_pos hmaster]
  exact (sat_removeSubscriptionCallback h object event).bind fun _ _ h => h

theorem sat_rollbackUnlessMaster
    (h : Tabled subs w)
    (object event : CString) :
    Program.Sat C (rollbackUnlessMaster object event)
      (fun _ => Tabled (removeEvent object event subs)) w := by
  have hmaster : w.gMasterEventCallback.isNone = true := by rw [h.noMaster]; rfl
  rw [rollbackUnlessMaster, Program.sat_bind, Program.sat_getState, if_pos hmaster]
  refine h.lock.bind fun _ w h => ?_
  exact (sat_removeSubscriptionCallback h object event).bind fun _ _ h => h.unlock

/-- The table does not depend on the start of event dispatch. -/
theorem sat_startEventDispatch
    (hsteady : Steady C (Tabled subs))
    (h : Tabled subs w) :
    Program.Sat C startEventDispatch (fun _ => Tabled subs) w := by
  exact keeps_startEventDispatch hsteady (fun w _ h => ⟨h.noMaster, h.table, h.inv⟩)
    (fun w h => ⟨h.noMaster, h.table, h.inv⟩) w h

/-- The effect of a call that subscribes to an event: only success enters it, unless it is
there already. -/
structure SubscribeEffect
    (object : BoundedName maxObjectNameLength) (event : ClientEvent)
    (subs : List ClientSubscription) (ret : RbusError) (w' : World M W) : Prop where
  failed : ret ≠ .success → Tabled subs w'
  present : ret = .success → (findEntry object.val event.key subs).isSome → Tabled subs w'
  entered : ret = .success → findEntry object.val event.key subs = none →
    ∃ p, Tabled (insertEvent p object event subs) w'

theorem SubscribeEffect.of_failed
    {object : BoundedName maxObjectNameLength} {event : ClientEvent} {ret : RbusError}
    (hret : ret ≠ .success)
    (h : Tabled subs w) :
    SubscribeEffect object event subs ret w :=
  ⟨fun _ => h, fun heq => absurd heq hret, fun heq => absurd heq hret⟩

theorem SubscribeEffect.of_present
    {object : BoundedName maxObjectNameLength} {event e : ClientEvent}
    (hfound : findEntry object.val event.key subs = some e)
    (h : Tabled subs w) :
    SubscribeEffect object event subs .success w where
  failed := fun hne => absurd rfl hne
  present := fun _ _ => h
  entered := fun _ hnone => absurd (hfound.symm.trans hnone) (Option.some_ne_none e)

theorem SubscribeEffect.of_entered
    {object : BoundedName maxObjectNameLength} {event : ClientEvent} {p : Ptr}
    (hfree : findEntry object.val event.key subs = none)
    (h : Tabled (insertEvent p object event subs) w) :
    SubscribeEffect object event subs .success w where
  failed := fun hne => absurd rfl hne
  present := fun _ hsome => by
    rw [hfree] at hsome
    cases hsome
  entered := fun _ _ => ⟨p, h⟩

variable [MessageApi M W]

theorem sat_subscribeChecked
    (hsteady : ∀ subs, Steady C (Tabled subs))
    (h : Tabled subs w)
    (object : BoundedName maxObjectNameLength) (event : BoundedName maxEventNameLength)
    (callback : Nat) (payload : Option (MessageRef M)) (userData : Ptr) (timeout : Int) :
    Program.Sat C (subscribeChecked object event callback payload userData timeout)
      (fun ret => SubscribeEffect object
        { name := event, callback := callback, data := userData } subs ret.1) w := by
  let e : ClientEvent := { name := event, callback := callback, data := userData }
  rw [subscribeChecked]
  refine h.lock.bind fun _ w h => ?_
  refine (sat_startEventDispatch (hsteady subs) h).bind fun _ w h => ?_
  refine (sat_addUnlessMaster h object event callback userData).bind fun present w hentered => ?_
  cases hfound : findEntry object.val e.key subs with
  | some e' =>
      rw [Entered, hfound] at hentered
      obtain ⟨rfl, h⟩ := hentered
      refine h.unlock.bind fun _ w h => ?_
      rw [if_pos rfl]
      exact SubscribeEffect.of_present hfound h
  | none =>
      rw [Entered, hfound] at hentered
      obtain ⟨rfl, p, hnew⟩ := hentered
      refine hnew.unlock.bind fun _ w hnew => ?_
      rw [if_neg Bool.false_ne_true]
      have hsend := keeps_sendSubscriptionRequest (hsteady (insertEvent p object e subs))
        object.val event.val true payload timeout w hnew
      refine hsend.bind fun reply w hnew => ?_
      rw [Program.sat_ite]
      split
      case isTrue hfail =>
        refine (sat_rollbackUnlessMaster hnew object.val event.val).bind fun _ w hback => ?_
        rw [h.inv.removeEvent_insertEvent hfound p] at hback
        exact SubscribeEffect.of_failed hfail hback
      case isFalse hok =>
        have hsuccess : reply.1 = .success := not_not.mp hok
        rw [Program.sat_pure, hsuccess]
        exact SubscribeEffect.of_entered hfound hnew

/-- `rbus_subscribeToEventInternal`, with names within the limits: NULL stands for the event
name. -/
theorem sat_rbusSubscribeToEventInternal
    (hsteady : ∀ subs, Steady C (Tabled subs))
    (h : Tabled subs w)
    (object : Option (BoundedName maxObjectNameLength)) (event : BoundedName maxEventNameLength)
    (callback : Option Nat) (payload : Option (MessageRef M)) (userData : Ptr) (timeout : Int) :
    Program.Sat C
      (rbusSubscribeToEventInternal (object.map Subtype.val) (some event.val) callback payload
        userData timeout)
      (fun ret w' => (ret.1 = .success → callback.isSome = true) ∧
        SubscribeEffect (object.getD event)
          { name := event, callback := callback.getD 0, data := userData } subs ret.1 w') w := by
  have hobject : (object.map Subtype.val <|> some event.val) = some (object.getD event).val := by
    cases object <;> rfl
  unfold rbusSubscribeToEventInternal
  rw [Program.sat_bind, Program.sat_getState, Program.sat_ite]
  by_cases hconnected : w.gConnection.isNone = true
  · rw [if_pos hconnected]
    exact ⟨fun hret => absurd hret (by decide), SubscribeEffect.of_failed (by decide) h⟩
  · rw [if_neg hconnected, hobject]
    cases callback with
    | none =>
        exact ⟨fun hret => absurd hret (by decide), SubscribeEffect.of_failed (by decide) h⟩
    | some callback =>
        dsimp only
        rw [BoundedName.check?_val, Program.sat_bind, sat_deref_some, BoundedName.check?_val]
        exact (sat_subscribeChecked hsteady h _ event callback payload userData timeout).mono
          fun _ _ heffect => ⟨fun _ => rfl, heffect⟩

/-- `rbus_unsubscribeFromEvent`, with names within the limits. -/
theorem sat_rbusUnsubscribeFromEvent
    (hsteady : ∀ subs, Steady C (Tabled subs))
    (h : Tabled subs w)
    (object : Option (BoundedName maxObjectNameLength)) (event : BoundedName maxEventNameLength)
    (payload : Option (MessageRef M)) :
    Program.Sat C
      (rbusUnsubscribeFromEvent (object.map Subtype.val) (some event.val) payload)
      (fun _ => Tabled (removeEvent (object.getD event).val event.val subs)) w := by
  have hobject : (object.map Subtype.val <|> some event.val) = some (object.getD event).val := by
    cases object <;> rfl
  unfold rbusUnsubscribeFromEvent
  rw [hobject]
  dsimp only [Option.getD_some]
  rw [if_neg (Nat.not_le_of_lt (object.getD event).property)]
  refine (sat_removeUnlessMaster h _ event.val).bind fun _ w h => ?_
  have hsend := keeps_sendSubscriptionRequest
    (hsteady (removeEvent (object.getD event).val event.val subs))
    (object.getD event).val event.val false payload 0 w h
  exact hsend.bind fun _ _ h => h

end Effects

section Runs

variable {M W : Type}

/-- What may change while an operation waits, and between operations. -/
structure Undisturbed (w w' : World M W) : Prop where
  connected : w'.gConnection.isSome = w.gConnection.isSome
  master : w'.gMasterEventCallback = w.gMasterEventCallback
  table : w'.gEventSubscriptionsForClient = w.gEventSubscriptionsForClient
  nextPtr : w.nextPtr ≤ w'.nextPtr

/-- Calls with any answer that leave the client alone. -/
def anyAnswer (e : Call M W) (w : World M W) (_ : e.Answer) (w' : World M W) : Prop :=
  Undisturbed w w'

/-- The table has pairwise different objects, none without events, and pairwise different
events of each object. -/
def WellFormedTable (w : World M W) : Prop :=
  ∃ subs, w.gEventSubscriptionsForClient = .live subs ∧
    (subs.map fun s => s.object.val).Nodup ∧
    ∀ s ∈ subs, s.events ≠ [] ∧ (s.events.map fun e => e.name.val).Nodup

theorem Tabled.wellFormed
    {subs : List ClientSubscription} {w : World M W}
    (h : Tabled subs w) :
    WellFormedTable w :=
  ⟨subs, h.table, h.inv.objects, fun s hs => ⟨h.inv.nonempty s hs, h.inv.events s hs⟩⟩

/-- Under this contract the table is well formed whenever an operation waits. -/
def tabling : Contract (Call.Answer (M := M) (W := W)) (World M W) where
  env := anyAnswer
  atCall _ w := WellFormedTable w
  atUndef _ := True

theorem steady_tabling
    (subs : List ClientSubscription) :
    Steady tabling (Tabled subs : World M W → Prop) where
  messages := fun _ _ _ hle h => ⟨h.noMaster, h.table, h.inv.mono hle⟩
  called := fun _ _ _ h => ⟨h.noMaster, h.table, h.inv⟩
  fault := fun _ _ _ h => ⟨h.noMaster, h.table, h.inv⟩
  env := fun _ _ _ _ henv h =>
    ⟨henv.master.trans h.noMaster, henv.table.trans h.table, h.inv.mono henv.nextPtr⟩
  atCall := fun _ _ _ h => h.wellFormed
  atUndef := fun _ _ => trivial

/-- The calls of a client on its table.  The event name is not NULL; NULL as object name
stands for the event name. -/
inductive ClientOp (M : Type) where
  | subscribe (object : Option (BoundedName maxObjectNameLength))
      (event : BoundedName maxEventNameLength) (callback : Option Nat)
      (payload : Option (MessageRef M)) (userData : Ptr)
  | subscribeTimeout (object : Option (BoundedName maxObjectNameLength))
      (event : BoundedName maxEventNameLength) (callback : Option Nat)
      (payload : Option (MessageRef M)) (userData : Ptr) (timeout : Int)
  | unsubscribe (object : Option (BoundedName maxObjectNameLength))
      (event : BoundedName maxEventNameLength) (payload : Option (MessageRef M))

/-- The functions of the library, with their result. -/
def ClientOp.run [MessageApi M W] : ClientOp M → CoreM M W RbusError
  | .subscribe object event callback payload userData => do
      let ret ← rbusSubscribeToEvent (object.map Subtype.val) (some event.val) callback payload
        userData
      pure ret.1
  | .subscribeTimeout object event callback payload userData timeout => do
      let ret ← rbusSubscribeToEventTimeout (object.map Subtype.val) (some event.val) callback
        payload userData timeout
      pure ret.1
  | .unsubscribe object event payload =>
      rbusUnsubscribeFromEvent (object.map Subtype.val) (some event.val) payload

/-- The effect of subscribing: a failed call leaves the table as it was; a successful one
leaves exactly one entry, the earlier one if there was one, and does not touch the others. -/
structure Subscribes
    (object event : CString) (callback : Option Nat) (userData : Ptr) (ret : RbusError)
    (w w' : World M W) : Prop where
  failed : ret ≠ .success → w'.gEventSubscriptionsForClient = w.gEventSubscriptionsForClient
  one : ret = .success → ∃ e,
    (tableEntries w'.gEventSubscriptionsForClient.items).filter (isEntryFor object event) =
      [(object, e)] ∧
    ((tableEntries w.gEventSubscriptionsForClient.items).filter (isEntryFor object event) =
        [(object, e)] ∨
      (tableEntries w.gEventSubscriptionsForClient.items).filter (isEntryFor object event) = [] ∧
        callback = some e.callback ∧ e.data = userData)
  others :
    ((tableEntries w'.gEventSubscriptionsForClient.items).filter
        fun entry => !isEntryFor object event entry) =
      (tableEntries w.gEventSubscriptionsForClient.items).filter
        fun entry => !isEntryFor object event entry

/-- What an operation does to the table. -/
def ClientOp.Effect (ret : RbusError) (w w' : World M W) : ClientOp M → Prop
  | .subscribe object event callback _ userData =>
      Subscribes (object.getD event).val event.val callback userData ret w w'
  | .subscribeTimeout object event callback _ userData _ =>
      Subscribes (object.getD event).val event.val callback userData ret w w'
  | .unsubscribe object event _ =>
      tableEntries w'.gEventSubscriptionsForClient.items =
        (tableEntries w.gEventSubscriptionsForClient.items).filter
          fun entry => !isEntryFor (object.getD event).val event.val entry

variable [MessageApi M W] {w : World M W}

/-- The worlds a client gets to from an opened connection, without a master handler, by
calls made one after another. -/
inductive Subscribing : World M W → Prop
  | opened {w : World M W}
      (hconnected : w.gConnection.isSome = true)
      (hmaster : w.gMasterEventCallback = none)
      (htable : w.gEventSubscriptionsForClient = .live []) :
      Subscribing w
  | idle {w w' : World M W}
      (h : Subscribing w)
      (hidle : Undisturbed w w') :
      Subscribing w'
  | step {w w' : World M W} {op : ClientOp M} {ret : RbusError}
      (h : Subscribing w)
      (hop : Program.Returns anyAnswer op.run w ret w') :
      Subscribing w'

omit [MessageApi M W] in
theorem SubscribeEffect.subscribes
    {object : BoundedName maxObjectNameLength} {event : BoundedName maxEventNameLength}
    {callback : Option Nat} {userData : Ptr} {ret : RbusError}
    {subs : List ClientSubscription} {w' : World M W}
    (h : Tabled subs w)
    (hcallback : ret = .success → callback.isSome = true)
    (heffect : SubscribeEffect object
      { name := event, callback := callback.getD 0, data := userData } subs ret w') :
    Subscribes object.val event.val callback userData ret w w' ∧ ∃ subs', Tabled subs' w' := by
  by_cases hret : ret = .success
  · obtain ⟨cb, rfl⟩ := Option.isSome_iff_exists.mp (hcallback hret)
    let e : ClientEvent := { name := event, callback := cb, data := userData }
    have heffect : SubscribeEffect object e subs ret w' := heffect
    cases hfound : findEntry object.val event.val subs with
    | some e' =>
        have h' := heffect.present hret (by rw [hfound]; rfl)
        have hone := h.inv.entries_filter object.val event.val
        rw [hfound] at hone
        refine ⟨⟨fun hne => absurd hret hne, fun _ => ⟨e', ?_, Or.inl ?_⟩, ?_⟩, subs, h'⟩
        · rw [h'.table]
          exact hone
        · rw [h.table]
          exact hone
        · rw [h'.table, h.table]
    | none =>
        obtain ⟨p, h'⟩ := heffect.entered hret hfound
        have hone := h'.inv.entries_filter object.val e.key
        have hnone := h.inv.entries_filter object.val event.val
        have hfree : findEntry object.val e.key subs = none := hfound
        rw [findEntry_insertEvent hfree p] at hone
        rw [hfound] at hnone
        refine ⟨⟨fun hne => absurd hret hne, fun _ => ⟨e, ?_, Or.inr ⟨?_, rfl, rfl⟩⟩, ?_⟩, _, h'⟩
        · rw [h'.table]
          exact hone
        · rw [h.table]
          exact hnone
        · have hothers : ((tableEntries (insertEvent p object e subs)).filter
              fun entry => !isEntryFor object.val e.key entry) =
                (tableEntries subs).filter fun entry => !isEntryFor object.val e.key entry :=
            entries_insertEvent p
          rw [h'.table, h.table]
          exact hothers
  · have h' := heffect.failed hret
    refine ⟨⟨fun _ => h'.table.trans h.table.symm, fun heq => absurd heq hret, ?_⟩, subs, h'⟩
    rw [h'.table, h.table]

/-- What holds after an operation. -/
theorem sat_clientOp
    {subs : List ClientSubscription}
    (h : Tabled subs w)
    (op : ClientOp M) :
    Program.Sat tabling op.run
      (fun ret w' => op.Effect ret w w' ∧ ∃ subs', Tabled subs' w') w := by
  cases op with
  | subscribe object event callback payload userData =>
      refine (sat_rbusSubscribeToEventInternal steady_tabling h object event callback payload
        userData 0).bind fun ret w' hret => ?_
      exact hret.2.subscribes h hret.1
  | subscribeTimeout object event callback payload userData timeout =>
      refine (sat_rbusSubscribeToEventInternal steady_tabling h object event callback payload
        userData timeout).bind fun ret w' hret => ?_
      exact hret.2.subscribes h hret.1
  | unsubscribe object event payload =>
      refine (sat_rbusUnsubscribeFromEvent steady_tabling h object event payload).mono
        fun ret w' h' => ⟨?_, _, h'⟩
      rw [ClientOp.Effect, h'.table, h.table]
      exact h.inv.entries_removeEvent (object.getD event).val event.val

/-- Every run keeps the invariant of the table. -/
theorem Subscribing.tabled
    (h : Subscribing w) :
    ∃ subs, Tabled subs w := by
  induction h with
  | opened _ hmaster htable =>
      exact ⟨[], hmaster, htable, tableInv_nil⟩
  | idle _ hidle ih =>
      obtain ⟨subs, htabled⟩ := ih
      exact ⟨subs, hidle.master.trans htabled.noMaster, hidle.table.trans htabled.table,
        htabled.inv.mono hidle.nextPtr⟩
  | step _ hop ih =>
      obtain ⟨subs, htabled⟩ := ih
      exact (Program.returns_of_sat (C := tabling) (fun _ _ _ _ henv => henv)
        (sat_clientOp htabled _) hop).2

/--
In every run of a client the table is well formed, also while an operation waits for an answer.
A subscribe that fails leaves it as it was, one that succeeds leaves exactly one entry, and an
unsubscribe removes exactly the entry, whatever the answer.
-/
theorem client_table_effects
    (h : Subscribing w)
    (op : ClientOp M) :
    WellFormedTable w ∧
      (∀ e w', Program.Waits anyAnswer op.run w e w' → WellFormedTable w') ∧
      ∀ ret w', Program.Returns anyAnswer op.run w ret w' →
        WellFormedTable w' ∧ op.Effect ret w w' := by
  obtain ⟨subs, htabled⟩ := h.tabled
  have hsat := sat_clientOp htabled op
  refine ⟨htabled.wellFormed, ?_, ?_⟩
  · intro e w' hwaits
    exact Program.waits_of_sat (C := tabling) (fun _ _ _ _ henv => henv) hsat hwaits
  · intro ret w' hret
    obtain ⟨heffect, subs', htabled'⟩ :=
      Program.returns_of_sat (C := tabling) (fun _ _ _ _ henv => henv) hsat hret
    exact ⟨htabled'.wellFormed, heffect⟩

/-- A client that has just opened a connection. -/
def sampleSubscriber : World Bytes (List UInt8) :=
  { World.initial .empty .empty with
    gConnection := some (sampleConnection 1)
    gServerObjects := .live []
    gEventSubscriptionsForClient := .live []
    nextPtr := 2 }

/-- Subscribing to the event `e` of the object `o`. -/
def sampleSubscribe : ClientOp Bytes :=
  .subscribe (some sampleObjectName) sampleEventName (some 0) none 0

/-- A provider that does not answer. -/
def noAnswer :
    (e : Call Bytes (List UInt8)) → World Bytes (List UInt8) →
      Option (e.Answer × World Bytes (List UInt8))
  | .addDefaultListener .., w => some (.rtOk, w)
  | .sendBinaryRequest .., w => some (.error .rtErrorTimeout, w)
  | _, _ => none

theorem anyAnswer_of_noAnswer
    (e : Call Bytes (List UInt8)) (w : World Bytes (List UInt8)) (a : e.Answer)
    (w' : World Bytes (List UInt8))
    (h : noAnswer e w = some (a, w')) :
    anyAnswer e w a w' := by
  have hsame : w' = w := by
    cases e with
    | addDefaultListener | sendBinaryRequest =>
        exact (Prod.mk.inj (Option.some.inj h)).2.symm
    | _ =>
        cases h
  rw [hsame]
  exact ⟨rfl, rfl, rfl, Nat.le_refl _⟩

/-- The first subscribe of a client times out and leaves the table empty. -/
theorem sampleSubscribe_times_out :
    ∃ w', Program.Returns anyAnswer sampleSubscribe.run sampleSubscriber
        .errorRemoteEndFailedToRespond w' ∧
      WellFormedTable w' ∧ w'.gEventSubscriptionsForClient = .live [] := by
  have hrun : ((sampleSubscribe.run sampleSubscriber).run noAnswer).map Prod.fst =
      some .errorRemoteEndFailedToRespond := by
    decide +kernel
  obtain ⟨⟨ret, w'⟩, hw', rfl⟩ := Option.map_eq_some_iff.mp hrun
  have hreturns := Program.returns_of_run anyAnswer_of_noAnswer hw'
  obtain ⟨-, -, heffects⟩ := client_table_effects
    (Subscribing.opened (w := sampleSubscriber) rfl rfl rfl) sampleSubscribe
  obtain ⟨hwell, heffect⟩ := heffects _ w' hreturns
  exact ⟨w', hreturns, hwell, heffect.failed (by decide)⟩

end Runs

end RbusCore
