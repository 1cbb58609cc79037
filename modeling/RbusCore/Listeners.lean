import RbusCore.HandlerInstallation
import RbusCore.Lib.Membership
import RbusCore.PublishResults

/-!
# The listeners of events

Senders ask to be added to the listeners of an event and to be removed from them, while
objects, methods and events come and go.  What has been asked of an event since it was
registered decides who listens to it, whom its callback is called for, and whom it is sent to.

**Results.**
* `listeners_exact`: an event listens to those whose latest request was to be added, and to
  nobody twice.
* `callbacks_alternate`: the callback of an event is called for the requests that changed the
  listeners, in their order; each sender is added and removed in turn.
* `publish_sends_each_once`: what is published is sent once to each listener, or to nobody.
-/

namespace RbusCore

open CStrings Resumption

section Notifications

variable {M W : Type}

/-- The call of the callback of an event: whom it is called for, and whether he was added. -/
def Event.notification (object event : CString) : Event M W → Option (CString × Bool)
  | .call (.subscribeCallback _ o e listener added _ _) =>
      if o = object ∧ e = event then some (listener, added) else none
  | _ => none

/-- The calls of the callback of an event. -/
def notifications (object event : CString) (log : List (Event M W)) : List (CString × Bool) :=
  log.filterMap (Event.notification object event)

/-- No callback is called for an event of this object. -/
def SilentAt (object : CString) (log : List (Event M W)) : Prop :=
  ∀ event, notifications object event log = []

theorem notifications_append
    (object event : CString) (first second : List (Event M W)) :
    notifications object event (first ++ second) =
      notifications object event first ++ notifications object event second :=
  List.filterMap_append

theorem SilentAt.append
    {object : CString} {first second : List (Event M W)}
    (hfirst : SilentAt object first)
    (hsecond : SilentAt object second) :
    SilentAt object (first ++ second) := by
  intro event
  rw [notifications_append, hfirst event, hsecond event, List.append_nil]

theorem silentAt_nil
    {object : CString} :
    SilentAt object ([] : List (Event M W)) :=
  fun _ => rfl

/-- The entries of the history that are no calls of `sub_callback`. -/
def Event.isSilent : Event M W → Bool
  | .call (.subscribeCallback ..) => false
  | _ => true

theorem silentAt_singleton
    {e : Event M W}
    (he : e.isSilent = true)
    (object : CString) :
    SilentAt object [e] := by
  intro event
  have hnone : e.notification object event = none := by
    unfold Event.notification
    split
    · cases he
    · rfl
  rw [notifications, List.filterMap_cons_none hnone]
  rfl

end Notifications

section Tacit

variable {M W : Type}

/-- An object without what has to do with its methods. -/
def ServerObject.bare (o : ServerObject) : ServerObject :=
  { o with methods := [], processEventSubscriptions := false }

/-- The events of all objects are the same, and no callback has been called. -/
structure Tacit (w₀ w : World M W) : Prop where
  vector : ∃ objects, w.gServerObjects = .live objects ∧
    objects.map ServerObject.bare = w₀.gServerObjects.items.map ServerObject.bare
  nextPtr : w₀.nextPtr ≤ w.nextPtr
  log : ∃ new, w.log = w₀.log ++ new ∧ ∀ object, SilentAt object new

/-- Nothing else happens in the process during a call, whatever the answer. -/
def unheeded : Contract (Call.Answer (M := M) (W := W)) (World M W) where
  env _ w _ w' := w' = w
  atCall _ _ := True
  atUndef _ := True

variable {w₀ w w' : World M W}

theorem Tacit.refl
    {objects : List ServerObject}
    (h : w.gServerObjects = .live objects) :
    Tacit w w where
  vector := ⟨objects, h, by rw [h, RtVector.items_live]⟩
  nextPtr := Nat.le_refl _
  log := ⟨[], (List.append_nil _).symm, fun _ => silentAt_nil⟩

theorem Tacit.trans
    (h : Tacit w₀ w)
    (h' : Tacit w w') :
    Tacit w₀ w' := by
  obtain ⟨⟨objects, hvector, hbare⟩, hnextPtr, new, hlog, hsilent⟩ := h
  obtain ⟨⟨objects', hvector', hbare'⟩, hnextPtr', new', hlog', hsilent'⟩ := h'
  rw [hvector, RtVector.items_live] at hbare'
  refine ⟨⟨objects', hvector', hbare'.trans hbare⟩, hnextPtr.trans hnextPtr', new ++ new', ?_,
    fun object => (hsilent object).append (hsilent' object)⟩
  rw [hlog', hlog, List.append_assoc]

/-- An entry of the history, with the objects and the addresses as they were. -/
theorem Tacit.entry
    (h : Tacit w₀ w)
    {e : Event M W}
    (he : e.isSilent = true)
    (hvector : w'.gServerObjects = w.gServerObjects)
    (hnextPtr : w'.nextPtr = w.nextPtr)
    (hlog : w'.log = w.log ++ [e]) :
    Tacit w₀ w' := by
  obtain ⟨objects, hlive, -⟩ := h.vector
  refine h.trans ⟨⟨objects, hvector.trans hlive, by rw [hlive, RtVector.items_live]⟩,
    hnextPtr.ge, [e], hlog, silentAt_singleton he⟩

theorem map_bare_updateAt
    {f : ServerObject → ServerObject}
    (hf : ∀ o, (f o).bare = o.bare)
    (p : Ptr) (objects : List ServerObject) :
    (updateAt ServerObject.ptr p f objects).map ServerObject.bare =
      objects.map ServerObject.bare := by
  rw [updateAt, List.map_map]
  refine List.map_congr_left fun o _ => ?_
  rw [Function.comp_apply]
  split
  · exact hf o
  · rfl

theorem keeps_updateObject_tacit
    {f : ServerObject → ServerObject}
    (hf : ∀ o, (f o).bare = o.bare)
    (p : Ptr) :
    Program.Keeps unheeded (Tacit w₀) (updateObject p f : CoreM M W Unit) := by
  intro w h
  obtain ⟨objects, hlive, -⟩ := h.vector
  rw [updateObject, sat_updateServerObjects]
  refine h.trans ⟨⟨updateAt ServerObject.ptr p f objects, ?_, ?_⟩, Nat.le_refl _,
    [.write w.mutexOwned], rfl, silentAt_singleton rfl⟩
  · dsimp only
    rw [hlive, RtVector.update_live]
  · rw [hlive, RtVector.items_live]
    exact map_bare_updateAt hf p objects

theorem keeps_lock_tacit :
    Program.Keeps unheeded (Tacit w₀) (lock : CoreM M W Unit) :=
  fun _ h => h.entry rfl rfl rfl rfl

theorem keeps_unlock_tacit :
    Program.Keeps unheeded (Tacit w₀) (unlock : CoreM M W Unit) :=
  fun _ h => h.entry rfl rfl rfl rfl

/-- The mutex is released with a result. -/
theorem keeps_unlock_pure_tacit
    {α : Type}
    (a : α) :
    Program.Keeps unheeded (Tacit w₀) (do unlock; pure a : CoreM M W α) :=
  Program.keeps_bind keeps_unlock_tacit fun _ => Program.keeps_pure a

theorem keeps_deref_tacit
    {α : Type}
    (p : Option α) :
    Program.Keeps unheeded (Tacit w₀) (deref p : CoreM M W α) := by
  cases p with
  | none =>
      exact fun _ _ => trivial
  | some a =>
      exact Program.keeps_pure a

theorem keeps_rtVectorFindDeref_tacit
    {α : Type}
    (compare : α → CString → Int) (xs : List α) (key : Option CString) :
    Program.Keeps unheeded (Tacit w₀)
      (rtVectorFindDeref compare xs key : CoreM M W (Option α)) := by
  cases xs with
  | nil =>
      exact Program.keeps_pure _
  | cons x xs =>
      exact Program.keeps_bind (keeps_deref_tacit key) fun _ => Program.keeps_pure _

theorem keeps_serverObjects_tacit :
    Program.Keeps unheeded (Tacit w₀) (serverObjects : CoreM M W _) := by
  intro w h
  obtain ⟨objects, hlive, -⟩ := h.vector
  rw [sat_serverObjects hlive]
  exact h

theorem keeps_getObject_tacit
    (objectName : Option CString) :
    Program.Keeps unheeded (Tacit w₀)
      (getObject objectName : CoreM M W (Option ServerObject)) :=
  Program.keeps_bind keeps_serverObjects_tacit fun _ => keeps_rtVectorFindDeref_tacit _ _ _

theorem keeps_derefObject_tacit
    (p : Ptr) :
    Program.Keeps unheeded (Tacit w₀) (derefObject p : CoreM M W ServerObject) := by
  refine Program.keeps_bind Program.keeps_getState fun w => ?_
  split
  · exact Program.keeps_pure _
  · exact fun _ _ => trivial

/-- Methods are registered. -/
theorem keeps_registerMethod_tacit
    (objectName methodName : Option CString) (handler : MethodCallback) (userData : Ptr) :
    Program.Keeps unheeded (Tacit w₀)
      (rbusRegisterMethod objectName methodName handler userData : CoreM M W RbusError) := by
  refine Program.keeps_bind (keeps_deref_tacit _) fun methodName => ?_
  split
  · exact Program.keeps_pure _
  · refine Program.keeps_bind keeps_lock_tacit fun _ => ?_
    refine Program.keeps_bind (keeps_getObject_tacit _) fun obj => ?_
    cases obj with
    | none =>
        exact keeps_unlock_pure_tacit _
    | some obj =>
        refine Program.keeps_ite (keeps_unlock_pure_tacit _)
          (Program.keeps_ite (keeps_unlock_pure_tacit _) ?_)
        refine Program.keeps_bind (keeps_updateObject_tacit ?_ _) fun _ =>
          keeps_unlock_pure_tacit _
        exact fun _ => rfl

/-- Methods are unregistered. -/
theorem keeps_unregisterMethod_tacit
    (objectName methodName : Option CString) :
    Program.Keeps unheeded (Tacit w₀)
      (rbusUnregisterMethod objectName methodName : CoreM M W RbusError) := by
  refine Program.keeps_bind keeps_lock_tacit fun _ => ?_
  refine Program.keeps_bind (keeps_getObject_tacit _) fun obj => ?_
  cases obj with
  | none =>
      exact keeps_unlock_pure_tacit _
  | some obj =>
      refine Program.keeps_bind (keeps_rtVectorFindDeref_tacit _ _ _) fun method => ?_
      cases method with
      | none =>
          exact keeps_unlock_pure_tacit _
      | some method =>
          refine Program.keeps_bind (keeps_updateObject_tacit ?_ _) fun _ =>
            keeps_unlock_pure_tacit _
          exact fun _ => rfl

/-- The reserved methods are installed. -/
theorem keeps_ensureSubscriptionHandlers_tacit
    (object : Ptr) :
    Program.Keeps unheeded (Tacit w₀)
      (ensureSubscriptionHandlers object : CoreM M W RbusError) := by
  refine Program.keeps_bind (keeps_derefObject_tacit _) fun obj =>
    Program.keeps_ite (Program.keeps_pure _) ?_
  refine Program.keeps_bind (keeps_derefObject_tacit _) fun obj => ?_
  split
  · exact Program.keeps_pure _
  · refine Program.keeps_bind (keeps_registerMethod_tacit _ _ _ _) fun ret => ?_
    refine Program.keeps_ite (Program.keeps_pure _) ?_
    refine Program.keeps_bind (keeps_registerMethod_tacit _ _ _ _) fun ret => ?_
    refine Program.keeps_ite (Program.keeps_pure _) ?_
    refine Program.keeps_bind (keeps_updateObject_tacit ?_ _) fun _ => Program.keeps_pure _
    exact fun _ => rfl

/-- A call other than that of a callback of an event. -/
theorem keeps_call_tacit
    {e : Call M W}
    (he : (Event.call e : Event M W).isSilent = true) :
    Program.Keeps unheeded (Tacit w₀) (call e) := by
  intro w h
  refine ⟨trivial, ?_⟩
  rintro a _ rfl
  exact h.entry he rfl rfl rfl

theorem keeps_updateConnection_tacit
    (f : Connection → Connection) :
    Program.Keeps unheeded (Tacit w₀) (updateConnection f : CoreM M W Unit) :=
  fun _ h => ⟨h.vector, h.nextPtr, h.log⟩

theorem keeps_addListener_tacit
    (expression : CString) (callback : ListenerCallback) :
    Program.Keeps unheeded (Tacit w₀)
      (rtConnectionAddListener expression callback : CoreM M W RtError) :=
  keeps_acceptedUpdate (fun _ => keeps_call_tacit rfl) (keeps_updateConnection_tacit _)

theorem keeps_removeListener_tacit
    (expression : CString) :
    Program.Keeps unheeded (Tacit w₀)
      (rtConnectionRemoveListener expression : CoreM M W RtError) :=
  keeps_acceptedUpdate (fun _ => keeps_call_tacit rfl) (keeps_updateConnection_tacit _)

end Tacit

section Ledger

/-- What has been asked of an event since it was registered, and where in the history that
was. -/
structure Registration where
  requests : List (CString × Bool)
  since : Nat

/-- The registered events, by the address of their object and their name. -/
abbrev Ledger : Type := Ptr → CString → Option Registration

/-- A request for an event, if it is registered. -/
def Ledger.enter (L : Ledger) (object : Ptr) (event : CString) (request : CString × Bool) :
    Ledger :=
  fun p name =>
    if p = object ∧ name = event then
      (L p name).map fun r => { r with requests := r.requests ++ [request] }
    else L p name

/-- An event is registered, unless it is already, or unregistered. -/
def Ledger.set (L : Ledger) (object : Ptr) (event : CString) (r : Option Registration) :
    Ledger :=
  fun p name => if p = object ∧ name = event then r else L p name

/-- The name of an event. -/
abbrev ServerEvent.key (e : ServerEvent) : CString := e.name.val

theorem find_event
    (events : List ServerEvent)
    (key : CString) :
    rtVectorFind serverEventCompare events key = KeyedList.lookup ServerEvent.key key events :=
  rtVectorFind_eq_lookup serverEventCompare_eq_zero_iff events key

variable {M W : Type}

/-- The events of an object are those of the ledger, and so are their listeners and the calls
of their callbacks. -/
structure ObjectListing
    (r : CString → Option Registration) (log : List (Event M W)) (o : ServerObject) : Prop where
  native : o.subscribeHandlerOverride = none
  names : KeyedList.Distinct ServerEvent.key o.subscriptions
  owned : ∀ e ∈ o.subscriptions, e.object = o.ptr
  listeners : ∀ name,
    (KeyedList.lookup ServerEvent.key name o.subscriptions).map ServerEvent.listeners =
      (r name).map fun r => Membership.members r.requests
  since : ∀ name reg, r name = some reg → reg.since ≤ log.length
  notified : ∀ e ∈ o.subscriptions, ∀ callback, e.subCallback = some callback →
    ∀ reg, r e.key = some reg →
      notifications o.key e.key (log.drop reg.since) = Membership.effective reg.requests

/-- The objects of the process, with their events. -/
structure Listing (L : Ledger) (objects : List ServerObject) (w : World M W) : Prop where
  vector : w.gServerObjects = .live objects
  names : KeyedList.Distinct ServerObject.key objects
  addresses : KeyedList.Distinct ServerObject.ptr objects
  allocated : ∀ o ∈ objects, o.ptr < w.nextPtr
  objects : ∀ o ∈ objects, ObjectListing (L o.ptr) w.log o
  fresh : ∀ p, w.nextPtr ≤ p → ∀ name, L p name = none

variable {L : Ledger} {objects : List ServerObject} {o o' : ServerObject} {w w' : World M W}
variable {r : CString → Option Registration} {log new : List (Event M W)}

theorem sameEntries_of_bare
    (h : o'.bare = o.bare) :
    SameEntries o o' := by
  obtain ⟨hptr, hname, -, -, -, -, hsubscriptions, hoverride, hdata⟩ := ServerObject.mk.inj h
  exact ⟨hptr, hname, hsubscriptions, hoverride, hdata⟩

/-- What has to do with the methods does not matter, and neither do the callbacks of other
objects. -/
theorem ObjectListing.of_same
    (h : ObjectListing r log o)
    (hsame : SameEntries o o')
    (hsilent : SilentAt o.key new) :
    ObjectListing r (log ++ new) o' := by
  have hkey : o'.key = o.key := congrArg Subtype.val hsame.name
  refine ⟨hsame.subscribeHandlerOverride.trans h.native, ?_, ?_, ?_, ?_, ?_⟩
  · rw [hsame.subscriptions]
    exact h.names
  · rw [hsame.subscriptions, hsame.ptr]
    exact h.owned
  · rw [hsame.subscriptions]
    exact h.listeners
  · intro name reg hreg
    rw [List.length_append]
    exact Nat.le_add_right_of_le (h.since name reg hreg)
  · intro e he callback hcallback reg hreg
    rw [hsame.subscriptions] at he
    rw [hkey, List.drop_append_of_le_length (h.since e.key reg hreg), notifications_append,
      hsilent e.key, List.append_nil]
    exact h.notified e he callback hcallback reg hreg

theorem exists_sameEntries
    {objects' : List ServerObject}
    (hbare : objects'.map ServerObject.bare = objects.map ServerObject.bare)
    (ho : o' ∈ objects') :
    ∃ o ∈ objects, SameEntries o o' := by
  have hmem : o'.bare ∈ objects'.map ServerObject.bare := List.mem_map_of_mem ho
  rw [hbare] at hmem
  obtain ⟨o, ho, hsame⟩ := List.mem_map.mp hmem
  exact ⟨o, ho, sameEntries_of_bare hsame.symm⟩

theorem Listing.tacit
    (h : Listing L objects w)
    (hw : Tacit w w') :
    ∃ objects', Listing L objects' w' := by
  obtain ⟨⟨objects', hvector, hbare⟩, hnextPtr, new, hlog, hsilent⟩ := hw
  rw [h.vector, RtVector.items_live] at hbare
  have hkeys : objects'.map ServerObject.key = objects.map ServerObject.key := by
    have hmap := congrArg (List.map ServerObject.key) hbare
    rw [List.map_map, List.map_map] at hmap
    exact hmap
  have hptrs : objects'.map ServerObject.ptr = objects.map ServerObject.ptr := by
    have hmap := congrArg (List.map ServerObject.ptr) hbare
    rw [List.map_map, List.map_map] at hmap
    exact hmap
  refine ⟨objects', hvector, ?_, ?_, ?_, ?_, fun p hp => h.fresh p (hnextPtr.trans hp)⟩
  · rw [KeyedList.Distinct, hkeys]
    exact h.names
  · rw [KeyedList.Distinct, hptrs]
    exact h.addresses
  · intro x hx
    obtain ⟨o, ho, hsame⟩ := exists_sameEntries hbare hx
    rw [hsame.ptr]
    exact Nat.lt_of_lt_of_le (h.allocated o ho) hnextPtr
  · intro x hx
    obtain ⟨o, ho, hsame⟩ := exists_sameEntries hbare hx
    rw [hsame.ptr, hlog]
    exact (h.objects o ho).of_same hsame (hsilent o.key)

/-- An object is changed, and nothing is asked of the others. -/
theorem Listing.replace
    {L' : Ledger}
    (h : Listing L objects w)
    (ho : o ∈ objects)
    (hptr : o'.ptr = o.ptr)
    (hkey : o'.key = o.key)
    (hvector : w'.gServerObjects = .live (replaced objects o'))
    (hnextPtr : w'.nextPtr = w.nextPtr)
    (hlog : w'.log = w.log ++ new)
    (hsilent : ∀ object, object ≠ o.key → SilentAt object new)
    (hothers : ∀ p, p ≠ o.ptr → L' p = L p)
    (hobject : ObjectListing (L' o.ptr) w'.log o') :
    Listing L' (replaced objects o') w' := by
  have hcases (x : ServerObject) (hx : x ∈ replaced objects o') :
      x = o' ∨ x ∈ objects ∧ x.ptr ≠ o.ptr := by
    obtain ⟨y, hy, rfl⟩ := List.mem_map.mp hx
    split
    case isTrue =>
      exact Or.inl rfl
    case isFalse hne =>
      exact Or.inr ⟨hy, hptr ▸ hne⟩
  have hother (x : ServerObject) (hx : x ∈ objects) (hne : x.ptr ≠ o.ptr) : x.key ≠ o.key := by
    intro hsame
    have hfound := h.names.lookup_of_mem hx
    rw [hsame, h.names.lookup_of_mem ho] at hfound
    exact hne (congrArg ServerObject.ptr (Option.some.inj hfound).symm)
  have hmap {β : Type} (field : ServerObject → β) (hfield : field o' = field o) :
      (replaced objects o').map field = objects.map field := by
    rw [replaced, updateAt, List.map_map]
    refine List.map_congr_left fun x hx => ?_
    rw [Function.comp_apply]
    split
    case isTrue hsame =>
      have hfound := h.addresses.lookup_of_mem hx
      rw [hsame, hptr, h.addresses.lookup_of_mem ho] at hfound
      rw [hfield, Option.some.inj hfound]
    case isFalse =>
      rfl
  refine ⟨hvector, ?_, ?_, ?_, ?_, ?_⟩
  · rw [KeyedList.Distinct, hmap ServerObject.key hkey]
    exact h.names
  · rw [KeyedList.Distinct, hmap ServerObject.ptr hptr]
    exact h.addresses
  · intro x hx
    rw [hnextPtr]
    rcases hcases x hx with rfl | ⟨hmem, -⟩
    · rw [hptr]
      exact h.allocated o ho
    · exact h.allocated x hmem
  · intro x hx
    rcases hcases x hx with rfl | ⟨hmem, hne⟩
    · rw [hptr]
      exact hobject
    · rw [hothers x.ptr hne, hlog]
      exact (h.objects x hmem).of_same (.refl x) (hsilent x.key (hother x hmem hne))
  · intro p hp name
    rw [hnextPtr] at hp
    have hne : p ≠ o.ptr := by
      rintro rfl
      exact Nat.not_le_of_lt (h.allocated o ho) hp
    rw [hothers p hne]
    exact h.fresh p hp name

end Ledger

section Requests

variable {M W : Type}
variable {L : Ledger} {objects : List ServerObject} {o : ServerObject} {e : ServerEvent}
variable {w : World M W}

/-- A request at an event. -/
def ServerEvent.listen (request : CString × Bool) (e : ServerEvent) : ServerEvent :=
  { e with listeners := Membership.change e.listeners request }

/-- A request at an event of an object. -/
def ServerObject.listen (o : ServerObject) (event : CString) (request : CString × Bool) :
    ServerObject :=
  { o with
    subscriptions :=
      KeyedList.modify ServerEvent.key event (ServerEvent.listen request) o.subscriptions }

theorem lookup_listen
    (o : ServerObject) (event : CString) (request : CString × Bool) (name : CString) :
    KeyedList.lookup ServerEvent.key name (o.listen event request).subscriptions =
      if name = event then
        (KeyedList.lookup ServerEvent.key name o.subscriptions).map (ServerEvent.listen request)
      else KeyedList.lookup ServerEvent.key name o.subscriptions :=
  KeyedList.lookup_modify (f := ServerEvent.listen request) (fun _ => rfl) _ _ _

/-- What is in the history after a request: the callback of the event is called if the request
takes effect. -/
def requestLog
    (o : ServerObject) (e : ServerEvent) (request : CString × Bool)
    (new : List (Event M W)) : Prop :=
  (∀ object, object ≠ o.key → SilentAt object new) ∧
    (∀ event, event ≠ e.key → notifications o.key event new = []) ∧
    (∀ callback, e.subCallback = some callback →
      notifications o.key e.key new =
        if Membership.TakesEffect e.listeners request then [request] else [])

/-- The object after a request, and what has been added to the history. -/
def ListenersRequested
    (objects : List ServerObject) (o : ServerObject) (e : ServerEvent)
    (request : CString × Bool) (w w' : World M W) : Prop :=
  w'.gServerObjects = .live (replaced objects (o.listen e.key request)) ∧
    w'.nextPtr = w.nextPtr ∧ ∃ new, w'.log = w.log ++ new ∧ requestLog o e request new

/-- A repeated request leaves the object as it is. -/
theorem ObjectListing.listen_of_repeated
    {r : CString → Option Registration} {log : List (Event M W)} {request : CString × Bool}
    (h : ObjectListing r log o)
    (he : e ∈ o.subscriptions)
    (hrepeated : ¬Membership.TakesEffect e.listeners request) :
    o.listen e.key request = o := by
  have hsame : KeyedList.modify ServerEvent.key e.key (ServerEvent.listen request)
      o.subscriptions = o.subscriptions := by
    refine KeyedList.modify_eq_self fun x hx hkey => ?_
    have hfound := h.names.lookup_of_mem hx
    rw [hkey, h.names.lookup_of_mem he] at hfound
    rw [← Option.some.inj hfound, ServerEvent.listen,
      Membership.change_of_not_takesEffect hrepeated]
  rw [ServerObject.listen, hsame]

/-- The change of the listeners that a request makes. -/
theorem ObjectListing.update_eq_listen
    {r : CString → Option Registration} {log : List (Event M W)} {request : CString × Bool}
    (h : ObjectListing r log o)
    (he : e ∈ o.subscriptions)
    {f : ServerEvent → ServerEvent}
    (hf : f e = e.listen request) :
    { o with
      subscriptions := rtVectorUpdateFound serverEventCompare e.key f o.subscriptions } =
        o.listen e.key request := by
  have hmodify : rtVectorUpdateFound serverEventCompare e.key f o.subscriptions =
      KeyedList.modify ServerEvent.key e.key f o.subscriptions :=
    rtVectorUpdateFound_eq_modify serverEventCompare_eq_zero_iff h.names e.key f
  rw [hmodify, ServerObject.listen]
  congr 1
  refine List.map_congr_left fun x hx => ?_
  split
  case isTrue hkey =>
    have hfound := h.names.lookup_of_mem hx
    rw [hkey, h.names.lookup_of_mem he] at hfound
    rw [← Option.some.inj hfound, hf]
  case isFalse =>
    rfl

theorem Listing.replaces
    {o' : ServerObject}
    (h : Listing L objects w)
    (ho : o ∈ objects)
    (hptr : o'.ptr = o.ptr)
    (hname : o'.name = o.name) :
    Replaces objects o o' :=
  ⟨h.addresses, h.names.lookup_of_mem ho, hptr, hname⟩

theorem Listing.holding
    (h : Listing L objects w)
    (ho : o ∈ objects) :
    Holding objects w o w :=
  .self h.addresses h.vector rfl rfl (h.names.lookup_of_mem ho)

/-- The change, and the call of the callback. -/
theorem sat_updateAndNotify
    {listener : CString} {added : Bool} {f : ServerEvent → ServerEvent}
    (h : Listing L objects w)
    (ho : o ∈ objects)
    (he : e ∈ o.subscriptions)
    (hf : f e = e.listen (listener, added))
    (heffect : Membership.TakesEffect e.listeners (listener, added)) :
    Program.Sat unheeded
      (do
        updateEvent e.object e.name.val f
        invokeSubCallback e listener added)
      (fun _ w' => ListenersRequested objects o e (listener, added) w w') w := by
  have hobject := h.objects o ho
  have howned := hobject.owned e he
  have hlisten := hobject.update_eq_listen he hf
  have hreplaces : Replaces objects o (o.listen e.key (listener, added)) :=
    h.replaces ho rfl rfl
  let w₁ : World M W :=
    { w with
      gServerObjects := .live (replaced objects (o.listen e.key (listener, added)))
      log := w.log ++ [.write w.mutexOwned] }
  have hvector : w.gServerObjects.update (updateAt ServerObject.ptr e.object fun o =>
      { o with
        subscriptions := rtVectorUpdateFound serverEventCompare e.name.val f o.subscriptions }) =
      .live (replaced objects (o.listen e.key (listener, added))) := by
    rw [(h.holding ho).vector, RtVector.update_live, howned, updateAt_replaced rfl]
    exact congrArg (fun o => RtVector.live (replaced objects o)) hlisten
  have hwrite (event object : CString) :
      notifications event object [Event.write (M := M) (W := W) w.mutexOwned] = [] :=
    silentAt_singleton rfl event object
  have hupdate : Program.Sat unheeded (updateEvent e.object e.name.val f : CoreM M W Unit)
      (fun _ w' => w' = w₁) w := by
    rw [updateEvent, updateObject, sat_updateServerObjects, hvector]
  refine hupdate.bind ?_
  rintro _ _ rfl
  cases hcallback : e.subCallback with
  | none =>
      rw [invokeSubCallback, hcallback]
      refine ⟨rfl, rfl, [.write w.mutexOwned], rfl, fun object _ event => hwrite object event,
        fun event _ => hwrite _ event, fun callback hsome => ?_⟩
      rw [hcallback] at hsome
      cases hsome
  | some callback =>
      have hfound : w₁.gServerObjects.items.find? (fun x => x.ptr = e.object) =
          some (o.listen e.key (listener, added)) := by
        rw [howned]
        exact hreplaces.lookup_ptr
      rw [invokeSubCallback, hcallback]
      dsimp only
      rw [Program.sat_bind, Program.Sat, derefObject_of_find hfound]
      refine ⟨trivial, ?_⟩
      rintro ret _ rfl
      refine ⟨rfl, rfl, [.write w.mutexOwned] ++ _, List.append_assoc _ _ _, ?_, ?_, ?_⟩
      · intro object hne event
        rw [notifications_append, hwrite, List.nil_append]
        exact List.filterMap_cons_none (if_neg fun hsame => hne hsame.1.symm)
      · intro event hne
        rw [notifications_append, hwrite, List.nil_append]
        exact List.filterMap_cons_none (if_neg fun hsame => hne hsame.2.symm)
      · intro _ _
        rw [notifications_append, hwrite, List.nil_append, if_pos heffect]
        exact List.filterMap_cons_some (if_pos ⟨rfl, rfl⟩)

/-- A request that the event is there for. -/
theorem sat_changeListener
    (h : Listing L objects w)
    (ho : o ∈ objects)
    (he : e ∈ o.subscriptions)
    (listener : CString) (added : Bool) :
    Program.Sat unheeded (changeListener e listener added)
      (fun _ w' => ListenersRequested objects o e (listener, added) w w') w := by
  have hrepeat (hrepeated : ¬Membership.TakesEffect e.listeners (listener, added)) :
      ListenersRequested objects o e (listener, added) w w := by
    refine ⟨?_, rfl, [], (List.append_nil _).symm, fun _ _ => silentAt_nil, fun _ _ => rfl,
      fun _ _ => (if_neg hrepeated).symm⟩
    rw [(h.objects o ho).listen_of_repeated he hrepeated]
    exact (h.holding ho).vector
  cases added with
  | true =>
      show Program.Sat _ (serverEventAddListener e (some listener)) _ w
      rw [serverEventAddListener, Program.sat_ite]
      split
      case isTrue hnew =>
        exact sat_updateAndNotify h ho he
          (by rw [ServerEvent.listen, Membership.change_of_joins hnew])
          (by simpa [Membership.TakesEffect] using hnew)
      case isFalse hknown =>
        exact hrepeat (by simpa [Membership.TakesEffect] using hknown)
  | false =>
      show Program.Sat _ (serverEventRemoveListener e (some listener)) _ w
      rw [serverEventRemoveListener, Program.sat_ite]
      split
      case isTrue hknown =>
        exact sat_updateAndNotify h ho he rfl (by simpa [Membership.TakesEffect] using hknown)
      case isFalse hother =>
        exact hrepeat (by simpa [Membership.TakesEffect] using hother)

theorem Ledger.enter_self
    {p : Ptr} {event : CString} {request : CString × Bool}
    (h : L p event = none) :
    L.enter p event request = L := by
  funext q name
  rw [Ledger.enter]
  split
  case isTrue hsame =>
    rw [hsame.1, hsame.2, h, Option.map_none]
  case isFalse =>
    rfl

/-- After a request the listing is that of the new ledger. -/
theorem Listing.requested
    {request : CString × Bool} {w' : World M W}
    (h : Listing L objects w)
    (ho : o ∈ objects)
    (he : e ∈ o.subscriptions)
    (hw : ListenersRequested objects o e request w w') :
    ∃ objects', Listing (L.enter o.ptr e.key request) objects' w' := by
  obtain ⟨hvector, hnextPtr, new, hlog, hothers, hsilent, hnotified⟩ := hw
  have hobject := h.objects o ho
  have hlookup : KeyedList.lookup ServerEvent.key e.key o.subscriptions = some e :=
    hobject.names.lookup_of_mem he
  have hfound := hobject.listeners e.key
  rw [hlookup, Option.map_some] at hfound
  obtain ⟨reg, hreg, hmembers⟩ := Option.map_eq_some_iff.mp hfound.symm
  refine ⟨replaced objects (o.listen e.key request), h.replace ho rfl rfl hvector hnextPtr hlog
    hothers ?_ ⟨hobject.native, ?_, ?_, ?_, ?_, ?_⟩⟩
  · intro p hp
    funext name
    exact if_neg fun hsame => hp hsame.1
  · exact hobject.names.modify (f := ServerEvent.listen request) (fun _ => rfl) _ _
  · intro x hx
    obtain ⟨y, hy, rfl⟩ := List.mem_map.mp hx
    split <;> exact hobject.owned y hy
  · intro name
    rw [lookup_listen, Ledger.enter]
    by_cases hname : name = e.key
    · subst hname
      rw [if_pos rfl, if_pos ⟨rfl, rfl⟩, hlookup, hreg, Option.map_some, Option.map_some,
        Option.map_some, Option.map_some, Membership.members_concat, hmembers]
      rfl
    · rw [if_neg hname, if_neg fun hsame => hname hsame.2]
      exact hobject.listeners name
  · intro name r hr
    rw [hlog, List.length_append]
    rw [Ledger.enter] at hr
    split at hr
    case isTrue =>
      obtain ⟨r₀, hr₀, rfl⟩ := Option.map_eq_some_iff.mp hr
      exact Nat.le_add_right_of_le (hobject.since name r₀ hr₀)
    case isFalse =>
      exact Nat.le_add_right_of_le (hobject.since name r hr)
  · intro x hx callback hcallback r hr
    rw [Ledger.enter] at hr
    obtain ⟨y, hy, rfl⟩ := List.mem_map.mp hx
    by_cases hkey : y.key = e.key
    · have hsame := hobject.names.lookup_of_mem hy
      rw [hkey, hlookup] at hsame
      obtain rfl := Option.some.inj hsame
      rw [if_pos rfl] at hcallback hr ⊢
      have hkept : (ServerEvent.listen request e).key = e.key := rfl
      rw [if_pos ⟨rfl, rfl⟩, hkept, hreg, Option.map_some] at hr
      obtain rfl := Option.some.inj hr
      have hold := hobject.notified e he callback hcallback reg hreg
      show notifications o.key e.key (w'.log.drop reg.since) = _
      rw [hlog, List.drop_append_of_le_length (hobject.since e.key reg hreg),
        notifications_append, hold, hnotified callback hcallback, Membership.effective_concat,
        hmembers]
      split
      · rfl
      · exact List.append_nil _
    · rw [if_neg hkey] at hcallback hr ⊢
      rw [if_neg fun hsame => hkey hsame.2] at hr
      have hold := hobject.notified y hy callback hcallback r hr
      show notifications o.key y.key (w'.log.drop r.since) = _
      rw [hlog, List.drop_append_of_le_length (hobject.since y.key r hr),
        notifications_append, hold, hsilent y.key hkey, List.append_nil]

/-- A name in memory, if it is there, terminated and short enough. -/
def legalName (limit : Nat) (name : Option (List UInt8)) : Option CString :=
  (name.bind CString.ofMemory).filter fun s => s.strlen < limit

/-- A request, as the handler reads it. -/
def Ledger.request
    (L : Ledger) (object : Ptr) (event subscriber : Option (List UInt8)) (added : Bool) :
    Ledger :=
  match legalName maxEventNameLength event, legalName maxSubscriberNameLength subscriber with
  | some event, some subscriber => L.enter object event (subscriber, added)
  | _, _ => L

theorem sat_notifyServerEvent
    (h : Listing L objects w)
    (obj : Ptr) (event subscriber : CString) (added : Bool) :
    Program.Sat unheeded (notifyServerEvent obj event subscriber added)
      (fun _ w' => ∃ objects', Listing (L.enter obj event (subscriber, added)) objects' w') w := by
  rw [notifyServerEvent, derefObject, bind_assoc, Program.sat_bind, Program.sat_getState]
  split
  case h_2 =>
    exact trivial
  case h_1 o hfind =>
    rw [h.vector, RtVector.items_live] at hfind
    have ho : o ∈ objects := List.mem_of_find?_eq_some hfind
    have hptr : o.ptr = obj := by simpa using List.find?_some hfind
    subst hptr
    rw [pure_bind, find_event]
    cases hfound : KeyedList.lookup ServerEvent.key event o.subscriptions with
    | none =>
        have hnone := (h.objects o ho).listeners event
        rw [hfound, Option.map_none, eq_comm, Option.map_eq_none_iff] at hnone
        rw [Ledger.enter_self hnone]
        exact ⟨objects, h⟩
    | some e =>
        have he := KeyedList.mem_of_lookup hfound
        obtain rfl := KeyedList.key_of_lookup hfound
        exact (sat_changeListener h ho he subscriber added).bind fun _ w' hw' =>
          h.requested ho he hw'

theorem legalName_of_le
    {limit : Nat} {region : List UInt8} {s : CString}
    (h : CString.ofMemory region = some s)
    (hlong : limit ≤ s.strlen) :
    legalName limit (some region) = none := by
  rw [legalName, Option.bind_some, h, Option.filter_some_neg]
  simpa using hlong

theorem legalName_of_lt
    {limit : Nat} {region : List UInt8} {s : CString}
    (h : CString.ofMemory region = some s)
    (hshort : s.strlen < limit) :
    legalName limit (some region) = some s := by
  rw [legalName, Option.bind_some, h, Option.filter_some_pos]
  simpa using hshort

theorem Ledger.request_of_none
    {event subscriber : Option (List UInt8)}
    (h : legalName maxEventNameLength event = none ∨
      legalName maxSubscriberNameLength subscriber = none)
    (object : Ptr) (added : Bool) :
    L.request object event subscriber added = L := by
  rw [Ledger.request]
  split
  case h_1 hevent hsubscriber =>
    rw [hevent, hsubscriber] at h
    rcases h with h | h <;> cases h
  case h_2 =>
    rfl

/-- The handler of subscription requests enters what it can read. -/
theorem sat_serverObjectSubscriptionHandler
    (h : Listing L objects w)
    (obj : Ptr) (event subscriber : Option (List UInt8)) (added : Bool) (payload : Option M) :
    Program.Sat unheeded (serverObjectSubscriptionHandler obj event subscriber added payload)
      (fun _ w' => ∃ objects', Listing (L.request obj event subscriber added) objects' w') w := by
  have hrefused (hnone : legalName maxEventNameLength event = none ∨
      legalName maxSubscriberNameLength subscriber = none) :
      ∃ objects', Listing (L.request obj event subscriber added) objects' w := by
    rw [Ledger.request_of_none hnone]
    exact ⟨objects, h⟩
  cases event with
  | none =>
      exact hrefused (Or.inl rfl)
  | some event =>
      cases subscriber with
      | none =>
          exact hrefused (Or.inr rfl)
      | some subscriber =>
          rw [serverObjectSubscriptionHandler, stringAt, stringAt]
          cases hsubscriber : CString.ofMemory subscriber with
          | none =>
              exact trivial
          | some subscriber' =>
              rw [pure_bind, Program.sat_ite]
              split
              case isTrue hlong =>
                exact hrefused (Or.inr (legalName_of_le hsubscriber hlong))
              case isFalse hshort =>
                cases hevent : CString.ofMemory event with
                | none =>
                    exact trivial
                | some event' =>
                    rw [pure_bind, Program.sat_ite]
                    split
                    case isTrue hlong =>
                      exact hrefused (Or.inl (legalName_of_le hevent hlong))
                    case isFalse hshort' =>
                      rw [Ledger.request, legalName_of_lt hevent (Nat.lt_of_not_le hshort'),
                        legalName_of_lt hsubscriber (Nat.lt_of_not_le hshort), derefObject,
                        bind_assoc, Program.sat_bind, Program.sat_getState]
                      split
                      case h_2 =>
                        exact trivial
                      case h_1 o hfind =>
                        rw [h.vector, RtVector.items_live] at hfind
                        have hnative := (h.objects o (List.mem_of_find?_eq_some hfind)).native
                        rw [pure_bind, hnative]
                        exact sat_notifyServerEvent h obj event' subscriber' added

end Requests

section Registrations

variable {M W : Type}
variable {L : Ledger} {objects : List ServerObject} {o : ServerObject} {w : World M W}

/-- Code that leaves the events alone leaves the ledger as it is. -/
theorem sat_tacit
    {α : Type} {x : CoreM M W α}
    (h : Listing L objects w)
    (hx : Program.Keeps unheeded (Tacit w) x) :
    Program.Sat unheeded x (fun _ w' => ∃ objects', Listing L objects' w') w :=
  (hx w (.refl h.vector)).mono fun _ _ hw' => h.tacit hw'

/-- The events of an object are changed. -/
theorem sat_updateEvents
    {L' : Ledger} {f : ServerObject → ServerObject}
    (h : Listing L objects w)
    (ho : o ∈ objects)
    (hptr : (f o).ptr = o.ptr)
    (hname : (f o).name = o.name)
    (hothers : ∀ p, p ≠ o.ptr → L' p = L p)
    (hobject : ObjectListing (L' o.ptr) (w.log ++ [.write w.mutexOwned]) (f o)) :
    Program.Sat unheeded (updateObject o.ptr f)
      (fun _ w' => ∃ objects', Listing L' objects' w') w := by
  rw [updateObject, sat_updateServerObjects]
  refine ⟨replaced objects (f o), h.replace ho hptr (congrArg Subtype.val hname) ?_ rfl rfl
    (fun object _ => silentAt_singleton rfl object) hothers hobject⟩
  dsimp only
  rw [(h.holding ho).vector, RtVector.update_live, updateAt_replaced hptr]

theorem Ledger.set_same
    (L : Ledger) (p : Ptr) (name : CString) (reg : Option Registration) (event : CString) :
    L.set p name reg p event = if event = name then reg else L p event := by
  rw [Ledger.set]
  by_cases hname : event = name <;> simp [hname]

theorem Ledger.set_other
    {p q : Ptr}
    (L : Ledger)
    (hne : q ≠ p)
    (name : CString) (reg : Option Registration) :
    L.set p name reg q = L q := by
  funext event
  exact if_neg fun hsame => hne hsame.1

theorem Ledger.set_self
    {p : Ptr} {name : CString}
    (h : L p name = none) :
    L.set p name none = L := by
  funext q event
  rw [Ledger.set]
  split
  case isTrue hsame =>
    rw [hsame.1, hsame.2, h]
  case isFalse =>
    rfl

variable {log new : List (Event M W)}

/-- An event is entered: nothing has been asked of it, and nobody listens. -/
theorem ObjectListing.addEvent
    {since : Nat} {name : BoundedName maxEventNameLength}
    (h : ObjectListing (L o.ptr) log o)
    (hfree : KeyedList.lookup ServerEvent.key name.val o.subscriptions = none)
    (hsince : since ≤ log.length)
    (hquiet : SilentAt o.key (log.drop since))
    (hsilent : SilentAt o.key new)
    (callback : Option Nat) (userData : Ptr) :
    ObjectListing (L.set o.ptr name.val (some ⟨[], since⟩) o.ptr) (log ++ new)
      { o with
        subscriptions :=
          o.subscriptions ++ [serverEventCreate name o.ptr callback userData] } := by
  have hkey : ServerEvent.key (serverEventCreate name o.ptr callback userData) = name.val := rfl
  refine ⟨h.native, h.names.append hfree, ?_, ?_, ?_, ?_⟩
  · intro e he
    rcases List.mem_append.mp he with hold | hnew
    · exact h.owned e hold
    · rw [List.mem_singleton.mp hnew]
      rfl
  · intro event
    rw [KeyedList.lookup_append_singleton, hkey, Ledger.set_same]
    by_cases hname : event = name.val
    · subst hname
      rw [hfree, Option.none_or, if_pos rfl, if_pos rfl]
      rfl
    · rw [if_neg (Ne.symm hname), if_neg hname, Option.or_none]
      exact h.listeners event
  · intro event reg hreg
    rw [Ledger.set_same] at hreg
    rw [List.length_append]
    split at hreg
    · obtain rfl := Option.some.inj hreg
      exact Nat.le_add_right_of_le hsince
    · exact Nat.le_add_right_of_le (h.since event reg hreg)
  · intro e he callback' hcallback reg hreg
    rw [Ledger.set_same] at hreg
    rcases List.mem_append.mp he with hold | hnew
    · have hne : e.key ≠ name.val := KeyedList.lookup_eq_none_iff.mp hfree e hold
      rw [if_neg hne] at hreg
      have hbefore := h.notified e hold callback' hcallback reg hreg
      show notifications o.key e.key _ = _
      rw [List.drop_append_of_le_length (h.since e.key reg hreg), notifications_append, hbefore,
        hsilent e.key, List.append_nil]
    · obtain rfl := List.mem_singleton.mp hnew
      rw [if_pos hkey] at hreg
      obtain rfl := Option.some.inj hreg
      show notifications o.key _ _ = _
      rw [List.drop_append_of_le_length hsince, notifications_append, hquiet, hsilent]
      rfl

/-- An event is removed. -/
theorem ObjectListing.removeEvent
    (h : ObjectListing (L o.ptr) log o)
    (hsilent : SilentAt o.key new)
    (name : CString) :
    ObjectListing (L.set o.ptr name none o.ptr) (log ++ new)
      { o with
        subscriptions := KeyedList.erase ServerEvent.key name o.subscriptions } := by
  have hmem (e : ServerEvent) (he : e ∈ KeyedList.erase ServerEvent.key name o.subscriptions) :
      e ∈ o.subscriptions ∧ e.key ≠ name := by
    rw [h.names.erase_eq_filter, List.mem_filter] at he
    exact ⟨he.1, by simpa using he.2⟩
  refine ⟨h.native, h.names.erase name, fun e he => h.owned e (hmem e he).1, ?_, ?_, ?_⟩
  · intro event
    rw [h.names.lookup_erase, Ledger.set_same]
    split
    · rfl
    · exact h.listeners event
  · intro event reg hreg
    rw [Ledger.set_same] at hreg
    rw [List.length_append]
    split at hreg
    · cases hreg
    · exact Nat.le_add_right_of_le (h.since event reg hreg)
  · intro e he callback hcallback reg hreg
    obtain ⟨hold, hne⟩ := hmem e he
    rw [Ledger.set_same, if_neg hne] at hreg
    have hbefore := h.notified e hold callback hcallback reg hreg
    show notifications o.key e.key _ = _
    rw [List.drop_append_of_le_length (h.since e.key reg hreg), notifications_append, hbefore,
      hsilent e.key, List.append_nil]

/-- What `rbus_registerEvent` enters, also where it then fails to install the methods. -/
def Ledger.register (L : Ledger) (w : World M W) (objectName eventName : Option CString) :
    Ledger :=
  match (InstallingOp.registerEvent objectName eventName none 0).object? w with
  | some o =>
      if (L o.ptr (eventName.getD defaultEvent)).isSome then L
      else L.set o.ptr (eventName.getD defaultEvent) (some ⟨[], w.log.length⟩)
  | none => L

/-- What `rbus_unregisterEvent` removes. -/
def Ledger.unregister (L : Ledger) (w : World M W) (objectName eventName : Option CString) :
    Ledger :=
  match objectName.bind (rtVectorFind serverObjectCompare w.gServerObjects.items) with
  | some o => L.set o.ptr (eventName.getD defaultEvent) none
  | none => L

/-- What is found under a name that may be NULL. -/
theorem sat_getObject_listing
    {Q : Option ServerObject → World M W → Prop}
    (h : Listing L objects w)
    (objectName : Option CString)
    (hQ : Q (objectName.bind (rtVectorFind serverObjectCompare objects)) w) :
    Program.Sat unheeded (getObject objectName) Q w := by
  cases objectName with
  | some name =>
      rw [sat_getObject h.vector, ← find_object]
      exact hQ
  | none =>
      rw [getObject, Program.sat_bind, sat_serverObjects h.vector]
      cases objects with
      | nil =>
          exact hQ
      | cons o objects =>
          exact trivial

/-- An entry of the history that is no call of `sub_callback`. -/
theorem Listing.entry
    {w' : World M W} {e : Event M W}
    (h : Listing L objects w)
    (he : e.isSilent = true)
    (hvector : w'.gServerObjects = w.gServerObjects)
    (hnextPtr : w'.nextPtr = w.nextPtr)
    (hlog : w'.log = w.log ++ [e]) :
    Listing L objects w' := by
  refine ⟨hvector.trans h.vector, h.names, h.addresses, ?_, ?_, ?_⟩
  · rw [hnextPtr]
    exact h.allocated
  · intro o ho
    rw [hlog]
    exact (h.objects o ho).of_same (.refl o) (silentAt_singleton he o.key)
  · rw [hnextPtr]
    exact h.fresh

theorem Listing.taken
    (h : Listing L objects w) :
    Listing L objects { w with mutexOwned := true, log := w.log ++ [.lock w.mutexOwned] } :=
  h.entry rfl rfl rfl rfl

/-- The mutex is released with a result. -/
theorem sat_unlock_pure_listing
    {α : Type}
    (h : Listing L objects w)
    (a : α) :
    Program.Sat unheeded (do unlock; pure a)
      (fun _ w' => ∃ objects', Listing L objects' w') w :=
  sat_tacit h (keeps_unlock_pure_tacit a)

/-- The event is entered, if it is not there yet. -/
theorem sat_addServerEvent_listing
    {since : Nat}
    (h : Listing L objects w)
    (ho : o ∈ objects)
    (hsince : since ≤ w.log.length)
    (hquiet : SilentAt o.key (w.log.drop since))
    (name : BoundedName maxEventNameLength) (callback : Option Nat) (userData : Ptr) :
    Program.Sat unheeded (addServerEvent o name callback userData)
      (fun _ w' => ∃ objects', Listing
        (if (L o.ptr name.val).isSome then L else L.set o.ptr name.val (some ⟨[], since⟩))
        objects' w') w := by
  have hobject := h.objects o ho
  have hlisteners := hobject.listeners name.val
  rw [addServerEvent, Program.sat_ite, find_event]
  cases hfound : KeyedList.lookup ServerEvent.key name.val o.subscriptions with
  | some e =>
      rw [hfound, Option.map_some] at hlisteners
      obtain ⟨reg, hreg, -⟩ := Option.map_eq_some_iff.mp hlisteners.symm
      rw [hreg]
      exact ⟨objects, h⟩
  | none =>
      rw [hfound, Option.map_none, eq_comm, Option.map_eq_none_iff] at hlisteners
      rw [hlisteners]
      exact sat_updateEvents h ho rfl rfl (fun p hp => L.set_other hp _ _)
        (hobject.addEvent hfound hsince hquiet (silentAt_singleton rfl o.key) callback userData)

/-- `rbus_registerEvent` enters the event, whether or not it installs the methods. -/
theorem sat_rbusRegisterEvent_listing
    (h : Listing L objects w)
    (objectName eventName : Option CString) (callback : Option Nat) (userData : Ptr) :
    Program.Sat unheeded (rbusRegisterEvent objectName eventName callback userData)
      (fun _ w' => ∃ objects', Listing (L.register w objectName eventName) objects' w') w := by
  have hitems : w.gServerObjects.items = objects := by rw [h.vector, RtVector.items_live]
  rw [rbusRegisterEvent, Program.sat_bind, Program.sat_getState, Ledger.register,
    InstallingOp.object?, hitems]
  cases hcon : w.gConnection with
  | none =>
      exact ⟨objects, h⟩
  | some con =>
      rw [if_neg (c := (some con).isNone = true) Bool.false_ne_true, Program.sat_ite]
      cases objectName with
      | none =>
          rw [Option.bind_none, ite_self]
          exact ⟨objects, h⟩
      | some objectName =>
          rw [if_neg (c := (some objectName).isNone = true) Bool.false_ne_true]
          cases hname : BoundedName.check? maxEventNameLength (eventName.getD defaultEvent) with
          | none =>
              exact ⟨objects, h⟩
          | some name =>
              have hval : eventName.getD defaultEvent = name.val :=
                (BoundedName.check?_eq_some_iff.mp hname).symm
              rw [if_pos (c := (some con).isSome = true ∧ (some name).isSome = true) ⟨rfl, rfl⟩,
                Option.bind_some]
              dsimp only
              rw [Program.sat_bind, sat_lock, Program.sat_bind]
              refine sat_getObject_listing h.taken (some objectName) ?_
              rw [Option.bind_some, find_object, hval]
              cases hfound : KeyedList.lookup ServerObject.key objectName objects with
              | none =>
                  exact sat_unlock_pure_listing h.taken _
              | some o =>
                  have ho := KeyedList.mem_of_lookup hfound
                  have hquiet : SilentAt o.key
                      ((w.log ++ [Event.lock w.mutexOwned]).drop w.log.length) := by
                    rw [List.drop_left]
                    exact silentAt_singleton rfl o.key
                  have hsince : w.log.length ≤ (w.log ++ [Event.lock w.mutexOwned]).length := by
                    simp
                  refine (sat_addServerEvent_listing h.taken ho hsince hquiet name callback
                    userData).bind ?_
                  rintro _ w₁ ⟨objects₁, h₁⟩
                  exact sat_tacit h₁ (Program.keeps_bind
                    (keeps_ensureSubscriptionHandlers_tacit _) fun _ => keeps_unlock_pure_tacit _)

/-- `rbus_unregisterEvent` removes the event. -/
theorem sat_rbusUnregisterEvent_listing
    (h : Listing L objects w)
    (objectName eventName : Option CString) :
    Program.Sat unheeded (rbusUnregisterEvent objectName eventName)
      (fun _ w' => ∃ objects', Listing (L.unregister w objectName eventName) objects' w') w := by
  have hitems : w.gServerObjects.items = objects := by rw [h.vector, RtVector.items_live]
  rw [rbusUnregisterEvent, Ledger.unregister, hitems, Program.sat_bind, sat_lock, Program.sat_bind]
  refine sat_getObject_listing h.taken objectName ?_
  cases hfound : objectName.bind (rtVectorFind serverObjectCompare objects) with
  | none =>
      exact sat_unlock_pure_listing h.taken _
  | some o =>
      obtain ⟨name, -, hname⟩ := Option.bind_eq_some_iff.mp hfound
      have ho : o ∈ objects := List.mem_of_find?_eq_some hname
      have hobject := h.objects o ho
      dsimp only
      cases hevent : rtVectorFind serverEventCompare o.subscriptions
        (eventName.getD defaultEvent) with
      | none =>
          have hlisteners := hobject.listeners (eventName.getD defaultEvent)
          rw [find_event] at hevent
          rw [hevent, Option.map_none, eq_comm, Option.map_eq_none_iff] at hlisteners
          rw [Ledger.set_self hlisteners]
          exact sat_unlock_pure_listing h.taken _
      | some e =>
          have herase : rtVectorRemoveFound serverEventCompare (eventName.getD defaultEvent)
              o.subscriptions =
                KeyedList.erase ServerEvent.key (eventName.getD defaultEvent) o.subscriptions :=
            rtVectorRemoveFound_eq_erase serverEventCompare_eq_zero_iff _ _
          have hlocked := h.taken.objects o ho
          have hothers (p : Ptr) (hp : p ≠ o.ptr) :
              L.set o.ptr (eventName.getD defaultEvent) none p = L p :=
            L.set_other hp _ _
          refine (sat_updateEvents h.taken ho rfl rfl hothers ?_).bind ?_
          · dsimp only
            rw [herase]
            exact hlocked.removeEvent (silentAt_singleton rfl o.key) _
          · rintro _ w₁ ⟨objects₁, h₁⟩
            exact sat_unlock_pure_listing h₁ _

end Registrations

section Objects

variable {M W : Type}
variable {L : Ledger} {objects : List ServerObject} {o : ServerObject} {w w' : World M W}

/-- A new object, with a name that no other one has and at an address that no other one had. -/
structure Enters (L : Ledger) (o : ServerObject) (w : World M W) : Prop where
  listing : ∃ objects, Listing L objects w ∧ ∀ x ∈ objects, x.key ≠ o.key ∧ x.ptr ≠ o.ptr
  native : o.subscribeHandlerOverride = none
  events : o.subscriptions = []
  allocated : o.ptr < w.nextPtr
  unused : ∀ name, L o.ptr name = none

theorem Enters.tacit
    (h : Enters L o w)
    (hw : Tacit w w') :
    Enters L o w' := by
  obtain ⟨⟨objects, hlisting, hnew⟩, hnative, hevents, hallocated, hunused⟩ := h
  obtain ⟨objects', hlisting'⟩ := hlisting.tacit hw
  refine ⟨⟨objects', hlisting', fun x hx => ?_⟩, hnative, hevents,
    Nat.lt_of_lt_of_le hallocated hw.nextPtr, hunused⟩
  obtain ⟨objects₁, hvector, hbare⟩ := hw.vector
  rw [hlisting'.vector] at hvector
  obtain rfl := RtVector.live.inj hvector
  rw [hlisting.vector, RtVector.items_live] at hbare
  obtain ⟨y, hy, hsame⟩ := exists_sameEntries hbare hx
  have hkey : x.key = y.key := congrArg Subtype.val hsame.name
  rw [hkey, hsame.ptr]
  exact hnew y hy

/-- The new object is entered. -/
theorem Enters.push
    (h : Enters L o w) :
    Program.Sat unheeded
      (do
        let _ ← serverObjects
        updateServerObjects fun objects => objects ++ [o]
        unlock
        pure RbusError.success)
      (fun _ w' => ∃ objects', Listing L objects' w') w := by
  obtain ⟨⟨objects, hlisting, hnew⟩, hnative, hevents, hallocated, hunused⟩ := h
  have hobject : ObjectListing (L o.ptr) (w.log ++ [.write w.mutexOwned]) o := by
    refine ⟨hnative, ?_, ?_, ?_, ?_, ?_⟩
    · rw [hevents]
      exact KeyedList.distinct_nil
    · rw [hevents]
      exact fun e he => absurd he List.not_mem_nil
    · intro name
      rw [hevents, hunused]
      rfl
    · intro name reg hreg
      rw [hunused] at hreg
      cases hreg
    · rw [hevents]
      exact fun e he => absurd he List.not_mem_nil
  have hpushed : Listing L (objects ++ [o]) { w with
      gServerObjects := .live (objects ++ [o])
      log := w.log ++ [.write w.mutexOwned] } := by
    refine ⟨rfl, hlisting.names.append ?_, hlisting.addresses.append ?_, ?_, ?_,
      hlisting.fresh⟩
    · exact KeyedList.lookup_eq_none_iff.mpr fun x hx => (hnew x hx).1
    · exact KeyedList.lookup_eq_none_iff.mpr fun x hx => (hnew x hx).2
    · intro x hx
      rcases List.mem_append.mp hx with hold | hlast
      · exact hlisting.allocated x hold
      · rw [List.mem_singleton.mp hlast]
        exact hallocated
    · intro x hx
      rcases List.mem_append.mp hx with hold | hlast
      · exact (hlisting.objects x hold).of_same (.refl x) (silentAt_singleton rfl x.key)
      · rw [List.mem_singleton.mp hlast]
        exact hobject
  rw [Program.sat_bind, sat_serverObjects hlisting.vector, Program.sat_bind,
    sat_updateServerObjects, hlisting.vector, RtVector.update_live]
  exact sat_unlock_pure_listing hpushed RbusError.success

theorem sat_lock_listing
    (h : Listing L objects w) :
    Program.Sat unheeded lock (fun _ => Listing L objects) w :=
  h.taken

theorem sat_unlock_listing
    (h : Listing L objects w) :
    Program.Sat unheeded unlock (fun _ => Listing L objects) w :=
  h.entry rfl rfl rfl rfl

/-- A new object gets an address that nobody has. -/
theorem sat_serverObjectCreate_listing
    {objectName : CString}
    (h : Listing L objects w)
    (hfree : KeyedList.lookup ServerObject.key objectName objects = none)
    (handler : Nat) (userData : Ptr) :
    Program.Sat unheeded (serverObjectCreate objectName handler userData)
      (fun o w' => Enters L o w' ∧ ∃ objects', w'.gServerObjects = .live objects') w := by
  rw [serverObjectCreate, Program.sat_bind, sat_rtMalloc, strcpy]
  cases hname : BoundedName.check? maxObjectNameLength objectName with
  | none =>
      exact trivial
  | some name =>
      obtain rfl := BoundedName.check?_eq_some_iff.mp hname
      refine ⟨⟨⟨objects, ?_, fun x hx => ⟨?_, ?_⟩⟩, rfl, rfl, Nat.lt_succ_self _,
        h.fresh _ (Nat.le_refl _)⟩, objects, h.vector⟩
      · refine ⟨h.vector, h.names, h.addresses, fun x hx => ?_, h.objects, fun p hp => ?_⟩
        · exact Nat.lt_succ_of_lt (h.allocated x hx)
        · exact h.fresh p (Nat.le_of_succ_le hp)
      · exact KeyedList.lookup_eq_none_iff.mp hfree x hx
      · exact Nat.ne_of_lt (h.allocated x hx)

theorem sat_rbusRegisterObj_listing
    (h : Listing L objects w)
    (objectName : Option CString) (handler : Nat) (userData : Ptr) :
    Program.Sat unheeded (rbusRegisterObj objectName handler userData)
      (fun _ w' => ∃ objects', Listing L objects' w') w := by
  unfold rbusRegisterObj
  rw [Program.sat_bind, Program.sat_getState, Program.sat_ite]
  split
  · exact ⟨objects, h⟩
  · cases objectName with
    | none =>
        exact ⟨objects, h⟩
    | some objectName =>
        dsimp only
        generalize objectNameLengthInvalid objectName = invalid
        rw [Program.sat_ite]
        split
        · exact ⟨objects, h⟩
        · refine (sat_lock_listing h).bind fun _ w₁ h₁ => ?_
          rw [Program.sat_bind, sat_serverObjects h₁.vector, find_object]
          refine (sat_unlock_listing h₁).bind fun _ w₂ h₂ => ?_
          rw [Program.sat_ite]
          split
          case isTrue =>
            exact ⟨objects, h₂⟩
          case isFalse hfree =>
            rw [Option.not_isSome_iff_eq_none] at hfree
            refine (sat_serverObjectCreate_listing h₂ hfree handler userData).bind ?_
            rintro o w₃ ⟨ho, objects₃, hvector⟩
            refine (keeps_addListener_tacit _ _ w₃ (.refl hvector)).bind fun err w₄ h₄ => ?_
            have ho₄ := ho.tacit h₄
            rw [Program.sat_ite]
            split
            · rw [Program.sat_bind, sat_lock]
              obtain ⟨objects₄, hvector₄, -⟩ := h₄.vector
              have hlocked : Tacit w₄
                  { w₄ with mutexOwned := true, log := w₄.log ++ [.lock w₄.mutexOwned] } :=
                (Tacit.refl hvector₄).entry (e := .lock w₄.mutexOwned) rfl rfl rfl rfl
              exact (ho₄.tacit hlocked).push
            · obtain ⟨objects₄, hlisting, -⟩ := ho₄.listing
              exact ⟨objects₄, hlisting⟩

theorem sat_rbusUnregisterObj_listing
    (h : Listing L objects w)
    (objectName : Option CString) :
    Program.Sat unheeded (rbusUnregisterObj objectName)
      (fun _ w' => ∃ objects', Listing L objects' w') w := by
  cases objectName with
  | none =>
      exact ⟨objects, h⟩
  | some objectName =>
      rw [rbusUnregisterObj, Program.sat_ite]
      split
      · exact ⟨objects, h⟩
      · refine (sat_tacit h (keeps_removeListener_tacit objectName)).bind ?_
        rintro err w₁ ⟨objects₁, h₁⟩
        rw [Program.sat_ite]
        split
        · exact ⟨objects₁, h₁⟩
        · refine (sat_lock_listing h₁).bind fun _ w₂ h₂ => ?_
          rw [Program.sat_bind, sat_getObject h₂.vector]
          cases KeyedList.lookup ServerObject.key objectName objects₁ with
          | none =>
              exact sat_unlock_pure_listing h₂ _
          | some o =>
              have hsub : (rtVectorRemoveFound serverObjectCompare objectName objects₁).Sublist
                  objects₁ := List.eraseP_sublist
              have herased : Listing L
                  (rtVectorRemoveFound serverObjectCompare objectName objects₁)
                  { w₂ with
                    gServerObjects :=
                      .live (rtVectorRemoveFound serverObjectCompare objectName objects₁)
                    log := w₂.log ++ [.write w₂.mutexOwned] } := by
                refine ⟨rfl, ?_, ?_, fun x hx => h₂.allocated x (hsub.subset hx), ?_, h₂.fresh⟩
                · exact h₂.names.sublist (hsub.map ServerObject.key)
                · exact h₂.addresses.sublist (hsub.map ServerObject.ptr)
                · intro x hx
                  exact (h₂.objects x (hsub.subset hx)).of_same (.refl x)
                    (silentAt_singleton rfl x.key)
              dsimp only
              rw [Program.sat_bind, sat_updateServerObjects, h₂.vector, RtVector.update_live]
              exact sat_unlock_pure_listing herased _

end Objects

section Publishing

variable {M W : Type} [MessageApi M W]
variable {L : Ledger} {objects : List ServerObject} {w₀ w : World M W}

omit [MessageApi M W] in
theorem keeps_written_tacit
    (m : MessageRef M) (r : Option M) :
    Program.Keeps unheeded (Tacit w₀) (written m r : CoreM M W (MessageRef M)) := by
  cases r with
  | none =>
      exact fun _ _ => trivial
  | some v =>
      exact Program.keeps_pure _

theorem keeps_setEventMetaSection_tacit
    (out : MessageRef M) (eventName objectName : CString) (flag : Int) :
    Program.Keeps unheeded (Tacit w₀)
      (setEventMetaSection out eventName objectName flag : CoreM M W (MessageRef M)) := by
  rw [setEventMetaSection_eq]
  exact keeps_written_tacit _ _

theorem keeps_sendToListeners_tacit
    (out : MessageRef M) (objectName : CString) (listeners : List CString) :
    Program.Keeps unheeded (Tacit w₀)
      (sendToListeners out objectName listeners : CoreM M W Unit) := by
  induction listeners with
  | nil =>
      exact Program.keeps_pure _
  | cons listener listeners ih =>
      refine Program.keeps_bind ?_ fun _ => ih
      refine Program.keeps_bind Program.keeps_getState fun w => ?_
      refine Program.keeps_ite (Program.keeps_pure _) ?_
      refine Program.keeps_bind keeps_gConnectionPtr fun con => ?_
      exact Program.keeps_bind (keeps_call_tacit rfl) fun _ => Program.keeps_pure _

/-- A publish leaves the events alone. -/
theorem keeps_rbusPublishEvent_tacit
    (objectName eventName : Option CString) (out : MessageRef M) :
    Program.Keeps unheeded (Tacit w₀)
      (rbusPublishEvent objectName eventName out : CoreM M W (RbusError × MessageRef M)) := by
  refine Program.keeps_bind Program.keeps_getState fun w => ?_
  refine Program.keeps_ite (Program.keeps_pure _) ?_
  refine Program.keeps_bind (keeps_deref_tacit _) fun objectName => ?_
  refine Program.keeps_ite (Program.keeps_pure _) ?_
  refine Program.keeps_bind (keeps_setEventMetaSection_tacit _ _ _ _) fun out => ?_
  refine Program.keeps_bind keeps_lock_tacit fun _ => ?_
  refine Program.keeps_bind (keeps_getObject_tacit _) fun obj => ?_
  cases obj with
  | none =>
      exact keeps_unlock_pure_tacit _
  | some obj =>
      dsimp only
      split
      · exact Program.keeps_bind (keeps_sendToListeners_tacit _ _ _) fun _ =>
          keeps_unlock_pure_tacit _
      · exact keeps_unlock_pure_tacit _

/-- Nothing else happens in the process during a call, which is answered; and the behaviour is
undefined only if something is broken. -/
def unheededUnless (broken : Prop) : Contract (Call.Answer (M := M) (W := W)) (World M W) where
  env := unheeded.env
  atCall e w := ∃ a w', unheeded.env e w a w'
  atUndef _ := broken

/-- The send of a message to a listener. -/
def sendTo (con : Option Ptr) (data : W) (objectName listener : CString) : Event M W :=
  .call (.sendBinaryDirect con data listener objectName)

/-- The loop of `rbus_publishEvent` tries every listener, whatever the others' results. -/
theorem sat_sendToListeners_sends
    {con : Connection} {broken : Prop}
    (hcon : w.gConnection = some con)
    (out : MessageRef M) (objectName : CString) (listeners : List CString) :
    Program.Sat (unheededUnless broken) (sendToListeners out objectName listeners)
      (fun _ w' => sends w'.log = sends w.log ++
        listeners.map (sendTo (some con.ptr) (MessageApi.toBytes out.val) objectName)) w := by
  induction listeners generalizing w with
  | nil =>
      exact (List.append_nil _).symm
  | cons listener listeners ih =>
      rw [sendToListeners, rbusSendMessage, bind_assoc, Program.sat_bind, Program.sat_getState,
        hcon, if_neg (c := (some con).isNone = true) Bool.false_ne_true, bind_assoc,
        Program.sat_bind, sat_gConnectionPtr, hcon, bind_assoc, Program.sat_bind, sat_call]
      refine ⟨⟨.rtOk, _, rfl⟩, ?_⟩
      rintro err _ rfl
      have hrest := ih (w := { w with
        log := w.log ++ [sendTo (some con.ptr) (MessageApi.toBytes out.val) objectName listener] })
        hcon
      refine hrest.mono fun _ w' hsends => ?_
      have hsend : (sendTo (M := M) (some con.ptr) (MessageApi.toBytes out.val) objectName
          listener).isSend = true := rfl
      rw [hsends, sends_concat, if_pos hsend, List.append_assoc]
      rfl

/-- The event a publish gets to. -/
def publishedEvent? (objectName event : CString) (w : World M W) : Option ServerEvent :=
  if w.gConnection.isSome ∧ objectName.strlen < maxObjectNameLength then
    (KeyedList.lookup ServerObject.key objectName w.gServerObjects.items).bind fun o =>
      KeyedList.lookup ServerEvent.key event o.subscriptions
  else none

/-- What `rbus_publishEvent` returns and sends. -/
def PublishOutcome
    (objectName : CString) (w : World M W) (found : Option ServerEvent)
    (r : RbusError × MessageRef M) (w' : World M W) : Prop :=
  match found with
  | some e =>
      r.1 = .success ∧ ∃ con, w.gConnection = some con ∧
        sends w'.log = sends w.log ++
          e.listeners.map (sendTo (some con.ptr) (MessageApi.toBytes r.2.val) objectName)
  | none => r.1 ≠ .success ∧ sends w'.log = sends w.log

/-- `rbus_publishEvent` sends to the listeners of the event, once to each and in their order. -/
theorem sat_rbusPublishEvent_sends
    (h : w.gServerObjects = .live objects)
    (objectName : CString) (eventName : Option CString) (out : MessageRef M) :
    Program.Sat
      (unheededUnless (eventMetaSection? out.val (eventName.getD defaultEvent) objectName 0 = none))
      (rbusPublishEvent (some objectName) eventName out)
      (PublishOutcome objectName w
        (publishedEvent? objectName (eventName.getD defaultEvent) w)) w := by
  rw [rbusPublishEvent, Program.sat_bind, Program.sat_getState, publishedEvent?]
  cases hcon : w.gConnection with
  | none =>
      exact ⟨fun hret => RbusError.noConfusion hret, rfl⟩
  | some con =>
      rw [if_neg (c := (some con).isNone = true) Bool.false_ne_true]
      dsimp only
      rw [Program.sat_bind, sat_deref_some, Program.sat_ite]
      by_cases hlong : maxObjectNameLength ≤ objectName.strlen
      · rw [if_pos hlong, if_neg fun hlegal => Nat.not_le_of_lt hlegal.2 hlong]
        exact ⟨fun hret => RbusError.noConfusion hret, rfl⟩
      · have hlegal : (some con).isSome = true ∧ objectName.strlen < maxObjectNameLength :=
          ⟨rfl, Nat.lt_of_not_le hlong⟩
        rw [if_neg hlong, if_pos hlegal, setEventMetaSection_eq]
        rcases hwritten : eventMetaSection? out.val (eventName.getD defaultEvent) objectName 0 with
          _ | v
        · exact rfl
        rw [written, pure_bind]
        obtain ⟨w₁, hw₁⟩ : ∃ w₁ : World M W, w₁ =
            { w with mutexOwned := true, log := w.log ++ [.lock w.mutexOwned] } :=
          ⟨_, rfl⟩
        have hlive : w₁.gServerObjects = .live objects := by rw [hw₁, h]
        have hcon₁ : w₁.gConnection = some con := by rw [hw₁, hcon]
        have hsame : sends w₁.log = sends w.log := by
          rw [hw₁]
          exact (sends_concat _ _).trans (if_neg Bool.false_ne_true)
        have hfree (w' : World M W) (e : Event M W) (he : e.isSend = false) :
            sends (w'.log ++ [e]) = sends w'.log :=
          (sends_concat _ _).trans (if_neg (Bool.eq_false_iff.mp he))
        rw [Program.sat_bind, sat_lock, ← hw₁, Program.sat_bind, sat_getObject hlive, h,
          RtVector.items_live]
        cases hobject : KeyedList.lookup ServerObject.key objectName objects with
        | none =>
            exact ⟨fun hret => RbusError.noConfusion hret, (hfree w₁ _ rfl).trans hsame⟩
        | some o =>
            dsimp only
            rw [find_event, Option.bind_some]
            cases hevent : KeyedList.lookup ServerEvent.key (eventName.getD defaultEvent)
              o.subscriptions with
            | none =>
                exact ⟨fun hret => RbusError.noConfusion hret, (hfree w₁ _ rfl).trans hsame⟩
            | some e =>
                refine (sat_sendToListeners_sends hcon₁ ⟨out.ptr, v⟩ objectName e.listeners).bind ?_
                intro _ w₂ hsends
                refine ⟨rfl, con, hcon, (hfree w₂ _ rfl).trans ?_⟩
                rw [hsends, hsame]

theorem returns_rbusPublishEvent
    {objectName : CString} {eventName : Option CString} {out : MessageRef M}
    {r : RbusError × MessageRef M} {w' : World M W}
    (h : w.gServerObjects = .live objects)
    (hreturns : Program.Returns unheeded.env (rbusPublishEvent (some objectName) eventName out) w
      r w') :
    PublishOutcome objectName w (publishedEvent? objectName (eventName.getD defaultEvent) w) r w' :=
  Program.returns_of_sat (fun _ _ _ _ henv => henv)
    (sat_rbusPublishEvent_sends h objectName eventName out) hreturns

/-- A publish comes to its end if the metadata section can be written to the message. -/
theorem completes_rbusPublishEvent
    {objectName : CString} {eventName : Option CString} {out : MessageRef M}
    (h : w.gServerObjects = .live objects)
    (hwritable : eventMetaSection? out.val (eventName.getD defaultEvent) objectName 0 ≠ none) :
    Program.Completes unheeded.env (rbusPublishEvent (some objectName) eventName out) w :=
  Program.completes_of_sat
    (C := unheededUnless
      (eventMetaSection? out.val (eventName.getD defaultEvent) objectName 0 = none))
    (fun _ _ hanswer => hanswer) (fun _ => hwritable)
    (sat_rbusPublishEvent_sends h objectName eventName out)

end Publishing

section Runs

variable {M W : Type} [MessageApi M W]

/-- What happens at a provider: registrations, requests that arrive for the object at an
address, and publishes. -/
inductive ProviderOp (M : Type) where
  | registerObj (objectName : Option CString) (handler : Nat) (userData : Ptr)
  | unregisterObj (objectName : Option CString)
  | registerMethod (objectName methodName : Option CString) (handler : MethodCallback)
      (userData : Ptr)
  | unregisterMethod (objectName methodName : Option CString)
  | registerEvent (objectName eventName : Option CString) (callback : Option Nat)
      (userData : Ptr)
  | unregisterEvent (objectName eventName : Option CString)
  | request (object : Ptr) (event subscriber : Option (List UInt8)) (added : Bool)
      (payload : Option M)
  | publishEvent (objectName eventName : Option CString) (out : MessageRef M)

namespace ProviderOp

/-- The functions of the library. -/
def run : ProviderOp M → CoreM M W RbusError
  | .registerObj objectName handler userData => rbusRegisterObj objectName handler userData
  | .unregisterObj objectName => rbusUnregisterObj objectName
  | .registerMethod objectName methodName handler userData =>
      rbusRegisterMethod objectName methodName handler userData
  | .unregisterMethod objectName methodName => rbusUnregisterMethod objectName methodName
  | .registerEvent objectName eventName callback userData =>
      rbusRegisterEvent objectName eventName callback userData
  | .unregisterEvent objectName eventName => rbusUnregisterEvent objectName eventName
  | .request object event subscriber added payload =>
      serverObjectSubscriptionHandler object event subscriber added payload
  | .publishEvent objectName eventName out => do
      let r ← rbusPublishEvent objectName eventName out
      pure r.1

end ProviderOp

/-- What an operation enters into the ledger. -/
def Ledger.after (L : Ledger) (w : World M W) : ProviderOp M → Ledger
  | .registerEvent objectName eventName _ _ => L.register w objectName eventName
  | .unregisterEvent objectName eventName => L.unregister w objectName eventName
  | .request object event subscriber added _ => L.request object event subscriber added
  | _ => L

/-- Runs of a provider, with what has been asked of its events.  Callbacks do not call back. -/
inductive Provided : World M W → Ledger → Prop
  | opened {w : World M W}
      (hvector : w.gServerObjects = .live []) :
      Provided w fun _ _ => none
  | step {w w' : World M W} {L : Ledger} {op : ProviderOp M} {ret : RbusError}
      (h : Provided w L)
      (hop : Program.Returns unheeded.env op.run w ret w') :
      Provided w' (L.after w op)

variable {L : Ledger} {objects : List ServerObject} {w w' : World M W}

/-- Every operation changes the listeners as it changes the ledger. -/
theorem sat_providerOp
    (h : Listing L objects w)
    (op : ProviderOp M) :
    Program.Sat unheeded op.run
      (fun _ w' => ∃ objects', Listing (L.after w op) objects' w') w := by
  cases op with
  | registerObj objectName handler userData =>
      exact sat_rbusRegisterObj_listing h objectName handler userData
  | unregisterObj objectName =>
      exact sat_rbusUnregisterObj_listing h objectName
  | registerMethod objectName methodName handler userData =>
      exact sat_tacit h (keeps_registerMethod_tacit objectName methodName handler userData)
  | unregisterMethod objectName methodName =>
      exact sat_tacit h (keeps_unregisterMethod_tacit objectName methodName)
  | registerEvent objectName eventName callback userData =>
      exact sat_rbusRegisterEvent_listing h objectName eventName callback userData
  | unregisterEvent objectName eventName =>
      exact sat_rbusUnregisterEvent_listing h objectName eventName
  | request object event subscriber added payload =>
      exact sat_serverObjectSubscriptionHandler h object event subscriber added payload
  | publishEvent objectName eventName out =>
      exact sat_tacit h (Program.keeps_bind (keeps_rbusPublishEvent_tacit _ _ _) fun _ =>
        Program.keeps_pure _)

theorem Provided.listing
    (h : Provided w L) :
    ∃ objects, Listing L objects w := by
  induction h with
  | opened hvector =>
      exact ⟨[], hvector, KeyedList.distinct_nil, KeyedList.distinct_nil,
        fun _ ho => absurd ho List.not_mem_nil, fun _ ho => absurd ho List.not_mem_nil,
        fun _ _ _ => rfl⟩
  | step _ hop ih =>
      obtain ⟨objects, hlisting⟩ := ih
      exact Program.returns_of_sat (C := unheeded) (fun _ _ _ _ henv => henv)
        (sat_providerOp hlisting _) hop

/-- A transport and an application that agree to everything, and a bus that takes nothing. -/
def compliantAnswer :
    (e : Call Bytes (List UInt8)) → World Bytes (List UInt8) →
      Option (e.Answer × World Bytes (List UInt8))
  | .addListener .., w => some (.rtOk, w)
  | .subscribeCallback .., w => some (.success, w)
  | .sendBinaryDirect .., w => some (.rtFail, w)
  | _, _ => none

theorem unheeded_of_compliantAnswer
    (e : Call Bytes (List UInt8)) (w : World Bytes (List UInt8)) (a : e.Answer)
    (w' : World Bytes (List UInt8))
    (h : compliantAnswer e w = some (a, w')) :
    unheeded.env e w a w' := by
  cases e <;> cases h <;> rfl

/-- Operations one after another. -/
def runOps : List (ProviderOp Bytes) → World Bytes (List UInt8) →
    Option (World Bytes (List UInt8))
  | [], w => some w
  | op :: ops, w => ((op.run w).run compliantAnswer).bind fun r => runOps ops r.2

theorem provided_runOps
    {w w' : World Bytes (List UInt8)} {L : Ledger} {ops : List (ProviderOp Bytes)}
    (h : Provided w L)
    (hrun : runOps ops w = some w') :
    ∃ L', Provided w' L' := by
  induction ops generalizing w L with
  | nil =>
      obtain rfl := Option.some.inj hrun
      exact ⟨L, h⟩
  | cons op ops ih =>
      obtain ⟨⟨ret, w₁⟩, hop, hrest⟩ := Option.bind_eq_some_iff.mp hrun
      exact ih (h.step (Program.returns_of_run unheeded_of_compliantAnswer hop)) hrest

/-- A process that has just opened a connection. -/
def sampleOpenedProvider : World Bytes (List UInt8) :=
  { World.initial .empty .empty with
    gConnection := some (sampleConnection 1)
    gServerObjects := .live []
    nextPtr := 2 }

/-- An event is registered, and a client asks to be added, again, to be removed and to be
added. -/
def sampleProviderOps : List (ProviderOp Bytes) :=
  [.registerObj (some sampleObjectName.val) 1 0,
    .registerEvent (some sampleObjectName.val) (some sampleEventName.val) (some 5) 0,
    .request 2 (some [101, 0]) (some [99, 0]) true none,
    .request 2 (some [101, 0]) (some [99, 0]) true none,
    .request 2 (some [101, 0]) (some [99, 0]) false none,
    .request 2 (some [101, 0]) (some [99, 0]) true none]

theorem sampleProviderOps_run :
    (runOps sampleProviderOps sampleOpenedProvider).map (fun w =>
        w.gServerObjects.items.map fun o => (o.ptr, o.name.val, o.subscriptions)) =
      some [(2, sampleObjectName.val, [⟨sampleEventName, 2, [sampleInbox], some 5, 0⟩])] := by
   decide +kernel

theorem sampleProvided :
    ∃ (w : World Bytes (List UInt8)) (L : Ledger), Provided w L ∧
      w.gServerObjects.items.map (fun o => (o.ptr, o.name.val, o.subscriptions)) =
        [(2, sampleObjectName.val, [⟨sampleEventName, 2, [sampleInbox], some 5, 0⟩])] := by
  obtain ⟨w, hrun, hitems⟩ := Option.map_eq_some_iff.mp sampleProviderOps_run
  obtain ⟨L, hL⟩ := provided_runOps (.opened rfl) hrun
  exact ⟨w, L, hL, hitems⟩

/--
In every run of a provider, each event of each object listens to nobody twice, and exactly to
those whose latest request since the registration of the event was to be added; what is not
registered is not in the ledger.
-/
theorem listeners_exact
    (h : Provided w L) :
    ∃ objects, w.gServerObjects = .live objects ∧ ∀ o ∈ objects, ∀ event,
      match rtVectorFind serverEventCompare o.subscriptions event with
      | some e => ∃ reg, L o.ptr event = some reg ∧ e.listeners.Nodup ∧
          ∀ x, x ∈ e.listeners ↔
            (Membership.requestsOf x reg.requests).getLast? = some true
      | none => L o.ptr event = none := by
  obtain ⟨objects, hlisting⟩ := h.listing
  refine ⟨objects, hlisting.vector, fun o ho event => ?_⟩
  have hlisteners := (hlisting.objects o ho).listeners event
  rw [find_event]
  cases hfound : KeyedList.lookup ServerEvent.key event o.subscriptions with
  | none =>
      rw [hfound, Option.map_none, eq_comm, Option.map_eq_none_iff] at hlisteners
      exact hlisteners
  | some e =>
      rw [hfound, Option.map_some] at hlisteners
      obtain ⟨reg, hreg, hmembers⟩ := Option.map_eq_some_iff.mp hlisteners.symm
      refine ⟨reg, hreg, ?_, fun x => ?_⟩
      · rw [← hmembers]
        exact Membership.nodup_members reg.requests
      · rw [← hmembers]
        exact Membership.mem_members_iff x reg.requests

theorem listeners_exact_sample :
    ∃ (L : Ledger) (objects : List ServerObject),
      objects.map ServerObject.subscriptions =
        [[⟨sampleEventName, 2, [sampleInbox], some 5, 0⟩]] ∧
      ∀ o ∈ objects, ∀ event,
        match rtVectorFind serverEventCompare o.subscriptions event with
        | some e => ∃ reg, L o.ptr event = some reg ∧ e.listeners.Nodup ∧
            ∀ x, x ∈ e.listeners ↔
              (Membership.requestsOf x reg.requests).getLast? = some true
        | none => L o.ptr event = none := by
  obtain ⟨w, L, h, hitems⟩ := sampleProvided
  obtain ⟨objects, hobjects, hexact⟩ := listeners_exact h
  refine ⟨L, objects, ?_, hexact⟩
  rw [hobjects, RtVector.items_live] at hitems
  have hmap := congrArg (List.map fun entry => entry.2.2) hitems
  rw [List.map_map] at hmap
  exact hmap

/--
In every run of a provider, the callback of an event has been called, since the event was
registered, for exactly the requests that changed the listeners, in their order; for each sender
it is told of an addition and of a removal in turn, starting with an addition, and the last call
says whether the sender listens.
-/
theorem callbacks_alternate
    {o : ServerObject} {e : ServerEvent} {callback : Nat}
    (h : Provided w L)
    (ho : o ∈ w.gServerObjects.items)
    (he : e ∈ o.subscriptions)
    (hcallback : e.subCallback = some callback) :
    ∃ reg told, L o.ptr e.name.val = some reg ∧
      notifications o.name.val e.name.val (w.log.drop reg.since) = told ∧
      told = Membership.effective reg.requests ∧
      ∀ x, Membership.Alternates (Membership.requestsOf x told) ∧
        (x ∈ e.listeners ↔ (Membership.requestsOf x told).getLast? = some true) := by
  obtain ⟨objects, hlisting⟩ := h.listing
  rw [hlisting.vector, RtVector.items_live] at ho
  have hobject := hlisting.objects o ho
  have hlisteners := hobject.listeners e.key
  rw [hobject.names.lookup_of_mem he, Option.map_some] at hlisteners
  obtain ⟨reg, hreg, hmembers⟩ := Option.map_eq_some_iff.mp hlisteners.symm
  have hnotified := hobject.notified e he callback hcallback reg hreg
  refine ⟨reg, _, hreg, hnotified, rfl, fun x => ?_⟩
  rw [← hmembers]
  exact Membership.alternates_effective x reg.requests

theorem callbacks_alternate_sample :
    ∃ (w : World Bytes (List UInt8)) (L : Ledger) (reg : Registration)
      (told : List (CString × Bool)),
      L 2 sampleEventName.val = some reg ∧
      notifications sampleObjectName.val sampleEventName.val (w.log.drop reg.since) = told ∧
      told = Membership.effective reg.requests ∧
      ∀ x, Membership.Alternates (Membership.requestsOf x told) ∧
        (x ∈ [sampleInbox] ↔ (Membership.requestsOf x told).getLast? = some true) := by
  obtain ⟨w, L, h, hitems⟩ := sampleProvided
  obtain ⟨o, objects, hobjects, ho, hrest⟩ := List.map_eq_cons_iff.mp hitems
  obtain ⟨hptr, hname, hevents⟩ : o.ptr = 2 ∧ o.name.val = sampleObjectName.val ∧
      o.subscriptions = [⟨sampleEventName, 2, [sampleInbox], some 5, 0⟩] := by
    simpa using ho
  have hmem : o ∈ w.gServerObjects.items := by
    rw [hobjects]
    exact List.mem_cons_self
  have hevent : ⟨sampleEventName, 2, [sampleInbox], some 5, 0⟩ ∈ o.subscriptions := by
    rw [hevents]
    exact List.mem_cons_self
  obtain ⟨reg, told, hreg, htold⟩ := callbacks_alternate h hmem hevent rfl
  rw [hptr] at hreg
  rw [hname] at htold
  exact ⟨w, L, reg, told, hreg, htold⟩

omit [MessageApi M W] in
/-- The event a publish gets to, in the ledger. -/
theorem Listing.publishedEvent?_isSome_iff
    {objectName event : CString}
    (h : Listing L objects w) :
    (publishedEvent? objectName event w).isSome = true ↔
      w.gConnection.isSome = true ∧ objectName.strlen < maxObjectNameLength ∧
        ∃ o ∈ objects, o.key = objectName ∧ (L o.ptr event).isSome = true := by
  rw [publishedEvent?, h.vector, RtVector.items_live]
  have hregistered (o : ServerObject) (ho : o ∈ objects) :
      (KeyedList.lookup ServerEvent.key event o.subscriptions).isSome =
        (L o.ptr event).isSome := by
    have hlisteners := congrArg Option.isSome ((h.objects o ho).listeners event)
    rw [Option.isSome_map, Option.isSome_map] at hlisteners
    exact hlisteners
  split
  case isFalse hillegal =>
    constructor
    · intro hnone
      cases hnone
    · rintro ⟨hcon, hlegal, -⟩
      exact absurd ⟨hcon, hlegal⟩ hillegal
  case isTrue hlegal =>
    constructor
    · intro hsome
      obtain ⟨e, he⟩ := Option.isSome_iff_exists.mp hsome
      obtain ⟨o, hfound, hevent⟩ := Option.bind_eq_some_iff.mp he
      have ho := KeyedList.mem_of_lookup hfound
      refine ⟨hlegal.1, hlegal.2, o, ho, KeyedList.key_of_lookup hfound, ?_⟩
      rw [← hregistered o ho, hevent]
      rfl
    · rintro ⟨-, -, o, ho, rfl, hsome⟩
      rw [h.names.lookup_of_mem ho, Option.bind_some, hregistered o ho]
      exact hsome

/--
In every run of a provider, a publish of a message that can be written to comes to its end.  It
succeeds exactly when there is a connection, the name of the object is legal, and the event is
registered at it; then it has tried to send the event exactly once to each of those whose latest
request since the registration was to be added, whatever the results of the sends; otherwise it
has sent nothing.
-/
theorem publish_sends_each_once
    (objectName : CString) (eventName : Option CString) (out : MessageRef M)
    (h : Provided w L) :
    (eventMetaSection? out.val (eventName.getD defaultEvent) objectName 0 ≠ none →
      Program.Completes unheeded.env (rbusPublishEvent (some objectName) eventName out) w) ∧
    ∀ (ret : RbusError) (out' : MessageRef M) (w' : World M W),
      Program.Returns unheeded.env (rbusPublishEvent (some objectName) eventName out) w
        (ret, out') w' →
      (ret = .success ↔ w.gConnection.isSome = true ∧ objectName.strlen < maxObjectNameLength ∧
        ∃ o ∈ w.gServerObjects.items, o.name.val = objectName ∧
          (L o.ptr (eventName.getD defaultEvent)).isSome = true) ∧
      (ret ≠ .success → sends w'.log = sends w.log) ∧
      (ret = .success → ∃ o ∈ w.gServerObjects.items, o.name.val = objectName ∧
        ∃ (reg : Registration) (con : Connection) (listeners : List CString),
          L o.ptr (eventName.getD defaultEvent) = some reg ∧
          w.gConnection = some con ∧ listeners.Nodup ∧
          (∀ x, x ∈ listeners ↔ (Membership.requestsOf x reg.requests).getLast? = some true) ∧
          sends w'.log = sends w.log ++
            listeners.map (sendTo (some con.ptr) (MessageApi.toBytes out'.val) objectName)) := by
  obtain ⟨objects, hlisting⟩ := h.listing
  refine ⟨completes_rbusPublishEvent hlisting.vector, fun ret out' w' hpublish => ?_⟩
  have houtcome := returns_rbusPublishEvent hlisting.vector hpublish
  have hitems : w.gServerObjects.items = objects := by
    rw [hlisting.vector, RtVector.items_live]
  rw [hitems, ← hlisting.publishedEvent?_isSome_iff]
  cases hfound : publishedEvent? objectName (eventName.getD defaultEvent) w with
  | none =>
      rw [hfound] at houtcome
      refine ⟨⟨fun hret => absurd hret houtcome.1, fun hsome => ?_⟩, fun _ => houtcome.2,
        fun hret => absurd hret houtcome.1⟩
      cases hsome
  | some e =>
      rw [hfound] at houtcome
      obtain ⟨hret, con, hcon, hsends⟩ := houtcome
      refine ⟨⟨fun _ => rfl, fun _ => hret⟩, fun hfail => absurd hret hfail, fun _ => ?_⟩
      rw [publishedEvent?, hitems] at hfound
      split at hfound
      case isFalse =>
        cases hfound
      case isTrue =>
        obtain ⟨o, hobject, hevent⟩ := Option.bind_eq_some_iff.mp hfound
        have ho := KeyedList.mem_of_lookup hobject
        have hlisteners := (hlisting.objects o ho).listeners (eventName.getD defaultEvent)
        rw [hevent, Option.map_some] at hlisteners
        obtain ⟨reg, hreg, hmembers⟩ := Option.map_eq_some_iff.mp hlisteners.symm
        have hkey : o.key = objectName := KeyedList.key_of_lookup hobject
        refine ⟨o, ho, hkey, reg, con, e.listeners, hreg, hcon, ?_,
          fun x => ?_, hsends⟩
        · rw [← hmembers]
          exact Membership.nodup_members reg.requests
        · rw [← hmembers]
          exact Membership.mem_members_iff x reg.requests

/-- The event is published. -/
theorem samplePublished :
    ((runOps sampleProviderOps sampleOpenedProvider).bind fun w =>
      ((rbusPublishEvent (some sampleObjectName.val) (some sampleEventName.val)
        ⟨0, rbusMessageInit⟩ w).run compliantAnswer).map fun r => r.1.1) = some .success := by
  decide +kernel

theorem publish_sends_each_once_sample :
    ∃ (w w' : World Bytes (List UInt8)) (L : Ledger) (out' : MessageRef Bytes),
      ∃ o ∈ w.gServerObjects.items, o.name.val = sampleObjectName.val ∧
        ∃ (reg : Registration) (con : Connection) (listeners : List CString),
          L o.ptr sampleEventName.val = some reg ∧
          w.gConnection = some con ∧ listeners.Nodup ∧
          (∀ x, x ∈ listeners ↔
            (Membership.requestsOf x reg.requests).getLast? = some true) ∧
          sends w'.log = sends w.log ++
            listeners.map
              (sendTo (some con.ptr) (MessageApi.toBytes out'.val) sampleObjectName.val) := by
  obtain ⟨w, hrun, hpublish⟩ := Option.bind_eq_some_iff.mp samplePublished
  obtain ⟨⟨⟨ret, out'⟩, w'⟩, hreturns, hret⟩ := Option.map_eq_some_iff.mp hpublish
  obtain rfl : ret = .success := hret
  obtain ⟨L, h⟩ := provided_runOps (.opened rfl) hrun
  obtain ⟨-, hsends⟩ := publish_sends_each_once sampleObjectName.val (some sampleEventName.val)
    ⟨0, rbusMessageInit⟩ h
  exact ⟨w, w', L, out', (hsends .success out' w'
    (Program.returns_of_run unheeded_of_compliantAnswer hreturns)).2.2 rfl⟩

end Runs

end RbusCore
