import RbusCore.Arrivals
import RbusCore.BusStatus
import RbusCore.Cleanup
import RbusCore.Lib.Reentry
import RbusCore.Registry

/-!
# Objects behind listeners

`rbus_registerObj` installs a listener with the address of the new object as its closure, and
`onMessage` uses the object at this address.  Objects come and go between requests, while the
library waits for a reply, and inside callbacks.

**Results.**
* `Matched.enter`, `Matched.leave`: listeners that keep up with a list of objects.
* `keeps_publicOp_matching`, `matching_of_reentered`: the operations keep objects and listeners
  together, however they are nested in each other.
* `listeners_exact_objects`: in every run, every listener has its object and every object its
  listener.
* `close_waits_without_objects`: closing is the exception; while it waits, the listeners are
  there and the objects are not.
-/

namespace RbusCore

open CStrings Resumption

section Matched

/-- The names and addresses of objects. -/
def roster (objects : List ServerObject) : List (CString × Ptr) :=
  objects.map fun o => (o.key, o.ptr)

/-- Names and addresses that are all different, a listener for each, and no other listeners
with an object.  The topic of the router belongs to a listener without one, and is removed
with it. -/
structure Matched
    (topic : CString) (entries : List (CString × Ptr))
    (listeners : List (CString × ListenerCallback)) : Prop where
  names : KeyedList.Distinct Prod.fst entries
  addresses : KeyedList.Distinct Prod.snd entries
  objects : ∀ name p, (name, ListenerCallback.onMessage p) ∈ listeners → (name, p) ∈ entries
  listeners : ∀ entry ∈ entries, entry.1 ≠ topic →
    (entry.1, ListenerCallback.onMessage entry.2) ∈ listeners

variable {topic : CString} {entries : List (CString × Ptr)}
variable {listeners : List (CString × ListenerCallback)}

theorem Matched.nil :
    Matched topic [] [] where
  names := KeyedList.distinct_nil
  addresses := KeyedList.distinct_nil
  objects := fun _ _ h => absurd h List.not_mem_nil
  listeners := fun _ h => absurd h List.not_mem_nil

/-- A new object, and its listener. -/
theorem Matched.enter
    {name : CString} {p : Ptr}
    (h : Matched topic entries listeners)
    (hname : KeyedList.lookup Prod.fst name entries = none)
    (hp : KeyedList.lookup Prod.snd p entries = none) :
    Matched topic (entries ++ [(name, p)]) (listeners ++ [(name, .onMessage p)]) where
  names := h.names.append hname
  addresses := h.addresses.append hp
  objects := by
    intro name' p' hmem
    rcases List.mem_append.mp hmem with hold | hnew
    · exact List.mem_append_left _ (h.objects name' p' hold)
    · cases List.mem_singleton.mp hnew
      exact List.mem_append_right _ (List.mem_singleton.mpr rfl)
  listeners := by
    intro entry hmem htopic
    rcases List.mem_append.mp hmem with hold | hnew
    · exact List.mem_append_left _ (h.listeners entry hold htopic)
    · cases List.mem_singleton.mp hnew
      exact List.mem_append_right _ (List.mem_singleton.mpr rfl)

/-- The object with a name, and its listener, are removed. -/
theorem Matched.leave
    (h : Matched topic entries listeners)
    (name : CString) :
    Matched topic (KeyedList.erase Prod.fst name entries)
      (listeners.filter fun l => l.1 ≠ name) where
  names := h.names.erase name
  addresses := h.addresses.sublist (List.eraseP_sublist.map _)
  objects := by
    intro name' p hmem
    obtain ⟨hold, hne⟩ := List.mem_filter.mp hmem
    rw [h.names.erase_eq_filter]
    exact List.mem_filter.mpr ⟨h.objects name' p hold, hne⟩
  listeners := by
    intro entry hmem htopic
    rw [h.names.erase_eq_filter] at hmem
    obtain ⟨hold, hne⟩ := List.mem_filter.mp hmem
    exact List.mem_filter.mpr ⟨h.listeners entry hold htopic, hne⟩

/-- A listener without an object. -/
theorem Matched.advise
    (h : Matched topic entries listeners)
    (name : CString) :
    Matched topic entries (listeners ++ [(name, .rtroutedAdvisoryCallback)]) where
  names := h.names
  addresses := h.addresses
  objects := by
    intro name' p hmem
    rcases List.mem_append.mp hmem with hold | hnew
    · exact h.objects name' p hold
    · cases List.mem_singleton.mp hnew
  listeners := fun entry hmem htopic =>
    List.mem_append_left _ (h.listeners entry hmem htopic)

/-- The listeners at the topic of the router are removed. -/
theorem Matched.unadvise
    (h : Matched topic entries listeners) :
    Matched topic entries (listeners.filter fun l => l.1 ≠ topic) where
  names := h.names
  addresses := h.addresses
  objects := fun name p hmem => h.objects name p (List.mem_filter.mp hmem).1
  listeners := fun entry hmem htopic =>
    List.mem_filter.mpr ⟨h.listeners entry hmem htopic, decide_eq_true htopic⟩

theorem roster_updateAt
    {f : ServerObject → ServerObject}
    (hf : ∀ o, (f o).ptr = o.ptr ∧ (f o).name = o.name)
    (p : Ptr) (objects : List ServerObject) :
    roster (updateAt ServerObject.ptr p f objects) = roster objects := by
  rw [roster, updateAt, List.map_map]
  refine List.map_congr_left fun o _ => ?_
  dsimp only [Function.comp_apply]
  split
  · rw [ServerObject.key, (hf o).1, (hf o).2]
  · rfl

theorem roster_remove
    (name : CString) (objects : List ServerObject) :
    roster (rtVectorRemoveFound serverObjectCompare name objects) =
      KeyedList.erase Prod.fst name (roster objects) := by
  rw [remove_object, KeyedList.erase, KeyedList.erase, roster, roster, List.eraseP_map]
  rfl

theorem lookup_roster
    {name : CString} {objects : List ServerObject} :
    KeyedList.lookup Prod.fst name (roster objects) = none ↔
      KeyedList.lookup ServerObject.key name objects = none := by
  simp [KeyedList.lookup_eq_none_iff, roster]

end Matched

section Matching

variable {M W : Type}

/-- The listeners of a connection and the objects. -/
structure MatchedOn (c : Connection) (w : World M W) : Prop where
  vector : w.gServerObjects = .live w.gServerObjects.items
  allocated : ∀ o ∈ w.gServerObjects.items, o.ptr < w.nextPtr
  matched : Matched w.rtmsgAdvisoryTopic (roster w.gServerObjects.items) c.listeners

/-- The listeners of the connection, if there is one, and the objects. -/
def ListenersMatch (w : World M W) : Prop :=
  ∀ c, w.gConnection = some c → MatchedOn c w

/-- Whatever happens during a call keeps them together, and nothing happens unless the call
waits or runs a callback. -/
def matching : Contract (Call.Answer (M := M) (W := W)) (World M W) where
  env e w _ w' := (e.blocking = false → w' = w) ∧ (ListenersMatch w → ListenersMatch w')
  atCall _ w := ListenersMatch w
  atUndef _ := True

/-- The vector of objects is as it was, and addresses may have been handed out. -/
structure SameObjects (w w' : World M W) : Prop where
  vector : w'.gServerObjects = w.gServerObjects
  topic : w'.rtmsgAdvisoryTopic = w.rtmsgAdvisoryTopic
  nextPtr : w.nextPtr ≤ w'.nextPtr

variable {w w' : World M W}

theorem MatchedOn.same
    {c : Connection}
    (h : MatchedOn c w)
    (hsame : SameObjects w w') :
    MatchedOn c w' := by
  obtain ⟨hlive, hallocated, hmatched⟩ := h
  refine ⟨?_, fun o ho => ?_, ?_⟩
  · rw [hsame.vector]
    exact hlive
  · rw [hsame.vector] at ho
    exact Nat.lt_of_lt_of_le (hallocated o ho) hsame.nextPtr
  · rw [hsame.vector, hsame.topic]
    exact hmatched

/-- Neither the connection nor the vector is touched. -/
theorem ListenersMatch.same
    (h : ListenersMatch w)
    (hconnection : w'.gConnection = w.gConnection)
    (hsame : SameObjects w w') :
    ListenersMatch w' :=
  fun c hc => (h c (hconnection ▸ hc)).same hsame

theorem ListenersMatch.of_none
    (h : w.gConnection = none) :
    ListenersMatch w := by
  intro c hc
  rw [h] at hc
  cases hc

/-- Objects are changed, but neither their names nor their addresses. -/
theorem ListenersMatch.updateAt
    {f : ServerObject → ServerObject}
    (h : ListenersMatch w)
    (hf : ∀ o, (f o).ptr = o.ptr ∧ (f o).name = o.name)
    (p : Ptr) (log : List (Event M W)) :
    ListenersMatch { w with
      gServerObjects := w.gServerObjects.update (updateAt ServerObject.ptr p f)
      log := log } := by
  intro c hc
  obtain ⟨hlive, hallocated, hmatched⟩ := h c hc
  rw [hlive, RtVector.update_live]
  refine ⟨rfl, fun o ho => ?_, ?_⟩
  · obtain ⟨x, hx, rfl⟩ := List.mem_map.mp ho
    split
    · rw [(hf x).1]
      exact hallocated x hx
    · exact hallocated x hx
  · dsimp only [RtVector.items_live]
    rw [roster_updateAt hf]
    exact hmatched

theorem steady_matching : Steady matching (ListenersMatch : World M W → Prop) where
  messages := fun _ _ _ hle h => h.same rfl ⟨rfl, rfl, hle⟩
  called := fun _ _ _ h => h.same rfl ⟨rfl, rfl, Nat.le_refl _⟩
  fault := fun _ _ _ h => h.same rfl ⟨rfl, rfl, Nat.le_refl _⟩
  env := fun _ _ _ _ henv h => henv.2 h
  atCall := fun _ _ _ h => h
  atUndef := fun _ _ => trivial

theorem listening_matching : Listening matching (ListenersMatch : World M W → Prop) where
  toSteady := steady_matching
  listeners := fun _ p f h =>
    h.updateAt (f := fun o => { o with subscriptions := f o.subscriptions })
      (fun _ => ⟨rfl, rfl⟩) p _

theorem responding_matching : Responding matching (ListenersMatch : World M W → Prop) where
  toSteady := steady_matching
  flowCalled := fun _ _ _ h => h.same rfl ⟨rfl, rfl, Nat.le_refl _⟩
  flowAtCall := fun _ _ _ h => h

theorem locking_matching : Locking matching fun _ => (ListenersMatch : World M W → Prop) where
  steady := fun _ => steady_matching
  locked := fun _ h => h.same rfl ⟨rfl, rfl, Nat.le_refl _⟩
  unlocked := fun _ h => h.same rfl ⟨rfl, rfl, Nat.le_refl _⟩
  unusable := fun _ _ _ _ h => h.same rfl ⟨rfl, rfl, Nat.le_refl _⟩
  subscriptions := fun _ _ h => h.same rfl ⟨rfl, rfl, Nat.le_refl _⟩

theorem managing_matching : Managing matching fun _ => (ListenersMatch : World M W → Prop) where
  toLocking := locking_matching
  records := fun _ p _ hf h => h.updateAt hf p _
  unusableObjects := fun _ _ _ _ h => h.same rfl ⟨rfl, rfl, Nat.le_refl _⟩

theorem arriving_matching : Arriving matching (ListenersMatch : World M W → Prop) where
  toListening := listening_matching
  flowCalled := responding_matching.flowCalled
  flowAtCall := responding_matching.flowAtCall
  locking := locking_matching
  depth := fun _ _ h => h.same rfl ⟨rfl, rfl, Nat.le_refl _⟩
  queued := fun _ _ h => h.same rfl ⟨rfl, rfl, Nat.le_refl _⟩
  delivered := fun _ _ _ _ _ h => h.same rfl ⟨rfl, rfl, Nat.le_refl _⟩
  dispatching := fun _ _ _ _ h => h.same rfl ⟨rfl, rfl, Nat.le_refl _⟩
  dispatched := fun _ h => h.same rfl ⟨rfl, rfl, Nat.le_refl _⟩
  looping := fun _ h => h.same rfl ⟨rfl, rfl, Nat.le_refl _⟩

end Matching

section Connections

variable {M W : Type} {w w' : World M W}

/-- Other listeners are on the connection. -/
theorem ListenersMatch.withListeners
    {f : Connection → Connection}
    (h : ListenersMatch w)
    (hlisteners : ∀ c, w.gConnection = some c →
      Matched w.rtmsgAdvisoryTopic (roster w.gServerObjects.items) c.listeners →
      Matched w.rtmsgAdvisoryTopic (roster w.gServerObjects.items) (f c).listeners) :
    ListenersMatch { w with gConnection := w.gConnection.map f } := by
  intro c' hc'
  obtain ⟨c, hc, rfl⟩ := Option.map_eq_some_iff.mp hc'
  obtain ⟨hlive, hallocated, hmatched⟩ := h c hc
  exact ⟨hlive, hallocated, hlisteners c hc hmatched⟩

/-- Nothing happens while a listener is installed. -/
theorem sat_addListener_matching
    {Q : RtError → World M W → Prop}
    (h : ListenersMatch w)
    (expression : CString) (callback : ListenerCallback)
    (hrefused : ∀ err w', err ≠ .rtOk → w'.gConnection = w.gConnection → SameObjects w w' →
      Q err w')
    (hinstalled : ∀ w', w'.gConnection = w.gConnection → SameObjects w w' →
      Q .rtOk { w' with
        gConnection := w'.gConnection.map fun c =>
          { c with listeners := c.listeners ++ [(expression, callback)] } }) :
    Program.Sat matching (rtConnectionAddListener expression callback) Q w := by
  rw [rtConnectionAddListener, Program.sat_bind, sat_gConnectionPtr, Program.sat_bind, sat_call]
  refine ⟨h.same rfl ⟨rfl, rfl, Nat.le_refl _⟩, fun err w' henv => ?_⟩
  obtain rfl := henv.1 rfl
  rw [Program.sat_ite]
  split
  case isTrue hok =>
    cases hok
    exact hinstalled _ rfl ⟨rfl, rfl, Nat.le_refl _⟩
  case isFalse herr =>
    exact hrefused err _ herr rfl ⟨rfl, rfl, Nat.le_refl _⟩

/-- Nothing happens while listeners are removed. -/
theorem sat_removeListener_matching
    {Q : RtError → World M W → Prop}
    (h : ListenersMatch w)
    (expression : CString)
    (hrefused : ∀ err w', err ≠ .rtOk → w'.gConnection = w.gConnection → SameObjects w w' →
      Q err w')
    (hremoved : ∀ w', w'.gConnection = w.gConnection → SameObjects w w' →
      Q .rtOk { w' with
        gConnection := w'.gConnection.map fun c =>
          { c with listeners := c.listeners.filter fun l => l.1 ≠ expression } }) :
    Program.Sat matching (rtConnectionRemoveListener expression) Q w := by
  rw [rtConnectionRemoveListener, Program.sat_bind, sat_gConnectionPtr, Program.sat_bind, sat_call]
  refine ⟨h.same rfl ⟨rfl, rfl, Nat.le_refl _⟩, fun err w' henv => ?_⟩
  obtain rfl := henv.1 rfl
  rw [Program.sat_ite]
  split
  case isTrue hok =>
    cases hok
    exact hremoved _ rfl ⟨rfl, rfl, Nat.le_refl _⟩
  case isFalse herr =>
    exact hrefused err _ herr rfl ⟨rfl, rfl, Nat.le_refl _⟩

/-- The default listener is none of an object. -/
theorem keeps_startEventDispatch_matching :
    Program.Keeps matching (ListenersMatch : World M W → Prop) startEventDispatch := by
  intro w h
  rw [startEventDispatch, Program.sat_bind, Program.sat_getState, Program.sat_ite]
  split
  · rw [Program.sat_bind, rtConnectionAddDefaultListener, Program.sat_bind, sat_gConnectionPtr,
      Program.sat_bind, sat_call]
    refine ⟨h.same rfl ⟨rfl, rfl, Nat.le_refl _⟩, fun err w' henv => ?_⟩
    obtain rfl := henv.1 rfl
    rw [sat_updateConnection, Program.sat_modifyState]
    have hlistening := (h.withListeners
      (f := fun c => { c with defaultListener := true }) fun _ _ hc => hc)
    exact hlistening.same rfl ⟨rfl, rfl, Nat.le_refl _⟩
  · exact h

theorem keeps_lock_matching :
    Program.Keeps matching (ListenersMatch : World M W → Prop) lock :=
  leads_lock locking_matching.exclusive

theorem keeps_unlock_matching :
    Program.Keeps matching (ListenersMatch : World M W → Prop) unlock :=
  leads_unlock locking_matching.exclusive

theorem keeps_unlock_pure_matching
    {α : Type}
    (ret : α) :
    Program.Keeps matching (ListenersMatch : World M W → Prop)
      (do
        unlock
        pure ret) :=
  leads_unlock_pure locking_matching.exclusive ret

theorem keeps_rbusRegisterClientDisconnectHandler_matching
    (callback : Option Nat) :
    Program.Keeps matching (ListenersMatch : World M W → Prop)
      (rbusRegisterClientDisconnectHandler callback) := by
  intro w₀ h₀
  refine (keeps_lock_matching w₀ h₀).bind fun _ w h => ?_
  rw [Program.sat_bind, Program.sat_getState, Program.sat_ite]
  split
  · exact keeps_unlock_pure_matching _ w h
  · rw [Program.sat_bind]
    refine sat_addListener_matching h _ _ ?_ ?_
    · intro err w' herr hconnection hsame
      rw [if_neg herr]
      exact keeps_unlock_pure_matching _ w' (h.same hconnection hsame)
    · intro w' hconnection hsame
      rw [if_pos rfl, Program.sat_bind, Program.sat_modifyState]
      refine keeps_unlock_pure_matching _ _ ?_
      refine ((h.same hconnection hsame).withListeners fun c _ hc => ?_).same rfl
        ⟨rfl, rfl, Nat.le_refl _⟩
      exact hc.advise w.rtmsgAdvisoryTopic

theorem keeps_rbusUnregisterClientDisconnectHandler_matching :
    Program.Keeps matching (ListenersMatch : World M W → Prop)
      rbusUnregisterClientDisconnectHandler := by
  intro w₀ h₀
  refine (keeps_lock_matching w₀ h₀).bind fun _ w h => ?_
  refine Program.Sat.bind (P := fun _ => ListenersMatch) ?_ fun _ w' h' =>
    keeps_unlock_pure_matching _ w' h'
  rw [removeAdvisoryListener, Program.sat_bind, Program.sat_getState, Program.sat_ite]
  split
  · rw [Program.sat_bind]
    refine sat_removeListener_matching h _ ?_ ?_
    · intro err w' _ hconnection hsame
      exact (h.same hconnection hsame).same rfl ⟨rfl, rfl, Nat.le_refl _⟩
    · intro w' hconnection hsame
      refine ((h.same hconnection hsame).withListeners fun c _ hc => ?_).same rfl
        ⟨rfl, rfl, Nat.le_refl _⟩
      rw [← hsame.topic]
      exact hc.unadvise
  · exact h

end Connections

section Objects

variable {M W : Type} {w w' : World M W}

/-- A connection whose listeners and objects belong together. -/
structure ConnectedBy (c : Connection) (w : World M W) : Prop where
  connection : w.gConnection = some c
  matched : MatchedOn c w

/-- An object that has been made for a connection, and is at an address of its own. -/
structure Made (c : Connection) (o : ServerObject) (w : World M W) : Prop where
  matched : MatchedOn c w
  allocated : o.ptr < w.nextPtr
  name : KeyedList.lookup Prod.fst o.key (roster w.gServerObjects.items) = none
  address : KeyedList.lookup Prod.snd o.ptr (roster w.gServerObjects.items) = none

theorem ConnectedBy.listenersMatch
    {c : Connection}
    (h : ConnectedBy c w) :
    ListenersMatch w := by
  intro c' hc'
  obtain rfl := Option.some.inj (h.connection.symm.trans hc')
  exact h.matched

theorem Made.same
    {c : Connection} {o : ServerObject}
    (h : Made c o w)
    (hsame : SameObjects w w') :
    Made c o w' := by
  refine ⟨h.matched.same hsame, Nat.lt_of_lt_of_le h.allocated hsame.nextPtr, ?_, ?_⟩
  · rw [hsame.vector]
    exact h.name
  · rw [hsame.vector]
    exact h.address

/-- The object is entered when its listener has been installed. -/
theorem Made.push
    {c : Connection} {o : ServerObject}
    (h : Made c o w)
    (hconnection : w.gConnection =
      some { c with listeners := c.listeners ++ [(o.key, .onMessage o.ptr)] })
    (log : List (Event M W)) :
    ListenersMatch { w with
      gServerObjects := w.gServerObjects.update fun objects => objects ++ [o]
      log := log } := by
  intro c' hc'
  obtain rfl := Option.some.inj (hconnection.symm.trans hc')
  obtain ⟨hlive, hallocated, hmatched⟩ := h.matched
  rw [hlive, RtVector.update_live]
  refine ⟨rfl, fun x hx => ?_, ?_⟩
  · rcases List.mem_append.mp hx with hold | hnew
    · exact hallocated x hold
    · exact List.mem_singleton.mp hnew ▸ h.allocated
  · have hroster : roster (w.gServerObjects.items ++ [o]) =
        roster w.gServerObjects.items ++ [(o.key, o.ptr)] :=
      List.map_append
    dsimp only [RtVector.items_live]
    rw [hroster]
    exact hmatched.enter h.name h.address

/-- A new object. -/
theorem sat_serverObjectCreate_matching
    {c : Connection} {objectName : CString}
    (h : ConnectedBy c w)
    (hfree : KeyedList.lookup ServerObject.key objectName w.gServerObjects.items = none)
    (handler : Nat) (userData : Ptr) :
    Program.Sat matching (serverObjectCreate objectName handler userData)
      (fun o w' => Made c o w' ∧ o.key = objectName ∧ ConnectedBy c w') w := by
  rw [serverObjectCreate, Program.sat_bind, sat_rtMalloc, strcpy]
  cases hname : BoundedName.check? maxObjectNameLength objectName with
  | none =>
      exact trivial
  | some name =>
      obtain rfl := BoundedName.check?_eq_some_iff.mp hname
      have hmatched : MatchedOn c { w with nextPtr := w.nextPtr + 1 } :=
        h.matched.same ⟨rfl, rfl, Nat.le_succ _⟩
      refine ⟨⟨hmatched, Nat.lt_succ_self _, ?_, ?_⟩, rfl, h.connection, hmatched⟩
      · exact lookup_roster.mpr hfree
      · refine KeyedList.lookup_eq_none_iff.mpr fun entry hentry hptr => ?_
        obtain ⟨x, hx, rfl⟩ := List.mem_map.mp hentry
        exact absurd hptr (Nat.ne_of_lt (h.matched.allocated x hx))

/-- An object is registered together with its listener, or neither is. -/
theorem keeps_rbusRegisterObj_matching
    (objectName : Option CString) (handler : Nat) (userData : Ptr) :
    Program.Keeps matching (ListenersMatch : World M W → Prop)
      (rbusRegisterObj objectName handler userData) := by
  intro w h
  unfold rbusRegisterObj
  rw [Program.sat_bind, Program.sat_getState, Program.sat_ite]
  split
  · exact h
  case isFalse hsome =>
    obtain ⟨c, hc⟩ : ∃ c, w.gConnection = some c := by
      rw [Option.isNone_iff_eq_none] at hsome
      exact Option.ne_none_iff_exists'.mp hsome
    cases objectName with
    | none =>
        exact h
    | some objectName =>
        dsimp only
        generalize objectNameLengthInvalid objectName = invalid
        rw [Program.sat_ite]
        split
        · exact h
        · refine Program.Sat.bind (P := fun _ => ConnectedBy c) ⟨hc, (h c hc).same ⟨rfl, rfl, le_rfl⟩⟩
            fun _ w₁ h₁ => ?_
          rw [Program.sat_bind, sat_serverObjects h₁.matched.vector, find_object]
          refine Program.Sat.bind (P := fun _ w' => ConnectedBy c w' ∧ SameObjects w₁ w')
            ⟨⟨h₁.connection, h₁.matched.same ⟨rfl, rfl, le_rfl⟩⟩, rfl, rfl, le_rfl⟩ ?_
          rintro _ w₂ ⟨h₂, hsame₂⟩
          rw [Program.sat_ite]
          split
          · exact h₂.listenersMatch
          case isFalse hfree =>
            rw [Option.not_isSome_iff_eq_none, ← hsame₂.vector] at hfree
            refine (sat_serverObjectCreate_matching h₂ hfree handler userData).bind ?_
            rintro o w₃ ⟨hmade, rfl, h₃⟩
            rw [Program.sat_bind]
            refine sat_addListener_matching h₃.listenersMatch _ _ ?_ ?_
            · intro err w₄ herr hconnection hsame
              rw [if_neg herr]
              exact h₃.listenersMatch.same hconnection hsame
            · intro w₄ hconnection hsame
              have h₄ := hmade.same hsame
              rw [if_pos rfl]
              refine Program.Sat.bind (P := fun _ w' => Made c o w' ∧ w'.gConnection =
                some { c with listeners := c.listeners ++ [(o.key, .onMessage o.ptr)] })
                ⟨h₄.same ⟨rfl, rfl, le_rfl⟩, ?_⟩ ?_
              · dsimp only
                rw [hconnection, h₃.connection]
                rfl
              rintro _ w₅ ⟨h₅, hinstalled⟩
              rw [Program.sat_bind, sat_serverObjects h₅.matched.vector, Program.sat_bind,
                sat_updateServerObjects]
              exact keeps_unlock_pure_matching _ _ (h₅.push hinstalled _)

/-- The object is removed when its listener has been removed. -/
theorem MatchedOn.leave
    {c : Connection} {name : CString}
    (h : MatchedOn c w)
    (hconnection : w.gConnection =
      some { c with listeners := c.listeners.filter fun l => l.1 ≠ name })
    (log : List (Event M W)) :
    ListenersMatch { w with
      gServerObjects := w.gServerObjects.update (rtVectorRemoveFound serverObjectCompare name)
      log := log } := by
  intro c' hc'
  obtain rfl := Option.some.inj (hconnection.symm.trans hc')
  obtain ⟨hlive, hallocated, hmatched⟩ := h
  rw [hlive, RtVector.update_live]
  refine ⟨rfl, fun x hx => hallocated x (List.eraseP_sublist.subset hx), ?_⟩
  dsimp only [RtVector.items_live]
  rw [roster_remove]
  exact hmatched.leave name

/-- There is no such object. -/
theorem MatchedOn.leave_absent
    {c : Connection} {name : CString}
    (h : MatchedOn c w)
    (hconnection : w.gConnection =
      some { c with listeners := c.listeners.filter fun l => l.1 ≠ name })
    (habsent : KeyedList.lookup ServerObject.key name w.gServerObjects.items = none) :
    ListenersMatch w := by
  intro c' hc'
  obtain rfl := Option.some.inj (hconnection.symm.trans hc')
  have hmatched := h.matched.leave name
  rw [KeyedList.erase_of_lookup_eq_none (lookup_roster.mpr habsent)] at hmatched
  exact ⟨h.vector, h.allocated, hmatched⟩

/-- What becomes of objects does not matter without a connection. -/
theorem sat_getObject_unconnected
    (h : w.gConnection = none)
    (name : CString) :
    Program.Sat matching (getObject (some name)) (fun _ w' => w'.gConnection = none) w := by
  rw [getObject, Program.sat_bind, serverObjects, Program.sat_bind, Program.sat_getState]
  cases w.gServerObjects with
  | live objects =>
      rw [accessVector, Program.sat_pure, rtVectorFindDeref_some]
      exact h
  | null =>
      exact h
  | destroyed =>
      exact trivial

/-- An object is unregistered after its listener has been removed, if that is possible. -/
theorem keeps_rbusUnregisterObj_matching
    (objectName : Option CString) :
    Program.Keeps matching (ListenersMatch : World M W → Prop)
      (rbusUnregisterObj objectName) := by
  intro w h
  cases objectName with
  | none =>
      exact h
  | some objectName =>
      rw [rbusUnregisterObj, Program.sat_ite]
      split
      · exact h
      · rw [Program.sat_bind]
        refine sat_removeListener_matching h _ ?_ ?_
        · intro err w₁ herr hconnection hsame
          rw [if_pos herr]
          exact h.same hconnection hsame
        · intro w₁ hconnection hsame
          rw [if_neg (by simp)]
          cases hc : w.gConnection with
          | none =>
              refine Program.Sat.bind (P := fun _ w' => w'.gConnection = none) ?_ fun _ w₂ h₂ => ?_
              · rw [sat_lock, hconnection, hc]
                rfl
              · refine (sat_getObject_unconnected h₂ objectName).bind fun found w₃ h₃ => ?_
                cases found with
                | none =>
                    exact .of_none h₃
                | some o =>
                    exact .of_none h₃
          | some c =>
              let c' : Connection :=
                { c with listeners := c.listeners.filter fun l => l.1 ≠ objectName }
              have hc₁ : (w₁.gConnection.map fun c =>
                  { c with listeners := c.listeners.filter fun l => l.1 ≠ objectName }) =
                  some c' := by
                rw [hconnection, hc]
                rfl
              refine Program.Sat.bind (P := fun _ w' => MatchedOn c w' ∧ w'.gConnection = some c')
                ⟨((h c hc).same hsame).same ⟨rfl, rfl, le_rfl⟩, hc₁⟩ ?_
              rintro _ w₂ ⟨h₂, hc₂⟩
              rw [Program.sat_bind, sat_getObject h₂.vector]
              cases hfound :
                  KeyedList.lookup ServerObject.key objectName w₂.gServerObjects.items with
              | none =>
                  exact keeps_unlock_pure_matching _ w₂ (h₂.leave_absent hc₂ hfound)
              | some o =>
                  dsimp only
                  rw [Program.sat_bind, sat_updateServerObjects]
                  exact keeps_unlock_pure_matching _ _ (h₂.leave hc₂ _)

end Objects

section Opening

variable {M W : Type} {w w' : World M W}

/-- The address of the router is looked up without a connection. -/
theorem sat_routerConfig_unconnected
    (h : w.gConnection = none)
    (brokerAddress : Option CString) :
    Program.Sat matching (routerConfig brokerAddress) (fun _ w' => w'.gConnection = none) w := by
  cases brokerAddress with
  | some address =>
      exact h
  | none =>
      rw [routerConfig, configureRouterAddress, bind_assoc, Program.sat_bind, sat_call]
      refine ⟨.of_none h, fun file w' henv => ?_⟩
      obtain rfl := henv.1 rfl
      cases file.bind routerAddress with
      | none =>
          exact h
      | some address =>
          exact h

variable [MessageApi M W]

/-- A new connection has neither listeners nor objects. -/
theorem keeps_open_matching
    (componentName brokerAddress : Option CString) :
    Program.Keeps matching (ListenersMatch : World M W → Prop)
      (rbusOpenBrokerConnection2 componentName brokerAddress) := by
  intro w₀ h₀
  unfold rbusOpenBrokerConnection2
  split
  · exact h₀
  case h_2 componentName =>
    refine (keeps_initMutex (fun _ h => h.same rfl ⟨rfl, rfl, le_rfl⟩) w₀ h₀).bind fun _ w₁ h₁ => ?_
    refine (keeps_lock_matching w₁ h₁).bind fun _ w h => ?_
    rw [Program.sat_bind, Program.sat_getState, Program.sat_ite]
    split
    · exact keeps_unlock_pure_matching _ w h
    case isFalse hnone =>
      rw [Option.not_isSome_iff_eq_none] at hnone
      rw [openNewConnection]
      refine (sat_routerConfig_unconnected hnone brokerAddress).bind fun address w₂ h₂ => ?_
      rw [Program.sat_ite]
      split
      · exact trivial
      · rw [Program.sat_bind, performInit, Program.sat_modifyState, Program.sat_bind]
        refine sat_rtConnectionCreate _ _ (.of_none h₂) ?_ ?_
        · rintro returnAddress w₃ ⟨hsame, -⟩
          obtain rfl := hsame rfl
          rw [if_neg (by simp)]
          refine keeps_unlock_pure_matching _ _ fun c hc => ?_
          obtain rfl := Option.some.inj hc
          exact ⟨rfl, fun o ho => absurd ho List.not_mem_nil, .nil⟩
        · rintro err w₃ ⟨hsame, -⟩
          obtain rfl := hsame rfl
          rw [Program.sat_ite]
          split
          · rw [Program.sat_bind, Program.sat_modifyState]
            refine (sat_performCleanup_initialized rfl rfl).bind fun _ w₄ h₄ => ?_
            exact keeps_unlock_pure_matching _ w₄ (.of_none h₄)
          · exact keeps_unlock_pure_matching _ _ (.of_none h₂)

end Opening

section Operations

variable {M W : Type} [MessageApi M W]

theorem keeps_subscribe_matching
    (objectName eventName : Option CString) (callback : Option Nat)
    (payload : Option (MessageRef M)) (userData : Ptr) (timeout : Int) :
    Program.Keeps matching (ListenersMatch : World M W → Prop)
      (rbusSubscribeToEventInternal objectName eventName callback payload userData timeout) :=
  keeps_rbusSubscribeToEventInternal (I := fun _ => ListenersMatch) locking_matching
    keeps_startEventDispatch_matching
    (fun _ _ => keeps_rollbackUnlessMaster locking_matching _ _) _ _ _ _ _ _

/-- The operations that leave an open connection open. -/
def PublicOp.keepsConnection {M : Type} : PublicOp M → Bool
  | .closeBrokerConnection => false
  | _ => true

/-- Every such operation keeps listeners and objects together. -/
theorem keeps_publicOp_matching
    {op : PublicOp M}
    (hop : op.keepsConnection = true) :
    Program.Keeps matching (ListenersMatch : World M W → Prop) op.run := by
  have hsearching := (managing_matching (M := M) (W := W)).searching
  have hensure (p : Ptr) := keeps_ensureSubscriptionHandlers (managing_matching (M := M) (W := W)) p
  have hremove (p : Ptr) (f : ServerObject → ServerObject)
      (hf : ∀ o, (f o).ptr = o.ptr ∧ (f o).name = o.name) :
      Program.Keeps matching (ListenersMatch : World M W → Prop) (updateObject p f) :=
    managing_matching.keeps_updateObject p hf
  cases op with
  | openBrokerConnection componentName =>
      exact keeps_ignoreResult (keeps_open_matching componentName none)
  | openBrokerConnection2 componentName brokerAddress =>
      exact keeps_ignoreResult (keeps_open_matching componentName brokerAddress)
  | closeBrokerConnection =>
      exact absurd hop Bool.false_ne_true
  | registerObj objectName handler userData =>
      exact keeps_ignoreResult (keeps_rbusRegisterObj_matching _ _ _)
  | unregisterObj objectName =>
      exact keeps_ignoreResult (keeps_rbusUnregisterObj_matching _)
  | registerMethod objectName methodName handler userData =>
      exact keeps_ignoreResult (managing_matching.keeps_rbusRegisterMethod _ _ _ _)
  | unregisterMethod objectName methodName =>
      exact keeps_ignoreResult (keeps_rbusUnregisterMethod hsearching _ _ fun p name _ =>
        hremove p _ fun _ => ⟨rfl, rfl⟩)
  | registerMethodTable objectName table =>
      exact keeps_ignoreResult (keeps_rbusRegisterMethodTable (I := fun _ => ListenersMatch) _ _
        fun entry _ => managing_matching.keeps_rbusRegisterMethod _ _ _ _)
  | unregisterMethodTable objectName table =>
      exact keeps_ignoreResult (keeps_rbusUnregisterMethodTable (I := fun _ => ListenersMatch) _ _
        fun entry _ => keeps_rbusUnregisterMethod hsearching _ _ fun p name _ =>
          hremove p _ fun _ => ⟨rfl, rfl⟩)
  | publishEvent objectName eventName out =>
      exact keeps_ignoreResult (keeps_rbusPublishEvent hsearching _ _ _)
  | publishSubscriberEvent objectName eventName listener out =>
      exact keeps_ignoreResult (keeps_rbusPublishSubscriberEvent hsearching _ _ _ _)
  | registerEvent objectName eventName callback userData =>
      exact keeps_ignoreResult (keeps_rbusRegisterEvent managing_matching hensure _ _ _ _)
  | unregisterEvent objectName eventName =>
      exact keeps_ignoreResult (keeps_rbusUnregisterEvent hsearching _ _ fun p name =>
        hremove p _ fun _ => ⟨rfl, rfl⟩)
  | subscribeToEvent objectName eventName callback payload userData =>
      exact keeps_ignoreResult (keeps_subscribe_matching _ _ _ _ _ _)
  | subscribeToEventTimeout objectName eventName callback payload userData timeout =>
      exact keeps_ignoreResult (keeps_subscribe_matching _ _ _ _ _ _)
  | unsubscribeFromEvent objectName eventName payload =>
      exact keeps_ignoreResult (keeps_rbusUnsubscribeFromEvent locking_matching _ _ _)
  | registerSubscribeHandler objectName callback userData =>
      exact keeps_ignoreResult (keeps_rbusRegisterSubscribeHandler managing_matching hensure _ _ _)
  | registerMasterEventHandler callback userData =>
      exact keeps_ignoreResult fun _ h => h.same rfl ⟨rfl, rfl, le_rfl⟩
  | registerClientDisconnectHandler callback =>
      exact keeps_ignoreResult (keeps_rbusRegisterClientDisconnectHandler_matching callback)
  | unregisterClientDisconnectHandler =>
      exact keeps_ignoreResult keeps_rbusUnregisterClientDisconnectHandler_matching
  | _ =>
      exact keeps_messageOp responding_matching rfl

end Operations

section Runs

/-- The activities that leave an open connection open. -/
def LibraryActivity.keepsConnection {M W : Type} : LibraryActivity M W → Bool
  | .call op => op.keepsConnection
  | _ => true

variable {M W : Type} [MessageApi M W] {w w' : World M W}

/-- Answers to calls, with such activities nested in the blocking ones to depth `n`. -/
abbrev reentered (n : Nat) : (e : Call M W) → World M W → e.Answer → World M W → Prop :=
  NestWhen LibraryActivity.run (fun a _ => a.keepsConnection = true) (fun e => e.blocking = true) n

/-- Runs of a process: activities between and inside each other, and connections that are
closed. -/
inductive ServingRun : World M W → Prop
  | started {w : World M W}
      (hconnection : w.gConnection = none) :
      ServingRun w
  | activity {n : Nat} {a : LibraryActivity M W} {w w' : World M W}
      (h : ServingRun w)
      (hkeeps : a.keepsConnection = true)
      (hreturns : Program.Returns (reentered n) a.run w () w') :
      ServingRun w'
  | inside {n : Nat} {a : LibraryActivity M W} {w w' : World M W} {e : Call M W}
      (h : ServingRun w)
      (hkeeps : a.keepsConnection = true)
      (hwaits : Program.Waits (reentered n) a.run w e w') :
      ServingRun w'
  | closed {n : Nat} {w w' : World M W}
      (h : ServingRun w)
      (hreturns : Program.Returns (reentered n) rbusCloseBrokerConnection w .success w') :
      ServingRun w'

theorem keeps_libraryActivity_matching
    {a : LibraryActivity M W}
    (ha : a.keepsConnection = true) :
    Program.Keeps matching ListenersMatch a.run := by
  cases a with
  | call op =>
      exact keeps_publicOp_matching ha
  | request rounds hdr data closure =>
      exact keeps_onMessage arriving_matching rounds hdr data closure
  | event hdr data =>
      have hsubscriptions : Program.Keeps matching (ListenersMatch : World M W → Prop)
          clientSubscriptions :=
        keeps_clientSubscriptions steady_matching.toCalling fun _ _ _ h =>
          h.same rfl ⟨rfl, rfl, le_rfl⟩
      exact keeps_masterEventCallback steady_matching hsubscriptions keeps_lock_matching
        keeps_unlock_matching hdr data
  | advisory msg =>
      exact keeps_rtroutedAdvisoryCallback steady_matching.toCalling msg

/-- Whatever is nested in a call, to any depth, keeps listeners and objects together. -/
theorem matching_of_reentered
    (n : Nat) (e : Call M W) (w : World M W) (a : e.Answer) (w' : World M W)
    (h : reentered n e w a w') :
    matching.env e w a w' :=
  nestWhen_env (C := matching) (P := ListenersMatch) (fun _ _ _ => ⟨fun _ => rfl, id⟩)
    (fun _ _ _ _ hblocking hkeeps =>
      ⟨fun hcalm => absurd (hcalm.symm.trans hblocking) Bool.false_ne_true, hkeeps⟩)
    (fun _ w ha hw => keeps_libraryActivity_matching ha w hw) n e w a w' h

/-- A connection that has been closed is gone, whatever happened meanwhile. -/
theorem sat_close_unconnected
    {C : Contract (Call.Answer (M := M) (W := W)) (World M W)}
    (hcall : ∀ e w, C.atCall e w)
    (hundef : ∀ w, C.atUndef w) :
    Program.Sat C rbusCloseBrokerConnection
      (fun ret w' => ret = .success → w'.gConnection = none) w := by
  have hsteady : Steady C fun _ => True :=
    { messages := fun _ _ _ _ _ => trivial
      called := fun _ _ _ _ => trivial
      fault := fun _ _ _ _ => trivial
      env := fun _ _ _ _ _ _ => trivial
      atCall := fun e w _ _ => hcall e w
      atUndef := fun w _ => hundef w }
  have hlocking : Locking C fun _ _ => True :=
    { steady := fun _ => hsteady
      locked := fun _ _ => trivial
      unlocked := fun _ _ => trivial
      unusable := fun _ _ _ _ _ => trivial
      subscriptions := fun _ _ _ => trivial }
  rw [rbusCloseBrokerConnection, Program.sat_bind, sat_lock, Program.sat_bind,
    Program.sat_getState, Program.sat_ite]
  split
  · rintro ⟨⟩
  · refine (keeps_performCleanup hlocking (fun _ _ _ _ _ => trivial) _ trivial).bind fun _ w₁ _ => ?_
    rw [Program.sat_bind, sat_gConnectionPtr, Program.sat_bind, sat_call]
    refine ⟨hcall _ _, fun err w₂ _ => ?_⟩
    rw [Program.sat_ite]
    split
    · rintro ⟨⟩
    · exact fun _ => rfl

/-- Every run keeps listeners and objects together. -/
theorem ServingRun.listenersMatch
    (h : ServingRun w) :
    ListenersMatch w := by
  induction h with
  | started hconnection =>
      exact .of_none hconnection
  | @activity n a w w' _ hkeeps hreturns ih =>
      exact Program.returns_of_sat (matching_of_reentered n)
        (keeps_libraryActivity_matching hkeeps w ih) hreturns
  | @inside n a w w' e _ hkeeps hwaits ih =>
      exact Program.waits_of_sat (matching_of_reentered n)
        (keeps_libraryActivity_matching hkeeps w ih) hwaits
  | @closed n w w' _ hreturns ih =>
      have hclosed := Program.returns_of_sat (C := ⟨reentered n, fun _ _ => True, fun _ => True⟩)
        (fun _ _ _ _ henv => henv)
        (sat_close_unconnected (fun _ _ => trivial) fun _ => trivial) hreturns
      exact .of_none (hclosed rfl)

end Runs

section Closing

variable {M W : Type} {c : Connection} {w w' : World M W}

/-- The connection is there, with its listeners, and the objects are not. -/
structure Vacated (c : Connection) (w : World M W) : Prop where
  connection : w.gConnection = some c
  objects : w.gServerObjects = .destroyed

/-- What happens during a call neither opens nor closes a connection. -/
def vacating (c : Connection) : Contract (Call.Answer (M := M) (W := W)) (World M W) where
  env _ w _ w' := Vacated c w → Vacated c w'
  atCall _ w := Vacated c w
  atUndef _ := True

theorem locking_vacated : Locking (vacating c) fun _ => (Vacated c : World M W → Prop) where
  steady := fun _ =>
    { messages := fun _ _ _ _ h => ⟨h.connection, h.objects⟩
      called := fun _ _ _ h => ⟨h.connection, h.objects⟩
      fault := fun _ _ _ h => ⟨h.connection, h.objects⟩
      env := fun _ _ _ _ henv h => henv h
      atCall := fun _ _ _ h => h
      atUndef := fun _ _ => trivial }
  locked := fun _ h => ⟨h.connection, h.objects⟩
  unlocked := fun _ h => ⟨h.connection, h.objects⟩
  unusable := fun _ _ _ _ h => ⟨h.connection, h.objects⟩
  subscriptions := fun _ _ h => ⟨h.connection, h.objects⟩

variable [MessageApi M W]

/-- The objects are destroyed before anything is sent. -/
theorem leads_performCleanup_vacated
    {objects : List ServerObject} :
    Program.Leads (vacating c)
      (fun w : World M W => w.gConnection = some c ∧ w.gServerObjects = .live objects)
      performCleanup (Vacated c) := by
  have hlock : Program.Keeps (vacating c)
      (fun w : World M W => w.gConnection = some c ∧ w.gServerObjects = .live objects) lock :=
    fun w h => h
  have hdestroy : Program.Leads (vacating c)
      (fun w : World M W => w.gConnection = some c ∧ w.gServerObjects = .live objects)
      destroyServerObjects (Vacated c) := by
    rintro w ⟨hc, hvector⟩
    rw [destroyServerObjects, Program.sat_bind, sat_serverObjects hvector,
      Program.sat_modifyState, hvector]
    exact ⟨hc, rfl⟩
  have hforget : Program.Leads (vacating c) (Vacated c : World M W → Prop)
      destroyClientSubscriptions (Vacated c) :=
    leads_destroyClientSubscriptions locking_vacated fun w h => ⟨h.connection, h.objects⟩
  intro w h
  refine (leads_performCleanup locking_vacated hlock hdestroy hforget w h).mono ?_
  rintro _ _ ⟨w₀, h₀, rfl⟩
  exact ⟨h₀.connection, h₀.objects⟩

theorem sat_close_vacated
    {objects : List ServerObject}
    (hc : w.gConnection = some c)
    (hvector : w.gServerObjects = .live objects) :
    Program.Sat (vacating c) rbusCloseBrokerConnection (fun _ _ => True) w := by
  refine Program.Sat.bind (P := fun _ (w : World M W) =>
    w.gConnection = some c ∧ w.gServerObjects = .live objects) ⟨hc, hvector⟩ fun _ w₁ h₁ => ?_
  have hsome : ¬w₁.gConnection.isNone = true := by
    rw [h₁.1]
    exact Bool.false_ne_true
  rw [Program.sat_bind, Program.sat_getState, if_neg hsome]
  refine (leads_performCleanup_vacated w₁ h₁).bind fun _ w₂ h₂ => ?_
  rw [Program.sat_bind, sat_gConnectionPtr, Program.sat_bind, sat_call]
  refine ⟨⟨h₂.connection, h₂.objects⟩, fun err w₃ _ => ?_⟩
  rw [Program.sat_ite]
  split <;> trivial

/-- A request for an object, when the objects have been destroyed. -/
theorem onMessage_vacated
    (h : w.gServerObjects = .destroyed)
    (hidle : w.stackCounter = 0)
    (rounds : Nat) (hdr : RtMessageHeader) (data : W) (closure : Ptr) :
    ∃ w', onMessage (M := M) rounds hdr data closure w = .undef w' ∧
      Event.fault .object ∈ w'.log := by
  let C : Contract (Call.Answer (M := M) (W := W)) (World M W) :=
    { env := fun _ _ _ _ => True
      atCall := fun _ _ => False
      atUndef := fun w => Event.fault .object ∈ w.log }
  refine Program.undef_of_sat (C := C) (fun _ _ hcall => hcall) ?_
  simp only [onMessage, queueOrDispatch, recordedDispatch, dispatchMethodCall, derefMessage,
    derefObject, updateStackCounter, Program.sat_bind, sat_newMessage, Program.sat_getState,
    sat_record, Program.sat_modifyState, Program.sat_ite, Program.sat_pure, sat_lock,
    Function.update_self, hidle, h, RtVector.items_destroyed, List.find?_nil]
  simp [C]

/--
While a connection is being closed, at every call that waits for another process, and at the one
that destroys the connection, the connection still has all its listeners, and the objects are gone:
a request that arrives then, unless another one is being handled, makes `onMessage` use an object
that has been destroyed.
-/
theorem close_waits_without_objects
    {R : (e : Call M W) → World M W → e.Answer → World M W → Prop}
    {objects : List ServerObject} {e : Call M W}
    (hR : ∀ e w a w', R e w a w' → Vacated c w → Vacated c w')
    (hc : w.gConnection = some c)
    (hvector : w.gServerObjects = .live objects)
    (hwaits : Program.Waits R rbusCloseBrokerConnection w e w') :
    w'.gConnection = some c ∧ w'.gServerObjects = .destroyed ∧
      (w'.stackCounter = 0 → ∀ rounds hdr data closure,
        ∃ w'', onMessage (M := M) rounds hdr data closure w' = .undef w'' ∧
          Event.fault .object ∈ w''.log) := by
  have hvacated : Vacated c w' :=
    Program.waits_of_sat (C := vacating c) hR (sat_close_vacated hc hvector) hwaits
  exact ⟨hvacated.connection, hvacated.objects, fun hidle rounds hdr data closure =>
    onMessage_vacated hvacated.objects hidle rounds hdr data closure⟩

end Closing

section Run

/-- A request for the object arrives while the subscription is cancelled. -/
theorem close_waits_without_objects_sample :
    ∃ (w w' : World Bytes (List UInt8)) (c : Connection) (e : Call Bytes (List UInt8)),
      Program.Waits (fun _ w _ w' => w' = w) rbusCloseBrokerConnection w e w' ∧
      e.blocking = true ∧ w'.gConnection = some c ∧ w'.gServerObjects = .destroyed ∧
      (sampleObjectName.val, ListenerCallback.onMessage 2) ∈ c.listeners ∧
      ∃ w'', onMessage (M := Bytes) 1 (sampleHeader 1) [] 2 w' = .undef w'' ∧
        Event.fault .object ∈ w''.log := by
  have hrun : (obligingCalls sampleServing (World.initial .empty .empty)).bind (fun w =>
      (((rbusCloseBrokerConnection : CoreM Bytes (List UInt8) RbusError) w).firstCall).map fun r =>
        (w.gConnection.map Connection.listeners, w.gServerObjects.fault?, r.1.blocking,
          r.2.stackCounter)) =
        some (some [(sampleObjectName.val, .onMessage 2)], none, true, 0) := by
    decide +kernel
  obtain ⟨w, -, hrun⟩ := Option.bind_eq_some_iff.mp hrun
  obtain ⟨⟨e, w'⟩, hcall, hresult⟩ := Option.map_eq_some_iff.mp hrun
  simp only [Prod.mk.injEq] at hresult
  obtain ⟨hlisteners, hvector, hblocking, hidle⟩ := hresult
  obtain ⟨c, hc, hlisteners⟩ := Option.map_eq_some_iff.mp hlisteners
  obtain ⟨objects, hobjects⟩ : ∃ objects, w.gServerObjects = .live objects := by
    cases hv : w.gServerObjects with
    | live objects =>
        exact ⟨objects, rfl⟩
    | null | destroyed =>
        rw [hv] at hvector
        cases hvector
  have hwaits : Program.Waits (fun _ w _ w' => w' = w) rbusCloseBrokerConnection w e w' :=
    Program.waits_of_firstCall hcall
  obtain ⟨hconnection, hdestroyed, hfault⟩ := close_waits_without_objects
    (fun e w a w' hsame h => hsame ▸ h) hc hobjects hwaits
  refine ⟨w, w', c, e, hwaits, hblocking, hconnection, hdestroyed, ?_, hfault hidle _ _ _ _⟩
  rw [hlisteners]
  exact List.mem_singleton.mpr rfl

end Run

end RbusCore
