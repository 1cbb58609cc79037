import RbusCore.Frames
import RbusCore.Registry

/-!
# The reserved methods of an object

An object with events, or with a handler for all of them, answers subscription requests by two
reserved methods.  They are installed behind the entry that needs them: the installation looks
for the first of them only, and what was entered before it fails stays.

**Results.**
* `HandlersInv`: an object has none of the reserved methods, only the first one, or both.
* `ensureHandlers_success_iff`, `ensureHandlers_failure_iff`: when an installation is made as a
  whole, and when it fails without a trace.
* `sat_installingOp`: what the two operations do that install the methods.
-/

namespace RbusCore

open CStrings Resumption

section Handlers

/-- The method of an object with a name. -/
def ServerObject.method? (o : ServerObject) (name : CString) : Option ServerMethod :=
  rtVectorFind serverMethodCompare o.methods name

/-- A method of the object is bound to `subscription_handler`. -/
def ServerObject.Handles (o : ServerObject) (name : CString) : Prop :=
  ∃ m, o.method? name = some m ∧ m.callback = .subscriptionHandler ∧ m.data = o.ptr

/-- The reserved methods of an object: none of them, only the first one, or both. -/
inductive HandlersInv (o : ServerObject) : Prop
  | absent
      (hflag : o.processEventSubscriptions = false)
      (hadd : o.method? methodAddEventSubscription = none)
      (hremove : o.method? methodRemoveEventSubscription = none)
  | first
      (hflag : o.processEventSubscriptions = false)
      (hadd : o.Handles methodAddEventSubscription)
      (hremove : o.method? methodRemoveEventSubscription = none)
  | both
      (hflag : o.processEventSubscriptions = true)
      (hadd : o.Handles methodAddEventSubscription)
      (hremove : o.Handles methodRemoveEventSubscription)

/-- A name of a reserved method. -/
def Reserved (name : CString) : Prop :=
  name = methodAddEventSubscription ∨ name = methodRemoveEventSubscription

variable {o o' : ServerObject}

theorem ServerObject.method?_eq_lookup
    (o : ServerObject)
    (name : CString) :
    o.method? name = KeyedList.lookup ServerMethod.key name o.methods :=
  find_method o.methods name

theorem ServerObject.Handles.of_same
    {name : CString}
    (h : o.Handles name)
    (hptr : o'.ptr = o.ptr)
    (hmethod : o'.method? name = o.method? name) :
    o'.Handles name := by
  obtain ⟨m, hfound, hcallback, hdata⟩ := h
  exact ⟨m, hmethod.trans hfound, hcallback, hdata.trans hptr.symm⟩

theorem ServerObject.Handles.ne_none
    {name : CString}
    (h : o.Handles name) :
    o.method? name ≠ none := by
  obtain ⟨m, hfound, -⟩ := h
  rw [hfound]
  exact Option.some_ne_none m

/-- Nothing else of the object matters. -/
theorem HandlersInv.of_same
    (h : HandlersInv o)
    (hflag : o'.processEventSubscriptions = o.processEventSubscriptions)
    (hptr : o'.ptr = o.ptr)
    (hmethod : ∀ name, Reserved name → o'.method? name = o.method? name) :
    HandlersInv o' := by
  have hfirst := hmethod methodAddEventSubscription (Or.inl rfl)
  have hsecond := hmethod methodRemoveEventSubscription (Or.inr rfl)
  cases h with
  | absent hold hadd hremove =>
      exact .absent (hflag.trans hold) (hfirst.trans hadd) (hsecond.trans hremove)
  | first hold hadd hremove =>
      exact .first (hflag.trans hold) (hadd.of_same hptr hfirst) (hsecond.trans hremove)
  | both hold hadd hremove =>
      exact .both (hflag.trans hold) (hadd.of_same hptr hfirst) (hremove.of_same hptr hsecond)

/-- A method with another name may be added. -/
theorem HandlersInv.push
    {m : ServerMethod}
    (h : HandlersInv o)
    (hname : ¬Reserved m.key) :
    HandlersInv { o with methods := o.methods ++ [m] } := by
  refine h.of_same rfl rfl fun name hreserved => ?_
  have hne : m.key ≠ name := by
    intro heq
    exact hname (heq ▸ hreserved)
  rw [ServerObject.method?_eq_lookup, ServerObject.method?_eq_lookup,
    KeyedList.lookup_append_singleton]
  cases KeyedList.lookup ServerMethod.key name o.methods with
  | none =>
      exact if_neg hne
  | some _ =>
      rfl

/-- A method with another name may be removed. -/
theorem HandlersInv.remove
    {key : CString}
    (h : HandlersInv o)
    (hname : ¬Reserved key) :
    HandlersInv { o with methods := rtVectorRemoveFound serverMethodCompare key o.methods } := by
  refine h.of_same rfl rfl fun name hreserved => ?_
  have hne : key ≠ name := by
    intro heq
    exact hname (heq ▸ hreserved)
  rw [ServerObject.method?_eq_lookup, ServerObject.method?_eq_lookup, remove_method,
    KeyedList.lookup_erase_of_ne hne]

end Handlers

section Installation

/-- `rbus_registerMethod`, seen from its object. -/
def ServerObject.registerMethod (o : ServerObject) (m : ServerMethod) :
    RbusError × ServerObject :=
  if maxSupportedMethods ≤ o.methods.length then (.errorOutOfResources, o)
  else if (o.method? m.key).isSome then (.errorInvalidParam, o)
  else (.success, { o with methods := o.methods ++ [m] })

/-- A reserved method of an object. -/
def ServerObject.handler (o : ServerObject) (name : BoundedName maxMethodNameLength) :
    ServerMethod where
  name := name
  callback := .subscriptionHandler
  data := o.ptr

/-- The installation of the reserved methods, seen from the object. -/
def ServerObject.ensureHandlers (o : ServerObject) : RbusError × ServerObject :=
  if o.processEventSubscriptions then (.success, o)
  else if (o.method? methodAddEventSubscription).isSome then (.success, o)
  else
    let first := o.registerMethod (o.handler addHandlerName)
    if first.1 ≠ .success then first
    else
      let second := first.2.registerMethod (o.handler removeHandlerName)
      if second.1 ≠ .success then second
      else (.success, { second.2 with processEventSubscriptions := true })

variable {o : ServerObject}

/-- The object with the first reserved method. -/
def ServerObject.withFirst (o : ServerObject) : ServerObject :=
  { o with methods := o.methods ++ [o.handler addHandlerName] }

/-- The object with both reserved methods. -/
def ServerObject.withBoth (o : ServerObject) : ServerObject :=
  { o with
    methods := o.methods ++ [o.handler addHandlerName] ++ [o.handler removeHandlerName]
    processEventSubscriptions := true }

theorem method?_append
    (ms : List ServerMethod) (m : ServerMethod) (name : CString)
    (hmethods : o.methods = ms ++ [m])
    (hother : m.key ≠ name) :
    o.method? name = KeyedList.lookup ServerMethod.key name ms := by
  rw [ServerObject.method?_eq_lookup, hmethods, KeyedList.lookup_append_singleton]
  cases KeyedList.lookup ServerMethod.key name ms with
  | none =>
      exact if_neg hother
  | some _ =>
      rfl

theorem method?_append_self
    (ms : List ServerMethod) (m : ServerMethod)
    (hmethods : o.methods = ms ++ [m])
    (hfree : KeyedList.lookup ServerMethod.key m.key ms = none) :
    o.method? m.key = some m := by
  rw [ServerObject.method?_eq_lookup, hmethods, KeyedList.lookup_append hfree, if_pos rfl]

theorem addHandlerName_ne : methodAddEventSubscription ≠ methodRemoveEventSubscription := by
  decide

theorem withFirst_handles
    (hadd : o.method? methodAddEventSubscription = none) :
    o.withFirst.Handles methodAddEventSubscription := by
  rw [ServerObject.method?_eq_lookup] at hadd
  have hfound : o.withFirst.method? (o.handler addHandlerName).key = some _ :=
    method?_append_self o.methods (o.handler addHandlerName) rfl hadd
  exact ⟨_, hfound, rfl, rfl⟩

theorem withFirst_method?_remove :
    o.withFirst.method? methodRemoveEventSubscription =
      o.method? methodRemoveEventSubscription := by
  rw [method?_append o.methods _ _ rfl addHandlerName_ne, ServerObject.method?_eq_lookup]

theorem withBoth_handles
    (hadd : o.method? methodAddEventSubscription = none)
    (hremove : o.method? methodRemoveEventSubscription = none) :
    o.withBoth.Handles methodAddEventSubscription ∧
      o.withBoth.Handles methodRemoveEventSubscription := by
  constructor
  · refine (withFirst_handles hadd).of_same rfl ?_
    rw [method?_append o.withFirst.methods _ _ rfl addHandlerName_ne.symm,
      ServerObject.method?_eq_lookup]
  · rw [← withFirst_method?_remove, ServerObject.method?_eq_lookup] at hremove
    have hfound : o.withBoth.method? (o.handler removeHandlerName).key = some _ :=
      method?_append_self o.withFirst.methods (o.handler removeHandlerName) rfl hremove
    exact ⟨_, hfound, rfl, rfl⟩

theorem ensureHandlers_of_flag
    (hflag : o.processEventSubscriptions = true) :
    o.ensureHandlers = (.success, o) :=
  if_pos hflag

theorem ensureHandlers_of_first
    (hflag : o.processEventSubscriptions = false)
    (hadd : o.method? methodAddEventSubscription ≠ none) :
    o.ensureHandlers = (.success, o) := by
  rw [ServerObject.ensureHandlers, if_neg (Bool.eq_false_iff.mp hflag),
    if_pos (Option.isSome_iff_ne_none.mpr hadd)]

/-- The installation of the methods, where there is none. -/
theorem ensureHandlers_of_none
    (hflag : o.processEventSubscriptions = false)
    (hadd : o.method? methodAddEventSubscription = none)
    (hremove : o.method? methodRemoveEventSubscription = none) :
    o.ensureHandlers =
      if maxSupportedMethods ≤ o.methods.length then (.errorOutOfResources, o)
      else if maxSupportedMethods ≤ o.methods.length + 1 then (.errorOutOfResources, o.withFirst)
      else (.success, o.withBoth) := by
  have hnotFound : ¬(o.method? methodAddEventSubscription).isSome = true := by simp [hadd]
  have hsecond : ¬(o.withFirst.method? methodRemoveEventSubscription).isSome = true := by
    simp [withFirst_method?_remove, hremove]
  have hlength : o.withFirst.methods.length = o.methods.length + 1 :=
    List.length_append
  have herror : RbusError.errorOutOfResources ≠ .success := by decide
  rw [ServerObject.ensureHandlers, if_neg (Bool.eq_false_iff.mp hflag), if_neg hnotFound]
  dsimp only
  by_cases hfull : maxSupportedMethods ≤ o.methods.length
  · have hfirst : o.registerMethod (o.handler addHandlerName) = (.errorOutOfResources, o) :=
      if_pos hfull
    rw [hfirst, if_pos hfull]
    exact if_pos herror
  · have hfirst : o.registerMethod (o.handler addHandlerName) = (.success, o.withFirst) := by
      rw [ServerObject.registerMethod, if_neg hfull]
      exact if_neg hnotFound
    rw [hfirst, if_neg hfull, if_neg (not_not.mpr rfl)]
    by_cases hlast : maxSupportedMethods ≤ o.methods.length + 1
    · have hrefused : o.withFirst.registerMethod (o.handler removeHandlerName) =
          (.errorOutOfResources, o.withFirst) :=
        if_pos (hlength ▸ hlast)
      rw [hrefused, if_pos hlast]
      exact if_pos herror
    · have hdone : o.withFirst.registerMethod (o.handler removeHandlerName) =
          (.success, { o.withFirst with
            methods := o.withFirst.methods ++ [o.handler removeHandlerName] }) := by
        rw [ServerObject.registerMethod, if_neg (hlength ▸ hlast)]
        exact if_neg hsecond
      rw [hdone, if_neg hlast]
      exact if_neg (not_not.mpr rfl)

/-- An installation, however it ends, leaves the reserved methods in order. -/
theorem HandlersInv.ensureHandlers
    (h : HandlersInv o) :
    HandlersInv o.ensureHandlers.2 := by
  cases h with
  | absent hflag hadd hremove =>
      rw [ensureHandlers_of_none hflag hadd hremove]
      split
      · exact .absent hflag hadd hremove
      · split
        · exact .first hflag (withFirst_handles hadd) (withFirst_method?_remove.trans hremove)
        · obtain ⟨hfirst, hsecond⟩ := withBoth_handles hadd hremove
          exact .both rfl hfirst hsecond
  | first hflag hadd hremove =>
      rw [ensureHandlers_of_first hflag hadd.ne_none]
      exact .first hflag hadd hremove
  | both hflag hadd hremove =>
      rw [ensureHandlers_of_flag hflag]
      exact .both hflag hadd hremove

/-- Only the methods differ, and whether they are known to be there. -/
structure SameEntries (o o' : ServerObject) : Prop where
  ptr : o'.ptr = o.ptr
  name : o'.name = o.name
  subscriptions : o'.subscriptions = o.subscriptions
  subscribeHandlerOverride : o'.subscribeHandlerOverride = o.subscribeHandlerOverride
  subscribeHandlerData : o'.subscribeHandlerData = o.subscribeHandlerData

theorem SameEntries.refl
    (o : ServerObject) :
    SameEntries o o :=
  ⟨rfl, rfl, rfl, rfl, rfl⟩

theorem SameEntries.trans
    {o₁ o₂ o₃ : ServerObject}
    (h : SameEntries o₁ o₂)
    (h' : SameEntries o₂ o₃) :
    SameEntries o₁ o₃ where
  ptr := h'.ptr.trans h.ptr
  name := h'.name.trans h.name
  subscriptions := h'.subscriptions.trans h.subscriptions
  subscribeHandlerOverride := h'.subscribeHandlerOverride.trans h.subscribeHandlerOverride
  subscribeHandlerData := h'.subscribeHandlerData.trans h.subscribeHandlerData

theorem registerMethod_same
    (o : ServerObject)
    (m : ServerMethod) :
    SameEntries o (o.registerMethod m).2 := by
  rw [ServerObject.registerMethod]
  split
  · exact .refl o
  · split
    · exact .refl o
    · exact ⟨rfl, rfl, rfl, rfl, rfl⟩

theorem ensureHandlers_same
    (o : ServerObject) :
    SameEntries o o.ensureHandlers.2 := by
  have hfirst := registerMethod_same o (o.handler addHandlerName)
  have hsecond := hfirst.trans (registerMethod_same _ (o.handler removeHandlerName))
  rw [ServerObject.ensureHandlers]
  split
  · exact .refl o
  · split
    · exact .refl o
    · dsimp only
      split
      · exact hfirst
      · split
        · exact hsecond
        · exact ⟨hsecond.ptr, hsecond.name, hsecond.subscriptions,
            hsecond.subscribeHandlerOverride, hsecond.subscribeHandlerData⟩

/-- What an object answers subscription requests with, and what it has. -/
def ServerObject.registration (o : ServerObject) :
    List ServerEvent × Option Nat × Ptr × List ServerMethod :=
  (o.subscriptions, o.subscribeHandlerOverride, o.subscribeHandlerData, o.methods)

/-- The methods can be installed, or have been, or are refused at once. -/
def ServerObject.Installs (o : ServerObject) : Prop :=
  o.processEventSubscriptions = true ∨
    o.method? methodAddEventSubscription = none ∧ o.methods.length + 2 ≤ maxSupportedMethods

/-- The first method is refused. -/
def ServerObject.Refuses (o : ServerObject) : Prop :=
  o.processEventSubscriptions = false ∧ o.method? methodAddEventSubscription = none ∧
    maxSupportedMethods ≤ o.methods.length

/-- An installation is made, with both methods in the end, exactly when they can be installed
or have been. -/
theorem ensureHandlers_success_iff
    (h : HandlersInv o) :
    o.ensureHandlers.1 = .success ∧ o.ensureHandlers.2.Handles methodAddEventSubscription ∧
        o.ensureHandlers.2.Handles methodRemoveEventSubscription ↔
      o.Installs := by
  have herror : RbusError.errorOutOfResources ≠ .success := by decide
  cases h with
  | absent hflag hadd hremove =>
      have hiff : o.Installs ↔ o.methods.length + 2 ≤ maxSupportedMethods := by
        simp [ServerObject.Installs, hflag, hadd]
      rw [ensureHandlers_of_none hflag hadd hremove, hiff]
      by_cases hfull : maxSupportedMethods ≤ o.methods.length
      · rw [if_pos hfull]
        exact ⟨fun hsuccess => absurd hsuccess.1 herror, fun hroom => by omega⟩
      · by_cases hlast : maxSupportedMethods ≤ o.methods.length + 1
        · rw [if_neg hfull, if_pos hlast]
          exact ⟨fun hsuccess => absurd hsuccess.1 herror, fun hroom => by omega⟩
        · rw [if_neg hfull, if_neg hlast]
          exact ⟨fun _ => by omega, fun _ => ⟨rfl, withBoth_handles hadd hremove⟩⟩
  | first hflag hadd hremove =>
      rw [ensureHandlers_of_first hflag hadd.ne_none]
      constructor
      · intro hsuccess
        exact absurd hremove hsuccess.2.2.ne_none
      · intro hinstalls
        rcases hinstalls with hset | ⟨hnone, -⟩
        · rw [hflag] at hset
          cases hset
        · exact absurd hnone hadd.ne_none
  | both hflag hadd hremove =>
      rw [ensureHandlers_of_flag hflag]
      exact ⟨fun _ => Or.inl hflag, fun _ => ⟨rfl, hadd, hremove⟩⟩

/-- An installation fails without a trace exactly when the first method is refused. -/
theorem ensureHandlers_failure_iff
    (h : HandlersInv o) :
    o.ensureHandlers.1 ≠ .success ∧ o.ensureHandlers.2.methods = o.methods ↔ o.Refuses := by
  have herror : RbusError.errorOutOfResources ≠ .success := by decide
  cases h with
  | absent hflag hadd hremove =>
      have hiff : o.Refuses ↔ maxSupportedMethods ≤ o.methods.length := by
        simp [ServerObject.Refuses, hflag, hadd]
      rw [ensureHandlers_of_none hflag hadd hremove, hiff]
      by_cases hfull : maxSupportedMethods ≤ o.methods.length
      · rw [if_pos hfull]
        exact ⟨fun _ => hfull, fun _ => ⟨herror, rfl⟩⟩
      · by_cases hlast : maxSupportedMethods ≤ o.methods.length + 1
        · have hlonger : o.withFirst.methods ≠ o.methods := by
            intro heq
            have hlength := congrArg List.length heq
            simp [ServerObject.withFirst] at hlength
          rw [if_neg hfull, if_pos hlast]
          exact ⟨fun hfailure => absurd hfailure.2 hlonger, fun hrefused => absurd hrefused hfull⟩
        · rw [if_neg hfull, if_neg hlast]
          exact ⟨fun hfailure => absurd rfl hfailure.1, fun hrefused => absurd hrefused hfull⟩
  | first hflag hadd hremove =>
      rw [ensureHandlers_of_first hflag hadd.ne_none]
      exact ⟨fun hfailure => absurd rfl hfailure.1,
        fun hrefused => absurd hrefused.2.1 hadd.ne_none⟩
  | both hflag hadd hremove =>
      rw [ensureHandlers_of_flag hflag]
      exact ⟨fun hfailure => absurd rfl hfailure.1,
        fun hrefused => absurd hrefused.2.1 hadd.ne_none⟩

end Installation

section Replacement

/-- The vector in which an object stands in the place of the one at its address. -/
def replaced (objects : List ServerObject) (o : ServerObject) : List ServerObject :=
  updateAt ServerObject.ptr o.ptr (fun _ => o) objects

/-- `o` may stand in the place of `old`, which is found under its name. -/
structure Replaces (objects : List ServerObject) (old o : ServerObject) : Prop where
  addresses : KeyedList.Distinct ServerObject.ptr objects
  found : KeyedList.lookup ServerObject.key old.key objects = some old
  ptr : o.ptr = old.ptr
  name : o.name = old.name

variable {objects : List ServerObject} {old o : ServerObject}

theorem Replaces.eq_old
    {x : ServerObject}
    (h : Replaces objects old o)
    (hx : x ∈ objects)
    (hptr : x.ptr = o.ptr) :
    x = old := by
  have hold := h.addresses.lookup_of_mem (KeyedList.mem_of_lookup h.found)
  rw [← h.ptr, ← hptr, h.addresses.lookup_of_mem hx] at hold
  exact Option.some.inj hold

theorem Replaces.trans
    {o' : ServerObject}
    (h : Replaces objects old o)
    (hsame : SameEntries o o') :
    Replaces objects old o' :=
  ⟨h.addresses, h.found, hsame.ptr.trans h.ptr, hsame.name.trans h.name⟩

theorem replaced_self
    (haddresses : KeyedList.Distinct ServerObject.ptr objects)
    (hfound : KeyedList.lookup ServerObject.key old.key objects = some old) :
    replaced objects old = objects := by
  have hself : Replaces objects old old := ⟨haddresses, hfound, rfl, rfl⟩
  exact KeyedList.modify_eq_self fun _ hx hptr => (hself.eq_old hx hptr).symm

/-- Names are looked up as before, and the new object is found in the place of the old one. -/
theorem Replaces.lookup
    (h : Replaces objects old o)
    (name : CString) :
    KeyedList.lookup ServerObject.key name (replaced objects o) =
      (KeyedList.lookup ServerObject.key name objects).map
        fun x => if x.ptr = o.ptr then o else x := by
  refine KeyedList.lookup_map (fun x hx => ?_) name
  split
  case isTrue hptr =>
    rw [h.eq_old hx hptr]
    exact congrArg Subtype.val h.name
  case isFalse =>
    rfl

theorem Replaces.lookup_key
    (h : Replaces objects old o) :
    KeyedList.lookup ServerObject.key o.key (replaced objects o) = some o := by
  have hkey : o.key = old.key := congrArg Subtype.val h.name
  rw [h.lookup, hkey, h.found, Option.map_some, if_pos h.ptr.symm]

theorem Replaces.lookup_ptr
    (h : Replaces objects old o) :
    KeyedList.lookup ServerObject.ptr o.ptr (replaced objects o) = some o := by
  have hold := h.addresses.lookup_of_mem (KeyedList.mem_of_lookup h.found)
  have hsame (x : ServerObject) (_ : x ∈ objects) :
      (if x.ptr = o.ptr then o else x).ptr = x.ptr := by
    split
    case isTrue hptr =>
      exact hptr.symm
    case isFalse =>
      rfl
  rw [replaced, updateAt, KeyedList.lookup_map hsame, h.ptr, hold, Option.map_some, if_pos rfl]

theorem updateAt_replaced
    {f : ServerObject → ServerObject}
    (hptr : (f o).ptr = o.ptr) :
    updateAt ServerObject.ptr o.ptr f (replaced objects o) = replaced objects (f o) := by
  rw [replaced, replaced, hptr, updateAt, updateAt, updateAt, List.map_map]
  refine List.map_congr_left fun x _ => ?_
  by_cases hx : x.ptr = o.ptr <;> simp [hx]

end Replacement

section Installing

variable {M W : Type}
variable {C : Contract (Call.Answer (M := M) (W := W)) (World M W)}
variable {objects : List ServerObject} {old o : ServerObject} {w₀ w : World M W}

/-- The vector of the process has this object in the place of the old one. -/
structure Holding (objects : List ServerObject) (w₀ : World M W) (o : ServerObject)
    (w : World M W) : Prop where
  vector : w.gServerObjects = .live (replaced objects o)
  nextPtr : w.nextPtr = w₀.nextPtr
  connection : w.gConnection = w₀.gConnection

theorem sat_getObject_replaced
    (h : Replaces objects old o)
    (hw : Holding objects w₀ o w)
    (Q : Option ServerObject → World M W → Prop) :
    Program.Sat C (getObject (some o.name.val)) Q w ↔ Q (some o) w := by
  rw [sat_getObject hw.vector, h.lookup_key]

theorem sat_derefObject_replaced
    (h : Replaces objects old o)
    (hw : Holding objects w₀ o w)
    (Q : ServerObject → World M W → Prop) :
    Program.Sat C (derefObject o.ptr) Q w ↔ Q o w := by
  have hfound : w.gServerObjects.items.find? (fun x => x.ptr = o.ptr) = some o := by
    rw [hw.vector]
    exact h.lookup_ptr
  rw [Program.Sat, derefObject_of_find hfound]
  rfl

theorem sat_updateObject_replaced
    {p : Ptr}
    (hw : Holding objects w₀ o w)
    (hp : o.ptr = p)
    (f : ServerObject → ServerObject)
    (hptr : (f o).ptr = o.ptr) :
    Program.Sat C (updateObject p f) (fun _ => Holding objects w₀ (f o)) w := by
  subst hp
  rw [updateObject, sat_updateServerObjects, hw.vector, RtVector.update_live,
    updateAt_replaced hptr]
  exact ⟨rfl, hw.nextPtr, hw.connection⟩

/-- The mutex is released with a result. -/
theorem Holding.unlock_pure
    (hw : Holding objects w₀ o w)
    (ret : RbusError) :
    Program.Sat C (do unlock; pure ret)
      (fun ret' w' => ret' = ret ∧ Holding objects w₀ o w') w :=
  ⟨rfl, hw.vector, hw.nextPtr, hw.connection⟩

theorem sat_rbusRegisterMethod_replaced
    (h : Replaces objects old o)
    (hw : Holding objects w₀ o w)
    (m : ServerMethod) :
    Program.Sat C (rbusRegisterMethod (some o.name.val) (some m.key) m.callback m.data)
      (fun ret w' => ret = (o.registerMethod m).1 ∧
        Holding objects w₀ (o.registerMethod m).2 w') w := by
  have hname : BoundedName.check? maxMethodNameLength m.key = some m.name :=
    BoundedName.check?_eq_some_iff.mpr rfl
  rw [rbusRegisterMethod, Program.sat_bind, sat_deref_some, hname]
  dsimp only
  rw [Program.sat_bind, sat_lock]
  have hlocked : Holding objects w₀ o
      { w with mutexOwned := true, log := w.log ++ [.lock w.mutexOwned] } :=
    ⟨hw.vector, hw.nextPtr, hw.connection⟩
  rw [registerMethodLocked, Program.sat_bind, sat_getObject_replaced h hlocked]
  dsimp only
  rw [Program.sat_ite, ServerObject.registerMethod]
  by_cases hfull : maxSupportedMethods ≤ o.methods.length
  · rw [if_pos hfull, if_pos hfull]
    exact hlocked.unlock_pure _
  · rw [if_neg hfull, if_neg hfull, Program.sat_ite]
    by_cases hfound : (rtVectorFind serverMethodCompare o.methods m.name.val).isSome = true
    · have hfound' : (o.method? m.key).isSome = true := hfound
      rw [if_pos hfound, if_pos hfound']
      exact hlocked.unlock_pure _
    · have hfound' : ¬(o.method? m.key).isSome = true := hfound
      rw [if_neg hfound, if_neg hfound']
      exact (sat_updateObject_replaced hlocked rfl _ rfl).bind fun _ w hw => hw.unlock_pure _

/-- The last step of both operations. -/
theorem sat_ensureSubscriptionHandlers_replaced
    (h : Replaces objects old o)
    (hw : Holding objects w₀ o w) :
    Program.Sat C (ensureSubscriptionHandlers o.ptr)
      (fun ret w' => ret = o.ensureHandlers.1 ∧ Holding objects w₀ o.ensureHandlers.2 w') w := by
  rw [ensureSubscriptionHandlers, Program.sat_bind, sat_derefObject_replaced h hw,
    Program.sat_ite, ServerObject.ensureHandlers]
  by_cases hflag : o.processEventSubscriptions = true
  · rw [if_pos hflag, if_pos hflag]
    exact ⟨rfl, hw⟩
  · rw [if_neg hflag, if_neg hflag, installSubscriptionHandlers, Program.sat_bind,
      sat_derefObject_replaced h hw]
    cases hfound : rtVectorFind serverMethodCompare o.methods methodAddEventSubscription with
    | some m =>
        have hfound' : (o.method? methodAddEventSubscription).isSome = true :=
          congrArg Option.isSome hfound
        rw [if_pos hfound']
        exact ⟨rfl, hw⟩
    | none =>
        have hfound' : ¬(o.method? methodAddEventSubscription).isSome = true := by
          rw [ServerObject.method?, hfound]
          exact Bool.false_ne_true
        rw [if_neg hfound']
        dsimp only
        refine (sat_rbusRegisterMethod_replaced h hw (o.handler addHandlerName)).bind ?_
        rintro ret w₁ ⟨rfl, hw₁⟩
        have hfirst := registerMethod_same o (o.handler addHandlerName)
        have h₁ := h.trans hfirst
        rw [Program.sat_ite]
        split
        · exact ⟨rfl, hw₁⟩
        · have hsecond := sat_rbusRegisterMethod_replaced (C := C) h₁ hw₁
            (o.handler removeHandlerName)
          rw [hfirst.name] at hsecond
          refine hsecond.bind ?_
          rintro ret w₂ ⟨rfl, hw₂⟩
          rw [Program.sat_ite]
          split
          · exact ⟨rfl, hw₂⟩
          case isFalse hsuccess =>
            have hboth := hfirst.trans (registerMethod_same _ (o.handler removeHandlerName))
            refine (sat_updateObject_replaced hw₂ hboth.ptr _ rfl).bind fun _ w₃ hw₃ => ?_
            exact ⟨not_not.mp hsuccess, hw₃⟩

/-- The operations that install the reserved methods. -/
inductive InstallingOp where
  | registerEvent (objectName eventName : Option CString) (callback : Option Nat) (userData : Ptr)
  | registerSubscribeHandler (objectName : Option CString) (callback : Option Nat) (userData : Ptr)

namespace InstallingOp

/-- The functions of the library. -/
def run {M W : Type} : InstallingOp → CoreM M W RbusError
  | .registerEvent objectName eventName callback userData =>
      rbusRegisterEvent objectName eventName callback userData
  | .registerSubscribeHandler objectName callback userData =>
      rbusRegisterSubscribeHandler objectName callback userData

/-- The object an operation gets to: none, when the arguments are refused or nothing has this
name. -/
def object? (w : World M W) : InstallingOp → Option ServerObject
  | .registerEvent objectName eventName _ _ =>
      if w.gConnection.isSome ∧
          (BoundedName.check? maxEventNameLength (eventName.getD defaultEvent)).isSome then
        objectName.bind fun name => rtVectorFind serverObjectCompare w.gServerObjects.items name
      else none
  | .registerSubscribeHandler objectName callback _ =>
      if callback.isSome then
        objectName.bind fun name => rtVectorFind serverObjectCompare w.gServerObjects.items name
      else none

/-- The event, or the handler for all events, has been entered. -/
def Entered (o : ServerObject) : InstallingOp → Prop
  | .registerEvent _ eventName _ _ =>
      (rtVectorFind serverEventCompare o.subscriptions (eventName.getD defaultEvent)).isSome
  | .registerSubscribeHandler _ callback userData =>
      o.subscribeHandlerOverride = callback ∧ o.subscribeHandlerData = userData

/-- Enter it. -/
def enter (o : ServerObject) : InstallingOp → ServerObject
  | .registerEvent _ eventName callback userData =>
      match BoundedName.check? maxEventNameLength (eventName.getD defaultEvent) with
      | some name =>
          if (rtVectorFind serverEventCompare o.subscriptions name.val).isSome then o
          else
            { o with
              subscriptions := o.subscriptions ++ [serverEventCreate name o.ptr callback userData] }
      | none => o
  | .registerSubscribeHandler _ callback userData =>
      { o with subscribeHandlerOverride := callback, subscribeHandlerData := userData }

end InstallingOp

/-- What an operation does that installs the reserved methods. -/
def Performed
    (op : InstallingOp) (objects : List ServerObject) (w₀ : World M W)
    (found : Option ServerObject) (ret : RbusError) (w' : World M W) : Prop :=
  match found with
  | some o =>
      ret = (op.enter o).ensureHandlers.1 ∧ Holding objects w₀ (op.enter o).ensureHandlers.2 w'
  | none =>
      ret ≠ .success ∧ w'.gServerObjects = .live objects ∧ w'.nextPtr = w₀.nextPtr ∧
        w'.gConnection = w₀.gConnection

/-- An object that has been changed gets the methods. -/
theorem sat_enterAndEnsure
    {f : ServerObject → ServerObject} {x : CoreM M W Unit}
    (h : Replaces objects o (f o))
    (hx : Program.Sat C x (fun _ => Holding objects w₀ (f o)) w) :
    Program.Sat C
      (do
        x
        let ret ← ensureSubscriptionHandlers o.ptr
        unlock
        pure ret)
      (fun ret w' =>
        ret = (f o).ensureHandlers.1 ∧ Holding objects w₀ (f o).ensureHandlers.2 w') w := by
  refine hx.bind fun _ w₁ hw₁ => ?_
  have hensure := sat_ensureSubscriptionHandlers_replaced (C := C) h hw₁
  rw [h.ptr] at hensure
  refine hensure.bind ?_
  rintro ret w₂ ⟨rfl, hw₂⟩
  exact hw₂.unlock_pure _

theorem sat_addServerEvent_replaced
    {eventName : Option CString} {name : BoundedName maxEventNameLength}
    (hw : Holding objects w₀ o w)
    (hname : BoundedName.check? maxEventNameLength (eventName.getD defaultEvent) = some name)
    (objectName : Option CString) (callback : Option Nat) (userData : Ptr) :
    Program.Sat C (addServerEvent o name callback userData)
      (fun _ => Holding objects w₀
        ((InstallingOp.registerEvent objectName eventName callback userData).enter o)) w := by
  rw [addServerEvent, InstallingOp.enter, hname, Program.sat_ite]
  dsimp only
  split
  · exact hw
  · exact sat_updateObject_replaced hw rfl _ rfl

/-- What is entered at an object leaves its methods alone. -/
structure SameMethods (o o' : ServerObject) : Prop where
  ptr : o'.ptr = o.ptr
  name : o'.name = o.name
  methods : o'.methods = o.methods
  flag : o'.processEventSubscriptions = o.processEventSubscriptions

theorem InstallingOp.enter_same
    (op : InstallingOp)
    (o : ServerObject) :
    SameMethods o (op.enter o) := by
  cases op with
  | registerEvent objectName eventName callback userData =>
      rw [InstallingOp.enter]
      split
      · split <;> exact ⟨rfl, rfl, rfl, rfl⟩
      · exact ⟨rfl, rfl, rfl, rfl⟩
  | registerSubscribeHandler objectName callback userData =>
      exact ⟨rfl, rfl, rfl, rfl⟩

theorem SameMethods.handlersInv
    {o' : ServerObject}
    (h : SameMethods o o')
    (ho : HandlersInv o) :
    HandlersInv o' :=
  ho.of_same h.flag h.ptr fun name _ => by rw [ServerObject.method?, h.methods]; rfl

/-- The object an operation gets to is found under its name. -/
theorem InstallingOp.lookup_of_object?
    {op : InstallingOp}
    (h : op.object? w = some o) :
    KeyedList.lookup ServerObject.key o.key w.gServerObjects.items = some o := by
  have hfound {objectName : Option CString}
      (h : objectName.bind (fun name =>
        rtVectorFind serverObjectCompare w.gServerObjects.items name) = some o) :
      KeyedList.lookup ServerObject.key o.key w.gServerObjects.items = some o := by
    obtain ⟨name, -, hname⟩ := Option.bind_eq_some_iff.mp h
    rw [find_object] at hname
    rw [KeyedList.key_of_lookup hname]
    exact hname
  cases op with
  | registerEvent | registerSubscribeHandler =>
      rw [InstallingOp.object?] at h
      split at h
      · exact hfound h
      · cases h

/-- What is found is in its own place. -/
theorem Holding.self
    (haddresses : KeyedList.Distinct ServerObject.ptr objects)
    (hvector : w.gServerObjects = .live objects)
    (hnextPtr : w.nextPtr = w₀.nextPtr)
    (hconnection : w.gConnection = w₀.gConnection)
    (hfound : KeyedList.lookup ServerObject.key o.key objects = some o) :
    Holding objects w₀ o w where
  vector := by rw [replaced_self haddresses hfound, hvector]
  nextPtr := hnextPtr
  connection := hconnection

theorem sat_installingOp
    (haddresses : KeyedList.Distinct ServerObject.ptr objects)
    (hvector : w.gServerObjects = .live objects)
    (op : InstallingOp) :
    Program.Sat C op.run (Performed op objects w (op.object? w)) w := by
  have hitems : w.gServerObjects.items = objects := by rw [hvector, RtVector.items_live]
  have hlocked : ({ w with mutexOwned := true, log := w.log ++ [.lock w.mutexOwned] } :
      World M W).gServerObjects = .live objects := hvector
  cases op with
  | registerEvent objectName eventName callback userData =>
      rw [InstallingOp.run, InstallingOp.object?, hitems, rbusRegisterEvent, Program.sat_bind,
        Program.sat_getState, Program.sat_ite]
      cases hcon : w.gConnection with
      | none =>
          exact ⟨by decide, hvector, rfl, rfl⟩
      | some con =>
          rw [if_neg (c := (some con).isNone = true) Bool.false_ne_true, Program.sat_ite]
          cases objectName with
          | none =>
              rw [Option.bind_none, ite_self]
              exact ⟨by decide, hvector, rfl, rfl⟩
          | some objectName =>
              rw [if_neg (c := (some objectName).isNone = true) Bool.false_ne_true]
              cases hname : BoundedName.check? maxEventNameLength (eventName.getD defaultEvent) with
              | none =>
                  exact ⟨by decide, hvector, rfl, rfl⟩
              | some name =>
                  rw [if_pos (c := (some con).isSome = true ∧ (some name).isSome = true) ⟨rfl, rfl⟩,
                    Option.bind_some, find_object]
                  dsimp only
                  rw [Program.sat_bind, sat_lock, Program.sat_bind, sat_getObject hlocked]
                  cases hfound : KeyedList.lookup ServerObject.key objectName objects with
                  | none =>
                      exact ⟨by decide, hvector, rfl, rfl⟩
                  | some o =>
                      obtain rfl := KeyedList.key_of_lookup hfound
                      have hself : Holding objects w o _ :=
                        .self haddresses hlocked rfl rfl hfound
                      let op : InstallingOp :=
                        .registerEvent (some o.key) eventName callback userData
                      have hsame := op.enter_same o
                      exact sat_enterAndEnsure (f := fun o => op.enter o)
                        ⟨haddresses, hfound, hsame.ptr, hsame.name⟩
                        (sat_addServerEvent_replaced hself hname (some o.key) callback userData)
  | registerSubscribeHandler objectName callback userData =>
      rw [InstallingOp.run, InstallingOp.object?, hitems, rbusRegisterSubscribeHandler,
        Program.sat_ite]
      cases objectName with
      | none =>
          rw [Option.bind_none, ite_self]
          exact ⟨by decide, hvector, rfl, rfl⟩
      | some objectName =>
          cases callback with
          | none =>
              exact ⟨by decide, hvector, rfl, rfl⟩
          | some callback =>
              rw [if_neg (c := ((some objectName).isNone || (some callback).isNone) = true)
                  Bool.false_ne_true,
                if_pos (c := (some callback).isSome = true) rfl, Option.bind_some, find_object,
                Program.sat_bind, sat_lock, Program.sat_bind, sat_getObject hlocked]
              cases hfound : KeyedList.lookup ServerObject.key objectName objects with
              | none =>
                  exact ⟨by decide, hvector, rfl, rfl⟩
              | some o =>
                  obtain rfl := KeyedList.key_of_lookup hfound
                  have hself : Holding objects w o _ :=
                    .self haddresses hlocked rfl rfl hfound
                  let op : InstallingOp :=
                    .registerSubscribeHandler (some o.key) (some callback) userData
                  exact sat_enterAndEnsure (f := fun o => op.enter o)
                    ⟨haddresses, hfound, rfl, rfl⟩
                    (sat_updateObject_replaced hself rfl (fun o => op.enter o) rfl)

end Installing

end RbusCore
