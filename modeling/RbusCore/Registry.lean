import RbusCore.Server

/-!
# The registry of objects and methods

The vector of objects, each with its vector of methods, stands for a finite map from object
names to what is registered under them, the methods being a finite map again.  The maps are
bounded: names have limited lengths, and an object has a limited number of methods.

**Results.**
* `sat_rbusRegisterObj`, `sat_rbusUnregisterObj`, `sat_rbusRegisterMethod`,
  `sat_rbusUnregisterMethod`: each operation makes the change of the map it stands for when
  that is allowed, and none otherwise.
* `sat_rbusRegisterMethodTable`, `sat_rbusUnregisterMethodTable`: tables are their entries in
  order, up to the first that is refused.
* `registry_refines_iff`: in every run the operations refine those of the map, as long as the
  lengths of object names are read correctly.
-/

namespace RbusCore

open CStrings Resumption

section BoundedMap

/-- What is registered under the name of an object. -/
structure ObjectEntry where
  callback : Nat
  data : Ptr
  methods : Finmap fun _ : CString => MethodCallback × Ptr

/-- Objects by name. -/
abbrev Registry : Type := Finmap fun _ : CString => ObjectEntry

namespace Registry

/-- A new object has a name of 1 to 127 characters that is not taken, and no methods. -/
def registerObj
    (objectName : CString) (handler : Nat) (userData : Ptr) (r : Registry) : Option Registry :=
  if 1 ≤ objectName.strlen ∧ objectName.strlen ≤ 127 ∧ objectName ∉ r then
    some (r.insert objectName { callback := handler, data := userData, methods := ∅ })
  else none

/-- Only what is registered can be removed. -/
def unregisterObj (objectName : CString) (r : Registry) : Option Registry :=
  if objectName ∈ r then some (r.erase objectName) else none

/-- A new method has a name of at most 63 characters that is not taken, and is one of at most
32 of its object. -/
def registerMethod
    (objectName methodName : CString) (handler : MethodCallback) (userData : Ptr)
    (r : Registry) : Option Registry :=
  match r.lookup objectName with
  | some entry =>
      if methodName.strlen ≤ 63 ∧ entry.methods.keys.card < 32 ∧ methodName ∉ entry.methods then
        some (r.insert objectName
          { entry with methods := entry.methods.insert methodName (handler, userData) })
      else none
  | none => none

/-- Only a method the object has can be removed. -/
def unregisterMethod (objectName methodName : CString) (r : Registry) : Option Registry :=
  match r.lookup objectName with
  | some entry =>
      if methodName ∈ entry.methods then
        some (r.insert objectName { entry with methods := entry.methods.erase methodName })
      else none
  | none => none

/-- Changes one after another, up to the first that is refused. -/
def inOrder {ε : Type} (change : ε → Registry → Option Registry) :
    List ε → Registry → Registry × Bool
  | [], r => (r, true)
  | e :: es, r =>
      match change e r with
      | some r' => inOrder change es r'
      | none => (r, false)

end Registry

end BoundedMap

section Representation

/-- A method under its name. -/
def ServerMethod.entry (m : ServerMethod) : MethodCallback × Ptr := (m.callback, m.data)

/-- The name of a method. -/
abbrev ServerMethod.key (m : ServerMethod) : CString := m.name.val

/-- The name of an object. -/
abbrev ServerObject.key (o : ServerObject) : CString := o.name.val

/-- An object under its name. -/
def ServerObject.entry (o : ServerObject) : ObjectEntry where
  callback := o.callback
  data := o.data
  methods := KeyedList.toMap ServerMethod.key ServerMethod.entry o.methods

/-- The map that the vectors represent. -/
def registryOf (objects : List ServerObject) : Registry :=
  KeyedList.toMap ServerObject.key ServerObject.entry objects

/-- What holds of every object. -/
structure ObjectInv (o : ServerObject) : Prop where
  named : o.key.strlen ≠ 0
  methods : KeyedList.Distinct ServerMethod.key o.methods
  bounded : o.methods.length ≤ maxSupportedMethods

/-- What holds of the vectors. -/
structure RegistryInv (nextPtr : Ptr) (objects : List ServerObject) : Prop where
  names : KeyedList.Distinct ServerObject.key objects
  addresses : KeyedList.Distinct ServerObject.ptr objects
  allocated : ∀ o ∈ objects, o.ptr < nextPtr
  objects : ∀ o ∈ objects, ObjectInv o

variable {nextPtr : Ptr} {objects : List ServerObject}

theorem find_object
    (key : CString) :
    rtVectorFind serverObjectCompare objects key =
      KeyedList.lookup ServerObject.key key objects :=
  rtVectorFind_eq_lookup serverObjectCompare_eq_zero_iff objects key

theorem remove_object
    (key : CString) :
    rtVectorRemoveFound serverObjectCompare key objects =
      KeyedList.erase ServerObject.key key objects :=
  rtVectorRemoveFound_eq_erase serverObjectCompare_eq_zero_iff key objects

theorem remove_method
    (methods : List ServerMethod)
    (key : CString) :
    rtVectorRemoveFound serverMethodCompare key methods =
      KeyedList.erase ServerMethod.key key methods :=
  rtVectorRemoveFound_eq_erase serverMethodCompare_eq_zero_iff key methods

theorem find_method
    (methods : List ServerMethod)
    (key : CString) :
    rtVectorFind serverMethodCompare methods key =
      KeyedList.lookup ServerMethod.key key methods :=
  rtVectorFind_eq_lookup serverMethodCompare_eq_zero_iff methods key

@[simp] theorem lookup_registryOf
    (key : CString) :
    (registryOf objects).lookup key =
      (KeyedList.lookup ServerObject.key key objects).map ServerObject.entry :=
  KeyedList.lookup_toMap ServerObject.entry key objects

theorem notMem_registryOf
    {key : CString} :
    key ∉ registryOf objects ↔ KeyedList.lookup ServerObject.key key objects = none :=
  KeyedList.notMem_toMap

theorem ServerObject.notMem_methods
    {o : ServerObject} {key : CString} :
    key ∉ o.entry.methods ↔ KeyedList.lookup ServerMethod.key key o.methods = none :=
  KeyedList.notMem_toMap

theorem ObjectInv.card_methods
    {o : ServerObject}
    (h : ObjectInv o) :
    o.entry.methods.keys.card = o.methods.length :=
  h.methods.card_keys

/-- The vectors of a new process. -/
theorem registryInv_nil : RegistryInv nextPtr [] where
  names := KeyedList.distinct_nil
  addresses := KeyedList.distinct_nil
  allocated := by simp
  objects := by simp

theorem RegistryInv.mono
    {nextPtr' : Ptr}
    (h : RegistryInv nextPtr objects)
    (hle : nextPtr ≤ nextPtr') :
    RegistryInv nextPtr' objects :=
  { h with allocated := fun o ho => Nat.lt_of_lt_of_le (h.allocated o ho) hle }

/-- A new object at a new address. -/
theorem RegistryInv.append
    {o : ServerObject}
    (h : RegistryInv nextPtr objects)
    (hptr : o.ptr = nextPtr)
    (hname : KeyedList.lookup ServerObject.key o.key objects = none)
    (ho : ObjectInv o) :
    RegistryInv (nextPtr + 1) (objects ++ [o]) := by
  have haddress : KeyedList.lookup ServerObject.ptr o.ptr objects = none := by
    refine KeyedList.lookup_eq_none_iff.mpr fun x hx heq => ?_
    have hlt : x.ptr < nextPtr := h.allocated x hx
    rw [heq, hptr] at hlt
    exact Nat.lt_irrefl nextPtr hlt
  refine ⟨h.names.append hname, h.addresses.append haddress, ?_, ?_⟩
  · intro x hx
    rcases List.mem_append.mp hx with hold | hnew
    · exact Nat.lt_succ_of_lt (h.allocated x hold)
    · rw [List.mem_singleton.mp hnew, hptr]
      exact Nat.lt_succ_self nextPtr
  · intro x hx
    rcases List.mem_append.mp hx with hold | hnew
    · exact h.objects x hold
    · exact List.mem_singleton.mp hnew ▸ ho

theorem RegistryInv.erase
    (h : RegistryInv nextPtr objects)
    (key : CString) :
    RegistryInv nextPtr (KeyedList.erase ServerObject.key key objects) where
  names := h.names.erase key
  addresses := h.addresses.sublist (List.eraseP_sublist.map ServerObject.ptr)
  allocated := fun o ho => h.allocated o (List.eraseP_subset ho)
  objects := fun o ho => h.objects o (List.eraseP_subset ho)

/-- A change of the methods of an object that is in the vector. -/
theorem RegistryInv.modify
    {f : ServerObject → ServerObject} {o : ServerObject}
    (h : RegistryInv nextPtr objects)
    (hname : ∀ x, (f x).key = x.key)
    (hptr : ∀ x, (f x).ptr = x.ptr)
    (hfound : KeyedList.lookup ServerObject.key o.key objects = some o)
    (ho : ObjectInv (f o)) :
    RegistryInv nextPtr (KeyedList.modify ServerObject.key o.key f objects) := by
  refine ⟨h.names.modify hname _ _, h.addresses.modify hptr _ _, ?_, ?_⟩
  · intro x hx
    obtain ⟨y, hy, rfl⟩ := List.mem_map.mp hx
    split
    · rw [hptr]
      exact h.allocated y hy
    · exact h.allocated y hy
  · intro x hx
    obtain ⟨y, hy, rfl⟩ := List.mem_map.mp hx
    split
    case isTrue hkey =>
      have hsame := (h.names.lookup_of_mem hy).symm.trans (hkey ▸ hfound)
      exact Option.some.inj hsame ▸ ho
    case isFalse =>
      exact h.objects y hy

/-- The object that a lookup finds can be changed through its address. -/
theorem RegistryInv.updateAt_eq
    {key : CString} {o : ServerObject}
    (h : RegistryInv nextPtr objects)
    (hfound : KeyedList.lookup ServerObject.key key objects = some o)
    (f : ServerObject → ServerObject) :
    updateAt ServerObject.ptr o.ptr f objects =
      KeyedList.modify ServerObject.key o.key f objects :=
  KeyedList.modify_congr_field h.names h.addresses (KeyedList.mem_of_lookup hfound) f

end Representation

section Operations

variable {M W : Type}

/-- The transport as far as the registry uses it: adding and removing listeners has a
result, and changes nothing else. -/
def transportAnswers (err : RtError) :
    (e : Call M W) → World M W → e.Answer → World M W → Prop
  | .addListener .., w, a, w' => a = err ∧ w' = w
  | .removeListener .., w, a, w' => a = err ∧ w' = w
  | _, w, _, w' => w' = w

/-- Under this contract nothing is undefined, and no loop is left open. -/
def transporting (err : RtError) :
    Contract (Call.Answer (M := M) (W := W)) (World M W) where
  env := transportAnswers err
  atCall e _ := e ≠ .loop
  atUndef _ := False

/-- A change that the transport has to agree to. -/
def agreed (err : RtError) (change : Option Registry) : Option Registry :=
  if err = .rtOk then change else none

@[simp] theorem agreed_none
    (err : RtError) :
    agreed err none = none :=
  ite_self none

/-- A process with a connection and with these objects in its vector. -/
structure Registering (objects : List ServerObject) (w : World M W) : Prop where
  connected : w.gConnection.isSome = true
  vector : w.gServerObjects = .live objects
  inv : RegistryInv w.nextPtr objects

/-- What an operation does when the change it stands for is allowed, and when it is
refused. -/
def Performs
    (objects : List ServerObject) (change : Option Registry) (ret : RbusError)
    (w' : World M W) : Prop :=
  match change with
  | some r => ret = .success ∧ ∃ objects', Registering objects' w' ∧ registryOf objects' = r
  | none => ret ≠ .success ∧ Registering objects w'

variable {C : Contract (Call.Answer (M := M) (W := W)) (World M W)}
variable {objects : List ServerObject} {w : World M W} {err : RtError}

theorem sat_serverObjects
    (h : w.gServerObjects = .live objects)
    (Q : List ServerObject → World M W → Prop) :
    Program.Sat C serverObjects Q w ↔ Q objects w := by
  rw [serverObjects, Program.sat_bind, Program.sat_getState, h]
  rfl

theorem rtVectorFindDeref_some
    {α : Type}
    (compare : α → CString → Int) (xs : List α) (key : CString) :
    (rtVectorFindDeref compare xs (some key) : CoreM M W (Option α)) =
      pure (rtVectorFind compare xs key) := by
  cases xs <;> rfl

theorem sat_getObject
    (h : w.gServerObjects = .live objects)
    (key : CString)
    (Q : Option ServerObject → World M W → Prop) :
    Program.Sat C (getObject (some key)) Q w ↔
      Q (KeyedList.lookup ServerObject.key key objects) w := by
  rw [getObject, Program.sat_bind, sat_serverObjects h, rtVectorFindDeref_some, find_object]
  rfl

/-- What the registry does not depend on may change. -/
structure SameRegistry (w w' : World M W) : Prop where
  connected : w'.gConnection.isSome = w.gConnection.isSome
  vector : w'.gServerObjects = w.gServerObjects
  nextPtr : w'.nextPtr = w.nextPtr

theorem Registering.same
    {w' : World M W}
    (h : Registering objects w)
    (hsame : SameRegistry w w') :
    Registering objects w' where
  connected := hsame.connected.trans h.connected
  vector := hsame.vector.trans h.vector
  inv := hsame.nextPtr ▸ h.inv

theorem Registering.lock
    (h : Registering objects w) :
    Program.Sat C lock (fun _ => Registering objects) w :=
  h.same ⟨rfl, rfl, rfl⟩

theorem Registering.unlock
    (h : Registering objects w) :
    Program.Sat C unlock (fun _ => Registering objects) w :=
  h.same ⟨rfl, rfl, rfl⟩

theorem sat_rtConnectionAddListener
    (expression : CString) (callback : ListenerCallback) :
    Program.Sat (transporting err) (rtConnectionAddListener expression callback)
      (fun ret w' => ret = err ∧ SameRegistry w w') w := by
  rw [rtConnectionAddListener, Program.sat_bind, sat_gConnectionPtr, Program.sat_bind, sat_call]
  refine ⟨by rintro ⟨⟩, ?_⟩
  rintro _ _ ⟨rfl, rfl⟩
  rw [Program.sat_ite]
  split
  · exact ⟨rfl, Option.isSome_map, rfl, rfl⟩
  · exact ⟨rfl, rfl, rfl, rfl⟩

theorem sat_rtConnectionRemoveListener
    (expression : CString) :
    Program.Sat (transporting err) (rtConnectionRemoveListener expression)
      (fun ret w' => ret = err ∧ SameRegistry w w') w := by
  rw [rtConnectionRemoveListener, Program.sat_bind, sat_gConnectionPtr, Program.sat_bind, sat_call]
  refine ⟨by rintro ⟨⟩, ?_⟩
  rintro _ _ ⟨rfl, rfl⟩
  rw [Program.sat_ite]
  split
  · exact ⟨rfl, Option.isSome_map, rfl, rfl⟩
  · exact ⟨rfl, rfl, rfl, rfl⟩

/-- The mutex is released with a result. -/
theorem Performs.unlock_pure
    {change : Option Registry} {ret : RbusError}
    (h : Performs objects change ret w) :
    Program.Sat C (do unlock; pure ret) (Performs objects change) w := by
  cases change with
  | some r =>
      obtain ⟨hret, objects', hobjects', hr⟩ := h
      exact ⟨hret, objects', ⟨hobjects'.connected, hobjects'.vector, hobjects'.inv⟩, hr⟩
  | none =>
      exact ⟨h.1, h.2.connected, h.2.vector, h.2.inv⟩

/-- The test of the length of an object name, where the length fits an `int` or is found too
long anyway. -/
def LengthRead (name : CString) : Prop :=
  maxObjectNameLength ≤ name.strlen → objectNameLengthInvalid name = true

theorem objectNameLengthInvalid_iff
    {name : CString}
    (h : LengthRead name) :
    objectNameLengthInvalid name = true ↔ ¬(1 ≤ name.strlen ∧ name.strlen ≤ 127) := by
  have hmax : maxObjectNameLength = 128 := rfl
  rw [LengthRead, hmax] at h
  by_cases hlong : 128 ≤ name.strlen
  · exact ⟨fun _ hle => by omega, fun _ => h hlong⟩
  · have hint : toInt32 name.strlen = name.strlen := toInt32_of_range (by omega) (by omega)
    simp only [objectNameLengthInvalid, hint, hmax, Bool.or_eq_true, decide_eq_true_eq]
    omega

theorem strcpy_of_lt
    {n : Nat} {s : CString}
    (h : s.strlen < n) :
    (strcpy n s : CoreM M W (BoundedName n)) = pure ⟨s, h⟩ := by
  have hcheck : BoundedName.check? n s = some ⟨s, h⟩ := BoundedName.check?_eq_some_iff.mpr rfl
  rw [strcpy, hcheck]

/-- An object that can be entered. -/
structure Entering (objects : List ServerObject) (o : ServerObject) (w : World M W) : Prop
    extends Registering objects w where
  free : KeyedList.lookup ServerObject.key o.key objects = none
  entered : RegistryInv w.nextPtr (objects ++ [o])

theorem sat_serverObjectCreate
    {objectName : CString}
    (hlegal : 1 ≤ objectName.strlen ∧ objectName.strlen ≤ 127)
    (h : Registering objects w)
    (hfree : KeyedList.lookup ServerObject.key objectName objects = none)
    (handler : Nat) (userData : Ptr) :
    Program.Sat C (serverObjectCreate objectName handler userData)
      (fun o w' => Entering objects o w' ∧ o.key = objectName ∧
        o.entry = { callback := handler, data := userData, methods := ∅ }) w := by
  have hfits : objectName.strlen < maxObjectNameLength := Nat.lt_succ_of_le hlegal.2
  rw [serverObjectCreate, strcpy_of_lt hfits, Program.sat_bind, sat_rtMalloc]
  refine ⟨⟨⟨h.connected, h.vector, h.inv.mono (Nat.le_succ _)⟩, hfree, ?_⟩, rfl, rfl⟩
  refine h.inv.append rfl hfree ⟨?_, KeyedList.distinct_nil, Nat.zero_le _⟩
  exact Nat.one_le_iff_ne_zero.mp hlegal.1

theorem Entering.same
    {o : ServerObject} {w' : World M W}
    (h : Entering objects o w)
    (hsame : SameRegistry w w') :
    Entering objects o w' where
  toRegistering := h.toRegistering.same hsame
  free := h.free
  entered := hsame.nextPtr ▸ h.entered

/-- The end of `rbus_registerObj`: the object is entered. -/
theorem Entering.push
    {o : ServerObject}
    (h : Entering objects o w) :
    Program.Sat C
      (do
        let _ ← serverObjects
        updateServerObjects fun objects => objects ++ [o]
        unlock
        pure .success)
      (Performs objects (some ((registryOf objects).insert o.key o.entry))) w := by
  rw [Program.sat_bind, sat_serverObjects h.vector, Program.sat_bind, sat_updateServerObjects,
    h.vector]
  exact ⟨rfl, objects ++ [o], ⟨h.connected, rfl, h.entered⟩, KeyedList.toMap_append h.free⟩

/-- `rbus_registerObj` registers an object exactly when the name is free and of a legal
length and the transport takes the listener. -/
theorem sat_rbusRegisterObj
    {objectName : CString}
    (hlength : LengthRead objectName)
    (h : Registering objects w)
    (handler : Nat) (userData : Ptr) :
    Program.Sat (transporting err) (rbusRegisterObj (some objectName) handler userData)
      (Performs objects
        (agreed err ((registryOf objects).registerObj objectName handler userData))) w := by
  have hconnected : ¬w.gConnection.isNone = true := by
    simp [Option.isNone_iff_eq_none, Option.isSome_iff_ne_none.mp h.connected]
  rw [rbusRegisterObj, Program.sat_bind, Program.sat_getState, if_neg hconnected]
  dsimp only
  have hcases := Bool.eq_false_or_eq_true (objectNameLengthInvalid objectName)
  cases hcases with
  | inl hinvalid =>
      have hout := (objectNameLengthInvalid_iff hlength).mp hinvalid
      rw [if_pos hinvalid, Registry.registerObj, if_neg fun hlegal => hout ⟨hlegal.1, hlegal.2.1⟩,
        agreed_none]
      exact ⟨by decide, h⟩
  | inr hvalid =>
      have hinvalid : ¬objectNameLengthInvalid objectName = true := Bool.eq_false_iff.mp hvalid
      have hlegal := not_not.mp (mt (objectNameLengthInvalid_iff hlength).mpr hinvalid)
      rw [if_neg hinvalid]
      refine h.lock.bind fun _ w h => ?_
      rw [Program.sat_bind, sat_serverObjects h.vector, find_object]
      refine h.unlock.bind fun _ w h => ?_
      cases hfound : KeyedList.lookup ServerObject.key objectName objects with
      | some o =>
          have htaken : ¬objectName ∉ registryOf objects := by simp [notMem_registryOf, hfound]
          rw [Registry.registerObj, if_neg (c := _ ∧ _) fun hnew => htaken hnew.2.2, agreed_none]
          simp only [Option.isSome_some, if_true]
          exact ⟨by decide, h⟩
      | none =>
          rw [Registry.registerObj,
            if_pos (c := _ ∧ _) ⟨hlegal.1, hlegal.2, notMem_registryOf.mpr hfound⟩]
          simp only [Option.isSome_none, Bool.false_eq_true, if_false]
          refine (sat_serverObjectCreate hlegal h hfound handler userData).bind fun o w ho => ?_
          obtain ⟨h, rfl, hentry⟩ := ho
          refine (sat_rtConnectionAddListener o.key _).bind fun ret w hret => ?_
          obtain ⟨rfl, hsame⟩ := hret
          have h := h.same hsame
          rw [Program.sat_ite]
          split
          case isTrue hok =>
            rw [agreed, if_pos hok, ← hentry, Program.sat_bind, sat_lock]
            exact Entering.push (h.same ⟨rfl, rfl, rfl⟩)
          case isFalse herr =>
            rw [agreed, if_neg herr]
            exact ⟨by decide, h.toRegistering⟩

/-- `rbus_unregisterObj` removes an object exactly when it is registered and the transport
removes its listener. -/
theorem sat_rbusUnregisterObj
    (h : Registering objects w)
    (objectName : CString) :
    Program.Sat (transporting err) (rbusUnregisterObj (some objectName))
      (Performs objects (agreed err ((registryOf objects).unregisterObj objectName))) w := by
  rw [rbusUnregisterObj, Program.sat_ite]
  split
  case isTrue hillegal =>
    have hunknown : objectName ∉ registryOf objects := by
      refine notMem_registryOf.mpr (KeyedList.lookup_eq_none_iff.mpr fun o ho hkey => ?_)
      have hnamed := (h.inv.objects o ho).named
      have hshort : o.key.strlen < maxObjectNameLength := o.name.property
      rw [hkey] at hnamed hshort
      rcases hillegal with hempty | hlong
      · exact hnamed hempty
      · exact Nat.not_le_of_lt hshort hlong
    rw [Registry.unregisterObj, if_neg hunknown, agreed_none]
    exact ⟨by decide, h⟩
  case isFalse =>
    refine (sat_rtConnectionRemoveListener objectName).bind fun ret w hret => ?_
    obtain ⟨rfl, hsame⟩ := hret
    have h := h.same hsame
    rw [Program.sat_ite]
    split
    case isTrue herr =>
      rw [agreed, if_neg herr]
      exact ⟨by decide, h⟩
    case isFalse hok =>
      rw [agreed, if_pos (not_not.mp hok)]
      refine h.lock.bind fun _ w h => ?_
      rw [Program.sat_bind, sat_getObject h.vector]
      cases hfound : KeyedList.lookup ServerObject.key objectName objects with
      | some o =>
          have hknown : objectName ∈ registryOf objects := by
            rw [← not_not (a := objectName ∈ _), notMem_registryOf, hfound]
            exact Option.some_ne_none o
          rw [Registry.unregisterObj, if_pos hknown]
          rw [Program.sat_bind, sat_updateServerObjects, h.vector,
            RtVector.update_live]
          rw [remove_object]
          exact Performs.unlock_pure ⟨rfl, _, ⟨h.connected, rfl, h.inv.erase objectName⟩,
            KeyedList.toMap_erase h.inv.names objectName⟩
      | none =>
          rw [Registry.unregisterObj, if_neg (notMem_registryOf.mpr hfound)]
          exact Performs.unlock_pure ⟨by decide, h⟩

/-- A change of the methods of an object that a lookup has found. -/
theorem Registering.updateMethods
    {key : CString} {o : ServerObject}
    (h : Registering objects w)
    (hfound : KeyedList.lookup ServerObject.key key objects = some o)
    (f : List ServerMethod → List ServerMethod)
    (hdistinct : KeyedList.Distinct ServerMethod.key (f o.methods))
    (hbounded : (f o.methods).length ≤ maxSupportedMethods) :
    Program.Sat C (updateObject o.ptr fun o => { o with methods := f o.methods })
      (fun _ => Performs objects
        (some ((registryOf objects).insert key
          { o.entry with
            methods := KeyedList.toMap ServerMethod.key ServerMethod.entry (f o.methods) }))
        .success) w := by
  have hkey : o.key = key := KeyedList.key_of_lookup hfound
  have ho := h.inv.objects o (KeyedList.mem_of_lookup hfound)
  rw [updateObject, sat_updateServerObjects, h.vector, RtVector.update_live,
    h.inv.updateAt_eq hfound]
  subst hkey
  let change : ServerObject → ServerObject := fun o => { o with methods := f o.methods }
  have hinv := h.inv.modify (f := change) (fun _ => rfl) (fun _ => rfl) hfound
    ⟨ho.named, hdistinct, hbounded⟩
  have hmap : registryOf (KeyedList.modify ServerObject.key o.key change objects) =
      (registryOf objects).insert o.key (change o).entry :=
    KeyedList.toMap_modify (fun _ => rfl) hfound
  exact ⟨rfl, _, ⟨h.connected, rfl, hinv⟩, hmap⟩

theorem sat_registerMethodLocked
    (h : Registering objects w)
    (objectName : CString) (name : BoundedName maxMethodNameLength) (handler : MethodCallback)
    (userData : Ptr) :
    Program.Sat C (registerMethodLocked (some objectName) name handler userData)
      (Performs objects
        ((registryOf objects).registerMethod objectName name.val handler userData)) w := by
  have hlegal : name.val.strlen ≤ 63 := Nat.le_of_lt_succ name.property
  rw [registerMethodLocked, Program.sat_bind, sat_getObject h.vector, Registry.registerMethod,
    lookup_registryOf]
  cases hfound : KeyedList.lookup ServerObject.key objectName objects with
  | none =>
      exact Performs.unlock_pure ⟨by decide, h⟩
  | some o =>
      have ho := h.inv.objects o (KeyedList.mem_of_lookup hfound)
      simp only [Option.map_some, ho.card_methods, ServerObject.notMem_methods, Program.sat_ite,
        find_method]
      by_cases hfull : maxSupportedMethods ≤ o.methods.length
      · rw [if_pos hfull, if_neg fun hnew => Nat.not_lt_of_le hfull hnew.2.1]
        exact Performs.unlock_pure ⟨by decide, h⟩
      · rw [if_neg hfull]
        cases hmethod : KeyedList.lookup ServerMethod.key name.val o.methods with
        | some m =>
            simp only [Option.isSome_some, if_true, reduceCtorEq, and_false, if_false]
            exact Performs.unlock_pure ⟨by decide, h⟩
        | none =>
            have hroom : o.methods.length < maxSupportedMethods := Nat.lt_of_not_le hfull
            rw [if_neg (by simp), if_pos ⟨hlegal, hroom, rfl⟩]
            let method : ServerMethod := { name := name, callback := handler, data := userData }
            have hinsert : KeyedList.toMap ServerMethod.key ServerMethod.entry
                (o.methods ++ [method]) = o.entry.methods.insert name.val (handler, userData) :=
              KeyedList.toMap_append (x := method) hmethod
            have hdistinct : KeyedList.Distinct ServerMethod.key (o.methods ++ [method]) :=
              ho.methods.append (x := method) hmethod
            have hbounded : (o.methods ++ [method]).length ≤ maxSupportedMethods := by
              rw [List.length_append]
              exact hroom
            rw [← hinsert]
            exact (h.updateMethods hfound (fun methods => methods ++ [method]) hdistinct
              hbounded).bind fun _ w hw => hw.unlock_pure

/-- `rbus_registerMethod` registers a method exactly when the object is registered, the name
is free and of a legal length, and the object has room for it. -/
theorem sat_rbusRegisterMethod
    (h : Registering objects w)
    (objectName methodName : CString) (handler : MethodCallback) (userData : Ptr) :
    Program.Sat C (rbusRegisterMethod (some objectName) (some methodName) handler userData)
      (Performs objects
        ((registryOf objects).registerMethod objectName methodName handler userData)) w := by
  rw [rbusRegisterMethod, Program.sat_bind, sat_deref_some]
  cases hname : BoundedName.check? maxMethodNameLength methodName with
  | none =>
      have hlong := BoundedName.check?_eq_none_iff.mp hname
      have hrefused :
          (registryOf objects).registerMethod objectName methodName handler userData = none := by
        rw [Registry.registerMethod]
        split
        · exact if_neg fun hnew => Nat.not_le_of_lt (Nat.lt_succ_of_le hnew.1) hlong
        · rfl
      rw [hrefused]
      exact ⟨by decide, h⟩
  | some name =>
      obtain rfl := BoundedName.check?_eq_some_iff.mp hname
      refine h.lock.bind fun _ w h => ?_
      exact sat_registerMethodLocked h objectName name handler userData

/-- `rbus_unregisterMethod` removes a method exactly when the object has it. -/
theorem sat_rbusUnregisterMethod
    (h : Registering objects w)
    (objectName methodName : CString) :
    Program.Sat C (rbusUnregisterMethod (some objectName) (some methodName))
      (Performs objects ((registryOf objects).unregisterMethod objectName methodName)) w := by
  rw [rbusUnregisterMethod]
  refine h.lock.bind fun _ w h => ?_
  rw [Program.sat_bind, sat_getObject h.vector, Registry.unregisterMethod, lookup_registryOf]
  cases hfound : KeyedList.lookup ServerObject.key objectName objects with
  | none =>
      exact Performs.unlock_pure ⟨by decide, h⟩
  | some o =>
      have ho := h.inv.objects o (KeyedList.mem_of_lookup hfound)
      dsimp only [Option.map_some]
      rw [rtVectorFindDeref_some, Program.sat_bind, Program.sat_pure, find_method]
      cases hmethod : KeyedList.lookup ServerMethod.key methodName o.methods with
      | none =>
          rw [if_neg (ServerObject.notMem_methods.mpr hmethod)]
          exact Performs.unlock_pure ⟨by decide, h⟩
      | some m =>
          have hkey : m.key = methodName := KeyedList.key_of_lookup hmethod
          have hknown : methodName ∈ o.entry.methods := by
            rw [← not_not (a := methodName ∈ _), ServerObject.notMem_methods, hmethod]
            exact Option.some_ne_none m
          have herase : KeyedList.toMap ServerMethod.key ServerMethod.entry
              (rtVectorRemoveFound serverMethodCompare m.key o.methods) =
                o.entry.methods.erase methodName := by
            rw [remove_method, hkey]
            exact KeyedList.toMap_erase ho.methods methodName
          have hdistinct : KeyedList.Distinct ServerMethod.key
              (rtVectorRemoveFound serverMethodCompare m.key o.methods) := by
            rw [remove_method]
            exact ho.methods.erase m.key
          rw [if_pos hknown, ← herase]
          exact (h.updateMethods hfound (rtVectorRemoveFound serverMethodCompare m.key) hdistinct
            (List.eraseP_sublist.length_le.trans ho.bounded)).bind fun _ w hw => hw.unlock_pure

end Operations

section Tables

variable {M W : Type}
variable {C : Contract (Call.Answer (M := M) (W := W)) (World M W)}
variable {objects : List ServerObject} {w : World M W}

/-- An entry of a method table, with its name. -/
structure MethodEntry where
  method : CString
  userData : Ptr
  callback : MethodCallback

/-- A method table as the library reads it. -/
def methodTable (table : List MethodEntry) : List RbusMethodTableEntry :=
  table.map fun e => { method := some e.method, userData := e.userData, callback := e.callback }

/-- What an operation does that makes several changes: it ends with one that is refused. -/
structure PerformsInOrder (outcome : Registry × Bool) (ret : RbusError) (w' : World M W) :
    Prop where
  success : ret = .success ↔ outcome.2 = true
  registry : ∃ objects', Registering objects' w' ∧ registryOf objects' = outcome.1

/-- One entry of a table, and then the others. -/
theorem sat_entry
    {ε : Type} {change : ε → Registry → Option Registry} {e : ε} {table : List ε}
    {x rest : CoreM M W RbusError}
    (hx : Program.Sat C x (Performs objects (change e (registryOf objects))) w)
    (hrest : ∀ objects' w', Registering objects' w' →
      Program.Sat C rest
        (PerformsInOrder (Registry.inOrder change table (registryOf objects'))) w') :
    Program.Sat C
      (do
        let ret ← x
        if ret ≠ .success then pure ret else rest)
      (PerformsInOrder (Registry.inOrder change (e :: table) (registryOf objects))) w := by
  refine hx.bind fun ret w hret => ?_
  rw [Registry.inOrder, Program.sat_ite]
  cases hchange : change e (registryOf objects) with
  | none =>
      rw [hchange] at hret
      obtain ⟨hfail, hsame⟩ := hret
      rw [if_pos hfail]
      exact ⟨by simp [hfail], objects, hsame, rfl⟩
  | some r =>
      rw [hchange] at hret
      obtain ⟨rfl, objects', hobjects', rfl⟩ := hret
      rw [if_neg (not_not.mpr rfl)]
      exact hrest objects' w hobjects'

/-- `rbus_registerMethodTable` registers the methods of the table in order, up to the first
that is refused. -/
theorem sat_rbusRegisterMethodTable
    (h : Registering objects w)
    (objectName : CString)
    (table : List MethodEntry) :
    Program.Sat C (rbusRegisterMethodTable (some objectName) (methodTable table))
      (PerformsInOrder (Registry.inOrder
        (fun e r => r.registerMethod objectName e.method e.callback e.userData) table
        (registryOf objects))) w := by
  induction table generalizing objects w with
  | nil =>
      exact ⟨by simp [Registry.inOrder], objects, h, rfl⟩
  | cons e table ih =>
      exact sat_entry (sat_rbusRegisterMethod h objectName e.method e.callback e.userData)
        fun objects' w' h' => ih h'

/-- `rbus_unregisterMethodTable` removes the methods of the table in order, up to the first
that is refused. -/
theorem sat_rbusUnregisterMethodTable
    (h : Registering objects w)
    (objectName : CString)
    (table : List MethodEntry) :
    Program.Sat C (rbusUnregisterMethodTable (some objectName) (methodTable table))
      (PerformsInOrder (Registry.inOrder
        (fun e r => r.unregisterMethod objectName e.method) table (registryOf objects))) w := by
  induction table generalizing objects w with
  | nil =>
      exact ⟨by simp [Registry.inOrder], objects, h, rfl⟩
  | cons e table ih =>
      exact sat_entry (sat_rbusUnregisterMethod h objectName e.method) fun objects' w' h' => ih h'

end Tables

section Runs

/-- The operations on the registry, with names that are not NULL. -/
inductive RegistryOp where
  | registerObj (objectName : CString) (handler : Nat) (userData : Ptr)
  | unregisterObj (objectName : CString)
  | registerMethod (objectName methodName : CString) (handler : MethodCallback) (userData : Ptr)
  | unregisterMethod (objectName methodName : CString)
  | registerMethodTable (objectName : CString) (table : List MethodEntry)
  | unregisterMethodTable (objectName : CString) (table : List MethodEntry)

namespace RegistryOp

/-- The functions of the library. -/
def run {M W : Type} : RegistryOp → CoreM M W RbusError
  | .registerObj objectName handler userData =>
      rbusRegisterObj (some objectName) handler userData
  | .unregisterObj objectName => rbusUnregisterObj (some objectName)
  | .registerMethod objectName methodName handler userData =>
      rbusRegisterMethod (some objectName) (some methodName) handler userData
  | .unregisterMethod objectName methodName =>
      rbusUnregisterMethod (some objectName) (some methodName)
  | .registerMethodTable objectName table =>
      rbusRegisterMethodTable (some objectName) (methodTable table)
  | .unregisterMethodTable objectName table =>
      rbusUnregisterMethodTable (some objectName) (methodTable table)

/-- A single change, with whether it is allowed. -/
def once (change : Option Registry) (r : Registry) : Registry × Bool :=
  match change with
  | some r' => (r', true)
  | none => (r, false)

/-- What an operation does to the map, with whether all of it is allowed. -/
def onMap (err : RtError) : RegistryOp → Registry → Registry × Bool
  | .registerObj objectName handler userData, r =>
      once (agreed err (r.registerObj objectName handler userData)) r
  | .unregisterObj objectName, r => once (agreed err (r.unregisterObj objectName)) r
  | .registerMethod objectName methodName handler userData, r =>
      once (r.registerMethod objectName methodName handler userData) r
  | .unregisterMethod objectName methodName, r =>
      once (r.unregisterMethod objectName methodName) r
  | .registerMethodTable objectName table, r =>
      Registry.inOrder (fun e r => r.registerMethod objectName e.method e.callback e.userData)
        table r
  | .unregisterMethodTable objectName table, r =>
      Registry.inOrder (fun e r => r.unregisterMethod objectName e.method) table r

/-- The operations that make at most one change. -/
def single : RegistryOp → Bool
  | .registerMethodTable .. | .unregisterMethodTable .. => false
  | _ => true

/-- The length of the name of a new object is read correctly. -/
def lengthRead : RegistryOp → Prop
  | .registerObj objectName .. => LengthRead objectName
  | _ => True

end RegistryOp

variable {M W : Type} {objects : List ServerObject} {w : World M W} {err : RtError}

/-- The vectors represent a map within its bounds, and every lookup finds what has exactly
that name. -/
structure Represents (objects : List ServerObject) : Prop where
  names : (objects.map fun o => o.name.val).Nodup
  nameLengths : ∀ o ∈ objects, 1 ≤ o.name.val.strlen ∧ o.name.val.strlen ≤ 127
  methodNames : ∀ o ∈ objects, (o.methods.map fun m => m.name.val).Nodup
  methodNameLengths : ∀ o ∈ objects, ∀ m ∈ o.methods, m.name.val.strlen ≤ 63
  methodCount : ∀ o ∈ objects, o.methods.length ≤ 32
  findObject : ∀ key o,
    rtVectorFind serverObjectCompare objects key = some o ↔ o ∈ objects ∧ o.name.val = key
  findMethod : ∀ o ∈ objects, ∀ key m,
    rtVectorFind serverMethodCompare o.methods key = some m ↔ m ∈ o.methods ∧ m.name.val = key

theorem RegistryInv.represents
    {nextPtr : Ptr}
    (h : RegistryInv nextPtr objects) :
    Represents objects where
  names := h.names
  nameLengths := fun o ho =>
    ⟨Nat.one_le_iff_ne_zero.mpr (h.objects o ho).named, Nat.le_of_lt_succ o.name.property⟩
  methodNames := fun o ho => (h.objects o ho).methods
  methodNameLengths := fun _ _ m _ => Nat.le_of_lt_succ m.name.property
  methodCount := fun o ho => (h.objects o ho).bounded
  findObject := fun key o => by
    rw [find_object]
    exact h.names.lookup_eq_some_iff
  findMethod := fun o ho key m => by
    rw [find_method]
    exact (h.objects o ho).methods.lookup_eq_some_iff

/-- An operation refines the one of the map: nothing is undefined, it returns, and the result
and the new vectors are what the map says. -/
structure Refines (err : RtError) (op : RegistryOp) (w : World M W) : Prop where
  defined : ∀ q, Prog.Reaches (transportAnswers err) (op.run w) q → ∀ w', q ≠ .undef w'
  returns : ∃ ret w', Program.Returns (transportAnswers err) op.run w ret w'
  success : ∀ ret w', Program.Returns (transportAnswers err) op.run w ret w' →
    (ret = .success ↔ (op.onMap err (registryOf w.gServerObjects.items)).2 = true)
  registry : ∀ ret w', Program.Returns (transportAnswers err) op.run w ret w' →
    registryOf w'.gServerObjects.items = (op.onMap err (registryOf w.gServerObjects.items)).1
  unchanged : ∀ ret w', Program.Returns (transportAnswers err) op.run w ret w' →
    op.single = true → ret ≠ .success → w'.gServerObjects = w.gServerObjects

/-- Runs from a freshly opened connection in which the lengths of new object names are read
correctly. -/
inductive Registered : World M W → Prop
  | opened {w : World M W}
      (hconnected : w.gConnection.isSome = true)
      (hvector : w.gServerObjects = .live []) :
      Registered w
  | step {w w' : World M W} {op : RegistryOp} {err : RtError} {ret : RbusError}
      (h : Registered w)
      (hlength : op.lengthRead)
      (hop : Program.Returns (transportAnswers err) op.run w ret w') :
      Registered w'

theorem Performs.inOrder
    {change : Option Registry} {ret : RbusError}
    (h : Performs objects change ret w) :
    PerformsInOrder (RegistryOp.once change (registryOf objects)) ret w ∧
      (ret ≠ .success → Registering objects w) := by
  cases change with
  | some r =>
      obtain ⟨rfl, hr⟩ := h
      exact ⟨⟨by simp [RegistryOp.once], hr⟩, fun hne => absurd rfl hne⟩
  | none =>
      exact ⟨⟨by simp [RegistryOp.once, h.1], objects, h.2, rfl⟩, fun _ => h.2⟩

/-- What holds after an operation. -/
theorem sat_registryOp
    {op : RegistryOp}
    (h : Registering objects w)
    (hlength : op.lengthRead) :
    Program.Sat (transporting err) op.run
      (fun ret w' => PerformsInOrder (op.onMap err (registryOf objects)) ret w' ∧
        (op.single = true → ret ≠ .success → Registering objects w')) w := by
  cases op with
  | registerObj objectName handler userData =>
      exact (sat_rbusRegisterObj hlength h handler userData).mono fun ret w' hret =>
        ⟨hret.inOrder.1, fun _ => hret.inOrder.2⟩
  | unregisterObj objectName =>
      exact (sat_rbusUnregisterObj h objectName).mono fun ret w' hret =>
        ⟨hret.inOrder.1, fun _ => hret.inOrder.2⟩
  | registerMethod objectName methodName handler userData =>
      exact (sat_rbusRegisterMethod h objectName methodName handler userData).mono
        fun ret w' hret => ⟨hret.inOrder.1, fun _ => hret.inOrder.2⟩
  | unregisterMethod objectName methodName =>
      exact (sat_rbusUnregisterMethod h objectName methodName).mono fun ret w' hret =>
        ⟨hret.inOrder.1, fun _ => hret.inOrder.2⟩
  | registerMethodTable objectName table =>
      exact (sat_rbusRegisterMethodTable h objectName table).mono fun ret w' hret =>
        ⟨hret, fun hsingle => absurd hsingle Bool.false_ne_true⟩
  | unregisterMethodTable objectName table =>
      exact (sat_rbusUnregisterMethodTable h objectName table).mono fun ret w' hret =>
        ⟨hret, fun hsingle => absurd hsingle Bool.false_ne_true⟩

/-- Every run keeps the invariant of the vectors. -/
theorem Registered.registering
    (h : Registered w) :
    ∃ objects, Registering objects w := by
  induction h with
  | opened hconnected hvector =>
      exact ⟨[], hconnected, hvector, registryInv_nil⟩
  | step _ hlength hop ih =>
      obtain ⟨objects, hobjects⟩ := ih
      obtain ⟨hdone, -⟩ := Program.returns_of_sat (C := transporting _) (fun _ _ _ _ henv => henv)
        (sat_registryOp hobjects hlength) hop
      obtain ⟨objects', hobjects', -⟩ := hdone.registry
      exact ⟨objects', hobjects'⟩

/-- Every call but an endless loop is answered. -/
theorem exists_transportAnswer
    (e : Call M W) (w : World M W)
    (he : e ≠ .loop) :
    ∃ a w', transportAnswers err e w a w' := by
  cases e with
  | connectionCreate | sendBinaryRequest | sendRequest =>
      exact ⟨.error .rtFail, w, rfl⟩
  | connectionDestroy | addAlias | removeAlias | addDefaultListener | sendBinaryDirect
  | sendBinaryResponse =>
      exact ⟨.rtOk, w, rfl⟩
  | addListener | removeListener =>
      exact ⟨err, w, rfl, rfl⟩
  | readRouterConfig =>
      exact ⟨none, w, rfl⟩
  | accessDisableFile | tryMalloc | strndup =>
      exact ⟨false, w, rfl⟩
  | methodCallback =>
      exact ⟨⟨.success, none⟩, w, rfl⟩
  | subscribeCallback | eventCallback =>
      exact ⟨.success, w, rfl⟩
  | clientDisconnectCallback =>
      exact ⟨(), w, rfl⟩
  | loop =>
      exact absurd rfl he

theorem Registering.refines
    {op : RegistryOp}
    (h : Registering objects w)
    (hlength : op.lengthRead) :
    Refines err op w := by
  have hsat : Program.Sat (transporting err) op.run _ w := sat_registryOp h hlength
  have hitems : w.gServerObjects.items = objects := by rw [h.vector, RtVector.items_live]
  have hpost (ret : RbusError) (w' : World M W)
      (hret : Program.Returns (transportAnswers err) op.run w ret w') :=
    Program.returns_of_sat (C := transporting err) (fun _ _ _ _ henv => henv) hsat hret
  refine ⟨?_, ?_, ?_, ?_, ?_⟩
  · rintro q hreach w' rfl
    exact (Prog.sat_iff_reaches _).mp hsat _ hreach
  · exact (Program.completes_of_sat (C := transporting err)
      (fun e s he => exists_transportAnswer e s he) (fun _ hundef => hundef) hsat).returns
  · intro ret w' hret
    rw [hitems]
    exact (hpost ret w' hret).1.success
  · intro ret w' hret
    obtain ⟨objects', hobjects', hr⟩ := (hpost ret w' hret).1.registry
    rw [hitems, hobjects'.vector, RtVector.items_live]
    exact hr
  · intro ret w' hret hsingle hfail
    rw [h.vector]
    exact ((hpost ret w' hret).2 hsingle hfail).vector

/-- A name that is too long, but not found to be, is copied out of bounds. -/
theorem rbusRegisterObj_undef
    {objectName : CString}
    (h : Registering objects w)
    (hlength : ¬LengthRead objectName)
    (handler : Nat) (userData : Ptr) :
    ∃ w', rbusRegisterObj (some objectName) handler userData w = .undef w' := by
  obtain ⟨hlong, hvalid⟩ := Classical.not_imp.mp hlength
  let C : Contract (Call.Answer (M := M) (W := W)) (World M W) :=
    { env := fun _ _ _ _ => True, atCall := fun _ _ => False, atUndef := fun _ => True }
  refine (Program.undef_of_sat (C := C) (fun _ _ hcall => hcall) ?_).imp fun _ h => h.1
  have hconnected : ¬w.gConnection.isNone = true := by
    simp [Option.isNone_iff_eq_none, Option.isSome_iff_ne_none.mp h.connected]
  rw [rbusRegisterObj, Program.sat_bind, Program.sat_getState, if_neg hconnected]
  dsimp only
  rw [if_neg hvalid]
  refine h.lock.bind fun _ w h => ?_
  rw [Program.sat_bind, sat_serverObjects h.vector, find_object]
  refine h.unlock.bind fun _ w h => ?_
  have hfree : KeyedList.lookup ServerObject.key objectName objects = none := by
    refine KeyedList.lookup_eq_none_iff.mpr fun o _ hkey => ?_
    have hshort : o.key.strlen < maxObjectNameLength := o.name.property
    rw [hkey] at hshort
    exact Nat.not_le_of_lt hshort hlong
  have hstrcpy : (strcpy maxObjectNameLength objectName :
      CoreM M W (BoundedName maxObjectNameLength)) = crash .overflow := by
    rw [strcpy, BoundedName.check?_eq_none_iff.mpr hlong]
  simp only [hfree, Option.isSome_none, Bool.false_eq_true, if_false]
  rw [serverObjectCreate, hstrcpy, Program.sat_bind, Program.sat_bind, sat_rtMalloc,
    Program.sat_bind, sat_crash]
  trivial

/--
In every run in which the lengths of the names of new objects are read correctly, the vectors
represent a bounded map, and the next operation refines the one of the map exactly when the
length of its name is read correctly, too.
-/
theorem registry_refines_iff
    (h : Registered w)
    (op : RegistryOp)
    (err : RtError) :
    (∃ objects, w.gServerObjects = .live objects ∧ Represents objects) ∧
      (Refines err op w ↔ op.lengthRead) := by
  obtain ⟨objects, hobjects⟩ := h.registering
  refine ⟨⟨objects, hobjects.vector, hobjects.inv.represents⟩, ?_, hobjects.refines⟩
  intro hrefines
  by_contra hlength
  cases op with
  | registerObj objectName handler userData =>
      obtain ⟨w', hundef⟩ := rbusRegisterObj_undef hobjects hlength handler userData
      exact hrefines.defined _ .refl w' hundef
  | unregisterObj | registerMethod | unregisterMethod | registerMethodTable
  | unregisterMethodTable =>
      exact hlength trivial

/-- A process that has just opened a connection. -/
def sampleOpened : World Unit Unit :=
  { World.initial .empty .empty with
    gConnection := some (sampleConnection 1)
    gServerObjects := .live []
    gEventSubscriptionsForClient := .live []
    nextPtr := 2 }

/-- A transport that accepts the listeners of objects. -/
def registeringAnswer :
    (e : Call Unit Unit) → World Unit Unit → Option (e.Answer × World Unit Unit)
  | .addListener .., w => some (.rtOk, w)
  | .removeListener .., w => some (.rtOk, w)
  | _, _ => none

theorem transportAnswers_of_registeringAnswer
    (e : Call Unit Unit) (w : World Unit Unit) (a : e.Answer) (w' : World Unit Unit)
    (h : registeringAnswer e w = some (a, w')) :
    transportAnswers .rtOk e w a w' := by
  cases e with
  | addListener | removeListener =>
      obtain ⟨rfl, rfl⟩ := Prod.mk.inj (Option.some.inj h)
      exact ⟨rfl, rfl⟩
  | _ =>
      cases h

/-- Operations one after another, whatever they return. -/
def registeringRun (ops : List RegistryOp) (w : World Unit Unit) : Option (World Unit Unit) :=
  ops.foldlM (fun w op => ((op.run w).run registeringAnswer).map Prod.snd) w

theorem registered_of_registeringRun
    {ops : List RegistryOp} {w w' : World Unit Unit}
    (hlengths : ∀ op ∈ ops, op.lengthRead)
    (h : Registered w)
    (hrun : registeringRun ops w = some w') :
    Registered w' := by
  induction ops generalizing w with
  | nil =>
      obtain rfl := Option.some.inj hrun
      exact h
  | cons op ops ih =>
      rw [registeringRun, List.foldlM_cons] at hrun
      obtain ⟨w₁, hop, hrest⟩ := Option.bind_eq_some_iff.mp hrun
      obtain ⟨⟨ret, _⟩, hreturns, rfl⟩ := Option.map_eq_some_iff.mp hop
      refine ih (fun op hop => hlengths op (List.mem_cons_of_mem _ hop)) ?_ hrest
      exact h.step (hlengths op List.mem_cons_self)
        (Program.returns_of_run transportAnswers_of_registeringAnswer hreturns)

/-- Two objects are registered, one of them with methods. -/
def sampleRegistryOps : List RegistryOp :=
  [.registerObj sampleObjectName.val 1 0, .registerObj sampleElementName.val 1 0,
    .registerMethodTable sampleObjectName.val
      [⟨.ofChars ['g'], 0, .app 2⟩, ⟨.ofChars ['s'], 0, .app 3⟩],
    .registerMethod sampleObjectName.val (.ofChars ['g']) (.app 4) 0]

/-- A method of the object is unregistered. -/
theorem sampleRegistry_refines :
    ∃ (w : World Unit Unit) (objects : List ServerObject),
      w.gServerObjects = .live objects ∧ objects.map (fun o => o.methods.length) = [2, 0] ∧
      Represents objects ∧
      Refines .rtOk (.unregisterMethod sampleObjectName.val (.ofChars ['g'])) w := by
  have hrun : (registeringRun sampleRegistryOps sampleOpened).map (fun w =>
      w.gServerObjects.items.map fun o => o.methods.length) = some [2, 0] := by
    decide +kernel
  obtain ⟨w, hw, hmethods⟩ := Option.map_eq_some_iff.mp hrun
  have hlengths : ∀ op ∈ sampleRegistryOps, op.lengthRead := by
    intro op hop
    simp only [sampleRegistryOps, List.mem_cons, List.not_mem_nil, or_false] at hop
    rcases hop with rfl | rfl | rfl | rfl
    · exact fun hlong => absurd hlong (by decide)
    · exact fun hlong => absurd hlong (by decide)
    · trivial
    · trivial
  obtain ⟨⟨objects, hvector, hrepresents⟩, hrefines⟩ :=
    registry_refines_iff (registered_of_registeringRun hlengths (.opened rfl rfl) hw)
      (.unregisterMethod sampleObjectName.val (.ofChars ['g'])) .rtOk
  rw [hvector] at hmethods
  exact ⟨w, objects, hvector, hmethods, hrepresents, hrefines.mpr trivial⟩

/-- A name of 2^31 characters: its length is negative as an `int`. -/
def longName : CString :=
  ⟨List.replicate 2147483648 97, fun c hc => by
    rw [List.eq_of_mem_replicate hc]
    decide⟩

/-- On a freshly opened connection, registering an object under such a name overflows the
record it is copied into. -/
theorem long_name_overflows :
    sampleOpened.gConnection.isSome = true ∧ sampleOpened.gServerObjects = .live [] ∧
      ¬Refines .rtOk (.registerObj longName 1 0) sampleOpened := by
  refine ⟨rfl, rfl, fun hrefines => ?_⟩
  have hstrlen : longName.strlen = 2147483648 := List.length_replicate
  have hvalid : objectNameLengthInvalid longName = false := by
    rw [objectNameLengthInvalid, hstrlen]
    decide
  have hlength : ¬LengthRead longName := fun hread => by
    have hinvalid := hread (by rw [hstrlen]; decide)
    exact Bool.false_ne_true (hvalid.symm.trans hinvalid)
  have hobjects : Registering [] sampleOpened := ⟨rfl, rfl, registryInv_nil⟩
  obtain ⟨w', hundef⟩ := rbusRegisterObj_undef hobjects hlength 1 0
  exact hrefines.defined _ .refl w' hundef

end Runs

end RbusCore
