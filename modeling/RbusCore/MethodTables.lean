import RbusCore.Message
import RbusCore.SubscriptionHandlers

/-!
# Rolling back a method table

`rbus_registerMethodTable` stops at the first method that is refused, and
`rbus_unregisterMethodTable` removes by name.  The methods that a table has registered stand
behind those that were there, under names that were free: removing them in order leaves the
vectors as they were.

**Results.**
* `registers_table`: what a table leaves behind.
* `unregisters_methods`: the removal of methods that stand behind others.
* `method_table_rollback`: the two are inverse.
-/

namespace RbusCore

open CStrings Resumption

section Rollback

variable {M W : Type}

/-- The number of entries that `rbus_registerMethodTable` registers before its first failure. -/
def registeredCount (objectName : Option CString) :
    List RbusMethodTableEntry → World M W → Nat
  | [], _ => 0
  | entry :: table, w =>
      match rbusRegisterMethod objectName entry.method entry.callback entry.userData w with
      | .done .success w' => registeredCount objectName table w' + 1
      | _ => 0

/-- Under this contract a program neither calls nor is undefined. -/
def calling : Contract (Call.Answer (M := M) (W := W)) (World M W) where
  env _ _ _ _ := False
  atCall _ _ := False
  atUndef _ := False

/-- Such a program finishes. -/
theorem done_of_calling
    {α : Type} {x : CoreM M W α} {Q : α → World M W → Prop} {w : World M W}
    (h : Program.Sat calling x Q w) :
    ∃ a w', x w = .done a w' ∧ Q a w' :=
  Program.done_of_sat (fun _ _ hcall => hcall) (fun _ hundef => hundef) h

variable {objects : List ServerObject} {old o : ServerObject} {w₀ w : World M W}

/-- A method with the name of an entry is registered behind the others, or nothing happens. -/
theorem registers_method
    (h : Replaces objects old o)
    (hw : Holding objects w₀ o w)
    (e : MethodEntry) :
    ∃ ret w', rbusRegisterMethod (some o.key) (some e.method) e.callback e.userData w =
        .done ret w' ∧
      (ret ≠ .success ∧ Holding objects w₀ o w' ∨
        ret = .success ∧ ∃ m : ServerMethod, m.key = e.method ∧
          KeyedList.lookup ServerMethod.key m.key o.methods = none ∧
          Holding objects w₀ { o with methods := o.methods ++ [m] } w') := by
  cases hname : BoundedName.check? maxMethodNameLength e.method with
  | none =>
      have hsat : Program.Sat calling
          (rbusRegisterMethod (some o.key) (some e.method) e.callback e.userData)
          (fun ret w' => ret = .errorInvalidParam ∧ w' = w) w := by
        rw [rbusRegisterMethod, Program.sat_bind, sat_deref_some, hname]
        exact ⟨rfl, rfl⟩
      obtain ⟨_, _, hrun, rfl, rfl⟩ := done_of_calling hsat
      exact ⟨_, _, hrun, Or.inl ⟨RbusError.noConfusion, hw⟩⟩
  | some name =>
      have hkey : name.val = e.method := BoundedName.check?_eq_some_iff.mp hname
      let m : ServerMethod := { name := name, callback := e.callback, data := e.userData }
      obtain ⟨_, w', hrun, rfl, hw'⟩ :=
        done_of_calling (sat_rbusRegisterMethod_replaced h hw m)
      rw [← hkey]
      refine ⟨_, w', hrun, ?_⟩
      rw [ServerObject.registerMethod] at hw' ⊢
      split at hw'
      case isTrue hfull =>
        rw [if_pos hfull]
        exact Or.inl ⟨RbusError.noConfusion, hw'⟩
      case isFalse hfull =>
        rw [if_neg hfull]
        split at hw'
        case isTrue hfound =>
          rw [if_pos hfound]
          exact Or.inl ⟨RbusError.noConfusion, hw'⟩
        case isFalse hfound =>
          rw [if_neg hfound]
          rw [ServerObject.method?_eq_lookup, Option.not_isSome_iff_eq_none] at hfound
          exact Or.inr ⟨rfl, m, rfl, hfound, hw'⟩

/-- A table stops at an entry that is refused. -/
theorem table_stops
    {objectName : CString} {e : MethodEntry} {ret : RbusError} {w' : World M W}
    (hrun : rbusRegisterMethod (some objectName) (some e.method) e.callback e.userData w =
      .done ret w')
    (hfailure : ret ≠ .success)
    (table : List MethodEntry) :
    rbusRegisterMethodTable (some objectName) (methodTable (e :: table)) w = .done ret w' ∧
      registeredCount (some objectName) (methodTable (e :: table)) w = 0 := by
  constructor
  · refine (Program.bind_of_done hrun _).trans ?_
    rw [if_pos hfailure]
    rfl
  · rw [methodTable, List.map_cons, registeredCount, hrun]
    cases ret with
    | success =>
        exact absurd rfl hfailure
    | _ =>
        rfl

/-- A table goes on after an entry that is registered. -/
theorem table_continues
    {objectName : CString} {e : MethodEntry} {w' : World M W}
    (hrun : rbusRegisterMethod (some objectName) (some e.method) e.callback e.userData w =
      .done .success w')
    (table : List MethodEntry) :
    rbusRegisterMethodTable (some objectName) (methodTable (e :: table)) w =
        rbusRegisterMethodTable (some objectName) (methodTable table) w' ∧
      registeredCount (some objectName) (methodTable (e :: table)) w =
        registeredCount (some objectName) (methodTable table) w' + 1 := by
  constructor
  · refine (Program.bind_of_done hrun _).trans ?_
    rw [if_neg (not_not.mpr rfl)]
    rfl
  · rw [methodTable, List.map_cons, registeredCount, hrun]
    rfl

/-- What a table leaves behind: its registered entries, under names that were free. -/
theorem registers_table
    (h : Replaces objects old o)
    (hw : Holding objects w₀ o w)
    (table : List MethodEntry) :
    ∃ ret w' methods,
      rbusRegisterMethodTable (some o.key) (methodTable table) w = .done ret w' ∧
      (ret = .success → registeredCount (some o.key) (methodTable table) w = table.length) ∧
      methods.map ServerMethod.key =
        (table.take (registeredCount (some o.key) (methodTable table) w)).map MethodEntry.method ∧
      (∀ m ∈ methods, KeyedList.lookup ServerMethod.key m.key o.methods = none) ∧
      Holding objects w₀ { o with methods := o.methods ++ methods } w' := by
  induction table generalizing o w with
  | nil =>
      refine ⟨.success, w, [], rfl, fun _ => rfl, rfl, by simp, ?_⟩
      rw [List.append_nil]
      exact hw
  | cons e table ih =>
      obtain ⟨ret, w₁, hrun, hret⟩ := registers_method h hw e
      rcases hret with ⟨hfailure, hw₁⟩ | ⟨rfl, m, hkey, hfree, hw₁⟩
      · obtain ⟨htable, hcount⟩ := table_stops hrun hfailure table
        rw [htable, hcount]
        refine ⟨ret, w₁, [], rfl, fun hret => absurd hret hfailure, rfl, by simp, ?_⟩
        rw [List.append_nil]
        exact hw₁
      · have hnext : Replaces objects old { o with methods := o.methods ++ [m] } :=
          ⟨h.addresses, h.found, h.ptr, h.name⟩
        obtain ⟨ret, w', methods, hrest, hall, hnames, hnew, hw'⟩ := ih hnext hw₁
        obtain ⟨htable, hcount⟩ := table_continues hrun table
        rw [htable, hcount]
        refine ⟨ret, w', m :: methods, hrest, fun hret => congrArg (· + 1) (hall hret), ?_, ?_, ?_⟩
        · rw [List.map_cons, hkey, hnames, List.take_succ_cons, List.map_cons]
        · intro x hx
          rcases List.mem_cons.mp hx with rfl | hx
          · exact hfree
          · have hlookup := hnew x hx
            rw [KeyedList.lookup_append_singleton, Option.or_eq_none_iff] at hlookup
            exact hlookup.1
        · rw [List.append_cons]
          exact hw'

/-- A method that stands behind others with other names is removed. -/
theorem unregisters_method
    {methods rest : List ServerMethod} {m : ServerMethod}
    (h : Replaces objects old o)
    (hfree : KeyedList.lookup ServerMethod.key m.key methods = none)
    (hw : Holding objects w₀ { o with methods := methods ++ m :: rest } w) :
    ∃ w', rbusUnregisterMethod (some o.key) (some m.key) w = .done .success w' ∧
      Holding objects w₀ { o with methods := methods ++ rest } w' := by
  have hnow : Replaces objects old { o with methods := methods ++ m :: rest } :=
    ⟨h.addresses, h.found, h.ptr, h.name⟩
  have hlookup := KeyedList.lookup_append_cons hfree rest
  have herase : rtVectorRemoveFound serverMethodCompare m.key (methods ++ m :: rest) =
      methods ++ rest := by
    rw [remove_method, KeyedList.erase_append_cons hfree]
  have hsat : Program.Sat calling (rbusUnregisterMethod (some o.key) (some m.key))
      (fun ret w' => ret = .success ∧
        Holding objects w₀ { o with methods := methods ++ rest } w') w := by
    rw [rbusUnregisterMethod, Program.sat_bind, sat_lock]
    have hlocked : Holding objects w₀ { o with methods := methods ++ m :: rest }
        { w with mutexOwned := true, log := w.log ++ [.lock w.mutexOwned] } :=
      ⟨hw.vector, hw.nextPtr, hw.connection⟩
    rw [Program.sat_bind, sat_getObject_replaced hnow hlocked]
    dsimp only
    rw [rtVectorFindDeref_some, Program.sat_bind, Program.sat_pure, find_method, hlookup]
    refine (sat_updateObject_replaced hlocked rfl _ rfl).bind fun _ w₁ hw₁ => ?_
    rw [herase] at hw₁
    exact hw₁.unlock_pure .success
  obtain ⟨_, w', hrun, rfl, hw'⟩ := done_of_calling hsat
  exact ⟨w', hrun, hw'⟩

/-- Methods that stand behind others are removed by their names, in order. -/
theorem unregisters_methods
    {methods news : List ServerMethod} {names : List MethodEntry}
    (h : Replaces objects old o)
    (hnames : news.map ServerMethod.key = names.map MethodEntry.method)
    (hfree : ∀ m ∈ news, KeyedList.lookup ServerMethod.key m.key methods = none)
    (hw : Holding objects w₀ { o with methods := methods ++ news } w) :
    ∃ w', rbusUnregisterMethodTable (some o.key) (methodTable names) w = .done .success w' ∧
      Holding objects w₀ { o with methods := methods } w' := by
  induction news generalizing names w with
  | nil =>
      obtain rfl := List.map_eq_nil_iff.mp hnames.symm
      rw [List.append_nil] at hw
      exact ⟨w, rfl, hw⟩
  | cons m news ih =>
      cases names with
      | nil =>
          cases hnames
      | cons e names =>
          obtain ⟨hname, hnames⟩ := List.cons.inj hnames
          obtain ⟨w₁, hrun, hw₁⟩ :=
            unregisters_method h (hfree m (List.mem_cons_self ..)) hw
          obtain ⟨w', hrest, hw'⟩ :=
            ih hnames (fun x hx => hfree x (List.mem_cons_of_mem m hx)) hw₁
          rw [hname] at hrun
          refine ⟨w', ?_, hw'⟩
          exact (Program.bind_of_done hrun _).trans hrest

/-- A method of an object that is not registered is refused. -/
theorem refuses_method
    {objectName : CString}
    (hvector : w.gServerObjects ≠ .destroyed)
    (hunknown : KeyedList.lookup ServerObject.key objectName w.gServerObjects.items = none)
    (e : MethodEntry) :
    ∃ ret w', rbusRegisterMethod (some objectName) (some e.method) e.callback e.userData w =
        .done ret w' ∧
      ret ≠ .success ∧ w'.gServerObjects = w.gServerObjects := by
  refine done_of_calling ?_
  rw [rbusRegisterMethod, Program.sat_bind, sat_deref_some]
  cases BoundedName.check? maxMethodNameLength e.method with
  | none =>
      exact ⟨RbusError.noConfusion, rfl⟩
  | some name =>
      dsimp only
      rw [Program.sat_bind, sat_lock, registerMethodLocked, getObject, Program.sat_bind,
        Program.sat_bind, serverObjects, Program.sat_bind, Program.sat_getState]
      dsimp only
      cases hobjects : w.gServerObjects with
      | live objects =>
          rw [hobjects] at hunknown
          rw [RtVector.items_live] at hunknown
          rw [accessVector, Program.sat_pure, rtVectorFindDeref_some, Program.sat_pure, find_object,
            hunknown]
          exact ⟨RbusError.noConfusion, rfl⟩
      | null =>
          exact ⟨RbusError.noConfusion, rfl⟩
      | destroyed =>
          exact absurd hobjects hvector

/--
For every vector of objects at different addresses, every object name and every table: the
removal of the entries that a registration of the table has registered before its first failure
succeeds and leaves the vectors of objects and methods as they were before the registration.
-/
theorem method_table_rollback
    (hvector : w.gServerObjects ≠ .destroyed)
    (haddresses : KeyedList.Distinct ServerObject.ptr w.gServerObjects.items)
    (objectName : CString)
    (table : List MethodEntry) :
    ∃ ret w₁ w₂,
      rbusRegisterMethodTable (some objectName) (methodTable table) w = .done ret w₁ ∧
      (ret = .success →
        registeredCount (some objectName) (methodTable table) w = table.length) ∧
      rbusUnregisterMethodTable (some objectName) (methodTable
        (table.take (registeredCount (some objectName) (methodTable table) w))) w₁ =
          .done .success w₂ ∧
      w₂.gServerObjects = w.gServerObjects := by
  cases hfound : KeyedList.lookup ServerObject.key objectName w.gServerObjects.items with
  | none =>
      cases table with
      | nil =>
          exact ⟨.success, w, w, rfl, fun _ => rfl, rfl, rfl⟩
      | cons e table =>
          obtain ⟨ret, w₁, hrun, hfailure, hsame⟩ := refuses_method hvector hfound e
          obtain ⟨htable, hcount⟩ := table_stops hrun hfailure table
          rw [htable, hcount]
          exact ⟨ret, w₁, w₁, rfl, fun hret => absurd hret hfailure, rfl, hsame⟩
  | some o =>
      have hkey : o.key = objectName := KeyedList.key_of_lookup hfound
      subst hkey
      have hself : Replaces w.gServerObjects.items o o := ⟨haddresses, hfound, rfl, rfl⟩
      have hsame : .live (replaced w.gServerObjects.items o) = w.gServerObjects := by
        rw [replaced_self haddresses hfound]
        cases hobjects : w.gServerObjects with
        | live objects =>
            rfl
        | null =>
            rw [hobjects] at hfound
            cases hfound
        | destroyed =>
            exact absurd hobjects hvector
      have hw : Holding w.gServerObjects.items w o w := ⟨hsame.symm, rfl, rfl⟩
      obtain ⟨ret, w₁, methods, hrun, hall, hnames, hfree, hw₁⟩ := registers_table hself hw table
      obtain ⟨w₂, hremoved, hw₂⟩ := unregisters_methods hself hnames hfree hw₁
      exact ⟨ret, w₁, w₂, hrun, hall, hremoved, hw₂.vector.trans hsame⟩

end Rollback

section Run

/-- A process with the object `o`, which has a reserved method. -/
def sampleTableOwner : World Bytes (List UInt8) :=
  { (World.initial .empty .empty : World Bytes (List UInt8)) with
    gServerObjects := .live
      [{ ptr := 1
         name := sampleObjectName
         data := 0
         callback := 0
         processEventSubscriptions := false
         methods := [⟨addHandlerName, .subscriptionHandler, 1⟩]
         subscriptions := []
         subscribeHandlerOverride := none
         subscribeHandlerData := 0 }] }

/-- A table with a new name and with the name of the method that is there. -/
def sampleTable : List MethodEntry :=
  [⟨sampleElementName.val, 0, .app 1⟩, ⟨addHandlerName.val, 0, .app 2⟩]

/-- The second entry is refused, and the first is rolled back. -/
theorem sampleTable_rollback :
    ∃ ret w₁ w₂,
      rbusRegisterMethodTable (some sampleObjectName.val) (methodTable sampleTable)
        sampleTableOwner = .done ret w₁ ∧
      (ret = .success → registeredCount (some sampleObjectName.val) (methodTable sampleTable)
        sampleTableOwner = sampleTable.length) ∧
      rbusUnregisterMethodTable (some sampleObjectName.val) (methodTable (sampleTable.take 1)) w₁ =
        .done .success w₂ ∧
      w₂.gServerObjects = sampleTableOwner.gServerObjects := by
  have hcount : registeredCount (some sampleObjectName.val) (methodTable sampleTable)
      sampleTableOwner = 1 := by
    decide
  have hvector : sampleTableOwner.gServerObjects ≠ .destroyed := by
    rintro ⟨⟩
  have hrollback := method_table_rollback hvector (List.nodup_singleton _) sampleObjectName.val
    sampleTable
  rw [hcount] at hrollback ⊢
  exact hrollback

end Run

end RbusCore
