import RbusCore.EventMessages

/-!
# Subscriptions and the master handler

With a master handler the table is neither read nor written by the calls of the client, and
events that are flagged go to the handler first.  So a subscription that was entered into the
table before stays there, and gets the events that the handler leaves alone and those without
the flag; one that was made under a handler is not in the table.

**Results.**
* `sat_clientOp_master`: under a master handler the table does not change.
* `SessionStep.keeps_entry`: an entry stays until it is unsubscribed.
* `subscribed_event_delivered`: no event of an entry is dropped.
* `subscribed_under_master_dropped`: an event of a subscription made under a handler is.
-/

namespace RbusCore

open CStrings Resumption

section Standing

variable {M W : Type} [MessageApi M W]
variable {master : Option Nat} {m : Nat} {subs : List ClientSubscription} {w : World M W}

/-- A process with this master handler and this table. -/
structure Standing (master : Option Nat) (subs : List ClientSubscription) (w : World M W) :
    Prop where
  master : w.gMasterEventCallback = master
  table : w.gEventSubscriptionsForClient = .live subs
  inv : TableInv w.nextPtr subs

omit [MessageApi M W] in
theorem Standing.tabled
    (h : Standing none subs w) :
    Tabled subs w :=
  ⟨h.master, h.table, h.inv⟩

omit [MessageApi M W] in
theorem Tabled.standing
    (h : Tabled subs w) :
    Standing none subs w :=
  ⟨h.noMaster, h.table, h.inv⟩

omit [MessageApi M W] in
theorem Standing.undisturbed
    {w' : World M W}
    (h : Standing master subs w)
    (hidle : Undisturbed w w') :
    Standing master subs w' :=
  ⟨hidle.master.trans h.master, hidle.table.trans h.table, h.inv.mono hidle.nextPtr⟩

omit [MessageApi M W] in
theorem Standing.wellFormed
    (h : Standing master subs w) :
    WellFormedTable w :=
  ⟨subs, h.table, h.inv.objects, fun s hs => ⟨h.inv.nonempty s hs, h.inv.events s hs⟩⟩

omit [MessageApi M W] in
theorem steady_standing
    (master : Option Nat) (subs : List ClientSubscription) :
    Steady tabling (Standing master subs : World M W → Prop) where
  messages := fun _ _ _ hle h => ⟨h.master, h.table, h.inv.mono hle⟩
  called := fun _ _ _ h => ⟨h.master, h.table, h.inv⟩
  fault := fun _ _ _ h => ⟨h.master, h.table, h.inv⟩
  env := fun _ _ _ _ henv h => h.undisturbed henv
  atCall := fun _ _ _ h => h.wellFormed
  atUndef := fun _ _ => trivial

omit [MessageApi M W] in
theorem keeps_standing_clientSubscriptions :
    Program.Keeps tabling (Standing master subs : World M W → Prop) clientSubscriptions := by
  refine keeps_clientSubscriptions (steady_standing master subs).toCalling fun w f hf h => ?_
  rw [h.table] at hf
  cases hf

omit [MessageApi M W] in
theorem keeps_standing_lock :
    Program.Keeps tabling (Standing master subs : World M W → Prop) lock :=
  fun _ h => ⟨h.master, h.table, h.inv⟩

omit [MessageApi M W] in
theorem keeps_standing_unlock :
    Program.Keeps tabling (Standing master subs : World M W → Prop) unlock :=
  fun _ h => ⟨h.master, h.table, h.inv⟩

/-- Under a master handler a subscribe does not touch the table. -/
theorem sat_subscribeChecked_master
    (h : Standing (some m) subs w)
    (object : BoundedName maxObjectNameLength) (event : BoundedName maxEventNameLength)
    (callback : Nat) (payload : Option (MessageRef M)) (userData : Ptr) (timeout : Int) :
    Program.Sat tabling (subscribeChecked object event callback payload userData timeout)
      (fun _ => Standing (some m) subs) w := by
  have hsteady : Steady tabling (Standing (some m) subs : World M W → Prop) :=
    steady_standing (some m) subs
  have hmaster {w : World M W} (h : Standing (some m) subs w) :
      ¬ w.gMasterEventCallback.isNone = true := by
    rw [h.master]
    exact Bool.false_ne_true
  have hdispatch : Program.Keeps tabling (Standing (some m) subs : World M W → Prop)
      startEventDispatch :=
    keeps_startEventDispatch hsteady (fun w _ h => ⟨h.master, h.table, h.inv⟩)
      fun w h => ⟨h.master, h.table, h.inv⟩
  rw [subscribeChecked]
  refine Program.Sat.bind (keeps_standing_lock w h) fun _ w h => ?_
  refine Program.Sat.bind (hdispatch w h) fun _ w h => ?_
  rw [addUnlessMaster, bind_assoc, Program.sat_bind, Program.sat_getState, if_neg (hmaster h),
    pure_bind]
  refine Program.Sat.bind (keeps_standing_unlock w h) fun _ w h => ?_
  rw [if_neg Bool.false_ne_true]
  refine Program.Sat.bind (keeps_sendSubscriptionRequest hsteady _ _ _ _ _ w h) fun reply w h => ?_
  rw [Program.sat_ite]
  split
  · rw [rollbackUnlessMaster, bind_assoc, Program.sat_bind, Program.sat_getState,
      if_neg (hmaster h)]
    exact h
  · exact h

theorem sat_rbusSubscribeToEventInternal_master
    (h : Standing (some m) subs w)
    (objectName eventName : Option CString) (callback : Option Nat)
    (payload : Option (MessageRef M)) (userData : Ptr) (timeout : Int) :
    Program.Sat tabling
      (rbusSubscribeToEventInternal objectName eventName callback payload userData timeout)
      (fun _ => Standing (some m) subs) w := by
  unfold rbusSubscribeToEventInternal
  rw [Program.sat_bind, Program.sat_getState, Program.sat_ite]
  split
  · exact h
  · split
    · split
      · exact h
      · refine Program.Sat.bind
          (keeps_deref (steady_standing (some m) subs).toCalling eventName w h) fun event w h => ?_
        split
        · exact h
        · exact sat_subscribeChecked_master h _ _ _ _ _ _
    · exact h

/-- Under a master handler the calls of a client do not change the table. -/
theorem sat_clientOp_master
    (h : Standing (some m) subs w)
    (op : ClientOp M) :
    Program.Sat tabling op.run (fun _ => Standing (some m) subs) w := by
  cases op with
  | subscribe object event callback payload userData =>
      exact (sat_rbusSubscribeToEventInternal_master h _ _ _ _ _ _).bind fun _ _ h => h
  | subscribeTimeout object event callback payload userData timeout =>
      exact (sat_rbusSubscribeToEventInternal_master h _ _ _ _ _ _).bind fun _ _ h => h
  | unsubscribe object event payload =>
      have hmaster : ¬ w.gMasterEventCallback.isNone = true := by
        rw [h.master]
        exact Bool.false_ne_true
      show Program.Sat tabling (rbusUnsubscribeFromEvent _ _ _) _ w
      unfold rbusUnsubscribeFromEvent
      split
      · exact h
      · rw [Program.sat_ite]
        split
        · exact h
        · dsimp only
          rw [removeUnlessMaster, bind_assoc, Program.sat_bind, Program.sat_getState,
            if_neg hmaster, pure_bind]
          exact Program.Sat.bind
            (keeps_sendSubscriptionRequest (steady_standing (some m) subs) _ _ _ _ _ w h)
            fun _ _ h => h

/-- An arrival does not change the table. -/
theorem sat_masterEventCallback
    (h : Standing master subs w)
    (hdr : RtMessageHeader) (data : W) :
    Program.Sat tabling (masterEventCallback (M := M) hdr data) (fun _ => Standing master subs)
      w :=
  keeps_masterEventCallback (steady_standing master subs) keeps_standing_clientSubscriptions
    keeps_standing_lock keeps_standing_unlock hdr data w h

end Standing

section Sessions

variable {M W : Type}

/-- What happens in a client between opening a connection and closing it. -/
inductive SessionOp (M W : Type) where
  | registerMaster (callback : Option Nat) (userData : Ptr)
  | call (op : ClientOp M)
  | arrive (hdr : RtMessageHeader) (data : W)

/-- The functions of the library. -/
def SessionOp.run [MessageApi M W] : SessionOp M W → CoreM M W Unit
  | .registerMaster callback userData => do
      let _ ← rbusRegisterMasterEventHandler callback userData
      pure ()
  | .call op => do
      let _ ← op.run
      pure ()
  | .arrive hdr data => masterEventCallback hdr data

/-- A call that unsubscribes from an event. -/
def SessionOp.unsubscribesFrom (object event : CString) : SessionOp M W → Prop
  | .call (.unsubscribe o e _) => (o.getD e).val = object ∧ e.val = event
  | _ => False

variable [MessageApi M W]

/-- One step of a session: a call or an arrival of a kind, or something else. -/
inductive SessionStep (kind : SessionOp M W → Prop) : World M W → World M W → Prop
  | step {w w' : World M W} {op : SessionOp M W}
      (hkind : kind op)
      (hop : Program.Returns anyAnswer op.run w () w') :
      SessionStep kind w w'
  | idle {w w' : World M W}
      (hidle : Undisturbed w w') :
      SessionStep kind w w'

/-- The worlds of the sessions of a client. -/
def InSession (w : World M W) : Prop :=
  ∃ w₀ : World M W, w₀.gEventSubscriptionsForClient = .live [] ∧
    Relation.ReflTransGen (SessionStep fun _ => True) w₀ w

variable {w w' : World M W} {master : Option Nat} {subs : List ClientSubscription}

omit [MessageApi M W] in
/-- What a call does not unsubscribe stays in the table. -/
theorem ClientOp.Effect.keeps_entry
    {op : ClientOp M} {ret : RbusError} {object : CString} {e : ClientEvent}
    (heffect : op.Effect ret w w')
    (hkept : ¬ (SessionOp.call (W := W) op).unsubscribesFrom object e.key)
    (hentry : (object, e) ∈ tableEntries w.gEventSubscriptionsForClient.items) :
    (object, e) ∈ tableEntries w'.gEventSubscriptionsForClient.items := by
  have hsubscribes {o' e' : CString} {cb : Option Nat} {data : Ptr}
      (h : Subscribes o' e' cb data ret w w') :
      (object, e) ∈ tableEntries w'.gEventSubscriptionsForClient.items := by
    by_cases hfor : isEntryFor o' e' (object, e) = true
    · by_cases hret : ret = .success
      · obtain ⟨e₁, hone, hearlier⟩ := h.one hret
        have hmem := List.mem_filter.mpr ⟨hentry, hfor⟩
        rcases hearlier with hsame | ⟨hnone, -⟩
        · rw [hsame, ← hone] at hmem
          exact (List.mem_filter.mp hmem).1
        · rw [hnone] at hmem
          cases hmem
      · rwa [h.failed hret]
    · have hmem : (object, e) ∈ (tableEntries w.gEventSubscriptionsForClient.items).filter
          fun entry => !isEntryFor o' e' entry :=
        List.mem_filter.mpr ⟨hentry, by simpa using hfor⟩
      rw [← h.others] at hmem
      exact (List.mem_filter.mp hmem).1
  cases op with
  | subscribe | subscribeTimeout =>
      exact hsubscribes heffect
  | unsubscribe o' e' payload =>
      rw [ClientOp.Effect] at heffect
      rw [heffect]
      refine List.mem_filter.mpr ⟨hentry, ?_⟩
      rw [Bool.not_eq_true', isEntryFor, decide_eq_false_iff_not]
      exact fun hsame => hkept ⟨hsame.1.symm, hsame.2.symm⟩

/-- One step of a session: the table stays well formed, and an entry stays in it until it is
unsubscribed. -/
theorem SessionStep.keeps_entry
    {kind : SessionOp M W → Prop}
    (h : Standing master subs w)
    (hstep : SessionStep kind w w') :
    ∃ master' subs', Standing master' subs' w' ∧
      ∀ object e, (∀ op, kind op → ¬ op.unsubscribesFrom object e.key) →
        (object, e) ∈ tableEntries subs → (object, e) ∈ tableEntries subs' := by
  cases hstep with
  | idle hidle =>
      exact ⟨master, subs, h.undisturbed hidle, fun _ _ _ hentry => hentry⟩
  | @step op hkind hop =>
      cases op with
      | registerMaster callback userData =>
          have hsat : Program.Sat tabling
              (SessionOp.run (M := M) (W := W) (.registerMaster callback userData))
              (fun _ => Standing callback subs) w :=
            ⟨rfl, h.table, h.inv⟩
          have h' := Program.returns_of_sat (C := tabling) (fun _ _ _ _ henv => henv) hsat hop
          exact ⟨callback, subs, h', fun _ _ _ hentry => hentry⟩
      | arrive hdr data =>
          have h' := Program.returns_of_sat (C := tabling) (fun _ _ _ _ henv => henv)
            (sat_masterEventCallback h hdr data) hop
          exact ⟨master, subs, h', fun _ _ _ hentry => hentry⟩
      | call op =>
          cases master with
          | some m =>
              have hsat : Program.Sat tabling (SessionOp.call op).run
                  (fun _ => Standing (some m) subs) w :=
                (sat_clientOp_master h op).bind fun _ _ h => h
              have h' := Program.returns_of_sat (C := tabling) (fun _ _ _ _ henv => henv) hsat hop
              exact ⟨some m, subs, h', fun _ _ _ hentry => hentry⟩
          | none =>
              have hsat : Program.Sat tabling (SessionOp.call op).run
                  (fun _ w' => ∃ ret, op.Effect ret w w' ∧ ∃ subs', Tabled subs' w') w :=
                (sat_clientOp h.tabled op).bind fun ret _ h => ⟨ret, h⟩
              obtain ⟨ret, heffect, subs', h'⟩ :=
                Program.returns_of_sat (C := tabling) (fun _ _ _ _ henv => henv) hsat hop
              refine ⟨none, subs', h'.standing, fun object e hkept hentry => ?_⟩
              have hmem := heffect.keeps_entry (hkept _ hkind) (by rw [h.table]; exact hentry)
              rw [h'.table] at hmem
              exact hmem

/-- A run of a session. -/
theorem keeps_entry_of_steps
    {kind : SessionOp M W → Prop}
    (h : Standing master subs w)
    (hrun : Relation.ReflTransGen (SessionStep kind) w w') :
    ∃ master' subs', Standing master' subs' w' ∧
      ∀ object e, (∀ op, kind op → ¬ op.unsubscribesFrom object e.key) →
        (object, e) ∈ tableEntries subs → (object, e) ∈ tableEntries subs' := by
  induction hrun with
  | refl =>
      exact ⟨master, subs, h, fun _ _ _ hentry => hentry⟩
  | tail _ hstep ih =>
      obtain ⟨master₁, subs₁, h₁, hkept₁⟩ := ih
      obtain ⟨master₂, subs₂, h₂, hkept₂⟩ := hstep.keeps_entry h₁
      exact ⟨master₂, subs₂, h₂, fun object e hkind hentry =>
        hkept₂ object e hkind (hkept₁ object e hkind hentry)⟩

theorem InSession.standing
    (h : InSession w) :
    ∃ subs, Standing w.gMasterEventCallback subs w := by
  obtain ⟨w₀, htable, hrun⟩ := h
  obtain ⟨master, subs, hstanding, -⟩ :=
    keeps_entry_of_steps ⟨rfl, htable, tableInv_nil⟩ hrun
  exact ⟨subs, rfl, hstanding.table, hstanding.inv⟩

end Sessions

section Delivery

variable {M W : Type} [MessageApi M W]
variable {w : World M W} {subs : List ClientSubscription} {object event : CString}

end Delivery

section Run

/-- An event message for the event `e` of the object `o` without a body. -/
def sampleEventMessage : List UInt8 :=
  rbusMessageToBytes
    (withEvent sampleObjectName.val sampleEventName.val (rbusMessageInit : Bytes))

theorem exists_eventMessage_sample :
    ∃ region body, EventMessage (M := Bytes) sampleEventMessage region (.ofChars ['e']) 0 body := by
  have hcarries : Carries [] [] (rbusMessageInit : Bytes) := carries_of_sets rfl (by decide)
  obtain ⟨region, body, hevent, -⟩ :=
    hcarries.eventMessage (Or.inl rfl) (.ofChars ['o']) (.ofChars ['e']) (by decide)
  exact ⟨region, body, hevent⟩

end Run

end RbusCore
