import RbusCore.ClientTable
import RbusCore.EventDispatch

/-!
# Unsubscribing at the end

When the connection is closed, the client unsubscribes from everything in its table.  The loops of
`perform_cleanup` take the number of objects, and of events of an object, when they start, and
release the mutex for each request: event callbacks that unsubscribe meanwhile shrink what the
loops walk through.

**Results.**
* `sat_sendSubscriptionRequest`: the request, and the wait for its reply.
* `unsubscribes_of_nest`: what callbacks do to the table during a wait, to any depth.
* `cleanup_unsubscribes`: the loops stay in bounds and leave out nothing, as long as callbacks
  spare what they still walk through.
-/

namespace RbusCore

open CStrings Resumption

section Requests

variable {M W : Type} [MessageApi M W]

/-- The payload of a subscription request, behind a flag. -/
def payloadMessage (m : M) (payload : Option M) : Option M :=
  match payload with
  | some item => do
      let m ← MessageApi.setInt32 m 1
      MessageApi.setMessage m item
  | none => MessageApi.setInt32 m 0

/-- The method of a message, in its meta section. -/
def methodMessage (m : M) (method : CString) : Option M := do
  let m ← MessageApi.setString (MessageApi.beginMetaSectionWrite m) (some method)
  MessageApi.endMetaSectionWrite m

/-- The message of a subscription request. -/
def subscriptionMessage
    (event address : CString) (activate : Bool) (payload : Option M) : Option M := do
  let m ← MessageApi.setString MessageApi.init (some event)
  let m ← MessageApi.setString m (some address)
  let m ← payloadMessage m payload
  methodMessage m (subscriptionMethod activate)

/-- Faults of an index, or of a record that is gone. -/
def Fault.isIndex : Fault → Bool
  | .index | .subscription => true
  | _ => false

omit [MessageApi M W] in
/-- `w'` differs from `w` in its messages alone. -/
structure SameButMessages (w w' : World M W) : Prop where
  eq : w' = { w with nextPtr := w'.nextPtr, refCount := w'.refCount }
  allocated : w.nextPtr ≤ w'.nextPtr

omit [MessageApi M W] in
theorem SameButMessages.refl
    (w : World M W) :
    SameButMessages w w :=
  ⟨rfl, Nat.le_refl _⟩

omit [MessageApi M W] in
theorem SameButMessages.trans
    {w₁ w₂ w₃ : World M W}
    (h : SameButMessages w₁ w₂)
    (h' : SameButMessages w₂ w₃) :
    SameButMessages w₁ w₃ := by
  refine ⟨?_, h.allocated.trans h'.allocated⟩
  rw [h'.eq, h.eq]

variable {C : Contract (Call.Answer (M := M) (W := W)) (World M W)} {w : World M W}
variable (hfault : ∀ (w : World M W) f, f.isIndex = false →
  C.atUndef { w with log := w.log ++ [.fault f] })

include hfault

omit [MessageApi M W] in
theorem sat_written_building
    (m : MessageRef M) (r : Option M) :
    Program.Sat C (written m r) (fun m' w' => r = some m'.val ∧ w' = w) w := by
  cases r with
  | none =>
      exact hfault w .packer rfl
  | some v =>
      exact ⟨rfl, rfl⟩

theorem sat_setPayload_building
    (m : MessageRef M) (payload : Option (MessageRef M)) :
    Program.Sat C (setPayload m payload)
      (fun m' w' => payloadMessage m.val (payload.map MessageRef.val) = some m'.val ∧ w' = w)
      w := by
  cases payload with
  | none =>
      exact sat_written_building hfault m _
  | some item =>
      refine (sat_written_building hfault m _).bind ?_
      rintro m₁ _ ⟨hflag, rfl⟩
      refine (sat_written_building hfault m₁ _).mono ?_
      rintro m₂ _ ⟨hitem, rfl⟩
      refine ⟨?_, rfl⟩
      rw [Option.map_some, payloadMessage, hflag]
      exact hitem

theorem sat_setMessageMethod_building
    (m : MessageRef M) (method : CString) :
    Program.Sat C (setMessageMethod m (some method))
      (fun m' w' => methodMessage m.val method = some m'.val ∧ w' = w) w := by
  refine (sat_written_building hfault _ _).bind ?_
  rintro m₁ _ ⟨hname, rfl⟩
  refine (sat_written_building hfault _ _).mono ?_
  rintro m₂ _ ⟨hend, rfl⟩
  refine ⟨?_, rfl⟩
  rw [methodMessage]
  have hname : MessageApi.setString (MessageApi.beginMetaSectionWrite m.val) (some method) =
      some m₁.val := hname
  rw [hname]
  exact hend

omit [MessageApi M W] in
theorem sat_rbusMessageRelease_building
    (m : MessageRef M) :
    Program.Sat C (rbusMessageRelease m) (fun _ => SameButMessages w) w := by
  rw [rbusMessageRelease, Program.sat_bind, Program.sat_getState, Program.sat_ite]
  split
  · exact hfault w .message rfl
  · exact ⟨rfl, Nat.le_refl _⟩

omit [MessageApi M W] in
theorem sat_checkResponse_building
    (name : Option (List UInt8)) :
    Program.Sat C (checkResponse name) (fun _ => SameButMessages w) w := by
  cases name with
  | none =>
      exact .refl w
  | some region =>
      have hcompare : Program.Sat C (strncmpAt maxMethodNameLength methodResponse region)
          (fun _ w' => w' = w) w := by
        unfold strncmpAt
        split
        · rfl
        · exact hfault w .string rfl
      refine hcompare.bind ?_
      rintro order _ rfl
      rw [Program.sat_ite]
      split <;> exact .refl _

theorem sat_receiveReply_building
    (out : MessageRef M) (reply : Except RtError (MessageRef M)) :
    Program.Sat C (receiveReply out reply) (fun _ => SameButMessages w) w := by
  cases reply with
  | error err =>
      exact (sat_rbusMessageRelease_building hfault out).bind fun _ _ h => h
  | ok res =>
      refine (sat_checkResponse_building hfault _).bind fun ret w₁ h₁ => ?_
      refine (sat_rbusMessageRelease_building hfault out).bind fun _ w₂ h₂ => ?_
      rw [Program.sat_ite]
      split
      · refine (sat_rbusMessageRelease_building hfault res).bind fun _ w₃ h₃ => ?_
        exact (h₁.trans h₂).trans h₃
      · exact h₁.trans h₂

/-- One remote call: the wait for its reply, with messages made and freed around it. -/
theorem sat_rbusInvokeRemoteMethod_building
    {c : Connection} {object : CString}
    (hcon : w.gConnection = some c)
    (hshort : object.strlen < maxObjectNameLength)
    (hcall : ∀ e w, e.blocking = true → C.atCall e w)
    (request : MessageRef M) (method : CString) (timeout : Int) :
    Program.Sat C (rbusInvokeRemoteMethod (some object) (some method) (some request) timeout)
      (fun _ w' => ∃ m a w₁,
        methodMessage request.val method = some m ∧
        C.env (.sendBinaryRequest (some c.ptr) (MessageApi.toBytes m) object timeout)
          { w with log := w.log ++
            [.call (.sendBinaryRequest (some c.ptr) (MessageApi.toBytes m) object timeout)] }
          a w₁ ∧
        SameButMessages w₁ w') w := by
  have hsome : ¬w.gConnection.isNone = true := by
    rw [hcon]
    exact Bool.false_ne_true
  rw [rbusInvokeRemoteMethod, Program.sat_bind, Program.sat_getState, if_neg hsome,
    Program.sat_bind, sat_deref_some, if_neg (Nat.not_le_of_lt hshort), Program.sat_bind,
    messageOrEmpty, Program.sat_pure]
  refine (sat_setMessageMethod_building hfault request method).bind ?_
  rintro m w ⟨hmethod, rfl⟩
  have hptr : w.gConnection.map Connection.ptr = some c.ptr := by
    rw [hcon]
    rfl
  rw [Program.sat_bind, rbusSendRequest, Program.sat_bind, sat_gConnectionPtr, hptr,
    Program.sat_bind, sat_call]
  refine ⟨hcall _ _ rfl, fun a w₁ henv => ?_⟩
  have hreply (reply : Except RtError (MessageRef M)) {w₂ : World M W}
      (h : SameButMessages w₁ w₂) :
      Program.Sat C (receiveReply m reply)
        (fun _ w' => ∃ m a w₁,
          methodMessage request.val method = some m ∧
          C.env (.sendBinaryRequest (some c.ptr) (MessageApi.toBytes m) object timeout)
            { w with log := w.log ++
              [.call (.sendBinaryRequest (some c.ptr) (MessageApi.toBytes m) object timeout)] }
            a w₁ ∧
          SameButMessages w₁ w') w₂ :=
    (sat_receiveReply_building hfault m reply).mono fun _ _ h' =>
      ⟨m.val, a, w₁, hmethod, henv, h.trans h'⟩
  cases a with
  | ok data =>
      exact hreply _ ⟨rfl, Nat.le_succ _⟩
  | error err =>
      exact hreply _ (.refl w₁)

/-- The request, the wait for its reply, and what is made of it: before and after the wait only
messages change. -/
theorem sat_sendSubscriptionRequest
    {c : Connection} {object : CString}
    (hcon : w.gConnection = some c)
    (hshort : object.strlen < maxObjectNameLength)
    (hcall : ∀ e w, e.blocking = true → C.atCall e w)
    (event : CString) (activate : Bool) (payload : Option (MessageRef M)) (timeoutMs : Int) :
    Program.Sat C (sendSubscriptionRequest object event activate payload timeoutMs)
      (fun _ w' => ∃ m timeout w₁ a w₂,
        subscriptionMessage event c.returnAddress.val activate (payload.map MessageRef.val) =
          some m ∧
        SameButMessages w w₁ ∧
        C.env (.sendBinaryRequest (some c.ptr) (MessageApi.toBytes m) object timeout)
          { w₁ with log := w₁.log ++
            [.call (.sendBinaryRequest (some c.ptr) (MessageApi.toBytes m) object timeout)] }
          a w₂ ∧
        SameButMessages w₂ w') w := by
  rw [RbusCore.sendSubscriptionRequest, Program.sat_bind, sat_newMessage]
  refine (sat_written_building hfault _ _).bind ?_
  rintro m₁ w₁ ⟨hevent, hw₁⟩
  have hmade : SameButMessages w w₁ := by
    rw [hw₁]
    exact ⟨rfl, Nat.le_succ _⟩
  have hcon₁ : w₁.gConnection = some c := by
    rw [hw₁, hcon]
  have haddress : rtConnectionGetReturnAddress w₁ = .done c.returnAddress.val w₁ := by
    rw [rtConnectionGetReturnAddress, Program.bind_of_done (x := Program.getState) rfl, hcon₁]
    rfl
  rw [Program.sat_bind, Program.sat_of_done haddress]
  refine (sat_written_building hfault _ _).bind ?_
  rintro m₂ w₁ ⟨hreply, rfl⟩
  refine (sat_setPayload_building hfault m₂ payload).bind ?_
  rintro m₃ w₁ ⟨hpayload, rfl⟩
  refine (sat_rbusInvokeRemoteMethod_building hfault hcon₁ hshort hcall m₃ _ _).bind ?_
  rintro reply w₂ ⟨m, a, w₃, hmethod, henv, hfreed⟩
  have hmessage : subscriptionMessage event c.returnAddress.val activate
      (payload.map MessageRef.val) = some m := by
    simp only [subscriptionMessage, hevent, hreply, hpayload, Option.bind_eq_bind,
      Option.bind_some]
    exact hmethod
  have hend {w' : World M W} (h : SameButMessages w₂ w') :
      ∃ m timeout w₁ a w₂,
        subscriptionMessage event c.returnAddress.val activate (payload.map MessageRef.val) =
          some m ∧
        SameButMessages w w₁ ∧
        C.env (.sendBinaryRequest (some c.ptr) (MessageApi.toBytes m) object timeout)
          { w₁ with log := w₁.log ++
            [.call (.sendBinaryRequest (some c.ptr) (MessageApi.toBytes m) object timeout)] }
          a w₂ ∧
        SameButMessages w₂ w' :=
    ⟨m, _, w₁, a, w₃, hmessage, hmade, henv, hfreed.trans h⟩
  rw [Program.sat_ite, Program.sat_ite]
  split
  · have hderef : Program.Sat C (deref reply.2.join) (fun _ w' => w' = w₂) w₂ := by
      cases reply.2.join with
      | none =>
          exact hfault w₂ .nullPointer rfl
      | some response =>
          rfl
    refine hderef.bind ?_
    rintro response _ rfl
    exact (sat_rbusMessageRelease_building hfault response).bind fun _ _ h => hend h
  · split
    · exact hend (.refl w₂)
    · exact hend (.refl w₂)

end Requests

section Callbacks

variable {M W : Type} [MessageApi M W]

/-- A request to unsubscribe from an event of an object has been sent on the connection. -/
def Requested (c : Connection) (log : List (Event M W)) (object event : CString) : Prop :=
  ∃ (payload : Option M) (m : M) (timeout : Int),
    subscriptionMessage event c.returnAddress.val false payload = some m ∧
    .call (.sendBinaryRequest (some c.ptr) (MessageApi.toBytes m) object timeout) ∈ log

/-- A table after callbacks have unsubscribed: no object is new, and what is gone has been
requested. -/
structure Remaining
    (c : Connection) (subs subs' : List ClientSubscription) (w : World M W) : Prop where
  connection : w.gConnection = some c
  table : w.gEventSubscriptionsForClient = .live subs'
  inv : TableInv w.nextPtr subs'
  keys : (subs'.map ClientSubscription.key).Sublist (subs.map ClientSubscription.key)
  entries : ∀ entry ∈ tableEntries subs,
    entry ∈ tableEntries subs' ∨ Requested c w.log entry.1 entry.2.key

/-- What callbacks that unsubscribe do, as far as it matters here. -/
structure Unsubscribes (w w' : World M W) : Prop where
  connection : w'.gConnection = w.gConnection
  log : w.log <+: w'.log
  table : ∀ c subs, w.gConnection = some c → w.gEventSubscriptionsForClient = .live subs →
    TableInv w.nextPtr subs → ∃ subs', Remaining c subs subs' w'

variable {c : Connection} {subs subs' : List ClientSubscription} {w w' : World M W}

theorem Requested.mono
    {log log' : List (Event M W)} {object event : CString}
    (h : Requested c log object event)
    (hle : log <+: log') :
    Requested c log' object event := by
  obtain ⟨payload, m, timeout, hmessage, hsent⟩ := h
  exact ⟨payload, m, timeout, hmessage, hle.subset hsent⟩

theorem Remaining.refl
    (hconnection : w.gConnection = some c)
    (htable : w.gEventSubscriptionsForClient = .live subs)
    (hinv : TableInv w.nextPtr subs) :
    Remaining c subs subs w where
  connection := hconnection
  table := htable
  inv := hinv
  keys := .refl _
  entries := fun _ hentry => Or.inl hentry

theorem Remaining.trans
    {subs₁ subs₂ subs₃ : List ClientSubscription}
    (h : Remaining c subs₁ subs₂ w)
    (h' : Remaining c subs₂ subs₃ w')
    (hlog : w.log <+: w'.log) :
    Remaining c subs₁ subs₃ w' where
  connection := h'.connection
  table := h'.table
  inv := h'.inv
  keys := h'.keys.trans h.keys
  entries := by
    intro entry hentry
    rcases h.entries entry hentry with hleft | hrequested
    · exact h'.entries entry hleft
    · exact Or.inr (hrequested.mono hlog)

/-- Changes that neither the table nor the requests depend on. -/
theorem Remaining.same
    (h : Remaining c subs subs' w)
    (hconnection : w'.gConnection = w.gConnection)
    (htable : w'.gEventSubscriptionsForClient = w.gEventSubscriptionsForClient)
    (hallocated : w.nextPtr ≤ w'.nextPtr)
    (hlog : w.log <+: w'.log) :
    Remaining c subs subs' w' where
  connection := hconnection.trans h.connection
  table := htable.trans h.table
  inv := h.inv.mono hallocated
  keys := h.keys
  entries := fun entry hentry => (h.entries entry hentry).imp_right fun h => h.mono hlog

/-- More is unsubscribed from. -/
theorem Remaining.unsubscribes
    (h : Remaining c subs subs' w)
    (hunsubscribes : Unsubscribes w w') :
    ∃ subs₂, Remaining c subs subs₂ w' ∧
      (subs₂.map ClientSubscription.key).Sublist (subs'.map ClientSubscription.key) ∧
      ∀ entry ∈ tableEntries subs', entry ∈ tableEntries subs₂ ∨
        Requested c w'.log entry.1 entry.2.key := by
  obtain ⟨subs₂, h₂⟩ := hunsubscribes.table c subs' h.connection h.table h.inv
  exact ⟨subs₂, h.trans h₂ hunsubscribes.log, h₂.keys, h₂.entries⟩

theorem Unsubscribes.refl
    (w : World M W) :
    Unsubscribes w w where
  connection := rfl
  log := List.prefix_refl _
  table := fun _ subs hconnection htable hinv => ⟨subs, .refl hconnection htable hinv⟩

theorem Unsubscribes.trans
    {w₁ w₂ w₃ : World M W}
    (h : Unsubscribes w₁ w₂)
    (h' : Unsubscribes w₂ w₃) :
    Unsubscribes w₁ w₃ where
  connection := h'.connection.trans h.connection
  log := h.log.trans h'.log
  table := by
    intro c subs hconnection htable hinv
    obtain ⟨subs₂, h₂⟩ := h.table c subs hconnection htable hinv
    obtain ⟨subs₃, h₃, -⟩ := h₂.unsubscribes h'
    exact ⟨subs₃, h₃⟩

/-- Only messages change. -/
theorem SameButMessages.unsubscribes
    (h : SameButMessages w w') :
    Unsubscribes w w' where
  connection := by rw [h.eq]
  log := by rw [h.eq]
  table := by
    intro c subs hconnection htable hinv
    refine ⟨subs, .refl ?_ ?_ (hinv.mono h.allocated)⟩
    · rw [h.eq, hconnection]
    · rw [h.eq, htable]

omit [MessageApi M W] in
/-- The objects after the removal of an event are not new. -/
theorem keys_removeEvent
    (object event : CString) (subs : List ClientSubscription) :
    ((removeEvent object event subs).map ClientSubscription.key).Sublist
      (subs.map ClientSubscription.key) := by
  have hfilter := (List.filter_sublist (p := fun s : ClientSubscription => s.events ≠ [])
    (l := withoutEvent object event subs)).map ClientSubscription.key
  rwa [withoutEvent, KeyedList.map_key_modify (ClientSubscription.withEvents_key _)] at hfilter

/-- A call of `rbus_unsubscribeFromEvent` in an event callback. -/
structure Unsubscription (M : Type) where
  objectName : Option CString
  eventName : Option CString
  payload : Option (MessageRef M)

def Unsubscription.run (u : Unsubscription M) : CoreM M W Unit :=
  ignoreResult (rbusUnsubscribeFromEvent u.objectName u.eventName u.payload)

/-- Any answers, while event callbacks that run meanwhile unsubscribe from events, to depth `n`. -/
abbrev unsubscribing (n : Nat) : (e : Call M W) → World M W → e.Answer → World M W → Prop :=
  Nest Unsubscription.run (fun e => e.blocking = true) n

/-- Nothing is asked where behaviour is undefined. -/
def relying (R : (e : Call M W) → World M W → e.Answer → World M W → Prop) :
    Contract (Call.Answer (M := M) (W := W)) (World M W) where
  env := R
  atCall _ _ := True
  atUndef _ := True

variable {R : (e : Call M W) → World M W → e.Answer → World M W → Prop}

omit [MessageApi M W] in
/-- Where the connection is, and that nothing in the history is lost, does not depend on the
table. -/
theorem locking_history
    (hR : ∀ e w a w', R e w a w' → w'.gConnection = w.gConnection ∧ w.log <+: w'.log)
    (w : World M W) :
    Locking (relying R) fun _ w' => w'.gConnection = w.gConnection ∧ w.log <+: w'.log where
  steady _ :=
    { messages := fun _ _ _ _ h => h
      called := fun _ _ _ h => ⟨h.1, h.2.trans (List.prefix_append _ _)⟩
      fault := fun _ _ _ h => ⟨h.1, h.2.trans (List.prefix_append _ _)⟩
      env := fun _ _ _ _ henv h => ⟨(hR _ _ _ _ henv).1.trans h.1, h.2.trans (hR _ _ _ _ henv).2⟩
      atCall := fun _ _ _ _ => trivial
      atUndef := fun _ _ => trivial }
  locked := fun _ h => ⟨h.1, h.2.trans (List.prefix_append _ _)⟩
  unlocked := fun _ h => ⟨h.1, h.2.trans (List.prefix_append _ _)⟩
  unusable := fun _ _ _ _ h => ⟨h.1, h.2.trans (List.prefix_append _ _)⟩
  subscriptions := fun _ _ h => ⟨h.1, h.2.trans (List.prefix_append _ _)⟩

omit [MessageApi M W] in
/-- An event is removed from the table, unless there is a master handler. -/
theorem sat_removeUnlessMaster_remaining
    (hR : ∀ e w a w', R e w a w' → w'.gConnection = w.gConnection ∧ w.log <+: w'.log)
    (htable : w.gEventSubscriptionsForClient = .live subs)
    (hinv : TableInv w.nextPtr subs)
    (object event : CString) :
    Program.Sat (relying R) (removeUnlessMaster object event)
      (fun _ w' => (w'.gConnection = w.gConnection ∧ w.log <+: w'.log) ∧
        ∃ subs', w'.gEventSubscriptionsForClient = .live subs' ∧ TableInv w'.nextPtr subs' ∧
          (subs'.map ClientSubscription.key).Sublist (subs.map ClientSubscription.key) ∧
          ∀ entry ∈ tableEntries subs, entry ∈ tableEntries subs' ∨
            entry.1 = object ∧ entry.2.key = event) w := by
  refine Program.Sat.and (keeps_removeUnlessMaster (locking_history hR w) object event w
    ⟨rfl, List.prefix_refl _⟩) ?_
  cases hmaster : w.gMasterEventCallback with
  | none =>
      refine (sat_removeUnlessMaster ⟨hmaster, htable, hinv⟩ object event).mono fun _ w' h => ?_
      refine ⟨_, h.table, h.inv, keys_removeEvent object event subs, fun entry hentry => ?_⟩
      rw [hinv.entries_removeEvent, List.mem_filter]
      by_cases hsame : entry.1 = object ∧ entry.2.key = event
      · exact Or.inr hsame
      · refine Or.inl ⟨hentry, ?_⟩
        rw [isEntryFor, decide_eq_false hsame]
        rfl
  | some master =>
      rw [removeUnlessMaster, Program.sat_bind, Program.sat_getState, hmaster]
      exact ⟨subs, htable, hinv, .refl _, fun _ hentry => Or.inl hentry⟩

/-- What one call of `rbus_unsubscribeFromEvent` does to the table. -/
theorem sat_rbusUnsubscribeFromEvent_remaining
    (hR : ∀ e w a w', R e w a w' → Unsubscribes w w')
    (hcon : w.gConnection = some c)
    (htable : w.gEventSubscriptionsForClient = .live subs)
    (hinv : TableInv w.nextPtr subs)
    (objectName eventName : Option CString) (payload : Option (MessageRef M)) :
    Program.Sat (relying R) (rbusUnsubscribeFromEvent objectName eventName payload)
      (fun _ w' => ∃ subs', Remaining c subs subs' w') w := by
  unfold rbusUnsubscribeFromEvent
  split
  case h_1 =>
    exact ⟨subs, .refl hcon htable hinv⟩
  case h_2 object _ =>
    rw [Program.sat_ite]
    split
    case isTrue =>
      exact ⟨subs, .refl hcon htable hinv⟩
    case isFalse hshort =>
      refine (sat_removeUnlessMaster_remaining (fun e w a w' h =>
        ⟨(hR e w a w' h).connection, (hR e w a w' h).log⟩) htable hinv _ _).bind ?_
      rintro _ w₁ ⟨⟨hconnection, -⟩, subs₁, htable₁, hinv₁, hkeys, hentries⟩
      refine (sat_sendSubscriptionRequest (fun _ _ _ => trivial) (hconnection.trans hcon)
        (Nat.lt_of_not_le hshort) (fun _ _ _ => trivial) _ false payload 0).bind ?_
      rintro reply w' ⟨m, timeout, w₂, a, w₃, hmessage, hmade, henv, hfreed⟩
      -- once the request is sent, what has been removed has been requested
      have hsent : Remaining c subs subs₁ { w₂ with log := w₂.log ++
          [.call (.sendBinaryRequest (some c.ptr) (MessageApi.toBytes m) object timeout)] } := by
        have hsame := hmade.eq
        refine ⟨?_, ?_, hinv₁.mono hmade.allocated, hkeys, fun entry hentry => ?_⟩
        · rw [hsame]
          exact hconnection.trans hcon
        · rw [hsame]
          exact htable₁
        · refine (hentries entry hentry).imp_right ?_
          rintro ⟨hobject, hevent⟩
          rw [hobject, hevent]
          exact ⟨_, m, timeout, hmessage, List.mem_append_right _ (List.mem_singleton_self _)⟩
      obtain ⟨subs₃, h₃, -⟩ := hsent.unsubscribes (hR _ _ _ _ henv)
      obtain ⟨subs₄, h₄, -⟩ := h₃.unsubscribes hfreed.unsubscribes
      exact ⟨subs₄, h₄⟩

/-- What callbacks do during a call, to any depth. -/
theorem unsubscribes_of_nest
    (n : Nat) (e : Call M W) (w : World M W) (a : e.Answer) (w' : World M W)
    (h : unsubscribing n e w a w') :
    Unsubscribes w w' := by
  refine nest_guarantee Unsubscription.run _ Unsubscribes .refl (fun _ _ _ => .trans) ?_ n e w a w' h
  intro R hR u w w' hreturns
  have hends {Q : World M W → Prop}
      (hsat : Program.Sat (relying R)
        (rbusUnsubscribeFromEvent u.objectName u.eventName u.payload) (fun _ => Q) w) : Q w' :=
    Program.returns_of_sat (C := relying R) (Q := fun _ => Q) (fun _ _ _ _ henv => henv)
      (hsat.bind (f := fun _ => pure ()) (Q := fun _ => Q) fun _ _ h => h) hreturns
  have hhistory := hends (keeps_rbusUnsubscribeFromEvent (locking_history (fun e w a w' h =>
    ⟨(hR e w a w' h).connection, (hR e w a w' h).log⟩) w) _ _ _ w ⟨rfl, List.prefix_refl _⟩)
  refine ⟨hhistory.1, hhistory.2, fun c subs hcon htable hinv => ?_⟩
  exact hends (sat_rbusUnsubscribeFromEvent_remaining hR hcon htable hinv _ _ _)

end Callbacks

section Loops

variable {M W : Type} [MessageApi M W]

/-- The bytes of the request that `perform_cleanup` sends for an event. -/
def Cancels (w : World M W) (data : W) (event : CString) : Prop :=
  ∃ c : Connection, ∃ m : M, w.gConnection = some c ∧
    subscriptionMessage event c.returnAddress.val false none = some m ∧
    data = MessageApi.toBytes m

/-- Callbacks spare what is still walked through: during a request that is not the last one for an
object, its events, and during the requests for an object that is not the last one, the number of
objects. -/
def Considerate (e : Call M W) (w w' : World M W) : Prop :=
  match e with
  | .sendBinaryRequest _ data topic _ =>
      (∀ s ∈ w.gEventSubscriptionsForClient.items, s.key = topic →
        (∃ event ∈ s.events.dropLast, Cancels w data event.key) →
        s ∈ w'.gEventSubscriptionsForClient.items) ∧
      ((∀ s ∈ w.gEventSubscriptionsForClient.items.getLast?, s.key ≠ topic) →
        w'.gEventSubscriptionsForClient.items.length =
          w.gEventSubscriptionsForClient.items.length)
  | _ => True

/-- A request has been sent for every entry. -/
def AllRequested (c : Connection) (subs : List ClientSubscription) (log : List (Event M W)) :
    Prop :=
  ∀ entry ∈ tableEntries subs, Requested c log entry.1 entry.2.key

/-- What is asked of the loops: every index is one of the table, and of the events of an object
that is there; and before the connection is destroyed everything has been requested. -/
def cleaning (c : Connection) (subs : List ClientSubscription) :
    Contract (Call.Answer (M := M) (W := W)) (World M W) where
  env e w _ w' := Unsubscribes w w' ∧ Considerate e w w'
  atCall e w := (∃ con, e = .connectionDestroy con) → AllRequested c subs w.log
  atUndef w := ∀ f, w.log.getLast? = some (.fault f) → f.isIndex = false

variable {c : Connection} {subs : List ClientSubscription}

theorem fault_cleaning
    (w : World M W) (f : Fault)
    (hf : f.isIndex = false) :
    (cleaning c subs).atUndef { w with log := w.log ++ [.fault f] } := by
  intro f' hlast
  rw [List.getLast?_concat] at hlast
  cases hlast
  exact hf

/-- As long as no object has gone, the last one is the one that was. -/
theorem Remaining.last_key_ne
    {subs' : List ClientSubscription} {w : World M W} {i : Nat} {s : ClientSubscription}
    (h : Remaining c subs subs' w)
    (hlength : subs'.length = subs.length)
    (hs : subs[i]? = some s)
    (hi : i + 1 < subs.length) :
    ∀ last ∈ subs'.getLast?, last.key ≠ s.key := by
  intro last hlast hkey
  have hkeys : subs'.map ClientSubscription.key = subs.map ClientSubscription.key :=
    h.keys.eq_of_length (by rw [List.length_map, List.length_map, hlength])
  have hnodup : (subs.map ClientSubscription.key).Nodup := by
    rw [← hkeys]
    exact h.inv.objects
  have hhere : (subs.map ClientSubscription.key)[i]? = some s.key := by
    rw [List.getElem?_map, hs]
    rfl
  have hend : (subs.map ClientSubscription.key)[subs.length - 1]? = some s.key := by
    rw [← hkeys, List.getElem?_map, ← hlength, ← List.getLast?_eq_getElem?, hlast, ← hkey]
    rfl
  have hlt : i < (subs.map ClientSubscription.key).length := by
    rw [List.length_map]
    omega
  have hsame := (List.getElem?_inj hlt hnodup).mp (hhere.trans hend.symm)
  omega

/-- Between two objects: those before the index have been dealt with. -/
structure Walked
    (c : Connection) (subs : List ClientSubscription) (i : Nat) (subs' : List ClientSubscription)
    (w : World M W) : Prop where
  remaining : Remaining c subs subs' w
  objects : i < subs.length → subs'.length = subs.length
  before : ∀ s ∈ subs.take i, ∀ e ∈ s.events, Requested c w.log s.key e.key

/-- Between two events of an object, `sub` when it was reached. -/
structure WalkedEvents
    (c : Connection) (subs : List ClientSubscription) (i : Nat) (sub : ClientSubscription)
    (i2 : Nat) (subs' : List ClientSubscription) (w : World M W) : Prop where
  remaining : Remaining c subs subs' w
  objects : i + 1 < subs.length → subs'.length = subs.length
  present : i2 < sub.events.length → sub ∈ subs'
  before : ∀ s ∈ subs.take i, ∀ e ∈ s.events, Requested c w.log s.key e.key
  current : ∀ s, subs[i]? = some s → s.key = sub.key ∧
    ∀ e ∈ s.events, e ∈ sub.events ∨ Requested c w.log sub.key e.key
  events : ∀ e ∈ sub.events.take i2, Requested c w.log sub.key e.key

/-- One request: its event and its object are there, and the next ones stay. -/
theorem sat_cancelEvent
    {i i2 : Nat} {sub s : ClientSubscription} {subs' : List ClientSubscription} {w : World M W}
    (hs : subs[i]? = some s)
    (hi2 : i2 < sub.events.length)
    (h : WalkedEvents c subs i sub i2 subs' w) :
    Program.Sat (cleaning c subs) (cancelEvent sub.ptr i2)
      (fun _ w' => ∃ subs₂, WalkedEvents c subs i sub (i2 + 1) subs₂ w') w := by
  have hpresent := h.present hi2
  have hfound : derefSubscription sub.ptr w = .done sub w := by
    refine derefSubscription_of_find ?_
    rw [h.remaining.table]
    exact h.remaining.inv.addresses.lookup_of_mem hpresent
  have hevent : sub.events[i2]? = some sub.events[i2] := List.getElem?_eq_getElem hi2
  rw [cancelEvent, Program.sat_bind, Program.sat_of_done hfound, Program.sat_bind, rtVectorAt,
    hevent, Program.sat_pure]
  refine (sat_sendSubscriptionRequest fault_cleaning h.remaining.connection sub.object.property
    (fun e w he => ?_) sub.events[i2].name.val false none 0).bind ?_
  · rintro ⟨con, rfl⟩
    cases he
  rintro reply w' ⟨m, timeout, w₁, a, w₂, hmessage, hmade, ⟨hunsubscribes, hconsiderate⟩, hfreed⟩
  obtain ⟨hspared, hcounted⟩ := hconsiderate
  have hsent : Remaining c subs subs' { w₁ with log := w₁.log ++
      [.call (.sendBinaryRequest (some c.ptr) (MessageApi.toBytes m) sub.key timeout)] } := by
    have hsame := hmade.eq
    refine h.remaining.same ?_ ?_ hmade.allocated ?_
    · rw [hsame]
    · rw [hsame]
    · rw [hsame]
      exact List.prefix_append _ _
  have hlog : w.log <+: w'.log := by
    rw [hfreed.eq]
    refine List.IsPrefix.trans ?_ hunsubscribes.log
    rw [hmade.eq]
    exact List.prefix_append _ _
  have hrequested : Requested c w'.log sub.key sub.events[i2].key := by
    refine ⟨none, m, timeout, hmessage, ?_⟩
    rw [hfreed.eq]
    exact hunsubscribes.log.subset (List.mem_append_right _ (List.mem_singleton_self _))
  obtain ⟨subs₂, h₂, -, -⟩ := hsent.unsubscribes hunsubscribes
  have hend : Remaining c subs subs₂ w' := by
    refine h₂.same ?_ ?_ hfreed.allocated ?_
    · rw [hfreed.eq]
    · rw [hfreed.eq]
    · rw [hfreed.eq]
  have hbefore : w₁.gEventSubscriptionsForClient.items = subs' := by
    have htable := hsent.table
    rw [htable]
    rfl
  have hafter : w₂.gEventSubscriptionsForClient.items = subs₂ := by
    rw [h₂.table]
    rfl
  dsimp only at hspared hcounted
  rw [hbefore, hafter] at hspared hcounted
  refine ⟨subs₂, hend, fun hi => ?_, fun hnext => ?_, ?_, ?_, ?_⟩
  · have hlast := h.remaining.last_key_ne (h.objects hi) hs hi
    rw [(h.current s hs).1] at hlast
    exact (hcounted hlast).trans (h.objects hi)
  · refine hspared sub hpresent rfl ⟨sub.events[i2], ?_, c, m, hsent.connection, hmessage, rfl⟩
    refine List.mem_iff_getElem.mpr ⟨i2, ?_, List.getElem_dropLast ..⟩
    rw [List.length_dropLast]
    omega
  · exact fun s hs e he => (h.before s hs e he).mono hlog
  · intro s hs
    obtain ⟨hkey, hevents⟩ := h.current s hs
    exact ⟨hkey, fun e he => (hevents e he).imp_right fun hr => hr.mono hlog⟩
  · intro e he
    rw [List.take_succ_eq_append_getElem hi2, List.mem_append, List.mem_singleton] at he
    rcases he with hold | rfl
    · exact (h.events e hold).mono hlog
    · exact hrequested

/-- The requests for one object. -/
theorem sat_cancelSubscription
    {i : Nat} {subs' : List ClientSubscription} {w : World M W}
    (hi : i < subs.length)
    (h : Walked c subs i subs' w) :
    Program.Sat (cleaning c subs) (cancelSubscription i)
      (fun _ w' => ∃ subs₂, Walked c subs (i + 1) subs₂ w') w := by
  have hlength := h.objects hi
  have hi' : i < subs'.length := by
    rw [hlength]
    exact hi
  have hread : clientSubscriptions w = .done subs' w := by
    rw [clientSubscriptions, Program.bind_of_done (x := Program.getState) rfl, h.remaining.table]
    rfl
  have hs : subs[i]? = some subs[i] := List.getElem?_eq_getElem hi
  have hkey : subs[i].key = subs'[i].key := by
    have hkeys : subs'.map ClientSubscription.key = subs.map ClientSubscription.key :=
      h.remaining.keys.eq_of_length (by rw [List.length_map, List.length_map, hlength])
    have hhere := congrArg (fun keys => keys[i]?) hkeys
    simpa [hi, hi'] using hhere.symm
  rw [cancelSubscription, Program.sat_bind, Program.sat_of_done hread, Program.sat_bind, rtVectorAt,
    List.getElem?_eq_getElem hi', Program.sat_pure]
  refine Program.sat_forLoop
    (fun i2 w => ∃ subs₂, WalkedEvents c subs i subs'[i] i2 subs₂ w) ?_ ?_ ?_
  · rintro i2 w hi2 ⟨subs₂, h₂⟩
    exact sat_cancelEvent hs (by omega) h₂
  · rintro w ⟨subs₂, h₂⟩
    refine ⟨subs₂, h₂.remaining, h₂.objects, fun s hs' e he => ?_⟩
    rw [List.take_succ_eq_append_getElem hi, List.mem_append, List.mem_singleton] at hs'
    rcases hs' with hold | rfl
    · exact h₂.before s hold e he
    · rw [hkey]
      refine ((h₂.current _ hs).2 e he).elim (fun hmem => h₂.events e ?_) id
      rwa [Nat.zero_add, List.take_length]
  · refine ⟨subs', h.remaining, fun _ => hlength, fun _ => List.getElem_mem hi', h.before, ?_, ?_⟩
    · intro s hs'
      obtain rfl : subs[i] = s := Option.some.inj (hs.symm.trans hs')
      refine ⟨hkey, fun e he => ?_⟩
      rw [← hkey]
      have hentry : (subs[i].key, e) ∈ tableEntries subs :=
        List.mem_flatMap.mpr ⟨_, List.getElem_mem hi, List.mem_map_of_mem he⟩
      refine (h.remaining.entries _ hentry).imp_left fun hleft => ?_
      obtain ⟨t, ht, hmem⟩ := List.mem_flatMap.mp hleft
      obtain ⟨e', he', heq⟩ := List.mem_map.mp hmem
      obtain ⟨hkey', rfl⟩ := Prod.mk.inj heq
      have hfound := h.remaining.inv.objects.lookup_of_mem ht
      rw [hkey'.trans hkey, h.remaining.inv.objects.lookup_of_mem (List.getElem_mem hi')] at hfound
      rw [Option.some.inj hfound]
      exact he'
    · intro e he
      cases he

/-- The loops, from the table as it is when they start. -/
theorem sat_cancelSubscriptions
    {w : World M W}
    (h : Remaining c subs subs w) :
    Program.Sat (cleaning c subs) cancelSubscriptions
      (fun _ w' => (∃ subs', Remaining c subs subs' w') ∧ AllRequested c subs w'.log) w := by
  have hread : clientSubscriptions w = .done subs w := by
    rw [clientSubscriptions, Program.bind_of_done (x := Program.getState) rfl, h.table]
    rfl
  rw [cancelSubscriptions, Program.sat_bind, Program.sat_of_done hread, Program.sat_ite]
  split
  case isFalse hempty =>
    refine ⟨⟨subs, h⟩, fun entry hentry => ?_⟩
    rw [List.eq_nil_of_length_eq_zero (Nat.eq_zero_of_not_pos hempty)] at hentry
    cases hentry
  case isTrue =>
    have hsame {subs' : List ClientSubscription} {w : World M W} (h : Remaining c subs subs' w)
        (owned : Bool) (e : Event M W) :
        Remaining c subs subs' { w with mutexOwned := owned, log := w.log ++ [e] } :=
      h.same rfl rfl (Nat.le_refl _) (List.prefix_append _ _)
    rw [Program.sat_bind, sat_unlock, Program.sat_bind]
    refine Program.sat_forLoop (fun i w => ∃ subs', Walked c subs i subs' w) ?_ ?_ ?_
    · rintro i w hi ⟨subs', h'⟩
      exact sat_cancelSubscription (by omega) h'
    · rintro w ⟨subs', h'⟩
      refine ⟨⟨subs', hsame h'.remaining _ _⟩, fun entry hentry => ?_⟩
      obtain ⟨s, hs, hmem⟩ := List.mem_flatMap.mp hentry
      obtain ⟨e, he, rfl⟩ := List.mem_map.mp hmem
      have hall := h'.before s (by rwa [Nat.zero_add, List.take_length]) e he
      exact hall.mono (List.prefix_append _ _)
    · exact ⟨subs, hsame h _ _, fun _ => rfl, fun s hs => absurd hs List.not_mem_nil⟩

omit [MessageApi M W] in
theorem sat_accessVector_cleaning
    [MessageApi M W]
    {α : Type} (v : RtVector α) (w : World M W) :
    Program.Sat (cleaning c subs) (accessVector v)
      (fun _ w' => w' = w ∨ w' = { w with log := w.log ++ [.fault .noVector] }) w := by
  cases v with
  | live items =>
      exact Or.inl rfl
  | null =>
      exact Or.inr rfl
  | destroyed =>
      exact fault_cleaning w .vector rfl

/-- `perform_cleanup`. -/
theorem sat_performCleanup_requests
    {w : World M W}
    (h : Remaining c subs subs w) :
    Program.Sat (cleaning c subs) performCleanup (fun _ w' => AllRequested c subs w'.log) w := by
  have hlocked : Remaining c subs subs
      { w with mutexOwned := true, log := w.log ++ [.lock w.mutexOwned] } :=
    h.same rfl rfl (Nat.le_refl _) (List.prefix_append _ _)
  rw [performCleanup, Program.sat_bind, sat_lock, cleanupLocked, Program.sat_bind]
  have hobjects : Program.Sat (cleaning c subs) destroyServerObjects
      (fun _ => Remaining c subs subs)
      { w with mutexOwned := true, log := w.log ++ [.lock w.mutexOwned] } := by
    rw [destroyServerObjects, Program.sat_bind, serverObjects, Program.sat_bind,
      Program.sat_getState]
    refine (sat_accessVector_cleaning _ _).mono ?_
    rintro _ w' (rfl | rfl)
    · exact hlocked.same rfl rfl (Nat.le_refl _) (List.prefix_append _ _)
    · refine hlocked.same rfl rfl (Nat.le_refl _) ?_
      exact (List.prefix_append _ _).trans (List.prefix_append _ _)
  refine hobjects.mono fun _ w₁ h₁ => ?_
  rw [Program.sat_bind]
  refine (sat_cancelSubscriptions h₁).mono ?_
  rintro _ w₂ ⟨⟨subs₂, h₂⟩, hall⟩
  rw [Program.sat_bind, destroyClientSubscriptions, Program.sat_bind, clientSubscriptions,
    Program.sat_bind, Program.sat_getState, h₂.table]
  intro entry hentry
  refine (hall entry hentry).mono ?_
  exact (List.prefix_append _ _).trans (List.prefix_append _ _)

/-- What every point of `rbus_closeBrokerConnection` meets. -/
theorem sat_rbusCloseBrokerConnection_requests
    {w : World M W}
    (h : Remaining c subs subs w) :
    Program.Sat (cleaning c subs) rbusCloseBrokerConnection
      (fun _ w' => AllRequested c subs w'.log) w := by
  have hlocked : Remaining c subs subs
      { w with mutexOwned := true, log := w.log ++ [.lock w.mutexOwned] } :=
    h.same rfl rfl (Nat.le_refl _) (List.prefix_append _ _)
  have hsome : ¬w.gConnection.isNone = true := by
    rw [h.connection]
    exact Bool.false_ne_true
  rw [rbusCloseBrokerConnection, Program.sat_bind, sat_lock, Program.sat_bind,
    Program.sat_getState, Program.sat_ite, if_neg hsome]
  refine (sat_performCleanup_requests hlocked).bind fun _ w₁ hall => ?_
  have hgrown {log : List (Event M W)} (hle : w₁.log <+: log) : AllRequested c subs log :=
    fun entry hentry => (hall entry hentry).mono hle
  rw [Program.sat_bind, sat_gConnectionPtr, Program.sat_bind, sat_call]
  refine ⟨fun _ => hgrown (List.prefix_append _ _), fun err w₂ henv => ?_⟩
  have hlog : w₁.log <+: w₂.log := (List.prefix_append _ _).trans henv.1.log
  rw [Program.sat_ite]
  split
  · exact hgrown hlog
  · exact hgrown (hlog.trans (List.prefix_append _ _))

end Loops

section Runs

variable {M W : Type} [MessageApi M W]

/-- Any answers, while callbacks that spare what is still walked through unsubscribe from events,
to any depth. -/
def considerateCallbacks
    (e : Call M W) (w : World M W) (a : e.Answer) (w' : World M W) : Prop :=
  (∃ n, unsubscribing n e w a w') ∧ Considerate e w w'

/-- The indices are valid, and when the loops have ended everything has been requested. -/
structure CleanupLaw
    (c : Connection) (subs : List ClientSubscription)
    (q : Prog (Call.Answer (M := M) (W := W)) (World M W) RbusError) : Prop where
  inBounds : ∀ w f, q = .undef w → w.log.getLast? = some (.fault f) → f.isIndex = false
  destroying : ∀ con w k, q = .call (.connectionDestroy con) w k → AllRequested c subs w.log
  returned : ∀ ret w, q = .done ret w → AllRequested c subs w.log

variable {c : Connection} {subs : List ClientSubscription} {w : World M W}

/--
While a connection is closed, whatever the table and the outcome of the requests: as long as the
callbacks that run during a request spare the events of its object, unless it is the last request
for this object, and no object goes, unless it is the last one, the loops use only indices that
are valid at the time, and once they have ended a request to unsubscribe has been sent for every
entry that was in the table.
-/
theorem cleanup_unsubscribes
    (hconnection : w.gConnection = some c)
    (htable : w.gEventSubscriptionsForClient = .live subs)
    (hinv : TableInv w.nextPtr subs)
    {q : Prog (Call.Answer (M := M) (W := W)) (World M W) RbusError}
    (hreach : Prog.Reaches considerateCallbacks (rbusCloseBrokerConnection w) q) :
    CleanupLaw c subs q := by
  have hstart : Remaining c subs subs w := .refl hconnection htable hinv
  have henv (e : Call M W) (w : World M W) (a : e.Answer) (w' : World M W)
      (h : considerateCallbacks e w a w') : (cleaning c subs).env e w a w' := by
    obtain ⟨⟨n, hn⟩, hconsiderate⟩ := h
    exact ⟨unsubscribes_of_nest n e w a w' hn, hconsiderate⟩
  have hmeets := Program.meets_of_sat henv (sat_rbusCloseBrokerConnection_requests hstart) hreach
  constructor
  · rintro w' f rfl hlast
    exact hmeets f hlast
  · rintro con w' k rfl
    exact hmeets ⟨con, rfl⟩
  · rintro ret w' rfl
    exact hmeets

end Runs

section Run

/-- Another event of the object of the examples. -/
def sampleOtherEvent : BoundedName maxEventNameLength := ⟨.ofChars ['f'], by decide⟩

/-- The events of a client, in examples. -/
def sampleSubscriptions (names : List (BoundedName maxEventNameLength)) : List ClientSubscription :=
  [{ ptr := 2, object := sampleObjectName
     events := names.map fun name => { name := name, callback := 0, data := 0 } }]

/-- A client with subscriptions. -/
def sampleClient (names : List (BoundedName maxEventNameLength)) : World Bytes (List UInt8) :=
  { sampleSubscriber with
    gEventSubscriptionsForClient := .live (sampleSubscriptions names)
    nextPtr := 3 }

theorem considerateCallbacks_of_obligingAnswer
    {destroyed : RtError} {reply : Except RtError (List UInt8)}
    (e : Call Bytes (List UInt8)) (w : World Bytes (List UInt8)) (a : e.Answer)
    (w' : World Bytes (List UInt8))
    (h : obligingAnswer destroyed reply e w = some (a, w')) :
    considerateCallbacks e w a w' := by
  obtain rfl := obligingAnswer_same h
  refine ⟨⟨0, rfl⟩, ?_⟩
  cases e with
  | sendBinaryRequest =>
      exact ⟨fun s hs _ _ => hs, fun _ => rfl⟩
  | _ =>
      trivial

/-- Two events of one object are unsubscribed from. -/
theorem sampleClient_unsubscribes :
    ∃ (ret : RbusError) (w' : World Bytes (List UInt8)),
      Program.Returns considerateCallbacks rbusCloseBrokerConnection
        (sampleClient [sampleEventName, sampleOtherEvent]) ret w' ∧
      AllRequested (sampleConnection 1) (sampleSubscriptions [sampleEventName, sampleOtherEvent])
        w'.log := by
  have hrun : (((rbusCloseBrokerConnection : CoreM Bytes (List UInt8) RbusError)
      (sampleClient [sampleEventName, sampleOtherEvent])).run
        (obligingAnswer .rtOk (.error .rtErrorTimeout))).isSome = true := by
    decide +kernel
  obtain ⟨⟨ret, w'⟩, hw'⟩ := Option.isSome_iff_exists.mp hrun
  have hreturns := Program.returns_of_run considerateCallbacks_of_obligingAnswer hw'
  have hinv : TableInv 3 (sampleSubscriptions [sampleEventName, sampleOtherEvent]) := by
    have hevents : [sampleEventName.val, sampleOtherEvent.val].Nodup := by
      decide
    refine ⟨List.nodup_singleton _, List.nodup_singleton _, ?_, ?_, ?_⟩
    all_goals
      intro s hs
      rw [List.mem_singleton.mp hs]
    · exact Nat.lt_succ_self 2
    · exact List.cons_ne_nil _ _
    · exact hevents
  exact ⟨ret, w', hreturns, (cleanup_unsubscribes rfl rfl hinv hreturns).returned ret w' rfl⟩

/-- A callback that unsubscribes from the first event. -/
def sampleUnsubscription : Unsubscription Bytes where
  objectName := some sampleObjectName.val
  eventName := some sampleEventName.val
  payload := none

/-- Requests are not answered, and during each the callback runs. -/
def unsubscribingAnswer :
    (e : Call Bytes (List UInt8)) → World Bytes (List UInt8) →
      Option (e.Answer × World Bytes (List UInt8))
  | .sendBinaryRequest .., w =>
      ((sampleUnsubscription.run w).run noAnswer).map fun r => (.error .rtErrorTimeout, r.2)
  | _, _ => none

theorem nest_of_unsubscribingAnswer
    (e : Call Bytes (List UInt8)) (w : World Bytes (List UInt8)) (a : e.Answer)
    (w' : World Bytes (List UInt8))
    (h : unsubscribingAnswer e w = some (a, w')) :
    ∃ n, unsubscribing n e w a w' := by
  have hquiet (e : Call Bytes (List UInt8)) (w : World Bytes (List UInt8)) (a : e.Answer)
      (w' : World Bytes (List UInt8)) (h : noAnswer e w = some (a, w')) :
      unsubscribing 0 e w a w' := by
    cases e with
    | addDefaultListener | sendBinaryRequest =>
        exact (Prod.mk.inj (Option.some.inj h)).2.symm
    | _ =>
        cases h
  cases e with
  | sendBinaryRequest =>
      obtain ⟨⟨⟨⟩, w₁⟩, hrun, heq⟩ := Option.map_eq_some_iff.mp h
      obtain ⟨-, rfl⟩ := Prod.mk.inj heq
      exact ⟨1, Or.inr ⟨rfl, .single ⟨sampleUnsubscription, Program.returns_of_run hquiet hrun⟩⟩⟩
  | _ =>
      cases h

/-- The program has left the bounds of a vector. -/
def outOfBounds {α : Type} :
    Prog (Call.Answer (M := Bytes) (W := List UInt8)) (World Bytes (List UInt8)) α → Bool
  | .undef w =>
      match w.log.getLast? with
      | some (.fault f) => f.isIndex
      | _ => false
  | _ => false

/-- A callback that unsubscribes from the first event during the request for it lets the loop run
out of the events. -/
theorem unsubscribing_callback_breaks_cleanup :
    ∃ q : Prog (Call.Answer (M := Bytes) (W := List UInt8)) (World Bytes (List UInt8)) RbusError,
      Prog.Reaches (fun e w a w' => ∃ n, unsubscribing n e w a w')
        (rbusCloseBrokerConnection (sampleClient [sampleEventName, sampleOtherEvent])) q ∧
      ¬CleanupLaw (sampleConnection 1) (sampleSubscriptions [sampleEventName, sampleOtherEvent]) q := by
  have hbounds : outOfBounds (((rbusCloseBrokerConnection : CoreM Bytes (List UInt8) RbusError)
      (sampleClient [sampleEventName, sampleOtherEvent])).stop unsubscribingAnswer) = true := by
    decide +kernel
  refine ⟨_, Prog.reaches_stop nest_of_unsubscribingAnswer _, fun hlaw => ?_⟩
  revert hbounds hlaw
  generalize ((rbusCloseBrokerConnection : CoreM Bytes (List UInt8) RbusError)
    (sampleClient [sampleEventName, sampleOtherEvent])).stop unsubscribingAnswer = q
  intro hbounds hlaw
  cases q with
  | undef w =>
      rw [outOfBounds] at hbounds
      split at hbounds
      case h_1 f hlast =>
        rw [hlaw.inBounds w f rfl hlast] at hbounds
        cases hbounds
      case h_2 =>
        cases hbounds
  | done | call =>
      cases hbounds

end Run

end RbusCore
