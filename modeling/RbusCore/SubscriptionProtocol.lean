import RbusCore.Lib.Channel
import RbusCore.SubscriptionArrivals
import RbusCore.SubscriptionCalls

/-!
# The subscription protocol

A subscriber and a provider run against each other.  The requests of the subscriber arrive in
the order in which they were sent, or are lost, and so are the answers to them; an answer comes
only after the request has been handled, and may come too late.  The provider goes on registering
and publishing in the meantime, and other subscribers send requests to it, too.  The subscriber
has no master handler, and the provider no subscribe handler.

**Results.**
* `Agrees.step`: what holds between the two at any time.
* `entry_listens`: a subscriber with an entry for an event gets the event, and goes on getting it.
-/

namespace RbusCore

open CStrings Resumption MessagePack

section Parties

/-- A call of the subscriber that has not returned. -/
abbrev PendingCall (U : Unpacker) : Type :=
  Prog (Call.Answer (M := RbusMessage U) (W := List UInt8)) (World (RbusMessage U) (List UInt8))
    RbusError

/-- A subscriber between his calls, and in one of them, with the request that he waits for. -/
inductive ClientState (U : Unpacker) where
  | idle (w : World (RbusMessage U) (List UInt8))
  | inCall (waitsFor : Option Nat) (p : PendingCall U)

/-- The two parties, and the requests from one to the other. -/
structure System (U : Unpacker) where
  client : ClientState U
  provider : World (RbusMessage U) (List UInt8)
  channel : Channel (List UInt8)

/-- A request to an object. -/
def SentTo {M W : Type} (object : CString) : Call M W → Prop
  | .sendBinaryRequest _ _ topic _ => topic = object
  | _ => False

variable {U : Unpacker}

/-- One step of one of the parties, or of the requests between them.  The object is in place at
`p`. -/
inductive System.Step
    (p : Ptr) (object event address : CString) :
    System U → System U → Prop
  /-- The application of the subscriber makes a call. -/
  | begins {w : World (RbusMessage U) (List UInt8)} {v : World (RbusMessage U) (List UInt8)}
      {c : Channel (List UInt8)} {op : ClientOp (RbusMessage U)}
      (hfits : op.Fits address) :
      Step p object event address ⟨.idle w, v, c⟩ ⟨.inCall none (op.run w), v, c⟩
  /-- The call returns. -/
  | ends {w : World (RbusMessage U) (List UInt8)} {v : World (RbusMessage U) (List UInt8)}
      {c : Channel (List UInt8)} {ret : RbusError} :
      Step p object event address ⟨.inCall none (.done ret w), v, c⟩ ⟨.idle w, v, c⟩
  /-- The connection answers at once.  A request to the object is refused in this way. -/
  | answers {w w' : World (RbusMessage U) (List UInt8)} {v : World (RbusMessage U) (List UInt8)}
      {c : Channel (List UInt8)} {e : Call (RbusMessage U) (List UInt8)} {a : e.Answer}
      {k : e.Answer → World (RbusMessage U) (List UInt8) → PendingCall U}
      (hrefuses : SentTo object e → Refuses e a)
      (hcalm : Calm w w') :
      Step p object event address ⟨.inCall none (.call e w k), v, c⟩ ⟨.inCall none (k a w'), v, c⟩
  /-- A request to the object is sent. -/
  | sends {w : World (RbusMessage U) (List UInt8)} {v : World (RbusMessage U) (List UInt8)}
      {c : Channel (List UInt8)} {con : Option Ptr} {data : List UInt8} {timeout : Int}
      {k : Except RtError (List UInt8) → World (RbusMessage U) (List UInt8) → PendingCall U} :
      Step p object event address
        ⟨.inCall none (.call (.sendBinaryRequest con data object timeout) w k), v, c⟩
        ⟨.inCall (some c.sent) (.call (.sendBinaryRequest con data object timeout) w k), v,
          c.send data⟩
  /-- The request that was sent first arrives, and the provider handles it. -/
  | arrives {client : ClientState U} {v v' : World (RbusMessage U) (List UInt8)}
      {c : Channel (List UInt8)} {m : Nat × List UInt8} {rest : List (Nat × List UInt8)}
      {rounds : Nat} {hdr : RtMessageHeader}
      (hfirst : c.inFlight = m :: rest)
      (hidle : Unoccupied v)
      (hrun : Program.Returns unheeded.env (onMessage rounds hdr m.2 p) v () v') :
      Step p object event address ⟨client, v, c⟩ ⟨client, v', c.receive m rest⟩
  /-- Requests are lost. -/
  | loses {client : ClientState U} {v : World (RbusMessage U) (List UInt8)}
      {c : Channel (List UInt8)} {left : List (Nat × List UInt8)}
      (hleft : left.Sublist c.inFlight) :
      Step p object event address ⟨client, v, c⟩ ⟨client, v, c.keep left⟩
  /-- The answer to a request that has been handled arrives.  Its bytes may be any. -/
  | replies {w w' : World (RbusMessage U) (List UInt8)} {v : World (RbusMessage U) (List UInt8)}
      {c : Channel (List UInt8)} {con : Option Ptr} {data : List UInt8} {timeout : Int}
      {k : Except RtError (List UInt8) → World (RbusMessage U) (List UInt8) → PendingCall U}
      {m : Nat × List UInt8}
      (hreceived : m ∈ c.received)
      (reply : List UInt8)
      (hcalm : Calm w w') :
      Step p object event address
        ⟨.inCall (some m.1) (.call (.sendBinaryRequest con data object timeout) w k), v, c⟩
        ⟨.inCall none (k (.ok reply) w'), v, c⟩
  /-- The subscriber does not wait any longer. -/
  | fails {w w' : World (RbusMessage U) (List UInt8)} {v : World (RbusMessage U) (List UInt8)}
      {c : Channel (List UInt8)} {con : Option Ptr} {data : List UInt8} {timeout : Int}
      {k : Except RtError (List UInt8) → World (RbusMessage U) (List UInt8) → PendingCall U}
      {number : Nat}
      (err : RtError)
      (hcalm : Calm w w') :
      Step p object event address
        ⟨.inCall (some number) (.call (.sendBinaryRequest con data object timeout) w k), v, c⟩
        ⟨.inCall none (k (.error err) w'), v, c⟩
  /-- Time passes between the calls of the subscriber. -/
  | rests {w w' : World (RbusMessage U) (List UInt8)} {v : World (RbusMessage U) (List UInt8)}
      {c : Channel (List UInt8)}
      (hcalm : Calm w w') :
      Step p object event address ⟨.idle w, v, c⟩ ⟨.idle w', v, c⟩
  /-- The provider makes a call of its own, and leaves the event registered; or it handles a request
  of another subscriber directly. -/
  | provides {client : ClientState U} {v v' : World (RbusMessage U) (List UInt8)}
      {c : Channel (List UInt8)} {op : ProviderOp (RbusMessage U)} {ret : RbusError}
      (hspares : op.spares object event address)
      (hrun : Program.Returns unheeded.env op.run v ret v') :
      Step p object event address ⟨client, v, c⟩ ⟨client, v', c⟩
  /-- A request of another subscriber arrives. -/
  | hears {client : ClientState U} {v v' : World (RbusMessage U) (List UInt8)}
      {c : Channel (List UInt8)} {subscriber event' : CString} {activate : Bool}
      {data : List UInt8} {rounds : Nat} {hdr : RtMessageHeader}
      (hother : subscriber ≠ address)
      (hasks : Asks U subscriber data event' activate)
      (hidle : Unoccupied v)
      (hrun : Program.Returns unheeded.env (onMessage rounds hdr data p) v () v') :
      Step p object event address ⟨client, v, c⟩ ⟨client, v', c⟩

end Parties

section Agreement

variable {U : Unpacker}

/-- The subscriber asked last to be added, and no request in flight asks for his removal. -/
def Granted
    (U : Unpacker) (event address : CString) (last : Option Bool) (c : Channel (List UInt8)) :
    Prop :=
  last = some true ∧ ∀ m ∈ c.inFlight, ¬Asks U address m.2 event false

/-- What every call keeps to. -/
structure Proceeds
    (address : CString) (op : ClientOp (RbusMessage U)) (p : PendingCall U) : Prop where
  asks : p.Sat (asking U op.object.val address op.event.val op.activate) fun _ _ => True
  subscriber : p.Sat calmly fun _ w => Subscriber address w

/-- Why there is no entry after a call, unless the subscriber is listened to: the call asks for
no removal, or it ends without an entry, or it does so unless it is answered. -/
inductive Outcome
    (object event : CString) (granted : Prop) (op : ClientOp (RbusMessage U))
    (p : PendingCall U) : Prop
  | granted
      (hgranted : granted)
      (hspares : op.object.val = object → op.event.val = event → op.activate = true)
  | absent
      (hends : p.Sat calmly fun _ w => ¬HasEntry object event w)
  | unanswered
      (hobject : op.object.val = object)
      (hevent : op.event.val = event)
      (hadds : op.activate = true)
      (hends : p.Sat unanswered fun _ w => ¬HasEntry object event w)

/-- The request that the subscriber waits for is the last one he sent. -/
structure WaitsFor
    (address : CString) (c : Channel (List UInt8)) (op : ClientOp (RbusMessage U))
    (number : Nat) : Prop where
  last : number + 1 = c.sent
  asks : ∀ m ∈ c.messages, m.1 = number → Asks U address m.2 op.event.val op.activate

/-- What holds of the subscriber. -/
def SubscriberAgrees
    (object event address : CString) (granted : Prop) (c : Channel (List UInt8)) :
    ClientState U → Prop
  | .idle w =>
      Subscriber address w ∧ (HasEntry object event w → granted)
  | .inCall waitsFor p =>
      ∃ op, Proceeds address op p ∧ Outcome object event granted op p ∧
        ∀ number ∈ waitsFor, WaitsFor address c op number

/-- What holds between the subscriber and the provider, while `last` is what the subscriber has
asked of the provider last. -/
structure Agrees
    (p : Ptr) (object event address : CString) (last : Option Bool) (s : System U) : Prop where
  serves : Serves p object event address last s.provider
  order : s.channel.InOrder
  asks : ∀ m ∈ s.channel.messages, ∃ event' activate, Asks U address m.2 event' activate
  latest : ∀ m activate, s.channel.received.getLast? = some m →
    Asks U address m.2 event activate → last = some activate
  client : SubscriberAgrees object event address (Granted U event address last s.channel) s.channel
    s.client

variable {p : Ptr} {object event address : CString} {last last' : Option Bool}
variable {c c' : Channel (List UInt8)} {op : ClientOp (RbusMessage U)} {q : PendingCall U}
variable {granted granted' : Prop}

theorem Outcome.imp
    (h : Outcome object event granted op q)
    (himp : (op.object.val = object → op.event.val = event → op.activate = true) →
      granted → granted') :
    Outcome object event granted' op q := by
  cases h with
  | granted hgranted hspares =>
      exact .granted (himp hspares hgranted) hspares
  | absent hends =>
      exact .absent hends
  | unanswered hobject hevent hadds hends =>
      exact .unanswered hobject hevent hadds hends

/-- Nothing has changed for the subscriber. -/
theorem SubscriberAgrees.imp
    {client : ClientState U}
    (h : SubscriberAgrees object event address granted c client)
    (himp : granted → granted')
    (hsent : c'.sent = c.sent)
    (hmessages : ∀ m ∈ c'.messages, m ∈ c.messages) :
    SubscriberAgrees object event address granted' c' client := by
  cases client with
  | idle w =>
      exact ⟨h.1, fun hentry => himp (h.2 hentry)⟩
  | inCall waitsFor q =>
      obtain ⟨op, hproceeds, houtcome, hwaits⟩ := h
      refine ⟨op, hproceeds, houtcome.imp fun _ => himp, ?_⟩
      intro number hnumber
      have hlast := hwaits number hnumber
      exact ⟨hlast.last.trans hsent.symm, fun m hm => hlast.asks m (hmessages m hm)⟩

/-- A call is made. -/
theorem Outcome.of_begins
    {w : World (RbusMessage U) (List UInt8)}
    (h : Subscriber address w)
    (hentry : HasEntry object event w → granted)
    (op : ClientOp (RbusMessage U)) :
    Outcome object event granted op (op.run w) := by
  by_cases hsame : op.object.val = object ∧ op.event.val = event
  · obtain ⟨rfl, rfl⟩ := hsame
    cases hactivate : op.activate with
    | false =>
        exact .absent ((sat_clientOp_calmly h op).mono fun _ _ hret =>
          hret.1.not_hasEntry hactivate)
    | true =>
        by_cases hhas : HasEntry op.object.val op.event.val w
        · exact .granted (hentry hhas) fun _ _ => hactivate
        · exact .unanswered rfl rfl hactivate (sat_clientOp_unanswered h hactivate hhas)
  · by_cases hhas : HasEntry object event w
    · exact .granted (hentry hhas) fun hobject hevent => absurd ⟨hobject, hevent⟩ hsame
    · refine .absent ((sat_clientOp_calmly h op).mono fun ret w' hret => ?_)
      rw [hret.1.hasEntry_iff hsame]
      exact hhas

/-- A call goes on. -/
theorem Proceeds.next
    {e : Call (RbusMessage U) (List UInt8)} {a : e.Answer}
    {w w' : World (RbusMessage U) (List UInt8)}
    {k : e.Answer → World (RbusMessage U) (List UInt8) → PendingCall U}
    (h : Proceeds address op (.call e w k))
    (hcalm : Calm w w') :
    Proceeds address op (k a w') :=
  ⟨h.asks.2 a w' hcalm, h.subscriber.2 a w' hcalm⟩

/-- A call goes on without an answer to a request. -/
theorem Outcome.next
    {e : Call (RbusMessage U) (List UInt8)} {a : e.Answer}
    {w w' : World (RbusMessage U) (List UInt8)}
    {k : e.Answer → World (RbusMessage U) (List UInt8) → PendingCall U}
    (h : Outcome object event granted op (.call e w k))
    (hrefuses : op.object.val = object → Refuses e a)
    (hcalm : Calm w w') :
    Outcome object event granted op (k a w') := by
  cases h with
  | granted hgranted hspares =>
      exact .granted hgranted hspares
  | absent hends =>
      exact .absent (hends.2 a w' hcalm)
  | unanswered hobject hevent hadds hends =>
      exact .unanswered hobject hevent hadds (hends.2 a w' ⟨hcalm, hrefuses hobject⟩)

/-- A request that a call sends is what the operation asks for. -/
theorem Proceeds.request
    {con : Option Ptr} {data : List UInt8} {topic : CString} {timeout : Int}
    {w : World (RbusMessage U) (List UInt8)}
    {k : Except RtError (List UInt8) → World (RbusMessage U) (List UInt8) → PendingCall U}
    (h : Proceeds address op (.call (.sendBinaryRequest con data topic timeout) w k)) :
    topic = op.object.val ∧ Asks U address data op.event.val op.activate :=
  h.asks.1

/-- Whatever is answered to a call about another object is no answer of this one. -/
theorem Proceeds.refuses
    {e : Call (RbusMessage U) (List UInt8)} {a : e.Answer}
    {w : World (RbusMessage U) (List UInt8)}
    {k : e.Answer → World (RbusMessage U) (List UInt8) → PendingCall U}
    (h : Proceeds address op (.call e w k))
    (hrefuses : SentTo object e → Refuses e a)
    (hobject : op.object.val = object) :
    Refuses e a := by
  cases e with
  | sendBinaryRequest con data topic timeout =>
      exact hrefuses (h.request.1.trans hobject)
  | _ =>
      trivial

/-- The request of the call is answered. -/
theorem Outcome.answered
    {con : Option Ptr} {data : List UInt8} {timeout : Int} {m : Nat × List UInt8}
    {w w' : World (RbusMessage U) (List UInt8)}
    {k : Except RtError (List UInt8) → World (RbusMessage U) (List UInt8) → PendingCall U}
    (h : Outcome object event (Granted U event address last c) op
      (.call (.sendBinaryRequest con data object timeout) w k))
    (horder : c.InOrder)
    (hlatest : ∀ m activate, c.received.getLast? = some m →
      Asks U address m.2 event activate → last = some activate)
    (hwaits : WaitsFor address c op m.1)
    (hreceived : m ∈ c.received)
    (hcalm : Calm w w')
    (reply : List UInt8) :
    Outcome object event (Granted U event address last c) op (k (.ok reply) w') := by
  cases h with
  | granted hgranted hspares =>
      exact .granted hgranted hspares
  | absent hends =>
      exact .absent (hends.2 _ w' hcalm)
  | unanswered hobject hevent hadds hends =>
      -- the request has been handled, and nothing has been sent after it
      obtain ⟨hnone, hlast⟩ := horder.latest_received hreceived hwaits.last
      have hasks := hwaits.asks m (List.mem_append_left _ hreceived) rfl
      rw [hevent, hadds] at hasks
      refine .granted ⟨hlatest m true hlast hasks, ?_⟩ fun _ _ => hadds
      rw [hnone]
      exact fun m' hm' => absurd hm' List.not_mem_nil

/-- A request is sent that asks for no removal. -/
theorem Granted.send
    {data : List UInt8}
    (h : Granted U event address last c)
    (hasks : Asks U address data op.event.val op.activate)
    (hspares : op.event.val = event → op.activate = true) :
    Granted U event address last (c.send data) := by
  refine ⟨h.1, ?_⟩
  intro m hm
  rcases List.mem_append.mp hm with hold | hnew
  · exact h.2 m hold
  · obtain rfl := List.mem_singleton.mp hnew
    intro hremoves
    obtain ⟨hevent, hactivate⟩ := hasks.unique hremoves
    rw [hspares hevent] at hactivate
    cases hactivate

/-- A request arrives. -/
theorem Granted.receive
    {m : Nat × List UInt8} {rest : List (Nat × List UInt8)} {event' : CString} {activate : Bool}
    (h : Granted U event address last c)
    (hfirst : c.inFlight = m :: rest)
    (hasks : Asks U address m.2 event' activate) :
    Granted U event address (if event' = event ∧ address = address then some activate else last)
      (c.receive m rest) := by
  constructor
  · by_cases hevent : event' = event
    · rw [if_pos ⟨hevent, rfl⟩]
      cases activate with
      | true =>
          rfl
      | false =>
          refine absurd (hevent ▸ hasks) (h.2 m ?_)
          rw [hfirst]
          exact List.mem_cons_self
    · rw [if_neg fun hsame => hevent hsame.1]
      exact h.1
  · intro m' hm'
    refine h.2 m' ?_
    rw [hfirst]
    exact List.mem_cons_of_mem m hm'

theorem Granted.keep
    {left : List (Nat × List UInt8)}
    (h : Granted U event address last c)
    (hleft : left.Sublist c.inFlight) :
    Granted U event address last (c.keep left) :=
  ⟨h.1, fun m hm => h.2 m (hleft.subset hm)⟩

/-- The bytes of a request arrive at the provider. -/
theorem serves_of_arrives
    {v v' : World (RbusMessage U) (List UInt8)} {data : List UInt8}
    {subscriber event' : CString} {activate : Bool} {rounds : Nat} {hdr : RtMessageHeader}
    (h : Serves p object event address last v)
    (haddress : address.strlen < maxSubscriberNameLength)
    (hasks : Asks U subscriber data event' activate)
    (hidle : Unoccupied v)
    (hrun : Program.Returns unheeded.env (onMessage rounds hdr data p) v () v') :
    Serves p object event address
      (if event' = event ∧ subscriber = address then some activate else last) v' := by
  obtain ⟨payload, hsize, rfl⟩ := hasks
  exact Program.returns_of_sat (C := unheeded) (Q := fun _ => Serves p object event address
    (if event' = event ∧ subscriber = address then some activate else last))
    (fun _ _ _ _ henv => henv) (sat_onMessage_serves h hidle haddress hsize rounds hdr) hrun

/-- A call sends its request. -/
theorem Agrees.sends
    {v w : World (RbusMessage U) (List UInt8)} {con : Option Ptr} {data : List UInt8}
    {timeout : Int}
    {k : Except RtError (List UInt8) → World (RbusMessage U) (List UInt8) → PendingCall U}
    (h : Agrees p object event address last
      ⟨.inCall none (.call (.sendBinaryRequest con data object timeout) w k), v, c⟩) :
    Agrees p object event address last
      ⟨.inCall (some c.sent) (.call (.sendBinaryRequest con data object timeout) w k), v,
        c.send data⟩ := by
  obtain ⟨hserves, horder, hasks, hlatest, op, hproceeds, houtcome, -⟩ := h
  obtain ⟨hobject, hrequest⟩ := hproceeds.request
  have hmessages (m : Nat × List UInt8) (hm : m ∈ (c.send data).messages) :
      m ∈ c.messages ∨ m = (c.sent, data) := by
    rw [Channel.messages_send] at hm
    simpa using hm
  refine ⟨hserves, horder.send data, ?_, hlatest, op, hproceeds, ?_, ?_⟩
  · intro m hm
    rcases hmessages m hm with hold | rfl
    · exact hasks m hold
    · exact ⟨_, _, hrequest⟩
  · exact houtcome.imp fun hspares hgranted => hgranted.send hrequest (hspares hobject.symm)
  · intro number hnumber
    obtain rfl := Option.mem_some_iff.mp hnumber
    refine ⟨rfl, fun m hm hnumber => ?_⟩
    rcases hmessages m hm with hold | rfl
    · exact absurd hnumber (Nat.ne_of_lt (horder.sent m hold))
    · exact hrequest

/-- A request arrives, and what it asks for is done. -/
theorem Agrees.arrives
    {client : ClientState U} {v v' : World (RbusMessage U) (List UInt8)}
    {m : Nat × List UInt8} {rest : List (Nat × List UInt8)} {rounds : Nat} {hdr : RtMessageHeader}
    (h : Agrees p object event address last ⟨client, v, c⟩)
    (haddress : address.strlen < maxSubscriberNameLength)
    (hfirst : c.inFlight = m :: rest)
    (hidle : Unoccupied v)
    (hrun : Program.Returns unheeded.env (onMessage rounds hdr m.2 p) v () v') :
    ∃ last', Agrees p object event address last' ⟨client, v', c.receive m rest⟩ := by
  obtain ⟨hserves, horder, hasks, hlatest, hclient⟩ := h
  have hmessages := Channel.messages_receive hfirst
  have hmem : m ∈ c.messages := by
    rw [← hmessages]
    exact List.mem_append_left _ (List.mem_append_right _ (List.mem_singleton_self m))
  obtain ⟨event', activate, hm⟩ := hasks m hmem
  refine ⟨_, serves_of_arrives hserves haddress hm hidle hrun, horder.receive hfirst, ?_, ?_, ?_⟩
  · rw [hmessages]
    exact hasks
  · intro m' activate' hlast hm'
    obtain rfl : m = m' := by
      rw [Channel.receive, List.getLast?_concat] at hlast
      exact Option.some.inj hlast
    obtain ⟨rfl, rfl⟩ := hm.unique hm'
    exact if_pos ⟨rfl, rfl⟩
  · exact hclient.imp (fun hgranted => hgranted.receive hfirst hm) rfl fun m' hm' =>
      hmessages ▸ hm'

/-- Every step keeps the agreement. -/
theorem Agrees.step
    {s s' : System U}
    (h : Agrees p object event address last s)
    (haddress : address.strlen < maxSubscriberNameLength)
    (hstep : System.Step p object event address s s') :
    ∃ last', Agrees p object event address last' s' := by
  have hnothing {c : Channel (List UInt8)} {op : ClientOp (RbusMessage U)} (number : Nat)
      (hnumber : number ∈ none) : WaitsFor address c op number :=
    absurd hnumber (Option.not_mem_none number)
  obtain ⟨hserves, horder, hasks, hlatest, hclient⟩ := id h
  cases hstep with
  | @begins w v c op hfits =>
      obtain ⟨hsubscriber, hentry⟩ := hclient
      refine ⟨last, hserves, horder, hasks, hlatest, op, ⟨?_, ?_⟩, ?_, hnothing⟩
      · exact sat_clientOp_asks hsubscriber.2 hfits
      · exact (sat_clientOp_calmly hsubscriber op).mono fun _ _ hret => hret.2
      · exact Outcome.of_begins hsubscriber hentry op
  | ends =>
      obtain ⟨op, hproceeds, houtcome, -⟩ := hclient
      refine ⟨last, hserves, horder, hasks, hlatest, hproceeds.subscriber, fun hentry => ?_⟩
      cases houtcome with
      | granted hgranted _ =>
          exact hgranted
      | absent hends =>
          exact absurd hentry hends
      | unanswered _ _ _ hends =>
          exact absurd hentry hends
  | answers hrefuses hcalm =>
      obtain ⟨op, hproceeds, houtcome, -⟩ := hclient
      exact ⟨last, hserves, horder, hasks, hlatest, op, hproceeds.next hcalm,
        houtcome.next (hproceeds.refuses hrefuses) hcalm, hnothing⟩
  | sends =>
      exact ⟨last, h.sends⟩
  | arrives hfirst hidle hrun =>
      exact h.arrives haddress hfirst hidle hrun
  | loses hleft =>
      have hsublist := Channel.messages_keep_sublist hleft
      refine ⟨last, hserves, horder.lose hleft, fun m hm => hasks m (hsublist.subset hm), hlatest,
        ?_⟩
      exact hclient.imp (fun hgranted => hgranted.keep hleft) rfl fun m hm => hsublist.subset hm
  | @replies w w' v c con data timeout k m hreceived reply hcalm =>
      obtain ⟨op, hproceeds, houtcome, hwaits⟩ := hclient
      exact ⟨last, hserves, horder, hasks, hlatest, op, hproceeds.next hcalm,
        houtcome.answered horder hlatest (hwaits m.1 rfl) hreceived hcalm reply, hnothing⟩
  | fails err hcalm =>
      obtain ⟨op, hproceeds, houtcome, -⟩ := hclient
      exact ⟨last, hserves, horder, hasks, hlatest, op, hproceeds.next hcalm,
        houtcome.next (fun _ => ⟨err, rfl⟩) hcalm, hnothing⟩
  | rests hcalm =>
      obtain ⟨hsubscriber, hentry⟩ := hclient
      refine ⟨last, hserves, horder, hasks, hlatest, hsubscriber.calm hcalm, fun hhas => ?_⟩
      refine hentry ?_
      rw [HasEntry, ← hcalm.table]
      exact hhas
  | provides hspares hrun =>
      have hserves' := Program.returns_of_sat (C := unheeded) (fun _ _ _ _ henv => henv)
        (sat_providerOp_serves hserves hspares) hrun
      exact ⟨last, hserves', horder, hasks, hlatest, hclient⟩
  | hears hother hm hidle hrun =>
      have hserves' := serves_of_arrives hserves haddress hm hidle hrun
      rw [if_neg fun hsame => hother hsame.2] at hserves'
      exact ⟨last, hserves', horder, hasks, hlatest, hclient⟩

end Agreement

section Runs

variable {U : Unpacker}

/-- The subscriber has no entry for the event, the provider has registered it, and no request
has been sent. -/
structure System.Initial
    (p : Ptr) (object event address : CString) (s : System U) : Prop where
  client : ∃ w, s.client = .idle w ∧ Subscriber address w ∧ ¬HasEntry object event w
  provider : ∃ last, Serves p object event address last s.provider
  channel : s.channel = .unused

/-- The systems that the steps lead to. -/
def System.Reachable
    (p : Ptr) (object event address : CString) (s : System U) : Prop :=
  ∃ s₀, System.Initial p object event address s₀ ∧
    Relation.ReflTransGen (System.Step p object event address) s₀ s

variable {p : Ptr} {object event address : CString} {s : System U}

/-- The two agree at the start. -/
theorem System.Initial.agrees
    (h : System.Initial p object event address s) :
    ∃ last, Agrees p object event address last s := by
  obtain ⟨⟨w, hidle, hsubscriber, hnone⟩, ⟨last, hserves⟩, hchannel⟩ := h
  have hreceived : s.channel.received = [] := by
    rw [hchannel]
    rfl
  refine ⟨last, hserves, ?_, ?_, ?_, ?_⟩
  · rw [hchannel]
    exact Channel.inOrder_unused
  · intro m hm
    rw [hchannel] at hm
    exact absurd hm List.not_mem_nil
  · intro m activate hlast
    rw [hreceived] at hlast
    cases hlast
  · rw [hidle]
    exact ⟨hsubscriber, fun hentry => absurd hentry hnone⟩

/-- The two agree at any time. -/
theorem System.Reachable.agrees
    (h : System.Reachable p object event address s)
    (haddress : address.strlen < maxSubscriberNameLength) :
    ∃ last, Agrees p object event address last s := by
  obtain ⟨s₀, hinitial, hrun⟩ := h
  induction hrun with
  | refl =>
      exact hinitial.agrees
  | tail _ hstep ih =>
      obtain ⟨last, hagrees⟩ := ih
      exact hagrees.step haddress hstep

theorem System.Reachable.subscriber
    {w : World (RbusMessage U) (List UInt8)}
    (h : System.Reachable p object event address s)
    (haddress : address.strlen < maxSubscriberNameLength)
    (hidle : s.client = .idle w) :
    Subscriber address w := by
  obtain ⟨last, hagrees⟩ := h.agrees haddress
  have hclient := hagrees.client
  rw [hidle] at hclient
  exact hclient.1

/-- While there is an entry between two calls, the subscriber asked last to be added. -/
theorem System.Reachable.granted
    {w : World (RbusMessage U) (List UInt8)}
    (h : System.Reachable p object event address s)
    (haddress : address.strlen < maxSubscriberNameLength)
    (hidle : s.client = .idle w)
    (hentry : HasEntry object event w) :
    Serves p object event address (some true) s.provider ∧
      ∀ m ∈ s.channel.inFlight, ¬Asks U address m.2 event false := by
  obtain ⟨last, hserves, -, -, -, hclient⟩ := h.agrees haddress
  rw [hidle] at hclient
  obtain ⟨rfl, hnone⟩ := hclient.2 hentry
  exact ⟨hserves, hnone⟩

/--
Whatever is lost, comes too late or is refused: between his calls a subscriber has an entry for
an event only if the provider sends him the event, and nothing is on its way that would end this.
-/
theorem entry_listens
    {w : World (RbusMessage U) (List UInt8)}
    (haddress : address.strlen < maxSubscriberNameLength)
    (h : System.Reachable p object event address s)
    (hidle : s.client = .idle w)
    (hentry : HasEntry object event w) :
    Listens p event address s.provider ∧
      ∀ m ∈ s.channel.inFlight, ¬Asks U address m.2 event false := by
  obtain ⟨hserves, hnone⟩ := h.granted haddress hidle hentry
  exact ⟨hserves.listens_iff.mpr rfl, hnone⟩

/-- A call goes on as long as it sends nothing to the object. -/
theorem System.steps_of_reaches
    {R : (e : Call (RbusMessage U) (List UInt8)) → World (RbusMessage U) (List UInt8) → e.Answer →
      World (RbusMessage U) (List UInt8) → Prop}
    (hR : ∀ e w a w', R e w a w' → (SentTo object e → Refuses e a) ∧ Calm w w')
    {q q' : PendingCall U}
    (h : Prog.Reaches R q q')
    (v : World (RbusMessage U) (List UInt8)) (c : Channel (List UInt8)) :
    Relation.ReflTransGen (System.Step p object event address)
      ⟨.inCall none q, v, c⟩ ⟨.inCall none q', v, c⟩ := by
  induction h with
  | refl =>
      exact .refl
  | tail _ hstep ih =>
      cases hstep with
      | answer hanswer =>
          obtain ⟨hrefuses, hcalm⟩ := hR _ _ _ _ hanswer
          exact ih.tail (.answers hrefuses hcalm)

/-- The start of event dispatch succeeds. -/
def startingAnswer :
    (e : Call Bytes (List UInt8)) → World Bytes (List UInt8) →
      Option (e.Answer × World Bytes (List UInt8))
  | .addDefaultListener .., w => some (.rtOk, w)
  | _, _ => none

/-- A call after the answer to its request. -/
def answeredCall (reply : List UInt8) : PendingCall U → PendingCall U
  | .call (.sendBinaryRequest ..) w k => k (.ok reply) w
  | q => q

/-- An application that agrees to every subscription, and a transport that accepts everything. -/
def agreeingAnswer :
    (e : Call Bytes (List UInt8)) → World Bytes (List UInt8) →
      Option (e.Answer × World Bytes (List UInt8))
  | .subscribeCallback .., w => some (.success, w)
  | .sendBinaryResponse .., w => some (.rtOk, w)
  | .sendBinaryDirect .., w => some (.rtOk, w)
  | _, _ => none

/-- The bytes of a request, and where it goes. -/
def Call.request? {M W : Type} : Call M W → Option (W × CString)
  | .sendBinaryRequest _ data topic _ => some (data, topic)
  | _ => none

/-- The request of the first call of a client. -/
def sampleRequest : List UInt8 :=
  subscriptionBytes (U := .scalars) sampleEventName.val .empty true none

/-- What the client sends, and what is in his table after an answer. -/
theorem sampleSubscribe_sends :
    let q := (sampleSubscribe.run sampleSubscriber).stop startingAnswer
    (q.firstCall.bind fun r => r.1.request?) = some (sampleRequest, sampleObjectName.val) ∧
      (((answeredCall (resultBytes .scalars 0) q).run startingAnswer).map fun r =>
        tableEntries r.2.gEventSubscriptionsForClient.items) =
          some [(sampleObjectName.val, ⟨sampleEventName, 0, 0⟩)] := by
  decide +kernel

theorem sampleSubscribe_fits : sampleSubscribe.Fits .empty := by
  show messageSize (U := .scalars) _ _ < _
  decide +kernel

/-- A provider that has registered the event. -/
theorem sampleEvent_registered :
    (runOps (sampleProviderOps.take 2) sampleOpenedProvider).map (fun v =>
        v.gServerObjects.items.map fun o => (o.ptr, o.key, o.methods, o.subscriptions)) =
      some [(2, sampleObjectName.val,
        [⟨addHandlerName, .subscriptionHandler, 2⟩, ⟨removeHandlerName, .subscriptionHandler, 2⟩],
        [⟨sampleEventName, 2, [], some 5, 0⟩])] := by
  decide +kernel

/-- The event is published, with a number. -/
def samplePublishing : CoreM Bytes (List UInt8) (RbusError × MessageRef Bytes) :=
  rbusPublishEvent (some sampleObjectName.val) (some sampleEventName.val) ⟨5, sampleNumber 7⟩

/-- He handles the request, and publishes the event. -/
theorem sampleRequest_handled :
    (runOps (sampleProviderOps.take 2) sampleOpenedProvider).map (fun v =>
        (v.stackCounter, v.gQueuedRequests.items.isEmpty,
          ((onMessage 1 (sampleHeader 1) sampleRequest 2 v).run agreeingAnswer).map fun r =>
            (r.2.gConnection.isSome, ((samplePublishing r.2).run agreeingAnswer).isSome))) =
      some (0, true, some (true, true)) := by
  decide +kernel

theorem unheeded_of_agreeingAnswer
    (e : Call Bytes (List UInt8)) (w : World Bytes (List UInt8)) (a : e.Answer)
    (w' : World Bytes (List UInt8))
    (h : agreeingAnswer e w = some (a, w')) :
    unheeded.env e w a w' := by
  cases e <;> cases h <;> rfl

/-- The provider is connected and publishes the event. -/
def Publishes (v : World Bytes (List UInt8)) : Prop :=
  v.gConnection.isSome = true ∧
    ∃ r v', Program.Returns unheeded.env samplePublishing v r v'

/-- The registered provider, before and after the request. -/
theorem exists_served :
    ∃ (v v' : World Bytes (List UInt8)) (last : Option Bool),
      Serves 2 sampleObjectName.val sampleEventName.val .empty last v ∧ Unoccupied v ∧
        Program.Returns unheeded.env (onMessage 1 (sampleHeader 1) sampleRequest 2) v () v' ∧
        Publishes v' := by
  obtain ⟨v, hrun, hitems⟩ := Option.map_eq_some_iff.mp sampleEvent_registered
  have hhandled := sampleRequest_handled
  rw [hrun, Option.map_some] at hhandled
  obtain ⟨hcounter, hrest⟩ := Prod.mk.inj (Option.some.inj hhandled)
  obtain ⟨hqueue, hreturns⟩ := Prod.mk.inj hrest
  obtain ⟨⟨_, v'⟩, hv', hafter⟩ := Option.map_eq_some_iff.mp hreturns
  obtain ⟨hconnected, hpublished⟩ := Prod.mk.inj hafter
  obtain ⟨⟨r, v''⟩, hv''⟩ := Option.isSome_iff_exists.mp hpublished
  obtain ⟨L, hprovided⟩ := provided_runOps (.opened rfl) hrun
  obtain ⟨objects, hlisting⟩ := hprovided.listing
  obtain ⟨o, rest, hobjects, ho, -⟩ := List.map_eq_cons_iff.mp hitems
  simp only [Prod.mk.injEq] at ho
  obtain ⟨hptr, hname, hmethods, hevents⟩ := ho
  have hmem : o ∈ v.gServerObjects.items := by
    rw [hobjects]
    exact List.mem_cons_self
  have hstands : StandsAs 2 sampleObjectName.val o := by
    refine ⟨hptr, hname, ?_⟩
    rintro method (rfl | rfl)
    · refine ⟨⟨addHandlerName, .subscriptionHandler, 2⟩, ?_, rfl, hptr.symm⟩
      rw [ServerObject.method?, hmethods]
      decide
    · refine ⟨⟨removeHandlerName, .subscriptionHandler, 2⟩, ?_, rfl, hptr.symm⟩
      rw [ServerObject.method?, hmethods]
      decide
  have hlisteners := (hlisting.objects o (by
    rwa [hlisting.vector, RtVector.items_live] at hmem)).listeners sampleEventName.val
  rw [hevents, hptr] at hlisteners
  obtain ⟨reg, hreg, -⟩ := Option.map_eq_some_iff.mp hlisteners.symm
  refine ⟨v, v', reg.latest .empty, ?_, ⟨hcounter, ?_⟩, ?_, hconnected, r, v'', ?_⟩
  · exact ⟨⟨o, hmem, hstands⟩, L, objects, reg, hlisting, hreg, rfl⟩
  · exact List.isEmpty_iff.mp hqueue
  · exact Program.returns_of_run unheeded_of_agreeingAnswer hv'
  · exact Program.returns_of_run unheeded_of_agreeingAnswer hv''

theorem exists_call_of_request
    {q : PendingCall .scalars} {data : List UInt8} {topic : CString}
    (h : (q.firstCall.bind fun r => r.1.request?) = some (data, topic)) :
    ∃ con timeout w k, q = .call (.sendBinaryRequest con data topic timeout) w k := by
  cases q with
  | call e w k =>
      cases e with
      | sendBinaryRequest con data' topic' timeout =>
          obtain ⟨rfl, rfl⟩ := Prod.mk.inj (Option.some.inj h)
          exact ⟨con, timeout, w, k, rfl⟩
      | _ =>
          cases h
  | _ =>
      cases h

theorem steps_of_startingAnswer
    {object : CString}
    (e : Call Bytes (List UInt8)) (w : World Bytes (List UInt8)) (a : e.Answer)
    (w' : World Bytes (List UInt8))
    (h : startingAnswer e w = some (a, w')) :
    (SentTo object e → Refuses e a) ∧ Calm w w' := by
  cases e with
  | addDefaultListener =>
      obtain rfl := (Prod.mk.inj (Option.some.inj h)).2
      exact ⟨fun _ => trivial, Calm.refl w⟩
  | _ =>
      cases h

/-- A client that has subscribed, with the provider, after one request has been sent, has
arrived and has been answered. -/
theorem exists_subscribed :
    ∃ (s : System .scalars) (w : World Bytes (List UInt8)),
      System.Reachable 2 sampleObjectName.val sampleEventName.val .empty s ∧
        s.client = .idle w ∧ Publishes s.provider ∧
        tableEntries w.gEventSubscriptionsForClient.items =
          [(sampleObjectName.val, ⟨sampleEventName, 0, 0⟩)] := by
  obtain ⟨v, v', last, hserves, hidle, hreturns, hpublishes⟩ := exists_served
  obtain ⟨hsends, hends⟩ := sampleSubscribe_sends
  have hstarted := Prog.reaches_stop (R := fun e w a w' => startingAnswer e w = some (a, w'))
    (fun _ _ _ _ h => h) (sampleSubscribe.run sampleSubscriber)
  generalize (sampleSubscribe.run sampleSubscriber).stop startingAnswer = q
    at hsends hends hstarted
  obtain ⟨con, timeout, w₁, k, rfl⟩ := exists_call_of_request hsends
  obtain ⟨⟨ret, w₂⟩, hrun, hentries⟩ := Option.map_eq_some_iff.mp hends
  have hreturned : Program.Returns (fun e w a w' => startingAnswer e w = some (a, w'))
      (fun w => k (.ok (resultBytes .scalars 0)) w) w₁ ret w₂ :=
    Program.returns_of_run (fun _ _ _ _ h => h) hrun
  let c : Channel (List UInt8) := Channel.unused.send sampleRequest
  let m : Nat × List UInt8 := (0, sampleRequest)
  refine ⟨⟨.idle w₂, v', c.receive m []⟩, w₂, ⟨⟨.idle sampleSubscriber, v, .unused⟩, ?_, ?_⟩, rfl,
    hpublishes, hentries⟩
  · refine ⟨⟨sampleSubscriber, rfl, ⟨⟨[], rfl, rfl, tableInv_nil⟩, rfl⟩, ?_⟩, ⟨last, hserves⟩, rfl⟩
    rintro ⟨entry, hentry, -⟩
    exact absurd hentry List.not_mem_nil
  · refine Relation.ReflTransGen.head (.begins sampleSubscribe_fits) ?_
    refine (System.steps_of_reaches steps_of_startingAnswer hstarted v _).trans ?_
    refine Relation.ReflTransGen.head .sends ?_
    refine Relation.ReflTransGen.head (.arrives (m := m) rfl hidle hreturns) ?_
    refine Relation.ReflTransGen.head
      (.replies (m := m) (List.mem_singleton_self m) (resultBytes .scalars 0) (Calm.refl w₁)) ?_
    refine Relation.ReflTransGen.tail
      (System.steps_of_reaches steps_of_startingAnswer hreturned v' _) .ends

theorem entry_listens_sample :
    ∃ (s : System .scalars) (w : World Bytes (List UInt8)),
      s.client = .idle w ∧ HasEntry sampleObjectName.val sampleEventName.val w ∧
        Listens 2 sampleEventName.val .empty s.provider ∧
        ∀ m ∈ s.channel.inFlight, ¬Asks .scalars .empty m.2 sampleEventName.val false := by
  obtain ⟨s, w, hreachable, hidle, -, hentries⟩ := exists_subscribed
  have hentry : HasEntry sampleObjectName.val sampleEventName.val w := by
    refine ⟨(sampleObjectName.val, ⟨sampleEventName, 0, 0⟩), ?_, by decide⟩
    rw [hentries]
    exact List.mem_singleton_self _
  exact ⟨s, w, hidle, hentry, entry_listens (by decide) hreachable hidle hentry⟩

end Runs

end RbusCore
