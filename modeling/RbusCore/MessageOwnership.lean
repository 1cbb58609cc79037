import RbusCore.Frames

/-!
# Who releases a message

Code that dispatches a request makes messages of its own, a response and a payload, and
releases these only.  `Owning` says which predicates it keeps: they may depend on the messages
that existed before.

**Results.**
* `sat_rbusSendResponse_owning`: a response that is sent is released, and nothing else is.
* `sat_dispatchMethodCall_owning`: the same for the dispatch of a request.
-/

namespace RbusCore

open CStrings Resumption

section Owning

variable {M W : Type}

/-- A contract under which code keeps `P` that releases no message below `base`. -/
structure Owning
    (C : Contract (Call.Answer (M := M) (W := W)) (World M W)) (base : Ptr)
    (P : World M W → Prop) : Prop
    extends Notifying C P where
  locked : ∀ w, P w → P { w with mutexOwned := true, log := w.log ++ [.lock w.mutexOwned] }
  unlocked : ∀ w, P w → P { w with mutexOwned := false, log := w.log ++ [.unlock w.mutexOwned] }
  bounded : ∀ w, P w → base ≤ w.nextPtr
  created : ∀ w, P w → P { w with
    nextPtr := w.nextPtr + 1
    refCount := Function.update w.refCount w.nextPtr 1 }
  released : ∀ w p, base ≤ p → P w → P { w with
    refCount := Function.update w.refCount p (w.refCount p - 1) }
  flowCalled : ∀ w e, e.isFlow = true → P w → P { w with log := w.log ++ [.call e] }
  flowAtCall : ∀ e w, e.isFlow = true → P w → C.atCall e w

/-- A message of the code itself, unless it is NULL. -/
def OwnMessage (base : Ptr) (m : Option (MessageRef M)) : Prop :=
  ∀ x ∈ m, base ≤ x.ptr

variable {C : Contract (Call.Answer (M := M) (W := W)) (World M W)} {base : Ptr}
variable {P : World M W → Prop} (h : Owning C base P) {w : World M W}

include h

theorem sat_newMessage_owning
    (hw : P w)
    (m : M) :
    Program.Sat C (newMessage m) (fun r w' => base ≤ r.ptr ∧ P w') w :=
  ⟨h.bounded w hw, h.created w hw⟩

theorem sat_rbusMessageRelease_owning
    {m : MessageRef M}
    (hm : base ≤ m.ptr)
    (hw : P w) :
    Program.Sat C (rbusMessageRelease m : CoreM M W Unit) (fun _ => P) w := by
  rw [rbusMessageRelease, Program.sat_bind, Program.sat_getState, Program.sat_ite]
  split
  · exact h.atUndef _ (h.fault w .message rfl hw)
  · exact h.released w m.ptr hm hw

theorem sat_written_owning
    (hw : P w)
    (m : MessageRef M) (r : Option M) :
    Program.Sat C (written m r : CoreM M W (MessageRef M))
      (fun m' w' => m'.ptr = m.ptr ∧ P w') w := by
  cases r with
  | none =>
      exact h.atUndef _ (h.fault w .packer rfl hw)
  | some v =>
      exact ⟨rfl, hw⟩

theorem sat_newMessageUnlessNull_owning
    (hw : P w)
    (message : Option M) :
    Program.Sat C (newMessageUnlessNull message : CoreM M W (Option (MessageRef M)))
      (fun m w' => OwnMessage base m ∧ P w') w := by
  cases message with
  | none =>
      refine ⟨?_, hw⟩
      rintro m ⟨⟩
  | some message =>
      refine (sat_newMessage_owning h hw message).bind ?_
      rintro m w' ⟨hm, hw'⟩
      refine ⟨?_, hw'⟩
      rintro _ ⟨⟩
      exact hm

theorem keeps_flowCall_owning
    {e : Call M W}
    (he : e.isFlow = true) :
    Program.Keeps C P (call e) :=
  Program.keeps_bind (fun w hw => h.flowCalled w e he hw) fun _ =>
    Program.keeps_perform (fun w => h.flowAtCall e w he) fun w a w' hw henv =>
      h.env e w a w' henv hw

variable [MessageApi M W]

theorem sat_setMessageMethod_owning
    (hw : P w)
    (msg : MessageRef M) (method : Option CString) :
    Program.Sat C (setMessageMethod msg method : CoreM M W (MessageRef M))
      (fun m w' => m.ptr = msg.ptr ∧ P w') w := by
  refine (sat_written_owning h hw _ _).bind ?_
  rintro m₁ w₁ ⟨hptr₁, hw₁⟩
  rw [beginMetaSectionWriteRef_ptr] at hptr₁
  refine (sat_written_owning h hw₁ _ _).mono ?_
  rintro m₂ w₂ ⟨hptr₂, hw₂⟩
  exact ⟨hptr₂.trans hptr₁, hw₂⟩

theorem sat_responseOrUnsupported_owning
    {response : Option (MessageRef M)}
    (hresponse : OwnMessage base response)
    (hw : P w) :
    Program.Sat C (responseOrUnsupported response : CoreM M W (MessageRef M))
      (fun m w' => base ≤ m.ptr ∧ P w') w := by
  cases response with
  | none =>
      refine (sat_newMessage_owning h hw _).bind ?_
      rintro m₁ w₁ ⟨hm₁, hw₁⟩
      refine (sat_written_owning h hw₁ _ _).mono ?_
      rintro m₂ w₂ ⟨hptr, hw₂⟩
      exact ⟨hptr ▸ hm₁, hw₂⟩
  | some response =>
      exact ⟨hresponse response rfl, hw⟩

/-- A response that is sent is released. -/
theorem sat_rbusSendResponse_owning
    {response : Option (MessageRef M)}
    (hresponse : OwnMessage base response)
    (hw : P w)
    (hdr : RtMessageHeader) :
    Program.Sat C (rbusSendResponse hdr response : CoreM M W RbusError) (fun _ => P) w := by
  rw [rbusSendResponse, Program.sat_ite]
  split
  · refine (sat_responseOrUnsupported_owning h hresponse hw).bind ?_
    rintro m₁ w₁ ⟨hm₁, hw₁⟩
    refine (sat_setMessageMethod_owning h hw₁ m₁ _).bind ?_
    rintro m₂ w₂ ⟨hptr, hw₂⟩
    rw [Program.sat_bind, sat_gConnectionPtr]
    refine (keeps_flowCall_owning h rfl w₂ hw₂).bind fun err w₃ hw₃ => ?_
    exact (sat_rbusMessageRelease_owning h (hptr ▸ hm₁) hw₃).bind fun _ w₄ hw₄ => hw₄
  · exact hw

omit [MessageApi M W] in
theorem sat_appMethodCallback_owning
    (hw : P w)
    (id : Nat) (topic : CString) (methodName : Option (List UInt8)) (request : M)
    (data : Ptr) (hdr : RtMessageHeader) :
    Program.Sat C
      (appMethodCallback id topic methodName request data hdr :
        CoreM M W (RbusError × Option (MessageRef M)))
      (fun r w' => OwnMessage base r.2 ∧ P w') w := by
  refine (keeps_flowCall_owning h rfl w hw).bind fun result w₁ hw₁ => ?_
  refine (sat_newMessageUnlessNull_owning h hw₁ _).bind ?_
  rintro m w₂ ⟨hm, hw₂⟩
  exact ⟨hm, hw₂⟩

theorem sat_subscriptionPayload_owning
    (hw : P w)
    (hasPayload : Option Int) (request : M) :
    Program.Sat C (subscriptionPayload hasPayload request : CoreM M W (Option (MessageRef M)))
      (fun m w' => OwnMessage base m ∧ P w') w := by
  unfold subscriptionPayload
  split
  case h_1 payload _ =>
    exact sat_newMessageUnlessNull_owning h hw (some payload)
  case h_2 =>
    exact sat_newMessageUnlessNull_owning h hw none

omit [MessageApi M W] in
theorem sat_releaseUnlessNull_owning
    {message : Option (MessageRef M)}
    (hmessage : OwnMessage base message)
    (hw : P w) :
    Program.Sat C (releaseUnlessNull message : CoreM M W Unit) (fun _ => P) w := by
  cases message with
  | none =>
      exact hw
  | some message =>
      exact sat_rbusMessageRelease_owning h (hmessage message rfl) hw

theorem sat_handleSubscription_owning
    (hw : P w)
    (methodName : Option (List UInt8)) (eventName sender : List UInt8) (request : M)
    (userData : Ptr) :
    Program.Sat C
      (handleSubscription methodName eventName sender request userData : CoreM M W RbusError)
      (fun _ => P) w := by
  have hcalling := h.toCalling
  refine (sat_subscriptionPayload_owning h hw _ _).bind ?_
  rintro payload w₁ ⟨hpayload, hw₁⟩
  refine (keeps_deref hcalling _ w₁ hw₁).bind fun name w₂ hw₂ => ?_
  refine (keeps_strncmpAt hcalling _ _ _ w₂ hw₂).bind fun order w₃ hw₃ => ?_
  refine (keeps_serverObjectSubscriptionHandler h.toNotifying _ _ _ _ _ w₃ hw₃).bind
    fun ret w₄ hw₄ => ?_
  exact (sat_releaseUnlessNull_owning h hpayload hw₄).bind fun _ w₅ hw₅ => hw₅

theorem sat_subscriptionHandler_owning
    (hw : P w)
    (methodName : Option (List UInt8)) (request : M) (userData : Ptr) :
    Program.Sat C
      (subscriptionHandler methodName request userData :
        CoreM M W (RbusError × Option (MessageRef M)))
      (fun r w' => OwnMessage base r.2 ∧ P w') w := by
  have hown {m : MessageRef M} (hm : base ≤ m.ptr) : OwnMessage base (some m) := by
    rintro _ ⟨⟩
    exact hm
  refine (sat_newMessage_owning h hw _).bind ?_
  rintro out w₁ ⟨hout, hw₁⟩
  dsimp only
  split
  · refine (sat_handleSubscription_owning h hw₁ _ _ _ _ _).bind fun ret w₂ hw₂ => ?_
    refine (sat_written_owning h hw₂ _ _).bind ?_
    rintro out' w₃ ⟨hptr, hw₃⟩
    exact ⟨hown (hptr ▸ hout), hw₃⟩
  · exact ⟨hown hout, hw₁⟩

theorem sat_dispatchTo_owning
    (hw : P w)
    (method : Option ServerMethod) (obj : Ptr) (methodName : Option (List UInt8)) (request : M)
    (hdr : RtMessageHeader) :
    Program.Sat C (dispatchTo method obj methodName request hdr : CoreM M W Unit)
      (fun _ => P) w := by
  cases method with
  | some method =>
      have hinvoke : Program.Sat C
          (invokeMethodCallback method.callback hdr.topic methodName request method.data hdr)
          (fun r w' => OwnMessage base r.2 ∧ P w') w := by
        unfold invokeMethodCallback
        split
        · exact sat_subscriptionHandler_owning h hw _ _ _
        · exact sat_appMethodCallback_owning h hw _ _ _ _ _ _
      refine hinvoke.bind ?_
      rintro result w₁ ⟨hresponse, hw₁⟩
      exact (sat_rbusSendResponse_owning h hresponse hw₁ hdr).bind fun _ w₂ hw₂ => hw₂
  | none =>
      refine (keeps_derefObject h.toCalling obj w hw).bind fun object w₁ hw₁ => ?_
      refine (sat_appMethodCallback_owning h hw₁ _ _ _ _ _ _).bind ?_
      rintro result w₂ ⟨hresponse, hw₂⟩
      rw [Program.sat_ite]
      split
      · exact hw₂
      · exact (sat_rbusSendResponse_owning h hresponse hw₂ hdr).bind fun _ w₃ hw₃ => hw₃

/-- The dispatch of a request releases its own messages only. -/
theorem sat_dispatchMethodCall_owning
    (hw : P w)
    (msg : MessageRef M) (hdr : RtMessageHeader) (obj : Ptr) :
    Program.Sat C (dispatchMethodCall msg hdr obj : CoreM M W Unit) (fun _ => P) w := by
  have hcalling := h.toCalling
  refine (keeps_derefMessage hcalling msg w hw).bind fun m w₁ hw₁ => ?_
  rw [Program.sat_bind, sat_lock]
  refine (keeps_derefObject hcalling obj _ (h.locked w₁ hw₁)).bind fun object w₂ hw₂ => ?_
  refine (keeps_findMethod hcalling _ _ w₂ hw₂).bind fun method w₃ hw₃ => ?_
  rw [Program.sat_bind, sat_unlock]
  exact sat_dispatchTo_owning h (h.unlocked w₃ hw₃) _ _ _ _ _

end Owning

end RbusCore
