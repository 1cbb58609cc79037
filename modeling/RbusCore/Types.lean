import RbusCore.Lib.CString

/-!
# Constants and error codes

The enumerations of `rbus_types.h`, the integer conversions, the transport error codes that `rbus_core.c`
distinguishes, the name limits of `rbus_core.h` and the names the library itself
puts on the wire.
-/

namespace RbusCore

open CStrings

/-- `rtError` of the transport; `other` is every code the library does not name. -/
inductive RtError where
  | rtOk
  | rtFail
  | rtErrorTimeout
  | rtErrorDuplicateEntry
  | rtObjectNoLongerAvailable
  | other (code : Nat)
deriving DecidableEq, Repr

/-- `rbus_error_t`; `unknown` is an integer cast to the enumeration. -/
inductive RbusError where
  | success
  | errorGeneral
  | errorInvalidParam
  | errorInsufficientMemory
  | errorInvalidState
  | errorRemoteEndDeclinedToRespond
  | errorRemoteEndFailedToRespond
  | errorRemoteTimedOut
  | errorMalformedResponse
  | errorUnsupportedMethod
  | errorUnsupportedEvent
  | errorOutOfResources
  | errorDestinationUnreachable
  | successAsync
  | subscribeNotHandled
  | eventNotHandled
  | errorDuplicateEntry
  | unknown (code : Int)
deriving DecidableEq, Repr

/-- The integer a code has in C and on the wire. -/
def RbusError.toInt : RbusError → Int
  | .success => 0
  | .errorGeneral => 1
  | .errorInvalidParam => 2
  | .errorInsufficientMemory => 3
  | .errorInvalidState => 4
  | .errorRemoteEndDeclinedToRespond => 5
  | .errorRemoteEndFailedToRespond => 6
  | .errorRemoteTimedOut => 7
  | .errorMalformedResponse => 8
  | .errorUnsupportedMethod => 9
  | .errorUnsupportedEvent => 10
  | .errorOutOfResources => 11
  | .errorDestinationUnreachable => 12
  | .successAsync => 13
  | .subscribeNotHandled => 14
  | .eventNotHandled => 15
  | .errorDuplicateEntry => 16
  | .unknown code => code

/-- The enumerators. -/
def RbusError.named : List RbusError :=
  [.success, .errorGeneral, .errorInvalidParam, .errorInsufficientMemory,
    .errorInvalidState, .errorRemoteEndDeclinedToRespond,
    .errorRemoteEndFailedToRespond, .errorRemoteTimedOut, .errorMalformedResponse,
    .errorUnsupportedMethod, .errorUnsupportedEvent, .errorOutOfResources,
    .errorDestinationUnreachable, .successAsync, .subscribeNotHandled,
    .eventNotHandled, .errorDuplicateEntry]

/-- The cast `(rbus_error_t)result`. -/
def RbusError.ofInt (n : Int) : RbusError :=
  (RbusError.named.find? (fun e => e.toInt = n)).getD (.unknown n)

/-- A cast keeps the integer. -/
@[simp] theorem RbusError.toInt_ofInt
    (n : Int) :
    (RbusError.ofInt n).toInt = n := by
  unfold RbusError.ofInt
  cases h : RbusError.named.find? (fun e => e.toInt = n) with
  | none =>
      rfl
  | some e =>
      simpa using List.find?_some h

/-- `rbuscore_bus_status_t`. -/
inductive RbuscoreBusStatus where
  | enabled
  | enabledPending
  | disabledPending
  | disabled
deriving DecidableEq, Repr

/-- Conversion to `int32_t`. -/
def toInt32 (n : Int) : Int := Int.bmod n 4294967296

theorem toInt32_of_range
    {n : Int}
    (hlow : -2147483648 ≤ n)
    (hhigh : n < 2147483648) :
    toInt32 n = n :=
  Int.bmod_eq_of_le_mul_two (by omega) (by omega)

/-- Conversion to `int64_t`. -/
def toInt64 (n : Int) : Int := Int.bmod n 18446744073709551616

/-- Conversion to `size_t`. -/
def toSizeT (n : Int) : Nat := (n % 18446744073709551616).toNat

/-- `MAX_OBJECT_NAME_LENGTH`, the topic length of the transport header. -/
abbrev maxObjectNameLength : Nat := 128

/-- `MAX_METHOD_NAME_LENGTH`. -/
abbrev maxMethodNameLength : Nat := 64

/-- `MAX_EVENT_NAME_LENGTH`. -/
abbrev maxEventNameLength : Nat := maxObjectNameLength

/-- `MAX_SUBSCRIBER_NAME_LENGTH`. -/
abbrev maxSubscriberNameLength : Nat := maxObjectNameLength

/-- `MAX_SUPPORTED_METHODS`. -/
abbrev maxSupportedMethods : Nat := 32

/-- `TIMEOUT_VALUE_FIRE_AND_FORGET`, in milliseconds. -/
abbrev timeoutValueFireAndForget : Int := 1000

/-- `MAX_DAEMON_ADDRESS_LEN`. -/
abbrev maxDaemonAddressLen : Nat := 256

/-- `DEFAULT_EVENT`. -/
abbrev defaultEvent : CString := CString.empty

/-- `METHOD_ADD_EVENT_SUBSCRIPTION`. -/
def methodAddEventSubscription : CString :=
  .ofChars ['_', 's', 'u', 'b', 's', 'c', 'r', 'i', 'b', 'e']

/-- `METHOD_REMOVE_EVENT_SUBSCRIPTION`. -/
def methodRemoveEventSubscription : CString :=
  .ofChars ['_', 'u', 'n', 's', 'u', 'b', 's', 'c', 'r', 'i', 'b', 'e']

/-- The names of the reserved methods fit into a record. -/
theorem handlerNames_fit :
    methodAddEventSubscription.strlen < maxMethodNameLength ∧
      methodRemoveEventSubscription.strlen < maxMethodNameLength := by
  decide

/-- The name of the method that adds listeners. -/
def addHandlerName : BoundedName maxMethodNameLength :=
  ⟨methodAddEventSubscription, handlerNames_fit.1⟩

/-- The name of the method that removes listeners. -/
def removeHandlerName : BoundedName maxMethodNameLength :=
  ⟨methodRemoveEventSubscription, handlerNames_fit.2⟩

/-- `METHOD_RESPONSE`. -/
def methodResponse : CString :=
  .ofChars ['M', 'E', 'T', 'H', 'O', 'D', '_', 'R', 'E', 'S', 'P', 'O', 'N', 'S', 'E']

/-- `METHOD_SETPARAMETERVALUES`. -/
def methodSetParameterValues : CString :=
  .ofChars ['M', 'E', 'T', 'H', 'O', 'D', '_', 'S', 'E', 'T', 'P', 'A', 'R', 'A', 'M',
    'E', 'T', 'E', 'R', 'V', 'A', 'L', 'U', 'E', 'S']

/-- `METHOD_GETPARAMETERVALUES`. -/
def methodGetParameterValues : CString :=
  .ofChars ['M', 'E', 'T', 'H', 'O', 'D', '_', 'G', 'E', 'T', 'P', 'A', 'R', 'A', 'M',
    'E', 'T', 'E', 'R', 'V', 'A', 'L', 'U', 'E', 'S']

/-- `rtMessageHeader`: the fields the library reads. -/
structure RtMessageHeader where
  topic : CString
  replyTopic : CString
  sequenceNumber : Nat
  request : Bool
deriving DecidableEq

/-- `rtMessageHeader_IsRequest`. -/
def rtMessageHeaderIsRequest (hdr : RtMessageHeader) : Bool := hdr.request

end RbusCore
