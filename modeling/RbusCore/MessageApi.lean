import RbusCore.Types

/-!
# The message interface of the core library

`rbus_core.c` handles messages only through the functions of `rbus_message.h` and
the four metadata functions it declares itself.  `MessageApi` is that interface:
`M` is the message and `W` what travels on the wire.

A setter without a result is a write through a packer that was never initialised.
A string getter hands out a pointer into the buffer: its answer is the memory from
there to the end of the buffer.
-/

namespace RbusCore

open CStrings

/-- The message functions used by `rbus_core.c`. -/
class MessageApi (M : Type) (W : outParam Type) where
  init : M
  fromBytes : W → M
  toBytes : M → W
  setString : M → Option CString → Option M
  setInt32 : M → Int → Option M
  setMessage : M → M → Option M
  getString : M → Option (List UInt8) × M
  getInt32 : M → Option Int × M
  getMessage : M → Option M × M
  beginMetaSectionWrite : M → M
  endMetaSectionWrite : M → Option M
  beginMetaSectionRead : M → M
  endMetaSectionRead : M → M

end RbusCore
