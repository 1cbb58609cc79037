import Mathlib.Data.List.Basic
import RbusCore.Lib.MessagePack
import RbusCore.MessageApi

/-!
# Messages as byte buffers

The functions of `rbus_message.c`.  A message is its packed buffer, the flag that
says whether `msgpack_packer_init` has run on it (a message made from bytes has no
packer), the read cursor and the shared metadata offset.  The scratch field `upk`
is left out: every function that reads it has just filled it.

Sizes and offsets follow the C types: `int` values wrap at 32 bits and are sign
extended when they become a `size_t`.
-/

namespace RbusCore

open CStrings MessagePack

/-- `struct _rbusMessage`, read through the unpacker `U`. -/
structure RbusMessage (U : Unpacker) where
  sbuf : List UInt8
  pk : Bool
  readOffset : Nat
  metaOffset : Int
deriving DecidableEq

/-- What `rbusMessage_GetString` hands out: where the characters start in the
buffer, and the size of the string item. -/
structure StringPtr where
  offset : Nat
  size : Nat
deriving DecidableEq

/-- `via.i64` of an integer object: the union is read at its signed member. -/
def viaI64 : Obj → Int
  | .posInt n => toInt64 n
  | .negInt i => i
  | _ => 0

section Functions

variable {U : Unpacker}

/-- `rbusMessage_Init`. -/
def rbusMessageInit : RbusMessage U :=
  { sbuf := [], pk := true, readOffset := 0, metaOffset := 0 }

/-- `rbusMessage_FromBytes`: the packer is not initialised. -/
def rbusMessageFromBytes (buff : List UInt8) : RbusMessage U :=
  { sbuf := buff, pk := false, readOffset := 0, metaOffset := 0 }

/-- `rbusMessage_ToBytes`: the size is reported in 32 bits. -/
def rbusMessageToBytes (m : RbusMessage U) : List UInt8 :=
  m.sbuf.take (m.sbuf.length % 4294967296)

/-- Append through the packer. -/
def packerWrite (m : RbusMessage U) (bytes : List UInt8) : Option (RbusMessage U) :=
  if m.pk then some { m with sbuf := m.sbuf ++ bytes } else none

/-- `rbusMessage_SetString`: the terminator is packed with the characters. -/
def rbusMessageSetString
    (m : RbusMessage U) (value : Option CString) :
    Option (RbusMessage U) :=
  let value := value.getD CString.empty
  let length := toSizeT (toInt32 (value.strlen + 1))
  -- a length that wrapped would copy memory behind the string
  if length ≤ value.strlen + 1 then
    packerWrite m (packStr length ++ value.memory.take length)
  else none

/-- `rbusMessage_SetBytes`. -/
def rbusMessageSetBytes
    (m : RbusMessage U) (bytes : List UInt8) :
    Option (RbusMessage U) :=
  packerWrite m (packBin bytes.length ++ bytes)

/-- `rbusMessage_SetInt32`. -/
def rbusMessageSetInt32 (m : RbusMessage U) (value : Int) : Option (RbusMessage U) :=
  packerWrite m (packInt (toInt32 value))

/-- `rbusMessage_SetInt64`. -/
def rbusMessageSetInt64 (m : RbusMessage U) (value : Int) : Option (RbusMessage U) :=
  packerWrite m (packInt (toInt64 value))

/-- `rbusMessage_SetDouble`, on the bit pattern of the value. -/
def rbusMessageSetDouble (m : RbusMessage U) (bits : UInt64) : Option (RbusMessage U) :=
  packerWrite m (packDouble bits)

/-- `rbusMessage_SetMessage`, of another message. -/
def rbusMessageSetMessage (m item : RbusMessage U) : Option (RbusMessage U) :=
  packerWrite m (packBin item.sbuf.length ++ item.sbuf)

/-- `VERIFY_UNPACK_NEXT_ITEM`: the next object, with the cursor behind it. -/
def unpackNextItem (m : RbusMessage U) : Option Obj × RbusMessage U :=
  ((U.next m.sbuf m.readOffset).1,
    { m with readOffset := (U.next m.sbuf m.readOffset).2 })

/-- `rbusMessage_GetString`. -/
def rbusMessageGetString (m : RbusMessage U) : Option StringPtr × RbusMessage U :=
  match unpackNextItem m with
  | (some (.str payload), m') =>
      (some ⟨m'.readOffset - payload.length, payload.length⟩, m')
  | (_, m') => (none, m')

/-- The C string at a pointer into the buffer. -/
def RbusMessage.cstringAt (m : RbusMessage U) (p : StringPtr) : Option CString :=
  CString.ofMemory (m.sbuf.drop p.offset)

/-- `rbusMessage_GetBytes`. -/
def rbusMessageGetBytes (m : RbusMessage U) : Option (List UInt8) × RbusMessage U :=
  match unpackNextItem m with
  | (some (.bin payload), m') => (some payload, m')
  | (_, m') => (none, m')

/-- `rbusMessage_GetInt32`: both integer types are accepted. -/
def rbusMessageGetInt32 (m : RbusMessage U) : Option Int × RbusMessage U :=
  match unpackNextItem m with
  | (some (.posInt n), m') => (some (toInt32 (viaI64 (.posInt n))), m')
  | (some (.negInt i), m') => (some (toInt32 (viaI64 (.negInt i))), m')
  | (_, m') => (none, m')

/-- `rbusMessage_GetInt64`. -/
def rbusMessageGetInt64 (m : RbusMessage U) : Option Int × RbusMessage U :=
  match unpackNextItem m with
  | (some (.posInt n), m') => (some (viaI64 (.posInt n)), m')
  | (some (.negInt i), m') => (some (viaI64 (.negInt i)), m')
  | (_, m') => (none, m')

/-- `rbusMessage_GetDouble`, as a bit pattern. -/
def rbusMessageGetDouble (m : RbusMessage U) : Option UInt64 × RbusMessage U :=
  match unpackNextItem m with
  | (some (.float64 bits), m') => (some bits, m')
  | (_, m') => (none, m')

/-- `rbusMessage_GetMessage`. -/
def rbusMessageGetMessage (m : RbusMessage U) : Option (RbusMessage U) × RbusMessage U :=
  match unpackNextItem m with
  | (some (.bin payload), m') => (some (rbusMessageFromBytes payload), m')
  | (_, m') => (none, m')

/-- `rbusMessage_BeginMetaSectionWrite`. -/
def rbusMessageBeginMetaSectionWrite (m : RbusMessage U) : RbusMessage U :=
  { m with metaOffset := toInt32 m.sbuf.length }

/-- The section offset with its sign bit set, as the trailer packs it. -/
def maskedOffset (metaOffset : Int) : Int :=
  (BitVec.ofInt 32 metaOffset ||| 0x80000000#32).toInt

/-- `rbusMessage_EndMetaSectionWrite`: the offset is packed with its sign bit set
and the bit is cleared again in place. -/
def rbusMessageEndMetaSectionWrite (m : RbusMessage U) : Option (RbusMessage U) :=
  match packerWrite m (packInt (maskedOffset m.metaOffset)) with
  | none => none
  | some m' =>
      if 4 ≤ m'.sbuf.length then
        some { m' with sbuf := m'.sbuf.modify (m'.sbuf.length - 4) (· &&& 0x7F) }
      else none

/-- `rbusMessage_BeginMetaSectionRead`: the trailer is read from the end and its
value becomes the cursor; the result of the read is not checked. -/
def rbusMessageBeginMetaSectionRead (m : RbusMessage U) : RbusMessage U :=
  let saved : RbusMessage U :=
    { m with
      metaOffset := toInt32 m.readOffset
      readOffset := toSizeT ((m.sbuf.length : Int) - 5) }
  let sectionOffset := rbusMessageGetInt32 saved
  { sectionOffset.2 with readOffset := toSizeT (sectionOffset.1.getD 0) }

/-- `rbusMessage_EndMetaSectionRead`. -/
def rbusMessageEndMetaSectionRead (m : RbusMessage U) : RbusMessage U :=
  { m with readOffset := toSizeT m.metaOffset }

end Functions

section DebugString

/-- `ALLOC_INCREMENT`. -/
abbrev allocIncrement : Nat := 2048

/-- The text buffer of `rbusMessage_ToDebugString` with its write position.
`inBounds` is lost at the first access outside the buffer. -/
structure DebugText where
  buffer : List UInt8
  writeOffset : Int
  inBounds : Bool
deriving DecidableEq

/-- `buffer[i] = c`. -/
def DebugText.put (t : DebugText) (i : Int) (c : UInt8) : DebugText :=
  if 0 ≤ i ∧ i < allocIncrement then { t with buffer := t.buffer.set i.toNat c }
  else { t with inBounds := false }

/-- `buffer[write_offset++] = c`. -/
def DebugText.append (t : DebugText) (c : UInt8) : DebugText :=
  { t.put t.writeOffset c with writeOffset := t.writeOffset + 1 }

/-- Space left in the buffer. -/
def DebugText.room (t : DebugText) : Int := (allocIncrement : Int) - t.writeOffset

/-- The special test for strings: quotes and terminator have to fit as well. -/
def DebugText.tooLong (t : DebugText) : Obj → Bool
  | .str payload => decide (toInt32 payload.length > t.room - 3)
  | _ => false

/-- `msgpack_object_print_buffer`: as much of the text as fits, a terminator, and
the length of the whole text added to the position. -/
def DebugText.printItem (t : DebugText) (text : List UInt8) : DebugText :=
  let shown := text.take (t.room.toNat - 1)
  let written := (shown ++ [0]).zipIdx.foldl
    (fun (t' : DebugText) (c : UInt8 × Nat) => t'.put (t.writeOffset + c.2) c.1) t
  { written with writeOffset := t.writeOffset + text.length }

/-- The separator behind an item that left room for it. -/
def DebugText.separate (t : DebugText) : DebugText :=
  if 1 < t.room then
    let t' := t.append 32
    t'.put t'.writeOffset 0
  else t

/-- Three dots and a terminator, moved back when they do not fit. -/
def DebugText.ellipsis (t : DebugText) : DebugText :=
  let t' := if t.room ≤ 4 then { t with writeOffset := (allocIncrement : Int) - 4 } else t
  (((t'.append 46).append 46).append 46).append 0

/-- `write_offset && (' ' == buffer[write_offset - 1])` and what follows it. -/
def DebugText.trim (t : DebugText) : DebugText :=
  if t.writeOffset = 0 then t
  else if 0 ≤ t.writeOffset - 1 ∧ t.writeOffset - 1 < allocIncrement then
    if t.buffer[(t.writeOffset - 1).toNat]? = some 32 then
      { t with writeOffset := t.writeOffset - 1 }.put (t.writeOffset - 1) 0
    else t
  else { t with inBounds := false }

variable {U : Unpacker}

/-- The loop over the items.  Every item takes at least one byte, so as many rounds
as there are bytes reach the end. -/
def debugStringLoop
    (print : Obj → List UInt8) :
    Nat → RbusMessage U → DebugText → RbusMessage U × DebugText
  | 0, m, t => (m, t)
  | rounds + 1, m, t =>
      match unpackNextItem m with
      | (none, m') => (m', t)
      | (some o, m') =>
          if 1 ≥ t.room ∨ t.tooLong o = true then (m', t.ellipsis)
          else debugStringLoop print rounds m' (t.printItem (print o)).separate

/-- `rbusMessage_ToDebugString`: the message afterwards and the text.  `print` is
the text of an item and `uninit` the fresh buffer. -/
def rbusMessageToDebugString
    (print : Obj → List UInt8) (uninit : List UInt8) (m : RbusMessage U) :
    RbusMessage U × DebugText :=
  let savedOffset := toInt32 m.readOffset
  let start : RbusMessage U := { m with readOffset := 0 }
  let looped := debugStringLoop print (m.sbuf.length + 1) start
    { buffer := uninit, writeOffset := 0, inBounds := true }
  ({ looped.1 with readOffset := toSizeT savedOffset }, looped.2.trim)

end DebugString

/-- The byte messages are an implementation of the interface. -/
instance (U : Unpacker) : MessageApi (RbusMessage U) (List UInt8) where
  init := rbusMessageInit
  fromBytes := rbusMessageFromBytes
  toBytes := rbusMessageToBytes
  setString := rbusMessageSetString
  setInt32 := rbusMessageSetInt32
  setMessage := rbusMessageSetMessage
  getString m :=
    ((rbusMessageGetString m).1.map fun p => (rbusMessageGetString m).2.sbuf.drop p.offset,
      (rbusMessageGetString m).2)
  getInt32 := rbusMessageGetInt32
  getMessage := rbusMessageGetMessage
  beginMetaSectionWrite := rbusMessageBeginMetaSectionWrite
  endMetaSectionWrite := rbusMessageEndMetaSectionWrite
  beginMetaSectionRead := rbusMessageBeginMetaSectionRead
  endMetaSectionRead := rbusMessageEndMetaSectionRead

section Interface

variable {U : Unpacker}

@[simp] theorem messageApi_init :
    (MessageApi.init : RbusMessage U) = rbusMessageInit :=
  rfl

@[simp] theorem messageApi_fromBytes
    (buff : List UInt8) :
    (MessageApi.fromBytes buff : RbusMessage U) = rbusMessageFromBytes buff :=
  rfl

@[simp] theorem messageApi_toBytes
    (m : RbusMessage U) :
    MessageApi.toBytes m = rbusMessageToBytes m :=
  rfl

@[simp] theorem messageApi_setString
    (m : RbusMessage U)
    (value : Option CString) :
    MessageApi.setString m value = rbusMessageSetString m value :=
  rfl

@[simp] theorem messageApi_setInt32
    (m : RbusMessage U)
    (value : Int) :
    MessageApi.setInt32 m value = rbusMessageSetInt32 m value :=
  rfl

@[simp] theorem messageApi_getString
    (m : RbusMessage U) :
    MessageApi.getString m =
      ((rbusMessageGetString m).1.map fun p => (rbusMessageGetString m).2.sbuf.drop p.offset,
        (rbusMessageGetString m).2) :=
  rfl

@[simp] theorem messageApi_getInt32
    (m : RbusMessage U) :
    MessageApi.getInt32 m = rbusMessageGetInt32 m :=
  rfl

@[simp] theorem messageApi_beginMetaSectionWrite
    (m : RbusMessage U) :
    MessageApi.beginMetaSectionWrite m = rbusMessageBeginMetaSectionWrite m :=
  rfl

@[simp] theorem messageApi_endMetaSectionWrite
    (m : RbusMessage U) :
    MessageApi.endMetaSectionWrite m = rbusMessageEndMetaSectionWrite m :=
  rfl

@[simp] theorem messageApi_beginMetaSectionRead
    (m : RbusMessage U) :
    MessageApi.beginMetaSectionRead m = rbusMessageBeginMetaSectionRead m :=
  rfl

@[simp] theorem messageApi_endMetaSectionRead
    (m : RbusMessage U) :
    MessageApi.endMetaSectionRead m = rbusMessageEndMetaSectionRead m :=
  rfl

/-- Messages as bytes, with the reader that stops at malformed objects. -/
abbrev Bytes : Type := RbusMessage .scalars

end Interface

end RbusCore
