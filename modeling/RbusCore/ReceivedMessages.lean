import RbusCore.MetaSection
import RbusCore.Publish

/-!
# Messages made from bytes

`rbusMessage_FromBytes` fills the buffer and sets both offsets as `rbusMessage_Init` does,
but it does not initialise the packer.  A message that was received, or taken out of another
one, can be read like the message it was made from; the first write to it is undefined.

**Results.**
* `step_withoutPacker`: an operation on a message without a packer.
* `setMessageMethod_section`, `eventMetaSection?_section`: what forwarding does to a message.
* `received_agrees_iff`: which sequences of operations cannot tell a received message from
  the original.
-/

namespace RbusCore

open CStrings MessagePack Resumption

section Operations

variable {U : Unpacker}

/-- The operations on one message.  `setInto` writes it into another message. -/
inductive MessageOp (U : Unpacker) where
  | set (a : Setting U)
  | get (k : Kind)
  | setInto (outer : RbusMessage U)
  | toBytes
  | beginMetaSectionWrite
  | endMetaSectionWrite
  | beginMetaSectionRead
  | endMetaSectionRead

/-- What an operation answers. -/
inductive MessageAnswer (U : Unpacker) where
  | nothing
  | reading (r : Option (Reading U))
  | outer (m : RbusMessage U)
  | bytes (b : List UInt8)
deriving DecidableEq

namespace MessageOp

/-- The operations that write through the packer of the message. -/
def writes : MessageOp U → Bool
  | .set _ | .endMetaSectionWrite => true
  | _ => false

/-- One operation; there is no result where the behaviour is undefined. -/
def step (m : RbusMessage U) : MessageOp U → Option (MessageAnswer U × RbusMessage U)
  | .set a => (rbusMessageSet m a).map fun m' => (.nothing, m')
  | .get k => some (.reading (rbusMessageGet m k).1, (rbusMessageGet m k).2)
  | .setInto outer => (rbusMessageSetMessage outer m).map fun outer' => (.outer outer', m)
  | .toBytes => some (.bytes (rbusMessageToBytes m), m)
  | .beginMetaSectionWrite => some (.nothing, rbusMessageBeginMetaSectionWrite m)
  | .endMetaSectionWrite => (rbusMessageEndMetaSectionWrite m).map fun m' => (.nothing, m')
  | .beginMetaSectionRead => some (.nothing, rbusMessageBeginMetaSectionRead m)
  | .endMetaSectionRead => some (.nothing, rbusMessageEndMetaSectionRead m)

/-- Several operations, with what they answer. -/
def run : List (MessageOp U) → RbusMessage U → Option (List (MessageAnswer U) × RbusMessage U)
  | [], m => some ([], m)
  | op :: ops, m =>
      (op.step m).bind fun r => (run ops r.2).map fun s => (r.1 :: s.1, s.2)

end MessageOp

/-- The operations that write a metadata section. -/
def sectionOps (as : List (Setting U)) : List (MessageOp U) :=
  .beginMetaSectionWrite :: as.map .set ++ [.endMetaSectionWrite]

/-- The message a sequence of operations leaves. -/
def messageAfter (ops : List (MessageOp U)) (m : RbusMessage U) : Option (RbusMessage U) :=
  (MessageOp.run ops m).map Prod.snd

theorem messageAfter_cons
    (op : MessageOp U) (ops : List (MessageOp U)) (m : RbusMessage U) :
    messageAfter (op :: ops) m = (op.step m).bind fun r => messageAfter ops r.2 := by
  simp only [messageAfter, MessageOp.run]
  cases op.step m with
  | none =>
      rfl
  | some r =>
      simp [Option.map_map, Function.comp_def]

/-- A section is begun, its values are set, and it is ended. -/
theorem messageAfter_section
    (as : List (Setting U)) (m : RbusMessage U) :
    messageAfter (sectionOps as) m = writeMetaSection m as := by
  have hsets (m : RbusMessage U) :
      messageAfter (as.map .set ++ [.endMetaSectionWrite]) m =
        (rbusMessageSets m as).bind rbusMessageEndMetaSectionWrite := by
    induction as generalizing m with
    | nil =>
        rw [List.map_nil, List.nil_append, messageAfter_cons]
        simp only [MessageOp.step, Option.bind_map, rbusMessageSets, List.foldlM_nil]
        cases h : rbusMessageEndMetaSectionWrite m <;> simp [h, messageAfter, MessageOp.run]
    | cons a as ih =>
        rw [List.map_cons, List.cons_append, messageAfter_cons]
        simp only [MessageOp.step, Option.bind_map, rbusMessageSets, List.foldlM_cons]
        cases rbusMessageSet m a with
        | none =>
            rfl
        | some m' =>
            exact ih m'
  rw [sectionOps, List.cons_append, messageAfter_cons]
  exact hsets (rbusMessageBeginMetaSectionWrite m)

theorem setStringRef_eq
    (m : MessageRef (RbusMessage U)) (value : Option CString) :
    setStringRef (W := List UInt8) m value = written m (rbusMessageSetString m.val value) := by
  rw [setStringRef, messageApi_setString]

theorem setInt32Ref_eq
    (m : MessageRef (RbusMessage U)) (value : Int) :
    setInt32Ref (W := List UInt8) m value = written m (rbusMessageSetInt32 m.val value) := by
  rw [setInt32Ref, messageApi_setInt32]

theorem endMetaSectionWriteRef_eq
    (m : MessageRef (RbusMessage U)) :
    endMetaSectionWriteRef (W := List UInt8) m =
      written m (rbusMessageEndMetaSectionWrite m.val) := by
  rw [endMetaSectionWriteRef, messageApi_endMetaSectionWrite]

theorem beginMetaSectionWriteRef_eq
    (m : MessageRef (RbusMessage U)) :
    beginMetaSectionWriteRef m = ⟨m.ptr, rbusMessageBeginMetaSectionWrite m.val⟩ := by
  rw [beginMetaSectionWriteRef, messageApi_beginMetaSectionWrite]

/-- A request or a response is forwarded by writing the section of its method to it. -/
theorem setMessageMethod_section
    (msg : MessageRef (RbusMessage U))
    (method : Option CString) :
    setMessageMethod (W := List UInt8) msg method =
      written msg (messageAfter (sectionOps [.str method]) msg.val) := by
  rw [messageAfter_section]
  simp only [setMessageMethod, setStringRef_eq, endMetaSectionWriteRef_eq,
    beginMetaSectionWriteRef_eq, writeMetaSection, rbusMessageSets, List.foldlM_cons,
    List.foldlM_nil, rbusMessageSet, bind_pure, written_bind]
  exact written_val _ _ _ _

/-- An event is published by writing the section of the event to the message. -/
theorem eventMetaSection?_section
    (m : RbusMessage U)
    (eventName objectName : CString)
    (flag : Int32) :
    eventMetaSection? (W := List UInt8) m eventName objectName flag.toInt =
      messageAfter (sectionOps [.str eventName, .str objectName, .int32 flag]) m := by
  rw [messageAfter_section, writeMetaSection]
  simp only [eventMetaSection?, messageApi_beginMetaSectionWrite, messageApi_setString,
    messageApi_setInt32, messageApi_endMetaSectionWrite, rbusMessageSets, List.foldlM_cons,
    List.foldlM_nil, rbusMessageSet, bind_pure, Option.bind_eq_bind, Option.bind_assoc]

end Operations

section Received

variable {U : Unpacker}

/-- The same message without a packer. -/
def withoutPacker (m : RbusMessage U) : RbusMessage U := { m with pk := false }

/-- Unpacking does not look at the packer. -/
theorem rbusMessageGet_withoutPacker
    (m : RbusMessage U)
    (k : Kind) :
    rbusMessageGet (withoutPacker m) k =
      ((rbusMessageGet m k).1, withoutPacker (rbusMessageGet m k).2) := by
  cases k <;>
    simp only [rbusMessageGet, rbusMessageGetString, rbusMessageGetBytes,
      rbusMessageGetInt32, rbusMessageGetInt64, rbusMessageGetDouble,
      rbusMessageGetMessage, unpackNextItem, RbusMessage.cstringAt, withoutPacker] <;>
    cases (U.next m.sbuf m.readOffset).1 with
    | none => simp
    | some o => cases o <;> simp

theorem rbusMessageSet_withoutPacker
    (m : RbusMessage U)
    (a : Setting U) :
    rbusMessageSet (withoutPacker m) a = none := by
  have hwrite (bytes : List UInt8) : packerWrite (withoutPacker m) bytes = none := by
    simp [packerWrite, withoutPacker]
  cases a <;>
    simp only [rbusMessageSet, rbusMessageSetString, rbusMessageSetBytes, rbusMessageSetInt32,
      rbusMessageSetInt64, rbusMessageSetDouble, rbusMessageSetMessage, hwrite, ite_self]

theorem rbusMessageBeginMetaSectionRead_withoutPacker
    (m : RbusMessage U) :
    rbusMessageBeginMetaSectionRead (withoutPacker m) =
      withoutPacker (rbusMessageBeginMetaSectionRead m) := by
  have hget (m : RbusMessage U) :
      rbusMessageGetInt32 (withoutPacker m) =
        ((rbusMessageGetInt32 m).1, withoutPacker (rbusMessageGetInt32 m).2) := by
    simp only [rbusMessageGetInt32, unpackNextItem, withoutPacker]
    cases (U.next m.sbuf m.readOffset).1 with
    | none => simp
    | some o => cases o <;> simp
  have hread (saved : Int) (off : Nat) :
      rbusMessageGetInt32 { withoutPacker m with metaOffset := saved, readOffset := off } =
        ((rbusMessageGetInt32 { m with metaOffset := saved, readOffset := off }).1,
          withoutPacker (rbusMessageGetInt32
            { m with metaOffset := saved, readOffset := off }).2) :=
    hget { m with metaOffset := saved, readOffset := off }
  have hback (r : RbusMessage U) (off : Nat) :
      ({ withoutPacker r with readOffset := off } : RbusMessage U) =
        withoutPacker { r with readOffset := off } :=
    rfl
  have hcursor : (withoutPacker m).readOffset = m.readOffset := rfl
  have hlen : (withoutPacker m).sbuf.length = m.sbuf.length := rfl
  simp only [rbusMessageBeginMetaSectionRead, hcursor, hlen, hread, hback]

/-- The functions that look at the buffer only, or set an offset. -/
theorem offsets_withoutPacker
    (m : RbusMessage U) :
    rbusMessageToBytes (withoutPacker m) = rbusMessageToBytes m ∧
      rbusMessageBeginMetaSectionWrite (withoutPacker m) =
        withoutPacker (rbusMessageBeginMetaSectionWrite m) ∧
      rbusMessageEndMetaSectionRead (withoutPacker m) =
        withoutPacker (rbusMessageEndMetaSectionRead m) := by
  have hbuf : (withoutPacker m).sbuf = m.sbuf := rfl
  have hoffset : (withoutPacker m).metaOffset = m.metaOffset := rfl
  have hmeta (off : Int) :
      ({ withoutPacker m with metaOffset := off } : RbusMessage U) =
        withoutPacker { m with metaOffset := off } :=
    rfl
  have hread (off : Nat) :
      ({ withoutPacker m with readOffset := off } : RbusMessage U) =
        withoutPacker { m with readOffset := off } :=
    rfl
  refine ⟨?_, ?_, ?_⟩
  · rw [rbusMessageToBytes, rbusMessageToBytes, hbuf]
  · rw [rbusMessageBeginMetaSectionWrite, rbusMessageBeginMetaSectionWrite, hmeta, hbuf]
  · rw [rbusMessageEndMetaSectionRead, rbusMessageEndMetaSectionRead, hread, hoffset]

/-- On a message without a packer the writes are undefined, and everything else is as it is
with one. -/
theorem step_withoutPacker
    (m : RbusMessage U)
    (op : MessageOp U) :
    op.step (withoutPacker m) =
      if op.writes then none else (op.step m).map fun r => (r.1, withoutPacker r.2) := by
  cases op with
  | set a =>
      simp [MessageOp.step, MessageOp.writes, rbusMessageSet_withoutPacker]
  | get k =>
      simp [MessageOp.step, MessageOp.writes, rbusMessageGet_withoutPacker]
  | setInto outer =>
      simp [MessageOp.step, MessageOp.writes, rbusMessageSetMessage, withoutPacker,
        Option.map_map, Function.comp_def]
  | endMetaSectionWrite =>
      have hwrite (bytes : List UInt8) : packerWrite (withoutPacker m) bytes = none := by
        simp [packerWrite, withoutPacker]
      simp only [MessageOp.step, rbusMessageEndMetaSectionWrite, hwrite]
      rfl
  | beginMetaSectionRead =>
      simp [MessageOp.step, MessageOp.writes, rbusMessageBeginMetaSectionRead_withoutPacker]
  | toBytes =>
      simp [MessageOp.step, MessageOp.writes, offsets_withoutPacker]
  | beginMetaSectionWrite =>
      simp [MessageOp.step, MessageOp.writes, offsets_withoutPacker]
  | endMetaSectionRead =>
      simp [MessageOp.step, MessageOp.writes, offsets_withoutPacker]

/-- A run on a message without a packer: it is undefined from the first write on. -/
theorem run_withoutPacker
    (ops : List (MessageOp U))
    (m : RbusMessage U) :
    MessageOp.run ops (withoutPacker m) =
      if ops.any MessageOp.writes then none
      else (MessageOp.run ops m).map fun r => (r.1, withoutPacker r.2) := by
  induction ops generalizing m with
  | nil =>
      rfl
  | cons op ops ih =>
      simp only [MessageOp.run, step_withoutPacker, List.any_cons]
      by_cases hop : op.writes = true
      · simp [hop]
      · rw [if_neg hop]
        cases op.step m with
        | none =>
            simp
        | some r =>
            simp only [hop, Option.map_some, Option.bind_some, ih, Bool.false_or]
            split
            · rfl
            · simp [Option.map_map, Function.comp_def]

/-- The messages made from another one: from its bytes, and by reading it where it is
embedded in a third one. -/
inductive Received (m : RbusMessage U) : RbusMessage U → Prop
  | fromBytes :
      Received m (rbusMessageFromBytes (rbusMessageToBytes m))
  | getMessage {outer outer' received : RbusMessage U} {rest : List UInt8}
      (hitem : outer.sbuf.drop outer.readOffset = (Value.message m.sbuf).encode ++ rest)
      (hget : rbusMessageGetMessage outer = (some received, outer')) :
      Received m received

/-- A received message has no packer. -/
theorem Received.pk
    {m received : RbusMessage U}
    (h : Received m received) :
    received.pk = false := by
  cases h with
  | fromBytes =>
      rfl
  | @getMessage outer outer' received rest hitem hget =>
      rw [rbusMessageGetMessage] at hget
      split at hget
      · obtain ⟨hval, -⟩ := Prod.mk.inj hget
        rw [← Option.some.inj hval]
        rfl
      · cases hget

/-- Below 4 GiB it is the original in everything else. -/
theorem Received.eq
    {m received : RbusMessage U}
    (h : Received m received)
    (hread : m.readOffset = 0)
    (hmeta : m.metaOffset = 0)
    (hsize : m.sbuf.length < 4294967296) :
    received = withoutPacker m := by
  have hstart : withoutPacker m = rbusMessageFromBytes m.sbuf := by
    rw [withoutPacker, rbusMessageFromBytes, hread, hmeta]
  rw [hstart]
  cases h with
  | fromBytes =>
      rw [rbusMessageToBytes_of_lt hsize]
  | @getMessage outer outer' received rest hitem hget =>
      have hdecode := decode_packBin rest hsize
      rw [Value.encode, List.append_assoc] at hitem
      rw [← hitem] at hdecode
      have hnext : (unpackNextItem outer).1 = some (.bin m.sbuf) :=
        congrArg Prod.fst (U.next_object _ _ _ _ hdecode)
      rw [rbusMessageGetMessage] at hget
      split at hget
      case h_1 payload m₁ hunpack =>
        rw [hunpack] at hnext
        obtain rfl := Obj.bin.inj (Option.some.inj hnext)
        exact (Option.some.inj (Prod.mk.inj hget).1).symm
      case h_2 =>
        cases hget

/-- Setters keep both offsets and the packer. -/
theorem rbusMessageSets_frame
    {m m' : RbusMessage U} {as : List (Setting U)}
    (h : rbusMessageSets m as = some m') :
    m' = { m with sbuf := m'.sbuf } := by
  have hwrite {m m' : RbusMessage U} {bytes : List UInt8}
      (h : packerWrite m bytes = some m') : m' = { m with sbuf := m'.sbuf } := by
    rw [packerWrite] at h
    split at h
    · obtain rfl := Option.some.inj h
      rfl
    · cases h
  have hset {m m' : RbusMessage U} {a : Setting U} (h : rbusMessageSet m a = some m') :
      m' = { m with sbuf := m'.sbuf } := by
    cases a with
    | str value =>
        rw [rbusMessageSet, rbusMessageSetString] at h
        split at h
        · exact hwrite h
        · cases h
    | _ =>
        exact hwrite h
  induction as generalizing m with
  | nil =>
      obtain rfl := Option.some.inj h
      rfl
  | cons a as ih =>
      rw [rbusMessageSets, List.foldlM_cons] at h
      cases hfirst : rbusMessageSet m a with
      | none =>
          rw [hfirst] at h
          cases h
      | some m₁ =>
          rw [hfirst] at h
          have htail := ih h
          rw [hset hfirst] at htail
          exact htail

/-- Whatever the operations answer on a message, they answer on the other one, and both
leave the same bytes. -/
def SameObservations (ops : List (MessageOp U)) (m received : RbusMessage U) : Prop :=
  ∀ answers m', MessageOp.run ops m = some (answers, m') →
    ∃ received', MessageOp.run ops received = some (answers, received') ∧
      rbusMessageToBytes received' = rbusMessageToBytes m'

/-- A write to a received message is noticed. -/
theorem no_writes_of_sameObservations
    {m received : RbusMessage U} {ops : List (MessageOp U)}
    (hreceived : Received m received)
    (hdefined : (MessageOp.run ops m).isSome = true)
    (h : SameObservations ops m received) :
    ∀ op ∈ ops, op.writes = false := by
  obtain ⟨r, hr⟩ := Option.isSome_iff_exists.mp hdefined
  obtain ⟨received', hrun, -⟩ := h r.1 r.2 hr
  have hpacker : received = withoutPacker received := by
    rw [withoutPacker, ← hreceived.pk]
  rw [hpacker, run_withoutPacker] at hrun
  intro op hop
  by_cases hany : ops.any MessageOp.writes = true
  · rw [if_pos hany] at hrun
    cases hrun
  · simpa using fun hwrites => hany (List.any_eq_true.mpr ⟨op, hop, hwrites⟩)

/-- Without writes a received message answers as the original. -/
theorem sameObservations_of_no_writes
    {m received : RbusMessage U} {ops : List (MessageOp U)}
    (heq : received = withoutPacker m)
    (h : ∀ op ∈ ops, op.writes = false) :
    SameObservations ops m received := by
  intro answers m' hrun
  have hany : ¬ ops.any MessageOp.writes = true := by
    intro hany
    obtain ⟨op, hop, hwrites⟩ := List.any_eq_true.mp hany
    rw [h op hop] at hwrites
    cases hwrites
  refine ⟨withoutPacker m', ?_, (offsets_withoutPacker m').1⟩
  rw [heq, run_withoutPacker, if_neg hany, hrun]
  rfl

/--
A message made by setters, and one received from it: a sequence of operations whose
behaviour on the original is defined answers the same on both and leaves the same bytes
exactly when it does not write to the message.  (Of a message of 4 GiB or more only a part
is received; a write is noticed there as well.)
-/
theorem received_agrees_iff
    (as : List (Setting U))
    (m received : RbusMessage U)
    (ops : List (MessageOp U))
    (hmade : rbusMessageSets rbusMessageInit as = some m)
    (hreceived : Received m received)
    (hdefined : (MessageOp.run ops m).isSome = true) :
    (SameObservations ops m received → ∀ op ∈ ops, op.writes = false) ∧
      (m.sbuf.length < 4294967296 →
        (SameObservations ops m received ↔ ∀ op ∈ ops, op.writes = false)) := by
  have hwrites := no_writes_of_sameObservations hreceived hdefined
  have hframe := rbusMessageSets_frame hmade
  have hread : m.readOffset = 0 := congrArg RbusMessage.readOffset hframe
  have hmeta : m.metaOffset = 0 := congrArg RbusMessage.metaOffset hframe
  refine ⟨hwrites, fun hsize => ⟨hwrites, fun h => ?_⟩⟩
  exact sameObservations_of_no_writes (hreceived.eq hread hmeta hsize) h

/-- Reads of a received message, with its last section and its bytes. -/
theorem received_agrees_on_reads :
    ∃ m : RbusMessage .scalars,
      rbusMessageSets rbusMessageInit [.int32 7, .str none] = some m ∧
      SameObservations [.get .int32, .beginMetaSectionRead, .get .str, .endMetaSectionRead,
        .toBytes] m (rbusMessageFromBytes (rbusMessageToBytes m)) := by
  obtain ⟨m, hm, hsize, hdefined⟩ :
      ∃ m : RbusMessage .scalars,
        rbusMessageSets rbusMessageInit [.int32 7, .str none] = some m ∧
        m.sbuf.length < 4294967296 ∧
        (MessageOp.run [.get .int32, .beginMetaSectionRead, .get .str, .endMetaSectionRead,
          .toBytes] m).isSome = true :=
    ⟨{ sbuf := [7, 0xa1, 0], pk := true, readOffset := 0, metaOffset := 0 },
      by decide +kernel, by decide, by decide +kernel⟩
  have hreads : ∀ op ∈ ([.get .int32, .beginMetaSectionRead, .get .str, .endMetaSectionRead,
      .toBytes] : List (MessageOp .scalars)), op.writes = false := by
    simp [MessageOp.writes]
  exact ⟨m, hm, ((received_agrees_iff [.int32 7, .str none] m _ _ hm .fromBytes hdefined).2
    hsize).mpr hreads⟩

/-- A received message is not like the original: nothing can be written to it. -/
theorem received_message_unwritable :
    ¬ ∀ (as : List (Setting .scalars)) (m received : RbusMessage .scalars)
        (ops : List (MessageOp .scalars)),
      rbusMessageSets rbusMessageInit as = some m → Received m received →
        SameObservations ops m received := by
  intro h
  have hsame := h [.int32 7]
    { sbuf := [7], pk := true, readOffset := 0, metaOffset := 0 } _ [.set (.int32 1)]
    (by decide +kernel) .fromBytes
  obtain ⟨received', hrun, -⟩ := hsame [.nothing]
    { sbuf := [7, 1], pk := true, readOffset := 0, metaOffset := 0 } (by decide +kernel)
  have hnone : MessageOp.run [.set (.int32 1)] (rbusMessageFromBytes (U := .scalars)
      (rbusMessageToBytes (U := .scalars)
        { sbuf := [7], pk := true, readOffset := 0, metaOffset := 0 })) = none := by
    decide +kernel
  rw [hnone] at hrun
  cases hrun

end Received

end RbusCore
