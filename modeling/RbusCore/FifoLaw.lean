import Mathlib.Data.List.ReduceOption
import RbusCore.DebugText

/-!
# The first-in first-out law

Any sequence of typed setters, getters, debug prints and metadata reads on one message.  A run
answers what a queue of the written values answers, as long as no debug print leaves its
buffer: `rbusMessage_ToDebugString` uses the byte in front of its write position, which the
text of the last item may have led past the end.

**Results.**
* `QueueOp.run_eq_some_iff`: on a message with unread values, the runs that have a result
  and what they answer.
* `message_is_fifo_queue_iff`: from `rbusMessage_Init` on, for the bytes of the message and for
  embedded messages to any depth.
-/

namespace RbusCore

open CStrings MessagePack

section Operations

variable {U : Unpacker}

/-- Operations on one message between which nothing else touches it. -/
inductive QueueOp (U : Unpacker) where
  | set (a : Setting U)
  | get (k : Kind)
  | toDebugString
  | metaSectionRead (ks : List Kind)

namespace QueueOp

/-- Run the operations and collect what the getters answer.  There is no result once a debug
print has left its buffer. -/
def run (print : Obj → List UInt8) (uninit : List UInt8) :
    List (QueueOp U) → RbusMessage U →
      Option (List (Option (Reading U)) × RbusMessage U)
  | [], m => some ([], m)
  | .set a :: ops, m => (rbusMessageSet m a).bind (run print uninit ops)
  | .get k :: ops, m =>
      (run print uninit ops (rbusMessageGet m k).2).map
        fun r => ((rbusMessageGet m k).1 :: r.1, r.2)
  | .toDebugString :: ops, m =>
      if (rbusMessageToDebugString print uninit m).2.inBounds then
        run print uninit ops (rbusMessageToDebugString print uninit m).1
      else none
  | .metaSectionRead ks :: ops, m =>
      run print uninit ops (RbusCore.metaSectionRead m ks)

/-- What a first-in first-out queue of values answers. -/
def fifo : List Value → List (QueueOp U) → List (Option (Reading U))
  | _, [] => []
  | q, .set a :: ops => fifo (q ++ [a.value]) ops
  | [], .get _ :: ops => none :: fifo [] ops
  | v :: q, .get _ :: ops => some v.reading :: fifo q ops
  | q, .toDebugString :: ops => fifo q ops
  | q, .metaSectionRead _ :: ops => fifo q ops

/-- Every getter has the type of the value it meets. -/
def Matching : List Value → List (QueueOp U) → Prop
  | _, [] => True
  | q, .set a :: ops => Matching (q ++ [a.value]) ops
  | [], .get _ :: ops => Matching [] ops
  | v :: q, .get k :: ops => k = v.kind ∧ Matching q ops
  | q, .toDebugString :: ops => Matching q ops
  | q, .metaSectionRead _ :: ops => Matching q ops

/-- The values written, in order. -/
def written : List (QueueOp U) → List Value
  | [] => []
  | .set a :: ops => a.value :: written ops
  | _ :: ops => written ops

/-- At every debug print, the text of the values that are in the message then does not lead
past the end of its buffer. -/
def PrintsInside (print : Obj → List UInt8) : List Value → List (QueueOp U) → Prop
  | _, [] => True
  | vs, .set a :: ops => PrintsInside print (vs ++ [a.value]) ops
  | vs, .get _ :: ops => PrintsInside print vs ops
  | vs, .toDebugString :: ops =>
      ¬Overruns print 0 (vs.map Value.obj) ∧ PrintsInside print vs ops
  | vs, .metaSectionRead _ :: ops => PrintsInside print vs ops

end QueueOp

end Operations

section Runs

open QueueOp

variable {U : Unpacker}

theorem encode_length_le
    {v : Value} {vs : List Value}
    (hmem : v ∈ vs) :
    v.encode.length ≤ (encodeAll vs).length := by
  obtain ⟨front, behind, rfl⟩ := List.append_of_mem hmem
  simp only [encodeAll_append, encodeAll_cons, List.length_append]
  omega

/-- The items of a message that consists of values. -/
theorem hasItems_of_values
    {m : RbusMessage U} {vs : List Value}
    (hbuffer : m.sbuf = encodeAll vs)
    (hsize : m.sbuf.length < 2147483648) :
    HasItems m (vs.map Value.obj) := by
  refine unpacks_encodeAll vs ?_ hbuffer
  intro v hv
  have hle := encode_length_le hv
  rw [← hbuffer] at hle
  exact v.fits_of_length (Nat.lt_of_le_of_lt hle hsize)

namespace QueueOp

variable {print : Obj → List UInt8} {uninit : List UInt8} {ops : List (QueueOp U)}
variable {m m₁ m' : RbusMessage U} {answers : List (Option (Reading U))} {inside : Prop}

/-- A getter answers, and then the other operations do. -/
theorem run_get_iff
    {k : Kind} {answer : Option (Reading U)}
    (hget : rbusMessageGet m k = (answer, m₁))
    (hrun : ∀ r, run print uninit ops m₁ = some r ↔ inside ∧ r = (answers, m'))
    (r : List (Option (Reading U)) × RbusMessage U) :
    run print uninit (.get k :: ops) m = some r ↔ inside ∧ r = (answer :: answers, m') := by
  simp only [run, hget, Option.map_eq_some_iff, hrun]
  constructor
  · rintro ⟨_, ⟨hinside, rfl⟩, rfl⟩
    exact ⟨hinside, rfl⟩
  · rintro ⟨hinside, rfl⟩
    exact ⟨_, ⟨hinside, rfl⟩, rfl⟩

/-- A debug print that stays inside changes nothing, and no other has a result. -/
theorem run_toDebugString_iff
    {os : List Obj}
    (hitems : HasItems m os)
    (hcursor : m.readOffset < 2147483648)
    (hrun : ∀ r, run print uninit ops m = some r ↔ inside ∧ r = (answers, m'))
    (r : List (Option (Reading U)) × RbusMessage U) :
    run print uninit (.toDebugString :: ops) m = some r ↔
      (¬Overruns print 0 os ∧ inside) ∧ r = (answers, m') := by
  rw [run, rbusMessageToDebugString_fst print uninit m hcursor,
    ← debugText_inBounds_iff print hitems uninit, and_assoc, ← hrun]
  by_cases htext : (rbusMessageToDebugString print uninit m).2.inBounds = true
  · rw [if_pos htext, and_iff_right htext]
  · rw [if_neg htext]
    exact iff_of_false (Option.some_ne_none r).symm fun h => htext h.1

/-- On a message of the values `vs` of which `q` are unread, and which has a packer if anything
is written, a sequence of operations has a result exactly if its debug prints stay inside, and
then it answers what the queue `q` answers. -/
theorem run_eq_some_iff
    (print : Obj → List UInt8)
    (uninit : List UInt8)
    (ops : List (QueueOp U))
    (m : RbusMessage U)
    (vs q : List Value)
    (hbuffer : m.sbuf = encodeAll vs)
    (hunread : Unread m q)
    (hmatch : Matching q ops)
    (hpk : m.pk = true ∨ written ops = [])
    (hsize : m.sbuf.length + (encodeAll (written ops)).length < 2147483648) :
    ∃ m' : RbusMessage U, m'.sbuf = m.sbuf ++ encodeAll (written ops) ∧
      ∀ r, run print uninit ops m = some r ↔
        PrintsInside print vs ops ∧ r = (fifo q ops, m') := by
  induction ops generalizing m vs q with
  | nil =>
      exact ⟨m, by simp [written], fun r => by simp [run, PrintsInside, fifo, eq_comm]⟩
  | cons op ops ih =>
      have hcursor : m.readOffset < 2147483648 := by
        have := hunread.inside
        omega
      cases op with
      | set a =>
          have hwrite : m.pk = true := by
            rcases hpk with hpk | hnil
            · exact hpk
            · cases hnil
          simp only [written, encodeAll_cons, List.length_append] at hsize
          have hset : rbusMessageSet m a =
              some { m with sbuf := m.sbuf ++ a.value.encode } := by
            rw [rbusMessageSet_eq m a (a.value.fits_of_length (by omega)), packerWrite,
              if_pos hwrite]
          obtain ⟨m', hbuf, hrun⟩ :=
            ih { m with sbuf := m.sbuf ++ a.value.encode } (vs ++ [a.value]) (q ++ [a.value])
              (by simp [hbuffer]) (hunread.append a.value) hmatch (Or.inl hwrite)
              (by simp only [List.length_append]; omega)
          refine ⟨m', by simpa [written, List.append_assoc] using hbuf, fun r => ?_⟩
          simpa only [run, hset, Option.bind_some, PrintsInside, fifo] using hrun r
      | get k =>
          cases q with
          | nil =>
              have hget := rbusMessageGet_atEnd k hunread.nil_atEnd
              obtain ⟨m', hbuf, hrun⟩ := ih m vs [] hbuffer hunread hmatch hpk hsize
              exact ⟨m', hbuf, run_get_iff hget hrun⟩
          | cons v q =>
              obtain ⟨rfl, hmatch⟩ := hmatch
              have hfit := hunread.cons_size
              have hrest : m.sbuf.drop m.readOffset = v.encode ++ encodeAll q := by
                simpa using hunread.rest
              have hget := rbusMessageGet_value (v.fits_of_length (by omega)) hrest
              obtain ⟨m', hbuf, hrun⟩ :=
                ih { m with readOffset := m.readOffset + v.encode.length } vs q hbuffer
                  hunread.next hmatch hpk hsize
              exact ⟨m', hbuf, run_get_iff hget hrun⟩
      | toDebugString =>
          have hitems :=
            hasItems_of_values hbuffer (Nat.lt_of_le_of_lt (Nat.le_add_right _ _) hsize)
          obtain ⟨m', hbuf, hrun⟩ :=
            ih m vs q hbuffer hunread (by cases q <;> exact hmatch) hpk hsize
          have hfifo : fifo q (.toDebugString :: ops) = fifo q ops := by
            cases q <;> rfl
          rw [hfifo]
          exact ⟨m', hbuf, run_toDebugString_iff hitems hcursor hrun⟩
      | metaSectionRead ks =>
          have hread := metaSectionRead_eq m ks hcursor
          obtain ⟨m', hbuf, hrun⟩ :=
            ih { m with metaOffset := toInt32 m.readOffset } vs q hbuffer
              (hunread.setMeta (toInt32 m.readOffset)) (by cases q <;> exact hmatch) hpk hsize
          refine ⟨m', hbuf, fun r => ?_⟩
          have hfifo : fifo q (.metaSectionRead ks :: ops) = fifo q ops := by
            cases q <;> rfl
          rw [run, hread, PrintsInside, hfifo]
          exact hrun r

/-- The successful answers are the values in the order in which they were written. -/
theorem fifo_prefix
    (ops : List (QueueOp U))
    (q : List Value) :
    (fifo q ops).reduceOption <+: (q ++ written ops).map Value.reading := by
  induction ops generalizing q with
  | nil =>
      simp [fifo, List.reduceOption]
  | cons op ops ih =>
      cases op with
      | set a =>
          simpa [fifo, written] using ih (q ++ [a.value])
      | get k =>
          cases q with
          | nil =>
              simpa [fifo, written, List.reduceOption] using ih []
          | cons v q =>
              simpa [fifo, written, List.reduceOption] using ih q
      | toDebugString =>
          cases q <;> exact ih _
      | metaSectionRead ks =>
          cases q <;> exact ih _

end QueueOp

end Runs

section FifoLaw

open QueueOp

variable {U : Unpacker}

/-- The operations `ops` on a fresh message, and then `reads` on a message made from its bytes,
answer what the queue answers: the getters deliver the values written, in their order, and
embedded messages are delivered with all they hold. -/
def IsFifoQueue
    (print : Obj → List UInt8) (uninit : List UInt8) (ops reads : List (QueueOp U)) : Prop :=
  ∃ m : RbusMessage U,
    run print uninit ops rbusMessageInit = some (fifo [] ops, m) ∧
    (fifo [] ops).reduceOption <+: (written ops).map Value.reading ∧
    (∃ m', run print uninit reads (rbusMessageFromBytes (rbusMessageToBytes m)) =
      some (fifo (written ops) reads, m')) ∧
    (Setting.message m).value.reading =
      .message (rbusMessageFromBytes (U := U) (rbusMessageToBytes m)) ∧
    ∀ cs : List Content,
      cs.map Content.toValue = written ops →
      (rbusMessageFromBytes (U := U) (rbusMessageToBytes m)).Carries cs

/--
A message is a first-in first-out queue of typed values.  Every sequence of typed
setters and getters of the matching type, with debug prints and metadata reads
anywhere in between, answers what the queue answers, and so do reads of the bytes of the
message from the first value and of a copy embedded in another message, to any depth; this
holds exactly if no text of a debug print leads past the end of its buffer.
-/
theorem message_is_fifo_queue_iff
    (U : Unpacker)
    (print : Obj → List UInt8)
    (uninit : List UInt8)
    (ops reads : List (QueueOp U))
    (hmatch : Matching [] ops)
    (hsize : (encodeAll (written ops)).length < 2147483648)
    (hread : written reads = [])
    (hmatchReads : Matching (written ops) reads) :
    IsFifoQueue print uninit ops reads ↔
      PrintsInside print [] ops ∧ PrintsInside print (written ops) reads := by
  obtain ⟨m, hbuf, hrun⟩ :=
    run_eq_some_iff print uninit ops (rbusMessageInit : RbusMessage U) [] [] rfl Unread.init
      hmatch (Or.inl rfl) (by simpa [rbusMessageInit] using hsize)
  have hsbuf : m.sbuf = encodeAll (written ops) := by
    simpa [rbusMessageInit] using hbuf
  have hbytes : rbusMessageToBytes m = encodeAll (written ops) := by
    rw [rbusMessageToBytes_of_lt (by rw [hsbuf]; omega), hsbuf]
  have hunread : Unread (rbusMessageFromBytes (encodeAll (written ops)) : RbusMessage U)
      (written ops) := Unread.fromBytes (written ops)
  obtain ⟨m', -, hrun'⟩ :=
    run_eq_some_iff print uninit reads _ (written ops) (written ops) rfl hunread hmatchReads
      (Or.inr hread) (by simpa [hread, rbusMessageFromBytes] using hsize)
  constructor
  · rintro ⟨m₁, hops, -, ⟨m₂, hreads⟩, -, -⟩
    obtain ⟨hinside, hsame⟩ := (hrun _).mp hops
    obtain rfl := congrArg Prod.snd hsame
    rw [hbytes] at hreads
    exact ⟨hinside, ((hrun' _).mp hreads).1⟩
  · rintro ⟨hops, hreads⟩
    refine ⟨m, (hrun _).mpr ⟨hops, rfl⟩, ?_, ⟨m', ?_⟩, ?_, ?_⟩
    · simpa using fifo_prefix ops []
    · rw [hbytes]
      exact (hrun' _).mpr ⟨hreads, rfl⟩
    · rw [hbytes, Setting.value, Value.reading, hsbuf]
    · intro cs hcs
      rw [hbytes]
      rw [← hcs] at hunread hsize ⊢
      exact Unread.carries cs hunread hsize

/-- An empty read, a metadata read, a debug print and an embedded message. -/
def sampleOps : List (QueueOp .scalars) :=
  [.get .str, .set (.str none), .set (.int32 (-200)), .metaSectionRead [.int32, .str],
    .get .str, .toDebugString, .set (.message (rbusMessageFromBytes [7])), .get .int32,
    .get .message]

/-- Reads of the message made from the bytes. -/
def sampleReads : List (QueueOp .scalars) :=
  [.toDebugString, .get .str, .get .int32, .get .message, .get .str]

/-- The law on runs with debug prints. -/
theorem sampleOps_fifo :
    IsFifoQueue samplePrint (List.replicate allocIncrement 0) sampleOps sampleReads :=
  (message_is_fifo_queue_iff .scalars samplePrint (List.replicate allocIncrement 0) sampleOps
    sampleReads ⟨rfl, rfl, rfl, trivial⟩ (by decide) rfl ⟨rfl, rfl, rfl, trivial⟩).mpr
    ⟨⟨by decide, trivial⟩, ⟨by decide, trivial⟩⟩

/-- The texts of the items, a binary in quotes; its bytes are printable. -/
def quotedPrint : Obj → List UInt8
  | .bin payload => 34 :: payload ++ [34]
  | o => samplePrint o

/-- Bytes are written, printed and read. -/
def sampleOverrun (b : List UInt8) : List (QueueOp .scalars) :=
  [.set (.bytes b), .toDebugString, .get .bytes]

theorem sampleOverrun_size
    {b : List UInt8}
    (hfits : b.length < 2000000000) :
    (encodeAll (written (sampleOverrun b))).length < 2147483648 := by
  simp only [sampleOverrun, written, Setting.value, encodeAll_cons, encodeAll_nil, Value.encode,
    packBin, List.append_nil, List.length_append]
  split_ifs <;> simp <;> omega

/-- The quotes and the bytes do not fit, and no item follows. -/
theorem bytes_overrun
    {b : List UInt8}
    (hlong : 2046 < b.length) :
    Overruns quotedPrint 0 [.bin b] := by
  have htext : (quotedPrint (.bin b)).length = b.length + 2 := by
    simp [quotedPrint]
  have hbuffer : allocIncrement = 2048 := rfl
  refine ⟨by decide, trivial, ?_⟩
  rw [Overruns, htext, if_neg (by omega)]
  omega

/-- The print uses a byte behind its buffer, and nothing is answered. -/
theorem sampleOverrun_not_fifo
    {b : List UInt8}
    (hlong : 2046 < b.length)
    (hfits : b.length < 2000000000)
    (uninit : List UInt8) :
    ¬IsFifoQueue quotedPrint uninit (sampleOverrun b) [] := by
  rintro ⟨m, hrun, -⟩
  obtain ⟨m', -, hiff⟩ :=
    run_eq_some_iff quotedPrint uninit (sampleOverrun b) (rbusMessageInit : Bytes) [] [] rfl
      Unread.init ⟨rfl, trivial⟩ (Or.inl rfl)
      (by simpa [rbusMessageInit] using sampleOverrun_size hfits)
  obtain ⟨⟨hinside, -⟩, -⟩ := (hiff _).mp hrun
  exact hinside (bytes_overrun hlong)

/-- 3000 letters are written, printed and read. -/
theorem long_bytes_leave_buffer :
    Matching [] (sampleOverrun (List.replicate 3000 97)) ∧
      (encodeAll (written (sampleOverrun (List.replicate 3000 97)))).length < 2147483648 ∧
      ¬IsFifoQueue quotedPrint (List.replicate allocIncrement 0)
        (sampleOverrun (List.replicate 3000 97)) [] := by
  have hlength : (List.replicate 3000 (97 : UInt8)).length = 3000 := List.length_replicate
  refine ⟨⟨rfl, trivial⟩, sampleOverrun_size ?_, sampleOverrun_not_fifo ?_ ?_ _⟩ <;>
    rw [hlength] <;>
    decide

end FifoLaw

end RbusCore
