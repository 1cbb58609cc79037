import RbusCore.Message

/-!
# A message is a queue of typed values

The typed setters append one encoded value each, the typed getters take one from
the cursor.  `Unread m vs` says that exactly the values `vs` are still to be read;
every setter, getter, debug print and metadata read is described by what it does
to `Unread`.

**Results.**
* `rbusMessageSet_eq`, `rbusMessageGet_value`: what a setter and the getter of its
  type do.
* `metaSectionRead_eq`, `rbusMessageToDebugString_fst`: metadata reads and debug prints
  leave the cursor where it was.
* `Unread.carries`: a message carries the contents of its unread values, to any depth.
-/

namespace RbusCore

open CStrings MessagePack

/-- A typed value as it lies in a message; an embedded message is its bytes. -/
inductive Value where
  | str (s : CString)
  | bytes (b : List UInt8)
  | int32 (i : Int32)
  | int64 (i : Int64)
  | double (bits : UInt64)
  | message (content : List UInt8)
deriving DecidableEq

/-- The type of a value, which selects the getter. -/
inductive Kind where
  | str
  | bytes
  | int32
  | int64
  | double
  | message
deriving DecidableEq

/-- The type of a value. -/
def Value.kind : Value → Kind
  | .str _ => .str
  | .bytes _ => .bytes
  | .int32 _ => .int32
  | .int64 _ => .int64
  | .double _ => .double
  | .message _ => .message

/-- The bytes a value takes in a buffer. -/
def Value.encode : Value → List UInt8
  | .str s => packStr (s.strlen + 1) ++ s.memory
  | .bytes b => packBin b.length ++ b
  | .int32 i => packInt i.toInt
  | .int64 i => packInt i.toInt
  | .double bits => packDouble bits
  | .message content => packBin content.length ++ content

/-- The bytes of several values. -/
def encodeAll (vs : List Value) : List UInt8 := vs.flatMap Value.encode

@[simp] theorem encodeAll_nil : encodeAll [] = [] := rfl

@[simp] theorem encodeAll_cons
    (v : Value) (vs : List Value) :
    encodeAll (v :: vs) = v.encode ++ encodeAll vs := rfl

@[simp] theorem encodeAll_append
    (vs ws : List Value) :
    encodeAll (vs ++ ws) = encodeAll vs ++ encodeAll ws := by
  simp [encodeAll]

/-- The object a value is unpacked to. -/
def Value.obj : Value → Obj
  | .str s => .str s.memory
  | .bytes b => .bin b
  | .int32 i => .ofInt i.toInt
  | .int64 i => .ofInt i.toInt
  | .double bits => .float64 bits
  | .message content => .bin content

/-- A string whose size is an `int`, or data whose size is a `uint32_t`. -/
def Value.Fits : Value → Prop
  | .str s => s.strlen + 1 < 2147483648
  | .bytes b => b.length < 4294967296
  | .message content => content.length < 4294967296
  | _ => True

theorem Value.fits_of_length
    (v : Value)
    (h : v.encode.length < 2147483648) :
    v.Fits := by
  cases v with
  | int32 | int64 | double =>
      trivial
  | _ =>
      simp [Value.encode] at h
      simp only [Value.Fits]
      omega

/-- Every value is decoded from its own bytes, whatever follows. -/
theorem Value.decode_of_fits
    (v : Value)
    (h : v.Fits)
    (post : List UInt8) :
    decode (v.encode ++ post) = some (v.obj, v.encode.length) := by
  cases v with
  | str s =>
      have hlen : s.memory.length < 4294967296 := by
        simp only [Value.Fits] at h
        rw [CString.memory_length]
        omega
      have hdecode := decode_packStr post hlen
      rw [CString.memory_length] at hdecode
      simpa [Value.encode, Value.obj] using hdecode
  | bytes b =>
      simpa [Value.encode, Value.obj] using decode_packBin post h
  | int32 i =>
      have hlow := i.le_toInt
      have hhigh := i.toInt_lt
      exact decode_packInt post (by omega) (by omega)
  | int64 i =>
      have hlow := i.le_toInt
      have hhigh := i.toInt_lt
      exact decode_packInt post (by omega) (by omega)
  | double bits =>
      exact decode_packDouble post bits
  | message content =>
      simpa [Value.encode, Value.obj] using decode_packBin post h

section Operations

variable {U : Unpacker}

/-- The argument of a typed setter. -/
inductive Setting (U : Unpacker) where
  | str (value : Option CString)
  | bytes (b : List UInt8)
  | int32 (i : Int32)
  | int64 (i : Int64)
  | double (bits : UInt64)
  | message (item : RbusMessage U)
deriving DecidableEq

/-- The value a setter leaves in the message. -/
def Setting.value : Setting U → Value
  | .str value => .str (value.getD CString.empty)
  | .bytes b => .bytes b
  | .int32 i => .int32 i
  | .int64 i => .int64 i
  | .double bits => .double bits
  | .message item => .message item.sbuf

/-- The typed setters. -/
def rbusMessageSet (m : RbusMessage U) : Setting U → Option (RbusMessage U)
  | .str value => rbusMessageSetString m value
  | .bytes b => rbusMessageSetBytes m b
  | .int32 i => rbusMessageSetInt32 m i.toInt
  | .int64 i => rbusMessageSetInt64 m i.toInt
  | .double bits => rbusMessageSetDouble m bits
  | .message item => rbusMessageSetMessage m item

/-- What a successful getter delivers; a string is the text at the pointer. -/
inductive Reading (U : Unpacker) where
  | str (text : Option CString)
  | bytes (b : List UInt8)
  | int32 (i : Int)
  | int64 (i : Int)
  | double (bits : UInt64)
  | message (item : RbusMessage U)
deriving DecidableEq

/-- The typed getters. -/
def rbusMessageGet (m : RbusMessage U) : Kind → Option (Reading U) × RbusMessage U
  | .str =>
      ((rbusMessageGetString m).1.map
          (fun p => .str ((rbusMessageGetString m).2.cstringAt p)),
        (rbusMessageGetString m).2)
  | .bytes => ((rbusMessageGetBytes m).1.map .bytes, (rbusMessageGetBytes m).2)
  | .int32 => ((rbusMessageGetInt32 m).1.map .int32, (rbusMessageGetInt32 m).2)
  | .int64 => ((rbusMessageGetInt64 m).1.map .int64, (rbusMessageGetInt64 m).2)
  | .double => ((rbusMessageGetDouble m).1.map .double, (rbusMessageGetDouble m).2)
  | .message => ((rbusMessageGetMessage m).1.map .message, (rbusMessageGetMessage m).2)

/-- What the getter of its type delivers for a value. -/
def Value.reading : Value → Reading U
  | .str s => .str (some s)
  | .bytes b => .bytes b
  | .int32 i => .int32 i.toInt
  | .int64 i => .int64 i.toInt
  | .double bits => .double bits
  | .message content => .message (rbusMessageFromBytes content)

end Operations

section Widths

theorem toInt64_of_range
    {n : Int}
    (hlow : -9223372036854775808 ≤ n)
    (hhigh : n < 9223372036854775808) :
    toInt64 n = n :=
  Int.bmod_eq_of_le_mul_two (by omega) (by omega)

theorem toSizeT_of_range
    {n : Nat}
    (h : n < 2147483648) :
    toSizeT (toInt32 n) = n := by
  rw [toInt32_of_range (by omega) (by omega), toSizeT]
  omega

end Widths

section Laws

variable {U : Unpacker}

/-- Every setter appends the bytes of its value. -/
theorem rbusMessageSet_eq
    (m : RbusMessage U)
    (a : Setting U)
    (h : a.value.Fits) :
    rbusMessageSet m a = packerWrite m a.value.encode := by
  cases a with
  | str value =>
      have hlen : (value.getD CString.empty).strlen + 1 < 2147483648 := h
      have hsize :
          toSizeT (toInt32 ((value.getD CString.empty).strlen + 1)) =
            (value.getD CString.empty).strlen + 1 := by
        exact_mod_cast toSizeT_of_range hlen
      simp [rbusMessageSet, rbusMessageSetString, hsize, Setting.value, Value.encode,
        List.take_of_length_le]
  | bytes b =>
      rfl
  | int32 i =>
      have hrange := toInt32_of_range (n := i.toInt)
        (by have := i.le_toInt; omega) (by have := i.toInt_lt; omega)
      simp [rbusMessageSet, rbusMessageSetInt32, hrange, Setting.value, Value.encode]
  | int64 i =>
      have hrange := toInt64_of_range (n := i.toInt)
        (by have := i.le_toInt; omega) (by have := i.toInt_lt; omega)
      simp [rbusMessageSet, rbusMessageSetInt64, hrange, Setting.value, Value.encode]
  | double bits =>
      rfl
  | message item =>
      rfl

/-- At the end of the buffer nothing is unpacked and the message stays as it is. -/
theorem unpackNextItem_atEnd
    {m : RbusMessage U}
    (h : m.sbuf.length ≤ m.readOffset) :
    unpackNextItem m = (none, m) := by
  simp [unpackNextItem, U.next_atEnd _ _ h]

/-- A value at the cursor is unpacked and the cursor moves behind it. -/
theorem unpackNextItem_value
    {m : RbusMessage U} {v : Value} {rest : List UInt8}
    (hfits : v.Fits)
    (h : m.sbuf.drop m.readOffset = v.encode ++ rest) :
    unpackNextItem m =
      (some v.obj, { m with readOffset := m.readOffset + v.encode.length }) := by
  have hdecode := v.decode_of_fits hfits rest
  rw [← h] at hdecode
  simp [unpackNextItem, U.next_object _ _ _ _ hdecode]

theorem viaI64_ofInt
    {i : Int}
    (hlow : -9223372036854775808 ≤ i)
    (hhigh : i < 9223372036854775808) :
    viaI64 (.ofInt i) = i := by
  unfold Obj.ofInt
  split
  case isTrue hsign =>
    simp only [viaI64]
    rw [Int.toNat_of_nonneg hsign]
    exact toInt64_of_range hlow hhigh
  case isFalse hsign =>
    rfl

/-- An integer object of either sign is delivered through `via.i64`. -/
theorem rbusMessageGetInt64_ofInt
    {m m' : RbusMessage U} {i : Int}
    (hlow : -9223372036854775808 ≤ i)
    (hhigh : i < 9223372036854775808)
    (h : unpackNextItem m = (some (.ofInt i), m')) :
    rbusMessageGetInt64 m = (some i, m') := by
  have hvia := viaI64_ofInt hlow hhigh
  unfold Obj.ofInt at h hvia
  split at h
  · simp_all only [rbusMessageGetInt64, if_true]
  · simp_all only [rbusMessageGetInt64, if_false]

/-- The same, narrowed to `int32_t`. -/
theorem rbusMessageGetInt32_ofInt
    {m m' : RbusMessage U} {i : Int}
    (hlow : -9223372036854775808 ≤ i)
    (hhigh : i < 9223372036854775808)
    (h : unpackNextItem m = (some (.ofInt i), m')) :
    rbusMessageGetInt32 m = (some (toInt32 i), m') := by
  have hvia := viaI64_ofInt hlow hhigh
  unfold Obj.ofInt at h hvia
  split at h
  · simp_all only [rbusMessageGetInt32, if_true]
  · simp_all only [rbusMessageGetInt32, if_false]

/-- A getter fails at the end of the buffer and leaves the message as it is. -/
theorem rbusMessageGet_atEnd
    {m : RbusMessage U}
    (k : Kind)
    (h : m.sbuf.length ≤ m.readOffset) :
    rbusMessageGet m k = (none, m) := by
  have hnone := unpackNextItem_atEnd h
  cases k <;>
    simp [rbusMessageGet, rbusMessageGetString, rbusMessageGetBytes, rbusMessageGetInt32,
      rbusMessageGetInt64, rbusMessageGetDouble, rbusMessageGetMessage, hnone]

/-- The getter of its type delivers the value at the cursor. -/
theorem rbusMessageGet_value
    {m : RbusMessage U} {v : Value} {rest : List UInt8}
    (hfits : v.Fits)
    (h : m.sbuf.drop m.readOffset = v.encode ++ rest) :
    rbusMessageGet m v.kind =
      (some v.reading, { m with readOffset := m.readOffset + v.encode.length }) := by
  have hnext := unpackNextItem_value hfits h
  cases v with
  | str s =>
      -- the characters start where the item ends, less their number
      have hptr :
          m.readOffset + (Value.str s).encode.length - s.memory.length =
            m.readOffset + (packStr (s.strlen + 1)).length := by
        simp [Value.encode]
        omega
      have htext :
          m.sbuf.drop (m.readOffset + (packStr (s.strlen + 1)).length) =
            s.memory ++ rest := by
        rw [← List.drop_drop, h]
        simp [Value.encode]
      simp only [Value.obj] at hnext
      simp only [rbusMessageGet, Value.kind, rbusMessageGetString, hnext, Option.map_some,
        RbusMessage.cstringAt, hptr, htext, CString.ofMemory_append, Value.reading]
  | bytes b =>
      simp only [Value.obj] at hnext
      simp [rbusMessageGet, Value.kind, rbusMessageGetBytes, hnext, Value.reading]
  | int32 i =>
      have hlow := i.le_toInt
      have hhigh := i.toInt_lt
      have hrange := toInt32_of_range (n := i.toInt) (by omega) (by omega)
      have hget := rbusMessageGetInt32_ofInt (i := i.toInt) (by omega) (by omega) hnext
      simp only [rbusMessageGet, Value.kind, hget, hrange, Option.map_some, Value.reading]
  | int64 i =>
      have hlow := i.le_toInt
      have hhigh := i.toInt_lt
      have hget := rbusMessageGetInt64_ofInt (i := i.toInt) (by omega) (by omega) hnext
      simp only [rbusMessageGet, Value.kind, hget, Option.map_some, Value.reading]
  | double bits =>
      simp only [Value.obj] at hnext
      simp [rbusMessageGet, Value.kind, rbusMessageGetDouble, hnext, Value.reading]
  | message content =>
      simp only [Value.obj] at hnext
      simp [rbusMessageGet, Value.kind, rbusMessageGetMessage, hnext, Value.reading]

end Laws

section Frames

variable {U : Unpacker}

/-- Every getter moves the cursor as unpacking does, also when the type is wrong. -/
theorem rbusMessageGet_snd
    (m : RbusMessage U)
    (k : Kind) :
    (rbusMessageGet m k).2 = (unpackNextItem m).2 := by
  cases k <;>
    simp only [rbusMessageGet, rbusMessageGetString, rbusMessageGetBytes,
      rbusMessageGetInt32, rbusMessageGetInt64, rbusMessageGetDouble,
      rbusMessageGetMessage] <;>
    split <;>
    simp_all

/-- A getter changes at most the cursor. -/
theorem rbusMessageGet_frame
    (m : RbusMessage U)
    (k : Kind) :
    (rbusMessageGet m k).2 =
      { m with readOffset := (rbusMessageGet m k).2.readOffset } := by
  rw [rbusMessageGet_snd]
  rfl

/-- Several getters, whatever they deliver. -/
def rbusMessageSkip (m : RbusMessage U) (ks : List Kind) : RbusMessage U :=
  ks.foldl (fun m k => (rbusMessageGet m k).2) m

theorem rbusMessageSkip_frame
    (m : RbusMessage U)
    (ks : List Kind) :
    rbusMessageSkip m ks =
      { m with readOffset := (rbusMessageSkip m ks).readOffset } := by
  induction ks generalizing m with
  | nil =>
      rfl
  | cons k ks ih =>
      have htail := ih (rbusMessageGet m k).2
      rw [rbusMessageGet_frame m k] at htail
      simpa [rbusMessageSkip, ← rbusMessageGet_frame m k] using htail

theorem rbusMessageBeginMetaSectionRead_frame
    (m : RbusMessage U) :
    rbusMessageBeginMetaSectionRead m =
      { m with
        metaOffset := toInt32 m.readOffset
        readOffset := (rbusMessageBeginMetaSectionRead m).readOffset } := by
  simp only [rbusMessageBeginMetaSectionRead]
  have hget := rbusMessageGet_frame
    ({ m with
       metaOffset := toInt32 m.readOffset
       readOffset := toSizeT ((m.sbuf.length : Int) - 5) } : RbusMessage U) .int32
  simp only [rbusMessageGet] at hget
  rw [hget]

/-- A whole bracket of metadata reads. -/
def metaSectionRead (m : RbusMessage U) (ks : List Kind) : RbusMessage U :=
  rbusMessageEndMetaSectionRead (rbusMessageSkip (rbusMessageBeginMetaSectionRead m) ks)

/-- A bracket of metadata reads leaves only its saved cursor behind. -/
theorem metaSectionRead_eq
    (m : RbusMessage U)
    (ks : List Kind)
    (h : m.readOffset < 2147483648) :
    metaSectionRead m ks = { m with metaOffset := toInt32 m.readOffset } := by
  have hback : toSizeT (toInt32 m.readOffset) = m.readOffset := toSizeT_of_range h
  rw [metaSectionRead, rbusMessageSkip_frame, rbusMessageBeginMetaSectionRead_frame]
  simp [rbusMessageEndMetaSectionRead, hback]

theorem debugStringLoop_frame
    (print : Obj → List UInt8)
    (rounds : Nat)
    (m : RbusMessage U)
    (t : DebugText) :
    (debugStringLoop print rounds m t).1 =
      { m with readOffset := (debugStringLoop print rounds m t).1.readOffset } := by
  induction rounds generalizing m t with
  | zero =>
      rfl
  | succ rounds ih =>
      simp only [debugStringLoop]
      split
      · rename_i m' h
        have hm' : m' = (unpackNextItem m).2 := (congrArg Prod.snd h).symm
        subst hm'
        rfl
      · rename_i o m' h
        have hm' : m' = (unpackNextItem m).2 := (congrArg Prod.snd h).symm
        subst hm'
        split
        · rfl
        · rw [ih]
          rfl

/-- Printing leaves the message as it is. -/
theorem rbusMessageToDebugString_fst
    (print : Obj → List UInt8)
    (uninit : List UInt8)
    (m : RbusMessage U)
    (h : m.readOffset < 2147483648) :
    (rbusMessageToDebugString print uninit m).1 = m := by
  have hback : toSizeT (toInt32 m.readOffset) = m.readOffset := toSizeT_of_range h
  simp only [rbusMessageToDebugString, hback]
  rw [debugStringLoop_frame]

theorem rbusMessageToBytes_of_lt
    {m : RbusMessage U}
    (h : m.sbuf.length < 4294967296) :
    rbusMessageToBytes m = m.sbuf := by
  rw [rbusMessageToBytes, Nat.mod_eq_of_lt h, List.take_length]

end Frames

section Queue

variable {U : Unpacker}

/-- The values still to be read: the buffer from the cursor on is their encoding. -/
structure Unread (m : RbusMessage U) (vs : List Value) : Prop where
  rest : m.sbuf.drop m.readOffset = encodeAll vs
  inside : m.readOffset ≤ m.sbuf.length

theorem Unread.init : Unread (rbusMessageInit : RbusMessage U) [] :=
  ⟨rfl, Nat.le_refl _⟩

/-- A message made from bytes starts at the first value. -/
theorem Unread.fromBytes
    (vs : List Value) :
    Unread (rbusMessageFromBytes (encodeAll vs) : RbusMessage U) vs :=
  ⟨rfl, Nat.zero_le _⟩

theorem Unread.append
    {m : RbusMessage U} {vs : List Value}
    (h : Unread m vs)
    (v : Value) :
    Unread (U := U) { m with sbuf := m.sbuf ++ v.encode } (vs ++ [v]) := by
  constructor
  · rw [List.drop_append_of_le_length h.inside, h.rest]
    simp
  · have := h.inside
    simp only [List.length_append]
    omega

theorem Unread.cons_size
    {m : RbusMessage U} {v : Value} {vs : List Value}
    (h : Unread m (v :: vs)) :
    m.readOffset + v.encode.length ≤ m.sbuf.length := by
  have hlen := congrArg List.length h.rest
  simp only [List.length_drop, encodeAll_cons, List.length_append] at hlen
  have := h.inside
  omega

theorem Unread.next
    {m : RbusMessage U} {v : Value} {vs : List Value}
    (h : Unread m (v :: vs)) :
    Unread (U := U) { m with readOffset := m.readOffset + v.encode.length } vs := by
  constructor
  · show m.sbuf.drop (m.readOffset + v.encode.length) = encodeAll vs
    rw [← List.drop_drop, h.rest, encodeAll_cons, List.drop_left]
  · exact h.cons_size

theorem Unread.nil_atEnd
    {m : RbusMessage U}
    (h : Unread m []) :
    m.sbuf.length ≤ m.readOffset := by
  have hlen := congrArg List.length h.rest
  simp only [List.length_drop, encodeAll_nil, List.length_nil] at hlen
  omega

theorem Unread.setMeta
    {m : RbusMessage U} {vs : List Value}
    (h : Unread m vs)
    (offset : Int) :
    Unread (U := U) { m with metaOffset := offset } vs :=
  ⟨h.rest, h.inside⟩

end Queue

section Nesting

variable {U : Unpacker}

/-- Values with embedded messages spelled out. -/
inductive Content where
  | value (v : Value)
  | message (cs : List Content)

mutual

/-- The value that holds a content. -/
def Content.toValue : Content → Value
  | .value v => v
  | .message cs => .message (contentBytes cs)

/-- The buffer of a message that holds the given contents. -/
def contentBytes : List Content → List UInt8
  | [] => []
  | c :: cs => c.toValue.encode ++ contentBytes cs

end

mutual

/-- A reading delivers a content: for an embedded message, all it holds. -/
def Reading.Delivers : Reading U → Content → Prop
  | r, .value v => r = v.reading
  | r, .message cs => ∃ item, r = .message item ∧ item.Carries cs

/-- Getters of the matching types deliver the contents in order, and then no getter
delivers anything. -/
def RbusMessage.Carries : RbusMessage U → List Content → Prop
  | m, [] => ∀ k, (rbusMessageGet m k).1 = none
  | m, c :: cs =>
      ∃ r m', rbusMessageGet m c.toValue.kind = (some r, m') ∧
        r.Delivers c ∧ m'.Carries cs

end

theorem contentBytes_eq
    (cs : List Content) :
    contentBytes cs = encodeAll (cs.map Content.toValue) := by
  induction cs with
  | nil =>
      simp [contentBytes]
  | cons c cs ih =>
      simp [contentBytes, ih]

theorem Value.message_length_lt
    (content : List UInt8) :
    content.length < (Value.message content).encode.length := by
  simp only [Value.encode, packBin, List.length_append]
  split_ifs <;> simp

mutual

/-- A value of its own bytes delivers its content, at every depth. -/
theorem Content.delivers
    (c : Content)
    (hsize : c.toValue.encode.length < 2147483648) :
    (c.toValue.reading : Reading U).Delivers c := by
  match c with
  | .value v =>
      simp [Content.toValue, Reading.Delivers]
  | .message cs =>
      rw [Content.toValue] at hsize
      have hlt := Value.message_length_lt (contentBytes cs)
      rw [Content.toValue, Reading.Delivers]
      refine ⟨rbusMessageFromBytes (contentBytes cs), rfl, ?_⟩
      have hunread := Unread.fromBytes (U := U) (cs.map Content.toValue)
      rw [← contentBytes_eq] at hunread
      exact Unread.carries cs hunread (by simp only [rbusMessageFromBytes]; omega)

/-- A message whose unread values hold the contents carries them. -/
theorem Unread.carries
    (cs : List Content)
    {m : RbusMessage U}
    (hunread : Unread m (cs.map Content.toValue))
    (hsize : m.sbuf.length < 2147483648) :
    m.Carries cs := by
  match cs with
  | [] =>
      rw [RbusMessage.Carries]
      intro k
      rw [rbusMessageGet_atEnd k hunread.nil_atEnd]
  | c :: cs =>
      have hunread' : Unread m (c.toValue :: cs.map Content.toValue) := by
        simpa using hunread
      have hfit := hunread'.cons_size
      have hrest : m.sbuf.drop m.readOffset =
          c.toValue.encode ++ encodeAll (cs.map Content.toValue) := by
        simpa using hunread'.rest
      have hget := rbusMessageGet_value (c.toValue.fits_of_length (by omega)) hrest
      rw [RbusMessage.Carries]
      exact ⟨_, _, hget, c.delivers (by omega), Unread.carries cs hunread'.next hsize⟩

end

end Nesting

end RbusCore
