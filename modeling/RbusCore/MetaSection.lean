import RbusCore.MessageQueue

/-!
# Metadata sections

A metadata section is a run of values at the end of a message followed by a trailer
that holds the offset where the run starts.  The trailer is always the five-byte form
of a 32-bit integer: the offset is packed with its sign bit set, which makes it small
enough for that form, and the bit is cleared afterwards in the buffer.

**Results.**
* `rbusMessageEndMetaSectionWrite_eq`: what ending a section appends.
* `rbusMessageBeginMetaSectionRead_trailer`: a trailer is found from the end of the
  buffer and its offset becomes the cursor.
* `metaSection_round_trip`: the last section is read back from every cursor position,
  and reading it leaves no trace for later reads.
-/

namespace RbusCore

open CStrings MessagePack

/-- The trailer of a section that starts at `offset`. -/
def trailer (offset : Nat) : List UInt8 := 0xd2 :: beBytes 4 offset

@[simp] theorem trailer_length
    (offset : Nat) :
    (trailer offset).length = 5 := by
  simp [trailer]

section Mask

/-- Setting the sign bit subtracts `2^31`. -/
theorem maskedOffset_eq
    {offset : Nat}
    (h : offset < 2147483648) :
    maskedOffset offset = (offset : Int) - 2147483648 := by
  have hx : (BitVec.ofInt 32 (offset : Int)).toNat = offset := by
    simp
    omega
  have hor : (BitVec.ofInt 32 (offset : Int) ||| 0x80000000#32).toNat =
      2147483648 + offset := by
    have hsum := Nat.two_pow_add_eq_or_of_lt (i := 31) (b := offset) (by omega) 1
    rw [BitVec.toNat_or, hx, Nat.or_comm]
    simpa using hsum.symm
  rw [maskedOffset, BitVec.toInt_eq_toNat_cond, hor]
  split
  · omega
  · push_cast
    omega

/-- Clearing the top bit of the field takes the sign bit off again. -/
theorem beInt_unmask
    {offset : Nat}
    (h : offset < 2147483648) :
    (beInt 4 ((offset : Int) - 2147483648)).modify 0 (· &&& 0x7F) = beBytes 4 offset := by
  have hfield : (((offset : Int) - 2147483648) % ((256 ^ 4 : Nat) : Int)).toNat =
      offset + 2147483648 := by
    norm_num
    omega
  have htop : UInt8.ofNat ((offset + 2147483648) / 256 / 256 / 256) &&& 0x7F =
      UInt8.ofNat (offset / 256 / 256 / 256) := by
    apply UInt8.toNat_inj.mp
    have hmask : (0x7F : UInt8).toNat = 2 ^ 7 - 1 := rfl
    rw [UInt8.toNat_and, UInt8.toNat_ofNat', hmask]
    simp only [UInt8.toNat_ofNat']
    rw [Nat.and_two_pow_sub_one_eq_mod]
    omega
  have hthird : UInt8.ofNat ((offset + 2147483648) / 256 / 256) =
      UInt8.ofNat (offset / 256 / 256) := by
    apply UInt8.toNat_inj.mp
    simp only [UInt8.toNat_ofNat']
    omega
  have hsecond : UInt8.ofNat ((offset + 2147483648) / 256) = UInt8.ofNat (offset / 256) := by
    apply UInt8.toNat_inj.mp
    simp only [UInt8.toNat_ofNat']
    omega
  have hfirst : UInt8.ofNat (offset + 2147483648) = UInt8.ofNat offset := by
    apply UInt8.toNat_inj.mp
    simp only [UInt8.toNat_ofNat']
    omega
  rw [beInt, hfield]
  simp only [beBytes, List.nil_append, List.cons_append, List.modify_zero_cons, htop,
    hthird, hsecond, hfirst]

end Mask

section Trailer

variable {U : Unpacker}

/-- A write behind the first part of a buffer changes the second part. -/
theorem modify_append
    (xs ys : List UInt8)
    (i : Nat)
    (f : UInt8 → UInt8) :
    (xs ++ ys).modify (xs.length + i) f = xs ++ ys.modify i f := by
  induction xs with
  | nil =>
      simp
  | cons x xs ih =>
      simp [Nat.add_right_comm, ih]

/-- Ending a section that starts at `offset` appends its trailer. -/
theorem rbusMessageEndMetaSectionWrite_eq
    {m : RbusMessage U} {offset : Nat}
    (hpk : m.pk = true)
    (hmeta : m.metaOffset = offset)
    (h : offset < 2 ^ 31 - 2 ^ 15) :
    rbusMessageEndMetaSectionWrite m =
      some { m with sbuf := m.sbuf ++ trailer offset } := by
  have hsmall : offset < 2147483648 := by omega
  have hmask := maskedOffset_eq hsmall
  have hpack := packInt_of_lt (i := (offset : Int) - 2147483648) (by omega) (by omega)
  have hclear := beInt_unmask hsmall
  have hmodify :
      (m.sbuf ++ (0xd2 :: beInt 4 ((offset : Int) - 2147483648))).modify
          (m.sbuf.length + 1) (· &&& 0x7F) =
        m.sbuf ++ trailer offset := by
    rw [modify_append, List.modify_succ_cons, hclear, trailer]
  simp only [rbusMessageEndMetaSectionWrite, packerWrite, hpk, if_true, hmeta, hmask, hpack,
    List.length_append, List.length_cons, beInt_length]
  rw [if_pos (by omega)]
  have hindex : m.sbuf.length + (4 + 1) - 4 = m.sbuf.length + 1 := by omega
  rw [hindex, hmodify]

@[simp] theorem rbusMessageBeginMetaSectionWrite_pk
    (m : RbusMessage U) :
    (rbusMessageBeginMetaSectionWrite m).pk = m.pk := by
  rw [rbusMessageBeginMetaSectionWrite]

/-- With a packer a section can be ended wherever it started. -/
theorem exists_rbusMessageEndMetaSectionWrite
    {m : RbusMessage U}
    (hpk : m.pk = true)
    (hlen : 4 ≤ m.sbuf.length) :
    ∃ m', rbusMessageEndMetaSectionWrite m = some m' := by
  simp only [rbusMessageEndMetaSectionWrite, packerWrite, hpk, if_true, List.length_append]
  rw [if_pos (by omega)]
  exact ⟨_, rfl⟩

/-- A trailer decodes to the offset it holds. -/
theorem decode_trailer
    {offset : Nat}
    (h : offset < 2147483648) :
    decode (trailer offset) = some (.ofInt offset, 5) := by
  have hfit : offset < 256 ^ 4 := by
    norm_num
    omega
  have hfield : trailer offset = 0xd2 :: beInt 4 offset := by
    rw [trailer, beInt_natCast hfit]
  have hread := readInt_beInt [] (k := 4) (i := offset) (by norm_num; omega) (by norm_num; omega)
  rw [List.append_nil] at hread
  simpa [hfield, decode, Format.ofByte, Format.read] using hread

/-- The trailer at the end of the buffer gives the cursor for the section. -/
theorem rbusMessageBeginMetaSectionRead_trailer
    {m : RbusMessage U} {pre : List UInt8} {offset : Nat}
    (hbuf : m.sbuf = pre ++ trailer offset)
    (hoffset : offset < 2147483648)
    (hsize : m.sbuf.length < 2147483648) :
    rbusMessageBeginMetaSectionRead m =
      { m with metaOffset := toInt32 m.readOffset, readOffset := offset } := by
  have hlen : m.sbuf.length = pre.length + 5 := by
    rw [hbuf]
    simp
  have hstart : toSizeT ((m.sbuf.length : Int) - 5) = pre.length := by
    rw [hlen, toSizeT]
    omega
  have hnext : U.next (pre ++ trailer offset) pre.length = _ :=
    U.next_append (decode_trailer hoffset)
  rw [← hbuf] at hnext
  have hunpack : unpackNextItem
      ({ m with metaOffset := toInt32 m.readOffset, readOffset := pre.length } :
        RbusMessage U) =
      (some (.ofInt offset),
        { m with metaOffset := toInt32 m.readOffset, readOffset := pre.length + 5 }) := by
    simp [unpackNextItem, hnext]
  have hget := rbusMessageGetInt32_ofInt (by omega) (by omega) hunpack
  have hback : toSizeT (toInt32 (offset : Int)) = offset := toSizeT_of_range hoffset
  rw [rbusMessageBeginMetaSectionRead]
  simp only [hstart]
  rw [hget, Option.getD_some, hback]

end Trailer

section Reading

variable {U : Unpacker}

/-- Several getters and what they answer. -/
def rbusMessageGets (m : RbusMessage U) : List Kind →
    List (Option (Reading U)) × RbusMessage U
  | [] => ([], m)
  | k :: ks =>
      ((rbusMessageGet m k).1 :: (rbusMessageGets (rbusMessageGet m k).2 ks).1,
        (rbusMessageGets (rbusMessageGet m k).2 ks).2)

/-- Values at the cursor are delivered in order. -/
theorem rbusMessageGets_values
    {m : RbusMessage U} {vs : List Value} {rest : List UInt8}
    (hsize : (encodeAll vs).length < 2147483648)
    (h : m.sbuf.drop m.readOffset = encodeAll vs ++ rest) :
    rbusMessageGets m (vs.map Value.kind) =
      (vs.map (fun v => some v.reading),
        { m with readOffset := m.readOffset + (encodeAll vs).length }) := by
  induction vs generalizing m with
  | nil =>
      simp [rbusMessageGets]
  | cons v vs ih =>
      rw [encodeAll_cons, List.length_append] at hsize
      have hhead : m.sbuf.drop m.readOffset = v.encode ++ (encodeAll vs ++ rest) := by
        rw [h, encodeAll_cons, List.append_assoc]
      have hget := rbusMessageGet_value (v.fits_of_length (by omega)) hhead
      have htail : m.sbuf.drop (m.readOffset + v.encode.length) = encodeAll vs ++ rest := by
        rw [← List.drop_drop, hhead, List.drop_left]
      have hrest := ih
        (m := { m with readOffset := m.readOffset + v.encode.length }) (by omega) htail
      simp [rbusMessageGets, hget, hrest, Nat.add_assoc]

/-- Getters do not look at the saved metadata offset. -/
theorem rbusMessageGets_setMeta
    (m : RbusMessage U)
    (offset : Int)
    (ks : List Kind) :
    (rbusMessageGets { m with metaOffset := offset } ks).1 = (rbusMessageGets m ks).1 := by
  have hget (m : RbusMessage U) (k : Kind) :
      rbusMessageGet { m with metaOffset := offset } k =
        ((rbusMessageGet m k).1, { (rbusMessageGet m k).2 with metaOffset := offset }) := by
    cases k <;>
      simp only [rbusMessageGet, rbusMessageGetString, rbusMessageGetBytes,
        rbusMessageGetInt32, rbusMessageGetInt64, rbusMessageGetDouble,
        rbusMessageGetMessage, unpackNextItem, RbusMessage.cstringAt] <;>
      cases (U.next m.sbuf m.readOffset).1 with
      | none => simp
      | some o => cases o <;> simp
  induction ks generalizing m with
  | nil =>
      rfl
  | cons k ks ih =>
      simp [rbusMessageGets, hget, ih]

end Reading

section RoundTrip

variable {U : Unpacker}

/-- Several setters. -/
def rbusMessageSets (m : RbusMessage U) (as : List (Setting U)) : Option (RbusMessage U) :=
  as.foldlM rbusMessageSet m

/-- The setters between the begin and the end of a metadata section. -/
def writeMetaSection (m : RbusMessage U) (as : List (Setting U)) : Option (RbusMessage U) :=
  (rbusMessageSets (rbusMessageBeginMetaSectionWrite m) as).bind
    rbusMessageEndMetaSectionWrite

/-- What is written to a message: single values and metadata sections. -/
inductive WriteOp (U : Unpacker) where
  | set (a : Setting U)
  | metaSection (as : List (Setting U))

/-- Perform the writes. -/
def writeAll : List (WriteOp U) → RbusMessage U → Option (RbusMessage U)
  | [], m => some m
  | .set a :: ops, m => (rbusMessageSet m a).bind (writeAll ops)
  | .metaSection as :: ops, m => (writeMetaSection m as).bind (writeAll ops)

/-- The bytes in the buffer after the writes. -/
def layout (pre : List UInt8) : List (WriteOp U) → List UInt8
  | [] => pre
  | .set a :: ops => layout (pre ++ a.value.encode) ops
  | .metaSection as :: ops =>
      layout (pre ++ encodeAll (as.map Setting.value) ++ trailer pre.length) ops

theorem layout_append
    (pre : List UInt8)
    (ops ops' : List (WriteOp U)) :
    layout pre (ops ++ ops') = layout (layout pre ops) ops' := by
  induction ops generalizing pre with
  | nil =>
      rfl
  | cons op ops ih =>
      cases op <;> simp [layout, ih]

theorem le_layout_length
    (pre : List UInt8)
    (ops : List (WriteOp U)) :
    pre.length ≤ (layout pre ops).length := by
  induction ops generalizing pre with
  | nil =>
      exact Nat.le_refl _
  | cons op ops ih =>
      cases op with
      | set a =>
          have := ih (pre ++ a.value.encode)
          simp only [List.length_append] at this
          simp only [layout]
          omega
      | metaSection as =>
          have := ih (pre ++ encodeAll (as.map Setting.value) ++ trailer pre.length)
          simp only [List.length_append] at this
          simp only [layout]
          omega

theorem fits_of_encodeAll
    {as : List (Setting U)}
    (hsize : (encodeAll (as.map Setting.value)).length < 2147483648) :
    ∀ a ∈ as, a.value.Fits := by
  intro a ha
  refine a.value.fits_of_length (Nat.lt_of_le_of_lt ?_ hsize)
  obtain ⟨as₁, as₂, rfl⟩ := List.append_of_mem ha
  simp only [List.map_append, List.map_cons, encodeAll_append, encodeAll_cons,
    List.length_append]
  omega

theorem rbusMessageSets_eq
    {m : RbusMessage U}
    (as : List (Setting U))
    (hpk : m.pk = true)
    (hfits : ∀ a ∈ as, a.value.Fits) :
    rbusMessageSets m as =
      some { m with sbuf := m.sbuf ++ encodeAll (as.map Setting.value) } := by
  induction as generalizing m with
  | nil =>
      simp [rbusMessageSets]
  | cons a as ih =>
      have hset : rbusMessageSet m a =
          some { m with sbuf := m.sbuf ++ a.value.encode } := by
        rw [rbusMessageSet_eq m a (hfits a List.mem_cons_self), packerWrite, if_pos hpk]
      have htail := ih (m := { m with sbuf := m.sbuf ++ a.value.encode }) hpk
        fun a' ha' => hfits a' (List.mem_cons_of_mem _ ha')
      rw [rbusMessageSets] at htail ⊢
      simp [List.foldlM_cons, hset, htail, List.append_assoc]

/-- A section appends its values and its trailer. -/
theorem writeMetaSection_eq
    {m : RbusMessage U}
    (as : List (Setting U))
    (hpk : m.pk = true)
    (hsize : m.sbuf.length + (encodeAll (as.map Setting.value)).length < 2 ^ 31 - 2 ^ 15) :
    writeMetaSection m as =
      some { m with
        sbuf := m.sbuf ++ encodeAll (as.map Setting.value) ++ trailer m.sbuf.length
        metaOffset := m.sbuf.length } := by
  have hoffset : toInt32 (m.sbuf.length : Int) = m.sbuf.length :=
    toInt32_of_range (by omega) (by omega)
  have hsets := rbusMessageSets_eq
    (m := { m with metaOffset := (m.sbuf.length : Int) }) as hpk (fits_of_encodeAll (by omega))
  have hend := rbusMessageEndMetaSectionWrite_eq (U := U)
    (m := { m with
      sbuf := m.sbuf ++ encodeAll (as.map Setting.value)
      metaOffset := (m.sbuf.length : Int) })
    hpk (Eq.refl (m.sbuf.length : Int)) (by omega)
  simp [writeMetaSection, rbusMessageBeginMetaSectionWrite, hoffset, hsets, hend]

/-- The writes never fail on a message with a packer that stays below the limit. -/
theorem writeAll_eq
    (ops : List (WriteOp U))
    {m : RbusMessage U}
    (hpk : m.pk = true)
    (hsize : (layout m.sbuf ops).length < 2 ^ 31 - 2 ^ 15) :
    ∃ m', writeAll ops m = some m' ∧
      m'.sbuf = layout m.sbuf ops ∧
      m'.pk = true ∧
      m'.readOffset = m.readOffset := by
  induction ops generalizing m with
  | nil =>
      exact ⟨m, rfl, rfl, hpk, rfl⟩
  | cons op ops ih =>
      cases op with
      | set a =>
          have hle := le_layout_length (m.sbuf ++ a.value.encode) ops
          rw [List.length_append] at hle
          simp only [layout] at hsize
          have hset : rbusMessageSet m a =
              some { m with sbuf := m.sbuf ++ a.value.encode } := by
            rw [rbusMessageSet_eq m a (a.value.fits_of_length (by omega)), packerWrite, if_pos hpk]
          obtain ⟨m', hm', hrest⟩ :=
            ih (m := { m with sbuf := m.sbuf ++ a.value.encode }) hpk hsize
          exact ⟨m', by simp [writeAll, hset, hm'], hrest⟩
      | metaSection as =>
          have hle := le_layout_length
            (m.sbuf ++ encodeAll (as.map Setting.value) ++ trailer m.sbuf.length) ops
          simp only [List.length_append] at hle
          simp only [layout] at hsize
          have hsection := writeMetaSection_eq as hpk (m := m) (by omega)
          obtain ⟨m', hm', hrest⟩ :=
            ih (m := { m with
              sbuf := m.sbuf ++ encodeAll (as.map Setting.value) ++ trailer m.sbuf.length
              metaOffset := m.sbuf.length }) hpk hsize
          exact ⟨m', by rw [writeAll, hsection, Option.bind_some, hm'], hrest⟩

/-- A section at the end of a buffer is read back from any cursor, and the cursor is
restored. -/
theorem metaSection_read
    {r : RbusMessage U} {pre : List UInt8}
    (ws : List Value)
    (hbuf : r.sbuf = pre ++ encodeAll ws ++ trailer pre.length)
    (hsize : r.sbuf.length < 2 ^ 31 - 2 ^ 15)
    (hcursor : r.readOffset < 2147483648) :
    (rbusMessageGets (rbusMessageBeginMetaSectionRead r) (ws.map Value.kind)).1 =
        ws.map (fun w => some w.reading) ∧
      rbusMessageEndMetaSectionRead
          (rbusMessageGets (rbusMessageBeginMetaSectionRead r) (ws.map Value.kind)).2 =
        { r with metaOffset := toInt32 r.readOffset } := by
  have hlen : r.sbuf.length = pre.length + (encodeAll ws).length + 5 := by
    rw [hbuf]
    simp
    omega
  have hbegin := rbusMessageBeginMetaSectionRead_trailer hbuf (by omega) (by omega)
  have hrest : r.sbuf.drop pre.length = encodeAll ws ++ trailer pre.length := by
    simp only [hbuf, List.append_assoc, List.drop_left]
  have hgets := rbusMessageGets_values (U := U)
    (m := { r with metaOffset := toInt32 r.readOffset, readOffset := pre.length })
    (by omega) hrest
  have hback : toSizeT (toInt32 (r.readOffset : Int)) = r.readOffset :=
    toSizeT_of_range hcursor
  rw [hbegin, hgets]
  exact ⟨rfl, by simp [rbusMessageEndMetaSectionRead, hback]⟩

/--
The last metadata section written to a message is read back, from the message itself
and from its bytes, whatever was written before and wherever the read cursor stands;
afterwards the cursor is where it was, so all later getters answer what they would
have answered without the metadata read.
-/
theorem metaSection_round_trip
    (U : Unpacker)
    (ops : List (WriteOp U))
    (as : List (Setting U))
    (hsize : (layout [] (ops ++ [.metaSection as])).length < 2 ^ 31 - 2 ^ 15) :
    ∃ m : RbusMessage U,
      writeAll (ops ++ [.metaSection as]) rbusMessageInit = some m ∧
      ∀ r : RbusMessage U,
        (∃ cursor ≤ m.sbuf.length,
          r = { m with readOffset := cursor } ∨
          r = { rbusMessageFromBytes (U := U) (rbusMessageToBytes m) with readOffset := cursor }) →
        (rbusMessageGets (rbusMessageBeginMetaSectionRead r)
            (as.map fun a => a.value.kind)).1 =
          as.map (fun a => some a.value.reading) ∧
        rbusMessageEndMetaSectionRead
            (rbusMessageGets (rbusMessageBeginMetaSectionRead r)
              (as.map fun a => a.value.kind)).2 =
          { r with metaOffset := toInt32 r.readOffset } ∧
        ∀ ks : List Kind,
          (rbusMessageGets
              (rbusMessageEndMetaSectionRead
                (rbusMessageGets (rbusMessageBeginMetaSectionRead r)
                  (as.map fun a => a.value.kind)).2) ks).1 =
            (rbusMessageGets r ks).1 := by
  obtain ⟨m, hm, hbuf, -, -⟩ :=
    writeAll_eq (U := U) (ops ++ [WriteOp.metaSection as]) (m := rbusMessageInit) rfl hsize
  have hlayout : m.sbuf =
      layout [] ops ++ encodeAll (as.map Setting.value) ++
        trailer (layout ([] : List UInt8) ops).length := by
    rw [hbuf, rbusMessageInit, layout_append]
    rfl
  have hlen : m.sbuf.length < 2 ^ 31 - 2 ^ 15 := by
    rw [hbuf]
    exact hsize
  refine ⟨m, hm, fun r hr => ?_⟩
  obtain ⟨cursor, hcursor, hr⟩ := hr
  have hrbuf : r.sbuf = m.sbuf := by
    rcases hr with rfl | rfl
    · rfl
    · exact rbusMessageToBytes_of_lt (by omega)
  have hrcursor : r.readOffset = cursor := by
    rcases hr with rfl | rfl <;> rfl
  have hread := metaSection_read (r := r) (as.map Setting.value) (hrbuf.trans hlayout)
    (by rw [hrbuf]; exact hlen) (by omega)
  simp only [List.map_map, Function.comp_def] at hread
  refine ⟨hread.1, hread.2, fun ks => ?_⟩
  rw [hread.2]
  exact rbusMessageGets_setMeta r _ ks

/-- The round trip of a second section behind a body value and a first section. -/
theorem metaSection_round_trip_instance :
    ∃ m : RbusMessage .scalars,
      writeAll [.set (.int32 7), .metaSection [.str none], .metaSection [.int64 (-1), .bytes [1]]]
        rbusMessageInit = some m ∧
      (rbusMessageGets (rbusMessageBeginMetaSectionRead m) [.int64, .bytes]).1 =
        [some (.int64 (-1)), some (.bytes [1])] := by
  obtain ⟨m, hm, hread⟩ :=
    metaSection_round_trip .scalars [.set (.int32 7), .metaSection [.str none]]
      [.int64 (-1), .bytes [1]] (by decide)
  have hcursor : m.readOffset = 0 := by
    obtain ⟨m', hm', -, -, hoffset⟩ :=
      writeAll_eq (U := .scalars)
        [.set (.int32 7), .metaSection [.str none], .metaSection [.int64 (-1), .bytes [1]]]
        (m := rbusMessageInit) rfl (by decide)
    have : m = m' := Option.some.inj (hm.symm.trans hm')
    rw [this, hoffset]
    rfl
  refine ⟨m, hm, ?_⟩
  exact (hread m ⟨0, Nat.zero_le _, Or.inl (by rw [← hcursor])⟩).1

end RoundTrip

end RbusCore
