import Mathlib.Algebra.Order.Ring.Nat
import Mathlib.Data.Int.ModEq
import Mathlib.Tactic.Ring
import Mathlib.Tactic.Common

/-!
# MessagePack scalars

The part of the MessagePack format that covers integers, 64-bit floats, strings
and binary data: the reader `decode` is the format table (first byte, length or
value field, payload), and the writers `packInt`, `packStr`, `packBin` and
`packDouble` choose the smallest representation.

An `Unpacker` is a streaming reader over a buffer and an offset.  Its laws are
what the format fixes: an object of the format is returned and the offset moves
behind it, nothing is read at or behind the end of the buffer, and a success is
an object of the format or of another kind.  Where the offset is left after a
malformed object is not fixed.

**Results.**
* `decode_packInt`, `decode_packStr`, `decode_packBin`, `decode_packDouble`: what
  is written is read back, whatever bytes follow.
* `packInt_of_lt`: integers below `-2^15` that fit 32 bits take the five-byte form.
* `Unpacker.next_append`: reading an object in the middle of a buffer.
-/

namespace MessagePack

/-- Big-endian field of `k` bytes. -/
def beBytes : Nat → Nat → List UInt8
  | 0, _ => []
  | k + 1, n => beBytes k (n / 256) ++ [UInt8.ofNat n]

/-- Value of a big-endian field. -/
def ofBE (bytes : List UInt8) : Nat :=
  bytes.foldl (fun acc b => 256 * acc + b.toNat) 0

@[simp] theorem beBytes_length
    (k n : Nat) :
    (beBytes k n).length = k := by
  induction k generalizing n with
  | zero =>
      rfl
  | succ k ih =>
      simp [beBytes, ih]

/-- A field holds its number modulo its range. -/
theorem ofBE_beBytes
    (k n : Nat) :
    ofBE (beBytes k n) = n % 256 ^ k := by
  induction k generalizing n with
  | zero =>
      simp [beBytes, ofBE, Nat.mod_one]
  | succ k ih =>
      have hhigh : ofBE (beBytes k (n / 256)) = n / 256 % 256 ^ k := ih (n / 256)
      unfold ofBE at hhigh ⊢
      have hsplit : n % 256 ^ (k + 1) = n % 256 + 256 * (n / 256 % 256 ^ k) := by
        rw [Nat.pow_succ, Nat.mul_comm (256 ^ k) 256, Nat.mod_mul]
      rw [beBytes, List.foldl_append, hhigh, hsplit]
      simp only [List.foldl_cons, List.foldl_nil, UInt8.toNat_ofNat']
      omega

/-- Two's complement field of `k` bytes. -/
def beInt (k : Nat) (i : Int) : List UInt8 :=
  beBytes k (i % (256 ^ k : Nat)).toNat

@[simp] theorem beInt_length
    (k : Nat) (i : Int) :
    (beInt k i).length = k := by
  simp [beInt]

/-- A nonnegative number that fits is stored as it is. -/
theorem beInt_natCast
    {k n : Nat}
    (h : n < 256 ^ k) :
    beInt k n = beBytes k n := by
  rw [beInt, ← Int.natCast_emod, Int.toNat_natCast, Nat.mod_eq_of_lt h]

theorem ofBE_beInt
    (k : Nat) (i : Int) :
    ofBE (beInt k i) = (i % (256 ^ k : Nat)).toNat := by
  have hpos : (0 : Int) < (256 ^ k : Nat) := by
    exact_mod_cast Nat.pow_pos (by decide : 0 < 256)
  have hlt := Int.emod_lt_of_pos i hpos
  have hnonneg := Int.emod_nonneg i (ne_of_gt hpos)
  rw [beInt, ofBE_beBytes]
  apply Nat.mod_eq_of_lt
  omega

/-- A decoded object.  `other` stands for the kinds outside this part of the
format (nil, booleans, 32-bit floats, containers, extensions). -/
inductive Obj where
  | posInt (n : Nat)
  | negInt (i : Int)
  | float64 (bits : UInt64)
  | str (payload : List UInt8)
  | bin (payload : List UInt8)
  | other (tag : Nat)
deriving DecidableEq

/-- Integers are split by sign. -/
def Obj.ofInt (i : Int) : Obj :=
  if 0 ≤ i then .posInt i.toNat else .negInt i

/-- A field of `k` bytes at the head of the input. -/
def field? (k : Nat) (input : List UInt8) : Option (List UInt8) :=
  if k ≤ input.length then some (input.take k) else none

theorem field?_append
    {k : Nat} {bytes : List UInt8}
    (h : bytes.length = k)
    (rest : List UInt8) :
    field? k (bytes ++ rest) = some bytes := by
  subst h
  simp [field?]

/-- An unsigned integer of `k` bytes. -/
def readUInt (k : Nat) (input : List UInt8) : Option (Obj × Nat) :=
  (field? k input).map fun f => (.posInt (ofBE f), 1 + k)

/-- A signed integer of `k` bytes. -/
def readInt (k : Nat) (input : List UInt8) : Option (Obj × Nat) :=
  (field? k input).map fun f => (.ofInt (Int.bmod (ofBE f) (256 ^ k)), 1 + k)

/-- A 64-bit float. -/
def readFloat (input : List UInt8) : Option (Obj × Nat) :=
  (field? 8 input).map fun f => (.float64 (UInt64.ofNat (ofBE f)), 9)

/-- A payload of known length. -/
def readPayload
    (kind : List UInt8 → Obj) (header len : Nat) (input : List UInt8) :
    Option (Obj × Nat) :=
  (field? len input).map fun f => (kind f, header + len)

/-- A payload behind a length field of `k` bytes. -/
def readSized
    (kind : List UInt8 → Obj) (k : Nat) (input : List UInt8) :
    Option (Obj × Nat) :=
  match field? k input with
  | none => none
  | some f => readPayload kind (1 + k) (ofBE f) (input.drop k)

/-- What the first byte of an object says about the rest of it. -/
inductive Format where
  | single (o : Obj)
  | fixStr (len : Nat)
  | str (k : Nat)
  | bin (k : Nat)
  | uint (k : Nat)
  | int (k : Nat)
  | float
  | unsupported

/-- The format table by first byte. -/
def Format.ofByte (c : Nat) : Format :=
  if c < 0x80 then .single (.posInt c)
  else if 0xe0 ≤ c then .single (.negInt (c - 256 : Int))
  else if 0xa0 ≤ c ∧ c < 0xc0 then .fixStr (c - 0xa0)
  else match c with
    | 0xc4 => .bin 1
    | 0xc5 => .bin 2
    | 0xc6 => .bin 4
    | 0xcb => .float
    | 0xcc => .uint 1
    | 0xcd => .uint 2
    | 0xce => .uint 4
    | 0xcf => .uint 8
    | 0xd0 => .int 1
    | 0xd1 => .int 2
    | 0xd2 => .int 4
    | 0xd3 => .int 8
    | 0xd9 => .str 1
    | 0xda => .str 2
    | 0xdb => .str 4
    | _ => .unsupported

/-- The object and its size, first byte included. -/
def Format.read : Format → List UInt8 → Option (Obj × Nat)
  | .single o, _ => some (o, 1)
  | .fixStr len, rest => readPayload .str 1 len rest
  | .str k, rest => readSized .str k rest
  | .bin k, rest => readSized .bin k rest
  | .uint k, rest => readUInt k rest
  | .int k, rest => readInt k rest
  | .float, rest => readFloat rest
  | .unsupported, _ => none

/-- The object at the head of the input and its size. -/
def decode : List UInt8 → Option (Obj × Nat)
  | [] => none
  | b :: rest => (Format.ofByte b.toNat).read rest

section Writers

/-- Smallest form of an integer. -/
def packInt (i : Int) : List UInt8 :=
  if i < -32 then
    if i < -32768 then
      if i < -2147483648 then 0xd3 :: beInt 8 i else 0xd2 :: beInt 4 i
    else if i < -128 then 0xd1 :: beInt 2 i
    else 0xd0 :: beInt 1 i
  else if i < 128 then beInt 1 i
  else if i < 256 then 0xcc :: beInt 1 i
  else if i < 65536 then 0xcd :: beInt 2 i
  else if i < 4294967296 then 0xce :: beInt 4 i
  else 0xcf :: beInt 8 i

/-- Header of a string of `len` bytes. -/
def packStr (len : Nat) : List UInt8 :=
  if len < 32 then [UInt8.ofNat (0xa0 + len)]
  else if len < 256 then 0xd9 :: beBytes 1 len
  else if len < 65536 then 0xda :: beBytes 2 len
  else 0xdb :: beBytes 4 len

/-- Header of `len` bytes of binary data. -/
def packBin (len : Nat) : List UInt8 :=
  if len < 256 then 0xc4 :: beBytes 1 len
  else if len < 65536 then 0xc5 :: beBytes 2 len
  else 0xc6 :: beBytes 4 len

/-- A 64-bit float. -/
def packDouble (bits : UInt64) : List UInt8 :=
  0xcb :: beBytes 8 bits.toNat

@[simp] theorem packDouble_length
    (bits : UInt64) :
    (packDouble bits).length = 9 := by
  simp [packDouble]

/-- An integer takes at most nine bytes. -/
theorem packInt_length_le
    (i : Int) :
    (packInt i).length ≤ 9 := by
  unfold packInt
  split_ifs <;> simp [beInt]

/-- Below `-2^15` a 32-bit integer takes the marker and four bytes. -/
theorem packInt_of_lt
    {i : Int}
    (hlow : -2147483648 ≤ i)
    (hhigh : i < -32768) :
    packInt i = 0xd2 :: beInt 4 i := by
  have h1 : i < -32 := by omega
  have h2 : ¬ i < -2147483648 := by omega
  simp [packInt, h1, h2, hhigh]

end Writers

section RoundTrip

variable (post : List UInt8)

theorem readUInt_beInt
    {k : Nat} {i : Int}
    (hlow : 0 ≤ i)
    (hhigh : i < (256 ^ k : Nat)) :
    readUInt k (beInt k i ++ post) = some (.ofInt i, 1 + k) := by
  have hmod : i % (256 ^ k : Nat) = i := Int.emod_eq_of_lt hlow hhigh
  rw [readUInt, field?_append (beInt_length k i)]
  simp only [Option.map_some, ofBE_beInt, hmod, Obj.ofInt, hlow, if_true]

theorem readInt_beInt
    {k : Nat} {i : Int}
    (hlow : -((256 ^ k : Nat) : Int) ≤ 2 * i)
    (hhigh : 2 * i < (256 ^ k : Nat)) :
    readInt k (beInt k i ++ post) = some (.ofInt i, 1 + k) := by
  have hpos : (0 : Int) < (256 ^ k : Nat) := by
    exact_mod_cast Nat.pow_pos (by decide : 0 < 256)
  have hnonneg := Int.emod_nonneg i (ne_of_gt hpos)
  have hbmod : Int.bmod (i % (256 ^ k : Nat)).toNat (256 ^ k) = i := by
    rw [Int.toNat_of_nonneg hnonneg, Int.emod_bmod]
    exact Int.bmod_eq_of_le_mul_two (by omega) (by omega)
  rw [readInt, field?_append (beInt_length k i)]
  simp only [Option.map_some, ofBE_beInt, hbmod]

theorem readPayload_append
    (kind : List UInt8 → Obj) (header : Nat)
    (payload : List UInt8) :
    readPayload kind header payload.length (payload ++ post) =
      some (kind payload, header + payload.length) := by
  rw [readPayload, field?_append rfl]
  rfl

theorem readSized_append
    (kind : List UInt8 → Obj)
    (payload : List UInt8)
    {k : Nat}
    (h : payload.length < 256 ^ k) :
    readSized kind k (beBytes k payload.length ++ (payload ++ post)) =
      some (kind payload, 1 + k + payload.length) := by
  have hlen : ofBE (beBytes k payload.length) = payload.length := by
    rw [ofBE_beBytes, Nat.mod_eq_of_lt h]
  have hdrop :
      (beBytes k payload.length ++ (payload ++ post)).drop k = payload ++ post := by
    have hleft : (beBytes k payload.length ++ (payload ++ post)).drop
        (beBytes k payload.length).length = payload ++ post := List.drop_left
    rwa [beBytes_length] at hleft
  rw [readSized, field?_append (beBytes_length k _)]
  simp only [hlen, hdrop]
  exact readPayload_append post kind (1 + k) payload

/-- One byte holds the numbers from -32 to 127. -/
theorem decode_fixInt
    {i : Int}
    (hlow : -32 ≤ i)
    (hhigh : i < 128) :
    decode ([UInt8.ofNat (i % 256).toNat] ++ post) = some (.ofInt i, 1) := by
  have hval : (UInt8.ofNat (i % 256).toNat).toNat = (i % 256).toNat := by
    rw [UInt8.toNat_ofNat']
    omega
  simp only [List.cons_append, List.nil_append, decode, Format.ofByte, hval]
  by_cases hneg : i < 0
  · have hnot : ¬ (i % 256).toNat < 0x80 := by omega
    have hge : 0xe0 ≤ (i % 256).toNat := by omega
    have hback : ((i % 256).toNat - 256 : Int) = i := by omega
    have hsign : ¬ 0 ≤ i := by omega
    simp only [hnot, hge, hback, Obj.ofInt, hsign, if_true, if_false, Format.read]
  · have hlt : (i % 256).toNat < 0x80 := by omega
    have hback : (i % 256).toNat = i.toNat := by omega
    have hsign : 0 ≤ i := by omega
    simp [hback, hback ▸ hlt, Obj.ofInt, hsign, Format.read]

/-- Integers of up to 64 bits are read back. -/
theorem decode_packInt
    {i : Int}
    (hlow : -9223372036854775808 ≤ i)
    (hhigh : i < 18446744073709551616) :
    decode (packInt i ++ post) = some (.ofInt i, (packInt i).length) := by
  have signed (k : Nat) := readInt_beInt post (k := k) (i := i)
  have unsigned (k : Nat) := readUInt_beInt post (k := k) (i := i)
  unfold packInt
  split_ifs with h1 h2 h3 h4 h5 h6 h7 h8
  · simpa [decode, Format.ofByte, Format.read, Nat.add_comm] using signed 8 (by norm_num; omega) (by norm_num; omega)
  · simpa [decode, Format.ofByte, Format.read, Nat.add_comm] using signed 4 (by norm_num; omega) (by norm_num; omega)
  · simpa [decode, Format.ofByte, Format.read, Nat.add_comm] using signed 2 (by norm_num; omega) (by norm_num; omega)
  · simpa [decode, Format.ofByte, Format.read, Nat.add_comm] using signed 1 (by norm_num; omega) (by norm_num; omega)
  · have hbyte : beInt 1 i = [UInt8.ofNat (i % 256).toNat] := by
      simp [beInt, beBytes]
    rw [hbyte]
    exact decode_fixInt post (by omega) h5
  · simpa [decode, Format.ofByte, Format.read, Nat.add_comm] using unsigned 1 (by omega) (by norm_num; omega)
  · simpa [decode, Format.ofByte, Format.read, Nat.add_comm] using unsigned 2 (by omega) (by norm_num; omega)
  · simpa [decode, Format.ofByte, Format.read, Nat.add_comm] using unsigned 4 (by omega) (by norm_num; omega)
  · simpa [decode, Format.ofByte, Format.read, Nat.add_comm] using unsigned 8 (by omega) (by norm_num; omega)

/-- Floats are read back bit for bit. -/
theorem decode_packDouble
    (bits : UInt64) :
    decode (packDouble bits ++ post) =
      some (.float64 bits, (packDouble bits).length) := by
  have hval : ofBE (beBytes 8 bits.toNat) = bits.toNat := by
    rw [ofBE_beBytes]
    exact Nat.mod_eq_of_lt bits.toNat_lt
  simp [packDouble, decode, Format.ofByte, Format.read, readFloat, field?_append (beBytes_length 8 _), hval]

/-- Strings are read back. -/
theorem decode_packStr
    {payload : List UInt8}
    (h : payload.length < 4294967296) :
    decode (packStr payload.length ++ (payload ++ post)) =
      some (.str payload, (packStr payload.length).length + payload.length) := by
  have sized (k : Nat) := readSized_append post .str payload (k := k)
  unfold packStr
  split_ifs with h1 h2 h3
  · have hval : (UInt8.ofNat (0xa0 + payload.length)).toNat = 0xa0 + payload.length := by
      rw [UInt8.toNat_ofNat']
      omega
    have hrange : 0xa0 ≤ 0xa0 + payload.length ∧ 0xa0 + payload.length < 0xc0 := by omega
    have hnot1 : ¬ 0xa0 + payload.length < 0x80 := by omega
    have hnot2 : ¬ 0xe0 ≤ 0xa0 + payload.length := by omega
    have hread := readPayload_append post .str 1 payload
    have hformat : Format.ofByte (0xa0 + payload.length) = .fixStr payload.length := by
      simp [Format.ofByte, hnot1, hnot2, hrange]
    simp only [List.cons_append, List.nil_append, decode, hval, hformat,
      List.length_singleton]
    exact hread
  · simpa [decode, Format.ofByte, Format.read, Nat.add_comm, Nat.add_left_comm] using sized 1 (by norm_num; omega)
  · simpa [decode, Format.ofByte, Format.read, Nat.add_comm, Nat.add_left_comm] using sized 2 (by norm_num; omega)
  · simpa [decode, Format.ofByte, Format.read, Nat.add_comm, Nat.add_left_comm] using sized 4 (by norm_num; omega)

/-- Binary data is read back. -/
theorem decode_packBin
    {payload : List UInt8}
    (h : payload.length < 4294967296) :
    decode (packBin payload.length ++ (payload ++ post)) =
      some (.bin payload, (packBin payload.length).length + payload.length) := by
  have sized (k : Nat) := readSized_append post .bin payload (k := k)
  unfold packBin
  split_ifs with h1 h2
  · simpa [decode, Format.ofByte, Format.read, Nat.add_comm, Nat.add_left_comm] using sized 1 (by norm_num; omega)
  · simpa [decode, Format.ofByte, Format.read, Nat.add_comm, Nat.add_left_comm] using sized 2 (by norm_num; omega)
  · simpa [decode, Format.ofByte, Format.read, Nat.add_comm, Nat.add_left_comm] using sized 4 (by norm_num; omega)

end RoundTrip

section Sizes

theorem field?_length
    {k : Nat} {input f : List UInt8}
    (h : field? k input = some f) :
    k ≤ input.length := by
  unfold field? at h
  split at h
  · assumption
  · cases h

theorem readPayload_size
    {kind : List UInt8 → Obj} {header len : Nat} {input : List UInt8}
    {o : Obj} {n : Nat}
    (h : readPayload kind header len input = some (o, n)) :
    n = header + len ∧ len ≤ input.length := by
  simp only [readPayload, Option.map_eq_some_iff, Prod.mk.injEq] at h
  obtain ⟨f, hf, -, hn⟩ := h
  exact ⟨hn.symm, field?_length hf⟩

theorem readSized_size
    {kind : List UInt8 → Obj} {k : Nat} {input : List UInt8}
    {o : Obj} {n : Nat}
    (h : readSized kind k input = some (o, n)) :
    1 ≤ n ∧ n ≤ 1 + input.length := by
  unfold readSized at h
  split at h
  · cases h
  · rename_i f hf
    have hk := field?_length hf
    obtain ⟨hn, hlen⟩ := readPayload_size h
    rw [List.length_drop] at hlen
    omega

theorem readUInt_size
    {k : Nat} {input : List UInt8} {o : Obj} {n : Nat}
    (h : readUInt k input = some (o, n)) :
    1 ≤ n ∧ n ≤ 1 + input.length := by
  simp only [readUInt, Option.map_eq_some_iff, Prod.mk.injEq] at h
  obtain ⟨f, hf, -, hn⟩ := h
  have := field?_length hf
  omega

theorem readInt_size
    {k : Nat} {input : List UInt8} {o : Obj} {n : Nat}
    (h : readInt k input = some (o, n)) :
    1 ≤ n ∧ n ≤ 1 + input.length := by
  simp only [readInt, Option.map_eq_some_iff, Prod.mk.injEq] at h
  obtain ⟨f, hf, -, hn⟩ := h
  have := field?_length hf
  omega

theorem readFloat_size
    {input : List UInt8} {o : Obj} {n : Nat}
    (h : readFloat input = some (o, n)) :
    1 ≤ n ∧ n ≤ 1 + input.length := by
  simp only [readFloat, Option.map_eq_some_iff, Prod.mk.injEq] at h
  obtain ⟨f, hf, -, hn⟩ := h
  have := field?_length hf
  omega

/-- An object takes at least one byte and lies inside the input. -/
theorem decode_size
    {input : List UInt8} {o : Obj} {n : Nat}
    (h : decode input = some (o, n)) :
    1 ≤ n ∧ n ≤ input.length := by
  cases input with
  | nil =>
      cases h
  | cons b rest =>
      rw [List.length_cons, Nat.add_comm rest.length]
      rw [decode] at h
      cases hf : Format.ofByte b.toNat with
      | single o' =>
          rw [hf] at h
          cases h
          omega
      | fixStr len =>
          rw [hf] at h
          have := readPayload_size h
          omega
      | str k =>
          rw [hf] at h
          exact readSized_size h
      | bin k =>
          rw [hf] at h
          exact readSized_size h
      | uint k =>
          rw [hf] at h
          exact readUInt_size h
      | int k =>
          rw [hf] at h
          exact readInt_size h
      | float =>
          rw [hf] at h
          exact readFloat_size h
      | unsupported =>
          rw [hf] at h
          cases h

/-- The payload of a string object lies behind its header. -/
theorem decode_str_layout
    {input payload : List UInt8} {n : Nat}
    (h : decode input = some (.str payload, n)) :
    ∃ header rest, input = header ++ payload ++ rest ∧ n = header.length + payload.length := by
  have hpayload {kind : List UInt8 → Obj} {size len : Nat} {body : List UInt8}
      (hkind : ∀ p, kind p = .str payload → p = payload)
      (h : readPayload kind size len body = some (.str payload, n)) :
      payload = body.take len ∧ len ≤ body.length ∧ n = size + payload.length := by
    simp only [readPayload, field?, Option.map_eq_some_iff] at h
    obtain ⟨f, hf, heq⟩ := h
    split at hf
    case isTrue hle =>
      obtain rfl := Option.some.inj hf
      have hsame := hkind _ (congrArg Prod.fst heq)
      have hn : size + len = n := congrArg Prod.snd heq
      refine ⟨hsame.symm, hle, ?_⟩
      rw [← hsame, List.length_take, Nat.min_eq_left hle, hn]
    case isFalse =>
      cases hf
  cases input with
  | nil =>
      cases h
  | cons b rest =>
      rw [decode] at h
      cases hformat : Format.ofByte b.toNat with
      | single o =>
          rw [hformat] at h
          obtain rfl : o = .str payload := congrArg Prod.fst (Option.some.inj h)
          unfold Format.ofByte at hformat
          split_ifs at hformat
          · cases hformat
          · cases hformat
          · split at hformat <;> cases hformat
      | fixStr len =>
          rw [hformat] at h
          obtain ⟨hval, hle, hn⟩ := hpayload (fun p hp => Obj.str.inj hp) h
          refine ⟨[b], rest.drop len, ?_, hn⟩
          rw [hval, List.append_assoc, List.take_append_drop]
          rfl
      | str k =>
          rw [hformat, Format.read, readSized] at h
          split at h
          case h_1 =>
            cases h
          case h_2 f hf =>
            have hk := field?_length hf
            obtain ⟨hval, hle, hn⟩ := hpayload (fun p hp => Obj.str.inj hp) h
            refine ⟨b :: rest.take k, (rest.drop k).drop (ofBE f), ?_, ?_⟩
            · rw [hval, List.append_assoc, List.take_append_drop, List.cons_append,
                List.take_append_drop]
            · rw [hn, List.length_cons, List.length_take, Nat.min_eq_left hk]
              omega
      | bin k =>
          rw [hformat, Format.read, readSized] at h
          split at h
          case h_1 =>
            cases h
          case h_2 f hf =>
            simp only [readPayload, Option.map_eq_some_iff] at h
            obtain ⟨f', -, heq⟩ := h
            cases congrArg Prod.fst heq
      | uint k =>
          rw [hformat] at h
          simp only [Format.read, readUInt, Option.map_eq_some_iff] at h
          obtain ⟨f, -, heq⟩ := h
          cases congrArg Prod.fst heq
      | int k =>
          rw [hformat] at h
          simp only [Format.read, readInt, Obj.ofInt, Option.map_eq_some_iff] at h
          obtain ⟨f, -, heq⟩ := h
          have hobj := congrArg Prod.fst heq
          split at hobj <;> cases hobj
      | float =>
          rw [hformat] at h
          simp only [Format.read, readFloat, Option.map_eq_some_iff] at h
          obtain ⟨f, -, heq⟩ := h
          cases congrArg Prod.fst heq
      | unsupported =>
          rw [hformat] at h
          cases h

end Sizes

/-- A streaming reader that follows the format. -/
structure Unpacker where
  /-- The next object and the new offset. -/
  next : List UInt8 → Nat → Option Obj × Nat
  /-- At or behind the end nothing is read and the offset stays. -/
  next_atEnd : ∀ data off, data.length ≤ off → next data off = (none, off)
  /-- An object of the format is returned, with the offset behind it. -/
  next_object : ∀ data off o n,
    decode (data.drop off) = some (o, n) → next data off = (some o, off + n)
  /-- A success is an object of the format, or one of another kind. -/
  next_sound : ∀ data off o off', next data off = (some o, off') →
    decode (data.drop off) = some (o, off' - off) ∨ ∃ tag, o = .other tag
  /-- A success moves the offset, and not past the end. -/
  next_progress : ∀ data off o off', next data off = (some o, off') →
    off < off' ∧ off' ≤ data.length

namespace Unpacker

/-- Reading an object that starts inside a buffer. -/
theorem next_append
    (U : Unpacker)
    {pre input : List UInt8} {o : Obj} {n : Nat}
    (h : decode input = some (o, n)) :
    U.next (pre ++ input) pre.length = (some o, pre.length + n) := by
  apply U.next_object
  rw [List.drop_left]
  exact h

/-- Outside the format nothing is read, or an object of another kind. -/
theorem next_of_decode_eq_none
    (U : Unpacker)
    {data : List UInt8} {off : Nat}
    (h : decode (data.drop off) = none) :
    (U.next data off).1 = none ∨ ∃ tag, (U.next data off).1 = some (.other tag) := by
  obtain ⟨r, off', hr⟩ : ∃ r off', U.next data off = (r, off') := ⟨_, _, rfl⟩
  rw [hr]
  cases r with
  | none =>
      exact Or.inl rfl
  | some o =>
      rcases U.next_sound data off o off' hr with hsound | ⟨tag, rfl⟩
      · rw [h] at hsound
        cases hsound
      · exact Or.inr ⟨tag, rfl⟩

/-- What is made of an object that is read, where objects of other kinds are rejected. -/
theorem next_bind
    (U : Unpacker)
    {α : Type}
    {f : Obj → Option α}
    (hf : ∀ tag, f (.other tag) = none)
    (data : List UInt8) (off : Nat) :
    (U.next data off).1.bind f = (decode (data.drop off)).bind fun r => f r.1 := by
  cases hd : decode (data.drop off) with
  | some r =>
      rw [U.next_object data off r.1 r.2 hd]
      rfl
  | none =>
      rcases U.next_of_decode_eq_none hd with hnone | ⟨tag, htag⟩
      · rw [hnone]
        rfl
      · rw [htag]
        exact hf tag

/-- The reader that fails, without moving, on everything outside `decode`. -/
def scalars : Unpacker where
  next data off :=
    match decode (data.drop off) with
    | some (o, n) => (some o, off + n)
    | none => (none, off)
  next_atEnd := by
    intro data off h
    rw [List.drop_of_length_le h]
    rfl
  next_object := by
    intro data off o n h
    simp [h]
  next_sound := by
    intro data off o off' h
    left
    cases hd : decode (data.drop off) with
    | none =>
        simp [hd] at h
    | some r =>
        simp only [hd, Prod.mk.injEq, Option.some.injEq] at h
        obtain ⟨rfl, rfl⟩ := h
        simp
  next_progress := by
    intro data off o off' h
    cases hd : decode (data.drop off) with
    | none =>
        simp [hd] at h
    | some r =>
        simp only [hd, Prod.mk.injEq, Option.some.injEq] at h
        obtain ⟨rfl, rfl⟩ := h
        have := decode_size (o := r.1) (n := r.2) hd
        rw [List.length_drop] at this
        omega

end Unpacker

end MessagePack
