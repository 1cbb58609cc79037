import RbusCore.MetaSection

/-!
# Typed getters against other types and other bytes

The getters of other types than what was set, and strings in buffers that were not written by
the setters.  A getter accepts the type tag of what it finds, and looks at nothing else.

**Results.**
* `Value.answer_denotes_iff`: when a getter delivers what was set, or nothing.
* `gets_deliver_iff`: no getter of a sequence delivers a different value exactly when no
  integer is narrowed.
* `string_inside_item_iff`: when a string that is delivered ends inside its item.
-/

namespace RbusCore

open CStrings MessagePack

section OtherTypes

variable {U : Unpacker}

/-- A reading denotes a value: the same number, string or bytes. -/
def Reading.Denotes : Reading U → Value → Prop
  | .str text, .str s => text = some s
  | .bytes b, .bytes b' => b = b'
  | .bytes b, .message content => b = content
  | .int32 i, .int32 j => i = j.toInt
  | .int32 i, .int64 j => i = j.toInt
  | .int64 i, .int32 j => i = j.toInt
  | .int64 i, .int64 j => i = j.toInt
  | .double bits, .double bits' => bits = bits'
  | .message item, .message content => item.sbuf = content
  | .message item, .bytes b => item.sbuf = b
  | _, _ => False

/-- What the getter of a type answers for a value. -/
def Value.answer : Value → Kind → Option (Reading U)
  | .str s, .str => some (.str (some s))
  | .bytes b, .bytes => some (.bytes b)
  | .bytes b, .message => some (.message (rbusMessageFromBytes b))
  | .message content, .bytes => some (.bytes content)
  | .message content, .message => some (.message (rbusMessageFromBytes content))
  | .int32 i, .int32 => some (.int32 i.toInt)
  | .int32 i, .int64 => some (.int64 i.toInt)
  -- the value is narrowed without a check
  | .int64 i, .int32 => some (.int32 (toInt32 i.toInt))
  | .int64 i, .int64 => some (.int64 i.toInt)
  | .double bits, .double => some (.double bits)
  | _, _ => none

/-- The getters of strings, data and floats reject an integer. -/
theorem rbusMessageGet_integer
    {m m' : RbusMessage U} {i : Int} {k : Kind}
    (h : unpackNextItem m = (some (.ofInt i), m'))
    (hk : k ≠ .int32 ∧ k ≠ .int64) :
    (rbusMessageGet m k).1 = none := by
  unfold Obj.ofInt at h
  cases k with
  | int32 =>
      exact absurd rfl hk.1
  | int64 =>
      exact absurd rfl hk.2
  | _ =>
      split at h <;>
        simp [rbusMessageGet, rbusMessageGetString, rbusMessageGetBytes, rbusMessageGetDouble,
          rbusMessageGetMessage, h]

/-- The getter of any type, at an integer. -/
theorem rbusMessageGet_answer_integer
    {m m' : RbusMessage U} {i : Int64}
    (h : unpackNextItem m = (some (.ofInt i.toInt), m'))
    (k : Kind) :
    (rbusMessageGet m k).1 = (Value.int64 i).answer k := by
  have hlow := i.le_toInt
  have hhigh := i.toInt_lt
  cases k with
  | int32 =>
      have hget := rbusMessageGetInt32_ofInt (i := i.toInt) (by omega) (by omega) h
      simp [rbusMessageGet, hget, Value.answer]
  | int64 =>
      have hget := rbusMessageGetInt64_ofInt (i := i.toInt) (by omega) (by omega) h
      simp [rbusMessageGet, hget, Value.answer]
  | _ =>
      exact rbusMessageGet_integer h (by decide)

/-- The getter of any type, at a value. -/
theorem rbusMessageGet_answer
    {m : RbusMessage U} {v : Value} {rest : List UInt8}
    (hfits : v.Fits)
    (h : m.sbuf.drop m.readOffset = v.encode ++ rest)
    (k : Kind) :
    rbusMessageGet m k =
      (v.answer k, { m with readOffset := m.readOffset + v.encode.length }) := by
  have hnext := unpackNextItem_value hfits h
  refine Prod.ext ?_ ((rbusMessageGet_snd m k).trans (congrArg Prod.snd hnext))
  by_cases hkind : k = v.kind
  · subst hkind
    rw [rbusMessageGet_value hfits h]
    cases v <;> rfl
  · cases v with
    | int32 i =>
        have hlow := i.le_toInt
        have hhigh := i.toInt_lt
        cases k with
        | int32 =>
            exact absurd rfl hkind
        | int64 =>
            have hget := rbusMessageGetInt64_ofInt (i := i.toInt) (by omega) (by omega) hnext
            simp [rbusMessageGet, hget, Value.answer]
        | _ =>
            exact rbusMessageGet_integer hnext (by decide)
    | int64 i =>
        exact rbusMessageGet_answer_integer hnext k
    | _ =>
        simp only [Value.obj] at hnext
        cases k <;>
          simp_all [rbusMessageGet, rbusMessageGetString, rbusMessageGetBytes,
            rbusMessageGetInt32, rbusMessageGetInt64, rbusMessageGetDouble,
            rbusMessageGetMessage, Value.answer, Value.kind]

/-- An integer that is narrowed when it is read. -/
def Value.NarrowedBy : Value → Kind → Prop
  | .int64 i, .int32 => i.toInt < -2147483648 ∨ 2147483648 ≤ i.toInt
  | _, _ => False

theorem toInt32_eq_self_iff
    (n : Int) :
    toInt32 n = n ↔ -2147483648 ≤ n ∧ n < 2147483648 := by
  constructor
  · intro h
    have hlow : -2147483648 ≤ toInt32 n := Int.le_bmod (by decide)
    have hhigh : toInt32 n < 2147483648 := Int.bmod_lt (by decide)
    omega
  · rintro ⟨hlow, hhigh⟩
    exact toInt32_of_range hlow hhigh

/-- A getter delivers what was set, or nothing, unless it narrows an integer. -/
theorem Value.answer_denotes_iff
    (v : Value) (k : Kind) :
    (∀ r : Reading U, v.answer k = some r → r.Denotes v) ↔ ¬v.NarrowedBy k := by
  cases v with
  | int64 i =>
      cases k with
      | int32 =>
          have hsame := toInt32_eq_self_iff i.toInt
          simp only [Value.answer, Option.some.injEq, forall_eq', Reading.Denotes, hsame,
            Value.NarrowedBy]
          omega
      | _ =>
          simp [Value.answer, Reading.Denotes, Value.NarrowedBy]
  | _ =>
      cases k <;> simp [Value.answer, Reading.Denotes, Value.NarrowedBy, rbusMessageFromBytes]

end OtherTypes

section Sequences

variable {U : Unpacker}

/-- What a sequence of getters delivers: at each place nothing, or what was set there. -/
def GetsAgree (m : RbusMessage U) (vs : List Value) (ks : List Kind) : Prop :=
  ∀ (i : Nat) (r : Reading U), (rbusMessageGets m ks).1[i]? = some (some r) →
    ∃ v, vs[i]? = some v ∧ r.Denotes v

/-- No integer is narrowed at its place. -/
def NoneNarrowed (vs : List Value) (ks : List Kind) : Prop :=
  ∀ (i : Nat) (v : Value) (k : Kind), vs[i]? = some v → ks[i]? = some k → ¬v.NarrowedBy k

theorem getsAgree_atEnd
    {m : RbusMessage U}
    (h : m.sbuf.length ≤ m.readOffset)
    (ks : List Kind) :
    GetsAgree m [] ks := by
  induction ks with
  | nil =>
      intro i r hi
      cases hi
  | cons k ks ih =>
      intro i r hi
      rw [rbusMessageGets, rbusMessageGet_atEnd k h] at hi
      cases i with
      | zero =>
          cases hi
      | succ i =>
          obtain ⟨v, hv, -⟩ := ih i r hi
          cases hv

/-- The getters keep to the places of the values: each moves the cursor over one value. -/
theorem getsAgree_iff
    {m : RbusMessage U} {vs : List Value}
    (hfits : ∀ v ∈ vs, v.Fits)
    (hunread : Unread m vs)
    (ks : List Kind) :
    GetsAgree m vs ks ↔ NoneNarrowed vs ks := by
  induction ks generalizing m vs with
  | nil =>
      exact iff_of_true (fun _ _ hi => by cases hi) fun _ _ _ _ hk => by cases hk
  | cons k ks ih =>
      cases vs with
      | nil =>
          exact iff_of_true (getsAgree_atEnd hunread.nil_atEnd _) fun _ _ _ hv => by cases hv
      | cons v vs =>
          have hget := rbusMessageGet_answer (hfits v List.mem_cons_self) hunread.rest k
          have hrest := ih (fun v' hv' => hfits v' (List.mem_cons_of_mem _ hv')) hunread.next
          have hagree : GetsAgree m (v :: vs) (k :: ks) ↔
              (∀ r : Reading U, v.answer k = some r → r.Denotes v) ∧
                GetsAgree (U := U) { m with readOffset := m.readOffset + v.encode.length } vs ks := by
            rw [GetsAgree, ← Nat.and_forall_add_one]
            simp only [rbusMessageGets, hget, List.getElem?_cons_zero, List.getElem?_cons_succ,
              Option.some.injEq, exists_eq_left']
            rfl
          have hnarrowed : NoneNarrowed (v :: vs) (k :: ks) ↔
              ¬v.NarrowedBy k ∧ NoneNarrowed vs ks := by
            rw [NoneNarrowed, ← Nat.and_forall_add_one]
            simp only [List.getElem?_cons_zero, List.getElem?_cons_succ, Option.some.injEq]
            refine and_congr ⟨fun h => h v k rfl rfl, ?_⟩ Iff.rfl
            rintro h _ _ rfl rfl
            exact h
          rw [hagree, hnarrowed, hrest, Value.answer_denotes_iff]

/--
Of a sequence of values that were set, getters of any types deliver at each place the value that
was set there, or nothing, exactly when no 64-bit integer outside the 32-bit range is read by
`rbusMessage_GetInt32`.  This holds for the message itself, and for a message that was made of
its bytes.
-/
theorem gets_deliver_iff
    (as : List (Setting U))
    (ks : List Kind)
    (hfits : ∀ a ∈ as, a.value.Fits) :
    ∃ m : RbusMessage U, rbusMessageSets rbusMessageInit as = some m ∧
      ∀ reader, reader = m ∨ reader = rbusMessageFromBytes m.sbuf →
        (GetsAgree reader (as.map Setting.value) ks ↔
          NoneNarrowed (as.map Setting.value) ks) := by
  have hvalues : ∀ v ∈ as.map Setting.value, v.Fits := by
    simpa using hfits
  refine ⟨_, rbusMessageSets_eq as rfl hfits, ?_⟩
  rintro reader (rfl | rfl)
  · exact getsAgree_iff hvalues ⟨rfl, Nat.zero_le _⟩ ks
  · exact getsAgree_iff hvalues ⟨rfl, Nat.zero_le _⟩ ks

/-- A string, a small 64-bit integer and data, read as data, a 32-bit integer and a message. -/
theorem mixed_gets_agree :
    ∃ m : Bytes, rbusMessageSets rbusMessageInit
        [.str (some (.ofChars ['s'])), .int64 (-7), .bytes [1, 2]] = some m ∧
      GetsAgree m [.str (.ofChars ['s']), .int64 (-7), .bytes [1, 2]]
        [.bytes, .int32, .message] := by
  have hfits : ∀ a ∈ [Setting.str (U := .scalars) (some (.ofChars ['s'])), .int64 (-7),
      .bytes [1, 2]], a.value.Fits :=
    fits_of_encodeAll (by decide)
  obtain ⟨m, hset, hagree⟩ := gets_deliver_iff _ [.bytes, .int32, .message] hfits
  refine ⟨m, hset, (hagree m (Or.inl rfl)).mpr ?_⟩
  intro i v k hv hk
  match i with
  | 0 =>
      cases hv
      exact id
  | 1 =>
      cases hv
      cases hk
      show ¬((-7 : Int64).toInt < -2147483648 ∨ 2147483648 ≤ (-7 : Int64).toInt)
      decide
  | 2 =>
      cases hv
      exact id
  | i + 3 =>
      cases hv

/-- The 64-bit integer `2^32 + 7` is read as the 32-bit integer 7. -/
theorem narrowed_integer_delivered :
    ∃ m : Bytes, rbusMessageSets rbusMessageInit [.int64 4294967303] = some m ∧
      (rbusMessageGets m [.int32]).1 = [some (.int32 7)] ∧
      ¬GetsAgree m [.int64 4294967303] [.int32] := by
  obtain ⟨m, hset, hget⟩ : ∃ m : Bytes,
      rbusMessageSets rbusMessageInit [.int64 4294967303] = some m ∧
        (rbusMessageGets m [.int32]).1 = [some (.int32 7)] :=
    ⟨_, rfl, by decide +kernel⟩
  refine ⟨m, hset, hget, fun hagree => ?_⟩
  obtain ⟨v, hv, hdenotes⟩ := hagree 0 (.int32 7) (by rw [hget]; rfl)
  cases hv
  have hsame : (7 : Int) = (4294967303 : Int64).toInt := hdenotes
  exact absurd hsame (by decide)

end Sequences

section Strings

variable {U : Unpacker}

/-- A string that `rbusMessage_GetString` delivers ends inside its item. -/
def StringInside (m : RbusMessage U) : Prop :=
  ∀ p, (rbusMessageGetString m).1 = some p →
    ∃ s, (rbusMessageGetString m).2.cstringAt p = some s ∧ s.strlen < p.size

/-- A string is delivered for a string item: the pointer is to the payload. -/
theorem rbusMessageGetString_eq_some_iff
    (m : RbusMessage U) (p : StringPtr) :
    (rbusMessageGetString m).1 = some p ↔
      ∃ payload n, decode (m.sbuf.drop m.readOffset) = some (.str payload, n) ∧
        p = ⟨m.readOffset + n - payload.length, payload.length⟩ := by
  obtain ⟨r, off', hnext⟩ : ∃ r off', U.next m.sbuf m.readOffset = (r, off') := ⟨_, _, rfl⟩
  have hunpack : unpackNextItem m = (r, { m with readOffset := off' }) := by
    rw [unpackNextItem, hnext]
  constructor
  · intro h
    rw [rbusMessageGetString, hunpack] at h
    split at h
    case h_1 payload m' heq =>
      obtain ⟨rfl, rfl⟩ := Prod.mk.inj heq
      have hmoved := (U.next_progress _ _ _ _ hnext).1
      rcases U.next_sound _ _ _ _ hnext with hdecode | ⟨tag, htag⟩
      · refine ⟨payload, _, hdecode, (Option.some.inj h).symm.trans ?_⟩
        rw [Nat.add_sub_cancel' hmoved.le]
      · cases htag
    case h_2 =>
      cases h
  · rintro ⟨payload, n, hdecode, rfl⟩
    have hobject := U.next_object _ _ _ _ hdecode
    rw [hnext] at hobject
    obtain ⟨rfl, rfl⟩ := Prod.mk.inj hobject
    rw [rbusMessageGetString, hunpack]

/--
A string that `rbusMessage_GetString` delivers, of any bytes at any cursor, ends inside its item
exactly when the string item at the cursor, if there is one, has a NUL among its bytes.  The
getter does not look for it.
-/
theorem string_inside_item_iff
    (m : RbusMessage U) :
    StringInside m ↔
      ∀ payload n, decode (m.sbuf.drop m.readOffset) = some (.str payload, n) → 0 ∈ payload := by
  have hsnd : (rbusMessageGetString m).2 = (unpackNextItem m).2 := rbusMessageGet_snd m .str
  have hbuf : (rbusMessageGetString m).2.sbuf = m.sbuf :=
    (congrArg RbusMessage.sbuf hsnd).trans rfl
  have hlayout {payload : List UInt8} {n : Nat}
      (hdecode : decode (m.sbuf.drop m.readOffset) = some (.str payload, n)) :
      ∃ rest, m.sbuf.drop (m.readOffset + n - payload.length) = payload ++ rest := by
    obtain ⟨header, rest, hdrop, rfl⟩ := decode_str_layout hdecode
    refine ⟨rest, ?_⟩
    rw [← Nat.add_assoc, Nat.add_sub_cancel, ← List.drop_drop, hdrop, List.append_assoc,
      List.drop_left]
  constructor
  · intro h payload n hdecode
    obtain ⟨rest, hdrop⟩ := hlayout hdecode
    have hinside := h _ ((rbusMessageGetString_eq_some_iff m _).mpr ⟨payload, n, hdecode, rfl⟩)
    rw [RbusMessage.cstringAt, hbuf, hdrop] at hinside
    exact (CString.ofMemory_append_inside_iff payload rest).mp hinside
  · intro h p hp
    obtain ⟨payload, n, hdecode, rfl⟩ := (rbusMessageGetString_eq_some_iff m p).mp hp
    obtain ⟨rest, hdrop⟩ := hlayout hdecode
    rw [RbusMessage.cstringAt, hbuf, hdrop]
    exact (CString.ofMemory_append_inside_iff payload rest).mpr (h payload n hdecode)

/-- The string of one character without a terminator runs past the end of the buffer. -/
theorem unterminated_string_delivered :
    (rbusMessageGetString (rbusMessageFromBytes [0xa1, 0x6d] : Bytes)).1 = some ⟨1, 1⟩ ∧
      (rbusMessageGetString (rbusMessageFromBytes [0xa1, 0x6d] : Bytes)).2.cstringAt ⟨1, 1⟩ =
        none ∧
      ¬StringInside (rbusMessageFromBytes [0xa1, 0x6d] : Bytes) := by
  have hget : (rbusMessageGetString (rbusMessageFromBytes [0xa1, 0x6d] : Bytes)).1 =
      some ⟨1, 1⟩ := by
    decide +kernel
  have hpast : (rbusMessageGetString (rbusMessageFromBytes [0xa1, 0x6d] : Bytes)).2.cstringAt
      ⟨1, 1⟩ = none := by
    decide +kernel
  refine ⟨hget, hpast, fun hinside => ?_⟩
  obtain ⟨s, hs, -⟩ := hinside _ hget
  rw [hpast] at hs
  cases hs

end Strings

end RbusCore
