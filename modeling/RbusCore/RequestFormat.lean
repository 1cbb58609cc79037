import RbusCore.RemoteCalls

/-!
# Requests that reach registered methods

The name of the method is looked for where the trailer of the message points to.  The result
of reading the trailer is not checked: without one the name is looked for at the start, and
any integer five bytes from the end will do.  The item found is compared as a C string, which
may go on behind it.

**Results.**
* `getString_section`: where the name is looked for, for bytes of any kind.
* `wellFormedRequest_iff`: when what is found there is a well-formed request.
* `registered_method_wellFormed_iff`: for which requests a method of the table is invoked
  only under the name the request carries.
-/

namespace RbusCore

open CStrings Resumption MessagePack

section Format

/-- The bytes end in the five-byte form of the integer `k`, an offset before the trailer. -/
def HasTrailer (data : List UInt8) (k : Nat) : Prop :=
  ∃ pre field, data = pre ++ 0xd2 :: field ∧ field.length = 4 ∧
    Int.bmod (ofBE field) (256 ^ 4) = k ∧ k < pre.length

/-- A string item that holds `s` starts at `k`. -/
def HasStringAt (data : List UInt8) (k : Nat) (s : CString) : Prop :=
  ∃ payload n, decode (data.drop k) = some (.str payload, n) ∧ CString.ofMemory payload = some s

/-- A request for the method `s`. -/
def WellFormedRequest (data : List UInt8) (s : CString) : Prop :=
  ∃ k, HasTrailer data k ∧ HasStringAt data k s

/-- What `rbusMessage_GetInt32` makes of an object. -/
def int32? : Obj → Option Int
  | .posInt n => some (toInt32 (viaI64 (.posInt n)))
  | .negInt i => some (toInt32 (viaI64 (.negInt i)))
  | _ => none

/-- Where the name is looked for: at the value of an integer five bytes from the end, and at
the start if there is none. -/
def sectionStart (data : List UInt8) : Nat :=
  if 5 ≤ data.length then
    toSizeT (((decode (data.drop (data.length - 5))).bind fun r => int32? r.1).getD 0)
  else 0

/-- The memory in which the name is looked for. -/
def sectionName? (data : List UInt8) : Option (List UInt8) :=
  match decode (data.drop (sectionStart data)) with
  | some (.str payload, n) => some (data.drop (sectionStart data + n - payload.length))
  | _ => none

/-- The ways in which bytes that yield a name fail to be a request. -/
inductive Malformed (data : List UInt8) : Prop
  | short
      (h : data.length < 5)
  | otherType
      (h : data[data.length - 5]? ≠ some 0xd2)
  | insideTrailer
      (h : data.length ≤ sectionStart data + 5)
  | unterminated
      (h : ∀ payload n, decode (data.drop (sectionStart data)) = some (.str payload, n) →
        0 ∉ payload)

variable {U : Unpacker}

theorem rbusMessageGetInt32_eq
    (m : RbusMessage U) :
    rbusMessageGetInt32 m = ((U.next m.sbuf m.readOffset).1.bind int32?, (unpackNextItem m).2) := by
  simp only [rbusMessageGetInt32, unpackNextItem]
  cases (U.next m.sbuf m.readOffset).1 with
  | none =>
      rfl
  | some o =>
      cases o <;> rfl

/-- The cursor after `rbusMessage_BeginMetaSectionRead`. -/
theorem beginMetaSectionRead_readOffset
    {data : List UInt8}
    (hlen : data.length < 4294967296) :
    (rbusMessageBeginMetaSectionRead (rbusMessageFromBytes data : RbusMessage U)).readOffset =
      sectionStart data := by
  have hread (start : Nat) (saved : Int) :
      (rbusMessageGetInt32 (U := U)
        { sbuf := data, pk := false, readOffset := start, metaOffset := saved }).1 =
        (decode (data.drop start)).bind fun r => int32? r.1 := by
    rw [rbusMessageGetInt32_eq]
    exact U.next_bind (fun _ => rfl) data start
  simp only [rbusMessageBeginMetaSectionRead, rbusMessageFromBytes, hread]
  rw [sectionStart]
  by_cases hfive : 5 ≤ data.length
  · have hstart : toSizeT ((data.length : Int) - 5) = data.length - 5 := by
      rw [toSizeT]
      omega
    rw [if_pos hfive, hstart]
  · have hend : data.drop (toSizeT ((data.length : Int) - 5)) = [] := by
      refine List.drop_of_length_le ?_
      rw [toSizeT]
      omega
    rw [if_neg hfive, hend]
    rfl

/-- Where the name is found. -/
theorem getString_section
    {data : List UInt8}
    (hlen : data.length < 4294967296) :
    (MessageApi.getString (MessageApi.beginMetaSectionRead
      (rbusMessageFromBytes data : RbusMessage U))).1 = sectionName? data := by
  obtain ⟨m, hm⟩ : ∃ m : RbusMessage U,
      rbusMessageBeginMetaSectionRead (rbusMessageFromBytes data) = m := ⟨_, rfl⟩
  have hcursor : m.readOffset = sectionStart data := by
    rw [← hm]
    exact beginMetaSectionRead_readOffset hlen
  have hbuf : m.sbuf = data := by
    rw [← hm, rbusMessageBeginMetaSectionRead_frame]
    rfl
  have hname (m : RbusMessage U) :
      (rbusMessageGetString m).1.map (fun p => (rbusMessageGetString m).2.sbuf.drop p.offset) =
        match decode (m.sbuf.drop m.readOffset) with
        | some (.str payload, n) => some (m.sbuf.drop (m.readOffset + n - payload.length))
        | _ => none := by
    cases hd : decode (m.sbuf.drop m.readOffset) with
    | some r =>
        obtain ⟨o, n⟩ := r
        have hnext := U.next_object _ _ o n hd
        cases o <;> simp [rbusMessageGetString, unpackNextItem, hnext]
    | none =>
        simp only [rbusMessageGetString, unpackNextItem]
        rcases U.next_of_decode_eq_none hd with hnone | ⟨tag, htag⟩
        · rw [hnone]
          rfl
        · rw [htag]
          rfl
  rw [messageApi_beginMetaSectionRead, messageApi_getString, hm, hname, hcursor, hbuf,
    sectionName?]

/-- The value of a five-byte integer at the end is where the name is looked for. -/
theorem sectionStart_of_field
    (pre : List UInt8)
    {field : List UInt8}
    (hfield : field.length = 4) :
    sectionStart (pre ++ 0xd2 :: field) = toSizeT (Int.bmod (ofBE field) (256 ^ 4)) := by
  have hsize : (pre ++ 0xd2 :: field).length = pre.length + 5 := by
    simp [hfield]
  have hdrop : (pre ++ 0xd2 :: field).drop pre.length = 0xd2 :: field := List.drop_left
  obtain ⟨i, hi⟩ : ∃ i, Int.bmod (ofBE field) (256 ^ 4) = i := ⟨_, rfl⟩
  have hlow := Int.le_bmod (x := (ofBE field : Int)) (m := 256 ^ 4) (by decide)
  have hhigh := Int.bmod_lt (x := (ofBE field : Int)) (m := 256 ^ 4) (by decide)
  rw [hi] at hlow hhigh ⊢
  norm_num at hlow hhigh
  have hread : decode (0xd2 :: field) = some (.ofInt i, 5) := by
    have hvalue : readInt 4 field = some (.ofInt (Int.bmod (ofBE field) (256 ^ 4)), 1 + 4) := by
      rw [readInt, field?, if_pos (by omega), List.take_of_length_le (by omega)]
      rfl
    rw [hi] at hvalue
    exact hvalue
  have hint : int32? (.ofInt i) = some i := by
    have hvia := viaI64_ofInt (i := i) (by omega) (by omega)
    have hrange := toInt32_of_range (n := i) (by omega) (by omega)
    rw [Obj.ofInt] at hvia ⊢
    split at hvia
    case isTrue hsign =>
      rw [if_pos hsign, int32?, hvia, hrange]
    case isFalse hsign =>
      rw [if_neg hsign, int32?, hvia, hrange]
  rw [sectionStart, if_pos (by omega), hsize, Nat.add_sub_cancel, hdrop, hread,
    Option.bind_some, hint, Option.getD_some]

/-- A trailer is a five-byte integer, and its offset lies before it. -/
theorem hasTrailer_iff
    {data : List UInt8}
    (hlen : data.length < 4294967296) :
    HasTrailer data (sectionStart data) ↔
      5 ≤ data.length ∧ data[data.length - 5]? = some 0xd2 ∧
        sectionStart data + 5 < data.length := by
  constructor
  · rintro ⟨pre, field, hdata, hfield, -, hlt⟩
    have hsize : data.length = pre.length + 5 := by
      simp [hdata, hfield]
    refine ⟨by omega, ?_, by omega⟩
    rw [hsize, Nat.add_sub_cancel, hdata, List.getElem?_append_right (Nat.le_refl _)]
    simp
  · rintro ⟨hfive, htype, hinside⟩
    obtain ⟨hidx, hget⟩ := List.getElem?_eq_some_iff.mp htype
    have hdrop := List.drop_eq_getElem_cons hidx
    rw [hget] at hdrop
    have hfield : (data.drop (data.length - 5 + 1)).length = 4 := by
      rw [List.length_drop]
      omega
    have hdata : data = data.take (data.length - 5) ++ 0xd2 :: data.drop (data.length - 5 + 1) := by
      rw [← hdrop, List.take_append_drop]
    have hstart := sectionStart_of_field (data.take (data.length - 5)) hfield
    rw [← hdata] at hstart
    have hhigh := Int.bmod_lt (x := (ofBE (data.drop (data.length - 5 + 1)) : Int))
      (m := 256 ^ 4) (by decide)
    have hlow := Int.le_bmod (x := (ofBE (data.drop (data.length - 5 + 1)) : Int))
      (m := 256 ^ 4) (by decide)
    refine ⟨_, _, hdata, hfield, ?_, ?_⟩
    · obtain ⟨i, hi⟩ : ∃ i, Int.bmod (ofBE (data.drop (data.length - 5 + 1))) (256 ^ 4) = i :=
        ⟨_, rfl⟩
      rw [hi] at hlow hhigh hstart ⊢
      norm_num at hlow hhigh
      -- a negative offset would be converted to one behind every buffer
      rw [toSizeT] at hstart
      omega
    · rw [List.length_take]
      omega

/-- The offset of a trailer is where the name is looked for. -/
theorem sectionStart_of_trailer
    {data : List UInt8} {k : Nat}
    (h : HasTrailer data k) :
    sectionStart data = k := by
  obtain ⟨pre, field, rfl, hfield, hk, -⟩ := h
  have hhigh := Int.bmod_lt (x := (ofBE field : Int)) (m := 256 ^ 4) (by decide)
  rw [sectionStart_of_field pre hfield]
  rw [hk] at hhigh ⊢
  norm_num at hhigh
  rw [toSizeT]
  omega

/-- The item found holds the name, unless it has no terminator. -/
theorem hasStringAt_iff
    {data region : List UInt8} {s : CString}
    (hname : sectionName? data = some region)
    (hregion : CString.ofMemory region = some s) :
    HasStringAt data (sectionStart data) s ↔
      ∃ payload n, decode (data.drop (sectionStart data)) = some (.str payload, n) ∧
        0 ∈ payload := by
  constructor
  · rintro ⟨payload, n, hdecode, hpayload⟩
    exact ⟨payload, n, hdecode, (CString.ofMemory_eq_some_iff.mp hpayload).1⟩
  · rintro ⟨payload, n, hdecode, hzero⟩
    refine ⟨payload, n, hdecode, ?_⟩
    obtain ⟨header, rest, hinput, hn⟩ := decode_str_layout hdecode
    have hsame : data.drop (sectionStart data + n - payload.length) = payload ++ rest := by
      rw [hn, ← Nat.add_assoc, Nat.add_sub_cancel, ← List.drop_drop, hinput, List.append_assoc,
        List.drop_left]
    rw [sectionName?, hdecode] at hname
    obtain rfl := Option.some.inj hname
    rw [hsame, CString.ofMemory_append_of_mem hzero] at hregion
    exact hregion

/-- The name found is the one a well-formed request carries, except where the bytes are
malformed. -/
theorem wellFormedRequest_iff
    {data region : List UInt8} {s : CString}
    (hlen : data.length < 4294967296)
    (hname : sectionName? data = some region)
    (hregion : CString.ofMemory region = some s) :
    WellFormedRequest data s ↔ ¬ Malformed data := by
  have hstring := hasStringAt_iff hname hregion
  have htrailer := hasTrailer_iff hlen
  constructor
  · rintro ⟨k, hk, hs⟩ hmalformed
    obtain rfl := sectionStart_of_trailer hk
    obtain ⟨hfive, htype, hinside⟩ := htrailer.mp hk
    obtain ⟨payload, n, hdecode, hzero⟩ := hstring.mp hs
    cases hmalformed with
    | short h =>
        omega
    | otherType h =>
        exact h htype
    | insideTrailer h =>
        omega
    | unterminated h =>
        exact h payload n hdecode hzero
  · intro hgood
    refine ⟨sectionStart data, htrailer.mpr ⟨?_, ?_, ?_⟩, hstring.mpr ?_⟩
    · by_contra h
      exact hgood (.short (by omega))
    · by_contra h
      exact hgood (.otherType h)
    · by_contra h
      exact hgood (.insideTrailer (by omega))
    · by_contra h
      exact hgood (.unterminated fun payload n hdecode hzero => h ⟨payload, n, hdecode, hzero⟩)

end Format

section Lookup

variable {U : Unpacker}

/-- The name the code finds in the bytes. -/
def FindsName (data : List UInt8) (s : CString) : Prop :=
  ∃ region, sectionName? data = some region ∧ CString.ofMemory region = some s

/-- What is looked up, given the object. -/
theorem lookupMethod_eq
    {data : List UInt8} {object : ServerObject} {w : World (RbusMessage U) (List UInt8)}
    (hlen : data.length < 4294967296)
    (hobject : w.gServerObjects.items.find? (fun o => o.ptr = object.ptr) = some object) :
    lookupMethod w data object.ptr =
      (sectionName? data).bind fun region =>
        (findAt? maxMethodNameLength (fun m => m.name.val) region object.methods).join := by
  simp only [lookupMethod, hobject, getString_section hlen, Option.bind_eq_bind,
    Option.bind_some]
  rfl

/-- A method that is looked up is in the table, under the name that is found. -/
theorem findsName_of_lookupMethod
    {data : List UInt8} {object : ServerObject} {w : World (RbusMessage U) (List UInt8)}
    {method : ServerMethod}
    (hlen : data.length < 4294967296)
    (hobject : w.gServerObjects.items.find? (fun o => o.ptr = object.ptr) = some object)
    (h : lookupMethod w data object.ptr = some method) :
    method ∈ object.methods ∧ FindsName data method.name.val := by
  rw [lookupMethod_eq hlen hobject, Option.bind_eq_some_iff] at h
  obtain ⟨region, hname, hfound⟩ := h
  obtain ⟨hmem, hregion⟩ :
      method ∈ object.methods ∧ CString.ofMemory region = some method.name.val :=
    ofMemory_of_findAt? (Option.join_eq_some_iff.mp hfound)
  exact ⟨hmem, region, hname, hregion⟩

/-- The name of a method of the table that is found leads to a method of that name. -/
theorem lookupMethod_of_findsName
    {data : List UInt8} {object : ServerObject} {w : World (RbusMessage U) (List UInt8)}
    {method : ServerMethod}
    (hlen : data.length < 4294967296)
    (hobject : w.gServerObjects.items.find? (fun o => o.ptr = object.ptr) = some object)
    (hmem : method ∈ object.methods)
    (h : FindsName data method.name.val) :
    ∃ found, lookupMethod w data object.ptr = some found ∧
      found.name.val = method.name.val := by
  obtain ⟨region, hname, hregion⟩ := h
  rw [lookupMethod_eq hlen hobject, hname, Option.bind_some,
    findAt?_of_ofMemory ServerMethod.name hregion]
  cases hfind : object.methods.find? fun m => m.name.val = method.name.val with
  | none =>
      have hnone := List.find?_eq_none.mp hfind method hmem
      simp at hnone
  | some found =>
      exact ⟨found, rfl, by simpa using List.find?_some hfind⟩

/-- `dispatch_method_call` goes on with the method that is looked up. -/
theorem dispatchMethodCall_lookup
    (hdr : RtMessageHeader)
    {data : List UInt8} {object : ServerObject} {p : Ptr}
    {w : World (RbusMessage U) (List UInt8)}
    (hobject : w.gServerObjects.items.find? (fun o => o.ptr = object.ptr) = some object)
    (hmsg : w.refCount p ≠ 0) :
    (lookupMethod w data object.ptr = none ∧ ∃ w₁,
        dispatchMethodCall ⟨p, (rbusMessageFromBytes data : RbusMessage U)⟩ hdr object.ptr w =
          .undef w₁) ∨
      ∃ name request w₁,
        dispatchMethodCall ⟨p, (rbusMessageFromBytes data : RbusMessage U)⟩ hdr object.ptr w =
          dispatchTo (lookupMethod w data object.ptr) object.ptr name request hdr w₁ := by
  obtain ⟨name, m₁, hname⟩ : ∃ name m₁, MessageApi.getString (MessageApi.beginMetaSectionRead
      (rbusMessageFromBytes data : RbusMessage U)) = (name, m₁) := ⟨_, _, rfl⟩
  obtain ⟨w₀, hlocked, hobject₀⟩ : ∃ w₀, lock w = .done () w₀ ∧
      w₀.gServerObjects.items.find? (fun o => o.ptr = object.ptr) = some object :=
    ⟨_, rfl, hobject⟩
  obtain ⟨w₁, hunlocked⟩ : ∃ w₁, unlock w₀ = .done () w₁ := ⟨_, rfl⟩
  have hmessage : derefMessage (W := List UInt8)
      ⟨p, (rbusMessageFromBytes data : RbusMessage U)⟩ w = .done _ w :=
    congrFun (if_neg hmsg) w
  have hlookup : lookupMethod w data object.ptr = name.bind fun region =>
      (findAt? maxMethodNameLength (fun m => m.name.val) region object.methods).join := by
    simp only [lookupMethod, hobject, hname, Option.bind_eq_bind, Option.bind_some]
    rfl
  rw [dispatchMethodCall, Program.bind_of_done hmessage]
  dsimp only
  rw [hname]
  dsimp only
  rw [Program.bind_of_done hlocked, Program.bind_of_done (derefObject_of_find hobject₀), hlookup]
  cases name with
  | none =>
      refine Or.inr ⟨none, MessageApi.endMetaSectionRead m₁, w₁, ?_⟩
      rw [findMethod, Program.bind_of_done (x := pure _) rfl, Program.bind_of_done hunlocked]
      rfl
  | some region =>
      rw [findMethod, rtVectorFindAt, Option.bind_some]
      cases findAt? maxMethodNameLength (fun m : ServerMethod => m.name.val) region
          object.methods with
      | none =>
          exact Or.inl ⟨rfl, _, rfl⟩
      | some found =>
          refine Or.inr ⟨some region, MessageApi.endMetaSectionRead m₁, w₁, ?_⟩
          rw [Program.bind_of_done (x := pure _) rfl, Program.bind_of_done hunlocked]
          rfl

/--
Bytes of any kind that are delivered for an object.  The dispatch goes on with the method of
the table that is looked up, or with none; and the bytes are a well-formed request for every
method that is looked up exactly when they are not malformed while a method of the table has
the name that is found in them.
-/
theorem registered_method_wellFormed_iff
    (hdr : RtMessageHeader)
    (data : List UInt8)
    (object : ServerObject)
    (p : Ptr)
    (w : World (RbusMessage U) (List UInt8))
    (hlen : data.length < 4294967296)
    (hobject : w.gServerObjects.items.find? (fun o => o.ptr = object.ptr) = some object)
    (hmsg : w.refCount p ≠ 0) :
    ((lookupMethod w data object.ptr = none ∧ ∃ w₁,
        dispatchMethodCall ⟨p, (rbusMessageFromBytes data : RbusMessage U)⟩ hdr object.ptr w =
          .undef w₁) ∨
      ∃ name request w₁,
        dispatchMethodCall ⟨p, (rbusMessageFromBytes data : RbusMessage U)⟩ hdr object.ptr w =
          dispatchTo (lookupMethod w data object.ptr) object.ptr name request hdr w₁) ∧
      ((∀ method, lookupMethod w data object.ptr = some method →
          WellFormedRequest data method.name.val) ↔
        ¬ (Malformed data ∧ ∃ method ∈ object.methods, FindsName data method.name.val)) := by
  refine ⟨dispatchMethodCall_lookup hdr hobject hmsg, ?_⟩
  constructor
  · rintro h ⟨hmalformed, method, hmem, hfinds⟩
    obtain ⟨found, hfound, hsame⟩ := lookupMethod_of_findsName hlen hobject hmem hfinds
    have hgood := h found hfound
    obtain ⟨region, hname, hregion⟩ := hfinds
    rw [hsame] at hgood
    exact (wellFormedRequest_iff hlen hname hregion).mp hgood hmalformed
  · intro h method hmethod
    obtain ⟨hmem, hfinds⟩ := findsName_of_lookupMethod hlen hobject hmethod
    obtain ⟨region, hname, hregion⟩ := hfinds
    refine (wellFormedRequest_iff hlen hname hregion).mpr fun hmalformed => ?_
    exact h ⟨hmalformed, method, hmem, region, hname, hregion⟩

/-- A request with a name and a trailer reaches the method of that name. -/
theorem sampleMethodMessage_wellFormed :
    ∃ method, lookupMethod (sampleRegistered sampleMethodObject) sampleMethodMessage 1 =
      some method ∧ WellFormedRequest sampleMethodMessage method.name.val := by
  have hwellFormed := (registered_method_wellFormed_iff (U := .scalars) (sampleHeader 1)
    sampleMethodMessage sampleMethodObject 0
    { sampleRegistered sampleMethodObject with refCount := fun _ => 1 }
    (by decide) (by decide) (by decide)).2.mpr
  refine ⟨⟨⟨.ofChars ['m'], by decide⟩, .app 0, 0⟩, by decide +kernel, ?_⟩
  refine hwellFormed (fun ⟨hmalformed, _⟩ => ?_) _ (by decide +kernel)
  have hstart : sectionStart sampleMethodMessage = 0 := by decide +kernel
  cases hmalformed with
  | short h =>
      exact absurd h (by decide)
  | otherType h =>
      exact h (by decide)
  | insideTrailer h =>
      rw [hstart] at h
      exact absurd h (by decide)
  | unterminated h =>
      rw [hstart] at h
      exact h [0x6d, 0x00] 3 (by decide) (by decide)

/-- Three bytes without a trailer reach a method of the table. -/
theorem short_message_reaches_method :
    ∃ method, lookupMethod (sampleRegistered sampleMethodObject) [0xa2, 0x6d, 0x00] 1 =
      some method ∧ ¬ WellFormedRequest [0xa2, 0x6d, 0x00] method.name.val := by
  refine ⟨⟨⟨.ofChars ['m'], by decide⟩, .app 0, 0⟩, by decide +kernel, ?_⟩
  rintro ⟨k, ⟨pre, field, hdata, hfield, -, -⟩, -⟩
  have hlen := congrArg List.length hdata
  simp only [List.length_append, List.length_cons, List.length_nil, hfield] at hlen
  omega

end Lookup

end RbusCore
