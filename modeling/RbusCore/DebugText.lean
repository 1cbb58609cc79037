import RbusCore.Message
import RbusCore.MessageQueue

/-!
# The debug text of a message

`rbusMessage_ToDebugString` prints the items of a message into a buffer of 2048 bytes.  The
write position advances by the length that the text of an item would have, and the text is cut
with an ellipsis in front of the first item that finds no room.  The reported length is the
length of the text as long as all items fit; the ellipsis counts its terminator, and the text of
the last item may lead the position past the end.

**Results.**
* `DebugText.printItem_eq`: what printing an item writes.
* `DebugText.Shows.safe_iff`: the loop, from a position behind some items.
* `debugText_safe_iff`: when the text stays in its buffer with the reported length.
* `debugText_inBounds_iff`: when no index leaves the buffer, whatever length is reported.
-/

namespace RbusCore

open CStrings MessagePack

section Items

variable {U : Unpacker}

/-- The items that are unpacked one after another. -/
inductive Unpacks : RbusMessage U → List Obj → Prop
  | done {m m' : RbusMessage U}
      (hnext : unpackNextItem m = (none, m')) :
      Unpacks m []
  | item {m m' : RbusMessage U} {o : Obj} {os : List Obj}
      (hnext : unpackNextItem m = (some o, m'))
      (hrest : Unpacks m' os) :
      Unpacks m (o :: os)

/-- The items of a message, from its beginning. -/
def HasItems (m : RbusMessage U) (os : List Obj) : Prop :=
  Unpacks ({ m with readOffset := 0 } : RbusMessage U) os

/-- Every item takes at least one byte. -/
theorem Unpacks.length_le
    {m : RbusMessage U} {os : List Obj}
    (h : Unpacks m os) :
    os.length ≤ m.sbuf.length - m.readOffset := by
  induction h with
  | done =>
      exact Nat.zero_le _
  | @item m m' o os hnext _ ih =>
      obtain ⟨hobject, rfl⟩ := Prod.mk.inj hnext
      have hread : U.next m.sbuf m.readOffset = (some o, (U.next m.sbuf m.readOffset).2) :=
        Prod.ext hobject rfl
      obtain ⟨hmoved, hinside⟩ := U.next_progress _ _ _ _ hread
      rw [List.length_cons]
      exact Nat.lt_of_le_of_lt ih (Nat.sub_lt_sub_left (Nat.lt_of_lt_of_le hmoved hinside) hmoved)

/-- The items of a message that consists of values. -/
theorem unpacks_encodeAll
    (vs : List Value)
    (hfits : ∀ v ∈ vs, v.Fits)
    {m : RbusMessage U}
    (h : m.sbuf.drop m.readOffset = encodeAll vs) :
    Unpacks m (vs.map Value.obj) := by
  induction vs generalizing m with
  | nil =>
      exact .done (unpackNextItem_atEnd (List.drop_eq_nil_iff.mp h))
  | cons v vs ih =>
      have hv := hfits v (List.mem_cons_self ..)
      refine .item (unpackNextItem_value hv h) (ih (fun v' h' => hfits v' (.tail v h')) ?_)
      rw [← List.drop_drop, h, encodeAll_cons, List.drop_left]

end Items

section Buffer

namespace DebugText

variable {t : DebugText}

theorem put_of_lt
    {i : Nat}
    (h : i < allocIncrement)
    (c : UInt8) :
    t.put i c = { t with buffer := t.buffer.set i c } := by
  rw [put, if_pos ⟨Int.natCast_nonneg i, Int.ofNat_lt.mpr h⟩, Int.toNat_natCast]

theorem put_length
    (i : Int) (c : UInt8) :
    (t.put i c).buffer.length = t.buffer.length := by
  rw [put]
  split
  · exact List.length_set
  · rfl

/-- Characters that are put one after another replace as many in the buffer. -/
theorem put_all
    {before old after cs : List UInt8} {k w : Nat}
    (hold : old.length = cs.length)
    (hbefore : before.length = w + k)
    (hroom : before.length + cs.length ≤ allocIncrement)
    (hbuffer : t.buffer = before ++ (old ++ after)) :
    (cs.zipIdx k).foldl (fun (t' : DebugText) (c : UInt8 × Nat) => t'.put (w + c.2) c.1) t =
      { t with buffer := before ++ (cs ++ after) } := by
  induction cs generalizing t before old k with
  | nil =>
      obtain rfl := List.eq_nil_of_length_eq_zero hold
      rw [← hbuffer]
      rfl
  | cons c cs ih =>
      cases old with
      | nil =>
          cases hold
      | cons d old =>
          rw [List.length_cons] at hroom
          have hput : t.put (w + k : Nat) c =
              { t with buffer := (before ++ [c]) ++ (old ++ after) } := by
            rw [put_of_lt (by omega), hbuffer, ← hbefore, List.set_append_right _ _ (Nat.le_refl _),
              Nat.sub_self, List.append_assoc]
            rfl
          have hlength : (before ++ [c]).length = w + (k + 1) := by
            rw [List.length_append, hbefore]
            rfl
          have hroom' : (before ++ [c]).length + cs.length ≤ allocIncrement := by
            rw [List.length_append, List.length_singleton]
            omega
          rw [List.zipIdx_cons, List.foldl_cons]
          dsimp only
          rw [← Int.natCast_add, hput, ih (Nat.succ.inj hold) hlength hroom' rfl, List.append_assoc]
          rfl

end DebugText

/-- A text in the buffer, with what is behind it. -/
structure DebugText.Shows (text rest : List UInt8) (t : DebugText) : Prop where
  inBounds : t.inBounds = true
  buffer : t.buffer = text ++ rest
  length : text.length + rest.length = allocIncrement
  offset : t.writeOffset = text.length
  noNul : ∀ c ∈ text, c ≠ 0

namespace DebugText

variable {t : DebugText} {text rest : List UInt8}

theorem Shows.room_eq
    (h : t.Shows text rest) :
    t.room = rest.length := by
  have hlength := h.length
  rw [room, h.offset]
  omega

/-- What printing an item writes: as much of the text as fits, and a terminator. -/
theorem Shows.printItem_eq
    (h : t.Shows text rest)
    (hroom : rest ≠ [])
    (item : List UInt8) :
    t.printItem item =
      { t with
        buffer := text ++ (item.take (rest.length - 1) ++ 0 ::
          rest.drop (min (rest.length - 1) item.length + 1))
        writeOffset := text.length + item.length } := by
  have hpos : 0 < rest.length := List.length_pos_iff.mpr hroom
  have hlength := h.length
  rw [printItem, h.room_eq, Int.toNat_natCast, h.offset]
  have hshown : (item.take (rest.length - 1) ++ [0]).length =
      min (rest.length - 1) item.length + 1 := by
    rw [List.length_append, List.length_take]
    rfl
  have hsplit : t.buffer = text ++ (rest.take (min (rest.length - 1) item.length + 1) ++
      rest.drop (min (rest.length - 1) item.length + 1)) := by
    rw [List.take_append_drop, h.buffer]
  have hold : (rest.take (min (rest.length - 1) item.length + 1)).length =
      (item.take (rest.length - 1) ++ [0]).length := by
    rw [hshown, List.length_take]
    omega
  have hfits : text.length + (item.take (rest.length - 1) ++ [0]).length ≤ allocIncrement := by
    rw [hshown]
    omega
  rw [put_all hold (Nat.add_zero _).symm hfits hsplit, List.append_assoc]
  rfl

/-- An item that fits is shown behind the others. -/
theorem Shows.printed
    {item : List UInt8}
    (h : t.Shows text rest)
    (hnoNul : ∀ c ∈ item, c ≠ 0)
    (hfits : item.length < rest.length) :
    ∃ behind, (t.printItem item).Shows (text ++ item) (0 :: behind) := by
  have hroom : rest ≠ [] := List.length_pos_iff.mp (Nat.zero_lt_of_lt hfits)
  have hlength := h.length
  rw [h.printItem_eq hroom, List.take_of_length_le (by omega)]
  refine ⟨_, h.inBounds, (List.append_assoc _ _ _).symm, ?_, ?_, ?_⟩
  · rw [List.length_append, List.length_cons, List.length_drop]
    omega
  · rw [List.length_append, Int.natCast_add]
  · intro c hc
    rcases List.mem_append.mp hc with hold | hnew
    · exact h.noNul c hold
    · exact hnoNul c hnew

/-- An item that does not fit fills the buffer up to the terminator. -/
theorem Shows.overrun
    {item : List UInt8}
    (h : t.Shows text rest)
    (hroom : rest ≠ [])
    (hlong : rest.length ≤ item.length) :
    (t.printItem item).buffer.length = allocIncrement ∧
      (t.printItem item).buffer[allocIncrement - 1]? = some 0 ∧
      (t.printItem item).writeOffset = (text.length + item.length : Nat) := by
  have hpos : 0 < rest.length := List.length_pos_iff.mpr hroom
  have hlength := h.length
  have htake : (item.take (rest.length - 1)).length = rest.length - 1 := by
    rw [List.length_take]
    omega
  have hbefore : (text ++ item.take (rest.length - 1)).length = allocIncrement - 1 := by
    rw [List.length_append, htake]
    omega
  rw [h.printItem_eq hroom, ← List.append_assoc]
  refine ⟨?_, ?_, (Int.natCast_add _ _).symm⟩
  · rw [List.length_append, hbefore, List.length_cons, List.length_drop]
    omega
  · rw [← hbefore, List.getElem?_append_right (Nat.le_refl _), Nat.sub_self]
    rfl

/-- A character is put behind the text. -/
theorem Shows.put_end
    {c d : UInt8}
    (h : t.Shows text (d :: rest)) :
    t.put t.writeOffset c = { t with buffer := text ++ c :: rest } := by
  have hlength := h.length
  rw [List.length_cons] at hlength
  have hinside : text.length < allocIncrement := by
    omega
  have hput := put_of_lt (t := t) hinside c
  rw [← h.offset] at hput
  rw [hput, h.buffer, List.set_append_right _ _ (Nat.le_refl _), Nat.sub_self]
  rfl

/-- The space behind an item. -/
theorem Shows.separated
    {c : UInt8}
    (h : t.Shows text (0 :: c :: rest)) :
    t.separate.Shows (text ++ [32]) (0 :: rest) := by
  have hlength := h.length
  simp only [List.length_cons] at hlength
  have hspace : (t.append 32).Shows (text ++ [32]) (c :: rest) := by
    rw [append, h.put_end]
    refine ⟨h.inBounds, List.append_cons _ _ _, ?_, ?_, ?_⟩
    · simp only [List.length_append, List.length_cons, List.length_nil]
      omega
    · rw [List.length_append, Int.natCast_add, h.offset]
      rfl
    · intro d hd
      rcases List.mem_append.mp hd with hold | hnew
      · exact h.noNul d hold
      · rw [List.mem_singleton.mp hnew]
        decide
  rw [separate, if_pos (by rw [h.room_eq]; simp only [List.length_cons]; omega)]
  dsimp only
  rw [hspace.put_end]
  exact ⟨hspace.inBounds, rfl, hspace.length, hspace.offset, hspace.noNul⟩

/-- There is no space behind an item that reaches the end. -/
theorem separate_of_room_le
    (h : t.room ≤ 1) :
    t.separate = t := by
  rw [separate, if_neg (by omega)]

/-- The last space is trimmed. -/
theorem Shows.trim_space
    (h : t.Shows (text ++ [32]) (0 :: rest)) :
    t.trim.Shows text (0 :: 0 :: rest) := by
  have hlength := h.length
  have hoffset : t.writeOffset = (text.length + 1 : Nat) := by
    rw [h.offset, List.length_append]
    rfl
  have hlast : t.writeOffset - 1 = text.length := by
    omega
  simp only [List.length_append, List.length_cons, List.length_nil] at hlength
  have hread : t.buffer[text.length]? = some 32 := by
    rw [h.buffer, List.append_assoc, List.getElem?_append_right (Nat.le_refl _), Nat.sub_self]
    rfl
  rw [trim, if_neg (by omega), hlast, if_pos (by omega), Int.toNat_natCast, if_pos hread,
    put_of_lt (by omega)]
  dsimp only
  rw [h.buffer, List.append_assoc, List.set_append_right _ _ (Nat.le_refl _), Nat.sub_self]
  refine ⟨h.inBounds, rfl, ?_, rfl, fun c hc => h.noNul c (List.mem_append_left _ hc)⟩
  simp only [List.length_cons]
  omega

/-- A text that does not end with a space is left alone. -/
theorem Shows.trim_text
    {c : UInt8}
    (h : t.Shows (text ++ [c]) (0 :: rest))
    (hc : c ≠ 32) :
    t.trim = t := by
  have hlength := h.length
  have hoffset : t.writeOffset = (text.length + 1 : Nat) := by
    rw [h.offset, List.length_append]
    rfl
  have hlast : t.writeOffset - 1 = text.length := by
    omega
  simp only [List.length_append, List.length_cons, List.length_nil] at hlength
  have hread : t.buffer[text.length]? = some c := by
    rw [h.buffer, List.append_assoc, List.getElem?_append_right (Nat.le_refl _), Nat.sub_self]
    rfl
  have hother : ¬t.buffer[text.length]? = some 32 := by
    rw [hread]
    exact fun h => hc (Option.some.inj h)
  rw [trim, if_neg (by omega), hlast, if_pos (by omega), Int.toNat_natCast, if_neg hother]

theorem append_length
    (c : UInt8) :
    (t.append c).buffer.length = t.buffer.length := by
  rw [append]
  exact put_length t.writeOffset c

theorem append_last
    {n : Nat}
    (hbuffer : t.buffer.length = allocIncrement)
    (hoffset : t.writeOffset = n)
    (hinside : n < allocIncrement)
    (c : UInt8) :
    (t.append c).buffer[n]? = some c := by
  rw [append, hoffset, put_of_lt hinside]
  exact List.getElem?_set_self (by omega)

/-- The position is behind the terminator of the dots. -/
theorem ellipsis_terminated
    (hbuffer : t.buffer.length = allocIncrement)
    (hoffset : 0 ≤ t.writeOffset) :
    ∃ n : Nat, n < allocIncrement ∧ t.ellipsis.writeOffset = n + 1 ∧
      t.ellipsis.buffer[n]? = some 0 := by
  let start : DebugText :=
    if t.room ≤ 4 then { t with writeOffset := (allocIncrement : Int) - 4 } else t
  have hstart : start.buffer.length = allocIncrement := by
    dsimp only [start]
    split <;> exact hbuffer
  have hrange : 0 ≤ start.writeOffset ∧ start.writeOffset + 3 < allocIncrement := by
    dsimp only [start]
    split
    case isTrue =>
      show (0 : Int) ≤ 2048 - 4 ∧ (2048 : Int) - 4 + 3 < 2048
      decide
    case isFalse hroom =>
      rw [room] at hroom
      omega
  obtain ⟨n, hn⟩ := Int.eq_ofNat_of_zero_le hrange.1
  rw [hn] at hrange
  have hdots : (((start.append 46).append 46).append 46).writeOffset = (n + 3 : Nat) := by
    show start.writeOffset + 1 + 1 + 1 = _
    rw [hn]
    omega
  refine ⟨n + 3, by omega, ?_, append_last ?_ hdots (by omega) 0⟩
  · show (((start.append 46).append 46).append 46).writeOffset + 1 = _
    rw [hdots]
  · rw [append_length, append_length, append_length, hstart]

/-- The text of the buffer has the reported length, and nothing else has been used. -/
structure Safe (t : DebugText) : Prop where
  inBounds : t.inBounds = true
  terminated : ∃ s, CString.ofMemory t.buffer = some s ∧ t.writeOffset = s.strlen

/-- A terminated text has the reported length. -/
theorem Shows.safe
    (h : t.Shows text (0 :: rest)) :
    t.Safe := by
  refine ⟨h.inBounds, ⟨text, h.noNul⟩, ?_, h.offset⟩
  rw [h.buffer]
  have hread := CString.ofMemory_append ⟨text, h.noNul⟩ rest
  rw [CString.memory, List.append_assoc] at hread
  exact hread

/-- The position is not behind the terminator. -/
theorem not_safe_of_nul
    {n : Nat}
    (hoffset : t.writeOffset = n + 1)
    (hinside : n < allocIncrement)
    (hnul : t.buffer[n]? = some 0) :
    ¬t.trim.Safe := by
  have hlast : t.writeOffset - 1 = n := by
    omega
  have hother : ¬t.buffer[n]? = some 32 := by
    rw [hnul]
    decide
  rw [trim, if_neg (by omega), hlast, if_pos (by omega), Int.toNat_natCast, if_neg hother]
  rintro ⟨-, s, hread, hlength⟩
  have hle := CString.strlen_le_of_nul hread hnul
  omega

/-- The position is not past the end. -/
theorem not_safe_of_past
    (hpast : allocIncrement < t.writeOffset) :
    ¬t.trim.Safe := by
  rw [trim, if_neg (by omega), if_neg (by omega)]
  exact fun h => Bool.false_ne_true h.inBounds

end DebugText

end Buffer

section Loop

/-- What is assumed of the text of an item: it has characters, among them no NUL and no space at
the end. -/
structure Printable (text : List UInt8) : Prop where
  noNul : ∀ c ∈ text, c ≠ 0
  last : ∃ front c, text = front ++ [c] ∧ c ≠ 32

/-- An item finds room behind `offset` characters, and is no string that is refused. -/
def ItemFits (print : Obj → List UInt8) (offset : Nat) (o : Obj) : Prop :=
  offset + (print o).length < allocIncrement ∧
    ∀ payload, o = .str payload → toInt32 payload.length + offset + 3 ≤ allocIncrement

/-- All items find room, with a space behind each. -/
def AllFit (print : Obj → List UInt8) : Nat → List Obj → Prop
  | _, [] => True
  | offset, o :: os => ItemFits print offset o ∧ AllFit print (offset + (print o).length + 1) os

variable {U : Unpacker} {print : Obj → List UInt8} {m : RbusMessage U} {os : List Obj}
variable {t : DebugText} {text rest : List UInt8} {rounds : Nat}

theorem not_allFit_of_full
    {offset : Nat}
    (hfull : allocIncrement ≤ offset)
    (hsome : os ≠ []) :
    ¬AllFit print offset os := by
  cases os with
  | nil =>
      exact absurd rfl hsome
  | cons o os =>
      rintro ⟨⟨hfits, -⟩, -⟩
      omega

/-- The special test for strings. -/
theorem tooLong_iff
    {n : Nat}
    (hoffset : t.writeOffset = n)
    (o : Obj) :
    t.tooLong o = true ↔
      ¬∀ payload, o = .str payload → toInt32 payload.length + n + 3 ≤ allocIncrement := by
  cases o with
  | str payload =>
      rw [DebugText.tooLong, DebugText.room, hoffset, decide_eq_true_iff]
      constructor
      · intro hlong hall
        have hfits := hall payload rfl
        omega
      · intro hrefused
        by_contra hfits
        refine hrefused ?_
        rintro _ ⟨⟩
        omega
  | _ =>
      constructor
      · exact fun h => absurd h Bool.false_ne_true
      · exact fun h => absurd (by rintro _ ⟨⟩) h

/-- An item that is cut leaves the position behind the terminator. -/
theorem cut_not_safe
    (hbuffer : t.buffer.length = allocIncrement)
    (hoffset : 0 ≤ t.writeOffset) :
    ¬t.ellipsis.trim.Safe := by
  obtain ⟨n, hn, hposition, hnul⟩ := DebugText.ellipsis_terminated hbuffer hoffset
  exact DebugText.not_safe_of_nul hposition hn hnul

/-- A position at or past the end: the loop ends, or what follows is cut. -/
theorem loop_full
    (hitems : Unpacks m os)
    (hrounds : os.length < rounds)
    (hfull : t.room ≤ 1) :
    (debugStringLoop print rounds m t).2 = if os = [] then t else t.ellipsis := by
  cases rounds with
  | zero =>
      cases hrounds
  | succ rounds =>
      cases hitems with
      | done hnext =>
          rw [debugStringLoop, hnext]
          rfl
      | item hnext hrest =>
          rw [debugStringLoop, hnext, if_neg (List.cons_ne_nil _ _)]
          dsimp only
          rw [if_pos (Or.inl hfull)]

/-- A position behind some items, each with a space behind it. -/
structure Ready (text : List UInt8) (t : DebugText) : Prop where
  shown : ∃ rest, t.Shows text rest
  room : text.length < allocIncrement
  space : text ≠ [] → ∃ front rest, text = front ++ [32] ∧ t.Shows text (0 :: rest)

theorem DebugText.Shows.buffer_length
    (h : t.Shows text rest) :
    t.buffer.length = allocIncrement := by
  rw [h.buffer, List.length_append, h.length]

/-- An item that takes the last character in front of the terminator. -/
theorem last_item_safe_iff
    {front : List UInt8} {c : UInt8}
    (h : t.Shows text [0])
    (htext : text = front ++ [c])
    (hc : c ≠ 32)
    (hitems : Unpacks m os)
    (hrounds : os.length < rounds) :
    (debugStringLoop print rounds m t.separate).2.trim.Safe ↔
      AllFit print (text.length + 1) os := by
  have hroom : t.room ≤ 1 := by
    rw [h.room_eq]
    exact Int.le_refl 1
  rw [DebugText.separate_of_room_le hroom, loop_full hitems hrounds hroom]
  by_cases hnil : os = []
  · subst hnil
    rw [htext] at h
    rw [if_pos rfl, h.trim_text hc]
    exact ⟨fun _ => trivial, fun _ => h.safe⟩
  · have hoffset : 0 ≤ t.writeOffset := by
      rw [h.offset]
      exact Int.natCast_nonneg _
    rw [if_neg hnil]
    have hfull : allocIncrement ≤ text.length + 1 := Nat.le_of_eq h.length.symm
    exact ⟨fun hsafe => absurd hsafe (cut_not_safe h.buffer_length hoffset),
      fun hfit => absurd hfit (not_allFit_of_full hfull hnil)⟩

/-- An item that does not find room. -/
theorem overrun_not_safe
    {item : List UInt8}
    (h : t.Shows text rest)
    (hroom : rest ≠ [])
    (hlong : rest.length ≤ item.length)
    (hitems : Unpacks m os)
    (hrounds : os.length < rounds) :
    ¬(debugStringLoop print rounds m (t.printItem item).separate).2.trim.Safe := by
  obtain ⟨hbuffer, hnul, hoffset⟩ := h.overrun hroom hlong
  have hlength := h.length
  have hfull : (t.printItem item).room ≤ 1 := by
    rw [DebugText.room, hoffset]
    omega
  rw [DebugText.separate_of_room_le hfull, loop_full hitems hrounds hfull]
  split
  · by_cases hend : text.length + item.length = allocIncrement
    · rw [hend] at hoffset
      exact DebugText.not_safe_of_nul hoffset (by decide) hnul
    · refine DebugText.not_safe_of_past ?_
      rw [hoffset]
      omega
  · refine cut_not_safe hbuffer ?_
    rw [hoffset]
    exact Int.natCast_nonneg _

/-- The items that follow are all shown, with the right length, exactly if they all fit. -/
theorem Ready.safe_iff
    (h : Ready text t)
    (hitems : Unpacks m os)
    (hrounds : os.length < rounds)
    (hprint : ∀ o ∈ os, Printable (print o))
    (hsome : text = [] → os ≠ []) :
    (debugStringLoop print rounds m t).2.trim.Safe ↔ AllFit print text.length os := by
  induction hitems generalizing t text rounds with
  | done hnext =>
      have htext : text ≠ [] := fun hnil => hsome hnil rfl
      obtain ⟨front, rest, rfl, hshown⟩ := h.space htext
      cases rounds with
      | zero =>
          cases hrounds
      | succ rounds =>
          rw [debugStringLoop, hnext]
          exact ⟨fun _ => trivial, fun _ => hshown.trim_space.safe⟩
  | @item m m' o os hnext hrest ih =>
      obtain ⟨rest, hshown⟩ := h.shown
      obtain ⟨hnoNul, front, c, hfront, hc⟩ := hprint o (List.mem_cons_self ..)
      have hlength := hshown.length
      have hroom := hshown.room_eq
      have hlong := tooLong_iff hshown.offset o
      cases rounds with
      | zero =>
          cases hrounds
      | succ rounds =>
          have hrounds' : os.length < rounds := Nat.lt_of_succ_lt_succ hrounds
          rw [debugStringLoop, hnext, AllFit, ItemFits]
          dsimp only
          by_cases hcut : 1 ≥ t.room ∨ t.tooLong o = true
          · rw [if_pos hcut]
            have hoffset : 0 ≤ t.writeOffset := by
              rw [hshown.offset]
              exact Int.natCast_nonneg _
            refine ⟨fun hsafe => absurd hsafe (cut_not_safe hshown.buffer_length hoffset), ?_⟩
            rintro ⟨⟨hfits, hstring⟩, -⟩
            rcases hcut with hfull | hrefused
            · rw [hfront, List.length_append, List.length_singleton] at hfits
              omega
            · exact absurd hstring (hlong.mp hrefused)
          · rw [if_neg hcut]
            obtain ⟨hfull, hrefused⟩ := not_or.mp hcut
            have hstring := not_not.mp (mt hlong.mpr hrefused)
            by_cases hfits : (print o).length < rest.length
            · have hinside : text.length + (print o).length < allocIncrement := by
                omega
              obtain ⟨behind, hprinted⟩ := hshown.printed hnoNul hfits
              rw [and_iff_right ⟨hinside, hstring⟩, ← List.length_append]
              cases behind with
              | nil =>
                  have htext : text ++ print o = (text ++ front) ++ [c] := by
                    rw [hfront, List.append_assoc]
                  exact last_item_safe_iff hprinted htext hc hrest hrounds'
              | cons d behind =>
                  have hspace := hprinted.separated
                  have hready : Ready (text ++ print o ++ [32])
                      (t.printItem (print o)).separate := by
                    refine ⟨⟨_, hspace⟩, ?_, fun _ => ⟨_, behind, rfl, hspace⟩⟩
                    have hbound := hspace.length
                    rw [List.length_cons] at hbound
                    omega
                  have hmore := ih hready hrounds' (fun o' h' => hprint o' (.tail o h'))
                    (fun hnil => by simp at hnil)
                  have hend : (text ++ print o ++ [32]).length = (text ++ print o).length + 1 :=
                    List.length_append
                  rw [hend] at hmore
                  exact hmore
            · have hrest' : rest ≠ [] := by
                rintro rfl
                rw [List.length_nil] at hroom
                omega
              refine ⟨fun hsafe => absurd hsafe
                (overrun_not_safe hshown hrest' (Nat.le_of_not_lt hfits) hrest hrounds'), ?_⟩
              rintro ⟨⟨hinside, -⟩, -⟩
              omega

/-- The buffer before the first item. -/
theorem ready_start
    {uninit : List UInt8}
    (h : uninit.length = allocIncrement) :
    Ready [] { buffer := uninit, writeOffset := 0, inBounds := true } where
  shown := ⟨uninit, rfl, rfl, by rw [h]; rfl, rfl, List.forall_mem_nil _⟩
  room := by decide
  space := fun hnil => absurd rfl hnil

/--
For every message, whatever its items and whatever was in the memory of the buffer: every index
is inside the buffer, the text is terminated in it, and its length is reported, exactly if the
message has an item and each item finds room behind the others.
-/
theorem debugText_safe_iff
    (hitems : HasItems m os)
    (hprint : ∀ o ∈ os, Printable (print o)) :
    (∀ uninit, uninit.length = allocIncrement →
        (rbusMessageToDebugString print uninit m).2.Safe) ↔
      os ≠ [] ∧ AllFit print 0 os := by
  have hrounds : os.length < m.sbuf.length + 1 := Nat.lt_succ_of_le (Unpacks.length_le hitems)
  have hiff {uninit : List UInt8} (huninit : uninit.length = allocIncrement) (hsome : os ≠ []) :
      (rbusMessageToDebugString print uninit m).2.Safe ↔ AllFit print 0 os :=
    (ready_start huninit).safe_iff hitems hrounds hprint fun _ => hsome
  constructor
  · intro hall
    have hsome : os ≠ [] := by
      rintro rfl
      have hsafe := hall (List.replicate allocIncrement 1) List.length_replicate
      cases hitems with
      | done hnext =>
          have hresult : (rbusMessageToDebugString print (List.replicate allocIncrement 1) m).2 =
              { buffer := List.replicate allocIncrement 1
                writeOffset := 0
                inBounds := true } := by
            rw [rbusMessageToDebugString, debugStringLoop, hnext]
            rfl
          rw [hresult] at hsafe
          obtain ⟨s, hread, -⟩ := hsafe.terminated
          have hnul := (CString.ofMemory_eq_some_iff.mp hread).1
          rw [List.mem_replicate] at hnul
          exact absurd hnul.2 (by decide)
    exact ⟨hsome, (hiff List.length_replicate hsome).mp
      (hall (List.replicate allocIncrement 0) List.length_replicate)⟩
  · rintro ⟨hsome, hfit⟩ uninit huninit
    exact (hiff huninit hsome).mpr hfit

end Loop

section Inside

namespace DebugText

variable {t : DebugText} {n : Nat}

/-- Nothing outside the buffer has been used, and the position is known. -/
structure At (n : Nat) (t : DebugText) : Prop where
  inBounds : t.inBounds = true
  offset : t.writeOffset = n

theorem put_offset
    (i : Int) (c : UInt8) :
    (t.put i c).writeOffset = t.writeOffset := by
  rw [put]
  split <;> rfl

theorem At.put
    (h : t.At n)
    {i : Nat}
    (hinside : i < allocIncrement)
    (c : UInt8) :
    (t.put i c).At n := by
  constructor
  · rw [put_of_lt hinside]
    exact h.inBounds
  · rw [put_offset]
    exact h.offset

theorem At.append
    (h : t.At n)
    (hinside : n < allocIncrement)
    (c : UInt8) :
    (t.append c).At (n + 1) := by
  have hput := (h.put hinside c).inBounds
  rw [← h.offset] at hput
  constructor
  · exact hput
  · show t.writeOffset + 1 = _
    rw [h.offset]
    rfl

/-- Characters put one after another from `w` on. -/
theorem At.put_all
    (h : t.At n)
    (cs : List (UInt8 × Nat))
    (w : Nat)
    (hinside : ∀ c ∈ cs, w + c.2 < allocIncrement) :
    (cs.foldl (fun (t' : DebugText) (c : UInt8 × Nat) => t'.put (w + c.2) c.1) t).At n := by
  induction cs generalizing t with
  | nil =>
      exact h
  | cons c cs ih =>
      rw [List.foldl_cons]
      refine ih ?_ fun c' hc' => hinside c' (.tail c hc')
      rw [← Int.natCast_add]
      exact h.put (hinside c (List.mem_cons_self ..)) c.1

/-- Printing an item stays inside the buffer, and advances by the whole text. -/
theorem At.printItem
    (h : t.At n)
    (hroom : n < allocIncrement)
    (item : List UInt8) :
    (t.printItem item).At (n + item.length) := by
  have hspace : t.room.toNat = allocIncrement - n := by
    rw [room, h.offset]
    omega
  have hwritten := h.put_all (item.take (t.room.toNat - 1) ++ [0]).zipIdx n ?_
  · constructor
    · rw [DebugText.printItem, h.offset]
      exact hwritten.inBounds
    · show t.writeOffset + item.length = _
      rw [h.offset, Int.natCast_add]
  · rintro ⟨c, i⟩ hc
    have hindex := (List.mem_zipIdx hc).2.1
    rw [List.length_append, List.length_take, hspace, List.length_singleton] at hindex
    show n + i < allocIncrement
    omega

/-- The separator stays inside the buffer. -/
theorem At.separate
    (h : t.At n) :
    t.separate.At (if n + 1 < allocIncrement then n + 1 else n) := by
  have hroom : 1 < t.room ↔ n + 1 < allocIncrement := by
    rw [room, h.offset]
    omega
  rw [DebugText.separate]
  by_cases hinside : n + 1 < allocIncrement
  · have hend := h.append (Nat.lt_of_succ_lt hinside) 32
    rw [if_pos (hroom.mpr hinside), if_pos hinside]
    dsimp only
    rw [hend.offset]
    exact hend.put hinside 0
  · rw [if_neg (mt hroom.mp hinside), if_neg hinside]
    exact h

/-- The dots stay inside the buffer. -/
theorem At.ellipsis
    (h : t.At n) :
    ∃ n', n' ≤ allocIncrement ∧ t.ellipsis.At n' := by
  have hdots {t' : DebugText} {k : Nat} (h' : t'.At k) (hroom : k + 3 < allocIncrement) :
      ((((t'.append 46).append 46).append 46).append 0).At (k + 4) :=
    (((h'.append (by omega) 46).append (by omega) 46).append (by omega) 46).append hroom 0
  rw [DebugText.ellipsis]
  split_ifs with hroom
  · exact ⟨allocIncrement, Nat.le_refl _,
      hdots (k := allocIncrement - 4) ⟨h.inBounds, rfl⟩ (by decide)⟩
  · rw [room, h.offset] at hroom
    exact ⟨n + 4, by omega, hdots h (by omega)⟩

/-- The last test reads in front of the position, which may be past the end. -/
theorem At.trim_inBounds_iff
    (h : t.At n) :
    t.trim.inBounds = true ↔ n ≤ allocIncrement := by
  rw [trim, h.offset]
  split_ifs with hzero hrange hspace
  · exact iff_of_true h.inBounds (by omega)
  · have hlast : (n : Int) - 1 = (n - 1 : Nat) := by
      omega
    rw [hlast, put_of_lt (by omega)]
    exact iff_of_true h.inBounds (by omega)
  · exact iff_of_true h.inBounds (by omega)
  · exact iff_of_false id (by omega)

end DebugText

/-- The special test for strings lets an item pass. -/
def StringFits (position : Nat) : Obj → Prop
  | .str payload => toInt32 payload.length + position + 3 ≤ allocIncrement
  | _ => True

instance (position : Nat) :
    (o : Obj) → Decidable (StringFits position o)
  | .str payload =>
      inferInstanceAs (Decidable (toInt32 payload.length + position + 3 ≤ allocIncrement))
  | .posInt _ | .negInt _ | .float64 _ | .bin _ | .other _ => .isTrue trivial

/-- The text of the items that stand from `position` on leads past the end of the buffer: the
last of them is printed, and its text does not fit. -/
def Overruns (print : Obj → List UInt8) : Nat → List Obj → Prop
  | position, [] => allocIncrement < position
  | position, o :: os =>
      position + 1 < allocIncrement ∧ StringFits position o ∧
        Overruns print
          (if position + (print o).length + 1 < allocIncrement
            then position + (print o).length + 1
            else position + (print o).length) os

instance decidableOverruns (print : Obj → List UInt8) :
    (position : Nat) → (os : List Obj) → Decidable (Overruns print position os)
  | position, [] => inferInstanceAs (Decidable (allocIncrement < position))
  | position, o :: os =>
      have := decidableOverruns print
        (if position + (print o).length + 1 < allocIncrement
          then position + (print o).length + 1
          else position + (print o).length) os
      inferInstanceAs (Decidable (_ ∧ _ ∧ _))

variable {U : Unpacker} {print : Obj → List UInt8} {m : RbusMessage U} {os : List Obj}
variable {t : DebugText} {n rounds : Nat}

theorem tooLong_iff_not_stringFits
    (hoffset : t.writeOffset = n)
    (o : Obj) :
    t.tooLong o = true ↔ ¬StringFits n o := by
  cases o with
  | str payload =>
      rw [DebugText.tooLong, DebugText.room, hoffset, decide_eq_true_iff, StringFits]
      omega
  | _ =>
      exact iff_of_false Bool.false_ne_true (not_not_intro trivial)

/-- The loop from a position on, whatever is in the buffer. -/
theorem loop_inBounds_iff
    (h : t.At n)
    (hitems : Unpacks m os)
    (hrounds : os.length < rounds) :
    (debugStringLoop print rounds m t).2.trim.inBounds = true ↔ ¬Overruns print n os := by
  induction hitems generalizing t n rounds with
  | done hnext =>
      cases rounds with
      | zero =>
          cases hrounds
      | succ rounds =>
          rw [debugStringLoop, hnext, Overruns, Nat.not_lt]
          exact h.trim_inBounds_iff
  | @item m m' o os hnext hrest ih =>
      have hlong := tooLong_iff_not_stringFits h.offset o
      cases rounds with
      | zero =>
          cases hrounds
      | succ rounds =>
          rw [debugStringLoop, hnext, Overruns]
          dsimp only
          by_cases hcut : 1 ≥ t.room ∨ t.tooLong o = true
          · obtain ⟨n', hinside, hellipsis⟩ := h.ellipsis
            rw [if_pos hcut]
            refine iff_of_true (hellipsis.trim_inBounds_iff.mpr hinside) ?_
            rintro ⟨hroom, hstring, -⟩
            rcases hcut with hfull | hrefused
            · rw [DebugText.room, h.offset] at hfull
              omega
            · exact hlong.mp hrefused hstring
          · rw [if_neg hcut]
            obtain ⟨hfull, hrefused⟩ := not_or.mp hcut
            have hroom : n + 1 < allocIncrement := by
              rw [DebugText.room, h.offset] at hfull
              omega
            have hstring := not_not.mp (mt hlong.mpr hrefused)
            have hprinted := (h.printItem (Nat.lt_of_succ_lt hroom) (print o)).separate
            rw [ih hprinted (Nat.lt_of_succ_lt_succ hrounds)]
            exact not_congr (and_iff_right hroom |>.trans (and_iff_right hstring)).symm

variable (print) in
/--
For every message and whatever was in the memory of the buffer: every index is inside the
buffer exactly if the text of the items does not lead past its end.
-/
theorem debugText_inBounds_iff
    (hitems : HasItems m os)
    (uninit : List UInt8) :
    (rbusMessageToDebugString print uninit m).2.inBounds = true ↔ ¬Overruns print 0 os :=
  loop_inBounds_iff ⟨rfl, rfl⟩ hitems (Nat.lt_succ_of_le (Unpacks.length_le hitems))

end Inside

section Runs

/-- The texts of integers and strings; a string ends at its first NUL. -/
def samplePrint : Obj → List UInt8
  | .posInt n => (Nat.toDigits 10 n).map fun c => UInt8.ofNat c.toNat
  | .negInt i => 45 :: (Nat.toDigits 10 i.natAbs).map fun c => UInt8.ofNat c.toNat
  | .str payload => 34 :: payload.takeWhile (· ≠ 0) ++ [34]
  | _ => [63]

/-- A number and a string. -/
def sampleItems : List Value :=
  [.int32 7, .str (.ofChars ['a'])]

/-- Both items are shown. -/
theorem sampleItems_shown :
    (rbusMessageToDebugString samplePrint (List.replicate allocIncrement 0)
      (rbusMessageFromBytes (encodeAll sampleItems) : Bytes)).2.Safe := by
  have hitems : HasItems (rbusMessageFromBytes (encodeAll sampleItems) : Bytes)
      (sampleItems.map Value.obj) := by
    refine unpacks_encodeAll sampleItems ?_ rfl
    rintro v hv
    simp only [sampleItems, List.mem_cons, List.not_mem_nil, or_false] at hv
    rcases hv with rfl | rfl
    · trivial
    · show (1 : Nat) + 1 < 2147483648
      decide
  have hprint : ∀ o ∈ sampleItems.map Value.obj, Printable (samplePrint o) := by
    rintro o ho
    simp only [sampleItems, List.map_cons, List.map_nil, List.mem_cons, List.not_mem_nil,
      or_false] at ho
    rcases ho with rfl | rfl
    · exact ⟨by decide +kernel, [], 55, rfl, by decide⟩
    · exact ⟨by decide +kernel, [34, 97], 34, rfl, by decide⟩
  have hfit : AllFit samplePrint 0 (sampleItems.map Value.obj) := by
    refine ⟨⟨by decide, ?_⟩, ⟨by decide, ?_⟩, trivial⟩
    · rintro _ ⟨⟩
    · rintro _ ⟨⟩
      decide
  exact (debugText_safe_iff hitems hprint).mpr ⟨List.cons_ne_nil _ _, hfit⟩ _
    List.length_replicate

/-- A string of `n` characters. -/
def longString (n : Nat) : CString where
  chars := List.replicate n 120
  noNul := fun c hc => by
    rw [(List.mem_replicate.mp hc).2]
    decide

theorem longString_strlen
    (n : Nat) :
    (longString n).strlen = n :=
  List.length_replicate

theorem longString_printable
    (n : Nat) :
    Printable (samplePrint (.str (longString n).memory)) := by
  refine ⟨fun c hc => ?_, 34 :: (longString n).memory.takeWhile (· ≠ 0), 34, rfl, by decide⟩
  rcases List.mem_append.mp hc with hfront | hquote
  · rcases List.mem_cons.mp hfront with rfl | hmem
    · decide
    · simpa using List.mem_takeWhile_imp hmem
  · rw [List.mem_singleton.mp hquote]
    decide

/-- The ellipsis is counted with its terminator. -/
theorem longString_not_safe
    {n : Nat}
    (hlong : 2044 < n)
    (hfits : n + 1 < 2147483648) :
    ¬(rbusMessageToDebugString samplePrint (List.replicate allocIncrement 0)
      (rbusMessageFromBytes (encodeAll [.str (longString n)]) : Bytes)).2.Safe := by
  have hitems : HasItems (rbusMessageFromBytes (encodeAll [.str (longString n)]) : Bytes)
      [.str (longString n).memory] := by
    refine unpacks_encodeAll [.str (longString n)] ?_ List.drop_zero
    intro v hv
    rw [List.mem_singleton.mp hv]
    show (longString n).strlen + 1 < 2147483648
    rw [longString_strlen]
    exact hfits
  have hprint : ∀ o ∈ [Obj.str (longString n).memory], Printable (samplePrint o) := by
    intro o ho
    rw [List.mem_singleton.mp ho]
    exact longString_printable n
  have huninit : (List.replicate allocIncrement (0 : UInt8)).length = allocIncrement :=
    List.length_replicate
  intro hsafe
  have hfit := ((ready_start huninit).safe_iff hitems (Nat.lt_succ_of_le (Unpacks.length_le hitems))
    hprint fun _ => List.cons_ne_nil _ _).mp hsafe
  have hroom := hfit.1.2 _ rfl
  rw [CString.memory_length, longString_strlen, toInt32_of_range (by omega) (by omega)] at hroom
  rw [List.length_nil] at hroom
  have hsize : (allocIncrement : Int) = 2048 := rfl
  omega

/-- A string of 3000 characters is cut. -/
theorem long_string_cut :
    ¬(rbusMessageToDebugString samplePrint (List.replicate allocIncrement 0)
      (rbusMessageFromBytes (encodeAll [.str (longString 3000)]) : Bytes)).2.Safe :=
  longString_not_safe (by decide) (by decide)

end Runs

end RbusCore
