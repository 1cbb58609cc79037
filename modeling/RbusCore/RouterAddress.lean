import RbusCore.Connection
import RbusCore.Lib.Words
import RbusCore.Message

/-!
# The router address in the configuration file

`configure_router_address` reads the file in chunks of at most 255 characters into a buffer of
256 bytes, looks for the first word of each chunk with two indices, and copies the first that it
finds.  The loops stay inside the buffer, and what they find is the first word of the file as far
as it stands in the chunk in which it begins.

**Results.**
* `scanFile_eq`: the loops compute `routerAddress`, and use only what is inside the buffers.
* `routerWord_found`: what is found in the file.
* `router_address_iff`: when it is the first word of the file.
-/

namespace RbusCore

open CStrings Resumption Words

section Scan

/-- `while(idx < len && test(buff[idx])) idx++`, unless it reads outside of the buffer. -/
def advance (test : UInt8 → Bool) (buff : List UInt8) (len idx : Nat) : Option Nat :=
  if idx < len then
    match buff[idx]? with
    | none => none
    | some c => if test c then advance test buff len (idx + 1) else some idx
  else some idx
termination_by len - idx

/-- `buff[idx] = c`, unless it writes outside of the buffer. -/
def store (buff : List UInt8) (idx : Nat) (c : UInt8) : Option (List UInt8) :=
  if idx < buff.length then some (buff.set idx c) else none

/-- `strcpy(g_daemon_address, &buff[idx])`, unless it reads outside of the buffer or the string
does not fit. -/
def copyAddress (buff : List UInt8) (idx : Nat) : Option CString :=
  match CString.ofMemory (buff.drop idx) with
  | none => none
  | some address => if address.strlen < maxDaemonAddressLen then some address else none

/-- One turn of the loop of `configure_router_address`: the word in the buffer, if there is one. -/
def scanBuffer (buff : List UInt8) : Option (Option CString) := do
  let text ← CString.ofMemory buff
  let len := text.strlen
  if 0 < len then do
    let idx1 ← advance (fun c => isspace c) buff len 0
    if idx1 < len then do
      let idx2 ← advance (fun c => !isspace c) buff len (idx1 + 1)
      if 0 < idx2 - idx1 then do
        let buff ← store buff idx2 0
        let address ← copyAddress buff idx1
        some (some address)
      else some none
    else some none
  else some none

/-- The buffer after `fgets`. -/
def fill (buff line : List UInt8) : List UInt8 :=
  line ++ 0 :: buff.drop (line.length + 1)

/-- The loop of `configure_router_address`: the word that is copied, if there is one. -/
def scanFile : Nat → List UInt8 → List UInt8 → Option (Option CString)
  | 0, _, _ => some none
  | lines + 1, file, buff =>
      match fgets maxDaemonAddressLen file with
      | none => some none
      | some (line, rest) => do
          let found ← scanBuffer (fill buff line)
          match found with
          | some address => some (some address)
          | none => scanFile lines rest (fill buff line)

/-- A loop over the text in the buffer ends behind the characters that pass the test. -/
theorem advance_eq
    (test : UInt8 → Bool) (text rest : List UInt8) (idx : Nat) :
    advance test (text ++ rest) text.length idx =
      some (idx + ((text.drop idx).takeWhile test).length) := by
  induction hsteps : text.length - idx generalizing idx with
  | zero =>
      have hend : text.length ≤ idx := Nat.le_of_sub_eq_zero hsteps
      rw [advance, if_neg (Nat.not_lt_of_le hend), List.drop_eq_nil_of_le hend]
      rfl
  | succ steps ih =>
      have hidx : idx < text.length := by
        omega
      have hread : (text ++ rest)[idx]? = some text[idx] := by
        rw [List.getElem?_append_left hidx, List.getElem?_eq_getElem hidx]
      rw [advance, if_pos hidx, hread, List.drop_eq_getElem_cons hidx]
      dsimp only
      cases htest : test text[idx] with
      | true =>
          rw [if_pos rfl, ih (idx + 1) (by omega), List.takeWhile_cons_of_pos htest,
            List.length_cons, Nat.add_assoc, Nat.add_comm 1]
      | false =>
          rw [if_neg Bool.false_ne_true, List.takeWhile_cons_of_neg (by simp [htest])]
          rfl

/-- What `fgets` leaves in the buffer: the string of the line, and what is behind it. -/
theorem exists_fill
    {buff line : List UInt8}
    (hbuff : buff.length = maxDaemonAddressLen)
    (hline : line.length < maxDaemonAddressLen) :
    ∃ rest, fill buff line = bufferString line ++ 0 :: rest ∧
      (fill buff line).length = maxDaemonAddressLen := by
  have hlength : (fill buff line).length = maxDaemonAddressLen := by
    rw [fill, List.length_append, List.length_cons, List.length_drop, hbuff]
    omega
  by_cases hall : ∀ c ∈ line, decide (c ≠ 0) = true
  · have hstring : bufferString line = line := List.takeWhile_eq_self_iff.mpr hall
    rw [hstring]
    exact ⟨_, rfl, hlength⟩
  · obtain ⟨before, c, rest, rfl, hbefore, hc⟩ := exists_split hall
    have hstring : bufferString (before ++ c :: rest) = before := blanks_split hbefore hc rest
    have hzero : c = 0 := by
      simpa using hc
    rw [hstring, fill, hzero, List.append_assoc, List.cons_append]
    exact ⟨_, rfl, by simpa [fill, hzero] using hlength⟩

/-- The word that the loops find is copied. -/
theorem copy_word
    {before tail rest : List UInt8} {w : CString}
    (hlength : (before ++ w.chars ++ (tail ++ 0 :: rest)).length = maxDaemonAddressLen) :
    ((store (before ++ w.chars ++ (tail ++ 0 :: rest)) (before.length + w.strlen) 0).bind
      fun buff => copyAddress buff before.length) = some w := by
  obtain ⟨c, after, hafter⟩ := List.exists_cons_of_ne_nil
    (List.append_ne_nil_of_right_ne_nil tail (List.cons_ne_nil 0 rest))
  rw [hafter] at hlength ⊢
  have hidx : before.length + w.strlen = (before ++ w.chars).length := by
    rw [List.length_append, CString.strlen]
  have hinside : before.length + w.strlen < (before ++ w.chars ++ c :: after).length := by
    simp only [CString.strlen, List.length_append, List.length_cons]
    omega
  have hfits : w.strlen < maxDaemonAddressLen := by
    omega
  have hset : (before ++ w.chars ++ c :: after).set (before.length + w.strlen) 0 =
      before ++ (w.memory ++ after) := by
    rw [hidx, List.set_append_right _ _ (Nat.le_refl _), Nat.sub_self, List.set_cons_zero,
      CString.memory, List.append_assoc, List.append_assoc]
    rfl
  rw [store, if_pos hinside, hset, Option.bind_some, copyAddress, List.drop_left,
    CString.ofMemory_append]
  exact if_pos hfits

/-- The string in the buffer. -/
def bufferText (line : List UInt8) : CString where
  chars := bufferString line
  noNul := fun c hc => by
    simpa using List.mem_takeWhile_imp hc

/-- The word of a line, if there is one. -/
def lineWord (line : List UInt8) : Option CString :=
  if firstWord line = [] then none else some ⟨firstWord line, firstWord_noNul line⟩

/-- The loops find the first word of a line, and use only what is inside the buffers. -/
theorem scanBuffer_eq
    {buff line : List UInt8}
    (hbuff : buff.length = maxDaemonAddressLen)
    (hline : line.length < maxDaemonAddressLen) :
    scanBuffer (fill buff line) = some (lineWord line) := by
  obtain ⟨rest, hfill, hlength⟩ := exists_fill hbuff hline
  have htext : CString.ofMemory (bufferString line ++ 0 :: rest) = some (bufferText line) := by
    have hread := CString.ofMemory_append (bufferText line) rest
    rw [CString.memory, List.append_assoc] at hread
    exact hread
  have hstrlen : (bufferText line).strlen = (bufferString line).length := rfl
  rw [hfill] at hlength ⊢
  rw [scanBuffer, htext, Option.bind_eq_bind, Option.bind_some, hstrlen, lineWord]
  by_cases hblank : ∀ c ∈ bufferString line, isspace c = true
  · have hnone : firstWord line = [] := word_eq_nil_iff.mpr hblank
    have hidx : advance (fun c => isspace c) (bufferString line ++ 0 :: rest)
        (bufferString line).length 0 = some (bufferString line).length := by
      rw [advance_eq, List.drop_zero, List.takeWhile_eq_self_iff.mpr hblank, Nat.zero_add]
    simp only [hidx, Option.bind_eq_bind, Option.bind_some, Nat.lt_irrefl, if_false, ite_self,
      if_pos hnone]
  · obtain ⟨before, c, cs, hsplit, hbefore, hc⟩ := exists_split hblank
    have hword : firstWord line = c :: cs.takeWhile fun c => !isspace c := by
      rw [← word_split hbefore hc cs, ← hsplit]
      rfl
    have hsome : firstWord line ≠ [] := by
      rw [hword]
      exact List.cons_ne_nil c _
    let w : CString := ⟨firstWord line, firstWord_noNul line⟩
    have hchars : w.chars = c :: cs.takeWhile fun c => !isspace c := hword
    have hstring : bufferString line =
        before ++ w.chars ++ cs.dropWhile fun c => !isspace c := by
      rw [hsplit, hchars, List.append_assoc, List.cons_append, List.takeWhile_append_dropWhile]
    have hidx1 : advance (fun c => isspace c) (bufferString line ++ 0 :: rest)
        (bufferString line).length 0 = some before.length := by
      rw [advance_eq, List.drop_zero, Nat.zero_add, hsplit]
      exact congrArg (fun before => some before.length) (blanks_split hbefore hc cs)
    have hidx2 : advance (fun c => !isspace c) (bufferString line ++ 0 :: rest)
        (bufferString line).length (before.length + 1) = some (before.length + w.strlen) := by
      have hdrop : (bufferString line).drop (before.length + 1) = cs := by
        rw [hsplit, List.append_cons, ← List.length_singleton (a := c), ← List.length_append,
          List.drop_left]
      rw [advance_eq, hdrop, CString.strlen, hchars, List.length_cons, Nat.add_assoc,
        Nat.add_comm 1]
    have hpos : 0 < w.strlen := List.length_pos_iff.mpr hsome
    have hlt : before.length < (bufferString line).length := by
      rw [hsplit, List.length_append, List.length_cons]
      omega
    have hmoved : 0 < before.length + w.strlen - before.length := by
      omega
    have hcopy : ((store (bufferString line ++ 0 :: rest) (before.length + w.strlen) 0).bind
        fun buff => copyAddress buff before.length) = some w := by
      rw [hstring, List.append_assoc] at hlength ⊢
      exact copy_word hlength
    simp only [hidx1, hidx2, Option.bind_eq_bind, Option.bind_some, if_pos hlt, if_pos hmoved,
      if_pos (Nat.zero_lt_of_lt hlt), if_neg hsome]
    rw [← Option.bind_assoc, hcopy, Option.bind_some]


end Scan

section Lines

/-- `fgets` reads a chunk of the file. -/
theorem fgets_chunk
    {size : Nat} {file line rest : List UInt8}
    (h : fgets size file = some (line, rest)) :
    Chunk 10 (size - 1) file line rest := by
  unfold fgets at h
  split at h
  case isTrue =>
    cases h
  case isFalse =>
    obtain ⟨rfl, rfl⟩ := Prod.mk.inj (Option.some.inj h)
    generalize size - 1 = room
    by_cases hall : ∀ c ∈ file.take room, decide (c ≠ 10) = true
    · have hwindow : file.take (min room file.length) = file.take room :=
        List.take_eq_take_iff.mpr (by omega)
      rw [List.takeWhile_eq_self_iff.mpr hall, if_neg (Nat.lt_irrefl _), List.length_take]
      refine ⟨(List.take_append_drop _ _).symm, ?_, ?_, ?_⟩
      · exact (List.length_take_le _ _).trans (Nat.min_le_left _ _)
      · rw [hwindow]
        intro hmem
        simpa using hall 10 (List.mem_of_mem_dropLast hmem)
      · rcases Nat.le_total room file.length with hle | hle
        · exact Or.inr (Or.inl (by rw [hwindow, List.length_take, Nat.min_eq_left hle]))
        · exact Or.inl (by rw [Nat.min_eq_right hle, List.drop_length])
    · obtain ⟨before, c, cs, hsplit, hbefore, hc⟩ := exists_split hall
      have hnewline : c = 10 := by
        simpa using hc
      have hstop : (file.take room).takeWhile (fun c => decide (c ≠ 10)) = before := by
        rw [hsplit]
        exact blanks_split hbefore hc cs
      have hlength : before.length + 1 ≤ room := by
        have hle := List.length_take_le room file
        rw [hsplit, List.length_append, List.length_cons] at hle
        omega
      have hlt : before.length < (file.take room).length := by
        rw [hsplit, List.length_append, List.length_cons]
        omega
      have hline : file.take (before.length + 1) = before ++ [10] := by
        rw [← Nat.min_eq_left hlength, ← List.take_take, hsplit, List.append_cons, hnewline]
        exact List.take_left' (by rw [List.length_append, List.length_singleton])
      rw [hstop, if_pos hlt]
      refine ⟨(List.take_append_drop _ _).symm, ?_, ?_, Or.inr (Or.inr ?_)⟩
      · exact (List.length_take_le _ _).trans hlength
      · rw [hline, List.dropLast_concat]
        intro hmem
        simpa using hbefore 10 hmem
      · rw [hline, List.getLast?_concat]

theorem fgets_eq_none_iff
    {size : Nat} {file : List UInt8} :
    fgets size file = none ↔ file = [] := by
  simp [fgets]

/-- The loop finds the word, and uses only what is inside the buffers. -/
theorem scanFile_found
    (lines : Nat) (file buff : List UInt8)
    (hbuff : buff.length = maxDaemonAddressLen) :
    ∃ found, scanFile lines file buff = some found ∧
      found.map CString.chars = routerWord lines file := by
  induction lines generalizing file buff with
  | zero =>
      exact ⟨none, rfl, rfl⟩
  | succ lines ih =>
      rw [scanFile, routerWord]
      cases hline : fgets maxDaemonAddressLen file with
      | none =>
          exact ⟨none, rfl, rfl⟩
      | some r =>
          obtain ⟨line, rest⟩ := r
          have hlength : line.length < maxDaemonAddressLen :=
            Nat.lt_of_le_of_lt (fgets_chunk hline).bounded (by decide)
          have hfilled : (fill buff line).length = maxDaemonAddressLen := by
            obtain ⟨_, -, hfilled⟩ := exists_fill hbuff hlength
            exact hfilled
          dsimp only
          rw [scanBuffer_eq hbuff hlength, lineWord, Option.bind_eq_bind, Option.bind_some]
          by_cases hnone : firstWord line = []
          · rw [if_pos hnone, if_pos hnone]
            exact ih rest (fill buff line) hfilled
          · rw [if_neg hnone, if_neg hnone]
            exact ⟨_, rfl, rfl⟩

/-- The first word of a text. -/
abbrev textWord (text : List UInt8) : List UInt8 :=
  word (fun c => isspace c) text

/-- The column in which the first word of a text begins. -/
def wordColumn (text : List UInt8) : Nat :=
  column 10 (blanks (fun c => isspace c) text)

/-- The first word stands in one chunk of its line. -/
def WithinChunk (file : List UInt8) : Prop :=
  wordColumn file % (maxDaemonAddressLen - 1) + (textWord file).length ≤ maxDaemonAddressLen - 1

/-- What is found in a file without NUL bytes: nothing if there is no word, and the first word
exactly if it stands in one chunk. -/
theorem routerWord_found
    {lines : Nat} {file : List UInt8}
    (hlines : file.length < lines)
    (hnul : ∀ c ∈ file, c ≠ 0) :
    (textWord file = [] → routerWord lines file = none) ∧
      (textWord file ≠ [] → ∃ found, routerWord lines file = some found ∧
        (found = textWord file ↔ WithinChunk file)) := by
  induction lines generalizing file with
  | zero =>
      exact absurd hlines (Nat.not_lt_zero _)
  | succ lines ih =>
      rw [routerWord]
      cases hline : fgets maxDaemonAddressLen file with
      | none =>
          obtain rfl := fgets_eq_none_iff.mp hline
          exact ⟨fun _ => rfl, fun hword => absurd rfl hword⟩
      | some r =>
          obtain ⟨line, rest⟩ := r
          have hchunk := fgets_chunk hline
          have hsplit := hchunk.split
          have hstring : firstWord line = textWord line := by
            have hall : ∀ c ∈ line, decide (c ≠ 0) = true := by
              intro c hc
              exact decide_eq_true (hnul c (hsplit ▸ List.mem_append_left rest hc))
            rw [firstWord, bufferString, List.takeWhile_eq_self_iff.mpr hall]
            rfl
          dsimp only
          rw [hstring]
          by_cases hblank : ∀ c ∈ line, isspace c = true
          · have hfile : file ≠ [] := by
              rintro rfl
              cases hline
            have hlt : rest.length < lines :=
              Nat.lt_of_lt_of_le (hchunk.length_rest_lt (by decide) hfile)
                (Nat.le_of_lt_succ hlines)
            obtain ⟨hsame, hcolumn⟩ := hchunk.blank hblank
            have hrest := ih hlt fun c hc => hnul c (hsplit ▸ List.mem_append_right line hc)
            rw [if_pos (word_eq_nil_iff.mpr hblank), textWord, hsame, WithinChunk, wordColumn,
              textWord, hsame]
            refine ⟨hrest.1, fun hword => ?_⟩
            rw [hcolumn hword]
            exact hrest.2 hword
          · have hword : textWord file ≠ [] := by
              intro hnil
              refine hblank fun c hc => word_eq_nil_iff.mp hnil c ?_
              exact hsplit ▸ List.mem_append_left rest hc
            rw [if_neg (mt word_eq_nil_iff.mp hblank)]
            exact ⟨fun hnil => absurd hnil hword,
              fun _ => ⟨_, rfl, hchunk.word_eq_iff rfl hblank⟩⟩

end Lines

section Configuration

variable {M W : Type} {file : List UInt8} {w w' : World M W}

/-- The configuration file is there, with this content. -/
def configuring (file : List UInt8) :
    (e : Call M W) → World M W → e.Answer → World M W → Prop
  | .readRouterConfig, w, content, w' => content = some file ∧ w' = w
  | _, w, _, w' => w' = w

/-- The address is the first word of the file if that has at most 255 characters, and is left
alone if there is no word; and the loops that find it stay inside the buffers. -/
structure ReadsFirstWord (file : List UInt8) (w w' : World M W) : Prop where
  word : textWord file ≠ [] → (textWord file).length ≤ 255 →
    w'.gDaemonAddress.chars = textWord file
  unchanged : textWord file = [] → w'.gDaemonAddress = w.gDaemonAddress
  bounds : ∃ found,
    scanFile (file.length + 1) file (List.replicate maxDaemonAddressLen 0) = some found ∧
      w'.gDaemonAddress = found.getD w.gDaemonAddress

theorem routerAddress_chars
    (file : List UInt8) :
    (routerAddress file).map CString.chars = routerWord (file.length + 1) file := by
  unfold routerAddress
  split
  case h_1 hword =>
    exact hword.symm
  case h_2 hword =>
    exact hword.symm

/-- The loop computes `routerAddress`, and uses only what is inside the buffers. -/
theorem scanFile_eq
    {buff : List UInt8}
    (hbuff : buff.length = maxDaemonAddressLen)
    (file : List UInt8) :
    scanFile (file.length + 1) file buff = some (routerAddress file) := by
  obtain ⟨found, hscan, hfound⟩ := scanFile_found (file.length + 1) file buff hbuff
  have hinjective : Function.Injective CString.chars := fun _ _ h => CString.ext h
  rw [hscan, Option.map_injective hinjective (hfound.trans (routerAddress_chars file).symm)]

/-- The address that is configured. -/
theorem sat_configureRouterAddress_configuring
    (file : List UInt8)
    (w : World M W) :
    Program.Sat (Program.completing (configuring file)) configureRouterAddress
      (fun _ w' => w'.gDaemonAddress = (routerAddress file).getD w.gDaemonAddress) w := by
  rw [configureRouterAddress, Program.sat_bind, sat_call]
  refine ⟨⟨some file, _, rfl, rfl⟩, ?_⟩
  rintro _ _ ⟨rfl, rfl⟩
  rw [Option.bind_some]
  cases routerAddress file with
  | none =>
      rfl
  | some address =>
      rfl

/--
For every file without NUL bytes: the file is read to the end, and the first word of the file
becomes the address, or the address is left alone in a file without words, and nothing outside of
the buffers is used, exactly if a first word of at most 255 characters stands in one of the chunks
of 255 characters of its line.
-/
theorem router_address_iff
    (w : World M W)
    (hnul : ∀ c ∈ file, c ≠ 0) :
    Program.Completes (configuring file) configureRouterAddress w ∧
    ∀ w', Program.Returns (configuring file) configureRouterAddress w () w' →
      (ReadsFirstWord file w w' ↔
        (textWord file ≠ [] → (textWord file).length ≤ 255 → WithinChunk file)) := by
  obtain ⟨hcompletes, hconfigured⟩ :=
    Program.sat_completing_iff.mp (sat_configureRouterAddress_configuring file w)
  refine ⟨hcompletes, fun w' hreturns => ?_⟩
  have haddress := hconfigured () w' hreturns
  obtain ⟨hnone, hsome⟩ := routerWord_found (Nat.lt_succ_self file.length) hnul
  rw [← routerAddress_chars] at hnone hsome
  constructor
  · intro h hword hlength
    obtain ⟨found, hfound, hiff⟩ := hsome hword
    obtain ⟨address, hrouter, rfl⟩ := Option.map_eq_some_iff.mp hfound
    rw [hrouter] at haddress
    rw [← hiff, ← h.word hword hlength, haddress]
    rfl
  · intro hwithin
    refine ⟨fun hword hlength => ?_, fun hnil => ?_, ?_⟩
    · obtain ⟨found, hfound, hiff⟩ := hsome hword
      obtain ⟨address, hrouter, rfl⟩ := Option.map_eq_some_iff.mp hfound
      rw [haddress, hrouter]
      exact hiff.mpr (hwithin hword hlength)
    · rw [haddress, Option.map_eq_none_iff.mp (hnone hnil)]
      rfl
    · exact ⟨_, scanFile_eq List.length_replicate file, haddress⟩

end Configuration

section Runs

/-- What the file system answers. -/
def configAnswer (file : List UInt8) :
    (e : Call Bytes (List UInt8)) → World Bytes (List UInt8) →
      Option (e.Answer × World Bytes (List UInt8))
  | .readRouterConfig, w => some (some file, w)
  | _, _ => none

theorem configuring_of_configAnswer
    {file : List UInt8}
    (e : Call Bytes (List UInt8)) (w : World Bytes (List UInt8)) (a : e.Answer)
    (w' : World Bytes (List UInt8))
    (h : configAnswer file e w = some (a, w')) :
    configuring file e w a w' := by
  cases e with
  | readRouterConfig =>
      obtain ⟨rfl, rfl⟩ := Prod.mk.inj (Option.some.inj h)
      exact ⟨rfl, rfl⟩
  | _ =>
      cases h

/-- A file with a blank line and an indented word. -/
def sampleConfig : List UInt8 :=
  [32, 10, 9, 117, 58, 120, 10, 121]

/-- The address is the word `u:x`. -/
theorem sampleConfig_read :
    ∃ w' : World Bytes (List UInt8),
      Program.Returns (configuring sampleConfig) configureRouterAddress
        (World.initial .empty .empty) () w' ∧
      ReadsFirstWord sampleConfig (World.initial .empty .empty) w' := by
  have hnul : ∀ c ∈ sampleConfig, c ≠ 0 := by
    decide +kernel
  obtain ⟨hcompletes, hreads⟩ :=
    router_address_iff (World.initial .empty .empty : World Bytes (List UInt8)) hnul
  obtain ⟨_, w', hreturns⟩ := hcompletes.returns
  refine ⟨w', hreturns, (hreads w' hreturns).mpr fun _ _ => ?_⟩
  rw [WithinChunk]
  decide +kernel

/-- A word of ten characters behind 250 blanks. -/
def sampleIndented : List UInt8 :=
  List.replicate 250 32 ++ List.replicate 10 120

/-- Only five characters of the word are read. -/
theorem indented_word_split :
    ∃ w' : World Bytes (List UInt8),
      Program.Returns (configuring sampleIndented) configureRouterAddress
        (World.initial .empty .empty) () w' ∧
      w'.gDaemonAddress.chars = List.replicate 5 120 ∧
      ¬ ReadsFirstWord sampleIndented (World.initial .empty .empty) w' := by
  have hrun : ((configureRouterAddress (World.initial .empty .empty : World Bytes (List UInt8))).run
      (configAnswer sampleIndented)).map (fun r => r.2.gDaemonAddress.chars) =
        some (List.replicate 5 120) := by
    decide +kernel
  obtain ⟨⟨_, w⟩, hw, haddress⟩ := Option.map_eq_some_iff.mp hrun
  refine ⟨w, Program.returns_of_run configuring_of_configAnswer hw, haddress, fun h => ?_⟩
  have hword : textWord sampleIndented = List.replicate 10 120 := by
    decide +kernel
  have hread := h.word (by rw [hword]; decide) (by rw [hword]; decide)
  rw [haddress, hword] at hread
  exact absurd hread (by decide)

end Runs

end RbusCore
