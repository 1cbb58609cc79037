import Mathlib.Data.List.TakeWhile
import Mathlib.Tactic.Common

/-!
# The first word of a text that is read in chunks

A text is read in chunks of a bounded size that end with a line, and each chunk is searched for
its first word.  A chunk of blanks is passed over; in the first other chunk begins the first word
of the text, and the chunk has all of it exactly when the word does not cross the end of the
chunk.  Where the chunks of a line end depends on the column alone.

**Results.**
* `Chunk.blank`: blank chunks matter neither for the word nor for its column in the chunk.
* `Chunk.word_eq_iff`: when the first other chunk has the whole word.
-/

namespace Words

variable {α : Type}

section Word

variable (space : α → Bool)

/-- What stands before the first word. -/
def blanks (text : List α) : List α :=
  text.takeWhile space

/-- The first word of a text; there is none if it is empty. -/
def word (text : List α) : List α :=
  (text.dropWhile space).takeWhile fun c => !space c

variable {space}

theorem blanks_append_of_all
    {text : List α}
    (h : ∀ c ∈ text, space c = true)
    (rest : List α) :
    blanks space (text ++ rest) = text ++ blanks space rest :=
  List.takeWhile_append_of_pos h

theorem word_append_of_all
    {text : List α}
    (h : ∀ c ∈ text, space c = true)
    (rest : List α) :
    word space (text ++ rest) = word space rest := by
  rw [word, List.dropWhile_append_of_pos h]
  rfl

/-- A text that is not blank begins with blanks and the first character of its word. -/
theorem exists_split
    {text : List α}
    (h : ¬∀ c ∈ text, space c = true) :
    ∃ before c rest, text = before ++ c :: rest ∧ (∀ b ∈ before, space b = true) ∧
      space c = false := by
  induction text with
  | nil =>
      exact absurd (List.forall_mem_nil _) h
  | cons c text ih =>
      cases hc : space c with
      | false =>
          exact ⟨[], c, text, rfl, List.forall_mem_nil _, hc⟩
      | true =>
          have htext : ¬∀ c ∈ text, space c = true := by
            intro hall
            exact h (List.forall_mem_cons.mpr ⟨hc, hall⟩)
          obtain ⟨before, d, rest, rfl, hbefore, hd⟩ := ih htext
          exact ⟨c :: before, d, rest, rfl, List.forall_mem_cons.mpr ⟨hc, hbefore⟩, hd⟩

section Split

variable {before : List α} {c : α}

theorem blanks_split
    (hbefore : ∀ b ∈ before, space b = true)
    (hc : space c = false)
    (rest : List α) :
    blanks space (before ++ c :: rest) = before := by
  rw [blanks_append_of_all hbefore, blanks, List.takeWhile_cons_of_neg (by simp [hc]),
    List.append_nil]

theorem word_split
    (hbefore : ∀ b ∈ before, space b = true)
    (hc : space c = false)
    (rest : List α) :
    word space (before ++ c :: rest) = c :: rest.takeWhile fun c => !space c := by
  rw [word_append_of_all hbefore, word, List.dropWhile_cons_of_neg (by simp [hc]),
    List.takeWhile_cons_of_pos (by simp [hc])]

end Split

/-- There is no word exactly in a blank text. -/
theorem word_eq_nil_iff
    {text : List α} :
    word space text = [] ↔ ∀ c ∈ text, space c = true := by
  constructor
  · intro hnil
    by_contra hall
    obtain ⟨before, c, rest, rfl, hbefore, hc⟩ := exists_split hall
    rw [word_split hbefore hc] at hnil
    cases hnil
  · intro hall
    rw [← List.append_nil text, word_append_of_all hall]
    rfl

end Word

section Column

variable [DecidableEq α] (newline : α)

/-- How many characters stand behind the last line end. -/
def column (text : List α) : Nat :=
  (text.reverse.takeWhile fun c => c ≠ newline).length

variable {newline} {text rest : List α}

theorem column_of_notMem
    (h : newline ∉ text) :
    column newline text = text.length := by
  rw [column, List.takeWhile_eq_self_iff.mpr, List.length_reverse]
  intro c hc
  simpa using ne_of_mem_of_not_mem (List.mem_reverse.mp hc) h

theorem column_append_of_notMem
    (h : newline ∉ rest) :
    column newline (text ++ rest) = column newline text + rest.length := by
  have hall : ∀ c ∈ rest.reverse, decide (c ≠ newline) = true := by
    intro c hc
    simpa using ne_of_mem_of_not_mem (List.mem_reverse.mp hc) h
  rw [column, List.reverse_append, List.takeWhile_append_of_pos hall, List.length_append,
    List.length_reverse, Nat.add_comm]
  rfl

theorem column_append_of_mem
    (h : newline ∈ rest) :
    column newline (text ++ rest) = column newline rest := by
  have hsome : (rest.reverse.takeWhile fun c => c ≠ newline).length ≠ rest.reverse.length := by
    intro hlength
    have hall := (List.takeWhile_prefix fun c => decide (c ≠ newline)).eq_of_length hlength
    have hne := List.takeWhile_eq_self_iff.mp hall newline (List.mem_reverse.mpr h)
    simp at hne
  rw [column, List.reverse_append, List.takeWhile_append, if_neg hsome]
  rfl

end Column

section Chunks

variable [DecidableEq α]

/-- A chunk of at most `size` characters from the beginning of a text: it goes to the end of the
line, or of the text, if there is room. -/
structure Chunk (newline : α) (size : Nat) (text chunk rest : List α) : Prop where
  split : text = chunk ++ rest
  bounded : chunk.length ≤ size
  oneLine : newline ∉ chunk.dropLast
  full : rest = [] ∨ chunk.length = size ∨ chunk.getLast? = some newline

variable {space : α → Bool} {newline : α} {size : Nat} {text chunk rest : List α}

omit [DecidableEq α] in
/-- Reading makes progress. -/
theorem Chunk.length_rest_lt
    (h : Chunk newline size text chunk rest)
    (hsize : 0 < size)
    (htext : text ≠ []) :
    rest.length < text.length := by
  have hchunk : chunk ≠ [] := by
    rintro rfl
    rcases h.full with rfl | hlength | hlast
    · exact htext h.split
    · exact Nat.ne_of_lt hsize hlength
    · cases hlast
  have hpos := List.length_pos_iff.mpr hchunk
  rw [h.split, List.length_append]
  omega

/-- Behind a chunk with a line end begins a line. -/
theorem Chunk.column_eq_zero
    (h : Chunk newline size text chunk rest)
    (hmem : newline ∈ chunk) :
    column newline chunk = 0 := by
  have hne : chunk ≠ [] := List.ne_nil_of_mem hmem
  rw [← List.dropLast_concat_getLast hne] at hmem ⊢
  have hlast : newline ∈ [chunk.getLast hne] := by
    rcases List.mem_append.mp hmem with hinit | hlast
    · exact absurd hinit h.oneLine
    · exact hlast
  rw [column_append_of_mem hlast, ← List.mem_singleton.mp hlast, column]
  simp

/-- Blank chunks matter neither for the word nor for its column in the chunk. -/
theorem Chunk.blank
    (h : Chunk newline size text chunk rest)
    (hblank : ∀ c ∈ chunk, space c = true) :
    word space text = word space rest ∧
      (word space rest ≠ [] →
        column newline (blanks space text) % size =
          column newline (blanks space rest) % size) := by
  constructor
  · rw [h.split, word_append_of_all hblank]
  · intro hword
    have hrest : rest ≠ [] := by
      rintro rfl
      exact hword rfl
    rw [h.split, blanks_append_of_all hblank]
    by_cases hline : newline ∈ blanks space rest
    · rw [column_append_of_mem hline]
    · rw [column_append_of_notMem hline, column_of_notMem hline]
      by_cases hmem : newline ∈ chunk
      · rw [h.column_eq_zero hmem, Nat.zero_add]
      · have hlength : chunk.length = size := by
          rcases h.full with hnil | hlength | hlast
          · exact absurd hnil hrest
          · exact hlength
          · exact absurd (List.mem_of_getLast? hlast) hmem
        rw [column_of_notMem hmem, hlength, Nat.add_mod_left]

/-- A chunk that is not blank has the first word of the text exactly when the word does not cross
the end of the chunk. -/
theorem Chunk.word_eq_iff
    (h : Chunk newline size text chunk rest)
    (hnewline : space newline = true)
    (hword : ¬∀ c ∈ chunk, space c = true) :
    word space chunk = word space text ↔
      column newline (blanks space text) % size + (word space text).length ≤ size := by
  obtain ⟨before, c, cs, rfl, hbefore, hc⟩ := exists_split hword
  have htext : text = before ++ c :: (cs ++ rest) := by
    rw [h.split, List.append_assoc, List.cons_append]
  have hline : newline ∉ before := by
    have hinit := h.oneLine
    rw [List.dropLast_append_of_ne_nil (List.cons_ne_nil c cs), List.mem_append] at hinit
    exact fun hmem => hinit (Or.inl hmem)
  have hbounded := h.bounded
  rw [List.length_append, List.length_cons] at hbounded
  have hcolumn : column newline (blanks space text) % size = before.length := by
    rw [htext, blanks_split hbefore hc, column_of_notMem hline, Nat.mod_eq_of_lt (by omega)]
  rw [hcolumn, htext, word_split hbefore hc, word_split hbefore hc, List.takeWhile_append,
    List.length_cons]
  have hprefix := List.takeWhile_prefix (fun c => !space c) (l := cs)
  split
  case isFalse hsome =>
    have hle := hprefix.length_le
    simp only [true_iff]
    omega
  case isTrue hlength =>
    have hall : (cs.takeWhile fun c => !space c) = cs := hprefix.eq_of_length hlength
    have hlast : (before ++ c :: cs).getLast? ≠ some newline := by
      intro hlast
      rw [List.getLast?_append, List.getLast?_cons, Option.some_or, ← List.getLast?_cons] at hlast
      rcases List.mem_cons.mp (List.mem_of_getLast? hlast) with rfl | hmem
      · rw [hnewline] at hc
        cases hc
      · have hword := List.takeWhile_eq_self_iff.mp hall newline hmem
        rw [hnewline] at hword
        cases hword
    rw [hall, List.length_append, List.cons.injEq, List.self_eq_append_right]
    constructor
    · rintro ⟨-, hnil⟩
      rw [hnil, List.length_nil]
      omega
    · intro hle
      refine ⟨rfl, ?_⟩
      rcases h.full with rfl | hfull | hnewline
      · rfl
      · rw [List.length_append, List.length_cons] at hfull
        exact List.eq_nil_of_length_eq_zero (by omega)
      · exact absurd hnewline hlast

end Chunks

end Words
