import Mathlib.Data.List.TakeWhile
import Mathlib.Tactic.Common

/-!
# NUL-terminated strings and bounded comparison

A C string is its list of characters without the terminating NUL, so the
absence of NUL characters is part of the type.  A name kept in a character
array of a record is a C string that is shorter than the bound its owner
checks before copying.

**Results.**
* `strncmp_eq_zero_iff`: a bounded comparison answers 0 exactly when the two
  strings agree on the first `n` characters.
* `BoundedName.strncmp_eq_zero_iff`: comparing a bounded name with any key under
  the bound of the name decides equality, also for keys longer than the bound.
* `strncmpMemory_of_ofMemory`: comparing with characters in memory is comparing with
  the string they form, when they form one.
* `CString.ofMemory_append`: reading back a stored string gives that string,
  whatever follows its terminator in memory.
-/

namespace CStrings

/-- A C string: characters before the terminator, none of them NUL. -/
structure CString where
  chars : List UInt8
  noNul : ∀ c ∈ chars, c ≠ 0
deriving DecidableEq

namespace CString

@[ext] theorem ext
    {s t : CString}
    (h : s.chars = t.chars) :
    s = t := by
  cases s
  cases t
  cases h
  rfl

/-- The empty string. -/
def empty : CString := ⟨[], by simp⟩

/-- A string literal, given as its list of ASCII characters. -/
def ofChars (cs : List Char)
    (h : cs.all (fun c => UInt8.ofNat c.toNat != 0) = true := by rfl) :
    CString :=
  ⟨cs.map (fun c => UInt8.ofNat c.toNat), by
    simpa [List.all_eq_true] using h⟩

/-- `strlen`. -/
def strlen (s : CString) : Nat := s.chars.length

/-- The bytes a C string occupies in memory, terminator included. -/
def memory (s : CString) : List UInt8 := s.chars ++ [0]

@[simp] theorem memory_length
    (s : CString) :
    s.memory.length = s.strlen + 1 := by
  simp [memory, strlen]

/-- The C string that starts at the head of a memory region.  There is none when
the region holds no terminator: reading on would leave the region. -/
def ofMemory (region : List UInt8) : Option CString :=
  if 0 ∈ region then
    some ⟨region.takeWhile (· ≠ 0), fun c hc => by
      simpa using List.mem_takeWhile_imp hc⟩
  else
    none

theorem ofMemory_eq_some_iff
    {region : List UInt8} {s : CString} :
    ofMemory region = some s ↔ 0 ∈ region ∧ s.chars = region.takeWhile (· ≠ 0) := by
  unfold ofMemory
  split
  case isTrue hmem =>
    constructor
    · intro h
      cases h
      exact ⟨hmem, rfl⟩
    · intro h
      exact congrArg some (CString.ext h.2.symm)
  case isFalse hmem =>
    simp [hmem]

/-- A stored string is read back whatever follows it. -/
theorem ofMemory_append
    (s : CString)
    (rest : List UInt8) :
    ofMemory (s.memory ++ rest) = some s := by
  have hmem : (0 : UInt8) ∈ s.memory ++ rest := by
    simp [memory]
  have htake :
      (s.memory ++ rest).takeWhile (· ≠ 0) = s.chars := by
    rw [memory, List.append_assoc]
    rw [List.takeWhile_append_of_pos]
    · simp
    · intro c hc
      simpa using s.noNul c hc
  simp only [ofMemory, hmem, if_true, Option.some.injEq]
  exact CString.ext htake

/-- A region with a terminator is not left. -/
theorem ofMemory_append_of_mem
    {region : List UInt8}
    (h : 0 ∈ region)
    (rest : List UInt8) :
    ofMemory (region ++ rest) = ofMemory region := by
  obtain ⟨s, hs⟩ : ∃ s, ofMemory region = some s := ⟨_, if_pos h⟩
  obtain ⟨-, hchars⟩ := ofMemory_eq_some_iff.mp hs
  rw [hs]
  refine ofMemory_eq_some_iff.mpr ⟨List.mem_append_left rest h, ?_⟩
  have hstop : (region.takeWhile (· ≠ 0)).length ≠ region.length := by
    intro hlen
    have hall := (List.takeWhile_prefix _).eq_of_length hlen
    have hzero := List.takeWhile_eq_self_iff.mp hall 0 h
    simp at hzero
  rw [hchars, List.takeWhile_append, if_neg hstop]

/-- Characters in memory end within a part of it when there is a NUL in that part. -/
theorem ofMemory_append_inside_iff
    (payload rest : List UInt8) :
    (∃ s, ofMemory (payload ++ rest) = some s ∧ s.strlen < payload.length) ↔
      0 ∈ payload := by
  constructor
  · rintro ⟨s, hs, hlength⟩
    by_contra hnone
    obtain ⟨-, hchars⟩ := ofMemory_eq_some_iff.mp hs
    have hall : ∀ c ∈ payload, decide (c ≠ 0) = true := by
      intro c hc
      exact decide_eq_true fun hzero => hnone (hzero ▸ hc)
    rw [List.takeWhile_append_of_pos hall] at hchars
    rw [strlen, hchars, List.length_append] at hlength
    omega
  · intro hzero
    obtain ⟨s, hs⟩ : ∃ s, ofMemory payload = some s :=
      ⟨_, if_pos hzero⟩
    refine ⟨s, (ofMemory_append_of_mem hzero rest).trans hs, ?_⟩
    obtain ⟨-, hchars⟩ := ofMemory_eq_some_iff.mp hs
    rw [strlen, hchars]
    refine lt_of_le_of_ne (List.takeWhile_sublist _).length_le fun hlength => ?_
    have hall := List.takeWhile_eq_self_iff.mp ((List.takeWhile_sublist _).eq_of_length hlength)
    exact of_decide_eq_true (hall 0 hzero) rfl

/-- A string ends at the first NUL. -/
theorem strlen_le_of_nul
    {region : List UInt8} {s : CString} {n : Nat}
    (h : ofMemory region = some s)
    (hnul : region[n]? = some 0) :
    s.strlen ≤ n := by
  obtain ⟨-, hchars⟩ := ofMemory_eq_some_iff.mp h
  by_contra hlt
  have hn : n < s.chars.length := Nat.lt_of_not_le hlt
  have hprefix : s.chars <+: region := hchars ▸ List.takeWhile_prefix _
  rw [List.prefix_iff_getElem?.mp hprefix n hn] at hnul
  exact s.noNul _ (List.getElem_mem hn) (Option.some.inj hnul)

@[simp] theorem ofMemory_memory
    (s : CString) :
    ofMemory s.memory = some s := by
  simpa using ofMemory_append s []

end CString

/-- `strncmp` on the characters of two strings: the terminator counts as a
character smaller than every other one. -/
def strncmp : Nat → List UInt8 → List UInt8 → Int
  | 0, _, _ => 0
  | _ + 1, [], [] => 0
  | _ + 1, [], y :: _ => -(y.toNat : Int)
  | _ + 1, x :: _, [] => (x.toNat : Int)
  | n + 1, x :: xs, y :: ys =>
      if x = y then strncmp n xs ys
      else (x.toNat : Int) - (y.toNat : Int)

theorem toNat_ne_zero
    {c : UInt8}
    (h : c ≠ 0) :
    (c.toNat : Int) ≠ 0 := by
  intro hc
  apply h
  apply UInt8.toNat_inj.mp
  simpa using hc

/-- A bounded comparison sees exactly the first `n` characters. -/
theorem strncmp_eq_zero_iff
    (n : Nat)
    {xs ys : List UInt8}
    (hx : ∀ c ∈ xs, c ≠ 0)
    (hy : ∀ c ∈ ys, c ≠ 0) :
    strncmp n xs ys = 0 ↔ xs.take n = ys.take n := by
  induction n generalizing xs ys with
  | zero =>
      simp [strncmp]
  | succ n ih =>
      cases xs with
      | nil =>
          cases ys with
          | nil =>
              simp [strncmp]
          | cons y ys =>
              have := toNat_ne_zero (hy y (by simp))
              simp [strncmp]
              omega
      | cons x xs =>
          cases ys with
          | nil =>
              have := toNat_ne_zero (hx x (by simp))
              simp [strncmp]
              omega
          | cons y ys =>
              by_cases hxy : x = y
              · subst hxy
                have htail := ih
                  (fun c hc => hx c (List.mem_cons_of_mem _ hc))
                  (fun c hc => hy c (List.mem_cons_of_mem _ hc))
                simpa [strncmp] using htail
              · have hne : (x.toNat : Int) ≠ (y.toNat : Int) := by
                  intro h
                  exact hxy (UInt8.toNat_inj.mp (by exact_mod_cast h))
                simp [strncmp, hxy]
                omega

/-- `strncmp` of a string with the characters in a memory region; there is no answer
when the comparison would leave the region. -/
def strncmpMemory : Nat → List UInt8 → List UInt8 → Option Int
  | 0, _, _ => some 0
  | _ + 1, _, [] => none
  | _ + 1, [], y :: _ => some (-(y.toNat : Int))
  | n + 1, x :: xs, y :: ys =>
      if x = y then strncmpMemory n xs ys
      else some ((x.toNat : Int) - (y.toNat : Int))

theorem strncmpMemory_terminated
    (n : Nat)
    {xs region : List UInt8}
    (hx : ∀ c ∈ xs, c ≠ 0)
    (h : 0 ∈ region) :
    strncmpMemory n xs region = some (strncmp n xs (region.takeWhile (· ≠ 0))) := by
  induction n generalizing xs region with
  | zero =>
      simp [strncmpMemory, strncmp]
  | succ n ih =>
      cases region with
      | nil =>
          cases h
      | cons y ys =>
          cases xs with
          | nil =>
              by_cases hy : y = 0
              · simp [strncmpMemory, strncmp, hy]
              · simp [strncmpMemory, strncmp, hy]
          | cons x xs =>
              have hx0 : x ≠ 0 := hx x (by simp)
              by_cases hy : y = 0
              · simp [strncmpMemory, strncmp, hy, hx0]
              · have hys : 0 ∈ ys := by simpa [Ne.symm hy] using h
                have htail := ih (fun c hc => hx c (List.mem_cons_of_mem _ hc)) hys
                simp only [ne_eq, decide_not] at htail
                by_cases hxy : x = y
                · simp [strncmpMemory, strncmp, hxy, hy, htail]
                · simp [strncmpMemory, strncmp, hxy, hy]

/-- On a region that holds a C string the comparison is the one with that string. -/
theorem strncmpMemory_of_ofMemory
    (n : Nat)
    {s t : CString} {region : List UInt8}
    (h : CString.ofMemory region = some t) :
    strncmpMemory n s.chars region = some (strncmp n s.chars t.chars) := by
  obtain ⟨hmem, hchars⟩ := CString.ofMemory_eq_some_iff.mp h
  rw [hchars]
  exact strncmpMemory_terminated n s.noNul hmem

/-- A string shorter than the bound that compares equal is the one in the region. -/
theorem ofMemory_of_strncmpMemory
    {n : Nat} {s : CString} {region : List UInt8}
    (hlen : s.strlen < n)
    (h : strncmpMemory n s.chars region = some 0) :
    CString.ofMemory region = some s := by
  have hread (n : Nat) (xs region : List UInt8) (hx : ∀ c ∈ xs, c ≠ 0)
      (hlen : xs.length < n) (h : strncmpMemory n xs region = some 0) :
      0 ∈ region ∧ xs = region.takeWhile (· ≠ 0) := by
    induction xs generalizing n region with
    | nil =>
        obtain ⟨n, rfl⟩ := Nat.exists_eq_succ_of_ne_zero (Nat.ne_of_gt hlen)
        cases region with
        | nil =>
            cases h
        | cons y ys =>
            have hy : y = 0 := by
              by_contra hne
              have := toNat_ne_zero hne
              simp only [strncmpMemory, Option.some.injEq] at h
              omega
            simp [hy]
    | cons x xs ih =>
        obtain ⟨n, rfl⟩ := Nat.exists_eq_succ_of_ne_zero (Nat.ne_of_gt (Nat.zero_lt_of_lt hlen))
        cases region with
        | nil =>
            cases h
        | cons y ys =>
            rw [strncmpMemory] at h
            split at h
            case isTrue hxy =>
              subst hxy
              obtain ⟨hmem, htake⟩ := ih n ys (fun c hc => hx c (List.mem_cons_of_mem _ hc))
                (by simpa using hlen) h
              have hne : x ≠ 0 := hx x (by simp)
              refine ⟨List.mem_cons_of_mem _ hmem, ?_⟩
              rw [List.takeWhile_cons_of_pos (by simpa using hne), ← htake]
            case isFalse hxy =>
              have hne : (x.toNat : Int) ≠ (y.toNat : Int) := fun heq =>
                hxy (UInt8.toNat_inj.mp (by exact_mod_cast heq))
              have := Option.some.inj h
              omega
  exact CString.ofMemory_eq_some_iff.mpr (hread n s.chars region s.noNul hlen h)

/-- A C string shorter than `n`, as kept in a character array whose owner checks
`strlen < n` before copying. -/
def BoundedName (n : Nat) := { s : CString // s.strlen < n }

namespace BoundedName

instance (n : Nat) : DecidableEq (BoundedName n) :=
  inferInstanceAs (DecidableEq { s : CString // s.strlen < n })

/-- The length check made before a string is copied into an array. -/
def check? (n : Nat) (s : CString) : Option (BoundedName n) :=
  if h : s.strlen < n then some ⟨s, h⟩ else none

theorem check?_eq_some_iff
    {n : Nat} {s : CString} {name : BoundedName n} :
    check? n s = some name ↔ name.val = s := by
  unfold check?
  split
  case isTrue h =>
    constructor
    · intro heq
      cases heq
      rfl
    · intro heq
      subst heq
      rfl
  case isFalse h =>
    constructor
    · intro heq
      cases heq
    · intro heq
      subst heq
      exact absurd name.property h

@[simp] theorem check?_val
    {n : Nat}
    (name : BoundedName n) :
    check? n name.val = some name :=
  check?_eq_some_iff.mpr rfl

theorem check?_eq_none_iff
    {n : Nat} {s : CString} :
    check? n s = none ↔ n ≤ s.strlen := by
  simp [check?]

/-- Under its own bound a name is equal to every key it compares equal to. -/
theorem strncmp_eq_zero_iff
    {n : Nat}
    (name : BoundedName n)
    (key : CString) :
    strncmp n name.val.chars key.chars = 0 ↔ name.val = key := by
  rw [CStrings.strncmp_eq_zero_iff n name.val.noNul key.noNul]
  have hlen : name.val.chars.length < n := name.property
  constructor
  · intro h
    rw [List.take_of_length_le (Nat.le_of_lt hlen)] at h
    have hkey : key.chars.length < n := by
      have := congrArg List.length h
      rw [List.length_take] at this
      omega
    rw [List.take_of_length_le (Nat.le_of_lt hkey)] at h
    exact CString.ext h
  · intro h
    rw [h]

end BoundedName

end CStrings
