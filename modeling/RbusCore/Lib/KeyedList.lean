import Mathlib.Data.Finmap
import Mathlib.Tactic.Common

/-!
# Lists of records with a key

A vector of records that are looked up, changed and removed by a field of theirs.  As
long as the keys are pairwise different, such a list represents a finite map, and a record
can be referred to by any of its distinct fields alike.

**Results.**
* `Distinct.append`, `Distinct.erase`, `Distinct.modify`: the three changes keep keys
  different.
* `lookup_append`, `lookup_erase`, `lookup_modify`: what each change does to a lookup.
* `lookup_toMap`, `toMap_append`, `toMap_erase`: the finite map that is represented.
-/

namespace KeyedList

variable {α κ ι β : Type} [DecidableEq κ] [DecidableEq ι] (key : α → κ)

/-- The first record with a key. -/
def lookup (k : κ) (xs : List α) : Option α :=
  xs.find? fun x => key x = k

/-- The list without the first record with a key. -/
def erase (k : κ) (xs : List α) : List α :=
  xs.eraseP fun x => key x = k

/-- A change to the records with a key. -/
def modify (k : κ) (f : α → α) (xs : List α) : List α :=
  xs.map fun x => if key x = k then f x else x

/-- No two records have the same key. -/
def Distinct (xs : List α) : Prop :=
  (xs.map key).Nodup

section Lookup

variable {key}

theorem mem_of_lookup
    {k : κ} {xs : List α} {x : α}
    (h : lookup key k xs = some x) :
    x ∈ xs :=
  List.mem_of_find?_eq_some h

theorem key_of_lookup
    {k : κ} {xs : List α} {x : α}
    (h : lookup key k xs = some x) :
    key x = k := by
  simpa using List.find?_some h

theorem lookup_eq_none_iff
    {k : κ} {xs : List α} :
    lookup key k xs = none ↔ ∀ x ∈ xs, key x ≠ k := by
  simp [lookup, List.find?_eq_none]

@[simp] theorem lookup_nil
    (k : κ) :
    lookup key k ([] : List α) = none :=
  rfl

theorem lookup_cons
    (k : κ) (x : α) (xs : List α) :
    lookup key k (x :: xs) = if key x = k then some x else lookup key k xs := by
  by_cases h : key x = k <;> simp [lookup, h]

omit [DecidableEq κ] in
theorem distinct_nil : Distinct key ([] : List α) :=
  List.nodup_nil

theorem distinct_cons
    {x : α} {xs : List α} :
    Distinct key (x :: xs) ↔ lookup key (key x) xs = none ∧ Distinct key xs := by
  simp [Distinct, lookup_eq_none_iff]

/-- With different keys a record is found under its own. -/
theorem Distinct.lookup_of_mem
    {xs : List α} {x : α}
    (hxs : Distinct key xs)
    (hx : x ∈ xs) :
    lookup key (key x) xs = some x := by
  induction xs with
  | nil =>
      cases hx
  | cons y ys ih =>
      obtain ⟨hy, hys⟩ := distinct_cons.mp hxs
      rw [lookup_cons]
      rcases List.mem_cons.mp hx with rfl | hmem
      · exact if_pos rfl
      · have hne : key y ≠ key x := fun heq => lookup_eq_none_iff.mp hy x hmem heq.symm
        rw [if_neg hne]
        exact ih hys hmem

theorem Distinct.lookup_eq_some_iff
    {k : κ} {xs : List α} {x : α}
    (hxs : Distinct key xs) :
    lookup key k xs = some x ↔ x ∈ xs ∧ key x = k := by
  constructor
  · intro h
    exact ⟨mem_of_lookup h, key_of_lookup h⟩
  · rintro ⟨hx, rfl⟩
    exact hxs.lookup_of_mem hx

/-- With different keys, the records with a key are the one that is found. -/
theorem Distinct.filter_eq_lookup
    {xs : List α}
    (hxs : Distinct key xs)
    (k : κ) :
    (xs.filter fun x => key x = k) = (lookup key k xs).toList := by
  induction xs with
  | nil =>
      rfl
  | cons x xs ih =>
      obtain ⟨hx, hrest⟩ := distinct_cons.mp hxs
      rw [lookup_cons]
      by_cases h : key x = k
      · have hnone : (xs.filter fun y => key y = k) = [] := by
          rw [ih hrest, ← h, hx]
          rfl
        rw [List.filter_cons_of_pos (by simpa using h), hnone, if_pos h]
        rfl
      · rw [List.filter_cons_of_neg (by simpa using h), ih hrest, if_neg h]

end Lookup

section Append

variable {key}

theorem lookup_append_singleton
    (k : κ) (xs : List α) (x : α) :
    lookup key k (xs ++ [x]) =
      (lookup key k xs).or (if key x = k then some x else none) := by
  by_cases h : key x = k <;> simp [lookup, List.find?_append, h]

theorem Distinct.append
    {xs : List α} {x : α}
    (hxs : Distinct key xs)
    (hx : lookup key (key x) xs = none) :
    Distinct key (xs ++ [x]) := by
  simp only [Distinct, List.map_append, List.map_cons, List.map_nil]
  refine List.nodup_append.mpr ⟨hxs, by simp, ?_⟩
  intro k hk k' hk'
  obtain ⟨y, hy, rfl⟩ := List.mem_map.mp hk
  obtain rfl := List.mem_singleton.mp hk'
  exact lookup_eq_none_iff.mp hx y hy

/-- A new record is found under its key, and nothing else changes. -/
theorem lookup_append
    {xs : List α} {x : α}
    (hx : lookup key (key x) xs = none)
    (k : κ) :
    lookup key k (xs ++ [x]) = if key x = k then some x else lookup key k xs := by
  rw [lookup_append_singleton]
  by_cases h : key x = k
  · subst h
    simp [hx]
  · simp [h]

end Append

section Erase

variable {key}

theorem erase_of_lookup_eq_none
    {k : κ} {xs : List α}
    (h : lookup key k xs = none) :
    erase key k xs = xs :=
  List.eraseP_of_forall_not fun x hx => by simpa using lookup_eq_none_iff.mp h x hx

/-- With different keys the first record with a key is the only one. -/
theorem Distinct.erase_eq_filter
    {xs : List α}
    (hxs : Distinct key xs)
    (k : κ) :
    erase key k xs = xs.filter fun x => key x ≠ k := by
  induction xs with
  | nil =>
      rfl
  | cons y ys ih =>
      obtain ⟨hy, hys⟩ := distinct_cons.mp hxs
      by_cases h : key y = k
      · have hrest : ∀ x ∈ ys, key x ≠ k := h ▸ lookup_eq_none_iff.mp hy
        have hkeep : ys.filter (fun x => key x ≠ k) = ys :=
          List.filter_eq_self.mpr fun x hx => by simpa using hrest x hx
        rw [erase, List.eraseP_cons_of_pos (by simpa using h),
          List.filter_cons_of_neg (by simpa using h), hkeep]
      · rw [List.filter_cons_of_pos (by simpa using h), ← ih hys]
        exact List.eraseP_cons_of_neg (by simpa using h)

theorem Distinct.erase
    {xs : List α}
    (hxs : Distinct key xs)
    (k : κ) :
    Distinct key (erase key k xs) :=
  hxs.sublist (List.eraseP_sublist.map key)

theorem Distinct.lookup_erase
    {xs : List α}
    (hxs : Distinct key xs)
    (k k' : κ) :
    lookup key k' (KeyedList.erase key k xs) = if k' = k then none else lookup key k' xs := by
  rw [hxs.erase_eq_filter k]
  by_cases h : k' = k
  · subst h
    rw [if_pos rfl, lookup_eq_none_iff]
    intro x hx
    simpa using (List.mem_filter.mp hx).2
  · rw [if_neg h, lookup, lookup, List.find?_filter]
    refine congrArg (fun p => xs.find? p) (funext fun x => ?_)
    by_cases hx : key x = k' <;> simp [hx, h]

/-- Another record is found as before. -/
theorem lookup_erase_of_ne
    {k k' : κ}
    (h : k ≠ k')
    (xs : List α) :
    lookup key k' (KeyedList.erase key k xs) = lookup key k' xs := by
  induction xs with
  | nil =>
      rfl
  | cons x xs ih =>
      by_cases hx : key x = k
      · rw [erase, List.eraseP_cons_of_pos (by simpa using hx), lookup_cons,
          if_neg (by rw [hx]; exact h)]
      · rw [erase, List.eraseP_cons_of_neg (by simpa using hx), lookup_cons, lookup_cons, ← ih]
        rfl

/-- The first record with its key is found behind others. -/
theorem lookup_append_cons
    {xs : List α} {x : α}
    (hx : lookup key (key x) xs = none)
    (ys : List α) :
    lookup key (key x) (xs ++ x :: ys) = some x := by
  rw [lookup, List.find?_append, ← lookup, hx, Option.none_or, List.find?_cons_of_pos]
  exact decide_eq_true rfl

/-- It is removed from behind them. -/
theorem erase_append_cons
    {xs : List α} {x : α}
    (hx : lookup key (key x) xs = none)
    (ys : List α) :
    erase key (key x) (xs ++ x :: ys) = xs ++ ys := by
  rw [erase, List.eraseP_append_right]
  · simp
  · intro y hy
    simpa using lookup_eq_none_iff.mp hx y hy

/-- Removing what was added last. -/
theorem erase_append
    {xs : List α} {x : α}
    (hx : lookup key (key x) xs = none) :
    erase key (key x) (xs ++ [x]) = xs := by
  rw [erase_append_cons hx, List.append_nil]

end Erase

section Modify

variable {key}

/-- Records that keep their keys are found where they were. -/
theorem lookup_map
    {g : α → α} {xs : List α}
    (hg : ∀ x ∈ xs, key (g x) = key x)
    (k : κ) :
    lookup key k (xs.map g) = (lookup key k xs).map g := by
  induction xs with
  | nil =>
      rfl
  | cons x xs ih =>
      have hrest := ih fun y hy => hg y (List.mem_cons_of_mem x hy)
      rw [List.map_cons, lookup_cons, lookup_cons, hg x List.mem_cons_self, hrest]
      by_cases hx : key x = k <;> simp [hx]

theorem lookup_modify
    {f : α → α}
    (hf : ∀ x, key (f x) = key x)
    (k k' : κ) (xs : List α) :
    lookup key k' (modify key k f xs) =
      if k' = k then (lookup key k' xs).map f else lookup key k' xs := by
  have hkey : ∀ x ∈ xs, key (if key x = k then f x else x) = key x := by
    intro x _
    split
    · exact hf x
    · rfl
  rw [modify, lookup_map hkey]
  cases hfound : lookup key k' xs with
  | none =>
      simp
  | some x =>
      have hx : key x = k' := key_of_lookup hfound
      by_cases hk : k' = k <;> simp [hx, hk]

omit [DecidableEq κ] in
theorem map_key_modify
    {f : α → α}
    (hf : ∀ x, key (f x) = key x)
    {field : α → ι} (k : ι) (xs : List α) :
    (modify field k f xs).map key = xs.map key := by
  simp only [modify, List.map_map]
  refine List.map_congr_left fun x _ => ?_
  simp only [Function.comp]
  split
  · exact hf x
  · rfl

omit [DecidableEq κ] in
/-- A change that keeps the keys, wherever it is made. -/
theorem Distinct.modify
    {f : α → α} {xs : List α}
    (hxs : Distinct key xs)
    (hf : ∀ x, key (f x) = key x)
    (field : α → ι) (k : ι) :
    Distinct key (KeyedList.modify field k f xs) := by
  rw [Distinct, map_key_modify hf]
  exact hxs

theorem modify_eq_self
    {f : α → α} {k : κ} {xs : List α}
    (h : ∀ x ∈ xs, key x = k → f x = x) :
    modify key k f xs = xs := by
  have hid : modify key k f xs = xs.map id := by
    refine List.map_congr_left fun x hx => ?_
    split
    case isTrue hk =>
      exact h x hx hk
    case isFalse =>
      rfl
  rw [hid, List.map_id]

theorem modify_modify
    {f g : α → α}
    (hf : ∀ x, key (f x) = key x)
    (k : κ) (xs : List α) :
    modify key k g (modify key k f xs) = modify key k (fun x => g (f x)) xs := by
  simp only [modify, List.map_map]
  refine List.map_congr_left fun x _ => ?_
  by_cases hx : key x = k <;> simp [hx, hf]

theorem modify_append
    (f : α → α) (k : κ) (xs ys : List α) :
    modify key k f (xs ++ ys) = modify key k f xs ++ modify key k f ys :=
  List.map_append

/-- A record can be addressed by either of two fields that distinguish it. -/
theorem modify_congr_field
    {field : α → ι} {xs : List α} {x : α}
    (hkey : Distinct key xs)
    (hfield : Distinct field xs)
    (hx : x ∈ xs)
    (f : α → α) :
    modify field (field x) f xs = modify key (key x) f xs := by
  refine List.map_congr_left fun y hy => ?_
  have hiff : field y = field x ↔ key y = key x := by
    constructor
    · intro h
      have hyx := (hfield.lookup_of_mem hy).symm.trans (h ▸ hfield.lookup_of_mem hx)
      rw [Option.some.inj hyx]
    · intro h
      have hyx := (hkey.lookup_of_mem hy).symm.trans (h ▸ hkey.lookup_of_mem hx)
      rw [Option.some.inj hyx]
  simp only [hiff]

end Modify

section Map

variable {key}

/-- The finite map that a list represents. -/
def toMap (key : α → κ) (val : α → β) (xs : List α) : Finmap fun _ : κ => β :=
  (xs.map fun x => (⟨key x, val x⟩ : Sigma fun _ : κ => β)).toFinmap

@[simp] theorem lookup_toMap
    (val : α → β) (k : κ) (xs : List α) :
    (toMap key val xs).lookup k = (lookup key k xs).map val := by
  rw [toMap, Finmap.dlookup_list_toFinmap]
  induction xs with
  | nil =>
      rfl
  | cons x xs ih =>
      rw [List.map_cons, lookup_cons]
      by_cases h : key x = k
      · subst h
        simp
      · rw [List.dlookup_cons_ne _ _ (fun heq => h heq.symm), ih, if_neg h]

theorem mem_toMap
    {val : α → β} {k : κ} {xs : List α} :
    k ∈ toMap key val xs ↔ ∃ x ∈ xs, key x = k := by
  rw [← Finmap.lookup_isSome, lookup_toMap, Option.isSome_map, ← not_iff_not,
    Bool.not_eq_true, Option.isSome_eq_false_iff, Option.isNone_iff_eq_none, lookup_eq_none_iff]
  simp

theorem notMem_toMap
    {val : α → β} {k : κ} {xs : List α} :
    k ∉ toMap key val xs ↔ lookup key k xs = none := by
  rw [mem_toMap, lookup_eq_none_iff]
  simp

/-- A new record is an insertion. -/
theorem toMap_append
    {val : α → β} {xs : List α} {x : α}
    (hx : lookup key (key x) xs = none) :
    toMap key val (xs ++ [x]) = (toMap key val xs).insert (key x) (val x) := by
  refine Finmap.ext_lookup fun k => ?_
  rw [lookup_toMap, lookup_append hx]
  by_cases h : key x = k
  · subst h
    simp
  · rw [if_neg h, Finmap.lookup_insert_of_ne _ (fun heq => h heq.symm), lookup_toMap]

/-- A removal is a removal. -/
theorem toMap_erase
    {val : α → β} {xs : List α}
    (hxs : Distinct key xs)
    (k : κ) :
    toMap key val (erase key k xs) = (toMap key val xs).erase k := by
  refine Finmap.ext_lookup fun k' => ?_
  rw [lookup_toMap, hxs.lookup_erase]
  by_cases h : k' = k
  · subst h
    simp
  · rw [if_neg h, Finmap.lookup_erase_ne h, lookup_toMap]

/-- A change to the record with a key replaces what is stored under it. -/
theorem toMap_modify
    {val : α → β} {f : α → α} {k : κ} {xs : List α} {x : α}
    (hf : ∀ y, key (f y) = key y)
    (hx : lookup key k xs = some x) :
    toMap key val (modify key k f xs) = (toMap key val xs).insert k (val (f x)) := by
  refine Finmap.ext_lookup fun k' => ?_
  rw [lookup_toMap, lookup_modify hf]
  by_cases h : k' = k
  · subst h
    simp [hx]
  · rw [if_neg h, Finmap.lookup_insert_of_ne _ h, lookup_toMap]

/-- With different keys there are as many keys as records. -/
theorem Distinct.card_keys
    {val : α → β} {xs : List α}
    (hxs : Distinct key xs) :
    (toMap key val xs).keys.card = xs.length := by
  have hkeys : (toMap key val xs).keys = (xs.map key).toFinset := by
    ext k
    rw [Finmap.mem_keys, mem_toMap]
    simp
  rw [hkeys, List.toFinset_card_of_nodup hxs, List.length_map]

end Map

end KeyedList
