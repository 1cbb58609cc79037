import RbusCore.Lib.Resumption

/-!
# Programs that stop at most once

A program that makes no call runs to its end at once, whatever contract it is under.  A program
that stops at most once is under a contract as soon as its one call is.

**Results.**
* `CallFree.sat`: nothing is asked of a program without calls.
* `CallsOnce.sat`: what is asked of a program that stops at most once.
-/

namespace Resumption

variable {E : Type} {A : E → Type} {S α β : Type}

/-- A running program that does not wait. -/
def Prog.IsOver : Prog A S α → Prop
  | .call .. => False
  | _ => True

/-- A running program that waits at most once. -/
def Prog.WaitsOnce : Prog A S α → Prop
  | .call _ _ k => ∀ a s, (k a s).IsOver
  | _ => True

namespace Program

/-- A program that makes no call. -/
def CallFree (x : Program A S α) : Prop :=
  ∀ s, (x s).IsOver

/-- A program that makes at most one call. -/
def CallsOnce (x : Program A S α) : Prop :=
  ∀ s, (x s).WaitsOnce

variable {x : Program A S α} {f : α → Program A S β} {s : S}

theorem callFree_pure
    (a : α) :
    CallFree (pure a : Program A S α) :=
  fun _ => trivial

theorem callFree_getState : CallFree (getState : Program A S S) :=
  fun _ => trivial

theorem callFree_modifyState
    (f : S → S) :
    CallFree (modifyState f : Program A S Unit) :=
  fun _ => trivial

theorem callFree_bind
    (hx : CallFree x)
    (hf : ∀ a, CallFree (f a)) :
    CallFree (x >>= f) := by
  intro s
  show ((x s).bind f).IsOver
  cases hs : x s with
  | done a s' =>
      exact hf a s'
  | undef s' =>
      trivial
  | call e s' k =>
      have hover := hx s
      rw [hs] at hover
      exact hover.elim

theorem callFree_ite
    {c : Prop} [Decidable c] {x y : Program A S α}
    (hx : CallFree x)
    (hy : CallFree y) :
    CallFree (if c then x else y) := by
  split
  · exact hx
  · exact hy

theorem CallFree.callsOnce
    (hx : CallFree x) :
    CallsOnce x := by
  intro s
  have hover := hx s
  cases hs : x s with
  | done a s' =>
      trivial
  | undef s' =>
      trivial
  | call e s' k =>
      rw [hs] at hover
      exact hover.elim

theorem callsOnce_perform
    (e : E) :
    CallsOnce (perform e : Program A S (A e)) :=
  fun _ _ _ => trivial

/-- The call comes later. -/
theorem callsOnce_bind
    (hx : CallFree x)
    (hf : ∀ a, CallsOnce (f a)) :
    CallsOnce (x >>= f) := by
  intro s
  show ((x s).bind f).WaitsOnce
  cases hs : x s with
  | done a s' =>
      exact hf a s'
  | undef s' =>
      trivial
  | call e s' k =>
      have hover := hx s
      rw [hs] at hover
      exact hover.elim

/-- The call comes first. -/
theorem CallsOnce.bind
    (hx : CallsOnce x)
    (hf : ∀ a, CallFree (f a)) :
    CallsOnce (x >>= f) := by
  intro s
  show ((x s).bind f).WaitsOnce
  have honce := hx s
  cases hs : x s with
  | done a s' =>
      exact (show CallFree (f a) from hf a).callsOnce s'
  | undef s' =>
      trivial
  | call e s' k =>
      rw [hs] at honce
      intro a t
      show ((k a t).bind f).IsOver
      have hover := honce a t
      cases hk : k a t with
      | done b t' =>
          exact hf b t'
      | undef t' =>
          trivial
      | call e' t' k' =>
          rw [hk] at hover
          exact hover.elim

theorem callsOnce_ite
    {c : Prop} [Decidable c] {x y : Program A S α}
    (hx : CallsOnce x)
    (hy : CallsOnce y) :
    CallsOnce (if c then x else y) := by
  split
  · exact hx
  · exact hy

variable {C C' : Contract A S} {Q : α → S → Prop}

/-- Without calls it does not matter what may be relied on. -/
theorem CallFree.sat_of_sat
    (hx : CallFree x)
    (hundef : ∀ s, C'.atUndef s)
    (h : Sat C x Q s) :
    Sat C' x Q s := by
  have hover := hx s
  rw [Sat] at h ⊢
  cases hs : x s with
  | done a s' =>
      rw [hs] at h
      exact h
  | undef s' =>
      exact hundef s'
  | call e s' k =>
      rw [hs] at hover
      exact hover.elim

/-- Nothing is asked of a program without calls. -/
theorem CallFree.sat
    (hx : CallFree x)
    (hundef : ∀ s, C.atUndef s)
    (s : S) :
    Sat C x (fun _ _ => True) s := by
  have hover := hx s
  rw [Sat]
  cases hs : x s with
  | done a s' =>
      trivial
  | undef s' =>
      exact hundef s'
  | call e s' k =>
      rw [hs] at hover
      exact hover.elim

/-- What is asked of a program that stops at most once, at a call that is known. -/
theorem CallsOnce.sat
    {e : E} {s' : S} {k : A e → S → Prog A S α}
    (hx : CallsOnce x)
    (hundef : ∀ s, C.atUndef s)
    (hcall : x s = .call e s' k)
    (hmet : C.atCall e s') :
    Sat C x (fun _ _ => True) s := by
  have honce := hx s
  rw [hcall] at honce
  rw [Sat, hcall]
  refine ⟨hmet, fun a t _ => ?_⟩
  have hover := honce a t
  cases hk : k a t with
  | done b t' =>
      trivial
  | undef t' =>
      exact hundef t'
  | call e' t' k' =>
      rw [hk] at hover
      exact hover.elim

end Program

end Resumption
