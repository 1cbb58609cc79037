import Mathlib.Logic.Relation
import Mathlib.Tactic.Common

/-!
# Programs that wait for answers

A stateful program runs until it needs something from outside: then it stops at
a *call* and is resumed with an answer and a state, which the outside may have
changed in the meantime.  It can also end in undefined behaviour, where nothing
more is said about it.

A `Contract` says which answers and state changes a call may meet (`env`), what
has to hold whenever the program stops at a call (`atCall`) and whenever its
behaviour becomes undefined (`atUndef`).  `Program.Sat` is the weakest
precondition of a program under a contract; its rules are one equation for each
way to build a program.

**Results.**
* `Prog.sat_iff_reaches`: a program satisfies a contract exactly when every point
  it reaches does.
* `Program.returns_of_sat`, `Program.waits_of_sat`: the two uses of it.
* `Program.sat_completing_iff`: programs that get to their end whatever is answered.
* `nest_guarantee`: if every entry point keeps a transitive guarantee while calls
  change the state only within that guarantee, then so do calls during which
  entry points are re-entered to any depth.
-/

namespace Resumption

variable {E : Type} {A : E → Type} {S α β : Type}

/-- A running program: finished, undefined, or waiting for the answer to a call. -/
inductive Prog (A : E → Type) (S : Type) (α : Type) : Type where
  | done (a : α) (s : S)
  | undef (s : S)
  | call (e : E) (s : S) (k : A e → S → Prog A S α)

namespace Prog

/-- Continue a running program. -/
def bind : Prog A S α → (α → S → Prog A S β) → Prog A S β
  | .done a s, f => f a s
  | .undef s, _ => .undef s
  | .call e s k, f => .call e s fun a s' => (k a s').bind f

theorem bind_done
    (p : Prog A S α) :
    p.bind .done = p := by
  induction p with
  | done a s =>
      rfl
  | undef s =>
      rfl
  | call e s k ih =>
      exact congrArg (Prog.call e s) (funext fun a => funext fun s' => ih a s')

theorem bind_bind
    (p : Prog A S α) (f : α → S → Prog A S β) (g : β → S → Prog A S γ) :
    (p.bind f).bind g = p.bind fun a s => (f a s).bind g := by
  induction p with
  | done a s =>
      rfl
  | undef s =>
      rfl
  | call e s k ih =>
      exact congrArg (Prog.call e s) (funext fun a => funext fun s' => ih a s')

end Prog

/-- A program started in a state. -/
def Program (A : E → Type) (S : Type) (α : Type) : Type :=
  S → Prog A S α

namespace Program

instance : Monad (Program A S) where
  pure a := fun s => .done a s
  bind x f := fun s => (x s).bind f

instance : LawfulMonad (Program A S) :=
  LawfulMonad.mk' _ (fun x => funext fun s => (x s).bind_done) (fun _ _ => rfl)
    fun x f g => funext fun s => (x s).bind_bind f g

/-- The current state. -/
def getState : Program A S S := fun s => .done s s

/-- Change the state. -/
def modifyState (f : S → S) : Program A S Unit := fun s => .done () (f s)

/-- Ask the outside. -/
def perform (e : E) : Program A S (A e) := fun s => .call e s fun a s' => .done a s'

/-- Undefined behaviour. -/
def undefined : Program A S α := fun s => .undef s

/-- A loop over the indices `i`, `i + 1`, …, so many of them. -/
def forLoop (body : Nat → Program A S Unit) : (i count : Nat) → Program A S Unit
  | _, 0 => pure ()
  | i, count + 1 => do
      body i
      forLoop body (i + 1) count

end Program

/-- What a program may rely on at its calls and has to guarantee there. -/
structure Contract (A : E → Type) (S : Type) where
  env : (e : E) → S → A e → S → Prop
  atCall : E → S → Prop
  atUndef : S → Prop

namespace Prog

variable {C : Contract A S} {Q : α → S → Prop}

/-- Weakest precondition of a running program. -/
def Sat (C : Contract A S) (Q : α → S → Prop) : Prog A S α → Prop
  | .done a s => Q a s
  | .undef s => C.atUndef s
  | .call e s k => C.atCall e s ∧ ∀ a s', C.env e s a s' → (k a s').Sat C Q

theorem sat_bind
    (p : Prog A S α)
    (f : α → S → Prog A S β)
    (Q : β → S → Prop) :
    (p.bind f).Sat C Q ↔ p.Sat C (fun a s => (f a s).Sat C Q) := by
  induction p with
  | done a s =>
      exact Iff.rfl
  | undef s =>
      exact Iff.rfl
  | call e s k ih =>
      simp only [bind, Sat, ih]

theorem Sat.mono
    {Q' : α → S → Prop}
    {p : Prog A S α}
    (hQ : ∀ a s, Q a s → Q' a s)
    (h : p.Sat C Q) :
    p.Sat C Q' := by
  induction p with
  | done a s =>
      exact hQ a s h
  | undef s =>
      exact h
  | call e s k ih =>
      exact ⟨h.1, fun a s' henv => ih a s' (h.2 a s' henv)⟩

/-- A contract with a weaker guarantee and a smaller environment is satisfied too. -/
theorem Sat.weaken
    {C' : Contract A S}
    {p : Prog A S α}
    (henv : ∀ e s a s', C'.env e s a s' → C.env e s a s')
    (hcall : ∀ e s, C.atCall e s → C'.atCall e s)
    (hundef : ∀ s, C.atUndef s → C'.atUndef s)
    (h : p.Sat C Q) :
    p.Sat C' Q := by
  induction p with
  | done a s =>
      exact h
  | undef s =>
      exact hundef s h
  | call e s k ih =>
      exact ⟨hcall e s h.1, fun a s' ha => ih a s' (h.2 a s' (henv e s a s' ha))⟩

/-- One answer of the environment. -/
inductive Step (R : (e : E) → S → A e → S → Prop) :
    Prog A S α → Prog A S α → Prop
  | answer {e : E} {s s' : S} {a : A e} {k : A e → S → Prog A S α}
      (h : R e s a s') :
      Step R (.call e s k) (k a s')

/-- Points a running program can get to. -/
def Reaches (R : (e : E) → S → A e → S → Prop) :
    Prog A S α → Prog A S α → Prop :=
  Relation.ReflTransGen (Step R)

/-- What a contract asks of one point of a run. -/
def Meets (C : Contract A S) (Q : α → S → Prop) : Prog A S α → Prop
  | .done a s => Q a s
  | .undef s => C.atUndef s
  | .call e s _ => C.atCall e s

theorem Sat.meets
    {p : Prog A S α}
    (h : p.Sat C Q) :
    p.Meets C Q := by
  cases p with
  | done a s =>
      exact h
  | undef s =>
      exact h
  | call e s k =>
      exact h.1

theorem Sat.reaches
    {p q : Prog A S α}
    (h : p.Sat C Q)
    (hreach : Reaches C.env p q) :
    q.Sat C Q := by
  induction hreach with
  | refl =>
      exact h
  | tail _ hstep ih =>
      cases hstep with
      | answer henv =>
          exact ih.2 _ _ henv

/-- A running program that is never undefined, and whose calls are answered, gets to its end. -/
theorem Sat.exists_done
    {p : Prog A S α}
    (h : p.Sat C Q)
    (hanswer : ∀ e s, C.atCall e s → ∃ a s', C.env e s a s')
    (hundef : ∀ s, ¬C.atUndef s) :
    ∃ a s', Reaches C.env p (.done a s') := by
  induction p with
  | done a t =>
      exact ⟨a, t, .refl⟩
  | undef t =>
      exact absurd h (hundef t)
  | call e t k ih =>
      obtain ⟨b, t', hb⟩ := hanswer e t h.1
      obtain ⟨a, s', hreach⟩ := ih b t' (h.2 b t' hb)
      exact ⟨a, s', Relation.ReflTransGen.head (.answer hb) hreach⟩

/-- The weakest precondition speaks about exactly the points that are reached. -/
theorem sat_iff_reaches
    (p : Prog A S α) :
    p.Sat C Q ↔ ∀ q, Reaches C.env p q → q.Meets C Q := by
  constructor
  · intro h q hreach
    exact (h.reaches hreach).meets
  · intro h
    induction p with
    | done a s =>
        exact h _ .refl
    | undef s =>
        exact h _ .refl
    | call e s k ih =>
        refine ⟨h _ .refl, fun a s' henv => ih a s' fun q hreach => ?_⟩
        exact h q (Relation.ReflTransGen.head (.answer henv) hreach)

end Prog

namespace Program

variable {C : Contract A S}

/-- Weakest precondition of a program. -/
def Sat (C : Contract A S) (x : Program A S α) (Q : α → S → Prop) (s : S) : Prop :=
  (x s).Sat C Q

section Rules

variable {Q : α → S → Prop} {s : S}

@[simp] theorem sat_pure
    (a : α) :
    Sat C (pure a) Q s ↔ Q a s :=
  Iff.rfl

@[simp] theorem sat_bind
    (x : Program A S α)
    (f : α → Program A S β)
    (Q : β → S → Prop) :
    Sat C (x >>= f) Q s ↔ Sat C x (fun a s' => Sat C (f a) Q s') s :=
  Prog.sat_bind (x s) f Q

@[simp] theorem sat_getState
    (Q : S → S → Prop) :
    Sat C getState Q s ↔ Q s s :=
  Iff.rfl

@[simp] theorem sat_modifyState
    (f : S → S)
    (Q : Unit → S → Prop) :
    Sat C (modifyState f) Q s ↔ Q () (f s) :=
  Iff.rfl

@[simp] theorem sat_perform
    (e : E)
    (Q : A e → S → Prop) :
    Sat C (perform e) Q s ↔
      C.atCall e s ∧ ∀ a s', C.env e s a s' → Q a s' :=
  Iff.rfl

@[simp] theorem sat_undefined :
    Sat C (undefined : Program A S α) Q s ↔ C.atUndef s :=
  Iff.rfl

@[simp] theorem sat_ite
    (c : Prop) [Decidable c]
    (x y : Program A S α) :
    Sat C (if c then x else y) Q s ↔ if c then Sat C x Q s else Sat C y Q s := by
  split <;> rfl

theorem Sat.mono
    {x : Program A S α} {Q' : α → S → Prop}
    (h : Sat C x Q s)
    (hQ : ∀ a s', Q a s' → Q' a s') :
    Sat C x Q' s :=
  Prog.Sat.mono hQ h

/-- Two postconditions hold together. -/
theorem Sat.and
    {x : Program A S α} {Q' : α → S → Prop}
    (h : Sat C x Q s)
    (h' : Sat C x Q' s) :
    Sat C x (fun a s' => Q a s' ∧ Q' a s') s := by
  have key (p : Prog A S α) (hp : p.Sat C Q) (hp' : p.Sat C Q') :
      p.Sat C fun a s' => Q a s' ∧ Q' a s' := by
    induction p with
    | done a t =>
        exact ⟨hp, hp'⟩
    | undef t =>
        exact hp
    | call e t k ih =>
        exact ⟨hp.1, fun a t' henv => ih a t' (hp.2 a t' henv) (hp'.2 a t' henv)⟩
  exact key (x s) h h'

theorem sat_of_done
    {x : Program A S α} {a : α} {s' : S}
    (h : x s = .done a s') :
    Sat C x Q s ↔ Q a s' := by
  rw [Sat, h]
  rfl

/-- Composition, through what holds in between. -/
theorem Sat.bind
    {x : Program A S α} {f : α → Program A S β} {Q : β → S → Prop} {P : α → S → Prop}
    (h : Sat C x P s)
    (hf : ∀ a s', P a s' → Sat C (f a) Q s') :
    Sat C (x >>= f) Q s :=
  (sat_bind x f Q).mpr (h.mono hf)

end Rules

/-- The loop rule: the invariant speaks about the index reached so far. -/
theorem sat_forLoop
    {body : Nat → Program A S Unit} {Q : Unit → S → Prop}
    (Inv : Nat → S → Prop)
    {i count : Nat} {s : S}
    (hbody : ∀ j t, j < i + count → Inv j t → Sat C (body j) (fun _ => Inv (j + 1)) t)
    (hdone : ∀ t, Inv (i + count) t → Q () t)
    (h : Inv i s) :
    Sat C (forLoop body i count) Q s := by
  induction count generalizing i s with
  | zero =>
      exact hdone s h
  | succ count ih =>
      rw [forLoop, sat_bind]
      refine (hbody i s (by omega) h).mono fun _ t ht => ?_
      refine ih (fun j u hj hu => hbody j u (by omega) hu) (fun u hu => hdone u ?_) ht
      rwa [Nat.add_right_comm] at hu

section Leads

variable {P Q R : S → Prop}

/-- A program that leads from one predicate to another, wherever it is started. -/
def Leads (C : Contract A S) (P : S → Prop) (x : Program A S α) (Q : S → Prop) : Prop :=
  ∀ s, P s → Sat C x (fun _ s' => Q s') s

theorem leads_pure
    (a : α) :
    Leads C P (pure a) P :=
  fun _ h => h

theorem leads_bind
    {x : Program A S α} {f : α → Program A S β}
    (hx : Leads C P x Q)
    (hf : ∀ a, Leads C Q (f a) R) :
    Leads C P (x >>= f) R := by
  intro s h
  rw [sat_bind]
  exact (hx s h).mono fun a s' h' => hf a s' h'

theorem leads_ite
    {c : Prop} [Decidable c] {x y : Program A S α}
    (hx : Leads C P x Q)
    (hy : Leads C P y Q) :
    Leads C P (if c then x else y) Q := by
  split
  · exact hx
  · exact hy

end Leads

section Keeps

variable {P : S → Prop}

/-- A program that keeps a predicate, wherever it is started. -/
def Keeps (C : Contract A S) (P : S → Prop) (x : Program A S α) : Prop :=
  Leads C P x P

theorem Keeps.bind
    {x : Program A S α} {f : α → Program A S β} {Q : β → S → Prop}
    (hx : Keeps C P x)
    (hs : P s)
    (hf : ∀ a s', P s' → Sat C (f a) Q s') :
    Sat C (x >>= f) Q s :=
  Sat.bind (hx s hs) hf

theorem keeps_pure
    (a : α) :
    Keeps C P (pure a) :=
  fun _ h => h

theorem keeps_bind
    {x : Program A S α} {f : α → Program A S β}
    (hx : Keeps C P x)
    (hf : ∀ a, Keeps C P (f a)) :
    Keeps C P (x >>= f) :=
  leads_bind hx hf

theorem keeps_getState : Keeps C P getState :=
  fun _ h => h

theorem keeps_modifyState
    {f : S → S}
    (hf : ∀ s, P s → P (f s)) :
    Keeps C P (modifyState f) :=
  hf

theorem keeps_perform
    {e : E}
    (hcall : ∀ s, P s → C.atCall e s)
    (henv : ∀ s a s', P s → C.env e s a s' → P s') :
    Keeps C P (perform e) :=
  fun s h => ⟨hcall s h, fun a s' ha => henv s a s' h ha⟩

theorem keeps_undefined
    (hundef : ∀ s, P s → C.atUndef s) :
    Keeps C P (undefined : Program A S α) :=
  hundef

theorem keeps_ite
    {c : Prop} [Decidable c] {x y : Program A S α}
    (hx : Keeps C P x)
    (hy : Keeps C P y) :
    Keeps C P (if c then x else y) :=
  leads_ite hx hy

theorem keeps_forLoop
    {body : Nat → Program A S Unit} {i count : Nat}
    (hbody : ∀ j, Keeps C P (body j)) :
    Keeps C P (forLoop body i count) := by
  intro s h
  exact sat_forLoop (fun _ => P) (fun j t _ ht => hbody j t ht) (fun _ ht => ht) h

end Keeps

/-- A complete execution. -/
def Returns
    (R : (e : E) → S → A e → S → Prop)
    (x : Program A S α) (s : S) (a : α) (s' : S) : Prop :=
  Prog.Reaches R (x s) (.done a s')

/-- An execution that has stopped at a call. -/
def Waits
    (R : (e : E) → S → A e → S → Prop)
    (x : Program A S α) (s : S) (e : E) (s' : S) : Prop :=
  ∃ k, Prog.Reaches R (x s) (.call e s' k)

/-- The contract holds at every point of an execution it allows for. -/
theorem meets_of_sat
    {R : (e : E) → S → A e → S → Prop}
    {x : Program A S α} {Q : α → S → Prop} {s : S} {q : Prog A S α}
    (hR : ∀ e s a s', R e s a s' → C.env e s a s')
    (h : Sat C x Q s)
    (hreach : Prog.Reaches R (x s) q) :
    q.Meets C Q := by
  have hweak : (x s).Sat { C with env := R } Q :=
    Prog.Sat.weaken hR (fun _ _ h => h) (fun _ h => h) h
  have hmeets := (Prog.Sat.reaches hweak hreach).meets
  cases q with
  | done | undef | call =>
      exact hmeets

/-- A complete execution is one among more answers. -/
theorem Returns.mono
    {R R' : (e : E) → S → A e → S → Prop}
    {x : Program A S α} {s s' : S} {a : α}
    (h : Returns R x s a s')
    (hR : ∀ e s a s', R e s a s' → R' e s a s') :
    Returns R' x s a s' := by
  refine Relation.ReflTransGen.mono (fun p q hstep => ?_) _ _ h
  cases hstep with
  | answer hanswer =>
      exact .answer (hR _ _ _ _ hanswer)

/-- The postcondition holds after every complete execution that the contract allows for. -/
theorem returns_of_sat
    {R : (e : E) → S → A e → S → Prop}
    {x : Program A S α} {Q : α → S → Prop} {s s' : S} {a : α}
    (hR : ∀ e s a s', R e s a s' → C.env e s a s')
    (h : Sat C x Q s)
    (hreturns : Returns R x s a s') :
    Q a s' :=
  meets_of_sat hR h hreturns

section Execution

variable {R : (e : E) → S → A e → S → Prop} {s t : S} {a : α}

theorem bind_of_done
    {x : Program A S α}
    (h : x s = .done a t)
    (f : α → Program A S β) :
    (x >>= f) s = f a t := by
  show (x s).bind f = f a t
  rw [h]
  rfl

theorem bind_of_undef
    {x : Program A S α}
    (h : x s = .undef t)
    (f : α → Program A S β) :
    (x >>= f) s = .undef t := by
  show (x s).bind f = _
  rw [h]
  rfl

theorem bind_of_call
    {x : Program A S α} {e : E} {k : A e → S → Prog A S α}
    (h : x s = .call e t k)
    (f : α → Program A S β) :
    (x >>= f) s = .call e t fun a s' => (k a s').bind f := by
  show (x s).bind f = _
  rw [h]
  rfl

theorem returns_of_eq
    {x : Program A S α}
    (h : x s = .done a t) :
    Returns R x s a t := by
  rw [Returns, h]
  exact .refl

theorem returns_pure :
    Returns R (pure a) s a s :=
  .refl

theorem returns_perform
    {e : E} {a : A e}
    (h : R e s a t) :
    Returns R (perform e) s a t :=
  .single (.answer h)

/-- Executions are put together. -/
theorem Returns.bind
    {x : Program A S α} {f : α → Program A S β} {b : β} {u : S}
    (hx : Returns R x s a t)
    (hf : Returns R (f a) t b u) :
    Returns R (x >>= f) s b u := by
  have hreach (p : Prog A S α) (h : Prog.Reaches R p (.done a t)) :
      Prog.Reaches R (p.bind f) (f a t) := by
    induction h using Relation.ReflTransGen.head_induction_on with
    | refl =>
        exact .refl
    | head hstep _ ih =>
        cases hstep with
        | answer h =>
            exact .head (.answer h) ih
  exact (hreach (x s) hx).trans hf

end Execution

/-- The weakest precondition of the postcondition alone speaks about the complete
executions. -/
theorem sat_iff_returns
    {R : (e : E) → S → A e → S → Prop}
    {x : Program A S α} {Q : α → S → Prop} {s : S} :
    Sat { env := R, atCall := fun _ _ => True, atUndef := fun _ => True } x Q s ↔
      ∀ a s', Returns R x s a s' → Q a s' := by
  refine (Prog.sat_iff_reaches (x s)).trans ⟨fun h a s' hreach => h _ hreach, fun h q hq => ?_⟩
  cases q with
  | done a s' =>
      exact h a s' hq
  | undef s' =>
      trivial
  | call e s' k =>
      trivial

section Completion

variable {R : (e : E) → S → A e → S → Prop} {x : Program A S α} {Q : α → S → Prop} {s : S}

/-- From every point it gets to, whatever is answered, the program can go on to its end: it is
never undefined, and no call is left without an answer. -/
def Completes
    (R : (e : E) → S → A e → S → Prop)
    (x : Program A S α) (s : S) : Prop :=
  ∀ q, Prog.Reaches R (x s) q → ∃ a s', Prog.Reaches R q (.done a s')

/-- The contract of a program that gets to its end. -/
def completing (R : (e : E) → S → A e → S → Prop) : Contract A S where
  env := R
  atCall e s := ∃ a s', R e s a s'
  atUndef _ := False

theorem Completes.returns
    (h : Completes R x s) :
    ∃ a s', Returns R x s a s' :=
  h (x s) .refl

/-- A program that is never undefined, and whose calls are answered, gets to its end. -/
theorem completes_of_sat
    (hanswer : ∀ e s, C.atCall e s → ∃ a s', C.env e s a s')
    (hundef : ∀ s, ¬C.atUndef s)
    (h : Sat C x Q s) :
    Completes C.env x s :=
  fun _ hreach => Prog.Sat.exists_done (Prog.Sat.reaches h hreach) hanswer hundef

/-- The contract adds to the complete executions that there are no others. -/
theorem sat_completing_iff :
    Sat (completing R) x Q s ↔ Completes R x s ∧ ∀ a s', Returns R x s a s' → Q a s' := by
  constructor
  · intro h
    exact ⟨completes_of_sat (C := completing R) (fun _ _ hanswer => hanswer) (fun _ => id) h,
      fun a s' => returns_of_sat (fun _ _ _ _ henv => henv) h⟩
  · rintro ⟨hcompletes, hreturns⟩
    refine (Prog.sat_iff_reaches (x s)).mpr fun q hreach => ?_
    obtain ⟨a, s', hend⟩ := hcompletes q hreach
    cases q with
    | done b t =>
        exact hreturns b t hreach
    | undef t =>
        rcases hend.cases_head with hsame | ⟨_, hstep, _⟩
        · cases hsame
        · cases hstep
    | call e t k =>
        rcases hend.cases_head with hsame | ⟨_, hstep, _⟩
        · cases hsame
        · cases hstep with
          | answer hanswer =>
              exact ⟨_, _, hanswer⟩

theorem completes_iff_sat :
    Completes R x s ↔ Sat (completing R) x (fun _ _ => True) s := by
  rw [sat_completing_iff]
  exact (and_iff_left fun _ _ _ => trivial).symm

end Completion

/-- A program that neither calls nor finishes is undefined. -/
theorem undef_of_sat
    {x : Program A S α} {s : S}
    (hcall : ∀ e s, ¬C.atCall e s)
    (h : Sat C x (fun _ _ => False) s) :
    ∃ s', x s = .undef s' ∧ C.atUndef s' := by
  cases hx : x s with
  | done a t =>
      rw [Sat, hx] at h
      exact h.elim
  | undef t =>
      rw [Sat, hx] at h
      exact ⟨t, rfl, h⟩
  | call e t k =>
      rw [Sat, hx] at h
      exact absurd h.1 (hcall e t)

/-- A program that neither calls nor is undefined finishes at once. -/
theorem done_of_sat
    {x : Program A S α} {Q : α → S → Prop} {s : S}
    (hcall : ∀ e s, ¬C.atCall e s)
    (hundef : ∀ s, ¬C.atUndef s)
    (h : Sat C x Q s) :
    ∃ a s', x s = .done a s' ∧ Q a s' := by
  cases hx : x s with
  | done a t =>
      rw [Sat, hx] at h
      exact ⟨a, t, rfl, h⟩
  | undef t =>
      rw [Sat, hx] at h
      exact absurd h (hundef t)
  | call e t k =>
      rw [Sat, hx] at h
      exact absurd h.1 (hcall e t)

/-- The guarantee of the contract holds at every call of an execution it allows for. -/
theorem waits_of_sat
    {R : (e : E) → S → A e → S → Prop}
    {x : Program A S α} {Q : α → S → Prop} {s s' : S} {e : E}
    (hR : ∀ e s a s', R e s a s' → C.env e s a s')
    (h : Sat C x Q s)
    (hwaits : Waits R x s e s') :
    C.atCall e s' := by
  obtain ⟨k, hreach⟩ := hwaits
  exact meets_of_sat hR h hreach

end Program

section Traces

variable {R : (e : E) → S → A e → S → Prop}

/-- The calls of a complete execution. -/
inductive Prog.Trace (R : (e : E) → S → A e → S → Prop) : Prog A S α → List E → Prop
  | done
      {a : α} {s : S} :
      Trace R (.done a s) []
  | call
      {e : E} {s s' : S} {a : A e} {k : A e → S → Prog A S α} {es : List E}
      (h : R e s a s')
      (hk : Trace R (k a s') es) :
      Trace R (.call e s k) (e :: es)

@[simp] theorem Prog.trace_done
    {a : α} {s : S} {es : List E} :
    Trace R (.done a s : Prog A S α) es ↔ es = [] := by
  constructor
  · intro h
    cases h
    rfl
  · rintro rfl
    exact .done

/-- A program that makes one call, whatever the answer. -/
theorem Prog.trace_call_iff
    {e : E} {s : S} {k : A e → S → Prog A S α} {es : List E}
    (hanswer : ∃ a s', R e s a s')
    (hk : ∀ a s', R e s a s' → ∃ b t, k a s' = .done b t) :
    Trace R (.call e s k) es ↔ es = [e] := by
  constructor
  · intro h
    cases h with
    | @call _ _ s' a _ es ha hrest =>
        obtain ⟨b, t, hdone⟩ := hk a s' ha
        rw [hdone, trace_done] at hrest
        rw [hrest]
  · rintro rfl
    obtain ⟨a, s', ha⟩ := hanswer
    obtain ⟨b, t, hdone⟩ := hk a s' ha
    exact .call ha (hdone ▸ .done)

end Traces

section Execution

/-- Run with given answers; there is no result when the behaviour is undefined or an
answer is missing. -/
def Prog.run (answer : (e : E) → S → Option (A e × S)) : Prog A S α → Option (α × S)
  | .done a s => some (a, s)
  | .undef _ => none
  | .call e s k =>
      match answer e s with
      | some (a, s') => (k a s').run answer
      | none => none

theorem Prog.run_bind
    {answer : (e : E) → S → Option (A e × S)}
    (p : Prog A S α) (f : α → S → Prog A S β) :
    (p.bind f).run answer = (p.run answer).bind fun r => (f r.1 r.2).run answer := by
  induction p with
  | done a s =>
      rfl
  | undef s =>
      rfl
  | call e s k ih =>
      simp only [bind, run]
      split
      · exact ih _ _
      · rfl

/-- The run of a program that starts with another one. -/
theorem Program.run_bind_of_run
    {answer : (e : E) → S → Option (A e × S)}
    {x : Program A S α} {s s' : S} {a : α}
    (h : (x s).run answer = some (a, s'))
    (f : α → Program A S β) :
    ((x >>= f) s).run answer = (f a s').run answer := by
  exact (Prog.run_bind (x s) f).trans (congrArg (Option.bind · _) h)

/-- The point at which a run with given answers stops: at the end, or where there is no answer. -/
def Prog.stop (answer : (e : E) → S → Option (A e × S)) : Prog A S α → Prog A S α
  | .done a s => .done a s
  | .undef s => .undef s
  | .call e s k =>
      match answer e s with
      | some (a, s') => (k a s').stop answer
      | none => .call e s k

theorem Prog.reaches_stop
    {R : (e : E) → S → A e → S → Prop} {answer : (e : E) → S → Option (A e × S)}
    (hanswer : ∀ e s a s', answer e s = some (a, s') → R e s a s')
    (p : Prog A S α) :
    Reaches R p (p.stop answer) := by
  induction p with
  | done a s =>
      exact .refl
  | undef s =>
      exact .refl
  | call e s k ih =>
      rw [stop]
      split
      case h_1 a s' ha =>
        exact Relation.ReflTransGen.head (.answer (hanswer e s a s' ha)) (ih a s')
      case h_2 =>
        exact .refl

/-- The call at which a program stops first. -/
def Prog.firstCall : Prog A S α → Option (E × S)
  | .call e s _ => some (e, s)
  | _ => none

theorem Program.waits_of_firstCall
    {R : (e : E) → S → A e → S → Prop}
    {x : Program A S α} {s s' : S} {e : E}
    (h : (x s).firstCall = some (e, s')) :
    Waits R x s e s' := by
  cases hx : x s with
  | call e' t k =>
      rw [hx] at h
      obtain ⟨rfl, rfl⟩ := Prod.mk.inj (Option.some.inj h)
      exact ⟨k, hx ▸ .refl⟩
  | done | undef =>
      rw [hx] at h
      cases h

/-- Running a program computes one of its complete executions. -/
theorem Program.returns_of_run
    {R : (e : E) → S → A e → S → Prop} {answer : (e : E) → S → Option (A e × S)}
    (hanswer : ∀ e s a s', answer e s = some (a, s') → R e s a s')
    {x : Program A S α} {s s' : S} {a : α}
    (h : (x s).run answer = some (a, s')) :
    Returns R x s a s' := by
  have key (p : Prog A S α) (hp : p.run answer = some (a, s')) :
      Prog.Reaches R p (.done a s') := by
    induction p with
    | done b t =>
        obtain ⟨rfl, rfl⟩ := Prod.mk.inj (Option.some.inj hp)
        exact .refl
    | undef t =>
        cases hp
    | call e t k ih =>
        rw [Prog.run] at hp
        split at hp
        case h_1 b t' hb =>
          exact Relation.ReflTransGen.head (.answer (hanswer e t b t' hb)) (ih b t' hp)
        case h_2 =>
          cases hp
  exact key (x s) h

end Execution

section Nesting

open Program

variable {ι : Type}

/-- Calls during which entry points are re-entered, each to its end, to depth `n`.
A call that is not `blocking` leaves the state alone. -/
def Nest
    (entry : ι → Program A S Unit) (blocking : E → Prop) :
    Nat → (e : E) → S → A e → S → Prop
  | 0, _, s, _, s' => s' = s
  | n + 1, e, s, _, s' =>
      s' = s ∨
      blocking e ∧
        Relation.ReflTransGen
          (fun t t' => ∃ i, Returns (Nest entry blocking n) (entry i) t () t') s s'

theorem nest_of_eq
    {entry : ι → Program A S Unit} {blocking : E → Prop} {n : Nat} {e : E} {s s' : S} {a : A e}
    (h : s' = s) :
    Nest entry blocking n e s a s' := by
  cases n with
  | zero =>
      exact h
  | succ n =>
      exact Or.inl h

/-- Rely and guarantee for re-entered programs, for every depth at once. -/
theorem nest_guarantee
    (entry : ι → Program A S Unit) (blocking : E → Prop)
    (J : S → S → Prop)
    (hrefl : ∀ s, J s s)
    (htrans : ∀ s t u, J s t → J t u → J s u)
    (hentry : ∀ R : (e : E) → S → A e → S → Prop,
      (∀ e s a s', R e s a s' → J s s') →
      ∀ i s s', Returns R (entry i) s () s' → J s s')
    (n : Nat) :
    ∀ e s a s', Nest entry blocking n e s a s' → J s s' := by
  induction n with
  | zero =>
      intro e s a s' h
      cases h
      exact hrefl s
  | succ n ih =>
      intro e s a s' h
      rcases h with rfl | ⟨-, hrun⟩
      · exact hrefl _
      · induction hrun with
        | refl =>
            exact hrefl s
        | tail _ hstep ihrun =>
            obtain ⟨i, hret⟩ := hstep
            exact htrans _ _ _ ihrun (hentry _ ih i _ _ hret)

end Nesting

end Resumption
