import RbusCore.Lib.Resumption

/-!
# Re-entry under conditions

A program that waits can be re-entered through its entry points.  Which of them may be used
depends on the state: some are used only by callers that know what state the program is in.

**Results.**
* `nestWhen_env`: rely and guarantee for programs that are re-entered, for every depth at once.
* `RunWhen.invariant`: what holds between entries, and whenever an entry waits.
-/

namespace Resumption

section Reentry

variable {E : Type} {A : E → Type} {S ι : Type}

/-- Calls during which entry points are re-entered where they are allowed, each to its end, to
depth `n`.  A call that is not `blocking` leaves the state alone. -/
def NestWhen
    (entry : ι → Program A S Unit) (allowed : ι → S → Prop) (blocking : E → Prop) :
    Nat → (e : E) → S → A e → S → Prop
  | 0, _, s, _, s' => s' = s
  | n + 1, e, s, _, s' =>
      s' = s ∨
      blocking e ∧
        Relation.ReflTransGen
          (fun t t' => ∃ i, allowed i t ∧
            Program.Returns (NestWhen entry allowed blocking n) (entry i) t () t') s s'

/-- The states between entries, and those in which an entry waits. -/
inductive RunWhen
    (entry : ι → Program A S Unit) (allowed : ι → S → Prop) (blocking : E → Prop)
    (init : S → Prop) :
    S → Prop
  | start {s : S}
      (h : init s) :
      RunWhen entry allowed blocking init s
  | returns {n : Nat} {i : ι} {s s' : S}
      (h : RunWhen entry allowed blocking init s)
      (hallowed : allowed i s)
      (hreturns : Program.Returns (NestWhen entry allowed blocking n) (entry i) s () s') :
      RunWhen entry allowed blocking init s'
  | waits {n : Nat} {i : ι} {s s' : S} {e : E}
      (h : RunWhen entry allowed blocking init s)
      (hallowed : allowed i s)
      (hwaits : Program.Waits (NestWhen entry allowed blocking n) (entry i) s e s')
      (hblocking : blocking e) :
      RunWhen entry allowed blocking init s'

/-- Programs that wait only in states with `P`, and rely on everybody else for it. -/
def yielding (P : S → Prop) (blocking : E → Prop) : Contract A S where
  env e s _ s' := s' = s ∨ blocking e ∧ (P s → P s')
  atCall e s := blocking e → P s
  atUndef _ := True

variable {entry : ι → Program A S Unit} {allowed : ι → S → Prop} {blocking : E → Prop}
variable {C : Contract A S} {P : S → Prop}

/-- Entries that keep `P` make an environment that does. -/
theorem nestWhen_env
    (hsame : ∀ e s a, C.env e s a s)
    (hblocking : ∀ e s a s', blocking e → (P s → P s') → C.env e s a s')
    (hentry : ∀ i s, allowed i s → P s → Program.Sat C (entry i) (fun _ => P) s)
    (n : Nat) :
    ∀ e s a s', NestWhen entry allowed blocking n e s a s' → C.env e s a s' := by
  induction n with
  | zero =>
      rintro e s a s' rfl
      exact hsame e s' a
  | succ n ih =>
      rintro e s a s' (rfl | ⟨hb, hrun⟩)
      · exact hsame e s' a
      · refine hblocking e s a s' hb fun hs => ?_
        induction hrun with
        | refl =>
            exact hs
        | tail _ hstep ihrun =>
            obtain ⟨i, hallowed, hreturns⟩ := hstep
            exact Program.returns_of_sat ih (hentry i _ hallowed ihrun) hreturns

theorem yielding_of_nestWhen
    (hentry : ∀ i s, allowed i s → P s →
      Program.Sat (yielding P blocking) (entry i) (fun _ => P) s)
    (n : Nat) (e : E) (s : S) (a : A e) (s' : S)
    (h : NestWhen entry allowed blocking n e s a s') :
    (yielding P blocking).env e s a s' :=
  nestWhen_env (P := P) (fun _ _ _ => Or.inl rfl) (fun _ _ _ _ hb hP => Or.inr ⟨hb, hP⟩)
    hentry n e s a s' h

/-- What all entries keep, and establish whenever they wait, holds in every run. -/
theorem RunWhen.invariant
    {init : S → Prop} {s : S}
    (hinit : ∀ s, init s → P s)
    (hentry : ∀ i s, allowed i s → P s →
      Program.Sat (yielding P blocking) (entry i) (fun _ => P) s)
    (h : RunWhen entry allowed blocking init s) :
    P s := by
  induction h with
  | start h =>
      exact hinit _ h
  | @returns n i s s' _ hallowed hreturns ih =>
      exact Program.returns_of_sat (yielding_of_nestWhen hentry n) (hentry i s hallowed ih)
        hreturns
  | @waits n i s s' e _ hallowed hwaits hblocking ih =>
      exact Program.waits_of_sat (yielding_of_nestWhen hentry n) (hentry i s hallowed ih) hwaits
        hblocking

end Reentry

end Resumption
