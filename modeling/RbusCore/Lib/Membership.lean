import Mathlib.Data.List.Chain
import Mathlib.Data.List.Nodup
import Mathlib.Tactic.Common

/-!
# Requests to join and to leave

A list of members that is changed by requests: who joins is put behind the others, unless it
is a member already, and who leaves is taken out.  The requests that change the list take
effect; the others are repetitions.

**Results.**
* `nodup_members`, `mem_members_iff`: nobody is a member twice, and the members are those whose
  latest request was to join.
* `alternates_effective`: the requests of one party that take effect join and leave in turn,
  starting with a join, and the last of them says whether the party is a member.
-/

namespace Membership

variable {α : Type} [DecidableEq α]

/-- The members after a request. -/
def change (members : List α) (request : α × Bool) : List α :=
  if request.2 then
    if request.1 ∈ members then members else members ++ [request.1]
  else members.erase request.1

/-- The members after some requests. -/
def members (requests : List (α × Bool)) : List α :=
  requests.foldl change []

/-- A member leaves, or somebody else joins. -/
def TakesEffect (members : List α) (request : α × Bool) : Prop :=
  request.1 ∈ members ↔ request.2 = false

instance (members : List α) (request : α × Bool) : Decidable (TakesEffect members request) :=
  inferInstanceAs (Decidable (_ ↔ _))

/-- The requests that take effect, from these members on. -/
def effectiveFrom (members : List α) : List (α × Bool) → List (α × Bool)
  | [] => []
  | request :: requests =>
      if TakesEffect members request then
        request :: effectiveFrom (change members request) requests
      else effectiveFrom (change members request) requests

/-- The requests that take effect. -/
def effective (requests : List (α × Bool)) : List (α × Bool) :=
  effectiveFrom [] requests

/-- The requests of one party. -/
def requestsOf (x : α) (requests : List (α × Bool)) : List Bool :=
  (requests.filter fun request => request.1 = x).map Prod.snd

/-- Joins and leaves in turn, starting with a join. -/
def Alternates (steps : List Bool) : Prop :=
  steps.head? ≠ some false ∧ steps.IsChain (· ≠ ·)

section Requests

variable {x : α} {requests : List (α × Bool)} {request : α × Bool}

theorem members_concat
    (requests : List (α × Bool)) (request : α × Bool) :
    members (requests ++ [request]) = change (members requests) request := by
  rw [members, List.foldl_append]
  rfl

theorem effectiveFrom_append
    (ms : List α) (first second : List (α × Bool)) :
    effectiveFrom ms (first ++ second) =
      effectiveFrom ms first ++ effectiveFrom (first.foldl change ms) second := by
  induction first generalizing ms with
  | nil =>
      rfl
  | cons request first ih =>
      rw [List.cons_append, effectiveFrom, effectiveFrom, ih, List.foldl_cons]
      split <;> rfl

theorem effective_concat
    (requests : List (α × Bool)) (request : α × Bool) :
    effective (requests ++ [request]) =
      if TakesEffect (members requests) request then effective requests ++ [request]
      else effective requests := by
  rw [effective, effectiveFrom_append]
  show effectiveFrom [] requests ++
    (if TakesEffect (members requests) request then [request] else []) = _
  split
  · rfl
  · exact List.append_nil _

theorem requestsOf_concat
    (x : α) (requests : List (α × Bool)) (request : α × Bool) :
    requestsOf x (requests ++ [request]) =
      if request.1 = x then requestsOf x requests ++ [request.2] else requestsOf x requests := by
  rw [requestsOf, List.filter_append, List.filter_singleton]
  by_cases h : request.1 = x <;> simp [requestsOf, h]

theorem change_of_joins
    {ms : List α}
    (h : x ∉ ms) :
    change ms (x, true) = ms ++ [x] :=
  if_neg h

/-- A repetition changes nothing. -/
theorem change_of_not_takesEffect
    {ms : List α}
    (h : ¬TakesEffect ms request) :
    change ms request = ms := by
  obtain ⟨y, join⟩ := request
  cases join with
  | true =>
      have hmember : y ∈ ms := by simpa [TakesEffect] using h
      exact if_pos hmember
  | false =>
      have hother : y ∉ ms := by simpa [TakesEffect] using h
      exact List.erase_of_not_mem hother

/-- Nobody becomes a member twice. -/
theorem nodup_change
    {ms : List α}
    (h : ms.Nodup)
    (request : α × Bool) :
    (change ms request).Nodup := by
  rw [change]
  split
  · split
    case isTrue =>
      exact h
    case isFalse hnew =>
      exact h.append (List.nodup_singleton _) (List.disjoint_singleton.mpr hnew)
  · exact h.erase _

theorem nodup_members
    (requests : List (α × Bool)) :
    (members requests).Nodup := by
  induction requests using List.reverseRecOn with
  | nil =>
      exact List.nodup_nil
  | append_singleton requests request ih =>
      rw [members_concat]
      exact nodup_change ih request

/-- A request says for its own party, and for nobody else, whether it is a member. -/
theorem mem_change_iff
    {ms : List α}
    (h : ms.Nodup)
    (request : α × Bool) :
    x ∈ change ms request ↔ if request.1 = x then request.2 = true else x ∈ ms := by
  obtain ⟨y, join⟩ := request
  cases join with
  | true =>
      by_cases hy : y ∈ ms
      · by_cases hx : y = x
        · subst hx
          simp [change, hy]
        · simp [change, hy, hx]
      · by_cases hx : y = x
        · subst hx
          simp [change, hy]
        · simp [change, hy, hx, Ne.symm hx]
  | false =>
      by_cases hx : y = x
      · subst hx
        simp [change, h.not_mem_erase]
      · simp [change, h.mem_erase_iff, hx, Ne.symm hx]

/-- The members are those whose latest request was to join. -/
theorem mem_members_iff
    (x : α) (requests : List (α × Bool)) :
    x ∈ members requests ↔ (requestsOf x requests).getLast? = some true := by
  induction requests using List.reverseRecOn with
  | nil =>
      simp [members, requestsOf]
  | append_singleton requests request ih =>
      rw [members_concat, mem_change_iff (nodup_members requests), requestsOf_concat]
      split
      · simp
      · exact ih

theorem alternates_nil : Alternates [] :=
  ⟨by simp, List.isChain_nil⟩

/-- One more step, unlike the last one. -/
theorem Alternates.concat
    {steps : List Bool} {step : Bool}
    (h : Alternates steps)
    (hstep : steps.getLast? = some true ↔ step = false) :
    Alternates (steps ++ [step]) := by
  cases hlast : steps.getLast? with
  | none =>
      obtain rfl := List.getLast?_eq_none_iff.mp hlast
      have htrue : step = true := by simpa using hstep
      subst htrue
      exact ⟨by simp, List.isChain_singleton _⟩
  | some last =>
      have hne : last ≠ step := by
        rw [hlast] at hstep
        cases last <;> cases step <;> simp_all
      have hnil : steps ≠ [] := by
        rintro rfl
        cases hlast
      refine ⟨?_, h.2.append (List.isChain_singleton _) ?_⟩
      · rw [List.head?_append_of_ne_nil _ hnil]
        exact h.1
      · simp [hlast, hne]

/-- The requests of a party that take effect join and leave in turn, starting with a join, and
the last of them says whether the party is a member. -/
theorem alternates_effective
    (x : α) (requests : List (α × Bool)) :
    Alternates (requestsOf x (effective requests)) ∧
      (x ∈ members requests ↔
        (requestsOf x (effective requests)).getLast? = some true) := by
  induction requests using List.reverseRecOn with
  | nil =>
      exact ⟨alternates_nil, by simp [members, effective, effectiveFrom, requestsOf]⟩
  | append_singleton requests request ih =>
      obtain ⟨halternates, hmember⟩ := ih
      rw [members_concat, effective_concat, mem_change_iff (nodup_members requests)]
      by_cases hx : request.1 = x
      · subst hx
        by_cases heffect : TakesEffect (members requests) request
        · rw [if_pos heffect, requestsOf_concat, if_pos rfl, if_pos rfl]
          exact ⟨halternates.concat (hmember.symm.trans heffect), by simp⟩
        · rw [if_neg heffect, if_pos rfl, ← hmember]
          refine ⟨halternates, ?_⟩
          cases hjoin : request.2 <;> simp_all [TakesEffect]
      · rw [if_neg hx]
        split
        · rw [requestsOf_concat, if_neg hx]
          exact ⟨halternates, hmember⟩
        · exact ⟨halternates, hmember⟩

end Requests

end Membership
