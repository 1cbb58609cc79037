import Mathlib.Data.List.Basic
import Mathlib.Tactic.Common

/-!
# Channels that may lose messages

Messages are numbered in the order in which they are sent.  They arrive in this order, each of
them at most once; messages may be lost at any time.

**Results.**
* `InOrder.send`, `InOrder.receive`, `InOrder.lose`: what has arrived, and behind it what is in
  flight, is in the order of the numbers.
* `InOrder.latest_received`: once the latest message has arrived, nothing is in flight, and it
  was the last one to arrive.
-/

/-- The number of messages sent, and those that are in flight and that have arrived. -/
structure Channel (α : Type) where
  sent : Nat
  inFlight : List (Nat × α)
  received : List (Nat × α)

namespace Channel

variable {α : Type}

/-- A channel before its first message. -/
def unused : Channel α where
  sent := 0
  inFlight := []
  received := []

/-- A message is sent. -/
def send (c : Channel α) (a : α) : Channel α where
  sent := c.sent + 1
  inFlight := c.inFlight ++ [(c.sent, a)]
  received := c.received

/-- A message arrives, and the others in flight are left. -/
def receive (c : Channel α) (m : Nat × α) (rest : List (Nat × α)) : Channel α where
  sent := c.sent
  inFlight := rest
  received := c.received ++ [m]

/-- Only these messages in flight are not lost. -/
def keep (c : Channel α) (left : List (Nat × α)) : Channel α where
  sent := c.sent
  inFlight := left
  received := c.received

/-- The messages that are not lost, in the order in which they arrive. -/
def messages (c : Channel α) : List (Nat × α) :=
  c.received ++ c.inFlight

/-- The numbers increase, up to the number of messages sent. -/
structure InOrder (c : Channel α) : Prop where
  increasing : c.messages.Pairwise fun m m' => m.1 < m'.1
  sent : ∀ m ∈ c.messages, m.1 < c.sent

variable {c : Channel α} {m : Nat × α} {rest left : List (Nat × α)}

theorem messages_send
    (c : Channel α) (a : α) :
    (c.send a).messages = c.messages ++ [(c.sent, a)] :=
  (List.append_assoc _ _ _).symm

theorem messages_receive
    (h : c.inFlight = m :: rest) :
    (c.receive m rest).messages = c.messages := by
  rw [messages, messages, receive, h, List.append_assoc]
  rfl

theorem messages_keep_sublist
    (h : left.Sublist c.inFlight) :
    (c.keep left).messages.Sublist c.messages :=
  h.append_left c.received

theorem inOrder_unused : InOrder (unused : Channel α) where
  increasing := List.Pairwise.nil
  sent := fun _ hm => absurd hm List.not_mem_nil

theorem InOrder.send
    (h : InOrder c)
    (a : α) :
    InOrder (c.send a) := by
  constructor
  · rw [messages_send, List.pairwise_append]
    refine ⟨h.increasing, List.pairwise_singleton _ _, fun m hm m' hm' => ?_⟩
    obtain rfl := List.mem_singleton.mp hm'
    exact h.sent m hm
  · intro m hm
    rw [messages_send] at hm
    rcases List.mem_append.mp hm with hold | hnew
    · exact Nat.lt_succ_of_lt (h.sent m hold)
    · obtain rfl := List.mem_singleton.mp hnew
      exact Nat.lt_succ_self c.sent

theorem InOrder.receive
    (h : InOrder c)
    (hfirst : c.inFlight = m :: rest) :
    InOrder (c.receive m rest) := by
  constructor
  · rw [messages_receive hfirst]
    exact h.increasing
  · rw [messages_receive hfirst]
    exact h.sent

theorem InOrder.lose
    (h : InOrder c)
    (hleft : left.Sublist c.inFlight) :
    InOrder (c.keep left) :=
  ⟨h.increasing.sublist (messages_keep_sublist hleft),
    fun m hm => h.sent m ((messages_keep_sublist hleft).subset hm)⟩

/-- Nothing arrives or is in flight behind the latest message. -/
theorem InOrder.getLast?_eq
    (h : InOrder c)
    (hm : m ∈ c.messages)
    (hlatest : m.1 + 1 = c.sent) :
    c.messages.getLast? = some m := by
  obtain ⟨before, after, hsplit⟩ := List.append_of_mem hm
  have hafter : after = [] := by
    refine List.eq_nil_iff_forall_not_mem.mpr fun m' hm' => ?_
    have hincreasing := h.increasing
    rw [hsplit, List.pairwise_append] at hincreasing
    have hbehind : m.1 < m'.1 := List.rel_of_pairwise_cons hincreasing.2.1 hm'
    have hsent : m'.1 < c.sent := by
      refine h.sent m' ?_
      rw [hsplit]
      exact List.mem_append_right _ (List.mem_cons_of_mem _ hm')
    omega
  rw [hsplit, hafter, List.getLast?_append_cons]
  rfl

/-- Once the latest message has arrived, there is nothing else that can arrive. -/
theorem InOrder.latest_received
    (h : InOrder c)
    (hm : m ∈ c.received)
    (hlatest : m.1 + 1 = c.sent) :
    c.inFlight = [] ∧ c.received.getLast? = some m := by
  have hlast := h.getLast?_eq (List.mem_append_left _ hm) hlatest
  have hnone : c.inFlight = [] := by
    refine List.eq_nil_iff_forall_not_mem.mpr fun m' hm' => ?_
    have hincreasing := h.increasing
    rw [messages, List.pairwise_append] at hincreasing
    have hbehind := hincreasing.2.2 m hm m' hm'
    have hsent := h.sent m' (List.mem_append_right _ hm')
    omega
  rw [messages, hnone, List.append_nil] at hlast
  exact ⟨hnone, hlast⟩

end Channel
