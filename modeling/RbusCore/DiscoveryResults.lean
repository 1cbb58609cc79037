import RbusCore.Discovery

/-!
# What a discovery returns

The results of the discovery functions, for every reply of the router and every outcome of
the allocations.

**Results.**
* `run_copyStrings`: the loop over the items of a reply.
* `discovery_complete_iff`: when a discovery that succeeds hands out all items, alive.
* `discoverElementsObjects_complete_iff`: when no route of several elements is lost.
-/

namespace RbusCore

open CStrings Resumption

section Outcomes

variable {M W : Type}

/-- What the outside answers during a discovery: the reply of the router, and which of the
allocations, counted from the start of the discovery, succeed. -/
structure DiscoveryOutcome where
  reply : Except RtError DiscoveryReply
  allocated : Nat → Bool
  copied : Nat → Bool

/-- A call of `rt_try_malloc` or `rt_try_realloc`. -/
def Event.isAllocation : Event M W → Bool
  | .call (.tryMalloc _) => true
  | _ => false

/-- A call of `strndup`. -/
def Event.isCopy : Event M W → Bool
  | .call (.strndup _) => true
  | _ => false

/-- How many arrays the process has asked for so far. -/
def World.allocations (w : World M W) : Nat := w.log.countP Event.isAllocation

/-- How many strings the process has copied so far. -/
def World.copies (w : World M W) : Nat := w.log.countP Event.isCopy

/-- The answers to the calls of a discovery that was started in `w₀`. -/
def DiscoveryOutcome.answer (o : DiscoveryOutcome) (w₀ : World M W) :
    (e : Call M W) → World M W → Option (e.Answer × World M W)
  | .sendRequest .., w => some (o.reply, w)
  -- the call itself is already part of the history
  | .tryMalloc _, w => some (o.allocated (w.allocations - w₀.allocations - 1), w)
  | .strndup _, w => some (o.copied (w.copies - w₀.copies - 1), w)
  | _, _ => none

/-- What a discovery returns, if its behaviour is defined. -/
def DiscoveryOutcome.discover
    (o : DiscoveryOutcome) (x : CoreM M W DiscoveryResult) (w : World M W) :
    Option DiscoveryResult :=
  ((x w).run (o.answer w)).map Prod.fst

/-- The items of a reply, `none` where one cannot be read. -/
def DiscoveryReply.itemList (reply : DiscoveryReply) : List (Option CString) :=
  (List.range (reply.arrayLength.getD 0).toNat).map fun i : Nat => reply.items i

/-- What is asked of the result of a discovery: success is returned with an array of all items
and their number; otherwise no array is left. -/
def CompleteAndLive (reply : Except RtError DiscoveryReply) : Option DiscoveryResult → Prop
  | none => False
  | some r =>
      if r.ret = .success then
        ∃ rsp copies, reply = .ok rsp ∧ r.array = .strings copies ∧
          r.count = some (copies.length : Int) ∧
          copies.map some = rsp.itemList.map (Option.map (takeChars maxObjectNameLength))
      else r.array = .unset ∨ r.array = .freed

/-- The discovery functions that copy the items of a reply one by one. -/
inductive DiscoveryFunction where
  | wildcardDestinations (expression : Option CString)
  | objectElements (object : Option CString)
  | elementObjects (element : Option CString)
  | registeredComponents
deriving DecidableEq

/-- The function of the library. -/
def DiscoveryFunction.program : DiscoveryFunction → CoreM M W DiscoveryResult
  | .wildcardDestinations expression => rbusDiscoverWildcardDestinations expression
  | .objectElements object => rbusDiscoverObjectElements object
  | .elementObjects element => rbusDiscoverElementObjects element
  | .registeredComponents => rbusDiscoverRegisteredComponents

/-- The first `n` items of a reply are read and copied, into an array that is allocated. -/
def DiscoveryOutcome.Copies (o : DiscoveryOutcome) (reply : DiscoveryReply) (n : Nat) : Prop :=
  o.allocated 0 = true ∧ ∀ i < n, (reply.items i).isSome ∧ o.copied i = true

/-- The count and the number of the items of a reply agree, and all items are copied.  Not even
a negative number of items would clear more memory than the array has. -/
def DiscoveryOutcome.CopiesAll (o : DiscoveryOutcome) (reply : DiscoveryReply) : Prop :=
  ∃ (n : Nat) (length : Int), reply.count = some (n : Int) ∧ reply.arrayLength = some length ∧
    length.toNat = n ∧ pointerBytes length ≤ pointerBytes n ∧ o.Copies reply n

/-- When a discovery function meets its promise: it does not get a reply, or it gets an error
it looks at, or it can copy all items; and `rbus_discoverElementObjects` meets it also when it
cannot copy as many items as are counted. -/
def DiscoveryFunction.Served
    (f : DiscoveryFunction) (connected : Bool) (o : DiscoveryOutcome) : Prop :=
  ∀ reply, o.reply = .ok reply →
    match f with
    | .wildcardDestinations expression =>
        connected = true → expression.isSome → reply.result = some 0 →
          reply.count ≠ some 0 ∧ o.CopiesAll reply
    | .objectElements object => connected = true → object.isSome → o.CopiesAll reply
    | .elementObjects element =>
        element.isSome → reply.result = some 0 → o.Copies reply (reply.count.getD 0).toNat →
          0 ≤ reply.count.getD 0 ∧
            (reply.count.getD 0).toNat = (reply.arrayLength.getD 0).toNat
    | .registeredComponents => connected = true → o.CopiesAll reply

end Outcomes

section Loop

variable {M W : Type} {w w₀ : World M W} {o : DiscoveryOutcome}

theorem run_strndupName
    {k : Nat}
    (hk : w.copies = w₀.copies + k)
    (value : CString) :
    ∃ w', (strndupName value w).run (o.answer w₀) =
        some (if o.copied k then some (takeChars maxObjectNameLength value) else none, w') ∧
      w'.copies = w₀.copies + (k + 1) := by
  have hcopies : ({ w with log := w.log ++ [.call (.strndup value)] } : World M W).copies =
      w₀.copies + (k + 1) := by
    simp only [World.copies] at hk
    simp [World.copies, Event.isCopy, hk, Nat.add_assoc]
  refine ⟨_, ?_, hcopies⟩
  have hindex : w₀.copies + (k + 1) - w₀.copies - 1 = k := by omega
  simp only [strndupName, call, record, bind, Program.modifyState, Program.perform, Prog.bind,
    Prog.run, DiscoveryOutcome.answer, hcopies, hindex]
  rfl

/-- The strings of so many items, from index `i` on, when these can be read and the copies
from number `k` on succeed. -/
def DiscoveryOutcome.CopiesFrom
    (o : DiscoveryOutcome) (items : Int → Option CString) (i : Int) (k count : Nat)
    (copies : List CString) : Prop :=
  (∀ j < count, o.copied (k + j) = true) ∧
    copies.map some =
      (List.range count).map fun j : Nat => (items (i + j)).map (takeChars maxObjectNameLength)

theorem copiesFrom_zero
    (items : Int → Option CString) (i : Int) (k : Nat) (copies : List CString) :
    o.CopiesFrom items i k 0 copies ↔ copies = [] := by
  simp [DiscoveryOutcome.CopiesFrom]

theorem copiesFrom_succ
    (items : Int → Option CString) (i : Int) (k count : Nat) (copies : List CString) :
    o.CopiesFrom items i k (count + 1) copies ↔
      o.copied k = true ∧ ∃ value rest, items i = some value ∧
        copies = takeChars maxObjectNameLength value :: rest ∧
        o.CopiesFrom items (i + 1) (k + 1) count rest := by
  have hcopied : (∀ j < count + 1, o.copied (k + j) = true) ↔
      o.copied k = true ∧ ∀ j < count, o.copied (k + 1 + j) = true := by
    rw [Nat.forall_lt_succ_left]
    simp only [Nat.add_zero, ← Nat.add_assoc, Nat.add_right_comm k]
  have hitems : (List.range (count + 1)).map
        (fun j : Nat => (items (i + j)).map (takeChars maxObjectNameLength)) =
      (items i).map (takeChars maxObjectNameLength) ::
        (List.range count).map fun j : Nat =>
          (items (i + 1 + j)).map (takeChars maxObjectNameLength) := by
    rw [List.range_succ_eq_map, List.map_cons, List.map_map]
    congr 2
    · exact congrArg items (Int.add_zero i)
    · funext j
      exact congrArg (fun n => (items n).map (takeChars maxObjectNameLength)) (by grind)
  rw [DiscoveryOutcome.CopiesFrom, hcopied, hitems]
  constructor
  · rintro ⟨⟨hfirst, hothers⟩, hmap⟩
    cases copies with
    | nil =>
        cases hmap
    | cons copy rest =>
        obtain ⟨hcopy, hrest⟩ := List.cons.inj hmap
        obtain ⟨value, hvalue, rfl⟩ := Option.map_eq_some_iff.mp hcopy.symm
        exact ⟨hfirst, value, rest, hvalue, rfl, hothers, hrest⟩
  · rintro ⟨hfirst, value, rest, hvalue, rfl, hothers, hrest⟩
    exact ⟨⟨hfirst, hothers⟩, by simp only [List.map_cons, hvalue, Option.map_some, hrest]⟩

/-- The loop copies all strings, or it ends at the first that it cannot read or copy. -/
theorem run_copyStrings
    {k : Nat}
    (hk : w.copies = w₀.copies + k)
    (items : Int → Option CString) (i : Int) (count : Nat) :
    ∃ r w', (copyStrings items i count w).run (o.answer w₀) = some (r, w') ∧
      ∀ copies, r = some copies ↔ o.CopiesFrom items i k count copies := by
  induction count generalizing i k w with
  | zero =>
      refine ⟨some [], w, rfl, fun copies => ?_⟩
      rw [copiesFrom_zero, Option.some.injEq, eq_comm]
  | succ count ih =>
      unfold copyStrings
      cases hitem : items i with
      | none =>
          exact ⟨none, w, rfl, fun copies => by simp [copiesFrom_succ, hitem]⟩
      | some value =>
          obtain ⟨w', hrun, hk'⟩ := run_strndupName (o := o) hk value
          cases hcopied : o.copied k with
          | false =>
              refine ⟨none, w', ?_, fun copies => by simp [copiesFrom_succ, hcopied]⟩
              simp only [Program.run_bind_of_run hrun, hcopied]
              rfl
          | true =>
              obtain ⟨r, w'', hrest, hr⟩ := ih hk' (i + 1)
              refine ⟨r.map (takeChars maxObjectNameLength value :: ·), w'', ?_, fun copies => ?_⟩
              · simp only [Program.run_bind_of_run hrun, hcopied]
                exact Program.run_bind_of_run hrest _
              · simp only [copiesFrom_succ, hcopied, hitem, ← hr, true_and, Option.some.injEq,
                  Option.map_eq_some_iff]
                constructor
                · rintro ⟨rest, hsome, rfl⟩
                  exact ⟨value, rest, rfl, rfl, hsome⟩
                · rintro ⟨_, rest, rfl, rfl, hsome⟩
                  exact ⟨rest, hsome, rfl⟩

/-- There is as a copy of each item when all are read and copied. -/
theorem exists_copiesFrom_iff
    (items : Int → Option CString) (n : Nat) :
    (∃ copies, o.CopiesFrom items 0 0 n copies) ↔
      ∀ i < n, (items i).isSome ∧ o.copied i = true := by
  simp only [DiscoveryOutcome.CopiesFrom, Nat.zero_add, Int.zero_add]
  constructor
  · rintro ⟨copies, hcopied, hmap⟩ i hi
    refine ⟨?_, hcopied i hi⟩
    have hmem : (items i).map (takeChars maxObjectNameLength) ∈ copies.map some :=
      hmap ▸ List.mem_map.mpr ⟨i, List.mem_range.mpr hi, rfl⟩
    obtain ⟨copy, -, hcopy⟩ := List.mem_map.mp hmem
    cases hitem : items i with
    | none =>
        rw [hitem] at hcopy
        cases hcopy
    | some value =>
        rfl
  · intro h
    refine ⟨(List.range n).map fun i : Nat =>
        ((items i).map (takeChars maxObjectNameLength)).getD .empty, fun i hi => (h i hi).2, ?_⟩
    rw [List.map_map]
    refine List.map_congr_left fun i hi => ?_
    obtain ⟨value, hvalue⟩ := Option.isSome_iff_exists.mp (h i (List.mem_range.mp hi)).1
    simp [hvalue]

/-- The ways to copy the items of a reply. -/
inductive CopyOutcome
    (o : DiscoveryOutcome) (items : Int → Option CString) (size length : Int) :
    Option (RbusError × DiscoveredArray) → Prop
  | noMemory (h : o.allocated 0 = false) :
      CopyOutcome o items size length (some (.errorInsufficientMemory, .unset))
  | overflow (h : o.allocated 0 = true) (hsize : pointerBytes size < pointerBytes length) :
      CopyOutcome o items size length none
  | copied
      {copies : List CString}
      (h : o.allocated 0 = true) (hsize : pointerBytes length ≤ pointerBytes size)
      (hcopies : o.CopiesFrom items 0 0 length.toNat copies) :
      CopyOutcome o items size length (some (.success, .strings copies))
  | freed
      (h : o.allocated 0 = true)
      (hfail : ¬∃ copies, o.CopiesFrom items 0 0 length.toNat copies) :
      CopyOutcome o items size length (some (.errorGeneral, .freed))

theorem run_tryMalloc
    (hallocations : w.allocations = w₀.allocations)
    (hcopies : w.copies = w₀.copies)
    (size : Int) :
    ∃ w', (call (.tryMalloc size) w).run (o.answer w₀) = some (o.allocated 0, w') ∧
      w'.copies = w₀.copies := by
  have hcount : ({ w with log := w.log ++ [.call (.tryMalloc size)] } : World M W).allocations =
      w₀.allocations + 1 := by
    simp only [World.allocations] at hallocations
    simp [World.allocations, Event.isAllocation, hallocations]
  refine ⟨{ w with log := w.log ++ [.call (.tryMalloc size)] }, ?_, ?_⟩
  · have hindex : w₀.allocations + 1 - w₀.allocations - 1 = 0 := by omega
    simp only [call, record, bind, Program.modifyState, Program.perform, Prog.bind, Prog.run,
      DiscoveryOutcome.answer, hcount, hindex]
  · simp only [World.copies] at hcopies
    simp [World.copies, Event.isCopy, hcopies]

/-- The array of the copies: the loop is entered only with memory for all of them. -/
theorem run_copyArray
    (hallocations : w.allocations = w₀.allocations)
    (hcopies : w.copies = w₀.copies)
    (items : Int → Option CString) (size length : Int) :
    CopyOutcome o items size length
      (((copyArray items size length w).run (o.answer w₀)).map Prod.fst) := by
  obtain ⟨w', hrun, hcopies'⟩ :=
    run_tryMalloc (o := o) hallocations hcopies (pointerBytes size)
  unfold copyArray
  rw [Program.run_bind_of_run hrun]
  cases hallocated : o.allocated 0 with
  | false =>
      exact .noMemory hallocated
  | true =>
      by_cases hsize : pointerBytes size < pointerBytes length
      · rw [if_pos rfl, if_pos hsize]
        exact .overflow hallocated hsize
      · rw [if_pos rfl, if_neg hsize]
        obtain ⟨r, w'', hloop, hr⟩ := run_copyStrings (o := o) (k := 0) hcopies' items 0 length.toNat
        rw [Program.run_bind_of_run hloop]
        cases r with
        | some copies =>
            exact .copied hallocated (Nat.not_lt.mp hsize) ((hr copies).mp rfl)
        | none =>
            refine .freed hallocated ?_
            rintro ⟨copies, hall⟩
            cases (hr copies).mpr hall

end Loop

section Functions

variable {M W : Type} {w w₀ : World M W} {o : DiscoveryOutcome}

/-- What is copied is complete when as many items are copied as there are. -/
theorem DiscoveryOutcome.CopiesFrom.complete_iff
    {reply : DiscoveryReply} {n : Nat} {count : Int} {copies : List CString}
    (hcopies : o.CopiesFrom reply.items 0 0 n copies) :
    CompleteAndLive (.ok reply) (some ⟨.success, some count, .strings copies⟩) ↔
      count = n ∧ n = (reply.arrayLength.getD 0).toNat := by
  have hmap := hcopies.2
  simp only [Int.zero_add] at hmap
  have hlength : copies.length = n := by
    simpa using congrArg List.length hmap
  have hitems : reply.itemList.map (Option.map (takeChars maxObjectNameLength)) =
      (List.range (reply.arrayLength.getD 0).toNat).map fun i : Nat =>
        (reply.items i).map (takeChars maxObjectNameLength) := by
    rw [DiscoveryReply.itemList, List.map_map]
    rfl
  constructor
  · rintro ⟨rsp, copies', hreply, hstrings, hcount, hall⟩
    obtain rfl := Except.ok.inj hreply
    obtain rfl := DiscoveredArray.strings.inj hstrings
    refine ⟨hlength ▸ Option.some.inj hcount, ?_⟩
    have := congrArg List.length hall
    simpa [hlength, hitems] using this
  · rintro ⟨rfl, hn⟩
    exact ⟨reply, copies, rfl, rfl, by rw [hlength], by rw [hitems, ← hn, hmap]⟩

/-- The results of a function that hands out what `copyArray` leaves. -/
theorem run_copyArray_bind
    (hallocations : w.allocations = w₀.allocations)
    (hcopies : w.copies = w₀.copies)
    (items : Int → Option CString) (size length : Int)
    (f : RbusError × DiscoveredArray → DiscoveryResult) :
    ∃ r, CopyOutcome o items size length r ∧
      (((copyArray items size length >>= fun copies => pure (f copies)) w).run
        (o.answer w₀)).map Prod.fst = r.map f := by
  refine ⟨_, run_copyArray (o := o) hallocations hcopies items size length, ?_⟩
  refine (congrArg (Option.map Prod.fst) (Prog.run_bind (copyArray items size length w) _)).trans ?_
  cases (copyArray items size length w).run (o.answer w₀) with
  | none =>
      rfl
  | some r =>
      rfl

/-- The functions that hand out whatever has become of the copies. -/
theorem copyReply_complete_iff
    (hallocations : w.allocations = w₀.allocations)
    (hcopies : w.copies = w₀.copies)
    (reply : DiscoveryReply) :
    CompleteAndLive (.ok reply) (((copyReply reply w).run (o.answer w₀)).map Prod.fst) ↔
      o.CopiesAll reply := by
  unfold copyReply
  cases hsize : reply.count with
  | none =>
      refine iff_of_false id ?_
      rintro ⟨_, _, hcount, -⟩
      rw [hsize] at hcount
      cases hcount
  | some size =>
      cases hlength : reply.arrayLength with
      | none =>
          refine iff_of_false id ?_
          rintro ⟨_, _, -, hn, -⟩
          rw [hlength] at hn
          cases hn
      | some length =>
          obtain ⟨r, hr, hrun⟩ := run_copyArray_bind (o := o) hallocations hcopies reply.items
            size length fun copies => ⟨.success, some size, copies.2⟩
          refine (iff_of_eq (congrArg (CompleteAndLive (.ok reply)) hrun)).trans ?_
          have hall : o.CopiesAll reply ↔ size = length.toNat ∧
              pointerBytes length ≤ pointerBytes size ∧ o.allocated 0 = true ∧
                ∃ copies, o.CopiesFrom reply.items 0 0 length.toNat copies := by
            rw [exists_copiesFrom_iff]
            constructor
            · rintro ⟨_, length', hcount, hlength', rfl, hbytes, hcopied⟩
              obtain rfl := Option.some.inj (hsize.symm.trans hcount)
              obtain rfl := Option.some.inj (hlength.symm.trans hlength')
              exact ⟨rfl, hbytes, hcopied⟩
            · rintro ⟨rfl, hbytes, hcopied⟩
              exact ⟨_, length, hsize, hlength, rfl, hbytes, hcopied⟩
          rw [hall]
          cases hr with
          | noMemory h =>
              refine iff_of_false ?_ (by simp [h])
              rintro ⟨_, _, _, hstrings, _⟩
              cases hstrings
          | overflow h hbytes =>
              exact iff_of_false id fun hall => Nat.not_le.mpr hbytes hall.2.1
          | copied h hbytes hcopies' =>
              refine hcopies'.complete_iff.trans ?_
              rw [hlength]
              exact ⟨fun hcount => ⟨hcount.1, hbytes, h, _, hcopies'⟩, fun hall => ⟨hall.1, rfl⟩⟩
          | freed h hfail =>
              refine iff_of_false ?_ fun hall => hfail hall.2.2.2
              rintro ⟨_, _, _, hstrings, _⟩
              cases hstrings

/-- An error that is returned before anything is allocated. -/
theorem completeAndLive_discoveryError
    {ret : RbusError}
    (hret : ret ≠ .success)
    (reply : Except RtError DiscoveryReply) :
    CompleteAndLive reply (some (discoveryError ret)) :=
  (if_neg hret).mpr (Or.inl rfl)

/-- A function that returns at once without a connection. -/
theorem connected_complete_iff
    {P : Prop} {x : CoreM M W DiscoveryResult}
    (h : CompleteAndLive o.reply (o.discover x w) ↔ P) :
    CompleteAndLive o.reply (o.discover (do
        let w ← Program.getState
        if w.gConnection.isNone then pure (discoveryError .errorInvalidState) else x) w) ↔
      (w.gConnection.isSome = true → P) := by
  have hrun : o.discover (do
        let w ← Program.getState
        if w.gConnection.isNone then pure (discoveryError .errorInvalidState) else x) w =
      if w.gConnection.isNone then some (discoveryError .errorInvalidState)
      else o.discover x w := by
    show ((ite _ _ _ : CoreM M W DiscoveryResult) w |>.run (o.answer w)).map Prod.fst = _
    split <;> rfl
  rw [hrun]
  cases w.gConnection with
  | none =>
      exact iff_of_true (completeAndLive_discoveryError (by decide) _) fun hc => by cases hc
  | some c =>
      exact h.trans ⟨fun hp _ => hp, fun hp => hp rfl⟩

theorem run_sendDiscovery
    (request : Discovery) :
    ∃ w', (sendDiscovery request w).run (o.answer w) = some (o.reply, w') ∧
      w'.allocations = w.allocations ∧ w'.copies = w.copies := by
  refine ⟨{ w with log := w.log ++ [.call (.sendRequest (w.gConnection.map Connection.ptr) request
    timeoutValueFireAndForget)] }, rfl, ?_, ?_⟩
  · simp [World.allocations, Event.isAllocation]
  · simp [World.copies, Event.isCopy]

/-- A function that sends a request: an error returns at once. -/
theorem sendDiscovery_complete_iff
    {ret : RbusError} {P : DiscoveryReply → Prop} {f : DiscoveryReply → CoreM M W DiscoveryResult}
    {request : Discovery}
    (hret : ret ≠ .success)
    (h : ∀ (w' : World M W) (reply : DiscoveryReply),
      w'.allocations = w.allocations → w'.copies = w.copies →
      (CompleteAndLive (.ok reply) (((f reply w').run (o.answer w)).map Prod.fst) ↔ P reply)) :
    CompleteAndLive o.reply (o.discover (do
        let reply ← sendDiscovery request
        match reply with
        | .error _ => pure (discoveryError ret)
        | .ok reply => f reply) w) ↔
      ∀ reply, o.reply = .ok reply → P reply := by
  obtain ⟨w', hrun, hallocations, hcopies⟩ := run_sendDiscovery (o := o) (w := w) request
  refine (iff_of_eq (congrArg (CompleteAndLive o.reply)
    (congrArg (Option.map Prod.fst) (Program.run_bind_of_run hrun _)))).trans ?_
  cases o.reply with
  | error e =>
      exact iff_of_true (completeAndLive_discoveryError hret _) fun _ h => by cases h
  | ok reply =>
      refine (h w' reply hallocations hcopies).trans
        ⟨fun hp _ heq => Except.ok.inj heq ▸ hp, fun hp => hp reply rfl⟩

/-- `rbus_discoverObjectElements`. -/
theorem discoverObjectElements_complete_iff
    (object : Option CString) :
    CompleteAndLive o.reply (o.discover (rbusDiscoverObjectElements object) w) ↔
      DiscoveryFunction.Served (.objectElements object) w.gConnection.isSome o := by
  refine (connected_complete_iff (P := object.isSome → ∀ reply, o.reply = .ok reply →
    o.CopiesAll reply) ?_).trans ?_
  · cases object with
    | none =>
        exact iff_of_true (completeAndLive_discoveryError (by decide) _) fun h => by cases h
    | some object =>
        refine (sendDiscovery_complete_iff (by decide) fun w' reply ha hc =>
          copyReply_complete_iff ha hc reply).trans ⟨fun h _ => h, fun h => h rfl⟩
  · exact ⟨fun h reply hr hc ho => h hc ho reply hr, fun h hc ho reply hr => h reply hr hc ho⟩

/-- `rbus_discoverRegisteredComponents`. -/
theorem discoverRegisteredComponents_complete_iff :
    CompleteAndLive o.reply (o.discover rbusDiscoverRegisteredComponents w) ↔
      DiscoveryFunction.Served .registeredComponents w.gConnection.isSome o :=
  (connected_complete_iff (sendDiscovery_complete_iff (by decide) fun _ reply ha hc =>
    copyReply_complete_iff ha hc reply)).trans
      ⟨fun h reply hr hc => h hc reply hr, fun h hc reply hr => h reply hr hc⟩

/-- `rbus_discoverWildcardDestinations`: no success without items is complete. -/
theorem discoverWildcardDestinations_complete_iff
    (expression : Option CString) :
    CompleteAndLive o.reply (o.discover (rbusDiscoverWildcardDestinations expression) w) ↔
      DiscoveryFunction.Served (.wildcardDestinations expression) w.gConnection.isSome o := by
  refine (connected_complete_iff (P := expression.isSome → ∀ reply, o.reply = .ok reply →
    reply.result = some 0 → reply.count ≠ some 0 ∧ o.CopiesAll reply) ?_).trans ?_
  · cases expression with
    | none =>
        exact iff_of_true (completeAndLive_discoveryError (by decide) _) fun h => by cases h
    | some expression =>
        refine (sendDiscovery_complete_iff (by decide) fun w' reply ha hc => ?_).trans
          ⟨fun h _ => h, fun h => h rfl⟩
        by_cases hresult : reply.result = some 0
        · rw [if_neg (not_not.mpr hresult)]
          cases hcount : reply.count with
          | none =>
              refine iff_of_false id fun h => ?_
              obtain ⟨-, _, _, hsome, -⟩ := h hresult
              rw [hcount] at hsome
              cases hsome
          | some size =>
              cases hlength : reply.arrayLength with
              | none =>
                  refine iff_of_false id fun h => ?_
                  obtain ⟨-, _, _, -, hsome, -⟩ := h hresult
                  rw [hlength] at hsome
                  cases hsome
              | some length =>
                  by_cases hne : size ≠ 0 ∧ length ≠ 0
                  · have hcopy := copyReply_complete_iff (o := o) ha hc reply
                    simp only [initialized, pure_bind, if_pos hne]
                    refine hcopy.trans ⟨fun h _ => ⟨?_, h⟩, fun h => (h hresult).2⟩
                    exact fun heq => hne.1 (Option.some.inj heq)
                  · simp only [initialized, pure_bind, if_neg hne]
                    refine iff_of_false ?_ fun h => ?_
                    · rintro ⟨_, _, _, hstrings, _⟩
                      cases hstrings
                    · obtain ⟨hzero, n, _, hn, hitems, rfl, -⟩ := h hresult
                      rw [hcount] at hn
                      rw [hlength] at hitems
                      obtain rfl := Option.some.inj hn
                      obtain rfl := Option.some.inj hitems
                      refine hne ⟨fun heq => hzero (congrArg some heq), ?_⟩
                      rintro rfl
                      exact hzero rfl
        · rw [if_pos hresult]
          exact iff_of_true (completeAndLive_discoveryError (by decide) _)
            fun h => absurd h hresult
  · exact ⟨fun h reply hr hc ho => h hc ho reply hr, fun h hc ho reply hr => h reply hr hc ho⟩

/-- `rbus_discoverElementObjects`. -/
theorem discoverElementObjects_complete_iff
    (element : Option CString) :
    CompleteAndLive o.reply (o.discover (rbusDiscoverElementObjects element) w) ↔
      DiscoveryFunction.Served (.elementObjects element) w.gConnection.isSome o := by
  cases element with
  | none =>
      exact iff_of_true (completeAndLive_discoveryError (by decide) _) fun _ _ h => by cases h
  | some element =>
      refine (sendDiscovery_complete_iff (by decide) fun w' reply ha hc => ?_).trans
        ⟨fun h reply hr _ => h reply hr, fun h reply hr => h reply hr rfl⟩
      by_cases hresult : reply.result = some 0
      · rw [if_neg (not_not.mpr hresult)]
        obtain ⟨r, hr, hrun⟩ := run_copyArray_bind (o := o) ha hc reply.items
          (reply.count.getD 0) (reply.count.getD 0)
          fun copies => ⟨copies.1, some (reply.count.getD 0), copies.2⟩
        refine (iff_of_eq (congrArg (CompleteAndLive (.ok reply)) hrun)).trans ?_
        cases hr with
        | noMemory h =>
            refine iff_of_true (Or.inl rfl) fun _ hcopies => ?_
            rw [hcopies.1] at h
            cases h
        | overflow h hbytes =>
            exact absurd hbytes (Nat.lt_irrefl _)
        | copied h hbytes hcopies =>
            have hcopied : o.Copies reply (reply.count.getD 0).toNat :=
              ⟨h, (exists_copiesFrom_iff _ _).mp ⟨_, hcopies⟩⟩
            refine hcopies.complete_iff.trans ⟨fun hn _ _ => ⟨?_, hn.2⟩, fun hn => ?_⟩
            · have := hn.1
              omega
            · obtain ⟨hpos, htoNat⟩ := hn hresult hcopied
              exact ⟨(Int.toNat_of_nonneg hpos).symm, htoNat⟩
        | freed h hfail =>
            exact iff_of_true (Or.inr rfl) fun _ hcopies =>
              absurd ((exists_copiesFrom_iff _ _).mpr hcopies.2) hfail
      · rw [if_pos hresult]
        exact iff_of_true (completeAndLive_discoveryError (by decide) _)
          fun h => absurd h hresult

/--
A discovery that succeeds hands out an array of all items of the reply, alive, with their
number, and one that fails keeps nothing, exactly when it cannot fail half-way: it gets no
reply, or an error that it looks at; or the count and the number of the items agree and all
are read and copied (not none, with a wildcard); or `rbus_discoverElementObjects` is told by the
allocations or by the items that it has failed.
-/
theorem discovery_complete_iff
    (f : DiscoveryFunction) (o : DiscoveryOutcome) (w : World M W) :
    CompleteAndLive o.reply (o.discover f.program w) ↔ f.Served w.gConnection.isSome o := by
  cases f with
  | wildcardDestinations expression =>
      exact discoverWildcardDestinations_complete_iff expression
  | objectElements object =>
      exact discoverObjectElements_complete_iff object
  | elementObjects element =>
      exact discoverElementObjects_complete_iff element
  | registeredComponents =>
      exact discoverRegisteredComponents_complete_iff

end Functions

section Counterexample

/-- A router's reply of one item that is read. -/
def sampleReply : DiscoveryReply where
  result := some 0
  count := some 1
  arrayLength := some 1
  items := fun i => if i = 0 then some sampleObjectName.val else none

/-- The reply comes, but there is no memory for the string. -/
def sampleOutcome : DiscoveryOutcome where
  reply := .ok sampleReply
  allocated := fun _ => true
  copied := fun _ => false

/-- A process with a connection, for examples. -/
def sampleDiscoverer : World Unit Unit :=
  { World.initial .empty .empty with gConnection := some (sampleConnection 1) }

/-- `rbus_discoverObjectElements` succeeds with an array that it has freed. -/
theorem objectElements_returns_freed_array :
    sampleOutcome.discover (rbusDiscoverObjectElements (some sampleObjectName.val))
        sampleDiscoverer = some ⟨.success, some 1, .freed⟩ ∧
      ¬CompleteAndLive sampleOutcome.reply
        (sampleOutcome.discover (rbusDiscoverObjectElements (some sampleObjectName.val))
          sampleDiscoverer) := by
  have hfreed : sampleOutcome.discover (rbusDiscoverObjectElements (some sampleObjectName.val))
      sampleDiscoverer = some ⟨.success, some 1, .freed⟩ :=
    rfl
  refine ⟨hfreed, ?_⟩
  rw [hfreed]
  rintro ⟨_, _, _, hstrings, _⟩
  cases hstrings

end Counterexample

section SeveralElements

variable {M W : Type} {w w₀ : World M W}

/-- A reply that is read without failure. -/
def DiscoveryReply.readable (count : Int) (items : List CString) : DiscoveryReply where
  result := some 0
  count := some count
  arrayLength := some items.length
  items := fun i => if 0 ≤ i then items[i.toNat]? else none

/-- A reply that is read without failure, and memory for everything. -/
def DiscoveryOutcome.succeeding (count : Int) (items : List CString) : DiscoveryOutcome where
  reply := .ok (.readable count items)
  allocated := fun _ => true
  copied := fun _ => true

/-- A success with these strings; without any, the array may be NULL. -/
def DiscoveryResult.HandsOut (r : DiscoveryResult) (strings : List CString) : Prop :=
  r.ret = .success ∧ r.count = some (strings.length : Int) ∧
    (r.array = .strings strings ∨ strings = [] ∧ r.array = .null)

/-- The strings that are not empty. -/
def nonEmptyStrings (items : List CString) : List CString :=
  items.filter fun s => s.chars ≠ []

/-- What the loop keeps: the strings before the first that is empty, cut. -/
def keptStrings (items : List CString) : List CString :=
  (items.takeWhile fun s => s.chars ≠ []).map (takeChars maxObjectNameLength)

theorem keptStrings_cons
    (s : CString) (items : List CString) :
    keptStrings (s :: items) =
      if s.chars = [] then [] else takeChars maxObjectNameLength s :: keptStrings items := by
  by_cases hs : s.chars = [] <;> simp [keptStrings, hs]

theorem nonEmptyStrings_cons
    (s : CString) (items : List CString) :
    nonEmptyStrings (s :: items) =
      if s.chars = [] then nonEmptyStrings items else s :: nonEmptyStrings items := by
  by_cases hs : s.chars = [] <;> simp [nonEmptyStrings, hs]

theorem takeChars_eq_iff
    (n : Nat) (s : CString) :
    takeChars n s = s ↔ s.chars.length ≤ n := by
  rw [CString.ext_iff]
  exact List.take_eq_self_iff _

/-- Nothing is lost or cut when the empty strings come last and none is too long. -/
theorem keptStrings_eq_iff
    (items : List CString) :
    keptStrings items = nonEmptyStrings items ↔
      items.Pairwise (fun s t => s.chars = [] → t.chars = []) ∧
        ∀ s ∈ items, s.chars.length ≤ maxObjectNameLength := by
  induction items with
  | nil =>
      simp [keptStrings, nonEmptyStrings]
  | cons s items ih =>
      rw [keptStrings_cons, nonEmptyStrings_cons, List.pairwise_cons, List.forall_mem_cons]
      by_cases hs : s.chars = []
      · rw [if_pos hs, if_pos hs]
        constructor
        · intro h
          have hempty : ∀ t ∈ items, t.chars = [] := by
            simpa [nonEmptyStrings] using List.filter_eq_nil_iff.mp h.symm
          refine ⟨⟨fun t ht _ => hempty t ht, ?_⟩, by simp [hs], fun t ht => by simp [hempty t ht]⟩
          exact List.pairwise_of_forall_mem_list fun _ _ t ht _ => hempty t ht
        · rintro ⟨⟨hempty, -⟩, -⟩
          exact (List.filter_eq_nil_iff.mpr fun t ht => by simp [hempty t ht hs]).symm
      · rw [if_neg hs, if_neg hs, List.cons.injEq, ih, takeChars_eq_iff]
        constructor
        · rintro ⟨hlength, hpairs, hall⟩
          exact ⟨⟨fun _ _ h => absurd h hs, hpairs⟩, hlength, hall⟩
        · rintro ⟨⟨-, hpairs⟩, hlength, hall⟩
          exact ⟨hlength, hpairs, hall⟩

/-- What has been kept after so many strings have been read. -/
def keptAfter (items : List CString) (n : Nat) : List CString := (keptStrings items).take n

/-- The next string is read where as many are kept: one is kept, or it is empty. -/
theorem keptAfter_succ
    (items : List CString) (n : Nat)
    (hn : n < items.length) :
    ∃ s, items[(keptAfter items n).length]? = some s ∧
      keptAfter items (n + 1) =
        if s.chars = [] then keptAfter items n
        else keptAfter items n ++ [takeChars maxObjectNameLength s] := by
  induction items generalizing n with
  | nil =>
      cases hn
  | cons s items ih =>
      by_cases hs : s.chars = []
      · exact ⟨s, by simp [keptAfter, keptStrings_cons, hs], by simp [keptAfter, keptStrings_cons, hs]⟩
      · cases n with
        | zero =>
            exact ⟨s, rfl, by simp [keptAfter, keptStrings_cons, hs]⟩
        | succ n =>
            obtain ⟨s', hs', hnext⟩ := ih n (Nat.lt_of_succ_lt_succ hn)
            refine ⟨s', by simpa [keptAfter, keptStrings_cons, hs] using hs', ?_⟩
            simp only [keptAfter] at hnext
            simp only [keptAfter, keptStrings_cons, if_neg hs, List.take_succ_cons, hnext]
            split <;> simp

theorem run_call_tryMalloc
    (w w₀ : World M W) (count : Int) (items : List CString) (size : Int) :
    ∃ w', (call (.tryMalloc size) w).run
        ((DiscoveryOutcome.succeeding count items).answer w₀) = some (true, w') :=
  ⟨_, rfl⟩

theorem run_call_strndup
    (w w₀ : World M W) (count : Int) (items : List CString) (value : CString) :
    ∃ w', (strndupName value w).run ((DiscoveryOutcome.succeeding count items).answer w₀) =
      some (some (takeChars maxObjectNameLength value), w') :=
  ⟨_, rfl⟩

/-- The inner loop, after `n` strings of the reply. -/
theorem run_keepStrings
    (w w₀ : World M W) (items : List CString) (count : Int) (n rounds : Nat)
    (hn : n + rounds ≤ items.length) :
    ∃ w', (keepStrings (DiscoveryReply.readable count items).items rounds (keptAfter items n) w).run
        ((DiscoveryOutcome.succeeding count items).answer w₀) =
      some ((.success, keptAfter items (n + rounds)), w') := by
  induction rounds generalizing n w with
  | zero =>
      exact ⟨w, rfl⟩
  | succ rounds ih =>
      obtain ⟨s, hs, hnext⟩ := keptAfter_succ items n (by omega)
      have hitem : (DiscoveryReply.readable count items).items (keptAfter items n).length =
          some s := by
        simpa [DiscoveryReply.readable] using hs
      have hrounds : n + 1 + rounds = n + (rounds + 1) := by omega
      unfold keepStrings
      simp only [hitem]
      by_cases hempty : s.chars = []
      · rw [if_pos hempty] at hnext ⊢
        have hrest := ih w (n + 1) (by omega)
        rwa [hnext, hrounds] at hrest
      · rw [if_neg hempty] at hnext ⊢
        obtain ⟨w₁, hcopy⟩ := run_call_strndup w w₀ count items s
        have hrest := ih w₁ (n + 1) (by omega)
        rw [hnext, hrounds] at hrest
        obtain ⟨w₂, hrun⟩ := hrest
        exact ⟨w₂, (Program.run_bind_of_run hcopy _).trans hrun⟩

/-- The outer loop, after `n` strings of the reply. -/
theorem run_keepComponents
    (w w₀ : World M W) (items : List CString) (c n elements : Nat) (array : Option (List CString))
    (hn : n + elements * c ≤ items.length)
    (harray : array.getD [] = keptAfter items n) :
    ∃ array' w', (keepComponents (.readable c items) elements array w).run
        ((DiscoveryOutcome.succeeding c items).answer w₀) = some ((.success, array'), w') ∧
      array'.getD [] = keptAfter items (n + elements * c) ∧
      (array' = none → array = none ∧ elements = 0) := by
  induction elements generalizing n w array with
  | zero =>
      exact ⟨array, w, rfl, by simpa using harray, fun h => ⟨h, rfl⟩⟩
  | succ elements ih =>
      have hrounds : n + c + elements * c = n + (elements + 1) * c := by
        rw [Nat.add_one_mul, Nat.add_assoc, Nat.add_comm c]
      unfold keepComponents
      obtain ⟨w₁, hmalloc⟩ := run_call_tryMalloc w w₀ c items
        (pointerBytes ((array.getD []).length + c))
      obtain ⟨w₂, hinner⟩ := run_keepStrings w₁ w₀ items c n c (by omega)
      obtain ⟨array', w₃, hrest, hkept, hnone⟩ := ih w₂ (n + c)
        (some (keptAfter items (n + c))) (by omega) rfl
      refine ⟨array', w₃, ?_, by rw [hkept, hrounds], fun h => ?_⟩
      · rw [← harray] at hinner
        refine (Program.run_bind_of_run hmalloc _).trans ?_
        refine (Program.run_bind_of_run hinner _).trans ?_
        exact hrest
      · cases (hnone h).1

/-- What `rbus_discoverElementsObjects` returns: the strings before the first that is empty. -/
theorem discover_elementsObjects
    (w : World M W) (elements items : List CString) (c : Nat)
    (hlength : items.length = elements.length * c) :
    ∃ array, (DiscoveryOutcome.succeeding c items).discover
        (rbusDiscoverElementsObjects elements.length (some elements)) w =
          some (componentsResult .success array) ∧
      array.getD [] = keptStrings items ∧ (array = none → elements = []) := by
  obtain ⟨w₁, hsend, -⟩ := run_sendDiscovery (o := .succeeding c items) (w := w)
    (.elementObjects elements.length elements)
  obtain ⟨array, w₂, hrun, hkept, hnone⟩ := run_keepComponents w₁ w items c 0
    elements.length none (by omega) rfl
  refine ⟨array, ?_, ?_, fun h => List.eq_nil_of_length_eq_zero (hnone h).2⟩
  · have hall : (rbusDiscoverElementsObjects elements.length (some elements) w).run
        ((DiscoveryOutcome.succeeding c items).answer w) =
          some (componentsResult .success array, w₂) :=
      (Program.run_bind_of_run hsend _).trans (Program.run_bind_of_run hrun _)
    rw [DiscoveryOutcome.discover, hall]
    rfl
  · rw [hkept, Nat.zero_add, ← hlength]
    exact List.take_of_length_le (by
      rw [keptStrings, List.length_map]
      exact (List.takeWhile_sublist _).length_le)

/--
When everything is read and allocated, `rbus_discoverElementsObjects` hands out exactly the
strings of the reply that are not empty, if and only if none of them comes after an empty one or
is longer than what is copied of a name.
-/
theorem discoverElementsObjects_complete_iff
    (w : World M W) (elements items : List CString) (c : Nat)
    (hlength : items.length = elements.length * c) :
    (∃ r, (DiscoveryOutcome.succeeding c items).discover
        (rbusDiscoverElementsObjects elements.length (some elements)) w = some r ∧
          r.HandsOut (nonEmptyStrings items)) ↔
      items.Pairwise (fun s t => s.chars = [] → t.chars = []) ∧
        ∀ s ∈ items, s.chars.length ≤ maxObjectNameLength := by
  obtain ⟨array, hrun, hkept, hnone⟩ := discover_elementsObjects w elements items c hlength
  rw [← keptStrings_eq_iff, hrun]
  constructor
  · rintro ⟨r, ⟨⟩, hret, hcount, hstrings⟩
    cases array with
    | none =>
        obtain rfl : items = [] :=
          List.eq_nil_of_length_eq_zero (by rw [hlength, hnone rfl, List.length_nil, Nat.zero_mul])
        rfl
    | some strings =>
        rcases hstrings with h | ⟨-, h⟩
        · exact hkept.symm.trans (DiscoveredArray.strings.inj h)
        · cases h
  · intro heq
    refine ⟨_, rfl, rfl, ?_, ?_⟩
    · exact congrArg (fun strings : List CString => some (strings.length : Int)) (hkept.trans heq)
    · cases array with
      | none =>
          exact Or.inr ⟨(hkept.trans heq).symm, rfl⟩
      | some strings =>
          exact Or.inl (congrArg DiscoveredArray.strings (hkept.trans heq))

/-- The one route of a single element is handed out. -/
theorem single_route_handed_out :
    ∃ r, (DiscoveryOutcome.succeeding 1 [sampleObjectName.val]).discover
        (rbusDiscoverElementsObjects 1 (some [sampleInbox])) sampleDiscoverer = some r ∧
      r.HandsOut [sampleObjectName.val] := by
  refine (discoverElementsObjects_complete_iff sampleDiscoverer [sampleInbox]
    [sampleObjectName.val] 1 rfl).mpr ⟨List.pairwise_singleton _ _, fun s hs => ?_⟩
  obtain rfl := List.mem_singleton.mp hs
  decide

/-- Of two elements, the first has no route: the route of the second is lost. -/
theorem second_route_lost :
    (DiscoveryOutcome.succeeding 1 [.empty, sampleObjectName.val]).discover
        (rbusDiscoverElementsObjects 2 (some [sampleInbox, sampleInbox])) sampleDiscoverer =
          some ⟨.success, some 0, .strings []⟩ ∧
      nonEmptyStrings [.empty, sampleObjectName.val] = [sampleObjectName.val] ∧
      ¬∃ r, (DiscoveryOutcome.succeeding 1 [.empty, sampleObjectName.val]).discover
        (rbusDiscoverElementsObjects 2 (some [sampleInbox, sampleInbox])) sampleDiscoverer = some r ∧
          r.HandsOut (nonEmptyStrings [.empty, sampleObjectName.val]) := by
  have hrun : (DiscoveryOutcome.succeeding 1 [.empty, sampleObjectName.val]).discover
      (rbusDiscoverElementsObjects 2 (some [sampleInbox, sampleInbox])) sampleDiscoverer =
        some ⟨.success, some 0, .strings []⟩ :=
    rfl
  refine ⟨hrun, rfl, ?_⟩
  rw [hrun]
  rintro ⟨r, ⟨⟩, -, hcount, -⟩
  cases hcount

end SeveralElements

end RbusCore
