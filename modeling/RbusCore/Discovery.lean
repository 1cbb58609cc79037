import RbusCore.Frames

/-!
# Discovery

The functions that ask the router for objects, elements and components, and copy the strings
of its reply into an array for the caller.

**Results.**
* `keeps_rbusDiscoverWildcardDestinations` and its siblings: what code that only handles
  messages keeps is kept by every discovery function.
-/

namespace RbusCore

open CStrings Resumption

section Replies

variable {M W : Type}

/-- What is stored through the last argument of a discovery function: nothing, NULL, an array
of strings, or an array that has been freed again. -/
inductive DiscoveredArray where
  | unset
  | null
  | strings (items : List CString)
  | freed
deriving DecidableEq

/-- What a discovery function returns and stores. -/
structure DiscoveryResult where
  ret : RbusError
  count : Option Int
  array : DiscoveredArray
deriving DecidableEq

/-- The start of a string. -/
def takeChars (n : Nat) (s : CString) : CString :=
  ⟨s.chars.take n, fun c hc => s.noNul c (List.mem_of_mem_take hc)⟩

/-- `strndup(value, MAX_OBJECT_NAME_LENGTH)`. -/
def strndupName (value : CString) : CoreM M W (Option CString) := do
  let copied : Bool ← call (.strndup value)
  pure (if copied then some (takeChars maxObjectNameLength value) else none)

/-- A variable that has been set only when reading succeeded. -/
def initialized (value : Option Int) : CoreM M W Int :=
  match value with
  | some value => pure value
  | none => crash .uninitialized

/-- The bytes of an array of so many pointers. -/
def pointerBytes (n : Int) : Nat := toSizeT (n * 8)

/-- The loop over the strings of a reply, from index `i` on: it ends with the first that
cannot be read or copied. -/
def copyStrings (items : Int → Option CString) : (i : Int) → (count : Nat) →
    CoreM M W (Option (List CString))
  | _, 0 => pure (some [])
  | i, count + 1 =>
      match items i with
      | none => pure none
      | some value => do
          let copy ← strndupName value
          match copy with
          | none => pure none
          | some copy => do
              let copies ← copyStrings items (i + 1) count
              pure (copies.map fun copies => copy :: copies)

/-- An array of `size` pointers, of which `length` are cleared and filled. -/
def copyArray (items : Int → Option CString) (size length : Int) :
    CoreM M W (RbusError × DiscoveredArray) := do
  let allocated : Bool ← call (.tryMalloc (pointerBytes size))
  if allocated then
    if pointerBytes size < pointerBytes length then crash .overflow
    else do
      let copies ← copyStrings items 0 length.toNat
      match copies with
      | some copies => pure (.success, .strings copies)
      | none => pure (.errorGeneral, .freed)
  else pure (.errorInsufficientMemory, .unset)

/-- The request of a discovery function. -/
def sendDiscovery (request : Discovery) : CoreM M W (Except RtError DiscoveryReply) := do
  let con ← gConnectionPtr
  call (.sendRequest con request timeoutValueFireAndForget)

/-- The result of a function that has stored nothing. -/
def discoveryError (ret : RbusError) : DiscoveryResult :=
  { ret := ret, count := none, array := .unset }

/-- A reply whose count and items are copied, whatever becomes of the copies. -/
def copyReply (reply : DiscoveryReply) : CoreM M W DiscoveryResult := do
  let size ← initialized reply.count
  let length ← initialized reply.arrayLength
  let copies ← copyArray reply.items size length
  -- the error of the loop is overwritten
  pure { ret := .success, count := some size, array := copies.2 }

end Replies

section Functions

variable {M W : Type}

/-- `rbus_discoverWildcardDestinations`, with arguments to store through. -/
def rbusDiscoverWildcardDestinations (expression : Option CString) :
    CoreM M W DiscoveryResult := do
  let w ← Program.getState
  if w.gConnection.isNone then pure (discoveryError .errorInvalidState)
  else
    match expression with
    | none => pure (discoveryError .errorInvalidParam)
    | some expression => do
        let reply ← sendDiscovery (.wildcardDestinations expression)
        match reply with
        | .error _ => pure (discoveryError .errorMalformedResponse)
        | .ok reply =>
            if reply.result ≠ some 0 then pure (discoveryError .errorGeneral)
            else do
              let size ← initialized reply.count
              let length ← initialized reply.arrayLength
              if size ≠ 0 ∧ length ≠ 0 then copyReply reply
              else pure { ret := .success, count := none, array := .unset }

/-- `rbus_discoverObjectElements`, with arguments to store through. -/
def rbusDiscoverObjectElements (object : Option CString) : CoreM M W DiscoveryResult := do
  let w ← Program.getState
  if w.gConnection.isNone then pure (discoveryError .errorInvalidState)
  else
    match object with
    | none => pure (discoveryError .errorInvalidParam)
    | some object => do
        let reply ← sendDiscovery (.objectElements object)
        match reply with
        | .error _ => pure (discoveryError .errorGeneral)
        | .ok reply => copyReply reply

/-- `rbus_discoverElementObjects`: there is no test for a connection. -/
def rbusDiscoverElementObjects (element : Option CString) : CoreM M W DiscoveryResult :=
  match element with
  | none => pure (discoveryError .errorInvalidParam)
  | some element => do
      let reply ← sendDiscovery (.elementObjects 1 [element])
      match reply with
      | .error _ => pure (discoveryError .errorMalformedResponse)
      | .ok reply =>
          if reply.result ≠ some 0 then pure (discoveryError .errorGeneral)
          else do
            let numElements := reply.count.getD 0
            let copies ← copyArray reply.items numElements numElements
            pure { ret := copies.1, count := some numElements, array := copies.2 }

/-- The inner loop of `rbus_discoverElementsObjects`: so many more strings of the reply, the
next at the index of as many as have been kept.  Strings that are empty are left out. -/
def keepStrings (items : Int → Option CString) : (count : Nat) → (kept : List CString) →
    CoreM M W (RbusError × List CString)
  | 0, kept => pure (.success, kept)
  | count + 1, kept =>
      match items kept.length with
      | none => pure (.errorGeneral, kept)
      | some component =>
          if component.chars = [] then keepStrings items count kept
          else do
            let copy ← strndupName component
            match copy with
            | none => pure (.errorGeneral, kept)
            | some copy => keepStrings items count (kept ++ [copy])

/-- The outer loop of `rbus_discoverElementsObjects`, over as many elements.  The array is
NULL until there is an element. -/
def keepComponents (reply : DiscoveryReply) : (elements : Nat) → (array : Option (List CString)) →
    CoreM M W (RbusError × Option (List CString))
  | 0, array => pure (.success, array)
  | elements + 1, array =>
      match reply.count with
      | none => pure (.errorGeneral, array)
      | some numComponents => do
          let kept := array.getD []
          let allocated : Bool ← call (.tryMalloc (pointerBytes (kept.length + numComponents)))
          if allocated then do
            let more ← keepStrings reply.items numComponents.toNat kept
            if more.1 = .success then keepComponents reply elements (some more.2)
            else pure (more.1, some more.2)
          else pure (.errorGeneral, array)

/-- What becomes of the array at the end of `rbus_discoverElementsObjects`. -/
def componentsResult (ret : RbusError) (array : Option (List CString)) : DiscoveryResult :=
  if ret = .success then
    { ret := ret
      count := some (array.getD []).length
      array :=
        match array with
        | some items => .strings items
        | none => .null }
  else { ret := ret, count := some 0, array := .unset }

/-- `rbus_discoverElementsObjects`: there is no test for a connection. -/
def rbusDiscoverElementsObjects (numElements : Int) (elements : Option (List CString)) :
    CoreM M W DiscoveryResult :=
  match elements with
  | none => pure (componentsResult .errorInvalidParam none)
  | some elements => do
      let reply ← sendDiscovery (.elementObjects numElements elements)
      match reply with
      | .error _ => pure (componentsResult .errorMalformedResponse none)
      | .ok reply =>
          if reply.result ≠ some 0 then pure (componentsResult .errorGeneral none)
          else do
            let kept ← keepComponents reply numElements.toNat none
            pure (componentsResult kept.1 kept.2)

/-- `rbus_discoverRegisteredComponents`, with arguments to store through. -/
def rbusDiscoverRegisteredComponents : CoreM M W DiscoveryResult := do
  let w ← Program.getState
  if w.gConnection.isNone then pure (discoveryError .errorInvalidState)
  else do
    let reply ← sendDiscovery .registeredComponents
    match reply with
    | .error _ => pure (discoveryError .errorGeneral)
    | .ok reply => copyReply reply

end Functions

section Frames

variable {M W : Type}
variable {C : Contract (Call.Answer (M := M) (W := W)) (World M W)}
variable {P : World M W → Prop} (h : Steady C P)

include h

theorem keeps_strndupName
    (value : CString) :
    Program.Keeps C P (strndupName value : CoreM M W (Option CString)) :=
  Program.keeps_bind (keeps_call h rfl) fun _ => Program.keeps_pure _

theorem keeps_initialized
    (value : Option Int) :
    Program.Keeps C P (initialized value : CoreM M W Int) := by
  cases value with
  | none =>
      exact keeps_crash h rfl
  | some value =>
      exact Program.keeps_pure _

theorem keeps_copyStrings
    (items : Int → Option CString) (i : Int) (count : Nat) :
    Program.Keeps C P (copyStrings items i count : CoreM M W (Option (List CString))) := by
  induction count generalizing i with
  | zero =>
      exact Program.keeps_pure _
  | succ count ih =>
      unfold copyStrings
      split
      · exact Program.keeps_pure _
      · refine Program.keeps_bind (keeps_strndupName h _) fun copy => ?_
        split
        · exact Program.keeps_pure _
        · exact Program.keeps_bind (ih _) fun _ => Program.keeps_pure _

theorem keeps_copyArray
    (items : Int → Option CString) (size length : Int) :
    Program.Keeps C P
      (copyArray items size length : CoreM M W (RbusError × DiscoveredArray)) := by
  refine Program.keeps_bind (keeps_call h rfl) fun allocated => ?_
  refine Program.keeps_ite (Program.keeps_ite (keeps_crash h rfl) ?_) (Program.keeps_pure _)
  refine Program.keeps_bind (keeps_copyStrings h _ _ _) fun copies => ?_
  split <;> exact Program.keeps_pure _

theorem keeps_sendDiscovery
    (request : Discovery) :
    Program.Keeps C P
      (sendDiscovery request : CoreM M W (Except RtError DiscoveryReply)) :=
  Program.keeps_bind keeps_gConnectionPtr fun _ => keeps_call h rfl

theorem keeps_copyReply
    (reply : DiscoveryReply) :
    Program.Keeps C P (copyReply reply : CoreM M W DiscoveryResult) := by
  refine Program.keeps_bind (keeps_initialized h _) fun size => ?_
  refine Program.keeps_bind (keeps_initialized h _) fun length => ?_
  exact Program.keeps_bind (keeps_copyArray h _ _ _) fun _ => Program.keeps_pure _

theorem keeps_rbusDiscoverWildcardDestinations
    (expression : Option CString) :
    Program.Keeps C P
      (rbusDiscoverWildcardDestinations expression : CoreM M W DiscoveryResult) := by
  refine Program.keeps_bind Program.keeps_getState fun w => ?_
  refine Program.keeps_ite (Program.keeps_pure _) ?_
  split
  · exact Program.keeps_pure _
  · refine Program.keeps_bind (keeps_sendDiscovery h _) fun reply => ?_
    split
    · exact Program.keeps_pure _
    · refine Program.keeps_ite (Program.keeps_pure _) ?_
      refine Program.keeps_bind (keeps_initialized h _) fun size => ?_
      refine Program.keeps_bind (keeps_initialized h _) fun length => ?_
      exact Program.keeps_ite (keeps_copyReply h _) (Program.keeps_pure _)

theorem keeps_rbusDiscoverObjectElements
    (object : Option CString) :
    Program.Keeps C P (rbusDiscoverObjectElements object : CoreM M W DiscoveryResult) := by
  refine Program.keeps_bind Program.keeps_getState fun w => ?_
  refine Program.keeps_ite (Program.keeps_pure _) ?_
  split
  · exact Program.keeps_pure _
  · refine Program.keeps_bind (keeps_sendDiscovery h _) fun reply => ?_
    split
    · exact Program.keeps_pure _
    · exact keeps_copyReply h _

theorem keeps_rbusDiscoverElementObjects
    (element : Option CString) :
    Program.Keeps C P (rbusDiscoverElementObjects element : CoreM M W DiscoveryResult) := by
  unfold rbusDiscoverElementObjects
  split
  · exact Program.keeps_pure _
  · refine Program.keeps_bind (keeps_sendDiscovery h _) fun reply => ?_
    split
    · exact Program.keeps_pure _
    · refine Program.keeps_ite (Program.keeps_pure _) ?_
      exact Program.keeps_bind (keeps_copyArray h _ _ _) fun _ => Program.keeps_pure _

theorem keeps_keepStrings
    (items : Int → Option CString) (count : Nat) (kept : List CString) :
    Program.Keeps C P
      (keepStrings items count kept : CoreM M W (RbusError × List CString)) := by
  induction count generalizing kept with
  | zero =>
      exact Program.keeps_pure _
  | succ count ih =>
      unfold keepStrings
      split
      · exact Program.keeps_pure _
      · refine Program.keeps_ite (ih _) ?_
        refine Program.keeps_bind (keeps_strndupName h _) fun copy => ?_
        split
        · exact Program.keeps_pure _
        · exact ih _

theorem keeps_keepComponents
    (reply : DiscoveryReply) (elements : Nat) (array : Option (List CString)) :
    Program.Keeps C P
      (keepComponents reply elements array :
        CoreM M W (RbusError × Option (List CString))) := by
  induction elements generalizing array with
  | zero =>
      exact Program.keeps_pure _
  | succ elements ih =>
      unfold keepComponents
      split
      · exact Program.keeps_pure _
      · refine Program.keeps_bind (keeps_call h rfl) fun allocated => ?_
        refine Program.keeps_ite ?_ (Program.keeps_pure _)
        refine Program.keeps_bind (keeps_keepStrings h _ _ _) fun more => ?_
        exact Program.keeps_ite (ih _) (Program.keeps_pure _)

theorem keeps_rbusDiscoverElementsObjects
    (numElements : Int) (elements : Option (List CString)) :
    Program.Keeps C P
      (rbusDiscoverElementsObjects numElements elements : CoreM M W DiscoveryResult) := by
  unfold rbusDiscoverElementsObjects
  split
  · exact Program.keeps_pure _
  · refine Program.keeps_bind (keeps_sendDiscovery h _) fun reply => ?_
    split
    · exact Program.keeps_pure _
    · refine Program.keeps_ite (Program.keeps_pure _) ?_
      exact Program.keeps_bind (keeps_keepComponents h _ _ _) fun _ => Program.keeps_pure _

theorem keeps_rbusDiscoverRegisteredComponents :
    Program.Keeps C P (rbusDiscoverRegisteredComponents : CoreM M W DiscoveryResult) := by
  refine Program.keeps_bind Program.keeps_getState fun w => ?_
  refine Program.keeps_ite (Program.keeps_pure _) ?_
  refine Program.keeps_bind (keeps_sendDiscovery h _) fun reply => ?_
  split
  · exact Program.keeps_pure _
  · exact keeps_copyReply h _

end Frames

end RbusCore
