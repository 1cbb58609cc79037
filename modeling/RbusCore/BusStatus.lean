import RbusCore.Message
import RbusCore.Operations

/-!
# The switch that disables the bus

While the file `/nvram/rbus_disable` exists, `rbuscore_checkBusStatus` reports that the bus is
disabled.  `rbus_openBrokerConnection` compares the reported status with the function itself, so
the file makes no difference to it.

**Results.**
* `reportsDisabled_iff`: what the status depends on.
* `sat_rbusOpenBrokerConnection_opening`: what an attempt to open a connection does.
* `closed_while_disabled_iff`: when the bus stays closed while it is disabled.
-/

namespace RbusCore

open CStrings Resumption

section Opening

variable {M W : Type}

/-- The outcome of `rtConnection_Create`. -/
abbrev Creation : Type :=
  Except RtError (BoundedName maxObjectNameLength)

/-- What the file system and the transport answer during an attempt to open a connection. -/
def openingAnswers (disabled : Bool) (created : Creation) : (e : Call M W) → e.Answer → Prop
  | .accessDisableFile, present => present = disabled
  | .connectionCreate .., result => result = created
  | _, _ => True

/-- Such an attempt waits for nobody: nothing else happens in the process. -/
def opening (disabled : Bool) (created : Creation) :
    (e : Call M W) → World M W → e.Answer → World M W → Prop :=
  fun e w a w' => openingAnswers disabled created e a ∧ w' = w

/-- `rbuscore_checkBusStatus` would report that the bus is disabled. -/
def ReportsDisabled (disabled : Bool) (created : Creation) (w : World M W) : Prop :=
  ∃ w', Program.Returns (opening disabled created) rbuscoreCheckBusStatus w .disabled w'

/-- The router refuses the connection. -/
def Creation.Refused (created : Creation) : Prop :=
  ∃ err, err ≠ RtError.rtOk ∧ created = .error err

/-- The contract of such an attempt; nothing is asked of it. -/
def openingContract (disabled : Bool) (created : Creation) :
    Contract (Call.Answer (M := M) (W := W)) (World M W) where
  env := opening disabled created
  atCall _ _ := True
  atUndef _ := True

variable {disabled : Bool} {created : Creation} {w w' : World M W}

/-- The status is decided by the file alone. -/
theorem reportsDisabled_iff :
    ReportsDisabled disabled created w ↔ disabled = true := by
  constructor
  · rintro ⟨w', hreturns⟩
    have hsat : Program.Sat (openingContract disabled created) rbuscoreCheckBusStatus
        (fun status _ => status = .disabled → disabled = true) w := by
      rw [rbuscoreCheckBusStatus, Program.sat_bind, sat_call]
      refine ⟨trivial, ?_⟩
      rintro present w₁ ⟨rfl, -⟩
      rw [Program.sat_ite]
      split
      case isTrue hpresent =>
        exact fun _ => hpresent
      case isFalse =>
        rintro ⟨⟩
    exact Program.returns_of_sat (fun _ _ _ _ henv => henv) hsat hreturns rfl
  · rintro rfl
    have hcall : Program.Returns (opening true created) (call .accessDisableFile) w true
        { w with log := w.log ++ [.call .accessDisableFile] } :=
      (Program.returns_of_eq rfl).bind (Program.returns_perform ⟨rfl, rfl⟩)
    exact ⟨_, hcall.bind Program.returns_pure⟩

variable [MessageApi M W]

/-- What an attempt to open a connection comes to. -/
inductive Opened (componentName : Option CString) (created : Creation) (w w' : World M W) :
    RbusError → Prop
  | unnamed
      (hname : componentName = none)
      (hsame : w'.gConnection = w.gConnection) :
      Opened componentName created w w' .errorInvalidParam
  | present
      (hname : componentName.isSome = true)
      (hpresent : w.gConnection.isSome = true)
      (hsame : w'.gConnection = w.gConnection) :
      Opened componentName created w w' .success
  | created
      (hname : componentName.isSome = true)
      (habsent : w.gConnection = none)
      (hcreated : ¬ created.Refused) :
      Opened componentName created w w' .success
  | refused
      (habsent : w.gConnection = none)
      (hrefused : created.Refused)
      (hsame : w'.gConnection = none) :
      Opened componentName created w w' .errorGeneral

/-- The table of a process that has just been initialized is empty, and nothing is cancelled. -/
theorem sat_performCleanup_initialized
    {C : Contract (Call.Answer (M := M) (W := W)) (World M W)}
    (hobjects : w.gServerObjects = .live [])
    (hsubs : w.gEventSubscriptionsForClient = .live []) :
    Program.Sat C performCleanup (fun _ w' => w'.gConnection = w.gConnection) w := by
  simp [performCleanup, cleanupLocked, destroyServerObjects, serverObjects, cancelSubscriptions,
    destroyClientSubscriptions, clientSubscriptions, accessVector, hobjects, hsubs]

theorem sat_openNewConnection_opening
    (habsent : w.gConnection = none)
    (componentName : CString) :
    Program.Sat (openingContract disabled created) (openNewConnection componentName none)
      (fun ret w' => Opened (some componentName) created w w' ret) w := by
  have hsteady : Steady (openingContract (M := M) (W := W) disabled created)
      fun w => w.gConnection = none :=
    { called := fun _ _ _ h => h
      fault := fun _ _ _ h => h
      env := fun _ _ _ _ henv h => henv.2 ▸ h
      atCall := fun _ _ _ _ => trivial
      atUndef := fun _ _ => trivial
      messages := fun _ _ _ _ h => h }
  refine (keeps_routerConfig hsteady (fun _ _ h => h) none w habsent).bind fun address w₁ h₁ => ?_
  rw [Program.sat_ite]
  split
  · exact trivial
  rw [Program.sat_bind, performInit, Program.sat_modifyState, Program.sat_bind]
  refine sat_rtConnectionCreate _ _ trivial ?_ ?_
  · rintro name w₂ ⟨hok, rfl⟩
    rw [if_neg (fun hne => hne rfl), Program.sat_bind, sat_unlock]
    refine .created rfl habsent ?_
    rintro ⟨err, -, herr⟩
    cases hok.trans herr
  · rintro err w₂ ⟨herror, rfl⟩
    rw [Program.sat_ite]
    split
    case isTrue hne =>
      rw [Program.sat_bind, Program.sat_modifyState, Program.sat_bind]
      refine (sat_performCleanup_initialized rfl rfl).mono fun _ w₃ h₃ => ?_
      rw [Program.sat_bind, sat_unlock]
      exact .refused habsent ⟨err, hne, herror.symm⟩ h₃
    case isFalse heq =>
      rw [Program.sat_bind, sat_unlock]
      refine .created rfl habsent ?_
      rintro ⟨err', hne, herr⟩
      cases herror.trans herr
      exact heq hne

/-- What an attempt to open a connection does, whatever the file. -/
theorem sat_rbusOpenBrokerConnection_opening
    (componentName : Option CString) :
    Program.Sat (openingContract disabled created) (rbusOpenBrokerConnection componentName)
      (fun ret w' => Opened componentName created w w' ret) w := by
  unfold rbusOpenBrokerConnection rbusOpenBrokerConnection2
  cases componentName with
  | none =>
      exact .unnamed rfl rfl
  | some componentName =>
      have hinit : Program.Keeps (openingContract disabled created)
          (fun w' : World M W => w'.gConnection = w.gConnection) initMutex :=
        keeps_initMutex fun _ h => h
      refine (hinit w rfl).bind fun _ w₁ h₁ => ?_
      rw [Program.sat_bind, sat_lock, Program.sat_bind, Program.sat_getState, Program.sat_ite]
      split
      case isTrue hsome =>
        rw [Program.sat_bind, sat_unlock]
        exact .present rfl (h₁ ▸ hsome) h₁
      case isFalse hnone =>
        have habsent : w₁.gConnection = none := by
          simpa using hnone
        refine (sat_openNewConnection_opening ?_ componentName).mono fun ret w₂ h₂ => ?_
        · exact habsent
        · cases h₂ with
          | unnamed hname =>
              cases hname
          | present _ hpresent =>
              rw [habsent] at hpresent
              cases hpresent
          | created hname _ hcreated =>
              exact .created hname (h₁ ▸ habsent) hcreated
          | refused _ hrefused hsame =>
              exact .refused (h₁ ▸ habsent) hrefused hsame

end Opening

section Runs

variable {M W : Type} [MessageApi M W]

/-- The states of a process and of the file in the course of a run: connections are opened and
closed, the file is created and removed, and other code runs that leaves the connection open or
closed.  Anything may happen while a connection is closed. -/
inductive BusRun : World M W → Bool → Prop
  | initial (daemonAddress advisoryTopic : CString) (disabled : Bool) :
      BusRun (World.initial daemonAddress advisoryTopic) disabled
  | createFile {w : World M W} {disabled : Bool}
      (h : BusRun w disabled) :
      BusRun w true
  | removeFile {w : World M W} {disabled : Bool}
      (h : BusRun w disabled) :
      BusRun w false
  | opens {w w' : World M W} {disabled : Bool} {componentName : Option CString}
      {created : Creation} {ret : RbusError}
      (h : BusRun w disabled)
      (hreturns : Program.Returns (opening disabled created)
        (rbusOpenBrokerConnection componentName) w ret w') :
      BusRun w' disabled
  | closes {w w' : World M W} {disabled : Bool} {ret : RbusError}
      (h : BusRun w disabled)
      (hreturns : Program.Returns (fun _ _ _ _ => True) rbusCloseBrokerConnection w ret w') :
      BusRun w' disabled
  | other {w w' : World M W} {disabled : Bool}
      (h : BusRun w disabled)
      (hsame : w'.gConnection.isSome = w.gConnection.isSome) :
      BusRun w' disabled

/-- The call neither reports success nor creates a connection. -/
def StaysClosed (ret : RbusError) (w w' : World M W) : Prop :=
  ret ≠ .success ∧ ¬(w.gConnection = none ∧ w'.gConnection.isSome = true)

/--
In every run: a call that would be told that the bus is disabled stays closed exactly when the
file is absent, when there is no component name, or when there is no connection yet and the router
refuses one.
-/
theorem closed_while_disabled_iff
    {w w' : World M W} {disabled : Bool} {componentName : Option CString} {created : Creation}
    {ret : RbusError}
    (_ : BusRun w disabled)
    (hreturns : Program.Returns (opening disabled created)
      (rbusOpenBrokerConnection componentName) w ret w') :
    (ReportsDisabled disabled created w' → StaysClosed ret w w') ↔
      disabled = false ∨ componentName = none ∨ w.gConnection = none ∧ created.Refused := by
  have hopened := Program.returns_of_sat (C := openingContract disabled created)
    (fun _ _ _ _ henv => henv) (sat_rbusOpenBrokerConnection_opening componentName) hreturns
  rw [reportsDisabled_iff]
  cases disabled with
  | false =>
      exact iff_of_true (by rintro ⟨⟩) (Or.inl rfl)
  | true =>
      constructor
      · intro h
        obtain ⟨hfailed, -⟩ := h rfl
        cases hopened with
        | unnamed hname =>
            exact Or.inr (Or.inl hname)
        | present | created =>
            exact absurd rfl hfailed
        | refused habsent hrefused =>
            exact Or.inr (Or.inr ⟨habsent, hrefused⟩)
      · intro h _
        cases hopened with
        | unnamed _ hsame =>
            refine ⟨RbusError.noConfusion, fun hmade => ?_⟩
            rw [hsame, hmade.1] at hmade
            exact Bool.false_ne_true hmade.2
        | present hname hpresent =>
            rcases h with hfile | rfl | ⟨habsent, -⟩
            · cases hfile
            · cases hname
            · rw [habsent] at hpresent
              cases hpresent
        | created hname _ hcreated =>
            rcases h with hfile | rfl | ⟨-, hrefused⟩
            · cases hfile
            · cases hname
            · exact absurd hrefused hcreated
        | refused _ _ hsame =>
            refine ⟨RbusError.noConfusion, fun hmade => ?_⟩
            rw [hsame] at hmade
            exact Bool.false_ne_true hmade.2

/-- What the router answers to an attempt to open a connection. -/
def openingAnswer (created : Creation) :
    (e : Call Bytes (List UInt8)) → World Bytes (List UInt8) →
      Option (e.Answer × World Bytes (List UInt8))
  | .readRouterConfig, w => some (none, w)
  | .connectionCreate .., w => some (created, w)
  | _, _ => none

theorem opening_of_openingAnswer
    {disabled : Bool} {created : Creation}
    (e : Call Bytes (List UInt8)) (w : World Bytes (List UInt8)) (a : e.Answer)
    (w' : World Bytes (List UInt8))
    (h : openingAnswer created e w = some (a, w')) :
    opening disabled created e w a w' := by
  cases e with
  | readRouterConfig =>
      obtain ⟨rfl, rfl⟩ := Prod.mk.inj (Option.some.inj h)
      exact ⟨trivial, rfl⟩
  | connectionCreate =>
      obtain ⟨rfl, rfl⟩ := Prod.mk.inj (Option.some.inj h)
      exact ⟨rfl, rfl⟩
  | _ =>
      cases h

/-- A process before it opens a connection. -/
def sampleUnopened : World Bytes (List UInt8) :=
  World.initial .empty .empty

/-- With the file present, a connection that the router refuses stays closed. -/
theorem refused_stays_closed :
    ∃ (ret : RbusError) (w : World Bytes (List UInt8)),
      Program.Returns (opening true (.error .rtFail)) (rbusOpenBrokerConnection (some .empty))
        sampleUnopened ret w ∧
      ReportsDisabled true (.error .rtFail) w ∧ StaysClosed ret sampleUnopened w := by
  have hrun : ((rbusOpenBrokerConnection (some .empty) sampleUnopened).run
      (openingAnswer (.error .rtFail))).isSome = true := by
    decide +kernel
  obtain ⟨⟨ret, w⟩, hw⟩ := Option.isSome_iff_exists.mp hrun
  have hreturns : Program.Returns (opening true (.error .rtFail))
      (rbusOpenBrokerConnection (some .empty)) sampleUnopened ret w :=
    Program.returns_of_run opening_of_openingAnswer hw
  have hdisabled : ReportsDisabled true (.error .rtFail) w := reportsDisabled_iff.mpr rfl
  have hrefused : Creation.Refused (.error .rtFail) := ⟨.rtFail, RtError.noConfusion, rfl⟩
  exact ⟨ret, w, hreturns, hdisabled, (closed_while_disabled_iff (.initial .empty .empty true)
    hreturns).mpr (Or.inr (Or.inr ⟨rfl, hrefused⟩)) hdisabled⟩

/-- With the file present, a connection is opened. -/
theorem opened_while_disabled :
    ∃ w : World Bytes (List UInt8),
      BusRun sampleUnopened true ∧
      Program.Returns (opening true (.ok sampleObjectName))
        (rbusOpenBrokerConnection (some .empty)) sampleUnopened .success w ∧
      ReportsDisabled true (.ok sampleObjectName) w ∧
      w.gConnection.isSome = true ∧ ¬ StaysClosed .success sampleUnopened w := by
  have hrun : ((rbusOpenBrokerConnection (some .empty) sampleUnopened).run
      (openingAnswer (.ok sampleObjectName))).map (fun r => (r.1, r.2.gConnection.isSome)) =
        some (.success, true) := by
    decide +kernel
  obtain ⟨⟨ret, w⟩, hw, hresult⟩ := Option.map_eq_some_iff.mp hrun
  obtain ⟨rfl, hsome⟩ := Prod.mk.inj hresult
  exact ⟨w, .initial .empty .empty true, Program.returns_of_run opening_of_openingAnswer hw,
    reportsDisabled_iff.mpr rfl, hsome, fun h => h.1 rfl⟩

end Runs

end RbusCore
