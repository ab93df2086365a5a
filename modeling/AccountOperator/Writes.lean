import AccountOperator.Reconcile

namespace AccountOperator

/-- The texts `setAccountFailedV2` receives as its message. -/
inductive FailureMessage (env : Env) : String → Prop
  | stsFailure (accountID err : String) : FailureMessage env
      ("Failed to create STS Credentials for account ID " ++ accountID ++ ": " ++ err)
  | creationTimeout : FailureMessage env
      ("Creation pending for longer than " ++ toString env.waitTime ++ " minutes")
  | ccsInitFailure : FailureMessage env "Failed to initialize new CCS account"

theorem FailureMessage.long {env : Env} {message : String} (h : FailureMessage env message) :
    20 < message.length := by
  cases h with
  | stsFailure =>
    have : "Failed to create STS Credentials for account ID ".length = 48 := rfl
    simp only [String.length_append, this]
    omega
  | creationTimeout =>
    have : "Creation pending for longer than ".length = 33 := rfl
    simp only [String.length_append, this]
    omega
  | ccsInitFailure => decide

/-- The states a status write of a reconciliation of `s` sets, failure messages included. -/
inductive WrittenState (env : Env) (s : Account) : String → Prop
  | creating (fresh : s.spec.byoc = true ∨ s.status.state = "") : WrittenState env s accountCreating
  | failed : WrittenState env s accountFailed
  | ready (kind : s.spec.byoc = true ∨ s.spec.manualSTSMode = true ∨
      s.status.state = accountOptInRegionEnabledV2) : WrittenState env s accountReady
  | message {text : String} (h : FailureMessage env text) : WrittenState env s text

namespace WrittenState

variable {env : Env} {s : Account} {state : String}

theorem fresh_of_creating (h : WrittenState env s state) (creating : state = accountCreating) :
    s.spec.byoc = true ∨ s.status.state = "" := by
  cases h with
  | creating fresh => exact fresh
  | failed | ready => exact absurd creating (by decide)
  | message m => exact absurd (creating ▸ m.long) (by decide)

theorem not_mem_unwritten (h : WrittenState env s state) :
    state ∉ ["", accountPendingV2, accountPendingVerificationV2, accountInitializingRegionsV2,
      accountOptingInRegionsV2, accountOptInRegionEnabledV2] := by
  cases h with
  | creating | failed | ready => decide
  | message m =>
    intro mem
    have short : ∀ t ∈ ["", accountPendingV2, accountPendingVerificationV2, accountInitializingRegionsV2,
        accountOptingInRegionsV2, accountOptInRegionEnabledV2], t.length ≤ 20 := by decide
    exact absurd (short _ mem) (by have := m.long; omega)

end WrittenState

/-- An account the controller still acts on: not `Failed`, or being deleted. -/
def Account.Active (s : Account) : Prop := s.isFailed = false ∨ s.isPendingDeletion = true

def SameKind (s t : Account) : Prop :=
  t.spec.byoc = s.spec.byoc ∧ t.spec.manualSTSMode = s.spec.manualSTSMode

theorem SameKind.of_spec {s t : Account} (h : t.spec = s.spec) : SameKind s t := by
  simp [SameKind, h]

theorem SameKind.trans {s t u : Account} (h₁ : SameKind s t) (h₂ : SameKind t u) : SameKind s u :=
  ⟨h₂.1.trans h₁.1, h₂.2.trans h₁.2⟩

/-- What one event of a reconciliation of the stored account `s` may be. -/
def Allowed (env : Env) (s : Account) : Event → Prop
  | .statusUpdate a _ => WrittenState env s a.status.state ∧ s.Active
  | .update a _ => (s.spec.awsAccountID ≠ "" → a.spec.awsAccountID = s.spec.awsAccountID) ∧ SameKind s a
  | .createAccount _ => s.status.state = "" ∧ s.spec.awsAccountID = "" ∧ s.Active
  | .claimStatusUpdate _ | .assumeRole _ | .describeCreateAccountStatus _ | .tagResource _ => s.Active

theorem Allowed.sameKind {env : Env} {s : Account} (e : Event) (t : Account) (allowed : Allowed env s e)
    (h : SameKind s t) : SameKind s (e.apply t) := by
  cases e with
  | update a r =>
    cases r with
    | none => exact allowed.2
    | some => exact h
  | statusUpdate a r => cases r <;> exact h
  | claimStatusUpdate | assumeRole | createAccount | describeCreateAccountStatus | tagResource => exact h

theorem Allowed.update_of_inactive {env : Env} {s : Account} {e : Event} (allowed : Allowed env s e)
    (inactive : ¬s.Active) : ∃ a r, e = .update a r := by
  cases e with
  | update a r => exact ⟨a, r, rfl⟩
  | statusUpdate => exact absurd allowed.2 inactive
  | createAccount => exact absurd allowed.2.2 inactive
  | claimStatusUpdate | assumeRole | describeCreateAccountStatus | tagResource =>
    exact absurd allowed inactive

section Steps

variable {env : Env} {s a : Account} {configMap : ConfigMap} {isOptIn : Bool} {optInRegions : String}

theorem Emits.sameKind {α : Type} {m : ReconcileM α} (h : Emits (Allowed env s) m) :
    Triple (SameKind s) (Allowed env s) (fun _ => True) m :=
  h.triple Allowed.sameKind

theorem ready_of_readyForInitialization (kind : SameKind s a) (ready : a.readyForInitialization = true)
    (unverified : a.isPendingVerification = false)
    (optIn : a.status.state = accountOptInRegionEnabledV2 → s.status.state = accountOptInRegionEnabledV2) :
    WrittenState env s accountReady :=
  .ready (kind.1 ▸ kind.2 ▸ (Account.kind_of_readyForInitialization ready unverified).imp_right
    (Or.imp_right optIn))

theorem creating_ne_optIn : accountCreating ≠ accountOptInRegionEnabledV2 := by decide

theorem removeFinalizer_emits (hspec : a.spec = s.spec) (name : String) :
    Emits (Allowed env s) (removeFinalizer a name) :=
  (Emits.update fun _ => ⟨fun _ => hspec ▸ rfl, .of_spec hspec⟩).bind fun _ => Emits.pure _

theorem setAccountFailedV2_emits {ctype : AccountConditionType} {reason message state : String}
    (written : WrittenState env s message) (active : s.Active) :
    Emits (Allowed env s) (setAccountFailedV2 a ctype reason message state) :=
  (Emits.statusUpdate fun _ => ⟨written, active⟩).bind fun _ => Emits.pure _

theorem handleAWSClientErrorV2_emits (err : GoError) (active : s.Active) :
    Emits (Allowed env s) (handleAWSClientErrorV2 a err) :=
  (setAccountFailedV2_emits (.message (.stsFailure _ _)) active).bind fun _ => Emits.pure _

theorem reconcileDeletion_emits (hspec : a.spec = s.spec) (deleting : s.isPendingDeletion = true) :
    Emits (Allowed env s) (reconcileDeletion env a) := by
  have active : s.Active := .inr deleting
  unfold reconcileDeletion
  split
  · exact (removeFinalizer_emits hspec _).bind fun _ => Emits.pure _
  · refine (handleRoleAssumptionV2_emits (fun _ => active) _ _ _).bind fun r => ?_
    rcases r with err | _
    · exact handleAWSClientErrorV2_emits err active
    · exact Emits.ite (fun _ => (removeFinalizer_emits hspec _).bind fun _ => Emits.pure _)
        fun _ => Emits.pure _

theorem initializeAccount_emits (ready : WrittenState env s accountReady) (active : s.Active) :
    Emits (Allowed env s) (initializeAccount a) :=
  (Emits.statusUpdate fun _ => ⟨ready, active⟩).bind fun _ => Emits.pure _

theorem reconcileInitialization_emits (active : s.Active)
    (keeps : s.spec.awsAccountID ≠ "" → a.spec.awsAccountID = s.spec.awsAccountID)
    (kind : SameKind s a) (unverified : a.isPendingVerification = false)
    (optIn : a.status.state = accountOptInRegionEnabledV2 → s.status.state = accountOptInRegionEnabledV2) :
    Emits (Allowed env s) (reconcileInitialization env configMap isOptIn optInRegions a) := by
  unfold reconcileInitialization
  refine Emits.ite (fun _ => Emits.pure _) fun _ => ?_
  split
  · exact Emits.pure _
  · refine Emits.ite (fun ready => ?_) fun _ => Emits.pure _
    have ready : WrittenState env s accountReady := ready_of_readyForInitialization kind ready unverified optIn
    refine Emits.ite (fun _ => ?_) fun _ => Emits.ite (fun _ => ?_) fun _ => ?_
    · refine (Emits.read _).bind fun r => ?_
      rcases r with _ | _
      · exact initializeAccount_emits ready active
      · exact (Emits.respond _ _ fun _ => active).bind fun _ => Emits.pure _
    · exact (Emits.read _).bind fun _ => (Emits.update fun _ => ⟨keeps, kind⟩).bind fun _ => Emits.pure _
    · exact initializeAccount_emits ready active

theorem buildAccountV2_triple (kind : SameKind s a) (empty : s.status.state = "")
    (unassigned : s.spec.awsAccountID = "") (active : s.Active) :
    Triple (SameKind s) (Allowed env s) (fun r => SameKind s r.1) (buildAccountV2 a) := by
  unfold buildAccountV2
  refine (createAccountV2_emits (fun _ => ⟨empty, unassigned, active⟩) fun _ => active).sameKind.bind
    fun ⟨out, err⟩ _ => ?_
  rcases err with _ | _
  · refine getAccount_triple.bind fun fetched stored => ?_
    rcases out with ⟨_ | ⟨_, _, _ | _⟩⟩ <;> rcases fetched with _ | _
    all_goals first | exact Triple.throw _ | exact Triple.pure kind | exact Triple.pure (stored _ rfl)
  · exact Triple.ite (fun _ => (Emits.statusUpdate fun _ => ⟨.failed, active⟩).sameKind.bind fun r _ => by
      cases r <;> exact Triple.pure kind) fun _ => Triple.ite (fun _ => Triple.pure kind) fun _ =>
        Triple.pure kind

theorem nonCCSAssignAccountIDV2_triple (kind : SameKind s a) (empty : s.status.state = "")
    (unassigned : s.spec.awsAccountID = "") (active : s.Active) :
    Triple (SameKind s) (Allowed env s)
      (fun r => r.2 = none → SameKind s r.1 ∧ r.1.status.state = accountCreating)
      (nonCCSAssignAccountIDV2 env a) := by
  unfold nonCCSAssignAccountIDV2
  refine Triple.bind (P := fun r => SameKind s r.1) ?built fun ⟨built, _, err⟩ builtKind => ?_
  case built =>
    exact Triple.ite (fun _ => buildAccountV2_triple kind empty unassigned active) fun _ => Triple.pure kind
  rcases err with _ | _
  · refine (Emits.statusUpdate fun _ => ⟨.creating (.inr empty), active⟩).sameKind.bind fun r _ => ?_
    rcases r with _ | _
    · exact (Emits.respond _ _ fun _ => active).sameKind.bind fun _ _ =>
        (Emits.update fun _ => ⟨fun assigned => absurd unassigned assigned, by split <;> exact builtKind⟩).sameKind.bind
          fun _ _ => Triple.pure fun _ => by split <;> exact ⟨builtKind, rfl⟩
    · exact Triple.pure fun h => nomatch h
  · exact Triple.pure fun h => nomatch h

theorem reconcileBYOC_emits (hspec : a.spec = s.spec) (byoc : s.spec.byoc = true) (active : s.Active) :
    Emits (Allowed env s) (reconcileBYOC env configMap isOptIn optInRegions a) := by
  unfold reconcileBYOC
  split
  · exact (setAccountFailedV2_emits (.message .ccsInitFailure) active).bind fun _ => Emits.pure _
  · refine (Emits.statusUpdate fun _ => ⟨.creating (.inl byoc), active⟩).bind fun r => ?_
    rcases r with _ | _
    · exact reconcileInitialization_emits active (fun _ => hspec ▸ rfl) (.of_spec hspec) rfl
        fun h => absurd h creating_ne_optIn
    · exact Emits.pure _

theorem reconcileNonBYOC_triple (hspec : a.spec = s.spec) (hstatus : a.status = s.status)
    (active : s.Active) : Triple (SameKind s) (Allowed env s) (fun _ => True)
      (reconcileNonBYOC env configMap isOptIn optInRegions a) := by
  have kind : SameKind s a := .of_spec hspec
  unfold reconcileNonBYOC
  refine Triple.ite (fun _ => (Emits.pure _).sameKind) fun unverified =>
    Triple.ite (fun _ => (Emits.pure _).sameKind) fun _ => ?_
  have unverified : a.isPendingVerification = false := by simpa using unverified
  refine (Emits.read _).sameKind.bind fun _ _ => Triple.ite (fun _ => ?_) fun _ => Triple.ite
    (fun fresh => ?_) fun _ => (reconcileInitialization_emits active (fun _ => hspec ▸ rfl) kind
      unverified (hstatus ▸ id)).sameKind
  · exact ((setAccountFailedV2_emits (.message .creationTimeout) active).bind fun ⟨_, stateErr⟩ => by
      cases stateErr <;> exact Emits.pure _).sameKind
  · have empty : s.status.state = "" := (by
      simpa [Account.isUnclaimedAndHasNoState, Account.hasState, hstatus] using fresh :
        s.status.state = "" ∧ _).1
    refine Triple.ite (fun unassigned => ?_) fun _ => ?_
    · have unassigned : s.spec.awsAccountID = "" := by
        simpa [Account.hasAwsAccountID, hspec] using unassigned
      refine (Emits.read _).sameKind.bind fun _ _ => Triple.ite (fun _ => (Emits.pure _).sameKind)
        fun _ => ?_
      refine (nonCCSAssignAccountIDV2_triple kind empty unassigned active).bind fun ⟨_, err⟩ post => ?_
      rcases err with _ | _
      · obtain ⟨kind, creating⟩ := post rfl
        dsimp only at kind creating
        exact (reconcileInitialization_emits active (fun assigned => absurd unassigned assigned) kind
          (by simp [Account.isPendingVerification, creating]) fun h => absurd (creating ▸ h)
            creating_ne_optIn).sameKind
      · exact (Emits.pure _).sameKind
    · refine ((Emits.statusUpdate fun _ => ⟨.creating (.inr empty), active⟩).bind fun r => ?_).sameKind
      rcases r with _ | _
      · exact reconcileInitialization_emits active (fun _ => hspec ▸ rfl) kind rfl
          fun h => absurd h creating_ne_optIn
      · exact Emits.pure _

theorem reconcileByState_triple (finalizers : List String) : Triple (SameKind s) (Allowed env s)
    (fun _ => True) (reconcileByState env configMap isOptIn optInRegions { s with finalizers }) := by
  unfold reconcileByState
  refine Triple.ite (fun deleting => Emits.sameKind (reconcileDeletion_emits rfl deleting)) fun _ =>
    Triple.ite (fun _ => (Emits.pure _).sameKind) fun live => ?_
  have active : s.Active := .inl (by simpa using live)
  exact Triple.ite (fun _ => (Emits.pure _).sameKind) fun _ =>
    Triple.ite (fun byoc => Emits.sameKind (reconcileBYOC_emits rfl byoc active)) fun _ =>
      reconcileNonBYOC_triple rfl rfl active

theorem addFinalizer_triple : Triple (SameKind s) (Allowed env s)
    (fun r => ∃ finalizers, r.1 = { s with finalizers }) (addFinalizer env s) := by
  unfold addFinalizer
  split
  · exact (Emits.update fun _ => ⟨fun _ => rfl, .of_spec rfl⟩).sameKind.bind fun _ _ => Triple.pure ⟨_, rfl⟩
  · exact Triple.pure ⟨s.finalizers, rfl⟩

theorem reconcileAccount_triple : Triple (SameKind s) (Allowed env s) (fun _ => True)
    (reconcileAccount env configMap isOptIn optInRegions s) := by
  unfold reconcileAccount
  split
  · refine addFinalizer_triple.bind fun ⟨_, err⟩ ⟨finalizers, added⟩ => ?_
    obtain rfl := added
    rcases err with _ | _
    · exact reconcileByState_triple finalizers
    · exact (Emits.pure _).sameKind
  · exact reconcileByState_triple s.finalizers

end Steps

/-- Every event of a reconciliation is allowed for the account stored when it began. -/
theorem reconcile_emits (env : Env) (w : World) : EmitsAt (Allowed env w.store) (reconcile env) w :=
  reconcile_emitsAt Allowed.sameKind ⟨rfl, rfl⟩ fun _ _ _ => reconcileAccount_triple

def reconcileEvents (env : Env) (w : World) : List Event :=
  ((reconcile env).run.run w).2.log.drop w.log.length

theorem reconcileEvents_of_emitsAt {Q : Event → Prop} {env : Env} {w : World}
    (h : EmitsAt Q (reconcile env) w) :
    ((reconcile env).run.run w).2.log = w.log ++ reconcileEvents env w ∧
    ((reconcile env).run.run w).2.store = (reconcileEvents env w).foldl Event.apply w.store ∧
    ∀ e ∈ reconcileEvents env w, Q e := by
  obtain ⟨new, hl, hs, hq⟩ := h
  have events : reconcileEvents env w = new := by simp [reconcileEvents, hl]
  exact events ▸ ⟨hl, hs, hq⟩

theorem reconcileEvents_spec (env : Env) (w : World) :
    ((reconcile env).run.run w).2.log = w.log ++ reconcileEvents env w ∧
    ((reconcile env).run.run w).2.store = (reconcileEvents env w).foldl Event.apply w.store ∧
    ∀ e ∈ reconcileEvents env w, Allowed env w.store e :=
  reconcileEvents_of_emitsAt (reconcile_emits env w)

section Events

variable {env : Env} {w : World} {a : Account} {r : Option GoError}

/-- Every status write sets `Creating`, `Failed`, `Ready` or a failure message. -/
theorem reconcile_status_write_state (written : .statusUpdate a r ∈ reconcileEvents env w) :
    WrittenState env w.store a.status.state :=
  ((reconcileEvents_spec env w).2.2 _ written).1

def Account.creating : Account :=
  ⟨[Env.sample.accountFinalizer], [], none, ⟨"", false, false, ""⟩, ⟨"Creating", false, ""⟩⟩

def Responses.expired : Responses := { Responses.succeeding with creationConditionOlderThan := true }

theorem reconcile_expired_creation_run :
    ((reconcile .sample).run.run (.start .creating .expired)).2.log =
      [.statusUpdate (setAccountStatus .creating accountFailed .accountCreationFailed
        "Creation pending for longer than 30 minutes") none] ∧
    ((reconcile .sample).run.run (.start .creating .expired)).2.store.status.state =
      "Creation pending for longer than 30 minutes" := by
  obtain ⟨k, j, isOptIn, regions, run⟩ := @reconcile_run_of_answered .sample (.start .creating .expired)
    ⟨[]⟩ (fun _ => rfl) (fun _ => rfl) rfl (fun named => absurd rfl named.1)
  rw [run]
  refine ⟨?_, ?_⟩ <;> simp [reconcileAccount, addFinalizer, reconcileByState, reconcileNonBYOC, run_bind,
    creationConditionOlderThan, setAccountFailedV2, statusUpdate, popWrite, Event.apply, World.start,
    Responses.expired, Responses.succeeding, Env.sample, Account.creating, Account.isPendingDeletion,
    Account.isFailed, Account.isInitializingRegions, newBYOCAccountV2, Account.isPendingVerification,
    Account.isReadyUnclaimedAndHasClaimLink, Account.isCreating, Account.isReady] <;> rfl

theorem reconcile_creation_timeout_stores_message :
    ((reconcile .sample).run.run (.start .creating .expired)).2.store.status.state =
      "Creation pending for longer than 30 minutes" :=
  reconcile_expired_creation_run.2

theorem reconcile_status_write_state_on_timeout :
    WrittenState .sample Account.creating (setAccountStatus .creating accountFailed
      .accountCreationFailed "Creation pending for longer than 30 minutes").status.state :=
  @reconcile_status_write_state .sample (.start .creating .expired) (setAccountStatus .creating accountFailed
    .accountCreationFailed "Creation pending for longer than 30 minutes") none (by
    rw [reconcileEvents, reconcile_expired_creation_run.1]
    simp [World.start])

/-- A non-BYOC account never goes back to `Creating`. -/
theorem reconcile_creating_write_fresh (written : .statusUpdate a r ∈ reconcileEvents env w)
    (creating : a.status.state = accountCreating) :
    w.store.spec.byoc = true ∨ w.store.status.state = "" :=
  ((reconcileEvents_spec env w).2.2 _ written).1.fresh_of_creating creating

def Account.readyBYOC : Account :=
  ⟨[Env.sample.accountFinalizer], [], none, ⟨"123456789012", true, false, "claim"⟩, ⟨"Ready", true, ""⟩⟩

theorem reconcile_readyBYOC_run :
    ((reconcile .sample).run.run (.start .readyBYOC .succeeding)).2.log =
      [.statusUpdate (setAccountStatus .readyBYOC accountCreating .accountCreating accountCreating) none] ∧
    ((reconcile .sample).run.run (.start .readyBYOC .succeeding)).2.store.status.state =
      accountCreating := by
  obtain ⟨k, j, isOptIn, regions, run⟩ := @reconcile_run_of_answered .sample (.start .readyBYOC .succeeding)
    ⟨[]⟩ (fun _ => rfl) (fun _ => rfl) rfl (fun named => absurd rfl named.1)
  rw [run]
  refine ⟨?_, ?_⟩ <;> simp [reconcileAccount, addFinalizer, reconcileByState, reconcileBYOC,
    initializeNewCCSAccountV2, reconcileInitialization, run_bind, statusUpdate, popWrite, Event.apply,
    World.start, Responses.succeeding, Env.sample, Account.readyBYOC, Account.isPendingDeletion,
    Account.isFailed, Account.isInitializingRegions, newBYOCAccountV2]

theorem reconcile_creating_write_fresh_on_readyBYOC :
    Account.readyBYOC.spec.byoc = true ∨ Account.readyBYOC.status.state = "" :=
  @reconcile_creating_write_fresh .sample (.start .readyBYOC .succeeding)
    (setAccountStatus .readyBYOC accountCreating .accountCreating accountCreating) none (by
    rw [reconcileEvents, reconcile_readyBYOC_run.1]
    simp [World.start]) rfl

theorem reconcile_ready_byoc_account_back_to_creating :
    newBYOCAccount .readyBYOC = false ∧
    ((reconcile .sample).run.run (.start .readyBYOC .succeeding)).2.store.status.state = accountCreating :=
  ⟨rfl, reconcile_readyBYOC_run.2⟩

/-- No status write sets a state the V2 reconciler leaves to others. -/
theorem reconcile_never_writes_unset_states (written : .statusUpdate a r ∈ reconcileEvents env w) :
    a.status.state ∉ ["", accountPendingV2, accountPendingVerificationV2, accountInitializingRegionsV2,
      accountOptingInRegionsV2, accountOptInRegionEnabledV2] :=
  ((reconcileEvents_spec env w).2.2 _ written).1.not_mem_unwritten

theorem reconcile_never_writes_unset_states_on_timeout :
    (setAccountStatus .creating accountFailed .accountCreationFailed
      "Creation pending for longer than 30 minutes").status.state ∉
      ["", accountPendingV2, accountPendingVerificationV2, accountInitializingRegionsV2,
        accountOptingInRegionsV2, accountOptInRegionEnabledV2] :=
  @reconcile_never_writes_unset_states .sample (.start .creating .expired) (setAccountStatus .creating
    accountFailed .accountCreationFailed "Creation pending for longer than 30 minutes") none (by
    rw [reconcileEvents, reconcile_expired_creation_run.1]
    simp [World.start])

theorem reconcileAccount_failed_emits {configMap : ConfigMap} {isOptIn : Bool} {optInRegions : String}
    {s : Account} {Q : Event → Prop} (adds : ∀ r, Q (.update
      { s with finalizers := s.finalizers ++ [env.accountFinalizer] } r))
    (failed : s.isFailed = true) (live : s.isPendingDeletion = false) :
    Emits Q (reconcileAccount env configMap isOptIn optInRegions s) := by
  have settled (finalizers : List String) :
      Emits Q (reconcileByState env configMap isOptIn optInRegions { s with finalizers }) := by
    unfold reconcileByState
    rw [if_neg (by simpa [Account.isPendingDeletion] using live),
      if_pos (by simpa [Account.isFailed] using failed)]
    exact Emits.pure _
  have added : Triple (fun _ => True) Q (fun r => ∃ finalizers, r.1 = { s with finalizers })
      (addFinalizer env s) := by
    unfold addFinalizer
    split
    · exact ((Emits.update adds).triple fun _ _ _ _ => trivial).bind fun _ _ => Triple.pure ⟨_, rfl⟩
    · exact Triple.pure ⟨s.finalizers, rfl⟩
  intro w
  unfold reconcileAccount
  split
  · refine Triple.emitsAt (added.bind (R := fun _ => True) fun ⟨_, err⟩ ⟨finalizers, h⟩ => ?_) trivial
    obtain rfl : _ = { s with finalizers } := h
    rcases err with _ | _
    · exact (settled finalizers).triple fun _ _ _ _ => trivial
    · exact (Emits.pure _).triple fun _ _ _ _ => trivial
  · exact settled s.finalizers w

/-- A live `Failed` account gets only the spec write that adds its finalizer. -/
theorem reconcile_failed_account_untouched (failed : w.store.isFailed = true)
    (live : w.store.isPendingDeletion = false) :
    ∀ e ∈ reconcileEvents env w,
      ∃ r, e = .update { w.store with finalizers := w.store.finalizers ++ [env.accountFinalizer] } r :=
  (reconcileEvents_of_emitsAt (reconcile_emitsAt (I := fun _ => True) (fun _ _ _ _ => trivial) trivial
    fun _ _ _ => (reconcileAccount_failed_emits (fun r => ⟨r, rfl⟩) failed live).triple
      fun _ _ _ _ => trivial)).2.2

def Account.failedBare : Account := ⟨[], [], none, ⟨"", false, false, ""⟩, ⟨"Failed", false, ""⟩⟩

theorem reconcile_failed_live_account_untouched :
    Account.failedBare.isFailed = true ∧ Account.failedBare.isPendingDeletion = false ∧
      ∀ e ∈ reconcileEvents .sample (.start .failedBare .succeeding),
        ∃ r, e = .update { Account.failedBare with finalizers := [Env.sample.accountFinalizer] } r :=
  ⟨rfl, rfl, reconcile_failed_account_untouched rfl rfl⟩

def ConfigMap.amiOwner : ConfigMap := ⟨[("ami-owner", "531415883065")]⟩

def Account.optedIn : Account :=
  ⟨[Env.sample.accountFinalizer], [(Env.sample.iamUserIDLabel, "abcde")], none,
    ⟨"123456789012", false, false, ""⟩, ⟨"OptInRegionsEnabled", false, ""⟩⟩

end Events

end AccountOperator
