import AccountOperator.Runs

namespace AccountOperator

/-- The stored account read back after creation of `id`: in `Creating`, with the new ID. -/
def assignedAccount (stored : Account) (id : String) : Account :=
  { setAccountStatus stored accountCreating .accountCreating accountCreating with
    spec := { stored.spec with awsAccountID := id } }

structure Account.AwaitingCreation (a : Account) : Prop where
  nonBYOC : a.spec.byoc = false
  nonSTS : a.spec.manualSTSMode = false
  live : a.deletionTimestamp = none
  empty : a.status.state = ""
  unclaimed : a.status.claimed = false
  unassigned : a.spec.awsAccountID = ""

/-- The store answers and accepts writes, CreateAccount succeeds, the first poll reports `id`. -/
structure CreationAnswers (r : Responses) (id : String) : Prop where
  reads : r.reads.head = none
  writes : ∀ n, r.writes.get n = none
  created : ∃ out, r.createAccount.head = .ok out
  succeeded : ∃ reason rest, r.describeCreateAccountStatus = .ok ⟨.succeeded, reason, some id⟩ :: rest

section Creation

variable {env : Env} {a : Account} {w : World} {id : String}

theorem reconcileInitialization_quiet {configMap : ConfigMap} {isOptIn : Bool} {optInRegions : String}
    (unready : a.readyForInitialization = false) :
    Emits (fun _ => False) (reconcileInitialization env configMap isOptIn optInRegions a) := by
  unfold reconcileInitialization
  refine Emits.ite (fun _ => Emits.pure _) fun _ => ?_
  split
  · exact Emits.pure _
  · rw [if_neg (by simp [unready])]
    exact Emits.pure _

theorem nonCCSAssignAccountIDV2_run (production : env.devModeProduction = true)
    (answers : CreationAnswers w.responses id) :
    ((nonCCSAssignAccountIDV2 env a).run.run w).1 = .ok (assignedAccount w.store id, none) ∧
    ((nonCCSAssignAccountIDV2 env a).run.run w).2.store = assignedAccount w.store id := by
  obtain ⟨reads, writes, ⟨out, created⟩, ⟨reason, rest, succeeded⟩⟩ := answers
  have first : w.responses.writes.head = none := writes 0
  have second : w.responses.writes.tail.head = none := writes 1
  simp [nonCCSAssignAccountIDV2, production, buildAccountV2, createAccountV2, run_bind, createAccount, created,
    takeDescribeScript, succeeded, pollCreateAccountStatus, describeCreateAccountStatusCall, getAccount, readError,
    reads, statusUpdate, popWrite, first, second, tagResource, update, assignedAccount, Event.apply, Except.map]

theorem reconcileByState_creation_run {configMap : ConfigMap} {isOptIn : Bool} {optInRegions : String}
    (production : env.devModeProduction = true)
    (budget : w.responses.accountsCanBeCreated = true ∨ env.isFedramp = true)
    (answers : CreationAnswers w.responses id) (awaiting : a.AwaitingCreation)
    (stored : w.store.spec = a.spec) :
    ((reconcileByState env configMap isOptIn optInRegions a).run.run w).2.store = assignedAccount w.store id := by
  have go : ¬(w.responses.accountsCanBeCreated = false ∧ env.isFedramp = false) := by
    rcases budget with h | h <;> simp [h]
  obtain ⟨result, store⟩ := nonCCSAssignAccountIDV2_run (a := a) production answers
  rcases assigned : (nonCCSAssignAccountIDV2 env a).run.run w with ⟨r, w'⟩
  simp only [assigned] at result store
  subst result
  have unready : (assignedAccount w.store id).readyForInitialization = false := by
    simp [Account.readyForInitialization, Account.isBYOC, assignedAccount, stored, awaiting.nonBYOC,
      awaiting.nonSTS, Account.isPendingVerification]
  simp [reconcileByState, reconcileNonBYOC, Account.isPendingDeletion, awaiting.live, Account.isFailed,
    awaiting.empty, Account.isInitializingRegions, newBYOCAccountV2, awaiting.nonBYOC,
    Account.isPendingVerification, Account.isReadyUnclaimedAndHasClaimLink, Account.isReady, Account.isCreating,
    Account.isUnclaimedAndHasNoState, Account.hasState, Account.isClaimed, awaiting.unclaimed,
    Account.hasAwsAccountID, awaiting.unassigned, run_bind, creationConditionOlderThan, accountsCanBeCreated, go,
    assigned, Emits.store_of_quiet (reconcileInitialization_quiet unready), store]

/-- Under such answers, creation stores the new account ID and `Creating`. -/
theorem reconcile_creation_assigns_id {configMap : ConfigMap} {out : CreateAccountOutput} {reason : String}
    {rest : List (Except GoError CreateAccountStatus)}
    (reliable : w.responses.Reliable) (config : w.configMap = some configMap)
    (secret : env.awsSecretName ≠ "" ∧ env.accountCrNamespace ≠ "" →
      ∃ s ∈ w.secrets, s.name = env.awsSecretName ∧ s.nameSpace = env.accountCrNamespace)
    (production : env.devModeProduction = true)
    (budget : w.responses.accountsCanBeCreated = true ∨ env.isFedramp = true)
    (created : w.responses.createAccount.head = .ok out)
    (succeeded : w.responses.describeCreateAccountStatus = .ok ⟨.succeeded, reason, some id⟩ :: rest)
    (awaiting : w.store.AwaitingCreation) :
    ((reconcile env).run.run w).2.store.spec.awsAccountID = id ∧
      ((reconcile env).run.run w).2.store.status.state = accountCreating := by
  obtain ⟨k, j, isOptIn, regions, run⟩ :=
    reconcile_run_of_answered reliable.reads reliable.loads config secret
  have consumed := reliable.consume k j
  rw [run]
  unfold reconcileAccount addFinalizer
  simp only [awaiting.nonSTS, Bool.not_false, ↓reduceIte]
  split
  · simp only [run_bind, update, respond_run, popWrite, consumed.writes_head, Event.apply, run_pure]
    rw [reconcileByState_creation_run production ?_ ?_ ?_ ?_]
    exacts [⟨rfl, rfl⟩, budget, ⟨consumed.reads_head, fun n => consumed.writes (n + 1), ⟨out, created⟩,
      ⟨reason, rest, succeeded⟩⟩, ⟨awaiting.1, awaiting.2, awaiting.3, awaiting.4, awaiting.5, awaiting.6⟩, rfl]
  · simp only [run_bind, run_pure]
    rw [reconcileByState_creation_run production ?_ ?_ awaiting ?_]
    exacts [⟨rfl, rfl⟩, budget, ⟨consumed.reads_head, consumed.writes, ⟨out, created⟩, ⟨reason, rest, succeeded⟩⟩,
      rfl]

theorem reconcileAccount_settled_quiet {configMap : ConfigMap} {isOptIn : Bool} {optInRegions : String}
    (nonBYOC : a.spec.byoc = false) (nonSTS : a.spec.manualSTSMode = false)
    (live : a.isPendingDeletion = false) (carries : env.accountFinalizer ∈ a.finalizers)
    (notCreating : a.isCreating = false) (started : a.isUnclaimedAndHasNoState = false)
    (notOptedIn : a.status.state ≠ accountOptInRegionEnabledV2) :
    Emits (fun _ => False) (reconcileAccount env configMap isOptIn optInRegions a) := by
  have unready (unverified : ¬a.isPendingVerification = true) : a.readyForInitialization = false := by
    simpa [Account.readyForInitialization, Account.isBYOC, nonBYOC, nonSTS] using And.intro unverified notOptedIn
  simp only [reconcileAccount, addFinalizer, nonSTS, carries, reconcileByState, live, newBYOCAccountV2, nonBYOC,
    reconcileNonBYOC, notCreating, started, Bool.not_false, List.elem_eq_mem, decide_True, Bool.not_true,
    Bool.false_eq_true, Bool.false_and, ↓reduceIte, run_pure, pure_bind]
  refine Emits.ite (fun _ => Emits.pure _) fun _ => Emits.ite (fun _ => Emits.pure _) fun _ =>
    Emits.ite (fun _ => Emits.pure _) fun unverified => Emits.ite (fun _ => Emits.pure _) fun _ =>
      (Emits.read _).bind fun _ => reconcileInitialization_quiet (unready unverified)

end Creation

section Settled

variable {env : Env} {w : World}

/-- A settled non-BYOC, non-STS account with the finalizer is left alone. -/
theorem reconcile_settled_account_quiet (nonBYOC : w.store.spec.byoc = false)
    (nonSTS : w.store.spec.manualSTSMode = false) (live : w.store.isPendingDeletion = false)
    (carries : env.accountFinalizer ∈ w.store.finalizers) (notCreating : w.store.isCreating = false)
    (started : w.store.isUnclaimedAndHasNoState = false)
    (notOptedIn : w.store.status.state ≠ accountOptInRegionEnabledV2) :
    reconcileEvents env w = [] ∧ ((reconcile env).run.run w).2.store = w.store := by
  obtain ⟨-, store, none⟩ := reconcileEvents_of_emitsAt (reconcile_emitsAt (I := fun _ => True)
    (fun _ _ _ _ => trivial) trivial fun _ _ _ =>
      (reconcileAccount_settled_quiet nonBYOC nonSTS live carries notCreating started notOptedIn).triple
        fun _ _ _ _ => trivial)
  have empty : reconcileEvents env w = [] := List.eq_nil_iff_forall_not_mem.mpr none
  exact ⟨empty, by rw [store, empty]; rfl⟩

def Account.readyClaimed : Account :=
  ⟨[Env.sample.accountFinalizer], [], none, ⟨"123456789012", false, false, "claim"⟩, ⟨"Ready", true, ""⟩⟩

theorem reconcile_ready_claimed_account_quiet :
    reconcileEvents .sample (.start .readyClaimed .succeeding) = [] ∧
      ((reconcile .sample).run.run (.start .readyClaimed .succeeding)).2.store = .readyClaimed :=
  reconcile_settled_account_quiet rfl rfl rfl (List.mem_singleton_self _) rfl rfl (by decide)

end Settled

def Round.creatingAccepted : Round where
  configMap := some ⟨[]⟩
  secrets := []
  responses := { Responses.succeeding with
    createAccount := Stream'.const (.ok ⟨"car-1"⟩)
    describeCreateAccountStatus := [.ok ⟨.succeeded, "", some "111122223333"⟩] }

theorem reconcile_creation_assigns_id_on_unstarted :
    ((reconcile .sample).run.run (Round.creatingAccepted.world .unstarted)).2.store.spec.awsAccountID =
      "111122223333" ∧
    ((reconcile .sample).run.run (Round.creatingAccepted.world .unstarted)).2.store.status.state =
      accountCreating :=
  reconcile_creation_assigns_id ⟨fun _ => rfl, fun _ => rfl, fun _ => rfl⟩ rfl
    (fun named => absurd rfl named.1) rfl (.inl rfl) rfl rfl ⟨rfl, rfl, rfl, rfl, rfl, rfl⟩

/-- A live BYOC account outside STS mode, with finalizer and label, not `Failed` nor initializing. -/
structure Account.ChurningBYOC (env : Env) (a : Account) : Prop where
  byoc : a.spec.byoc = true
  nonSTS : a.spec.manualSTSMode = false
  live : a.deletionTimestamp = none
  notFailed : a.isFailed = false
  notInitializing : a.isInitializingRegions = false
  carries : env.accountFinalizer ∈ a.finalizers
  labelled : accountCRHasIAMUserIDLabel env a = true

section Churn

variable {env : Env} {w : World}

/-- A BYOC account never settles: each reliable reconciliation writes `Creating`, then `Ready`. -/
theorem reconcile_byoc_account_churns {configMap : ConfigMap} (reliable : w.responses.Reliable)
    (config : w.configMap = some configMap)
    (secret : env.awsSecretName ≠ "" ∧ env.accountCrNamespace ≠ "" →
      ∃ s ∈ w.secrets, s.name = env.awsSecretName ∧ s.nameSpace = env.accountCrNamespace)
    (amiOwner : (configMap.data.lookup "ami-owner").isSome = true)
    (noOptIn : configMap.data.lookup "opt-in-regions" = none) (byoc : w.store.ChurningBYOC env) :
    ((reconcile env).run.run w).1 = .ok ({}, none) ∧
    reconcileEvents env w =
      [.statusUpdate (setAccountStatus w.store accountCreating .accountCreating accountCreating) none,
        .statusUpdate (setAccountStatus w.store accountReady .accountReady accountReady) none] ∧
    ((reconcile env).run.run w).2.store = setAccountStatus w.store accountReady .accountReady accountReady := by
  obtain ⟨k, j, isOptIn, run⟩ := reconcile_run_with_config reliable.reads reliable.loads config secret
  have consumed := reliable.consume k j
  obtain ⟨owner, hOwner⟩ := Option.isSome_iff_exists.mp amiOwner
  have ready : (setAccountStatus w.store "Creating" .accountCreating "Creating").readyForInitialization :=
    by simp [Account.readyForInitialization, Account.isBYOC, byoc.byoc, Account.isCreating]
  have labelled : accountCRHasIAMUserIDLabel env
      (setAccountStatus w.store "Creating" .accountCreating "Creating") = true := byoc.labelled
  simp [reconcileEvents, run, reconcileAccount, addFinalizer, byoc.nonSTS, byoc.carries, reconcileByState,
    Account.isPendingDeletion, byoc.live, byoc.notFailed, byoc.notInitializing, newBYOCAccountV2, byoc.byoc,
    reconcileBYOC, initializeNewCCSAccountV2, run_bind, statusUpdate, noOptIn, reconcileInitialization, hOwner,
    popWrite, consumed.writes_head, ready, labelled, handleIAMUserCreationV2, initializeAccount,
    isAwsOptInErrorV2, initializeRegionsV2, reliable.writes 1, Except.map]
  exact ⟨rfl, rfl⟩

def Account.labelledBYOC : Account :=
  ⟨[Env.sample.accountFinalizer], [(Env.sample.iamUserIDLabel, "abcde")], none,
    ⟨"123456789012", true, false, "claim"⟩, ⟨"Ready", true, ""⟩⟩

def World.labelledBYOC : World :=
  ⟨.labelledBYOC, some ⟨[("ami-owner", "531415883065")]⟩, [], .succeeding, []⟩

theorem reconcile_byoc_account_churns_on_labelled :
    World.labelledBYOC.store.ChurningBYOC .sample ∧
    ((reconcile .sample).run.run .labelledBYOC).1 = .ok ({}, none) ∧
    reconcileEvents .sample .labelledBYOC =
      [.statusUpdate (setAccountStatus World.labelledBYOC.store accountCreating .accountCreating accountCreating) none,
        .statusUpdate (setAccountStatus World.labelledBYOC.store accountReady .accountReady accountReady) none] ∧
    ((reconcile .sample).run.run .labelledBYOC).2.store =
      setAccountStatus World.labelledBYOC.store accountReady .accountReady accountReady :=
  have byoc : World.labelledBYOC.store.ChurningBYOC .sample :=
    ⟨rfl, rfl, rfl, rfl, rfl, List.mem_singleton_self _, by decide⟩
  ⟨byoc, reconcile_byoc_account_churns Responses.succeeding_reliable rfl (fun named => absurd rfl named.1) rfl rfl
    byoc⟩

end Churn

end AccountOperator
