import AccountOperator.Sts
import AccountOperator.Organizations

namespace AccountOperator

/-- A `reconcile.Result`; `requeueAfter` counts seconds. -/
structure Result where
  requeue : Bool := false
  requeueAfter : Nat := 0
  deriving DecidableEq, Repr

-- Helpers the V2 port leaves as stubs.

def handleAccountInitializingRegionsV2 : Result × Option GoError := ({}, none)
def initializeNewCCSAccountV2 : Result × Option GoError := ({}, none)
def handleNonCCSPendingVerificationV2 : Result × Option GoError := ({}, none)
def handleOptInRegionEnablementV2 : Result × Option GoError := ({}, none)
def claimAccountV2 : Option GoError := none
def getSTSClientV2 : Option GoError := none
def handleIAMUserCreationV2 : Option GoError := none
def initializeRegionsV2 : Option GoError := none
def isAwsOptInErrorV2 (_err : Option GoError) : Bool := false

def newBYOCAccountV2 (account : Account) : Bool := account.spec.byoc

/-- The v1 predicate of byoc.go, for comparison. -/
def newBYOCAccount (account : Account) : Bool :=
  account.isBYOC && (!account.hasState || !account.isClaimed)

/-- `utils.Remove`, not in src. -/
def removeName (list : List String) (name : String) : List String := list.filter (· ≠ name)

/-- `utils.AccountCRHasIAMUserIDLabel` and `utils.AddLabels`, not in src. -/
def accountCRHasIAMUserIDLabel (env : Env) (account : Account) : Bool :=
  (account.labels.lookup env.iamUserIDLabel).isSome

def addLabel (account : Account) (key value : String) : Account :=
  { account with labels := (key, value) :: account.labels.filter (·.1 ≠ key) }

def getOperatorConfigMap : ReconcileM (Except GoError ConfigMap) :=
  read fun w => ((match (readError w).1, w.configMap with
    | some err, _ => .error err
    | none, some configMap => .ok configMap
    | none, none => .error (.notFound "configmaps aws-account-operator-configmap not found")),
    (readError w).2)

def accountsCanBeCreated : ReconcileM Bool :=
  read fun w => (w.responses.accountsCanBeCreated, w.responses)

def creationConditionOlderThan : ReconcileM Bool :=
  read fun w => (w.responses.creationConditionOlderThan, w.responses)

def generateShortUID : ReconcileM String :=
  read fun w => (w.responses.shortUID, w.responses)

def addFinalizer (env : Env) (account : Account) : ReconcileM (Account × Option GoError) :=
  if !account.finalizers.contains env.accountFinalizer then do
    let account := { account with finalizers := account.finalizers ++ [env.accountFinalizer] }
    let err ← update account
    pure (account, err)
  else pure (account, none)

def removeFinalizer (account : Account) (finalizerName : String) :
    ReconcileM (Account × Option GoError) := do
  let account := { account with finalizers := removeName account.finalizers finalizerName }
  let err ← update account
  pure (account, err)

def setAccountFailedV2 (account : Account) (ctype : AccountConditionType)
    (_reason message state : String) : ReconcileM (Result × Option GoError) := do
  let account := setAccountStatus account state ctype message
  let err ← statusUpdate account
  pure ({}, err)

def handleAWSClientErrorV2 (account : Account) (err : GoError) :
    ReconcileM (Result × Option GoError) := do
  let reason := err.asOperationError.getD ""
  let errMsg := "Failed to create STS Credentials for account ID " ++ account.spec.awsAccountID ++
    ": " ++ err.error
  let _ ← setAccountFailedV2 account .accountClientError reason errMsg accountFailed
  pure ({}, some err)

def nonCCSAssignAccountIDV2 (env : Env) (account : Account) :
    ReconcileM (Account × Option GoError) := do
  let (account, awsAccountID, err) ←
    (if env.devModeProduction then buildAccountV2 account else pure (account, "123456789012", none))
  match err with
  | some err => pure (account, some err)
  | none =>
    let account := setAccountStatus account accountCreating .accountCreating accountCreating
    match ← statusUpdate account with
    | some err => pure (account, some err)
    | none =>
      let account := if !env.devModeProduction then
        { account with status := { account.status with supportCaseID := "11111111" } } else account
      let account := { account with spec := { account.spec with awsAccountID := awsAccountID } }
      let _ ← tagResource
      let err ← update account
      pure (account, err)

/-- The deletion branch of `Reconcile`; BYOC accounts differ only in the role they assume. -/
def reconcileDeletion (env : Env) (account : Account) : ReconcileM (Result × Option GoError) :=
  if account.spec.manualSTSMode then do
    let (_, err) ← removeFinalizer account env.accountFinalizer
    pure ({}, err)
  else do
    match ← handleRoleAssumptionV2 env "" "" with
    | .error err => handleAWSClientErrorV2 account err
    | .ok _ =>
      if account.isNonSTSPendingDeletionWithFinalizer env then do
        let (_, err) ← removeFinalizer account env.accountFinalizer
        pure ({}, err)
      else pure ({}, none)

def initializeAccount (account : Account) : ReconcileM (Result × Option GoError) :=
  if isAwsOptInErrorV2 initializeRegionsV2 then pure ({ requeueAfter := 60 }, none)
  else match initializeRegionsV2 with
    | some err => pure ({}, some err)
    | none => do
      let account := setAccountStatus account accountReady .accountReady accountReady
      let err ← statusUpdate account
      pure ({}, err)

/-- `Reconcile` after the kind branches: region enablement, then initialization. -/
def reconcileInitialization (env : Env) (configMap : ConfigMap) (isOptInRegionFeatureEnabled : Bool)
    (optInRegions : String) (account : Account) : ReconcileM (Result × Option GoError) :=
  if (env.readyForRegionEnablement account || env.isEnablingOptInRegions account) &&
      isOptInRegionFeatureEnabled && optInRegions ≠ "" then pure handleOptInRegionEnablementV2
  else match configMap.data.lookup "ami-owner" with
    | none => pure ({}, some errInvalidConfigMap)
    | some _ =>
      if account.readyForInitialization then
        if account.spec.manualSTSMode then do
          match ← getAccountClaim with
          | some acctClaimErr =>
            let _ ← claimStatusUpdate
            pure ({}, some acctClaimErr)
          | none =>
            match getSTSClientV2 with
            | some err => pure ({}, some err)
            | none => initializeAccount account
        else if !accountCRHasIAMUserIDLabel env account then do
          let account := addLabel account env.iamUserIDLabel (← generateShortUID)
          let err ← update account
          pure ({ requeue := true }, err)
        else match handleIAMUserCreationV2 with
          | some err => pure ({}, some err)
          | none => initializeAccount account
      else pure ({}, none)

def reconcileBYOC (env : Env) (configMap : ConfigMap) (isOptInRegionFeatureEnabled : Bool)
    (optInRegions : String) (account : Account) : ReconcileM (Result × Option GoError) :=
  match initializeNewCCSAccountV2 with
  | (result, some initErr) => do
    let _ ← setAccountFailedV2 account .accountCreationFailed initErr.error
      "Failed to initialize new CCS account" accountFailed
    pure (result, some initErr)
  | (_, none) => do
    let account := setAccountStatus account accountCreating .accountCreating accountCreating
    match ← statusUpdate account with
    | some updateErr => pure ({}, some updateErr)
    | none => reconcileInitialization env configMap isOptInRegionFeatureEnabled optInRegions account

def reconcileNonBYOC (env : Env) (configMap : ConfigMap) (isOptInRegionFeatureEnabled : Bool)
    (optInRegions : String) (account : Account) : ReconcileM (Result × Option GoError) := do
  if account.isPendingVerification then pure handleNonCCSPendingVerificationV2
  else if account.isReadyUnclaimedAndHasClaimLink then pure ({}, claimAccountV2)
  else if account.isCreating && (← creationConditionOlderThan) then
    let errMsg := "Creation pending for longer than " ++ toString env.waitTime ++ " minutes"
    let (_, stateErr) ← setAccountFailedV2 account .accountCreationFailed "CreationTimeout" errMsg
      accountFailed
    match stateErr with
    | some stateErr => pure ({}, some stateErr)
    | none => pure ({}, some (.other errMsg))
  else if account.isUnclaimedAndHasNoState then
    if !account.hasAwsAccountID then
      if !(← accountsCanBeCreated) && !env.isFedramp then
        pure ({ requeue := true, requeueAfter := 300 }, none)
      else
        let (account, err) ← nonCCSAssignAccountIDV2 env account
        match err with
        | some err => pure ({}, some err)
        | none =>
          reconcileInitialization env configMap isOptInRegionFeatureEnabled optInRegions account
    else
      let account := setAccountStatus account "AWS account already created" .accountCreating
        accountCreating
      match ← statusUpdate account with
      | some err => pure ({}, some err)
      | none => reconcileInitialization env configMap isOptInRegionFeatureEnabled optInRegions account
  else reconcileInitialization env configMap isOptInRegionFeatureEnabled optInRegions account

def reconcileByState (env : Env) (configMap : ConfigMap) (isOptInRegionFeatureEnabled : Bool)
    (optInRegions : String) (account : Account) : ReconcileM (Result × Option GoError) :=
  if account.isPendingDeletion then reconcileDeletion env account
  else if account.isFailed then pure ({}, none)
  else if account.isInitializingRegions then pure handleAccountInitializingRegionsV2
  else if newBYOCAccountV2 account then
    reconcileBYOC env configMap isOptInRegionFeatureEnabled optInRegions account
  else reconcileNonBYOC env configMap isOptInRegionFeatureEnabled optInRegions account

/-- `Reconcile` once the account, the config map and the operator client are at hand. -/
def reconcileAccount (env : Env) (configMap : ConfigMap) (isOptInRegionFeatureEnabled : Bool)
    (optInRegions : String) (account : Account) : ReconcileM (Result × Option GoError) := do
  let (account, err) ←
    if !account.spec.manualSTSMode then addFinalizer env account else pure (account, none)
  match err with
  | some err => pure ({}, some err)
  | none => reconcileByState env configMap isOptInRegionFeatureEnabled optInRegions account

def reconcile (env : Env) : ReconcileM (Result × Option GoError) := do
  match ← getAccount with
  | .error err => pure ({}, if err.isNotFound then none else some err)
  | .ok currentAcctInstance =>
    match ← getOperatorConfigMap with
    | .error err => pure ({}, some err)
    | .ok configMap =>
      let isOptInRegionFeatureEnabled :=
        match env.getFeatureFlagValue configMap "feature.opt_in_regions" with
        | .ok enabled => enabled
        | .error _ => false
      let optInRegions := (configMap.data.lookup "opt-in-regions").getD ""
      match ← getClientV2 ⟨"", "", "", env.defaultRegion, env.awsSecretName,
          env.accountCrNamespace⟩ with
      | .error err => pure ({}, some err)
      | .ok _ =>
        reconcileAccount env configMap isOptInRegionFeatureEnabled optInRegions currentAcctInstance

/-- The reads before `reconcileAccount` leave no trace. -/
theorem reconcile_emitsAt {I : Account → Prop} {Q : Event → Prop} {env : Env} {w : World}
    (keeps : ∀ e t, Q e → I t → I (e.apply t)) (hI : I w.store)
    (h : ∀ configMap isOptIn optInRegions,
      Triple I Q (fun _ => True) (reconcileAccount env configMap isOptIn optInRegions w.store)) :
    EmitsAt Q (reconcile env) w := by
  unfold reconcile
  refine EmitsAt.bind_of_quiet (read_run _ _) rfl rfl (Triple.emitsAt (P := fun _ => True) ?_ hI)
  rcases (readError w).1 with _ | _
  · refine ((Emits.read _).triple keeps).bind fun r _ => ?_
    rcases r with _ | _
    · exact (Emits.pure _).triple keeps
    · refine ((getClientV2_emits _).triple keeps).bind fun r _ => ?_
      rcases r with _ | _
      · exact (Emits.pure _).triple keeps
      · exact h _ _ _
  · exact (Emits.pure _).triple keeps

/-- With the store answering and the config there, `Reconcile` goes on with the stored account. -/
theorem reconcile_run_with_config {env : Env} {w : World} {configMap : ConfigMap}
    (reads : ∀ n, w.responses.reads.get n = none) (loads : ∀ n, w.responses.loadConfig.get n = none)
    (config : w.configMap = some configMap)
    (secret : env.awsSecretName ≠ "" ∧ env.accountCrNamespace ≠ "" →
      ∃ s ∈ w.secrets, s.name = env.awsSecretName ∧ s.nameSpace = env.accountCrNamespace) :
    ∃ (k j : Nat) (isOptIn : Bool), (reconcile env).run.run w =
      (reconcileAccount env configMap isOptIn ((configMap.data.lookup "opt-in-regions").getD "")
        w.store).run.run { w with responses :=
          { w.responses with reads := w.responses.reads.drop k, loadConfig := w.responses.loadConfig.drop j } } := by
  let input : NewAwsClientInputV2 :=
    ⟨"", "", "", env.defaultRegion, env.awsSecretName, env.accountCrNamespace⟩
  let w₂ : World := { w with responses := { w.responses with reads := w.responses.reads.tail.tail } }
  obtain ⟨client, built⟩ := @getClientV2_ok input w₂ (reads 2) (loads 0) secret
  obtain ⟨k, j, frame⟩ := getClientV2_frame input w₂
  have run : (getClientV2 input).run.run w₂ = (.ok (.ok client), _) := Prod.ext built frame
  unfold input w₂ at run
  simp only [config, Stream'.drop_tail'] at run
  have first : w.responses.reads.head = none := reads 0
  have second : w.responses.reads.tail.head = none := reads 1
  exact ⟨k + 1 + 1, j, _, by simp only [reconcile, run_bind, getAccount, getOperatorConfigMap,
    read_run, readError, first, second, config, run]; rfl⟩

theorem reconcile_run_of_answered {env : Env} {w : World} {configMap : ConfigMap}
    (reads : ∀ n, w.responses.reads.get n = none) (loads : ∀ n, w.responses.loadConfig.get n = none)
    (config : w.configMap = some configMap)
    (secret : env.awsSecretName ≠ "" ∧ env.accountCrNamespace ≠ "" →
      ∃ s ∈ w.secrets, s.name = env.awsSecretName ∧ s.nameSpace = env.accountCrNamespace) :
    ∃ (k j : Nat) (isOptIn : Bool) (optInRegions : String), (reconcile env).run.run w =
      (reconcileAccount env configMap isOptIn optInRegions w.store).run.run { w with responses :=
        { w.responses with reads := w.responses.reads.drop k, loadConfig := w.responses.loadConfig.drop j } } :=
  let ⟨k, j, isOptIn, run⟩ := reconcile_run_with_config reads loads config secret
  ⟨k, j, isOptIn, _, run⟩

theorem reconcileAccount_of_deleting {env : Env} {configMap : ConfigMap} {isOptIn : Bool}
    {optInRegions : String} {s : Account} (nonSTS : s.spec.manualSTSMode = false)
    (carries : env.accountFinalizer ∈ s.finalizers) (deleting : s.isPendingDeletion = true) :
    reconcileAccount env configMap isOptIn optInRegions s = reconcileDeletion env s := by
  simp [reconcileAccount, addFinalizer, reconcileByState, nonSTS, carries, deleting]

end AccountOperator
