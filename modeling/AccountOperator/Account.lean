import Mathlib.Data.List.Basic

namespace AccountOperator

/-- Go errors as far as the controller tells them apart. -/
inductive GoError where
  | operation (service operation err : String)
  | notFound (message : String)
  | sentinel (name : String)
  | wrapped (message : String) (inner : GoError)
  | other (message : String)
  deriving DecidableEq, Repr

namespace GoError

def error : GoError → String
  | operation service op err =>
    "operation error " ++ service ++ ": " ++ op ++ ", " ++ err
  | notFound message => message
  | sentinel name => name
  | wrapped pre inner => pre ++ ": " ++ inner.error
  | other message => message

/-- `errors.As(err, &awsErr)` for a `*smithy.OperationError`, giving `awsErr.Err.Error()`. -/
def asOperationError : GoError → Option String
  | operation _ _ err => some err
  | wrapped _ inner => inner.asOperationError
  | _ => none

def isNotFound : GoError → Bool
  | notFound _ => true
  | wrapped _ inner => inner.isNotFound
  | _ => false

end GoError

def errAwsFailedCreateAccount : GoError := .sentinel "ErrAwsFailedCreateAccount"
def errAwsAccountLimitExceeded : GoError := .sentinel "ErrAwsAccountLimitExceeded"
def errAwsConcurrentModification : GoError := .sentinel "ErrAwsConcurrentModification"
def errAwsInternalFailure : GoError := .sentinel "ErrAwsInternalFailure"
def errAwsTooManyRequests : GoError := .sentinel "ErrAwsTooManyRequests"
def errInvalidConfigMap : GoError := .sentinel "ErrInvalidConfigMap"

structure AccountSpec where
  awsAccountID : String
  byoc : Bool
  manualSTSMode : Bool
  claimLink : String
  deriving DecidableEq, Repr

structure AccountStatus where
  state : String
  claimed : Bool
  supportCaseID : String
  deriving DecidableEq, Repr

/-- The fields of an `awsv1alpha1.Account` that the V2 reconciler reads or writes. -/
structure Account where
  finalizers : List String
  labels : List (String × String)
  deletionTimestamp : Option Nat
  spec : AccountSpec
  status : AccountStatus
  deriving DecidableEq, Repr

@[simp] def accountPendingV2 : String := "Pending"
@[simp] def accountCreatingV2 : String := "Creating"
@[simp] def accountFailedV2 : String := "Failed"
@[simp] def accountInitializingRegionsV2 : String := "InitializingRegions"
@[simp] def accountReadyV2 : String := "Ready"
@[simp] def accountPendingVerificationV2 : String := "PendingVerification"
@[simp] def accountOptingInRegionsV2 : String := "OptingInRegions"
@[simp] def accountOptInRegionEnabledV2 : String := "OptInRegionsEnabled"

/-- The v1 constants `AccountCreating`, `AccountFailed` and `AccountReady`, not in src. -/
@[simp] def accountCreating : String := accountCreatingV2
@[simp] def accountFailed : String := accountFailedV2
@[simp] def accountReady : String := accountReadyV2

inductive AccountConditionType where
  | accountCreating
  | accountCreationFailed
  | accountClientError
  | accountReady
  deriving DecidableEq, Repr

/-- `utils.SetAccountStatus`, not in src: it sets `Status.State`; its condition is left out. -/
def setAccountStatus (account : Account) (_message : String) (_ctype : AccountConditionType)
    (state : String) : Account :=
  { account with status := { account.status with state := state } }

@[simp] theorem setAccountStatus_state (a : Account) (m : String) (c : AccountConditionType)
    (s : String) : (setAccountStatus a m c s).status.state = s := rfl

@[simp] theorem setAccountStatus_spec (a : Account) (m : String) (c : AccountConditionType)
    (s : String) : (setAccountStatus a m c s).spec = a.spec := rfl

@[simp] theorem setAccountStatus_finalizers (a : Account) (m : String) (c : AccountConditionType)
    (s : String) : (setAccountStatus a m c s).finalizers = a.finalizers := rfl

@[simp] theorem setAccountStatus_labels (a : Account) (m : String) (c : AccountConditionType)
    (s : String) : (setAccountStatus a m c s).labels = a.labels := rfl

@[simp] theorem setAccountStatus_deletionTimestamp (a : Account) (m : String) (c : AccountConditionType)
    (s : String) : (setAccountStatus a m c s).deletionTimestamp = a.deletionTimestamp := rfl

structure ConfigMap where
  data : List (String × String)

/-- What the controller reads from packages outside src. -/
structure Env where
  accountFinalizer : String
  iamUserIDLabel : String
  awsSecretName : String
  accountCrNamespace : String
  defaultRegion : String
  waitTime : Nat
  isFedramp : Bool
  devModeProduction : Bool
  getFeatureFlagValue : ConfigMap → String → Except GoError Bool
  matchString : String → String → Bool × Option GoError
  readyForRegionEnablement : Account → Bool
  isEnablingOptInRegions : Account → Bool

/-- `regexp.MatchString(pattern, s)` for a pattern without metacharacters, such as a role ID. -/
def matchLiteral (pattern s : String) : Bool × Option GoError :=
  (s.toList.tails.any pattern.toList.isPrefixOf, none)

instance : Inhabited Env := ⟨{
  accountFinalizer := ""
  iamUserIDLabel := ""
  awsSecretName := ""
  accountCrNamespace := ""
  defaultRegion := ""
  waitTime := 0
  isFedramp := false
  devModeProduction := false
  getFeatureFlagValue := fun _ _ => .ok false
  matchString := matchLiteral
  readyForRegionEnablement := fun _ => false
  isEnablingOptInRegions := fun _ => false }⟩

def Env.sample : Env where
  accountFinalizer := "finalizer.aws.managed.openshift.com"
  iamUserIDLabel := "iamUserId"
  awsSecretName := ""
  accountCrNamespace := "aws-account-operator"
  defaultRegion := "us-east-1"
  waitTime := 30
  isFedramp := false
  devModeProduction := true
  getFeatureFlagValue := fun _ _ => .ok false
  matchString := matchLiteral
  readyForRegionEnablement := fun _ => false
  isEnablingOptInRegions := fun _ => false

namespace Account

-- Methods of `awsv1alpha1.Account`, not in src, read off the spec's data model.

def isPendingDeletion (a : Account) : Bool := a.deletionTimestamp.isSome
def isBYOC (a : Account) : Bool := a.spec.byoc
def isClaimed (a : Account) : Bool := a.status.claimed
def hasState (a : Account) : Bool := a.status.state != ""
def hasAwsAccountID (a : Account) : Bool := a.spec.awsAccountID != ""
def hasClaimLink (a : Account) : Bool := a.spec.claimLink != ""
def isFailed (a : Account) : Bool := a.status.state == accountFailedV2
def isCreating (a : Account) : Bool := a.status.state == accountCreatingV2
def isReady (a : Account) : Bool := a.status.state == accountReadyV2
def isPendingVerification (a : Account) : Bool := a.status.state == accountPendingVerificationV2
def isInitializingRegions (a : Account) : Bool := a.status.state == accountInitializingRegionsV2
def isReadyUnclaimedAndHasClaimLink (a : Account) : Bool :=
  a.isReady && a.hasClaimLink && !a.isClaimed
def isUnclaimedAndHasNoState (a : Account) : Bool := !a.hasState && !a.isClaimed
def isNonSTSPendingDeletionWithFinalizer (env : Env) (a : Account) : Bool :=
  !a.spec.manualSTSMode && a.isPendingDeletion && a.finalizers.contains env.accountFinalizer

/-- Spec 4.1: `Creating` for BYOC or STS, else `PendingVerification`; or `OptInRegionsEnabled`. -/
def readyForInitialization (a : Account) : Bool :=
  (if a.isBYOC || a.spec.manualSTSMode then a.isCreating else a.isPendingVerification) ||
    a.status.state == accountOptInRegionEnabledV2

theorem kind_of_readyForInitialization {a : Account} (ready : a.readyForInitialization = true)
    (unverified : a.isPendingVerification = false) :
    a.spec.byoc = true ∨ a.spec.manualSTSMode = true ∨ a.status.state = accountOptInRegionEnabledV2 := by
  unfold readyForInitialization at ready
  split at ready
  case isTrue kind => simpa [isBYOC, or_assoc] using Or.inl kind
  case isFalse => exact .inr (.inr (by simpa [unverified] using ready))

end Account

end AccountOperator
