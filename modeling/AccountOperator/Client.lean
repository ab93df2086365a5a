import AccountOperator.World

namespace AccountOperator

structure Credentials where
  accessKeyId : String
  secretAccessKey : String
  sessionToken : String
  deriving DecidableEq, Repr

/-- Given credentials, or the process's default chain, resolved when the client is used. -/
inductive CredentialSource where
  | static (credentials : Credentials)
  | defaultChain
  deriving DecidableEq, Repr

def CredentialSource.resolve (ambient : Credentials) : CredentialSource → Credentials
  | .static credentials => credentials
  | .defaultChain => ambient

/-- A built `ClientV2`; the SDK resolves an empty `config.WithRegion` region from the environment. -/
structure ClientV2 where
  credentials : CredentialSource
  region : String
  deriving DecidableEq, Repr

structure NewAwsClientInputV2 where
  awsCredsSecretIDKey : String := ""
  awsCredsSecretAccessKey : String := ""
  awsToken : String := ""
  awsRegion : String := ""
  secretName : String := ""
  nameSpace : String := ""
  deriving DecidableEq, Repr

def awsCredsSecretIDKeyV2 : String := "aws_access_key_id"
def awsCredsSecretAccessKeyV2 : String := "aws_secret_access_key"

/-- `string(secret.Data[key])`: empty when the key is missing. -/
def Secret.get (s : Secret) (key : String) : String := (s.data.lookup key).getD ""

/-- `kubeClient.Get` of a secret. -/
def lookupSecret (w : World) (name nameSpace : String) : Except GoError Secret :=
  match (readError w).1 with
  | some err => .error err
  | none => match w.secrets.find? (fun s => s.name == name && s.nameSpace == nameSpace) with
    | some s => .ok s
    | none => .error (.notFound ("secrets \"" ++ name ++ "\" not found"))

theorem lookupSecret_ok {w : World} {name nameSpace : String} {s : Secret}
    (h : lookupSecret w name nameSpace = .ok s) :
    s ∈ w.secrets ∧ s.name = name ∧ s.nameSpace = nameSpace := by
  unfold lookupSecret at h
  split at h
  · cases h
  · split at h
    next found =>
      cases h
      have hp := List.find?_some found
      simp only [Bool.and_eq_true, beq_iff_eq] at hp
      exact ⟨List.mem_of_find?_eq_some found, hp⟩
    next => cases h

def getSecret (name nameSpace : String) : ReconcileM (Except GoError Secret) :=
  read fun w => (lookupSecret w name nameSpace, (readError w).2)

def newClientV2 (awsAccessID awsAccessSecret token region : String) :
    ReconcileM (Except GoError ClientV2) := do
  let credentials := if awsAccessID ≠ "" ∧ awsAccessSecret ≠ "" then
    CredentialSource.static ⟨awsAccessID, awsAccessSecret, token⟩ else .defaultChain
  match ← loadDefaultConfig with
  | some err => pure (.error (.wrapped "failed to load AWS config" err))
  | none => pure (.ok ⟨credentials, region⟩)

def getClientV2 (input : NewAwsClientInputV2) : ReconcileM (Except GoError ClientV2) :=
  if input.secretName ≠ "" ∧ input.nameSpace ≠ "" then do
    match ← getSecret input.secretName input.nameSpace with
    | .error err =>
      pure (.error (.wrapped ("failed to get secret " ++ input.secretName ++ " in namespace " ++
        input.nameSpace) err))
    | .ok secret =>
      newClientV2 (secret.get awsCredsSecretIDKeyV2) (secret.get awsCredsSecretAccessKeyV2) ""
        input.awsRegion
  else
    newClientV2 input.awsCredsSecretIDKey input.awsCredsSecretAccessKey input.awsToken
      input.awsRegion

theorem newClientV2_emits {Q : Event → Prop} (id secret token region : String) :
    Emits Q (newClientV2 id secret token region) :=
  (Emits.read _).bind fun r => by cases r <;> exact Emits.pure _

theorem getClientV2_emits {Q : Event → Prop} (input : NewAwsClientInputV2) :
    Emits Q (getClientV2 input) := by
  unfold getClientV2
  split
  · exact (Emits.read _).bind fun r => by
      cases r
      · exact Emits.pure _
      · exact newClientV2_emits _ _ _ _
  · exact newClientV2_emits _ _ _ _

theorem newClientV2_run_world (id secret token region : String) (w : World) :
    ((newClientV2 id secret token region).run.run w).2 =
      { w with responses := { w.responses with loadConfig := w.responses.loadConfig.tail } } := by
  simp only [newClientV2, loadDefaultConfig, run_bind, read_run]
  split <;> rfl

/-- Building a client consumes store reads and config loads, and touches nothing else. -/
theorem getClientV2_frame (input : NewAwsClientInputV2) (w : World) : ∃ k j : Nat,
    ((getClientV2 input).run.run w).2 = { w with responses := { w.responses with
      reads := w.responses.reads.drop k, loadConfig := w.responses.loadConfig.drop j } } := by
  unfold getClientV2
  split
  · simp only [getSecret, run_bind, read_run]
    split
    · exact ⟨1, 0, rfl⟩
    · exact ⟨1, 1, by rw [newClientV2_run_world]; rfl⟩
  · exact ⟨0, 1, newClientV2_run_world _ _ _ _ _⟩

/-- With the store and the SDK config answering, a client builds whenever a named secret exists. -/
theorem getClientV2_ok {input : NewAwsClientInputV2} {w : World} (reads : w.responses.reads.head = none)
    (loads : w.responses.loadConfig.head = none) (secret : input.secretName ≠ "" ∧ input.nameSpace ≠ "" →
      ∃ s ∈ w.secrets, s.name = input.secretName ∧ s.nameSpace = input.nameSpace) :
    ∃ client, ((getClientV2 input).run.run w).1 = .ok (.ok client) := by
  unfold getClientV2
  split
  next named =>
    obtain ⟨s, mem, hn, hns⟩ := secret named
    obtain ⟨found, hfound⟩ := Option.isSome_iff_exists.mp (List.find?_isSome.mpr ⟨s, mem, by
      simp [hn, hns]⟩ : (w.secrets.find? fun s =>
        s.name == input.secretName && s.nameSpace == input.nameSpace).isSome)
    simp [getSecret, lookupSecret, readError, run_bind, reads, hfound, newClientV2, loadDefaultConfig,
      loads]
  next => simp [newClientV2, run_bind, loadDefaultConfig, loads]

section Credentials

variable {w : World} {client : ClientV2}

theorem newClientV2_ok {id secret token region : String}
    (h : ((newClientV2 id secret token region).run.run w).1 = .ok (.ok client)) :
    ∀ ambient, client.credentials.resolve ambient =
      if id ≠ "" ∧ secret ≠ "" then ⟨id, secret, token⟩ else ambient := by
  simp only [newClientV2, loadDefaultConfig, run_bind, read_run] at h
  split at h
  · simp at h
  · simp only [run_pure, Except.ok.injEq] at h
    subst h
    intro ambient
    split <;> rfl

/-- A built client signs with the secret's or the input's keys; the default chain when one is empty. -/
theorem getClientV2_signs_with {input : NewAwsClientInputV2}
    (h : ((getClientV2 input).run.run w).1 = .ok (.ok client)) :
    ∃ keys : Credentials,
      (if input.secretName ≠ "" ∧ input.nameSpace ≠ "" then
        ∃ s ∈ w.secrets, s.name = input.secretName ∧ s.nameSpace = input.nameSpace ∧
          keys = ⟨s.get awsCredsSecretIDKeyV2, s.get awsCredsSecretAccessKeyV2, ""⟩
      else keys = ⟨input.awsCredsSecretIDKey, input.awsCredsSecretAccessKey, input.awsToken⟩) ∧
      ∀ ambient, client.credentials.resolve ambient =
        if keys.accessKeyId ≠ "" ∧ keys.secretAccessKey ≠ "" then keys else ambient := by
  unfold getClientV2 at h
  split at h
  next named =>
    simp only [getSecret, run_bind, read_run] at h
    split at h
    next => simp at h
    next s found =>
      obtain ⟨hm, hn, hns⟩ := lookupSecret_ok found
      exact ⟨_, by simpa [named] using ⟨s, hm, hn, hns, rfl⟩, newClientV2_ok h⟩
  next unnamed =>
    exact ⟨⟨input.awsCredsSecretIDKey, input.awsCredsSecretAccessKey, input.awsToken⟩,
      by simp [unnamed], newClientV2_ok h⟩

theorem getClientV2_input_keys :
    ((getClientV2 ⟨"AKID", "SECRET", "", "us-east-1", "", ""⟩).run.run
      ⟨.blank, none, [], .succeeding, []⟩).1 = .ok (.ok ⟨.static ⟨"AKID", "SECRET", ""⟩, "us-east-1"⟩) ∧
    ∃ keys : Credentials,
      (if ("" : String) ≠ "" ∧ ("" : String) ≠ "" then
        ∃ s ∈ ([] : List Secret), s.name = "" ∧ s.nameSpace = "" ∧
          keys = ⟨s.get awsCredsSecretIDKeyV2, s.get awsCredsSecretAccessKeyV2, ""⟩
      else keys = ⟨"AKID", "SECRET", ""⟩) ∧
      ∀ ambient, (CredentialSource.static ⟨"AKID", "SECRET", ""⟩).resolve ambient =
        if keys.accessKeyId ≠ "" ∧ keys.secretAccessKey ≠ "" then keys else ambient :=
  have built : ((getClientV2 ⟨"AKID", "SECRET", "", "us-east-1", "", ""⟩).run.run
      ⟨.blank, none, [], .succeeding, []⟩).1 =
        .ok (.ok ⟨.static ⟨"AKID", "SECRET", ""⟩, "us-east-1"⟩) := rfl
  ⟨built, getClientV2_signs_with built⟩

theorem getClientV2_partial_secret_uses_default_chain :
    ((getClientV2 ⟨"", "", "", "us-east-1", "operator-credentials", "aws-account-operator"⟩).run.run
      ⟨.blank, none, [⟨"operator-credentials", "aws-account-operator",
        [("aws_secret_access_key", "SECRET")]⟩], .succeeding, []⟩).1 =
        .ok (.ok ⟨.defaultChain, "us-east-1"⟩) := rfl

end Credentials

end AccountOperator
