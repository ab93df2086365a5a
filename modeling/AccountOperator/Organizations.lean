import AccountOperator.World

namespace AccountOperator

/-- The poll loop of `CreateAccountV2`: up to an error, `FAILED`, or a state past `IN_PROGRESS`. -/
def pollCreateAccountStatus :
    List (Except GoError CreateAccountStatus) →
      ReconcileM (DescribeCreateAccountStatusOutput × Option GoError)
  | [] => throw .polling
  | r :: rest => do
    describeCreateAccountStatusCall r
    match r with
    | .error err => pure (⟨none⟩, some err)
    | .ok status =>
      if status.state = .failed then
        let returnErr := match status.failureReason with
          | "ACCOUNT_LIMIT_EXCEEDED" => errAwsAccountLimitExceeded
          | "INTERNAL_FAILURE" => errAwsInternalFailure
          | _ => errAwsFailedCreateAccount
        pure (⟨none⟩, some returnErr)
      else if status.state ≠ .inProgress then pure (⟨some status⟩, none)
      else pollCreateAccountStatus rest

def createAccountV2 : ReconcileM (DescribeCreateAccountStatusOutput × Option GoError) := do
  match ← createAccount with
  | .error err =>
    let returnErr : Option GoError := match err.asOperationError with
      | some message => some (match message with
        | "ConcurrentModificationException" => errAwsConcurrentModification
        | "ConstraintViolationException" => errAwsAccountLimitExceeded
        | "ServiceException" => errAwsInternalFailure
        | "TooManyRequestsException" => errAwsTooManyRequests
        | _ => errAwsFailedCreateAccount)
      | none => none
    pure (⟨none⟩, returnErr)
  | .ok _ => pollCreateAccountStatus (← takeDescribeScript)

/-- `BuildAccountV2`, with the account as the call leaves it. -/
def buildAccountV2 (account : Account) : ReconcileM (Account × String × Option GoError) := do
  let (orgOutput, orgErr) ← createAccountV2
  match orgErr with
  | some orgErr =>
    if orgErr = errAwsFailedCreateAccount then
      let account := setAccountStatus account "Failed to create AWS Account"
        .accountCreationFailed accountFailed
      match ← statusUpdate account with
      | some err => pure (account, "", some err)
      | none => pure (account, "", some orgErr)
    else if orgErr = errAwsAccountLimitExceeded then pure (account, "", some orgErr)
    else pure (account, "", some orgErr)
  | none =>
    let fetched ← getAccount
    let account := match fetched with
      | .ok stored => stored
      | .error _ => account
    match orgOutput.createAccountStatus with
    | none => throw .nilDereference
    | some status => match status.accountId with
      | none => throw .nilDereference
      | some accountId => pure (account, accountId, none)

section Emits

variable {Q : Event → Prop}

theorem pollCreateAccountStatus_emits (describes : ∀ r, Q (.describeCreateAccountStatus r)) :
    ∀ script, Emits Q (pollCreateAccountStatus script)
  | [] => Emits.throw _
  | r :: rest => (Emits.respond _ _ fun _ => describes r).bind fun _ => by
    rcases r with _ | status
    · exact Emits.pure _
    · exact Emits.ite (fun _ => Emits.pure _) fun _ =>
        Emits.ite (fun _ => Emits.pure _) fun _ => pollCreateAccountStatus_emits describes rest

theorem createAccountV2_emits (creates : ∀ r, Q (.createAccount r))
    (describes : ∀ r, Q (.describeCreateAccountStatus r)) : Emits Q createAccountV2 :=
  (Emits.respond _ _ creates).bind fun r => by
    rcases r with _ | _
    · exact Emits.pure _
    · exact (Emits.read _).bind (pollCreateAccountStatus_emits describes)

end Emits

theorem pollCreateAccountStatus_skips_in_progress (r : Except GoError CreateAccountStatus)
    (rest : List (Except GoError CreateAccountStatus))
    (settled : ∀ st, r = .ok st → st.state ≠ .inProgress) :
    ∀ (pending : List CreateAccountStatus) (w : World), (∀ st ∈ pending, st.state = .inProgress) →
      (pollCreateAccountStatus (pending.map .ok ++ r :: rest)).run.run w =
        (pollCreateAccountStatus [r]).run.run
          { w with log := w.log ++ pending.map fun st => .describeCreateAccountStatus (.ok st) }
  | [], w, _ => by
    rcases r with e | st
    · simp [pollCreateAccountStatus, run_bind, describeCreateAccountStatusCall]
    · simp [pollCreateAccountStatus, run_bind, describeCreateAccountStatusCall, settled st rfl]
  | st :: pending, w, inProgress => by
    have next := pollCreateAccountStatus_skips_in_progress r rest settled pending
      { w with log := w.log ++ [.describeCreateAccountStatus (.ok st)] }
      fun st' mem => inProgress st' (.tail _ mem)
    simp only [List.map_cons, List.cons_append, pollCreateAccountStatus, run_bind,
      describeCreateAccountStatusCall, respond_run, inProgress st (.head _)] at next ⊢
    simpa [Event.apply] using next

theorem pollCreateAccountStatus_skips_one_in_progress :
    (pollCreateAccountStatus [.ok ⟨.inProgress, "", none⟩, .ok ⟨.succeeded, "", some "111122223333"⟩]).run.run
        ⟨.blank, none, [], .succeeding, []⟩ =
      (pollCreateAccountStatus [.ok ⟨.succeeded, "", some "111122223333"⟩]).run.run
        ⟨.blank, none, [], .succeeding, [.describeCreateAccountStatus (.ok ⟨.inProgress, "", none⟩)]⟩ :=
  pollCreateAccountStatus_skips_in_progress (.ok ⟨.succeeded, "", some "111122223333"⟩) []
    (fun _ h => by cases h; decide) [⟨.inProgress, "", none⟩] _ (by simp)

/-- A CreateAccount error that is no `*smithy.OperationError` leaves `returnErr` nil. -/
theorem createAccountV2_plain_error {w : World} {err : GoError}
    (h : w.responses.createAccount.head = .error err) (plain : err.asOperationError = none) :
    (createAccountV2.run.run w).1 = .ok (⟨none⟩, none) := by
  simp [createAccountV2, run_bind, createAccount, h, plain]

theorem buildAccountV2_plain_error (account : Account) {w : World} {err : GoError}
    (h : w.responses.createAccount.head = .error err) (plain : err.asOperationError = none) :
    ((buildAccountV2 account).run.run w).1 = .error .nilDereference := by
  simp [buildAccountV2, run_bind, createAccountV2, createAccount, h, plain, getAccount]

theorem buildAccountV2_timeout_dereferences_nil :
    (createAccountV2.run.run ⟨.blank, none, [], { Responses.succeeding with
      createAccount := Stream'.const (.error (.other "dial tcp: i/o timeout")) }, []⟩).1 =
        .ok (⟨none⟩, none) ∧
    ((buildAccountV2 .blank).run.run ⟨.blank, none, [], { Responses.succeeding with
      createAccount := Stream'.const (.error (.other "dial tcp: i/o timeout")) }, []⟩).1 =
        .error .nilDereference :=
  ⟨createAccountV2_plain_error rfl rfl, buildAccountV2_plain_error _ rfl rfl⟩

end AccountOperator
