import AccountOperator.Writes

namespace AccountOperator

/-- What a later stored account `t` keeps of `s`: an assigned ID, a set state, the kind. -/
structure Keeps (s t : Account) : Prop where
  accountID : s.spec.awsAccountID ≠ "" → t.spec.awsAccountID = s.spec.awsAccountID
  state : s.status.state ≠ "" → t.status.state ≠ ""
  kind : SameKind s t

theorem Keeps.refl (s : Account) : Keeps s s := ⟨fun _ => rfl, id, ⟨rfl, rfl⟩⟩

theorem Keeps.trans {s t u : Account} (h₁ : Keeps s t) (h₂ : Keeps t u) : Keeps s u :=
  ⟨fun assigned => (h₂.accountID (h₁.accountID assigned ▸ assigned)).trans (h₁.accountID assigned),
    fun set => h₂.state (h₁.state set), h₁.kind.trans h₂.kind⟩

theorem Allowed.keeps {env : Env} {s t : Account} {e : Event} (allowed : Allowed env s e)
    (h : Keeps s t) : Keeps s (e.apply t) := by
  cases e with
  | update a r =>
    cases r with
    | none => exact ⟨allowed.1, h.state, allowed.2⟩
    | some => exact h
  | statusUpdate a r =>
    cases r with
    | none => exact ⟨h.accountID, fun _ empty =>
        allowed.1.not_mem_unwritten (empty ▸ List.mem_cons_self _ _), h.kind⟩
    | some => exact h
  | claimStatusUpdate | assumeRole | createAccount | describeCreateAccountStatus | tagResource =>
    exact h

theorem reconcile_keeps (env : Env) (w : World) : Keeps w.store ((reconcile env).run.run w).2.store := by
  obtain ⟨-, store, allowed⟩ := reconcileEvents_spec env w
  exact store ▸ foldl_apply_keeps (fun _ _ allowed kept => allowed.keeps kept) _ _ allowed (.refl _)

/-- What one reconciliation gets besides the stored account. -/
structure Round where
  configMap : Option ConfigMap
  secrets : List Secret
  responses : Responses

def Round.world (r : Round) (s : Account) : World := ⟨s, r.configMap, r.secrets, r.responses, []⟩

@[simp] theorem Round.world_log (r : Round) (s : Account) : (r.world s).log = [] := rfl

@[simp] theorem Round.world_store (r : Round) (s : Account) : (r.world s).store = s := rfl

/-- The stored account after the reconciliations of `rounds`, one after another. -/
def storeAfter (env : Env) (s : Account) : List Round → Account
  | [] => s
  | r :: rounds => storeAfter env ((reconcile env).run.run (r.world s)).2.store rounds

theorem storeAfter_keeps (env : Env) (s : Account) (rounds : List Round) :
    Keeps s (storeAfter env s rounds) := by
  induction rounds generalizing s with
  | nil => exact .refl s
  | cons r rounds ih => exact (reconcile_keeps env (r.world s)).trans (ih _)

def runEvents (env : Env) (s : Account) : List Round → List Event
  | [] => []
  | r :: rounds => reconcileEvents env (r.world s) ++
      runEvents env ((reconcile env).run.run (r.world s)).2.store rounds

theorem runEvents_allowed (env : Env) (s : Account) (rounds : List Round) :
    ∀ e ∈ runEvents env s rounds, ∃ t, Keeps s t ∧ Allowed env t e := by
  induction rounds generalizing s with
  | nil => simp [runEvents]
  | cons r rounds ih =>
    intro e mem
    rcases List.mem_append.mp mem with mem | mem
    · exact ⟨s, .refl s, (reconcileEvents_spec env _).2.2 e mem⟩
    · obtain ⟨t, kept, allowed⟩ := ih _ e mem
      exact ⟨t, (reconcile_keeps env (r.world s)).trans kept, allowed⟩

section Runs

variable (env : Env) (s : Account) (rounds : List Round)

/-- An assigned account ID and a set state survive any run, and then CreateAccount is never called. -/
theorem run_keeps_started_account :
    (s.spec.awsAccountID ≠ "" → (storeAfter env s rounds).spec.awsAccountID = s.spec.awsAccountID) ∧
    (s.status.state ≠ "" → (storeAfter env s rounds).status.state ≠ "") ∧
    (s.status.state ≠ "" ∨ s.spec.awsAccountID ≠ "" → ∀ (r : Round) (response : Except GoError CreateAccountOutput),
      .createAccount response ∉ reconcileEvents env (r.world (storeAfter env s rounds))) := by
  have kept := storeAfter_keeps env s rounds
  refine ⟨kept.accountID, kept.state, fun started r response mem => ?_⟩
  obtain ⟨empty, unassigned, -⟩ := (reconcileEvents_spec env _).2.2 _ mem
  rcases started with set | assigned
  · exact kept.state set empty
  · exact assigned ((kept.accountID assigned).symm.trans unassigned)

theorem run_keeps_account_kind :
    (storeAfter env s rounds).spec.byoc = s.spec.byoc ∧
      (storeAfter env s rounds).spec.manualSTSMode = s.spec.manualSTSMode :=
  (storeAfter_keeps env s rounds).kind

/-- `Failed` is terminal outside deletion, and a run then only writes the spec. -/
theorem run_failed_stays_failed (failed : s.isFailed = true) (live : s.isPendingDeletion = false) :
    (storeAfter env s rounds).isFailed = true ∧ ∀ e ∈ runEvents env s rounds, ∃ a r, e = .update a r := by
  induction rounds generalizing s with
  | nil => exact ⟨failed, by simp [runEvents]⟩
  | cons r rounds ih =>
    obtain ⟨-, store, allowed⟩ := reconcileEvents_spec env (r.world s)
    have updates : ∀ e ∈ reconcileEvents env (r.world s), ∃ a r, e = .update a r := fun e mem =>
      (allowed e mem).update_of_inactive (by simp [Account.Active, failed, live])
    have kept := foldl_apply_keeps
      (I := fun t => t.status = s.status ∧ t.deletionTimestamp = s.deletionTimestamp)
      (fun _ _ ⟨_, r, he⟩ h => by subst he; cases r <;> exact h) _ (r.world s).store updates ⟨rfl, rfl⟩
    rw [← store] at kept
    obtain ⟨stays, later⟩ := ih ((reconcile env).run.run (r.world s)).2.store
      (by simpa [Account.isFailed, kept.1] using failed)
      (by simpa [Account.isPendingDeletion, kept.2] using live)
    refine ⟨stays, fun e mem => ?_⟩
    rcases List.mem_append.mp mem with mem | mem
    · exact updates e mem
    · exact later e mem

theorem run_failed_stays_failed_from_failedBare :
    Account.failedBare.isFailed = true ∧ Account.failedBare.isPendingDeletion = false ∧
      runEvents .sample .failedBare [⟨some ⟨[]⟩, [], .succeeding⟩, ⟨none, [], .expired⟩] ≠ [] ∧
      ((storeAfter .sample .failedBare [⟨some ⟨[]⟩, [], .succeeding⟩, ⟨none, [], .expired⟩]).isFailed = true ∧
        ∀ e ∈ runEvents .sample .failedBare [⟨some ⟨[]⟩, [], .succeeding⟩, ⟨none, [], .expired⟩],
          ∃ a r, e = .update a r) :=
  ⟨rfl, rfl, List.ne_nil_of_length_pos (by decide), run_failed_stays_failed _ _ _ rfl rfl⟩

end Runs

def Account.unstarted : Account :=
  ⟨[Env.sample.accountFinalizer], [], none, ⟨"", false, false, ""⟩, ⟨"", false, ""⟩⟩

/-- The provider creates and reports the account; the store rejects every write. -/
def Round.creatingRejected : Round where
  configMap := some ⟨[]⟩
  secrets := []
  responses := { Responses.succeeding with
    writes := Stream'.const (some (.other "the object has been modified"))
    createAccount := Stream'.const (.ok ⟨"car-1"⟩)
    describeCreateAccountStatus := [.ok ⟨.succeeded, "", some "111122223333"⟩] }

theorem reconcile_creatingRejected_run :
    ((reconcile .sample).run.run (Round.creatingRejected.world .unstarted)).2.log =
      [.createAccount (.ok ⟨"car-1"⟩), .describeCreateAccountStatus (.ok ⟨.succeeded, "", some "111122223333"⟩),
        .statusUpdate (setAccountStatus .unstarted accountCreating .accountCreating accountCreating)
          (some (.other "the object has been modified"))] ∧
    ((reconcile .sample).run.run (Round.creatingRejected.world .unstarted)).2.store = .unstarted := by
  obtain ⟨k, j, isOptIn, regions, run⟩ := @reconcile_run_of_answered .sample
    (Round.creatingRejected.world .unstarted) ⟨[]⟩ (fun _ => rfl) (fun _ => rfl) rfl
    (fun named => absurd rfl named.1)
  rw [run]
  simp [reconcileAccount, addFinalizer, reconcileByState, reconcileNonBYOC, nonCCSAssignAccountIDV2, buildAccountV2,
    createAccountV2, pollCreateAccountStatus, describeCreateAccountStatusCall, takeDescribeScript, createAccount,
    getAccount, readError, statusUpdate, popWrite, run_bind, Event.apply, Except.map, creationConditionOlderThan,
    accountsCanBeCreated, Round.world, Account.unstarted, Env.sample, Round.creatingRejected, Responses.succeeding,
    Account.isPendingDeletion, Account.isFailed, Account.isInitializingRegions, newBYOCAccountV2,
    Account.isPendingVerification, Account.isReadyUnclaimedAndHasClaimLink, Account.isReady, Account.isCreating,
    Account.isUnclaimedAndHasNoState, Account.hasState, Account.isClaimed, Account.hasAwsAccountID]

theorem run_repeats_create_account_after_rejected_write :
    .createAccount (.ok ⟨"car-1"⟩) ∈ reconcileEvents .sample (Round.creatingRejected.world .unstarted) ∧
    .describeCreateAccountStatus (.ok ⟨.succeeded, "", some "111122223333"⟩) ∈
      reconcileEvents .sample (Round.creatingRejected.world .unstarted) ∧
    storeAfter .sample .unstarted [.creatingRejected] = .unstarted ∧
    .createAccount (.ok ⟨"car-1"⟩) ∈ reconcileEvents .sample
      (Round.creatingRejected.world (storeAfter .sample .unstarted [.creatingRejected])) := by
  obtain ⟨log, store⟩ := reconcile_creatingRejected_run
  have again : storeAfter .sample .unstarted [.creatingRejected] = .unstarted := store
  refine ⟨?_, ?_, again, ?_⟩ <;> simp [again, reconcileEvents, log]

end AccountOperator
