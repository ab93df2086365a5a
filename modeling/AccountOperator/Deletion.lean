import AccountOperator.Writes

namespace AccountOperator

section Deletion

variable {env : Env} {a : Account} {w : World}

/-- Without an expected role ID, deletion's role assumption is one run of the retry loop. -/
theorem roleAssumptionRounds_deletion_run :
    (roleAssumptionRounds env "" none 10).run.run w =
      (.ok (match (firstOk (.ok ⟨"", "", "", ""⟩) 100 w.responses.assumeRole).1 with
        | .error err => .error err
        | .ok c => .ok (some c)),
        World.popAssumeRole^[(firstOk (.ok ⟨"", "", "", ""⟩) 100 w.responses.assumeRole).2] w) := by
  unfold roleAssumptionRounds
  simp only [run_bind, getSTSCredentialsV2, assumeRoleRetries_run]
  generalize firstOk (.ok ⟨"", "", "", ""⟩) 100 w.responses.assumeRole = outcome
  rcases outcome with ⟨_ | _, _⟩
  · rfl
  · simp

theorem reconcileDeletion_refused_run (reliable : w.responses.Reliable)
    (nonSTS : a.spec.manualSTSMode = false) {err : GoError}
    (refused : (firstOk (.ok ⟨"", "", "", ""⟩) 100 w.responses.assumeRole).1 = .error err) :
    ((reconcileDeletion env a).run.run w).1 = .ok ({}, some err) ∧
    ((reconcileDeletion env a).run.run w).2.store = { w.store with status := { a.status with
      state := "Failed to create STS Credentials for account ID " ++ a.spec.awsAccountID ++ ": " ++
        err.error } } := by
  have popped := World.popAssumeRole_iterate_reliable reliable
    (firstOk (.ok ⟨"", "", "", ""⟩) 100 w.responses.assumeRole).2
  constructor <;> simp [reconcileDeletion, nonSTS, handleRoleAssumptionV2, run_bind, roleAssumptionRounds_deletion_run, refused,
    handleAWSClientErrorV2, setAccountFailedV2, statusUpdate, popWrite, popped.writes_head, Event.apply,
    World.popAssumeRole_iterate_store, setAccountStatus, Except.map]

theorem reconcileDeletion_assumed_store (reliable : w.responses.Reliable)
    (nonSTS : a.spec.manualSTSMode = false) (marked : a.isNonSTSPendingDeletionWithFinalizer env = true)
    {c : AssumeRoleOutput}
    (assumed : (firstOk (.ok ⟨"", "", "", ""⟩) 100 w.responses.assumeRole).1 = .ok c) :
    ((reconcileDeletion env a).run.run w).2.store = { w.store with
      finalizers := removeName a.finalizers env.accountFinalizer, labels := a.labels, spec := a.spec } := by
  have popped := World.popAssumeRole_iterate_reliable reliable
    (firstOk (.ok ⟨"", "", "", ""⟩) 100 w.responses.assumeRole).2
  simp [reconcileDeletion, nonSTS, handleRoleAssumptionV2, run_bind, roleAssumptionRounds_deletion_run, assumed,
    getClientV2, newClientV2, loadDefaultConfig, popped.loads_head, marked, removeFinalizer, update, popWrite,
    popped.writes_head, Event.apply, World.popAssumeRole_iterate_store]

end Deletion

section Reconcile

variable {env : Env} {w : World} {configMap : ConfigMap}

/-- Refused on all 100 attempts, deletion returns the error and stores the failure text as the state. -/
theorem reconcile_deletion_refused (reliable : w.responses.Reliable)
    (config : w.configMap = some configMap)
    (secret : env.awsSecretName ≠ "" ∧ env.accountCrNamespace ≠ "" →
      ∃ s ∈ w.secrets, s.name = env.awsSecretName ∧ s.nameSpace = env.accountCrNamespace)
    (nonSTS : w.store.spec.manualSTSMode = false) (deleting : w.store.isPendingDeletion = true)
    (carries : env.accountFinalizer ∈ w.store.finalizers) {err : GoError}
    (refused : (firstOk (.ok ⟨"", "", "", ""⟩) 100 w.responses.assumeRole).1 = .error err) :
    ((reconcile env).run.run w).1 = .ok ({}, some err) ∧
    ((reconcile env).run.run w).2.store = { w.store with status := { w.store.status with
      state := "Failed to create STS Credentials for account ID " ++ w.store.spec.awsAccountID ++ ": " ++
        err.error } } := by
  obtain ⟨k, j, isOptIn, optInRegions, run⟩ := reconcile_run_of_answered reliable.reads reliable.loads config secret
  rw [run, reconcileAccount_of_deleting nonSTS carries deleting]
  exact reconcileDeletion_refused_run (reliable.consume k j) nonSTS refused

def Account.failedDeleting : Account := ⟨[""], [], some 0, ⟨"", false, false, ""⟩, ⟨"Failed", false, ""⟩⟩

theorem reconcile_failed_deleting_account_takes_message :
    ((reconcile default).run.run (.start .failedDeleting .succeeding)).2.store.status.state =
      "Failed to create STS Credentials for account ID : operation error STS: AssumeRole, AccessDenied" := by
  rw [(@reconcile_deletion_refused default (.start .failedDeleting .succeeding) ⟨[]⟩
    Responses.succeeding_reliable rfl (fun named => absurd rfl named.1) rfl rfl (List.mem_singleton_self _) _
    (congrArg Prod.fst (firstOk_refused (.ok ⟨"", "", "", ""⟩) 99 Responses.succeeding.assumeRole
      fun _ _ => ⟨_, rfl⟩))).2]
  rfl

theorem reconcile_deletion_assumed (reliable : w.responses.Reliable)
    (config : w.configMap = some configMap)
    (secret : env.awsSecretName ≠ "" ∧ env.accountCrNamespace ≠ "" →
      ∃ s ∈ w.secrets, s.name = env.awsSecretName ∧ s.nameSpace = env.accountCrNamespace)
    (nonSTS : w.store.spec.manualSTSMode = false) (deleting : w.store.isPendingDeletion = true)
    (carries : env.accountFinalizer ∈ w.store.finalizers) {c : AssumeRoleOutput}
    (assumed : (firstOk (.ok ⟨"", "", "", ""⟩) 100 w.responses.assumeRole).1 = .ok c) :
    ((reconcile env).run.run w).2.store =
      { w.store with finalizers := removeName w.store.finalizers env.accountFinalizer } := by
  obtain ⟨k, j, isOptIn, optInRegions, run⟩ := reconcile_run_of_answered reliable.reads reliable.loads config secret
  rw [run, reconcileAccount_of_deleting nonSTS carries deleting]
  exact reconcileDeletion_assumed_store (reliable.consume k j) nonSTS
    (by simp [Account.isNonSTSPendingDeletionWithFinalizer, nonSTS, deleting, carries]) assumed

theorem reconcile_removes_finalizer_iff_role_assumed (reliable : w.responses.Reliable)
    (config : w.configMap = some configMap)
    (secret : env.awsSecretName ≠ "" ∧ env.accountCrNamespace ≠ "" →
      ∃ s ∈ w.secrets, s.name = env.awsSecretName ∧ s.nameSpace = env.accountCrNamespace)
    (nonSTS : w.store.spec.manualSTSMode = false) (deleting : w.store.isPendingDeletion = true)
    (carries : env.accountFinalizer ∈ w.store.finalizers) :
    (env.accountFinalizer ∉ ((reconcile env).run.run w).2.store.finalizers ↔
      ∃ k < 100, ∃ c, w.responses.assumeRole.get k = .ok c) ∧
    ((∀ k < 100, ∃ e, w.responses.assumeRole.get k = .error e) → ∃ err,
      w.responses.assumeRole.get 99 = .error err ∧ ((reconcile env).run.run w).1 = .ok ({}, some err) ∧
      ((reconcile env).run.run w).2.store.status.state =
        "Failed to create STS Credentials for account ID " ++ w.store.spec.awsAccountID ++ ": " ++ err.error) := by
  refine ⟨?_, fun refused => ?_⟩
  · rw [← firstOk_fst_ok_iff (.ok ⟨"", "", "", ""⟩) 99 w.responses.assumeRole]
    rcases h : (firstOk (.ok ⟨"", "", "", ""⟩) 100 w.responses.assumeRole).1 with err | c
    · rw [(reconcile_deletion_refused reliable config secret nonSTS deleting carries h).2]
      simp [carries, h]
    · rw [reconcile_deletion_assumed reliable config secret nonSTS deleting carries h]
      simp [removeName, h]
  · obtain ⟨err, last⟩ := refused 99 (by omega)
    have h : (firstOk (.ok ⟨"", "", "", ""⟩) 100 w.responses.assumeRole).1 = .error err := by
      rw [firstOk_refused _ 99 _ refused, last]
    obtain ⟨result, store⟩ := reconcile_deletion_refused reliable config secret nonSTS deleting carries h
    exact ⟨err, last, result, by rw [store]⟩

def Account.byocDeleting : Account := ⟨[""], [], some 0, ⟨"", true, false, ""⟩, ⟨"Ready", true, ""⟩⟩

theorem reconcile_byoc_deletion_with_assumable_role :
    ((default : Env).accountFinalizer ∉ ((reconcile default).run.run (.start .byocDeleting
      (.assumingAs ⟨"ASIA", "SECRET", "TOKEN", "AROAEXAMPLE"⟩))).2.store.finalizers ↔
      ∃ k < 100, ∃ c,
        (Responses.assumingAs ⟨"ASIA", "SECRET", "TOKEN", "AROAEXAMPLE"⟩).assumeRole.get k = .ok c) ∧
    ((∀ k < 100, ∃ e, (Responses.assumingAs ⟨"ASIA", "SECRET", "TOKEN", "AROAEXAMPLE"⟩).assumeRole.get k =
        .error e) → ∃ err,
      (Responses.assumingAs ⟨"ASIA", "SECRET", "TOKEN", "AROAEXAMPLE"⟩).assumeRole.get 99 = .error err ∧
      ((reconcile default).run.run (.start .byocDeleting
        (.assumingAs ⟨"ASIA", "SECRET", "TOKEN", "AROAEXAMPLE"⟩))).1 = .ok ({}, some err) ∧
      ((reconcile default).run.run (.start .byocDeleting
        (.assumingAs ⟨"ASIA", "SECRET", "TOKEN", "AROAEXAMPLE"⟩))).2.store.status.state =
        "Failed to create STS Credentials for account ID " ++ Account.byocDeleting.spec.awsAccountID ++ ": " ++
          err.error) :=
  reconcile_removes_finalizer_iff_role_assumed ⟨fun _ => rfl, fun _ => rfl, fun _ => rfl⟩ rfl
    (fun named => absurd rfl named.1) rfl rfl (List.mem_singleton_self _)

theorem reconcile_byoc_deletion_blocked_by_refused_role :
    (default : Env).accountFinalizer ∈
      ((reconcile default).run.run (.start .byocDeleting .succeeding)).2.store.finalizers := by
  rw [(@reconcile_deletion_refused default (.start .byocDeleting .succeeding) ⟨[]⟩
    Responses.succeeding_reliable rfl (fun named => absurd rfl named.1) rfl rfl (List.mem_singleton_self _) _
    (congrArg Prod.fst (firstOk_refused (.ok ⟨"", "", "", ""⟩) 99 Responses.succeeding.assumeRole
      fun _ _ => ⟨_, rfl⟩))).2]
  exact List.mem_singleton_self _

end Reconcile

section STS

variable {env : Env} {a : Account} {w : World}

theorem reconcileAccount_of_sts_deleting {configMap : ConfigMap} {isOptIn : Bool}
    {optInRegions : String} (sts : a.spec.manualSTSMode = true) (deleting : a.isPendingDeletion = true) :
    reconcileAccount env configMap isOptIn optInRegions a = reconcileDeletion env a := by
  simp [reconcileAccount, reconcileByState, sts, deleting]

theorem reconcileDeletion_sts_emits (sts : a.spec.manualSTSMode = true) :
    Emits (fun e => ∃ b r, e = .update b r ∧ env.accountFinalizer ∉ b.finalizers)
      (reconcileDeletion env a) := by
  unfold reconcileDeletion
  rw [if_pos sts]
  exact (Emits.update fun r => ⟨_, r, rfl, by simp [removeName]⟩).bind fun _ => Emits.pure _

/-- Deleting an STS account only drops its finalizer. -/
theorem reconcile_sts_deletion_only_drops_finalizer (sts : w.store.spec.manualSTSMode = true)
    (deleting : w.store.isPendingDeletion = true) :
    ∀ e ∈ reconcileEvents env w, ∃ b r, e = .update b r ∧ env.accountFinalizer ∉ b.finalizers :=
  (reconcileEvents_of_emitsAt (reconcile_emitsAt (I := fun _ => True) (fun _ _ _ _ => trivial) trivial
    fun _ _ _ => reconcileAccount_of_sts_deleting sts deleting ▸
      (reconcileDeletion_sts_emits sts).triple fun _ _ _ _ => trivial)).2.2

def Account.stsDeleting : Account :=
  ⟨[Env.sample.accountFinalizer], [], some 0, ⟨"123456789012", false, true, ""⟩, ⟨"Ready", true, ""⟩⟩

theorem reconcile_sts_deletion_only_drops_finalizer_on_ready :
    Account.stsDeleting.spec.manualSTSMode = true ∧ Account.stsDeleting.isPendingDeletion = true ∧
      ∀ e ∈ reconcileEvents .sample (.start .stsDeleting .succeeding),
        ∃ b r, e = .update b r ∧ Env.sample.accountFinalizer ∉ b.finalizers :=
  ⟨rfl, rfl, reconcile_sts_deletion_only_drops_finalizer rfl rfl⟩

end STS

end AccountOperator
