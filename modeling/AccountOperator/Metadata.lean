import AccountOperator.Runs

namespace AccountOperator

/-- `s` edited by the steps a reconciliation takes: the accounts it holds and writes. -/
inductive Edited (env : Env) (s : Account) : Account → Prop
  | refl : Edited env s s
  | status {a : Account} (status : AccountStatus) : Edited env s a → Edited env s { a with status }
  | addFinalizer {a : Account} : Edited env s a → a.spec.manualSTSMode = false →
      env.accountFinalizer ∉ a.finalizers →
      Edited env s { a with finalizers := a.finalizers ++ [env.accountFinalizer] }
  | removeFinalizer {a : Account} : Edited env s a → a.isPendingDeletion = true →
      Edited env s { a with finalizers := removeName a.finalizers env.accountFinalizer }
  | addLabel {a : Account} (value : String) : Edited env s a →
      accountCRHasIAMUserIDLabel env a = false → Edited env s (addLabel a env.iamUserIDLabel value)
  | assignID {a : Account} (id : String) : Edited env s a →
      Edited env s { a with spec := { a.spec with awsAccountID := id } }
  | written {t a : Account} : Edited env s t → Edited env s a →
      Edited env s ((Event.update a none).apply t)

theorem lookup_filter_of_ne {l : List (String × String)} {key label : String} (other : key ≠ label) :
    (l.filter (·.1 ≠ label)).lookup key = l.lookup key := by
  induction l with
  | nil => rfl
  | cons p l ih =>
    obtain ⟨k, v⟩ := p
    by_cases h : k = label
    · subst h
      rw [List.filter_cons_of_neg (by simp), ih, List.lookup_cons, beq_false_of_ne other]
    · rw [List.filter_cons_of_pos (by simpa using h), List.lookup_cons, List.lookup_cons, ih]

namespace Edited

variable {env : Env} {s t a : Account}

theorem trans (h₁ : Edited env s t) (h₂ : Edited env t a) : Edited env s a := by
  induction h₂ with
  | refl => exact h₁
  | status st _ ih => exact ih.status st
  | addFinalizer _ nonSTS missing ih => exact ih.addFinalizer nonSTS missing
  | removeFinalizer _ deleting ih => exact ih.removeFinalizer deleting
  | addLabel value _ missing ih => exact ih.addLabel value missing
  | assignID id _ ih => exact ih.assignID id
  | written _ _ ih₁ ih₂ => exact ih₁.written ih₂

theorem deletionTimestamp (h : Edited env s a) : a.deletionTimestamp = s.deletionTimestamp := by
  induction h with
  | refl => rfl
  | status _ _ ih | addFinalizer _ _ _ ih | removeFinalizer _ _ ih | addLabel _ _ _ ih | assignID _ _ ih =>
    exact ih
  | written _ _ ih _ => exact ih

theorem foreign_finalizers (h : Edited env s a) :
    removeName a.finalizers env.accountFinalizer = removeName s.finalizers env.accountFinalizer := by
  induction h with
  | refl => rfl
  | status _ _ ih | addLabel _ _ _ ih | assignID _ _ ih => exact ih
  | addFinalizer _ _ _ ih => simpa [removeName, List.filter_append] using ih
  | removeFinalizer _ _ ih => simpa [removeName, List.filter_filter] using ih
  | written _ _ _ ih => exact ih

theorem foreign_labels (h : Edited env s a) :
    a.labels.filter (·.1 ≠ env.iamUserIDLabel) = s.labels.filter (·.1 ≠ env.iamUserIDLabel) := by
  induction h with
  | refl => rfl
  | status _ _ ih | addFinalizer _ _ _ ih | removeFinalizer _ _ ih | assignID _ _ ih => exact ih
  | addLabel _ _ _ ih => simpa [AccountOperator.addLabel, List.filter_filter] using ih
  | written _ _ _ ih => exact ih

theorem spec_but_id (h : Edited env s a) :
    { a.spec with awsAccountID := "" } = { s.spec with awsAccountID := "" } := by
  induction h with
  | refl => rfl
  | status _ _ ih | addFinalizer _ _ _ ih | removeFinalizer _ _ ih | addLabel _ _ _ ih | assignID _ _ ih =>
    exact ih
  | written _ _ _ ih => exact ih

theorem finalizer_mem (h : Edited env s a) (live : s.isPendingDeletion = false)
    (carries : env.accountFinalizer ∈ s.finalizers) : env.accountFinalizer ∈ a.finalizers := by
  induction h with
  | refl => exact carries
  | status _ _ ih | addLabel _ _ _ ih | assignID _ _ ih => exact ih
  | addFinalizer _ _ _ ih => exact List.mem_append_left _ ih
  | removeFinalizer held deleting _ =>
    rw [Account.isPendingDeletion, held.deletionTimestamp] at deleting
    exact absurd (live.symm.trans deleting) Bool.false_ne_true
  | written _ _ _ ih => exact ih

theorem finalizer_count (h : Edited env s a) (once : s.finalizers.count env.accountFinalizer ≤ 1) :
    a.finalizers.count env.accountFinalizer ≤ 1 := by
  induction h with
  | refl => exact once
  | status _ _ ih | addLabel _ _ _ ih | assignID _ _ ih => exact ih
  | addFinalizer _ _ missing _ => simp [List.count_eq_zero_of_not_mem missing]
  | removeFinalizer _ _ _ => exact (List.count_eq_zero_of_not_mem (by simp [removeName])).trans_le (Nat.zero_le 1)
  | written _ _ _ ih => exact ih

theorem label_value (h : Edited env s a) {value : String}
    (labelled : s.labels.lookup env.iamUserIDLabel = some value) :
    a.labels.lookup env.iamUserIDLabel = some value := by
  induction h with
  | refl => exact labelled
  | status _ _ ih | addFinalizer _ _ _ ih | removeFinalizer _ _ ih | assignID _ _ ih => exact ih
  | addLabel _ _ missing ih => simp [accountCRHasIAMUserIDLabel, ih] at missing
  | written _ _ _ ih => exact ih

theorem finalizer_not_mem (h : Edited env s a) (sts : s.spec.manualSTSMode = true)
    (absent : env.accountFinalizer ∉ s.finalizers) : env.accountFinalizer ∉ a.finalizers := by
  induction h with
  | refl => exact absent
  | status _ _ ih | addLabel _ _ _ ih | assignID _ _ ih => exact ih
  | addFinalizer held nonSTS _ _ =>
    have kind := congrArg AccountSpec.manualSTSMode held.spec_but_id
    exact absurd (nonSTS.symm.trans (kind.trans sts)) Bool.false_ne_true
  | removeFinalizer _ _ _ => simp [removeName]
  | written _ _ _ ih => exact ih

end Edited

def WritesEdited (env : Env) (s : Account) : Event → Prop
  | .update a _ => Edited env s a
  | _ => True

theorem WritesEdited.edited {env : Env} {s : Account} (e : Event) (t : Account)
    (h : WritesEdited env s e) (ht : Edited env s t) : Edited env s (e.apply t) := by
  cases e with
  | update a r =>
    cases r with
    | none => exact ht.written h
    | some => exact ht
  | statusUpdate a r =>
    cases r with
    | none => exact ht.status a.status
    | some => exact ht
  | claimStatusUpdate | assumeRole | createAccount | describeCreateAccountStatus | tagResource => exact ht

section Steps

variable {env : Env} {s a : Account} {configMap : ConfigMap} {isOptIn : Bool} {optInRegions : String}

theorem Emits.edited {α : Type} {m : ReconcileM α} (h : Emits (WritesEdited env s) m) :
    Triple (Edited env s) (WritesEdited env s) (fun _ => True) m :=
  h.triple WritesEdited.edited

theorem setAccountFailedV2_edited {ctype : AccountConditionType} {reason message state : String} :
    Emits (WritesEdited env s) (setAccountFailedV2 a ctype reason message state) :=
  (Emits.statusUpdate fun _ => trivial).bind fun _ => Emits.pure _

theorem tagResource_edited : Emits (WritesEdited env s) tagResource :=
  Emits.respond _ _ fun _ => trivial

theorem removeFinalizer_edited (edited : Edited env s a) (deleting : a.isPendingDeletion = true) :
    Emits (WritesEdited env s) (removeFinalizer a env.accountFinalizer) :=
  (Emits.update fun _ => edited.removeFinalizer deleting).bind fun _ => Emits.pure _

theorem reconcileDeletion_edited (edited : Edited env s a) (deleting : a.isPendingDeletion = true) :
    Emits (WritesEdited env s) (reconcileDeletion env a) := by
  unfold reconcileDeletion
  split
  · exact (removeFinalizer_edited edited deleting).bind fun _ => Emits.pure _
  · refine (handleRoleAssumptionV2_emits (fun _ => trivial) _ _ _).bind fun r => ?_
    rcases r with _ | _
    · exact setAccountFailedV2_edited.bind fun _ => Emits.pure _
    · exact Emits.ite (fun _ => (removeFinalizer_edited edited deleting).bind fun _ => Emits.pure _)
        fun _ => Emits.pure _

theorem reconcileInitialization_edited (edited : Edited env s a) :
    Emits (WritesEdited env s) (reconcileInitialization env configMap isOptIn optInRegions a) := by
  have initialized : Emits (WritesEdited env s) (initializeAccount a) :=
    (Emits.statusUpdate fun _ => trivial).bind fun _ => Emits.pure _
  unfold reconcileInitialization
  refine Emits.ite (fun _ => Emits.pure _) fun _ => ?_
  split
  · exact Emits.pure _
  · refine Emits.ite (fun _ => ?_) fun _ => Emits.pure _
    refine Emits.ite (fun _ => ?_) fun _ => Emits.ite (fun missing => ?_) fun _ => ?_
    · refine (Emits.read _).bind fun r => ?_
      rcases r with _ | _
      · exact initialized
      · exact (Emits.respond _ _ fun _ => trivial).bind fun _ => Emits.pure _
    · exact (Emits.read _).bind fun _ =>
        (Emits.update fun _ => edited.addLabel _ (by simpa using missing)).bind fun _ => Emits.pure _
    · exact initialized

theorem buildAccountV2_edited (edited : Edited env s a) :
    Triple (Edited env s) (WritesEdited env s) (fun r => Edited env s r.1) (buildAccountV2 a) := by
  unfold buildAccountV2
  refine (Emits.edited (createAccountV2_emits (fun _ => trivial) fun _ => trivial)).bind
    fun ⟨out, err⟩ _ => ?_
  rcases err with _ | _
  · refine getAccount_triple.bind fun fetched stored => ?_
    rcases out with ⟨_ | ⟨_, _, _ | _⟩⟩ <;> rcases fetched with _ | _
    all_goals first | exact Triple.throw _ | exact Triple.pure edited | exact Triple.pure (stored _ rfl)
  · exact Triple.ite (fun _ => (Emits.edited (Emits.statusUpdate fun _ => trivial)).bind fun r _ => by
      cases r <;> exact Triple.pure (edited.status _)) fun _ => Triple.ite (fun _ => Triple.pure edited)
        fun _ => Triple.pure edited

theorem nonCCSAssignAccountIDV2_edited (edited : Edited env s a) :
    Triple (Edited env s) (WritesEdited env s) (fun r => Edited env s r.1)
      (nonCCSAssignAccountIDV2 env a) := by
  unfold nonCCSAssignAccountIDV2
  refine Triple.bind (P := fun r => Edited env s r.1) ?built fun ⟨built, _, err⟩ builtEdited => ?_
  case built => exact Triple.ite (fun _ => buildAccountV2_edited edited) fun _ => Triple.pure edited
  have creating := builtEdited.status { built.status with state := accountCreating }
  have assigned (id : String) : Edited env s
      (let account := setAccountStatus built accountCreating .accountCreating accountCreating
      let account := if !env.devModeProduction then
        { account with status := { account.status with supportCaseID := "11111111" } } else account
      { account with spec := { account.spec with awsAccountID := id } }) := by
    split
    · exact (creating.status _).assignID id
    · exact creating.assignID id
  rcases err with _ | _
  · refine (Emits.edited (Emits.statusUpdate fun _ => trivial)).bind fun r _ => ?_
    rcases r with _ | _
    · exact (Emits.edited tagResource_edited).bind fun _ _ =>
        (Emits.edited (Emits.update fun _ => by exact assigned _)).bind fun _ _ =>
          Triple.pure (by exact assigned _)
    · exact Triple.pure creating
  · exact Triple.pure builtEdited

theorem reconcileBYOC_edited (edited : Edited env s a) :
    Emits (WritesEdited env s) (reconcileBYOC env configMap isOptIn optInRegions a) := by
  unfold reconcileBYOC
  split
  · exact setAccountFailedV2_edited.bind fun _ => Emits.pure _
  · refine (Emits.statusUpdate fun _ => trivial).bind fun r => ?_
    rcases r with _ | _
    · exact reconcileInitialization_edited (edited.status _)
    · exact Emits.pure _

theorem reconcileNonBYOC_edited (edited : Edited env s a) : Triple (Edited env s) (WritesEdited env s)
    (fun _ => True) (reconcileNonBYOC env configMap isOptIn optInRegions a) := by
  unfold reconcileNonBYOC
  refine Triple.ite (fun _ => (Emits.pure _).edited) fun _ =>
    Triple.ite (fun _ => (Emits.pure _).edited) fun _ => ?_
  refine (Emits.read _).edited.bind fun _ _ => Triple.ite (fun _ => ?_) fun _ => Triple.ite
    (fun _ => ?_) fun _ => (reconcileInitialization_edited edited).edited
  · exact (setAccountFailedV2_edited.bind fun ⟨_, stateErr⟩ => by
      cases stateErr <;> exact Emits.pure _).edited
  · refine Triple.ite (fun _ => ?_) fun _ => ?_
    · refine (Emits.read _).edited.bind fun _ _ => Triple.ite (fun _ => (Emits.pure _).edited) fun _ => ?_
      refine (nonCCSAssignAccountIDV2_edited edited).bind fun ⟨_, err⟩ post => ?_
      rcases err with _ | _
      · exact (reconcileInitialization_edited post).edited
      · exact (Emits.pure _).edited
    · refine ((Emits.statusUpdate fun _ => trivial).bind fun r => ?_).edited
      rcases r with _ | _
      · exact reconcileInitialization_edited (edited.status _)
      · exact Emits.pure _

theorem reconcileByState_edited (edited : Edited env s a) : Triple (Edited env s) (WritesEdited env s)
    (fun _ => True) (reconcileByState env configMap isOptIn optInRegions a) := by
  unfold reconcileByState
  refine Triple.ite (fun deleting => (reconcileDeletion_edited edited deleting).edited) fun _ =>
    Triple.ite (fun _ => (Emits.pure _).edited) fun _ =>
      Triple.ite (fun _ => (Emits.pure _).edited) fun _ =>
        Triple.ite (fun _ => (reconcileBYOC_edited edited).edited) fun _ => reconcileNonBYOC_edited edited

theorem addFinalizer_edited (edited : Edited env s a) (nonSTS : a.spec.manualSTSMode = false) :
    Triple (Edited env s) (WritesEdited env s) (fun r => Edited env s r.1) (addFinalizer env a) := by
  unfold addFinalizer
  split
  case isTrue missing =>
    have added := edited.addFinalizer nonSTS (by simpa using missing)
    exact (Emits.update fun _ => added).edited.bind fun _ _ => Triple.pure added
  case isFalse => exact Triple.pure edited

theorem reconcileAccount_edited : Triple (Edited env s) (WritesEdited env s) (fun _ => True)
    (reconcileAccount env configMap isOptIn optInRegions s) := by
  unfold reconcileAccount
  split
  case isTrue nonSTS =>
    refine (addFinalizer_edited .refl (by simpa using nonSTS)).bind fun ⟨_, err⟩ edited => ?_
    rcases err with _ | _
    · exact reconcileByState_edited edited
    · exact (Emits.pure _).edited
  case isFalse => exact reconcileByState_edited .refl

end Steps

theorem reconcile_edited (env : Env) (w : World) :
    Edited env w.store ((reconcile env).run.run w).2.store := by
  obtain ⟨-, store, edits⟩ := reconcileEvents_of_emitsAt
    (reconcile_emitsAt WritesEdited.edited .refl fun _ _ _ => reconcileAccount_edited)
  exact store ▸ foldl_apply_keeps WritesEdited.edited _ _ edits .refl

theorem storeAfter_edited (env : Env) (s : Account) (rounds : List Round) :
    Edited env s (storeAfter env s rounds) := by
  induction rounds generalizing s with
  | nil => exact .refl
  | cons r rounds ih => exact (reconcile_edited env (r.world s)).trans (ih _)

section Runs

variable (env : Env) (s : Account) (rounds : List Round)

/-- Over any run the controller edits only its finalizer, its IAM user label and the account ID. -/
theorem run_keeps_foreign_metadata :
    removeName (storeAfter env s rounds).finalizers env.accountFinalizer =
      removeName s.finalizers env.accountFinalizer ∧
    (∀ key, key ≠ env.iamUserIDLabel → (storeAfter env s rounds).labels.lookup key = s.labels.lookup key) ∧
    { (storeAfter env s rounds).spec with awsAccountID := "" } = { s.spec with awsAccountID := "" } :=
  have edited := storeAfter_edited env s rounds
  ⟨edited.foreign_finalizers, fun key other => by
    rw [← lookup_filter_of_ne other, edited.foreign_labels, lookup_filter_of_ne other],
    edited.spec_but_id⟩

/-- Outside deletion, a finalizer held once stays held once. -/
theorem run_keeps_account_finalizer (live : s.isPendingDeletion = false)
    (once : s.finalizers.count env.accountFinalizer = 1) :
    (storeAfter env s rounds).finalizers.count env.accountFinalizer = 1 := by
  have edited := storeAfter_edited env s rounds
  have held := edited.finalizer_mem live (List.count_pos_iff.mp (by omega))
  have := edited.finalizer_count once.le
  have := List.count_pos_iff.mpr held
  omega

theorem run_keeps_account_finalizer_on_unstarted :
    Account.unstarted.isPendingDeletion = false ∧
      Account.unstarted.finalizers.count Env.sample.accountFinalizer = 1 ∧
      (storeAfter .sample .unstarted [.creatingRejected, ⟨some ⟨[]⟩, [], .succeeding⟩]).finalizers.count
        Env.sample.accountFinalizer = 1 :=
  ⟨rfl, by decide, run_keeps_account_finalizer _ _ _ rfl (by decide)⟩

theorem run_keeps_iam_user_label {value : String}
    (labelled : s.labels.lookup env.iamUserIDLabel = some value) :
    (storeAfter env s rounds).labels.lookup env.iamUserIDLabel = some value :=
  (storeAfter_edited env s rounds).label_value labelled

/-- An STS account, whose claim owns its deletion, never gets the finalizer. -/
theorem run_never_finalizes_sts_account (sts : s.spec.manualSTSMode = true)
    (absent : env.accountFinalizer ∉ s.finalizers) :
    env.accountFinalizer ∉ (storeAfter env s rounds).finalizers :=
  (storeAfter_edited env s rounds).finalizer_not_mem sts absent

def Account.stsCreating : Account :=
  ⟨[], [], none, ⟨"123456789012", false, true, "claim"⟩, ⟨"Creating", true, ""⟩⟩

theorem run_never_finalizes_sts_account_on_creating :
    Account.stsCreating.spec.manualSTSMode = true ∧ Env.sample.accountFinalizer ∉ Account.stsCreating.finalizers ∧
      runEvents .sample .stsCreating [⟨some .amiOwner, [], .succeeding⟩] ≠ [] ∧
      Env.sample.accountFinalizer ∉ (storeAfter .sample .stsCreating [⟨some .amiOwner, [], .succeeding⟩]).finalizers :=
  ⟨rfl, List.not_mem_nil _, List.ne_nil_of_length_pos (by decide),
    run_never_finalizes_sts_account _ _ _ rfl (List.not_mem_nil _)⟩

theorem run_keeps_iam_user_label_on_optedIn :
    Account.optedIn.labels.lookup Env.sample.iamUserIDLabel = some "abcde" ∧
      runEvents .sample .optedIn [⟨some .amiOwner, [], .succeeding⟩] ≠ [] ∧
      (storeAfter .sample .optedIn [⟨some .amiOwner, [], .succeeding⟩]).labels.lookup
        Env.sample.iamUserIDLabel = some "abcde" :=
  ⟨by decide, List.ne_nil_of_length_pos (by decide), run_keeps_iam_user_label _ _ _ (by decide)⟩

end Runs


section Progress

variable {env : Env} {w : World}

theorem reconcileByState_keeps_finalizer {configMap : ConfigMap} {isOptIn : Bool} {optInRegions : String}
    {a : Account} (stored : w.store = a) (live : a.isPendingDeletion = false)
    (carries : env.accountFinalizer ∈ a.finalizers) :
    env.accountFinalizer ∈ ((reconcileByState env configMap isOptIn optInRegions a).run.run w).2.store.finalizers :=
  ((reconcileByState_edited .refl) w (stored ▸ .refl)).2.1.finalizer_mem live carries

/-- A live non-STS account ends a reliable reconciliation with the finalizer. -/
theorem reconcile_adds_account_finalizer {configMap : ConfigMap} (reliable : w.responses.Reliable)
    (config : w.configMap = some configMap)
    (secret : env.awsSecretName ≠ "" ∧ env.accountCrNamespace ≠ "" →
      ∃ s ∈ w.secrets, s.name = env.awsSecretName ∧ s.nameSpace = env.accountCrNamespace)
    (nonSTS : w.store.spec.manualSTSMode = false) (live : w.store.isPendingDeletion = false) :
    env.accountFinalizer ∈ ((reconcile env).run.run w).2.store.finalizers := by
  obtain ⟨k, j, isOptIn, optInRegions, run⟩ := reconcile_run_of_answered reliable.reads reliable.loads config secret
  rw [run]
  unfold reconcileAccount addFinalizer
  by_cases carries : env.accountFinalizer ∈ w.store.finalizers
  · simp only [nonSTS, carries, Bool.not_false, List.elem_eq_mem, decide_True, Bool.not_true, Bool.false_eq_true,
      ↓reduceIte, run_bind, run_pure]
    exact reconcileByState_keeps_finalizer (by rfl) live carries
  · simp only [nonSTS, carries, Bool.not_false, List.elem_eq_mem, decide_False, ↓reduceIte, run_bind, update,
      respond_run, popWrite, (reliable.consume k j).writes_head, run_pure]
    exact reconcileByState_keeps_finalizer (by rfl) live (List.mem_append_right _ (List.mem_singleton_self _))

theorem reconcile_adds_account_finalizer_on_blank :
    Account.blank.spec.manualSTSMode = false ∧ Account.blank.isPendingDeletion = false ∧
      Env.sample.accountFinalizer ∈ ((reconcile .sample).run.run (.start .blank .succeeding)).2.store.finalizers :=
  ⟨rfl, rfl, reconcile_adds_account_finalizer Responses.succeeding_reliable rfl (fun named => absurd rfl named.1)
    rfl rfl⟩

end Progress

end AccountOperator
