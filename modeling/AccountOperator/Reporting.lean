import AccountOperator.Writes

namespace AccountOperator

def Event.refused : Event → Bool
  | .update _ (some _) | .statusUpdate _ (some _) | .claimStatusUpdate (some _) => true
  | _ => false

/-- Every run of `m` returning a `P` value had each of its store writes accepted. -/
def Reports {α : Type} (P : α → Prop) (m : ReconcileM α) : Prop :=
  ∀ w a, (m.run.run w).1 = .ok a → P a → EmitsAt (fun e => e.refused = false) m w

def Never {α : Type} (P : α → Prop) (m : ReconcileM α) : Prop :=
  ∀ w a, (m.run.run w).1 = .ok a → ¬P a

section Rules

variable {α β : Type} {P : α → Prop} {R : β → Prop} {m : ReconcileM α}

theorem Never.reports (h : Never P m) : Reports P m := fun w a run holds => absurd holds (h w a run)

theorem Never.pure {a : α} (h : ¬P a) : Never P (Pure.pure a : ReconcileM α) :=
  fun _ _ run => Except.ok.inj run ▸ h

theorem Never.bind {f : α → ReconcileM β} (hf : ∀ a, Never R (f a)) : Never R (m >>= f) := by
  intro w b run
  rw [run_bind] at run
  split at run
  case h_1 a w' _ => exact hf a w' b run
  case h_2 => cases run

theorem Never.ite {c : Prop} [Decidable c] {m₁ m₂ : ReconcileM α} (h₁ : c → Never P m₁)
    (h₂ : ¬c → Never P m₂) : Never P (if c then m₁ else m₂) := by
  by_cases hc : c
  · simpa [hc] using h₁ hc
  · simpa [hc] using h₂ hc

theorem Emits.reports (h : Emits (fun e => e.refused = false) m) : Reports P m := fun w _ _ _ => h w

theorem Reports.pure (a : α) : Reports P (Pure.pure a : ReconcileM α) := Emits.reports (Emits.pure a)

theorem Reports.respond (answer : Responses → α × Responses) (record : α → Event)
    (accepted : ∀ a, P a → (record a).refused = false) : Reports P (respond answer record) :=
  fun w a run holds => ⟨[record (answer w.responses).1], rfl, rfl, by
    obtain rfl : (answer w.responses).1 = a := Except.ok.inj run
    simpa using accepted _ holds⟩

theorem Reports.update (a : Account) : Reports (· = none) (update a) :=
  Reports.respond _ _ fun _ accepted => by subst accepted; rfl

theorem Reports.statusUpdate (a : Account) : Reports (· = none) (statusUpdate a) :=
  Reports.respond _ _ fun _ accepted => by subst accepted; rfl

/-- A value `f` reports went through one `m` reports, unless `f` never returns one after the others. -/
theorem Reports.bind {f : α → ReconcileM β} (hm : Reports P m) (hf : ∀ a, Reports R (f a))
    (stops : ∀ a, ¬P a → Never R (f a)) : Reports R (m >>= f) := by
  intro w b run holds
  rw [run_bind] at run
  split at run
  case h_2 => cases run
  case h_1 a w' hr =>
    have reported : P a := Classical.byContradiction fun refused => stops a refused w' b run holds
    exact (hm w a (by rw [hr]) reported).bind fun a' w'' hr' => by
      rw [hr] at hr'
      cases hr'
      exact hf a w' b run holds

theorem Reports.bind_of_emits {f : α → ReconcileM β} (hm : Emits (fun e => e.refused = false) m)
    (hf : ∀ a, Reports R (f a)) : Reports R (m >>= f) :=
  (Emits.reports (P := fun _ => True) hm).bind hf fun _ refused => absurd trivial refused

theorem Reports.ite {c : Prop} [Decidable c] {m₁ m₂ : ReconcileM α} (h₁ : c → Reports P m₁)
    (h₂ : ¬c → Reports P m₂) : Reports P (if c then m₁ else m₂) := by
  by_cases hc : c
  · simpa [hc] using h₁ hc
  · simpa [hc] using h₂ hc

end Rules

section Steps

variable {env : Env} {a : Account} {configMap : ConfigMap} {isOptIn : Bool} {optInRegions : String}

/-- A write whose error, if any, is returned as it is. -/
theorem Reports.write {γ : Type} {write : ReconcileM (Option GoError)} (hw : Reports (· = none) write)
    {f : Option GoError → ReconcileM (γ × Option GoError)} (accepted : Reports (·.2 = none) (f none))
    (refused : ∀ err, ∃ x, f (some err) = Pure.pure (x, some err)) :
    Reports (fun r : γ × Option GoError => r.2 = none) (write >>= f) :=
  hw.bind (fun err => by
    cases err with
    | none => exact accepted
    | some err => obtain ⟨x, h⟩ := refused err; exact h ▸ Reports.pure _) fun err stops => by
    cases err with
    | none => exact absurd rfl stops
    | some err => obtain ⟨x, h⟩ := refused err; exact h ▸ Never.pure (by simp)

theorem Reports.bind_error {γ δ : Type} {m : ReconcileM (γ × Option GoError)} (hm : Reports (·.2 = none) m)
    {f : γ × Option GoError → ReconcileM (δ × Option GoError)}
    (accepted : ∀ x, Reports (·.2 = none) (f (x, none)))
    (refused : ∀ x err, ∃ y, f (x, some err) = Pure.pure (y, some err)) :
    Reports (fun r : δ × Option GoError => r.2 = none) (m >>= f) :=
  hm.bind (fun ⟨x, err⟩ => by
    cases err with
    | none => exact accepted x
    | some err => obtain ⟨y, h⟩ := refused x err; exact h ▸ Reports.pure _) fun ⟨x, err⟩ stops => by
    cases err with
    | none => exact absurd rfl stops
    | some err => obtain ⟨y, h⟩ := refused x err; exact h ▸ Never.pure (by simp)

theorem tagResource_quiet : Emits (fun e => e.refused = false) tagResource :=
  Emits.respond _ _ fun _ => rfl

theorem setAccountFailedV2_reports {ctype : AccountConditionType} {reason message state : String} :
    Reports (fun r : Result × Option GoError => r.2 = none) (setAccountFailedV2 a ctype reason message state) :=
  (Reports.statusUpdate _).bind (fun _ => Reports.pure _) fun _ refused => Never.pure refused

theorem removeFinalizer_reports (name : String) :
    Reports (fun r : Account × Option GoError => r.2 = none) (removeFinalizer a name) :=
  (Reports.update _).bind (fun _ => Reports.pure _) fun _ refused => Never.pure refused

theorem reconcileDeletion_reports :
    Reports (fun r : Result × Option GoError => r.2 = none) (reconcileDeletion env a) := by
  unfold reconcileDeletion
  split
  · exact (removeFinalizer_reports _).bind_error (fun _ => Reports.pure _) fun _ _ => ⟨_, rfl⟩
  · refine Reports.bind_of_emits (handleRoleAssumptionV2_emits (Q := fun e => e.refused = false) (fun _ => rfl) _ _ _) fun r => ?_
    rcases r with _ | _
    · exact (Never.bind fun _ => Never.pure (by simp)).reports
    · exact Reports.ite (fun _ => (removeFinalizer_reports _).bind_error (fun _ => Reports.pure _)
        fun _ _ => ⟨_, rfl⟩) fun _ => Reports.pure _

theorem reconcileInitialization_reports :
    Reports (fun r : Result × Option GoError => r.2 = none)
      (reconcileInitialization env configMap isOptIn optInRegions a) := by
  have initialized : Reports (fun r : Result × Option GoError => r.2 = none) (initializeAccount a) :=
    (Reports.statusUpdate _).bind (fun _ => Reports.pure _) fun _ refused => Never.pure refused
  unfold reconcileInitialization
  refine Reports.ite (fun _ => Reports.pure _) fun _ => ?_
  split
  · exact Reports.pure _
  · refine Reports.ite (fun _ => ?_) fun _ => Reports.pure _
    refine Reports.ite (fun _ => ?_) fun _ => Reports.ite (fun _ => ?_) fun _ => initialized
    · refine Reports.bind_of_emits (Emits.read _) fun r => ?_
      rcases r with _ | _
      · exact initialized
      · exact (Never.bind fun _ => Never.pure (by simp)).reports
    · exact Reports.bind_of_emits (Emits.read _) fun _ =>
        (Reports.update _).bind (fun _ => Reports.pure _) fun _ refused => Never.pure refused

theorem buildAccountV2_reports :
    Reports (fun r : Account × String × Option GoError => r.2.2 = none) (buildAccountV2 a) := by
  unfold buildAccountV2
  refine Reports.bind_of_emits (createAccountV2_emits (fun _ => rfl) fun _ => rfl) fun ⟨out, err⟩ => ?_
  rcases err with _ | _
  · refine Emits.reports ((Emits.read _).bind fun fetched => ?_)
    rcases out with ⟨_ | ⟨_, _, _ | _⟩⟩ <;> first | exact Emits.throw _ | exact Emits.pure _
  · exact (Never.ite (fun _ => Never.bind fun r => by cases r <;> exact Never.pure (by simp)) fun _ =>
      Never.ite (fun _ => Never.pure (by simp)) fun _ => Never.pure (by simp)).reports

theorem nonCCSAssignAccountIDV2_reports :
    Reports (fun r : Account × Option GoError => r.2 = none) (nonCCSAssignAccountIDV2 env a) := by
  unfold nonCCSAssignAccountIDV2
  refine Reports.bind (P := fun r : Account × String × Option GoError => r.2.2 = none) ?built
    (fun ⟨_, _, err⟩ => ?_) fun ⟨_, _, err⟩ refused => ?_
  case built => exact Reports.ite (fun _ => buildAccountV2_reports) fun _ => Reports.pure _
  · rcases err with _ | _
    · exact Reports.write (Reports.statusUpdate _) (Reports.bind_of_emits tagResource_quiet fun _ =>
        (Reports.update _).bind (fun _ => Reports.pure _) fun _ refused => Never.pure refused) fun _ => ⟨_, rfl⟩
    · exact Reports.pure _
  · rcases err with _ | _
    · exact absurd rfl refused
    · exact Never.pure (by simp)

theorem reconcileBYOC_reports :
    Reports (fun r : Result × Option GoError => r.2 = none)
      (reconcileBYOC env configMap isOptIn optInRegions a) := by
  unfold reconcileBYOC
  split
  · exact (Never.bind fun _ => Never.pure (by simp)).reports
  · exact Reports.write (Reports.statusUpdate _) reconcileInitialization_reports fun _ => ⟨_, rfl⟩

theorem reconcileNonBYOC_reports :
    Reports (fun r : Result × Option GoError => r.2 = none)
      (reconcileNonBYOC env configMap isOptIn optInRegions a) := by
  unfold reconcileNonBYOC
  refine Reports.ite (fun _ => Reports.pure _) fun _ => Reports.ite (fun _ => Reports.pure _) fun _ => ?_
  refine Reports.bind_of_emits (Emits.read _) fun _ => Reports.ite (fun _ => ?_) fun _ =>
    Reports.ite (fun _ => ?_) fun _ => reconcileInitialization_reports
  · exact (Never.bind fun ⟨_, stateErr⟩ => by cases stateErr <;> exact Never.pure (by simp)).reports
  · refine Reports.ite (fun _ => ?_) fun _ =>
      Reports.write (Reports.statusUpdate _) reconcileInitialization_reports fun _ => ⟨_, rfl⟩
    refine Reports.bind_of_emits (Emits.read _) fun _ => Reports.ite (fun _ => Reports.pure _) fun _ => ?_
    exact nonCCSAssignAccountIDV2_reports.bind_error (fun _ => reconcileInitialization_reports)
      fun _ _ => ⟨_, rfl⟩

theorem reconcileByState_reports :
    Reports (fun r : Result × Option GoError => r.2 = none)
      (reconcileByState env configMap isOptIn optInRegions a) := by
  unfold reconcileByState
  exact Reports.ite (fun _ => reconcileDeletion_reports) fun _ => Reports.ite (fun _ => Reports.pure _)
    fun _ => Reports.ite (fun _ => Reports.pure _) fun _ =>
      Reports.ite (fun _ => reconcileBYOC_reports) fun _ => reconcileNonBYOC_reports

theorem addFinalizer_reports :
    Reports (fun r : Account × Option GoError => r.2 = none) (addFinalizer env a) := by
  unfold addFinalizer
  split
  · exact (Reports.update _).bind (fun _ => Reports.pure _) fun _ refused => Never.pure refused
  · exact Reports.pure _

theorem reconcileAccount_reports :
    Reports (fun r : Result × Option GoError => r.2 = none)
      (reconcileAccount env configMap isOptIn optInRegions a) := by
  unfold reconcileAccount
  split
  · exact addFinalizer_reports.bind_error (fun _ => reconcileByState_reports) fun _ _ => ⟨_, rfl⟩
  · exact reconcileByState_reports

end Steps

theorem reconcile_reports (env : Env) :
    Reports (fun r : Result × Option GoError => r.2 = none) (reconcile env) := by
  unfold reconcile
  refine Reports.bind_of_emits (Emits.read _) fun r => ?_
  rcases r with _ | _
  · exact Reports.pure _
  · refine Reports.bind_of_emits (Emits.read _) fun r => ?_
    rcases r with _ | _
    · exact Reports.pure _
    · refine Reports.bind_of_emits (getClientV2_emits _) fun r => ?_
      rcases r with _ | _
      · exact Reports.pure _
      · exact reconcileAccount_reports

/-- A reconciliation returning a nil error had every store write accepted. -/
theorem reconcile_nil_error_writes_accepted {env : Env} {w : World} {result : Result}
    (nilError : ((reconcile env).run.run w).1 = .ok (result, none)) :
    ∀ e ∈ reconcileEvents env w, e.refused = false :=
  (reconcileEvents_of_emitsAt (reconcile_reports env w _ nilError rfl)).2.2

theorem reconcile_nil_error_writes_accepted_on_optedIn :
    ((reconcile .sample).run.run ⟨.optedIn, some .amiOwner, [], .succeeding, []⟩).1 = .ok ({}, none) ∧
      reconcileEvents .sample ⟨.optedIn, some .amiOwner, [], .succeeding, []⟩ ≠ [] ∧
      ∀ e ∈ reconcileEvents .sample ⟨.optedIn, some .amiOwner, [], .succeeding, []⟩, e.refused = false :=
  ⟨rfl, List.ne_nil_of_length_pos (by decide), reconcile_nil_error_writes_accepted rfl⟩

end AccountOperator
