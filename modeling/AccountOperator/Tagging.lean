import AccountOperator.Progress

namespace AccountOperator

def Event.isTagResource : Event → Bool
  | .tagResource _ => true
  | _ => false

def Event.KeepsState : Event → Prop
  | .statusUpdate a _ => a.status.state ≠ ""
  | _ => True

def Untagged : Event → Prop
  | .tagResource _ => False
  | e => e.KeepsState

theorem Event.KeepsState.apply {e : Event} {t : Account} (h : e.KeepsState)
    (set : t.status.state ≠ "") : (e.apply t).status.state ≠ "" := by
  cases e with
  | statusUpdate a r => cases r with
    | none => exact h
    | some => exact set
  | update a r => cases r <;> exact set
  | claimStatusUpdate | assumeRole | createAccount | describeCreateAccountStatus | tagResource =>
    exact set

theorem Untagged.keepsState {e : Event} (h : Untagged e) : e.KeepsState := by
  cases e with
  | tagResource => exact h.elim
  | update | statusUpdate | claimStatusUpdate | assumeRole | createAccount
    | describeCreateAccountStatus => exact h

theorem Untagged.not_tagResource {e : Event} (h : Untagged e) : e.isTagResource = false := by
  cases e with
  | tagResource => exact h.elim
  | update | statusUpdate | claimStatusUpdate | assumeRole | createAccount
    | describeCreateAccountStatus => rfl

theorem Untagged.foldl_state {new : List Event} {t : Account} (h : ∀ e ∈ new, Untagged e)
    (set : t.status.state ≠ "") : (new.foldl Event.apply t).status.state ≠ "" :=
  foldl_apply_keeps (I := fun t => t.status.state ≠ "") (fun _ _ h set => h.keepsState.apply set)
    new t h set

theorem Untagged.countP {new : List Event} (h : ∀ e ∈ new, Untagged e) :
    new.countP Event.isTagResource = 0 :=
  List.countP_eq_zero.mpr fun e mem tag => by rw [(h e mem).not_tagResource] at tag; cases tag

theorem FailureMessage.ne_empty {env : Env} {message : String} (h : FailureMessage env message) :
    message ≠ "" := fun empty => by have := h.long; simp [empty] at this

/-- No TagResource call and no cleared state; or, under `c`, one call and a state set at the end. -/
def TagsSettleAt {α : Type} (c : Prop) (m : ReconcileM α) (w : World) : Prop :=
  EmitsAt Untagged m w ∨ c ∧ (m.run.run w).2.store.status.state ≠ "" ∧
    ∃ before res after, (m.run.run w).2.log = w.log ++ (before ++ .tagResource res :: after) ∧
      (∀ e ∈ before, Untagged e) ∧ ∀ e ∈ after, Untagged e

def TagsSettle {α : Type} (c : Prop) (m : ReconcileM α) : Prop := ∀ w, TagsSettleAt c m w

section Rules

variable {α β : Type} {c : Prop} {m : ReconcileM α} {f : α → ReconcileM β}

theorem Emits.settles (h : Emits Untagged m) : TagsSettle c m := fun w => .inl (h w)

theorem TagsSettle.bind_of_triple {P : α → Prop} (hm : Triple (fun _ => True) Untagged P m)
    (hf : ∀ a, P a → TagsSettle c (f a)) : TagsSettle c (m >>= f) := by
  intro w
  obtain ⟨emits, -, post⟩ := hm w trivial
  rcases hr : m.run.run w with ⟨_ | a, w'⟩
  · exact .inl (emits.bind fun _ _ run => by rw [hr] at run; cases run)
  · rcases hf a (post a (by rw [hr])) w' with h | ⟨hc, set, before, res, after, log, hb, ha⟩
    · exact .inl (emits.bind fun _ _ run => by rw [hr] at run; cases run; exact h)
    · obtain ⟨new, hl, -, hq⟩ := emits
      simp only [hr] at hl
      refine .inr ⟨hc, by rw [run_bind, hr]; exact set, new ++ before, res, after, ?_,
        List.forall_mem_append.mpr ⟨hq, hb⟩, ha⟩
      rw [run_bind, hr]
      simp only [log, hl, List.append_assoc]

theorem TagsSettle.bind_of_emits (hm : Emits Untagged m) (hf : ∀ a, TagsSettle c (f a)) :
    TagsSettle c (m >>= f) :=
  TagsSettle.bind_of_triple (hm.triple fun _ _ _ _ => trivial) fun a _ => hf a

theorem TagsSettle.bind (hm : TagsSettle c m) (hf : ∀ a, Emits Untagged (f a)) :
    TagsSettle c (m >>= f) := by
  intro w
  rcases hm w with h | ⟨hc, set, before, res, after, log, hb, ha⟩
  · exact .inl (h.bind fun a w' _ => hf a w')
  · refine .inr ⟨hc, ?_⟩
    rw [run_bind]
    rcases hr : m.run.run w with ⟨_ | a, w'⟩
    · rw [hr] at set log
      exact ⟨set, before, res, after, log, hb, ha⟩
    · simp only [hr] at set log
      obtain ⟨new, hl, hs, hq⟩ := hf a w'
      refine ⟨hs ▸ Untagged.foldl_state hq set, before, res, after ++ new, ?_, hb,
        List.forall_mem_append.mpr ⟨ha, hq⟩⟩
      simp only [hl, log, List.append_assoc, List.cons_append]

theorem TagsSettle.ite {b : Prop} [Decidable b] {m₁ m₂ : ReconcileM α} (h₁ : b → TagsSettle c m₁)
    (h₂ : ¬b → TagsSettle c m₂) : TagsSettle c (if b then m₁ else m₂) := by
  by_cases hb : b
  · rw [if_pos hb]; exact h₁ hb
  · rw [if_neg hb]; exact h₂ hb

theorem TagsSettle.statusUpdate_tag {a : Account} {g : Option GoError → ReconcileM α}
    {k : Option GoError → ReconcileM α} (hc : c) (set : a.status.state ≠ "")
    (refused : ∀ err, Emits Untagged (g (some err))) (accepted : g none = tagResource >>= k)
    (rest : ∀ r, Emits Untagged (k r)) : TagsSettle c (statusUpdate a >>= g) := by
  intro w
  rcases hr : (popWrite w.responses).1 with _ | err
  · let w₁ : World :=
      { w with
        responses := (popWrite w.responses).2
        log := w.log ++ [.statusUpdate a none]
        store := { w.store with status := a.status } }
    let res := w₁.responses.tagResource.head
    let w₂ : World :=
      { w₁ with
        responses := { w₁.responses with tagResource := w₁.responses.tagResource.tail }
        log := w₁.log ++ [.tagResource res] }
    have run : (statusUpdate a >>= g).run.run w = (k res).run.run w₂ := by
      simp only [run_bind, statusUpdate, respond_run, hr, accepted, tagResource]
      rfl
    obtain ⟨new, hl, hs, hq⟩ := rest res w₂
    refine .inr ⟨hc, ?_, [.statusUpdate a none], res, new, ?_, ?_, hq⟩
    · rw [run, hs]
      exact Untagged.foldl_state hq set
    · rw [run, hl]
      simp [w₂, w₁]
    · simpa [Untagged, Event.KeepsState] using set
  · refine .inl ((Emits.statusUpdate (Q := Untagged) fun _ => set) w |>.bind fun r w' run => ?_)
    simp only [statusUpdate, respond_run, hr, Prod.mk.injEq, Except.ok.injEq] at run
    obtain ⟨rfl, -⟩ := run
    exact refused err _

end Rules

section Steps

variable {env : Env} {a : Account} {configMap : ConfigMap} {isOptIn : Bool} {optInRegions : String}

theorem setAccountFailedV2_untagged {ctype : AccountConditionType} {reason message state : String}
    (written : message ≠ "") : Emits Untagged (setAccountFailedV2 a ctype reason message state) :=
  (Emits.statusUpdate fun _ => written).bind fun _ => Emits.pure _

theorem removeFinalizer_untagged (name : String) : Emits Untagged (removeFinalizer a name) :=
  (Emits.update fun _ => trivial).bind fun _ => Emits.pure _

theorem reconcileDeletion_untagged : Emits Untagged (reconcileDeletion env a) := by
  unfold reconcileDeletion
  split
  · exact (removeFinalizer_untagged _).bind fun _ => Emits.pure _
  · refine (handleRoleAssumptionV2_emits (fun _ => trivial) _ _ _).bind fun r => ?_
    rcases r with _ | _
    · exact (setAccountFailedV2_untagged (@FailureMessage.stsFailure env _ _).ne_empty).bind
        fun _ => Emits.pure _
    · exact Emits.ite (fun _ => (removeFinalizer_untagged _).bind fun _ => Emits.pure _)
        fun _ => Emits.pure _

theorem reconcileInitialization_untagged :
    Emits Untagged (reconcileInitialization env configMap isOptIn optInRegions a) := by
  have initialized : Emits Untagged (initializeAccount a) :=
    (Emits.statusUpdate fun _ => (by decide : accountReady ≠ "")).bind fun _ => Emits.pure _
  unfold reconcileInitialization
  refine Emits.ite (fun _ => Emits.pure _) fun _ => ?_
  split
  · exact Emits.pure _
  · refine Emits.ite (fun _ => ?_) fun _ => Emits.pure _
    refine Emits.ite (fun _ => ?_) fun _ => Emits.ite (fun _ => ?_) fun _ => initialized
    · refine (Emits.read _).bind fun r => ?_
      rcases r with _ | _
      · exact initialized
      · exact (Emits.respond _ _ fun _ => trivial).bind fun _ => Emits.pure _
    · exact (Emits.read _).bind fun _ => (Emits.update fun _ => trivial).bind fun _ => Emits.pure _

theorem buildAccountV2_untagged : Emits Untagged (buildAccountV2 a) := by
  unfold buildAccountV2
  refine (createAccountV2_emits (fun _ => trivial) fun _ => trivial).bind fun ⟨out, err⟩ => ?_
  rcases err with _ | _
  · refine (Emits.read _).bind fun _ => ?_
    rcases out with ⟨_ | ⟨_, _, _ | _⟩⟩ <;> first | exact Emits.throw _ | exact Emits.pure _
  · exact Emits.ite (fun _ => (Emits.statusUpdate fun _ => (by decide : accountFailed ≠ "")).bind
      fun r => by cases r <;> exact Emits.pure _) fun _ => Emits.ite (fun _ => Emits.pure _)
        fun _ => Emits.pure _

theorem nonCCSAssignAccountIDV2_settles {c : Prop} (hc : c) :
    TagsSettle c (nonCCSAssignAccountIDV2 env a) := by
  unfold nonCCSAssignAccountIDV2
  refine TagsSettle.bind_of_emits (Emits.ite (fun _ => buildAccountV2_untagged) fun _ => Emits.pure _)
    fun ⟨_, _, err⟩ => ?_
  rcases err with _ | _
  · exact TagsSettle.statusUpdate_tag hc (by simp) (fun _ => Emits.pure _) rfl fun _ =>
      (Emits.update fun _ => trivial).bind fun _ => Emits.pure _
  · exact Emits.settles (Emits.pure _)

theorem reconcileBYOC_untagged :
    Emits Untagged (reconcileBYOC env configMap isOptIn optInRegions a) := by
  unfold reconcileBYOC
  split
  · exact (setAccountFailedV2_untagged (by decide)).bind fun _ => Emits.pure _
  · refine (Emits.statusUpdate fun _ => (by decide : accountCreating ≠ "")).bind fun r => ?_
    rcases r with _ | _
    · exact reconcileInitialization_untagged
    · exact Emits.pure _

/-- Only the creation of a new account, from an empty state, calls TagResource. -/
theorem reconcileNonBYOC_settles :
    TagsSettle (a.status.state = "") (reconcileNonBYOC env configMap isOptIn optInRegions a) := by
  unfold reconcileNonBYOC
  refine TagsSettle.ite (fun _ => Emits.settles (Emits.pure _)) fun _ =>
    TagsSettle.ite (fun _ => Emits.settles (Emits.pure _)) fun _ => ?_
  refine TagsSettle.bind_of_emits (Emits.read _) fun _ => TagsSettle.ite (fun _ => ?_) fun _ =>
    TagsSettle.ite (fun fresh => ?_) fun _ => Emits.settles reconcileInitialization_untagged
  · exact Emits.settles ((setAccountFailedV2_untagged (@FailureMessage.creationTimeout env).ne_empty).bind
      fun ⟨_, stateErr⟩ => by cases stateErr <;> exact Emits.pure _)
  · have empty : a.status.state = "" := by
      simp [Account.isUnclaimedAndHasNoState, Account.hasState] at fresh
      exact fresh.1
    refine TagsSettle.ite (fun _ => ?_) fun _ => Emits.settles ?_
    · refine TagsSettle.bind_of_emits (Emits.read _) fun _ =>
        TagsSettle.ite (fun _ => Emits.settles (Emits.pure _)) fun _ => ?_
      refine (nonCCSAssignAccountIDV2_settles empty).bind fun ⟨_, err⟩ => ?_
      rcases err with _ | _
      · exact reconcileInitialization_untagged
      · exact Emits.pure _
    · refine (Emits.statusUpdate fun _ => (by decide : accountCreating ≠ "")).bind fun r => ?_
      rcases r with _ | _
      · exact reconcileInitialization_untagged
      · exact Emits.pure _

theorem reconcileByState_settles :
    TagsSettle (a.status.state = "") (reconcileByState env configMap isOptIn optInRegions a) := by
  unfold reconcileByState
  exact TagsSettle.ite (fun _ => Emits.settles reconcileDeletion_untagged) fun _ =>
    TagsSettle.ite (fun _ => Emits.settles (Emits.pure _)) fun _ =>
      TagsSettle.ite (fun _ => Emits.settles (Emits.pure _)) fun _ =>
        TagsSettle.ite (fun _ => Emits.settles reconcileBYOC_untagged) fun _ => reconcileNonBYOC_settles

theorem addFinalizer_untagged :
    Triple (fun _ => True) Untagged (fun r => r.1.status = a.status) (addFinalizer env a) := by
  unfold addFinalizer
  split
  · exact ((Emits.update fun _ => trivial).triple fun _ _ _ _ => trivial).bind fun _ _ => Triple.pure rfl
  · exact Triple.pure rfl

theorem reconcileAccount_settles :
    TagsSettle (a.status.state = "") (reconcileAccount env configMap isOptIn optInRegions a) := by
  unfold reconcileAccount
  split
  · refine TagsSettle.bind_of_triple addFinalizer_untagged fun ⟨added, err⟩ same => ?_
    rcases err with _ | _
    · exact same ▸ reconcileByState_settles
    · exact Emits.settles (Emits.pure _)
  · exact reconcileByState_settles

end Steps

theorem getAccount_settles {α : Type} {f : Except GoError Account → ReconcileM α}
    (hf : ∀ s, TagsSettle (s.status.state = "") (f (.ok s)))
    (failed : ∀ err, Emits Untagged (f (.error err))) (w : World) :
    TagsSettleAt (w.store.status.state = "") (getAccount >>= f) w := by
  rcases hr : (readError w).1 with _ | err
  · have run : getAccount.run.run w = (.ok (.ok w.store), { w with responses := (readError w).2 }) := by
      simp [getAccount, hr]
    unfold TagsSettleAt
    rw [run_bind, run]
    exact (hf w.store _).imp_left (EmitsAt.bind_of_quiet run rfl rfl)
  · have run : getAccount.run.run w =
        (.ok (.error err), { w with responses := (readError w).2 }) := by
      simp [getAccount, hr]
    exact .inl (EmitsAt.bind_of_quiet run rfl rfl (failed err _))

theorem reconcile_tags_settle (env : Env) (w : World) :
    TagsSettleAt (w.store.status.state = "") (reconcile env) w := by
  unfold reconcile
  apply getAccount_settles
  case failed => exact fun _ => Emits.pure _
  case hf =>
    refine fun _ => TagsSettle.bind_of_emits (Emits.read _) fun r => ?_
    rcases r with _ | _
    · exact Emits.settles (Emits.pure _)
    · refine TagsSettle.bind_of_emits (getClientV2_emits _) fun r => ?_
      rcases r with _ | _
      · exact Emits.settles (Emits.pure _)
      · exact reconcileAccount_settles

theorem reconcile_tag_count (env : Env) (w : World) :
    (reconcileEvents env w).countP Event.isTagResource = 0 ∨ w.store.status.state = "" ∧
      ((reconcile env).run.run w).2.store.status.state ≠ "" ∧
      (reconcileEvents env w).countP Event.isTagResource = 1 := by
  rcases reconcile_tags_settle env w with untagged | ⟨empty, set, before, res, after, log, hb, ha⟩
  · exact .inl (Untagged.countP (reconcileEvents_of_emitsAt untagged).2.2)
  · have events : reconcileEvents env w = before ++ .tagResource res :: after := by
      simp [reconcileEvents, log]
    refine .inr ⟨empty, set, ?_⟩
    rw [events, List.countP_append, List.countP_cons, Untagged.countP hb, Untagged.countP ha]
    rfl

theorem runEvents_untagged_of_set (env : Env) : ∀ (s : Account) (rounds : List Round),
    s.status.state ≠ "" → (runEvents env s rounds).countP Event.isTagResource = 0
  | _, [], _ => rfl
  | s, r :: rounds, set => by
    rw [runEvents, List.countP_append,
      runEvents_untagged_of_set env _ rounds ((reconcile_keeps env (r.world s)).state set)]
    rcases reconcile_tag_count env (r.world s) with untagged | ⟨empty, -⟩
    · rw [untagged]
    · exact absurd empty set

/-- TagResource is called at most once over any run, so a failed tag is never retried. -/
theorem run_tags_at_most_once (env : Env) (s : Account) (rounds : List Round) :
    (runEvents env s rounds).countP Event.isTagResource ≤ 1 := by
  induction rounds generalizing s with
  | nil => exact Nat.zero_le 1
  | cons r rounds ih =>
    rw [runEvents, List.countP_append]
    rcases reconcile_tag_count env (r.world s) with untagged | ⟨-, set, once⟩
    · rw [untagged, Nat.zero_add]
      exact ih _
    · rw [once, runEvents_untagged_of_set env _ rounds set]

example : (runEvents .sample .unstarted [.creatingAccepted, .creatingAccepted]).countP
    Event.isTagResource = 1 := by
  decide

end AccountOperator
