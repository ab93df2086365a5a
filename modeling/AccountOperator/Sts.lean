import AccountOperator.Client

namespace AccountOperator

def matchSubstringV2 (env : Env) (roleID role : String) : Bool × Option GoError :=
  env.matchString roleID role

/-- The retry loop of `GetSTSCredentialsV2`; `last` is Go's `assumeRoleOutput, err`. -/
def assumeRoleRetries (last : Except GoError AssumeRoleOutput) :
    Nat → ReconcileM (Except GoError AssumeRoleOutput)
  | 0 => pure last
  | attempts + 1 => do
    let r ← assumeRole
    match r with
    | .ok _ => pure r
    | .error _ => assumeRoleRetries r attempts

def getSTSCredentialsV2 : ReconcileM (Except GoError AssumeRoleOutput) :=
  assumeRoleRetries (.ok ⟨"", "", "", ""⟩) 100

/-- The outer loop of `HandleRoleAssumptionV2`; `creds` is nil before the first round. -/
def roleAssumptionRounds (env : Env) (ccsRoleID : String) (creds : Option AssumeRoleOutput) :
    Nat → ReconcileM (Except GoError (Option AssumeRoleOutput))
  | 0 => pure (.ok creds)
  | rounds + 1 => do
    match ← getSTSCredentialsV2 with
    | .error credsErr => pure (.error credsErr)
    | .ok c =>
      let (matched, _) := matchSubstringV2 env ccsRoleID c.assumedRoleId
      if ccsRoleID ≠ "" ∧ !matched then roleAssumptionRounds env ccsRoleID (some c) rounds
      else pure (.ok (some c))

def handleRoleAssumptionV2 (env : Env) (region ccsRoleID : String) :
    ReconcileM (Except GoError (ClientV2 × AssumeRoleOutput)) := do
  match ← roleAssumptionRounds env ccsRoleID none 10 with
  | .error err => pure (.error err)
  | .ok none => throw .nilDereference
  | .ok (some creds) =>
    let awsRegion := if region ≠ "" then region else env.defaultRegion
    match ← getClientV2 ⟨creds.accessKeyId, creds.secretAccessKey, creds.sessionToken, awsRegion,
        "", ""⟩ with
    | .error err => pure (.error err)
    | .ok awsAssumedRoleClient => pure (.ok (awsAssumedRoleClient, creds))

def assumeRoleAndCreateClientV2 (env : Env) (region ccsRoleID : String) :
    ReconcileM (Except GoError (ClientV2 × AssumeRoleOutput)) :=
  handleRoleAssumptionV2 env region ccsRoleID

section Emits

variable {Q : Event → Prop}

theorem assumeRoleRetries_emits (assumes : ∀ r, Q (.assumeRole r)) (last : Except GoError AssumeRoleOutput)
    (attempts : Nat) : Emits Q (assumeRoleRetries last attempts) := by
  induction attempts generalizing last with
  | zero => exact Emits.pure _
  | succ attempts ih =>
    exact (Emits.respond _ _ assumes).bind fun r => by cases r <;> first | exact ih _ | exact Emits.pure _

theorem roleAssumptionRounds_emits (assumes : ∀ r, Q (.assumeRole r)) (env : Env) (ccsRoleID : String)
    (creds : Option AssumeRoleOutput) (rounds : Nat) :
    Emits Q (roleAssumptionRounds env ccsRoleID creds rounds) := by
  induction rounds generalizing creds with
  | zero => exact Emits.pure _
  | succ rounds ih =>
    refine (assumeRoleRetries_emits assumes _ _).bind fun r => ?_
    rcases r with _ | c
    · exact Emits.pure _
    · exact Emits.ite (fun _ => ih _) (fun _ => Emits.pure _)

/-- Role assumption calls nothing but AssumeRole, and writes nothing. -/
theorem handleRoleAssumptionV2_emits (assumes : ∀ r, Q (.assumeRole r)) (env : Env)
    (region ccsRoleID : String) : Emits Q (handleRoleAssumptionV2 env region ccsRoleID) := by
  refine (roleAssumptionRounds_emits assumes _ _ _ _).bind fun r => ?_
  rcases r with _ | _ | creds
  · exact Emits.pure _
  · exact Emits.throw _
  · exact (getClientV2_emits _).bind fun r => by cases r <;> exact Emits.pure _

end Emits

/-- At most `attempts` answers of `s`, up to the first success, and how many were read. -/
def firstOk {ε α : Type} (last : Except ε α) : Nat → Stream' (Except ε α) → Except ε α × Nat
  | 0, _ => (last, 0)
  | attempts + 1, s => match s.head with
    | .ok a => (.ok a, 1)
    | .error e => ((firstOk (.error e) attempts s.tail).1, (firstOk (.error e) attempts s.tail).2 + 1)

def World.popAssumeRole (w : World) : World :=
  { w with responses := { w.responses with assumeRole := w.responses.assumeRole.tail },
           log := w.log ++ [.assumeRole w.responses.assumeRole.head] }

@[simp] theorem World.popAssumeRole_loadConfig (w : World) :
    w.popAssumeRole.responses.loadConfig = w.responses.loadConfig := rfl

theorem assumeRole_run (w : World) :
    assumeRole.run.run w = (.ok w.responses.assumeRole.head, w.popAssumeRole) := by
  simp [assumeRole, World.popAssumeRole, Event.apply]

theorem assumeRoleRetries_run (last : Except GoError AssumeRoleOutput) (attempts : Nat)
    (w : World) : (assumeRoleRetries last attempts).run.run w =
      (.ok (firstOk last attempts w.responses.assumeRole).1,
        World.popAssumeRole^[(firstOk last attempts w.responses.assumeRole).2] w) := by
  induction attempts generalizing last w with
  | zero => rfl
  | succ attempts ih =>
    simp only [assumeRoleRetries, run_bind, assumeRole_run]
    rcases hh : w.responses.assumeRole.head with e | a
    · simp [ih, firstOk, hh, World.popAssumeRole]
    · simp [firstOk, hh]

theorem firstOk_head_ok {ε α : Type} {s : Stream' (Except ε α)} {a : α} (last : Except ε α)
    (attempts : Nat) (h : s.head = .ok a) : firstOk last (attempts + 1) s = (.ok a, 1) := by
  simp [firstOk, h]

theorem firstOk_fst_ok_iff {ε α : Type} (last : Except ε α) (n : Nat) (s : Stream' (Except ε α)) :
    (∃ a, (firstOk last (n + 1) s).1 = .ok a) ↔ ∃ k < n + 1, ∃ a, s.get k = .ok a := by
  induction n generalizing last s with
  | zero =>
    rcases h : s.head with e | a
    · simp [firstOk, h]
    · simp [firstOk, h]
  | succ n ih =>
    rw [firstOk]
    rcases h : s.head with e | a
    · dsimp only
      rw [ih]
      constructor
      · rintro ⟨k, hk, a, ha⟩
        exact ⟨k + 1, by omega, a, ha⟩
      · rintro ⟨_ | k, hk, a, ha⟩
        · exact absurd (ha.symm.trans h) (by simp)
        · exact ⟨k, by omega, a, ha⟩
    · exact iff_of_true ⟨a, rfl⟩ ⟨0, by omega, a, h⟩

theorem firstOk_refused {ε α : Type} (last : Except ε α) (n : Nat) (s : Stream' (Except ε α))
    (refused : ∀ k < n + 1, ∃ e, s.get k = .error e) : firstOk last (n + 1) s = (s.get n, n + 1) := by
  induction n generalizing last s with
  | zero =>
    obtain ⟨e, h⟩ := refused 0 (by omega)
    simp [firstOk, show s.head = .error e from h]
  | succ n ih =>
    obtain ⟨e, h⟩ := refused 0 (by omega)
    rw [firstOk, show s.head = .error e from h]
    dsimp only
    rw [ih _ s.tail fun k _ => refused (k + 1) (by omega)]
    rfl

theorem firstOk_first_ok {ε α : Type} (last : Except ε α) {k : Nat} {s : Stream' (Except ε α)} {a : α}
    (refused : ∀ j < k, ∃ e, s.get j = .error e) (h : s.get k = .ok a) :
    ∀ n, k < n + 1 → firstOk last (n + 1) s = (.ok a, k + 1) := by
  induction k generalizing last s with
  | zero => exact fun n _ => firstOk_head_ok last n h
  | succ k ih =>
    intro n hk
    obtain ⟨e, he⟩ := refused 0 (by omega)
    obtain ⟨m, rfl⟩ : ∃ m, n = m + 1 := ⟨n - 1, by omega⟩
    rw [firstOk, show s.head = .error e from he]
    dsimp only
    rw [ih (.error e) (s := s.tail) (fun j hj => refused (j + 1) (by omega)) h m (by omega)]

theorem World.popAssumeRole_iterate_store (n : Nat) (w : World) :
    (World.popAssumeRole^[n] w).store = w.store := by
  induction n generalizing w with
  | zero => rfl
  | succ n ih => exact ih _

theorem World.popAssumeRole_iterate_reliable {w : World} (reliable : w.responses.Reliable) (n : Nat) :
    (World.popAssumeRole^[n] w).responses.Reliable := by
  induction n generalizing w with
  | zero => exact reliable
  | succ n ih => exact ih ⟨reliable.reads, reliable.writes, reliable.loads⟩

theorem getSTSCredentialsV2_of_ok {w : World} {c : AssumeRoleOutput}
    (h : w.responses.assumeRole.head = .ok c) :
    getSTSCredentialsV2.run.run w = (.ok (.ok c), w.popAssumeRole) := by
  rw [getSTSCredentialsV2, assumeRoleRetries_run, firstOk_head_ok _ 99 h]
  rfl

/-- `GetSTSCredentialsV2` returns the first success among 100 answers, or the last refusal. -/
theorem getSTSCredentialsV2_first_success (w : World) :
    (∀ k < 100, (∀ j < k, ∃ e, w.responses.assumeRole.get j = .error e) →
      ∀ c, w.responses.assumeRole.get k = .ok c →
        getSTSCredentialsV2.run.run w = (.ok (.ok c), World.popAssumeRole^[k + 1] w)) ∧
    ((∀ k < 100, ∃ e, w.responses.assumeRole.get k = .error e) →
      getSTSCredentialsV2.run.run w =
        (.ok (w.responses.assumeRole.get 99), World.popAssumeRole^[100] w)) := by
  refine ⟨fun k hk refused c h => ?_, fun refused => ?_⟩
  · rw [getSTSCredentialsV2, assumeRoleRetries_run, firstOk_first_ok _ refused h 99 hk]
  · rw [getSTSCredentialsV2, assumeRoleRetries_run, firstOk_refused _ 99 _ refused]

theorem roleAssumptionRounds_stale {env : Env} {ccsRoleID : String} {c : AssumeRoleOutput}
    (expected : ccsRoleID ≠ "") (stale : (matchSubstringV2 env ccsRoleID c.assumedRoleId).1 = false)
    (rounds : Nat) (creds : Option AssumeRoleOutput) (w : World)
    (answers : ∀ n, w.responses.assumeRole.get n = .ok c) :
    (roleAssumptionRounds env ccsRoleID creds (rounds + 1)).run.run w =
      (.ok (.ok (some c)), World.popAssumeRole^[rounds + 1] w) := by
  induction rounds generalizing creds w with
  | zero => simp [roleAssumptionRounds, run_bind, getSTSCredentialsV2_of_ok (answers 0)]
  | succ rounds ih =>
    have next := ih (some c) w.popAssumeRole fun n => answers (n + 1)
    unfold roleAssumptionRounds
    simp [run_bind, getSTSCredentialsV2_of_ok (answers 0), expected, stale, next]

/-- After ten rounds of a stale role, `HandleRoleAssumptionV2` hands its credentials back as a success. -/
theorem handleRoleAssumptionV2_stale {env : Env} {region ccsRoleID : String} {c : AssumeRoleOutput}
    (expected : ccsRoleID ≠ "") (stale : (matchSubstringV2 env ccsRoleID c.assumedRoleId).1 = false)
    (keys : c.accessKeyId ≠ "" ∧ c.secretAccessKey ≠ "") (w : World)
    (answers : ∀ n, w.responses.assumeRole.get n = .ok c)
    (loads : w.responses.loadConfig.head = none) :
    ((handleRoleAssumptionV2 env region ccsRoleID).run.run w).1 =
      .ok (.ok (⟨.static ⟨c.accessKeyId, c.secretAccessKey, c.sessionToken⟩,
        if region ≠ "" then region else env.defaultRegion⟩, c)) := by
  simp [handleRoleAssumptionV2, run_bind, roleAssumptionRounds_stale expected stale 9 none w answers,
    getClientV2, newClientV2, loadDefaultConfig, loads, keys]

def Responses.assumingAs (creds : AssumeRoleOutput) : Responses :=
  { Responses.succeeding with assumeRole := Stream'.const (.ok creds) }

theorem handleRoleAssumptionV2_hands_back_stale_role :
    matchSubstringV2 default "AROAEXAMPLE" "AROAOTHER:awsAccountOperator" = (false, none) ∧
    ((handleRoleAssumptionV2 default "us-east-1" "AROAEXAMPLE").run.run
      ⟨.blank, none, [], .assumingAs ⟨"ASIA", "SECRET", "TOKEN", "AROAOTHER:awsAccountOperator"⟩,
        []⟩).1 =
      .ok (.ok (⟨.static ⟨"ASIA", "SECRET", "TOKEN"⟩, "us-east-1"⟩,
        ⟨"ASIA", "SECRET", "TOKEN", "AROAOTHER:awsAccountOperator"⟩)) :=
  ⟨rfl, @handleRoleAssumptionV2_stale default "us-east-1" "AROAEXAMPLE"
    ⟨"ASIA", "SECRET", "TOKEN", "AROAOTHER:awsAccountOperator"⟩ (by decide) rfl (by decide) _
    (fun _ => rfl) rfl⟩

end AccountOperator
