import AccountOperator.Account
import Mathlib.Data.Stream.Init

namespace AccountOperator

/-- An `sts.AssumeRoleOutput`: the credentials and the assumed-role ID. -/
structure AssumeRoleOutput where
  accessKeyId : String
  secretAccessKey : String
  sessionToken : String
  assumedRoleId : String
  deriving DecidableEq, Repr

inductive CreateAccountState where
  | inProgress
  | succeeded
  | failed
  deriving DecidableEq, Repr

structure CreateAccountStatus where
  state : CreateAccountState
  failureReason : String
  accountId : Option String
  deriving DecidableEq, Repr

structure CreateAccountOutput where
  id : String
  deriving DecidableEq, Repr

/-- The empty value the controller builds itself has no `CreateAccountStatus`. -/
structure DescribeCreateAccountStatusOutput where
  createAccountStatus : Option CreateAccountStatus
  deriving DecidableEq, Repr

structure Secret where
  name : String
  nameSpace : String
  data : List (String × String)

/-- The environment's answers in one reconciliation, call after call; the polls are a finite script. -/
structure Responses where
  reads : Stream' (Option GoError)
  writes : Stream' (Option GoError)
  loadConfig : Stream' (Option GoError)
  assumeRole : Stream' (Except GoError AssumeRoleOutput)
  createAccount : Stream' (Except GoError CreateAccountOutput)
  describeCreateAccountStatus : List (Except GoError CreateAccountStatus)
  tagResource : Stream' (Option GoError)
  accountsCanBeCreated : Bool
  creationConditionOlderThan : Bool
  shortUID : String

instance decidableEqExcept {ε α : Type} [DecidableEq ε] [DecidableEq α] : DecidableEq (Except ε α)
  | .error a, .error b => if h : a = b then isTrue (h ▸ rfl) else isFalse fun e => h (Except.error.inj e)
  | .ok a, .ok b => if h : a = b then isTrue (h ▸ rfl) else isFalse fun e => h (Except.ok.inj e)
  | .error _, .ok _ => isFalse Except.noConfusion
  | .ok _, .error _ => isFalse Except.noConfusion

/-- Store writes with their outcome, and provider calls with their response. -/
inductive Event where
  | update (account : Account) (result : Option GoError)
  | statusUpdate (account : Account) (result : Option GoError)
  | claimStatusUpdate (result : Option GoError)
  | assumeRole (response : Except GoError AssumeRoleOutput)
  | createAccount (response : Except GoError CreateAccountOutput)
  | describeCreateAccountStatus (response : Except GoError CreateAccountStatus)
  | tagResource (result : Option GoError)
  deriving DecidableEq, Repr

/-- `Update` writes metadata and spec, `Status().Update` the status; a rejected write nothing. -/
def Event.apply (stored : Account) : Event → Account
  | .update a none => { stored with finalizers := a.finalizers, labels := a.labels, spec := a.spec }
  | .statusUpdate a none => { stored with status := a.status }
  | _ => stored

structure World where
  store : Account
  configMap : Option ConfigMap
  secrets : List Secret
  responses : Responses
  log : List Event

/-- A nil dereference, or a creation poll still waiting when the script runs out. -/
inductive Halt where
  | nilDereference
  | polling
  deriving DecidableEq, Repr

abbrev ReconcileM := ExceptT Halt (StateM World)

/-- A call answered from the world that leaves no trace. -/
def read {α : Type} (answer : World → α × Responses) : ReconcileM α :=
  modifyGet fun w => ((answer w).1, { w with responses := (answer w).2 })

/-- A logged call; a write reaches the store. -/
def respond {α : Type} (answer : Responses → α × Responses) (record : α → Event) :
    ReconcileM α :=
  modifyGet fun w =>
    ((answer w.responses).1,
      { w with responses := (answer w.responses).2,
               log := w.log ++ [record (answer w.responses).1],
               store := (record (answer w.responses).1).apply w.store })

def popWrite (r : Responses) : Option GoError × Responses :=
  (r.writes.head, { r with writes := r.writes.tail })

/-- `r.Update(ctx, account)`. -/
def update (a : Account) : ReconcileM (Option GoError) := respond popWrite (.update a)

/-- `r.Status().Update(ctx, account)`, as `statusUpdate` calls it. -/
def statusUpdate (a : Account) : ReconcileM (Option GoError) := respond popWrite (.statusUpdate a)

/-- `r.Client.Status().Update(ctx, accountClaim)`. -/
def claimStatusUpdate : ReconcileM (Option GoError) := respond popWrite .claimStatusUpdate

def assumeRole : ReconcileM (Except GoError AssumeRoleOutput) :=
  respond (fun r => (r.assumeRole.head, { r with assumeRole := r.assumeRole.tail })) .assumeRole

def createAccount : ReconcileM (Except GoError CreateAccountOutput) :=
  respond (fun r => (r.createAccount.head, { r with createAccount := r.createAccount.tail }))
    .createAccount

def tagResource : ReconcileM (Option GoError) :=
  respond (fun r => (r.tagResource.head, { r with tagResource := r.tagResource.tail }))
    .tagResource

def readError (w : World) : Option GoError × Responses :=
  (w.responses.reads.head, { w.responses with reads := w.responses.reads.tail })

/-- `r.Get(ctx, key, account)`. -/
def getAccount : ReconcileM (Except GoError Account) :=
  read fun w => ((match (readError w).1 with
    | some err => .error err
    | none => .ok w.store), (readError w).2)

/-- Reading the account claim of the claim link. -/
def getAccountClaim : ReconcileM (Option GoError) := read readError

def loadDefaultConfig : ReconcileM (Option GoError) :=
  read fun w => (w.responses.loadConfig.head, { w.responses with loadConfig := w.responses.loadConfig.tail })

/-- The creation polls' answers, consumed in order by the loop. -/
def takeDescribeScript : ReconcileM (List (Except GoError CreateAccountStatus)) :=
  read fun w => (w.responses.describeCreateAccountStatus,
    { w.responses with describeCreateAccountStatus := [] })

def describeCreateAccountStatusCall (r : Except GoError CreateAccountStatus) : ReconcileM Unit :=
  respond (fun rs => ((), rs)) fun _ => .describeCreateAccountStatus r

def Account.blank : Account :=
  ⟨[], [], none, ⟨"", false, false, ""⟩, ⟨"", false, ""⟩⟩

/-- Every store call, config load and tag succeeds; AssumeRole and CreateAccount are refused. -/
def Responses.succeeding : Responses where
  reads := Stream'.const none
  writes := Stream'.const none
  loadConfig := Stream'.const none
  assumeRole := Stream'.const (.error (.operation "STS" "AssumeRole" "AccessDenied"))
  createAccount := Stream'.const (.error (.operation "Organizations" "CreateAccount" "AccessDenied"))
  describeCreateAccountStatus := []
  tagResource := Stream'.const none
  accountsCanBeCreated := true
  creationConditionOlderThan := false
  shortUID := "abcde"

def World.start (account : Account) (responses : Responses) : World :=
  ⟨account, some ⟨[]⟩, [], responses, []⟩

/-- The store answers every read and accepts every write, and every SDK config loads. -/
structure Responses.Reliable (r : Responses) : Prop where
  reads : ∀ n, r.reads.get n = none
  writes : ∀ n, r.writes.get n = none
  loads : ∀ n, r.loadConfig.get n = none

theorem Responses.Reliable.consume {r : Responses} (h : r.Reliable) (k j : Nat) :
    { r with reads := r.reads.drop k, loadConfig := r.loadConfig.drop j }.Reliable :=
  ⟨fun n => h.reads (n + k), h.writes, fun n => h.loads (n + j)⟩

theorem Responses.Reliable.reads_head {r : Responses} (h : r.Reliable) : r.reads.head = none :=
  h.reads 0

theorem Responses.Reliable.writes_head {r : Responses} (h : r.Reliable) : r.writes.head = none :=
  h.writes 0

theorem Responses.Reliable.loads_head {r : Responses} (h : r.Reliable) : r.loadConfig.head = none :=
  h.loads 0

theorem Responses.succeeding_reliable : Responses.succeeding.Reliable :=
  ⟨fun _ => rfl, fun _ => rfl, fun _ => rfl⟩

section Run

variable {α β : Type} (w : World)

theorem run_bind (m : ReconcileM α) (f : α → ReconcileM β) :
    (m >>= f).run.run w = match m.run.run w with
      | (.ok a, w') => (f a).run.run w'
      | (.error e, w') => (.error e, w') := by
  simp only [ExceptT.run_bind, StateT.run_bind]
  rcases m.run.run w with ⟨_ | a, w'⟩ <;> rfl

@[simp] theorem World.eta : World.mk w.store w.configMap w.secrets w.responses w.log = w := rfl

@[simp] theorem run_pure (a : α) : (Pure.pure a : ReconcileM α).run.run w = (.ok a, w) := rfl

@[simp] theorem run_throw (h : Halt) :
    (MonadExcept.throw h : ReconcileM α).run.run w = (.error h, w) := rfl

@[simp] theorem read_run (answer : World → α × Responses) :
    (read answer).run.run w = (.ok (answer w).1, { w with responses := (answer w).2 }) := rfl

@[simp] theorem respond_run (answer : Responses → α × Responses) (record : α → Event) :
    (respond answer record).run.run w = (.ok (answer w.responses).1,
      { w with responses := (answer w.responses).2,
               log := w.log ++ [record (answer w.responses).1],
               store := (record (answer w.responses).1).apply w.store }) := rfl

end Run

/-- The run of `m` from `w` logs only `Q` events and changes the store only by them. -/
def EmitsAt {α : Type} (Q : Event → Prop) (m : ReconcileM α) (w : World) : Prop :=
  ∃ new : List Event, (m.run.run w).2.log = w.log ++ new ∧
    (m.run.run w).2.store = new.foldl Event.apply w.store ∧ ∀ e ∈ new, Q e

def Emits {α : Type} (Q : Event → Prop) (m : ReconcileM α) : Prop := ∀ w, EmitsAt Q m w

section Emits

variable {α β : Type} {Q R : Event → Prop}

theorem Emits.pure (a : α) : Emits Q (Pure.pure a : ReconcileM α) :=
  fun w => ⟨[], by simp, rfl, by simp⟩

theorem Emits.throw (h : Halt) : Emits Q (MonadExcept.throw h : ReconcileM α) :=
  fun w => ⟨[], by simp, rfl, by simp⟩

theorem EmitsAt.bind {m : ReconcileM α} {f : α → ReconcileM β} {w : World} (hm : EmitsAt Q m w)
    (hf : ∀ a w', m.run.run w = (.ok a, w') → EmitsAt Q (f a) w') : EmitsAt Q (m >>= f) w := by
  obtain ⟨new, hl, hs, hq⟩ := hm
  simp only [EmitsAt, ExceptT.run_bind, StateT.run_bind]
  rcases hr : m.run.run w with ⟨_ | a, w'⟩
  · rw [hr] at hl hs
    exact ⟨new, hl, hs, hq⟩
  · rw [hr] at hl hs
    dsimp only at hl hs
    obtain ⟨new', hl', hs', hq'⟩ := hf a w' hr
    refine ⟨new ++ new', by simp [hl', hl], by simp [hs', hs, List.foldl_append], ?_⟩
    intro e he
    rcases List.mem_append.mp he with he | he
    · exact hq e he
    · exact hq' e he

theorem Emits.bind {m : ReconcileM α} {f : α → ReconcileM β} (hm : Emits Q m)
    (hf : ∀ a, Emits Q (f a)) : Emits Q (m >>= f) :=
  fun w => (hm w).bind fun a w' _ => hf a w'

/-- A first step that leaves no trace and returns `a` hands the run over to `f a`. -/
theorem EmitsAt.bind_of_quiet {m : ReconcileM α} {f : α → ReconcileM β} {w w' : World} {a : α}
    (run : m.run.run w = (.ok a, w')) (log : w'.log = w.log) (store : w'.store = w.store)
    (hf : EmitsAt Q (f a) w') : EmitsAt Q (m >>= f) w := by
  obtain ⟨new, hl, hs, hq⟩ := hf
  have handed : (m >>= f).run.run w = (f a).run.run w' := by rw [run_bind, run]
  exact ⟨new, by rw [handed, hl, log], by rw [handed, hs, store], hq⟩

theorem Emits.ite {c : Prop} [Decidable c] {m₁ m₂ : ReconcileM α} (h₁ : c → Emits Q m₁)
    (h₂ : ¬c → Emits Q m₂) : Emits Q (if c then m₁ else m₂) := by
  by_cases hc : c
  · simpa [hc] using h₁ hc
  · simpa [hc] using h₂ hc

theorem Emits.read (answer : World → α × Responses) : Emits Q (read answer) :=
  fun w => ⟨[], (List.append_nil _).symm, rfl, by simp⟩

theorem Emits.respond (answer : Responses → α × Responses) (record : α → Event)
    (h : ∀ a, Q (record a)) : Emits Q (respond answer record) :=
  fun w => ⟨[record (answer w.responses).1], rfl, rfl, by simpa using h _⟩

theorem Emits.store_of_quiet {m : ReconcileM α} (h : Emits (fun _ => False) m) (w : World) :
    (m.run.run w).2.store = w.store := by
  obtain ⟨new, -, hs, hq⟩ := h w
  rw [hs, List.eq_nil_iff_forall_not_mem.mpr hq]
  rfl

theorem Emits.update {a : Account} (h : ∀ r, Q (.update a r)) : Emits Q (update a) :=
  Emits.respond _ _ h

theorem Emits.statusUpdate {a : Account} (h : ∀ r, Q (.statusUpdate a r)) :
    Emits Q (statusUpdate a) :=
  Emits.respond _ _ h

end Emits

/-- From a store satisfying `I`, `m` emits only `Q` events, keeps `I` and returns only `P` values. -/
def Triple {α : Type} (I : Account → Prop) (Q : Event → Prop) (P : α → Prop) (m : ReconcileM α) :
    Prop :=
  ∀ w, I w.store → EmitsAt Q m w ∧ I (m.run.run w).2.store ∧ ∀ a, (m.run.run w).1 = .ok a → P a

section Triple

variable {α β : Type} {I : Account → Prop} {Q : Event → Prop} {P : α → Prop} {R : β → Prop}
  {m : ReconcileM α}

theorem foldl_apply_keeps (keeps : ∀ e t, Q e → I t → I (e.apply t)) :
    ∀ (new : List Event) (t : Account), (∀ e ∈ new, Q e) → I t → I (new.foldl Event.apply t)
  | [], _, _, h => h
  | e :: new, _, hq, h =>
    foldl_apply_keeps keeps new _ (fun e' mem => hq e' (.tail _ mem)) (keeps e _ (hq e (.head _)) h)

theorem Emits.triple (hm : Emits Q m) (keeps : ∀ e t, Q e → I t → I (e.apply t)) :
    Triple I Q (fun _ => True) m := fun w hI =>
  let ⟨new, _, hs, hq⟩ := hm w
  ⟨hm w, hs ▸ foldl_apply_keeps keeps new _ hq hI, fun _ _ => trivial⟩

theorem Triple.pure {a : α} (h : P a) : Triple I Q P (Pure.pure a : ReconcileM α) :=
  fun w hI => ⟨Emits.pure a w, hI, fun _ hb => by cases hb; exact h⟩

theorem Triple.throw (h : Halt) : Triple I Q P (MonadExcept.throw h : ReconcileM α) :=
  fun w hI => ⟨Emits.throw h w, hI, fun _ hb => nomatch hb⟩

theorem Triple.ite {c : Prop} [Decidable c] {m₁ m₂ : ReconcileM α} (h₁ : c → Triple I Q P m₁)
    (h₂ : ¬c → Triple I Q P m₂) : Triple I Q P (if c then m₁ else m₂) := by
  by_cases hc : c
  · simpa [hc] using h₁ hc
  · simpa [hc] using h₂ hc

theorem Triple.bind {f : α → ReconcileM β} (hm : Triple I Q P m)
    (hf : ∀ a, P a → Triple I Q R (f a)) : Triple I Q R (m >>= f) := by
  intro w hI
  obtain ⟨emits, kept, post⟩ := hm w hI
  have next : ∀ a w', m.run.run w = (.ok a, w') → _ := fun a w' hr =>
    hf a (post a (by rw [hr])) w' (by rw [hr] at kept; exact kept)
  refine ⟨emits.bind fun a w' hr => (next a w' hr).1, ?_⟩
  rw [run_bind]
  split
  case h_1 a w' hr => exact (next a w' hr).2
  case h_2 e w' hr => exact ⟨by rw [hr] at kept; exact kept, fun _ h => nomatch h⟩

theorem Triple.emitsAt (h : Triple I Q P m) {w : World} (hI : I w.store) : EmitsAt Q m w :=
  (h w hI).1

theorem getAccount_triple : Triple I Q (fun r => ∀ a, r = .ok a → I a) getAccount := by
  intro w hI
  refine ⟨Emits.read _ w, hI, fun r hr a ha => ?_⟩
  rcases h : (readError w).1 with _ | err <;> simp [getAccount, h, ha] at hr
  exact hr ▸ hI

end Triple

end AccountOperator
