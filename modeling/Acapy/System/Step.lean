import Acapy.Issuer.CreateCredential
import Acapy.Issuer.RevokeCredentials
import Acapy.Issuer.RevocationRegistry
import Acapy.Revocation.Anoncreds

/-!
# The issuer as a concurrent system

Any number of calls of the issuer and of the registry manager run at once on
one store. Each call is a thread, and a scheduler picks any thread at any
step. A step of a thread is one read or one transaction of the store,
together with the local work and the external calls that follow it up to
the thread's next access of the store: these touch no shared state, so where
they sit between two accesses changes nothing that another thread observes.

The steps of each call, after its code:

* `create_credential`: the read of the credential definition, once the schema
  is resolved; the allocation transaction, with `Credential.create` after it.
* `revoke_credentials`: in each attempt, the test of the counter with the
  read of the definition; the read of the status list; the read of the info
  entry, with the partition and the update of the list after it; the commit
  transaction.
* `create_and_register_revocation_registry_definition(record)`: the read of
  the credential definition, with the creation and the registration after
  it; the transaction that inserts the registry; the save of the record.
* `create_and_register_revocation_list(record)`: the read of the definition,
  with the registration after it; the insert of the list; the save of the
  record.
* `handle_full_registry(revoc_reg_id)`: its transaction; it then goes on as
  the `init_issuer_registry` it calls.
* `init_issuer_registry(...)`: the resolution and the checks, with the save of
  the new record, the endorser lookup and the event.

What the external calls return is drawn from an `Oracle` at each step. With
`faults`, an access of the store may also fail with an Askar backend error,
and the call raises what the code's `except` clause for that access raises
(`Thread.failed`; the checks the code makes before the read in the same
step are skipped then, which changes which error is raised, never the
store).

A ghost log records, with the thread that made it, the events that the
code's effects on other calls depend on: the indices the allocations commit,
the calls that `handle_full_registry` makes of `init_issuer_registry`, and the
conflicts and the commits of the revocations.
-/

namespace Acapy

/-! ## Calls and threads -/

/-- A call, with the arguments the modelled code reads. -/
inductive Call
  | createCredential (a : CreateCredentialArgs) (revocRegId : Option String)
  | revokeCredentials (revocRegId : String) (credRevocIds : List Int)
  | createAndRegisterRevocationRegistryDefinition (record : IssuerRevRegRecord)
  | createAndRegisterRevocationList (record : IssuerRevRegRecord)
  | handleFullRegistry (revocRegId : String)
  | initIssuerRegistry (args : InitArgs)

/-- Where a call is: the access of the store it makes next, with what it has
    computed so far, or how it ended. -/
inductive Thread
  /-- `create_credential`, before the read of the credential definition. -/
  | ccRead (a : CreateCredentialArgs) (revocRegId : Option String)
  /-- `create_credential`, before the allocation transaction. -/
  | ccAlloc (revocRegId : String)
  /-- `create_credential` returned or raised. -/
  | ccDone (result : Except PyError (String × Option String))
  /-- `revoke_credentials` at the top of its loop, `attempt` attempts made. -/
  | rvRead (revocRegId : String) (credRevocIds : List Int) (attempt : Nat)
      (prev curr : Option RevocationStatusList)
  /-- `revoke_credentials`, before the read of the status list. -/
  | rvReadList (revocRegId : String) (credRevocIds : List Int) (attempt : Nat)
      (prev curr : Option RevocationStatusList) (revRegDefEntry : Option Entry)
  /-- `revoke_credentials`, before the read of the info entry. -/
  | rvReadInfo (revocRegId : String) (credRevocIds : List Int) (attempt : Nat)
      (prev curr : Option RevocationStatusList) (revRegDefEntry revListEntry : Option Entry)
  /-- `revoke_credentials`, before the commit transaction of its attempt. -/
  | rvCommit (revocRegId : String) (credRevocIds : List Int) (attempt : Nat)
      (revInfo : RevRegInfo) (revCrids failedCrids : Finset Int)
      (prevList updatedList : RevocationStatusList)
  /-- `revoke_credentials` returned or raised. -/
  | rvDone (result : Except PyError RevokeResult)
  /-- `create_and_register_revocation_registry_definition`, before its read. -/
  | rdRead (record : IssuerRevRegRecord)
  /-- `create_and_register_revocation_registry_definition`, before its
      transaction. -/
  | rdStore (record : IssuerRevRegRecord) (revRegDefId : String)
      (revRegDef : RevocationRegistryDefinition) (revRegDefPrivate : String)
  /-- `create_and_register_revocation_registry_definition`, before the save of
      the record. -/
  | rdSave (record : IssuerRevRegRecord) (revRegDefId : String)
  /-- `create_and_register_revocation_list`, before its read. -/
  | rlRead (record : IssuerRevRegRecord)
  /-- `create_and_register_revocation_list`, before the insert of the list. -/
  | rlStore (record : IssuerRevRegRecord) (revRegId : String) (revList : RevocationStatusList)
  /-- `create_and_register_revocation_list`, before the save of the record. -/
  | rlSave (record : IssuerRevRegRecord)
  /-- `handle_full_registry`, before its transaction. -/
  | hfTxn (revocRegId : String)
  /-- `init_issuer_registry`, before the save of the new record. -/
  | irSave (args : InitArgs)
  /-- Any other call returned (its value is not modelled) or raised. -/
  | done (result : Except PyError Unit)

/-- The thread of a call that has not started. -/
def Call.start : Call → Thread
  | .createCredential a r => .ccRead a r
  | .revokeCredentials r ids => .rvRead r ids 0 none none
  | .createAndRegisterRevocationRegistryDefinition record => .rdRead record
  | .createAndRegisterRevocationList record => .rlRead record
  | .handleFullRegistry r => .hfTxn r
  | .initIssuerRegistry args => .irSave args

/-- A call that has ended. -/
def Thread.Done : Thread → Prop
  | .ccDone _ | .rvDone _ | .done _ => True
  | _ => False

/-- What the log records, with the thread that made it. -/
inductive Event
  /-- An allocation committed `index` as the `curr_id` of `revocRegId`. -/
  | alloc (thread : Nat) (revocRegId : String) (index : Int)
  /-- `handle_full_registry` called `init_issuer_registry(args)`. -/
  | successor (thread : Nat) (args : InitArgs)
  /-- A commit of `revoke_credentials` found the info entry changed. -/
  | conflict (thread : Nat)
  /-- A commit of `revoke_credentials` on `revocRegId` committed. -/
  | revoked (thread : Nat) (revocRegId : String)
  deriving DecidableEq

/-- The thread that made an event. -/
def Event.thread : Event → Nat
  | .alloc n _ _ | .successor n _ | .conflict n | .revoked n _ => n

/-- The outcomes of the external calls of a step, and whether its access of
    the store fails. A step reads only the fields of its own calls. -/
structure Oracle where
  /-- The attribute names of the schema `get_schema` resolves. -/
  schemaAttrNames : Except PyError (List String) := .ok []
  /-- What `Credential.create` makes. -/
  credential : Option String := some ""
  /-- What `RevocationRegistryDefinition.create` makes. -/
  created : Option (RevocationRegistryDefinition × String) := none
  /-- The id the registrar gives a registry definition. -/
  registration : Except PyError String := .error .external
  /-- The status list the registrar returns. -/
  registered : Except PyError RevocationStatusList := .error .external
  /-- Whether the credential definition the resolver returns supports
      revocation. -/
  supportsRevocation : Except PyError Bool := .error .external
  /-- The `uuid4` of a new record. -/
  recordId : String := ""
  /-- The outcome of the endorser lookup and of the event. -/
  notified : Except PyError Unit := .ok ()
  /-- Whether the access of the store fails. -/
  fault : Bool := false

/-- The parameters of a run. -/
structure Env where
  /-- What `int(time.time())` evaluates to in `revoke_credentials`:
      `timeTime` for the code as written. -/
  now : Except PyError Int
  /-- Whether accesses of the store may fail. -/
  faults : Bool
  /-- `RevocationRegistry.MIN_SIZE`. -/
  minSize : Nat
  /-- `RevocationRegistry.MAX_SIZE`. -/
  maxSize : Nat

/-- The access of a step fails. -/
def Env.fails (env : Env) (o : Oracle) : Bool := o.fault && env.faults

/-- How a call ends when its next access of the store fails: what the code's
    `except AskarError` clause for that access raises (the storage layer of
    the records, not under src/, lets the error through). -/
def Thread.failed : Thread → Thread
  | .ccRead .. => .ccDone (.error (.issuer "Error retrieving credential definition"))
  | .ccAlloc _ => .ccDone (.error (.issuer "Error updating revocation registry index"))
  | .rvRead .. | .rvReadList .. | .rvReadInfo .. =>
    .rvDone (.error (.issuer "Error retrieving revocation registry"))
  | .rvCommit .. => .rvDone (.error (.issuer "Error saving revocation registry"))
  | .rdRead _ | .rlRead _ => .done (.error (.issuer "Error retrieving credential definition"))
  | .rdStore .. | .rlStore .. => .done (.error (.issuer "Error saving new revocation registry"))
  | .rdSave .. | .rlSave _ | .hfTxn _ | .irSave _ => .done (.error (.askar .backend))
  | t => t

/-! ## A step -/

/-- The step of a thread that is not failed: where it goes, the store it
    leaves and what the log records. -/
def Thread.run (env : Env) (n : Nat) (s : Store) (o : Oracle) :
    Thread → Thread × Store × List Event
  | .ccRead a revocRegId =>
    match a.rawValues s o.schemaAttrNames with
    | .error e => (.ccDone (.error e), s, [])
    | .ok _ =>
      if truthy revocRegId then (.ccAlloc (revocRegId.getD ""), s, [])
      else (.ccDone (issueCredential o.credential none), s, [])
  | .ccAlloc r =>
    match allocateIndex s r with
    | .error e => (.ccDone (.error e), s, [])
    | .ok (i, s') => (.ccDone (issueCredential o.credential (some (toString i))), s', [.alloc n r i])
  | .rvRead r ids attempt prev curr =>
    (.rvReadList r ids (attempt + 1) prev curr (s.fetch .revRegDef r), s, [])
  | .rvReadList r ids attempt prev curr de =>
    (.rvReadInfo r ids attempt prev curr de (s.fetch .revList r), s, [])
  | .rvReadInfo r ids attempt prev curr de le =>
    match plan env.now ids prev curr de le (s.fetch .revRegInfo r) with
    | .error e => (.rvDone (.error e), s, [])
    | .ok (.stop result) => (.rvDone (.ok result), s, [])
    | .ok (.commit info E F pl ul) => (.rvCommit r ids attempt info E F pl ul, s, [])
  | .rvCommit r ids attempt info E F pl ul =>
    match commitRevocation s r info E ul with
    | .error e => (.rvDone (.error e), s, [])
    | .ok (.missing, _) => (.rvDone (.ok ⟨some pl, none, failedStrings F⟩), s, [])
    | .ok (.conflict, _) => (.rvRead r ids attempt (some pl) (some ul), s, [.conflict n])
    | .ok (.committed, s') =>
      (.rvDone (.ok ⟨some pl, some ul, failedStrings F⟩), s', [.revoked n r])
  | .rdRead record =>
    match prepareRevRegDef s record, o.created, o.registration with
    | .error e, _, _ => (.done (.error e), s, [])
    | .ok _, none, _ => (.done (.error (.issuer "Error creating revocation registry")), s, [])
    | .ok _, some _, .error e => (.done (.error e), s, [])
    | .ok record, some (d, k), .ok id => (.rdStore record id d k, s, [])
  | .rdStore record id d k =>
    match storeRevRegDef s record id d k with
    | .error e => (.done (.error e), s, [])
    | .ok s' => (.rdSave record id, s', [])
  | .rdSave record id =>
    match s.saveRecord (record.posted id) false with
    | .error e => (.done (.error e), s, [])
    | .ok s' => (.done (.ok ()), s', [])
  | .rlRead record =>
    match prepareRevList s record, o.registered with
    | .error e, _ => (.done (.error e), s, [])
    | .ok _, .error e => (.done (.error e), s, [])
    | .ok id, .ok l => (.rlStore record id l, s, [])
  | .rlStore record id l =>
    match storeRevList s id l with
    | .error e => (.done (.error e), s, [])
    | .ok s' => (.rlSave record, s', [])
  | .rlSave record =>
    match s.saveRecord record.activated false with
    | .error e => (.done (.error e), s, [])
    | .ok s' => (.done (.ok ()), s', [])
  | .hfTxn r =>
    match markFull s r with
    | .error e => (.done (.error e), s, [])
    | .ok (none, _) => (.done (.ok ()), s, [])
    | .ok (some registry, s') => (.irSave registry.initArgs, s', [.successor n registry.initArgs])
  | .irSave args =>
    match checkInit env.minSize env.maxSize args o.supportsRevocation with
    | .error e => (.done (.error e), s, [])
    | .ok () =>
      match s.saveRecord (args.record o.recordId) true with
      | .error e => (.done (.error e), s, [])
      | .ok s' => (.done o.notified, s', [])
  | t => (t, s, [])

/-- A step of the thread `n` at `t`, with the outcomes `o`: `none` when the
    call has ended. The counter of `revoke_credentials` is tested before its
    read, so that test is made even when the read would fail. -/
def Thread.step (env : Env) (n : Nat) (s : Store) (o : Oracle) (t : Thread) :
    Option (Thread × Store × List Event) :=
  match t with
  | .ccDone _ | .rvDone _ | .done _ => none
  | .rvRead _ _ attempt _ _ =>
    if attempt + 1 ≥ maxAttempt then some (.rvDone (.error repeatedConflict), s, [])
    else if env.fails o then some (t.failed, s, [])
    else some (t.run env n s o)
  | t => if env.fails o then some (t.failed, s, []) else some (t.run env n s o)

/-! ## The system -/

/-- The state of the system: the store, the threads of the calls, and the
    ghost log. -/
structure Sys where
  store : Store
  threads : List Thread
  log : List Event

/-- The calls `calls` on the store `s`, none of them started. -/
def Sys.init (s : Store) (calls : List Call) : Sys :=
  ⟨s, calls.map Call.start, []⟩

/-- The step of the thread `n` with the outcomes `o`. -/
def Sys.step (env : Env) (σ : Sys) (n : Nat) (o : Oracle) : Option Sys := do
  let t ← σ.threads[n]?
  let (t', s', evs) ← t.step env n σ.store o
  pure ⟨s', σ.threads.set n t', σ.log ++ evs⟩

/-- The system can go from `σ` to `σ'` in one step. -/
def Step (env : Env) (σ σ' : Sys) : Prop :=
  ∃ n o, σ.step env n o = some σ'

/-- The states the system reaches from `σ₀`. -/
inductive Reachable (env : Env) (σ₀ : Sys) : Sys → Prop
  | init : Reachable env σ₀ σ₀
  | step {σ σ' : Sys} : Reachable env σ₀ σ → Step env σ σ' → Reachable env σ₀ σ'

/-- Every call has ended. -/
def Sys.Terminal (σ : Sys) : Prop :=
  ∀ t ∈ σ.threads, t.Done

/-- Run a schedule: the thread that steps, and the outcomes of its step. -/
def Sys.run (env : Env) : Sys → List (Nat × Oracle) → Option Sys
  | σ, [] => some σ
  | σ, (n, o) :: sched => (σ.step env n o).bind fun σ' => σ'.run env sched

theorem Sys.step_eq_some {env : Env} {σ σ' : Sys} {n : Nat} {o : Oracle} :
    σ.step env n o = some σ' ↔ ∃ t t' s' evs, σ.threads[n]? = some t ∧
      t.step env n σ.store o = some (t', s', evs) ∧ σ' = ⟨s', σ.threads.set n t', σ.log ++ evs⟩ := by
  simp only [Sys.step, Option.bind_eq_bind, Option.bind_eq_some, Prod.exists]
  constructor
  · rintro ⟨t, ht, t', s', evs, hs, h⟩
    exact ⟨t, t', s', evs, ht, hs, (Option.some.inj h).symm⟩
  · rintro ⟨t, t', s', evs, ht, hs, rfl⟩
    exact ⟨t, ht, t', s', evs, hs, rfl⟩

theorem Reachable.trans {env : Env} {σ₀ σ σ' : Sys} (h : Reachable env σ₀ σ)
    (h' : Reachable env σ σ') : Reachable env σ₀ σ' := by
  induction h' with
  | init => exact h
  | step _ hs ih => exact ih.step hs

theorem Reachable.of_run {env : Env} {σ₀ : Sys} :
    ∀ {σ σ' : Sys} {sched : List (Nat × Oracle)}, Reachable env σ₀ σ →
      σ.run env sched = some σ' → Reachable env σ₀ σ'
  | σ, σ', [], hσ, h => by
    cases h
    exact hσ
  | σ, σ', (n, o) :: sched, hσ, h => by
    simp only [Sys.run, Option.bind_eq_some] at h
    obtain ⟨σ₁, h₁, h⟩ := h
    exact Reachable.of_run (hσ.step ⟨n, o, h₁⟩) h

end Acapy
