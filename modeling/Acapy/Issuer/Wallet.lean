import Acapy.Issuer.Schema
import Acapy.Issuer.CredDef
import Acapy.Issuer.CreateCredential
import Acapy.Issuer.RevokeCredentials
import Acapy.Issuer.RevocationRegistry
import Acapy.Revocation.Anoncreds

/-!
# The issuer's wallet over whole runs

`IssuerCall` lists the calls that write to the issuer's wallet:
`create_and_register_schema`, `finish_schema`,
`create_and_register_credential_definition`, `finish_cred_def`,
`create_and_register_revocation_registry_definition`,
`update_revocation_registry_definition_state` (and so
`finish_revocation_registry_definition`), `create_and_register_revocation_list`,
`create_credential`, `revoke_credentials`, and the registry manager's
`init_issuer_registry` and `handle_full_registry`. Each carries what the world
outside the wallet answers it: the registrar, the resolver, the clock, the
`uuid4` drawn. `IssuerCall.exec` runs one on the store, whether it returns or
raises, and `runCalls` runs a sequence of them.

A call writes only the categories of `IssuerCall.writes` (`IssuerCall.fetch_exec`);
`update_revocation_registry_definition_state` writes none, as it never commits.
From that, and from what the writers of each category do:

* `WalletOk.runCalls`: along every run, a credential definition, its private
  part and its key proof are stored together, every credential definition
  carries the `epoch` it was created at, printed, and every revocation registry
  definition carries its credential definition as its only tag;
* `SchemasUnique.runCalls`: as long as the registrar answers for the schema it
  was given, no two schemas have one name, version and issuer.

In every wallet that a run from the empty one reaches:

* `credentialDefinitionInWallet_runCalls`: `credential_definition_in_wallet`,
  `create_credential_offer` and `create_credential` agree on whether a
  credential definition is there;
* `getCreatedSchemas_runCalls`: `get_created_schemas` lists at most one schema
  of a name, version and issuer;
* `getCreatedRevocationRegistryDefinitions_runCalls`:
  `get_created_revocation_registry_definitions` given a state lists nothing;
* `matchCreatedCredentialDefinitions_runCalls`:
  `match_created_credential_definitions` returns the newest definition.
-/

namespace Acapy

/-! ## The calls -/

/-- What the calls take that the wallet does not hold: the serialization of a
    schema, `CredentialDefinition.create`, and the registry sizes of the
    registry manager. -/
structure IssuerEnv where
  toJson : AnonCredsSchema → String
  credentialDefinitionCreate :
    String → AnonCredsSchema → String → String → String → Bool → Option (String × String × String)
  minSize : Nat
  maxSize : Nat

/-- A call of the issuer that writes to its wallet, with what the world outside
    the wallet answers it. -/
inductive IssuerCall
  | createAndRegisterSchema (issuerId name version : String) (created : Bool)
      (registered : RegisterSchemaOutcome)
  | finishSchema (jobId schemaId : String)
  | createAndRegisterCredentialDefinition (issuerId schemaId : String)
      (tag signatureType : Option String) (supportRevocation : Option Bool)
      (schemaResult : Except PyError AnonCredsSchema) (registered : Except PyError CredDefResult)
      (now : Int)
  | finishCredDef (jobId credDefId : String)
  | createAndRegisterRevocationRegistryDefinition (record : IssuerRevRegRecord)
      (created : Option (RevocationRegistryDefinition × String))
      (registration : Except PyError String)
  | updateRevocationRegistryDefinitionState (revRegDefId state : String)
  | createAndRegisterRevocationList (record : IssuerRevRegRecord)
      (registered : Except PyError RevocationStatusList)
  | createCredential (a : CreateCredentialArgs) (revocRegId : Option String)
      (schemaAttrNames : Except PyError (List String)) (credential : Option String)
  | revokeCredentials (now : Except PyError Int) (revocRegId : String) (credRevocIds : List Int)
  | initIssuerRegistry (args : InitArgs) (supportsRevocation : Except PyError Bool)
      (recordId : String) (notified : Except PyError Unit)
  | handleFullRegistry (revocRegId : String) (supportsRevocation : Except PyError Bool)
      (recordId : String) (notified : Except PyError Unit)

namespace IssuerCall

/-- The store a call leaves, whether it returned or raised. -/
def exec (env : IssuerEnv) (s : Store) : IssuerCall → Store
  | createAndRegisterSchema issuerId name version created registered =>
    (Acapy.createAndRegisterSchema env.toJson s issuerId name version created registered).2
  | finishSchema jobId schemaId => (Acapy.finishSchema s jobId schemaId).2
  | createAndRegisterCredentialDefinition issuerId schemaId tag signatureType supportRevocation
      schemaResult registered now =>
    (Acapy.createAndRegisterCredentialDefinition env.credentialDefinitionCreate s issuerId schemaId
      tag signatureType supportRevocation schemaResult registered now).2
  | finishCredDef jobId credDefId => (Acapy.finishCredDef s jobId credDefId).2
  | createAndRegisterRevocationRegistryDefinition record created registration =>
    (Acapy.createAndRegisterRevocationRegistryDefinition s record created registration).2
  | updateRevocationRegistryDefinitionState revRegDefId state =>
    (Acapy.updateRevocationRegistryDefinitionState s revRegDefId state).2
  | createAndRegisterRevocationList record registered =>
    (Acapy.createAndRegisterRevocationList s record registered).2
  | createCredential a revocRegId schemaAttrNames credential =>
    (Acapy.createCredential s a revocRegId schemaAttrNames credential).2
  | revokeCredentials now revocRegId credRevocIds =>
    (Acapy.revokeCredentials now s revocRegId credRevocIds).2
  | initIssuerRegistry args supportsRevocation recordId notified =>
    (Acapy.initIssuerRegistry env.minSize env.maxSize s args supportsRevocation recordId
      notified).2
  | handleFullRegistry revocRegId supportsRevocation recordId notified =>
    (Acapy.handleFullRegistry env.minSize env.maxSize s revocRegId supportsRevocation recordId
      notified).2

/-- The categories a call may write. -/
def writes : IssuerCall → List Category
  | createAndRegisterSchema .. | finishSchema .. => [.schema]
  | createAndRegisterCredentialDefinition .. | finishCredDef .. => credDefCategories
  | createAndRegisterRevocationRegistryDefinition .. => [.revRegInfo, .revRegDef, .revRegDefPrivate]
  | createAndRegisterRevocationList .. => [.revList]
  | createCredential .. => [.revRegInfo]
  | revokeCredentials .. => [.revList, .revRegInfo]
  | updateRevocationRegistryDefinitionState .. | initIssuerRegistry .. | handleFullRegistry .. => []

/-- The registrar answers a schema call for the schema it was given. -/
def Echoes : IssuerCall → Prop
  | createAndRegisterSchema issuerId name version _ registered =>
    registered.Echoes issuerId name version
  | _ => True

end IssuerCall

/-- A run: the calls, one after the other, from the store `s`. -/
def runCalls (env : IssuerEnv) (s : Store) (calls : List IssuerCall) : Store :=
  calls.foldl (IssuerCall.exec env) s

@[simp] theorem runCalls_nil (env : IssuerEnv) (s : Store) : runCalls env s [] = s := rfl

@[simp] theorem runCalls_cons (env : IssuerEnv) (s : Store) (call : IssuerCall)
    (calls : List IssuerCall) :
    runCalls env s (call :: calls) = runCalls env (call.exec env s) calls := rfl

/-! ## What a call writes -/

theorem Moved.fetch_of_not_mem {s s' : Store} {cats : List Category} {jobId id : String}
    (h : Moved s cats jobId id s') {c : Category} (hc : c ∉ cats) (n : String) :
    s'.fetch c n = s.fetch c n := by
  simp [h.2, hc]

/-- A finish of the categories `cats` either changes nothing or moves entries. -/
theorem transact_finishAll_fetch (s : Store) {cats : List Category} (hn : cats.Nodup)
    (hc : cats ≠ []) (jobId id : String) {c : Category} (hcat : c ∉ cats) (n : String) :
    (transact s (finishAll s cats jobId id)).2.fetch c n = s.fetch c n := by
  rcases transact_finishAll s hn hc jobId id with h | ⟨-, h⟩
  · rw [h]
  · exact h.fetch_of_not_mem hcat n

section Exec

variable {env : IssuerEnv} {s : Store}

/-- A call leaves every category it does not write as it was. -/
theorem IssuerCall.fetch_exec (call : IssuerCall) {c : Category} (hc : c ∉ call.writes)
    (n : String) : (call.exec env s).fetch c n = s.fetch c n := by
  cases call with
  | createAndRegisterSchema issuerId name version created registered =>
    rcases createAndRegisterSchema_store env.toJson s issuerId name version created registered
      with h | ⟨ident, st, -, -, -, h⟩
    · rw [exec, h]
    · simp only [writes, List.mem_singleton] at hc
      simp [exec, h, Store.fetch_put, hc]
  | finishSchema jobId schemaId =>
    rw [exec, finishSchema_eq]
    exact transact_finishAll_fetch s (by decide : [Category.schema].Nodup) (by decide) jobId
      schemaId hc n
  | createAndRegisterCredentialDefinition issuerId schemaId tag signatureType supportRevocation
      schemaResult registered now =>
    rcases createAndRegisterCredentialDefinition_store env.credentialDefinitionCreate s issuerId
      schemaId tag signatureType supportRevocation schemaResult registered now
      with h | ⟨ident, schema, result, credDef, credDefPrivate, keyProof, -, -, -, -, h⟩
    · rw [exec, h]
    · simp only [writes, credDefCategories, List.mem_cons, List.mem_singleton, not_or] at hc
      simp [exec, h, insertedCredDef, Store.fetch_put, hc]
  | finishCredDef jobId credDefId =>
    rw [exec, finishCredDef_eq]
    exact transact_finishAll_fetch s (by decide : credDefCategories.Nodup) (by decide) jobId
      credDefId hc n
  | createAndRegisterRevocationRegistryDefinition record created registration =>
    rcases createAndRegisterRevocationRegistryDefinition_entries s record created registration
      with h | ⟨record', id, d, k, -, h⟩
    · exact h c n
    · simp only [writes, List.mem_cons, List.mem_singleton, not_or] at hc
      simp [exec, h, insertedRegistry, Store.fetch_put, hc]
  | updateRevocationRegistryDefinitionState revRegDefId state => rfl
  | createAndRegisterRevocationList record registered =>
    exact createAndRegisterRevocationList_fetch s record registered
      (by simpa [writes] using hc) n
  | createCredential a revocRegId schemaAttrNames credential =>
    exact createCredential_fetch s a revocRegId schemaAttrNames credential
      (by simpa [writes] using hc) n
  | revokeCredentials now revocRegId credRevocIds =>
    rcases revokeLoop_store now s revocRegId credRevocIds maxAttempt 0 none none
      with h | ⟨info, E, ul, h⟩
    · rw [exec, Acapy.revokeCredentials, h]
    · simp only [writes, List.mem_cons, List.mem_singleton, not_or] at hc
      simp [exec, Acapy.revokeCredentials, h, revokedStore, Store.fetch_put, hc]
  | initIssuerRegistry args supportsRevocation recordId notified =>
    rcases initIssuerRegistry_store env.minSize env.maxSize s args supportsRevocation recordId
      notified with h | ⟨-, h⟩ <;> simp [exec, h]
  | handleFullRegistry revocRegId supportsRevocation recordId notified =>
    exact handleFullRegistry_fetch env.minSize env.maxSize s revocRegId supportsRevocation
      recordId notified c n

end Exec

/-! ## The invariant of the wallet -/

/-- The invariant of the issuer's wallet. -/
structure WalletOk (s : Store) : Prop where
  /-- A credential definition, its private part and its key proof are stored
      together. -/
  complete : ∀ c ∈ credDefCategories, ∀ n, (s.fetch c n).isSome = (s.fetch .credDef n).isSome
  /-- Every credential definition carries the `epoch` it was created at, printed. -/
  epochPrinted : ∀ n e, s.fetch .credDef n = some e →
    ∃ t : Int, e.tags.lookup "epoch" = some (toString t)
  /-- Every revocation registry definition carries its credential definition as
      its only tag. -/
  revRegDefTagged : ∀ n e, s.fetch .revRegDef n = some e →
    ∃ credDefId, e.tags = Finmap.insert "cred_def_id" credDefId ∅

theorem WalletOk.empty : WalletOk Store.empty :=
  ⟨by simp, by simp, by simp⟩

/-- The `epoch` tag of a new credential definition is the time of the call. -/
theorem credDefTags_epoch (schemaId issuerId : String) (schema : AnonCredsSchema) (state : String)
    (epoch : Int) :
    (credDefTags schemaId issuerId schema state epoch).lookup "epoch" = some (toString epoch) := by
  simp [credDefTags, Finmap.lookup_toFinmap]

section Invariant

variable {env : IssuerEnv} {s s' : Store}

/-- The invariant reads only the categories of credential definitions and of
    registry definitions. -/
theorem WalletOk.congr (h : WalletOk s)
    (hs : ∀ c ∈ Category.revRegDef :: credDefCategories, ∀ n, s'.fetch c n = s.fetch c n) :
    WalletOk s' where
  complete c hc n := by
    rw [hs c (List.mem_cons_of_mem _ hc), hs .credDef (by decide)]
    exact h.complete c hc n
  epochPrinted n e he := h.epochPrinted n e (hs .credDef (by decide) n ▸ he)
  revRegDefTagged n e he := h.revRegDefTagged n e (hs .revRegDef (by decide) n ▸ he)

/-- A new credential definition keeps the invariant. -/
theorem WalletOk.insertedCredDef (h : WalletOk s)
    {ident credDef credDefPrivate keyProof schemaId issuerId state : String}
    {schema : AnonCredsSchema} {now : Int} :
    WalletOk (insertedCredDef s ident credDef credDefPrivate keyProof
      (credDefTags schemaId issuerId schema state now)) where
  complete c hc n := by
    by_cases hn : n = ident
    · simp only [credDefCategories, List.mem_cons, List.mem_singleton, List.not_mem_nil,
        or_false] at hc
      rcases hc with rfl | rfl | rfl <;> simp [Acapy.insertedCredDef, Store.fetch_put, hn]
    · simpa [Acapy.insertedCredDef, Store.fetch_put, hn] using h.complete c hc n
  epochPrinted n e he := by
    by_cases hn : n = ident
    · simp only [Acapy.insertedCredDef, Store.fetch_put, hn, reduceCtorEq, false_and, if_false,
        and_self, if_true, Option.some.injEq] at he
      exact ⟨now, he ▸ credDefTags_epoch schemaId issuerId schema state now⟩
    · exact h.epochPrinted n e (by simpa [Acapy.insertedCredDef, Store.fetch_put, hn] using he)
  revRegDefTagged n e he :=
    h.revRegDefTagged n e (by simpa [Acapy.insertedCredDef, Store.fetch_put] using he)

/-- Moving a credential definition to its id keeps the invariant: its three
    entries move together, and finishing keeps the `epoch` tag. -/
theorem WalletOk.moved (h : WalletOk s) {jobId id : String}
    (hm : Moved s credDefCategories jobId id s') : WalletOk s' where
  complete c hc n := by
    rw [hm.2, hm.2]
    simp only [hc, (by decide : Category.credDef ∈ credDefCategories), true_and]
    split_ifs
    · simpa using h.complete c hc jobId
    · rfl
    · exact h.complete c hc n
  epochPrinted n e he := by
    rw [hm.2] at he
    simp only [(by decide : Category.credDef ∈ credDefCategories), true_and] at he
    split_ifs at he
    · obtain ⟨e₀, he₀, rfl⟩ := Option.map_eq_some'.1 he
      obtain ⟨t, ht⟩ := h.epochPrinted jobId e₀ he₀
      exact ⟨t, by simp [Entry.finished, Finmap.lookup_insert_of_ne, ht]⟩
    · exact h.epochPrinted n e he
  revRegDefTagged n e he :=
    h.revRegDefTagged n e (hm.fetch_of_not_mem (by decide : Category.revRegDef ∉ credDefCategories) n ▸ he)

/-- A new registry definition keeps the invariant: it is tagged with its
    credential definition only. -/
theorem WalletOk.insertedRegistry (h : WalletOk s) {record : IssuerRevRegRecord} {id : String}
    {d : RevocationRegistryDefinition} {k : String} :
    WalletOk (insertedRegistry s record id d k) where
  complete c hc n := by
    have hne : c ≠ .revRegInfo ∧ c ≠ .revRegDef ∧ c ≠ .revRegDefPrivate := by
      simp only [credDefCategories, List.mem_cons, List.mem_singleton, List.not_mem_nil,
        or_false] at hc
      rcases hc with rfl | rfl | rfl <;> decide
    simpa [Acapy.insertedRegistry, Store.fetch_put, hne] using h.complete c hc n
  epochPrinted n e he :=
    h.epochPrinted n e (by simpa [Acapy.insertedRegistry, Store.fetch_put] using he)
  revRegDefTagged n e he := by
    by_cases hn : n = id
    · simp only [Acapy.insertedRegistry, Store.fetch_put, hn, reduceCtorEq, false_and, if_false,
        and_self, if_true, Option.some.injEq] at he
      exact ⟨record.credDefId, by rw [← he]⟩
    · exact h.revRegDefTagged n e (by simpa [Acapy.insertedRegistry, Store.fetch_put, hn] using he)

/-- Every call keeps the invariant. -/
theorem WalletOk.exec (h : WalletOk s) (call : IssuerCall) : WalletOk (call.exec env s) := by
  cases call
  case createAndRegisterCredentialDefinition issuerId schemaId tag signatureType supportRevocation
      schemaResult registered now =>
    rcases createAndRegisterCredentialDefinition_store env.credentialDefinitionCreate s issuerId
      schemaId tag signatureType supportRevocation schemaResult registered now
      with h' | ⟨_, _, _, _, _, _, _, _, _, _, h'⟩
    · rw [IssuerCall.exec, h']
      exact h
    · rw [IssuerCall.exec, h']
      exact h.insertedCredDef
  case finishCredDef jobId credDefId =>
    rw [IssuerCall.exec, finishCredDef_eq]
    rcases transact_finishAll s (by decide : credDefCategories.Nodup) (by decide) jobId credDefId
      with h' | ⟨-, hm⟩
    · rw [credDefCategories] at h'
      rw [h']
      exact h
    · exact h.moved hm
  case createAndRegisterRevocationRegistryDefinition record created registration =>
    rcases createAndRegisterRevocationRegistryDefinition_entries s record created registration
      with h' | ⟨_, _, _, _, _, h'⟩
    · exact h.congr fun c _ n => h' c n
    · exact h.insertedRegistry.congr fun c _ n => h' c n
  all_goals refine h.congr fun c hc n => IssuerCall.fetch_exec _ ?_ n
  all_goals revert c; simp only [IssuerCall.writes]; decide

/-- Along every run, the invariant holds of every wallet reached. -/
theorem WalletOk.runCalls (h : WalletOk s) (calls : List IssuerCall) :
    WalletOk (runCalls env s calls) := by
  induction calls generalizing s with
  | nil => exact h
  | cons call calls ih => exact ih (h.exec call)

/-! ## Schemas over whole runs -/

theorem SchemasUnique.empty : SchemasUnique Store.empty :=
  fun _ _ _ _ _ he => by simp at he

/-- Every call keeps the schemas unique, as long as the registrar answers a
    schema call for the schema it was given. -/
theorem SchemasUnique.exec (hu : SchemasUnique s) {call : IssuerCall}
    (he : call.Echoes) : SchemasUnique (call.exec env s) := by
  cases call
  case createAndRegisterSchema issuerId name version created registered =>
    exact hu.createAndRegisterSchema env.toJson he
  case finishSchema jobId schemaId =>
    rw [IssuerCall.exec, finishSchema_eq]
    rcases transact_finishAll s (by decide : [Category.schema].Nodup) (by decide) jobId schemaId
      with h | ⟨hne, hm⟩
    · rw [h]
      exact hu
    · exact hu.moved hne hm
  all_goals exact hu.congr fun n =>
    IssuerCall.fetch_exec _ (by simp [IssuerCall.writes, credDefCategories]) n

/-- Along every run whose registrar answers each schema call for the schema it
    was given, the schemas stay unique. -/
theorem SchemasUnique.runCalls (hu : SchemasUnique s) {calls : List IssuerCall}
    (he : ∀ call ∈ calls, call.Echoes) : SchemasUnique (runCalls env s calls) := by
  induction calls generalizing s with
  | nil => exact hu
  | cons call calls ih =>
    exact ih (hu.exec (he call (List.mem_cons_self _ _))) fun c hc => he c (List.mem_cons_of_mem _ hc)

/-! ## What the readers find -/

/-- Where the invariant holds, `credential_definition_in_wallet`, the check of
    `create_credential_offer` and that of `create_credential` agree. -/
theorem WalletOk.credentialDefinitionInWallet_iff (h : WalletOk s)
    (credentialDefinitionLoad : Value → Option String)
    (credentialOfferCreate : String → String → Value → Option String)
    (a : CreateCredentialArgs) (names : List String) :
    (credentialDefinitionInWallet s a.credDefId = true ↔
      createCredentialOffer credentialDefinitionLoad credentialOfferCreate s a.credDefId ≠
        .error (.issuer "Credential definition not found for credential offer")) ∧
    (credentialDefinitionInWallet s a.credDefId = true ↔
      a.rawValues s (.ok names) ≠
        .error (.issuer "Credential definition not found for credential issuance")) := by
  rw [Ne, Ne, createCredentialOffer_not_found, rawValues_not_found, credentialDefinitionInWallet]
  have hp := h.complete .credDefPrivate (by decide) a.credDefId
  have hk := h.complete .credDefKeyProof (by decide) a.credDefId
  revert hp hk
  cases s.fetch .credDef a.credDefId <;> cases s.fetch .credDefPrivate a.credDefId <;>
    cases s.fetch .credDefKeyProof a.credDefId <;> simp

/-- Where the invariant holds, no registry definition has a state tag. -/
theorem WalletOk.getCreatedRevocationRegistryDefinitions_state (h : WalletOk s)
    (credDefId : Option String) (state : String) :
    getCreatedRevocationRegistryDefinitions s credDefId (some state) = [] := by
  refine List.eq_nil_iff_forall_not_mem.2 fun n hn => ?_
  obtain ⟨⟨n, e⟩, he, rfl⟩ := List.mem_map.1 hn
  obtain ⟨hf, ht⟩ := Store.mem_fetchAll.1 he
  obtain ⟨cd, hcd⟩ := h.revRegDefTagged _ _ hf
  have := ht ("state", state) (by cases credDefId <;> simp)
  simp [hcd, Finmap.lookup_insert_of_ne] at this

end Invariant

/-! ## Runs from the empty wallet -/

/-- An environment whose library serializes every schema alike and creates
    every credential definition alike; the registry manager takes sizes from 4
    to 32768. -/
def sampleEnv : IssuerEnv :=
  ⟨fun _ => "schema", fun _ _ _ _ _ _ => some ("cred_def", "private", "key_proof"), 4, 32768⟩

/-- A registration of the schema `degree` 1.0 that the registrar answers as
    finished under `schemaId`. -/
def registerDegree (schemaId : String) : IssuerCall :=
  .createAndRegisterSchema "did:sov:issuer" "degree" "1.0" true
    (.answered ⟨none, ⟨stateFinished, some schemaId, ⟨"did:sov:issuer", "degree", "1.0"⟩⟩⟩)

/-- Every wallet that a run from the empty one reaches satisfies the invariant. -/
theorem walletOk_reachable (env : IssuerEnv) (calls : List IssuerCall) :
    WalletOk (runCalls env Store.empty calls) :=
  WalletOk.empty.runCalls calls

theorem registerDegree_echoes (schemaId : String) : (registerDegree schemaId).Echoes := by
  simp [registerDegree, IssuerCall.Echoes, RegisterSchemaOutcome.Echoes,
    RegisterSchemaOutcome.stored]

/-- Along every run from the empty wallet whose registrar answers each schema
    call for the schema it was given, `get_created_schemas` lists at most one
    schema of a name, version and issuer. -/
theorem getCreatedSchemas_runCalls (env : IssuerEnv) {calls : List IssuerCall}
    (he : ∀ call ∈ calls, call.Echoes) (name version issuerId : String) :
    (getCreatedSchemas (runCalls env Store.empty calls) (some name) (some version)
      (some issuerId)).length ≤ 1 :=
  getCreatedSchemas_length_le_one (SchemasUnique.empty.runCalls he) name version
    issuerId

theorem getCreatedSchemas_runCalls_twice :
    (∀ call ∈ [registerDegree "S1", registerDegree "S2"], call.Echoes) ∧
      (getCreatedSchemas (runCalls sampleEnv Store.empty [registerDegree "S1", registerDegree "S2"])
        (some "degree") (some "1.0") (some "did:sov:issuer")).length ≤ 1 :=
  have he : ∀ call ∈ [registerDegree "S1", registerDegree "S2"], call.Echoes := by
    simp [registerDegree_echoes]
  ⟨he, getCreatedSchemas_runCalls sampleEnv he "degree" "1.0" "did:sov:issuer"⟩

/-- The second registration finds the first and raises. -/
example : getCreatedSchemas (runCalls sampleEnv Store.empty [registerDegree "S1", registerDegree "S2"])
    (some "degree") (some "1.0") (some "did:sov:issuer") = ["S1"] := by decide

/-- In every wallet that a run from the empty one reaches,
    `credential_definition_in_wallet`, the check of `create_credential_offer`
    and that of `create_credential` agree on whether a credential definition
    is there. -/
theorem credentialDefinitionInWallet_runCalls (env : IssuerEnv) (calls : List IssuerCall)
    (credentialDefinitionLoad : Value → Option String)
    (credentialOfferCreate : String → String → Value → Option String)
    (a : CreateCredentialArgs) (names : List String) :
    let s := runCalls env Store.empty calls
    (credentialDefinitionInWallet s a.credDefId = true ↔
      createCredentialOffer credentialDefinitionLoad credentialOfferCreate s a.credDefId ≠
        .error (.issuer "Credential definition not found for credential offer")) ∧
    (credentialDefinitionInWallet s a.credDefId = true ↔
      a.rawValues s (.ok names) ≠
        .error (.issuer "Credential definition not found for credential issuance")) :=
  (WalletOk.empty.runCalls calls).credentialDefinitionInWallet_iff credentialDefinitionLoad
    credentialOfferCreate a names

/-- In every wallet that a run from the empty one reaches,
    `get_created_revocation_registry_definitions` given a state lists nothing. -/
theorem getCreatedRevocationRegistryDefinitions_runCalls (env : IssuerEnv)
    (calls : List IssuerCall) (credDefId : Option String) (state : String) :
    getCreatedRevocationRegistryDefinitions (runCalls env Store.empty calls) credDefId
      (some state) = [] :=
  (WalletOk.empty.runCalls calls).getCreatedRevocationRegistryDefinitions_state credDefId state

/-- In every wallet that a run from the empty one reaches,
    `match_created_credential_definitions` with no `cred_def_id` returns the
    first of the finished definitions with the tags given whose `epoch` is
    greatest, or raises `ValueError` when there is none, as long as `int`
    reads back what `str` prints. -/
theorem matchCreatedCredentialDefinitions_runCalls {pyInt : String → Except PyError Int}
    (hint : ∀ t : Int, pyInt (toString t) = .ok t) (env : IssuerEnv) (calls : List IssuerCall)
    {credDefId : Option String} (hc : truthy credDefId = false)
    (issuerId schemaIssuerId schemaId schemaName schemaVersion epoch : Option String) :
    let s := runCalls env Store.empty calls
    let r := matchCreatedCredentialDefinitions pyInt s credDefId issuerId schemaIssuerId schemaId
      schemaName schemaVersion epoch
    let matching := s.fetchAll .credDef
      (matchTagFilter issuerId schemaIssuerId schemaId schemaName schemaVersion epoch)
    (matching = [] ∧ r = .error (.value "max() arg is an empty sequence")) ∨
      ∃ pre n e post, matching = pre ++ (n, e) :: post ∧ r = .ok (some n) ∧
        (∀ x ∈ pre, epochOf x.2 < epochOf e) ∧ ∀ x ∈ post, epochOf x.2 ≤ epochOf e :=
  matchCreatedCredentialDefinitions_newest hint (WalletOk.empty.runCalls calls).epochPrinted hc
    issuerId schemaIssuerId schemaId schemaName schemaVersion epoch

/-- Two finished definitions of the schema `degree`, created at 100 and 200. -/
def twoCredDefs : List IssuerCall :=
  [100, 200].map fun now =>
    .createAndRegisterCredentialDefinition "did:sov:issuer" "S1" none none none
      (.ok ⟨"did:sov:issuer", "degree", "1.0"⟩)
      (.ok ⟨none, ⟨stateFinished, some s!"CD{now}"⟩⟩) now

theorem matchCreatedCredentialDefinitions_runCalls_two :
    (∀ t : Int, (fun text => .ok (readDecimal text) : String → Except PyError Int) (toString t) =
      .ok t) ∧ truthy none = false ∧
    let s := runCalls sampleEnv Store.empty twoCredDefs
    let r := matchCreatedCredentialDefinitions (fun text => .ok (readDecimal text)) s none
      (some "did:sov:issuer") none none none none none
    let matching := s.fetchAll .credDef
      (matchTagFilter (some "did:sov:issuer") none none none none none)
    (matching = [] ∧ r = .error (.value "max() arg is an empty sequence")) ∨
      ∃ pre n e post, matching = pre ++ (n, e) :: post ∧ r = .ok (some n) ∧
        (∀ x ∈ pre, epochOf x.2 < epochOf e) ∧ ∀ x ∈ post, epochOf x.2 ≤ epochOf e :=
  have hint : ∀ t : Int, (fun text => .ok (readDecimal text) : String → Except PyError Int)
      (toString t) = .ok t := fun t => by simp [readDecimal_toString]
  ⟨hint, rfl, matchCreatedCredentialDefinitions_runCalls hint sampleEnv twoCredDefs
    (rfl : truthy none = false) (some "did:sov:issuer") none none none none none⟩

example : matchCreatedCredentialDefinitions (fun text => .ok (readDecimal text))
    (runCalls sampleEnv Store.empty twoCredDefs) none (some "did:sov:issuer") none none none none
    none = .ok (some "CD200") := rfl

end Acapy
