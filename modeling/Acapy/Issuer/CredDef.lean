import Acapy.Issuer.Registration

/-!
# Credential definitions

`create_and_register_credential_definition(issuer_id, schema_id, tag,
signature_type, options)` resolves the schema, creates the definition with
the anoncreds library, has the registrar register it, and stores, in one
transaction, the definition (`CATEGORY_CRED_DEF`, tagged with the schema, the
issuer, the state of the registration and the `epoch` of creation), its
private part and its key proof, under the definition id the registrar gave,
or else its job id. `finish_cred_def` moves the three entries to the
definition id once a pending registration finishes.

The issuer then reads them back:

* `credential_definition_in_wallet` tests for the private part;
* `create_credential_offer` reads the definition and its key proof;
* `get_created_credential_definitions` lists the ids of the finished ones with
  the tags given, and `match_created_credential_definitions` returns the id
  of the one created last, by `epoch` (`pyMax_eq_ok`).

`createAndRegisterCredentialDefinition_store` says what the call does to the
store: it inserts the three entries under one free name, or changes nothing.
A definition registered as pending and then finished is stored as one
registered as finished at once (`createAndRegisterCredentialDefinition_wait_finish`).

`CredentialDefinition.create`, `CredentialDefinition.load` and
`CredentialOffer.create` belong to the anoncreds library, and `int` to
Python: they are parameters.
-/

namespace Acapy

/-! ## The call -/

/-- `DEFAULT_CRED_DEF_TAG`. -/
def defaultCredDefTag : String := "default"

/-- `DEFAULT_SIGNATURE_TYPE`. -/
def defaultSignatureType : String := "CL"

/-- `CredDefState`: the state of a registration, and the definition's id once
    it has one. -/
structure CredDefState where
  state : String
  credentialDefinitionId : Option String
  deriving DecidableEq, Repr

/-- `CredDefResult`: the registrar's answer. -/
structure CredDefResult where
  jobId : Option String
  credentialDefinitionState : CredDefState
  deriving DecidableEq, Repr

/-- The tags a credential definition is stored with: its schema, its issuer,
    the state of its registration, and `str(int(time()))`. -/
def credDefTags (schemaId issuerId : String) (schema : AnonCredsSchema) (state : String)
    (epoch : Int) : Finmap (fun _ : String => String) :=
  List.toFinmap [⟨"schema_id", schemaId⟩, ⟨"schema_issuer_id", schema.issuerId⟩,
    ⟨"issuer_id", issuerId⟩, ⟨"schema_name", schema.name⟩, ⟨"schema_version", schema.version⟩,
    ⟨"state", state⟩, ⟨"epoch", toString epoch⟩]

/-- The transaction that stores a new definition, its private part and its
    key proof under `ident`. -/
def storeCredDef (s : Store) (ident credDef credDefPrivate keyProof : String)
    (tags : Finmap (fun _ : String => String)) : Except PyError Store :=
  wrapAskar "Error storing credential definition" do
    let s ← s.insert .credDef ident ⟨.raw credDef, tags⟩
    let s ← s.insert .credDefPrivate ident (.plain (.raw credDefPrivate))
    s.insert .credDefKeyProof ident (.plain (.raw keyProof))

section Create

-- `CredentialDefinition.create(schema_id, schema, issuer_id, tag, signature_type,
-- support_revocation=...)`: the definition, its private part and its key proof, as
-- stored (`to_json`, `to_json_buffer`), or `none` for an `AnoncredsError`.
variable (credentialDefinitionCreate :
  String → AnonCredsSchema → String → String → String → Bool → Option (String × String × String))

/-- `create_and_register_credential_definition(issuer_id, schema_id, tag,
    signature_type, options)`, given what the resolver returns for the schema
    (or raises, before the `try`), what the registrar does, and `int(time())`:
    the registrar's answer, or the exception, with the store it leaves. The
    option `support_revocation` is `None` when `options` does not hold it. -/
def createAndRegisterCredentialDefinition (s : Store) (issuerId schemaId : String)
    (tag signatureType : Option String) (supportRevocation : Option Bool)
    (schemaResult : Except PyError AnonCredsSchema) (registered : Except PyError CredDefResult)
    (now : Int) : Except PyError CredDefResult × Store :=
  match schemaResult with
  | .error e => (.error e, s)
  | .ok schema =>
    match credentialDefinitionCreate schemaId schema issuerId
        (pyStr (pyOr tag (some defaultCredDefTag)))
        (pyStr (pyOr signatureType (some defaultSignatureType))) (supportRevocation.getD false) with
    | none => (.error (.issuer "Error creating credential definition"), s)
    | some (credDef, credDefPrivate, keyProof) =>
      match wrapAnoncreds "Error creating credential definition" registered with
      | .error e => (.error e, s)
      | .ok result =>
        let ident := pyOr result.credentialDefinitionState.credentialDefinitionId result.jobId
        if !truthy ident then (.error (.issuer "cred def id or job id required"), s) else
        let (stored, s) := transact s <| storeCredDef s (pyStr ident) credDef credDefPrivate
          keyProof (credDefTags schemaId issuerId schema result.credentialDefinitionState.state now)
        (stored.map fun _ => result, s)

end Create

/-- The store with the three entries of a new definition under `ident`. -/
def insertedCredDef (s : Store) (ident credDef credDefPrivate keyProof : String)
    (tags : Finmap (fun _ : String => String)) : Store :=
  ((s.put .credDef ident ⟨.raw credDef, tags⟩).put .credDefPrivate ident
    (.plain (.raw credDefPrivate))).put .credDefKeyProof ident (.plain (.raw keyProof))

/-- The transaction inserts the three entries under a name none of them
    holds, or raises. -/
theorem storeCredDef_eq_ok {s s' : Store} {ident credDef credDefPrivate keyProof : String}
    {tags : Finmap (fun _ : String => String)} :
    storeCredDef s ident credDef credDefPrivate keyProof tags = .ok s' ↔
      s.fetch .credDef ident = none ∧ s.fetch .credDefPrivate ident = none ∧
        s.fetch .credDefKeyProof ident = none ∧
        s' = insertedCredDef s ident credDef credDefPrivate keyProof tags := by
  simp only [storeCredDef, wrapAskar_eq_ok, bind_eq_ok, Store.insert_eq_ok]
  constructor
  · rintro ⟨_, ⟨h1, rfl⟩, _, ⟨h2, rfl⟩, h3, rfl⟩
    simp only [Store.fetch_put, reduceCtorEq, false_and, if_false] at h2 h3
    exact ⟨h1, h2, h3, rfl⟩
  · rintro ⟨h1, h2, h3, rfl⟩
    exact ⟨_, ⟨h1, rfl⟩, _, ⟨by simp [Store.fetch_put, h2], rfl⟩,
      by simp [Store.fetch_put, h3], rfl⟩

/-- A call inserts the three entries of the definition under one name that
    none of them held, tagged with the state the registrar answered and the
    time of the call, or changes nothing. -/
theorem createAndRegisterCredentialDefinition_store
    (credentialDefinitionCreate :
      String → AnonCredsSchema → String → String → String → Bool → Option (String × String × String))
    (s : Store) (issuerId schemaId : String) (tag signatureType : Option String)
    (supportRevocation : Option Bool) (schemaResult : Except PyError AnonCredsSchema)
    (registered : Except PyError CredDefResult) (now : Int) :
    let r := createAndRegisterCredentialDefinition credentialDefinitionCreate s issuerId schemaId
      tag signatureType supportRevocation schemaResult registered now
    r.2 = s ∨ ∃ ident schema result credDef credDefPrivate keyProof,
      registered = .ok result ∧ s.fetch .credDef ident = none ∧
      s.fetch .credDefPrivate ident = none ∧ s.fetch .credDefKeyProof ident = none ∧
      r = (.ok result, insertedCredDef s ident credDef credDefPrivate keyProof
        (credDefTags schemaId issuerId schema result.credentialDefinitionState.state now)) := by
  intro r
  unfold r createAndRegisterCredentialDefinition
  rcases schemaResult with e | schema
  · exact .inl rfl
  dsimp only
  split
  · exact .inl rfl
  rename_i credDef credDefPrivate keyProof _
  rcases registered with e | result
  · cases e <;> exact .inl rfl
  dsimp only [wrapAnoncreds_ok]
  split_ifs
  · exact .inl rfl
  rcases h : storeCredDef s _ credDef credDefPrivate keyProof _ with e | s'
  · exact .inl rfl
  obtain ⟨h1, h2, h3, rfl⟩ := storeCredDef_eq_ok.1 h
  exact .inr ⟨_, schema, result, credDef, credDefPrivate, keyProof, rfl, h1, h2, h3, rfl⟩

/-! ## Reading the definitions back -/

/-- `credential_definition_in_wallet(credential_definition_id)`: whether the
    private part is stored. -/
def credentialDefinitionInWallet (s : Store) (credentialDefinitionId : String) : Bool :=
  (s.fetch .credDefPrivate credentialDefinitionId).isSome

section Offer

-- `CredentialDefinition.load(raw_value).schema_id`, or `none` for an `AnoncredsError`.
variable (credentialDefinitionLoad : Value → Option String)
-- `CredentialOffer.create(schema_id, cred_def_id, key_proof).to_json()`, or `none` for an
-- `AnoncredsError`.
variable (credentialOfferCreate : String → String → Value → Option String)

/-- `create_credential_offer(credential_definition_id)`: the offer for the
    stored definition and key proof. The schema id is the `schema_id` tag, or
    the loaded definition's when the tag is missing or empty. -/
def createCredentialOffer (s : Store) (credentialDefinitionId : String) :
    Except PyError String := do
  let (some credDef, some keyProof) :=
      (s.fetch .credDef credentialDefinitionId, s.fetch .credDefKeyProof credentialDefinitionId)
    | throw (.issuer "Credential definition not found for credential offer")
  let some loadedSchemaId := credentialDefinitionLoad credDef.value
    | throw (.issuer "Error creating credential offer")
  required "Error creating credential offer" <|
    credentialOfferCreate (pyStr (pyOr (credDef.tags.lookup "schema_id") (some loadedSchemaId)))
      credentialDefinitionId keyProof.value

/-- The offer raises that the definition is not found exactly when the
    definition or its key proof is missing. -/
theorem createCredentialOffer_not_found (s : Store) (credentialDefinitionId : String) :
    createCredentialOffer credentialDefinitionLoad credentialOfferCreate s credentialDefinitionId =
        .error (.issuer "Credential definition not found for credential offer") ↔
      s.fetch .credDef credentialDefinitionId = none ∨
        s.fetch .credDefKeyProof credentialDefinitionId = none := by
  unfold createCredentialOffer
  rcases s.fetch .credDef credentialDefinitionId with _ | credDef <;>
    rcases s.fetch .credDefKeyProof credentialDefinitionId with _ | keyProof
  case some.some =>
    simp only [reduceCtorEq, or_self, iff_false]
    split
    · unfold required
      split <;> simp
    · simp [throw, throwThe, MonadExceptOf.throw]
  all_goals simp [throw, throwThe, MonadExceptOf.throw]

end Offer

/-- `get_created_credential_definitions(issuer_id, schema_issuer_id, schema_id,
    schema_name, schema_version, epoch)`: the names of the finished
    definitions with the tags given. -/
def getCreatedCredentialDefinitions (s : Store)
    (issuerId schemaIssuerId schemaId schemaName schemaVersion epoch : Option String) :
    List String :=
  (s.fetchAll .credDef ([("issuer_id", issuerId), ("schema_issuer_id", schemaIssuerId),
    ("schema_id", schemaId), ("schema_name", schemaName), ("schema_version", schemaVersion),
    ("epoch", epoch), ("state", some stateFinished)].filterMap fun (k, v) => v.map (k, ·))).map
      Prod.fst

section Match

-- `int(text)`.
variable (pyInt : String → Except PyError Int)

/-- `int(r.tags["epoch"])`, the key of `max` in `match_created_credential_definitions`. -/
def epochKey (r : String × Entry) : Except PyError Int :=
  match r.2.tags.lookup "epoch" with
  | some epoch => pyInt epoch
  | none => .error (.key "epoch")

/-- The tag filter of `match_created_credential_definitions`: the tags given,
    and the state finished. -/
def matchTagFilter (issuerId schemaIssuerId schemaId schemaName schemaVersion epoch : Option String) :
    List (String × String) :=
  [("issuer_id", issuerId), ("schema_issuer_id", schemaIssuerId), ("schema_id", schemaId),
    ("schema_name", schemaName), ("schema_version", schemaVersion), ("state", some stateFinished),
    ("epoch", epoch)].filterMap fun (k, v) => v.map (k, ·)

/-- `match_created_credential_definitions(cred_def_id, issuer_id,
    schema_issuer_id, schema_id, schema_name, schema_version, epoch)`: the
    definition named, if it is stored, or else the finished definition with the
    tags given that has the greatest `epoch`. -/
def matchCreatedCredentialDefinitions (s : Store)
    (credDefId issuerId schemaIssuerId schemaId schemaName schemaVersion epoch : Option String) :
    Except PyError (Option String) :=
  if truthy credDefId then
    .ok ((s.fetch .credDef (pyStr credDefId)).map fun _ => pyStr credDefId)
  else do
    let (name, _) ← pyMax (epochKey pyInt) (s.fetchAll .credDef
      (matchTagFilter issuerId schemaIssuerId schemaId schemaName schemaVersion epoch))
    pure (some name)

end Match

/-- The `epoch` an entry was stored at, read back. -/
def epochOf (e : Entry) : Int :=
  readDecimal ((e.tags.lookup "epoch").getD "")

/-- Both calls list the same definitions: the finished ones with the tags given. -/
theorem mem_getCreatedCredentialDefinitions {s : Store} {n : String}
    {issuerId schemaIssuerId schemaId schemaName schemaVersion epoch : Option String} :
    n ∈ getCreatedCredentialDefinitions s issuerId schemaIssuerId schemaId schemaName
        schemaVersion epoch ↔
      ∃ e, (n, e) ∈ s.fetchAll .credDef
        (matchTagFilter issuerId schemaIssuerId schemaId schemaName schemaVersion epoch) := by
  simp only [getCreatedCredentialDefinitions, matchTagFilter, List.mem_map, Store.mem_fetchAll,
    Prod.exists, exists_and_right, exists_eq_right]
  -- the two filters list the same tags, `epoch` and `state` swapped
  have hp : List.Perm [("issuer_id", issuerId), ("schema_issuer_id", schemaIssuerId),
      ("schema_id", schemaId), ("schema_name", schemaName), ("schema_version", schemaVersion),
      ("epoch", epoch), ("state", some stateFinished)]
      [("issuer_id", issuerId), ("schema_issuer_id", schemaIssuerId), ("schema_id", schemaId),
      ("schema_name", schemaName), ("schema_version", schemaVersion),
      ("state", some stateFinished), ("epoch", epoch)] :=
    .cons _ (.cons _ (.cons _ (.cons _ (.cons _ (.swap _ _ _)))))
  exact exists_congr fun e => and_congr_right fun _ => forall_congr' fun kv =>
    imp_congr_left (hp.filterMap _).mem_iff

section Newest

variable {pyInt : String → Except PyError Int} {s : Store}

/-- The key of `max` is the stored `epoch`, when it was printed from an
    integer that `int` reads back. -/
theorem epochKey_eq (hint : ∀ t : Int, pyInt (toString t) = .ok t) {r : String × Entry} {t : Int}
    (ht : r.2.tags.lookup "epoch" = some (toString t)) : epochKey pyInt r = .ok (epochOf r.2) := by
  simp [epochKey, epochOf, ht, hint, readDecimal_toString]

/-- With no `cred_def_id`, and the `epoch` of every definition printed from an
    integer that `int` reads back, the call returns the first of the finished
    definitions with the tags given whose `epoch` is greatest, or, when there
    is none, raises `ValueError` rather than return `None`. -/
theorem matchCreatedCredentialDefinitions_newest (hint : ∀ t : Int, pyInt (toString t) = .ok t)
    (hepoch : ∀ n e, s.fetch .credDef n = some e →
      ∃ t : Int, e.tags.lookup "epoch" = some (toString t))
    {credDefId : Option String} (hc : truthy credDefId = false)
    (issuerId schemaIssuerId schemaId schemaName schemaVersion epoch : Option String) :
    let r := matchCreatedCredentialDefinitions pyInt s credDefId issuerId schemaIssuerId schemaId
      schemaName schemaVersion epoch
    let matching := s.fetchAll .credDef
      (matchTagFilter issuerId schemaIssuerId schemaId schemaName schemaVersion epoch)
    (matching = [] ∧ r = .error (.value "max() arg is an empty sequence")) ∨
      ∃ pre n e post, matching = pre ++ (n, e) :: post ∧ r = .ok (some n) ∧
        (∀ x ∈ pre, epochOf x.2 < epochOf e) ∧ ∀ x ∈ post, epochOf x.2 ≤ epochOf e := by
  intro r matching
  have hr : r = (do let (name, _) ← pyMax (epochKey pyInt) matching; pure (some name)) := by
    simp [r, matchCreatedCredentialDefinitions, hc]
  rcases hm : matching with _ | ⟨x, xs⟩
  · exact .inl ⟨rfl, by rw [hr, hm]; rfl⟩
  have hk : ∀ y ∈ matching, epochKey pyInt y = .ok (epochOf y.2) := fun y hy => by
    obtain ⟨t, ht⟩ := hepoch y.1 y.2 (Store.mem_fetchAll.1 hy).1
    exact epochKey_eq hint ht
  obtain ⟨pre, ⟨n, e⟩, post, hl, hmax, hpre, hpost⟩ :=
    pyMax_eq_ok (List.cons_ne_nil x xs) (hm ▸ hk)
  exact .inr ⟨pre, n, e, post, hl, by rw [hr, hm, hmax]; rfl, hpre, hpost⟩

end Newest

/-! ## A pending registration, finished -/

/-- Finishing a pending definition sets the one tag that tells it from a
    finished one. -/
theorem credDefTags_finished (schemaId issuerId : String) (schema : AnonCredsSchema)
    (state : String) (epoch : Int) :
    (credDefTags schemaId issuerId schema state epoch).insert "state" stateFinished =
      credDefTags schemaId issuerId schema stateFinished epoch := by
  simp only [credDefTags, Finmap.toFinmap_cons, Finmap.toFinmap_nil]
  rw [Finmap.insert_insert_of_ne _ (by decide : "schema_id" ≠ "state"),
    Finmap.insert_insert_of_ne _ (by decide : "schema_issuer_id" ≠ "state"),
    Finmap.insert_insert_of_ne _ (by decide : "issuer_id" ≠ "state"),
    Finmap.insert_insert_of_ne _ (by decide : "schema_name" ≠ "state"),
    Finmap.insert_insert_of_ne _ (by decide : "schema_version" ≠ "state"), Finmap.insert_insert]

/-- The three categories of a credential definition. -/
def credDefCategories : List Category := [.credDef, .credDefPrivate, .credDefKeyProof]

/-- A call whose registrar answers with an id, or else a job id, that no entry
    of a definition holds stores the definition under it. -/
theorem createAndRegisterCredentialDefinition_of_free
    (credentialDefinitionCreate :
      String → AnonCredsSchema → String → String → String → Bool → Option (String × String × String))
    {s : Store} {issuerId schemaId : String} {tag signatureType : Option String}
    {supportRevocation : Option Bool} {schema : AnonCredsSchema} {now : Int}
    {created : String × String × String}
    (hc : credentialDefinitionCreate schemaId schema issuerId
      (pyStr (pyOr tag (some defaultCredDefTag)))
      (pyStr (pyOr signatureType (some defaultSignatureType))) (supportRevocation.getD false) =
        some created)
    {result : CredDefResult} {ident : String}
    (hid : pyOr result.credentialDefinitionState.credentialDefinitionId result.jobId = some ident)
    (hne : ident ≠ "") (hf : ∀ c ∈ credDefCategories, s.fetch c ident = none) :
    createAndRegisterCredentialDefinition credentialDefinitionCreate s issuerId schemaId tag
        signatureType supportRevocation (.ok schema) (.ok result) now =
      (.ok result, insertedCredDef s ident created.1 created.2.1 created.2.2
        (credDefTags schemaId issuerId schema result.credentialDefinitionState.state now)) := by
  simp only [credDefCategories, List.mem_cons, List.mem_singleton, forall_eq_or_imp, forall_eq,
    List.not_mem_nil, or_false] at hf
  simp only [createAndRegisterCredentialDefinition, hc, wrapAnoncreds_ok, hid]
  simp [truthy, hne, pyStr, storeCredDef_eq_ok.2 ⟨hf.1, hf.2.1, hf.2.2, rfl⟩, transact, Except.map]

/-- A definition registered as pending, under its job id, and then finished
    under its definition id, leaves the store as one registered as finished at
    once: the same entries, with the same tags and the same `epoch`, and the
    same records. -/
theorem createAndRegisterCredentialDefinition_wait_finish
    (credentialDefinitionCreate :
      String → AnonCredsSchema → String → String → String → Bool → Option (String × String × String))
    {s : Store} {issuerId schemaId : String} {tag signatureType : Option String}
    {supportRevocation : Option Bool} {schema : AnonCredsSchema} {now : Int}
    {created : String × String × String}
    (hc : credentialDefinitionCreate schemaId schema issuerId
      (pyStr (pyOr tag (some defaultCredDefTag)))
      (pyStr (pyOr signatureType (some defaultSignatureType))) (supportRevocation.getD false) =
        some created)
    {jobId credDefId : String} (hne : jobId ≠ credDefId) (hj : jobId ≠ "") (hi : credDefId ≠ "")
    (hfj : ∀ c ∈ credDefCategories, s.fetch c jobId = none)
    (hfi : ∀ c ∈ credDefCategories, s.fetch c credDefId = none)
    (state : String) (jobId' : Option String) :
    let create := createAndRegisterCredentialDefinition credentialDefinitionCreate s issuerId
      schemaId tag signatureType supportRevocation (.ok schema)
    let pending : CredDefResult := ⟨some jobId, ⟨state, none⟩⟩
    let finished : CredDefResult := ⟨jobId', ⟨stateFinished, some credDefId⟩⟩
    ∃ s₁ s₂ s₃, create (.ok pending) now = (.ok pending, s₁) ∧
      finishCredDef s₁ jobId credDefId = (.ok (), s₂) ∧
      create (.ok finished) now = (.ok finished, s₃) ∧
      s₂.records = s₃.records ∧ ∀ c n, s₂.fetch c n =
        if c ∈ [.credDefPrivate, .credDefKeyProof] ∧ n = credDefId then
          (s₃.fetch c n).map Entry.finished
        else s₃.fetch c n := by
  intro create pending finished
  obtain ⟨credDef, credDefPrivate, keyProof⟩ := created
  have hp : create (.ok pending) now = (.ok pending, insertedCredDef s jobId credDef credDefPrivate
      keyProof (credDefTags schemaId issuerId schema state now)) :=
    createAndRegisterCredentialDefinition_of_free _ hc rfl hj hfj
  have hf : create (.ok finished) now = (.ok finished, insertedCredDef s credDefId credDef
      credDefPrivate keyProof (credDefTags schemaId issuerId schema stateFinished now)) :=
    createAndRegisterCredentialDefinition_of_free _ hc (by simp [finished, pyOr, truthy, hi]) hi hfi
  simp only [credDefCategories, List.mem_cons, List.mem_singleton, forall_eq_or_imp, forall_eq,
    List.not_mem_nil, or_false] at hfj hfi
  set s₁ := insertedCredDef s jobId credDef credDefPrivate keyProof
    (credDefTags schemaId issuerId schema state now)
  have hcan : CanMove s₁ credDefCategories jobId credDefId := by
    simp [CanMove, credDefCategories, s₁, insertedCredDef, Store.fetch_put, hfi, Ne.symm hne]
  have hcom := Commits.transact (finishAll_commits s₁ credDefCategories (by decide) hne)
  rw [credDefCategories, ← finishCredDef_eq] at hcom
  rcases h₂ : finishCredDef s₁ jobId credDefId with ⟨_ | ⟨⟩, s₂⟩ <;> rw [h₂] at hcom
  · exact absurd hcan hcom.1
  obtain ⟨-, hrec, hfetch⟩ := hcom
  refine ⟨s₁, s₂, _, hp, h₂, hf, by simp [hrec, s₁, insertedCredDef], fun c n => ?_⟩
  rw [hfetch]
  by_cases h1 : n = credDefId
  · subst h1
    cases c <;> simp [credDefCategories, s₁, insertedCredDef, Store.fetch_put, Entry.finished, hne,
      credDefTags_finished]
  by_cases h2 : n = jobId
  · subst h2
    cases c <;> simp [credDefCategories, s₁, insertedCredDef, Store.fetch_put, h1, hfj]
  cases c <;> simp [credDefCategories, s₁, insertedCredDef, Store.fetch_put, h1, h2]

theorem createAndRegisterCredentialDefinition_wait_finish_empty :
    "job" ≠ "CD" ∧
    let create := createAndRegisterCredentialDefinition
      (fun _ _ _ _ _ _ => some ("cred_def", "private", "key_proof")) Store.empty "did:sov:issuer"
      "S1" none none none (.ok ⟨"did:sov:issuer", "degree", "1.0"⟩)
    let pending : CredDefResult := ⟨some "job", ⟨"wait", none⟩⟩
    let finished : CredDefResult := ⟨none, ⟨stateFinished, some "CD"⟩⟩
    ∃ s₁ s₂ s₃, create (.ok pending) 100 = (.ok pending, s₁) ∧
      finishCredDef s₁ "job" "CD" = (.ok (), s₂) ∧
      create (.ok finished) 100 = (.ok finished, s₃) ∧
      s₂.records = s₃.records ∧ ∀ c n, s₂.fetch c n =
        if c ∈ [.credDefPrivate, .credDefKeyProof] ∧ n = "CD" then
          (s₃.fetch c n).map Entry.finished
        else s₃.fetch c n :=
  ⟨by decide, createAndRegisterCredentialDefinition_wait_finish _ rfl (by decide) (by decide)
    (by decide) (by intros; rfl) (by intros; rfl) "wait" none⟩

end Acapy
