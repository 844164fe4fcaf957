import Acapy.Store
import Acapy.Anoncreds.Registry

/-!
# Finishing a registration

The registrar answers a registration `finished`, with the id of the object, or
`wait`, with a job id. The issuer stores the object under the id, or under the
job id; when a pending registration finishes, it moves the entries of the
object from the job id to the id, in one transaction (`_finish_registration`):
it reads the entry under the job id, inserts it under the registered id with
its state tag set to `finished`, and removes it under the job id.
`finish_schema` moves the `CATEGORY_SCHEMA` entry; `finish_cred_def` the
entries of the three categories of a credential definition.

* `finishAll_commits`: moves of distinct categories commit exactly when every
  job entry is there and no registered id is taken, and then change nothing
  but the moved entries (`CanMove`, `Moved`); otherwise the transaction raises
  and is rolled back (`Finishes`);
* `finish_moves_entries`: so for `finish_schema` and `finish_cred_def`; and a
  schema stored under a job id and then finished leaves the store a schema
  registered at once leaves.

`_update_entry_state(category, name, state)` reads the entry in `category`
but writes it back with `replace(CATEGORY_SCHEMA, name, tags=...)`, with no
value, in a transaction it never commits, so the write is rolled back when
the transaction closes (`updateEntryState_store`). It raises unless a schema
entry of the same name exists (`updateEntryState_eq`), and it changes no
entry (`updateRevocationRegistryDefinitionState_fetch`).
-/

namespace Acapy

/-- `STATE_FINISHED`. -/
def stateFinished : String := "finished"

/-- A transaction of the issuer, from the outcome of its body: the store it
    commits, or the exception raised in it, with the store rolled back. -/
def transact (s : Store) : Except PyError Store → Except PyError Unit × Store
  | .ok s' => (.ok (), s')
  | .error e => (.error e, s)

/-! ## Moving the entries of a finished registration -/

/-- The entry under the job id as `_finish_registration` inserts it under the
    registered id: its value, and its tags with `state` set to finished. -/
def Entry.finished (e : Entry) : Entry :=
  { e with tags := e.tags.insert "state" stateFinished }

/-- `_finish_registration(txn, category, job_id, registered_id)`. -/
def finishRegistration (s : Store) (c : Category) (jobId registeredId : String) :
    Except PyError Store := do
  let some entry := s.fetch c jobId
    | throw (.issuer s!"{c.name} with job id {jobId} could not be found")
  let s ← s.insert c registeredId entry.finished
  s.remove c jobId

/-- `finish_schema(job_id, schema_id)`. -/
def finishSchema (s : Store) (jobId schemaId : String) : Except PyError Unit × Store :=
  transact s (finishRegistration s .schema jobId schemaId)

/-- `finish_cred_def(job_id, cred_def_id)`: the moves of the credential
    definition, its private part and its key proof, in one transaction. -/
def finishCredDef (s : Store) (jobId credDefId : String) : Except PyError Unit × Store :=
  transact s do
    let s ← finishRegistration s .credDef jobId credDefId
    let s ← finishRegistration s .credDefPrivate jobId credDefId
    finishRegistration s .credDefKeyProof jobId credDefId

/-- The moves of the categories `cats`, one after the other. -/
def finishAll (s : Store) (cats : List Category) (jobId registeredId : String) :
    Except PyError Store :=
  cats.foldlM (fun s c => finishRegistration s c jobId registeredId) s

theorem finishSchema_eq (s : Store) (jobId schemaId : String) :
    finishSchema s jobId schemaId = transact s (finishAll s [.schema] jobId schemaId) := by
  simp [finishSchema, finishAll]

theorem finishCredDef_eq (s : Store) (jobId credDefId : String) :
    finishCredDef s jobId credDefId =
      transact s (finishAll s [.credDef, .credDefPrivate, .credDefKeyProof] jobId credDefId) := by
  simp [finishCredDef, finishAll]

/-- The job entries of the categories `cats` can be moved: each is there, and
    no entry of its category holds the registered id. -/
def CanMove (s : Store) (cats : List Category) (jobId registeredId : String) : Prop :=
  ∀ c ∈ cats, (s.fetch c jobId).isSome ∧ s.fetch c registeredId = none

instance (s : Store) (cats : List Category) (jobId registeredId : String) :
    Decidable (CanMove s cats jobId registeredId) :=
  inferInstanceAs (Decidable (∀ c ∈ cats, _))

/-- `s'` is `s` with the job entry of each category of `cats` moved to the
    registered id and finished, and nothing else changed. -/
def Moved (s : Store) (cats : List Category) (jobId registeredId : String) (s' : Store) : Prop :=
  s'.records = s.records ∧ ∀ c n, s'.fetch c n =
    if c ∈ cats ∧ n = registeredId then (s.fetch c jobId).map Entry.finished
    else if c ∈ cats ∧ n = jobId then none else s.fetch c n

/-- The body of a finish on the categories `cats` commits the moves when it
    can make them all, and raises otherwise. -/
def Commits (s : Store) (cats : List Category) (jobId registeredId : String) :
    Except PyError Store → Prop
  | .ok s' => CanMove s cats jobId registeredId ∧ Moved s cats jobId registeredId s'
  | .error _ => ¬ CanMove s cats jobId registeredId

/-- A finish on the categories `cats` commits the moves when it can make them
    all, and otherwise raises, with the store rolled back. -/
def Finishes (s : Store) (cats : List Category) (jobId registeredId : String) :
    Except PyError Unit × Store → Prop
  | (.ok (), s') => CanMove s cats jobId registeredId ∧ Moved s cats jobId registeredId s'
  | (.error _, s') => ¬ CanMove s cats jobId registeredId ∧ s' = s

theorem Commits.transact {s : Store} {cats : List Category} {jobId registeredId : String}
    {r : Except PyError Store} (h : Commits s cats jobId registeredId r) :
    Finishes s cats jobId registeredId (transact s r) := by
  cases r with
  | ok s' => exact h
  | error e => exact ⟨h, rfl⟩

section Move

variable {s : Store} {c : Category} {jobId registeredId : String}

/-- One move, when the job id and the registered id differ. -/
theorem finishRegistration_eq (hne : jobId ≠ registeredId) :
    finishRegistration s c jobId registeredId =
      match s.fetch c jobId with
      | none => .error (.issuer s!"{c.name} with job id {jobId} could not be found")
      | some e =>
        if (s.fetch c registeredId).isSome then .error (.askar .duplicate)
        else .ok ((s.put c registeredId e.finished).erase c jobId) := by
  rcases he : s.fetch c jobId with _ | e
  · simp [finishRegistration, he]
    rfl
  · rcases hr : s.fetch c registeredId with _ | e'
    · have hj : ((s.put c registeredId e.finished).fetch c jobId).isSome := by
        simp [Store.fetch_put, hne, he]
      simp [finishRegistration, he, Store.insert, hr, Store.remove, hj, bind, Except.bind]
    · simp [finishRegistration, he, Store.insert, hr, bind, Except.bind, throw, throwThe,
        MonadExceptOf.throw]

/-- The store after one move. -/
theorem fetch_moved (hne : jobId ≠ registeredId) (e : Entry) (c' : Category) (n : String) :
    ((s.put c registeredId e.finished).erase c jobId).fetch c' n =
      if c' = c ∧ n = registeredId then some e.finished
      else if c' = c ∧ n = jobId then none else s.fetch c' n := by
  rw [Store.fetch_erase, Store.fetch_put]
  by_cases hc : c' = c
  · by_cases hj : n = jobId
    · simp [hc, hj, hne]
    · simp [hc, hj]
  · simp [hc]

/-- One move leaves the other categories as they were. -/
theorem fetch_moved_of_ne (hne : jobId ≠ registeredId) (e : Entry) {c' : Category}
    (hc : c' ≠ c) (n : String) :
    ((s.put c registeredId e.finished).erase c jobId).fetch c' n = s.fetch c' n := by
  simp [fetch_moved hne, hc]

variable {cats : List Category} {e : Entry}

/-- After the move of `c`, the other categories can be moved exactly when all
    could be moved before. -/
theorem canMove_moved (hne : jobId ≠ registeredId) (hc : c ∉ cats)
    (he : s.fetch c jobId = some e) (hr : s.fetch c registeredId = none) :
    CanMove ((s.put c registeredId e.finished).erase c jobId) cats jobId registeredId ↔
      CanMove s (c :: cats) jobId registeredId := by
  simp only [CanMove, List.forall_mem_cons, he, hr, Option.isSome_some, and_true, true_and]
  exact forall₂_congr fun c' hc' => by
    rw [fetch_moved_of_ne hne e (ne_of_mem_of_not_mem hc' hc),
      fetch_moved_of_ne hne e (ne_of_mem_of_not_mem hc' hc)]

/-- The move of `c`, then the moves of the other categories, are the moves of
    all. -/
theorem moved_cons (hne : jobId ≠ registeredId) (hc : c ∉ cats)
    (he : s.fetch c jobId = some e) {s' : Store}
    (h : Moved ((s.put c registeredId e.finished).erase c jobId) cats jobId registeredId s') :
    Moved s (c :: cats) jobId registeredId s' := by
  refine ⟨by simpa using h.1, fun c' n => ?_⟩
  rw [h.2, fetch_moved hne, fetch_moved hne]
  by_cases hc' : c' = c
  · subst hc'
    simp [hc, he]
  · simp [hc']

end Move

theorem finishAll_cons (s : Store) (c : Category) (cats : List Category)
    (jobId registeredId : String) :
    finishAll s (c :: cats) jobId registeredId =
      finishRegistration s c jobId registeredId >>= fun s => finishAll s cats jobId registeredId :=
  rfl

/-- Moves of distinct categories commit exactly when they can all be made. -/
theorem finishAll_commits (s : Store) (cats : List Category) {jobId registeredId : String}
    (hn : cats.Nodup) (hne : jobId ≠ registeredId) :
    Commits s cats jobId registeredId (finishAll s cats jobId registeredId) := by
  induction cats generalizing s with
  | nil =>
    exact (⟨nofun, rfl, fun _ _ => by simp⟩ : CanMove s [] _ _ ∧ Moved s [] _ _ s)
  | cons c cats ih =>
    obtain ⟨hc, hn⟩ := List.nodup_cons.1 hn
    have hcan : ¬ ((s.fetch c jobId).isSome ∧ s.fetch c registeredId = none) →
        ¬ CanMove s (c :: cats) jobId registeredId := fun h h' => h (h' c (List.mem_cons_self _ _))
    rw [finishAll_cons, finishRegistration_eq hne]
    split
    · exact hcan (by simp_all)
    rename_i e he
    split
    · rename_i hr
      exact hcan fun h => by simp [h.2] at hr
    rename_i hr
    have hr : s.fetch c registeredId = none := Option.not_isSome_iff_eq_none.1 hr
    show Commits s (c :: cats) jobId registeredId
      (finishAll ((s.put c registeredId e.finished).erase c jobId) cats jobId registeredId)
    have := ih ((s.put c registeredId e.finished).erase c jobId) hn
    revert this
    cases finishAll ((s.put c registeredId e.finished).erase c jobId) cats jobId registeredId with
    | error _ => exact (canMove_moved hne hc he hr).not.1
    | ok s' => exact fun ⟨hm, hmv⟩ => ⟨(canMove_moved hne hc he hr).1 hm, moved_cons hne hc he hmv⟩

/-- Finishing a job under its own id raises, and so changes nothing: the
    insert finds the name taken, or the job entry is missing. -/
theorem finishAll_self (s : Store) (c : Category) (cats : List Category) (jobId : String) :
    ∃ e, finishAll s (c :: cats) jobId jobId = .error e := by
  rw [finishAll_cons]
  rcases he : s.fetch c jobId with _ | e
  · exact ⟨_, by simp [finishRegistration, he, throw, throwThe, MonadExceptOf.throw, bind,
      Except.bind]; rfl⟩
  · exact ⟨_, by simp [finishRegistration, he, Store.insert, bind, Except.bind]; rfl⟩

/-- A finish on distinct categories either moves their entries, under two
    distinct ids, or changes nothing. -/
theorem transact_finishAll (s : Store) {cats : List Category} (hn : cats.Nodup) (hc : cats ≠ [])
    (jobId registeredId : String) :
    (transact s (finishAll s cats jobId registeredId)).2 = s ∨ jobId ≠ registeredId ∧
      Moved s cats jobId registeredId (transact s (finishAll s cats jobId registeredId)).2 := by
  by_cases hne : jobId = registeredId
  · subst hne
    obtain ⟨c, cats, rfl⟩ := List.exists_cons_of_ne_nil hc
    obtain ⟨e, he⟩ := finishAll_self s c cats jobId
    exact .inl (by rw [he]; rfl)
  have hf := Commits.transact (finishAll_commits s cats hn hne)
  revert hf
  rcases transact s (finishAll s cats jobId registeredId) with ⟨_ | ⟨⟩, s'⟩
  · exact fun hf => .inl hf.2
  · exact fun hf => .inr ⟨hne, hf.2⟩

/-! ## Storing a schema -/

/-- `SchemaState`: the state of a registration, the schema's id once it has
    one, and the schema. -/
structure SchemaState where
  state : String
  schemaId : Option String
  schema : AnonCredsSchema
  deriving DecidableEq, Repr

/-- `SchemaResult`: the registrar's answer. -/
structure SchemaResult where
  jobId : Option String
  schemaState : SchemaState
  deriving DecidableEq, Repr

/-- The tags `_store_schema` stores a schema with. -/
def SchemaState.tags (st : SchemaState) : Finmap (fun _ : String => String) :=
  List.toFinmap [⟨"name", st.schema.name⟩, ⟨"version", st.schema.version⟩,
    ⟨"issuer_id", st.schema.issuerId⟩, ⟨"state", st.state⟩]

section StoreSchema

-- `schema.to_json()`, of the anoncreds library.
variable (toJson : AnonCredsSchema → String)

/-- `_store_schema(result)`: under the schema id, or else the job id. -/
def storeSchema (s : Store) (result : SchemaResult) : Except PyError Unit × Store :=
  let ident := pyOr result.schemaState.schemaId result.jobId
  if !truthy ident then (.error (.value "Schema id or job id must be set"), s) else
  transact s <| wrapAskar "Error storing schema" <| s.insert .schema (pyStr ident)
    ⟨.raw (toJson result.schemaState.schema), result.schemaState.tags⟩

/-- The registrar answered `wait`, with the job id `jobId`. -/
def SchemaResult.wait (schema : AnonCredsSchema) (jobId : String) : SchemaResult :=
  ⟨some jobId, ⟨"wait", none, schema⟩⟩

/-- The registrar answered `finished`, with the schema id `schemaId`. -/
def SchemaResult.finished (schema : AnonCredsSchema) (jobId : Option String)
    (schemaId : String) : SchemaResult :=
  ⟨jobId, ⟨stateFinished, some schemaId, schema⟩⟩

/-- A schema stored under a free name `ident`. -/
theorem storeSchema_of_free {s : Store} (result : SchemaResult) {ident : String}
    (hi : pyOr result.schemaState.schemaId result.jobId = some ident) (hne : ident ≠ "")
    (hf : s.fetch .schema ident = none) :
    storeSchema toJson s result = (.ok (), s.put .schema ident
      ⟨.raw (toJson result.schemaState.schema), result.schemaState.tags⟩) := by
  simp [storeSchema, hi, hne, truthy, pyStr, Store.insert, hf, transact]

/-- Finishing a pending schema sets the one tag that tells it from a finished one. -/
theorem tags_wait_finished (schema : AnonCredsSchema) (jobId : Option String)
    (schemaId : String) :
    (SchemaState.tags ⟨"wait", none, schema⟩).insert "state" stateFinished =
      (SchemaResult.finished schema jobId schemaId).schemaState.tags := by
  simp only [SchemaState.tags, SchemaResult.finished, Finmap.toFinmap_cons, Finmap.toFinmap_nil]
  rw [Finmap.insert_insert_of_ne _ (by decide : "name" ≠ "state"),
    Finmap.insert_insert_of_ne _ (by decide : "version" ≠ "state"),
    Finmap.insert_insert_of_ne _ (by decide : "issuer_id" ≠ "state"), Finmap.insert_insert]

/-- A schema stored under the job id of a `wait` and then finished leaves the
    store as one stored at once under its schema id. -/
theorem storeSchema_wait_finish {s : Store} {jobId schemaId : String} (hne : jobId ≠ schemaId)
    (hj : jobId ≠ "") (hi : schemaId ≠ "") (hfj : s.fetch .schema jobId = none)
    (hfi : s.fetch .schema schemaId = none) (schema : AnonCredsSchema)
    (jobId' : Option String) :
    ∃ s₁ s₂ s₃, storeSchema toJson s (.wait schema jobId) = (.ok (), s₁) ∧
      finishSchema s₁ jobId schemaId = (.ok (), s₂) ∧
      storeSchema toJson s (.finished schema jobId' schemaId) = (.ok (), s₃) ∧
      s₂.records = s₃.records ∧ ∀ c n, s₂.fetch c n = s₃.fetch c n := by
  have hw := storeSchema_of_free toJson (.wait schema jobId)
    (by simp [SchemaResult.wait, pyOr, truthy]) hj hfj
  have hf := storeSchema_of_free toJson (.finished schema jobId' schemaId)
    (by simp [SchemaResult.finished, pyOr, truthy, hi]) hi hfi
  set e : Entry := ⟨.raw (toJson schema), (SchemaResult.wait schema jobId).schemaState.tags⟩
  refine ⟨_, ((s.put .schema jobId e).put .schema schemaId e.finished).erase .schema jobId, _,
    hw, ?_, hf, rfl, fun c n => ?_⟩
  · rw [finishSchema, finishRegistration_eq hne]
    simp [Store.fetch_put, hne.symm, hfi, transact]
    rfl
  · rw [fetch_moved hne, Store.fetch_put, Store.fetch_put]
    simp only [e, Entry.finished, SchemaResult.wait, tags_wait_finished schema jobId' schemaId]
    by_cases hc : c = .schema
    · subst hc
      by_cases hn : n = schemaId
      · simp [hn, SchemaResult.finished]
      · simp [hn, hfj]
        split_ifs with h <;> simp [h, hfj]
    · simp [hc]

end StoreSchema

/-- `finish_schema` and `finish_cred_def` move their entries in one
    transaction: they commit every move when every job entry is there and no
    registered id is taken, and otherwise raise with the store rolled back. A
    schema stored under a job id and then finished leaves what a schema
    registered at once leaves. -/
theorem finish_moves_entries (s : Store) (jobId id : String) (hne : jobId ≠ id) :
    Finishes s [.schema] jobId id (finishSchema s jobId id) ∧
    Finishes s [.credDef, .credDefPrivate, .credDefKeyProof] jobId id
      (finishCredDef s jobId id) ∧
    ∀ (toJson : AnonCredsSchema → String) (schema : AnonCredsSchema) (jobId' : Option String),
      jobId ≠ "" → id ≠ "" → s.fetch .schema jobId = none → s.fetch .schema id = none →
      ∃ s₁ s₂ s₃, storeSchema toJson s (.wait schema jobId) = (.ok (), s₁) ∧
        finishSchema s₁ jobId id = (.ok (), s₂) ∧
        storeSchema toJson s (.finished schema jobId' id) = (.ok (), s₃) ∧
        s₂.records = s₃.records ∧ ∀ c n, s₂.fetch c n = s₃.fetch c n := by
  refine ⟨?_, ?_, fun toJson schema jobId' hj hi hfj hfi =>
    storeSchema_wait_finish toJson hne hj hi hfj hfi schema jobId'⟩
  · rw [finishSchema_eq]
    exact (finishAll_commits s _ (by decide) hne).transact
  · rw [finishCredDef_eq]
    exact (finishAll_commits s _ (by decide) hne).transact

/-- A credential definition pending under the job id `job`. -/
def pendingCredDef : Store :=
  ((Store.empty.put .credDef "job" (.plain (.raw "cred_def"))).put .credDefPrivate "job"
    (.plain (.raw "private"))).put .credDefKeyProof "job" (.plain (.raw "key_proof"))

theorem finish_moves_entries_pending :
    "job" ≠ "id" ∧ CanMove pendingCredDef [.credDef, .credDefPrivate, .credDefKeyProof] "job" "id" ∧
      Finishes pendingCredDef [.credDef, .credDefPrivate, .credDefKeyProof] "job" "id"
        (finishCredDef pendingCredDef "job" "id") :=
  ⟨by decide, by decide, (finish_moves_entries pendingCredDef "job" "id" (by decide)).2.1⟩

/-! ## The state of an entry -/

/-- The value Askar stores for a `replace` given no value: empty bytes. -/
def noValue : Value := .raw ""

/-- `_update_entry_state(category, name, state)`. The entry is read in
    `category`, but written back with `replace(CATEGORY_SCHEMA, name,
    tags=entry.tags)`, with no value; the transaction ends without
    `commit()`, so Askar rolls the write back and the store stays as it was. -/
def updateEntryState (s : Store) (c : Category) (n state : String) :
    Except PyError Unit × Store :=
  let replaced := wrapAskar s!"Error marking {c.name} as {state}" do
    let some entry := s.fetch c n
      | throw (.issuer s!"{c.name} with id {n} could not be found")
    s.replace .schema n ⟨noValue, entry.tags.insert "state" state⟩
  (replaced.map fun _ => (), s)

/-- `update_revocation_registry_definition_state(rev_reg_def_id, state)`. -/
def updateRevocationRegistryDefinitionState (s : Store) (revRegDefId state : String) :
    Except PyError Unit × Store :=
  updateEntryState s .revRegDef revRegDefId state

/-- `finish_revocation_registry_definition(rev_reg_def_id)`, with
    `RevRegDefState.STATE_FINISHED`, which is `finished`. -/
def finishRevocationRegistryDefinition (s : Store) (revRegDefId : String) :
    Except PyError Unit × Store :=
  updateRevocationRegistryDefinitionState s revRegDefId stateFinished

/-- `get_created_revocation_registry_definitions(cred_def_id, state)`: the
    names of the `CATEGORY_REV_REG_DEF` entries with the tags given. -/
def getCreatedRevocationRegistryDefinitions (s : Store) (credDefId state : Option String) :
    List String :=
  (s.fetchAll .revRegDef ([("cred_def_id", credDefId), ("state", state)].filterMap
    fun (k, v) => v.map (k, ·))).map Prod.fst

/-- `_update_entry_state` leaves the store as it was. -/
@[simp] theorem updateEntryState_store (s : Store) (c : Category) (n state : String) :
    (updateEntryState s c n state).2 = s := rfl

/-- What `_update_entry_state` returns: it raises unless the entry and a
    schema entry of the same name exist. -/
theorem updateEntryState_eq (s : Store) (c : Category) (n state : String) :
    (updateEntryState s c n state).1 =
      match s.fetch c n with
      | none => .error (.issuer s!"{c.name} with id {n} could not be found")
      | some _ =>
        if (s.fetch .schema n).isSome then .ok ()
        else .error (.issuer s!"Error marking {c.name} as {state}") := by
  rcases he : s.fetch c n with _ | e
  · simp [updateEntryState, he, wrapAskar, Except.map]
  · by_cases hs : (s.fetch .schema n).isSome <;>
      simp [updateEntryState, he, hs, Store.replace, wrapAskar, Except.map]

/-- `update_revocation_registry_definition_state` changes no
    `CATEGORY_REV_REG_DEF` entry. It returns normally exactly when the
    definition and a schema entry of the same name exist. -/
theorem updateRevocationRegistryDefinitionState_fetch (s : Store) (r state : String) :
    (∀ n, (updateRevocationRegistryDefinitionState s r state).2.fetch .revRegDef n =
      s.fetch .revRegDef n) ∧
    ((updateRevocationRegistryDefinitionState s r state).1 = .ok () ↔
      (s.fetch .revRegDef r).isSome ∧ (s.fetch .schema r).isSome) := by
  refine ⟨fun _ => rfl, ?_⟩
  rw [updateRevocationRegistryDefinitionState, updateEntryState_eq]
  rcases s.fetch .revRegDef r with _ | e
  · simp
  · by_cases hs : (s.fetch .schema r).isSome <;> simp [hs]

/-- A registry definition `r` as `create_and_register_revocation_registry_definition`
    stores it, beside a schema entry of the same name. -/
def sharedName : Store :=
  (Store.empty.put .revRegDef "r" ⟨.raw "rev_reg_def", Finmap.singleton "cred_def_id" "cd"⟩).put
    .schema "r" (.plain (.raw "schema"))

/-- Finishing the definition `r` of `sharedName` returns normally, but leaves
    the store as it was: the definition has no state tag, so no query by the
    state `finished` finds it. -/
theorem finishRevocationRegistryDefinition_schema :
    (finishRevocationRegistryDefinition sharedName "r").1 = .ok () ∧
    (finishRevocationRegistryDefinition sharedName "r").2 = sharedName ∧
    ((finishRevocationRegistryDefinition sharedName "r").2.fetch .revRegDef "r").map
      (fun e => e.tags.lookup "state") = some none ∧
    getCreatedRevocationRegistryDefinitions (finishRevocationRegistryDefinition sharedName "r").2
      none (some "finished") = [] :=
  ⟨rfl, rfl, rfl, rfl⟩

end Acapy
