import Acapy.Issuer.Registration

/-!
# Registering a schema

`create_and_register_schema(issuer_id, name, version, attr_names)` first looks
in the wallet for a schema of the same name, version and issuer, and raises
`AnonCredsSchemaAlreadyExists` when there is one. Otherwise it creates the
schema, has the registrar register it, and stores what the registrar answers
(`_store_schema`):

* an answer, `finished` with the schema id or `wait` with a job id, is stored
  under that id and returned;
* when the registrar raises `AnonCredsSchemaAlreadyExists`, the schema that
  exception carries is stored as finished, and the call raises all the same;
* any other exception of the registrar is raised, an `AnoncredsError` as
  `AnonCredsIssuerError`.

`get_created_schemas` lists the ids of the finished schemas with the tags
given.

A call stores at most one entry, under a name that was free, and only when
no schema of the requested name, version and issuer was stored
(`createAndRegisterSchema_store`). So the wallet never holds two schemas of
one name, version and issuer (`SchemasUnique`), as long as the registrar
answers for the schema it was given: `SchemasUnique.createAndRegisterSchema`
for this call, and `SchemasUnique.put` and `SchemasUnique.moved` for the
other writes of schema entries.
-/

namespace Acapy

/-! ## The call -/

/-- What `anoncreds_registry.register_schema` does: it answers, or raises
    `AnonCredsSchemaAlreadyExists` with the id and the schema already
    registered, or raises another exception. -/
inductive RegisterSchemaOutcome
  | answered (result : SchemaResult)
  | alreadyExists (schemaId : String) (schema : AnonCredsSchema)
  | raised (e : PyError)
  deriving DecidableEq, Repr

/-- The registration state `_store_schema` is given, when the registrar's
    outcome leads to one. -/
def RegisterSchemaOutcome.stored : RegisterSchemaOutcome → Option SchemaState
  | .answered result => some result.schemaState
  | .alreadyExists schemaId schema => some ⟨stateFinished, some schemaId, schema⟩
  | .raised _ => none

/-- The registrar answers for the schema it was given: the schema it returns
    has the requested issuer, name and version. -/
def RegisterSchemaOutcome.Echoes (o : RegisterSchemaOutcome) (issuerId name version : String) :
    Prop :=
  ∀ st, o.stored = some st → st.schema = ⟨issuerId, name, version⟩

/-- The message of the `AnonCredsSchemaAlreadyExists` that the check raises
    (an `AnonCredsRegistrationError`). -/
def schemaExistsMessage (name version issuerId : String) : String :=
  s!"Schema with {name}: {version} already exists for {issuerId}"

section CreateSchema

-- `schema.to_json()`, of the anoncreds library.
variable (toJson : AnonCredsSchema → String)

/-- `create_and_register_schema(issuer_id, name, version, attr_names)`, given
    whether `Schema.create` succeeds (it raises `AnoncredsError` otherwise,
    before the `try`) and what the registrar does: the registrar's answer, or
    the exception, with the store it leaves. -/
def createAndRegisterSchema (s : Store) (issuerId name version : String) (created : Bool)
    (registered : RegisterSchemaOutcome) : Except PyError SchemaResult × Store :=
  if !(s.fetchAll .schema [("name", name), ("version", version), ("issuer_id", issuerId)]).isEmpty
  then (.error (.registration (schemaExistsMessage name version issuerId)), s)
  else if !created then (.error .anoncreds, s)
  else
    match registered with
    | .answered result =>
      let (stored, s) := storeSchema toJson s result
      (stored.map fun _ => result, s)
    | .alreadyExists schemaId schema =>
      let (stored, s) := storeSchema toJson s ⟨none, ⟨stateFinished, some schemaId, schema⟩⟩
      (stored.bind fun _ =>
        .error (.issuer "Schema already exists but was not in wallet; stored in wallet"), s)
    | .raised e => (wrapAnoncreds "Error creating schema" (.error e), s)

/-- `_store_schema` stores at most one entry, under a name that was free. -/
theorem storeSchema_store (s : Store) (result : SchemaResult) :
    (storeSchema toJson s result).2 = s ∨ ∃ ident, s.fetch .schema ident = none ∧
      (storeSchema toJson s result).2 =
        s.put .schema ident ⟨.raw (toJson result.schemaState.schema), result.schemaState.tags⟩ := by
  unfold storeSchema
  dsimp only
  split_ifs
  · exact .inl rfl
  rcases h : s.insert .schema (pyStr (pyOr result.schemaState.schemaId result.jobId))
    ⟨.raw (toJson result.schemaState.schema), result.schemaState.tags⟩ with e | s'
  · cases e <;> exact .inl rfl
  · obtain ⟨hf, rfl⟩ := Store.insert_eq_ok.1 h
    exact .inr ⟨_, hf, rfl⟩

end CreateSchema

/-- `get_created_schemas(name, version, issuer_id)`: the ids of the finished
    schemas with the tags given. -/
def getCreatedSchemas (s : Store) (name version issuerId : Option String) : List String :=
  (s.fetchAll .schema ([("name", name), ("version", version), ("issuer_id", issuerId),
    ("state", some stateFinished)].filterMap fun (k, v) => v.map (k, ·))).map Prod.fst

/-! ## The key of a schema entry -/

/-- The name, version and issuer a schema entry is stored with, from its tags. -/
def schemaKey (tags : Finmap (fun _ : String => String)) : Option (String × String × String) := do
  let name ← tags.lookup "name"
  let version ← tags.lookup "version"
  let issuerId ← tags.lookup "issuer_id"
  pure (name, version, issuerId)

theorem schemaKey_eq_some {tags : Finmap (fun _ : String => String)} {name version issuerId : String} :
    schemaKey tags = some (name, version, issuerId) ↔ tags.lookup "name" = some name ∧
      tags.lookup "version" = some version ∧ tags.lookup "issuer_id" = some issuerId := by
  unfold schemaKey
  rcases tags.lookup "name" with _ | a <;> rcases tags.lookup "version" with _ | b <;>
    rcases tags.lookup "issuer_id" with _ | c <;> simp [and_assoc]

/-- Setting the state of an entry keeps its key. -/
@[simp] theorem schemaKey_insert_state (tags : Finmap (fun _ : String => String)) (v : String) :
    schemaKey (tags.insert "state" v) = schemaKey tags := by
  simp [schemaKey, Finmap.lookup_insert_of_ne]

/-- A schema is stored with its name, version and issuer. -/
@[simp] theorem schemaKey_tags (st : SchemaState) :
    schemaKey st.tags = some (st.schema.name, st.schema.version, st.schema.issuerId) := by
  simp [schemaKey, SchemaState.tags, Finmap.lookup_insert_of_ne]

/-- The check of `create_and_register_schema` finds a schema exactly when one
    has the key asked for. -/
theorem fetchAll_key_isEmpty {s : Store} {name version issuerId : String} :
    (s.fetchAll .schema [("name", name), ("version", version), ("issuer_id", issuerId)]).isEmpty ↔
      ∀ n e, s.fetch .schema n = some e → schemaKey e.tags ≠ some (name, version, issuerId) := by
  simp only [List.isEmpty_iff, List.eq_nil_iff_forall_not_mem, Prod.forall, Store.mem_fetchAll,
    List.forall_mem_cons, List.not_mem_nil, schemaKey_eq_some, ne_eq]
  simp

/-- A call stores at most one entry: under a name that was free, with the
    state the registrar's outcome gives, when no schema of the name, version
    and issuer asked for was stored. -/
theorem createAndRegisterSchema_store (toJson : AnonCredsSchema → String) (s : Store)
    (issuerId name version : String) (created : Bool) (registered : RegisterSchemaOutcome) :
    (createAndRegisterSchema toJson s issuerId name version created registered).2 = s ∨
    ∃ ident st, registered.stored = some st ∧ s.fetch .schema ident = none ∧
      (∀ n e, s.fetch .schema n = some e → schemaKey e.tags ≠ some (name, version, issuerId)) ∧
      (createAndRegisterSchema toJson s issuerId name version created registered).2 =
        s.put .schema ident ⟨.raw (toJson st.schema), st.tags⟩ := by
  unfold createAndRegisterSchema
  by_cases hc : (s.fetchAll .schema [("name", name), ("version", version), ("issuer_id", issuerId)]).isEmpty
  · have hk := fetchAll_key_isEmpty.1 hc
    simp only [hc, Bool.not_true, Bool.false_eq_true, if_false]
    split_ifs
    · exact .inl rfl
    cases registered with
    | answered result =>
      rcases storeSchema_store toJson s result with h | ⟨ident, hf, h⟩
      · exact .inl h
      · exact .inr ⟨ident, _, rfl, hf, hk, h⟩
    | alreadyExists schemaId schema =>
      rcases storeSchema_store toJson s ⟨none, ⟨stateFinished, some schemaId, schema⟩⟩ with
        h | ⟨ident, hf, h⟩
      · exact .inl h
      · exact .inr ⟨ident, _, rfl, hf, hk, h⟩
    | raised e => exact .inl rfl
  · exact .inl (by simp [hc])

/-! ## One schema per name, version and issuer -/

/-- No two schema entries carry one name, version and issuer. -/
def SchemasUnique (s : Store) : Prop :=
  ∀ n n' e e' k, s.fetch .schema n = some e → s.fetch .schema n' = some e' →
    schemaKey e.tags = some k → schemaKey e'.tags = some k → n = n'

variable {s s' : Store}

/-- The invariant reads the schema entries only. -/
theorem SchemasUnique.congr (h : ∀ n, s'.fetch .schema n = s.fetch .schema n)
    (hu : SchemasUnique s) : SchemasUnique s' :=
  fun n n' e e' k he he' => hu n n' e e' k (h n ▸ he) (h n' ▸ he')

/-- Writing a schema entry keeps the schemas unique, when no entry under
    another name has its key. -/
theorem SchemasUnique.put {n : String} {e : Entry} (hu : SchemasUnique s)
    (hk : ∀ n' e' k, n' ≠ n → s.fetch .schema n' = some e' → schemaKey e.tags = some k →
      schemaKey e'.tags ≠ some k) :
    SchemasUnique (s.put .schema n e) := by
  intro a b ea eb k ha hb hka hkb
  simp only [Store.fetch_put, true_and] at ha hb
  split_ifs at ha hb with h1 h2 h2
  · exact h1.trans h2.symm
  · cases ha
    exact absurd hkb (hk b eb k h2 hb hka)
  · cases hb
    exact absurd hka (hk a ea k h1 ha hkb)
  · exact hu a b ea eb k ha hb hka hkb

/-- A schema entry after a move comes from the entry of the job id, for the
    registered id, or is the entry stored under its name before. -/
theorem fetch_moved_schema {jobId id n : String} {e' : Entry} (hne : jobId ≠ id)
    (hm : Moved s [.schema] jobId id s') (h : s'.fetch .schema n = some e') :
    n ≠ jobId ∧ ∃ e, s.fetch .schema (if n = id then jobId else n) = some e ∧
      schemaKey e'.tags = schemaKey e.tags := by
  rw [hm.2] at h
  simp only [List.mem_singleton, true_and] at h
  by_cases hi : n = id
  · subst hi
    rw [if_pos rfl] at h
    obtain ⟨e, he, rfl⟩ := Option.map_eq_some'.1 h
    exact ⟨hne.symm, e, by rw [if_pos rfl, he], by simp [Entry.finished]⟩
  · rw [if_neg hi] at h ⊢
    split_ifs at h with hj
    exact ⟨hj, e', h, rfl⟩

/-- Moving a schema entry to its registered id keeps the schemas unique. -/
theorem SchemasUnique.moved {jobId id : String} (hne : jobId ≠ id) (hu : SchemasUnique s)
    (hm : Moved s [.schema] jobId id s') : SchemasUnique s' := by
  intro a b ea eb k ha hb hka hkb
  obtain ⟨haj, xa, hxa, hka'⟩ := fetch_moved_schema hne hm ha
  obtain ⟨hbj, xb, hxb, hkb'⟩ := fetch_moved_schema hne hm hb
  have horig := hu _ _ xa xb k hxa hxb (hka' ▸ hka) (hkb' ▸ hkb)
  split_ifs at horig with hia hib hib
  · exact hia.trans hib.symm
  · exact absurd horig.symm hbj
  · exact absurd horig haj
  · exact horig

/-- A registration keeps the schemas unique when the registrar answers for
    the schema it was given. -/
theorem SchemasUnique.createAndRegisterSchema (toJson : AnonCredsSchema → String)
    {issuerId name version : String} {created : Bool} {registered : RegisterSchemaOutcome}
    (hu : SchemasUnique s) (he : registered.Echoes issuerId name version) :
    SchemasUnique (createAndRegisterSchema toJson s issuerId name version created registered).2 := by
  rcases createAndRegisterSchema_store toJson s issuerId name version created registered with
    h | ⟨ident, st, hst, -, hk, h⟩
  · rwa [h]
  · rw [h]
    refine hu.put fun n' e' k _ hn' hke => ?_
    rw [schemaKey_tags, he st hst] at hke
    exact Option.some.inj hke ▸ hk n' e' hn'

/-- With the schemas unique, `get_created_schemas`, given a name, a version
    and an issuer, finds at most one schema. -/
theorem getCreatedSchemas_length_le_one (hu : SchemasUnique s) (name version issuerId : String) :
    (getCreatedSchemas s (some name) (some version) (some issuerId)).length ≤ 1 := by
  have hkey : ∀ n ∈ getCreatedSchemas s (some name) (some version) (some issuerId),
      ∃ e, s.fetch .schema n = some e ∧ schemaKey e.tags = some (name, version, issuerId) := by
    intro n hn
    obtain ⟨⟨_, e⟩, he, rfl⟩ := List.mem_map.1 hn
    obtain ⟨hf, ht⟩ := Store.mem_fetchAll.1 he
    simp only [List.filterMap_cons, Option.map_some', List.filterMap_nil, List.forall_mem_cons,
      List.not_mem_nil] at ht
    exact ⟨e, hf, schemaKey_eq_some.2 ⟨ht.1, ht.2.1, ht.2.2.1⟩⟩
  rcases hl : getCreatedSchemas s (some name) (some version) (some issuerId) with _ | ⟨a, l⟩
  · simp
  obtain ⟨ea, ha, hka⟩ := hkey a (hl ▸ List.mem_cons_self a l)
  have := Store.eq_singleton_of_nodup (hl ▸ Store.nodup_fetchAll_names _ _ _)
    (List.mem_cons_self a l) fun x hx => by
      obtain ⟨ex, hx', hkx⟩ := hkey x (hl ▸ hx)
      exact hu x a ex ea _ hx' ha hkx hka
  rw [this]
  simp

end Acapy
