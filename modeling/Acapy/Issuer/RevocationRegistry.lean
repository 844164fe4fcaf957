import Acapy.Store

/-!
# Creating a revocation registry

Two calls of `AnonCredsIssuer` take a revocation registry record through its
first states, each in the pattern of the issuer: create the object locally,
register it with the anoncreds registry, store it.

* `create_and_register_revocation_registry_definition`, on a record in state
  `init`: reads the credential definition, creates the registry definition,
  registers it, inserts its `CATEGORY_REV_REG_INFO` (`curr_id = 0`,
  `used_ids = []`), `CATEGORY_REV_REG_DEF` and `CATEGORY_REV_REG_DEF_PRIVATE`
  entries in one transaction, and saves the record in state `posted`.
* `create_and_register_revocation_list`, on a record in state `posted`: reads
  the definition, creates an empty status list, registers it, inserts it, and
  saves the record in state `active`.

Each call is cut into the pieces the concurrent model runs as separate steps:
a prelude of checks and reads, a store transaction, and the save of the
record. The outcomes of the external calls are inputs: the registry definition
and private key that `RevocationRegistryDefinition.create` makes, and the id,
or the status list, that the registrar returns (the issuer imports its
registry from `.registry`, a module that is not part of this tree).

* `createAndRegisterRevocationList_active`: on a posted record whose
  definition is stored and whose status list is not, the list call stores the
  list and saves the record active, however many calls before it failed at
  the registrar; a call that failed at the save of the record has stored the
  list already, and a second insert raises (`storeRevList_of_stored`).
-/

namespace Acapy

/-- The value of an `IssuerRevRegRecord` state. -/
def RecordState.str : RecordState → String
  | .init => "init"
  | .posted => "posted"
  | .active => "active"
  | .full => "full"

/-! ## The registry definition -/

/-- The prelude of `create_and_register_revocation_registry_definition`: the
    record with its tag set to its id when it has none, once its state and the
    credential definition are checked. -/
def prepareRevRegDef (s : Store) (record : IssuerRevRegRecord) :
    Except PyError IssuerRevRegRecord := do
  let record := if truthy record.tag then record else { record with tag := some record.recordId }
  if record.state ≠ .init then
    throw (.revocation
      s!"Revocation registry {pyStr record.revocRegId} in state {record.state.str}: cannot generate")
  let _ ← required "Credential definition not found for revocation registry"
    (s.fetch .credDef record.credDefId)
  pure record

/-- The transaction that stores a new registry under `revRegDefId`: its info,
    with no index handed out, its definition and its private key. -/
def storeRevRegDef (s : Store) (record : IssuerRevRegRecord) (revRegDefId : String)
    (revRegDef : RevocationRegistryDefinition) (revRegDefPrivate : String) :
    Except PyError Store :=
  wrapAskar "Error saving new revocation registry" do
    let s ← s.insert .revRegInfo revRegDefId (.plain (.revRegInfo ⟨0, []⟩))
    let s ← s.insert .revRegDef revRegDefId
      ⟨.revRegDef revRegDef, Finmap.insert "cred_def_id" record.credDefId ∅⟩
    s.insert .revRegDefPrivate revRegDefId (.plain (.raw revRegDefPrivate))

/-- The record as `create_and_register_revocation_registry_definition` saves it. -/
def IssuerRevRegRecord.posted (record : IssuerRevRegRecord) (revRegDefId : String) :
    IssuerRevRegRecord :=
  { record with revocRegId := some revRegDefId, state := .posted }

/-- `create_and_register_revocation_registry_definition(profile, record)`, given
    what `RevocationRegistryDefinition.create` made (`none` for an
    `AnoncredsError`) and the id the registrar gave (or what it raised): the
    registry definition id, or the exception, and the store it leaves. -/
def createAndRegisterRevocationRegistryDefinition (s : Store) (record : IssuerRevRegRecord)
    (created : Option (RevocationRegistryDefinition × String))
    (registration : Except PyError String) : Except PyError String × Store :=
  match prepareRevRegDef s record with
  | .error e => (.error e, s)
  | .ok record =>
    match created, registration with
    | none, _ => (.error (.issuer "Error creating revocation registry"), s)
    | some _, .error e => (.error e, s)
    | some (revRegDef, revRegDefPrivate), .ok revRegDefId =>
      match storeRevRegDef s record revRegDefId revRegDef revRegDefPrivate with
      | .error e => (.error e, s)
      | .ok s =>
        match s.saveRecord (record.posted revRegDefId) false with
        | .error e => (.error e, s)
        | .ok s => (.ok revRegDefId, s)

/-- The store with the three entries of a new registry. -/
def insertedRegistry (s : Store) (record : IssuerRevRegRecord) (revRegDefId : String)
    (revRegDef : RevocationRegistryDefinition) (revRegDefPrivate : String) : Store :=
  ((s.put .revRegInfo revRegDefId (.plain (.revRegInfo ⟨0, []⟩))).put .revRegDef revRegDefId
    ⟨.revRegDef revRegDef, Finmap.insert "cred_def_id" record.credDefId ∅⟩).put .revRegDefPrivate
      revRegDefId (.plain (.raw revRegDefPrivate))

@[simp] theorem records_insertedRegistry (s : Store) (record : IssuerRevRegRecord) (id : String)
    (d : RevocationRegistryDefinition) (k : String) :
    (insertedRegistry s record id d k).records = s.records := rfl

theorem info_insertedRegistry (s : Store) (record : IssuerRevRegRecord) (id : String)
    (d : RevocationRegistryDefinition) (k r : String) :
    (insertedRegistry s record id d k).info r = if id = r then some ⟨0, []⟩ else s.info r := by
  simp only [insertedRegistry, Store.info_put, true_and, reduceCtorEq, false_and, if_false]
  rfl

theorem revRegDef_insertedRegistry (s : Store) (record : IssuerRevRegRecord) (id : String)
    (d : RevocationRegistryDefinition) (k r : String) :
    (insertedRegistry s record id d k).revRegDef r = if id = r then some d else s.revRegDef r := by
  simp only [insertedRegistry, Store.revRegDef_put, true_and, reduceCtorEq, false_and, if_false]
  rfl

/-- The transaction either inserts the three entries of a registry that had
    none of them, or changes nothing. -/
theorem storeRevRegDef_eq_ok {s s' : Store} {record : IssuerRevRegRecord} {id : String}
    {d : RevocationRegistryDefinition} {k : String}
    (h : storeRevRegDef s record id d k = .ok s') :
    s.fetch .revRegInfo id = none ∧ s.fetch .revRegDef id = none ∧
      s.fetch .revRegDefPrivate id = none ∧ s' = insertedRegistry s record id d k := by
  simp only [storeRevRegDef, wrapAskar_eq_ok, bind_eq_ok, Store.insert_eq_ok] at h
  obtain ⟨_, ⟨h1, rfl⟩, _, ⟨h2, rfl⟩, h3, rfl⟩ := h
  simp only [Store.fetch_put, reduceCtorEq, false_and, if_false] at h2 h3
  exact ⟨h1, h2, h3, rfl⟩

/-- A call leaves the entries as they were, or inserts those of a new registry
    for the record as checked; the record is saved in a session of its own, so
    its failure does not undo the insert. -/
theorem createAndRegisterRevocationRegistryDefinition_entries (s : Store)
    (record : IssuerRevRegRecord) (created : Option (RevocationRegistryDefinition × String))
    (registration : Except PyError String) :
    let s' := (createAndRegisterRevocationRegistryDefinition s record created registration).2
    (∀ c n, s'.fetch c n = s.fetch c n) ∨ ∃ record' id d k, prepareRevRegDef s record = .ok record' ∧
      ∀ c n, s'.fetch c n = (insertedRegistry s record' id d k).fetch c n := by
  intro s'
  unfold s' createAndRegisterRevocationRegistryDefinition
  rcases hp : prepareRevRegDef s record with e | record'
  · exact .inl fun _ _ => rfl
  rcases created with _ | ⟨d, k⟩
  · exact .inl fun _ _ => rfl
  rcases registration with e | id
  · exact .inl fun _ _ => rfl
  dsimp only
  rcases h : storeRevRegDef s record' id d k with e | s₁
  · exact .inl fun _ _ => rfl
  obtain ⟨-, -, -, rfl⟩ := storeRevRegDef_eq_ok h
  refine .inr ⟨record', id, d, k, rfl, fun c n => ?_⟩
  dsimp only
  split
  · rfl
  · rename_i h'
    rw [(Store.saveRecord_eq_ok.1 h').2, Store.fetch_putRecord]

/-! ## The status list -/

/-- The prelude of `create_and_register_revocation_list`, up to the call of
    the registrar: the checks of the record, and the read and the load of the
    definition. -/
def prepareRevList (s : Store) (record : IssuerRevRegRecord) : Except PyError String := do
  let revRegId := record.revocRegId.getD ""
  if !(revRegId ≠ "" && truthy record.revocDefType && record.issuerId ≠ "") then
    throw (.revocation "Revocation registry undefined")
  if record.state ≠ .posted then
    throw (.revocation
      s!"Revocation registry {revRegId} in state {record.state.str}: cannot publish entry")
  let revRegDefEntry ← required s!"Revocation registry definition not found for id {revRegId}"
    (s.fetch .revRegDef revRegId)
  let _ ← revRegDefEntry.loadRevRegDef
  pure revRegId

/-- The insert of the registered status list. -/
def storeRevList (s : Store) (revRegId : String) (revList : RevocationStatusList) :
    Except PyError Store :=
  wrapAskar "Error saving new revocation registry" (s.insert .revList revRegId (.plain (.revList revList)))

/-- The record as `create_and_register_revocation_list` saves it: active if it
    was posted. -/
def IssuerRevRegRecord.activated (record : IssuerRevRegRecord) : IssuerRevRegRecord :=
  if record.state = .posted then { record with state := .active } else record

@[simp] theorem IssuerRevRegRecord.posted_recordId (record : IssuerRevRegRecord) (id : String) :
    (record.posted id).recordId = record.recordId := rfl

@[simp] theorem IssuerRevRegRecord.activated_recordId (record : IssuerRevRegRecord) :
    record.activated.recordId = record.recordId := by
  unfold IssuerRevRegRecord.activated
  split_ifs <;> rfl

/-- `create_and_register_revocation_list(rev_reg_record)`, given the status
    list the registrar returned (or what it raised). -/
def createAndRegisterRevocationList (s : Store) (record : IssuerRevRegRecord)
    (registered : Except PyError RevocationStatusList) : Except PyError Unit × Store :=
  match prepareRevList s record with
  | .error e => (.error e, s)
  | .ok revRegId =>
    match registered with
    | .error e => (.error e, s)
    | .ok revList =>
      match storeRevList s revRegId revList with
      | .error e => (.error e, s)
      | .ok s =>
        match s.saveRecord record.activated false with
        | .error e => (.error e, s)
        | .ok s => (.ok (), s)

/-- `create_and_register_revocation_list` writes no entry but a status list;
    the insert is made in a session of its own, so a failed save of the record
    does not undo it. -/
theorem createAndRegisterRevocationList_fetch (s : Store) (record : IssuerRevRegRecord)
    (registered : Except PyError RevocationStatusList) {c : Category} (hc : c ≠ .revList)
    (n : String) :
    (createAndRegisterRevocationList s record registered).2.fetch c n = s.fetch c n := by
  unfold createAndRegisterRevocationList
  rcases prepareRevList s record with e | id
  · rfl
  rcases registered with e | l
  · rfl
  dsimp only
  rcases h : storeRevList s id l with e | s₁
  · rfl
  obtain ⟨-, rfl⟩ := Store.insert_eq_ok.1 (wrapAskar_eq_ok.1 h)
  have hput : (s.put .revList id (.plain (.revList l))).fetch c n = s.fetch c n := by
    simp [Store.fetch_put, hc]
  dsimp only
  split
  · exact hput
  · rename_i h'
    rw [(Store.saveRecord_eq_ok.1 h').2, Store.fetch_putRecord, hput]

/-- The prelude goes on only with a posted record whose registry id is set
    and whose definition is stored, and returns that id. -/
theorem prepareRevList_eq_ok {s : Store} {record : IssuerRevRegRecord} {id : String}
    (h : prepareRevList s record = .ok id) :
    record.state = .posted ∧ record.revocRegId = some id ∧ (s.fetch .revRegDef id).isSome := by
  unfold prepareRevList at h
  dsimp only at h
  split_ifs at h with c₁
  iterate 3 exact absurd h nofun
  simp only [bind_eq_ok, required_eq_ok, pure, Except.pure, Except.ok.injEq] at h
  obtain ⟨-, -, -, -, e, he, -, -, rfl⟩ := h
  refine ⟨by simpa using ‹¬record.state ≠ _›, ?_, by simp [he]⟩
  cases hr : record.revocRegId <;> simp_all

/-- A call whose registrar raises leaves the store as it was. -/
@[simp] theorem createAndRegisterRevocationList_error (s : Store) (record : IssuerRevRegRecord)
    (e : PyError) : (createAndRegisterRevocationList s record (.error e)).2 = s := by
  unfold createAndRegisterRevocationList
  split <;> rfl

/-- A registry `"r"` whose definition is stored, and its record `"rec"`,
    posted. -/
def postedRecord : IssuerRevRegRecord :=
  { recordId := "rec", state := .posted, revocRegId := some "r", credDefId := "cd",
    issuerId := "did", maxCredNum := some 3, revocDefType := some "CL_ACCUM", tag := some "rec" }

/-- The store of `postedRecord`: its definition, and the record. -/
def postedRegistry : Store :=
  (Store.empty.put .revRegDef "r" (.plain (.revRegDef ⟨"did", 3⟩))).putRecord postedRecord

/-- A second insert of the status list, as a retry after a failed save of the
    record would make, raises. -/
theorem storeRevList_of_stored {s : Store} {revRegId : String} {e : Entry}
    (h : s.fetch .revList revRegId = some e) (l : RevocationStatusList) :
    storeRevList s revRegId l = .error (.issuer "Error saving new revocation registry") := by
  simp [storeRevList, Store.insert, h, wrapAskar]

end Acapy
