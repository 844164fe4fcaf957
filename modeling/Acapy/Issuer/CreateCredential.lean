import Acapy.Store

/-!
# Issuing a credential

`AnonCredsIssuer.create_credential` resolves the schema, reads the credential
definition, collects a value for every attribute of the schema, and then, for a
revocable credential, reserves the next index of the revocation registry in one
short transaction (`allocateIndex`): it reads `curr_id` from the registry's
`CATEGORY_REV_REG_INFO` entry, fetched for update, and commits `curr_id + 1`,
unless that passes the `max_cred_num` of the stored definition. The credential
is created afterwards, outside the transaction, so an index whose credential
fails to be created is skipped for good.

The outcomes of the external calls are inputs: the attribute names of the
resolved schema (`anoncreds_registry.get_schema`), and what `Credential.create`
returns (`none` for an `AnoncredsError`). A call returns what it returned or
raised, with the store it leaves: the allocation stays committed when the call
raises after it.

* `allocateIndex_eq_ok`: the allocation commits exactly when the registry's
  entries are there and load and the registry has room (`CanAllocate`), and
  it then only advances `curr_id`;
* `createCredential_store`: a call on a registry id that raises before the
  allocation commits leaves the store as it was; once the allocation can
  commit, the call changes the store only by that advance and returns
  `str(curr_id + 1)`.

A `revoc_reg_id` that is `None` or empty is false in `if revoc_reg_id:`: the
credential is then created with no registry.
-/

namespace Acapy

/-! ## The allocation transaction -/

/-- The allocation transaction of `create_credential`: the index after
    `curr_id`, unless the registry is full, and the store with that index as
    the new `curr_id`. -/
def allocateIndex (s : Store) (revocRegId : String) : Except PyError (Int × Store) :=
  wrapAskar "Error updating revocation registry index" do
    let revList ← required "Revocation registry not found" (s.fetch .revList revocRegId)
    let revRegInfo ← required "Revocation registry metadata not found"
      (s.fetch .revRegInfo revocRegId)
    let revRegDef ← required "Revocation registry definition not found"
      (s.fetch .revRegDef revocRegId)
    let _ ← required "Revocation registry definition private data not found"
      (s.fetch .revRegDefPrivate revocRegId)
    let revInfo ← revRegInfo.valueJson
    let revRegIndex := revInfo.currId + 1
    let revRegDef ← wrapAnoncreds "Error loading revocation registry definition" do
      let revRegDef ← revRegDef.loadRevRegDef
      let _ ← revList.loadRevList
      pure revRegDef
    if revRegIndex > revRegDef.maxCredNum then
      throw (.registryFull "Revocation registry is full")
    let s ← s.replace .revRegInfo revocRegId
      (.plain (.revRegInfo { revInfo with currId := revRegIndex }))
    pure (revRegIndex, s)

/-- What the allocation needs to commit from `info`: the four entries of the
    registry, a status list and a definition that load, and room in the
    definition for the index after `curr_id`. -/
structure CanAllocate (s : Store) (revocRegId : String) (info : RevRegInfo) : Prop where
  revList : ∃ e l, s.fetch .revList revocRegId = some e ∧ e.loadRevList = .ok l
  revRegInfo : ∃ e, s.fetch .revRegInfo revocRegId = some e ∧ e.valueJson = .ok info
  revRegDef : ∃ e d, s.fetch .revRegDef revocRegId = some e ∧ e.loadRevRegDef = .ok d ∧
    info.currId + 1 ≤ d.maxCredNum
  revKey : (s.fetch .revRegDefPrivate revocRegId).isSome

/-- The store after reserving the index after `info.currId`. -/
def advanceCurrId (s : Store) (revocRegId : String) (info : RevRegInfo) : Store :=
  s.put .revRegInfo revocRegId (.plain (.revRegInfo { info with currId := info.currId + 1 }))

@[simp] theorem records_advanceCurrId (s : Store) (r : String) (info : RevRegInfo) :
    (advanceCurrId s r info).records = s.records := rfl

/-- The info `CanAllocate` speaks of is the registry's. -/
theorem CanAllocate.info_eq {s : Store} {r : String} {info : RevRegInfo}
    (h : CanAllocate s r info) : s.info r = some info :=
  Store.info_eq_some.2 h.revRegInfo

/-- The registry's definition has room for the index. -/
theorem CanAllocate.revRegDef_eq {s : Store} {r : String} {info : RevRegInfo}
    (h : CanAllocate s r info) :
    ∃ d, s.revRegDef r = some d ∧ info.currId + 1 ≤ d.maxCredNum := by
  obtain ⟨e, d, he, hd, hle⟩ := h.revRegDef
  exact ⟨d, Store.revRegDef_eq_some.2 ⟨e, he, hd⟩, hle⟩

theorem info_advanceCurrId (s : Store) (r : String) (info : RevRegInfo) (r' : String) :
    (advanceCurrId s r info).info r' =
      if r = r' then some { info with currId := info.currId + 1 } else s.info r' := by
  simp only [advanceCurrId, Store.info_put, true_and]
  rfl

@[simp] theorem revRegDef_advanceCurrId (s : Store) (r : String) (info : RevRegInfo) (r' : String) :
    (advanceCurrId s r info).revRegDef r' = s.revRegDef r' := by
  simp [advanceCurrId, Store.revRegDef_put]

theorem fetch_advanceCurrId (s : Store) (r : String) (info : RevRegInfo) (c : Category) (k : String) :
    (advanceCurrId s r info).fetch c k =
      if c = .revRegInfo ∧ k = r then some (.plain (.revRegInfo { info with currId := info.currId + 1 }))
      else s.fetch c k :=
  Store.fetch_put _ _ _ _ _ _

theorem allocateIndex_eq_ok {s s' : Store} {r : String} {i : Int} :
    allocateIndex s r = .ok (i, s') ↔
      ∃ info, CanAllocate s r info ∧ i = info.currId + 1 ∧ s' = advanceCurrId s r info := by
  simp only [allocateIndex, wrapAskar_eq_ok, bind_eq_ok, required_eq_ok, wrapAnoncreds_eq_ok,
    gt_iff_lt, pure, Except.pure, Except.ok.injEq, exists_eq_left,
    apply_ite (· = Except.ok (i, s')), Store.replace_eq_ok]
  simp only [exists_and_right, exists_eq_right_right, throw, throwThe, MonadExceptOf.throw,
    reduceCtorEq, Prod.mk.injEq, false_and, exists_const, true_and, if_false_left, not_lt]
  constructor
  · rintro ⟨el, hl, ei, hi, ed, hd, hk, info, hv, d, ⟨hdl, l, hll⟩, hle, ⟨-, rfl⟩, rfl⟩
    exact ⟨info, ⟨⟨el, l, hl, hll⟩, ⟨ei, hi, hv⟩, ⟨ed, d, hd, hdl, hle⟩,
      Option.isSome_iff_exists.2 hk⟩, rfl, rfl⟩
  · rintro ⟨info, ⟨⟨el, l, hl, hll⟩, ⟨ei, hi, hv⟩, ⟨ed, d, hd, hdl, hle⟩, hk⟩, rfl, rfl⟩
    exact ⟨el, hl, ei, hi, ed, hd, Option.isSome_iff_exists.1 hk, info, hv, d, ⟨hdl, l, hll⟩,
      hle, ⟨by simp [hi], rfl⟩, rfl⟩

/-! ## The call -/

/-- The inputs of `create_credential` that the modelled code reads. -/
structure CreateCredentialArgs where
  /-- `credential_offer["cred_def_id"]`. -/
  credDefId : String
  /-- `credential_values`, each value as `str(value)`. -/
  credentialValues : AList (fun _ : String => String)

/-- The part of `create_credential` before the allocation: read the credential
    definition and take a value for every attribute of the schema, whose
    names the resolver gave. -/
def CreateCredentialArgs.rawValues (a : CreateCredentialArgs) (s : Store)
    (schemaAttrNames : Except PyError (List String)) : Except PyError (List (String × String)) := do
  let attrNames ← schemaAttrNames
  if (s.fetch .credDef a.credDefId).isNone || (s.fetch .credDefPrivate a.credDefId).isNone then
    throw (.issuer "Credential definition not found for credential issuance")
  attrNames.mapM fun attrName => do
    let value ← required
      s!"Provided credential values are missing a value for the schema attribute \x27{attrName}\x27"
      (a.credentialValues.lookup attrName)
    pure (attrName, value)

/-- The end of `create_credential`: what `Credential.create` gave, returned
    with the revocation id. -/
def issueCredential (credential : Option String) (credentialRevocationId : Option String) :
    Except PyError (String × Option String) :=
  match credential with
  | some credential => .ok (credential, credentialRevocationId)
  | none => .error (.issuer "Error creating credential")

/-- `create_credential`, given the attribute names of the resolved schema and
    what `Credential.create` gives: what it returns or raises, and the store it
    leaves. -/
def createCredential (s : Store) (a : CreateCredentialArgs) (revocRegId : Option String)
    (schemaAttrNames : Except PyError (List String)) (credential : Option String) :
    Except PyError (String × Option String) × Store :=
  match a.rawValues s schemaAttrNames with
  | .error e => (.error e, s)
  | .ok _ =>
    if truthy revocRegId then
      match allocateIndex s (revocRegId.getD "") with
      | .error e => (.error e, s)
      | .ok (revRegIndex, s') => (issueCredential credential (some (toString revRegIndex)), s')
    else (issueCredential credential none, s)

/-- The raw values exist only when the schema resolved and every attribute of
    it has a value. -/
theorem rawValues_eq_ok {a : CreateCredentialArgs} {s : Store}
    {schemaAttrNames : Except PyError (List String)} {values : List (String × String)}
    (h : a.rawValues s schemaAttrNames = .ok values) :
    ∃ names, schemaAttrNames = .ok names ∧ ∀ n ∈ names, (a.credentialValues.lookup n).isSome := by
  simp only [CreateCredentialArgs.rawValues, bind_eq_ok] at h
  obtain ⟨names, hn, h⟩ := h
  refine ⟨names, hn, fun n hmem => ?_⟩
  split at h
  · cases h
  obtain ⟨_, hy⟩ := mapM_eq_ok h n hmem
  simp only [bind_eq_ok, required_eq_ok] at hy
  obtain ⟨v, hv, -⟩ := hy
  simp [hv]

/-- The message for a missing attribute value is not the one for a missing
    credential definition. -/
theorem missingValue_ne_notFound (attrName : String) :
    s!"Provided credential values are missing a value for the schema attribute \x27{attrName}\x27" ≠
      "Credential definition not found for credential issuance" := by
  intro h
  have h := congrArg (fun s : String => s.data.head?) h
  simp only [String.data_append] at h
  rw [List.append_assoc, List.head?_append_of_ne_nil _ (by decide)] at h
  exact absurd h (by decide)

/-- Once the schema resolved, `create_credential` raises that the credential
    definition is not found exactly when the definition or its private part is
    missing. -/
theorem rawValues_not_found (a : CreateCredentialArgs) (s : Store) (names : List String) :
    a.rawValues s (.ok names) =
        .error (.issuer "Credential definition not found for credential issuance") ↔
      s.fetch .credDef a.credDefId = none ∨ s.fetch .credDefPrivate a.credDefId = none := by
  simp only [CreateCredentialArgs.rawValues]
  cases s.fetch .credDef a.credDefId <;> cases s.fetch .credDefPrivate a.credDefId
  case some.some =>
    simp only [Option.isNone_some, Bool.or_false, reduceCtorEq, or_self, iff_false]
    intro h
    obtain ⟨-, x, -, -, -, hx⟩ :=
      mapM_eq_error_iff.1 (by simpa [bind, Except.bind, pure, Except.pure] using h)
    rcases hv : a.credentialValues.lookup x <;>
      simp only [bind_eq_error, required, hv, reduceCtorEq, Except.error.injEq,
        PyError.issuer.injEq] at hx
    exact missingValue_ne_notFound x hx
  all_goals simp [bind, Except.bind, throw, throwThe, MonadExceptOf.throw]

/-- A registry `"r"` for ten credentials, one issued and none revoked, and the
    credential definition `"cd"`. -/
def issuerRegistry : Store :=
  (((((Store.empty.put .credDef "cd" (.plain (.raw "cd"))).put .credDefPrivate "cd"
    (.plain (.raw "cd-key"))).put .revRegDef "r" (.plain (.revRegDef ⟨"did", 10⟩))).put
    .revRegDefPrivate "r" (.plain (.raw "r-key"))).put .revList "r"
    (.plain (.revList .create))).put .revRegInfo "r" (.plain (.revRegInfo ⟨1, []⟩))

/-- A revocable `create_credential` that raises before its allocation commits
    leaves the store as it was: a missing value, a missing or unloadable entry,
    or a full registry. Once every attribute has a value and the registry can
    allocate (`CanAllocate`), the call changes the store only by advancing
    `curr_id` by one, whatever `Credential.create` does, and returns
    `str(curr_id + 1)` when it returns. -/
theorem createCredential_store (s : Store) (a : CreateCredentialArgs) {r : String} (hr : r ≠ "")
    (schemaAttrNames : Except PyError (List String)) (credential : Option String) :
    (∀ e, a.rawValues s schemaAttrNames = .error e →
      createCredential s a (some r) schemaAttrNames credential = (.error e, s)) ∧
    (∀ e, allocateIndex s r = .error e →
      (createCredential s a (some r) schemaAttrNames credential).2 = s) ∧
    ∀ values info, a.rawValues s schemaAttrNames = .ok values → CanAllocate s r info →
      (createCredential s a (some r) schemaAttrNames credential).2 = advanceCurrId s r info ∧
      ∀ cred id, (createCredential s a (some r) schemaAttrNames credential).1 = .ok (cred, id) →
        id = some (toString (info.currId + 1)) := by
  have ht : truthy (some r) = true := by simpa [truthy] using hr
  refine ⟨fun e he => by simp [createCredential, he], fun e he => ?_, fun values info hv hc => ?_⟩
  · cases hv : a.rawValues s schemaAttrNames <;> simp [createCredential, hv, ht, he]
  · have ha : allocateIndex s r = .ok (info.currId + 1, advanceCurrId s r info) :=
      allocateIndex_eq_ok.2 ⟨info, hc, rfl, rfl⟩
    simp only [createCredential, hv, ht, if_true, Option.getD_some, ha, true_and]
    intro cred id h
    cases credential <;> simp_all [issueCredential]

theorem createCredential_store_issuer :
    "r" ≠ "" ∧
    ∀ values info, (⟨"cd", ∅⟩ : CreateCredentialArgs).rawValues issuerRegistry (.ok []) = .ok values →
      CanAllocate issuerRegistry "r" info →
      (createCredential issuerRegistry ⟨"cd", ∅⟩ (some "r") (.ok []) (some "cred")).2 =
        advanceCurrId issuerRegistry "r" info ∧
      ∀ cred id, (createCredential issuerRegistry ⟨"cd", ∅⟩ (some "r") (.ok []) (some "cred")).1 =
        .ok (cred, id) → id = some (toString (info.currId + 1)) :=
  ⟨by decide, (createCredential_store issuerRegistry ⟨"cd", ∅⟩ (by decide) (.ok []) (some "cred")).2.2⟩

/-- `create_credential` writes no entry but the info entry of a registry. -/
theorem createCredential_fetch (s : Store) (a : CreateCredentialArgs) (revocRegId : Option String)
    (schemaAttrNames : Except PyError (List String)) (credential : Option String) {c : Category}
    (hc : c ≠ .revRegInfo) (n : String) :
    (createCredential s a revocRegId schemaAttrNames credential).2.fetch c n = s.fetch c n := by
  unfold createCredential
  rcases a.rawValues s schemaAttrNames with e | values
  · rfl
  dsimp only
  split
  · rcases ha : allocateIndex s (revocRegId.getD "") with e | ⟨i, s'⟩
    · rfl
    obtain ⟨info, -, -, rfl⟩ := allocateIndex_eq_ok.1 ha
    simp [advanceCurrId, Store.fetch_put, hc]
  · rfl

end Acapy
