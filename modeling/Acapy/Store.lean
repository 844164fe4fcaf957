import Acapy.Basic
import Mathlib.Data.Finmap

/-!
# The store

The issuer keeps its anoncreds objects in an Askar store, as entries addressed
by a category (`CATEGORY_*` of `anoncreds/issuer.py`) and a name, each with a
value and a dictionary of tags. The revocation registry records
(`IssuerRevRegRecord`) live beside them, addressed by their record id.

The store is a pair of association lists (`AList`), so that it is finite and
can be searched by tags, as `fetch_all` and the record queries do. The tags
of an entry are a finite map (`Finmap`): Askar keeps them unordered. Its
operations are those of Askar:

* `fetch` reads an entry, or finds none, and `fetch_all` lists the entries of
  a category that carry given tags;
* `insert` fails with a `DUPLICATE` error when the name is taken;
* `replace` and `remove` fail with a `NOT_FOUND` error when it is not.

The query of a record by its `revoc_reg_id` tag finds a record exactly when it
is the only one with the tag (`Store.retrieveByRevocRegId_eq_ok`).

A transaction is a function of the store, to the store it commits or to the
exception that rolled it back (`Except PyError (α × Store)`): it is atomic,
which is what the serializable transactions of Askar give.

A value is kept as the code reads it back: the `value_json` of a
`CATEGORY_REV_REG_INFO` entry, or a definition or a status list that the
anoncreds library loads from the raw value. Loading any other value fails.
-/

namespace Acapy

/-! ## Anoncreds objects -/

/-- The `value_json` of a `CATEGORY_REV_REG_INFO` entry: the last index handed
    out to a credential, and the indices revoked so far. -/
structure RevRegInfo where
  currId : Int
  usedIds : List Int
  deriving DecidableEq, Repr

/-- A revocation registry definition, with the fields the modelled code reads. -/
structure RevocationRegistryDefinition where
  issuerId : String
  maxCredNum : Nat
  deriving DecidableEq, Repr

/-- A revocation status list: the indices it marks revoked, and the time of
    its last update. -/
structure RevocationStatusList where
  revoked : Finset Int
  timestamp : Option Int
  deriving DecidableEq

/-- `RevocationStatusList.create`: a list with nothing revoked. -/
def RevocationStatusList.create : RevocationStatusList :=
  { revoked := ∅, timestamp := none }

/-- `prev.update(timestamp, None, revoked, rev_reg_def)`: the list with the
    indices `revoked` revoked as well, updated at `timestamp`. -/
def RevocationStatusList.update (prev : RevocationStatusList) (timestamp : Int)
    (revoked : Finset Int) : RevocationStatusList :=
  { revoked := prev.revoked ∪ revoked, timestamp := some timestamp }

@[simp] theorem RevocationStatusList.update_revoked (prev : RevocationStatusList) (t : Int)
    (revoked : Finset Int) : (prev.update t revoked).revoked = prev.revoked ∪ revoked := rfl

/-! ## Revocation registry records -/

/-- The states of an `IssuerRevRegRecord` that the modelled code sets or tests. -/
inductive RecordState
  | init
  | posted
  | active
  | full
  deriving DecidableEq, Repr

/-- The order of the states along the life of a registry. -/
def RecordState.rank : RecordState → Nat
  | .init => 0
  | .posted => 1
  | .active => 2
  | .full => 3

/-- Modelled from the spec: `IssuerRevRegRecord`, whose module
    (`revocation/models/issuer_rev_reg_record.py`) is not under src/. The
    fields are those the modelled code reads; the record is stored under
    `recordId`. -/
structure IssuerRevRegRecord where
  recordId : String
  state : RecordState
  revocRegId : Option String
  credDefId : String
  issuerId : String
  maxCredNum : Option Nat
  revocDefType : Option String
  tag : Option String
  deriving DecidableEq, Repr

/-! ## Entries -/

/-- The categories of the issuer's entries (`CATEGORY_*`). -/
inductive Category
  | schema
  | credDef
  | credDefPrivate
  | credDefKeyProof
  | revList
  | revRegInfo
  | revRegDef
  | revRegDefPrivate
  | revRegIssuer
  deriving DecidableEq, Repr

/-- The name of a category (`CATEGORY_*`). -/
def Category.name : Category → String
  | .schema => "schema"
  | .credDef => "credential_def"
  | .credDefPrivate => "credential_def_private"
  | .credDefKeyProof => "credential_def_key_proof"
  | .revList => "revocation_list"
  | .revRegInfo => "revocation_reg_info"
  | .revRegDef => "revocation_reg_def"
  | .revRegDefPrivate => "revocation_reg_def_private"
  | .revRegIssuer => "revocation_reg_def_issuer"

/-- The value of an entry, as the code reads it back. -/
inductive Value
  /-- The `value_json` of a `CATEGORY_REV_REG_INFO` entry. -/
  | revRegInfo (info : RevRegInfo)
  /-- A serialized revocation registry definition. -/
  | revRegDef (d : RevocationRegistryDefinition)
  /-- A serialized revocation status list. -/
  | revList (l : RevocationStatusList)
  /-- Any other payload: a schema, a credential definition, a private key. -/
  | raw (bytes : String)
  deriving DecidableEq

/-- A store entry: its value and its tags. -/
structure Entry where
  value : Value
  tags : Finmap (fun _ : String => String)
  deriving DecidableEq

/-- An entry stored with no tags. -/
def Entry.plain (v : Value) : Entry := ⟨v, ∅⟩

/-- `rev_reg_info.value_json` of an entry: a value that is not a `RevRegInfo`
    has no `curr_id`. -/
def Entry.valueJson (e : Entry) : Except PyError RevRegInfo :=
  match e.value with
  | .revRegInfo info => .ok info
  | _ => .error (.key "curr_id")

/-- `RevocationRegistryDefinition.load(entry.raw_value)`. -/
def Entry.loadRevRegDef (e : Entry) : Except PyError RevocationRegistryDefinition :=
  match e.value with
  | .revRegDef d => .ok d
  | _ => .error .anoncreds

/-- `RevocationStatusList.load(entry.raw_value)`. -/
def Entry.loadRevList (e : Entry) : Except PyError RevocationStatusList :=
  match e.value with
  | .revList l => .ok l
  | _ => .error .anoncreds

theorem Entry.valueJson_eq_error {e : Entry} {x : PyError} (h : e.valueJson = .error x) :
    x = .key "curr_id" := by
  unfold Entry.valueJson at h
  split at h <;> simp_all

theorem Entry.loadRevRegDef_eq_error {e : Entry} {x : PyError} (h : e.loadRevRegDef = .error x) :
    x = .anoncreds := by
  unfold Entry.loadRevRegDef at h
  split at h <;> simp_all

theorem Entry.loadRevList_eq_error {e : Entry} {x : PyError} (h : e.loadRevList = .error x) :
    x = .anoncreds := by
  unfold Entry.loadRevList at h
  split at h <;> simp_all

/-! ## The store -/

/-- The Askar store: the entries by category and name, and the revocation
    registry records by record id. -/
structure Store where
  entries : AList (fun _ : Category × String => Entry)
  records : AList (fun _ : String => IssuerRevRegRecord)
  /-- A record is stored under its own id. -/
  keyed : ∀ x ∈ records.entries, x.2.recordId = x.1

namespace Store

/-- The empty store. -/
def empty : Store := ⟨∅, ∅, by simp⟩

/-- `fetch(category, name)`. -/
def fetch (s : Store) (c : Category) (n : String) : Option Entry :=
  s.entries.lookup (c, n)

/-- The store with the entry `e` written under `(c, n)`. -/
def put (s : Store) (c : Category) (n : String) (e : Entry) : Store :=
  { s with entries := s.entries.insert (c, n) e }

/-- `insert(category, name, value, tags)`. -/
def insert (s : Store) (c : Category) (n : String) (e : Entry) : Except PyError Store :=
  if (s.fetch c n).isSome then .error (.askar .duplicate) else .ok (s.put c n e)

/-- `replace(category, name, value, tags)`. -/
def replace (s : Store) (c : Category) (n : String) (e : Entry) : Except PyError Store :=
  if (s.fetch c n).isSome then .ok (s.put c n e) else .error (.askar .notFound)

/-- The store without the entry under `(c, n)`. -/
def erase (s : Store) (c : Category) (n : String) : Store :=
  { s with entries := s.entries.erase (c, n) }

/-- `remove(category, name)`. -/
def remove (s : Store) (c : Category) (n : String) : Except PyError Store :=
  if (s.fetch c n).isSome then .ok (s.erase c n) else .error (.askar .notFound)

/-- `fetch_all(category, tag_filter)`: the names and entries of the category
    whose tags hold every value of the filter, in the order of the store. -/
def fetchAll (s : Store) (c : Category) (tagFilter : List (String × String)) :
    List (String × Entry) :=
  (s.entries.entries.filter fun x =>
    x.1.1 = c ∧ tagFilter.all fun kv => x.2.tags.lookup kv.1 = some kv.2).map
      fun x => (x.1.2, x.2)

@[simp] theorem fetch_empty (c : Category) (n : String) : empty.fetch c n = none := rfl

theorem fetch_put (s : Store) (c c' : Category) (n n' : String) (e : Entry) :
    (s.put c n e).fetch c' n' = if c' = c ∧ n' = n then some e else s.fetch c' n' := by
  by_cases h : c' = c ∧ n' = n
  · obtain ⟨rfl, rfl⟩ := h
    simp [put, fetch]
  · rw [if_neg h, fetch, put, AList.lookup_insert_ne (fun h' => h (Prod.mk.inj h'))]
    rfl

@[simp] theorem fetch_put_self (s : Store) (c : Category) (n : String) (e : Entry) :
    (s.put c n e).fetch c n = some e := by
  simp [fetch_put]

/-- A write removes no entry. -/
theorem isSome_fetch_put {s : Store} {c c' : Category} {n n' : String} {e : Entry}
    (h : (s.fetch c' n').isSome) : ((s.put c n e).fetch c' n').isSome := by
  rw [fetch_put]
  split_ifs <;> simp [h]

theorem fetch_erase (s : Store) (c c' : Category) (n n' : String) :
    (s.erase c n).fetch c' n' = if c' = c ∧ n' = n then none else s.fetch c' n' := by
  by_cases h : c' = c ∧ n' = n
  · obtain ⟨rfl, rfl⟩ := h
    simp [erase, fetch]
  · rw [if_neg h, fetch, erase, AList.lookup_erase_ne (fun h' => h (Prod.mk.inj h'))]
    rfl

@[simp] theorem records_erase (s : Store) (c : Category) (n : String) :
    (s.erase c n).records = s.records := rfl

theorem remove_eq_ok {s s' : Store} {c : Category} {n : String} :
    s.remove c n = .ok s' ↔ (s.fetch c n).isSome ∧ s' = s.erase c n := by
  unfold remove
  cases s.fetch c n <;> simp [eq_comm]

/-- An entry is listed by `fetch_all` exactly when it is stored in the
    category and carries every tag of the filter. -/
theorem mem_fetchAll {s : Store} {c : Category} {tagFilter : List (String × String)} {n : String}
    {e : Entry} : (n, e) ∈ s.fetchAll c tagFilter ↔
      s.fetch c n = some e ∧ ∀ kv ∈ tagFilter, e.tags.lookup kv.1 = some kv.2 := by
  simp only [fetchAll, fetch, List.mem_map, List.mem_filter, decide_eq_true_eq, List.all_eq_true,
    Prod.mk.injEq]
  constructor
  · rintro ⟨⟨⟨c', n'⟩, e'⟩, ⟨hmem, rfl, ht⟩, rfl, rfl⟩
    exact ⟨AList.mem_lookup_iff.2 hmem, ht⟩
  · rintro ⟨hf, ht⟩
    exact ⟨⟨(c, n), e⟩, ⟨AList.mem_lookup_iff.1 hf, rfl, ht⟩, rfl, rfl⟩

/-- `fetch_all` lists each name once. -/
theorem nodup_fetchAll_names (s : Store) (c : Category) (tagFilter : List (String × String)) :
    ((s.fetchAll c tagFilter).map Prod.fst).Nodup := by
  simp only [fetchAll, List.map_map]
  refine (s.entries.nodupKeys.nodup.filter _).map_on fun x hx y hy hxy => ?_
  have hcx := of_decide_eq_true (List.mem_filter.1 hx).2
  have hcy := of_decide_eq_true (List.mem_filter.1 hy).2
  exact s.entries.nodupKeys.eq_of_fst_eq (List.mem_filter.1 hx).1 (List.mem_filter.1 hy).1
    (Prod.ext (hcx.1.trans hcy.1.symm) hxy)
@[simp] theorem records_put (s : Store) (c : Category) (n : String) (e : Entry) :
    (s.put c n e).records = s.records := rfl

theorem insert_eq_ok {s s' : Store} {c : Category} {n : String} {e : Entry} :
    s.insert c n e = .ok s' ↔ s.fetch c n = none ∧ s' = s.put c n e := by
  unfold insert
  cases s.fetch c n <;> simp [eq_comm]

theorem replace_eq_ok {s s' : Store} {c : Category} {n : String} {e : Entry} :
    s.replace c n e = .ok s' ↔ (s.fetch c n).isSome ∧ s' = s.put c n e := by
  unfold replace
  cases s.fetch c n <;> simp [eq_comm]

theorem replace_eq_error {s : Store} {c : Category} {n : String} {e : Entry} {x : PyError}
    (h : s.replace c n e = .error x) : x = .askar .notFound := by
  unfold replace at h
  split_ifs at h
  exact (Except.error.inj h).symm

/-- The info of the registry `r`: its `CATEGORY_REV_REG_INFO` entry, when there
    is one and it holds a `RevRegInfo`. -/
def info (s : Store) (r : String) : Option RevRegInfo :=
  (s.fetch .revRegInfo r).bind fun e => e.valueJson.toOption

/-- The definition of the registry `r`, when its entry is there and loads. -/
def revRegDef (s : Store) (r : String) : Option RevocationRegistryDefinition :=
  (s.fetch .revRegDef r).bind fun e => e.loadRevRegDef.toOption

/-- The status list of the registry `r`, when its entry is there and loads. -/
def revList (s : Store) (r : String) : Option RevocationStatusList :=
  (s.fetch .revList r).bind fun e => e.loadRevList.toOption

theorem revList_put (s : Store) (c : Category) (n r : String) (e : Entry) :
    (s.put c n e).revList r =
      if c = .revList ∧ n = r then e.loadRevList.toOption else s.revList r := by
  unfold Store.revList
  rw [fetch_put]
  by_cases h : c = .revList ∧ n = r
  · obtain ⟨rfl, rfl⟩ := h
    simp
  · rw [if_neg (fun h' => h ⟨h'.1.symm, h'.2.symm⟩), if_neg h]

theorem info_eq_some {s : Store} {r : String} {info : RevRegInfo} :
    s.info r = some info ↔ ∃ e, s.fetch .revRegInfo r = some e ∧ e.valueJson = .ok info := by
  unfold Store.info
  rcases s.fetch .revRegInfo r with _ | e
  · simp
  · rcases h : e.valueJson <;> simp [h, Except.toOption]

theorem revRegDef_eq_some {s : Store} {r : String} {d : RevocationRegistryDefinition} :
    s.revRegDef r = some d ↔ ∃ e, s.fetch .revRegDef r = some e ∧ e.loadRevRegDef = .ok d := by
  unfold Store.revRegDef
  rcases s.fetch .revRegDef r with _ | e
  · simp
  · rcases h : e.loadRevRegDef <;> simp [h, Except.toOption]

theorem revList_eq_some {s : Store} {r : String} {l : RevocationStatusList} :
    s.revList r = some l ↔ ∃ e, s.fetch .revList r = some e ∧ e.loadRevList = .ok l := by
  unfold Store.revList
  rcases s.fetch .revList r with _ | e
  · simp
  · rcases h : e.loadRevList <;> simp [h, Except.toOption]

theorem info_put (s : Store) (c : Category) (n r : String) (e : Entry) :
    (s.put c n e).info r =
      if c = .revRegInfo ∧ n = r then e.valueJson.toOption else s.info r := by
  unfold Store.info
  rw [fetch_put]
  by_cases h : c = .revRegInfo ∧ n = r
  · obtain ⟨rfl, rfl⟩ := h
    simp
  · rw [if_neg (fun h' => h ⟨h'.1.symm, h'.2.symm⟩), if_neg h]

theorem revRegDef_put (s : Store) (c : Category) (n r : String) (e : Entry) :
    (s.put c n e).revRegDef r =
      if c = .revRegDef ∧ n = r then e.loadRevRegDef.toOption else s.revRegDef r := by
  unfold Store.revRegDef
  rw [fetch_put]
  by_cases h : c = .revRegDef ∧ n = r
  · obtain ⟨rfl, rfl⟩ := h
    simp
  · rw [if_neg (fun h' => h ⟨h'.1.symm, h'.2.symm⟩), if_neg h]

/-! ## Records -/

/-- The store with the record `r` written under its id. -/
def putRecord (s : Store) (r : IssuerRevRegRecord) : Store where
  entries := s.entries
  records := s.records.insert r.recordId r
  keyed x hx := by
    rw [AList.insert_entries, List.mem_cons] at hx
    rcases hx with rfl | hx
    · rfl
    · exact s.keyed x ((List.kerase_sublist _ _).subset hx)

/-- Modelled from the spec: `record.save(session)`, an insert for a record
    created with `new_with_id` and a replace otherwise. -/
def saveRecord (s : Store) (r : IssuerRevRegRecord) (new : Bool) : Except PyError Store :=
  if new = (s.records.lookup r.recordId).isSome then
    .error (if new then .storageDuplicate "Duplicate IssuerRevRegRecord record"
      else .storageNotFound "IssuerRevRegRecord record not found")
  else .ok (s.putRecord r)

/-- Modelled from the spec: `IssuerRevRegRecord.retrieve_by_revoc_reg_id`, a
    query by the `revoc_reg_id` tag that expects one record. -/
def retrieveByRevocRegId (s : Store) (revocRegId : String) :
    Except PyError IssuerRevRegRecord :=
  match s.records.entries.filter (fun r => r.2.revocRegId = some revocRegId) with
  | [r] => .ok r.2
  | [] => .error (.storageNotFound "IssuerRevRegRecord record not found")
  | _ => .error (.storageDuplicate "Multiple IssuerRevRegRecord records located")

@[simp] theorem entries_putRecord (s : Store) (r : IssuerRevRegRecord) :
    (s.putRecord r).entries = s.entries := rfl

@[simp] theorem fetch_putRecord (s : Store) (r : IssuerRevRegRecord) (c : Category)
    (n : String) : (s.putRecord r).fetch c n = s.fetch c n := rfl

@[simp] theorem info_putRecord (s : Store) (r : IssuerRevRegRecord) (n : String) :
    (s.putRecord r).info n = s.info n := rfl

@[simp] theorem revRegDef_putRecord (s : Store) (r : IssuerRevRegRecord) (n : String) :
    (s.putRecord r).revRegDef n = s.revRegDef n := rfl

@[simp] theorem revList_putRecord (s : Store) (r : IssuerRevRegRecord) (n : String) :
    (s.putRecord r).revList n = s.revList n := rfl

theorem lookup_putRecord (s : Store) (r : IssuerRevRegRecord) (id : String) :
    (s.putRecord r).records.lookup id =
      if id = r.recordId then some r else s.records.lookup id := by
  by_cases h : id = r.recordId
  · subst h
    simp [putRecord]
  · rw [if_neg h, putRecord, AList.lookup_insert_ne h]

/-- A record found in the store is found under its own id. -/
theorem lookup_recordId {s : Store} {id : String} {r : IssuerRevRegRecord}
    (h : s.records.lookup id = some r) : r.recordId = id :=
  s.keyed ⟨id, r⟩ (AList.mem_lookup_iff.1 h)

theorem saveRecord_eq_ok {s s' : Store} {r : IssuerRevRegRecord} {new : Bool} :
    s.saveRecord r new = .ok s' ↔
      (new = true ↔ s.records.lookup r.recordId = none) ∧ s' = s.putRecord r := by
  unfold saveRecord
  cases new <;> cases s.records.lookup r.recordId <;> simp [eq_comm]

theorem eq_singleton_of_nodup {α : Type} {l : List α} {a : α} (hn : l.Nodup) (ha : a ∈ l)
    (h : ∀ x ∈ l, x = a) : l = [a] := by
  have hr := List.eq_replicate_iff.2 ⟨rfl, h⟩
  have h1 : l.length ≤ 1 := List.nodup_replicate.1 (hr ▸ hn)
  rw [hr, show l.length = 1 by have := List.length_pos_of_mem ha; omega]
  rfl

/-- The query by `revoc_reg_id` returns `x` exactly when `x` is stored, carries
    the tag, and is the only record that does. -/
theorem retrieveByRevocRegId_eq_ok {s : Store} {r : String} {x : IssuerRevRegRecord} :
    s.retrieveByRevocRegId r = .ok x ↔ s.records.lookup x.recordId = some x ∧
      x.revocRegId = some r ∧
      ∀ k y, s.records.lookup k = some y → y.revocRegId = some r → k = x.recordId := by
  constructor
  · intro h
    unfold retrieveByRevocRegId at h
    split at h
    · rename_i y hy
      cases h
      obtain ⟨hmem, hr⟩ := List.mem_filter.1 (hy ▸ List.mem_singleton_self y)
      refine ⟨by rw [s.keyed y hmem]; exact AList.mem_lookup_iff.2 hmem, of_decide_eq_true hr, ?_⟩
      intro k z hk hz
      have hkz := hy ▸ List.mem_filter.2 ⟨AList.mem_lookup_iff.1 hk, decide_eq_true hz⟩
      rw [s.keyed y hmem, ← List.mem_singleton.1 hkz]
    all_goals cases h
  · rintro ⟨hx, hr, hu⟩
    have hmem := AList.mem_lookup_iff.1 hx
    have hf : s.records.entries.filter (fun e => e.2.revocRegId = some r) = [⟨x.recordId, x⟩] :=
      eq_singleton_of_nodup (s.records.nodupKeys.nodup.filter _)
        (List.mem_filter.2 ⟨hmem, decide_eq_true hr⟩) fun y hy => by
          obtain ⟨hy, hyr⟩ := List.mem_filter.1 hy
          have hk := hu y.1 y.2 (AList.mem_lookup_iff.2 hy) (of_decide_eq_true hyr)
          obtain ⟨k, y⟩ := y
          dsimp only at hk
          subst hk
          rw [Option.some.inj ((AList.mem_lookup_iff.2 hy).symm.trans hx)]
    simp only [retrieveByRevocRegId, hf]

/-- The query reads the records only. -/
theorem retrieveByRevocRegId_congr {s s' : Store} (h : s'.records = s.records) (r : String) :
    s'.retrieveByRevocRegId r = s.retrieveByRevocRegId r := by
  simp only [retrieveByRevocRegId, h]

/-- Saving the record a query finds, with the tag kept, makes the query find the
    saved record. -/
theorem retrieveByRevocRegId_putRecord_self {s : Store} {r : String} {x y : IssuerRevRegRecord}
    (h : s.retrieveByRevocRegId r = .ok x) (hid : y.recordId = x.recordId)
    (hr : y.revocRegId = some r) : (s.putRecord y).retrieveByRevocRegId r = .ok y := by
  obtain ⟨-, -, hu⟩ := retrieveByRevocRegId_eq_ok.1 h
  refine retrieveByRevocRegId_eq_ok.2 ⟨by simp [lookup_putRecord], hr, fun k z hk hz => ?_⟩
  rw [lookup_putRecord] at hk
  split_ifs at hk with hky
  · exact hky
  · exact hid ▸ hu k z hk hz

/-- Saving another record, without the tag, leaves what the query finds. -/
theorem retrieveByRevocRegId_putRecord_other {s : Store} {r : String} {x y : IssuerRevRegRecord}
    (h : s.retrieveByRevocRegId r = .ok x) (hid : y.recordId ≠ x.recordId)
    (hr : y.revocRegId ≠ some r) : (s.putRecord y).retrieveByRevocRegId r = .ok x := by
  obtain ⟨hx, hxr, hu⟩ := retrieveByRevocRegId_eq_ok.1 h
  refine retrieveByRevocRegId_eq_ok.2 ⟨?_, hxr, fun k z hk hz => ?_⟩
  · rw [lookup_putRecord, if_neg (Ne.symm hid), hx]
  · rw [lookup_putRecord] at hk
    split_ifs at hk with hky
    · cases hk
      exact absurd hz hr
    · exact hu k z hk hz

end Store

end Acapy
