import Acapy.Revocation.Anoncreds

/-!
# The active registry

`get_or_create_active_registry(cred_def_id)` chooses the registry that new
credentials of a credential definition go to. It queries the records of the
credential definition in state `active`, sorts them by creation (the records'
order), and returns the first, with its registry; when there is none, it
queries the records that are not full, and when there is none of those either,
it asks `init_issuer_registry` for a new one, and returns `None`.

The call that asks for a new registry passes the credential definition id as
the only positional argument, where `init_issuer_registry` takes the issuer id
and then the credential definition id, both without a default: Python raises
`TypeError` when it binds the arguments (`bindInitArgs`), before any record is
made. So:

* `getOrCreateActiveRegistry_cases`: the call returns the oldest active record,
  or `None` when some record is not full, and otherwise raises `TypeError`; it
  never changes the store;
* `getOrCreateActiveRegistry_empty`: with no record at all, it raises
  `TypeError` and creates nothing.

The creation time of a record belongs to its base class, which is not under
src/: the order is a parameter, any key into a linear order.
-/

namespace Acapy

/-- The state filter of `IssuerRevRegRecord.query_by_cred_def_id`: a state, or
    `{"$neq": state}`. -/
inductive StateFilter
  | eq (state : RecordState)
  | neq (state : RecordState)
  deriving DecidableEq, Repr

/-- Whether a record in the state `st` passes the filter. -/
def StateFilter.test : StateFilter → RecordState → Bool
  | .eq state, st => st = state
  | .neq state, st => st ≠ state

/-- Modelled from the spec: `IssuerRevRegRecord.query_by_cred_def_id(session,
    cred_def_id, state)`, a query by the `cred_def_id` and `state` tags, in the
    order of the store. -/
def Store.queryByCredDefId (s : Store) (credDefId : String) (state : StateFilter) :
    List IssuerRevRegRecord :=
  (s.records.entries.map (·.2)).filter fun r => r.credDefId = credDefId ∧ state.test r.state

/-- The records of no credential definition are active unless they are not
    full. -/
theorem queryByCredDefId_active_eq_nil {s : Store} {credDefId : String}
    (h : s.queryByCredDefId credDefId (.neq .full) = []) :
    s.queryByCredDefId credDefId (.eq .active) = [] := by
  simp only [Store.queryByCredDefId, List.filter_eq_nil_iff, StateFilter.test] at h ⊢
  intro r hr hact
  simp only [decide_eq_true_eq] at hact
  exact h r hr (by simp [hact.1, hact.2])

/-- Python's binding of the arguments of a call
    `init_issuer_registry(*args, max_cred_num=max_cred_num)`: its parameters
    `issuer_id` and `cred_def_id` come first and have no default. -/
def bindInitArgs (args : List String) (maxCredNum : Option Nat) : Except PyError InitArgs :=
  match args with
  | [] => .error (.typeError ("AnonCredsRevocation.init_issuer_registry() missing 2 required " ++
      "positional arguments: \x27issuer_id\x27 and \x27cred_def_id\x27"))
  | [_] => .error (.typeError ("AnonCredsRevocation.init_issuer_registry() missing 1 required " ++
      "positional argument: \x27cred_def_id\x27"))
  | [issuerId, credDefId] =>
    .ok { issuerId, credDefId, maxCredNum, revocDefType := none, tag := none }
  | _ => .error (.typeError ("AnonCredsRevocation.init_issuer_registry() got multiple values " ++
      "for argument \x27max_cred_num\x27"))

section Choose

variable {κ : Type} [LinearOrder κ] (createdAt : IssuerRevRegRecord → κ)

/-- `sorted(records)`: by creation time, the earlier first, and in the order
    given between records created at the same time. -/
def sortRecords (l : List IssuerRevRegRecord) : List IssuerRevRegRecord :=
  l.insertionSort fun a b => createdAt a ≤ createdAt b

/-- `get_active_issuer_rev_reg_record(cred_def_id)`. -/
def getActiveIssuerRevRegRecord (s : Store) (credDefId : String) :
    Except PyError IssuerRevRegRecord :=
  match sortRecords createdAt (s.queryByCredDefId credDefId (.eq .active)) with
  | current :: _ => .ok current
  | [] => .error (.storageNotFound
      s!"No active issuer revocation record found for cred def id {credDefId}")

/-- The first record of the sort is one of the oldest. -/
theorem sortRecords_head {l rest : List IssuerRevRegRecord} {x : IssuerRevRegRecord}
    (h : sortRecords createdAt l = x :: rest) :
    x ∈ l ∧ ∀ y ∈ l, createdAt x ≤ createdAt y := by
  have hp := List.perm_insertionSort (fun a b => createdAt a ≤ createdAt b) l
  haveI : IsTotal IssuerRevRegRecord (fun a b => createdAt a ≤ createdAt b) :=
    ⟨fun a b => le_total _ _⟩
  haveI : IsTrans IssuerRevRegRecord (fun a b => createdAt a ≤ createdAt b) :=
    ⟨fun _ _ _ => le_trans⟩
  have hs := List.sorted_insertionSort (fun a b => createdAt a ≤ createdAt b) l
  rw [sortRecords] at h
  rw [h] at hp hs
  refine ⟨hp.mem_iff.1 (List.mem_cons_self _ _), fun y hy => ?_⟩
  rcases List.mem_cons.1 (hp.mem_iff.2 hy) with rfl | hy
  · exact le_rfl
  · exact List.rel_of_sorted_cons hs y hy

/-- `get_active_issuer_rev_reg_record` finds one of the oldest active records
    when there is one. -/
theorem getActiveIssuerRevRegRecord_of_ne_nil {s : Store} {credDefId : String}
    (h : s.queryByCredDefId credDefId (.eq .active) ≠ []) :
    ∃ x ∈ s.queryByCredDefId credDefId (.eq .active),
      (∀ y ∈ s.queryByCredDefId credDefId (.eq .active), createdAt x ≤ createdAt y) ∧
      getActiveIssuerRevRegRecord createdAt s credDefId = .ok x := by
  rcases hs : sortRecords createdAt (s.queryByCredDefId credDefId (.eq .active)) with _ | ⟨x, rest⟩
  · have hp : List.Perm (sortRecords createdAt (s.queryByCredDefId credDefId (.eq .active))) _ :=
      List.perm_insertionSort _ _
    rw [hs] at hp
    exact absurd hp.symm.eq_nil h
  · obtain ⟨hx, hle⟩ := sortRecords_head createdAt hs
    exact ⟨x, hx, hle, by simp [getActiveIssuerRevRegRecord, hs]⟩

variable {ρ : Type}

/-- The end of `get_or_create_active_registry`, once no active record was
    found: a new record is asked for when none of the credential definition is
    not full. -/
def createIfNone (minSize maxSize : Nat) (s : Store) (credDefId : String)
    (maxCredNum : Option Nat) (supportsRevocation : Except PyError Bool) (recordId : String)
    (notified : Except PyError Unit) : Except PyError (Option (IssuerRevRegRecord × ρ)) × Store :=
  if (s.queryByCredDefId credDefId (.neq .full)).isEmpty then
    match bindInitArgs [credDefId] maxCredNum with
    | .error e => (.error e, s)
    | .ok args =>
      let (result, s) :=
        initIssuerRegistry minSize maxSize s args supportsRevocation recordId notified
      (result.map fun _ => none, s)
  else (.ok none, s)

/-- `get_or_create_active_registry(cred_def_id, max_cred_num)`, given
    `getRegistry`, the outcome of `get_registry()` and then
    `get_or_fetch_local_tails_path()` on the active record, and the outcomes of
    the `init_issuer_registry` it calls. -/
def getOrCreateActiveRegistry (minSize maxSize : Nat) (s : Store) (credDefId : String)
    (maxCredNum : Option Nat) (getRegistry : IssuerRevRegRecord → Except PyError ρ)
    (supportsRevocation : Except PyError Bool) (recordId : String)
    (notified : Except PyError Unit) : Except PyError (Option (IssuerRevRegRecord × ρ)) × Store :=
  let tried : Except PyError (IssuerRevRegRecord × ρ) := do
    let activeRevRegRec ← getActiveIssuerRevRegRecord createdAt s credDefId
    let revReg ← getRegistry activeRevRegRec
    pure (activeRevRegRec, revReg)
  match tried with
  | .ok found => (.ok (some found), s)
  | .error (.storageNotFound _) =>
    createIfNone minSize maxSize s credDefId maxCredNum supportsRevocation recordId notified
  | .error e => (.error e, s)

/-- The message of the `TypeError` of the call that asks for a new registry. -/
def missingCredDefId : String :=
  "AnonCredsRevocation.init_issuer_registry() missing 1 required positional argument: " ++
    "\x27cred_def_id\x27"

/-- The end of the call never makes a record: with a record that is not full
    it returns `None`, and otherwise it raises `TypeError`. -/
theorem createIfNone_eq (minSize maxSize : Nat) (s : Store) (credDefId : String)
    (maxCredNum : Option Nat) (supportsRevocation : Except PyError Bool) (recordId : String)
    (notified : Except PyError Unit) :
    (createIfNone minSize maxSize s credDefId maxCredNum supportsRevocation recordId notified :
      Except PyError (Option (IssuerRevRegRecord × ρ)) × Store) =
      if s.queryByCredDefId credDefId (.neq .full) = [] then
        (.error (.typeError missingCredDefId), s)
      else (.ok none, s) := by
  by_cases h : s.queryByCredDefId credDefId (.neq .full) = [] <;>
    simp [createIfNone, h, bindInitArgs, missingCredDefId]

/-- What `get_or_create_active_registry` does, for every store: it returns
    one of the oldest active records, with its registry; or, with no active
    record, `None` when some record of the credential definition is not full;
    or, with none at all, it raises `TypeError`. It never changes the store. -/
theorem getOrCreateActiveRegistry_cases (minSize maxSize : Nat) (s : Store) (credDefId : String)
    (maxCredNum : Option Nat) (getRegistry : IssuerRevRegRecord → Except PyError ρ)
    (supportsRevocation : Except PyError Bool) (recordId : String)
    (notified : Except PyError Unit) :
    let r := getOrCreateActiveRegistry createdAt minSize maxSize s credDefId maxCredNum
      getRegistry supportsRevocation recordId notified
    r.2 = s ∧
    (s.queryByCredDefId credDefId (.eq .active) ≠ [] →
      ∃ x ∈ s.queryByCredDefId credDefId (.eq .active),
        (∀ y ∈ s.queryByCredDefId credDefId (.eq .active), createdAt x ≤ createdAt y) ∧
        ∀ revReg, getRegistry x = .ok revReg → r.1 = .ok (some (x, revReg))) ∧
    (s.queryByCredDefId credDefId (.eq .active) = [] →
      s.queryByCredDefId credDefId (.neq .full) ≠ [] → r.1 = .ok none) ∧
    (s.queryByCredDefId credDefId (.neq .full) = [] → r.1 = .error (.typeError missingCredDefId))
    := by
  have hnil : s.queryByCredDefId credDefId (.eq .active) = [] →
      getActiveIssuerRevRegRecord createdAt s credDefId = .error (.storageNotFound
        s!"No active issuer revocation record found for cred def id {credDefId}") := fun h => by
    simp [getActiveIssuerRevRegRecord, h, sortRecords]
  refine ⟨?_, fun h => ?_, fun h hf => ?_, fun hf => ?_⟩
  · simp only [getOrCreateActiveRegistry]
    split
    · rfl
    · rw [createIfNone_eq]
      split_ifs <;> rfl
    · rfl
  · obtain ⟨x, hx, hle, hg⟩ := getActiveIssuerRevRegRecord_of_ne_nil createdAt h
    exact ⟨x, hx, hle, fun revReg hr => by
      simp [getOrCreateActiveRegistry, hg, hr, bind, Except.bind, pure, Except.pure]⟩
  · simp [getOrCreateActiveRegistry, hnil h, createIfNone_eq, hf, bind, Except.bind]
  · simp [getOrCreateActiveRegistry, hnil (queryByCredDefId_active_eq_nil hf), createIfNone_eq,
      hf, bind, Except.bind]

/-- With no record of the credential definition, the call raises `TypeError`
    and leaves the store as it was: no record is created. -/
theorem getOrCreateActiveRegistry_empty (minSize maxSize : Nat) (credDefId : String)
    (maxCredNum : Option Nat) (getRegistry : IssuerRevRegRecord → Except PyError ρ)
    (supportsRevocation : Except PyError Bool) (recordId : String)
    (notified : Except PyError Unit) :
    getOrCreateActiveRegistry createdAt minSize maxSize Store.empty credDefId maxCredNum
      getRegistry supportsRevocation recordId notified =
      (.error (.typeError missingCredDefId), Store.empty) := by
  rfl

end Choose

end Acapy
