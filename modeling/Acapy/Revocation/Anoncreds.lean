import Acapy.Store

/-!
# The registry manager

`AnonCredsRevocation` (`revocation/anoncreds.py`) creates the revocation
registry records of a credential definition and retires the full ones.

* `init_issuer_registry` asks the resolver for the credential definition,
  checks that it supports revocation and that the requested size lies in
  `[MIN_SIZE, MAX_SIZE]`, and saves a new record, in state `init`, under a
  fresh `uuid4` id; it then looks up the endorser and sends the
  initialisation event. The outcomes of the resolver, of `uuid4`, and of the
  endorser lookup and the event are inputs.
* `handle_full_registry` marks the record of a registry full in one
  transaction that reads it for update (`markFull`), unless it is full
  already, and then starts a successor with `init_issuer_registry`, with the
  issuer, credential definition, size and type of the full registry.

`RevocationRegistry.MIN_SIZE` and `MAX_SIZE` belong to a module that is not
under src/: they are parameters.

* `markFull_eq_ok`: the transaction either finds the record full and changes
  nothing, or marks it full and returns it as it was;
* `initIssuerRegistry_store`: `init_issuer_registry` changes the store at
  most by one new record, `InitArgs.record`.
-/

namespace Acapy

/-! ## Creating a record -/

/-- The arguments of `init_issuer_registry` that the modelled code reads. -/
structure InitArgs where
  issuerId : String
  credDefId : String
  maxCredNum : Option Nat
  revocDefType : Option String
  tag : Option String
  deriving DecidableEq, Repr

/-- The record `init_issuer_registry` creates under the id `recordId`. -/
def InitArgs.record (args : InitArgs) (recordId : String) : IssuerRevRegRecord :=
  { recordId := recordId, state := .init, revocRegId := none, credDefId := args.credDefId,
    issuerId := args.issuerId, maxCredNum := args.maxCredNum,
    revocDefType := args.revocDefType, tag := some (args.tag.getD recordId) }

/-- The checks of `init_issuer_registry`, given whether the credential
    definition the resolver returned supports revocation (or what the
    resolver raised). -/
def checkInit (minSize maxSize : Nat) (args : InitArgs)
    (supportsRevocation : Except PyError Bool) : Except PyError Unit := do
  let revocation ← supportsRevocation
  if !revocation then
    throw (.revocationNotSupported "Credential definition does not support revocation")
  match args.maxCredNum with
  | some m =>
    if m ≠ 0 ∧ ¬(minSize ≤ m ∧ m ≤ maxSize) then
      throw (.badSize s!"Bad revocation registry size: {m}")
  | none => pure ()

/-- `init_issuer_registry(...)`, given the resolver's answer, the `uuid4` it
    draws, and the outcome of the endorser lookup and the event: the record it
    returns, or what it raised, and the store it leaves. -/
def initIssuerRegistry (minSize maxSize : Nat) (s : Store) (args : InitArgs)
    (supportsRevocation : Except PyError Bool) (recordId : String)
    (notified : Except PyError Unit) : Except PyError IssuerRevRegRecord × Store :=
  match checkInit minSize maxSize args supportsRevocation with
  | .error e => (.error e, s)
  | .ok () =>
    match s.saveRecord (args.record recordId) true with
    | .error e => (.error e, s)
    | .ok s => (notified.map fun _ => args.record recordId, s)

/-- `init_issuer_registry` leaves the store as it was, or adds the new record
    under an id that was free. -/
theorem initIssuerRegistry_store (minSize maxSize : Nat) (s : Store) (args : InitArgs)
    (supportsRevocation : Except PyError Bool) (recordId : String)
    (notified : Except PyError Unit) :
    (initIssuerRegistry minSize maxSize s args supportsRevocation recordId notified).2 = s ∨
      (s.records.lookup recordId = none ∧
        (initIssuerRegistry minSize maxSize s args supportsRevocation recordId notified).2 =
          s.putRecord (args.record recordId)) := by
  unfold initIssuerRegistry
  rcases checkInit minSize maxSize args supportsRevocation with e | ⟨⟩
  · exact .inl rfl
  rcases h : s.saveRecord (args.record recordId) true with e | s'
  · exact .inl rfl
  obtain ⟨hnew, rfl⟩ := Store.saveRecord_eq_ok.1 h
  exact .inr ⟨hnew.1 rfl, rfl⟩

/-! ## Retiring a full registry -/

/-- The arguments `handle_full_registry` passes on to `init_issuer_registry`:
    those of the full registry. -/
def IssuerRevRegRecord.initArgs (registry : IssuerRevRegRecord) : InitArgs :=
  { issuerId := registry.issuerId, credDefId := registry.credDefId,
    maxCredNum := registry.maxCredNum, revocDefType := registry.revocDefType, tag := none }

/-- The transaction of `handle_full_registry`: the record of the registry, if
    it was not full, and the store with the record marked full. -/
def markFull (s : Store) (revocRegId : String) :
    Except PyError (Option IssuerRevRegRecord × Store) := do
  let registry ← s.retrieveByRevocRegId revocRegId
  if registry.state = .full then
    return (none, s)
  let s ← s.saveRecord { registry with state := .full } false
  return (some registry, s)

/-- `handle_full_registry(revoc_reg_id)`, given the outcomes of the
    `init_issuer_registry` it calls. -/
def handleFullRegistry (minSize maxSize : Nat) (s : Store) (revocRegId : String)
    (supportsRevocation : Except PyError Bool) (recordId : String)
    (notified : Except PyError Unit) : Except PyError Unit × Store :=
  match markFull s revocRegId with
  | .error e => (.error e, s)
  | .ok (none, s) => (.ok (), s)
  | .ok (some registry, s) =>
    let (result, s) :=
      initIssuerRegistry minSize maxSize s registry.initArgs supportsRevocation recordId notified
    (result.map fun _ => (), s)

/-- The transaction either finds the record full and changes nothing, or marks
    it full and returns it as it was. -/
theorem markFull_eq_ok {s s' : Store} {r : String} {x : Option IssuerRevRegRecord}
    (h : markFull s r = .ok (x, s')) :
    ∃ registry, s.retrieveByRevocRegId r = .ok registry ∧
      ((registry.state = .full ∧ x = none ∧ s' = s) ∨
        (registry.state ≠ .full ∧ x = some registry ∧
          s' = s.putRecord { registry with state := .full })) := by
  simp only [markFull, bind_eq_ok] at h
  obtain ⟨registry, hr, h⟩ := h
  refine ⟨registry, hr, ?_⟩
  split_ifs at h with hfull
  · cases h
    exact .inl ⟨hfull, rfl, rfl⟩
  · simp only [pure, Except.pure, bind_eq_ok, Except.ok.injEq, Prod.mk.injEq] at h
    obtain ⟨-, -, s1, hs, rfl, rfl⟩ := h
    exact .inr ⟨hfull, rfl, (Store.saveRecord_eq_ok.1 hs).2⟩

/-- The transaction on a registry whose record the query finds: it marks the
    record full, unless it is full already. -/
theorem markFull_of_retrieve {s : Store} {r : String} {registry : IssuerRevRegRecord}
    (h : s.retrieveByRevocRegId r = .ok registry) :
    markFull s r = .ok (if registry.state = .full then (none, s)
      else (some registry, s.putRecord { registry with state := .full })) := by
  have hx := (Store.retrieveByRevocRegId_eq_ok.1 h).1
  simp only [markFull, h, bind, Except.bind]
  split_ifs
  · rfl
  · simp [Store.saveRecord, hx, pure, Except.pure]

/-- `handle_full_registry` changes records only: no entry of the store. -/
theorem handleFullRegistry_fetch (minSize maxSize : Nat) (s : Store) (revocRegId : String)
    (supportsRevocation : Except PyError Bool) (recordId : String)
    (notified : Except PyError Unit) (c : Category) (n : String) :
    (handleFullRegistry minSize maxSize s revocRegId supportsRevocation recordId notified).2.fetch
      c n = s.fetch c n := by
  unfold handleFullRegistry
  rcases h : markFull s revocRegId with e | ⟨x, s'⟩
  · rfl
  obtain ⟨registry, -, ⟨-, rfl, rfl⟩ | ⟨-, rfl, rfl⟩⟩ := markFull_eq_ok h
  · rfl
  rcases initIssuerRegistry_store minSize maxSize (s.putRecord { registry with state := .full })
      registry.initArgs supportsRevocation recordId notified with h' | ⟨-, h'⟩ <;>
    simp [h']

end Acapy
