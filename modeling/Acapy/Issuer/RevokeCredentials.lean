import Acapy.Store

/-!
# Revoking credentials

`AnonCredsIssuer.revoke_credentials` revokes a batch of indices of a registry
under optimistic concurrency. Each attempt of its `while True` loop

1. reads the registry's definition, status list and `CATEGORY_REV_REG_INFO`
   entry, in three reads outside any transaction;
2. sorts the requested indices (`partition`) into those it revokes and those
   it skips: out of range, not yet issued, or already revoked; with nothing
   to revoke it stops there;
3. computes the updated status list (`plan`);
4. in a transaction (`commitRevocation`), fetches the entry again for update
   and, if it still holds what step 1 read, replaces the status list and adds
   the revoked indices to `used_ids`; otherwise it starts a new attempt.

The counter is incremented and compared at the top of the loop, before the
attempt: the call raises `Repeated conflict attempting to update registry`
when it reaches `max_attempt`.

The status list update takes the timestamp `int(time.time())`, computed in the
executor's lambda. The module binds `time` to the function `time.time`
(`from time import time`, line 7), so the expression raises `AttributeError`
(`timeTime`). The model takes the value of that expression as the parameter
`now`, so that what the rest of the loop does is stated as well; the code is
the case `now = timeTime`.

* With the code's timestamp, a call never changes the store, and returns only
  when nothing is eligible (`revokeCredentials_timeTime`); on a registry with
  an issued index it raises (`revokeCredentials_sample_raises`).
* A request of no index returns with no status lists, whatever the timestamp
  (`revokeCredentials_nil`).
* With a timestamp `t`, a call with no concurrent writer revokes the eligible
  indices in its first attempt, and repeating it changes nothing
  (`revokeCredentials_of_now`, `revokeCredentials_repeat`).
-/

namespace Acapy

/-- What `int(time.time())` evaluates to in `revoke_credentials`: the name
    `time` is the function imported by `from time import time`, which has no
    attribute `time`. -/
def timeTime : Except PyError Int :=
  .error (.attribute "\x27builtin_function_or_method\x27 object has no attribute \x27time\x27")

/-! ## Sorting the requested indices -/

/-- A requested index that `revoke_credentials` revokes: in range, issued, and
    not yet revoked. -/
def eligible (maxCredNum : Nat) (revInfo : RevRegInfo) (revId : Int) : Bool :=
  decide (1 ≤ revId ∧ revId ≤ maxCredNum ∧ revId ≤ revInfo.currId ∧ revId ∉ revInfo.usedIds)

/-- One iteration of the loop over the requested indices, adding the index to
    `rev_crids` or to `failed_crids`. -/
def partitionStep (maxCredNum : Nat) (revInfo : RevRegInfo) (acc : Finset Int × Finset Int)
    (revId : Int) : Finset Int × Finset Int :=
  if revId < 1 ∨ revId > maxCredNum then (acc.1, insert revId acc.2)
  else if revId > revInfo.currId then (acc.1, insert revId acc.2)
  else if revId ∈ revInfo.usedIds then (acc.1, insert revId acc.2)
  else (insert revId acc.1, acc.2)

/-- The loop over the requested indices: `(rev_crids, failed_crids)`. -/
def partition (maxCredNum : Nat) (revInfo : RevRegInfo) (credRevocIds : List Int) :
    Finset Int × Finset Int :=
  credRevocIds.foldl (partitionStep maxCredNum revInfo) (∅, ∅)

theorem partitionStep_eq (m : Nat) (info : RevRegInfo) (acc : Finset Int × Finset Int)
    (x : Int) : partitionStep m info acc x =
      if eligible m info x then (insert x acc.1, acc.2) else (acc.1, insert x acc.2) := by
  simp only [partitionStep, eligible, decide_eq_true_eq]
  split_ifs <;> first | rfl | omega | simp_all

/-- The indices revoked are the eligible requested ones, and the others are
    reported as failed. -/
theorem partition_eq (m : Nat) (info : RevRegInfo) (ids : List Int) :
    partition m info ids =
      ((ids.filter (eligible m info)).toFinset, (ids.filter (!eligible m info ·)).toFinset) := by
  suffices h : ∀ acc, ids.foldl (partitionStep m info) acc =
      (acc.1 ∪ (ids.filter (eligible m info)).toFinset,
        acc.2 ∪ (ids.filter (!eligible m info ·)).toFinset) by
    simpa using h (∅, ∅)
  induction ids with
  | nil => simp
  | cons x ids ih =>
    intro acc
    rw [List.foldl_cons, ih, partitionStep_eq]
    by_cases hx : eligible m info x <;> simp [hx, Finset.insert_union]

/-! ## An attempt -/

/-- What `revoke_credentials` returns: the status list before and after, and
    the indices it did not revoke. -/
structure RevokeResult where
  prev : Option RevocationStatusList
  curr : Option RevocationStatusList
  failed : List String
  deriving DecidableEq

/-- Where an attempt goes after its reads. -/
inductive Plan
  /-- `if not rev_crids: break`, returning this. -/
  | stop (result : RevokeResult)
  /-- On to the commit, with the `rev_info` read, the indices to revoke, those
      that failed, and the status list before and after. -/
  | commit (revInfo : RevRegInfo) (revCrids failedCrids : Finset Int)
      (prevList updatedList : RevocationStatusList)

/-- The failed indices as `revoke_credentials` returns them. -/
def failedStrings (failedCrids : Finset Int) : List String :=
  (sorted failedCrids).map toString

/-- An attempt after its three reads: the checks, the partition, and the update
    of the status list, at the time `now`. `prev` and `curr` are the lists that
    earlier attempts computed. -/
def plan (now : Except PyError Int) (credRevocIds : List Int)
    (prev curr : Option RevocationStatusList)
    (revRegDefEntry revListEntry revRegInfo : Option Entry) : Except PyError Plan := do
  let revRegDefEntry ← required "Revocation registry definition not found" revRegDefEntry
  let revListEntry ← required "Revocation registry not found" revListEntry
  let revRegInfo ← required "Revocation registry metadata not found" revRegInfo
  let revRegDef ← wrapAnoncreds "Error loading revocation registry definition"
    revRegDefEntry.loadRevRegDef
  let revInfo ← revRegInfo.valueJson
  let (revCrids, failedCrids) := partition revRegDef.maxCredNum revInfo credRevocIds
  if revCrids = ∅ then
    return .stop ⟨prev, curr, failedStrings failedCrids⟩
  let prevList ← wrapAnoncreds "Error loading revocation registry" revListEntry.loadRevList
  let timestamp ← now
  return .commit revInfo revCrids failedCrids prevList (prevList.update timestamp revCrids)

/-- How the commit transaction of an attempt ends. -/
inductive Commit
  /-- The status list was gone: `updated_list = None; break`. -/
  | missing
  /-- `REV_REG_INFO` changed since it was read: `continue`. -/
  | conflict
  /-- The new list and `used_ids` were committed. -/
  | committed

/-- The `used_ids` written by a commit that revokes `revCrids`. -/
def RevRegInfo.revoke (revInfo : RevRegInfo) (revCrids : Finset Int) : RevRegInfo :=
  { revInfo with usedIds := sorted (revInfo.usedIds.toFinset ∪ revCrids) }

theorem RevRegInfo.revoke_revoke (revInfo : RevRegInfo) (X Y : Finset Int) :
    (revInfo.revoke X).revoke Y = revInfo.revoke (X ∪ Y) := by
  simp [RevRegInfo.revoke, Finset.union_assoc]

/-- The commit transaction of an attempt that read `revInfo`. (Its test
    `not rev_reg_info` reads the entry of the attempt's reads, which is never
    `None` there.) -/
def commitRevocation (s : Store) (revocRegId : String) (revInfo : RevRegInfo)
    (revCrids : Finset Int) (updatedList : RevocationStatusList) :
    Except PyError (Commit × Store) :=
  wrapAskar "Error saving revocation registry" do
    let some _ := s.fetch .revList revocRegId | return (.missing, s)
    let revInfoUpd ← match s.fetch .revRegInfo revocRegId with
      | some e => e.valueJson
      | none => throw (.attribute "\x27NoneType\x27 object has no attribute \x27value_json\x27")
    if revInfoUpd ≠ revInfo then
      return (.conflict, s)
    let s ← s.replace .revList revocRegId (.plain (.revList updatedList))
    let s ← s.replace .revRegInfo revocRegId (.plain (.revRegInfo (revInfoUpd.revoke revCrids)))
    return (.committed, s)

/-- An attempt goes on to its commit only after its checks pass, with the
    indices it revokes sorted out of `info` and the timestamp evaluated. -/
theorem plan_eq_commit {now : Except PyError Int} {ids : List Int}
    {prev curr : Option RevocationStatusList} {de le ie : Option Entry} {info : RevRegInfo}
    {E F : Finset Int} {pl ul : RevocationStatusList}
    (h : plan now ids prev curr de le ie = .ok (.commit info E F pl ul)) :
    ∃ d t, (∃ e, de = some e ∧ e.loadRevRegDef = .ok d) ∧
      (∃ e, le = some e ∧ e.loadRevList = .ok pl) ∧ (∃ e, ie = some e ∧ e.valueJson = .ok info) ∧
      partition d.maxCredNum info ids = (E, F) ∧ E ≠ ∅ ∧ now = .ok t ∧ ul = pl.update t E := by
  simp only [plan, bind_eq_ok, required_eq_ok, wrapAnoncreds_eq_ok] at h
  obtain ⟨ed, rfl, el, rfl, ei, rfl, d, hd, info', hi, h⟩ := h
  split_ifs at h with hE
  · cases h
  simp only [pure, Except.pure, bind_eq_ok, wrapAnoncreds_eq_ok] at h
  obtain ⟨-, -, pl', hpl, t, rfl, h⟩ := h
  cases h
  exact ⟨d, t, ⟨ed, rfl, hd⟩, ⟨el, rfl, hpl⟩, ⟨ei, rfl, hi⟩, rfl, hE, rfl, rfl⟩

/-- The exceptions an attempt raises before its commit: for a missing entry,
    for an entry that does not load, and the timestamp's. -/
theorem plan_eq_error {now : Except PyError Int} {ids : List Int}
    {prev curr : Option RevocationStatusList} {de le ie : Option Entry} {e : PyError}
    (h : plan now ids prev curr de le ie = .error e) :
    e = .issuer "Revocation registry definition not found" ∨
      e = .issuer "Revocation registry not found" ∨
      e = .issuer "Revocation registry metadata not found" ∨
      e = .issuer "Error loading revocation registry definition" ∨ e = .key "curr_id" ∨
      e = .issuer "Error loading revocation registry" ∨ now = .error e := by
  simp only [plan, bind_eq_error] at h
  rcases h with h | ⟨ed, -, h⟩
  · exact .inl (required_eq_error h)
  rcases h with h | ⟨el, -, h⟩
  · exact .inr (.inl (required_eq_error h))
  rcases h with h | ⟨ei, -, h⟩
  · exact .inr (.inr (.inl (required_eq_error h)))
  rcases h with h | ⟨d, -, h⟩
  · exact .inr (.inr (.inr (.inl (wrapAnoncreds_eq_error h fun _ => Entry.loadRevRegDef_eq_error))))
  rcases h with h | ⟨info, -, h⟩
  · exact .inr (.inr (.inr (.inr (.inl (Entry.valueJson_eq_error h)))))
  split_ifs at h
  · cases h
  simp only [pure, Except.pure, bind_eq_error] at h
  rcases h with h | ⟨-, -, h | ⟨pl, -, h | ⟨t, -, h⟩⟩⟩
  · cases h
  · exact .inr (.inr (.inr (.inr (.inr (.inl (wrapAnoncreds_eq_error h
      fun _ => Entry.loadRevList_eq_error))))))
  · exact .inr (.inr (.inr (.inr (.inr (.inr h)))))
  · cases h

/-- An attempt stops, with the lists of the earlier attempts, only when it has
    nothing to revoke. -/
theorem plan_eq_stop {now : Except PyError Int} {ids : List Int}
    {prev curr : Option RevocationStatusList} {de le ie : Option Entry} {res : RevokeResult}
    (h : plan now ids prev curr de le ie = .ok (.stop res)) :
    ∃ d info, (∃ e, de = some e ∧ e.loadRevRegDef = .ok d) ∧ le.isSome ∧
      (∃ e, ie = some e ∧ e.valueJson = .ok info) ∧ (partition d.maxCredNum info ids).1 = ∅ ∧
      res = ⟨prev, curr, failedStrings (partition d.maxCredNum info ids).2⟩ := by
  simp only [plan, bind_eq_ok, required_eq_ok, wrapAnoncreds_eq_ok] at h
  obtain ⟨ed, rfl, el, rfl, ei, rfl, d, hd, info, hi, h⟩ := h
  split_ifs at h with hE
  · cases h
    exact ⟨d, info, ⟨ed, rfl, hd⟩, rfl, ⟨ei, rfl, hi⟩, hE, rfl⟩
  · simp only [pure, Except.pure, bind_eq_ok] at h
    obtain ⟨-, -, pl', hpl, t, -, h⟩ := h
    cases h

/-- The store after a commit that revokes `revCrids`, with the updated list
    `updatedList`, in the registry whose info entry holds `revInfo`. -/
def revokedStore (s : Store) (revocRegId : String) (revInfo : RevRegInfo) (revCrids : Finset Int)
    (updatedList : RevocationStatusList) : Store :=
  (s.put .revList revocRegId (.plain (.revList updatedList))).put .revRegInfo revocRegId
    (.plain (.revRegInfo (revInfo.revoke revCrids)))

@[simp] theorem records_revokedStore (s : Store) (r : String) (info : RevRegInfo) (E : Finset Int)
    (ul : RevocationStatusList) : (revokedStore s r info E ul).records = s.records := rfl

theorem info_revokedStore (s : Store) (r : String) (info : RevRegInfo) (E : Finset Int)
    (ul : RevocationStatusList) (r' : String) :
    (revokedStore s r info E ul).info r' = if r = r' then some (info.revoke E) else s.info r' := by
  simp only [revokedStore, Store.info_put, true_and, reduceCtorEq, false_and, if_false]
  rfl

theorem revList_revokedStore (s : Store) (r : String) (info : RevRegInfo) (E : Finset Int)
    (ul : RevocationStatusList) (r' : String) :
    (revokedStore s r info E ul).revList r' = if r = r' then some ul else s.revList r' := by
  simp only [revokedStore, Store.revList_put, reduceCtorEq, false_and, if_false, true_and]
  rfl

@[simp] theorem revRegDef_revokedStore (s : Store) (r : String) (info : RevRegInfo)
    (E : Finset Int) (ul : RevocationStatusList) (r' : String) :
    (revokedStore s r info E ul).revRegDef r' = s.revRegDef r' := by
  simp [revokedStore, Store.revRegDef_put]

/-- A commit either writes the new list and `used_ids`, having found the info
    entry as the attempt read it, or leaves the store as it was. -/
theorem commitRevocation_eq_ok {s s' : Store} {r : String} {info : RevRegInfo} {E : Finset Int}
    {ul : RevocationStatusList} {c : Commit}
    (h : commitRevocation s r info E ul = .ok (c, s')) :
    (c = .committed ∧ (s.fetch .revList r).isSome ∧
      (∃ e, s.fetch .revRegInfo r = some e ∧ e.valueJson = .ok info) ∧
      s' = revokedStore s r info E ul) ∨
    (c ≠ .committed ∧ s' = s) := by
  simp only [commitRevocation, wrapAskar_eq_ok] at h
  rcases hl : s.fetch .revList r with _ | el <;> simp only [hl] at h
  · cases h
    exact .inr ⟨nofun, rfl⟩
  rcases hi : s.fetch .revRegInfo r with _ | ei <;> simp only [hi] at h
  · cases h
  simp only [bind_eq_ok] at h
  obtain ⟨info', hv, h⟩ := h
  split_ifs at h with hne
  · cases h
    exact .inr ⟨nofun, rfl⟩
  simp only [not_not] at hne
  subst hne
  simp only [pure, Except.pure, bind_eq_ok, Store.replace_eq_ok] at h
  obtain ⟨-, -, s1, ⟨-, rfl⟩, s2, ⟨-, rfl⟩, h⟩ := h
  cases h
  exact .inl ⟨rfl, rfl, ⟨ei, rfl, hv⟩, rfl⟩

/-- A commit on a registry whose status list is stored and whose info entry
    holds `v`: it commits when `v` is what the attempt read, and finds a
    conflict otherwise. -/
theorem commitRevocation_of_fetch {s : Store} {r : String} {info v : RevRegInfo}
    {E : Finset Int} {ul : RevocationStatusList} {ei : Entry} (hl : (s.fetch .revList r).isSome)
    (hi : s.fetch .revRegInfo r = some ei) (hv : ei.valueJson = .ok v) :
    commitRevocation s r info E ul =
      .ok (if v = info then (.committed, revokedStore s r info E ul) else (.conflict, s)) := by
  obtain ⟨el, hl⟩ := Option.isSome_iff_exists.1 hl
  simp only [commitRevocation, hl, hi, hv, bind, Except.bind, pure, Except.pure, wrapAskar]
  by_cases h : v = info
  · subst h
    simp [Store.replace, Store.fetch_put, hl, hi, revokedStore, pure, Except.pure]
  · simp [h]

/-- What a commit raises: the wrapped error of a write, or the error of reading
    the info entry back. -/
theorem commitRevocation_eq_error {s : Store} {r : String} {info : RevRegInfo} {E : Finset Int}
    {ul : RevocationStatusList} {e : PyError} (h : commitRevocation s r info E ul = .error e) :
    e = .issuer "Error saving revocation registry" ∨ e = .key "curr_id" ∨
      e = .attribute "\x27NoneType\x27 object has no attribute \x27value_json\x27" := by
  unfold commitRevocation at h
  rcases hl : s.fetch .revList r with _ | el
  · simp [hl, wrapAskar, pure, Except.pure] at h
  rcases hi : s.fetch .revRegInfo r with _ | ei
  · simp only [hl, hi, wrapAskar, throw, throwThe, MonadExceptOf.throw, bind, Except.bind,
      Except.error.injEq] at h
    exact .inr (.inr h.symm)
  rcases hv : ei.valueJson with x | infoUpd
  · simp only [hl, hi, hv, Entry.valueJson_eq_error hv, wrapAskar, bind, Except.bind,
      Except.error.injEq] at h
    exact .inr (.inl h.symm)
  simp only [hl, hi, hv, bind, Except.bind, pure, Except.pure] at h
  split_ifs at h
  · cases h
  rcases h1 : s.replace .revList r (.plain (.revList ul)) with e1 | s1 <;> simp only [h1] at h
  · rw [Store.replace_eq_error h1] at h
    cases h
    exact .inl rfl
  rcases h2 : s1.replace .revRegInfo r (.plain (.revRegInfo (infoUpd.revoke E))) with e2 | s2 <;>
    simp only [h2] at h
  · rw [Store.replace_eq_error h2] at h
    cases h
    exact .inl rfl
  · cases h

/-! ## The loop -/

/-- `max_attempt`. -/
def maxAttempt : Nat := 5

/-- The error raised when the counter reaches `max_attempt`. -/
def repeatedConflict : PyError :=
  .issuer "Repeated conflict attempting to update registry"

/-- The `while True` loop of `revoke_credentials`, entered with the counter at
    `attempt`; the `fuel` bounds the iterations (the counter reaches
    `max_attempt` first when it starts at `maxAttempt`). -/
def revokeLoop (now : Except PyError Int) (s : Store) (revocRegId : String)
    (credRevocIds : List Int) :
    (fuel attempt : Nat) → Option RevocationStatusList → Option RevocationStatusList →
      Except PyError RevokeResult × Store
  | 0, _, _, _ => (.error repeatedConflict, s)
  | fuel + 1, attempt, prev, curr =>
    if attempt + 1 ≥ maxAttempt then (.error repeatedConflict, s) else
    match plan now credRevocIds prev curr (s.fetch .revRegDef revocRegId)
        (s.fetch .revList revocRegId) (s.fetch .revRegInfo revocRegId) with
    | .error e => (.error e, s)
    | .ok (.stop result) => (.ok result, s)
    | .ok (.commit revInfo revCrids failedCrids prevList updatedList) =>
      match commitRevocation s revocRegId revInfo revCrids updatedList with
      | .error e => (.error e, s)
      | .ok (.missing, _) => (.ok ⟨some prevList, none, failedStrings failedCrids⟩, s)
      | .ok (.conflict, _) =>
        revokeLoop now s revocRegId credRevocIds fuel (attempt + 1) (some prevList)
          (some updatedList)
      | .ok (.committed, s') =>
        (.ok ⟨some prevList, some updatedList, failedStrings failedCrids⟩, s')

/-- `revoke_credentials(revoc_reg_id, tails_file_path, cred_revoc_ids)`, for
    the integer values of the requested indices, run with no concurrent
    writer, `int(time.time())` evaluating to `now`. -/
def revokeCredentials (now : Except PyError Int) (s : Store) (revocRegId : String)
    (credRevocIds : List Int) : Except PyError RevokeResult × Store :=
  revokeLoop now s revocRegId credRevocIds maxAttempt 0 none none

/-- The loop leaves the store as it was, or commits one revocation. -/
theorem revokeLoop_store (now : Except PyError Int) (s : Store) (r : String) (ids : List Int)
    (fuel attempt : Nat) (prev curr : Option RevocationStatusList) :
    (revokeLoop now s r ids fuel attempt prev curr).2 = s ∨
      ∃ info E ul, (revokeLoop now s r ids fuel attempt prev curr).2 = revokedStore s r info E ul := by
  induction fuel generalizing attempt prev curr with
  | zero => exact .inl rfl
  | succ fuel ih =>
    rw [revokeLoop]
    split_ifs
    · exact .inl rfl
    split
    · exact .inl rfl
    · exact .inl rfl
    rename_i info E F pl ul _
    rcases hc : commitRevocation s r info E ul with e | ⟨c, s'⟩
    · exact .inl rfl
    rcases commitRevocation_eq_ok hc with ⟨rfl, -, -, rfl⟩ | ⟨hne, rfl⟩
    · exact .inr ⟨info, E, ul, rfl⟩
    cases c
    · exact .inl rfl
    · exact ih _ _ _
    · exact absurd rfl hne

/-! ## The call as written -/

/-- With the code's timestamp, `revoke_credentials` never changes the store:
    an attempt with something to revoke raises at `int(time.time())`, so the
    call returns only when nothing is eligible, with no status lists. -/
theorem revokeCredentials_timeTime (s : Store) (r : String) (ids : List Int) :
    (revokeCredentials timeTime s r ids).2 = s ∧
      ∀ res, (revokeCredentials timeTime s r ids).1 = .ok res → res.prev = none ∧ res.curr = none := by
  rw [revokeCredentials, maxAttempt, revokeLoop, if_neg (by decide)]
  rcases hp : plan timeTime ids none none (s.fetch .revRegDef r) (s.fetch .revList r)
    (s.fetch .revRegInfo r) with e | (res | ⟨info, E, F, pl, ul⟩)
  · simp
  · obtain ⟨-, -, -, -, -, -, rfl⟩ := plan_eq_stop hp
    simp
  · obtain ⟨-, t, -, -, -, -, -, ht, -⟩ := plan_eq_commit hp
    cases ht

/-- A request of no index returns with no status lists, whatever the
    timestamp: the attempt finds nothing to revoke before it evaluates it. -/
theorem revokeCredentials_nil (now : Except PyError Int) {s : Store} {r : String} {ed ei : Entry}
    {d : RevocationRegistryDefinition} {info : RevRegInfo} (hd : s.fetch .revRegDef r = some ed)
    (hdl : ed.loadRevRegDef = .ok d) (hl : (s.fetch .revList r).isSome)
    (hi : s.fetch .revRegInfo r = some ei) (hv : ei.valueJson = .ok info) :
    revokeCredentials now s r [] = (.ok ⟨none, none, []⟩, s) := by
  obtain ⟨el, hl⟩ := Option.isSome_iff_exists.1 hl
  simp [revokeCredentials, maxAttempt, revokeLoop, plan, hd, hdl, hl, hi, hv, partition, bind,
    Except.bind, required, pure, Except.pure, failedStrings]

/-- A registry `"r"` for three credentials, two of them issued and none
    revoked. -/
def sampleRegistry : Store :=
  ((Store.empty.put .revRegDef "r" (.plain (.revRegDef ⟨"did", 3⟩))).put .revList "r"
    (.plain (.revList .create))).put .revRegInfo "r" (.plain (.revRegInfo ⟨2, []⟩))

/-- On the registry `sampleRegistry`, revoking the issued index `1` raises
    `AttributeError` and commits nothing. -/
theorem revokeCredentials_sample_raises :
    revokeCredentials timeTime sampleRegistry "r" [1] =
      (.error (.attribute "\x27builtin_function_or_method\x27 object has no attribute \x27time\x27"),
        sampleRegistry) := by
  rfl

/-- On `sampleRegistry`, with the code's timestamp, a request of no index
    returns with no status lists. -/
example :
    revokeCredentials timeTime sampleRegistry "r" [] = (.ok ⟨none, none, []⟩, sampleRegistry) :=
  rfl

/-! ## The call with a clock

What the loop is built to do, were `int(time.time())` to evaluate to `t`.
-/

section Clock

variable {s : Store} {r : String} {ids : List Int} {ed el ei : Entry}
  {d : RevocationRegistryDefinition} {l : RevocationStatusList} {info : RevRegInfo}

/-- An attempt whose three reads found loadable entries. -/
theorem plan_of_entries (now : Except PyError Int) (prev curr : Option RevocationStatusList)
    (hdl : ed.loadRevRegDef = .ok d) (hll : el.loadRevList = .ok l)
    (hv : ei.valueJson = .ok info) :
    plan now ids prev curr (some ed) (some el) (some ei) =
      if (partition d.maxCredNum info ids).1 = ∅ then
        .ok (.stop ⟨prev, curr, failedStrings (partition d.maxCredNum info ids).2⟩)
      else now.map fun t => .commit info (partition d.maxCredNum info ids).1
        (partition d.maxCredNum info ids).2 l (l.update t (partition d.maxCredNum info ids).1) := by
  simp only [plan, required, hdl, hll, hv, wrapAnoncreds_ok, bind, Except.bind]
  split_ifs
  · rfl
  · cases now <;> rfl

/-- A commit that finds the info entry as the attempt read it. -/
theorem commitRevocation_of_entries (E : Finset Int) (ul : RevocationStatusList)
    (hl : (s.fetch .revList r).isSome) (hi : s.fetch .revRegInfo r = some ei)
    (hv : ei.valueJson = .ok info) :
    commitRevocation s r info E ul = .ok (.committed,
      (s.put .revList r (.plain (.revList ul))).put .revRegInfo r
        (.plain (.revRegInfo (info.revoke E)))) := by
  rw [commitRevocation_of_fetch hl hi hv, if_pos rfl]
  rfl


/-- With no concurrent writer and loadable entries, the call stops at once
    when nothing is eligible, and otherwise commits the updated list and
    `used_ids` in its first attempt. -/
theorem revokeCredentials_of_now (t : Int) (hd : s.fetch .revRegDef r = some ed)
    (hdl : ed.loadRevRegDef = .ok d) (hl : s.fetch .revList r = some el)
    (hll : el.loadRevList = .ok l) (hi : s.fetch .revRegInfo r = some ei)
    (hv : ei.valueJson = .ok info) :
    revokeCredentials (.ok t) s r ids =
      if (partition d.maxCredNum info ids).1 = ∅ then
        (.ok ⟨none, none, failedStrings (partition d.maxCredNum info ids).2⟩, s)
      else (.ok ⟨some l, some (l.update t (partition d.maxCredNum info ids).1),
          failedStrings (partition d.maxCredNum info ids).2⟩,
        (s.put .revList r (.plain (.revList (l.update t (partition d.maxCredNum info ids).1)))).put
          .revRegInfo r (.plain (.revRegInfo (info.revoke (partition d.maxCredNum info ids).1)))) := by
  rw [revokeCredentials, maxAttempt, revokeLoop, if_neg (by decide)]
  simp only [hd, hl, hi, plan_of_entries _ _ _ hdl hll hv]
  split_ifs with hE
  · rfl
  · simp [Except.map, commitRevocation_of_entries _ _ (by simp [hl]) hi hv]

/-- Once the eligible indices of a request are revoked, none of it is
    eligible any more. -/
theorem partition_revoke (m : Nat) (info : RevRegInfo) (ids : List Int) :
    partition m (info.revoke (partition m info ids).1) ids = (∅, ids.toFinset) := by
  have key : ∀ x ∈ ids, eligible m (info.revoke (partition m info ids).1) x = false := by
    intro x hx
    by_cases he : eligible m info x
    · have hE : x ∈ (partition m info ids).1 := by simp [partition_eq, hx, he]
      simp [eligible, RevRegInfo.revoke, hE]
    · simp only [eligible, decide_eq_true_eq, not_and, not_not] at he
      simp only [eligible, RevRegInfo.revoke, decide_eq_false_iff_not, not_and, not_not,
        mem_sorted, Finset.mem_union, List.mem_toFinset]
      exact fun h1 h2 h3 => .inl (he h1 h2 h3)
  rw [partition_eq, List.filter_eq_nil_iff.2 (fun x hx => by simp [key x hx]),
    List.filter_eq_self.2 (fun x hx => by simp [key x hx])]
  rfl

/-- Repeating a call reports every requested index as failed and changes
    nothing. -/
theorem revokeCredentials_repeat (t t' : Int) (hd : s.fetch .revRegDef r = some ed)
    (hdl : ed.loadRevRegDef = .ok d) (hl : s.fetch .revList r = some el)
    (hll : el.loadRevList = .ok l) (hi : s.fetch .revRegInfo r = some ei)
    (hv : ei.valueJson = .ok info) :
    revokeCredentials (.ok t') (revokeCredentials (.ok t) s r ids).2 r ids =
      (.ok ⟨none, none, failedStrings ids.toFinset⟩, (revokeCredentials (.ok t) s r ids).2) := by
  rw [revokeCredentials_of_now t hd hdl hl hll hi hv]
  split_ifs with hE
  · have hF : (partition d.maxCredNum info ids).2 = ids.toFinset := by
      rw [partition_eq] at hE ⊢
      simp only [List.toFinset_eq_empty_iff, List.filter_eq_nil_iff] at hE
      rw [List.filter_eq_self.2 (fun x hx => by simpa using hE x hx : ∀ x ∈ ids,
        (!eligible d.maxCredNum info x) = true)]
    rw [revokeCredentials_of_now t' hd hdl hl hll hi hv, if_pos hE, hF]
  · rw [revokeCredentials_of_now t' (by simp [Store.fetch_put, hd]) hdl
      (show _ = some (.plain (.revList (l.update t (partition d.maxCredNum info ids).1))) by
        simp [Store.fetch_put]) rfl
      (show _ = some (.plain (.revRegInfo (info.revoke (partition d.maxCredNum info ids).1)))
        by simp) rfl,
      partition_revoke]
    rfl

end Clock

end Acapy
