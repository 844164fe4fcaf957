import Acapy.System.Allocation

/-!
# Status lists and `used_ids`

`revoke_credentials` reads the status list of a registry in one session and
its info entry in another, and its commit transaction checks only that the
info entry is as it read it. Whatever the timestamp:

* one revocation among any calls of `create_credential` keeps every status
  list marking revoked exactly the indices of `used_ids`: no other call
  writes a list, so the one it read is still stored when its commit finds the
  info entry unchanged (`revocation_consistent`);
* two revocations do not: one that reads the list, lets the other commit, and
  then reads the info entry commits a list without the other's indices,
  while `used_ids` keeps them (`revokeCredentials_clock_race`).
-/

namespace Acapy

variable {env : Env} {n : Nat} {o : Oracle} {s s' : Store} {t t' : Thread} {evs : List Event}

/-! ## The threads of the two calls -/

/-- A call of `create_credential`. -/
def Call.Issue : Call → Prop
  | .createCredential .. => True
  | _ => False

/-- The threads of `create_credential`. -/
def Thread.Issuing : Thread → Prop
  | .ccRead .. | .ccAlloc _ | .ccDone _ => True
  | _ => False

/-- The threads of `create_credential` and `revoke_credentials`. -/
def Thread.IssueOrRevoke : Thread → Prop
  | .ccRead .. | .ccAlloc _ | .ccDone _ | .rvRead .. | .rvReadList .. | .rvReadInfo ..
  | .rvCommit .. | .rvDone _ => True
  | _ => False

theorem Thread.Issuing.issueOrRevoke (h : t.Issuing) : t.IssueOrRevoke := by
  cases t <;> trivial

theorem Thread.Issuing.step (hi : t.Issuing) (h : t.step env n s o = some (t', s', evs)) :
    t'.Issuing := by
  obtain ⟨-, ⟨-, -, rfl | ⟨rfl, _, _, _, _, _, rfl, -⟩⟩ | ⟨h, -⟩⟩ := step_eq_some h
  · cases t <;> trivial
  · exact hi.elim
  · cases t <;> simp only [Thread.run] at h <;> (repeat' split at h) <;> cases h <;> trivial

theorem Thread.IssueOrRevoke.step (hc : t.IssueOrRevoke)
    (h : t.step env n s o = some (t', s', evs)) : t'.IssueOrRevoke := by
  obtain ⟨-, ⟨-, -, rfl | ⟨rfl, -⟩⟩ | ⟨h, -⟩⟩ := step_eq_some h
  · cases t <;> trivial
  · trivial
  · cases t <;> simp only [Thread.run] at h <;> (repeat' split at h) <;> cases h <;> trivial

/-- A call of `create_credential` writes no status list. -/
theorem Effect.fetch_revList (he : Effect n o s t s' evs) (hi : t.Issuing) (r : String) :
    s'.fetch .revList r = s.fetch .revList r := by
  cases he with
  | quiet => rfl
  | alloc _ => simp [advanceCurrId, Store.fetch_put]
  | _ => exact hi.elim

/-- An attempt reads the info entry with the list it read just before. -/
theorem step_rvReadInfo {r : String} {ids : List Int} {a : Nat}
    {prev curr : Option RevocationStatusList} {de le : Option Entry}
    (h : t.step env n s o = some (.rvReadInfo r ids a prev curr de le, s', evs)) :
    le = s.fetch .revList r ∧ s' = s := by
  obtain ⟨-, ⟨-, -, hd⟩ | ⟨h, -⟩⟩ := step_eq_some h
  · exact (step_eq_some_done hd).elim
  cases t <;> simp only [Thread.run] at h <;> (repeat' split at h) <;> cases h
  exact ⟨rfl, rfl⟩

/-! ## One revocation -/

/-- What an attempt of `revoke_credentials` has read of the status list is
    what is stored, and the list it is about to commit adds its indices to
    it. -/
def Thread.ListFresh (s : Store) : Thread → Prop
  | .rvReadInfo r _ _ _ _ _ le => le = s.fetch .revList r
  | .rvCommit r _ _ _ E _ pl ul => s.revList r = some pl ∧ ul.revoked = pl.revoked ∪ E
  | _ => True

theorem Thread.Issuing.listFresh (h : t.Issuing) : t.ListFresh s := by
  cases t <;> trivial

/-- A step that writes no status list keeps what an attempt read. -/
theorem Thread.ListFresh.congr (h : t.ListFresh s)
    (hl : ∀ r, s'.fetch .revList r = s.fetch .revList r) : t.ListFresh s' := by
  cases t with
  | rvReadInfo r _ _ _ _ _ _ => exact h.trans (hl r).symm
  | rvCommit r _ _ _ _ _ _ _ =>
    have : s'.revList r = s.revList r := by simp only [Store.revList, hl]
    exact ⟨this.trans h.1, h.2⟩
  | _ => trivial

/-- The thread's own step: the attempt reads the list that is stored, and
    plans its commit on it. -/
theorem step_listFresh (hf : t.ListFresh s) (h : t.step env n s o = some (t', s', evs)) :
    t'.ListFresh s' := by
  cases t' with
  | rvReadInfo r ids a prev curr de le =>
    obtain ⟨rfl, rfl⟩ := step_rvReadInfo h
    rfl
  | rvCommit r ids a info E F pl ul =>
    obtain ⟨prev, curr, de, le, rfl, hp⟩ := step_rvCommit h
    have hs : s' = s := by cases step_effect h; rfl
    subst hs
    obtain ⟨-, -, -, ⟨e, rfl, hle⟩, -, -, -, -, rfl⟩ := plan_eq_commit hp
    exact ⟨Store.revList_eq_some.2 ⟨e, hf.symm, hle⟩, RevocationStatusList.update_revoked _ _ _⟩
  | _ => trivial

/-- Every registry's status list marks revoked exactly the indices of its
    `used_ids`. -/
def Consistent (s : Store) : Prop :=
  ∀ r l info, s.revList r = some l → s.info r = some info → l.revoked = info.usedIds.toFinset

/-- The steps of `create_credential` and `revoke_credentials` keep the lists
    consistent, given that a commit adds its indices to the stored list. -/
theorem Effect.consistent (he : Effect n o s t s' evs) (hk : t.IssueOrRevoke)
    (hf : t.ListFresh s) (h : Consistent s) : Consistent s' := by
  cases he with
  | quiet | conflict => exact h
  | @alloc r' info hc' =>
    -- The allocation changes `curr_id` alone.
    intro r l info' hl hi
    rw [info_advanceCurrId] at hi
    simp only [advanceCurrId, Store.revList_put, reduceCtorEq, false_and, if_false] at hl
    split_ifs at hi with hr
    · subst hr
      rw [Option.some.injEq] at hi
      subst hi
      exact h r' l info hl hc'.info_eq
    · exact h r l info' hl hi
  | @commit r _ _ info E _ pl ul e _ hi hv =>
    -- The stored list agreed with the info entry, which the commit found as
    -- the attempt read it.
    obtain ⟨hpl, hul⟩ := hf
    have hagree := h r pl info hpl (Store.info_eq_some.2 ⟨e, hi, hv⟩)
    intro r' l info' hl hi'
    rw [revList_revokedStore] at hl
    rw [info_revokedStore] at hi'
    split_ifs at hl hi' with hr
    · cases hl
      cases hi'
      simp [hul, hagree, RevRegInfo.revoke]
    · exact h r' l info' hl hi'
  | registry | list | posted | activated | full | created => exact hk.elim

/-- Along every interleaving of one call of `revoke_credentials` with any
    calls of `create_credential`, each of which may fail at any access, and
    whatever the timestamp, from a store whose status lists agree with
    `used_ids`: they agree in every state. -/
theorem revocation_consistent (env : Env) (s₀ : Store) (r : String) (ids : List Int)
    (issues : List Call) (hissue : ∀ c ∈ issues, c.Issue) (h₀ : Consistent s₀) {σ : Sys}
    (hσ : Reachable env (Sys.init s₀ (.revokeCredentials r ids :: issues)) σ) :
    Consistent σ.store := by
  suffices h : ∃ t₀ ts, σ.threads = t₀ :: ts ∧ t₀.IssueOrRevoke ∧ t₀.ListFresh σ.store ∧
      (∀ t ∈ ts, t.Issuing) ∧ Consistent σ.store from h.choose_spec.choose_spec.2.2.2.2
  induction hσ with
  | init =>
    refine ⟨_, _, rfl, trivial, trivial, fun t ht => ?_, h₀⟩
    obtain ⟨c, hc, rfl⟩ := List.mem_map.1 ht
    have := hissue c hc
    cases c <;> trivial
  | step _ hs ih =>
    obtain ⟨t₀, ts, hts, hk, hf, his, hc⟩ := ih
    obtain ⟨m, o, hs⟩ := hs
    obtain ⟨u, u', s', evs, hu, hus, rfl⟩ := Sys.step_eq_some.1 hs
    have he := step_effect hus
    dsimp only
    rw [hts] at hu ⊢
    rcases m with _ | k
    · -- The revocation steps.
      rw [List.getElem?_cons_zero, Option.some.injEq] at hu
      subst hu
      exact ⟨u', ts, rfl, hk.step hus, step_listFresh hf hus, his, he.consistent hk hf hc⟩
    · -- A call of `create_credential` steps, and writes no list.
      rw [List.getElem?_cons_succ] at hu
      have hi := his u (List.getElem?_mem hu)
      refine ⟨t₀, ts.set k u', rfl, hk, hf.congr (he.fetch_revList hi), fun t ht => ?_,
        he.consistent hi.issueOrRevoke hi.listFresh hc⟩
      rcases List.mem_or_eq_of_mem_set ht with ht | rfl
      · exact his t ht
      · exact hi.step hus

theorem consistent_issuerRegistry : Consistent issuerRegistry := by
  intro r l info hl hi
  simp only [issuerRegistry, Store.revList_put, Store.info_put, reduceCtorEq, false_and, true_and,
    if_false] at hl hi
  split_ifs at hl hi
  · cases hl
    cases hi
    rfl
  · cases hl

/-- A revocation of `1` on `issuerRegistry` whose first commit finds the
    allocation of a `create_credential` in between, and whose second commits:
    the list still agrees with `used_ids`. -/
theorem revocation_consistent_issuer :
    (∀ c ∈ [Call.createCredential ⟨"cd", ∅⟩ (some "r")], c.Issue) ∧ Consistent issuerRegistry ∧
    ∃ σ, Reachable ⟨.ok 0, false, 0, 0⟩ (Sys.init issuerRegistry
        [.revokeCredentials "r" [1], .createCredential ⟨"cd", ∅⟩ (some "r")]) σ ∧
      σ.Terminal ∧ σ.store.info "r" = some ⟨2, [1]⟩ ∧ Consistent σ.store := by
  have hissue : ∀ c ∈ [Call.createCredential ⟨"cd", ∅⟩ (some "r")], c.Issue := by
    simp [Call.Issue]
  obtain ⟨σ, hσ, hT, hi⟩ : ∃ σ, Reachable ⟨.ok 0, false, 0, 0⟩ (Sys.init issuerRegistry
        [.revokeCredentials "r" [1], .createCredential ⟨"cd", ∅⟩ (some "r")]) σ ∧
      σ.Terminal ∧ σ.store.info "r" = some ⟨2, [1]⟩ :=
    ⟨_, @Reachable.of_run _ _ _ _
      [(0, {}), (0, {}), (0, {}), (1, {}), (1, {}), (0, {}), (0, {}), (0, {}), (0, {}), (0, {})]
      .init rfl, List.forall_mem_cons.2 ⟨trivial, List.forall_mem_singleton.2 trivial⟩, rfl⟩
  exact ⟨hissue, consistent_issuerRegistry, σ, hσ, hT, hi,
    revocation_consistent _ _ "r" [1] _ hissue consistent_issuerRegistry hσ⟩

/-! ## Two revocations -/

theorem consistent_sampleRegistry : Consistent sampleRegistry := by
  intro r l info hl hi
  simp only [sampleRegistry, Store.revList_put, Store.info_put, reduceCtorEq, false_and, true_and,
    if_false] at hl hi
  split_ifs at hl hi
  · cases hl
    cases hi
    rfl
  · cases hl

/-- The revocation of `{1}` reads the definition and the status list; the
    revocation of `{2}` runs its attempt and commits; the first then reads the
    info entry and commits. -/
def raceSchedule : List (Nat × Oracle) :=
  [(0, {}), (0, {}), (1, {}), (1, {}), (1, {}), (1, {}), (0, {}), (0, {})]

/-- With a timestamp that evaluates, two revocations of the disjoint sets
    `{1}` and `{2}` of issued indices of `sampleRegistry`, whose list agrees
    with `used_ids`, both return, each with its own update of the list, but the
    status list ends without `2` revoked while `used_ids` holds `1` and `2`:
    the lists no longer agree with `used_ids`. -/
theorem revokeCredentials_clock_race (t : Int) (faults : Bool) (minSize maxSize : Nat) :
    Consistent sampleRegistry ∧
    ∃ σ, Reachable ⟨.ok t, faults, minSize, maxSize⟩
        (Sys.init sampleRegistry [.revokeCredentials "r" [1], .revokeCredentials "r" [2]]) σ ∧
      σ.threads =
        [.rvDone (.ok ⟨some .create, some (RevocationStatusList.create.update t {1}), []⟩),
          .rvDone (.ok ⟨some .create, some (RevocationStatusList.create.update t {2}), []⟩)] ∧
      σ.store.revList "r" = some (RevocationStatusList.create.update t {1}) ∧
      σ.store.info "r" = some ⟨2, [1, 2]⟩ ∧ ¬ Consistent σ.store := by
  obtain ⟨σ, hσ, hthreads, hl, hi⟩ : ∃ σ, Reachable ⟨.ok t, faults, minSize, maxSize⟩
        (Sys.init sampleRegistry [.revokeCredentials "r" [1], .revokeCredentials "r" [2]]) σ ∧
      σ.threads =
        [.rvDone (.ok ⟨some .create, some (RevocationStatusList.create.update t {1}), []⟩),
          .rvDone (.ok ⟨some .create, some (RevocationStatusList.create.update t {2}), []⟩)] ∧
      σ.store.revList "r" = some (RevocationStatusList.create.update t {1}) ∧
      σ.store.info "r" = some ⟨2, [1, 2]⟩ :=
    ⟨_, @Reachable.of_run _ _ _ _ raceSchedule .init rfl, rfl, rfl, rfl⟩
  exact ⟨consistent_sampleRegistry, σ, hσ, hthreads, hl, hi, fun hc => absurd (hc "r" _ _ hl hi)
    (by rw [RevocationStatusList.update_revoked]; decide)⟩

end Acapy
