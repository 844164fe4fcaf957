import Acapy.System.Revocation

/-!
# The retry loop of `revoke_credentials` with a clock

What `revoke_credentials` does among concurrent calls when `int(time.time())`
evaluates (`Env.now = .ok t`). With the code as written it raises there
instead (`revokeCredentials_sample_raises`), so none of this happens; it is
what the loop is built to do once the timestamp is fixed.

* The counter is tested at the top of each attempt, after `attempt += 1`, so
  the call raises `Repeated conflict attempting to update registry` at the top
  of its fifth attempt, after exactly four commits that found the info entry
  changed (`revokeCredentials_four_conflicts`); four allocations of
  `create_credential`, each between the reads and the commit of an attempt,
  make it raise (`busyRevocation`, `revokeCredentials_raises_after_four`).
* Whatever the timestamp, a call that raised committed no change: its commit
  is the last step of a call, which then returns
  (`Reachable.revoked_returned`, `revokeCredentials_raised_uncommitted`).
* The test of the info entry loses no update of `used_ids`: two revocations
  of disjoint nonempty sets of eligible indices on one registry, with no
  other writer and a store that does not fail, end along every interleaving,
  both returning both lists with nothing failed, and `used_ids` ends as the
  union (`revokeCredentials_disjoint_of_now`). Each call finds the info entry
  changed at most once, and only after the other committed
  (`revokeCredentials_disjoint_contended`). An empty request returns no
  updated list (`revokeCredentials_disjoint_empty`).
-/
namespace Acapy

variable {env : Env} {n : Nat} {o : Oracle} {s s' : Store} {t t' : Thread} {evs : List Event}

/-! ## Counting the attempts -/

/-- With a timestamp that evaluates, an attempt raises nothing that reads as
    the repeated-conflict error. -/
theorem plan_ne_repeatedConflict {t₀ : Int} {ids : List Int}
    {prev curr : Option RevocationStatusList} {de le ie : Option Entry} :
    plan (.ok t₀) ids prev curr de le ie ≠ .error repeatedConflict := fun h => by
  rcases plan_eq_error h with h | h | h | h | h | h | h <;> simp_all [repeatedConflict]

theorem commitRevocation_ne_repeatedConflict {r : String} {info : RevRegInfo} {E : Finset Int}
    {ul : RevocationStatusList} : commitRevocation s r info E ul ≠ .error repeatedConflict :=
  fun h => by rcases commitRevocation_eq_error h with h | h | h <;> simp_all [repeatedConflict]

/-- What the counter of the call of `revoke_credentials` at thread `n` counts:
    the commits of the call that found the info entry changed, `attempt` of
    them at the top of the loop and `attempt - 1` within an attempt, below
    `max_attempt`; a call that raised the repeated-conflict error found
    `max_attempt - 1`. -/
def Attempts (n : Nat) (log : List Event) : Thread → Prop
  | .rvRead _ _ a _ _ => log.count (.conflict n) = a ∧ a < maxAttempt
  | .rvReadList _ _ a _ _ _ | .rvReadInfo _ _ a _ _ _ _ | .rvCommit _ _ a .. =>
    log.count (.conflict n) + 1 = a ∧ a < maxAttempt
  | .rvDone result => result = .error repeatedConflict → log.count (.conflict n) = maxAttempt - 1
  | _ => False

theorem Attempts.mono {log : List Event} (h : Attempts n log t) (hev : .conflict n ∉ evs) :
    Attempts n (log ++ evs) t := by
  have hc : (log ++ evs).count (.conflict n) = log.count (.conflict n) := by
    rw [List.count_append, List.count_eq_zero_of_not_mem hev, Nat.add_zero]
  cases t <;> simp only [Attempts, hc] at h ⊢ <;> exact h

/-- Every step of the call keeps the count. -/
theorem Attempts.step {t₀ : Int} (hnow : env.now = .ok t₀) {log : List Event}
    (h : Attempts n log t) (hs : t.step env n s o = some (t', s', evs)) :
    Attempts n (log ++ evs) t' := by
  obtain ⟨hd, ⟨-, rfl, rfl | ⟨rfl, r, ids, a, prev, curr, rfl, ha⟩⟩ | ⟨hrun, hcount⟩⟩ :=
    step_eq_some hs
  · -- A failed access raises the wrapped Askar error.
    have hne := Thread.failed_ne_repeatedConflict hd
    cases t <;> first | exact h.elim | exact fun he => (hne (congrArg Thread.rvDone he)).elim
  · -- The counter runs out at the top of the fifth attempt.
    intro _
    rw [List.append_nil, h.1]
    have := h.2
    simp only [maxAttempt] at ha this ⊢
    omega
  cases t with
  | rvRead r ids a prev curr =>
    simp only [Thread.run, Prod.mk.injEq] at hrun
    obtain ⟨rfl, -, rfl⟩ := hrun
    exact ⟨by simp [h.1], hcount r ids a prev curr rfl⟩
  | rvReadList =>
    simp only [Thread.run, Prod.mk.injEq] at hrun
    obtain ⟨rfl, -, rfl⟩ := hrun
    simpa using h
  | rvReadInfo r ids a prev curr de le =>
    rcases hp : plan env.now ids prev curr de le (s.fetch .revRegInfo r) with
      e | res | ⟨info, E, F, pl, ul⟩ <;> simp only [Thread.run, hp, Prod.mk.injEq] at hrun <;>
      obtain ⟨rfl, -, rfl⟩ := hrun
    · rintro ⟨⟩
      exact absurd (hnow ▸ hp) plan_ne_repeatedConflict
    · nofun
    · simpa using h
  | rvCommit r ids a info E F pl ul =>
    rcases hc : commitRevocation s r info E ul with e | ⟨_ | _ | _, s₁⟩ <;>
      simp only [Thread.run, hc, Prod.mk.injEq] at hrun <;> obtain ⟨rfl, -, rfl⟩ := hrun
    · rintro ⟨⟩
      exact (commitRevocation_ne_repeatedConflict hc).elim
    · nofun
    · -- The commit found the info entry changed: the next attempt counts it.
      exact ⟨by simp [List.count_append, h.1], h.2⟩
    · nofun
  | rvDone => exact (hd trivial).elim
  | _ => exact h.elim

theorem Reachable.attempts {t₀ : Int} (hnow : env.now = .ok t₀) {s₀ : Store} {calls : List Call}
    {σ : Sys} {r : String} {ids : List Int} (h : Reachable env (Sys.init s₀ calls) σ)
    (hc : calls[n]? = some (.revokeCredentials r ids)) :
    ∃ t, σ.threads[n]? = some t ∧ Attempts n σ.log t := by
  induction h with
  | init => exact ⟨.rvRead r ids 0 none none, by simp [Sys.init, hc, Call.start], rfl, by decide⟩
  | step _ hs ih =>
    obtain ⟨t, ht, hI⟩ := ih
    obtain ⟨m, o, hs⟩ := hs
    obtain ⟨u, u', evs, hu, hus, hth, hlog⟩ := Sys.step_threads hs
    rw [hth, hlog]
    by_cases hm : m = n
    · subst hm
      rw [ht, Option.some.injEq] at hu
      subst hu
      exact ⟨u', getElem?_set_of ht, hI.step hnow hus⟩
    · exact ⟨t, by rw [List.getElem?_set_ne hm]; exact ht,
        hI.mono fun he => hm ((step_effect hus).thread_of_mem he).symm⟩

/-- With a timestamp that evaluates, along every interleaving of every call: a
    call of `revoke_credentials` that raised its repeated-conflict error had
    exactly four commits that found the info entry changed, not
    `max_attempt = 5`. -/
theorem revokeCredentials_four_conflicts (env : Env) (t : Int) (hnow : env.now = .ok t)
    (s₀ : Store) (calls : List Call) {σ : Sys} (hσ : Reachable env (Sys.init s₀ calls) σ)
    (n : Nat) (r : String) (ids : List Int) (hn : calls[n]? = some (.revokeCredentials r ids))
    (h : σ.threads[n]? = some (.rvDone (.error repeatedConflict))) :
    σ.log.count (.conflict n) = 4 := by
  obtain ⟨u, hu, hI⟩ := hσ.attempts hnow hn
  rw [h, Option.some.injEq] at hu
  subst hu
  exact hI rfl

/-- A step that commits a revocation ends its call, returning. -/
theorem step_revoked {m : Nat} {r : String} (h : t.step env n s o = some (t', s', evs))
    (he : .revoked m r ∈ evs) : ∃ res, t' = .rvDone (.ok res) := by
  obtain ⟨r', ids, a, info, E, F, pl, ul, rfl⟩ :
      ∃ r ids a info E F pl ul, t = .rvCommit r ids a info E F pl ul := by
    cases step_effect h with
    | commit _ _ _ => exact ⟨_, _, _, _, _, _, _, _, rfl⟩
    | _ => simp at he
  obtain ⟨-, ⟨-, rfl, -⟩ | ⟨h, -⟩⟩ := step_eq_some h
  · exact absurd he (List.not_mem_nil _)
  simp only [Thread.run] at h
  split at h <;> cases h <;>
    first | exact absurd he (List.not_mem_nil _) | exact ⟨_, rfl⟩ | simp at he

/-- Whatever the timestamp, the store and the calls: a call of
    `revoke_credentials` whose commit went through has returned. -/
theorem Reachable.revoked_returned {s₀ : Store} {calls : List Call} {σ : Sys}
    (h : Reachable env (Sys.init s₀ calls) σ) {m : Nat} {r : String} (he : .revoked m r ∈ σ.log) :
    ∃ res, σ.threads[m]? = some (.rvDone (.ok res)) := by
  induction h with
  | init => exact absurd he (List.not_mem_nil _)
  | step _ hs ih =>
    obtain ⟨k, o, hs⟩ := hs
    obtain ⟨u, u', evs, hu, hus, hth, hlog⟩ := Sys.step_threads hs
    rw [hlog] at he
    rw [hth]
    rcases List.mem_append.1 he with he | he
    · obtain ⟨res, hres⟩ := ih he
      by_cases hk : k = m
      · subst hk
        rw [hres, Option.some.injEq] at hu
        subst hu
        exact absurd trivial (Thread.not_done_of_step hus)
      · exact ⟨res, by rw [List.getElem?_set_ne hk]; exact hres⟩
    · obtain rfl := (step_effect hus).thread_of_mem he
      obtain ⟨res, rfl⟩ := step_revoked hus he
      exact ⟨res, getElem?_set_of hu⟩

/-- Whatever the timestamp, along every interleaving of every call: a call of
    `revoke_credentials` that raised committed no change to the store. -/
theorem revokeCredentials_raised_uncommitted (env : Env) (s₀ : Store) (calls : List Call)
    {σ : Sys} (hσ : Reachable env (Sys.init s₀ calls) σ) (n : Nat) (e : PyError) (r : String)
    (h : σ.threads[n]? = some (.rvDone (.error e))) : Event.revoked n r ∉ σ.log := fun he => by
  obtain ⟨res, hres⟩ := hσ.revoked_returned he
  rw [h] at hres
  cases hres

/-- A revocation of the index `1`, and four calls of `create_credential` on
    the registry, for a schema with no attribute. -/
def busyCalls : List Call :=
  .revokeCredentials "r" [1] :: List.replicate 4 (.createCredential ⟨"cd", ∅⟩ (some "r"))

/-- An attempt of the revocation whose three reads come before the allocation
    of the call at thread `k`, and whose commit comes after it. -/
def attemptAround (k : Nat) : List (Nat × Oracle) :=
  [(0, {}), (0, {}), (0, {}), (k, {}), (k, {}), (0, {})]

/-- Four attempts, each around an allocation, then the top of the fifth. -/
def busySchedule : List (Nat × Oracle) :=
  attemptAround 1 ++ attemptAround 2 ++ attemptAround 3 ++ attemptAround 4 ++ [(0, ({} : Oracle))]

/-- Four allocations make the revocation raise its repeated-conflict error,
    after four conflicts. -/
theorem busyRevocation :
    ∃ σ, Reachable ⟨.ok 0, false, 0, 0⟩ (Sys.init issuerRegistry busyCalls) σ ∧
      σ.threads[0]? = some (.rvDone (.error repeatedConflict)) ∧
      σ.log.count (.conflict 0) = 4 := by
  obtain ⟨σ, hσ, h⟩ : ∃ σ, Reachable ⟨.ok 0, false, 0, 0⟩ (Sys.init issuerRegistry busyCalls) σ ∧
      σ.threads[0]? = some (.rvDone (.error repeatedConflict)) :=
    ⟨_, @Reachable.of_run _ _ _ _ busySchedule .init rfl, rfl⟩
  exact ⟨σ, hσ, h, revokeCredentials_four_conflicts _ 0 rfl _ _ hσ 0 "r" [1] rfl h⟩

/-- The revocation that raised its repeated-conflict error committed
    nothing. -/
theorem busyRevocation_uncommitted :
    ∃ σ, Reachable ⟨.ok 0, false, 0, 0⟩ (Sys.init issuerRegistry busyCalls) σ ∧
      σ.threads[0]? = some (.rvDone (.error repeatedConflict)) ∧ Event.revoked 0 "r" ∉ σ.log := by
  obtain ⟨σ, hσ, h⟩ : ∃ σ, Reachable ⟨.ok 0, false, 0, 0⟩ (Sys.init issuerRegistry busyCalls) σ ∧
      σ.threads[0]? = some (.rvDone (.error repeatedConflict)) :=
    ⟨_, @Reachable.of_run _ _ _ _ busySchedule .init rfl, rfl⟩
  exact ⟨σ, hσ, h, revokeCredentials_raised_uncommitted _ _ _ hσ 0 _ "r" h⟩

section Disjoint

variable {r : String} {d : RevocationRegistryDefinition} {info₀ : RevRegInfo}

/-- The info entry of a registry that held `info₀`, after the revocation of
    `X` committed (when `cx`) and that of `Y` did (when `cy`). -/
def revokedInfo (info₀ : RevRegInfo) (X Y : Finset Int) : Bool → Bool → RevRegInfo
  | false, false => info₀
  | true, false => info₀.revoke X
  | false, true => info₀.revoke Y
  | true, true => info₀.revoke (X ∪ Y)

theorem revokedInfo_comm (X Y : Finset Int) (cx cy : Bool) :
    revokedInfo info₀ X Y cx cy = revokedInfo info₀ Y X cy cx := by
  cases cx <;> cases cy <;> simp only [revokedInfo, Finset.union_comm]

/-- The commit of `X` on what the revocation of `Y` left. -/
theorem revoke_revokedInfo (X Y : Finset Int) (cy : Bool) :
    (revokedInfo info₀ X Y false cy).revoke X = revokedInfo info₀ X Y true cy := by
  cases cy <;> simp only [revokedInfo, RevRegInfo.revoke_revoke, Finset.union_comm]

/-- Indices eligible in `info₀` and outside `Y` stay eligible once `Y` is
    revoked: an attempt revokes all of them, and fails none. -/
theorem partition_revokedInfo {m : Nat} {X Y : List Int} (hX : ∀ x ∈ X, eligible m info₀ x)
    (hXY : ∀ x ∈ X, x ∉ Y) (cy : Bool) :
    partition m (revokedInfo info₀ X.toFinset Y.toFinset false cy) X = (X.toFinset, ∅) := by
  have he : ∀ x ∈ X, eligible m (revokedInfo info₀ X.toFinset Y.toFinset false cy) x := by
    intro x hx
    have h := hX x hx
    cases cy <;> simp_all [revokedInfo, eligible, RevRegInfo.revoke]
  rw [partition_eq, List.filter_eq_self.2 he,
    List.filter_eq_nil_iff.2 (fun x hx => by simp [he x hx])]
  rfl

/-- The call of `revoke_credentials` at thread `i` found the info entry
    changed at most once, and then only after the call at thread `j`
    committed. -/
def Contended (r : String) (i j : Nat) (log : List Event) : Prop :=
  log.count (.conflict i) = 0 ∨ (log.count (.conflict i) = 1 ∧ .revoked j r ∈ log)

/-- Events that log no conflict of the call keep it. -/
theorem Contended.append {r : String} {i j : Nat} {log evs : List Event}
    (h : Contended r i j log)
    (hk : (log ++ evs).count (.conflict i) = log.count (.conflict i)) :
    Contended r i j (log ++ evs) := by
  unfold Contended at h ⊢
  rw [hk]
  exact h.imp_right fun ⟨h₁, h₂⟩ => ⟨h₁, List.mem_append_left _ h₂⟩

/-- What the log says of the call at thread `i` before it commits. -/
def Contending (r : String) (i j : Nat) (log : List Event) : Prop :=
  .revoked i r ∉ log ∧ Contended r i j log

/-- Where the call of `revoke_credentials(r, X)` at thread `i` is, against the
    call revoking `Y` at thread `j`, on a registry whose definition is `d` and
    whose info entry held `info₀`: every read found its entry; an attempt at
    its commit revokes all of `X` and fails nothing, having read the info entry
    as the call at `j` left it then; a call that ended returned both status
    lists with nothing failed. -/
def Thread.Revoking (r : String) (d : RevocationRegistryDefinition) (info₀ : RevRegInfo)
    (i j : Nat) (X Y : List Int) (log : List Event) : Thread → Prop
  | .rvRead r' ids _ _ _ => r' = r ∧ ids = X ∧ Contending r i j log
  | .rvReadList r' ids _ _ _ de => r' = r ∧ ids = X ∧ Contending r i j log ∧
      ∃ e, de = some e ∧ e.loadRevRegDef = .ok d
  | .rvReadInfo r' ids _ _ _ de le => r' = r ∧ ids = X ∧ Contending r i j log ∧
      (∃ e, de = some e ∧ e.loadRevRegDef = .ok d) ∧ ∃ e l, le = some e ∧ e.loadRevList = .ok l
  | .rvCommit r' ids _ info E F _ _ => r' = r ∧ ids = X ∧ Contending r i j log ∧
      E = X.toFinset ∧ F = ∅ ∧
      ∃ cy : Bool, info = revokedInfo info₀ X.toFinset Y.toFinset false cy ∧
        (cy = true → .revoked j r ∈ log) ∧ (log.count (.conflict i) = 1 → cy = true)
  | .rvDone result => .revoked i r ∈ log ∧ Contended r i j log ∧
      ∃ p u, result = .ok ⟨some p, some u, []⟩
  | _ => False

/-- The registry as the thread `i` sees it: its definition `d`, a status list,
    and the info entry that the commits of the log left. -/
def RegistryView (r : String) (d : RevocationRegistryDefinition) (info₀ : RevRegInfo)
    (i j : Nat) (X Y : List Int) (log : List Event) (s : Store) : Prop :=
  s.revRegDef r = some d ∧ (∃ l, s.revList r = some l) ∧
    s.info r = some (revokedInfo info₀ X.toFinset Y.toFinset (decide (.revoked i r ∈ log))
      (decide (.revoked j r ∈ log)))

variable {i j : Nat} {X Y : List Int} {log : List Event}

theorem RegistryView.symm (h : RegistryView r d info₀ i j X Y log s) :
    RegistryView r d info₀ j i Y X log s :=
  ⟨h.1, h.2.1, h.2.2.trans (congrArg some (revokedInfo_comm _ _ _ _))⟩

/-- Wherever the call is, it found the info entry changed at most once, and
    then only after the other call committed. -/
theorem Thread.Revoking.contended (h : t.Revoking r d info₀ i j X Y log) :
    Contended r i j log := by
  cases t with
  | rvRead => exact h.2.2.2
  | rvReadList | rvReadInfo | rvCommit => exact h.2.2.1.2
  | rvDone => exact h.2.1
  | _ => exact h.elim

/-- A call that ended returned both lists, having committed. -/
theorem Thread.Revoking.done (h : t.Revoking r d info₀ i j X Y log) (hd : t.Done) :
    .revoked i r ∈ log ∧ ∃ p u, t = .rvDone (.ok ⟨some p, some u, []⟩) := by
  cases t with
  | rvDone result =>
    obtain ⟨hc, -, p, u, rfl⟩ := h
    exact ⟨hc, p, u, rfl⟩
  | ccDone | done => exact h.elim
  | _ => exact hd.elim

/-- A step of the other thread keeps where the thread is. -/
theorem Thread.Revoking.mono (h : t.Revoking r d info₀ i j X Y log) (hij : i ≠ j)
    (hev : ∀ e ∈ evs, e.thread = j) : t.Revoking r d info₀ i j X Y (log ++ evs) := by
  have hk : (log ++ evs).count (.conflict i) = log.count (.conflict i) := by
    rw [List.count_append, List.count_eq_zero_of_not_mem (fun he => hij (hev (.conflict i) he)),
      Nat.add_zero]
  have hd : Contended r i j log → Contended r i j (log ++ evs) := fun h => h.append hk
  have hc : Contending r i j log → Contending r i j (log ++ evs) := fun ⟨h1, h2⟩ =>
    ⟨fun he => (List.mem_append.1 he).elim h1 fun he => hij (hev (.revoked i r) he), hd h2⟩
  cases t with
  | rvRead => exact ⟨h.1, h.2.1, hc h.2.2⟩
  | rvReadList => exact ⟨h.1, h.2.1, hc h.2.2.1, h.2.2.2⟩
  | rvReadInfo => exact ⟨h.1, h.2.1, hc h.2.2.1, h.2.2.2⟩
  | rvCommit =>
    obtain ⟨h1, h2, h3, h4, h5, cy, h6, h7, h8⟩ := h
    exact ⟨h1, h2, hc h3, h4, h5, cy, h6, fun h => List.mem_append_left _ (h7 h), hk ▸ h8⟩
  | rvDone => exact ⟨List.mem_append_left _ h.1, hd h.2.1, h.2.2⟩
  | _ => exact h.elim

/-- The thread's own step, with a clock and a store that does not fail, when
    `X` is a nonempty set of eligible indices outside `Y`. -/
theorem Thread.Revoking.step {t₀ : Int} (hnow : env.now = .ok t₀) (hf : env.faults = false)
    (hX : ∀ x ∈ X, eligible d.maxCredNum info₀ x) (hXY : ∀ x ∈ X, x ∉ Y) (hX0 : X ≠ [])
    (hij : i ≠ j) (hv : RegistryView r d info₀ i j X Y log s) (ha : Attempts i log t)
    (h : t.Revoking r d info₀ i j X Y log) (hs : t.step env i s o = some (t', s', evs)) :
    t'.Revoking r d info₀ i j X Y (log ++ evs) ∧
      RegistryView r d info₀ i j X Y (log ++ evs) s' := by
  have hrun : t.run env i s o = (t', s', evs) := by
    refine Option.some.inj ((step_of_reliable hf (Thread.not_done_of_step hs) ?_).symm.trans hs)
    rintro r' ids a prev curr rfl
    have := ha.1
    simp only [maxAttempt]
    rcases h.2.2.2 with hk | ⟨hk, -⟩ <;> omega
  obtain ⟨hd, ⟨l, hl⟩, hi⟩ := hv
  obtain ⟨ei, hei, hvi⟩ := Store.info_eq_some.1 hi
  cases t with
  | rvRead r' ids a prev curr =>
    obtain ⟨hr, hids, hc⟩ := h
    subst r' ids
    simp only [Thread.run, Prod.mk.injEq] at hrun
    obtain ⟨rfl, rfl, rfl⟩ := hrun
    rw [List.append_nil]
    exact ⟨⟨rfl, rfl, hc, Store.revRegDef_eq_some.1 hd⟩, hd, ⟨l, hl⟩, hi⟩
  | rvReadList r' ids a prev curr de =>
    obtain ⟨hr, hids, hc, hde⟩ := h
    subst r' ids
    simp only [Thread.run, Prod.mk.injEq] at hrun
    obtain ⟨rfl, rfl, rfl⟩ := hrun
    rw [List.append_nil]
    obtain ⟨el, hel, hll⟩ := Store.revList_eq_some.1 hl
    exact ⟨⟨rfl, rfl, hc, hde, el, l, hel, hll⟩, hd, ⟨l, hl⟩, hi⟩
  | rvReadInfo r' ids a prev curr de le =>
    obtain ⟨hr, hids, hc, ⟨ed, rfl, hed⟩, ⟨el, l', rfl, hel⟩⟩ := h
    subst r' ids
    rw [decide_eq_false hc.1] at hvi
    simp only [Thread.run, hei, plan_of_entries _ _ _ hed hel hvi, partition_revokedInfo hX hXY,
      if_neg (mt (List.toFinset_eq_empty_iff X).1 hX0), hnow, Except.map, Prod.mk.injEq] at hrun
    obtain ⟨rfl, rfl, rfl⟩ := hrun
    rw [List.append_nil]
    refine ⟨⟨rfl, rfl, hc, rfl, rfl, _, rfl, of_decide_eq_true, fun hk => ?_⟩, hd, ⟨l, hl⟩, hi⟩
    exact decide_eq_true (hc.2.resolve_left (by omega)).2
  | rvCommit r' ids a info E F pl ul =>
    obtain ⟨hr, hids, hc, rfl, rfl, cy, rfl, hcy, hk⟩ := h
    subst r' ids
    rw [decide_eq_false hc.1] at hvi
    have hlist : (s.fetch .revList r).isSome := by
      obtain ⟨el, hel, -⟩ := Store.revList_eq_some.1 hl
      simp [hel]
    simp only [Thread.run, commitRevocation_of_fetch hlist hei hvi] at hrun
    split_ifs at hrun with heq
    · -- The info entry is as the attempt read it: the call commits.
      simp only [Prod.mk.injEq] at hrun
      obtain ⟨rfl, rfl, rfl⟩ := hrun
      have hj : Event.revoked j r ∈ log ++ [.revoked i r] ↔ Event.revoked j r ∈ log := by
        simp [Ne.symm hij]
      refine ⟨⟨by simp, hc.2.append (by simp), _, _, rfl⟩, by simp [hd], ⟨ul, by simp [revList_revokedStore]⟩, ?_⟩
      rw [info_revokedStore, if_pos rfl, ← heq, revoke_revokedInfo]
      simp [hj]
    · -- Another commit came between: the call found the entry changed once.
      simp only [Prod.mk.injEq] at hrun
      obtain ⟨rfl, rfl, rfl⟩ := hrun
      have hj : Event.revoked j r ∈ log := by
        by_contra hj
        cases cy
        · exact heq (by rw [decide_eq_false hj])
        · exact hj (hcy rfl)
      have hk0 : log.count (.conflict i) = 0 := by
        rcases hc.2 with hk0 | ⟨hk1, -⟩
        · exact hk0
        · cases cy
          · exact absurd (hk hk1) Bool.false_ne_true
          · exact absurd (by rw [decide_eq_true (hcy rfl)]) heq
      refine ⟨⟨rfl, rfl, ⟨by simpa using hc.1, .inr ⟨by simp [hk0], by simp [hj]⟩⟩⟩, hd, ⟨l, hl⟩,
        ?_⟩
      simpa using hi
  | rvDone => exact absurd trivial (Thread.not_done_of_step hs)
  | _ => exact h.elim

/-- What holds along two revocations of `A` and `B` at threads `0` and `1`. -/
def DisjointRun (r : String) (d : RevocationRegistryDefinition) (info₀ : RevRegInfo)
    (A B : List Int) (σ : Sys) : Prop :=
  (∃ t₀ t₁, σ.threads = [t₀, t₁] ∧ t₀.Revoking r d info₀ 0 1 A B σ.log ∧
    t₁.Revoking r d info₀ 1 0 B A σ.log) ∧ RegistryView r d info₀ 0 1 A B σ.log σ.store

variable {s₀ : Store} {A B : List Int} {σ : Sys}

theorem DisjointRun.of_reachable {t₀ : Int} (hnow : env.now = .ok t₀) (hf : env.faults = false)
    (hd : s₀.revRegDef r = some d) (hl : ∃ l, s₀.revList r = some l) (hi : s₀.info r = some info₀)
    (hA0 : A ≠ []) (hB0 : B ≠ []) (hA : ∀ x ∈ A, eligible d.maxCredNum info₀ x)
    (hB : ∀ x ∈ B, eligible d.maxCredNum info₀ x) (hAB : ∀ x ∈ A, x ∉ B)
    (h : Reachable env (Sys.init s₀ [.revokeCredentials r A, .revokeCredentials r B]) σ) :
    DisjointRun r d info₀ A B σ := by
  induction h with
  | init =>
    exact ⟨⟨_, _, rfl, ⟨rfl, rfl, List.not_mem_nil _, .inl rfl⟩,
        ⟨rfl, rfl, List.not_mem_nil _, .inl rfl⟩⟩,
      hd, hl, by simpa [Sys.init, revokedInfo] using hi⟩
  | step hσ hs ih =>
    obtain ⟨⟨u₀, u₁, hts, h₀, h₁⟩, hv⟩ := ih
    obtain ⟨m, o, hs⟩ := hs
    obtain ⟨u, u', evs, hu, hus, hth, hlog⟩ := Sys.step_threads hs
    have hev : ∀ e ∈ evs, e.thread = m := fun _ he => (step_effect hus).thread_of_mem he
    unfold DisjointRun
    rw [hth, hlog, hts]
    rcases m with _ | _ | m
    · obtain ⟨w, hw, ha⟩ := hσ.attempts hnow (n := 0) rfl
      rw [hts] at hu hw
      cases hu
      cases hw
      obtain ⟨h₀', hv'⟩ := h₀.step hnow hf hA hAB hA0 (by decide) hv ha hus
      exact ⟨⟨u', u₁, rfl, h₀', h₁.mono (by decide) hev⟩, hv'⟩
    · obtain ⟨w, hw, ha⟩ := hσ.attempts hnow (n := 1) rfl
      rw [hts] at hu hw
      cases hu
      cases hw
      obtain ⟨h₁', hv'⟩ := h₁.step hnow hf hB (fun x hx hxA => hAB x hxA hx) hB0 (by decide)
        hv.symm ha hus
      exact ⟨⟨u₀, u', rfl, h₀.mono (by decide) hev, h₁'⟩, hv'.symm⟩
    · rw [hts] at hu
      cases hu

end Disjoint

/-- With a timestamp that evaluates and a store that does not fail, two
    revocations on one registry of disjoint nonempty sets `A` and `B` of
    eligible indices (issued, in range and not revoked) run to their end along
    every interleaving, and both return both status lists with nothing failed;
    `used_ids` ends as `sorted(used_ids ∪ A ∪ B)`, with `curr_id` as it was:
    no update of `used_ids` is lost. -/
theorem revokeCredentials_disjoint_of_now (env : Env) (t : Int) (hnow : env.now = .ok t)
    (hf : env.faults = false) (s₀ : Store) (r : String) (d : RevocationRegistryDefinition)
    (info₀ : RevRegInfo) (hd : s₀.revRegDef r = some d) (hl : (s₀.revList r).isSome)
    (hi : s₀.info r = some info₀) (A B : List Int) (hA0 : A ≠ []) (hB0 : B ≠ [])
    (hA : ∀ x ∈ A, eligible d.maxCredNum info₀ x) (hB : ∀ x ∈ B, eligible d.maxCredNum info₀ x)
    (hAB : ∀ x ∈ A, x ∉ B) {σ : Sys}
    (hσ : Reachable env (Sys.init s₀ [.revokeCredentials r A, .revokeCredentials r B]) σ) :
    (∃ σ', Reachable env σ σ' ∧ σ'.Terminal) ∧
    (σ.Terminal → (∃ p₀ u₀ p₁ u₁, σ.threads =
        [.rvDone (.ok ⟨some p₀, some u₀, []⟩), .rvDone (.ok ⟨some p₁, some u₁, []⟩)]) ∧
      σ.store.info r = some (info₀.revoke (A.toFinset ∪ B.toFinset))) := by
  refine ⟨Sys.exists_terminal env σ, fun hT => ?_⟩
  obtain ⟨⟨t₀, t₁, hts, h₀, h₁⟩, -, -, hinfo⟩ :=
    DisjointRun.of_reachable hnow hf hd (Option.isSome_iff_exists.1 hl) hi hA0 hB0 hA hB hAB hσ
  obtain ⟨hc₀, p₀, u₀, rfl⟩ := h₀.done (hT _ (by simp [hts]))
  obtain ⟨hc₁, p₁, u₁, rfl⟩ := h₁.done (hT _ (by simp [hts]))
  refine ⟨⟨p₀, u₀, p₁, u₁, hts⟩, ?_⟩
  rw [hinfo, decide_eq_true hc₀, decide_eq_true hc₁]
  rfl

/-- On `sampleRegistry`, in the interleaving of `raceSchedule`, both
    revocations end, and `used_ids` holds `1` and `2`. -/
theorem revokeCredentials_disjoint_race :
    ∃ σ, Reachable ⟨.ok 0, false, 0, 0⟩
        (Sys.init sampleRegistry [.revokeCredentials "r" [1], .revokeCredentials "r" [2]]) σ ∧
      σ.Terminal ∧ σ.store.info "r" = some ⟨2, [1, 2]⟩ := by
  obtain ⟨σ, hσ, hT⟩ : ∃ σ, Reachable ⟨.ok 0, false, 0, 0⟩
      (Sys.init sampleRegistry [.revokeCredentials "r" [1], .revokeCredentials "r" [2]]) σ ∧
      σ.Terminal :=
    ⟨_, @Reachable.of_run _ _ _ _ raceSchedule .init rfl,
      List.forall_mem_cons.2 ⟨trivial, List.forall_mem_singleton.2 trivial⟩⟩
  refine ⟨σ, hσ, hT, ((revokeCredentials_disjoint_of_now _ 0 rfl rfl sampleRegistry "r"
    ⟨"did", 3⟩ ⟨2, []⟩ rfl rfl rfl [1] [2] (by decide) (by decide) (by decide) (by decide)
    (by decide) hσ).2 hT).2.trans ?_⟩
  decide

/-- An empty request is disjoint from every other, but its call returns no
    updated list: the loop stops when there is nothing to revoke, with `curr`
    still `None`. -/
theorem revokeCredentials_disjoint_empty :
    ∃ σ, Reachable ⟨.ok 0, false, 0, 0⟩
        (Sys.init sampleRegistry [.revokeCredentials "r" [], .revokeCredentials "r" [2]]) σ ∧
      σ.Terminal ∧ σ.threads[0]? = some (.rvDone (.ok ⟨none, none, []⟩)) :=
  ⟨_, @Reachable.of_run _ _ _ _ [(0, {}), (0, {}), (0, {}), (1, {}), (1, {}), (1, {}), (1, {})]
    .init rfl, List.forall_mem_cons.2 ⟨trivial, List.forall_mem_singleton.2 trivial⟩, rfl⟩

/-- With a timestamp that evaluates and a store that does not fail, along every
    interleaving of two revocations on one registry of disjoint nonempty sets
    of eligible indices, each call finds the info entry changed at most once,
    and then only after the other call committed. -/
theorem revokeCredentials_disjoint_contended (env : Env) (t : Int) (hnow : env.now = .ok t)
    (hf : env.faults = false) (s₀ : Store) (r : String) (d : RevocationRegistryDefinition)
    (info₀ : RevRegInfo) (hd : s₀.revRegDef r = some d) (hl : (s₀.revList r).isSome)
    (hi : s₀.info r = some info₀) (A B : List Int) (hA0 : A ≠ []) (hB0 : B ≠ [])
    (hA : ∀ x ∈ A, eligible d.maxCredNum info₀ x) (hB : ∀ x ∈ B, eligible d.maxCredNum info₀ x)
    (hAB : ∀ x ∈ A, x ∉ B) {σ : Sys}
    (hσ : Reachable env (Sys.init s₀ [.revokeCredentials r A, .revokeCredentials r B]) σ) :
    (σ.log.count (.conflict 0) = 0 ∨ (σ.log.count (.conflict 0) = 1 ∧ .revoked 1 r ∈ σ.log)) ∧
    (σ.log.count (.conflict 1) = 0 ∨ (σ.log.count (.conflict 1) = 1 ∧ .revoked 0 r ∈ σ.log)) := by
  obtain ⟨⟨t₀, t₁, -, h₀, h₁⟩, -⟩ :=
    DisjointRun.of_reachable hnow hf hd (Option.isSome_iff_exists.1 hl) hi hA0 hB0 hA hB hAB hσ
  exact ⟨h₀.contended, h₁.contended⟩

/-- The first revocation reads the definition, the list and the info entry;
    the second runs its attempt and commits; the first's commit then finds the
    info entry changed, and its second attempt commits. -/
def conflictSchedule : List (Nat × Oracle) :=
  [(0, {}), (0, {}), (0, {}), (1, {}), (1, {}), (1, {}), (1, {}), (0, {}), (0, {}), (0, {}),
    (0, {}), (0, {})]

/-- On `sampleRegistry`, in the interleaving of `conflictSchedule`, the first
    call finds the info entry changed once, after the second committed. -/
theorem revokeCredentials_disjoint_contended_conflict :
    ∃ σ, Reachable ⟨.ok 0, false, 0, 0⟩
        (Sys.init sampleRegistry [.revokeCredentials "r" [1], .revokeCredentials "r" [2]]) σ ∧
      σ.Terminal ∧ σ.log.count (.conflict 0) = 1 ∧
      (σ.log.count (.conflict 0) = 0 ∨ (σ.log.count (.conflict 0) = 1 ∧ .revoked 1 "r" ∈ σ.log)) ∧
      (σ.log.count (.conflict 1) = 0 ∨ (σ.log.count (.conflict 1) = 1 ∧ .revoked 0 "r" ∈ σ.log)) := by
  obtain ⟨σ, hσ, hT, hk⟩ : ∃ σ, Reachable ⟨.ok 0, false, 0, 0⟩
      (Sys.init sampleRegistry [.revokeCredentials "r" [1], .revokeCredentials "r" [2]]) σ ∧
      σ.Terminal ∧ σ.log.count (.conflict 0) = 1 :=
    ⟨_, @Reachable.of_run _ _ _ _ conflictSchedule .init rfl,
      List.forall_mem_cons.2 ⟨trivial, List.forall_mem_singleton.2 trivial⟩, rfl⟩
  exact ⟨σ, hσ, hT, hk, revokeCredentials_disjoint_contended _ 0 rfl rfl sampleRegistry "r"
    ⟨"did", 3⟩ ⟨2, []⟩ rfl rfl rfl [1] [2] (by decide) (by decide) (by decide) (by decide)
    (by decide) hσ⟩

end Acapy
