import Acapy.System.Step

/-!
# What a step can do

`Effect` lists, once, every change a step makes to the store and the log,
with the guard under which the code makes it (`step_effect`): a step either
changes nothing, or logs a conflict, or commits an allocation or a
revocation, or inserts a registry or a status list, or saves a record. Every
invariant of the system is proved against this list, never against the step
itself.

Besides:

* the events of a step are those of its own thread (`Effect.thread_of_mem`);
* no step removes an entry (`Effect.fetch_isSome`);
* every step lowers the thread's `rank` (`step_rank_lt`), and every call
  that has not ended can step (`step_isSome`): no run is infinite
  (`step_wellFounded`), and from every state some run ends with every call
  ended (`Sys.exists_terminal`).
-/

namespace Acapy

variable {env : Env} {n : Nat} {o : Oracle} {s s' : Store} {t t' : Thread} {evs : List Event}

/-! ## The changes of a step -/

/-- The changes a step of the thread `n`, at `t` with the outcomes `o`, makes
    to the store `s` and to the log. -/
inductive Effect (n : Nat) (o : Oracle) (s : Store) : Thread → Store → List Event → Prop
  /-- A read, a failure, or a call that ends without writing. -/
  | quiet {t : Thread} : Effect n o s t s []
  /-- A commit of `revoke_credentials` that found the info entry changed. -/
  | conflict {r ids a info E F pl ul} :
      Effect n o s (.rvCommit r ids a info E F pl ul) s [.conflict n]
  /-- The allocation transaction of `create_credential`. -/
  | alloc {r : String} {info : RevRegInfo} : CanAllocate s r info →
      Effect n o s (.ccAlloc r) (advanceCurrId s r info) [.alloc n r (info.currId + 1)]
  /-- A commit of `revoke_credentials`. -/
  | commit {r ids a info E F pl ul} {e : Entry} : (s.fetch .revList r).isSome →
      s.fetch .revRegInfo r = some e → e.valueJson = .ok info →
      Effect n o s (.rvCommit r ids a info E F pl ul) (revokedStore s r info E ul) [.revoked n r]
  /-- The transaction of `create_and_register_revocation_registry_definition`. -/
  | registry {record : IssuerRevRegRecord} {id : String} {d : RevocationRegistryDefinition}
      {k : String} : s.fetch .revRegInfo id = none → s.fetch .revRegDef id = none →
      s.fetch .revRegDefPrivate id = none →
      Effect n o s (.rdStore record id d k) (insertedRegistry s record id d k) []
  /-- The insert of `create_and_register_revocation_list`. -/
  | list {record : IssuerRevRegRecord} {id : String} {l : RevocationStatusList} :
      s.fetch .revList id = none →
      Effect n o s (.rlStore record id l) (s.put .revList id (.plain (.revList l))) []
  /-- The save of a posted record. -/
  | posted {record : IssuerRevRegRecord} {id : String} :
      (s.records.lookup record.recordId).isSome →
      Effect n o s (.rdSave record id) (s.putRecord (record.posted id)) []
  /-- The save of an activated record. -/
  | activated {record : IssuerRevRegRecord} : (s.records.lookup record.recordId).isSome →
      Effect n o s (.rlSave record) (s.putRecord record.activated) []
  /-- The transaction of `handle_full_registry`, which calls
      `init_issuer_registry`. -/
  | full {r : String} {registry : IssuerRevRegRecord} :
      s.retrieveByRevocRegId r = .ok registry → registry.state ≠ .full →
      Effect n o s (.hfTxn r) (s.putRecord { registry with state := .full })
        [.successor n registry.initArgs]
  /-- The save of the new record of `init_issuer_registry`. -/
  | created {args : InitArgs} : s.records.lookup o.recordId = none →
      Effect n o s (.irSave args) (s.putRecord (args.record o.recordId)) []

/-- A failure ends the call. -/
theorem Thread.failed_done : t.failed.Done := by
  cases t <;> trivial

/-- A failure never reads as the repeated-conflict error. -/
theorem Thread.failed_ne_repeatedConflict (hd : ¬ t.Done) :
    t.failed ≠ .rvDone (.error repeatedConflict) := fun h => by
  cases t <;>
    first | exact (hd trivial).elim | cases h | simp [Thread.failed, repeatedConflict] at h

/-- An ended call has no step. -/
theorem Thread.not_done_of_step {x : Thread × Store × List Event}
    (h : t.step env n s o = some x) : ¬ t.Done := fun hd => by
  cases t <;> first | exact hd | cases h

/-- A thread that steps has not ended. Its step ends the call without an
    access of the store, by a failure or with the counter of
    `revoke_credentials` run out, or it is the step of `Thread.run`, with the
    counter below `max_attempt`. -/
theorem step_eq_some (h : t.step env n s o = some (t', s', evs)) :
    ¬ t.Done ∧ ((s' = s ∧ evs = [] ∧ (t' = t.failed ∨ (t' = .rvDone (.error repeatedConflict) ∧
        ∃ r ids a prev curr, t = .rvRead r ids a prev curr ∧ maxAttempt ≤ a + 1))) ∨
      (t.run env n s o = (t', s', evs) ∧
        ∀ r ids a prev curr, t = .rvRead r ids a prev curr → a + 1 < maxAttempt)) := by
  refine ⟨Thread.not_done_of_step h, ?_⟩
  unfold Thread.step at h
  split at h
  · cases h
  · cases h
  · cases h
  · split_ifs at h with ha
    · cases h
      exact .inl ⟨rfl, rfl, .inr ⟨rfl, _, _, _, _, _, rfl, ha⟩⟩
    · cases h
      exact .inl ⟨rfl, rfl, .inl rfl⟩
    · refine .inr ⟨Option.some.inj h, ?_⟩
      rintro _ _ _ _ _ ⟨⟩
      omega
  · rename_i hrv
    split_ifs at h
    · cases h
      exact .inl ⟨rfl, rfl, .inl rfl⟩
    · refine .inr ⟨Option.some.inj h, ?_⟩
      rintro r ids a prev curr rfl
      exact (hrv r ids a prev curr rfl).elim

/-- A step that ends a call without an access of the store ends it. -/
theorem step_eq_some_done
    (h : t' = t.failed ∨ (t' = .rvDone (.error repeatedConflict) ∧
      ∃ r ids a prev curr, t = .rvRead r ids a prev curr ∧ maxAttempt ≤ a + 1)) : t'.Done := by
  rcases h with rfl | ⟨rfl, -⟩
  · exact Thread.failed_done
  · trivial

/-- The one list of what a step does to the store and the log. -/
theorem step_effect (h : t.step env n s o = some (t', s', evs)) : Effect n o s t s' evs := by
  have hs := step_eq_some h
  clear h
  obtain ⟨-, ⟨rfl, rfl, -⟩ | ⟨h, -⟩⟩ := hs
  · exact .quiet
  cases t with
  | ccAlloc r =>
    rcases heq : allocateIndex s r with e | ⟨i, s₁⟩ <;> simp only [Thread.run, heq] at h <;>
      cases h
    · exact .quiet
    · obtain ⟨info, hc, rfl, rfl⟩ := allocateIndex_eq_ok.1 heq
      exact .alloc hc
  | rvCommit r ids a info E F pl ul =>
    rcases heq : commitRevocation s r info E ul with e | ⟨_ | _ | _, s₁⟩ <;>
      simp only [Thread.run, heq] at h <;> cases h
    · exact .quiet
    · exact .quiet
    · exact .conflict
    · obtain ⟨-, hl, ⟨e, he, hv⟩, rfl⟩ | ⟨hc, -⟩ := commitRevocation_eq_ok heq
      · exact .commit hl he hv
      · exact absurd rfl hc
  | rdStore record id d k =>
    rcases heq : storeRevRegDef s record id d k with e | s₁ <;>
      simp only [Thread.run, heq] at h <;> cases h
    · exact .quiet
    · obtain ⟨h1, h2, h3, rfl⟩ := storeRevRegDef_eq_ok heq
      exact .registry h1 h2 h3
  | rdSave record id =>
    rcases heq : s.saveRecord (record.posted id) false with e | s₁ <;>
      simp only [Thread.run, heq] at h <;> cases h
    · exact .quiet
    · obtain ⟨hnew, rfl⟩ := Store.saveRecord_eq_ok.1 heq
      exact .posted (Option.ne_none_iff_isSome.1 (by simpa using hnew))
  | rlStore record id l =>
    rcases heq : storeRevList s id l with e | s₁ <;> simp only [Thread.run, heq] at h <;> cases h
    · exact .quiet
    · obtain ⟨h1, rfl⟩ := Store.insert_eq_ok.1 (wrapAskar_eq_ok.1 heq)
      exact .list h1
  | rlSave record =>
    rcases heq : s.saveRecord record.activated false with e | s₁ <;>
      simp only [Thread.run, heq] at h <;> cases h
    · exact .quiet
    · obtain ⟨hnew, rfl⟩ := Store.saveRecord_eq_ok.1 heq
      refine .activated ?_
      rw [← IssuerRevRegRecord.activated_recordId]
      exact Option.ne_none_iff_isSome.1 (by simpa using hnew)
  | hfTxn r =>
    rcases heq : markFull s r with e | ⟨_ | registry, s₁⟩ <;>
      simp only [Thread.run, heq] at h <;> cases h
    · exact .quiet
    · obtain ⟨_, -, ⟨-, -, rfl⟩ | ⟨-, h, -⟩⟩ := markFull_eq_ok heq
      · exact .quiet
      · cases h
    · obtain ⟨_, hr, ⟨-, h, -⟩ | ⟨hf, h, rfl⟩⟩ := markFull_eq_ok heq
      · cases h
      · cases h
        exact .full hr hf
  | irSave args =>
    rcases hc : checkInit env.minSize env.maxSize args o.supportsRevocation with e | ⟨⟩ <;>
      rcases heq : s.saveRecord (args.record o.recordId) true with e' | s₁ <;>
      simp only [Thread.run, hc, heq] at h <;> cases h
    any_goals exact .quiet
    obtain ⟨hnew, rfl⟩ := Store.saveRecord_eq_ok.1 heq
    exact .created (hnew.1 rfl)
  | _ =>
    simp only [Thread.run] at h
    repeat' split at h
    all_goals cases h; exact .quiet

/-! ## Consequences -/

/-- The events of a step are its own thread's. -/
theorem Effect.thread_of_mem (h : Effect n o s t s' evs) {e : Event} (he : e ∈ evs) :
    e.thread = n := by
  cases h <;> simp_all [Event.thread]

/-- No step removes an entry. -/
theorem Effect.fetch_isSome (h : Effect n o s t s' evs) {c : Category} {k : String}
    (hk : (s.fetch c k).isSome) : (s'.fetch c k).isSome := by
  cases h with
  | alloc _ | list _ => exact Store.isSome_fetch_put hk
  | commit _ _ _ => exact Store.isSome_fetch_put (Store.isSome_fetch_put hk)
  | registry _ _ _ =>
    exact Store.isSome_fetch_put (Store.isSome_fetch_put (Store.isSome_fetch_put hk))
  | _ => exact hk

/-- A thread reaches the commit of an attempt only from the read of the info
    entry, with what the attempt planned. -/
theorem step_rvCommit {r : String} {ids : List Int} {a : Nat} {info : RevRegInfo}
    {E F : Finset Int} {pl ul : RevocationStatusList}
    (h : t.step env n s o = some (.rvCommit r ids a info E F pl ul, s', evs)) :
    ∃ prev curr de le, t = .rvReadInfo r ids a prev curr de le ∧
      plan env.now ids prev curr de le (s.fetch .revRegInfo r) = .ok (.commit info E F pl ul) := by
  obtain ⟨-, ⟨-, -, hd⟩ | ⟨h, -⟩⟩ := step_eq_some h
  · exact (step_eq_some_done hd).elim
  cases t <;> simp only [Thread.run] at h <;> (repeat' split at h) <;> cases h
  exact ⟨_, _, _, _, rfl, by assumption⟩

/-- A new attempt of `revoke_credentials` starts only after a conflict. -/
theorem step_rvRead {r : String} {ids : List Int} {a : Nat} {prev curr : Option RevocationStatusList}
    (h : t.step env n s o = some (.rvRead r ids a prev curr, s', evs)) :
    ∃ info E F pl ul, t = .rvCommit r ids a info E F pl ul ∧ prev = some pl ∧ curr = some ul ∧
      evs = [.conflict n] := by
  obtain ⟨-, ⟨-, -, hd⟩ | ⟨h, -⟩⟩ := step_eq_some h
  · exact (step_eq_some_done hd).elim
  cases t <;> simp only [Thread.run] at h <;> (repeat' split at h) <;> cases h
  exact ⟨_, _, _, _, _, rfl, rfl, rfl, rfl⟩

/-- `revoke_credentials` raises `Repeated conflict attempting to update
    registry` when its counter runs out, or when an attempt or a commit raises
    that exception. -/
theorem step_repeatedConflict (h : t.step env n s o = some (.rvDone (.error repeatedConflict), s', evs)) :
    (∃ r ids a prev curr, t = .rvRead r ids a prev curr ∧ maxAttempt ≤ a + 1) ∨
    (∃ r ids a prev curr de le, t = .rvReadInfo r ids a prev curr de le ∧
      plan env.now ids prev curr de le (s.fetch .revRegInfo r) = .error repeatedConflict) ∨
    (∃ r ids a info E F pl ul, t = .rvCommit r ids a info E F pl ul ∧
      commitRevocation s r info E ul = .error repeatedConflict) := by
  obtain ⟨hd, ⟨-, -, hf | ⟨-, hc⟩⟩ | ⟨h, -⟩⟩ := step_eq_some h
  · exact (Thread.failed_ne_repeatedConflict hd hf.symm).elim
  · exact .inl hc
  cases t <;> simp only [Thread.run] at h <;> (repeat' split at h) <;> cases h
  all_goals first
    | exact (hd trivial).elim
    | exact .inr (.inl ⟨_, _, _, _, _, _, _, rfl, by assumption⟩)
    | exact .inr (.inr ⟨_, _, _, _, _, _, _, _, rfl, by assumption⟩)

/-! ## Every run ends -/

/-- A bound on the steps a thread has left: those of its call, four for each
    attempt `revoke_credentials` may still make. -/
def Thread.rank : Thread → Nat
  | .ccRead .. => 2
  | .ccAlloc _ => 1
  | .rvRead _ _ a _ _ => 4 * (maxAttempt - 1 - a) + 1
  | .rvReadList _ _ a _ _ _ => 4 * (maxAttempt - 1 - a) + 4
  | .rvReadInfo _ _ a _ _ _ _ => 4 * (maxAttempt - 1 - a) + 3
  | .rvCommit _ _ a .. => 4 * (maxAttempt - 1 - a) + 2
  | .rdRead _ | .rlRead _ => 3
  | .rdStore .. | .rlStore .. | .hfTxn _ => 2
  | .rdSave .. | .rlSave _ | .irSave _ => 1
  | .ccDone _ | .rvDone _ | .done _ => 0

/-- Every step lowers the rank of its thread. -/
theorem Thread.rank_of_done (ht : t.Done) : t.rank = 0 := by
  cases t <;> first | rfl | exact ht.elim

theorem Thread.rank_pos (ht : ¬ t.Done) : 0 < t.rank := by
  cases t <;> first | exact (ht trivial).elim | exact Nat.zero_lt_succ _

theorem step_rank_lt (h : t.step env n s o = some (t', s', evs)) : t'.rank < t.rank := by
  obtain ⟨hd, ⟨-, -, hd'⟩ | ⟨h, hcount⟩⟩ := step_eq_some h
  · rw [Thread.rank_of_done (step_eq_some_done hd')]
    exact Thread.rank_pos hd
  cases t with
  | rvRead r ids a prev curr =>
    have ha := hcount r ids a prev curr rfl
    simp only [Thread.run] at h
    cases h
    simp only [Thread.rank, maxAttempt] at ha ⊢
    omega
  | _ =>
    simp only [Thread.run] at h
    (repeat' split at h) <;> cases h <;>
      first | exact (hd trivial).elim | (simp only [Thread.rank]; omega)

/-- A call that has not ended can step, whatever the outcomes. -/
theorem step_isSome (ht : ¬ t.Done) : (t.step env n s o).isSome := by
  unfold Thread.step
  split
  iterate 3 exact (ht trivial).elim
  all_goals split_ifs <;> rfl

/-- With a store that does not fail, a call that has not ended makes the step
    of `Thread.run`, unless the counter of `revoke_credentials` has run out. -/
theorem step_of_reliable (hf : env.faults = false) (hd : ¬ t.Done)
    (hc : ∀ r ids a prev curr, t = .rvRead r ids a prev curr → a + 1 < maxAttempt) :
    t.step env n s o = some (t.run env n s o) := by
  unfold Thread.step
  split
  iterate 3 exact (hd trivial).elim
  all_goals simp only [Env.fails, hf, Bool.and_false, Bool.false_eq_true, if_false]
  rw [if_neg (Nat.not_le_of_lt (hc _ _ _ _ _ rfl))]

/-- What the threads `ts` have left to do. -/
def rankSum : List Thread → Nat
  | [] => 0
  | t :: ts => t.rank + rankSum ts

/-- What the threads have left to do. -/
def Sys.measure (σ : Sys) : Nat :=
  rankSum σ.threads

/-- Moving one thread to a lower rank lowers the sum. -/
theorem rankSum_set_lt {l : List Thread} {i : Nat} {t t' : Thread} (hi : l[i]? = some t)
    (h : t'.rank < t.rank) : rankSum (l.set i t') < rankSum l := by
  induction l generalizing i with
  | nil => simp at hi
  | cons x l ih =>
    cases i with
    | zero =>
      rw [List.getElem?_cons_zero, Option.some.injEq] at hi
      subst hi
      simp only [List.set_cons_zero, rankSum]
      omega
    | succ i =>
      simp only [List.set_cons_succ, rankSum]
      have := ih (by simpa using hi)
      omega

variable {σ σ' : Sys}

/-- Every step of the system lowers its measure: every run ends. -/
theorem Sys.step_measure_lt (h : σ.step env n o = some σ') : σ'.measure < σ.measure := by
  obtain ⟨t, t', s', evs, ht, hs, rfl⟩ := Sys.step_eq_some.1 h
  exact rankSum_set_lt ht (step_rank_lt hs)

/-- A state where some call has not ended has a step. -/
theorem Sys.exists_step (h : ¬ σ.Terminal) : ∃ σ', Step env σ σ' := by
  simp only [Sys.Terminal, not_forall] at h
  obtain ⟨t, hmem, hd⟩ := h
  obtain ⟨i, hi⟩ := List.mem_iff_getElem?.1 hmem
  obtain ⟨⟨t', s', evs⟩, hs⟩ := Option.isSome_iff_exists.1
    (step_isSome hd : (t.step env i σ.store {}).isSome)
  exact ⟨_, i, {}, Sys.step_eq_some.2 ⟨t, t', s', evs, hi, hs, rfl⟩⟩

/-- No run is infinite, whatever the calls, the scheduler and the outcomes: every
    step lowers `Sys.measure`. -/
theorem step_wellFounded (env : Env) : WellFounded (fun σ' σ => Step env σ σ') :=
  Subrelation.wf (fun ⟨_, _, h⟩ => Sys.step_measure_lt h) (measure Sys.measure).wf

/-- From every state, the calls can all end: a run that steps while some
    call has not ended ends. -/
theorem Sys.exists_terminal (env : Env) (σ : Sys) : ∃ σ', Reachable env σ σ' ∧ σ'.Terminal := by
  suffices ∀ k σ, Sys.measure σ = k → ∃ σ', Reachable env σ σ' ∧ σ'.Terminal from this _ σ rfl
  intro k
  induction k using Nat.strong_induction_on with
  | _ k ih =>
    intro σ h
    by_cases ht : σ.Terminal
    · exact ⟨σ, .init, ht⟩
    obtain ⟨σ₁, m, o, hs⟩ : ∃ σ₁, Step env σ σ₁ := Sys.exists_step ht
    obtain ⟨σ', h', ht'⟩ := ih _ (h ▸ Sys.step_measure_lt hs) σ₁ rfl
    exact ⟨σ', (Reachable.init.step ⟨m, o, hs⟩).trans h', ht'⟩

/-! ## Invariants -/

/-- The threads after a step: the stepping thread moved, the others as they
    were. -/
theorem Sys.step_threads (h : σ.step env n o = some σ') :
    ∃ t t' evs, σ.threads[n]? = some t ∧ t.step env n σ.store o = some (t', σ'.store, evs) ∧
      σ'.threads = σ.threads.set n t' ∧ σ'.log = σ.log ++ evs := by
  obtain ⟨t, t', s', evs, ht, hs, rfl⟩ := Sys.step_eq_some.1 h
  exact ⟨t, t', evs, ht, hs, rfl, rfl⟩

theorem getElem?_set_of {l : List Thread} {i : Nat} {a b : Thread} (h : l[i]? = some a) :
    (l.set i b)[i]? = some b :=
  List.getElem?_set_self (List.getElem?_eq_some_iff.1 h).1

/-- A property of threads that every step keeps holds of every thread of every
    reachable state. -/
theorem Reachable.threads_of {σ₀ : Sys} {P : Thread → Prop} (h0 : ∀ t ∈ σ₀.threads, P t)
    (hP : ∀ {n s o t t' s' evs}, P t → t.step env n s o = some (t', s', evs) → P t')
    (h : Reachable env σ₀ σ) : ∀ t ∈ σ.threads, P t := by
  induction h with
  | init => exact h0
  | step _ hs ih =>
    obtain ⟨n, o, hs⟩ := hs
    obtain ⟨t, t', evs, ht, hts, hth, -⟩ := Sys.step_threads hs
    intro u hu
    rw [hth] at hu
    rcases List.mem_or_eq_of_mem_set hu with hu | rfl
    · exact ih u hu
    · exact hP (ih t (List.getElem?_mem ht)) hts

end Acapy
