import Acapy.System.Effects

/-!
# A call run alone

The model has each call at two levels: as one function of the store, as if
no other call ran (`createCredential`, `revokeCredentials`,
`createAndRegisterRevocationRegistryDefinition`,
`createAndRegisterRevocationList`, `initIssuerRegistry`,
`handleFullRegistry`), and as a thread of the system, access by access
(`Acapy.System.Step`). The two agree:

* run alone, with a store that does not fail, every call of the system ends,
  and every run ends as the call's function does, for the outcomes of the
  external calls that its steps drew (`Call.Ends`, `calls_alone`); a call of
  `revoke_credentials` draws none, and ends as `revokeCredentials` does;
* every outcome of `createCredential` is that of a run
  (`createCredential_alone`).

So what is proved of the functions (`revokeCredentials_of_now`,
`createCredential_store`, `createAndRegisterRevocationList_active`) is what
a call of the system does when no other call runs.
-/

namespace Acapy

variable {env : Env} {n : Nat} {o : Oracle} {s s₁ s₂ : Store} {t t' : Thread} {evs : List Event}

/-- With a store that does not fail, the step of a call that is not at the top
    of an attempt of `revoke_credentials` is that of `Thread.run`. -/
theorem run_of_step (hf : env.faults = false) {x : Thread × Store × List Event}
    (hs : t.step env n s o = some x) (hr : ∀ r ids a prev curr, t ≠ .rvRead r ids a prev curr) :
    t.run env n s o = x :=
  Option.some.inj ((step_of_reliable hf (Thread.not_done_of_step hs)
    fun r ids a prev curr h => (hr r ids a prev curr h).elim).symm.trans hs)

/-- The threads of a system with one call stay one thread, kept by `P` when
    every step of it keeps `P`. -/
theorem Reachable.alone {P : Thread → Store → Prop} {c : Call} {σ : Sys}
    (h : Reachable env (Sys.init s [c]) σ) (h0 : P c.start s)
    (hP : ∀ {o t t' s₁ s₂ evs}, P t s₁ → t.step env 0 s₁ o = some (t', s₂, evs) → P t' s₂) :
    ∃ t, σ.threads = [t] ∧ P t σ.store := by
  induction h with
  | init => exact ⟨_, rfl, h0⟩
  | step _ hs ih =>
    obtain ⟨t, ht, hP'⟩ := ih
    obtain ⟨m, o, hs⟩ := hs
    obtain ⟨u, u', evs, hu, hus, hth, -⟩ := Sys.step_threads hs
    rw [ht] at hu
    rcases m with _ | m
    · cases hu
      exact ⟨u', by rw [hth, ht]; rfl, hP hP' hus⟩
    · cases hu

/-- A step of the one thread. -/
theorem Reachable.step_alone {σ₀ σ : Sys} (h : Reachable env σ₀ σ) (ht : σ.threads = [t])
    (hs : t.step env 0 σ.store o = some (t', s₂, evs)) :
    Reachable env σ₀ ⟨s₂, [t'], σ.log ++ evs⟩ :=
  h.step ⟨0, o, Sys.step_eq_some.2 ⟨t, t', s₂, evs, by rw [ht]; rfl, hs, by rw [ht]; rfl⟩⟩

/-- How a call run alone on `s` can end, after its function: what it returns
    and the store it leaves, for some outcomes of its external calls. The
    system keeps whether a call of the registry manager returned, not the value
    it returned. -/
def Call.Ends (env : Env) (s : Store) : Call → Thread → Store → Prop
  | .createCredential a ro, t, s' => ∃ names cred,
      t = .ccDone (Acapy.createCredential s a ro names cred).1 ∧
      s' = (Acapy.createCredential s a ro names cred).2
  | .revokeCredentials r ids, t, s' =>
      t = .rvDone (Acapy.revokeCredentials env.now s r ids).1 ∧ s' = (Acapy.revokeCredentials env.now s r ids).2
  | .createAndRegisterRevocationRegistryDefinition record, t, s' => ∃ created registration,
      t = .done ((Acapy.createAndRegisterRevocationRegistryDefinition s record created registration).1.map
        fun _ => ()) ∧
      s' = (Acapy.createAndRegisterRevocationRegistryDefinition s record created registration).2
  | .createAndRegisterRevocationList record, t, s' => ∃ registered,
      t = .done (Acapy.createAndRegisterRevocationList s record registered).1 ∧
      s' = (Acapy.createAndRegisterRevocationList s record registered).2
  | .handleFullRegistry r, t, s' => ∃ sr rid nt,
      t = .done (Acapy.handleFullRegistry env.minSize env.maxSize s r sr rid nt).1 ∧
      s' = (Acapy.handleFullRegistry env.minSize env.maxSize s r sr rid nt).2
  | .initIssuerRegistry args, t, s' => ∃ sr rid nt,
      t = .done ((Acapy.initIssuerRegistry env.minSize env.maxSize s args sr rid nt).1.map fun _ => ()) ∧
      s' = (Acapy.initIssuerRegistry env.minSize env.maxSize s args sr rid nt).2

/-! ## `revoke_credentials` -/

section Revoke

variable {r : String} {ids : List Int}

/-- `revokeCredentials` makes its first attempt: the counter starts below
    `max_attempt`. -/
theorem revokeCredentials_eq (now : Except PyError Int) (s : Store) (r : String)
    (ids : List Int) :
    revokeCredentials now s r ids =
      match plan now ids none none (s.fetch .revRegDef r) (s.fetch .revList r)
          (s.fetch .revRegInfo r) with
      | .error e => (.error e, s)
      | .ok (.stop result) => (.ok result, s)
      | .ok (.commit revInfo revCrids failedCrids prevList updatedList) =>
        match commitRevocation s r revInfo revCrids updatedList with
        | .error e => (.error e, s)
        | .ok (.missing, _) => (.ok ⟨some prevList, none, failedStrings failedCrids⟩, s)
        | .ok (.conflict, _) =>
          revokeLoop now s r ids (maxAttempt - 1) 1 (some prevList) (some updatedList)
        | .ok (.committed, s') =>
          (.ok ⟨some prevList, some updatedList, failedStrings failedCrids⟩, s') :=
  rfl

/-- Where a call of `revoke_credentials(r, ids)` run alone on `s` is, with the
    store it has left: before its commit it has read `s` and written nothing,
    and once ended it has returned and left what `revokeCredentials` does. -/
def RevokeAlone (env : Env) (s : Store) (r : String) (ids : List Int) (t : Thread)
    (s' : Store) : Prop :=
  (s' = s ∧ (t = .rvRead r ids 0 none none ∨
    t = .rvReadList r ids 1 none none (s.fetch .revRegDef r) ∨
    t = .rvReadInfo r ids 1 none none (s.fetch .revRegDef r) (s.fetch .revList r) ∨
    ∃ info E F pl ul, t = .rvCommit r ids 1 info E F pl ul ∧
      plan env.now ids none none (s.fetch .revRegDef r) (s.fetch .revList r)
        (s.fetch .revRegInfo r) = .ok (.commit info E F pl ul))) ∨
  (t = .rvDone (revokeCredentials env.now s r ids).1 ∧ s' = (revokeCredentials env.now s r ids).2)

/-- Every step of the call keeps it: alone, the commit finds the info entry as
    the attempt read it. -/
theorem RevokeAlone.step (hf : env.faults = false) (h : RevokeAlone env s r ids t s₁)
    (hs : t.step env 0 s₁ o = some (t', s₂, evs)) : RevokeAlone env s r ids t' s₂ := by
  have hrun : t.run env 0 s₁ o = (t', s₂, evs) := by
    refine Option.some.inj ((step_of_reliable hf (Thread.not_done_of_step hs) ?_).symm.trans hs)
    rintro r' ids' a prev curr rfl
    rcases h with ⟨-, h | h | h | ⟨_, _, _, _, _, h, -⟩⟩ | ⟨h, -⟩ <;> cases h
    decide
  rcases h with ⟨rfl, rfl | rfl | rfl | ⟨info, E, F, pl, ul, rfl, hp⟩⟩ | ⟨rfl, -⟩
  · simp only [Thread.run, Prod.mk.injEq] at hrun
    obtain ⟨rfl, rfl, -⟩ := hrun
    exact .inl ⟨rfl, .inr (.inl rfl)⟩
  · simp only [Thread.run, Prod.mk.injEq] at hrun
    obtain ⟨rfl, rfl, -⟩ := hrun
    exact .inl ⟨rfl, .inr (.inr (.inl rfl))⟩
  · rcases hp : plan env.now ids none none (s₁.fetch .revRegDef r) (s₁.fetch .revList r)
      (s₁.fetch .revRegInfo r) with e | res | ⟨info, E, F, pl, ul⟩ <;>
      simp only [Thread.run, hp, Prod.mk.injEq] at hrun <;> obtain ⟨rfl, rfl, -⟩ := hrun
    · exact .inr ⟨by rw [revokeCredentials_eq, hp], by rw [revokeCredentials_eq, hp]⟩
    · exact .inr ⟨by rw [revokeCredentials_eq, hp], by rw [revokeCredentials_eq, hp]⟩
    · exact .inl ⟨rfl, .inr (.inr (.inr ⟨info, E, F, pl, ul, rfl, hp⟩))⟩
  · -- The commit reads back what the attempt read: it commits.
    obtain ⟨-, -, -, ⟨el, hel, -⟩, ⟨ei, hei, hv⟩, -⟩ := plan_eq_commit hp
    have hc : commitRevocation s₁ r info E ul = _ :=
      commitRevocation_of_fetch (by simp [hel]) hei hv
    rw [if_pos rfl] at hc
    simp only [Thread.run, hc, Prod.mk.injEq] at hrun
    obtain ⟨rfl, rfl, -⟩ := hrun
    exact .inr ⟨by simp only [revokeCredentials_eq, hp, hc],
      by simp only [revokeCredentials_eq, hp, hc]⟩
  · exact absurd trivial (Thread.not_done_of_step hs)

theorem RevokeAlone.ends (h : RevokeAlone env s r ids t s₁) (hd : t.Done) :
    (Call.revokeCredentials r ids).Ends env s t s₁ := by
  rcases h with ⟨-, rfl | rfl | rfl | ⟨_, _, _, _, _, rfl, -⟩⟩ | h
  iterate 4 exact hd.elim
  exact h

end Revoke

/-! ## `create_credential` -/

section Create

variable {a : CreateCredentialArgs} {ro : Option String}

/-- Where a call of `create_credential(a)` on the registry `ro`, run alone on
    `s`, is, with the store it has left: before its allocation it has written
    nothing, and once ended it has returned and left what `createCredential`
    does for some attribute names and credential. -/
def CreateAlone (s : Store) (a : CreateCredentialArgs) (ro : Option String) (t : Thread)
    (s' : Store) : Prop :=
  (t = .ccRead a ro ∧ s' = s) ∨
  (∃ names values, truthy ro = true ∧ t = .ccAlloc (ro.getD "") ∧ a.rawValues s names = .ok values ∧
    s' = s) ∨
  ∃ names cred, t = .ccDone (createCredential s a ro names cred).1 ∧
    s' = (createCredential s a ro names cred).2

/-- The step of the read of a call of `create_credential`, with a store that
    does not fail. -/
theorem step_ccRead (hf : env.faults = false) :
    (Thread.ccRead a ro).step env 0 s o = some ((Thread.ccRead a ro).run env 0 s o) :=
  step_of_reliable hf id nofun

theorem step_ccAlloc (hf : env.faults = false) {r : String} :
    (Thread.ccAlloc r).step env 0 s o = some ((Thread.ccAlloc r).run env 0 s o) :=
  step_of_reliable hf id nofun

/-- Every step of the call keeps it. -/
theorem CreateAlone.step (hf : env.faults = false) (h : CreateAlone s a ro t s₁)
    (hs : t.step env 0 s₁ o = some (t', s₂, evs)) : CreateAlone s a ro t' s₂ := by
  rcases h with ⟨rfl, rfl⟩ | ⟨names, values, hro, rfl, hv, rfl⟩ | ⟨_, _, rfl, -⟩
  · rw [step_ccRead hf, Option.some.injEq] at hs
    rcases hv : a.rawValues s₁ o.schemaAttrNames with e | values
    · simp only [Thread.run, hv, Prod.mk.injEq] at hs
      obtain ⟨rfl, rfl, -⟩ := hs
      exact .inr (.inr ⟨o.schemaAttrNames, o.credential, by simp [createCredential, hv]⟩)
    cases hro : truthy ro <;>
      simp only [Thread.run, hv, hro, Bool.false_eq_true, if_true, if_false, Prod.mk.injEq] at hs <;>
      obtain ⟨rfl, rfl, -⟩ := hs
    · exact .inr (.inr ⟨o.schemaAttrNames, o.credential, by simp [createCredential, hv, hro]⟩)
    · exact .inr (.inl ⟨_, values, hro, rfl, hv, rfl⟩)
  · rw [step_ccAlloc hf, Option.some.injEq] at hs
    rcases ha : allocateIndex s₁ (ro.getD "") with e | ⟨i, s'⟩ <;>
      simp only [Thread.run, ha, Prod.mk.injEq] at hs <;> obtain ⟨rfl, rfl, -⟩ := hs
    all_goals exact .inr (.inr ⟨names, o.credential, by simp [createCredential, hv, hro, ha]⟩)
  · exact absurd trivial (Thread.not_done_of_step hs)

theorem CreateAlone.ends (h : CreateAlone s a ro t s₁) (hd : t.Done) :
    (Call.createCredential a ro).Ends env s t s₁ := by
  rcases h with ⟨rfl, -⟩ | ⟨_, _, -, rfl, -⟩ | h
  iterate 2 exact hd.elim
  exact h

/-- The outcomes that draw `names` as the attribute names of the schema and
    `cred` from `Credential.create`. -/
def drawn (names : Except PyError (List String)) (cred : Option String) : Oracle :=
  { schemaAttrNames := names, credential := cred }

/-- Every outcome of `createCredential` is that of a run: the one that draws
    its attribute names and its credential. -/
theorem createCredential_alone (env : Env) (hf : env.faults = false) (s : Store)
    (a : CreateCredentialArgs) (ro : Option String) (names : Except PyError (List String))
    (cred : Option String) :
    ∃ σ, Reachable env (Sys.init s [.createCredential a ro]) σ ∧
      σ.threads = [.ccDone (createCredential s a ro names cred).1] ∧
      σ.store = (createCredential s a ro names cred).2 := by
  -- The read draws the attribute names; the allocation, if any, the credential.
  have h₀ : Reachable env (Sys.init s [.createCredential a ro])
      (Sys.init s [.createCredential a ro]) := .init
  have h₁ := h₀.step_alone rfl (step_ccRead hf (o := drawn names cred))
  rcases hv : a.rawValues s names with e | values
  · exact ⟨_, h₁, by simp [Thread.run, Sys.init, drawn, createCredential, hv],
      by simp [Thread.run, Sys.init, drawn, createCredential, hv]⟩
  cases hro : truthy ro
  · exact ⟨_, h₁, by simp [Thread.run, Sys.init, drawn, createCredential, hv, hro],
      by simp [Thread.run, Sys.init, drawn, createCredential, hv, hro]⟩
  have h₂ := h₁.step_alone (t := .ccAlloc (ro.getD ""))
    (by simp [Thread.run, Sys.init, drawn, hv, hro]) (step_ccAlloc hf (o := drawn names cred))
  rcases ha : allocateIndex s (ro.getD "") with e | ⟨i, s'⟩ <;>
    exact ⟨_, h₂, by simp [Thread.run, Sys.init, drawn, createCredential, hv, hro, ha],
      by simp [Thread.run, Sys.init, drawn, createCredential, hv, hro, ha]⟩

end Create

/-! ## The calls of the registry manager -/

section Registry

variable {record : IssuerRevRegRecord}

/-- Where a call of `create_and_register_revocation_registry_definition(record)`
    run alone on `s` is, with the store it has left. -/
def DefineAlone (s : Store) (record : IssuerRevRegRecord) (t : Thread) (s' : Store) : Prop :=
  (t = .rdRead record ∧ s' = s) ∨
  (∃ record' id d k, prepareRevRegDef s record = .ok record' ∧ t = .rdStore record' id d k ∧
    s' = s) ∨
  (∃ record' id d k, prepareRevRegDef s record = .ok record' ∧
    storeRevRegDef s record' id d k = .ok s' ∧ t = .rdSave record' id) ∨
  ∃ created registration,
    t = .done ((createAndRegisterRevocationRegistryDefinition s record created registration).1.map
      fun _ => ()) ∧
    s' = (createAndRegisterRevocationRegistryDefinition s record created registration).2

theorem DefineAlone.step (hf : env.faults = false) (h : DefineAlone s record t s₁)
    (hs : t.step env 0 s₁ o = some (t', s₂, evs)) : DefineAlone s record t' s₂ := by
  rcases h with ⟨rfl, rfl⟩ | ⟨record', id, d, k, hp, rfl, rfl⟩ | ⟨record', id, d, k, hp, hst, rfl⟩ |
    ⟨_, _, rfl, -⟩
  · have hrun := run_of_step hf hs nofun
    rcases hp : prepareRevRegDef s₁ record with e | record'
    · simp only [Thread.run, hp, Prod.mk.injEq] at hrun
      obtain ⟨rfl, rfl, -⟩ := hrun
      exact .inr (.inr (.inr ⟨none, o.registration,
        by simp [createAndRegisterRevocationRegistryDefinition, hp, Except.map]⟩))
    rcases hc : o.created with _ | ⟨d, k⟩
    · simp only [Thread.run, hp, hc, Prod.mk.injEq] at hrun
      obtain ⟨rfl, rfl, -⟩ := hrun
      exact .inr (.inr (.inr ⟨none, o.registration,
        by simp [createAndRegisterRevocationRegistryDefinition, hp, Except.map]⟩))
    rcases hr : o.registration with e | id <;>
      simp only [Thread.run, hp, hc, hr, Prod.mk.injEq] at hrun <;> obtain ⟨rfl, rfl, -⟩ := hrun
    · exact .inr (.inr (.inr ⟨some (d, k), .error e,
        by simp [createAndRegisterRevocationRegistryDefinition, hp, Except.map]⟩))
    · exact .inr (.inl ⟨record', id, d, k, hp, rfl, rfl⟩)
  · have hrun := run_of_step hf hs nofun
    rcases hst : storeRevRegDef s₁ record' id d k with e | s' <;>
      simp only [Thread.run, hst, Prod.mk.injEq] at hrun <;> obtain ⟨rfl, rfl, -⟩ := hrun
    · exact .inr (.inr (.inr ⟨some (d, k), .ok id,
        by simp [createAndRegisterRevocationRegistryDefinition, hp, hst, Except.map]⟩))
    · exact .inr (.inr (.inl ⟨record', id, d, k, hp, hst, rfl⟩))
  · have hrun := run_of_step hf hs nofun
    rcases hsv : s₁.saveRecord (record'.posted id) false with e | s' <;>
      simp only [Thread.run, hsv, Prod.mk.injEq] at hrun <;> obtain ⟨rfl, rfl, -⟩ := hrun
    · exact .inr (.inr (.inr ⟨some (d, k), .ok id,
        by simp [createAndRegisterRevocationRegistryDefinition, hp, hst, hsv, Except.map]⟩))
    · exact .inr (.inr (.inr ⟨some (d, k), .ok id,
        by simp [createAndRegisterRevocationRegistryDefinition, hp, hst, hsv, Except.map]⟩))
  · exact absurd trivial (Thread.not_done_of_step hs)

theorem DefineAlone.ends (h : DefineAlone s record t s₁) (hd : t.Done) :
    (Call.createAndRegisterRevocationRegistryDefinition record).Ends env s t s₁ := by
  rcases h with ⟨rfl, -⟩ | ⟨_, _, _, _, -, rfl, -⟩ | ⟨_, _, _, _, -, -, rfl⟩ | h
  iterate 3 exact hd.elim
  exact h

/-- Where a call of `create_and_register_revocation_list(record)` run alone on
    `s` is, with the store it has left. -/
def ListAlone (s : Store) (record : IssuerRevRegRecord) (t : Thread) (s' : Store) : Prop :=
  (t = .rlRead record ∧ s' = s) ∨
  (∃ id l, prepareRevList s record = .ok id ∧ t = .rlStore record id l ∧ s' = s) ∨
  (∃ id l, prepareRevList s record = .ok id ∧ storeRevList s id l = .ok s' ∧
    t = .rlSave record) ∨
  ∃ registered, t = .done (createAndRegisterRevocationList s record registered).1 ∧
    s' = (createAndRegisterRevocationList s record registered).2

theorem ListAlone.step (hf : env.faults = false) (h : ListAlone s record t s₁)
    (hs : t.step env 0 s₁ o = some (t', s₂, evs)) : ListAlone s record t' s₂ := by
  rcases h with ⟨rfl, rfl⟩ | ⟨id, l, hp, rfl, rfl⟩ | ⟨id, l, hp, hst, rfl⟩ | ⟨_, rfl, -⟩
  · have hrun := run_of_step hf hs nofun
    rcases hp : prepareRevList s₁ record with e | id
    · simp only [Thread.run, hp, Prod.mk.injEq] at hrun
      obtain ⟨rfl, rfl, -⟩ := hrun
      exact .inr (.inr (.inr ⟨o.registered, by simp [createAndRegisterRevocationList, hp]⟩))
    rcases hr : o.registered with e | l <;>
      simp only [Thread.run, hp, hr, Prod.mk.injEq] at hrun <;> obtain ⟨rfl, rfl, -⟩ := hrun
    · exact .inr (.inr (.inr ⟨.error e, by simp [createAndRegisterRevocationList, hp]⟩))
    · exact .inr (.inl ⟨id, l, hp, rfl, rfl⟩)
  · have hrun := run_of_step hf hs nofun
    rcases hst : storeRevList s₁ id l with e | s' <;>
      simp only [Thread.run, hst, Prod.mk.injEq] at hrun <;> obtain ⟨rfl, rfl, -⟩ := hrun
    · exact .inr (.inr (.inr ⟨.ok l, by simp [createAndRegisterRevocationList, hp, hst]⟩))
    · exact .inr (.inr (.inl ⟨id, l, hp, hst, rfl⟩))
  · have hrun := run_of_step hf hs nofun
    rcases hsv : s₁.saveRecord record.activated false with e | s' <;>
      simp only [Thread.run, hsv, Prod.mk.injEq] at hrun <;> obtain ⟨rfl, rfl, -⟩ := hrun
    · exact .inr (.inr (.inr ⟨.ok l, by simp [createAndRegisterRevocationList, hp, hst, hsv]⟩))
    · exact .inr (.inr (.inr ⟨.ok l, by simp [createAndRegisterRevocationList, hp, hst, hsv]⟩))
  · exact absurd trivial (Thread.not_done_of_step hs)

theorem ListAlone.ends (h : ListAlone s record t s₁) (hd : t.Done) :
    (Call.createAndRegisterRevocationList record).Ends env s t s₁ := by
  rcases h with ⟨rfl, -⟩ | ⟨_, _, -, rfl, -⟩ | ⟨_, _, -, -, rfl⟩ | h
  iterate 3 exact hd.elim
  exact h

/-- The step of `init_issuer_registry`, with a store that does not fail, is
    the function. -/
theorem step_irSave (hf : env.faults = false) (args : InitArgs) :
    (Thread.irSave args).step env n s o = some
      (.done ((initIssuerRegistry env.minSize env.maxSize s args o.supportsRevocation o.recordId
          o.notified).1.map fun _ => ()),
        (initIssuerRegistry env.minSize env.maxSize s args o.supportsRevocation o.recordId
          o.notified).2, []) := by
  rw [step_of_reliable (t := .irSave args) hf id nofun]
  simp only [Thread.run, initIssuerRegistry]
  rcases checkInit env.minSize env.maxSize args o.supportsRevocation with e | ⟨⟩
  · rfl
  rcases s.saveRecord (args.record o.recordId) true with e | s'
  · rfl
  rcases o.notified with e | ⟨⟩ <;> rfl

/-- Where a call of `init_issuer_registry(args)` run alone on `s` is, with the
    store it has left. -/
def InitAlone (env : Env) (s : Store) (args : InitArgs) (t : Thread) (s' : Store) : Prop :=
  (t = .irSave args ∧ s' = s) ∨
  ∃ sr rid nt, t = .done ((initIssuerRegistry env.minSize env.maxSize s args sr rid nt).1.map
    fun _ => ()) ∧ s' = (initIssuerRegistry env.minSize env.maxSize s args sr rid nt).2

theorem InitAlone.step (hf : env.faults = false) {args : InitArgs} (h : InitAlone env s args t s₁)
    (hs : t.step env 0 s₁ o = some (t', s₂, evs)) : InitAlone env s args t' s₂ := by
  rcases h with ⟨rfl, rfl⟩ | ⟨_, _, _, rfl, -⟩
  · rw [step_irSave hf, Option.some.injEq, Prod.mk.injEq, Prod.mk.injEq] at hs
    obtain ⟨rfl, rfl, -⟩ := hs
    exact .inr ⟨_, _, _, rfl, rfl⟩
  · exact absurd trivial (Thread.not_done_of_step hs)

theorem InitAlone.ends {args : InitArgs} (h : InitAlone env s args t s₁) (hd : t.Done) :
    (Call.initIssuerRegistry args).Ends env s t s₁ := by
  rcases h with ⟨rfl, -⟩ | h
  · exact hd.elim
  · exact h

variable {r : String}

/-- Where a call of `handle_full_registry(r)` run alone on `s` is, with the
    store it has left: the `init_issuer_registry` it calls runs on the store
    its transaction left. -/
def RetireAlone (env : Env) (s : Store) (r : String) (t : Thread) (s' : Store) : Prop :=
  (t = .hfTxn r ∧ s' = s) ∨
  (∃ registry, markFull s r = .ok (some registry, s') ∧ t = .irSave registry.initArgs) ∨
  ∃ sr rid nt, t = .done (handleFullRegistry env.minSize env.maxSize s r sr rid nt).1 ∧
    s' = (handleFullRegistry env.minSize env.maxSize s r sr rid nt).2

theorem RetireAlone.step (hf : env.faults = false) (h : RetireAlone env s r t s₁)
    (hs : t.step env 0 s₁ o = some (t', s₂, evs)) : RetireAlone env s r t' s₂ := by
  rcases h with ⟨rfl, rfl⟩ | ⟨registry, hm, rfl⟩ | ⟨_, _, _, rfl, -⟩
  · have hrun := run_of_step hf hs nofun
    rcases hm : markFull s₁ r with e | ⟨_ | registry, s'⟩ <;>
      simp only [Thread.run, hm, Prod.mk.injEq] at hrun <;> obtain ⟨rfl, rfl, -⟩ := hrun
    · exact .inr (.inr ⟨o.supportsRevocation, o.recordId, o.notified,
        by simp [handleFullRegistry, hm]⟩)
    · obtain ⟨_, -, ⟨-, -, rfl⟩ | ⟨-, h, -⟩⟩ := markFull_eq_ok hm
      · exact .inr (.inr ⟨o.supportsRevocation, o.recordId, o.notified,
          by simp [handleFullRegistry, hm]⟩)
      · cases h
    · exact .inr (.inl ⟨registry, hm, rfl⟩)
  · rw [step_irSave hf, Option.some.injEq, Prod.mk.injEq, Prod.mk.injEq] at hs
    obtain ⟨rfl, rfl, -⟩ := hs
    exact .inr (.inr ⟨o.supportsRevocation, o.recordId, o.notified,
      by simp [handleFullRegistry, hm]⟩)
  · exact absurd trivial (Thread.not_done_of_step hs)

theorem RetireAlone.ends (h : RetireAlone env s r t s₁) (hd : t.Done) :
    (Call.handleFullRegistry r).Ends env s t s₁ := by
  rcases h with ⟨rfl, -⟩ | ⟨_, -, rfl⟩ | h
  iterate 2 exact hd.elim
  exact h

end Registry

/-! ## Every call -/

/-- With a store that does not fail, a call run alone ends, and every run ends
    as the call's function does. -/
theorem calls_alone (env : Env) (hf : env.faults = false) (s : Store) (c : Call) {σ : Sys}
    (hσ : Reachable env (Sys.init s [c]) σ) :
    (∃ σ', Reachable env σ σ' ∧ σ'.Terminal) ∧
    (σ.Terminal → ∃ t, σ.threads = [t] ∧ c.Ends env s t σ.store) := by
  refine ⟨Sys.exists_terminal env σ, fun hT => ?_⟩
  have ends : ∀ {P : Thread → Store → Prop}, P c.start s →
      (∀ {o t t' s₁ s₂ evs}, P t s₁ → t.step env 0 s₁ o = some (t', s₂, evs) → P t' s₂) →
      (∀ {t s₁}, P t s₁ → t.Done → c.Ends env s t s₁) →
      ∃ t, σ.threads = [t] ∧ c.Ends env s t σ.store := fun h0 hP hQ => by
    obtain ⟨t, ht, h⟩ := hσ.alone h0 hP
    exact ⟨t, ht, hQ h (hT t (by simp [ht]))⟩
  cases c with
  | createCredential a ro =>
    exact ends (P := CreateAlone s a ro) (.inl ⟨rfl, rfl⟩) (fun h hs => h.step hf hs)
      CreateAlone.ends
  | revokeCredentials r ids =>
    exact ends (P := RevokeAlone env s r ids) (.inl ⟨rfl, .inl rfl⟩) (fun h hs => h.step hf hs)
      RevokeAlone.ends
  | createAndRegisterRevocationRegistryDefinition record =>
    exact ends (P := DefineAlone s record) (.inl ⟨rfl, rfl⟩) (fun h hs => h.step hf hs)
      DefineAlone.ends
  | createAndRegisterRevocationList record =>
    exact ends (P := ListAlone s record) (.inl ⟨rfl, rfl⟩) (fun h hs => h.step hf hs)
      ListAlone.ends
  | handleFullRegistry r =>
    exact ends (P := RetireAlone env s r) (.inl ⟨rfl, rfl⟩) (fun h hs => h.step hf hs)
      RetireAlone.ends
  | initIssuerRegistry args =>
    exact ends (P := InitAlone env s args) (.inl ⟨rfl, rfl⟩) (fun h hs => h.step hf hs)
      InitAlone.ends

/-- On `sampleRegistry`, the code's call revoking the index `1`, run alone,
    ends as `revokeCredentials` does: it raises `AttributeError` at
    `int(time.time())`. -/
theorem calls_alone_sample :
    ∃ σ, Reachable ⟨timeTime, false, 0, 0⟩
        (Sys.init sampleRegistry [.revokeCredentials "r" [1]]) σ ∧
      σ.Terminal ∧ σ.threads = [.rvDone (revokeCredentials timeTime sampleRegistry "r" [1]).1] := by
  obtain ⟨σ, hσ, hT⟩ : ∃ σ, Reachable ⟨timeTime, false, 0, 0⟩
      (Sys.init sampleRegistry [.revokeCredentials "r" [1]]) σ ∧ σ.Terminal :=
    ⟨_, @Reachable.of_run _ _ _ _ [(0, {}), (0, {}), (0, {})] .init rfl,
      List.forall_mem_singleton.2 trivial⟩
  obtain ⟨t, ht, h, -⟩ := (calls_alone _ rfl _ _ hσ).2 hT
  exact ⟨σ, hσ, hT, by rw [ht, h]⟩

/-- On `issuerRegistry`, a call of `create_credential` for a schema with no
    attribute, run alone, can end with the index `2`, as `createCredential`
    does. -/
theorem createCredential_alone_issuer :
    ∃ σ, Reachable ⟨timeTime, false, 0, 0⟩
        (Sys.init issuerRegistry [.createCredential ⟨"cd", ∅⟩ (some "r")]) σ ∧
      σ.threads = [.ccDone (.ok ("", some "2"))] := by
  obtain ⟨σ, hσ, ht, -⟩ :=
    createCredential_alone ⟨timeTime, false, 0, 0⟩ rfl issuerRegistry ⟨"cd", ∅⟩ (some "r")
      (.ok []) (some "")
  exact ⟨σ, hσ, ht.trans rfl⟩

end Acapy
