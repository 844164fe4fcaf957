import Acapy.System.Effects

/-!
# Registries and the indices they hand out

Two facts about every interleaving of every call on a shared store.

*Registries stay well formed* (`RegistryOk`): the definition, the private key
and the info entry of a registry exist together or not at all; where they
exist, `0 ≤ curr_id ≤ max_cred_num`, and `used_ids` lists issued indices
(`1 ≤ i ≤ curr_id`) in ascending order. No step lowers `curr_id` or drops an
index from `used_ids` (`Effect.info_mono`). The registry transaction inserts
its three entries only where none was; the allocation advances `curr_id`
only below `max_cred_num`; a revocation commits only on the info it read, and
adds only indices that were issued and not yet revoked (`Thread.Eligible`, a
property of the plan of an attempt).

*Allocations are strictly increasing* (`AllocInv`): the indices the
allocations commit for a registry, in commit order, increase strictly, lie
above the registry's `curr_id` at the start and below the `max_cred_num` of its
definition. An allocation commits `curr_id + 1` in the transaction that reads
`curr_id` for update, and no other step changes `curr_id`: a revocation writes
back the `curr_id` it found unchanged. So the calls of `create_credential` that
return never return the same revocation id (`IssueAt`: the id a call returns
is the index of its own allocation, and printing is injective).
-/

namespace Acapy

variable {env : Env} {n : Nat} {o : Oracle} {s s' : Store} {t t' : Thread} {evs : List Event}

/-! ## The plan of an attempt -/

/-- An attempt of `revoke_credentials` commits only indices that are issued and
    not yet revoked in the info it read. -/
def Thread.Eligible : Thread → Prop
  | .rvCommit _ _ _ info E _ _ _ => ∀ i ∈ E, 1 ≤ i ∧ i ≤ info.currId ∧ i ∉ info.usedIds
  | _ => True

theorem step_eligible (h : t.step env n s o = some (t', s', evs)) : t'.Eligible := by
  cases t' with
  | rvCommit r ids a info E F pl ul =>
    obtain ⟨prev, curr, de, le, -, hp⟩ := step_rvCommit h
    obtain ⟨d, -, -, -, -, hpart, -⟩ := plan_eq_commit hp
    intro i hi
    rw [partition_eq, Prod.mk.injEq] at hpart
    rw [← hpart.1] at hi
    simp only [List.mem_toFinset, List.mem_filter, eligible, decide_eq_true_eq] at hi
    exact ⟨hi.2.1, hi.2.2.2.1, hi.2.2.2.2⟩
  | _ => trivial

theorem Reachable.eligible {s₀ : Store} {calls : List Call} {σ : Sys}
    (h : Reachable env (Sys.init s₀ calls) σ) : ∀ t ∈ σ.threads, t.Eligible :=
  h.threads_of (fun t ht => by
    obtain ⟨c, -, rfl⟩ := List.mem_map.1 ht
    cases c <;> trivial) (fun _ hs => step_eligible hs)

/-! ## Registries stay well formed -/

/-- What the info of a registry with the definition `d` satisfies. -/
structure InfoOk (info : RevRegInfo) (d : RevocationRegistryDefinition) : Prop where
  currId_nonneg : 0 ≤ info.currId
  currId_le : info.currId ≤ d.maxCredNum
  usedIds_sorted : info.usedIds.Sorted (· < ·)
  usedIds_issued : ∀ i ∈ info.usedIds, 1 ≤ i ∧ i ≤ info.currId

/-- The registry `r` is well formed in `s`: its definition, private key and
    info entries exist together or not at all, and where they exist its info
    and its definition load and satisfy `InfoOk`. -/
structure RegistryOk (s : Store) (r : String) : Prop where
  def_iff : (s.fetch .revRegDef r).isSome = (s.fetch .revRegInfo r).isSome
  private_iff : (s.fetch .revRegDefPrivate r).isSome = (s.fetch .revRegInfo r).isSome
  info_ok : (s.fetch .revRegInfo r).isSome →
    ∃ info d, s.info r = some info ∧ s.revRegDef r = some d ∧ InfoOk info d

theorem registryOk_empty (r : String) : RegistryOk Store.empty r :=
  ⟨rfl, rfl, nofun⟩

/-- A registry whose three entries a step leaves alone stays as it was. -/
theorem RegistryOk.congr {r : String} (h : RegistryOk s r)
    (hd : s'.fetch .revRegDef r = s.fetch .revRegDef r)
    (hk : s'.fetch .revRegDefPrivate r = s.fetch .revRegDefPrivate r)
    (hi : s'.fetch .revRegInfo r = s.fetch .revRegInfo r) : RegistryOk s' r := by
  have hinfo : s'.info r = s.info r := by simp only [Store.info, hi]
  have hdef : s'.revRegDef r = s.revRegDef r := by simp only [Store.revRegDef, hd]
  exact ⟨by rw [hd, hi]; exact h.def_iff, by rw [hk, hi]; exact h.private_iff,
    by rw [hi, hinfo, hdef]; exact h.info_ok⟩

/-- The registry `r` after an update of its info entry alone, to an info that
    is well formed with the definition when the old one was. -/
theorem RegistryOk.of_info {r : String} {j : RevRegInfo} (h : RegistryOk s r)
    (hsome : (s.fetch .revRegInfo r).isSome)
    (hd : s'.fetch .revRegDef r = s.fetch .revRegDef r)
    (hk : s'.fetch .revRegDefPrivate r = s.fetch .revRegDefPrivate r)
    (hi : (s'.fetch .revRegInfo r).isSome) (hinfo : s'.info r = some j)
    (hok : ∀ info d, s.info r = some info → s.revRegDef r = some d → InfoOk info d →
      InfoOk j d) :
    RegistryOk s' r := by
  obtain ⟨info, d, h1, h2, hok₀⟩ := h.info_ok hsome
  have hdef : s'.revRegDef r = s.revRegDef r := by simp only [Store.revRegDef, hd]
  exact ⟨by rw [hd, hi, h.def_iff, hsome], by rw [hk, hi, h.private_iff, hsome],
    fun _ => ⟨j, d, hinfo, hdef.trans h2, hok info d h1 h2 hok₀⟩⟩

/-- Every step keeps every registry well formed, given that a commit revokes
    only eligible indices. -/
theorem Effect.registryOk (he : Effect n o s t s' evs) (hE : t.Eligible)
    (h : ∀ r, RegistryOk s r) (r : String) : RegistryOk s' r := by
  cases he with
  | quiet => exact h r
  | conflict => exact h r
  | @alloc r' info hc =>
    by_cases hr : r' = r
    · -- The allocation advances `curr_id` below `max_cred_num`.
      subst hr
      obtain ⟨e, he, -⟩ := hc.revRegInfo
      obtain ⟨d, hd, hle⟩ := hc.revRegDef_eq
      refine (h r').of_info (j := { info with currId := info.currId + 1 }) (by simp [he])
        (by simp [fetch_advanceCurrId]) (by simp [fetch_advanceCurrId])
        (by simp [fetch_advanceCurrId]) (by simp [info_advanceCurrId]) ?_
      intro info₀ d₀ h1 h2 hok
      rw [hc.info_eq, Option.some.injEq] at h1
      rw [hd, Option.some.injEq] at h2
      subst h1 h2
      have h0 := hok.currId_nonneg
      refine ⟨by dsimp only; omega, hle, hok.usedIds_sorted, fun i hi => ?_⟩
      have := hok.usedIds_issued i hi
      exact ⟨this.1, by dsimp only; omega⟩
    · exact (h r).congr (by simp [fetch_advanceCurrId]) (by simp [fetch_advanceCurrId])
        (by simp [fetch_advanceCurrId, Ne.symm hr])
  | @commit r' ids a info E F pl ul e hl he hv =>
    by_cases hr : r' = r
    · -- The commit adds eligible indices to the info it found unchanged.
      subst hr
      refine (h r').of_info (j := info.revoke E) (by simp [he])
        (by simp [revokedStore, Store.fetch_put]) (by simp [revokedStore, Store.fetch_put])
        (by simp [revokedStore, Store.fetch_put]) (by simp [info_revokedStore]) ?_
      intro info₀ d h1 _ hok
      rw [Store.info_eq_some.2 ⟨e, he, hv⟩, Option.some.injEq] at h1
      subst h1
      refine ⟨hok.currId_nonneg, hok.currId_le, sorted_lt _, fun i hi => ?_⟩
      simp only [RevRegInfo.revoke, mem_sorted, Finset.mem_union, List.mem_toFinset] at hi
      rcases hi with hi | hi
      · exact hok.usedIds_issued i hi
      · exact ⟨(hE i hi).1, (hE i hi).2.1⟩
    · exact (h r).congr (by simp [revokedStore, Store.fetch_put])
        (by simp [revokedStore, Store.fetch_put])
        (by simp [revokedStore, Store.fetch_put, Ne.symm hr])
  | @registry record id d k h1 h2 h3 =>
    by_cases hr : id = r
    · -- The three entries are inserted together, with `curr_id = 0`.
      subst hr
      refine ⟨by simp [insertedRegistry, Store.fetch_put], by simp [insertedRegistry, Store.fetch_put],
        fun _ => ⟨⟨0, []⟩, d, by simp [info_insertedRegistry],
          by simp [revRegDef_insertedRegistry], ?_⟩⟩
      exact ⟨le_refl 0, Int.natCast_nonneg _, List.sorted_nil, by simp⟩
    · exact (h r).congr (by simp [insertedRegistry, Store.fetch_put, Ne.symm hr])
        (by simp [insertedRegistry, Store.fetch_put, Ne.symm hr])
        (by simp [insertedRegistry, Store.fetch_put, Ne.symm hr])
  | list =>
    exact (h r).congr (by simp [Store.fetch_put]) (by simp [Store.fetch_put])
      (by simp [Store.fetch_put])
  | posted => exact (h r).congr (by simp) (by simp) (by simp)
  | activated => exact (h r).congr (by simp) (by simp) (by simp)
  | full => exact (h r).congr (by simp) (by simp) (by simp)
  | created => exact (h r).congr (by simp) (by simp) (by simp)

/-- No step lowers `curr_id` or drops an index from `used_ids`. -/
theorem Effect.info_mono (he : Effect n o s t s' evs) {r : String} {info : RevRegInfo}
    (h : s.info r = some info) :
    ∃ info', s'.info r = some info' ∧ info.currId ≤ info'.currId ∧
      info.usedIds ⊆ info'.usedIds := by
  have keep : ∀ {s'' : Store}, s''.info r = s.info r →
      ∃ info', s''.info r = some info' ∧ info.currId ≤ info'.currId ∧
        info.usedIds ⊆ info'.usedIds := fun he => ⟨info, he.trans h, le_rfl, fun _ => id⟩
  cases he with
  | quiet => exact keep rfl
  | conflict => exact keep rfl
  | @alloc r' info₀ hc =>
    rw [info_advanceCurrId]
    split_ifs with hr
    · subst hr
      rw [hc.info_eq, Option.some.injEq] at h
      subst h
      exact ⟨_, rfl, by dsimp only; omega, fun _ => id⟩
    · exact keep rfl
  | @commit r' ids a info₀ E F pl ul e hl he hv =>
    rw [info_revokedStore]
    split_ifs with hr
    · subst hr
      rw [Store.info_eq_some.2 ⟨e, he, hv⟩, Option.some.injEq] at h
      subst h
      exact ⟨_, rfl, le_rfl, fun i hi => by simp [RevRegInfo.revoke, hi]⟩
    · exact keep rfl
  | @registry record id d k h1 h2 h3 =>
    rw [info_insertedRegistry]
    split_ifs with hr
    · subst hr
      simp [Store.info, h1] at h
    · exact keep rfl
  | list => exact keep (by simp [Store.info_put])
  | posted => exact keep (by simp)
  | activated => exact keep (by simp)
  | full => exact keep (by simp)
  | created => exact keep (by simp)

/-- The registries of every reachable state are well formed, if they were at
    the start. -/
theorem Reachable.registryOk {s₀ : Store} {calls : List Call} {σ : Sys}
    (h₀ : ∀ r, RegistryOk s₀ r) (h : Reachable env (Sys.init s₀ calls) σ) :
    ∀ r, RegistryOk σ.store r := by
  induction h with
  | init => exact h₀
  | step hσ hs ih =>
    obtain ⟨n, o, hs⟩ := hs
    obtain ⟨t, t', evs, ht, hts, -, -⟩ := Sys.step_threads hs
    exact (step_effect hts).registryOk (hσ.eligible t (List.getElem?_mem ht)) ih

/-- The registries are well formed in the empty store, and stay so along
    every interleaving of every call, from every store where they are: each
    step keeps them well formed, and none lowers a `curr_id` or drops an index
    of a `used_ids`. -/
theorem registries_wellFormed :
    (∀ r, RegistryOk Store.empty r) ∧
    ∀ (env : Env) (s₀ : Store) (calls : List Call) (σ σ' : Sys), (∀ r, RegistryOk s₀ r) →
      Reachable env (Sys.init s₀ calls) σ → Step env σ σ' →
      (∀ r, RegistryOk σ'.store r) ∧
      ∀ r info, σ.store.info r = some info → ∃ info', σ'.store.info r = some info' ∧
        info.currId ≤ info'.currId ∧ info.usedIds ⊆ info'.usedIds := by
  refine ⟨registryOk_empty, fun env s₀ calls σ σ' h₀ hσ hs => ⟨(hσ.step hs).registryOk h₀, ?_⟩⟩
  obtain ⟨n, o, hs⟩ := hs
  obtain ⟨t, t', evs, -, hts, -, -⟩ := Sys.step_threads hs
  exact fun r info h => (step_effect hts).info_mono h

/-! ## Allocations -/

/-- The allocations of the registry `r` in a log, in commit order: the thread
    that committed each, and its index. -/
def allocations (r : String) (log : List Event) : List (Nat × Int) :=
  log.filterMap fun
    | .alloc n r' i => if r' = r then some (n, i) else none
    | _ => none

@[simp] theorem allocations_nil (r : String) : allocations r [] = [] := rfl

@[simp] theorem allocations_append (r : String) (l l' : List Event) :
    allocations r (l ++ l') = allocations r l ++ allocations r l' :=
  List.filterMap_append _ _ _

@[simp] theorem allocations_alloc (r r' : String) (n : Nat) (i : Int) :
    allocations r [.alloc n r' i] = if r' = r then [(n, i)] else [] := by
  simp only [allocations, List.filterMap_cons, List.filterMap_nil]
  split_ifs <;> rfl

@[simp] theorem allocations_successor (r : String) (n : Nat) (args : InitArgs) :
    allocations r [.successor n args] = [] := rfl

@[simp] theorem allocations_conflict (r : String) (n : Nat) :
    allocations r [.conflict n] = [] := rfl

@[simp] theorem allocations_revoked (r r' : String) (n : Nat) :
    allocations r [.revoked n r'] = [] := rfl

/-- The `curr_id` the registry `r` starts from: that of its info in `s`, or
    `0`, the `curr_id` of a new registry. -/
def initialCurrId (s : Store) (r : String) : Int :=
  match s.info r with
  | some info => info.currId
  | none => 0

/-- The allocations of `r` in a log, against the registry in the store:
    strictly increasing, above `c₀`, issued, and within the definition. -/
structure AllocInv (c₀ : Int) (r : String) (s : Store) (log : List Event) : Prop where
  increasing : (allocations r log).Pairwise fun a b => a.2 < b.2
  above : ∀ p ∈ allocations r log, c₀ < p.2
  issued : ∀ p ∈ allocations r log, ∃ info, s.info r = some info ∧ p.2 ≤ info.currId
  bounded : ∀ p ∈ allocations r log, ∃ d, s.revRegDef r = some d ∧ p.2 ≤ d.maxCredNum
  base : ∀ info, s.info r = some info → c₀ ≤ info.currId
  base_none : s.info r = none → c₀ ≤ 0

/-- A step that allocates nothing in `r` and leaves its info and definition
    alone keeps the invariant. -/
theorem AllocInv.congr {c₀ : Int} {r : String} {log : List Event} (h : AllocInv c₀ r s log)
    (hi : s'.info r = s.info r) (hd : s'.revRegDef r = s.revRegDef r)
    (he : allocations r evs = []) : AllocInv c₀ r s' (log ++ evs) := by
  have ha : allocations r (log ++ evs) = allocations r log := by simp [he]
  exact ⟨by rw [ha]; exact h.increasing, by rw [ha]; exact h.above,
    by rw [ha, hi]; exact h.issued, by rw [ha, hd]; exact h.bounded, by rw [hi]; exact h.base,
    by rw [hi]; exact h.base_none⟩

/-- A step that keeps `curr_id` and allocates nothing keeps the invariant. -/
theorem AllocInv.of_currId {c₀ : Int} {r : String} {log : List Event} {info j : RevRegInfo}
    (h : AllocInv c₀ r s log) (hi : s.info r = some info) (hi' : s'.info r = some j)
    (hc : j.currId = info.currId) (hd : s'.revRegDef r = s.revRegDef r)
    (he : allocations r evs = []) : AllocInv c₀ r s' (log ++ evs) := by
  have ha : allocations r (log ++ evs) = allocations r log := by simp [he]
  refine ⟨by rw [ha]; exact h.increasing, by rw [ha]; exact h.above, ?_,
    by rw [ha, hd]; exact h.bounded, ?_, by simp [hi']⟩
  · rw [ha, hi']
    intro p hp
    obtain ⟨info₀, h₀, hle⟩ := h.issued p hp
    rw [hi, Option.some.injEq] at h₀
    subst h₀
    exact ⟨j, rfl, hc ▸ hle⟩
  · rw [hi']
    intro x hx
    rw [Option.some.injEq] at hx
    subst hx
    rw [hc]
    exact h.base info hi

theorem Effect.allocInv (he : Effect n o s t s' evs) {c₀ : Int} {r : String}
    {log : List Event} (h : AllocInv c₀ r s log) : AllocInv c₀ r s' (log ++ evs) := by
  cases he with
  | quiet => exact h.congr rfl rfl rfl
  | conflict => exact h.congr rfl rfl (by simp)
  | @alloc r' info hc =>
    by_cases hr : r' = r
    · -- The new index is `curr_id + 1`, above every earlier one.
      subst hr
      obtain ⟨d, hd, hle⟩ := hc.revRegDef_eq
      have hinfo := hc.info_eq
      have hlt : ∀ p ∈ allocations r' log, p.2 < info.currId + 1 := fun p hp => by
        obtain ⟨info', hi', hle'⟩ := h.issued p hp
        rw [hinfo, Option.some.injEq] at hi'
        subst hi'
        omega
      have hbase := h.base info hinfo
      have ha : allocations r' (log ++ [.alloc n r' (info.currId + 1)]) =
          allocations r' log ++ [(n, info.currId + 1)] := by simp
      have hi' : (advanceCurrId s r' info).info r' = some { info with currId := info.currId + 1 } := by
        simp [info_advanceCurrId]
      refine ⟨?_, ?_, ?_, ?_, ?_, by simp [hi']⟩ <;>
        simp only [ha, hi', revRegDef_advanceCurrId, List.mem_append, List.mem_singleton]
      · exact List.pairwise_append.2 ⟨h.increasing, List.pairwise_singleton _ _,
          fun p hp q hq => by rw [List.mem_singleton.1 hq]; exact hlt p hp⟩
      · rintro p (hp | rfl)
        · exact h.above p hp
        · dsimp only
          omega
      · rintro p (hp | rfl)
        · exact ⟨_, rfl, by have := hlt p hp; dsimp only; omega⟩
        · exact ⟨_, rfl, le_rfl⟩
      · rintro p (hp | rfl)
        · exact h.bounded p hp
        · exact ⟨d, hd, hle⟩
      · intro x hx
        rw [Option.some.injEq] at hx
        subst hx
        dsimp only
        omega
    · exact h.congr (by simp [info_advanceCurrId, hr]) (by simp) (by simp [hr])
  | @commit r' ids a info E F pl ul e hl he hv =>
    by_cases hr : r' = r
    · subst hr
      exact h.of_currId (j := info.revoke E) (Store.info_eq_some.2 ⟨e, he, hv⟩)
        (by simp [info_revokedStore]) rfl (by simp) (by simp)
    · exact h.congr (by simp [info_revokedStore, hr]) (by simp) (by simp)
  | @registry record id d k h1 h2 h3 =>
    by_cases hr : id = r
    · -- A new registry starts at `0`, with no allocation yet.
      subst hr
      have hnone : s.info id = none := by simp [Store.info, h1]
      have hempty : allocations id log = [] := List.eq_nil_iff_forall_not_mem.2 fun p hp => by
        obtain ⟨info, hi, -⟩ := h.issued p hp
        simp [hnone] at hi
      have h0 := h.base_none hnone
      refine ⟨by simp [hempty], by simp [hempty], by simp [hempty], by simp [hempty], ?_, ?_⟩
      · simp only [info_insertedRegistry, if_true, Option.some.injEq]
        rintro _ rfl
        exact h0
      · simp [info_insertedRegistry]
    · exact h.congr (by simp [info_insertedRegistry, hr]) (by simp [revRegDef_insertedRegistry, hr])
        rfl
  | list => exact h.congr (by simp [Store.info_put]) (by simp [Store.revRegDef_put]) rfl
  | posted => exact h.congr (by simp) (by simp) rfl
  | activated => exact h.congr (by simp) (by simp) rfl
  | full => exact h.congr (by simp) (by simp) (by simp)
  | created => exact h.congr (by simp) (by simp) rfl

theorem Reachable.allocInv {s₀ : Store} {calls : List Call} {σ : Sys}
    (h : Reachable env (Sys.init s₀ calls) σ) (r : String) :
    AllocInv (initialCurrId s₀ r) r σ.store σ.log := by
  induction h with
  | init =>
    refine ⟨by simp [Sys.init], by simp [Sys.init], by simp [Sys.init], by simp [Sys.init],
      fun info hi => ?_, fun hi => ?_⟩ <;> simp_all [initialCurrId, Sys.init]
  | step _ hs ih =>
    obtain ⟨n, o, hs⟩ := hs
    obtain ⟨t, t', evs, -, hts, -, hlog⟩ := Sys.step_threads hs
    rw [hlog]
    exact (step_effect hts).allocInv ih

/-! ## The revocation ids returned -/

/-- Where the thread `n` of `create_credential(a)` on `revocRegId` is; once it
    returned, the revocation id it returned is the index of an allocation it
    committed. -/
def IssueAt (n : Nat) (a : CreateCredentialArgs) (revocRegId : Option String)
    (log : List Event) : Thread → Prop
  | .ccRead a' r' => a' = a ∧ r' = revocRegId
  | .ccAlloc r => revocRegId = some r
  | .ccDone result => ∀ cred id, result = .ok (cred, id) → ∀ r, revocRegId = some r → r ≠ "" →
      ∃ i, (n, i) ∈ allocations r log ∧ id = some (toString i)
  | _ => False

variable {a : CreateCredentialArgs} {ro : Option String} {log : List Event}

theorem IssueAt.mono (h : IssueAt n a ro log t) (evs : List Event) :
    IssueAt n a ro (log ++ evs) t := by
  cases t with
  | ccDone result =>
    intro cred id hres r hr hne
    obtain ⟨i, hi, hid⟩ := h cred id hres r hr hne
    exact ⟨i, by simp [hi], hid⟩
  | _ => exact h

theorem IssueAt.step (h : IssueAt n a ro log t) (hs : t.step env n s o = some (t', s', evs)) :
    IssueAt n a ro (log ++ evs) t' := by
  obtain ⟨hd, ⟨-, rfl, rfl | ⟨rfl, _, _, _, _, _, rfl, -⟩⟩ | ⟨hrun, -⟩⟩ := step_eq_some hs
  · cases t <;> simp_all [IssueAt, Thread.failed]
  · exact h.elim
  cases t with
  | ccRead a' r' =>
    obtain ⟨rfl, rfl⟩ := h
    simp only [Thread.run] at hrun
    split at hrun
    · cases hrun
      simp [IssueAt]
    split_ifs at hrun with ht <;> cases hrun
    · cases r' <;> simp_all [truthy, IssueAt]
    · rintro c id - r rfl hr
      simp [truthy, hr] at ht
  | ccAlloc r =>
    rcases heq : allocateIndex s r with e | ⟨i, s₁⟩ <;> simp only [Thread.run, heq] at hrun <;>
      cases hrun
    · simp [IssueAt]
    · rintro c id hres r' hr -
      rw [h, Option.some.injEq] at hr
      subst hr
      refine ⟨i, by simp, ?_⟩
      cases hc : o.credential <;> simp_all [issueCredential]
  | ccDone => exact (hd trivial).elim
  | _ => exact h.elim

theorem Reachable.issueAt {s₀ : Store} {calls : List Call} {σ : Sys}
    (h : Reachable env (Sys.init s₀ calls) σ) (hc : calls[n]? = some (.createCredential a ro)) :
    ∃ t, σ.threads[n]? = some t ∧ IssueAt n a ro σ.log t := by
  induction h with
  | init => exact ⟨.ccRead a ro, by simp [Sys.init, hc, Call.start], rfl, rfl⟩
  | step _ hs ih =>
    obtain ⟨t, ht, hI⟩ := ih
    obtain ⟨m, o, hs⟩ := hs
    obtain ⟨u, u', evs, hu, hus, hth, hlog⟩ := Sys.step_threads hs
    rw [hth, hlog]
    by_cases hm : m = n
    · subst hm
      rw [ht, Option.some.injEq] at hu
      subst hu
      exact ⟨u', getElem?_set_of ht, hI.step hus⟩
    · exact ⟨t, by rw [List.getElem?_set_ne hm]; exact ht, hI.mono evs⟩

/-- Along every interleaving of every call, from every store, the indices that
    the allocations commit for a registry increase strictly in commit order,
    each above the registry's `curr_id` at the start and within the
    `max_cred_num` of its stored definition; and two calls of
    `create_credential` on the registry that return never return the same
    revocation id. -/
theorem createCredential_allocations (env : Env) (s₀ : Store) (calls : List Call) {σ : Sys}
    (hσ : Reachable env (Sys.init s₀ calls) σ) (r : String) :
    (allocations r σ.log).Pairwise (fun a b => a.2 < b.2) ∧
    (∀ p ∈ allocations r σ.log, initialCurrId s₀ r < p.2 ∧
      ∃ d, σ.store.revRegDef r = some d ∧ p.2 ≤ d.maxCredNum) ∧
    ∀ (n m : Nat) (a b : CreateCredentialArgs) (cred cred' : String) (id id' : Option String),
      r ≠ "" → n ≠ m →
      calls[n]? = some (.createCredential a (some r)) →
      calls[m]? = some (.createCredential b (some r)) →
      σ.threads[n]? = some (.ccDone (.ok (cred, id))) →
      σ.threads[m]? = some (.ccDone (.ok (cred', id'))) → id ≠ id' := by
  have hinv := hσ.allocInv r
  refine ⟨hinv.increasing, fun p hp => ⟨hinv.above p hp, hinv.bounded p hp⟩, ?_⟩
  intro n m a b cred cred' id id' hr hnm hn hm htn htm hid
  obtain ⟨tn, htn', hIn⟩ := hσ.issueAt hn
  obtain ⟨tm, htm', hIm⟩ := hσ.issueAt hm
  rw [htn, Option.some.injEq] at htn'
  rw [htm, Option.some.injEq] at htm'
  subst htn' htm'
  obtain ⟨i, hi, rfl⟩ := hIn cred id rfl r rfl hr
  obtain ⟨j, hj, hj'⟩ := hIm cred' id' rfl r rfl hr
  -- Equal ids are equal indices, committed by two threads: two allocations of one index.
  have hij : i = j := toString_injective (Option.some.inj (hid.trans hj'))
  subst hij
  have hne := (hinv.increasing.imp fun h => ne_of_lt h).forall (fun _ _ h => Ne.symm h) hi hj
    (by simp [hnm])
  exact hne rfl

/-- Two calls of `create_credential` on `issuerRegistry`, the second first:
    they return the ids `2` and `3`, committed in that order. -/
theorem createCredential_allocations_issuer :
    ∃ σ, Reachable ⟨timeTime, false, 0, 0⟩ (Sys.init issuerRegistry
        [.createCredential ⟨"cd", ∅⟩ (some "r"), .createCredential ⟨"cd", ∅⟩ (some "r")]) σ ∧
      σ.threads = [.ccDone (.ok ("", some "3")), .ccDone (.ok ("", some "2"))] ∧
      allocations "r" σ.log = [(1, 2), (0, 3)] ∧
      (allocations "r" σ.log).Pairwise (fun a b => a.2 < b.2) := by
  obtain ⟨σ, hσ, h, h'⟩ : ∃ σ, Reachable ⟨timeTime, false, 0, 0⟩ (Sys.init issuerRegistry
        [.createCredential ⟨"cd", ∅⟩ (some "r"), .createCredential ⟨"cd", ∅⟩ (some "r")]) σ ∧
      σ.threads = [.ccDone (.ok ("", some "3")), .ccDone (.ok ("", some "2"))] ∧
      allocations "r" σ.log = [(1, 2), (0, 3)] :=
    ⟨_, @Reachable.of_run _ _ _ _ [(1, {}), (1, {}), (0, {}), (0, {})] .init rfl, rfl, rfl⟩
  exact ⟨σ, hσ, h, h', (createCredential_allocations _ _ _ hσ "r").1⟩

end Acapy
