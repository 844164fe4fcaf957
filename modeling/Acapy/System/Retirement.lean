import Acapy.System.Effects

/-!
# Retiring a full registry

`handle_full_registry(revoc_reg_id)` reads the record of the registry for
update, and in the same transaction saves it full, unless it is full
already; it then calls `init_issuer_registry` for a successor with the
issuer, credential definition, size and type of the full registry. The read
for update makes the test and the save one step, so any number of calls on
one registry, with `create_credential` running concurrently and no failure
of the store, end with the record full, having called `init_issuer_registry`
once in all if the record was not full, and never if it was
(`handleFullRegistry_successor`).

The other steps of these calls leave the record where the query by
`revoc_reg_id` finds it: an allocation writes no record, and
`init_issuer_registry` saves a new record with no registry.
-/

namespace Acapy

variable {env : Env} {n : Nat} {o : Oracle} {s s' : Store} {t t' : Thread} {evs : List Event}

/-- The arguments of the calls of `init_issuer_registry` that
    `handle_full_registry` made, in order. -/
def successors (log : List Event) : List InitArgs :=
  log.filterMap fun
    | .successor _ args => some args
    | _ => none

@[simp] theorem successors_nil : successors [] = [] := rfl

@[simp] theorem successors_append (l l' : List Event) :
    successors (l ++ l') = successors l ++ successors l' :=
  List.filterMap_append _ _ _

@[simp] theorem successors_successor (n : Nat) (args : InitArgs) :
    successors [.successor n args] = [args] := rfl

@[simp] theorem successors_alloc (n : Nat) (r : String) (i : Int) :
    successors [.alloc n r i] = [] := rfl

/-! ## The steps of the calls -/

/-- The threads of `create_credential`, of `handle_full_registry(r)`, and of
    the `init_issuer_registry(args)` it calls. -/
def Thread.Retiring (r : String) (args : InitArgs) : Thread → Prop
  | .ccRead .. | .ccAlloc _ | .ccDone _ | .done _ => True
  | .hfTxn r' => r' = r
  | .irSave args' => args' = args
  | _ => False

/-- The step of `handle_full_registry` on a registry whose record the query
    finds, when the store does not fail. -/
theorem step_hfTxn (hf : env.faults = false) {r : String} {registry : IssuerRevRegRecord}
    (h : s.retrieveByRevocRegId r = .ok registry) :
    (Thread.hfTxn r).step env n s o = some (if registry.state = .full then (.done (.ok ()), s, [])
      else (.irSave registry.initArgs, s.putRecord { registry with state := .full },
        [.successor n registry.initArgs])) := by
  simp only [Thread.step, Env.fails, hf, Bool.and_false, Bool.false_eq_true, if_false, Thread.run,
    markFull_of_retrieve h]
  split_ifs <;> rfl

/-- The other calls stay among the calls. -/
theorem Thread.Retiring.step {r : String} {args : InitArgs} (ht : t.Retiring r args)
    (hne : ∀ r', t ≠ .hfTxn r') (h : t.step env n s o = some (t', s', evs)) :
    t'.Retiring r args := by
  obtain ⟨-, ⟨-, -, rfl | ⟨rfl, _, _, _, _, _, rfl, -⟩⟩ | ⟨h, -⟩⟩ := step_eq_some h
  · cases t <;> trivial
  · exact ht.elim
  cases t with
  | hfTxn r' => exact (hne r' rfl).elim
  | _ =>
    simp only [Thread.run] at h
    (repeat' split at h) <;> cases h <;> trivial

/-! ## The invariant -/

section

variable {r : String} {registry : IssuerRevRegRecord} {calls : List Call} {σ : Sys}

/-- What holds along the calls on the registry `r`, whose record was
    `registry`: the query finds `registry` until a call marks it full, which
    happens once, and only to a record that was not full; every thread is one
    of the calls, or the `init_issuer_registry` with the arguments of
    `registry`; and until the record is marked, a record that was not full
    keeps every call of `handle_full_registry` before its transaction. -/
structure Retired (r : String) (registry : IssuerRevRegRecord) (calls : List Call) (σ : Sys) :
    Prop where
  found : σ.store.retrieveByRevocRegId r =
    .ok (if successors σ.log = [] then registry else { registry with state := .full })
  once : successors σ.log = [] ∨
    (successors σ.log = [registry.initArgs] ∧ registry.state ≠ .full)
  threads : ∀ t ∈ σ.threads, t.Retiring r registry.initArgs
  pending : successors σ.log = [] → registry.state ≠ .full →
    ∀ i : Nat, calls[i]? = some (.handleFullRegistry r) → σ.threads[i]? = some (.hfTxn r)

/-- A step that leaves what the query finds and starts no successor keeps the
    invariant, if it is not a step of a call of `handle_full_registry` that
    the invariant keeps before its transaction. -/
theorem Retired.frame (h : Retired r registry calls σ) {m : Nat} {u u' : Thread}
    (hu : σ.threads[m]? = some u)
    (hne : successors σ.log = [] → registry.state ≠ .full → ∀ r', u ≠ .hfTxn r')
    (hu' : u'.Retiring r registry.initArgs)
    (hs : s'.retrieveByRevocRegId r = σ.store.retrieveByRevocRegId r) (hev : successors evs = []) :
    Retired r registry calls ⟨s', σ.threads.set m u', σ.log ++ evs⟩ := by
  refine ⟨by simpa [hev, hs] using h.found, by simpa [hev] using h.once,
    fun w hw => (List.mem_or_eq_of_mem_set hw).elim (h.threads w) (· ▸ hu'), ?_⟩
  intro h0 hnf i hi
  simp only [successors_append, hev, List.append_nil] at h0
  have hi' := h.pending h0 hnf i hi
  have hmi : m ≠ i := by
    rintro rfl
    exact hne h0 hnf r (Option.some.inj (hu.symm.trans hi'))
  rwa [List.getElem?_set_ne hmi]

/-- Every step keeps the invariant. -/
theorem Retired.step (hf : env.faults = false) (h : Retired r registry calls σ) {m : Nat}
    {σ' : Sys} (hs : σ.step env m o = some σ') : Retired r registry calls σ' := by
  obtain ⟨u, u', s', evs, hu, hus, rfl⟩ := Sys.step_eq_some.1 hs
  have hur := h.threads u (List.getElem?_mem hu)
  by_cases hhf : ∃ r', u = .hfTxn r'
  · -- The transaction of `handle_full_registry`: it marks the record, or finds it full.
    obtain ⟨_, rfl⟩ := hhf
    cases hur
    rcases h.once with h0 | ⟨h1, hnf⟩
    · have hfound : σ.store.retrieveByRevocRegId r = .ok registry := by simpa [h0] using h.found
      rw [step_hfTxn hf hfound, Option.some.injEq] at hus
      by_cases hfull : registry.state = .full
      · rw [if_pos hfull] at hus
        cases hus
        exact h.frame hu (fun _ hnf => (hnf hfull).elim) trivial rfl rfl
      · rw [if_neg hfull] at hus
        cases hus
        refine ⟨?_, .inr ⟨by simp [h0], hfull⟩, fun w hw => ?_, fun h1 => by simp [h0] at h1⟩
        · rw [successors_append, h0, successors_successor, if_neg (by simp)]
          exact Store.retrieveByRevocRegId_putRecord_self hfound rfl
            (Store.retrieveByRevocRegId_eq_ok.1 hfound).2.1
        · exact (List.mem_or_eq_of_mem_set hw).elim (h.threads w) (· ▸ rfl)
    · have hfound : σ.store.retrieveByRevocRegId r = .ok { registry with state := .full } := by
        simpa [h1] using h.found
      rw [step_hfTxn hf hfound, if_pos rfl, Option.some.injEq] at hus
      cases hus
      exact h.frame hu (fun h0 => by simp [h1] at h0) trivial rfl rfl
  · -- Another call: an allocation, or the save of a new record.
    have hne : ∀ r', u ≠ .hfTxn r' := fun r' h' => hhf ⟨r', h'⟩
    have hu' := hur.step hne hus
    cases step_effect hus with
    | quiet => exact h.frame hu (fun _ _ => hne) hu' rfl rfl
    | alloc _ =>
      exact h.frame hu (fun _ _ => hne) hu' (Store.retrieveByRevocRegId_congr (by simp) r) rfl
    | created hnew =>
      have hx := (Store.retrieveByRevocRegId_eq_ok.1 h.found).1
      refine h.frame hu (fun _ _ => hne) hu' ((Store.retrieveByRevocRegId_putRecord_other h.found
        (fun he => ?_) (by simp [InitArgs.record])).trans h.found.symm) rfl
      rw [show (InitArgs.record _ o.recordId).recordId = o.recordId from rfl] at he
      rw [he, hx] at hnew
      cases hnew
    | full _ _ => exact (hne _ rfl).elim
    | conflict | commit _ _ _ | registry _ _ _ | list _ | posted _ | activated _ => exact hur.elim

theorem Reachable.retired (hf : env.faults = false) {s₀ : Store}
    (hr : s₀.retrieveByRevocRegId r = .ok registry)
    (hcalls : ∀ c ∈ calls, c = .handleFullRegistry r ∨ ∃ a r', c = .createCredential a r')
    (h : Reachable env (Sys.init s₀ calls) σ) : Retired r registry calls σ := by
  induction h with
  | init =>
    refine ⟨by simpa [Sys.init] using hr, .inl rfl, fun t ht => ?_,
      fun _ _ i hi => by simp [Sys.init, hi, Call.start]⟩
    obtain ⟨c, hc, rfl⟩ := List.mem_map.1 ht
    rcases hcalls c hc with rfl | ⟨a, r', rfl⟩
    · rfl
    · trivial
  | step _ hs ih =>
    obtain ⟨m, o, hs⟩ := hs
    exact ih.step hf hs

end

end Acapy
