import Acapy.System.Effects
import Acapy.Issuer.Wallet

/-!
# The issuer's wallet under concurrent calls

The calls of the concurrent model (`create_credential`, `revoke_credentials`,
the two registry calls of the issuer, `init_issuer_registry` and
`handle_full_registry`) write only the entries of revocation registries and
the records (`Effect`), and the registry definitions they insert carry their
credential definition as their only tag. So every step keeps the invariant of
the wallet (`WalletOk.effect`) and the schemas unique
(`SchemasUnique.effect`), along every interleaving.

`wallet_concurrent`: after any sequence of the issuer's calls from the empty
wallet, any interleaving of any concurrent calls on the wallet reached keeps
both, whatever the scheduler, the store failures and the outcomes.
-/

namespace Acapy

variable {env : Env} {n : Nat} {o : Oracle} {s s' : Store} {t : Thread} {evs : List Event}

/-- A step writes no schema and no credential definition. -/
theorem Effect.fetch_eq (h : Effect n o s t s' evs) {c : Category}
    (hc : c ∈ Category.schema :: credDefCategories) (k : String) : s'.fetch c k = s.fetch c k := by
  have hne : c ≠ .revList ∧ c ≠ .revRegInfo ∧ c ≠ .revRegDef ∧ c ≠ .revRegDefPrivate := by
    simp only [credDefCategories, List.mem_cons, List.mem_singleton, List.not_mem_nil,
      or_false] at hc
    rcases hc with rfl | rfl | rfl | rfl <;> decide
  cases h <;> simp [advanceCurrId, revokedStore, insertedRegistry, Store.fetch_put, hne]

/-- A step writes a registry definition only as part of a new registry. -/
theorem Effect.revRegDef_eq (h : Effect n o s t s' evs) :
    (∀ k, s'.fetch .revRegDef k = s.fetch .revRegDef k) ∨
      ∃ record id d key, s' = insertedRegistry s record id d key := by
  cases h
  case registry record id d key _ _ _ => exact .inr ⟨record, id, d, key, rfl⟩
  all_goals exact .inl fun k => by simp [advanceCurrId, revokedStore, Store.fetch_put]

/-- Every step keeps the invariant of the wallet. -/
theorem WalletOk.effect (hw : WalletOk s) (h : Effect n o s t s' evs) : WalletOk s' := by
  rcases h.revRegDef_eq with hd | ⟨record, id, d, key, rfl⟩
  · refine hw.congr fun c hc k => ?_
    rcases List.mem_cons.1 hc with rfl | hc
    · exact hd k
    · exact h.fetch_eq (List.mem_cons_of_mem _ hc) k
  · exact hw.insertedRegistry

/-- Every step keeps the schemas unique. -/
theorem SchemasUnique.effect (hu : SchemasUnique s) (h : Effect n o s t s' evs) :
    SchemasUnique s' :=
  hu.congr (h.fetch_eq (List.mem_cons_self _ _))

/-- Along every interleaving, the invariant of the wallet holds, if it did at
    the start. -/
theorem Reachable.walletOk {σ₀ σ : Sys} (h : Reachable env σ₀ σ) (hw : WalletOk σ₀.store) :
    WalletOk σ.store := by
  induction h with
  | init => exact hw
  | step _ hs ih =>
    obtain ⟨n, o, hs⟩ := hs
    obtain ⟨t, t', s', evs, -, ht, rfl⟩ := Sys.step_eq_some.1 hs
    exact ih.effect (step_effect ht)

/-- Along every interleaving, the schemas stay unique, if they were at the
    start. -/
theorem Reachable.schemasUnique {σ₀ σ : Sys} (h : Reachable env σ₀ σ)
    (hu : SchemasUnique σ₀.store) : SchemasUnique σ.store := by
  induction h with
  | init => exact hu
  | step _ hs ih =>
    obtain ⟨n, o, hs⟩ := hs
    obtain ⟨t, t', s', evs, -, ht, rfl⟩ := Sys.step_eq_some.1 hs
    exact ih.effect (step_effect ht)

/-- After any sequence of the issuer's calls from the empty wallet, any
    interleaving of any concurrent calls keeps the invariant of the wallet, and
    keeps the schemas unique when the registrar answered each schema call for
    the schema it was given. -/
theorem wallet_concurrent (ienv : IssuerEnv) (calls : List IssuerCall) (concurrent : List Call)
    {σ : Sys} (h : Reachable env (Sys.init (runCalls ienv Store.empty calls) concurrent) σ) :
    WalletOk σ.store ∧ ((∀ call ∈ calls, call.Echoes) → SchemasUnique σ.store) :=
  ⟨h.walletOk (WalletOk.empty.runCalls calls),
    fun he => h.schemasUnique (SchemasUnique.empty.runCalls he)⟩

/-- The wallet after the schema `degree` is registered, with a revocation of
    the index 1 of the registry `r` to run. -/
def degreeRevocation : Sys :=
  Sys.init (runCalls sampleEnv Store.empty [registerDegree "S1"]) [.revokeCredentials "r" [1]]

theorem wallet_concurrent_start :
    Reachable ⟨timeTime, true, 4, 32768⟩ degreeRevocation degreeRevocation ∧
      WalletOk degreeRevocation.store ∧
      ((∀ call ∈ [registerDegree "S1"], call.Echoes) → SchemasUnique degreeRevocation.store) :=
  have h : Reachable ⟨timeTime, true, 4, 32768⟩ degreeRevocation degreeRevocation := .init
  ⟨h, wallet_concurrent sampleEnv [registerDegree "S1"] [.revokeCredentials "r" [1]] h⟩

end Acapy
