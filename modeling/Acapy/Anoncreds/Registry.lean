import Acapy.Basic

/-!
# The anoncreds registry

`AnonCredsRegistry` (`anoncreds/anoncreds/registry.py`) dispatches the reads
and the registrations of anoncreds objects to the resolvers and registrars
registered with it. The issuer (`anoncreds/issuer.py`) imports its registry
from `.registry`, a module of its own package and not this one, so the
issuer's calls of its registrar are inputs of the issuer's model.

A read goes to the one resolver that supports the identifier it is given, a
registration to the one registrar that supports the issuer of the object
(`handlerFor`):

* `handlerFor_eq`, `handlerFor_perm`: the handler is found when exactly one
  supports the identifier, in whatever order the handlers were registered;
  with several, the lookup raises the registry's error, but with none it
  fails at `[0]` with `IndexError`;
* `register_revocation_status_list` looks up its registrar for the identifier
  `"something"`, not for the issuer of the list
  (`registerRevocationStatusList_eq`);
* `dispatch_failures`: both, on a registry with no handler and on one with a
  handler for one issuer.
-/

namespace Acapy

/-! ## Anoncreds objects -/

/-- `AnonCredsSchema`, with the fields the modelled code reads. -/
structure AnonCredsSchema where
  issuerId : String
  name : String
  version : String
  deriving DecidableEq, Repr

/-- `CredDef`, with the field the registry reads. -/
structure CredDef where
  issuerId : String
  deriving DecidableEq, Repr

/-- `RevRegDef`, with the field the registry reads. -/
structure RevRegDef where
  issuerId : String
  deriving DecidableEq, Repr

/-- `RevStatusList`, with the field the registry would read. -/
structure RevStatusList where
  issuerId : String
  deriving DecidableEq, Repr

/-! ## Handlers -/

/-- A handler given to `AnonCredsRegistry`: whether it is a resolver
    (`BaseAnonCredsResolver`) and whether a registrar
    (`BaseAnonCredsRegistrar`), and the identifiers it `supports`. -/
structure AnonCredsHandler where
  isResolver : Bool
  isRegistrar : Bool
  supports : String → Bool

/-- `AnonCredsRegistry`: its resolvers and its registrars, in the order of
    their registration. -/
structure AnonCredsRegistry where
  resolvers : List AnonCredsHandler
  registrars : List AnonCredsHandler

namespace AnonCredsRegistry

/-- `register(registry)`. -/
def register (reg : AnonCredsRegistry) (registry : AnonCredsHandler) : AnonCredsRegistry where
  resolvers := if registry.isResolver then reg.resolvers ++ [registry] else reg.resolvers
  registrars := if registry.isRegistrar then reg.registrars ++ [registry] else reg.registrars

/-- `AnonCredsRegistry(registries)`. -/
def init (registries : Option (List AnonCredsHandler)) : AnonCredsRegistry :=
  (registries.getD []).foldl register ⟨[], []⟩

theorem foldl_register (reg : AnonCredsRegistry) (l : List AnonCredsHandler) :
    (l.foldl register reg).resolvers = reg.resolvers ++ l.filter (·.isResolver) ∧
      (l.foldl register reg).registrars = reg.registrars ++ l.filter (·.isRegistrar) := by
  induction l generalizing reg with
  | nil => simp
  | cons h l ih =>
    rw [List.foldl_cons, (ih _).1, (ih _).2]
    constructor <;> by_cases hr : h.isResolver <;> by_cases hg : h.isRegistrar <;>
      simp [register, hr, hg, List.filter_cons]

/-- The resolvers and the registrars of a registry are its handlers of each
    kind, in the order given. -/
theorem init_handlers (registries : Option (List AnonCredsHandler)) :
    (init registries).resolvers = (registries.getD []).filter (·.isResolver) ∧
      (init registries).registrars = (registries.getD []).filter (·.isRegistrar) := by
  simpa using foldl_register ⟨[], []⟩ (registries.getD [])

/-! ## Finding a handler -/

/-- `_resolver_for_identifier` and `_registrar_for_identifier`: the handlers of
    `handlers` that support the identifier; more than one raises `tooMany`,
    and the first is taken with `[0]`. -/
def handlerFor (handlers : List AnonCredsHandler) (tooMany : PyError) (identifier : String) :
    Except PyError AnonCredsHandler :=
  let found := handlers.filter fun h => h.supports identifier
  if found.length > 1 then .error tooMany else pyIndex found 0

/-- `_resolver_for_identifier(identifier)`. -/
def resolverForIdentifier (reg : AnonCredsRegistry) (identifier : String) :
    Except PyError AnonCredsHandler :=
  handlerFor reg.resolvers
    (.resolution s!"More than one resolver found for identifier {identifier}") identifier

/-- `_registrar_for_identifier(identifier)`. -/
def registrarForIdentifier (reg : AnonCredsRegistry) (identifier : String) :
    Except PyError AnonCredsHandler :=
  handlerFor reg.registrars
    (.registration s!"More than one registrar found for identifier {identifier}") identifier

/-- The lookup finds the handler that supports the identifier when it is the
    only one, raises `tooMany` when several do, and `IndexError` when none does. -/
theorem handlerFor_eq (handlers : List AnonCredsHandler) (tooMany : PyError)
    (identifier : String) :
    handlerFor handlers tooMany identifier =
      match handlers.filter fun h => h.supports identifier with
      | [h] => .ok h
      | [] => .error (.index "list index out of range")
      | _ :: _ :: _ => .error tooMany := by
  unfold handlerFor
  rcases hf : handlers.filter fun h => h.supports identifier with _ | ⟨h, _ | ⟨h', l⟩⟩ <;>
    simp [pyIndex, hf]

/-- The lookup does not depend on the order of registration. -/
theorem handlerFor_perm {handlers handlers' : List AnonCredsHandler} (hp : handlers.Perm handlers')
    (tooMany : PyError) (identifier : String) :
    handlerFor handlers tooMany identifier = handlerFor handlers' tooMany identifier := by
  have hf := hp.filter fun h => h.supports identifier
  rw [handlerFor_eq, handlerFor_eq]
  rcases h : handlers.filter fun h => h.supports identifier with _ | ⟨x, _ | ⟨y, l⟩⟩ <;>
    rw [h] at hf ⊢
  · rw [hf.symm.eq_nil]
  · rw [List.perm_singleton.1 hf.symm]
  · obtain ⟨x', y', l', h'⟩ : ∃ x' y' l', handlers'.filter (fun h => h.supports identifier) =
        x' :: y' :: l' := by
      rcases h' : handlers'.filter fun h => h.supports identifier with _ | ⟨x', _ | ⟨y', l'⟩⟩ <;>
        have := hf.length_eq <;> simp_all
    rw [h']

/-! ## The operations -/

/-- A `get_*` operation: the resolver for the identifier, then its method. -/
def resolveWith {β : Type} (reg : AnonCredsRegistry) (identifier : String)
    (method : AnonCredsHandler → Except PyError β) : Except PyError β := do
  let resolver ← reg.resolverForIdentifier identifier
  method resolver

/-- A `register_*` operation: the registrar for the identifier, then its
    method. -/
def registerWith {β : Type} (reg : AnonCredsRegistry) (identifier : String)
    (method : AnonCredsHandler → Except PyError β) : Except PyError β := do
  let registrar ← reg.registrarForIdentifier identifier
  method registrar

section Operations

variable {β γ : Type} (reg : AnonCredsRegistry)

/-- `get_schema(profile, schema_id)`, with `method` the resolver's `get_schema`. -/
def getSchema (schemaId : String) (method : AnonCredsHandler → String → Except PyError β) :
    Except PyError β :=
  reg.resolveWith schemaId fun resolver => method resolver schemaId

/-- `register_schema(profile, schema, options)`. -/
def registerSchema (schema : AnonCredsSchema)
    (method : AnonCredsHandler → AnonCredsSchema → Except PyError β) : Except PyError β :=
  reg.registerWith schema.issuerId fun registrar => method registrar schema

/-- `get_credential_definition(profile, credential_definition_id)`. -/
def getCredentialDefinition (credentialDefinitionId : String)
    (method : AnonCredsHandler → String → Except PyError β) : Except PyError β :=
  reg.resolveWith credentialDefinitionId fun resolver => method resolver credentialDefinitionId

/-- `register_credential_definition(profile, schema, credential_definition,
    options)`, with `schema` the result of a `get_schema`. -/
def registerCredentialDefinition (schema : γ) (credentialDefinition : CredDef)
    (method : AnonCredsHandler → γ → CredDef → Except PyError β) : Except PyError β :=
  reg.registerWith credentialDefinition.issuerId fun registrar =>
    method registrar schema credentialDefinition

/-- `get_revocation_registry_definition(profile, revocation_registry_id)`. -/
def getRevocationRegistryDefinition (revocationRegistryId : String)
    (method : AnonCredsHandler → String → Except PyError β) : Except PyError β :=
  reg.resolveWith revocationRegistryId fun resolver => method resolver revocationRegistryId

/-- `register_revocation_registry_definition(profile,
    revocation_registry_definition, options)`. -/
def registerRevocationRegistryDefinition (revocationRegistryDefinition : RevRegDef)
    (method : AnonCredsHandler → RevRegDef → Except PyError β) : Except PyError β :=
  reg.registerWith revocationRegistryDefinition.issuerId fun registrar =>
    method registrar revocationRegistryDefinition

/-- `get_revocation_status_list(profile, revocation_registry_id, timestamp)`. -/
def getRevocationStatusList (revocationRegistryId timestamp : String)
    (method : AnonCredsHandler → String → String → Except PyError β) : Except PyError β :=
  reg.resolveWith revocationRegistryId fun resolver =>
    method resolver revocationRegistryId timestamp

/-- `register_revocation_status_list(profile, rev_status_list, options)`: its
    registrar is looked up for the identifier `"something"`. -/
def registerRevocationStatusList (revStatusList : RevStatusList)
    (method : AnonCredsHandler → RevStatusList → Except PyError β) : Except PyError β :=
  reg.registerWith "something" fun registrar => method registrar revStatusList

/-- A registration goes to the registrar of the object's issuer when exactly
    one supports it. -/
theorem registerWith_of_unique {identifier : String} {registrar : AnonCredsHandler}
    (h : reg.registrars.filter (fun h => h.supports identifier) = [registrar])
    (method : AnonCredsHandler → Except PyError β) :
    reg.registerWith identifier method = method registrar := by
  simp [registerWith, registrarForIdentifier, handlerFor_eq, h, bind, Except.bind]

/-- A read goes to the resolver of its identifier when exactly one supports it. -/
theorem resolveWith_of_unique {identifier : String} {resolver : AnonCredsHandler}
    (h : reg.resolvers.filter (fun h => h.supports identifier) = [resolver])
    (method : AnonCredsHandler → Except PyError β) :
    reg.resolveWith identifier method = method resolver := by
  simp [resolveWith, resolverForIdentifier, handlerFor_eq, h, bind, Except.bind]

/-- `register_revocation_status_list` goes to the registrar of `"something"`,
    whatever the issuer of the list. -/
theorem registerRevocationStatusList_eq (revStatusList : RevStatusList)
    (method : AnonCredsHandler → RevStatusList → Except PyError β) :
    reg.registerRevocationStatusList revStatusList method =
      match reg.registrars.filter fun h => h.supports "something" with
      | [registrar] => method registrar revStatusList
      | [] => .error (.index "list index out of range")
      | _ :: _ :: _ =>
        .error (.registration "More than one registrar found for identifier something") := by
  simp only [registerRevocationStatusList, registerWith, registrarForIdentifier, handlerFor_eq]
  split <;> rfl

end Operations

/-- A registry made from handlers, in any order, finds the resolver, and the
    registrar, that supports an identifier when it is the only one, raises its
    error when several do, and `IndexError` when none does. -/
theorem lookups_init {registries registries' : List AnonCredsHandler}
    (hp : registries.Perm registries') (identifier : String) :
    (init (some registries)).resolverForIdentifier identifier =
      (init (some registries')).resolverForIdentifier identifier ∧
    (init (some registries)).registrarForIdentifier identifier =
      (init (some registries')).registrarForIdentifier identifier ∧
    (init (some registries)).resolverForIdentifier identifier =
      (match registries.filter fun h => h.isResolver && h.supports identifier with
      | [h] => .ok h
      | [] => .error (.index "list index out of range")
      | _ :: _ :: _ =>
        .error (.resolution s!"More than one resolver found for identifier {identifier}")) ∧
    (init (some registries)).registrarForIdentifier identifier =
      match registries.filter fun h => h.isRegistrar && h.supports identifier with
      | [h] => .ok h
      | [] => .error (.index "list index out of range")
      | _ :: _ :: _ =>
        .error (.registration s!"More than one registrar found for identifier {identifier}") := by
  simp only [resolverForIdentifier, registrarForIdentifier, (init_handlers _).1,
    (init_handlers _).2, Option.getD_some]
  exact ⟨handlerFor_perm (hp.filter _) _ _, handlerFor_perm (hp.filter _) _ _,
    by simp only [handlerFor_eq, List.filter_filter, Bool.and_comm],
    by simp only [handlerFor_eq, List.filter_filter, Bool.and_comm]⟩

/-- A handler that resolves and registers the objects of the issuer `did:a`. -/
def issuerA : AnonCredsHandler := ⟨true, true, fun x => x = "did:a"⟩

/-- A handler that only resolves, every identifier. -/
def resolveAll : AnonCredsHandler := ⟨true, false, fun _ => true⟩

theorem lookups_init_swap :
    [issuerA, resolveAll].Perm [resolveAll, issuerA] ∧
    (init (some [issuerA, resolveAll])).resolverForIdentifier "did:a" =
      (init (some [resolveAll, issuerA])).resolverForIdentifier "did:a" :=
  ⟨List.Perm.swap _ _ _, (lookups_init (List.Perm.swap _ _ _) "did:a").1⟩

/-- With no handler, a read raises `IndexError`, not
    `AnonCredsResolutionError`. With the handler of `did:a`, a schema of
    `did:a` is registered through it, but a status list of `did:a` is not: its
    registrar is looked up for `"something"`, which no handler supports. -/
theorem dispatch_failures {β : Type} (method : AnonCredsHandler → AnonCredsSchema → Except PyError β)
    (method' : AnonCredsHandler → RevStatusList → Except PyError β) :
    (init none).resolverForIdentifier "did:a" = .error (.index "list index out of range") ∧
    (init (some [issuerA])).registerSchema ⟨"did:a", "s", "1.0"⟩ method =
      method issuerA ⟨"did:a", "s", "1.0"⟩ ∧
    (init (some [issuerA])).registerRevocationStatusList ⟨"did:a"⟩ method' =
      .error (.index "list index out of range") :=
  ⟨rfl, rfl, rfl⟩

end AnonCredsRegistry

end Acapy
