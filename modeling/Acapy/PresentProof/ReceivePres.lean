import Acapy.PresentProof.IndyProof

/-!
# Receiving a presentation

`receive_pres` checks a presentation against the proof request of its
exchange, for "bait and switch" (`_check_proof_vs_proposal`), in three loops:

* every revealed attribute must be requested, and the criteria of its
  sub-proof, with its value, must meet one of the request's restrictions;
* so must every revealed group, with all of its values;
* every predicate must be requested, and the sub-proof must prove it: the
  handler takes the *first* `ge_proof` of the sub-proof on the attribute
  (`findGeProof`), and raises unless it has the requested predicate and value.
  The restrictions, without their `attr::` keys, must be met.

`receivePres_eq_ok` says exactly when the presentation passes, for every
request and presentation. A sub-proof that proves two predicates on one
attribute fails whenever the second is checked, as the first `ge_proof` on the
attribute answers for both (`receivePres_two_predicates`).

`canon` (`messaging/util.py`) and `Predicate.get` (`indy/models/predicate.py`)
are not under src/: they are parameters.
-/

namespace Acapy

section Check

-- `canon`, and `Predicate.get` into the predicates, or `None`.
variable (canon : String → String) {π : Type} [DecidableEq π] (predicateGet : String → Option π)

/-- The check of the revealed attribute `reft`. -/
def checkRevealedAttr (proofReq : ProofRequest) (proof : IndyProof) (reft : String)
    (attrSpec : RevealedAttr) : Except PyError Unit := do
  let some proofReqAttrSpec := proofReq.requestedAttributes.lookup reft
    | throw (.presFormat s!"Presentation referent {reft} not in proposal request")
  let reqRestrictions := proofReqAttrSpec.restrictions
  let some name := proofReqAttrSpec.name
    | throw (.key "name")
  let ident ← pyIndex proof.identifiers attrSpec.subProofIndex
  let crit ← criteria ident
  if !restrictionsMet reqRestrictions (crit ++ [(s!"attr::{name}::value", attrSpec.raw)]) then
    throw (.presFormat (s!"Presented attribute {reft} does not satisfy proof request " ++
      s!"restrictions {pyReprDicts reqRestrictions}"))

/-- The check of the revealed group `reft`. -/
def checkRevealedAttrGroup (proofReq : ProofRequest) (proof : IndyProof) (reft : String)
    (attrSpec : RevealedAttrGroup) : Except PyError Unit := do
  let some proofReqAttrSpec := proofReq.requestedAttributes.lookup reft
    | throw (.presFormat s!"Presentation referent {reft} not in proposal request")
  let reqRestrictions := proofReqAttrSpec.restrictions
  let ident ← pyIndex proof.identifiers attrSpec.subProofIndex
  let crit ← criteria ident
  let values := attrSpec.values.map fun (name, value) => (s!"attr::{name}::value", value)
  if !restrictionsMet reqRestrictions (crit ++ values) then
    throw (.presFormat (s!"Presented attr group {reft} does not satisfy proof request " ++
      s!"restrictions {pyReprDicts reqRestrictions}"))

/-- The `for ... else` over the `ge_proofs` of a sub-proof: the first on the
    attribute `canon(req_name)` must have the requested predicate and value. -/
def findGeProof (reqName : String) (reqPred : Option π) (reqValue : Int) :
    List GePredicate → Except PyError Unit
  | [] => .error (.presFormat s!"Proposed request predicate on {reqName} not in presentation")
  | gePred :: geProofs =>
    if gePred.attrName ≠ canon reqName then findGeProof reqName reqPred reqValue geProofs
    else if predicateGet gePred.pType = reqPred ∧ gePred.value = reqValue then .ok ()
    else .error (.presFormat s!"Presentation predicate on {reqName} mismatches proposal request")

/-- A restriction with its `attr::` keys popped. -/
def dropAttrKeys (r : Restriction) : Restriction :=
  r.filter fun (k, _) => !"attr::".data.isPrefixOf k.data

/-- The check of the predicate `reft`, proved in the sub-proof
    `subProofIndex`. -/
def checkPredicate (proofReq : ProofRequest) (proof : IndyProof) (reft : String)
    (subProofIndex : Int) : Except PyError Unit := do
  let some proofReqPredSpec := proofReq.requestedPredicates.lookup reft
    | throw (.presFormat s!"Presentation referent {reft} not in proposal request")
  let reqName := proofReqPredSpec.name
  let reqRestrictions := proofReqPredSpec.restrictions.map dropAttrKeys
  let geProofs ← pyIndex proof.proofs subProofIndex
  findGeProof canon predicateGet reqName (predicateGet proofReqPredSpec.pType)
    proofReqPredSpec.pValue geProofs
  let ident ← pyIndex proof.identifiers subProofIndex
  let crit ← criteria ident
  if !restrictionsMet reqRestrictions crit then
    throw (.presFormat (s!"Presented predicate {reft} does not satisfy proof request " ++
      s!"restrictions {pyReprDicts reqRestrictions}"))

/-- `receive_pres(message, pres_ex_record)`: the presentation `proof` of the
    message against the proof request `proofReq` of the exchange. -/
def receivePres (proofReq : ProofRequest) (proof : IndyProof) : Except PyError Unit := do
  proof.requestedProof.revealedAttrs.forM fun (reft, attrSpec) =>
    checkRevealedAttr proofReq proof reft attrSpec
  proof.requestedProof.revealedAttrGroups.forM fun (reft, attrSpec) =>
    checkRevealedAttrGroup proofReq proof reft attrSpec
  proof.requestedProof.predicates.forM fun (reft, subProofIndex) =>
    checkPredicate canon predicateGet proofReq proof reft subProofIndex

/-! ## When a presentation passes -/

/-- The revealed attribute passes: it is requested, by name, and the criteria
    of its sub-proof, with its value, meet the request's restrictions. -/
def AttrPasses (proofReq : ProofRequest) (proof : IndyProof) (reft : String)
    (attrSpec : RevealedAttr) : Prop :=
  ∃ spec name ident crit, proofReq.requestedAttributes.lookup reft = some spec ∧
    spec.name = some name ∧ pyIndex proof.identifiers attrSpec.subProofIndex = .ok ident ∧
    criteria ident = .ok crit ∧
    restrictionsMet spec.restrictions (crit ++ [(s!"attr::{name}::value", attrSpec.raw)])

/-- The revealed group passes: it is requested, and the criteria of its
    sub-proof, with all its values, meet the request's restrictions. -/
def GroupPasses (proofReq : ProofRequest) (proof : IndyProof) (reft : String)
    (attrSpec : RevealedAttrGroup) : Prop :=
  ∃ spec ident crit, proofReq.requestedAttributes.lookup reft = some spec ∧
    pyIndex proof.identifiers attrSpec.subProofIndex = .ok ident ∧ criteria ident = .ok crit ∧
    restrictionsMet spec.restrictions
      (crit ++ attrSpec.values.map fun (name, value) => (s!"attr::{name}::value", value))

/-- The predicate passes: it is requested, the first `ge_proof` of its
    sub-proof on the attribute has the requested predicate and value, and the
    criteria meet the restrictions without their `attr::` keys. -/
def PredicatePasses (proofReq : ProofRequest) (proof : IndyProof) (reft : String)
    (subProofIndex : Int) : Prop :=
  ∃ spec geProofs gePred ident crit, proofReq.requestedPredicates.lookup reft = some spec ∧
    pyIndex proof.proofs subProofIndex = .ok geProofs ∧
    geProofs.find? (fun g => g.attrName = canon spec.name) = some gePred ∧
    predicateGet gePred.pType = predicateGet spec.pType ∧ gePred.value = spec.pValue ∧
    pyIndex proof.identifiers subProofIndex = .ok ident ∧ criteria ident = .ok crit ∧
    restrictionsMet (spec.restrictions.map dropAttrKeys) crit

/-- The loop over the `ge_proofs` passes exactly when the first on the
    attribute has the requested predicate and value. -/
theorem findGeProof_eq_ok {reqName : String} {reqPred : Option π} {reqValue : Int}
    (geProofs : List GePredicate) :
    findGeProof canon predicateGet reqName reqPred reqValue geProofs = .ok () ↔
      ∃ gePred, geProofs.find? (fun g => g.attrName = canon reqName) = some gePred ∧
        predicateGet gePred.pType = reqPred ∧ gePred.value = reqValue := by
  induction geProofs with
  | nil => simp [findGeProof]
  | cons g geProofs ih =>
    by_cases hg : g.attrName = canon reqName
    · by_cases hp : predicateGet g.pType = reqPred ∧ g.value = reqValue <;>
        simp [findGeProof, hg, hp]
    · simp [findGeProof, hg, ih]

theorem checkRevealedAttr_eq_ok {proofReq : ProofRequest} {proof : IndyProof} {reft : String}
    {attrSpec : RevealedAttr} :
    checkRevealedAttr proofReq proof reft attrSpec = .ok () ↔
      AttrPasses proofReq proof reft attrSpec := by
  unfold checkRevealedAttr AttrPasses
  rcases hs : proofReq.requestedAttributes.lookup reft with _ | spec
  · simp only [throw_ne_ok, reduceCtorEq, false_and, exists_false]
  rcases hn : spec.name with _ | name
  · simp only [hn, throw_ne_ok, false_iff]
    rintro ⟨_, _, _, _, ⟨⟩, h, -⟩
    simp [hn] at h
  simp only [hn, bind_eq_ok, throwUnless_eq_ok, Option.some.injEq]
  constructor
  · rintro ⟨ident, hi, crit, hc, hr⟩
    exact ⟨spec, name, ident, crit, rfl, hn, hi, hc, hr⟩
  · rintro ⟨_, name', ident, crit, rfl, h, hi, hc, hr⟩
    rw [hn, Option.some.injEq] at h
    exact ⟨ident, hi, crit, hc, h ▸ hr⟩

theorem checkRevealedAttrGroup_eq_ok {proofReq : ProofRequest} {proof : IndyProof}
    {reft : String} {attrSpec : RevealedAttrGroup} :
    checkRevealedAttrGroup proofReq proof reft attrSpec = .ok () ↔
      GroupPasses proofReq proof reft attrSpec := by
  unfold checkRevealedAttrGroup GroupPasses
  rcases hs : proofReq.requestedAttributes.lookup reft with _ | spec
  · simp only [throw_ne_ok, reduceCtorEq, false_and, exists_false]
  simp only [bind_eq_ok, throwUnless_eq_ok, Option.some.injEq]
  constructor
  · rintro ⟨ident, hi, crit, hc, hr⟩
    exact ⟨spec, ident, crit, rfl, hi, hc, hr⟩
  · rintro ⟨_, ident, crit, rfl, hi, hc, hr⟩
    exact ⟨ident, hi, crit, hc, hr⟩

theorem checkPredicate_eq_ok {proofReq : ProofRequest} {proof : IndyProof} {reft : String}
    {subProofIndex : Int} :
    checkPredicate canon predicateGet proofReq proof reft subProofIndex = .ok () ↔
      PredicatePasses canon predicateGet proofReq proof reft subProofIndex := by
  unfold checkPredicate PredicatePasses
  rcases hs : proofReq.requestedPredicates.lookup reft with _ | spec
  · simp only [throw_ne_ok, reduceCtorEq, false_and, exists_false]
  simp only [bind_eq_ok, Unique.exists_iff, PUnit.default_eq_unit, findGeProof_eq_ok,
    throwUnless_eq_ok, Option.some.injEq]
  constructor
  · rintro ⟨geProofs, hp, ⟨gePred, hf, hq, hv⟩, ident, hi, crit, hc, hr⟩
    exact ⟨spec, geProofs, gePred, ident, crit, rfl, hp, hf, hq, hv, hi, hc, hr⟩
  · rintro ⟨_, geProofs, gePred, ident, crit, rfl, hp, hf, hq, hv, hi, hc, hr⟩
    exact ⟨geProofs, hp, ⟨gePred, hf, hq, hv⟩, ident, hi, crit, hc, hr⟩

/-- A presentation passes exactly when every revealed attribute, every
    revealed group and every predicate passes. -/
theorem receivePres_eq_ok (proofReq : ProofRequest) (proof : IndyProof) :
    receivePres canon predicateGet proofReq proof = .ok () ↔
      (∀ x ∈ proof.requestedProof.revealedAttrs, AttrPasses proofReq proof x.1 x.2) ∧
      (∀ x ∈ proof.requestedProof.revealedAttrGroups, GroupPasses proofReq proof x.1 x.2) ∧
      ∀ x ∈ proof.requestedProof.predicates,
        PredicatePasses canon predicateGet proofReq proof x.1 x.2 := by
  simp only [receivePres, bind_unit_eq_ok, forM_eq_ok, checkRevealedAttr_eq_ok,
    checkRevealedAttrGroup_eq_ok, checkPredicate_eq_ok]

/-! ## Two predicates on one attribute -/

/-- A request for two predicates on the attribute `age`: at least 18, and at
    most 65. -/
def agePredicates : ProofRequest where
  requestedAttributes := []
  requestedPredicates := [("r1", ⟨"age", ">=", 18, []⟩), ("r2", ⟨"age", "<=", 65, []⟩)]

/-- The identifiers of a credential with the attribute `age`. -/
def ageIdentifier : Identifier := ⟨"did:2:person:1.0", "did:3:CL:12:tag"⟩

/-- An honest presentation for `agePredicates`: one credential proves both
    predicates, in one sub-proof with a `ge_proof` for each. -/
def agePresentation : IndyProof where
  requestedProof := ⟨[], [], [("r1", 0), ("r2", 0)]⟩
  identifiers := [ageIdentifier]
  proofs := [[⟨canon "age", ">=", 18⟩, ⟨canon "age", "<=", 65⟩]]

/-- The presentation has legacy identifiers, and its sub-proof has, for each
    requested predicate, a `ge_proof` on the attribute with the requested
    predicate and value, with no restriction to meet; yet `receive_pres`
    raises at the second predicate, as the first `ge_proof` on `age` is
    checked against it. -/
theorem receivePres_two_predicates :
    (∀ ident ∈ (agePresentation canon).identifiers, ident.Legacy) ∧
    (∀ x ∈ (agePresentation canon).requestedProof.predicates, ∃ spec geProofs,
      agePredicates.requestedPredicates.lookup x.1 = some spec ∧
      pyIndex (agePresentation canon).proofs x.2 = .ok geProofs ∧
      (∃ g ∈ geProofs, g.attrName = canon spec.name ∧ g.pType = spec.pType ∧
        g.value = spec.pValue) ∧ spec.restrictions = []) ∧
    receivePres canon predicateGet agePredicates (agePresentation canon) =
      .error (.presFormat "Presentation predicate on age mismatches proposal request") := by
  have hl : ageIdentifier.Legacy := by decide
  obtain ⟨crit, hc⟩ := criteria_of_legacy hl
  refine ⟨fun ident h => ?_, fun x h => ?_, ?_⟩
  · rw [List.mem_singleton.1 h]
    exact hl
  · rcases List.mem_cons.1 h with rfl | h
    · exact ⟨_, _, rfl, rfl, ⟨_, List.mem_cons_self _ _, rfl, rfl, rfl⟩, rfl⟩
    rw [List.mem_singleton.1 h]
    exact ⟨_, _, rfl, rfl, ⟨_, List.mem_cons_of_mem _ (List.mem_singleton_self _), rfl, rfl, rfl⟩,
      rfl⟩
  · simp [receivePres, agePresentation, agePredicates, checkPredicate, findGeProof, pyIndex, hc,
      restrictionsMet, bind, Except.bind, pure, Except.pure, List.forM, List.lookup_cons]
    rfl

end Check

end Acapy
