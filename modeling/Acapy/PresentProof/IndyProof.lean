import Acapy.Basic
import Mathlib.Data.List.Defs

/-!
# Indy proof requests and presentations

The present-proof handler of the indy format
(`protocols/present_proof/v2_0/formats/indy/handler.py`) reads the proof
request of an exchange and the presentation that answers it, both JSON
objects. They are modelled with the keys the handler reads: a key it reads
with `d[k]` is a field, so that a value of these types has every key the
handler reads; a key it reads with `d.get(k, default)` holds the default when
it is absent. A dictionary is the list of its items, in order.

* `criteria`: the tag values a credential is checked against, from the
  schema and credential definition ids of its sub-proof; the ids are cut at
  their colons, and an id with too few parts raises `IndexError`
  (`criteria_of_legacy`);
* `itemsLe`: `r.items() <= criteria.items()` of two dictionaries.
-/

namespace Acapy

/-! ## Python text -/

/-- `s.split(sep)`. -/
def pySplit (s : String) (sep : Char) : List String :=
  (s.data.splitOn sep).map String.mk

/-- The single quote. -/
def apostrophe : Char := Char.ofNat 39

/-- Two lowercase hexadecimal digits. -/
def hex2 (n : Nat) : String :=
  ⟨[Nat.digitChar (n / 16 % 16), Nat.digitChar (n % 16)]⟩

/-- A character of a string in Python's `repr`, quoted with `q`. -/
def pyEscape (q c : Char) : String :=
  if c = '\\' then "\\\\"
  else if c = q then "\\" ++ q.toString
  else if c = '\n' then "\\n"
  else if c = '\r' then "\\r"
  else if c = '\t' then "\\t"
  else if c.toNat < 32 ∨ c.toNat = 127 then "\\x" ++ hex2 c.toNat
  else c.toString

/-- Python's `repr` of a string: in single quotes, or in double quotes when it
    holds a single quote and no double quote; the quote, the backslash and the
    ASCII control characters are escaped. -/
def pyReprStr (s : String) : String :=
  let q := if s.data.contains apostrophe && !s.data.contains '"' then '"' else apostrophe
  q.toString ++ String.join (s.data.map (pyEscape q)) ++ q.toString

/-- Python's `repr` of a dictionary of strings. -/
def pyReprDict (d : List (String × String)) : String :=
  "\x7b" ++ ", ".intercalate (d.map fun (k, v) => pyReprStr k ++ ": " ++ pyReprStr v) ++ "\x7d"

/-- Python's `repr` of a list of dictionaries of strings. -/
def pyReprDicts (ds : List (List (String × String))) : String :=
  "[" ++ ", ".intercalate (ds.map pyReprDict) ++ "]"

/-! ## Proof requests -/

/-- A restriction of a proof request: the tag values a credential must have. -/
abbrev Restriction := List (String × String)

/-- A requested attribute: its `name`, which a group of attributes has not (it
    has `names`), and its restrictions (`.get("restrictions", {})`). -/
structure RequestedAttribute where
  name : Option String
  restrictions : List Restriction
  deriving DecidableEq, Repr

/-- A requested predicate: `name`, `p_type`, `p_value`, and its restrictions. -/
structure RequestedPredicate where
  name : String
  pType : String
  pValue : Int
  restrictions : List Restriction
  deriving DecidableEq, Repr

/-- An indy proof request: its requested attributes and predicates, by
    referent. -/
structure ProofRequest where
  requestedAttributes : List (String × RequestedAttribute)
  requestedPredicates : List (String × RequestedPredicate)
  deriving DecidableEq, Repr

/-! ## Presentations -/

/-- A revealed attribute: its `raw` value and its `sub_proof_index`. -/
structure RevealedAttr where
  raw : String
  subProofIndex : Int
  deriving DecidableEq, Repr

/-- A revealed group of attributes: the `raw` value of each, by name, and its
    `sub_proof_index`. -/
structure RevealedAttrGroup where
  values : List (String × String)
  subProofIndex : Int
  deriving DecidableEq, Repr

/-- `requested_proof`: the revealed attributes and groups
    (`.get("revealed_attr_groups", {})`), and the `sub_proof_index` of each
    predicate, by referent. -/
structure RequestedProof where
  revealedAttrs : List (String × RevealedAttr)
  revealedAttrGroups : List (String × RevealedAttrGroup)
  predicates : List (String × Int)
  deriving DecidableEq, Repr

/-- An entry of `identifiers`: the ids of the schema and the credential
    definition of a sub-proof. -/
structure Identifier where
  schemaId : String
  credDefId : String
  deriving DecidableEq, Repr

/-- The `predicate` of a `ge_proof`. -/
structure GePredicate where
  attrName : String
  pType : String
  value : Int
  deriving DecidableEq, Repr

/-- An indy proof: `requested_proof`, `identifiers`, and for each sub-proof of
    `proof.proofs` the predicates of its `primary_proof.ge_proofs`. -/
structure IndyProof where
  requestedProof : RequestedProof
  identifiers : List Identifier
  proofs : List (List GePredicate)
  deriving DecidableEq, Repr

/-! ## Criteria -/

/-- The tag values of the credential of a sub-proof, from its identifiers, as
    the items of the dictionary the handler builds. -/
def criteria (ident : Identifier) : Except PyError (List (String × String)) := do
  let schemaIssuerDid ← pyIndex (pySplit ident.schemaId ':') (-4)
  let schemaName ← pyIndex (pySplit ident.schemaId ':') (-2)
  let schemaVersion ← pyIndex (pySplit ident.schemaId ':') (-1)
  let issuerDid ← pyIndex (pySplit ident.credDefId ':') (-5)
  pure [("schema_id", ident.schemaId), ("schema_issuer_did", schemaIssuerDid),
    ("schema_name", schemaName), ("schema_version", schemaVersion),
    ("cred_def_id", ident.credDefId), ("issuer_did", issuerDid)]

/-- The identifiers are in the legacy form: the schema id has four parts or
    more, the credential definition id five or more. -/
def Identifier.Legacy (ident : Identifier) : Prop :=
  4 ≤ (pySplit ident.schemaId ':').length ∧ 5 ≤ (pySplit ident.credDefId ':').length

instance (ident : Identifier) : Decidable ident.Legacy :=
  inferInstanceAs (Decidable (_ ∧ _))

theorem pyIndex_neg_isOk {α : Type} (xs : List α) (k : Nat) (hk : 0 < k) (h : k ≤ xs.length) :
    ∃ x, pyIndex xs (-k) = .ok x := by
  have hj : (-(k : Int) + xs.length).toNat < xs.length := by omega
  refine ⟨xs[(-(k : Int) + xs.length).toNat], ?_⟩
  simp only [pyIndex]
  rw [if_pos (by omega), if_pos (by omega), List.getElem?_eq_getElem hj]

/-- The criteria of legacy identifiers are found. -/
theorem criteria_of_legacy {ident : Identifier} (h : ident.Legacy) :
    ∃ crit, criteria ident = .ok crit := by
  obtain ⟨a, ha⟩ := pyIndex_neg_isOk (pySplit ident.schemaId ':') 4 (by omega) h.1
  obtain ⟨b, hb⟩ := pyIndex_neg_isOk (pySplit ident.schemaId ':') 2 (by omega)
    (by have := h.1; omega)
  obtain ⟨c, hc⟩ := pyIndex_neg_isOk (pySplit ident.schemaId ':') 1 (by omega)
    (by have := h.1; omega)
  obtain ⟨d, hd⟩ := pyIndex_neg_isOk (pySplit ident.credDefId ':') 5 (by omega) h.2
  push_cast at ha hb hc hd
  exact ⟨[("schema_id", ident.schemaId), ("schema_issuer_did", a), ("schema_name", b),
    ("schema_version", c), ("cred_def_id", ident.credDefId), ("issuer_did", d)],
    by simp [criteria, ha, hb, hc, hd, bind, Except.bind, pure, Except.pure]⟩

/-- `r.items() <= criteria.items()`: the restriction has no more items than the
    criteria, and each of its items is one of theirs. -/
def itemsLe (r crit : List (String × String)) : Bool :=
  r.length ≤ crit.length && r.all (· ∈ crit)

/-- The restrictions are met: there are none, or the criteria hold every item
    of one of them. -/
def restrictionsMet (restrictions : List Restriction) (crit : List (String × String)) : Bool :=
  restrictions.any (itemsLe · crit) || restrictions.length = 0

end Acapy
