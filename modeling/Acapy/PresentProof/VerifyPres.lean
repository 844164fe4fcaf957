import Acapy.PresentProof.IndyProof

/-!
# Verifying a presentation

`verify_pres` records as `verified` the verifier's answer, and with it that of
`verify_supplements`, which checks the supplements of the exchange: each must
be a hashlink, with an attachment that carries data, whose hash is the value
of the revealed attribute the supplement names.

The loop reads the id of the attachment as `supplements.ref`, an attribute of
the list of supplements, not of the supplement: a Python list has no `ref`.
So the check stops at the first supplement (`verifySupplements_eq`): it answers
`False` when it is not a hashlink, and raises `AttributeError` when it is, so
that `verify_pres` raises and records nothing
(`verifyPres_hashlink_raises`).

`b64_to_bytes` (`wallet/util.py`) and `Hashlink.verify`
(`issue_credential/v2_0/hashlink.py`) are not under src/: they are parameters.
-/

namespace Acapy

/-! ## Exchange records -/

/-- An attribute of a supplement. -/
structure SupplementAttribute where
  key : String
  value : String
  deriving DecidableEq, Repr

/-- A supplement: its `type`, the id of its attachment (`ref`), and its
    attributes. -/
structure Supplement where
  type : String
  ref : String
  attrs : List SupplementAttribute
  deriving DecidableEq, Repr

/-- An attachment: its `ident`, and its base64 data (`data.base64`). -/
structure AttachDecorator where
  ident : String
  base64 : Option String
  deriving DecidableEq, Repr

/-- `V20PresExRecord`, with the fields the verification reads and writes: the
    indy presentation, the supplements and attachments, and `verified`. -/
structure V20PresExRecord where
  pres : IndyProof
  supplements : Option (List Supplement)
  attach : List AttachDecorator
  verified : Option String
  deriving DecidableEq, Repr

/-! ## The checks -/

/-- The attribute `name` of a Python list: a list has none. -/
def listAttr {α β : Type} (_ : List α) (name : String) : Except PyError β :=
  .error (.attribute s!"\x27list\x27 object has no attribute \x27{name}\x27")

/-- `find_attachment(attatchment_id)`. -/
def findAttachment (attach : List AttachDecorator) (attachmentId : String) :
    Option AttachDecorator :=
  attach.find? (·.ident = attachmentId)

/-- `find_supplement_attr(supplement, key)`. -/
def findSupplementAttr (supplement : Supplement) (key : String) : Option String :=
  (supplement.attrs.find? (·.key = key)).map (·.value)

/-- `d[key]` of a dictionary, for a key that may be `None`. -/
def pyGetItem {α : Type} (d : List (String × α)) : Option String → Except PyError α
  | some key =>
    match d.lookup key with
    | some a => .ok a
    | none => .error (.key key)
  | none => .error (.key "None")

section Verify

-- `b64_to_bytes(data, urlsafe=True)`, and `Hashlink.verify`.
variable {δ : Type} (b64ToBytes : String → Except PyError δ) (hashlinkVerify : String → δ → Bool)

/-- The loop of `verify_supplements` over `rest`, the supplements not yet
    checked of the list `supplements`. -/
def checkSupplements (record : V20PresExRecord) (supplements : List Supplement) :
    List Supplement → Except PyError Bool
  | [] => .ok true
  | supplement :: rest => do
    if supplement.type ≠ "hashlink-data" then return false
    let attachmentId ← listAttr supplements "ref"
    let some attachment := findAttachment record.attach attachmentId
      | return false
    if !truthy attachment.base64 then return false
    let key := findSupplementAttr supplement "field"
    let revealed ← pyGetItem record.pres.requestedProof.revealedAttrs key
    let data ← b64ToBytes (pyStr attachment.base64)
    if hashlinkVerify revealed.raw data then checkSupplements record supplements rest
    else return false

/-- `verify_supplements(pres_ex_record)`. -/
def verifySupplements (record : V20PresExRecord) : Except PyError Bool :=
  let supplements := record.supplements.getD []
  checkSupplements b64ToBytes hashlinkVerify record supplements supplements

/-- `json.dumps` of a truth value. -/
def jsonDumps (b : Bool) : String :=
  if b then "true" else "false"

/-- `verify_pres(pres_ex_record)`, given what the verifier answered (or
    raised), identifiers processed: the record with `verified` set. -/
def verifyPres (record : V20PresExRecord) (verified : Except PyError Bool) :
    Except PyError V20PresExRecord := do
  let verified ← verified
  let validSupplements ← verifySupplements b64ToBytes hashlinkVerify record
  let verified := if verified && !validSupplements then validSupplements else verified
  pure { record with verified := some (jsonDumps verified) }

/-- The message of the `AttributeError` of `supplements.ref`. -/
def noRef : String :=
  "\x27list\x27 object has no attribute \x27ref\x27"

/-- The check answers from the first supplement alone: `True` with none,
    `False` when it is not a hashlink, and otherwise it raises. -/
theorem verifySupplements_eq (record : V20PresExRecord) :
    verifySupplements b64ToBytes hashlinkVerify record =
      match record.supplements.getD [] with
      | [] => .ok true
      | supplement :: _ =>
        if supplement.type = "hashlink-data" then .error (.attribute noRef) else .ok false := by
  unfold verifySupplements
  rcases record.supplements.getD [] with _ | ⟨supplement, rest⟩
  · rfl
  · by_cases h : supplement.type = "hashlink-data"
    · simp [checkSupplements, h, listAttr, bind, Except.bind]
      rfl
    · simp [checkSupplements, h, pure, Except.pure]

/-- What `verify_pres` records, when it returns: the verifier's answer and that
    of the supplements. -/
theorem verifyPres_verified {record record' : V20PresExRecord} {verified : Except PyError Bool}
    (h : verifyPres b64ToBytes hashlinkVerify record verified = .ok record') :
    ∃ v s, verified = .ok v ∧ verifySupplements b64ToBytes hashlinkVerify record = .ok s ∧
      record' = { record with verified := some (jsonDumps (v && s)) } := by
  simp only [verifyPres, bind_eq_ok] at h
  obtain ⟨v, hv, s, hs, h⟩ := h
  refine ⟨v, s, hv, hs, ?_⟩
  cases v <;> cases s <;> simp_all [pure, Except.pure]

/-! ## A hashlink supplement -/

/-- A presentation revealing `name` as `hl`, with a hashlink supplement that
    names it and the attachment `a` with data. -/
def hashlinkRecord (hl : String) : V20PresExRecord where
  pres := ⟨⟨[("name", ⟨hl, 0⟩)], [], []⟩, [], []⟩
  supplements := some [⟨"hashlink-data", "a", [⟨"field", "name"⟩]⟩]
  attach := [⟨"a", some "ZGF0YQ"⟩]
  verified := none

/-- Without its supplements, `hashlinkRecord` is recorded as the verifier
    answered. -/
example :
    verifyPres (fun _ => (.ok () : Except PyError Unit)) (fun _ _ => true)
        { hashlinkRecord "" with supplements := none } (.ok true) =
      .ok { hashlinkRecord "" with supplements := none, verified := some "true" } :=
  rfl

/-- The supplement of `hashlinkRecord` meets every requirement: it is a
    hashlink, its attachment is there with data, and the attribute it names is
    revealed; the hash check is that of `Hashlink.verify` on the value.
    Still, the check raises, and `verify_pres` raises with it. -/
theorem verifyPres_hashlink_raises (hl : String) (verified : Except PyError Bool) :
    (∀ s ∈ (hashlinkRecord hl).supplements.getD [], s.type = "hashlink-data" ∧
      ∃ attachment ∈ (hashlinkRecord hl).attach, attachment.ident = s.ref ∧
        truthy attachment.base64 ∧ ∃ key, findSupplementAttr s "field" = some key ∧
          ((hashlinkRecord hl).pres.requestedProof.revealedAttrs.lookup key).isSome) ∧
    verifySupplements b64ToBytes hashlinkVerify (hashlinkRecord hl) =
      .error (.attribute noRef) ∧
    ∀ record', verifyPres b64ToBytes hashlinkVerify (hashlinkRecord hl) verified ≠ .ok record' := by
  have hs : verifySupplements b64ToBytes hashlinkVerify (hashlinkRecord hl) =
      .error (.attribute noRef) := rfl
  refine ⟨fun s h => ?_, hs, fun record' h => ?_⟩
  · rw [List.mem_singleton.1 h]
    exact ⟨rfl, _, List.mem_singleton_self _, rfl, rfl, "name", rfl, rfl⟩
  cases verified <;> simp [verifyPres, hs, bind, Except.bind] at h

end Verify

end Acapy
