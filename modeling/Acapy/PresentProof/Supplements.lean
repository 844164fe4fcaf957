import Mathlib.Data.List.AList
import Acapy.PresentProof.VerifyPres

/-!
# Supplements and their attachments

A credential's supplements name their attachments by id (`ref`).
`AttachmentDataRecord.match_by_attachment_id(supplements, attachments,
cred_id)` pairs each supplement with the attachment of that id, looked up in
the dictionary `attachment_lookup` builds from ids to attachments, into the
records the holder saves; `get_supplements` reads them back, one per
attribute the holder presents, by credential and attribute name.

* `lookup_attachmentLookup`: the dictionary holds, for an id, the last
  attachment of that id; so it agrees with `find_attachment` of
  `verify_supplements`, which takes the first, exactly as long as no two
  attachments share an id (`attachmentLookup_eq_findAttachment`);
* `matchByAttachmentId_eq_ok`: matching returns one record per supplement, in
  order, exactly when every supplement's attachment is there and the
  supplement has an attribute: the record of the last attachment of its id,
  and of its first attribute; `matchByAttachmentId_eq_error`: otherwise it
  raises `KeyError` for the id, or `IndexError`, at the first supplement that
  fails;
* `getSupplements_eq_ok`: `get_supplements` returns, in order, the record the
  query finds for each attribute presented, asked by its one `name` if the
  request gives one and else by any of its `names`.

`_normalize_attr_name`, `indy_proof_req_preview2indy_requested_creds` and the
record query (`retrieve_by_tag_filter`) are not under src/: they are
parameters.
-/

namespace Acapy

/-! ## Matching supplements and attachments -/

/-- `AttachmentDataRecord`. -/
structure AttachmentDataRecord where
  attachmentId : String
  supplement : Supplement
  attachment : AttachDecorator
  credId : String
  /-- `attribute`: the value of the supplement's first attribute. -/
  attributeValue : String
  deriving DecidableEq, Repr

/-- `attachment_lookup(attachments)`: `{attachment.ident: attachment for
    attachment in attachments}`. -/
def attachmentLookup (attachments : List AttachDecorator) :
    AList (fun _ : String => AttachDecorator) :=
  attachments.foldl (fun ats attachment => ats.insert attachment.ident attachment) ∅

/-- `d[key]` of a dictionary. -/
def dictGet {α : Type} (d : AList (fun _ : String => α)) (key : String) : Except PyError α :=
  match d.lookup key with
  | some a => .ok a
  | none => .error (.key key)

/-- The record `match_by_attachment_id` makes of one supplement, the keyword
    arguments evaluated in order. -/
def matchSupplement (ats : AList (fun _ : String => AttachDecorator)) (credId : String)
    (sup : Supplement) : Except PyError AttachmentDataRecord := do
  let attachment ← dictGet ats sup.ref
  let attr ← pyIndex sup.attrs 0
  pure ⟨sup.ref, sup, attachment, credId, attr.value⟩

/-- `match_by_attachment_id(supplements, attachments, cred_id)`. -/
def matchByAttachmentId (supplements : List Supplement) (attachments : List AttachDecorator)
    (credId : String) : Except PyError (List AttachmentDataRecord) :=
  supplements.mapM (matchSupplement (attachmentLookup attachments) credId)

/-- The dictionary holds, for an id, the last attachment of that id. -/
theorem lookup_attachmentLookup (attachments : List AttachDecorator) (ident : String) :
    (attachmentLookup attachments).lookup ident =
      attachments.reverse.find? (·.ident = ident) := by
  suffices h : ∀ ats : AList (fun _ : String => AttachDecorator),
      (attachments.foldl (fun ats attachment => ats.insert attachment.ident attachment) ats).lookup
        ident = (attachments.reverse.find? (·.ident = ident)).or (ats.lookup ident) by
    simpa using h ∅
  induction attachments with
  | nil => simp
  | cons a attachments ih =>
    intro ats
    rw [List.foldl_cons, ih, List.reverse_cons, List.find?_append]
    by_cases ha : a.ident = ident
    · subst ha
      simp [Option.or_assoc]
    · simp [AList.lookup_insert_ne (Ne.symm ha), ha]

/-- One supplement gives the record of the last attachment of its id and of
    its first attribute, when both are there. -/
theorem matchSupplement_eq_ok {attachments : List AttachDecorator} {credId : String}
    {sup : Supplement} {r : AttachmentDataRecord} :
    matchSupplement (attachmentLookup attachments) credId sup = .ok r ↔
      ∃ attachment attr, attachments.reverse.find? (·.ident = sup.ref) = some attachment ∧
        sup.attrs.head? = some attr ∧ r = ⟨sup.ref, sup, attachment, credId, attr.value⟩ := by
  rw [← lookup_attachmentLookup]
  unfold matchSupplement dictGet
  rcases (attachmentLookup attachments).lookup sup.ref with _ | attachment <;>
    rcases hattrs : sup.attrs with _ | ⟨attr, attrs⟩ <;>
    simp [pyIndex, bind, Except.bind, pure, Except.pure, eq_comm]

/-- One supplement raises `KeyError` for its id when no attachment has it, and
    otherwise `IndexError` when it has no attribute. -/
theorem matchSupplement_eq_error {attachments : List AttachDecorator} {credId : String}
    {sup : Supplement} {e : PyError} :
    matchSupplement (attachmentLookup attachments) credId sup = .error e ↔
      (attachments.reverse.find? (·.ident = sup.ref) = none ∧ e = .key sup.ref) ∨
        ((attachments.reverse.find? (·.ident = sup.ref)).isSome ∧ sup.attrs = [] ∧
          e = .index "list index out of range") := by
  rw [← lookup_attachmentLookup]
  unfold matchSupplement dictGet
  rcases (attachmentLookup attachments).lookup sup.ref with _ | attachment <;>
    rcases hattrs : sup.attrs with _ | ⟨attr, attrs⟩ <;>
    simp [pyIndex, bind, Except.bind, pure, Except.pure, eq_comm]

/-- Matching returns one record per supplement, in order, exactly when every
    supplement's attachment is there and the supplement has an attribute: the
    record of the last attachment of its id, and of its first attribute. -/
theorem matchByAttachmentId_eq_ok {supplements : List Supplement}
    {attachments : List AttachDecorator} {credId : String} {records : List AttachmentDataRecord} :
    matchByAttachmentId supplements attachments credId = .ok records ↔
      List.Forall₂ (fun sup r => ∃ attachment attr,
        attachments.reverse.find? (·.ident = sup.ref) = some attachment ∧
          sup.attrs.head? = some attr ∧ r = ⟨sup.ref, sup, attachment, credId, attr.value⟩)
        supplements records := by
  simp only [matchByAttachmentId, mapM_eq_ok_iff, matchSupplement_eq_ok]

/-- Otherwise matching raises at the first supplement that fails: `KeyError`
    for its id when no attachment has it, or `IndexError` when it has no
    attribute. -/
theorem matchByAttachmentId_eq_error {supplements : List Supplement}
    {attachments : List AttachDecorator} {credId : String} {e : PyError} :
    matchByAttachmentId supplements attachments credId = .error e ↔
      ∃ pre sup post, supplements = pre ++ sup :: post ∧
        (∀ s ∈ pre, (attachments.reverse.find? (·.ident = s.ref)).isSome ∧ s.attrs ≠ []) ∧
        ((attachments.reverse.find? (·.ident = sup.ref) = none ∧ e = .key sup.ref) ∨
          ((attachments.reverse.find? (·.ident = sup.ref)).isSome ∧ sup.attrs = [] ∧
            e = .index "list index out of range")) := by
  have hok (s : Supplement) : (∃ r, matchSupplement (attachmentLookup attachments) credId s = .ok r) ↔
      (attachments.reverse.find? (·.ident = s.ref)).isSome ∧ s.attrs ≠ [] := by
    constructor
    · rintro ⟨r, hr⟩
      obtain ⟨a, attr, ha, hattr, -⟩ := matchSupplement_eq_ok.1 hr
      exact ⟨by rw [ha]; rfl, fun h => by simp [h] at hattr⟩
    · rintro ⟨ha, hattr⟩
      obtain ⟨a, ha⟩ := Option.isSome_iff_exists.1 ha
      obtain ⟨attr, attrs, hattrs⟩ := List.exists_cons_of_ne_nil hattr
      exact ⟨_, matchSupplement_eq_ok.2 ⟨a, attr, ha, by simp [hattrs], rfl⟩⟩
  simp only [matchByAttachmentId, mapM_eq_error_iff, matchSupplement_eq_error, hok]

/-- Where no two attachments share an id, the dictionary finds for an id the
    attachment that `find_attachment` of `verify_supplements` finds; where two
    do, the dictionary keeps the last and `find_attachment` the first. -/
theorem attachmentLookup_eq_findAttachment {attachments : List AttachDecorator}
    (hn : (attachments.map (·.ident)).Nodup) (ident : String) :
    (attachmentLookup attachments).lookup ident = findAttachment attachments ident := by
  rw [lookup_attachmentLookup, findAttachment]
  induction attachments with
  | nil => rfl
  | cons a attachments ih =>
    rw [List.map_cons, List.nodup_cons] at hn
    rw [List.reverse_cons, List.find?_append, ih hn.2, List.find?_cons]
    by_cases ha : a.ident = ident
    · have hnone : attachments.find? (·.ident = ident) = none :=
        List.find?_eq_none.2 fun b hb hbi =>
          hn.1 (List.mem_map.2 ⟨b, hb, by simpa [ha] using hbi⟩)
      simp [ha, hnone]
    · simp [ha]

theorem attachmentLookup_eq_findAttachment_distinct :
    ([(⟨"a", some "x"⟩ : AttachDecorator), ⟨"b", none⟩].map (·.ident)).Nodup ∧
      (attachmentLookup [⟨"a", some "x"⟩, ⟨"b", none⟩]).lookup "a" =
        findAttachment [⟨"a", some "x"⟩, ⟨"b", none⟩] "a" :=
  ⟨by decide, attachmentLookup_eq_findAttachment (by decide) "a"⟩

/-- Two attachments of one id: the record takes the second, the check the
    first. -/
example : (attachmentLookup [⟨"a", some "x"⟩, ⟨"a", some "y"⟩]).lookup "a" = some ⟨"a", some "y"⟩ ∧
    findAttachment [⟨"a", some "x"⟩, ⟨"a", some "y"⟩] "a" = some ⟨"a", some "x"⟩ := by
  decide

/-! ## Reading the records back -/

/-- An entry of `requested_attributes` among the credentials presented: its
    `cred_id`, if it has one. -/
structure PresentedAttribute where
  credId : Option String
  deriving DecidableEq, Repr

/-- An entry of `requested_attributes` in the indy presentation request: its
    `name` and its `names`, if it has them, and how `str` prints it. -/
structure RequestAttr where
  name : Option String
  names : Option (List String)
  text : String
  deriving DecidableEq, Repr

/-- The attribute the records are queried for: one, or any of several
    (`$or`). -/
inductive AttributeQuery
  | one (name : String)
  | any (names : List String)
  deriving DecidableEq, Repr

/-- The exceptions `get_supplements` raises: those of the model, and
    `IndyHolderError`. -/
inductive SupplementsError
  | raised (e : PyError)
  | holder (msg : String)
  deriving DecidableEq, Repr

/-- Wrapping an exception changes no result. -/
@[simp] theorem mapError_eq_ok {ε ε' α : Type} {f : ε → ε'} {x : Except ε α} {a : α} :
    x.mapError f = .ok a ↔ x = .ok a := by
  cases x <;> simp [Except.mapError]

/-- A wrapped exception comes from an exception. -/
@[simp] theorem mapError_eq_error {ε ε' α : Type} {f : ε → ε'} {x : Except ε α} {e' : ε'} :
    x.mapError f = .error e' ↔ ∃ e, x = .error e ∧ f e = e' := by
  cases x <;> simp [Except.mapError]

section GetSupplements

-- `_normalize_attr_name(name)`, and
-- `AttachmentDataRecord.query_by_cred_id_attribute(session, cred_id, attribute)`.
variable (normalizeAttrName : String → String)
  (queryByCredIdAttribute : String → AttributeQuery → Except PyError AttachmentDataRecord)

/-- The query for an entry of the request: by its `name` if it has one, and
    else by any of its `names`. -/
def RequestAttr.query (attr : RequestAttr) : Except SupplementsError AttributeQuery :=
  match attr.name, attr.names with
  | some name, _ => .ok (.one (normalizeAttrName name))
  | none, some names => .ok (.any (names.map normalizeAttrName))
  | none, none => .error (.holder s!"Unknown presentation request attr: {attr.text}")

/-- The body of the loop of `get_supplements`, for the attribute presented
    under `attrReferent`, given the `requested_attributes` of the indy request
    (`none` when it has none). -/
def supplementFor (requested : Option (List (String × RequestAttr))) (attrReferent : String)
    (value : PresentedAttribute) : Except SupplementsError AttachmentDataRecord := do
  let some credId := value.credId | throw (.raised (.key "cred_id"))
  let some requested := requested | throw (.raised (.key "requested_attributes"))
  let some attr := requested.lookup attrReferent
    | throw (.holder s!"Unknown presentation request referent: {attrReferent}")
  let attributeName ← attr.query normalizeAttrName
  (queryByCredIdAttribute credId attributeName).mapError .raised

/-- `get_supplements(pres_ex_record, request_data)`, given the
    `requested_attributes` of `request_data` (`none` when `request_data` is
    empty), the `requested_attributes` of the credentials the holder chooses
    otherwise (or what it raised), and the `requested_attributes` of the indy
    request in `by_format["pres_request"]` (`none` when it has none, or what
    the read raised). -/
def getSupplements (requestData : Option (List (String × PresentedAttribute)))
    (holderChoice : Except PyError (List (String × PresentedAttribute)))
    (presRequest : Except PyError (Option (List (String × RequestAttr)))) :
    Except SupplementsError (List AttachmentDataRecord) := do
  let requestedAttributes ← match requestData, holderChoice with
    | some requestedAttributes, _ => pure requestedAttributes
    | none, .ok requestedAttributes => pure requestedAttributes
    | none, .error (.value err) =>
      throw (.raised (.presFormat s!"No matching Indy credentials found: {err}"))
    | none, .error e => throw (.raised e)
  let requested ← presRequest.mapError .raised
  requestedAttributes.mapM fun (attrReferent, value) =>
    supplementFor normalizeAttrName queryByCredIdAttribute requested attrReferent value

/-- The record for one attribute presented is what the query finds for its
    credential and the entry of the request under its referent. -/
theorem supplementFor_eq_ok {requested : Option (List (String × RequestAttr))}
    {attrReferent : String} {value : PresentedAttribute} {r : AttachmentDataRecord} :
    supplementFor normalizeAttrName queryByCredIdAttribute requested attrReferent value = .ok r ↔
      ∃ credId req attr q, value.credId = some credId ∧ requested = some req ∧
        req.lookup attrReferent = some attr ∧ attr.query normalizeAttrName = .ok q ∧
        queryByCredIdAttribute credId q = .ok r := by
  unfold supplementFor
  rcases value.credId with _ | credId
  · simp only [throw, throwThe, MonadExceptOf.throw, reduceCtorEq, false_and, exists_false]
  rcases requested with _ | req
  · simp only [throw, throwThe, MonadExceptOf.throw, reduceCtorEq, false_and, and_false,
      exists_false]
  simp only [throw, throwThe, MonadExceptOf.throw, Option.some.injEq, exists_and_left,
    exists_eq_left', true_and]
  split
  · rename_i attr hl
    simp only [hl, bind_eq_ok, mapError_eq_ok, Option.some.injEq, exists_and_left,
      exists_eq_left']
  · rename_i hl
    simp only [reduceCtorEq, false_iff, not_exists, not_and]
    exact fun attr h => absurd h (hl attr)

/-- `get_supplements` returns, in order, one record per attribute presented:
    what the query finds for its credential and the attribute the request
    names under its referent. The attributes presented are those of
    `request_data` when it is given, and else those the holder chose. -/
theorem getSupplements_eq_ok {requestData : Option (List (String × PresentedAttribute))}
    {holderChoice : Except PyError (List (String × PresentedAttribute))}
    {presRequest : Except PyError (Option (List (String × RequestAttr)))}
    {records : List AttachmentDataRecord} :
    getSupplements normalizeAttrName queryByCredIdAttribute requestData holderChoice presRequest =
        .ok records ↔
      ∃ presented requested,
        (requestData = some presented ∨ requestData = none ∧ holderChoice = .ok presented) ∧
        presRequest = .ok requested ∧
        List.Forall₂ (fun (p : String × PresentedAttribute) r => ∃ credId req attr q,
          p.2.credId = some credId ∧ requested = some req ∧ req.lookup p.1 = some attr ∧
            attr.query normalizeAttrName = .ok q ∧ queryByCredIdAttribute credId q = .ok r)
          presented records := by
  have hloop (presented : List (String × PresentedAttribute)) requested :
      (presented.mapM fun (attrReferent, value) =>
          supplementFor normalizeAttrName queryByCredIdAttribute requested attrReferent value) =
        .ok records ↔
      List.Forall₂ (fun (p : String × PresentedAttribute) r => ∃ credId req attr q,
          p.2.credId = some credId ∧ requested = some req ∧ req.lookup p.1 = some attr ∧
            attr.query normalizeAttrName = .ok q ∧ queryByCredIdAttribute credId q = .ok r)
        presented records := by
    simp only [mapM_eq_ok_iff, ← supplementFor_eq_ok]
  unfold getSupplements
  rcases requestData with _ | presented
  · rcases holderChoice with e | presented
    · simp only [bind_eq_ok, reduceCtorEq, false_and, or_false, false_or, and_false,
        exists_false, iff_false, not_exists, not_and]
      intro h
      split at h <;> contradiction
    · simp only [bind_eq_ok, pure, Except.pure, Except.ok.injEq, mapError_eq_ok, hloop,
        reduceCtorEq, false_or, true_and, exists_eq_left', exists_and_left]
  · simp only [bind_eq_ok, pure, Except.pure, Except.ok.injEq, mapError_eq_ok, hloop,
      Option.some.injEq, reduceCtorEq, false_and, or_false, exists_eq_left', exists_and_left]

end GetSupplements

end Acapy
