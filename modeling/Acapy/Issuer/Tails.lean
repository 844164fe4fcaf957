import Acapy.Basic

/-!
# Tails files

A revocation registry's tails file is published at a URI built from the
setting `tails_server_base_url` and the file's hash (`get_public_tails_uri`),
checked to be a URL (`_check_url`), and uploaded from the local tails
directory to the tails server (`upload_tails_file`), which answers where it
stored it.

* `getPublicTailsUri_eq_ok`: the URI is the base URL without its trailing
  slashes, a slash, and the hash, when the base URL is set and the URI parses
  with a scheme, a host and a path; so trailing slashes on the base URL change
  nothing (`getPublicTailsUri_append_slash`);
* `uploadTailsFile_eq_ok`: the upload returns exactly when a tails server is
  configured, the local file exists, and the server reports success at the
  definition's tails location;
* `uploadTailsFile_result`: the two messages raised after the upload are
  f-strings only in their first half, so they end with the text `{result}`,
  whatever the server answered: its answer never reaches the message.

`urlparse`, `Path.is_file`, the tails directory and the tails server are not
under src/: they are parameters.
-/

namespace Acapy

/-- `RevRegDef`, with the fields the tails code reads: `cred_def_id`,
    `value.tails_hash` and `value.tails_location`. -/
structure RevRegDefTails where
  credDefId : String
  tailsHash : String
  tailsLocation : String
  deriving DecidableEq, Repr

/-! ## The public URI -/

/-- `s.rstrip(c)`, for one character `c`. -/
def rstrip (s : String) (c : Char) : String :=
  ⟨(s.data.reverse.dropWhile (· = c)).reverse⟩

/-- A character `c` at the end changes nothing to `rstrip`. -/
@[simp] theorem rstrip_push (s : String) (c : Char) : rstrip (s.push c) c = rstrip s c := by
  simp [rstrip, String.push]

/-- After `rstrip`, the text does not end with the character stripped. -/
theorem getLast_rstrip (s : String) (c : Char) : (rstrip s c).data.getLast? ≠ some c := by
  rw [rstrip, List.getLast?_reverse]
  intro h
  have := List.head?_dropWhile_not (· = c) s.data.reverse
  simp_all

/-- The parts of a URL that `_check_url` reads from `urlparse`. -/
structure ParsedUrl where
  scheme : String
  netloc : String
  path : String
  deriving DecidableEq, Repr

section Uri

-- `urlparse(url)`.
variable (urlparse : String → ParsedUrl)

/-- `_check_url(url)`. -/
def checkUrl (url : String) : Except PyError Unit :=
  let parsed := urlparse url
  if parsed.scheme ≠ "" ∧ parsed.netloc ≠ "" ∧ parsed.path ≠ "" then .ok ()
  else .error (.registration s!"URI {url} is not a valid URL")

/-- `get_public_tails_uri(rev_reg_def)`, given the setting
    `tails_server_base_url`. -/
def getPublicTailsUri (tailsServerBaseUrl : Option String) (revRegDef : RevRegDefTails) :
    Except PyError String := do
  if !truthy tailsServerBaseUrl then
    throw (.registration "tails_server_base_url not configured")
  let publicTailsUri := rstrip (pyStr tailsServerBaseUrl) '/' ++ "/" ++ revRegDef.tailsHash
  checkUrl urlparse publicTailsUri
  pure publicTailsUri

/-- The URI is the base URL without its trailing slashes, a slash and the
    hash, when the base URL is set and the URI has a scheme, a host and a
    path. -/
theorem getPublicTailsUri_eq_ok {tailsServerBaseUrl : Option String} {revRegDef : RevRegDefTails}
    {uri : String} :
    getPublicTailsUri urlparse tailsServerBaseUrl revRegDef = .ok uri ↔
      truthy tailsServerBaseUrl ∧
        uri = rstrip (pyStr tailsServerBaseUrl) '/' ++ "/" ++ revRegDef.tailsHash ∧
        (urlparse uri).scheme ≠ "" ∧ (urlparse uri).netloc ≠ "" ∧ (urlparse uri).path ≠ "" := by
  unfold getPublicTailsUri checkUrl
  by_cases h : truthy tailsServerBaseUrl
  · simp only [h, Bool.not_true, Bool.false_eq_true, if_false, true_and]
    split_ifs with hc
    · simp only [bind, Except.bind, pure, Except.pure, Except.ok.injEq]
      constructor
      · rintro rfl
        exact ⟨rfl, hc⟩
      · rintro ⟨rfl, -⟩
        rfl
    · simp only [bind, Except.bind, pure, Except.pure, reduceCtorEq, false_iff, not_and]
      rintro rfl
      exact fun h₁ h₂ h₃ => hc ⟨h₁, h₂, h₃⟩
  · simp [h, throw, throwThe, MonadExceptOf.throw, bind, Except.bind]

/-- Trailing slashes on the base URL change nothing. -/
theorem getPublicTailsUri_append_slash {base : String} (hb : base ≠ "")
    (revRegDef : RevRegDefTails) :
    getPublicTailsUri urlparse (some (base.push '/')) revRegDef =
      getPublicTailsUri urlparse (some base) revRegDef := by
  have hp : base.push '/' ≠ "" := fun h => by simpa [String.push] using congrArg String.data h
  simp only [getPublicTailsUri, truthy, pyStr, rstrip_push, ne_eq, hp, hb, not_false_eq_true,
    decide_True, Bool.not_true]

theorem getPublicTailsUri_append_slash_tails :
    "https://tails.example.org" ≠ "" ∧
      getPublicTailsUri (fun _ => ⟨"https", "tails.example.org", "/H"⟩)
          (some ("https://tails.example.org".push '/')) ⟨"CD", "H", "https://tails.example.org/H"⟩ =
        getPublicTailsUri (fun _ => ⟨"https", "tails.example.org", "/H"⟩)
          (some "https://tails.example.org") ⟨"CD", "H", "https://tails.example.org/H"⟩ :=
  ⟨by decide, getPublicTailsUri_append_slash _ (by decide) _⟩

end Uri

/-! ## The upload -/

/-- `os.path.join(a, b)`: `b` when it is absolute, and otherwise `a` and `b`
    with one slash between them. -/
def osPathJoin (a b : String) : String :=
  if b.startsWith "/" then b else if a = "" ∨ a.endsWith "/" then a ++ b else a ++ "/" ++ b

section Upload

-- `indy_client_dir("tails", create=False)`; `Path(path).is_file()`; and the tails server's
-- `upload_tails_file(context, tails_hash, path, ...)`, or `none` when none is configured.
variable (tailsDir : String) (isFile : String → Bool)

/-- `get_local_tails_path(rev_reg_def)`. -/
def getLocalTailsPath (revRegDef : RevRegDefTails) : String :=
  osPathJoin tailsDir revRegDef.tailsHash

/-- `upload_tails_file(rev_reg_def)`. The two messages after the upload are an
    f-string followed by a plain string, whose `{result}` stays as it is. -/
def uploadTailsFile (tailsServer : Option (String → String → Except PyError (Bool × String)))
    (revRegDef : RevRegDefTails) : Except PyError Unit := do
  let some upload := tailsServer | throw (.issuer "Tails server not configured")
  if !isFile (getLocalTailsPath tailsDir revRegDef) then
    throw (.issuer "Local tails file not found")
  let (uploadSuccess, result) ← upload revRegDef.tailsHash (getLocalTailsPath tailsDir revRegDef)
  if !uploadSuccess then
    throw (.issuer (s!"Tails file for rev reg for {revRegDef.credDefId} " ++
      "failed to upload: {result}"))
  if revRegDef.tailsLocation ≠ result then
    throw (.issuer (s!"Tails file for rev reg for {revRegDef.credDefId} " ++
      "uploaded to wrong location: {result}"))

/-- The upload returns exactly when a tails server is configured, the local
    tails file exists, and the server reports success at the definition's
    tails location. -/
theorem uploadTailsFile_eq_ok
    {tailsServer : Option (String → String → Except PyError (Bool × String))}
    {revRegDef : RevRegDefTails} :
    uploadTailsFile tailsDir isFile tailsServer revRegDef = .ok () ↔
      ∃ upload, tailsServer = some upload ∧ isFile (getLocalTailsPath tailsDir revRegDef) ∧
        upload revRegDef.tailsHash (getLocalTailsPath tailsDir revRegDef) =
          .ok (true, revRegDef.tailsLocation) := by
  unfold uploadTailsFile
  rcases tailsServer with _ | upload
  · simp [throw, throwThe, MonadExceptOf.throw]
  cases hf : isFile (getLocalTailsPath tailsDir revRegDef)
  · simp [throw, throwThe, MonadExceptOf.throw, bind, Except.bind]
  rcases hu : upload revRegDef.tailsHash (getLocalTailsPath tailsDir revRegDef) with e | ⟨_ | _, r⟩
  · simp [hu, throw, throwThe, MonadExceptOf.throw, bind, Except.bind, pure, Except.pure]
  · simp [hu, throw, throwThe, MonadExceptOf.throw, bind, Except.bind, pure, Except.pure]
  · by_cases hr : revRegDef.tailsLocation = r
    · simp [hu, hr, bind, Except.bind, pure, Except.pure]
    · simp [hu, hr, throw, throwThe, MonadExceptOf.throw, bind, Except.bind, pure, Except.pure,
        Ne.symm hr]

/-- What the server answers reaches no message: two answers that agree on
    success, and on whether they name the tails location, give the same
    outcome. -/
theorem uploadTailsFile_result (revRegDef : RevRegDefTails)
    {upload upload' : String → String → Except PyError (Bool × String)} {b : Bool}
    {r r' : String}
    (hu : upload revRegDef.tailsHash (getLocalTailsPath tailsDir revRegDef) = .ok (b, r))
    (hu' : upload' revRegDef.tailsHash (getLocalTailsPath tailsDir revRegDef) = .ok (b, r'))
    (hr : r = revRegDef.tailsLocation ↔ r' = revRegDef.tailsLocation) :
    uploadTailsFile tailsDir isFile (some upload) revRegDef =
      uploadTailsFile tailsDir isFile (some upload') revRegDef := by
  unfold uploadTailsFile
  cases isFile (getLocalTailsPath tailsDir revRegDef)
  · rfl
  simp only [hu, hu']
  cases b
  · rfl
  · have hr' : revRegDef.tailsLocation = r ↔ revRegDef.tailsLocation = r' := by
      rw [eq_comm, hr, eq_comm]
    simp [bind, Except.bind, hr']

theorem uploadTailsFile_result_failed :
    ("disk full" = "https://tails/H" ↔ "timeout" = "https://tails/H") ∧
      uploadTailsFile "/tails" (fun _ => true) (some fun _ _ => .ok (false, "disk full"))
          ⟨"CD", "H", "https://tails/H"⟩ =
        uploadTailsFile "/tails" (fun _ => true) (some fun _ _ => .ok (false, "timeout"))
          ⟨"CD", "H", "https://tails/H"⟩ :=
  ⟨by decide, uploadTailsFile_result "/tails" (fun _ => true) _ rfl rfl (by decide)⟩

/-- The server said why it failed; the message does not. -/
example : uploadTailsFile "/tails" (fun _ => true) (some fun _ _ => .ok (false, "timeout"))
    ⟨"CD", "H", "https://tails/H"⟩ =
      .error (.issuer "Tails file for rev reg for CD failed to upload: {result}") := rfl

end Upload

end Acapy
