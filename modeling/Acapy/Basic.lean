import Mathlib.Data.Finset.Sort
import Mathlib.Data.Nat.Digits

/-!
# Exceptions and Python's `sorted` and `max`

The issuer code of `anoncreds/issuer.py` and the registry manager of
`revocation/anoncreds.py` report every failure by raising. A modelled call
returns `Except PyError _`: the exception it raised, with the text the code
gives it, or its value.

Python sets of integers are `Finset Int`; `sorted` turns one into the
ascending list the code stores (`used_ids`) or returns (`failed`). It goes
through the structural `List.insertionSort`, so that it evaluates by `decide`.
-/

namespace Acapy

/-- The error codes of `AskarError` the store raises by itself. -/
inductive AskarErrorCode
  /-- An `insert` under a name that is taken. -/
  | duplicate
  /-- A `replace` or `remove` of a missing entry. -/
  | notFound
  /-- A failure of the backend (a lost connection, a failed commit). -/
  | backend
  deriving DecidableEq, Repr

/-- The exceptions the modelled code raises. -/
inductive PyError
  /-- `AskarError`, from the store. -/
  | askar (code : AskarErrorCode)
  /-- `AnoncredsError`, from the anoncreds library. -/
  | anoncreds
  /-- `AnonCredsIssuerError`. -/
  | issuer (msg : String)
  /-- `AnonCredsIssuerRevocationRegistryFullError`. -/
  | registryFull (msg : String)
  /-- `RevocationError`. -/
  | revocation (msg : String)
  /-- `RevocationNotSupportedError`. -/
  | revocationNotSupported (msg : String)
  /-- `RevocationRegistryBadSizeError`. -/
  | badSize (msg : String)
  /-- `StorageNotFoundError`. -/
  | storageNotFound (msg : String)
  /-- `StorageDuplicateError`. -/
  | storageDuplicate (msg : String)
  /-- `AttributeError`. -/
  | attribute (msg : String)
  /-- `KeyError`. -/
  | key (msg : String)
  /-- `IndexError`. -/
  | index (msg : String)
  /-- `ValueError`. -/
  | value (msg : String)
  /-- `TypeError`. -/
  | typeError (msg : String)
  /-- `AnonCredsResolutionError`. -/
  | resolution (msg : String)
  /-- `AnonCredsRegistrationError`. -/
  | registration (msg : String)
  /-- `V20PresFormatHandlerError`. -/
  | presFormat (msg : String)
  /-- An exception raised by an external collaborator: a resolver, a
      registrar, the tails server or the event bus. -/
  | external
  deriving DecidableEq, Repr

/-- Python's truth value of an optional string. -/
def truthy : Option String → Bool
  | some s => s ≠ ""
  | none => false

/-- `str(x)` of an optional string. -/
def pyStr : Option String → String
  | some s => s
  | none => "None"

/-- `a or b` of two optional strings. -/
def pyOr (a b : Option String) : Option String :=
  if truthy a then a else b

/-- `xs[i]` of a Python list: a negative index counts from the end. -/
def pyIndex {α : Type} (xs : List α) (i : Int) : Except PyError α :=
  let j := if i < 0 then i + xs.length else i
  match if 0 ≤ j then xs[j.toNat]? else none with
  | some x => .ok x
  | none => .error (.index "list index out of range")

/-- A block under `except AskarError: raise AnonCredsIssuerError(msg)`. -/
def wrapAskar {α : Type} (msg : String) : Except PyError α → Except PyError α
  | .error (.askar _) => .error (.issuer msg)
  | r => r

/-- A block under `except AnoncredsError: raise AnonCredsIssuerError(msg)`. -/
def wrapAnoncreds {α : Type} (msg : String) : Except PyError α → Except PyError α
  | .error .anoncreds => .error (.issuer msg)
  | r => r

@[simp] theorem wrapAskar_ok {α : Type} (msg : String) (a : α) :
    wrapAskar msg (.ok a) = .ok a := rfl

@[simp] theorem wrapAnoncreds_ok {α : Type} (msg : String) (a : α) :
    wrapAnoncreds msg (.ok a) = .ok a := rfl

@[simp] theorem wrapAskar_eq_ok {α : Type} {msg : String} {r : Except PyError α} {a : α} :
    wrapAskar msg r = .ok a ↔ r = .ok a := by
  cases r with
  | error e => cases e <;> simp [wrapAskar]
  | ok => simp [wrapAskar]

@[simp] theorem wrapAnoncreds_eq_ok {α : Type} {msg : String} {r : Except PyError α} {a : α} :
    wrapAnoncreds msg r = .ok a ↔ r = .ok a := by
  cases r with
  | error e => cases e <;> simp [wrapAnoncreds]
  | ok => simp [wrapAnoncreds]

/-- A load that can only fail with `AnoncredsError` fails, under the wrapper,
    with the wrapper's message. -/
theorem wrapAnoncreds_eq_error {α : Type} {msg : String} {r : Except PyError α} {e : PyError}
    (h : wrapAnoncreds msg r = .error e) (hr : ∀ e', r = .error e' → e' = .anoncreds) :
    e = .issuer msg := by
  cases r with
  | error e' =>
    obtain rfl := hr e' rfl
    simp_all [wrapAnoncreds]
  | ok => simp [wrapAnoncreds] at h

/-- `if not x: raise AnonCredsIssuerError(msg)`, for a value that may be `None`. -/
def required {α : Type} (msg : String) : Option α → Except PyError α
  | some a => .ok a
  | none => .error (.issuer msg)

@[simp] theorem required_eq_ok {α : Type} {msg : String} {x : Option α} {a : α} :
    required msg x = .ok a ↔ x = some a := by
  cases x <;> simp [required]

@[simp] theorem bind_eq_ok {ε α β : Type} {x : Except ε α} {f : α → Except ε β} {b : β} :
    x >>= f = .ok b ↔ ∃ a, x = .ok a ∧ f a = .ok b := by
  cases x <;> simp [bind, Except.bind]

/-- A block after a statement that returns nothing. -/
theorem bind_unit_eq_ok {ε β : Type} {x : Except ε Unit} {y : Except ε β} {b : β} :
    (x >>= fun _ => y) = .ok b ↔ x = .ok () ∧ y = .ok b := by
  cases x <;> simp [bind, Except.bind]

theorem bind_eq_error {ε α β : Type} {x : Except ε α} {f : α → Except ε β} {e : ε} :
    x >>= f = .error e ↔ x = .error e ∨ ∃ a, x = .ok a ∧ f a = .error e := by
  cases x <;> simp [bind, Except.bind]

/-- A `raise` never returns. -/
theorem throw_ne_ok {ε α : Type} {e : ε} {a : α} : (throw e : Except ε α) ≠ .ok a :=
  nofun

/-- A guard `if not b: raise e` passes exactly when `b` holds. -/
theorem throwUnless_eq_ok {ε : Type} {b : Bool} {e : ε} :
    ((if !b then throw e else pure ()) : Except ε Unit) = .ok () ↔ b = true := by
  cases b <;> simp [throw, throwThe, MonadExceptOf.throw, pure, Except.pure]

theorem required_eq_error {α : Type} {msg : String} {x : Option α} {e : PyError}
    (h : required msg x = .error e) : e = .issuer msg := by
  cases x <;> simp_all [required]

theorem mapM_eq_ok {ε α β : Type} {f : α → Except ε β} {l : List α} {ys : List β}
    (h : l.mapM f = .ok ys) : ∀ x ∈ l, ∃ y, f x = .ok y := by
  induction l generalizing ys with
  | nil => simp
  | cons x l ih =>
    simp only [List.mapM_cons, bind_eq_ok] at h
    obtain ⟨y, hy, zs, hzs, -⟩ := h
    simpa [hy] using ih hzs

/-- A loop returns exactly when every iteration returns, each with its value. -/
theorem mapM_eq_ok_iff {ε α β : Type} {f : α → Except ε β} {l : List α} {ys : List β} :
    l.mapM f = .ok ys ↔ List.Forall₂ (fun x y => f x = .ok y) l ys := by
  induction l generalizing ys with
  | nil =>
    rw [List.mapM_nil]
    cases ys <;> simp [pure, Except.pure]
  | cons x l ih =>
    rw [List.mapM_cons]
    simp only [bind_eq_ok, pure, Except.pure, Except.ok.injEq]
    constructor
    · rintro ⟨b, hb, bs, hbs, rfl⟩
      exact .cons hb (ih.1 hbs)
    · intro h
      cases h with
      | cons hb hbs => exact ⟨_, hb, _, ih.2 hbs, rfl⟩

/-- A loop raises the exception of its first iteration that raises. -/
theorem mapM_eq_error_iff {ε α β : Type} {f : α → Except ε β} {l : List α} {e : ε} :
    l.mapM f = .error e ↔
      ∃ pre x post, l = pre ++ x :: post ∧ (∀ y ∈ pre, ∃ b, f y = .ok b) ∧ f x = .error e := by
  induction l with
  | nil =>
    rw [List.mapM_nil]
    simp [pure, Except.pure]
  | cons x l ih =>
    rw [List.mapM_cons, bind_eq_error]
    constructor
    · rintro (hx | ⟨b, hb, h⟩)
      · exact ⟨[], x, l, rfl, nofun, hx⟩
      · rw [bind_eq_error] at h
        rcases h with h | ⟨bs, -, h⟩
        · obtain ⟨pre, y, post, rfl, hpre, hy⟩ := ih.1 h
          exact ⟨x :: pre, y, post, rfl, List.forall_mem_cons.2 ⟨⟨b, hb⟩, hpre⟩, hy⟩
        · cases h
    · rintro ⟨_ | ⟨z, pre⟩, y, post, hl, hpre, hy⟩
      · obtain ⟨rfl, rfl⟩ := List.cons.inj hl
        exact .inl hy
      · obtain ⟨rfl, rfl⟩ := List.cons.inj hl
        obtain ⟨⟨b, hb⟩, hpre⟩ := List.forall_mem_cons.1 hpre
        refine .inr ⟨b, hb, ?_⟩
        rw [ih.2 ⟨pre, y, post, rfl, hpre, hy⟩]
        rfl

/-- A loop of checks in `Except` passes when every check passes. -/
theorem forM_eq_ok {ε α : Type} {f : α → Except ε Unit} {l : List α} :
    l.forM f = .ok () ↔ ∀ x ∈ l, f x = .ok () := by
  induction l with
  | nil => simp [List.forM, pure, Except.pure]
  | cons x l ih =>
    show (f x >>= fun _ => l.forM f) = .ok () ↔ _
    rw [List.forall_mem_cons, ← ih]
    cases f x <;> simp [bind, Except.bind]

/-- Python's `sorted` of a set of integers. -/
def sorted (s : Finset Int) : List Int :=
  Quot.liftOn s.val (List.insertionSort (· ≤ ·)) fun _ _ h =>
    List.eq_of_perm_of_sorted
      ((List.perm_insertionSort _ _).trans (h.trans (List.perm_insertionSort _ _).symm))
      (List.sorted_insertionSort _ _) (List.sorted_insertionSort _ _)

example : sorted ({3, 1} ∪ {2, 3}) = [1, 2, 3] := by decide

@[simp] theorem sorted_empty : sorted ∅ = [] := rfl

@[simp] theorem mem_sorted {s : Finset Int} {a : Int} : a ∈ sorted s ↔ a ∈ s := by
  obtain ⟨⟨l⟩, _⟩ := s
  exact (List.perm_insertionSort _ l).mem_iff

@[simp] theorem toFinset_sorted (s : Finset Int) : (sorted s).toFinset = s :=
  Finset.ext fun _ => by simp

/-- `sorted` lists a set strictly ascending. -/
theorem sorted_lt (s : Finset Int) : (sorted s).Sorted (· < ·) := by
  obtain ⟨⟨l⟩, hl⟩ := s
  exact (List.sorted_insertionSort _ l).lt_of_le ((List.perm_insertionSort _ l).nodup_iff.2 hl)

/-! ## Printing integers

`str(i)` of an index is `toString` of an `Int`: its decimal digits
(`Nat.toDigits 10`), after a `-` when it is negative. Printing is injective
(`toString_injective`), so distinct indices are returned as distinct strings.
-/

/-- The number that a list of decimal digits stands for. -/
def digitsValue (ds : List Char) : Nat :=
  ds.foldl (fun acc c => 10 * acc + (c.toNat - 48)) 0

theorem digitsValue_append_singleton (ds : List Char) (c : Char) :
    digitsValue (ds ++ [c]) = 10 * digitsValue ds + (c.toNat - 48) := by
  simp [digitsValue]

theorem digitChar_toNat {k : Nat} (hk : k < 10) : (Nat.digitChar k).toNat - 48 = k :=
  (by decide : ∀ k < 10, (Nat.digitChar k).toNat - 48 = k) k hk

theorem digitChar_ne_minus {k : Nat} (hk : k < 10) : Nat.digitChar k ≠ '-' :=
  (by decide : ∀ k < 10, Nat.digitChar k ≠ '-') k hk

/-- The digits of `n` are produced last first, in front of the accumulator. -/
theorem toDigitsCore_eq (fuel n : Nat) (ds : List Char) :
    Nat.toDigitsCore 10 (fuel + 1) n ds =
      if n / 10 = 0 then Nat.digitChar (n % 10) :: ds
      else Nat.toDigitsCore 10 fuel (n / 10) [] ++ Nat.digitChar (n % 10) :: ds := by
  induction fuel generalizing n ds with
  | zero => simp [Nat.toDigitsCore]
  | succ fuel ih =>
    rw [Nat.toDigitsCore]
    split_ifs with h0
    · rfl
    · rw [ih, ih (n / 10) []]
      split_ifs <;> simp

theorem digitsValue_toDigitsCore {fuel n : Nat} (h : n < fuel) :
    digitsValue (Nat.toDigitsCore 10 fuel n []) = n := by
  induction fuel generalizing n with
  | zero => omega
  | succ fuel ih =>
    have hd := digitChar_toNat (Nat.mod_lt n (by decide : 10 > 0))
    rw [toDigitsCore_eq]
    split_ifs with h0
    · rw [← List.nil_append [_], digitsValue_append_singleton, hd]
      simp only [digitsValue, List.foldl_nil]
      omega
    · rw [digitsValue_append_singleton, ih (by omega), hd]
      omega

theorem ne_minus_of_mem_toDigitsCore {fuel n : Nat} {c : Char}
    (h : c ∈ Nat.toDigitsCore 10 fuel n []) : c ≠ '-' := by
  induction fuel generalizing n with
  | zero => simp [Nat.toDigitsCore] at h
  | succ fuel ih =>
    have hd := digitChar_ne_minus (Nat.mod_lt n (by decide : 10 > 0))
    rw [toDigitsCore_eq] at h
    split_ifs at h
    · rw [List.mem_singleton.1 h]
      exact hd
    · rcases List.mem_append.1 h with h | h
      · exact ih h
      · rw [List.mem_singleton.1 h]
        exact hd

theorem nat_toString_injective : Function.Injective (toString : Nat → String) := by
  intro a b h
  have h : Nat.toDigits 10 a = Nat.toDigits 10 b := congrArg String.data h
  rw [← digitsValue_toDigitsCore (Nat.lt_succ_self a), ← digitsValue_toDigitsCore (Nat.lt_succ_self b)]
  exact congrArg digitsValue h

theorem toString_injective : Function.Injective (toString : Int → String) := by
  have hdata (x : String) : ("-" ++ x).data = '-' :: x.data := rfl
  have hsign (a : Nat) (x : String) : toString a ≠ "-" ++ x := fun h =>
    @ne_minus_of_mem_toDigitsCore (a + 1) a '-'
      (by rw [show Nat.toDigitsCore 10 (a + 1) a [] = ("-" ++ x).data from congrArg String.data h,
        hdata]; exact List.mem_cons_self _ _) rfl
  rintro (a | a) (b | b) h
  · exact congrArg _ (nat_toString_injective h)
  · exact absurd h (hsign a _)
  · exact absurd h.symm (hsign b _)
  · have h : (toString (a + 1)).data = (toString (b + 1)).data :=
      List.cons_injective ((hdata _).symm.trans ((congrArg String.data h).trans (hdata _)))
    obtain rfl : a = b := by simpa using nat_toString_injective (String.ext h)
    rfl

/-- Reading back what `str` prints of an integer: an optional `-`, then the
    number its digits stand for. It stands for `int` on the texts the code
    itself writes, such as the `epoch` tag. -/
def readDecimal (text : String) : Int :=
  match text.data with
  | '-' :: ds => -(digitsValue ds : Int)
  | ds => digitsValue ds

theorem readDecimal_toString (t : Int) : readDecimal (toString t) = t := by
  have hdigits (n : Nat) : (toString n).data = Nat.toDigitsCore 10 (n + 1) n [] := rfl
  rcases t with n | n
  · have hne : ∀ ds, (toString n).data ≠ '-' :: ds := fun ds h =>
      ne_minus_of_mem_toDigitsCore (by rw [← hdigits, h]; exact List.mem_cons_self _ _) rfl
    show readDecimal (toString n) = n
    unfold readDecimal
    split
    · exact absurd ‹_› (hne _)
    · rw [hdigits, digitsValue_toDigitsCore (Nat.lt_succ_self n)]
  · have h : ("-" ++ toString (n + 1)).data = '-' :: Nat.toDigitsCore 10 (n + 2) (n + 1) [] := rfl
    show readDecimal ("-" ++ toString (n + 1)) = Int.negSucc n
    rw [readDecimal, h]
    show -(digitsValue (Nat.toDigitsCore 10 (n + 1 + 1) (n + 1) []) : Int) = _
    rw [digitsValue_toDigitsCore (Nat.lt_succ_self (n + 1))]
    rfl

/-! ## Python's `max`

`max(items, key=key)` computes the keys in order, keeps the first item whose
key is greatest, and raises `ValueError` on an empty sequence. When every key
is computed, it returns the first item with the greatest key (`pyMax_eq_ok`).
-/

/-- One step of `max(items, key=key)`: the item replaces the best so far when
    its key is greater. -/
def pyMaxStep {α : Type} (key : α → Except PyError Int) (acc : α × Int) (y : α) :
    Except PyError (α × Int) := do
  let ky ← key y
  pure (if acc.2 < ky then (y, ky) else acc)

/-- `max(items, key=key)`. -/
def pyMax {α : Type} (key : α → Except PyError Int) : List α → Except PyError α
  | [] => .error (.value "max() arg is an empty sequence")
  | x :: xs => do
    let k ← key x
    let best ← xs.foldlM (pyMaxStep key) (x, k)
    pure best.1

section Max

variable {α : Type} {key : α → Except PyError Int} {f : α → Int}

/-- The loop of `max` keeps the best item so far: the item it started with, if
    none after it has a greater key, or else the first of the greatest. -/
theorem foldlM_pyMaxStep {ys : List α} (hk : ∀ y ∈ ys, key y = .ok (f y)) (b : α) (kb : Int) :
    ∃ m km, ys.foldlM (pyMaxStep key) (b, kb) = .ok (m, km) ∧
      ((m = b ∧ km = kb ∧ ∀ y ∈ ys, f y ≤ kb) ∨
        (∃ pre post, ys = pre ++ m :: post ∧ km = f m ∧ kb < f m ∧ (∀ y ∈ pre, f y < f m) ∧
          ∀ y ∈ post, f y ≤ f m)) := by
  induction ys generalizing b kb with
  | nil => exact ⟨b, kb, rfl, .inl ⟨rfl, rfl, nofun⟩⟩
  | cons y ys ih =>
    obtain ⟨hy, hys⟩ := List.forall_mem_cons.1 hk
    have hstep : pyMaxStep key (b, kb) y = .ok (if kb < f y then (y, f y) else (b, kb)) := by
      simp [pyMaxStep, hy, bind, Except.bind, pure, Except.pure]
    simp only [List.foldlM_cons, hstep, bind, Except.bind]
    by_cases hlt : kb < f y
    · obtain ⟨m, km, hm, h⟩ := ih hys y (f y)
      refine ⟨m, km, by simpa [hlt] using hm, .inr ?_⟩
      rcases h with ⟨rfl, rfl, hle⟩ | ⟨pre, post, rfl, rfl, hyl, hpre, hpost⟩
      · exact ⟨[], ys, rfl, rfl, hlt, nofun, hle⟩
      · exact ⟨y :: pre, post, rfl, rfl, hlt.trans hyl, List.forall_mem_cons.2 ⟨hyl, hpre⟩, hpost⟩
    · obtain ⟨m, km, hm, h⟩ := ih hys b kb
      refine ⟨m, km, by simpa [hlt] using hm, ?_⟩
      rcases h with ⟨rfl, rfl, hle⟩ | ⟨pre, post, rfl, rfl, hbl, hpre, hpost⟩
      · exact .inl ⟨rfl, rfl, List.forall_mem_cons.2 ⟨not_lt.1 hlt, hle⟩⟩
      · exact .inr ⟨y :: pre, post, rfl, rfl, hbl,
          List.forall_mem_cons.2 ⟨(not_lt.1 hlt).trans_lt hbl, hpre⟩, hpost⟩

/-- When every key is computed, `max` returns the first item with the
    greatest key. -/
theorem pyMax_eq_ok {l : List α} (hl : l ≠ []) (hk : ∀ y ∈ l, key y = .ok (f y)) :
    ∃ pre m post, l = pre ++ m :: post ∧ pyMax key l = .ok m ∧ (∀ y ∈ pre, f y < f m) ∧
      ∀ y ∈ post, f y ≤ f m := by
  obtain ⟨x, xs, rfl⟩ := List.exists_cons_of_ne_nil hl
  obtain ⟨hx, hxs⟩ := List.forall_mem_cons.1 hk
  obtain ⟨m, km, hm, h⟩ := foldlM_pyMaxStep hxs x (f x)
  have hmax : pyMax key (x :: xs) = .ok m := by
    simp [pyMax, hx, hm, bind, Except.bind, pure, Except.pure]
  rcases h with ⟨rfl, rfl, hle⟩ | ⟨pre, post, rfl, rfl, hxl, hpre, hpost⟩
  · exact ⟨[], m, xs, rfl, hmax, nofun, hle⟩
  · exact ⟨x :: pre, m, post, rfl, hmax, List.forall_mem_cons.2 ⟨hxl, hpre⟩, hpost⟩

end Max

end Acapy
