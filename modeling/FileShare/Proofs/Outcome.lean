import FileShare.Accounts
import FileShare.Proofs.Repetitions
import Mathlib.Data.List.Forall2

/-! # Outcomes of checks

A check succeeds with a value or fails. These rules take the success of a sequence of checks apart
into the success of each of them.
-/
namespace FileShare

namespace Outcome
variable {ε α β : Type}

theorem bind_eq_ok {x : Except ε α} {f : α → Except ε β} {b : β} :
    x >>= f = .ok b ↔ ∃ a, x = .ok a ∧ f a = .ok b := by
  cases x <;> simp [bind, Except.bind]

theorem map_eq_ok {x : Except ε α} {f : α → β} {b : β} :
    f <$> x = .ok b ↔ ∃ a, x = .ok a ∧ f a = b := by
  cases x <;> simp [Functor.map, Except.map]

theorem pure_eq_ok {a b : α} : (pure a : Except ε α) = .ok b ↔ a = b := by
  simp [pure, Except.pure]

theorem discard_eq_ok {x : Except ε α} {u : PUnit} :
    discard x = .ok u ↔ ∃ a, x = .ok a := by
  cases x <;> simp [discard, Functor.discard, Functor.mapConst, Except.map]

@[simp] theorem ok_bind (a : α) (f : α → Except ε β) : Except.ok a >>= f = f a := rfl

@[simp] theorem error_bind (e : ε) (f : α → Except ε β) :
    Except.error e >>= f = .error e := rfl

@[simp] theorem reject_ne_ok (cause : Rejection) (a : α) : reject cause ≠ .ok a := by
  simp [reject]

@[simp] theorem breakDown_ne_ok (cause : Breakdown) (a : α) : breakDown cause ≠ .ok a := by
  simp [breakDown]

theorem of_map_eq_map {f : α → β} {x y : Except ε α} (h : x.map f = y.map f) :
    (∃ e, x = .error e ∧ y = .error e) ∨ ∃ a b, x = .ok a ∧ y = .ok b ∧ f a = f b := by
  cases x with
  | error e =>
    cases y with
    | error e' =>
      cases h
      exact .inl ⟨e, rfl, rfl⟩
    | ok b => cases h
  | ok a =>
    cases y with
    | error e => cases h
    | ok b => exact .inr ⟨a, b, rfl, rfl, Except.ok.inj h⟩

theorem mapM_eq_ok {f : α → Except ε β} {xs : List α} {ys : List β} :
    xs.mapM f = .ok ys ↔ List.Forall₂ (fun x y => f x = .ok y) xs ys := by
  induction xs generalizing ys with
  | nil =>
    simp only [List.mapM_nil, pure_eq_ok, List.forall₂_nil_left_iff]
    exact eq_comm
  | cons x xs ih =>
    simp only [List.mapM_cons, bind_eq_ok, pure_eq_ok, List.forall₂_cons_left_iff, ih]
    constructor
    · rintro ⟨y, hy, ys, hys, rfl⟩
      exact ⟨y, ys, hy, hys, rfl⟩
    · rintro ⟨y, ys, hy, hys, rfl⟩
      exact ⟨y, hy, ys, hys, rfl⟩

/-- A check that undoes a spelling succeeds on a list exactly if the list is spelled so. -/
theorem mapM_eq_ok_iff_map {f : α → Except ε β} {spell : β → α}
    (h : ∀ {x y}, f x = .ok y ↔ x = spell y) {xs : List α} {ys : List β} :
    xs.mapM f = .ok ys ↔ xs = ys.map spell := by
  simp only [mapM_eq_ok, h]
  rw [← List.forall₂_eq_eq_eq, List.forall₂_map_right_iff]

theorem mapM_eq_some {f : α → Option β} {xs : List α} {ys : List β} :
    xs.mapM f = some ys ↔ List.Forall₂ (fun x y => f x = some y) xs ys := by
  induction xs generalizing ys with
  | nil =>
    simp only [List.mapM_nil, Option.pure_def, Option.some.injEq, List.forall₂_nil_left_iff]
    exact eq_comm
  | cons x xs ih =>
    simp only [List.mapM_cons, Option.bind_eq_bind, Option.bind_eq_some_iff, Option.pure_def,
      Option.some.injEq, List.forall₂_cons_left_iff, ih]
    constructor
    · rintro ⟨y, hy, ys, hys, rfl⟩
      exact ⟨y, ys, hy, hys, rfl⟩
    · rintro ⟨y, ys, hy, hys, rfl⟩
      exact ⟨y, hy, ys, hys, rfl⟩

theorem forM_of_ok {f : α → Except ε Unit} {as : List α} (h : ∀ a ∈ as, f a = .ok ()) :
    as.forM f = .ok () := by
  induction as with
  | nil => rfl
  | cons a as ih =>
    obtain ⟨ha, has⟩ := List.forall_mem_cons.mp h
    rw [List.forM, ha, ok_bind, ih has]

theorem exists_mem_of_forall₂ {R : α → β → Prop} {xs : List α} {ys : List β}
    (h : List.Forall₂ R xs ys) {y : β} (hy : y ∈ ys) : ∃ x ∈ xs, R x y := by
  induction h with
  | nil => simp at hy
  | @cons a b xs ys hab _ ih =>
    rcases List.mem_cons.mp hy with rfl | hy
    · exact ⟨a, List.mem_cons_self, hab⟩
    · obtain ⟨x, hx, hxy⟩ := ih hy
      exact ⟨x, List.mem_cons_of_mem a hx, hxy⟩

/-! ## Repeated checks -/

theorem mapM_cons_of_ok {f : α → Except ε β} {a : α} {b : β} (h : f a = .ok b) (as : List α) :
    (a :: as).mapM f = (b :: ·) <$> as.mapM f := by
  rw [List.mapM_cons, h, ok_bind, bind_pure_comp]

theorem mapM_cons_of_error {f : α → Except ε β} {a : α} {e : ε} (h : f a = .error e)
    (as : List α) : (a :: as).mapM f = .error e := by
  rw [List.mapM_cons, h, error_bind]

/-- Members that all give one value may be left out where that value is dropped. -/
theorem filter_mapM_filter [DecidableEq β] {f : α → Except ε β} {b : β} {p : α → Bool}
    {as : List α} (h : ∀ a ∈ as, p a = false → f a = .ok b) :
    List.filter (· ≠ b) <$> (as.filter p).mapM f = List.filter (· ≠ b) <$> as.mapM f := by
  induction as with
  | nil => rfl
  | cons a as ih =>
    obtain ⟨ha, has⟩ := List.forall_mem_cons.mp h
    cases hp : p a with
    | false =>
      rw [List.filter_cons_of_neg (by simp [hp]), ih has, mapM_cons_of_ok (ha hp), Functor.map_map]
      simp
    | true =>
      rw [List.filter_cons_of_pos hp]
      cases hfa : f a with
      | error e => rw [mapM_cons_of_error hfa, mapM_cons_of_error hfa]
      | ok c =>
        have hsplit : ∀ x : Except ε (List β), List.filter (· ≠ b) <$> (c :: ·) <$> x =
            (fun bs => List.filter (· ≠ b) (c :: bs)) <$> List.filter (· ≠ b) <$> x := by
          intro x
          simp only [Functor.map_map, List.filter_cons, List.filter_filter, Bool.and_self]
        rw [mapM_cons_of_ok hfa, mapM_cons_of_ok hfa, hsplit, ih has, ← hsplit]

/-- A repetition of a member that has a value gives that value again, so it makes no difference
where every value counts once. Behind a member that has none nothing counts. -/
theorem eraseDups_mapM_eraseDupsBy [DecidableEq β] {f : α → Except ε β} {same : α → α → Bool}
    (h : ∀ a b y, same b a → f a = .ok y → f b = .ok y) (as : List α) :
    List.eraseDups <$> (as.eraseDupsBy same).mapM f = List.eraseDups <$> as.mapM f := by
  match as with
  | [] => rfl
  | a :: as =>
    rw [List.eraseDupsBy_cons]
    cases hfa : f a with
    | error e => rw [mapM_cons_of_error hfa, mapM_cons_of_error hfa]
    | ok b =>
      -- The members that are left out behind the first have its value, which counts only once.
      have hrest := eraseDups_mapM_eraseDupsBy h (as.filter fun c => same c a = false)
      have hdropped : List.filter (· ≠ b) <$> (as.filter fun c => same c a = false).mapM f =
          List.filter (· ≠ b) <$> as.mapM f := by
        refine filter_mapM_filter fun c _ hc => ?_
        exact h a c b (by simpa using hc) hfa
      have hcons : ∀ x : Except ε (List β), List.eraseDups <$> (b :: ·) <$> x =
          (b :: ·) <$> List.filter (· ≠ b) <$> List.eraseDups <$> x := by
        intro x
        simp only [Functor.map_map, eraseDups_cons_filter]
      have hswap : ∀ x : Except ε (List β), List.filter (· ≠ b) <$> List.eraseDups <$> x =
          List.eraseDups <$> List.filter (· ≠ b) <$> x := by
        intro x
        simp only [Functor.map_map, filter_eraseDups]
      rw [mapM_cons_of_ok hfa, mapM_cons_of_ok hfa, hcons, hcons, hrest, hswap, hswap, hdropped]
termination_by as.length
decreasing_by exact Nat.lt_succ_of_le (List.length_filter_le _ _)

/-! ## Failures -/

/-- If the check fails, then in one of the given ways. -/
def FailsOnly (x : Except ε α) (P : ε → Prop) : Prop := ∀ e, x = .error e → P e

variable {P Q : ε → Prop}

@[simp] theorem failsOnly_ok (a : α) : FailsOnly (.ok a) P := by simp [FailsOnly]

@[simp] theorem failsOnly_pure (a : α) : FailsOnly (pure a) P := failsOnly_ok a

@[simp] theorem failsOnly_error {e : ε} : FailsOnly (.error e : Except ε α) P ↔ P e := by
  simp [FailsOnly]

@[simp] theorem failsOnly_reject {P : Failure → Prop} {cause : Rejection} :
    FailsOnly (reject cause : Except Failure α) P ↔ P (.rejected cause) := failsOnly_error

@[simp] theorem failsOnly_breakDown {P : Failure → Prop} {cause : Breakdown} :
    FailsOnly (breakDown cause : Except Failure α) P ↔ P (.broken cause) := failsOnly_error

namespace FailsOnly
variable {x : Except ε α}

theorem mono (hx : FailsOnly x P) (h : ∀ e, P e → Q e) : FailsOnly x Q :=
  fun e he => h e (hx e he)

theorem bind (hx : FailsOnly x P) {f : α → Except ε β}
    (hf : ∀ a, x = .ok a → FailsOnly (f a) P) : FailsOnly (x >>= f) P := by
  cases x with
  | error e => exact failsOnly_error.mpr (failsOnly_error.mp hx)
  | ok a => exact hf a rfl

theorem map (hx : FailsOnly x P) (f : α → β) : FailsOnly (f <$> x) P := by
  cases x with
  | error e => exact failsOnly_error.mpr (failsOnly_error.mp hx)
  | ok a => exact failsOnly_ok (f a)

theorem mapM {f : α → Except ε β} {as : List α} (hf : ∀ a ∈ as, FailsOnly (f a) P) :
    FailsOnly (as.mapM f) P := by
  induction as with
  | nil => exact failsOnly_ok []
  | cons a as ih =>
    obtain ⟨ha, has⟩ := List.forall_mem_cons.mp hf
    rw [List.mapM_cons]
    exact ha.bind fun b _ => (ih has).bind fun bs _ => failsOnly_ok _

theorem forM {f : α → Except ε PUnit} {as : List α} (hf : ∀ a ∈ as, FailsOnly (f a) P) :
    FailsOnly (as.forM f) P := by
  induction as with
  | nil => exact failsOnly_pure _
  | cons a as ih =>
    obtain ⟨ha, has⟩ := List.forall_mem_cons.mp hf
    exact ha.bind fun _ _ => ih has

end FailsOnly
end Outcome

theorem RawText.encode_eq_ok {t : RawText} {s : String} : t.encode = .ok s ↔ t = .text s := by
  cases t <;> simp [encode]

theorem RawText.encode_fails (t : RawText) :
    Outcome.FailsOnly t.encode (· = .broken .notEncodable) := by
  cases t <;> simp [encode]

theorem RawText.mapM_encode_eq_ok {ts : List RawText} {ss : List String} :
    ts.mapM encode = .ok ss ↔ ts = ss.map .text :=
  Outcome.mapM_eq_ok_iff_map encode_eq_ok

theorem RawText.exists_text {t : RawText} (h : t.utf8? ≠ none) : ∃ s : String, t = .text s := by
  cases t with
  | text s => exact ⟨s, rfl⟩
  | unpaired => exact absurd rfl h

theorem RawText.exists_texts {ts : List RawText} (h : ∀ t ∈ ts, t.utf8? ≠ none) :
    ∃ ss : List String, ts = ss.map .text := by
  induction ts with
  | nil => exact ⟨[], rfl⟩
  | cons t ts ih =>
    obtain ⟨ht, hts⟩ := List.forall_mem_cons.mp h
    obtain ⟨s, rfl⟩ := exists_text ht
    obtain ⟨ss, rfl⟩ := ih hts
    exact ⟨s :: ss, rfl⟩

/-- Half of a surrogate pair by itself. -/
def Sample.half : RawText := .unpaired "" ⟨0⟩ ""

/-- Grants to two grantees that are no users. -/
def Sample.halfGrants : Json.Object := [("nobody", .str "view"), (half, .str "view")]

/-- The drive itself refuses the request. -/
def Failure.IsRejection : Failure → Prop
  | .rejected _ => True
  | .broken _ => False

/-- If the failure is a breakdown, then for one of the given causes. -/
@[simp] def Failure.BreaksBy (causes : Breakdown → Prop) : Failure → Prop
  | .rejected _ => True
  | .broken cause => causes cause

theorem Failure.BreaksBy.of_isRejection {causes : Breakdown → Prop} :
    ∀ e : Failure, e.IsRejection → e.BreaksBy causes
  | .rejected _, _ => trivial

theorem Failure.BreaksBy.mono {causes more : Breakdown → Prop}
    (h : ∀ cause, causes cause → more cause) : ∀ e : Failure, e.BreaksBy causes → e.BreaksBy more
  | .rejected _, _ => trivial
  | .broken cause, he => h cause he

namespace Accounts

theorem require_eq_ok {s : Store} {username : String} {u : User} :
    require s username = .ok u ↔ s.userNamed? username = some u := by
  unfold require
  cases s.userNamed? username <;> simp

theorem discard_require_eq_ok {s : Store} {username : String} {v : PUnit} :
    discard (require s username) = .ok v ↔ s.hasUser username := by
  simp only [Outcome.discard_eq_ok, require_eq_ok, Store.hasUser, Option.isSome_iff_exists]

end Accounts
end FileShare
