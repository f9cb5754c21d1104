import FileShare.Proofs.AcceptedFields
import FileShare.Proofs.Identifiers
import FileShare.Proofs.LowerCase

/-! # Accepted account fields

Names, addresses, salts and keys that pass their checks. A name and an address are stored as they
were given; a salt and a key are stored in lower case.
-/
namespace FileShare

/-! ## Addresses -/

namespace Email
variable {sep : Char} {cs left right : List Char}

theorem eq_append_of_dropWhile {c : Char} (h : cs.dropWhile (· ≠ sep) = c :: right) :
    cs = cs.takeWhile (· ≠ sep) ++ sep :: right := by
  have hsep : c = sep := by
    have hne : cs.dropWhile (· ≠ sep) ≠ [] := h ▸ List.cons_ne_nil c right
    have hhead := List.head_dropWhile_not (· ≠ sep) hne
    simp only [h, List.head_cons, ne_eq, decide_eq_false_iff_not, not_not] at hhead
    exact hhead
  rw [hsep] at h
  rw [← h, List.takeWhile_append_dropWhile]

theorem forall_ne_of_notMem (h : sep ∉ left) : ∀ c ∈ left, decide (c ≠ sep) = true :=
  fun _ hc => decide_eq_true fun hsame => h (hsame ▸ hc)

theorem takeWhile_append_sep (h : sep ∉ left) :
    (left ++ sep :: right).takeWhile (· ≠ sep) = left := by
  rw [List.takeWhile_append_of_pos (forall_ne_of_notMem h)]
  simp

theorem dropWhile_append_sep (h : sep ∉ left) :
    (left ++ sep :: right).dropWhile (· ≠ sep) = sep :: right := by
  rw [List.dropWhile_append_of_pos (forall_ne_of_notMem h)]
  simp

/-- A domain, the last dot in it, and two or more letters. -/
def IsSplitDomain (cs domain ending : List Char) : Prop :=
  cs = domain ++ '.' :: ending ∧ (domain ≠ [] ∧ ∀ c ∈ domain, isDomainChar c) ∧
    2 ≤ ending.length ∧ ∀ c ∈ ending, isLetter c

/-- A local part, an at sign, and a domain that ends with a dot and two or more letters. -/
def IsShaped (s : String) : Prop :=
  ∃ name cs domain ending : List Char, s.toList = name ++ '@' :: cs ∧
    (name ≠ [] ∧ ∀ c ∈ name, isLocalChar c) ∧ IsSplitDomain cs domain ending

/-- The dot is the first one from the right, since what stands behind it are letters. -/
theorem isDomain_iff : isDomain cs ↔ ∃ domain ending, IsSplitDomain cs domain ending := by
  have hunfold : isDomain cs ↔ (∀ c ∈ cs, isDomainChar c) ∧
      (cs.reverse.dropWhile (· ≠ '.')).drop 1 ≠ [] ∧
      2 ≤ (cs.reverse.takeWhile (· ≠ '.')).length ∧
      ∀ c ∈ cs.reverse.takeWhile (· ≠ '.'), isLetter c := by
    simp only [isDomain, Bool.and_eq_true, Bool.not_eq_true', List.isEmpty_eq_false_iff,
      List.all_eq_true, decide_eq_true_eq, List.length_reverse, List.mem_reverse, and_assoc]
  rw [hunfold]
  constructor
  · rintro ⟨hall, hbefore, hlength, hletters⟩
    cases hdrop : cs.reverse.dropWhile (· ≠ '.') with
    | nil => exact absurd (by rw [hdrop]; rfl) hbefore
    | cons dot rest =>
      have hcs := congrArg List.reverse (eq_append_of_dropWhile hdrop)
      simp only [List.reverse_reverse, List.reverse_append, List.reverse_cons, List.append_assoc,
        List.singleton_append] at hcs
      refine ⟨rest.reverse, _, hcs, ⟨?_, fun c hc => hall c ?_⟩, ?_, ?_⟩
      · rw [hdrop] at hbefore
        simpa using hbefore
      · rw [hcs]
        exact List.mem_append_left _ hc
      · rwa [List.length_reverse]
      · exact fun c hc => hletters c (List.mem_reverse.mp hc)
  · rintro ⟨domain, ending, rfl, ⟨hne, hdomain⟩, hlength, hletters⟩
    have hnodot : '.' ∉ ending.reverse := by
      intro hdot
      exact absurd (hletters _ (List.mem_reverse.mp hdot)) (by decide)
    have hreverse : (domain ++ '.' :: ending).reverse =
        ending.reverse ++ '.' :: domain.reverse := by simp
    rw [hreverse, takeWhile_append_sep hnodot, dropWhile_append_sep hnodot, List.length_reverse]
    refine ⟨?_, by simpa using hne, hlength, fun c hc => hletters c (List.mem_reverse.mp hc)⟩
    intro c hc
    rcases List.mem_append.mp hc with hc | hc
    · exact hdomain c hc
    · rcases List.mem_cons.mp hc with rfl | hc
      · decide
      · simp [isDomainChar, hletters c hc]

theorem isAddress_iff {s : String} : isAddress s ↔ IsShaped s := by
  constructor
  · intro h
    simp only [isAddress, Bool.and_eq_true, Bool.not_eq_true', List.isEmpty_eq_false_iff,
      List.all_eq_true] at h
    obtain ⟨hname, hdomain⟩ := h
    cases hdrop : s.toList.dropWhile (· ≠ '@') with
    | nil =>
      rw [hdrop] at hdomain
      cases hdomain
    | cons sign cs =>
      rw [hdrop] at hdomain
      obtain ⟨domain, ending, hsplit⟩ := isDomain_iff.mp hdomain
      exact ⟨_, cs, domain, ending, eq_append_of_dropWhile hdrop, hname, hsplit⟩
  · rintro ⟨name, cs, domain, ending, hs, hname, hsplit⟩
    have hnosign : '@' ∉ name := fun hsign => absurd (hname.2 _ hsign) (by decide)
    simp only [isAddress, Bool.and_eq_true, Bool.not_eq_true', List.isEmpty_eq_false_iff,
      List.all_eq_true]
    rw [hs, takeWhile_append_sep hnosign, dropWhile_append_sep hnosign]
    exact ⟨hname, isDomain_iff.mpr ⟨domain, ending, hsplit⟩⟩

end Email

/-! ## Names -/

namespace Username

theorem isNameChar_iff {c : Char} : isNameChar c ↔ c.isAlphanum ∨ c = '_' ∨ c = '-' := by
  have halphanum : c.isAlphanum =
      (decide ('A' ≤ c ∧ c ≤ 'Z') || ('a' ≤ c && c ≤ 'z') || ('0' ≤ c && c ≤ '9')) := rfl
  simp only [isNameChar, halphanum, Bool.or_eq_true, Bool.and_eq_true, decide_eq_true_eq,
    beq_iff_eq]
  tauto

theorem isShaped_iff {limits : Settings} {s : String} :
    isShaped limits s ↔
      (limits.minUsernameLength ≤ s.length ∧ (s.length : Int) ≤ limits.maxUsernameLength) ∧
        s ≠ "" ∧ ∀ c ∈ s.toList, c.isAlphanum ∨ c = '_' ∨ c = '-' := by
  simp only [isShaped, isName, Bool.and_eq_true, withinLimits_iff, Bool.not_eq_true',
    List.isEmpty_eq_false_iff, ne_eq, String.toList_eq_nil_iff, List.all_eq_true, isNameChar_iff]

end Username

/-! ## Salts and keys -/

/-- Hexadecimal digits in lower case, of an exact number. -/
structure Text.IsHex (length : Int) (s : String) : Prop where
  length : (s.length : Int) = length
  digits : ∀ c ∈ s.toList, Text.IsLowerHex c

/-! ## The checks -/

namespace Accounts
variable {limits : Settings} {v : Json}

theorem checkEmail_eq_ok {email : String} :
    checkEmail limits v = .ok email ↔ v = .str email ∧ Email.IsShaped email ∧
      limits.minEmailLength ≤ email.length ∧ (email.length : Int) ≤ limits.maxEmailLength := by
  cases v with
  | str s =>
    simp only [checkEmail, Outcome.guard_eq_ok, Json.str.injEq, Bool.and_eq_true, withinLimits_iff,
      Email.isAddress_iff]
    exact and_congr_right fun h => h ▸ Iff.rfl
  | _ => simp [checkEmail]

theorem checkHex_eq_ok {field text : String} {length : Int} :
    checkHex field length v = .ok text ↔ ∃ given, v = .str given ∧ given ≠ "" ∧
      Text.lower given = text ∧ (given.length : Int) = length ∧
      ∀ c ∈ given.toList, Text.isHexDigit c := by
  cases v with
  | str s =>
    simp only [checkHex, Outcome.guard_eq_ok, Json.str.injEq, Bool.and_eq_true, Bool.not_eq_true',
      List.isEmpty_eq_false_iff, ne_eq, String.toList_eq_nil_iff, List.all_eq_true,
      decide_eq_true_eq]
    constructor
    · rintro ⟨htext, ⟨hne, hdigits⟩, hlength⟩
      exact ⟨s, rfl, hne, htext, hlength, hdigits⟩
    · rintro ⟨_, rfl, hne, htext, hlength, hdigits⟩
      exact ⟨htext, ⟨hne, hdigits⟩, hlength⟩
  | _ => simp [checkHex]

theorem isHex_of_checkHex {field text : String} {length : Int}
    (h : checkHex field length v = .ok text) : Text.IsHex length text := by
  obtain ⟨given, _, _, rfl, hlength, hdigits⟩ := checkHex_eq_ok.mp h
  exact ⟨(congrArg Nat.cast (Text.length_lower_hex hdigits)).trans hlength,
    Text.isLowerHex_lower hdigits⟩

theorem isHex_patched {body : Json.Object} {field old : String} {length : Int} {o : Option String}
    (h : Fields.ifPresent body field (checkHex field length) = .ok o)
    (hold : Text.IsHex length old) : Text.IsHex length (o.getD old) :=
  holds_getD (fun _ hnew => isHex_of_checkHex (Fields.exists_of_ifPresent h hnew).choose_spec) hold

theorem checkUsername_eq_ok {username : String} :
    checkUsername limits v = .ok username ↔
      v = .str username ∧ Username.isShaped limits username ∧ username ≠ publicGrantee := by
  cases v with
  | str s =>
    by_cases hshaped : Username.isShaped limits s
    · by_cases hpublic : s = publicGrantee
      · simp only [checkUsername, hshaped, Bool.not_true, Bool.false_eq_true, if_false,
          if_pos hpublic, Outcome.reject_ne_ok, Json.str.injEq, false_iff]
        rintro ⟨rfl, _, hother⟩
        exact hother hpublic
      · simp only [checkUsername, hshaped, Bool.not_true, Bool.false_eq_true, if_false,
          if_neg hpublic, Except.ok.injEq, Json.str.injEq]
        exact ⟨fun h => h ▸ ⟨rfl, hshaped, hpublic⟩, And.left⟩
    · simp only [checkUsername, hshaped, Bool.not_false, if_true, Outcome.reject_ne_ok,
        Json.str.injEq, false_iff]
      rintro ⟨rfl, h, _⟩
      exact hshaped h
  | _ => simp [checkUsername]

theorem checkNew_eq_ok {fields : NewUser} :
    checkNew limits v = .ok fields ↔ ∃ body, v = .obj body ∧
      checkEmail limits (Json.Object.get body "email") = .ok fields.email ∧
      checkHex "salt" limits.saltLength (Json.Object.get body "salt") = .ok fields.salt ∧
      checkHex "key" limits.keyLength (Json.Object.get body "key") = .ok fields.key ∧
      checkUsername limits (Json.Object.get body "username") = .ok fields.username ∧
      Fields.checkKnown newFields body = .ok () := by
  cases v with
  | obj body =>
    simp only [checkNew, Outcome.bind_eq_ok, Outcome.pure_eq_ok, Json.obj.injEq]
    constructor
    · rintro ⟨email, hemail, salt, hsalt, key, hkey, username, hname, _, hknown, rfl⟩
      exact ⟨body, rfl, hemail, hsalt, hkey, hname, hknown⟩
    · rintro ⟨_, rfl, hemail, hsalt, hkey, hname, hknown⟩
      exact ⟨_, hemail, _, hsalt, _, hkey, _, hname, (), hknown, rfl⟩
  | _ => simp [checkNew]

theorem checkPatch_eq_ok {p : Patch} :
    checkPatch limits v = .ok p ↔ ∃ body, v = .obj body ∧
      Fields.ifPresent body "email" (checkEmail limits) = .ok p.email ∧
      Fields.ifPresent body "salt" (checkHex "salt" limits.saltLength) = .ok p.salt ∧
      Fields.ifPresent body "key" (checkHex "key" limits.keyLength) = .ok p.key ∧
      Fields.checkKnown patchFields body = .ok () := by
  cases v with
  | obj body =>
    simp only [checkPatch, Outcome.bind_eq_ok, Outcome.pure_eq_ok, Json.obj.injEq]
    constructor
    · rintro ⟨email, hemail, salt, hsalt, key, hkey, _, hknown, rfl⟩
      exact ⟨body, rfl, hemail, hsalt, hkey, hknown⟩
    · rintro ⟨_, rfl, hemail, hsalt, hkey, hknown⟩
      exact ⟨_, hemail, _, hsalt, _, hkey, (), hknown, rfl⟩
  | _ => simp [checkPatch]

end Accounts

end FileShare
