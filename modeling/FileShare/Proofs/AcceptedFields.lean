import FileShare.Proofs.Bodies
import FileShare.Proofs.Search.TermClauses

/-! # Accepted fields

The fields of a node that are checked without the store: texts within limits, tags and locks. What
passes a check is the value that was given.
-/
namespace FileShare

theorem withinLimits_iff {least most : Int} {n : Nat} :
    withinLimits least most n ↔ least ≤ n ∧ (n : Int) ≤ most := by
  simp [withinLimits]

theorem Outcome.forall₂_eq_map {α β : Type} {f : β → α} {P : β → Prop} {xs : List α}
    {ys : List β} :
    List.Forall₂ (fun x y => x = f y ∧ P y) xs ys ↔ xs = ys.map f ∧ ∀ y ∈ ys, P y := by
  induction ys generalizing xs with
  | nil => simp
  | cons y ys ih =>
    simp only [List.forall₂_cons_right_iff, ih, List.map_cons, List.forall_mem_cons]
    constructor
    · rintro ⟨_, _, ⟨rfl, hy⟩, ⟨rfl, hys⟩, rfl⟩
      exact ⟨rfl, hy, hys⟩
    · rintro ⟨rfl, hy, hys⟩
      exact ⟨_, _, ⟨rfl, hy⟩, ⟨rfl, hys⟩, rfl⟩

theorem Outcome.guard_eq_ok {α : Type} {p : Prop} [Decidable p] {a b : α} {cause : Rejection} :
    (if p then .ok a else reject cause) = .ok b ↔ a = b ∧ p := by
  by_cases h : p <;> simp [h]

namespace Body
variable {limits : Settings}

/-! ## Texts -/

theorem boundedText_eq_ok {field : String} {text : RawText} {least most : Int} {v : Json} :
    boundedText field least most v = .ok text ↔
      v = .ofText text ∧ least ≤ text.length ∧ (text.length : Int) ≤ most := by
  rw [← Json.text?_eq_some, boundedText]
  cases v.text? with
  | none => simp
  | some t =>
    simp only [Outcome.guard_eq_ok, Option.some.injEq, withinLimits_iff]
    exact and_congr_right fun h => h ▸ Iff.rfl

theorem checkText_eq_ok {text : String} {v : Json} :
    checkText limits v = .ok text ↔
      v = .str text ∧ (text.utf8ByteSize : Int) ≤ limits.maxTextBytes := by
  rw [show Json.str text = .ofText text from rfl, ← Json.text?_eq_some, checkText]
  cases v.text? with
  | none => simp
  | some t =>
    simp only [Outcome.bind_eq_ok, RawText.encode_eq_ok, Option.some.injEq]
    constructor
    · rintro ⟨s, rfl, h⟩
      obtain ⟨rfl, hlength⟩ := Outcome.guard_eq_ok.mp h
      exact ⟨rfl, hlength⟩
    · rintro ⟨rfl, hlength⟩
      exact ⟨text, rfl, Outcome.guard_eq_ok.mpr ⟨rfl, hlength⟩⟩

theorem checkTags_eq_ok {tags : List RawText} {v : Json} :
    checkTags limits v = .ok tags ↔ v = .arr (tags.map .ofText) ∧
      (tags.length : Int) ≤ limits.maxTags ∧
      ∀ tag ∈ tags, 1 ≤ (tag.length : Int) ∧ (tag.length : Int) ≤ limits.maxTagLength := by
  cases v with
  | arr items =>
    simp only [checkTags, Json.arr.injEq]
    by_cases hmany : limits.maxTags < items.length
    · simp only [if_pos hmany, Outcome.reject_ne_ok, false_iff]
      rintro ⟨rfl, hfew, _⟩
      rw [List.length_map] at hmany
      omega
    · simp only [if_neg hmany, Outcome.mapM_eq_ok, boundedText_eq_ok, Outcome.forall₂_eq_map]
      constructor
      · rintro ⟨rfl, hall⟩
        rw [List.length_map] at hmany
        exact ⟨rfl, Int.not_lt.mp hmany, hall⟩
      · rintro ⟨rfl, _, hall⟩
        exact ⟨rfl, hall⟩
  | _ => simp [checkTags]

/-! ## Locks -/

/-- No lock, or one that names who holds it, with which client, and since when. -/
inductive IsLock (limits : Settings) : Json → Prop
  | free : IsLock limits .null
  | held {entries : Json.Object} {user : String} {client : RawText} {time : Number}
      (names : ∀ name, name ∈ Entries.names entries ↔ name ∈ lockFields)
      (huser : Json.Object.get entries "user" = .str user)
      (hshaped : Username.isShaped limits user)
      (hclient : Json.Object.get entries "client" = .ofText client)
      (hlength : 1 ≤ (client.length : Int) ∧ (client.length : Int) ≤ limits.maxLockClientLength)
      (htime : Json.Object.get entries "createdAt" = .num time)
      (hfinite : time.isFinite) (hpositive : 0 < time.value) : IsLock limits (.obj entries)

theorem checkLockUser_eq_ok {v : Json} {u : Unit} :
    checkLockUser limits v = .ok u ↔ ∃ user, v = .str user ∧ Username.isShaped limits user := by
  unfold checkLockUser
  split
  · split <;> simp_all
  · simp_all

theorem Number.isPositive_iff {time : Number} (h : time.isFinite) :
    time.isPositive ↔ 0 < time.value := by
  obtain ⟨a, b, hab, hlt, _⟩ := Number.compareInt?_eq h 0
  rw [Number.isPositive, hab, beq_iff_eq, Option.some.injEq, compare_lt_iff_lt, hlt, Int.cast_zero]

theorem checkLockTime_eq_ok {v : Json} {u : Unit} :
    checkLockTime v = .ok u ↔ ∃ time, v = .num time ∧ time.isFinite ∧ 0 < time.value := by
  unfold checkLockTime Matcher.finiteNumber?
  cases v with
  | num time =>
    by_cases hfinite : time.isFinite
    · have hpositive := Number.isPositive_iff hfinite
      by_cases h : 0 < time.value <;> simp_all
    · simp [hfinite]
  | _ => simp

theorem mem_names_of_get {entries : Json.Object} {name : String}
    (h : Json.Object.get entries name ≠ .null) : .text name ∈ Entries.names entries := by
  induction entries with
  | nil => exact absurd rfl h
  | cons e entries ih =>
    by_cases hname : e.1 = name
    · exact hname ▸ List.mem_cons_self
    · refine List.mem_cons_of_mem _ (ih ?_)
      simpa [Json.Object.get, Entries.get?, hname] using h

theorem get?_of_get {entries : Json.Object} {name : String} {v : Json}
    (h : Json.Object.get entries name = v) (hv : v ≠ .null) :
    Entries.get? entries name = some v := by
  unfold Json.Object.get at h
  cases hget : Entries.get? entries name with
  | none => exact absurd (by simpa [hget] using h.symm) hv
  | some w => simpa [hget] using h

theorem checkLock_eq_ok {v lock : Json} :
    checkLock limits v = .ok lock ↔ v = lock ∧ IsLock limits lock := by
  cases v with
  | null =>
    simp only [checkLock, Except.ok.injEq]
    exact ⟨fun h => ⟨h, h ▸ .free⟩, And.left⟩
  | obj entries =>
    simp only [checkLock, Outcome.bind_eq_ok, Outcome.discard_eq_ok, checkLockUser_eq_ok,
      boundedText_eq_ok, checkLockTime_eq_ok]
    constructor
    · rintro ⟨_, ⟨user, huser, hshaped⟩, _, ⟨client, hclient, hlength⟩, _,
        ⟨time, htime, hfinite, hpositive⟩, h⟩
      split at h
      · rename_i hnames
        cases h
        refine ⟨rfl, .held (fun name => ⟨fun hname => ?_, fun hname => ?_⟩) huser hshaped hclient
          hlength htime hfinite hpositive⟩
        · simpa using List.all_eq_true.mp hnames name hname
        · simp only [lockFields, List.mem_cons, List.not_mem_nil, or_false] at hname
          rcases hname with rfl | rfl | rfl
          · exact mem_names_of_get (by simp [huser])
          · exact mem_names_of_get (by cases client <;> simp [hclient, Json.ofText])
          · exact mem_names_of_get (by simp [htime])
      · simp at h
    · rintro ⟨rfl, hlock⟩
      cases hlock with
      | held names huser hshaped hclient hlength htime hfinite hpositive =>
        refine ⟨(), ⟨_, huser, hshaped⟩, (), ⟨_, hclient, hlength⟩, (),
          ⟨_, htime, hfinite, hpositive⟩, ?_⟩
        have hall : (Entries.names entries).all (· ∈ lockFields) :=
          List.all_eq_true.mpr fun name hname => decide_eq_true ((names name).mp hname)
        rw [if_pos hall]
        rfl
  | _ =>
    simp only [checkLock, Outcome.reject_ne_ok, false_iff, not_and]
    rintro rfl h
    cases h

end Body
end FileShare
