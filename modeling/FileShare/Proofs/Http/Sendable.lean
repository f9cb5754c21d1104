import FileShare.Proofs.Http.Shown

/-! # What can be sent

A response is sent in UTF-8, and its numbers have to be finite. So a rejection can be sent unless it
repeats a text without a UTF-8 form, and a reply of regular nodes can be sent once it is shown.
-/
namespace FileShare

@[simp] theorem RawText.isSome_utf8?_append (s t : RawText) :
    (s ++ t).utf8?.isSome = (s.utf8?.isSome && t.utf8?.isSome) := by
  cases s <;> cases t <;> rfl

@[simp] theorem RawText.isSome_utf8?_text (s : String) : (RawText.text s).utf8?.isSome = true := rfl

/-- The texts that a rejection repeats as they were given. -/
def Rejection.repeats : Rejection → List RawText
  | unknownField text | unknownSpecifier text | unknownCondition text | badPattern text
  | badSpecifierValue text _ | badAlternatives (.unknownOperator text _)
  | badAlternatives (.notNumber text _) => [text]
  | badIdentifier value _ | notFound value _ => [value.display]
  | _ => []

def Rejection.Encodes (cause : Rejection) : Prop := ∀ text ∈ cause.repeats, text.utf8?.isSome

namespace Http

theorem canSendAll_iff {items : List Json} : canSendAll items ↔ ∀ v ∈ items, canSend v := by
  induction items with
  | nil => simp [canSendAll]
  | cons v items ih => simp [canSendAll, ih]

theorem canSendEntries_iff {entries : Json.Object} :
    canSendEntries entries ↔ ∀ e ∈ entries, e.1.utf8?.isSome ∧ canSend e.2 := by
  induction entries with
  | nil => simp [canSendEntries]
  | cons e entries ih => simp [canSendEntries, ih]

@[simp] theorem canSend_null : canSend .null = true := rfl

@[simp] theorem canSend_str (s : String) : canSend (.str s) = true := rfl

@[simp] theorem canSend_num (n : Number) : canSend (.num n) = n.isFinite := rfl

@[simp] theorem canSend_int (n : Int) : canSend (.int n) = true := rfl

@[simp] theorem canSend_ofText (t : RawText) : canSend (.ofText t) = t.utf8?.isSome := by
  cases t <;> rfl

@[simp] theorem canSend_arr {items : List Json} :
    canSend (.arr items) = true ↔ ∀ v ∈ items, canSend v := canSendAll_iff

@[simp] theorem canSend_obj {entries : Json.Object} :
    canSend (.obj entries) = true ↔ ∀ e ∈ entries, e.1.utf8?.isSome ∧ canSend e.2 :=
  canSendEntries_iff

@[simp] theorem canSend_strings (texts : List String) : canSend (.strings texts) = true := by
  simp [Json.strings]

theorem canSend_envelope {code : Nat} {message : RawText} {data : Json} :
    (envelope code message data).content.canSend ↔ message.utf8?.isSome ∧ canSend data := by
  simp [envelope, Content.canSend]

theorem canSend_rejection {cause : Rejection} :
    (envelope cause.status cause.message cause.data).content.canSend ↔ cause.Encodes := by
  rw [canSend_envelope]
  cases cause with
  | badAlternatives fault => cases fault <;> simp [Rejection.message, Rejection.data,
      Rejection.details, Rejection.reason?, Rejection.Encodes, Rejection.repeats, OrFault.index?,
      OrFault.detail, Json.ofOption]
  | badIdentifier value field => cases field <;> simp [Rejection.message, Rejection.data,
      Rejection.details, Rejection.reason?, Rejection.Encodes, Rejection.repeats]
  | notFound item itemName => cases item <;> simp [Rejection.message, Rejection.data,
      Rejection.details, Rejection.reason?, Rejection.Encodes, Rejection.repeats]
  | _ => simp [Rejection.message, Rejection.data, Rejection.details, Rejection.reason?,
      Rejection.Encodes, Rejection.repeats]

/-! ## Replies -/

/-- The time of a lock that was checked is finite, so there is a text of it. -/
theorem canSend_shownLock {limits : Settings} {lock shown : Json} (h : Body.IsLock limits lock)
    (hshown : shownLock? lock = some shown) : canSend shown := by
  cases h with
  | free =>
    cases hshown
    rfl
  | held _ _ _ _ _ htime hfinite =>
    simp only [shownLock?, htime] at hshown
    split at hshown
    · rename_i time' _ _ htime'
      cases htime'
      cases hshown
      simpa using hfinite
    · cases hshown

theorem canSend_grants (grants : Entries String) : canSend (Node.grantsToJson grants) := by
  simp only [Node.grantsToJson, canSend_obj, List.forall_mem_map, canSend_str,
    RawText.isSome_utf8?_text, and_self, implies_true]

theorem canSend_shownNode {n : Node} {shown : Json} (h : n.Regular)
    (hshown : shownNode? n = some shown) : canSend shown := by
  unfold shownNode? at hshown
  split at hshown
  · cases hshown
  · cases n with
    | file f =>
      obtain ⟨limits, hlock⟩ := h.known
      obtain ⟨lock, hlockShown, rfl⟩ := Option.map_eq_some_iff.mp hshown
      simp [Node.toJson, Node.publicFields, canSend_grants, canSend_shownLock hlock hlockShown]
    | metaNode m =>
      dsimp only at hshown
      split at hshown
      · cases hshown
        simp [Node.toJson, Node.publicFields, canSend_grants]
      · cases hshown

theorem canSend_publicUser (u : PublicUser) : canSend u.toJson := by
  simp [PublicUser.toJson]

theorem canSend_shownReply {reply : Reply} {shown : Json} (h : ∀ n ∈ reply.nodeList, n.Regular)
    (hshown : shownReply? reply = some shown) : canSend shown := by
  cases reply with
  | node n => exact canSend_shownNode (h n List.mem_cons_self) hshown
  | nodes ns =>
    obtain ⟨items, hitems, rfl⟩ := Option.map_eq_some_iff.mp hshown
    refine canSend_arr.mpr fun v hv => ?_
    obtain ⟨n, hn, hv⟩ := Outcome.exists_mem_of_forall₂ (Outcome.mapM_eq_some.mp hitems) hv
    exact canSend_shownNode (h n hn) hv
  | users us =>
    cases hshown
    simp [Reply.toJson, canSend_publicUser]
  | user u =>
    cases hshown
    exact canSend_publicUser u
  | done | answer =>
    cases hshown
    rfl

end Http
end FileShare
