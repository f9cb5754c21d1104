/-! # Cutting texts -/
namespace FileShare.Text

/-- What is left after the given word, if the text starts with it. -/
def after? [DecidableEq α] : List α → List α → Option (List α)
  | [], cs => some cs
  | w :: word, c :: cs => if w = c then after? word cs else none
  | _ :: _, [] => none

theorem after?_append [DecidableEq α] (word cs : List α) : after? word (word ++ cs) = some cs := by
  induction word with
  | nil => simp [after?]
  | cons w word ih => simp [after?, ih]

theorem eq_append_of_after? [DecidableEq α] {word cs rest : List α}
    (h : after? word cs = some rest) :
    cs = word ++ rest := by
  fun_induction after? word cs with
  | case1 => simpa using h
  | case2 word c cs ih => simp [ih h]
  | case3 => cases h
  | case4 => cases h

def rest? (word s : String) : Option String := (after? word.toList s.toList).map String.ofList

theorem rest?_eq_some {word s t : String} : rest? word s = some t ↔ s = word ++ t := by
  rw [rest?, Option.map_eq_some_iff]
  constructor
  · rintro ⟨rest, hafter, rfl⟩
    rw [← String.toList_inj, eq_append_of_after? hafter]
    simp
  · rintro rfl
    exact ⟨t.toList, by rw [String.toList_append, after?_append], by simp⟩

def startsWith (word s : String) : Bool := (after? word.toList s.toList).isSome

def occursIn (word : List Char) : List Char → Bool
  | [] => word.isEmpty
  | c :: cs => (after? word (c :: cs)).isSome || occursIn word cs

def contains (word s : String) : Bool := occursIn word.toList s.toList

/-- The pieces between separators; there is one more of them than there are separators. -/
def pieces (sep : Char) : List Char → List (List Char)
  | [] => [[]]
  | c :: cs =>
    match pieces sep cs with
    | [] => [[c]]
    | piece :: more => if c = sep then [] :: piece :: more else (c :: piece) :: more

theorem pieces_ne_nil (sep : Char) (cs : List Char) : pieces sep cs ≠ [] := by
  fun_cases pieces sep cs with
  | case1 => simp
  | case2 => simp
  | case3 => simp
  | case4 => simp

def split (sep : Char) (s : String) : List String := (pieces sep s.toList).map String.ofList

end FileShare.Text
