/-! # Entries: values under names, in order

A name that is written again keeps its place and takes the new value. Reading looks at the first
entry of a name; entries that were built by writing hold every name once.
-/
namespace FileShare

abbrev Entries (α : Type u) := List (String × α)

namespace Entries
universe u v
variable {κ : Type u} {α : Type v} [DecidableEq κ]

def get? (entries : List (κ × α)) (name : κ) : Option α :=
  match entries with
  | [] => none
  | (other, value) :: rest => if other = name then some value else get? rest name

def has (entries : List (κ × α)) (name : κ) : Bool := (get? entries name).isSome

def names (entries : List (κ × α)) : List κ := entries.map Prod.fst

def put (entries : List (κ × α)) (name : κ) (value : α) : List (κ × α) :=
  match entries with
  | [] => [(name, value)]
  | (other, old) :: rest =>
    if other = name then (name, value) :: rest else (other, old) :: put rest name value

theorem get?_put (entries : List (κ × α)) (name other : κ) (value : α) :
    get? (put entries name value) other =
      if name = other then some value else get? entries other := by
  fun_induction put entries name value with
  | case1 => rfl
  | case2 old rest => by_cases h : name = other <;> simp [get?, h]
  | case3 k old rest h ih =>
    by_cases hk : k = other
    · subst hk
      simp [get?, Ne.symm h]
    · simp [get?, hk, ih]

theorem names_put (entries : List (κ × α)) (name : κ) (value : α) :
    names (put entries name value) =
      if name ∈ names entries then names entries else names entries ++ [name] := by
  fun_induction put entries name value with
  | case1 => rfl
  | case2 old rest => simp [names]
  | case3 k old rest h ih =>
    have ih' : names (put rest name value) =
        if name ∈ names rest then names rest else names rest ++ [name] := ih
    by_cases hm : name ∈ names rest
    · simp_all [names, Ne.symm h]
    · simp_all [names, Ne.symm h]

theorem nodup_put {entries : List (κ × α)} (h : (names entries).Nodup) (name : κ) (value : α) :
    (names (put entries name value)).Nodup := by
  rw [names_put]
  split
  · exact h
  · rename_i hnew
    refine List.nodup_append.mpr ⟨h, by simp, ?_⟩
    rintro _ hold _ hname rfl
    exact hnew (List.mem_singleton.mp hname ▸ hold)

theorem get?_eq_none_iff {entries : List (κ × α)} {name : κ} :
    get? entries name = none ↔ name ∉ names entries := by
  induction entries with
  | nil => simp [get?, names]
  | cons entry rest ih =>
    have hnames : names (entry :: rest) = entry.1 :: names rest := rfl
    by_cases h : entry.1 = name
    · simp [get?, hnames, h]
    · simp [get?, hnames, h, ih, Ne.symm h]

theorem get?_of_mem {entries : List (κ × α)} (h : (names entries).Nodup) {entry : κ × α}
    (hentry : entry ∈ entries) : get? entries entry.1 = some entry.2 := by
  induction entries with
  | nil => cases hentry
  | cons first rest ih =>
    obtain ⟨hnew, hrest⟩ := List.nodup_cons.mp h
    rcases List.mem_cons.mp hentry with rfl | hmem
    · simp [get?]
    · have hother : first.1 ≠ entry.1 := fun e => hnew (e ▸ List.mem_map_of_mem hmem)
      rw [get?, if_neg hother, ih hrest hmem]

theorem put_new {entries : List (κ × α)} {name : κ} (h : name ∉ names entries) (value : α) :
    put entries name value = entries ++ [(name, value)] := by
  induction entries with
  | nil => rfl
  | cons entry rest ih =>
    have hnames : names (entry :: rest) = entry.1 :: names rest := rfl
    rw [hnames, List.mem_cons, not_or] at h
    simp [put, Ne.symm h.1, ih h.2]

theorem put_eq_self {entries : List (κ × α)} {name : κ} {value : α}
    (h : get? entries name = some value) : put entries name value = entries := by
  induction entries with
  | nil => cases h
  | cons entry rest ih =>
    by_cases hname : entry.1 = name
    · subst hname
      simp only [get?, ↓reduceIte, Option.some.injEq] at h
      subst h
      simp [put]
    · simp only [get?, if_neg hname] at h
      simp [put, hname, ih h]

end Entries
end FileShare
