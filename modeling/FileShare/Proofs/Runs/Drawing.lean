import FileShare.Proofs.Draws
import FileShare.Proofs.Runs.Courses
import FileShare.Proofs.Runs.Identity
import Mathlib.Data.List.Perm.Subperm

/-! # The identifiers that runs draw

Every row has an identifier that was drawn for it. What a run has drawn is listed with it, the
identifiers of rows that the store refused included; a store then holds no identifier more often
than it was drawn. So the tables share no identifier as long as none is drawn twice.
-/
namespace FileShare

def Store.rowIds (s : Store) : List String := s.users.map User.id ++ s.nodes.map Node.id

namespace Call

def Draws (c : Call) (s : Store) : Prop := (c.run s).2.generator ≠ c.generator

instance (c : Call) (s : Store) : Decidable (c.Draws s) := inferInstanceAs (Decidable (_ ≠ _))

/-- The identifiers that the call takes, whether or not the store takes the row. -/
def spent (c : Call) (s : Store) : List String := if c.Draws s then [c.drawn] else []

/-- The readings of the clock that the call makes for them. -/
def readings (c : Call) (s : Store) : List Instant := if c.Draws s then [c.now] else []

end Call

def Operation.makes : Operation → Bool
  | createUser _ | createNode _ _ => true
  | _ => false

/-! ## One call -/

theorem Accounts.world_create (limits : Settings) (now : Instant) (body : Json) (w : World) :
    (create limits now body w).2 = w ∨
      (create limits now body w).2.generator = w.generator.advanced 1 := by
  unfold create
  split
  · exact .inl rfl
  · dsimp only
    split <;> exact .inr rfl

theorem Nodes.world_create (limits : Settings) (now : Instant) (username : String) (body : Json)
    (w : World) : (create limits now username body w).2 = w ∨
      (create limits now username body w).2.generator = w.generator.advanced 1 := by
  unfold create
  dsimp only
  split
  · exact .inl rfl
  · split
    · exact .inr rfl
    · split <;> exact .inr rfl

theorem Operation.generator_writing (w : World) (result : Except Failure Store) :
    (writing w result).2.generator = w.generator := by
  cases result <;> rfl

namespace Call
variable (c : Call) (s : Store)

theorem generator_run : (c.run s).2.generator = c.generator.advanced 1 ∨
    (c.run s).2.generator = c.generator ∧ (c.operation.makes → c.after s = s) := by
  simp only [after, run]
  cases h : c.operation with
  | createUser body =>
    rcases Accounts.world_create c.limits c.now body ⟨s, c.generator⟩ with hsame | hdrawn
    · exact .inr ⟨congrArg World.generator hsame, fun _ => congrArg World.store hsame⟩
    · exact .inl hdrawn
  | createNode username body =>
    rcases Nodes.world_create c.limits c.now username body ⟨s, c.generator⟩ with hsame | hdrawn
    · exact .inr ⟨congrArg World.generator hsame, fun _ => congrArg World.store hsame⟩
    · exact .inl hdrawn
  | updateUser | deleteUser | updateNode | deleteNodes =>
    exact .inr ⟨Operation.generator_writing _ _, by simp [Operation.makes]⟩
  | listUsers | getUser | authenticate | getNodes | searchNodes =>
    exact .inr ⟨rfl, by simp [Operation.makes]⟩

variable {c s}

theorem generator_of_draws (h : c.Draws s) : (c.run s).2.generator = c.generator.advanced 1 :=
  (c.generator_run s).resolve_right fun hkept => h hkept.1

theorem generator_of_not_draws (h : ¬ c.Draws s) : (c.run s).2.generator = c.generator :=
  not_not.mp h

theorem after_of_not_draws (h : ¬ c.Draws s) (hmakes : c.operation.makes) : c.after s = s := by
  rcases c.generator_run s with hdrawn | ⟨_, hkept⟩
  · rw [generator_of_not_draws h] at hdrawn
    exact absurd (congrArg Generator.counter hdrawn) (by simp [Generator.advanced])
  · exact hkept hmakes

end Call

variable {c : Call} {s t : Store}

theorem Effect.rowIds (h : Effect c s t) : t.rowIds.Subperm s.rowIds ∨
    c.operation.makes ∧ t.rowIds.Subperm (c.drawn :: s.rowIds) := by
  cases h with
  | nothing => exact .inl (.refl _)
  | @register _ _ u asked _ made =>
    refine .inr ⟨by rw [asked]; rfl, List.Perm.subperm ?_⟩
    have hdrawn : u.id = c.drawn := by rw [made]; rfl
    simp only [Store.rowIds, List.map_append, List.map_cons, List.map_nil, List.append_assoc,
      List.cons_append, List.nil_append, hdrawn]
    exact List.perm_middle
  | amend =>
    left
    rw [Store.rowIds, Store.rowIds, map_key_replaced]
    exact .refl _
  | dismiss =>
    left
    rw [Store.rowIds, Store.map_id_revokeGrants]
    exact ((List.filter_sublist.map User.id).append (.refl _)).subperm
  | create asked _ _ written =>
    refine .inr ⟨by rw [asked]; rfl, List.Perm.subperm ?_⟩
    have hnodes := (Store.nodes_addNode written).map Node.id
    rw [List.map_cons, Nodes.id_ofBody] at hnodes
    rw [Store.rowIds, Store.rowIds, Store.users_addNode written]
    exact (hnodes.append_left _).trans List.perm_middle
  | @change _ _ _ _ _ n =>
    left
    rw [Store.rowIds, Store.map_id_replaceNode]
    cases n <;> exact .refl _
  | remove =>
    left
    exact ((List.Sublist.refl _).append (Store.map_id_remove_sublist _ _ _)).subperm

/-- What a call adds to the identifiers of the rows, it has drawn. -/
theorem Call.rowIds_after (c : Call) (s : Store) :
    (c.after s).rowIds.Subperm (c.spent s ++ s.rowIds) := by
  by_cases hdraws : c.Draws s
  · rw [spent, if_pos hdraws]
    rcases (c.effect s).rowIds with hfewer | ⟨_, hmore⟩
    · exact hfewer.cons_right _
    · exact hmore
  · rw [spent, if_neg hdraws]
    rcases (c.effect s).rowIds with hfewer | ⟨hmakes, _⟩
    · exact hfewer
    · rw [after_of_not_draws hdraws hmakes]
      exact .refl _

/-! ## Runs -/

/-- The calls from one store to another, told by what they drew, the last one first. A call may have
any settings, clock and generator, as in a run. -/
inductive Drawing (s : Store) : List String → Store → Prop
  | start : Drawing s [] s
  | call {ids : List String} {t : Store} (c : Call) (run : Drawing s ids t) :
      Drawing s (c.spent t ++ ids) (c.after t)

namespace Drawing
variable {ids : List String}

theorem reachable (h : Drawing s ids t) (hs : Reachable (fun _ _ => True) s) :
    Reachable (fun _ _ => True) t := by
  induction h with
  | start => exact hs
  | call c _ ih => exact .call ih trivial

theorem trans {before later : List String} {u : Store} (h : Drawing s before t)
    (hlater : Drawing t later u) : Drawing s (later ++ before) u := by
  induction hlater with
  | start => exact h
  | call c _ ih =>
    rw [List.append_assoc]
    exact ih.call c

theorem rowIds (h : Drawing s ids t) : t.rowIds.Subperm (ids ++ s.rowIds) := by
  induction h with
  | start => exact .refl _
  | @call ids t c _ ih =>
    rw [List.append_assoc]
    exact (c.rowIds_after t).trans ((List.subperm_append_left (c.spent t)).mpr ih)

theorem nodup_rowIds (h : Drawing {} ids t) (hids : ids.Nodup) : t.rowIds.Nodup := by
  obtain ⟨picked, hperm, hpart⟩ := h.rowIds
  rw [Store.rowIds] at hpart
  exact hperm.nodup_iff.mp ((by simpa using hids : (ids ++ []).Nodup).sublist hpart)

theorem mem_of_rowId (h : Drawing {} ids t) {id : String} (hid : id ∈ t.rowIds) : id ∈ ids := by
  simpa [Store.rowIds, Store.nodes] using h.rowIds.subset hid

theorem keyed (h : Drawing {} ids t) (hids : ids.Nodup) : t.Keyed :=
  ⟨(List.nodup_append.mp (h.nodup_rowIds hids)).2.1, (h.reachable .empty).kinds⟩

end Drawing
end FileShare
