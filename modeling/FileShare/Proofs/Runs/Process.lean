import FileShare.Proofs.Runs.Drawing

/-! # The runs of one process

A process makes all identifiers with one generator, which goes on from each call to the next. The
identifiers of its rows are then successive draws, those of rows that the store refused between
them, so what keeps draws apart keeps the rows of all three tables apart.
-/
namespace FileShare

/-- The worlds that a process comes to, with the readings of the clock that its draws have made. -/
inductive Process (g : Generator) : List Instant → World → Prop
  | start : Process g [] { generator := g }
  | call {nows : List Instant} {w : World} {c : Call} (run : Process g nows w)
      (own : c.generator = w.generator) :
      Process g (nows ++ c.readings w.store) (c.run w.store).2

namespace Process
variable {g : Generator} {nows : List Instant} {w : World}

/-- Every draw moves the generator by one. -/
theorem generator_eq (h : Process g nows w) : w.generator = g.advanced nows.length := by
  induction h with
  | start => rfl
  | @call nows w c _ own ih =>
    by_cases hdraws : c.Draws w.store
    · rw [Call.generator_of_draws hdraws, Call.readings, if_pos hdraws, own, ih]
      simp
    · rw [Call.generator_of_not_draws hdraws, Call.readings, if_neg hdraws, own, ih]
      simp

theorem drawing (h : Process g nows w) : Drawing {} (g.drawEach nows).reverse w.store := by
  induction h with
  | start => exact .start
  | @call nows w c run own ih =>
    have hcall := ih.call c
    by_cases hdraws : c.Draws w.store
    · rw [Call.spent, if_pos hdraws, Call.drawn, own, run.generator_eq] at hcall
      rw [Call.readings, if_pos hdraws, Generator.drawEach_append, List.reverse_append]
      exact hcall
    · rw [Call.spent, if_neg hdraws] at hcall
      rw [Call.readings, if_neg hdraws, List.append_nil]
      exact hcall

theorem drawEach_next (h : Process g nows w) {c : Call} (own : c.generator = w.generator)
    (hdraws : c.Draws w.store) :
    g.drawEach (nows ++ c.readings w.store) = g.drawEach nows ++ [c.drawn] := by
  rw [Call.readings, if_pos hdraws, Generator.drawEach_append, ← h.generator_eq, ← own]
  rfl

theorem reachable (h : Process g nows w) : Reachable (fun _ _ => True) w.store :=
  h.drawing.reachable .empty

theorem drawn_of_rowId (h : Process g nows w) {id : String} (hid : id ∈ w.store.rowIds) :
    id ∈ g.drawEach nows :=
  List.mem_reverse.mp (h.drawing.mem_of_rowId hid)

theorem keyed (h : Process g nows w) (hids : (g.drawEach nows).Nodup) : w.store.Keyed :=
  h.drawing.keyed (List.nodup_reverse.mpr hids)

end Process

/-- Whatever the clock does, `2 ^ 24` consecutive identifiers of a process are distinct, and every
one reads as itself. Under a steady clock all of them are distinct, those of refused rows included,
and so are the identifiers of all rows in every store that the process comes to. -/
theorem ids_unique (g : Generator) (nows : List Instant) :
    (∀ i, (((g.drawEach nows).drop i).take (2 ^ 24)).Nodup) ∧
    (∀ id ∈ g.drawEach nows, ∀ field, Identifier.parse field (.str id) = .ok id) ∧
    (Steady nows → (g.drawEach nows).Nodup ∧ ∀ w, Process g nows w →
      (w.store.users.map User.id ++ w.store.files.map FileNode.id ++
        w.store.metas.map MetaNode.id).Nodup ∧
      ∀ id ∈ w.store.users.map User.id ++ w.store.files.map FileNode.id ++
        w.store.metas.map MetaNode.id, id ∈ g.drawEach nows) := by
  refine ⟨fun i => Generator.nodup_window i, fun id hid field => ?_, fun clock => ?_⟩
  · exact (Generator.isNormal_of_drawEach id hid).parse_eq field
  · refine ⟨clock.nodup_drawEach g, fun w run => ?_⟩
    have hrows : w.store.users.map User.id ++ w.store.files.map FileNode.id ++
        w.store.metas.map MetaNode.id = w.store.rowIds := by
      rw [Store.rowIds, Store.map_id_nodes, List.append_assoc]
    rw [hrows]
    exact ⟨run.drawing.nodup_rowIds (List.nodup_reverse.mpr (clock.nodup_drawEach g)),
      fun id hid => run.drawn_of_rowId hid⟩

namespace Sample

/-- The readings of the clock on the way to the shelf. -/
def ticks : List Instant := List.replicate 4 ⟨1600000000000000⟩

theorem ticks_steady : Steady ticks where
  ordered := by decide
  fits := by decide
  sparse second := Nat.le_trans List.countP_le_length (by decide)

theorem shelf_process : Process ⟨7, 1⟩ ticks ⟨shelf, ⟨7, 5⟩⟩ :=
  .call (c := collect) (.call (c := upload) (.call (c := enrol 2 "bert" "bert@mail.org")
    (.call (c := enrol 1 "anna" "anna@mail.org") .start rfl) rfl) rfl) rfl

end Sample

theorem ids_unique_sample :
    Steady Sample.ticks ∧ Process ⟨7, 1⟩ Sample.ticks ⟨Sample.shelf, ⟨7, 5⟩⟩ ∧
    (Sample.shelf.users.map User.id ++ Sample.shelf.files.map FileNode.id ++
      Sample.shelf.metas.map MetaNode.id).Nodup := by
  obtain ⟨_, _, hsteady⟩ := ids_unique ⟨7, 1⟩ Sample.ticks
  obtain ⟨_, hrows⟩ := hsteady Sample.ticks_steady
  exact ⟨Sample.ticks_steady, Sample.shelf_process, (hrows _ Sample.shelf_process).1⟩

end FileShare
