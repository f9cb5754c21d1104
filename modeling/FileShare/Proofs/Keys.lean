import FileShare.Store
import Mathlib.Data.List.Nodup

/-! # Stores whose identifiers are keys

The identifiers of a store are keys if no two nodes share one, be they of one table or of both, and
if the kind in a row tells which table the row is of.
-/
namespace FileShare

universe u

theorem find?_of_nodup {α : Type u} {key : α → String} {l : List α} (h : (l.map key).Nodup)
    {a : α} (ha : a ∈ l) : l.find? (fun b => key b = key a) = some a := by
  induction l with
  | nil => simp at ha
  | cons b rest ih =>
    simp only [List.map_cons, List.nodup_cons] at h
    rcases List.mem_cons.mp ha with rfl | ha
    · simp
    · have hne : key b ≠ key a := fun e => h.1 (e ▸ List.mem_map_of_mem ha)
      simpa [hne] using ih h.2 ha

/-! ## Tables with a key -/

section Tables
variable {α : Type u} {key : α → String} {rows : List α} {a : α}

theorem nodup_added (h : (rows.map key).Nodup) (free : ∀ b ∈ rows, key b ≠ key a) :
    ((rows ++ [a]).map key).Nodup := by
  simp only [List.map_append, List.map_cons, List.map_nil]
  refine List.nodup_append.mpr ⟨h, List.nodup_singleton _, ?_⟩
  intro k hk other hother
  obtain ⟨b, hb, rfl⟩ := List.mem_map.mp hk
  exact List.mem_singleton.mp hother ▸ free b hb

theorem map_key_replaced (rows : List α) (a : α) :
    (rows.map fun b => if key b = key a then a else b).map key = rows.map key := by
  rw [List.map_map]
  refine List.map_congr_left fun b _ => ?_
  by_cases hb : key b = key a <;> simp [hb]

theorem map_replaced_twice (rows : List α) {a b : α} (h : key a = key b) :
    ((rows.map fun r => if key r = key a then a else r).map fun r =>
      if key r = key b then b else r) = rows.map fun r => if key r = key b then b else r := by
  rw [List.map_map]
  refine List.map_congr_left fun r _ => ?_
  by_cases hr : key r = key b <;> simp [h, hr]

theorem map_replaced_comm (rows : List α) {a b : α} (h : key a ≠ key b) :
    ((rows.map fun r => if key r = key a then a else r).map fun r =>
      if key r = key b then b else r) =
    (rows.map fun r => if key r = key b then b else r).map fun r =>
      if key r = key a then a else r := by
  rw [List.map_map, List.map_map]
  refine List.map_congr_left fun r _ => ?_
  by_cases ha : key r = key a
  · have hb : key r ≠ key b := fun e => h (ha.symm.trans e)
    simp [ha, h]
  · by_cases hb : key r = key b
    · simp [hb, Ne.symm h]
    · simp [ha, hb]

/-- A row that takes the place of another may share a second key with that one only. -/
theorem nodup_replaced {id : α → String} (hids : (rows.map id).Nodup) (h : (rows.map key).Nodup)
    (free : ∀ b ∈ rows, id b ≠ id a → key b ≠ key a) :
    ((rows.map fun b => if id b = id a then a else b).map key).Nodup := by
  rw [List.map_map]
  refine List.Nodup.map_on ?_ (hids.of_map _)
  intro b hb c hc hsame
  simp only [Function.comp] at hsame
  split at hsame <;> split at hsame
  · rename_i hba hca
    exact List.inj_on_of_nodup_map hids hb hc (hba.trans hca.symm)
  · rename_i hca
    exact absurd hsame.symm (free c hc hca)
  · rename_i hba _
    exact absurd hsame (free b hb hba)
  · exact List.inj_on_of_nodup_map h hb hc hsame

end Tables

namespace Store

structure Keyed (s : Store) : Prop where
  ids : (s.nodes.map Node.id).Nodup
  kinds : ∀ m ∈ s.metas, m.kind ≠ fileKind

/-- What every store has, be the drawn identifiers fresh or not: a table holds an identifier once,
and the kind in a row tells the table. -/
structure KeyedTables (s : Store) : Prop where
  files : (s.files.map FileNode.id).Nodup
  metas : (s.metas.map MetaNode.id).Nodup
  kinds : ∀ m ∈ s.metas, m.kind ≠ fileKind

@[simp] theorem mem_nodes_file {s : Store} {f : FileNode} : .file f ∈ s.nodes ↔ f ∈ s.files := by
  simp [nodes]

@[simp] theorem mem_nodes_metaNode {s : Store} {m : MetaNode} :
    .metaNode m ∈ s.nodes ↔ m ∈ s.metas := by
  simp [nodes]

theorem hasNode_iff {s : Store} {id : String} : s.hasNode id ↔ ∃ n ∈ s.nodes, n.id = id := by
  simp [hasNode, nodes, or_and_right, exists_or, Node.id]

theorem hasUser_iff {s : Store} {username : String} :
    s.hasUser username ↔ ∃ u ∈ s.users, u.username = username := by
  simp [hasUser, userNamed?]

theorem map_id_nodes (s : Store) :
    s.nodes.map Node.id = s.files.map FileNode.id ++ s.metas.map MetaNode.id := by
  simp [nodes, Function.comp_def, Node.id]

namespace Keyed
variable {s : Store} (hs : s.Keyed)
include hs

theorem eq_of_id {a b : Node} (ha : a ∈ s.nodes) (hb : b ∈ s.nodes) (h : a.id = b.id) : a = b :=
  List.inj_on_of_nodup_map hs.ids ha hb h

theorem tables : s.KeyedTables :=
  have hids := List.nodup_append.mp (s.map_id_nodes ▸ hs.ids)
  ⟨hids.1, hids.2.1, hs.kinds⟩

end Keyed
end Store

/-! ## A small store -/

namespace Sample

def anna : User := .ofFields "5f1d7a00aa00bb00cc000001" "anna" "anna@mail.org" "00" "11"

def bert : User := .ofFields "5f1d7a00aa00bb00cc000002" "bert" "bert@mail.org" "00" "22"

def song : FileNode :=
  .ofFields "5f1d7a00aa00bb00cc000010" "anna" 1000 1000 "Song" "la la" ["music"] .null []

def score : FileNode :=
  .ofFields "5f1d7a00aa00bb00cc000011" "bert" 2000 3000 "Score" "la la la" ["music"] .null
    [("anna", "edit")]

def diary : FileNode :=
  .ofFields "5f1d7a00aa00bb00cc000012" "bert" 2500 2500 "Diary" "la la la la" ["music"] .null
    [("public", "view")]

def album : MetaNode :=
  .ofFields "5f1d7a00aa00bb00cc000020" "directory" "anna" 4000 "Album"
    ["5f1d7a00aa00bb00cc000010", "5f1d7a00aa00bb00cc000011"] [("bert", "view")]

def store : Store := { users := [anna, bert], files := [song, score, diary], metas := [album] }

theorem store_keyed : store.Keyed := ⟨by decide, by decide⟩

end Sample
end FileShare
