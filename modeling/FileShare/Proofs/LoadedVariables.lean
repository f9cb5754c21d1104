import FileShare.Environment
import Mathlib.Data.List.Nodup

/-! # Where variables come from

The file that is chosen by the variables of a process goes before the process, and the process goes
before the common file. As long as no file sets the variables that choose, the choice is the one of
the process, and it is the same when the files are taken in once more.
-/
namespace FileShare.Environment

variable {env file : Environment} {name : String}

/-! ## Taking in one file -/

theorem get?_override (h : (Entries.names file).Nodup) (env : Environment) (name : String) :
    Entries.get? (override env file) name =
      (Entries.get? file name).or (Entries.get? env name) := by
  induction file generalizing env with
  | nil => rfl
  | cons entry rest ih =>
    obtain ⟨hnew, hrest⟩ := List.nodup_cons.mp h
    have hstep : override env (entry :: rest) =
        override (Entries.put env entry.1 entry.2) rest := rfl
    rw [hstep, ih hrest, Entries.get?_put, Entries.get?]
    by_cases hname : entry.1 = name
    · have hlater : Entries.get? rest name = none :=
        Entries.get?_eq_none_iff.mpr (hname ▸ hnew)
      simp [hname, hlater]
    · simp [hname]

theorem get?_supplement (env file : Environment) (name : String) :
    Entries.get? (supplement env file) name =
      (Entries.get? env name).or (Entries.get? file name) := by
  induction file generalizing env with
  | nil => exact Option.or_none.symm
  | cons entry rest ih =>
    have hstep : supplement env (entry :: rest) = supplement
        (if Entries.has env entry.1 then env else Entries.put env entry.1 entry.2) rest := rfl
    rw [hstep, ih, Entries.get?]
    by_cases hheld : Entries.has env entry.1
    · rw [if_pos hheld]
      obtain ⟨value, hvalue⟩ := Option.isSome_iff_exists.mp hheld
      by_cases hname : entry.1 = name
      · simp [← hname, hvalue]
      · simp [hname]
    · rw [if_neg hheld, Entries.get?_put]
      have hgap : Entries.get? env entry.1 = none := by simpa [Entries.has] using hheld
      by_cases hname : entry.1 = name
      · simp [← hname, hgap]
      · simp [hname]

theorem override_eq_self (h : ∀ entry ∈ file, Entries.get? env entry.1 = some entry.2) :
    override env file = env := by
  induction file with
  | nil => rfl
  | cons entry rest ih =>
    obtain ⟨hentry, hrest⟩ := List.forall_mem_cons.mp h
    have hstep : override env (entry :: rest) =
        override (Entries.put env entry.1 entry.2) rest := rfl
    rw [hstep, Entries.put_eq_self hentry, ih hrest]

theorem supplement_eq_self (h : ∀ entry ∈ file, Entries.has env entry.1) :
    supplement env file = env := by
  induction file with
  | nil => rfl
  | cons entry rest ih =>
    obtain ⟨hentry, hrest⟩ := List.forall_mem_cons.mp h
    have hstep : supplement env (entry :: rest) = supplement
        (if Entries.has env entry.1 then env else Entries.put env entry.1 entry.2) rest := rfl
    rw [hstep, if_pos hentry, ih hrest]

theorem nodup_override (h : (Entries.names env).Nodup) (file : Environment) :
    (Entries.names (override env file)).Nodup := by
  induction file generalizing env with
  | nil => exact h
  | cons entry rest ih => exact ih (Entries.nodup_put h entry.1 entry.2)

theorem nodup_ofFile (content : String) : (Entries.names (ofFile content)).Nodup := by
  have hempty : (Entries.names ([] : Environment)).Nodup := List.nodup_nil
  exact nodup_override hempty _

/-! ## The choice of a file -/

def named? (env : Environment) : Option String :=
  (Entries.get? env "ENV_FILE").filter (· ≠ "")

/-- The file that is chosen: the one that is named, or else the one of the kind of deployment. -/
def chosen? (env : Environment) : Option String :=
  (named? env).or <|
    match Entries.get? env "ENVIRONMENT" with
    | some "" => none
    | some kind => some (if ".env".toList <+: kind.toList then kind else ".env." ++ kind)
    | none => if isTrue (Entries.get? env "DEBUG") then some ".env.development" else none

/-- The variables by which a file is chosen. -/
def selectors : List String := ["ENV_FILE", "ENVIRONMENT", "DEBUG"]

theorem chosen?_congr {env other : Environment}
    (h : ∀ x ∈ selectors, Entries.get? env x = Entries.get? other x) :
    named? env = named? other ∧ chosen? env = chosen? other := by
  simp only [selectors, List.forall_mem_cons] at h
  obtain ⟨hfile, hkind, hdebug, _⟩ := h
  simp only [chosen?, named?, hfile, hkind, hdebug, and_self]

theorem startsWith_iff {word s : String} :
    Text.startsWith word s ↔ word.toList <+: s.toList := by
  rw [Text.startsWith, Option.isSome_iff_exists]
  constructor
  · rintro ⟨rest, hrest⟩
    exact ⟨rest, (Text.eq_append_of_after? hrest).symm⟩
  · rintro ⟨rest, hrest⟩
    exact ⟨rest, hrest ▸ Text.after?_append _ _⟩

theorem chosen?_of_unnamed (h : named? env = none) :
    chosen? env = ((deployment? env).filter (· ≠ "")).map deploymentFile := by
  simp only [chosen?, h, Option.none_or, deployment?]
  split
  · rename_i hempty
    rw [hempty]
    rfl
  · rename_i kind hne hkind
    rw [hkind]
    have hne : kind ≠ "" := hne
    simp [Option.filter, hne, deploymentFile, startsWith_iff]
  · rename_i habsent
    rw [habsent]
    cases isTrue (Entries.get? env "DEBUG") <;> rfl

/-! ## Taking in all files -/

section Load
variable {file? : String → Option Environment}

theorem loadByDeployment_eq (hother : ∀ file, file? ".env" = some file →
    ∀ x ∈ selectors, x ∉ Entries.names file) (hunnamed : named? env = none) :
    load.loadByDeployment file? env =
      override (supplement env ((file? ".env").getD [])) (((chosen? env).bind file?).getD []) := by
  have hkept : ∀ x ∈ selectors,
      Entries.get? (supplement env ((file? ".env").getD [])) x = Entries.get? env x := by
    intro x hx
    have hgap : Entries.get? ((file? ".env").getD []) x = none := by
      cases hfile : file? ".env" with
      | none => rfl
      | some file => exact Entries.get?_eq_none_iff.mpr (hother file hfile x hx)
    rw [get?_supplement, hgap, Option.or_none]
  obtain ⟨hnamed, hchosen⟩ := chosen?_congr hkept
  rw [← hchosen, chosen?_of_unnamed (hnamed.trans hunnamed)]
  simp only [load.loadByDeployment, commonFile]
  generalize supplement env ((file? ".env").getD []) = common
  cases deployment? common with
  | none => rfl
  | some kind =>
    by_cases hkind : kind = ""
    · simp [Option.filter, hkind, override]
    · simp [Option.filter, hkind]

theorem load_eq (hother : ∀ file, file? ".env" = some file →
    ∀ x ∈ selectors, x ∉ Entries.names file) (env : Environment) :
    load file? env = override
      (if (named? env).isSome then env else supplement env ((file? ".env").getD []))
      (((chosen? env).bind file?).getD []) := by
  unfold load
  split
  · rename_i name hname
    split
    · rename_i hne
      have hnamed : named? env = some name := by simp [named?, hname, Option.filter, hne]
      simp [chosen?, hnamed]
    · rename_i hempty
      have hunnamed : named? env = none := by simp_all [named?, Option.filter]
      rw [loadByDeployment_eq hother hunnamed, hunnamed]
      rfl
  · rename_i hname
    have hunnamed : named? env = none := by simp [named?, hname]
    rw [loadByDeployment_eq hother hunnamed, hunnamed]
    rfl

end Load

def valueIn (file? : String → Option Environment) (file name : String) : Option String :=
  (file? file).bind (Entries.get? · name)

/-- Every file holds a name once, and none of them sets the variables that choose a file. -/
structure Neutral (file? : String → Option Environment) : Prop where
  once : ∀ name file, file? name = some file → (Entries.names file).Nodup
  keeps : ∀ name file, file? name = some file → ∀ x ∈ selectors, x ∉ Entries.names file

theorem neutral_fileIn {files : Entries String}
    (h : ∀ f ∈ files, ∀ x ∈ selectors, x ∉ Entries.names (ofFile f.2)) :
    Neutral (fileIn files) := by
  have hread : ∀ name file, fileIn files name = some file → ∃ f ∈ files, ofFile f.2 = file := by
    intro name file hfile
    obtain ⟨f, hf, rfl⟩ := Option.map_eq_some_iff.mp hfile
    exact ⟨f, List.mem_of_find?_eq_some hf, rfl⟩
  constructor
  · intro name file hfile
    obtain ⟨f, _, rfl⟩ := hread name file hfile
    exact nodup_ofFile f.2
  · intro name file hfile
    obtain ⟨f, hf, rfl⟩ := hread name file hfile
    exact h f hf

namespace Neutral
variable {file? : String → Option Environment} (hfiles : Neutral file?)
include hfiles

theorem valueIn_eq_none {name : String} (hname : name ∈ selectors) (file : String) :
    valueIn file? file name = none := by
  rw [valueIn]
  cases hfile : file? file with
  | none => rfl
  | some entries =>
    exact Entries.get?_eq_none_iff.mpr (hfiles.keeps file entries hfile name hname)

theorem get?_load (env : Environment) (name : String) :
    Entries.get? (load file? env) name =
      ((chosen? env).bind (valueIn file? · name)).or ((Entries.get? env name).or
        (if (named? env).isSome then none else valueIn file? ".env" name)) := by
  have hread : ∀ file : Option Environment, Entries.get? (file.getD []) name =
      file.bind (Entries.get? · name) := by rintro (_ | _) <;> rfl
  have hmap : (Entries.names (((chosen? env).bind file?).getD [])).Nodup := by
    cases hfile : (chosen? env).bind file? with
    | none => exact List.nodup_nil
    | some file =>
      obtain ⟨chosen, _, hchosen⟩ := Option.bind_eq_some_iff.mp hfile
      exact hfiles.once chosen file hchosen
  rw [load_eq (hfiles.keeps ".env"), get?_override hmap, hread, Option.bind_assoc]
  congr 1
  split
  · exact Option.or_none.symm
  · rw [get?_supplement, hread]
    rfl

theorem chosen?_load (env : Environment) :
    named? (load file? env) = named? env ∧ chosen? (load file? env) = chosen? env := by
  refine chosen?_congr fun x hx => ?_
  have hchosen : (chosen? env).bind (valueIn file? · x) = none :=
    Option.bind_eq_none_iff.mpr fun file _ => hfiles.valueIn_eq_none hx file
  rw [hfiles.get?_load, hchosen, hfiles.valueIn_eq_none hx]
  simp

theorem valueIn_of_mem {file : Option String} {entry : String × String}
    (hentry : entry ∈ (file.bind file?).getD []) :
    file.bind (valueIn file? · entry.1) = some entry.2 := by
  cases hfound : file.bind file? with
  | none => simp [hfound] at hentry
  | some entries =>
    obtain ⟨name, rfl, hname⟩ := Option.bind_eq_some_iff.mp hfound
    rw [hfound, Option.getD_some] at hentry
    rw [Option.bind_some, valueIn, hname]
    exact Entries.get?_of_mem (hfiles.once name entries hname) hentry

theorem load_load (env : Environment) : load file? (load file? env) = load file? env := by
  obtain ⟨hnamed, hchosen⟩ := hfiles.chosen?_load env
  have hread := hfiles.get?_load env
  have hlast : override (load file? env) (((chosen? env).bind file?).getD []) =
      load file? env := by
    refine override_eq_self fun entry hentry => ?_
    rw [hread, hfiles.valueIn_of_mem hentry, Option.some_or]
  rw [load_eq (hfiles.keeps ".env") (load file? env), hnamed, hchosen]
  split
  · exact hlast
  · rename_i hunnamed
    have hcommon : supplement (load file? env) ((file? ".env").getD []) = load file? env := by
      refine supplement_eq_self fun entry hentry => ?_
      have hvalue : (some ".env").bind (valueIn file? · entry.1) = some entry.2 :=
        hfiles.valueIn_of_mem hentry
      rw [Option.bind_some] at hvalue
      rw [Entries.has, hread, if_neg hunnamed, hvalue]
      simp
    rw [hcommon, hlast]

end Neutral

/-- Every variable has its value from the chosen file; where that has none, from the process; and
where that has none either, from the common file, unless a file was named. No other variable is
there, and to take the files in again changes nothing. -/
theorem variables_load_in_order {file? : String → Option Environment} (hfiles : Neutral file?)
    (env : Environment) :
    (∀ name, Entries.get? (load file? env) name =
      ((chosen? env).bind (valueIn file? · name)).or ((Entries.get? env name).or
        (if (named? env).isSome then none else valueIn file? ".env" name))) ∧
    load file? (load file? env) = load file? env :=
  ⟨hfiles.get?_load env, hfiles.load_load env⟩

namespace Sample

def files : Entries String :=
  [(".env", "PORT=80\nLIMIT=10\nMODE=common"), (".env.test", "# trial runs\nMODE=test")]

def process : Environment := [("ENVIRONMENT", "test"), ("LIMIT", "5")]

end Sample

theorem variables_load_in_order_sample :
    Neutral (fileIn Sample.files) ∧
    Entries.get? (load (fileIn Sample.files) Sample.process) "MODE" = some "test" ∧
    Entries.get? (load (fileIn Sample.files) Sample.process) "LIMIT" = some "5" ∧
    Entries.get? (load (fileIn Sample.files) Sample.process) "PORT" = some "80" ∧
    Entries.get? (load (fileIn Sample.files) Sample.process) "HOST" = none ∧
    load (fileIn Sample.files) (load (fileIn Sample.files) Sample.process) =
      load (fileIn Sample.files) Sample.process := by
  have hneutral : Neutral (fileIn Sample.files) := neutral_fileIn (by decide)
  obtain ⟨hread, hagain⟩ := variables_load_in_order hneutral Sample.process
  refine ⟨hneutral, ?_, ?_, ?_, ?_, hagain⟩ <;> rw [hread] <;> rfl

end FileShare.Environment
