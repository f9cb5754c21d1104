import FileShare.Json.Reader
import FileShare.Json.Writer
import Mathlib.Data.List.Basic

/-! # Written JSON text

What is written as a string reads back as it was, whatever code points it has and whatever stands
behind it, and its text has no control character. So has the text of an object of such values, and
it reads back with its entries in order.
-/
namespace FileShare.Json

/-- The code point does not control how a text is laid out. -/
def IsVisible (c : CodePoint) : Prop := 0x20 ≤ c.toNat

instance (c : CodePoint) : Decidable (IsVisible c) := inferInstanceAs (Decidable (_ ≤ _))

theorem visible_of_all {cs : List CodePoint} (h : cs.all fun c => decide (IsVisible c)) :
    ∀ c ∈ cs, IsVisible c := by
  simpa using h

/-! ## Strings -/

def codeDigits (n : Nat) : List CodePoint := (Text.hexDigits 4 n).map .char

theorem codeUnit?_codeDigits {n : Nat} (h : n < 0x20) : codeUnit? (codeDigits n) = some n := by
  have hall : ∀ n < 0x20, codeUnit? (codeDigits n) = some n := by decide
  exact hall n h

theorem visible_codeDigits {n : Nat} (h : n < 0x20) : ∀ c ∈ codeDigits n, IsVisible c := by
  have hall : ∀ n < 0x20, (codeDigits n).all fun c => decide (IsVisible c) := by decide
  exact visible_of_all (hall n h)

theorem ofNat_char {c : Char} (h : c.toNat < 0x20) : CodePoint.ofNat c.toNat = .char c := by
  have hbelow : ¬ (0xd800 ≤ c.toNat ∧ c.toNat < 0xe000) := by omega
  simp only [CodePoint.ofNat, Surrogate.ofNat?, dif_neg hbelow, Char.ofNat_toNat]

/-- The escape of a control character by its code. At least the closing quote follows it. -/
theorem readEscape_code (opened : Nat) {c : Char} (h : c.toNat < 0x20) {rest : List CodePoint}
    (hrest : rest ≠ []) :
    readEscape opened (.char 'u' :: codeDigits c.toNat ++ rest) = .ok (.char c, rest) := by
  have hdigits : (codeDigits c.toNat).length = 4 := rfl
  have hmore := List.length_pos_iff.mpr hrest
  have hunit : readCodeUnit (codeDigits c.toNat ++ rest) = .ok (c.toNat, rest) := by
    rw [readCodeUnit, if_neg (by rw [List.length_append, hdigits]; omega),
      List.take_left' hdigits, List.drop_left' hdigits, codeUnit?_codeDigits h]
  have hhigh : isHighSurrogate c.toNat = false := by
    simp only [isHighSurrogate, Bool.and_eq_false_iff, decide_eq_false_iff_not]
    omega
  simp only [List.cons_append, readEscape, readCodeEscape, hunit, bind, Except.bind, hhigh,
    Bool.false_eq_true, if_false, ofNat_char h]
  rfl

/-- A code point stands for itself, or behind a backslash stands what it is read from. -/
theorem escapePoint_cases (c : CodePoint) :
    (escapePoint c = [c] ∧ c ≠ .char '"' ∧ c ≠ .char '\\' ∧ IsVisible c) ∨
      ∃ mark, escapePoint c = .char '\\' :: mark ∧ (∀ d ∈ mark, IsVisible d) ∧
        ∀ opened rest, rest ≠ [] → readEscape opened (mark ++ rest) = .ok (c, rest) := by
  cases c with
  | surrogate half =>
    exact .inl ⟨rfl, nofun, nofun, Nat.le_trans (by decide) (Nat.le_add_right 0xd800 _)⟩
  | char c =>
    by_cases hnamed : c ∈ ['"', '\\', '\n', '\r', '\t', '\x08', '\x0c']
    · simp only [List.mem_cons, List.not_mem_nil, or_false] at hnamed
      right
      rcases hnamed with rfl | rfl | rfl | rfl | rfl | rfl | rfl <;>
        exact ⟨[_], rfl, visible_of_all rfl, fun _ _ _ => rfl⟩
    · simp only [List.mem_cons, List.not_mem_nil, or_false, not_or] at hnamed
      by_cases hcode : c.toNat < 0x20
      · refine .inr ⟨.char 'u' :: codeDigits c.toNat,
          by simp [escapePoint, escapeChar, hnamed, hcode, codeDigits], ?_,
          fun opened rest hrest => readEscape_code opened hcode hrest⟩
        exact List.forall_mem_cons.mpr ⟨by decide, visible_codeDigits hcode⟩
      · exact .inl ⟨by simp [escapePoint, escapeChar, hnamed, hcode], by simp [hnamed],
          by simp [hnamed], Nat.le_of_not_lt hcode⟩

theorem visible_escapePoint (c : CodePoint) : ∀ d ∈ escapePoint c, IsVisible d := by
  rcases escapePoint_cases c with ⟨hself, _, _, hvisible⟩ | ⟨mark, hmark, hvisible, _⟩
  · rw [hself]
    exact List.forall_mem_singleton.mpr hvisible
  · rw [hmark]
    exact List.forall_mem_cons.mpr ⟨by decide, hvisible⟩

theorem readPoints_escape (opened fuel : Nat) (c : CodePoint) {rest : List CodePoint}
    (hrest : rest ≠ []) :
    readPoints opened (fuel + 1) (escapePoint c ++ rest) = do
      let (more, rest') ← readPoints opened fuel rest
      return (c :: more, rest') := by
  rcases escapePoint_cases c with ⟨hself, hquote, hslash, hvisible⟩ | ⟨mark, hmark, _, hread⟩
  · have hraw : ¬ c.toNat < 0x20 := Nat.not_lt.mpr hvisible
    rw [hself, List.singleton_append, readPoints, if_neg hquote, if_neg hslash, if_neg hraw]
  · rw [hmark, List.cons_append, readPoints, if_neg (by decide), if_pos rfl,
      hread opened rest hrest]
    rfl

theorem readPoints_escaped (opened : Nat) {fuel : Nat} (cs rest : List CodePoint)
    (h : cs.length < fuel) :
    readPoints opened fuel (cs.flatMap escapePoint ++ .char '"' :: rest) = .ok (cs, rest) := by
  induction cs generalizing fuel with
  | nil =>
    cases fuel with
    | zero => simp at h
    | succ fuel => rfl
  | cons c cs ih =>
    cases fuel with
    | zero => simp at h
    | succ fuel =>
      have hrest : cs.flatMap escapePoint ++ .char '"' :: rest ≠ [] := by simp
      rw [List.flatMap_cons, List.append_assoc, readPoints_escape opened fuel c hrest,
        ih (Nat.lt_of_succ_lt_succ h)]
      rfl

theorem length_le_escaped (cs : List CodePoint) : cs.length ≤ (cs.flatMap escapePoint).length := by
  induction cs with
  | nil => exact Nat.le_refl 0
  | cons c cs ih =>
    have hone : 1 ≤ (escapePoint c).length := by
      rcases escapePoint_cases c with ⟨hself, _⟩ | ⟨mark, hmark, _⟩ <;> simp [*]
    rw [List.flatMap_cons, List.length_append, List.length_cons]
    omega

theorem readString_written (s : RawText) (rest : List CodePoint) :
    readString (s.points.flatMap escapePoint ++ .char '"' :: rest) = .ok (s, rest) := by
  have hlength := length_le_escaped s.points
  rw [readString, readPoints_escaped _ _ _ (by rw [List.length_append]; omega)]
  simp [bind, Except.bind, pure, Except.pure]

theorem writeString_append (s : RawText) (rest : List CodePoint) :
    writeString s ++ rest = .char '"' :: (s.points.flatMap escapePoint ++ .char '"' :: rest) := by
  simp [writeString]

theorem visible_writeString (s : RawText) : ∀ c ∈ writeString s, IsVisible c := by
  intro c hc
  simp only [writeString, List.cons_append, List.mem_cons, List.mem_append, List.mem_flatMap,
    List.not_mem_nil, or_false] at hc
  rcases hc with rfl | ⟨d, _, hd⟩ | rfl
  · decide
  · exact visible_escapePoint d c hd
  · decide

/-! ## Values and objects -/

/-- The text of the value has no control character, and it reads back whatever stands behind it. -/
structure ReadsBack (v : Json) : Prop where
  visible : ∀ c ∈ write v, IsVisible c
  start : ∀ rest, skipSpace (write v ++ rest) = write v ++ rest
  value : ∀ fuel rest, readValue (fuel + 1) (write v ++ rest) = .ok (v, rest)

theorem readsBack_null : ReadsBack .null where
  visible := visible_of_all rfl
  start _ := rfl
  value _ _ := rfl

theorem write_ofText (t : RawText) : write (.ofText t) = writeString t := by
  cases t <;> rfl

theorem readsBack_ofText (t : RawText) : ReadsBack (.ofText t) where
  visible := write_ofText t ▸ visible_writeString t
  start rest := by
    rw [write_ofText, writeString_append]
    rfl
  value fuel rest := by
    rw [write_ofText, writeString_append, readValue, if_pos rfl, readString_written]
    rfl

theorem readsBack_ofOption (o : Option String) : ReadsBack (Json.ofOption .str o) := by
  cases o with
  | none => exact readsBack_null
  | some s => exact readsBack_ofText s

theorem visible_writeEntries {entries : Object} (h : ∀ e ∈ entries, ReadsBack e.2) :
    ∀ c ∈ writeEntries entries, IsVisible c := by
  induction entries with
  | nil => simp [writeEntries]
  | cons e rest ih =>
    obtain ⟨hvalue, hrest⟩ := List.forall_mem_cons.mp h
    cases rest with
    | nil =>
      simp only [writeEntries, List.forall_mem_append]
      exact ⟨⟨visible_writeString e.1, visible_of_all rfl⟩, hvalue.visible⟩
    | cons next more =>
      simp only [writeEntries, List.forall_mem_append]
      exact ⟨⟨⟨⟨visible_writeString e.1, visible_of_all rfl⟩, hvalue.visible⟩,
        visible_of_all rfl⟩, ih hrest⟩

theorem length_le_writeEntries (entries : Object) :
    entries.length ≤ (writeEntries entries).length := by
  induction entries with
  | nil => exact Nat.le_refl 0
  | cons e rest ih =>
    cases rest with
    | nil => simp [writeEntries, writeString]
    | cons next more =>
      simp only [List.length_cons, writeEntries, List.length_append, writeString] at ih ⊢
      omega

theorem exists_writeEntries_cons (e : RawText × Json) (more : Object)
    (behind : List CodePoint) : ∃ cs, writeEntries (e :: more) ++ behind = .char '"' :: cs := by
  cases more <;> simp [writeEntries, writeString]

/-- The first of the entries is read, and what stands behind it says how to go on. -/
theorem readEntries_entry {v : Json} (hv : ReadsBack v) (fuel : Nat) (before : Object)
    (k : RawText) (behind : List CodePoint) :
    readEntries (fuel + 2) before
        (writeString k ++ [.char ':', .char ' '] ++ write v ++ behind) =
      match skipSpace behind with
      | .char '\x7d' :: rest => .ok (Entries.put before k v, rest)
      | .char ',' :: rest => readEntries (fuel + 1) (Entries.put before k v) (skipSpace rest)
      | other => fail .commaExpected other := by
  have hcolon : ∀ cs, skipSpace ([.char ':', .char ' '] ++ cs) = .char ':' :: .char ' ' :: cs :=
    fun _ => rfl
  have hblank : skipSpace (.char ' ' :: (write v ++ behind)) = write v ++ behind := hv.start behind
  rw [List.append_assoc, List.append_assoc, writeString_append, readEntries]
  simp only [readString_written, bind, Except.bind, hcolon, hblank, hv.value]
  rfl

theorem readEntries_written {entries : Object} (h : ∀ e ∈ entries, ReadsBack e.2)
    (hne : entries ≠ []) {before : Object} (hnames : (Entries.names (before ++ entries)).Nodup)
    {fuel : Nat} (hfuel : entries.length < fuel) (rest : List CodePoint) :
    readEntries fuel before (writeEntries entries ++ .char '\x7d' :: rest) =
      .ok (before ++ entries, rest) := by
  induction entries generalizing before fuel with
  | nil => exact absurd rfl hne
  | cons e more ih =>
    obtain ⟨hvalue, hmore⟩ := List.forall_mem_cons.mp h
    have hparts : (Entries.names before ++ e.1 :: Entries.names more).Nodup := by
      simpa [Entries.names] using hnames
    have hnew : e.1 ∉ Entries.names before := fun hold =>
      (List.nodup_append.mp hparts).2.2 _ hold _ List.mem_cons_self rfl
    obtain ⟨fuel, rfl⟩ : ∃ k, fuel = k + 2 := ⟨fuel - 2, by rw [List.length_cons] at hfuel; omega⟩
    cases more with
    | nil =>
      rw [writeEntries, readEntries_entry hvalue, Entries.put_new hnew]
      rfl
    | cons next more =>
      obtain ⟨cs, hcs⟩ := exists_writeEntries_cons next more (.char '\x7d' :: rest)
      have hstart : skipSpace ([.char ',', .char ' '] ++
          (writeEntries (next :: more) ++ .char '\x7d' :: rest)) =
          .char ',' :: .char ' ' :: (writeEntries (next :: more) ++ .char '\x7d' :: rest) := rfl
      have hblank : skipSpace (.char ' ' :: (writeEntries (next :: more) ++ .char '\x7d' :: rest)) =
          writeEntries (next :: more) ++ .char '\x7d' :: rest := by
        rw [hcs]
        rfl
      rw [writeEntries, List.append_assoc, List.append_assoc, readEntries_entry hvalue, hstart]
      simp only [hblank, Entries.put_new hnew]
      rw [ih hmore (List.cons_ne_nil _ _) (by simpa using hnames) (Nat.lt_of_succ_lt_succ hfuel)]
      simp

theorem points_object (entries : Object) : (toText (.obj entries)).points =
    .char '\x7b' :: (writeEntries entries ++ [.char '\x7d']) := by
  simp [toText, write]

theorem readValue_object {fuel : Nat} {cs rest : List CodePoint} {entries : Object}
    (h : readEntries fuel [] (.char '"' :: cs) = .ok (entries, rest)) :
    readValue (fuel + 1) (.char '\x7b' :: .char '"' :: cs) = .ok (.obj entries, rest) := by
  have hinside : skipSpace (.char '"' :: cs) = .char '"' :: cs := rfl
  rw [readValue, if_neg (by decide), if_neg (by decide), if_pos rfl, hinside]
  exact congrArg (fun read => read >>= fun p => pure (Json.obj p.1, p.2)) h

theorem read_object {entries : Object} (h : ∀ e ∈ entries, ReadsBack e.2) (hne : entries ≠ [])
    (hnames : (Entries.names entries).Nodup) :
    read (toText (.obj entries)) = .ok (.obj entries) := by
  obtain ⟨e, more, rfl⟩ := List.exists_cons_of_ne_nil hne
  have hfuel : (e :: more).length <
      2 * (.char '\x7b' :: (writeEntries (e :: more) ++ [.char '\x7d'])).length + 1 := by
    have hlength := length_le_writeEntries (e :: more)
    simp only [List.length_cons, List.length_append] at hlength ⊢
    omega
  have hentries := readEntries_written h hne
    (show (Entries.names ([] ++ e :: more)).Nodup from hnames) hfuel []
  obtain ⟨cs, hcs⟩ := exists_writeEntries_cons e more [.char '\x7d']
  rw [read, points_object]
  rw [hcs] at hentries ⊢
  have hstart : skipSpace (.char '\x7b' :: .char '"' :: cs) =
      .char '\x7b' :: .char '"' :: cs := rfl
  simp only [readText, hstart, readValue_object hentries, bind, Except.bind]
  rfl

theorem visible_object {entries : Object} (h : ∀ e ∈ entries, ReadsBack e.2) :
    ∀ c ∈ (toText (.obj entries)).points, IsVisible c := by
  rw [points_object]
  refine List.forall_mem_cons.mpr ⟨by decide, List.forall_mem_append.mpr ⟨?_, visible_of_all rfl⟩⟩
  exact visible_writeEntries h

end FileShare.Json
