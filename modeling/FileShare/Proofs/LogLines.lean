import FileShare.Log
import FileShare.Proofs.Outcome
import FileShare.Proofs.Reading.WrittenText

/-! # Log lines read back

A JSON line is one line whatever its record holds, and it says what the record says. So no text that
a client supplies ends a line early or adds an entry to it.
-/
namespace FileShare.Log

theorem read_lineObject (r : Record) (time : String) (message : RawText) :
    Json.read (lineObject r time message).toText = .ok (lineObject r time message) ∧
      ∀ c ∈ (lineObject r time message).toText.points, Json.IsVisible c := by
  have hvalues : ∀ e ∈ ([("ts", .str time), ("logger", .str r.logger),
      ("level", .str (Record.levelName r.level)), ("msg", .ofText message),
      ("request_id", Json.ofOption .str r.requestId)] : Json.Object), e.2.ReadsBack := by
    simp only [List.forall_mem_cons]
    exact ⟨Json.readsBack_ofText time, Json.readsBack_ofText r.logger,
      Json.readsBack_ofText (Record.levelName r.level), Json.readsBack_ofText message,
      Json.readsBack_ofOption _, by simp⟩
  have hnames : (["ts", "logger", "level", "msg", "request_id"] : List RawText).Nodup := by decide
  exact ⟨Json.read_object hvalues (List.cons_ne_nil _ _) hnames, Json.visible_object hvalues⟩

theorem timeText_eq_ok {r : Record} {zone : Timezone} {time : String} :
    r.timeText zone none = .ok time ↔
      ∃ m, Moment.ofInstant? r.time zone = some m ∧ m.toText = time := by
  unfold Record.timeText
  cases Moment.ofInstant? r.time zone <;> simp

theorem jsonLine_eq_ok {zone : Timezone} {r : Record} {line : RawText} :
    jsonLine zone r = .ok line ↔ ∃ m message, Moment.ofInstant? r.time zone = some m ∧
      r.text = .ok message ∧ (lineObject r m.toText message).toText = line := by
  simp only [jsonLine, Outcome.bind_eq_ok, Outcome.pure_eq_ok, timeText_eq_ok]
  constructor
  · rintro ⟨_, ⟨m, hm, rfl⟩, message, hmessage, rfl⟩
    exact ⟨m, message, hm, hmessage, rfl⟩
  · rintro ⟨m, message, hm, hmessage, rfl⟩
    exact ⟨_, ⟨m, hm, rfl⟩, message, hmessage, rfl⟩

/-- Whatever a record holds, if its time has a place in the calendar and its message takes its
arguments, there is a line for it, and only then. The line has no control character, and read as
JSON it is the object of the record's own values, in order. -/
theorem lines_read_back (zone : Timezone) (r : Record) :
    ((∃ line, jsonLine zone r = .ok line) ↔
      (Moment.ofInstant? r.time zone).isSome ∧ ∃ message, r.text = .ok message) ∧
    ∀ line, jsonLine zone r = .ok line →
      (∀ c ∈ line.points, 0x20 ≤ c.toNat) ∧
      ∃ m message, Moment.ofInstant? r.time zone = some m ∧ r.text = .ok message ∧
        Json.read line = .ok (.obj [("ts", .str m.toText), ("logger", .str r.logger),
          ("level", .str (Record.levelName r.level)), ("msg", .ofText message),
          ("request_id", Json.ofOption .str r.requestId)]) := by
  constructor
  · simp only [jsonLine_eq_ok, Option.isSome_iff_exists]
    constructor
    · rintro ⟨_, m, message, hm, hmessage, _⟩
      exact ⟨⟨m, hm⟩, message, hmessage⟩
    · rintro ⟨⟨m, hm⟩, message, hmessage⟩
      exact ⟨_, m, message, hm, hmessage, rfl⟩
  · intro line hline
    obtain ⟨m, message, hm, hmessage, rfl⟩ := jsonLine_eq_ok.mp hline
    obtain ⟨hread, hvisible⟩ := read_lineObject r m.toText message
    exact ⟨hvisible, m, message, hm, hmessage, hread⟩

/-- A name that was made to pass for the end of one line and the start of another. -/
def forgedName : String := "ann\"\x7d\n\x7b\"ts\": \"now\"\x01é"

def forged : Record where
  logger := "access"
  level := 20
  message := "signed in as %s"
  arguments := [.str forgedName]
  time := ⟨1600000000000000⟩
  requestId := some "r\\1\r\n"

theorem lines_read_back_forged : ∃ line, jsonLine .utc forged = .ok line ∧
    (∀ c ∈ line.points, 0x20 ≤ c.toNat) ∧
    Json.read line = .ok (.obj [("ts", .str "2020-09-13 12:26:40.000+00:00"),
      ("logger", .str "access"), ("level", .str "INFO"),
      ("msg", .str ("signed in as " ++ forgedName)), ("request_id", .str "r\\1\r\n")]) := by
  have htime : (Moment.ofInstant? forged.time .utc).map Moment.toText =
      some "2020-09-13 12:26:40.000+00:00" := by decide +kernel
  have htext : forged.text = .ok (.text ("signed in as " ++ forgedName)) := rfl
  obtain ⟨hexists, hread⟩ := lines_read_back .utc forged
  obtain ⟨line, hline⟩ := hexists.mpr
    ⟨by simpa using congrArg Option.isSome htime, _, htext⟩
  obtain ⟨hvisible, m, message, hm, hmessage, hobject⟩ := hread line hline
  cases htext.symm.trans hmessage
  rw [hm, Option.map_some, Option.some_inj] at htime
  rw [htime] at hobject
  exact ⟨line, hline, hvisible, hobject⟩

end FileShare.Log
