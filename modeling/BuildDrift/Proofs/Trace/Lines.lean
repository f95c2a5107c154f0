import BuildDrift.Proofs.Json.Compact
import BuildDrift.Proofs.Text.Blank
import BuildDrift.Proofs.Text.Lines
import BuildDrift.Trace.Log

/-!
# Logs are kept in lines

A log is written with one event a line. Whatever strings its events hold, the text of an event is a
single line that is not blank, so the lines of the text are those of the events, and reading it
gives the log again. Blank lines in between and the form of the line ends do not matter.

## Main definitions

* `EventLog.KeptInLines`: what the text of a log is and what is read from it.

## Main results

* `TraceEvent.decode_toValue`: an event is read back.
* `EventLog.fromJsonLines_loosened`: blank lines and line ends do not matter to any text.
* `EventLog.keptInLines`: a log is read back from its lines.
-/

namespace BuildDrift

open Json

/-! ### Events -/

namespace TraceEvent

theorem decode_toValue (e : TraceEvent) : decode e.toValue.node = .ok e := by
  have hheld (s : String) : (Value.text s).node.heldFault? Tagged.nestingLimit = none := rfl
  cases e with
  | startTest name =>
    exact Tagged.decode_record (v := variants[0]) rfl (.cons rfl .nil) (by decide) (by decide)
      (by simp [hheld]) _
  | plainCall target signature =>
    exact Tagged.decode_record (v := variants[1]) rfl (.cons rfl <| .cons rfl .nil) (by decide)
      (by decide) (by simp [hheld]) _
  | resultCall target value signature =>
    exact Tagged.decode_record (v := variants[2]) rfl (.cons rfl <| .cons rfl <| .cons rfl .nil)
      (by decide) (by decide) (by simp [hheld]) _
  | endTest =>
    exact Tagged.decode_record (v := variants[3]) rfl .nil (by decide) (by decide)
      (by simp) _

/-- The line of an event. -/
def line (e : TraceEvent) : List Char :=
  e.toValue.compactChars

theorem newLine_notMem_line (e : TraceEvent) : '\n' ∉ e.line :=
  (Value.plain_compactChars e.toValue).newLine_notMem

theorem dropReturn_line (e : TraceEvent) : Lines.dropReturn e.line = e.line :=
  Lines.dropReturn_of_getLast? (Value.plain_compactChars e.toValue).getLast?_ne_return

/-- The line of an event begins with a brace, so it is not blank. -/
theorem isAllBlank_line (e : TraceEvent) : Blank.isAllBlank e.line = false := by
  obtain ⟨rest, hline⟩ : ∃ rest, e.line = '\x7b' :: rest := by
    cases e <;> exact ⟨_, rfl⟩
  rw [hline, Blank.isAllBlank, List.all_cons, Blank.isBlank_of_visible (by decide) (by decide),
    Bool.false_and]

/-- An event is read from its line. -/
theorem ofText_line (e : TraceEvent) :
    Decoder.ofText decode (String.ofList e.line) = .ok e :=
  (Decoder.ofText_compact decode e.toValue).trans e.decode_toValue

end TraceEvent

/-! ### Logs -/

namespace EventLog

theorem toList_toJsonLines (log : EventLog) :
    log.toJsonLines.toList = log.events.flatMap fun e => e.line ++ ['\n'] := by
  have hend : "\n".toList = ['\n'] := by decide
  rw [toJsonLines, String.toList_join, List.flatMap_map]
  refine List.flatMap_congr fun e _ => ?_
  rw [String.toList_append, hend, Value.compact, String.toList_ofList, TraceEvent.line]

/-- The lines of the text are those of the events. -/
theorem split_toJsonLines (log : EventLog) :
    Lines.split log.toJsonLines.toList = log.events.map TraceEvent.line := by
  rw [toList_toJsonLines]
  induction log.events with
  | nil => rfl
  | cons e es ih =>
    rw [List.flatMap_cons, List.append_assoc, List.singleton_append,
      Lines.split_append e.newLine_notMem_line, ih, e.dropReturn_line, List.map_cons]

theorem filled_toJsonLines (log : EventLog) :
    Lines.filled log.toJsonLines.toList = log.events.map TraceEvent.line := by
  rw [Lines.filled, split_toJsonLines, List.filter_eq_self]
  intro line hline
  obtain ⟨e, -, rfl⟩ := List.mem_map.1 hline
  rw [e.isAllBlank_line, Bool.not_false]

/-- What is read from a text depends on its lines that are not blank. -/
theorem fromJsonLines_eq (text : String) : fromJsonLines text =
    ((Lines.filled text.toList).mapM fun line =>
      Decoder.ofText TraceEvent.decode (String.ofList line)).map EventLog.mk :=
  rfl

/-- Blank lines and the form of line ends do not matter to what is read, nor to whether the text is
refused. -/
theorem fromJsonLines_loosened {text text' : String}
    (h : Lines.Loosened text.toList text'.toList) : fromJsonLines text' = fromJsonLines text := by
  rw [fromJsonLines_eq, fromJsonLines_eq, h.filled_eq]

theorem fromJsonLines_toJsonLines (log : EventLog) : fromJsonLines log.toJsonLines = .ok log := by
  have hread (es : List TraceEvent) : (es.map TraceEvent.line).mapM (fun line =>
      Decoder.ofText TraceEvent.decode (String.ofList line)) = .ok es := by
    induction es with
    | nil => rfl
    | cons e es ih =>
      rw [List.map_cons, List.mapM_cons, e.ofText_line, ih]
      rfl
  rw [fromJsonLines_eq, filled_toJsonLines, hread]
  rfl

/-- What the text of a log is and what is read from it. -/
structure KeptInLines (log : EventLog) : Prop where
  /-- The text has a line for every event, in order, and no others. -/
  lines : Lines.split log.toJsonLines.toList = log.events.map TraceEvent.line
  /-- No line is blank. -/
  filled : ∀ line ∈ Lines.split log.toJsonLines.toList, ¬Blank.isAllBlank line
  /-- The log is read back. -/
  back : fromJsonLines log.toJsonLines = .ok log
  /-- The text of two logs in a row is that of the first and that of the second. -/
  append : ∀ other : EventLog,
    toJsonLines ⟨log.events ++ other.events⟩ = log.toJsonLines ++ other.toJsonLines
  /-- The log is also read back from its text with blank lines and other line ends. -/
  loosened : ∀ text : String, Lines.Loosened log.toJsonLines.toList text.toList →
    fromJsonLines text = .ok log

/-- Every log is kept in lines, whatever characters its strings hold. -/
theorem keptInLines (log : EventLog) : log.KeptInLines where
  lines := log.split_toJsonLines
  filled line hline := by
    rw [split_toJsonLines] at hline
    obtain ⟨e, -, rfl⟩ := List.mem_map.1 hline
    rw [e.isAllBlank_line]
    exact Bool.false_ne_true
  back := log.fromJsonLines_toJsonLines
  append other := by
    rw [toJsonLines, List.map_append, String.join_append]
    rfl
  loosened text h := by
    rw [fromJsonLines_loosened h, fromJsonLines_toJsonLines]

end EventLog

end BuildDrift
