import BookExport.Exporter.Transcript
import Mathlib.Data.List.TakeWhile

/-! What becomes of an exporter that nobody cancels. Its updates are passed on as they come, of its outputs and of its
errors only the last count, and lines that say nothing could as well be missing. -/

namespace BookExport.Proofs.ExporterOutcome
open Exporter

/-- What a session has taken in by the messages between two of its states. -/
structure Heard (before after : Session) (messages : List Message) : Prop where
  updates : after.updates = before.updates ++ messages.filterMap Message.update?
  outputs : after.outputs = (messages.filterMap Message.outputs?).getLast?.or before.outputs
  reported : after.reported = (messages.filterMap Message.error?).getLast?.or before.reported
  stopped : after.stopped = before.stopped
  isCancelled : after.isCancelled = before.isCancelled

namespace Heard

theorem refl (s : Session) : Heard s s [] :=
  ⟨(List.append_nil _).symm, rfl, rfl, rfl, rfl⟩

theorem hear (s : Session) (message : Message) : Heard s (s.hear message) [message] := by
  cases message with
  | progress update => exact ⟨rfl, rfl, rfl, rfl, rfl⟩
  | result outputs => exact ⟨(List.append_nil _).symm, rfl, rfl, rfl, rfl⟩
  | error code message => exact ⟨(List.append_nil _).symm, rfl, rfl, rfl, rfl⟩

theorem trans {first second third : Session} {earlier later : List Message} (before : Heard first second earlier)
    (after : Heard second third later) : Heard first third (earlier ++ later) where
  updates := by rw [after.updates, before.updates, List.filterMap_append, List.append_assoc]
  outputs := by
    rw [after.outputs, before.outputs, List.filterMap_append, List.getLast?_append, Option.or_assoc]
  reported := by
    rw [after.reported, before.reported, List.filterMap_append, List.getLast?_append, Option.or_assoc]
  stopped := after.stopped.trans before.stopped
  isCancelled := after.isCancelled.trans before.isCancelled

end Heard

section
variable {line : List UInt8} {s : Session}

private theorem step_printed (text : isText line = true) (running : s.stopped = none) (wanted : s.isCancelled = false) :
    s.step (.printed line) = ((messageOf? line).map s.hear).getD s := by
  unfold isText at text
  unfold Session.step Session.readLine messageOf?
  cases decoded : Text.Utf8.decode line with
  | error fault => simp [decoded, Except.isOk, Except.toBool] at text
  | ok cs =>
    simp only [running, wanted, decoded, Option.isSome_none, Bool.false_eq_true, ↓reduceIte]
    cases Message.ofLine? (String.ofList cs) <;> rfl

theorem heard_printed (text : isText line = true) (running : s.stopped = none) (wanted : s.isCancelled = false) :
    Heard s (s.step (.printed line)) (messageOf? line).toList := by
  rw [step_printed text running wanted]
  cases messageOf? line with
  | none => exact Heard.refl s
  | some message => exact Heard.hear s message

theorem messages_cons (line : List UInt8) (rest : Transcript) :
    Transcript.messages (line :: rest) = (messageOf? line).toList ++ Transcript.messages rest := by
  unfold Transcript.messages
  cases heard : messageOf? line <;> simp [heard]

private theorem heard_lines (t : Transcript) (text : t.IsText) (running : s.stopped = none) (wanted : s.isCancelled = false) :
    Heard s ((t.map Event.printed).foldl Session.step s) t.messages := by
  induction t generalizing s with
  | nil => exact Heard.refl s
  | cons line rest ih =>
    have now := heard_printed (text line List.mem_cons_self) running wanted
    have later := ih (s := s.step (.printed line)) (fun other within => text other (List.mem_cons_of_mem line within))
      (now.stopped.trans running) (now.isCancelled.trans wanted)
    rw [messages_cons]
    exact now.trans later

end

private theorem heard_session (t : Transcript) (text : t.IsText) : Heard {} t.session t.messages :=
  heard_lines t text rfl rfl

private theorem trimChars_of_blank {cs : List Char} (blank : cs.all Text.isBlank = true) : Text.trimChars cs = [] := by
  have dropped : Text.dropBlank cs = [] := by
    rw [Text.dropBlank, List.dropWhile_eq_nil_iff]
    exact List.all_eq_true.mp blank
  rw [Text.trimChars, dropped]
  rfl

private theorem messageOf?_of_isIdle {line : List UInt8} (idle : isIdle line = true) : messageOf? line = none := by
  unfold isIdle at idle
  rcases Bool.or_eq_true_iff.mp idle with blank | none
  · unfold isBlankLine at blank
    unfold messageOf?
    cases decoded : Text.Utf8.decode line with
    | error fault => rfl
    | ok cs =>
      rw [decoded] at blank
      show Message.ofLine? (String.ofList cs) = none
      rw [Message.ofLine?, Text.trim, String.toList_ofList, trimChars_of_blank blank]
      rfl
  · exact Option.isNone_iff_eq_none.mp none

private theorem messages_telling (t : Transcript) : t.telling.messages = t.messages := by
  unfold Transcript.telling Transcript.messages
  rw [List.filterMap_filter]
  congr 1
  funext line
  cases idle : isIdle line with
  | true => simp [messageOf?_of_isIdle idle]
  | false => simp

theorem result_of_heard {t : Transcript} {s : Session} (heard : Heard {} s t.messages) (e : Ending) :
    s.result e =
      match t.errors.getLast?, t.outputs.getLast? with
      | some err, _ => .error err
      | none, some outputs => if e.status.isSuccess then .ok outputs else .error (.internal (failureMessage e))
      | none, none => .error (.internal (failureMessage e)) := by
  have reported : s.reported = t.errors.getLast? := heard.reported.trans (Option.or_none ..)
  have outputs : s.outputs = t.outputs.getLast? := heard.outputs.trans (Option.or_none ..)
  unfold Session.result
  rw [heard.stopped, heard.isCancelled, reported, outputs]
  cases t.errors.getLast? <;> cases t.outputs.getLast? <;> rfl

/-- What a transcript makes of a run that ends like this. -/
structure Told (t : Transcript) (e : Ending) (s : Session) : Prop where
  updates : s.updates = t.updates
  fails : ∀ err, t.errors.getLast? = some err → s.result e = .error err
  succeeds : t.errors = [] → e.status.isSuccess = true → ∀ outputs, t.outputs.getLast? = some outputs →
    s.result e = .ok outputs
  unfinished : t.errors = [] → e.status.isSuccess = false ∨ t.outputs = [] →
    s.result e = .error (.internal (failureMessage e))

private theorem told_of_heard {t : Transcript} {s : Session} (heard : Heard {} s t.messages) (e : Ending) : Told t e s := by
  have result := result_of_heard heard e
  refine ⟨heard.updates, ?_, ?_, ?_⟩
  · intro err last
    rw [result, last]
  · intro none success outputs last
    rw [result, none, last]
    exact if_pos success
  · intro none missing
    rw [result, none]
    rcases missing with failed | silent
    · cases t.outputs.getLast? with
      | none => rfl
      | some outputs => exact if_neg (by simp [failed])
    · rw [silent]
      rfl

private theorem session_congr {t other : Transcript} (text : t.IsText) (otherText : other.IsText)
    (same : other.messages = t.messages) (e : Ending) :
    other.session.updates = t.session.updates ∧ other.session.result e = t.session.result e := by
  have heard := heard_session t text
  have otherHeard := heard_session other otherText
  refine ⟨?_, ?_⟩
  · rw [otherHeard.updates, heard.updates, same]
  · rw [result_of_heard otherHeard e, result_of_heard heard e]
    simp only [Transcript.errors, Transcript.outputs, same]

/-- Whatever an exporter prints and however it ends: its updates are those of its lines in their order, its result is
its last error, or else its last outputs if it ended well, or else that it did not finish; and a transcript that differs
only by lines that are blank or no message tells the same. -/
theorem transcript_decides_outcome (t : Transcript) (text : t.IsText) (e : Ending) :
    Told t e t.session ∧
      ∀ padded : Transcript, padded.IsText → padded.telling = t.telling →
        padded.session.updates = t.session.updates ∧ padded.session.result e = t.session.result e := by
  refine ⟨told_of_heard (heard_session t text) e, ?_⟩
  intro padded paddedText same
  have messages : padded.messages = t.messages := by rw [← messages_telling, same, messages_telling]
  exact session_congr text paddedText messages e

/-- An exporter that reports an error and then ends as if all were well. -/
def failing : Transcript :=
  ["\x7b\"type\":\"progress\",\"status\":\"generating_epub\"\x7d",
    "\x7b\"type\":\"error\",\"code\":\"auth_error\",\"message\":\"expired\"\x7d",
    "\x7b\"type\":\"result\"\x7d"].map fun line => Text.Utf8.encode line.toList

/-- A line of blanks, and one that is no message. -/
def litter : Transcript := [" \t", "fetching"].map fun line => Text.Utf8.encode line.toList

def littered (t : Transcript) : Transcript := t.flatMap fun line => litter ++ [line]

private theorem telling_littered (t : Transcript) : (littered t).telling = t.telling := by
  have idle : litter.telling = [] := by decide +kernel
  unfold littered Transcript.telling at *
  induction t with
  | nil => rfl
  | cons line rest ih =>
    rw [List.flatMap_cons, List.filter_append, List.filter_append, idle, ih, List.nil_append, ← List.filter_append]
    rfl

theorem transcript_decides_outcome_failing :
    failing.session.updates = [{ status := .generatingEpub }] ∧
      failing.session.result ⟨.code 0, []⟩ = .error (.auth "expired") ∧
      (littered failing).session.updates = failing.session.updates ∧
      (littered failing).session.result ⟨.code 0, []⟩ = failing.session.result ⟨.code 0, []⟩ := by
  have text : failing.IsText := by unfold Transcript.IsText; decide +kernel
  have litteredText : (littered failing).IsText := by unfold Transcript.IsText; decide +kernel
  have messages : failing.messages =
      [.progress { status := .generatingEpub }, .error "auth_error" "expired", .result {}] := by decide +kernel
  obtain ⟨told, neutral⟩ := transcript_decides_outcome failing text ⟨.code 0, []⟩
  refine ⟨?_, told.fails (.auth "expired") ?_, neutral (littered failing) litteredText (telling_littered failing)⟩
  · rw [told.updates, Transcript.updates, messages]
    rfl
  · rw [Transcript.errors, messages]
    rfl

end BookExport.Proofs.ExporterOutcome
