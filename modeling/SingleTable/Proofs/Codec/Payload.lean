import SingleTable.Codec.Number
import SingleTable.Proofs.Calendar.ReadBack
import SingleTable.Proofs.Number.DecimalText
import SingleTable.Proofs.Outcome

/-!
# Payloads read back

The text that stands in a cell for a whole number, a finite float, a date or an instant
is read as what it was written for.
-/

namespace SingleTable.Codec

open Number Calendar

theorem readInteger_int64Text {n : Int64} : readInteger (int64Text n) = .ok n := by
  have hSolid : ∀ c ∈ intDigits n.toInt, Text.isSpace c = false :=
    fun c => isSpace_of_mem_intDigits
  unfold readInteger int64Text intText
  rw [String.toList_ofList, Text.trim_eq_self hSolid, readInt64?_intDigits]
  rfl

theorem readFloat_text {x : Double} (hFinite : x.isFinite = true) :
    readFloat x.text = .ok x := by
  have hSolid : ∀ c ∈ plainLayout.render x, Text.isSpace c = false :=
    fun c => Double.isSpace_of_mem_render hFinite
  unfold readFloat Double.text
  rw [String.toList_ofList, Text.trim_eq_self hSolid, Double.ofText?_render plainLayout hFinite]
  simp [Option.filter, hFinite, orError]

theorem readDate_text (date : Date) : readDate date.text = .ok date := by
  unfold readDate
  rw [date.ofText?_text]
  rfl

theorem readInstant_text {t : Instant} (hWhole : t.nanos % nanosPerSecond = 0) :
    readInstant t.text = .ok t := by
  unfold readInstant
  rw [Instant.ofText?_text hWhole]
  rfl

/-- The whole seconds of an instant are a 64-bit integer. -/
theorem toInt_ofInt_seconds (t : Instant) : (Int64.ofInt t.seconds).toInt = t.seconds := by
  have hRange := t.range
  unfold minSecond maxSecond at hRange
  refine Int64.toInt_ofInt_of_le ?_ ?_
  · omega
  · omega

theorem readTimestamp_seconds {t : Instant} (hWhole : t.nanos = 0) :
    readTimestamp (intText t.seconds) = .ok t := by
  have hSeconds : readInteger (intText t.seconds) = .ok (Int64.ofInt t.seconds) := by
    have hRead := @readInteger_int64Text (Int64.ofInt t.seconds)
    rwa [int64Text, toInt_ofInt_seconds] at hRead
  unfold readTimestamp
  rw [Outcome.bind_ok hSeconds, toInt_ofInt_seconds, ← hWhole, t.of?_fields]
  rfl

end SingleTable.Codec
