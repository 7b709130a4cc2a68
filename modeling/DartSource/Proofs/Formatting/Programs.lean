import DartSource.Formatting.Formatter
import DartSource.Proofs.Text.Lossy
import DartSource.Script.Program

/-!
# Programs as formatters

A formatter that is a program gives the program the bytes of a text and reads its output as text.
Nothing is lost on the way (`Text.ofBytes_toBytes`). So a program that writes the bytes it is given
is the formatter that leaves every text as it is (`formatter_eq_passthrough_iff`), however the
programs behave. The script that hands its input on to its output is such a program: it ends with
success on every input, bytes that are no text included (`Script.start_copying`).
-/

namespace DartSource

namespace ExternalFormatter

variable {external : ExternalFormatter} {run : String → List String → List UInt8 → Outcome}

/-- **A program leaves every text as it is** iff, given the bytes of a text, it ends with success
and its output reads as that text. -/
theorem formatter_eq_passthrough_iff :
    external.formatter run = Formatter.passthrough ↔
      ∀ source, ∃ output complaint,
        run external.program external.arguments (Text.toBytes source) =
            .ended 0 output complaint ∧
          Text.ofBytes output = source := by
  constructor
  · intro same source
    have concluded : external.conclude (run external.program external.arguments
        (Text.toBytes source)) = .ok source := congrFun same source
    cases went : run external.program external.arguments (Text.toBytes source) with
    | notStarted => simp [went, conclude] at concluded
    | ended status output complaint =>
      rw [went, conclude] at concluded
      split at concluded
      next success => exact ⟨output, complaint, by rw [success], by simpa using concluded⟩
      next => cases concluded
  · intro copies
    funext source
    obtain ⟨output, complaint, went, read⟩ := copies source
    rw [formatter, went, conclude, if_pos rfl, read, Formatter.passthrough]

end ExternalFormatter

namespace Script

/-- Bytes come back from the characters that stand for them. -/
theorem toBytes_ofBytes (bytes : List UInt8) : toBytes (ofBytes bytes) = bytes := by
  have read (byte : UInt8) : UInt8.ofNat (Char.ofNat byte.toNat).toNat = byte := by
    have isChar : byte.toNat.isValidChar := Or.inl (Nat.lt_trans byte.toNat_lt (by decide))
    rw [Char.ofNat, dif_pos isChar]
    exact UInt8.ofNat_toNat
  rw [toBytes, ofBytes, List.map_map, Function.comp_def]
  simp only [read, List.map_id']

/-- The script that hands its input on. -/
def copying : String := "#!/bin/sh\ncat\n"

/-- **The copying script writes what it is given**, and ends with success. -/
theorem start_copying (path : String) (args : List String) (input : List UInt8) :
    start path copying args input = .ended 0 input [] := by
  -- the run does not look into its input, so it can be computed
  have ran : start path copying args input = .ended 0 (toBytes (ofBytes input ++ [])) [] := by
    with_unfolding_all rfl
  rw [ran, List.append_nil, toBytes_ofBytes]

/-- As a formatter, the copying script leaves every text as it is. -/
theorem formatter_start_copying (external : ExternalFormatter) :
    external.formatter (start · copying) = Formatter.passthrough :=
  ExternalFormatter.formatter_eq_passthrough_iff.mpr fun source =>
    ⟨Text.toBytes source, [], start_copying _ _ _, Text.ofBytes_toBytes source⟩

end Script

end DartSource
