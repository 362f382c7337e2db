import Provision.Command.Basic
import Provision.Proofs.Text.Runs
import Provision.Proofs.Text.Words

namespace Provision.Command

/-!
# What is kept of the output of a process

The output of a process is text as far as possible: the runs of characters stay, in order, and everything between
them is dropped.  So no text is lost, a replacement character that was written stays, and bytes that no text has
make no difference.
-/

open Text.Utf8

/-- What is kept of the bytes of a text is the text without the blanks around it. -/
theorem decode_ofString (text : String) :
    decode (ofString text) = Text.trimmed text := by
  rw [decode, ofString, (HasRuns.whole text.toList).decodeDropping_eq,
    List.flatten_singleton, Text.trimmed]

/--
What is kept of a byte sequence are its runs of characters, put together and without blanks around them; a byte
sequence has its runs in one way only.  All of a text is kept of its bytes, also when bytes that no text has stand
before, between and behind its characters, and what was kept is kept again.
-/
theorem decode_keeps_runs (bytes : Bytes) (text : String) :
    (∃ runs,
        HasRuns bytes runs ∧
          (∀ others, HasRuns bytes others → others = runs) ∧
          decode bytes = String.ofList (Text.trim runs.flatten)) ∧
      decode (ofString text) = Text.trimmed text ∧
      (∀ byte,
        (∀ c, byte ∉ encodeChar c) ↔
          byte = 0xc0 ∨ byte = 0xc1 ∨ 0xf5 ≤ byte) ∧
      (Strewn text.toList bytes →
        decode bytes = decode (ofString text)) ∧
      decode (ofString (decode bytes)) = decode bytes := by
  refine ⟨?_, decode_ofString text, not_mem_encodeChar_iff, fun strewn => ?_, ?_⟩
  · obtain ⟨runs, hasRuns⟩ := exists_hasRuns bytes
    refine ⟨runs, hasRuns, fun others hasOthers => hasOthers.unique hasRuns, ?_⟩
    rw [decode, hasRuns.decodeDropping_eq]
  · rw [decode_ofString, decode, strewn.decodeDropping_eq, Text.trimmed]
  · rw [decode_ofString, decode, Text.trimmed, String.toList_ofList,
      Text.trim_trim]

/-- Blanks, bytes that no text has, and a replacement character: the last is kept, the others are not. -/
theorem stray_bytes_are_dropped :
    Strewn ['o', 'k', ' ', '\ufffd', ' ']
        [0xff, 0x6f, 0xc0, 0xfe, 0x6b, 0x20, 0xef, 0xbf, 0xbd, 0xf5, 0x20] ∧
      decode [0xff, 0x6f, 0xc0, 0xfe, 0x6b, 0x20, 0xef, 0xbf, 0xbd, 0xf5, 0x20] =
        "ok \ufffd" := by
  have isStray {byte : UInt8} (isListed : byte = 0xc0 ∨ byte = 0xc1 ∨ 0xf5 ≤ byte) :
      ∀ c, byte ∉ encodeChar c :=
    (not_mem_encodeChar_iff byte).mpr isListed
  have strewn :
      Strewn ['o', 'k', ' ', '\ufffd', ' ']
        [0xff, 0x6f, 0xc0, 0xfe, 0x6b, 0x20, 0xef, 0xbf, 0xbd, 0xf5, 0x20] :=
    .stray (isStray (by decide)) <|
    .character 'o' <| .stray (isStray (by decide)) <|
    .stray (isStray (by decide)) <| .character 'k' <| .character ' ' <|
    .character '\ufffd' <| .stray (isStray (by decide)) <|
    .character ' ' .done
  refine ⟨strewn, ?_⟩
  rw [(decode_keeps_runs _ "ok \ufffd ").2.2.2.1 strewn, decode_ofString]
  decide

end Provision.Command
