import Provision.Text.Fields

namespace Provision.Text

/-!
# Occurrences of a text in another

`around?` cuts a text at the first occurrence of another one, and `replaceAll` replaces every
occurrence, from left to right and without overlap.
-/

/-- The text before the first occurrence of another text, and the text after it. -/
def around? (sought : List Char) : List Char → Option (List Char × List Char)
  | [] => if sought = [] then some ([], []) else none
  | c :: rest =>
      match after? sought (c :: rest) with
      | some after => some ([], after)
      | none => (around? sought rest).map fun (before, after) => (c :: before, after)

/-- Whether a text occurs in another one. -/
def occursIn (sought text : List Char) : Bool :=
  (around? sought text).isSome

/--
Replace what a reader recognises.  The reader answers what to write and how many characters it
stands for; the first argument counts the characters that are still to be passed over.
-/
def replaceWith (recognise : List Char → Option (List Char × Nat)) :
    Nat → List Char → List Char
  | _, [] => []
  | skipped + 1, _ :: rest => replaceWith recognise skipped rest
  | 0, c :: rest =>
      match recognise (c :: rest) with
      | some (written, size) => written ++ replaceWith recognise (size - 1) rest
      | none => c :: replaceWith recognise 0 rest

/-- Replace every occurrence of a text by another one. -/
def replaceAll (sought replacement text : String) : String :=
  let recognise := fun rest : List Char =>
    (after? sought.toList rest).map fun _ => (replacement.toList, sought.length)
  String.ofList (replaceWith recognise 0 text.toList)

/-- A cut text is the part before, the text it was cut at, and the part after. -/
theorem eq_of_around?
    {sought text before after : List Char}
    (cut : around? sought text = some (before, after)) :
    text = before ++ sought ++ after := by
  induction text generalizing before with
  | nil =>
      simp only [around?] at cut
      split at cut
      · simp_all
      · simp at cut
  | cons c rest inductionHypothesis =>
      simp only [around?] at cut
      split at cut
      · rename_i opening
        obtain ⟨rfl, rfl⟩ : [] = before ∧ _ = after := by simpa using cut
        simpa using eq_append_of_after? opening
      · obtain ⟨⟨inner, outer⟩, found, same⟩ := Option.map_eq_some_iff.mp cut
        obtain ⟨rfl, rfl⟩ : c :: inner = before ∧ outer = after := by simpa using same
        simpa using inductionHypothesis found

end Provision.Text
