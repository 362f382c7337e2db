import Mathlib.Tactic.IntervalCases
import Provision.Proofs.Text.Fields
import Provision.Text.Utf8

namespace Provision.Text.Utf8

/-!
# Texts and their bytes

A character is read back from its bytes, whatever stands behind them, so a text is read back from the bytes
of all its characters.  A byte of the ASCII range stands for the character with its number and for nothing
else, so a text can be cut at such a character before or after it is turned into bytes.
-/

/-! ## Bytes of one character -/

/-- A byte is the number that it was made of. -/
theorem toNat_ofNat
    {value : Nat}
    (isByte : value < 256) :
    (UInt8.ofNat value).toNat = value :=
  UInt8.toNat_ofNat_of_lt isByte

/-- A character of the ASCII range is one byte. -/
theorem encodeChar_of_ascii
    {c : Char}
    (isAscii : c.toNat < 0x80) :
    encodeChar c = [UInt8.ofNat c.toNat] := by
  have isShort : c.val.toNat ≤ 127 := Nat.le_of_lt_succ isAscii
  rw [encodeChar, String.utf8EncodeChar, if_pos isShort]
  rfl

/-- Every byte of a character outside of the ASCII range is outside of it, too. -/
theorem le_of_mem_encodeChar
    {c : Char}
    {byte : UInt8}
    (notAscii : 0x80 ≤ c.toNat)
    (member : byte ∈ encodeChar c) :
    0x80 ≤ byte.toNat := by
  have isLong : ¬c.val.toNat ≤ 127 := Nat.not_le_of_lt notAscii
  have isLarge (value : Nat) (isByte : value < 256) (isAbove : 128 ≤ value) :
      0x80 ≤ (UInt8.ofNat value).toNat := by
    rw [toNat_ofNat isByte]
    exact isAbove
  rw [encodeChar, String.utf8EncodeChar, if_neg isLong] at member
  split at member
  · simp only [List.mem_cons, List.not_mem_nil, or_false] at member
    rcases member with rfl | rfl
    · exact isLarge _ (by omega) (by omega)
    · exact isLarge _ (by omega) (by omega)
  · split at member
    · simp only [List.mem_cons, List.not_mem_nil, or_false] at member
      rcases member with rfl | rfl | rfl
      · exact isLarge _ (by omega) (by omega)
      · exact isLarge _ (by omega) (by omega)
      · exact isLarge _ (by omega) (by omega)
    · simp only [List.mem_cons, List.not_mem_nil, or_false] at member
      rcases member with rfl | rfl | rfl | rfl
      · exact isLarge _ (by omega) (by omega)
      · exact isLarge _ (by omega) (by omega)
      · exact isLarge _ (by omega) (by omega)
      · exact isLarge _ (by omega) (by omega)

/-! ## Reading a character -/

/-- A byte that continues a character adds six bits to its number. -/
theorem continueFrom_cons
    {part : Nat}
    (isPart : part < 64)
    (taken value more : Nat)
    (rest : Bytes) :
    continueFrom taken value (more + 1) (UInt8.ofNat (part + 128) :: rest) =
      continueFrom (taken + 1) (64 * value + part) more rest := by
  have isByte : (UInt8.ofNat (part + 128)).toNat = part + 128 :=
    toNat_ofNat (by omega)
  have isNext : isContinuation (UInt8.ofNat (part + 128)) = true := by
    simp only [isContinuation, Bool.and_eq_true, decide_eq_true_eq,
      UInt8.le_iff_toNat_le, isByte, UInt8.reduceToNat]
    omega
  rw [continueFrom, if_pos isNext, isByte, Nat.add_sub_cancel]

/-- The first of two bytes. -/
theorem lead?_two
    {part : Nat}
    (isEnough : 2 ≤ part)
    (isPart : part < 32) :
    lead? (UInt8.ofNat (part + 192)) = some ⟨part, 0x80, 0xbf, 0⟩ := by
  interval_cases part <;> rfl

/-- The first of three bytes. -/
theorem lead?_three
    {part : Nat}
    (isPart : part < 16) :
    lead? (UInt8.ofNat (part + 224)) =
      some ⟨part, if part = 0 then 0xa0 else 0x80,
        if part = 13 then 0x9f else 0xbf, 1⟩ := by
  interval_cases part <;> rfl

/-- The first of four bytes. -/
theorem lead?_four
    {part : Nat}
    (isPart : part < 5) :
    lead? (UInt8.ofNat (part + 240)) =
      some ⟨part, if part = 0 then 0x90 else 0x80,
        if part = 4 then 0x8f else 0xbf, 2⟩ := by
  interval_cases part <;> rfl

/-- A byte that opens a longer character, and the one behind it. -/
theorem symbolAt_of_lead
    {first : UInt8}
    {lead : Lead}
    {part : Nat}
    (isLead : lead? first = some lead)
    (notAscii : 0x80 ≤ first.toNat)
    (isPart : part < 64)
    (isLow : lead.low.toNat ≤ part + 128)
    (isHigh : part + 128 ≤ lead.high.toNat)
    (rest : Bytes) :
    symbolAt first (UInt8.ofNat (part + 128) :: rest) =
      continueFrom 1 (64 * lead.value + part) lead.more rest := by
  have isByte : (UInt8.ofNat (part + 128)).toNat = part + 128 :=
    toNat_ofNat (by omega)
  have isLong : ¬first < 0x80 := by
    rw [UInt8.lt_iff_toNat_lt]
    exact Nat.not_lt.mpr notAscii
  have isWithin :
      (lead.low ≤ UInt8.ofNat (part + 128) &&
        UInt8.ofNat (part + 128) ≤ lead.high) = true := by
    simp only [Bool.and_eq_true, decide_eq_true_eq, UInt8.le_iff_toNat_le,
      isByte]
    exact ⟨isLow, isHigh⟩
  unfold symbolAt
  rw [if_neg isLong, isLead]
  dsimp only
  rw [if_pos isWithin, isByte, Nat.add_sub_cancel]

/-- The number of a character is none of those that are reserved, and it is not too large. -/
theorem toNat_cases (c : Char) :
    c.val.toNat < 0xd800 ∨ 0xdfff < c.val.toNat ∧ c.val.toNat < 0x110000 :=
  c.valid

/-- A character is read from its bytes, whatever follows them. -/
theorem symbolAt_encodeChar (c : Char) :
    ∃ first others,
      encodeChar c = first :: others ∧
        ∀ rest, symbolAt first (others ++ rest) = (some c, others.length) := by
  have isChar : Char.ofNat c.val.toNat = c := Char.ofNat_toNat c
  have isValid := toNat_cases c
  rw [encodeChar]
  unfold String.utf8EncodeChar
  generalize c.val.toNat = value at isChar isValid
  by_cases isOne : value ≤ 127
  · refine ⟨_, _, if_pos isOne, fun rest => ?_⟩
    have isByte := @toNat_ofNat value (by omega)
    have isShort : UInt8.ofNat value < 0x80 := by
      rw [UInt8.lt_iff_toNat_lt, isByte]
      exact Nat.lt_succ_of_le isOne
    unfold symbolAt
    rw [if_pos isShort, isByte, isChar]
    rfl
  · rw [if_neg isOne]
    by_cases isTwo : value ≤ 2047
    · refine ⟨_, _, if_pos isTwo, fun rest => ?_⟩
      have isByte := @toNat_ofNat (value / 64 % 32 + 192) (by omega)
      have isLead := @lead?_two (value / 64 % 32) (by omega) (by omega)
      have isNumber : 64 * (value / 64 % 32) + value % 64 = value := by omega
      have isLow : (0x80 : UInt8).toNat ≤ value % 64 + 128 :=
        Nat.le_add_left _ _
      have isHigh : value % 64 + 128 ≤ (0xbf : UInt8).toNat := by
        simp only [UInt8.reduceToNat]
        omega
      rw [List.singleton_append,
        symbolAt_of_lead isLead (by omega) (by omega) isLow isHigh, isNumber,
        continueFrom, isChar]
      rfl
    · rw [if_neg isTwo]
      by_cases isThree : value ≤ 65535
      · refine ⟨_, _, if_pos isThree, fun rest => ?_⟩
        have isByte := @toNat_ofNat (value / 4096 % 16 + 224) (by omega)
        have isLead := @lead?_three (value / 4096 % 16) (by omega)
        have isNumber :
            64 * (64 * (value / 4096 % 16) + value / 64 % 64) + value % 64 =
              value := by
          omega
        have isLow :
            (if value / 4096 % 16 = 0 then 0xa0 else 0x80 : UInt8).toNat ≤
              value / 64 % 64 + 128 := by
          split
          · simp only [UInt8.reduceToNat]
            omega
          · simp only [UInt8.reduceToNat]
            omega
        have isHigh :
            value / 64 % 64 + 128 ≤
              (if value / 4096 % 16 = 13 then 0x9f else 0xbf : UInt8).toNat := by
          split
          · simp only [UInt8.reduceToNat]
            omega
          · simp only [UInt8.reduceToNat]
            omega
        rw [List.cons_append, List.singleton_append,
          symbolAt_of_lead isLead (by omega) (by omega) isLow isHigh,
          continueFrom_cons (by omega), isNumber, continueFrom, isChar]
        rfl
      · rw [if_neg isThree]
        refine ⟨_, _, rfl, fun rest => ?_⟩
        have isByte := @toNat_ofNat (value / 262144 % 8 + 240) (by omega)
        have isLead := @lead?_four (value / 262144 % 8) (by omega)
        have isNumber :
            64 * (64 * (64 * (value / 262144 % 8) + value / 4096 % 64) +
                value / 64 % 64) + value % 64 =
              value := by
          omega
        have isLow :
            (if value / 262144 % 8 = 0 then 0x90 else 0x80 : UInt8).toNat ≤
              value / 4096 % 64 + 128 := by
          split
          · simp only [UInt8.reduceToNat]
            omega
          · simp only [UInt8.reduceToNat]
            omega
        have isHigh :
            value / 4096 % 64 + 128 ≤
              (if value / 262144 % 8 = 4 then 0x8f else 0xbf : UInt8).toNat := by
          split
          · simp only [UInt8.reduceToNat]
            omega
          · simp only [UInt8.reduceToNat]
            omega
        rw [List.cons_append, List.cons_append, List.singleton_append,
          symbolAt_of_lead isLead (by omega) (by omega) isLow isHigh,
          continueFrom_cons (by omega), continueFrom_cons (by omega), isNumber,
          continueFrom, isChar]
        rfl

/-! ## Reading a text -/

/-- What belongs to the symbol before is passed over. -/
theorem symbolsAfter_append (others rest : Bytes) :
    symbolsAfter others.length (others ++ rest) = symbolsAfter 0 rest := by
  induction others with
  | nil => rfl
  | cons byte others inductionHypothesis =>
      rw [List.length_cons, List.cons_append, symbolsAfter,
        inductionHypothesis]

/-- The bytes of a text are read as its characters, whatever follows them. -/
theorem symbols_encode_append (text : List Char) (rest : Bytes) :
    symbols (encode text ++ rest) = text.map some ++ symbols rest := by
  induction text with
  | nil => rfl
  | cons c text inductionHypothesis =>
      obtain ⟨first, others, isBytes, isRead⟩ := symbolAt_encodeChar c
      rw [encode, List.flatMap_cons, isBytes, List.cons_append,
        List.cons_append, List.append_assoc, symbols, symbolsAfter, isRead]
      dsimp only
      rw [symbolsAfter_append, List.map_cons, List.cons_append,
        ← inductionHypothesis]
      rfl

/-- The symbols of the bytes of a text are its characters. -/
theorem symbols_encode (text : List Char) :
    symbols (encode text) = text.map some := by
  have isRead : symbols (encode text ++ []) = text.map some ++ [] :=
    symbols_encode_append text []
  rwa [List.append_nil, List.append_nil] at isRead

/-- A text is read back from its bytes. -/
theorem decode?_encode (text : List Char) :
    decode? (encode text) = some text := by
  rw [decode?, symbols_encode, List.mapM_map]
  exact List.mapM_pure (m := Option) (f := id) |>.trans (by simp)

/-- A text is read back from its bytes where other bytes would be replaced. -/
theorem decodeReplacing_encode (text : List Char) :
    decodeReplacing (encode text) = text := by
  rw [decodeReplacing, symbols_encode, List.map_map]
  exact List.map_id text

/-- A string is read back from its bytes. -/
theorem toString?_ofString (text : String) :
    toString? (ofString text) = some text := by
  rw [toString?, ofString, decode?_encode, Option.map_some,
    String.ofList_toList]

/-! ## Characters of the ASCII range -/

/-- A byte of the ASCII range stands in a text where its character does. -/
theorem mem_encode_iff
    {c : Char}
    (isAscii : c.toNat < 0x80)
    (text : List Char) :
    UInt8.ofNat c.toNat ∈ encode text ↔ c ∈ text := by
  rw [encode, List.mem_flatMap]
  constructor
  · rintro ⟨other, member, isByte⟩
    have isNumber := @toNat_ofNat c.toNat (by omega)
    by_cases isShort : other.toNat < 0x80
    · rw [encodeChar_of_ascii isShort, List.mem_singleton] at isByte
      have isSame : c.toNat = other.toNat := by
        rw [← isNumber, isByte, toNat_ofNat (by omega)]
      rwa [← Char.ofNat_toNat c, isSame, Char.ofNat_toNat]
    · have isLarge := le_of_mem_encodeChar (Nat.not_lt.mp isShort) isByte
      omega
  · intro member
    refine ⟨c, member, ?_⟩
    rw [encodeChar_of_ascii isAscii]
    exact List.mem_singleton_self _

/-- A text of the ASCII range has one byte for each character. -/
theorem encode_of_ascii
    {text : List Char}
    (areAscii : ∀ c ∈ text, c.toNat < 0x80) :
    encode text = text.map fun c => UInt8.ofNat c.toNat := by
  induction text with
  | nil => rfl
  | cons c text inductionHypothesis =>
      have isRest :=
        inductionHypothesis fun other member =>
          areAscii other (.tail _ member)
      rw [encode, List.flatMap_cons, encodeChar_of_ascii (areAscii c (.head _)),
        List.singleton_append, List.map_cons, ← isRest]
      rfl

/-- A text can be cut at a character of the ASCII range before or after it is turned into bytes. -/
theorem fields_encode
    {separator : Char}
    (isAscii : separator.toNat < 0x80)
    (text : List Char) :
    fields (UInt8.ofNat separator.toNat) (encode text) =
      (fields separator text).map encode := by
  induction text with
  | nil => rfl
  | cons c text inductionHypothesis =>
      rw [encode, List.flatMap_cons]
      change fields _ (encodeChar c ++ encode text) = _
      by_cases isSeparator : c = separator
      · rw [isSeparator, encodeChar_of_ascii isAscii, List.singleton_append,
          fields, fields, if_pos rfl, if_pos rfl, inductionHypothesis]
        rfl
      · have notMember :
            UInt8.ofNat separator.toNat ∉ encodeChar c := by
          have isText : encodeChar c = encode [c] := (List.append_nil _).symm
          rw [isText, mem_encode_iff isAscii, List.mem_singleton]
          exact Ne.symm isSeparator
        obtain ⟨first, others, isCons, isFields⟩ :=
          exists_fields_append notMember (encode text)
        rw [isFields, fields, if_neg isSeparator]
        rw [inductionHypothesis] at isCons
        cases isRest : fields separator text with
        | nil => exact absurd isRest (fields_ne_nil separator text)
        | cons head tail =>
            rw [isRest, List.map_cons] at isCons
            obtain ⟨rfl, rfl⟩ := List.cons.inj isCons
            rfl

end Provision.Text.Utf8
