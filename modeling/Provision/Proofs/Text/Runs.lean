import Provision.Proofs.Text.Utf8

namespace Provision.Text.Utf8

/-!
# Runs of characters between broken bytes

Every byte sequence is made of runs of characters with broken bytes between them, in exactly one way.  What is broken
at one place is as long as it still begins some character, and otherwise a single byte.  The dropping reading keeps
the runs and nothing else.
-/

/-! ## Bytes behind the first one -/

/-- Bytes that may stand behind the first one of a longer character, as many as there are. -/
structure Follows (lead : Lead) (bytes : Bytes) : Prop where
  second : ∀ byte ∈ bytes.head?, lead.low ≤ byte ∧ byte ≤ lead.high
  others : ∀ byte ∈ bytes.tail, isContinuation byte = true

/-- The number of a character with the given bytes behind its first one. -/
def numberOf (lead : Lead) (bytes : Bytes) : Nat :=
  bytes.foldl (fun value byte => 64 * value + (byte.toNat - 0x80)) lead.value

theorem Follows.nil (lead : Lead) :
    Follows lead [] :=
  ⟨by simp, by simp⟩

/-- Fewer bytes may stand there, too. -/
theorem Follows.of_append
    {lead : Lead}
    {bytes more : Bytes}
    (follows : Follows lead (bytes ++ more)) :
    Follows lead bytes := by
  cases bytes with
  | nil => exact .nil lead
  | cons second others =>
      refine ⟨follows.second, fun byte member => ?_⟩
      exact follows.others byte (List.mem_append_left more member)

/-- A byte may be added behind others if it continues a character. -/
theorem follows_concat_iff
    {lead : Lead}
    {second byte : UInt8}
    {others : Bytes}
    (follows : Follows lead (second :: others)) :
    Follows lead (second :: others ++ [byte]) ↔ isContinuation byte = true := by
  constructor
  · intro longer
    exact longer.others byte (by simp)
  · intro continues
    refine ⟨follows.second, fun other member => ?_⟩
    rcases List.mem_append.mp member with member | member
    · exact follows.others other member
    · exact List.mem_singleton.mp member ▸ continues

/-- Continuation bytes are read as far as there are any, and no more than are missing. -/
theorem continueFrom_cases (taken value more : Nat) (rest : Bytes) :
    ∃ tail left,
      rest = tail ++ left ∧
        (∀ byte ∈ tail, isContinuation byte = true) ∧
        (tail.length = more ∧
            continueFrom taken value more rest =
              (some (Char.ofNat
                (tail.foldl
                  (fun value byte => 64 * value + (byte.toNat - 0x80)) value)),
                taken + tail.length) ∨
          tail.length < more ∧
            continueFrom taken value more rest =
              (none, taken + tail.length) ∧
            ∀ byte ∈ left.head?, isContinuation byte = false) := by
  induction more generalizing taken value rest with
  | zero => exact ⟨[], rest, rfl, by simp, Or.inl ⟨rfl, by simp [continueFrom]⟩⟩
  | succ more inductionHypothesis =>
      cases rest with
      | nil =>
          exact ⟨[], [], rfl, by simp, Or.inr ⟨by simp, by simp [continueFrom], by simp⟩⟩
      | cons byte rest =>
          rw [continueFrom]
          split
          · rename_i continues
            obtain ⟨tail, left, rfl, areAll, isRead⟩ :=
              inductionHypothesis (taken + 1) (64 * value + (byte.toNat - 0x80))
                rest
            have isLength : taken + 1 + tail.length = taken + (byte :: tail).length := by
              simp only [List.length_cons]
              omega
            rw [isLength] at isRead
            refine ⟨byte :: tail, left, rfl, ?_, ?_⟩
            · simpa [continues] using areAll
            · rw [List.foldl_cons]
              rcases isRead with ⟨isWhole, isRead⟩ | ⟨isShort, isRead, isEnd⟩
              · exact Or.inl ⟨by simp [isWhole], isRead⟩
              · exact Or.inr ⟨by simpa using isShort, isRead, isEnd⟩
          · rename_i ends
            refine ⟨[], byte :: rest, rfl, by simp, Or.inr ⟨by simp, rfl, ?_⟩⟩
            simpa using ends

/-- A longer character is read as far as the bytes behind its first one may stand there. -/
theorem symbolAt_cases
    {first : UInt8}
    {lead : Lead}
    (isLong : ¬first < 0x80)
    (isLead : lead? first = some lead)
    (rest : Bytes) :
    ∃ tail left,
      rest = tail ++ left ∧
        Follows lead tail ∧
        (tail.length = lead.more + 1 ∧
            symbolAt first rest =
              (some (Char.ofNat (numberOf lead tail)), tail.length) ∨
          tail.length ≤ lead.more ∧
            symbolAt first rest = (none, tail.length) ∧
            ∀ byte ∈ left.head?, ¬Follows lead (tail ++ [byte])) := by
  unfold symbolAt
  rw [if_neg isLong, isLead]
  cases rest with
  | nil =>
      refine ⟨[], [], rfl, .nil lead, Or.inr ⟨Nat.zero_le _, rfl, by simp⟩⟩
  | cons second others =>
      dsimp only
      split
      · rename_i isWithin
        rw [Bool.and_eq_true, decide_eq_true_eq, decide_eq_true_eq] at isWithin
        obtain ⟨tail, left, rfl, areAll, isRead⟩ :=
          continueFrom_cases 1 (64 * lead.value + (second.toNat - 0x80)) lead.more
            others
        have follows : Follows lead (second :: tail) :=
          ⟨by simpa using isWithin, areAll⟩
        rw [Nat.add_comm 1] at isRead
        refine ⟨second :: tail, left, rfl, follows, ?_⟩
        rw [numberOf, List.foldl_cons]
        rcases isRead with ⟨isWhole, isRead⟩ | ⟨isShort, isRead, isEnd⟩
        · exact Or.inl ⟨by simp [isWhole], isRead⟩
        · refine Or.inr ⟨isShort, isRead, fun byte member => ?_⟩
          rw [follows_concat_iff follows, isEnd byte member]
          exact Bool.false_ne_true
      · rename_i notWithin
        refine ⟨[], second :: others, rfl, .nil lead, Or.inr ⟨Nat.zero_le _, rfl, ?_⟩⟩
        rintro byte member follows
        obtain rfl : second = byte := by simpa using member
        have isWithin := follows.second second (by simp)
        exact notWithin (by simpa using isWithin)

/-! ## Bytes that make up a character -/

theorem isContinuation_iff (byte : UInt8) :
    isContinuation byte = true ↔ 0x80 ≤ byte ∧ byte ≤ 0xbf := by
  rw [isContinuation, Bool.and_eq_true, decide_eq_true_eq, decide_eq_true_eq]

/-- A continuation byte holds six bits. -/
theorem exists_part
    {byte : UInt8}
    (continues : isContinuation byte = true) :
    ∃ part, part < 64 ∧ byte = UInt8.ofNat (part + 128) := by
  rw [isContinuation_iff, UInt8.le_iff_toNat_le, UInt8.le_iff_toNat_le] at continues
  obtain ⟨isAbove, isBelow⟩ : 0x80 ≤ byte.toNat ∧ byte.toNat ≤ 0xbf := continues
  refine ⟨byte.toNat - 128, by omega, ?_⟩
  rw [Nat.sub_add_cancel isAbove, UInt8.ofNat_toNat]

/-- Only bytes from 0xc2 to 0xf4 open longer characters. -/
theorem lead?_eq_none
    {first : UInt8}
    (isOutside : first.toNat < 0xc2 ∨ 0xf5 ≤ first.toNat) :
    lead? first = none := by
  have notWithin
      (least greatest : UInt8)
      (isLow : 0xc2 ≤ least.toNat)
      (isHigh : greatest.toNat < 0xf5) :
      ¬(least ≤ first && first ≤ greatest) = true := by
    rw [Bool.and_eq_true, decide_eq_true_eq, decide_eq_true_eq,
      UInt8.le_iff_toNat_le, UInt8.le_iff_toNat_le]
    omega
  have notEqual
      (value : UInt8)
      (isLow : 0xc2 ≤ value.toNat)
      (isHigh : value.toNat < 0xf5) :
      first ≠ value := by
    rintro rfl
    omega
  rw [lead?, if_neg (notWithin _ _ (by decide) (by decide)),
    if_neg (notEqual _ (by decide) (by decide)),
    if_neg (notEqual _ (by decide) (by decide)),
    if_neg (notWithin _ _ (by decide) (by decide)),
    if_neg (notEqual _ (by decide) (by decide)),
    if_neg (notEqual _ (by decide) (by decide)),
    if_neg (notWithin _ _ (by decide) (by decide))]

/-- The bytes that open characters of two, three and four bytes, with what they say about the bytes behind them. -/
inductive IsLead : UInt8 → Lead → Prop where
  | two {part : Nat} :
      2 ≤ part →
      part < 32 →
      IsLead (UInt8.ofNat (part + 192)) ⟨part, 0x80, 0xbf, 0⟩
  | three {part : Nat} :
      part < 16 →
      IsLead (UInt8.ofNat (part + 224))
        ⟨part, if part = 0 then 0xa0 else 0x80,
          if part = 13 then 0x9f else 0xbf, 1⟩
  | four {part : Nat} :
      part < 5 →
      IsLead (UInt8.ofNat (part + 240))
        ⟨part, if part = 0 then 0x90 else 0x80,
          if part = 4 then 0x8f else 0xbf, 2⟩

/-- Every byte from 0xc2 to 0xf4 opens a longer character. -/
theorem exists_isLead
    {first : UInt8}
    (isAbove : 0xc2 ≤ first.toNat)
    (isBelow : first.toNat < 0xf5) :
    ∃ lead, IsLead first lead := by
  have isByte (least : Nat) (isAbove : least ≤ first.toNat) :
      UInt8.ofNat (first.toNat - least + least) = first := by
    rw [Nat.sub_add_cancel isAbove, UInt8.ofNat_toNat]
  by_cases isTwo : first.toNat < 0xe0
  · rw [← isByte 192 (by omega)]
    exact ⟨_, .two (by omega) (by omega)⟩
  · by_cases isThree : first.toNat < 0xf0
    · rw [← isByte 224 (by omega)]
      exact ⟨_, .three (by omega)⟩
    · rw [← isByte 240 (by omega)]
      exact ⟨_, .four (by omega)⟩

theorem IsLead.lead?_eq
    {first : UInt8}
    {lead : Lead}
    (isLead : IsLead first lead) :
    lead? first = some lead := by
  cases isLead with
  | two isEnough isPart => exact lead?_two isEnough isPart
  | three isPart => exact lead?_three isPart
  | four isPart => exact lead?_four isPart

/-- The bytes that are told to open longer characters are those that do. -/
theorem lead?_eq_some_iff
    {first : UInt8}
    {lead : Lead} :
    lead? first = some lead ↔ IsLead first lead := by
  refine ⟨fun isTold => ?_, IsLead.lead?_eq⟩
  have isRange : ¬(first.toNat < 0xc2 ∨ 0xf5 ≤ first.toNat) := by
    intro isOutside
    rw [lead?_eq_none isOutside] at isTold
    simp at isTold
  obtain ⟨other, isLead⟩ := @exists_isLead first (by omega) (by omega)
  rwa [Option.some.inj (isTold.symm.trans isLead.lead?_eq)]

/-- What may stand behind a first byte are continuation bytes, and there are some. -/
theorem range_of_lead?
    {first : UInt8}
    {lead : Lead}
    (isLead : lead? first = some lead) :
    0x80 ≤ lead.low ∧ lead.low ≤ lead.high ∧ lead.high ≤ 0xbf := by
  cases lead?_eq_some_iff.mp isLead with
  | two => exact ⟨UInt8.le_refl _, by simp, UInt8.le_refl _⟩
  | @three part isPart => interval_cases part <;> decide
  | @four part isPart => interval_cases part <;> decide

/-- A number that is not reserved and not too large is that of a character. -/
theorem val_ofNat
    {value : Nat}
    (isValid : value < 0xd800 ∨ 0xdfff < value ∧ value < 0x110000) :
    (Char.ofNat value).val.toNat = value := by
  rw [Char.ofNat, dif_pos isValid]
  rfl

theorem encodeChar_two
    {first second : Nat}
    (isEnough : 2 ≤ first)
    (isFirst : first < 32)
    (isSecond : second < 64) :
    encodeChar (Char.ofNat (64 * first + second)) =
      [UInt8.ofNat (first + 192), UInt8.ofNat (second + 128)] := by
  have isNumber := @val_ofNat (64 * first + second) (by omega)
  have atFirst : (64 * first + second) / 64 % 32 = first := by omega
  have atSecond : (64 * first + second) % 64 = second := by omega
  rw [encodeChar, String.utf8EncodeChar, isNumber, if_neg (by omega),
    if_pos (by omega), atFirst, atSecond]

theorem encodeChar_three
    {first second third : Nat}
    (isFirst : first < 16)
    (isSecond : second < 64)
    (isThird : third < 64)
    (isEnough : first = 0 → 32 ≤ second)
    (notReserved : first = 13 → second < 32) :
    encodeChar (Char.ofNat (64 * (64 * first + second) + third)) =
      [UInt8.ofNat (first + 224), UInt8.ofNat (second + 128),
        UInt8.ofNat (third + 128)] := by
  have isNumber := @val_ofNat (64 * (64 * first + second) + third) (by omega)
  have atFirst :
      (64 * (64 * first + second) + third) / 4096 % 16 = first := by omega
  have atSecond :
      (64 * (64 * first + second) + third) / 64 % 64 = second := by omega
  have atThird : (64 * (64 * first + second) + third) % 64 = third := by omega
  rw [encodeChar, String.utf8EncodeChar, isNumber, if_neg (by omega),
    if_neg (by omega), if_pos (by omega), atFirst, atSecond, atThird]

theorem encodeChar_four
    {first second third fourth : Nat}
    (isFirst : first < 5)
    (isSecond : second < 64)
    (isThird : third < 64)
    (isFourth : fourth < 64)
    (isEnough : first = 0 → 16 ≤ second)
    (notTooLarge : first = 4 → second < 16) :
    encodeChar (Char.ofNat (64 * (64 * (64 * first + second) + third) + fourth)) =
      [UInt8.ofNat (first + 240), UInt8.ofNat (second + 128),
        UInt8.ofNat (third + 128), UInt8.ofNat (fourth + 128)] := by
  have isNumber :=
    @val_ofNat (64 * (64 * (64 * first + second) + third) + fourth) (by omega)
  have atFirst :
      (64 * (64 * (64 * first + second) + third) + fourth) / 262144 % 8 =
        first := by
    omega
  have atSecond :
      (64 * (64 * (64 * first + second) + third) + fourth) / 4096 % 64 =
        second := by
    omega
  have atThird :
      (64 * (64 * (64 * first + second) + third) + fourth) / 64 % 64 =
        third := by
    omega
  have atFourth :
      (64 * (64 * (64 * first + second) + third) + fourth) % 64 = fourth := by
    omega
  rw [encodeChar, String.utf8EncodeChar, isNumber, if_neg (by omega),
    if_neg (by omega), if_neg (by omega), atFirst, atSecond, atThird, atFourth]

/-- All bytes behind a first one are continuation bytes. -/
theorem Follows.areContinuations
    {first : UInt8}
    {lead : Lead}
    {tail : Bytes}
    (follows : Follows lead tail)
    (isLead : lead? first = some lead) :
    ∀ byte ∈ tail, isContinuation byte = true := by
  cases tail with
  | nil => simp
  | cons second others =>
      obtain ⟨isLow, -, isHigh⟩ := range_of_lead? isLead
      obtain ⟨isAbove, isBelow⟩ := follows.second second (by simp)
      have isSecond : isContinuation second = true :=
        (isContinuation_iff second).mpr
          ⟨UInt8.le_trans isLow isAbove, UInt8.le_trans isBelow isHigh⟩
      intro byte member
      rcases List.mem_cons.mp member with rfl | member
      · exact isSecond
      · exact follows.others byte member

/-- The byte behind a first one, with the six bits that it holds. -/
theorem Follows.exists_second
    {first : UInt8}
    {lead : Lead}
    {second : UInt8}
    {others : Bytes}
    (follows : Follows lead (second :: others))
    (isLead : lead? first = some lead) :
    ∃ part,
      part < 64 ∧ second = UInt8.ofNat (part + 128) ∧
        lead.low.toNat ≤ part + 128 ∧ part + 128 ≤ lead.high.toNat := by
  obtain ⟨isAbove, isBelow⟩ := follows.second second (by simp)
  obtain ⟨part, isPart, rfl⟩ :=
    exists_part (follows.areContinuations isLead second (by simp))
  rw [UInt8.le_iff_toNat_le, toNat_ofNat (by omega)] at isAbove isBelow
  exact ⟨part, isPart, rfl, isAbove, isBelow⟩

/-- Bytes that may stand behind a first one, as many as it calls for, make up a character with it. -/
theorem encodeChar_numberOf
    {first : UInt8}
    {lead : Lead}
    {tail : Bytes}
    (isLead : lead? first = some lead)
    (follows : Follows lead tail)
    (isWhole : tail.length = lead.more + 1) :
    encodeChar (Char.ofNat (numberOf lead tail)) = first :: tail := by
  have isStep (value part : Nat) (isPart : part < 64) :
      64 * value + ((UInt8.ofNat (part + 128)).toNat - 0x80) =
        64 * value + part := by
    rw [toNat_ofNat (by omega), Nat.add_sub_cancel]
  have isContinued (byte : UInt8) (member : byte ∈ tail) :
      ∃ part, part < 64 ∧ byte = UInt8.ofNat (part + 128) :=
    exists_part (follows.areContinuations isLead byte member)
  cases lead?_eq_some_iff.mp isLead with
  | @two part isEnough isPart =>
    match tail, isWhole with
    | [second], _ =>
        obtain ⟨second, isSecond, rfl, -⟩ :=
          follows.exists_second isLead
        rw [numberOf, List.foldl_cons, List.foldl_nil, isStep _ _ isSecond]
        exact encodeChar_two isEnough isPart isSecond
  | @three part isPart =>
    match tail, isWhole with
    | [second, third], _ =>
        obtain ⟨second, isSecond, rfl, isAbove, isBelow⟩ :=
          follows.exists_second isLead
        obtain ⟨third, isThird, rfl⟩ := isContinued third (by simp)
        rw [numberOf, List.foldl_cons, List.foldl_cons, List.foldl_nil,
          isStep _ _ isSecond, isStep _ _ isThird]
        refine encodeChar_three isPart isSecond isThird ?_ ?_
        · rintro rfl
          change 160 ≤ second + 128 at isAbove
          omega
        · rintro rfl
          change second + 128 ≤ 159 at isBelow
          omega
  | @four part isPart =>
    match tail, isWhole with
    | [second, third, fourth], _ =>
        obtain ⟨second, isSecond, rfl, isAbove, isBelow⟩ :=
          follows.exists_second isLead
        obtain ⟨third, isThird, rfl⟩ := isContinued third (by simp)
        obtain ⟨fourth, isFourth, rfl⟩ := isContinued fourth (by simp)
        rw [numberOf, List.foldl_cons, List.foldl_cons, List.foldl_cons,
          List.foldl_nil, isStep _ _ isSecond, isStep _ _ isThird,
          isStep _ _ isFourth]
        refine encodeChar_four isPart isSecond isThird isFourth ?_ ?_
        · rintro rfl
          change 144 ≤ second + 128 at isAbove
          omega
        · rintro rfl
          change second + 128 ≤ 143 at isBelow
          omega

/-! ## Characters and broken bytes -/

/-- Whether bytes are the first ones of some character. -/
def Opens (bytes : Bytes) : Prop :=
  ∃ c, bytes <+: encodeChar c

/--
Bytes in front of others where no character stands: as many as still begin some character, or else a single one.
-/
structure IsBroken (broken rest : Bytes) : Prop where
  notEmpty : broken ≠ []
  noCharacter : ∀ c, ¬encodeChar c <+: broken ++ rest
  opens : 1 < broken.length → Opens broken
  isLongest : ∀ byte ∈ rest.head?, ¬Opens (broken ++ [byte])

/-- Byte sequences with the runs of characters that stand before, between and behind broken bytes. -/
inductive HasRuns : Bytes → List (List Char) → Prop where
  | whole (run : List Char) : HasRuns (encode run) [run]
  | cut (run : List Char) {broken rest : Bytes} {runs : List (List Char)} :
      IsBroken broken rest →
      HasRuns rest runs →
      HasRuns (encode run ++ (broken ++ rest)) (run :: runs)

/-- A byte of the ASCII range is a character of its own. -/
theorem encodeChar_of_lt
    {byte : UInt8}
    (isShort : byte < 0x80) :
    encodeChar (Char.ofNat byte.toNat) = [byte] := by
  rw [UInt8.lt_iff_toNat_lt] at isShort
  have isSmall : byte.toNat < 0x80 := isShort
  have isNumber : (Char.ofNat byte.toNat).toNat = byte.toNat :=
    val_ofNat (Or.inl (by omega))
  rw [encodeChar_of_ascii (by rwa [isNumber]), isNumber, UInt8.ofNat_toNat]

/-- Behind the first byte of a longer character stand bytes that may stand there, as many as it calls for. -/
theorem exists_follows
    {c : Char}
    {first : UInt8}
    {tail : Bytes}
    (isBytes : encodeChar c = first :: tail)
    (isLong : ¬first < 0x80) :
    ∃ lead,
      lead? first = some lead ∧ Follows lead tail ∧
        tail.length = lead.more + 1 := by
  obtain ⟨_, _, isCons, isRead⟩ := symbolAt_encodeChar c
  obtain ⟨rfl, rfl⟩ := List.cons.inj (isBytes.symm.trans isCons)
  have isRead := isRead []
  rw [List.append_nil] at isRead
  cases isLead : lead? first with
  | none => simp [symbolAt, isLong, isLead] at isRead
  | some lead =>
      obtain ⟨front, left, rfl, follows, isFront⟩ :=
        symbolAt_cases isLong isLead tail
      rcases isFront with ⟨isWhole, isFront⟩ | ⟨-, isFront, -⟩
      · have isLength :=
          congrArg Prod.snd (isFront.symm.trans isRead)
        have isNil : left = [] := by simpa using isLength
        rw [isNil, List.append_nil]
        exact ⟨lead, rfl, follows, isWhole⟩
      · simpa using isFront.symm.trans isRead

/-- Bytes behind a first one can be completed, as long as all of them may stand there. -/
theorem Follows.exists_completion
    {first : UInt8}
    {lead : Lead}
    {tail : Bytes}
    (follows : Follows lead tail)
    (isLead : lead? first = some lead)
    (isEnough : tail.length ≤ lead.more + 1) :
    ∃ more,
      Follows lead (tail ++ more) ∧
        (tail ++ more).length = lead.more + 1 := by
  have continues (count : Nat) :
      ∀ byte ∈ List.replicate count (0x80 : UInt8),
        isContinuation byte = true := by
    intro byte member
    rw [List.eq_of_mem_replicate member]
    decide
  cases tail with
  | nil =>
      refine ⟨lead.low :: List.replicate lead.more 0x80,
        ⟨?_, continues lead.more⟩, by simp⟩
      simpa using (range_of_lead? isLead).2.1
  | cons second others =>
      have isLess : others.length ≤ lead.more := Nat.le_of_succ_le_succ isEnough
      refine ⟨List.replicate (lead.more - others.length) 0x80,
        ⟨follows.second, fun byte member => ?_⟩, ?_⟩
      · rcases List.mem_append.mp member with member | member
        · exact follows.others byte member
        · exact continues _ byte member
      · rw [List.length_append, List.length_replicate, List.length_cons]
        omega

/-- What opens a longer character is a first byte with some of the bytes that may stand behind it. -/
theorem opens_cons_iff
    {first : UInt8}
    {tail : Bytes}
    (isLong : ¬first < 0x80) :
    Opens (first :: tail) ↔
      ∃ lead,
        lead? first = some lead ∧ Follows lead tail ∧
          tail.length ≤ lead.more + 1 := by
  constructor
  · rintro ⟨c, more, isBytes⟩
    rw [List.cons_append] at isBytes
    obtain ⟨lead, isLead, follows, isWhole⟩ :=
      exists_follows isBytes.symm isLong
    refine ⟨lead, isLead, follows.of_append, ?_⟩
    rw [← isWhole, List.length_append]
    exact Nat.le_add_right _ _
  · rintro ⟨lead, isLead, follows, isEnough⟩
    obtain ⟨more, follows, isWhole⟩ := follows.exists_completion isLead isEnough
    exact ⟨_, more, (encodeChar_numberOf isLead follows isWhole).symm⟩

/-- A character is read where its bytes stand. -/
theorem symbolAt_of_prefix
    {c : Char}
    {first : UInt8}
    {rest : Bytes}
    (stands : encodeChar c <+: first :: rest) :
    ∃ length, symbolAt first rest = (some c, length) := by
  obtain ⟨left, isBytes⟩ := stands
  obtain ⟨_, others, isCons, isRead⟩ := symbolAt_encodeChar c
  rw [isCons, List.cons_append] at isBytes
  obtain ⟨rfl, rfl⟩ := List.cons.inj isBytes
  exact ⟨_, isRead left⟩

/-- What is read at a byte is the character that stands there, or else the broken bytes there. -/
theorem exists_of_symbolAt (first : UInt8) (rest : Bytes) :
    ∃ tail left,
      rest = tail ++ left ∧
        ((∃ c,
            symbolAt first rest = (some c, tail.length) ∧
              encodeChar c = first :: tail) ∨
          symbolAt first rest = (none, tail.length) ∧
            IsBroken (first :: tail) left) := by
  by_cases isShort : first < 0x80
  · refine ⟨[], rest, rfl, Or.inl ⟨_, ?_, encodeChar_of_lt isShort⟩⟩
    unfold symbolAt
    rw [if_pos isShort]
    rfl
  · have isBroken {tail left : Bytes} :
        rest = tail ++ left →
        symbolAt first rest = (none, tail.length) →
        (tail ≠ [] → Opens (first :: tail)) →
        (∀ byte ∈ left.head?, ¬Opens (first :: (tail ++ [byte]))) →
        IsBroken (first :: tail) left := by
      rintro rfl isRead opens isLongest
      refine ⟨by simp, fun c stands => ?_, fun isMore => opens ?_, isLongest⟩
      · obtain ⟨length, isSymbol⟩ := symbolAt_of_prefix stands
        simpa using isRead.symm.trans isSymbol
      · rintro rfl
        simp at isMore
    cases isLead : lead? first with
    | none =>
        have noSymbol : symbolAt first rest = (none, 0) := by
          simp [symbolAt, isShort, isLead]
        refine ⟨[], rest, rfl, Or.inr ⟨noSymbol, isBroken rfl noSymbol ?_ ?_⟩⟩
        · exact fun notNil => absurd rfl notNil
        · intro byte _ opens
          obtain ⟨lead, isLead', -⟩ := (opens_cons_iff isShort).mp opens
          simp [isLead] at isLead'
    | some lead =>
        obtain ⟨tail, left, isRest, follows, isRead⟩ :=
          symbolAt_cases isShort isLead rest
        refine ⟨tail, left, isRest, ?_⟩
        rcases isRead with ⟨isWhole, isRead⟩ | ⟨isLess, isRead, isEnd⟩
        · exact Or.inl ⟨_, isRead, encodeChar_numberOf isLead follows isWhole⟩
        · refine Or.inr ⟨isRead, isBroken isRest isRead ?_ ?_⟩
          · intro _
            exact (opens_cons_iff isShort).mpr
              ⟨lead, isLead, follows, Nat.le_succ_of_le isLess⟩
          · intro byte member opens
            obtain ⟨lead', isLead', longer, -⟩ :=
              (opens_cons_iff isShort).mp opens
            obtain rfl := Option.some.inj (isLead.symm.trans isLead')
            exact isEnd byte member longer

/-! ## The runs of a byte sequence -/

/-- Broken bytes are no fewer than other broken bytes that start with them. -/
theorem IsBroken.eq_of_prefix
    {broken rest other others : Bytes}
    (isBroken : IsBroken broken rest)
    (isOther : IsBroken other others)
    (isSame : broken ++ rest = other ++ others)
    (isPrefix : broken <+: other) :
    broken = other := by
  obtain ⟨more, rfl⟩ := isPrefix
  rw [List.append_assoc, List.append_cancel_left_eq] at isSame
  subst isSame
  cases more with
  | nil => rw [List.append_nil]
  | cons byte more =>
      have isMore : 1 < (broken ++ byte :: more).length := by
        have isSome := List.length_pos_iff.mpr isBroken.notEmpty
        rw [List.length_append, List.length_cons]
        omega
      obtain ⟨c, opens⟩ := isOther.opens isMore
      refine absurd ⟨c, List.IsPrefix.trans ?_ opens⟩
        (isBroken.isLongest byte (by simp))
      exact (List.prefix_append_right_inj broken).mpr ⟨more, rfl⟩

/-- What is broken at one place is determined by the bytes there. -/
theorem IsBroken.unique
    {broken rest other others : Bytes}
    (isBroken : IsBroken broken rest)
    (isOther : IsBroken other others)
    (isSame : broken ++ rest = other ++ others) :
    broken = other := by
  have isPrefix : broken <+: other ++ others := isSame ▸ List.prefix_append _ _
  rcases List.prefix_or_prefix_of_prefix isPrefix (List.prefix_append _ _) with
    isPrefix | isPrefix
  · exact isBroken.eq_of_prefix isOther isSame isPrefix
  · exact (isOther.eq_of_prefix isBroken isSame.symm isPrefix).symm

/-- Broken bytes are one symbol that is no character. -/
theorem symbols_of_isBroken
    {broken rest : Bytes}
    (isBroken : IsBroken broken rest) :
    symbols (broken ++ rest) = none :: symbols rest := by
  obtain ⟨first, tail, rfl⟩ := List.exists_cons_of_ne_nil isBroken.notEmpty
  obtain ⟨other, left, isRest, ⟨c, -, isBytes⟩ | ⟨isRead, isOther⟩⟩ :=
    exists_of_symbolAt first (tail ++ rest)
  · refine absurd ?_ (isBroken.noCharacter c)
    rw [isBytes, List.cons_append, isRest]
    exact ⟨left, rfl⟩
  · have isSame : first :: tail = first :: other :=
      isBroken.unique isOther (by rw [List.cons_append, isRest]; rfl)
    obtain rfl := List.tail_eq_of_cons_eq isSame
    rw [List.cons_append, symbols, symbolsAfter, isRead]
    dsimp only
    rw [symbolsAfter_append]
    rfl

/-- The symbols of a byte sequence are the characters of its runs, with one for each of the gaps between them. -/
theorem HasRuns.symbols_eq
    {bytes : Bytes}
    {runs : List (List Char)}
    (hasRuns : HasRuns bytes runs) :
    runs ≠ [] ∧ symbols bytes = join none (runs.map (List.map some)) := by
  induction hasRuns with
  | whole run => exact ⟨by simp, symbols_encode run⟩
  | cut run isBroken _ inductionHypothesis =>
      obtain ⟨notNil, isJoined⟩ := inductionHypothesis
      refine ⟨by simp, ?_⟩
      rw [symbols_encode_append, symbols_of_isBroken isBroken, isJoined,
        List.map_cons, join]
      simpa using notNil

/-- A character in front belongs to the first run. -/
theorem HasRuns.exists_cons
    {bytes : Bytes}
    {runs : List (List Char)}
    (hasRuns : HasRuns bytes runs)
    (c : Char) :
    ∃ others, HasRuns (encodeChar c ++ bytes) others := by
  have isLonger (run : List Char) :
      encodeChar c ++ encode run = encode (c :: run) :=
    rfl
  cases hasRuns with
  | whole run =>
      rw [isLonger]
      exact ⟨_, .whole (c :: run)⟩
  | cut run isBroken hasRest =>
      rw [← List.append_assoc, isLonger]
      exact ⟨_, .cut (c :: run) isBroken hasRest⟩

/-- Every byte sequence has runs. -/
theorem exists_hasRuns (bytes : Bytes) :
    ∃ runs, HasRuns bytes runs := by
  match bytes with
  | [] => exact ⟨_, .whole []⟩
  | first :: rest =>
      obtain ⟨tail, left, isRest, isRead⟩ := exists_of_symbolAt first rest
      have isShorter : left.length < (first :: rest).length := by
        rw [isRest, List.length_cons, List.length_append]
        omega
      obtain ⟨runs, hasRuns⟩ := exists_hasRuns left
      rw [isRest]
      rcases isRead with ⟨c, -, isBytes⟩ | ⟨-, isBroken⟩
      · rw [← List.cons_append, ← isBytes]
        exact hasRuns.exists_cons c
      · exact ⟨_, .cut [] isBroken hasRuns⟩
termination_by bytes.length

/-- A byte sequence has its runs in one way only. -/
theorem HasRuns.unique
    {bytes : Bytes}
    {runs others : List (List Char)}
    (hasRuns : HasRuns bytes runs)
    (hasOthers : HasRuns bytes others) :
    runs = others := by
  have isCut {runs : List (List Char)} (hasRuns : HasRuns bytes runs) :
      fields none (symbols bytes) = runs.map (List.map some) := by
    obtain ⟨notNil, isJoined⟩ := hasRuns.symbols_eq
    rw [isJoined]
    refine fields_join (by simpa using notNil) fun part member => ?_
    obtain ⟨run, -, rfl⟩ := List.mem_map.mp member
    simp
  have isSame := (isCut hasRuns).symm.trans (isCut hasOthers)
  refine (List.map_inj_right fun run other isRun => ?_).mp isSame
  exact (List.map_inj_right fun _ _ => Option.some.inj).mp isRun

/-- The dropping reading keeps the runs, in order, and nothing else. -/
theorem HasRuns.decodeDropping_eq
    {bytes : Bytes}
    {runs : List (List Char)}
    (hasRuns : HasRuns bytes runs) :
    decodeDropping bytes = runs.flatten := by
  unfold decodeDropping
  induction hasRuns with
  | whole run =>
      rw [symbols_encode, List.filterMap_map, List.flatten_singleton]
      exact List.filterMap_some
  | cut run isBroken _ inductionHypothesis =>
      rw [symbols_encode_append, symbols_of_isBroken isBroken,
        List.filterMap_append, List.filterMap_cons_none rfl, inductionHypothesis,
        List.filterMap_map, List.flatten_cons]
      exact congrArg (· ++ _) List.filterMap_some

/-! ## Bytes that no text has -/

/-- The bytes that no character has. -/
theorem not_mem_encodeChar_iff (byte : UInt8) :
    (∀ c, byte ∉ encodeChar c) ↔
      byte = 0xc0 ∨ byte = 0xc1 ∨ 0xf5 ≤ byte := by
  have isRange :
      byte = 0xc0 ∨ byte = 0xc1 ∨ 0xf5 ≤ byte ↔
        0xbf < byte.toNat ∧ (byte.toNat < 0xc2 ∨ 0xf5 ≤ byte.toNat) := by
    rw [← UInt8.toNat_inj, ← UInt8.toNat_inj, UInt8.le_iff_toNat_le]
    simp only [UInt8.reduceToNat]
    omega
  rw [isRange]
  constructor
  · intro isNowhere
    by_contra isElsewhere
    have isKind :
        byte.toNat < 0x80 ∨
          0x80 ≤ byte.toNat ∧ byte.toNat ≤ 0xbf ∨
          0xc2 ≤ byte.toNat ∧ byte.toNat < 0xf5 := by
      omega
    rcases isKind with isShort | ⟨isAbove, isBelow⟩ | ⟨isAbove, isBelow⟩
    · have isCharacter := encodeChar_of_lt (UInt8.lt_iff_toNat_lt.mpr isShort)
      refine isNowhere (Char.ofNat byte.toNat) ?_
      rw [isCharacter]
      exact .head _
    · obtain ⟨part, isPart, rfl⟩ :=
        exists_part ((isContinuation_iff byte).mpr ⟨isAbove, isBelow⟩)
      have isCharacter := encodeChar_two (Nat.le_refl 2) (by decide) isPart
      refine isNowhere (Char.ofNat (64 * 2 + part)) ?_
      rw [isCharacter]
      exact .tail _ (.head _)
    · obtain ⟨lead, isLead⟩ := exists_isLead isAbove isBelow
      have isLong : ¬byte < 0x80 := by
        rw [UInt8.lt_iff_toNat_lt]
        exact Nat.not_lt.mpr (Nat.le_trans (by decide) isAbove)
      obtain ⟨c, isFirst⟩ :=
        (opens_cons_iff isLong).mpr
          ⟨lead, isLead.lead?_eq, .nil lead, Nat.zero_le _⟩
      exact isNowhere c (isFirst.subset (.head _))
  · rintro ⟨isLarge, isOutside⟩ c member
    by_cases isAscii : c.toNat < 0x80
    · rw [encodeChar_of_ascii isAscii, List.mem_singleton] at member
      rw [member, toNat_ofNat (by omega)] at isLarge
      omega
    · obtain ⟨first, tail, isBytes, -⟩ := symbolAt_encodeChar c
      have areLarge := fun byte =>
        @le_of_mem_encodeChar c byte (Nat.not_lt.mp isAscii)
      rw [isBytes] at member areLarge
      have isLong : ¬first < 0x80 := by
        rw [UInt8.lt_iff_toNat_lt]
        exact Nat.not_lt.mpr (areLarge first (.head _))
      obtain ⟨lead, isLead, follows, -⟩ := exists_follows isBytes isLong
      rcases List.mem_cons.mp member with rfl | member
      · rw [lead?_eq_none isOutside] at isLead
        simp at isLead
      · have continues := follows.areContinuations isLead byte member
        rw [isContinuation_iff, UInt8.le_iff_toNat_le,
          UInt8.le_iff_toNat_le] at continues
        exact absurd continues.2 (Nat.not_le.mpr isLarge)

/-- The bytes of a text, with bytes that no text has wherever a character starts and at the end. -/
inductive Strewn : List Char → Bytes → Prop where
  | done : Strewn [] []
  | stray {byte : UInt8} {text : List Char} {bytes : Bytes} :
      (∀ c, byte ∉ encodeChar c) →
      Strewn text bytes →
      Strewn text (byte :: bytes)
  | character (c : Char) {text : List Char} {bytes : Bytes} :
      Strewn text bytes →
      Strewn (c :: text) (encodeChar c ++ bytes)

/-- A byte that no text has is broken wherever it stands. -/
theorem isBroken_of_stray
    {byte : UInt8}
    (isNowhere : ∀ c, byte ∉ encodeChar c)
    (rest : Bytes) :
    IsBroken [byte] rest where
  notEmpty := by simp
  noCharacter c stands := by
    obtain ⟨first, others, isBytes, -⟩ := symbolAt_encodeChar c
    rw [isBytes, List.singleton_append, List.cons_prefix_cons] at stands
    refine isNowhere c ?_
    rw [isBytes, stands.1]
    exact .head _
  opens isMore := by simp at isMore
  isLongest _ _ opens := by
    obtain ⟨c, stands⟩ := opens
    exact isNowhere c (stands.subset (.head _))

/-- Bytes that no text has do not change what is read. -/
theorem Strewn.decodeDropping_eq
    {text : List Char}
    {bytes : Bytes}
    (strewn : Strewn text bytes) :
    decodeDropping bytes = text := by
  unfold decodeDropping
  induction strewn with
  | done => rfl
  | stray isNowhere _ inductionHypothesis =>
      rename_i byte _ bytes _
      rw [← List.singleton_append,
        symbols_of_isBroken (isBroken_of_stray isNowhere bytes),
        List.filterMap_cons_none rfl, inductionHypothesis]
  | character c _ inductionHypothesis =>
      have isText : encodeChar c = encode [c] := (List.append_nil _).symm
      rw [isText, symbols_encode_append, List.filterMap_append,
        inductionHypothesis]
      rfl

end Provision.Text.Utf8
