/-
Reading bytes as UTF-8 where every text is accepted: a well-formed sequence
gives its character, and each maximal start of a well-formed sequence that
goes no further gives one replacement character, as does each byte that
starts none.
-/

namespace AbiProbe.Text.Utf8

/-- The character that stands for bytes which are not UTF-8. -/
def replacement : Char := '\ufffd'

/-- What a lead byte asks for: how many bytes follow it, which values the
next of them may take, and the payload of the lead byte. -/
structure Lead where
  following : Nat
  low : Nat
  high : Nat
  payload : Nat
  deriving DecidableEq, Repr

/-- The well-formed lead bytes. The bounds on the second byte rule out
overlong forms, surrogates and code points beyond U+10FFFF. -/
def lead? (b : Nat) : Option Lead :=
  if b < 0x80 then some ⟨0, 0x80, 0xbf, b⟩
  else if 0xc2 ≤ b ∧ b ≤ 0xdf then some ⟨1, 0x80, 0xbf, b - 0xc0⟩
  else if b = 0xe0 then some ⟨2, 0xa0, 0xbf, 0⟩
  else if b = 0xed then some ⟨2, 0x80, 0x9f, 0xd⟩
  else if 0xe1 ≤ b ∧ b ≤ 0xef then some ⟨2, 0x80, 0xbf, b - 0xe0⟩
  else if b = 0xf0 then some ⟨3, 0x90, 0xbf, 0⟩
  else if b = 0xf4 then some ⟨3, 0x80, 0x8f, 4⟩
  else if 0xf1 ≤ b ∧ b ≤ 0xf3 then some ⟨3, 0x80, 0xbf, b - 0xf0⟩
  else none

/-- The character read so far and the bytes that it still needs. -/
inductive State where
  /-- Between characters. -/
  | start
  /-- `following` bytes are owed, the next one from `low` to `high`. -/
  | inside (lead : Lead)
  deriving DecidableEq, Repr

/-- What one byte between characters adds to the text, and the state after
it. -/
def begin (b : UInt8) : List Char × State :=
  match lead? b.toNat with
  | none => ([replacement], .start)
  | some lead => if lead.following = 0 then ([Char.ofNat lead.payload], .start) else ([], .inside lead)

/-- What one byte adds to the text, and the state after it. A byte that
cannot continue a sequence ends it and is read afresh. -/
def step (state : State) (b : UInt8) : List Char × State :=
  match state with
  | .start => begin b
  | .inside lead =>
    if lead.low ≤ b.toNat ∧ b.toNat ≤ lead.high then
      let payload := lead.payload * 0x40 + (b.toNat - 0x80)
      if lead.following = 1 then ([Char.ofNat payload], .start)
      else ([], .inside ⟨lead.following - 1, 0x80, 0xbf, payload⟩)
    else
      let (cs, next) := begin b
      (replacement :: cs, next)

/-- What the end of the bytes adds to the text. -/
def finish : State → List Char
  | .start => []
  | .inside _ => [replacement]

/-- The characters so far, the last one first, and the state after one more
byte. -/
def take (read : List Char × State) (b : UInt8) : List Char × State :=
  let (cs, next) := step read.2 b
  (cs.reverse ++ read.1, next)

/-- The text of any bytes. -/
def decode (bytes : ByteArray) : String :=
  let (reversed, state) := bytes.data.toList.foldl take ([], .start)
  String.ofList (reversed.reverse ++ finish state)

/-! ## No byte goes unseen -/

theorem begin_adds (b : UInt8) : (begin b).1 ≠ [] ∨ (begin b).2 ≠ .start := by
  unfold begin
  split
  · simp
  · split <;> simp

/-- A byte adds to the text, or it leaves a sequence open. -/
theorem step_adds (state : State) (b : UInt8) : (step state b).1 ≠ [] ∨ (step state b).2 ≠ .start := by
  unfold step
  split
  · exact begin_adds b
  · split
    · split <;> simp
    · simp

theorem take_adds (read : List Char × State) (b : UInt8) :
    (take read b).1 ≠ [] ∨ (take read b).2 ≠ .start := by
  rcases step_adds read.2 b with h | h
  · exact .inl (by simp [take, h])
  · exact .inr h

/-- Only no bytes at all are read as no text. -/
theorem decode_eq_empty_iff {bytes : ByteArray} : decode bytes = "" ↔ bytes.size = 0 := by
  have hsize : bytes.size = bytes.data.toList.length := by simp
  rw [hsize, List.length_eq_zero_iff]
  simp only [decode]
  generalize bytes.data.toList = bs
  rcases List.eq_nil_or_concat bs with rfl | ⟨bs, b, rfl⟩
  · simp [finish]
  · have hlast := take_adds (bs.foldl take ([], .start)) b
    rw [List.concat_eq_append, List.foldl_append, List.foldl_cons, List.foldl_nil]
    rcases hlast with h | h
    · simp [String.ofList_eq_empty_iff, h]
    · cases hs : (take (bs.foldl take ([], .start)) b).2 with
      | start => exact absurd hs h
      | inside lead => simp [finish]

end AbiProbe.Text.Utf8
