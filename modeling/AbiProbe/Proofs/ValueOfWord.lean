/-
Numbers reach a fact on two ways: as a word that a struct measures, and as a
text that a constant prints. On both they have the value of their integer
(`ofInt64_eq_ofInt`, `ofUInt64_eq_ofInt`, `ofText_of_denotes`), so the same
number is published in the same form (`words_and_texts_agree`). The form holds
the number and is the narrowest one that does; so for numbers that are not
negative it grows with the number (`not_narrower`).
-/
import AbiProbe.Proofs.ConstantReading
import AbiProbe.Proofs.RepeatedAnalysis
import AbiProbe.Proofs.ValueOfText
import AbiProbe.Statement
import AbiProbe.Value.Word

namespace AbiProbe

open Text

/-- A form is narrower than another one if it holds fewer integers. -/
inductive Kind.Narrower : Kind → Kind → Prop where
  | integer32_integer64 : Narrower .integer32 .integer64
  | integer32_bignum : Narrower .integer32 .bignum
  | integer64_bignum : Narrower .integer64 .bignum

namespace Value

/-- The form of an integer does not depend on how it is written. -/
theorem kind_narrowest (n : Int) (s : String) : (narrowest n s).kind =
    if Fits32 n then .integer32 else if Fits64 n then .integer64 else .bignum := by
  unfold narrowest
  split
  next => rfl
  next => split <;> rfl

/-- What holds a number holds the smaller ones, down to zero. -/
theorem not_narrower {m n : Int} (hm : 0 ≤ m) (hmn : m ≤ n) (s t : String) :
    ¬ (narrowest n t).kind.Narrower (narrowest m s).kind := by
  have h32 : Fits32 n → Fits32 m := fun h => ⟨by omega, Int.le_trans hmn h.2⟩
  have h64 : Fits64 n → Fits64 m := fun h => ⟨by omega, Int.le_trans hmn h.2⟩
  rw [kind_narrowest, kind_narrowest]
  intro h
  split at h
  next hfits =>
    rw [if_pos (h32 hfits)] at h
    cases h
  next =>
    split at h
    next hfits =>
      rw [if_pos (h64 hfits)] at h
      split at h <;> cases h
    next => cases h

end Value

/-! ## The numbers of probes -/

/-- The size of a struct is the number of a word, and has its value. -/
theorem StructProbe.size_entry {p q : StructProbe} {output : String} (h : p.analyse output = (.ok (), q))
    {n : Nat} (hn : q.size = some n) : ∃ v : UInt64, v.toNat = n ∧ ⟨p.name ++ ".sizeof", .ofUInt64 v⟩ ∈ q.entries := by
  obtain ⟨layout, ⟨first, rest, -, ⟨digits, -, hsize⟩, -⟩, rfl⟩ := analyse_eq_ok_iff.mp h
  obtain rfl : layout.size = n := Option.some.inj hn
  have hword : (UInt64.ofNat layout.size).toNat = layout.size := UInt64.toNat_ofNat_of_lt' hsize.bound
  refine ⟨.ofNat layout.size, hword, ?_⟩
  rw [Value.ofUInt64_eq_ofInt, hword]
  exact List.mem_cons_self

/-- A constant has the value of the last text that an output tells for it. -/
theorem ConstantProbe.text_entry {p q : ConstantProbe} {output name text : String}
    (h : p.analyse output = (.ok (), q)) (hlast : TellsLast (lines output.toList) name text) :
    ⟨p.group ++ "." ++ name, .ofText text⟩ ∈ q.entries := by
  have htext : (textsOf name output).getLast? = some text := getLast?_textsOf_eq_some_iff.mpr hlast
  have hdeclared : name ∈ p.constants.keys :=
    mem_keys_of_textsOf h fun hnil => by simp [hnil] at htext
  obtain ⟨c, hc⟩ := Option.isSome_iff_exists.mp (Table.isSome_get?.mpr hdeclared)
  have hget := get?_analyse h name
  rw [hc, htext] at hget
  obtain ⟨-, rfl⟩ := analyse_eq_ok_iff.mp h
  exact List.mem_filterMap.mpr ⟨_, Table.mem_of_get? hget, rfl⟩

/-- **A number has one form, whether it is measured or printed.** Every word of
64 bits, signed or not, has the value of its decimal text. So the size of a
struct and a constant that prints the same number are published in the same
form, with the same text and by the same literal. And of numbers that are not
negative a larger one never has a narrower form than a smaller one, as words
and in whatever text. -/
theorem words_and_texts_agree :
    (∀ v : Int64, Value.ofInt64 v = .ofText (Value.decimal v.toInt)) ∧
    (∀ v : UInt64, Value.ofUInt64 v = .ofText (Value.decimal v.toNat)) ∧
    (∀ (p p' : StructProbe) (q q' : ConstantProbe) (sizes texts name : String) (n : Nat),
      p.analyse sizes = (.ok (), p') → p'.size = some n →
      q.analyse texts = (.ok (), q') → ConstantProbe.TellsLast (lines texts.toList) name (Value.decimal n) →
      ∃ v : UInt64, v.toNat = n ∧ ∃ e ∈ p'.entries, ∃ e' ∈ q'.entries,
        e = ⟨p.name ++ ".sizeof", .ofUInt64 v⟩ ∧
        e' = ⟨q.group ++ "." ++ name, .ofText (Value.decimal n)⟩ ∧
        e.value.kind = e'.value.kind ∧ e.value.toText = e'.value.toText ∧
        Statement.literal e.value = Statement.literal e'.value) ∧
    (∀ v w : UInt64, v ≤ w → ¬ (Value.ofUInt64 w).kind.Narrower (Value.ofUInt64 v).kind) ∧
    (∀ v w : Int64, 0 ≤ v → v ≤ w → ¬ (Value.ofInt64 w).kind.Narrower (Value.ofInt64 v).kind) ∧
    ∀ (s t : String) (m n : Int), Decimal.Denotes s.toList m → Decimal.Denotes t.toList n → 0 ≤ m → m ≤ n →
      ¬ (Value.ofText t).kind.Narrower (Value.ofText s).kind := by
  have hsigned (v : Int64) : Value.ofInt64 v = .ofText (Value.decimal v.toInt) := by
    rw [Value.ofText_decimal, Value.ofInt64_eq_ofInt]
  have hunsigned (v : UInt64) : Value.ofUInt64 v = .ofText (Value.decimal v.toNat) := by
    rw [Value.ofText_decimal, Value.ofUInt64_eq_ofInt]
  refine ⟨hsigned, hunsigned, ?_, fun v w hvw => ?_, fun v w hv hvw => ?_, fun s t m n hm hn hpos hmn => ?_⟩
  · intro p p' q q' sizes texts name n hp hsize hq hlast
    obtain ⟨v, rfl, hentry⟩ := StructProbe.size_entry hp hsize
    have hentry' := ConstantProbe.text_entry hq hlast
    refine ⟨v, rfl, _, hentry, _, hentry', rfl, rfl, ?_⟩
    rw [hunsigned]
    exact ⟨rfl, rfl, rfl⟩
  · rw [Value.ofUInt64_eq_ofInt, Value.ofUInt64_eq_ofInt]
    exact Value.not_narrower (Int.natCast_nonneg _) (Int.ofNat_le.mpr (UInt64.le_iff_toNat_le.mp hvw)) _ _
  · rw [Value.ofInt64_eq_ofInt, Value.ofInt64_eq_ofInt]
    exact Value.not_narrower (Int64.le_iff_toInt_le.mp hv) (Int64.le_iff_toInt_le.mp hvw) _ _
  · rw [Value.ofText_of_denotes hm, Value.ofText_of_denotes hn]
    exact Value.not_narrower hpos hmn _ _

theorem words_and_texts_agree_large :
    (∃ p' q', (⟨"s", [], [], none⟩ : StructProbe).analyse "sizeof(struct s) 9223372036854775808\n" = (.ok (), p') ∧
      ((ConstantProbe.new "g" []).declare ⟨["A"], "%llu", ""⟩).analyse "A 9223372036854775808\n" = (.ok (), q') ∧
      ∃ e ∈ p'.entries, ∃ e' ∈ q'.entries, e.key = "s.sizeof" ∧ e'.key = "g.A" ∧
        e.value.kind = e'.value.kind ∧ Statement.literal e.value = Statement.literal e'.value) ∧
    ¬ (Value.ofUInt64 0x8000000000000000).kind.Narrower (Value.ofUInt64 0x80000000).kind ∧
    ¬ (Value.ofInt64 0x80000000).kind.Narrower (Value.ofInt64 0x7fffffff).kind ∧
    ¬ (Value.ofText "2147483648").kind.Narrower (Value.ofText "0002147483647").kind := by
  obtain ⟨-, -, hfacts, hunsigned, hsigned, htexts⟩ := words_and_texts_agree
  refine ⟨?_, hunsigned _ _ (by decide), hsigned _ _ (by decide) (by decide),
    htexts _ _ 2147483647 2147483648 ?_ ?_ (by decide) (by decide)⟩
  · have hlast : ConstantProbe.TellsLast (lines "A 9223372036854775808\n".toList) "A"
        (Value.decimal (9223372036854775808 : Nat)) :=
      ConstantProbe.getLast?_textsOf_eq_some_iff.mp (by decide +kernel)
    have hsize : (⟨"s", [], [], none⟩ : StructProbe).analyse "sizeof(struct s) 9223372036854775808\n" =
        (.ok (), ⟨"s", [], [], some 9223372036854775808⟩) := by
      rfl
    obtain ⟨q', htext⟩ : ∃ q', ((ConstantProbe.new "g" []).declare ⟨["A"], "%llu", ""⟩).analyse
        "A 9223372036854775808\n" = (.ok (), q') := ⟨_, rfl⟩
    obtain ⟨v, -, e, he, e', he', rfl, rfl, hkind, -, hliteral⟩ :=
      hfacts _ _ _ _ _ _ _ _ hsize rfl htext hlast
    exact ⟨_, q', hsize, htext, _, he, _, he', rfl, rfl, hkind, hliteral⟩
  · exact Decimal.integer?_eq_some_iff.mp (by decide +kernel)
  · exact Decimal.integer?_eq_some_iff.mp (by decide +kernel)

end AbiProbe
