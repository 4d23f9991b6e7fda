/-
Which aliases a text makes known, said without the tables that the probe
keeps: by chains of lines. A chain leads from a line whose type is known by
itself to the line it is for; each further line names the alias of the one
before it, and means the last line above it that made that alias known.

`resolved_analyse_iff`: after an output the probe knows exactly what the
chains of its lines say. The tables after the first `n` lines are the chains
of lines below `n` (`Tables`), and one more line keeps it so
(`Tables.step`), whatever it shadows, redeclares or leaves out.
-/
import AbiProbe.Probe.Typedefs

namespace AbiProbe.TypedefProbe

open Text

/-! ## Chains of lines -/

/-- What a line declares. A line without the keyword, one that names a union,
struct or enum, and one that is no single-line typedef declare nothing. -/
def declaration? (line : List Char) : Option TypedefDecl :=
  if isCandidate line then TypedefDecl.ofLine? line else none

section

variable (text : List (List Char))

/-- Line `n` declares `d`. -/
def DeclaresAt (n : Nat) (d : TypedefDecl) : Prop := text[n]?.bind declaration? = some d

/-- Line `m` is the last one before line `n` that declares `name` and is one
of the lines in `known`. -/
structure LatestBefore (known : Nat → Prop) (n : Nat) (name : String) (m : Nat) : Prop where
  before : m < n
  declares : ∃ d, DeclaresAt text m d ∧ d.name = name
  chained : known m
  last : ∀ k, m < k → k < n → known k → ∀ d, DeclaresAt text k d → d.name ≠ name

/-- No line before line `n` declares `name` and is one of the lines in `known`. -/
def NoneBefore (known : Nat → Prop) (n : Nat) (name : String) : Prop :=
  ∀ m < n, known m → ∀ d, DeclaresAt text m d → d.name ≠ name

/-- A chain of lines, its last line, and the category that it gives that
line, where `known` are the earlier lines that have a chain themselves. -/
inductive Chain (known : Nat → Prop) : List Nat → Nat → Category → Prop where
  /-- A pointer alias is a pointer, whatever its base. -/
  | pointer {n d} : DeclaresAt text n d → d.isPointer = true → Chain known [n] n .pointer
  /-- A base that is not shadowed means its standard type. -/
  | standard {n d c} : DeclaresAt text n d → d.isPointer = false →
      NoneBefore text known n d.base → standardTypes.get? d.base = some c → Chain known [n] n c
  /-- An unknown base that ends with a star is a pointer. -/
  | star {n d} : DeclaresAt text n d → d.isPointer = false →
      NoneBefore text known n d.base → standardTypes.get? d.base = none →
      d.base.toList.getLast? = some '*' → Chain known [n] n .pointer
  /-- A base that is an alias means the last line above that made it known. -/
  | link {is m n d c} : Chain known is m c → DeclaresAt text n d → d.isPointer = false →
      LatestBefore text known n d.base m → Chain known (is ++ [n]) n c

/-- Line `n` has a chain. Only lines before it matter to that. -/
def HasChain (n : Nat) : Prop :=
  ∃ is c, Chain text (fun m => ∃ _ : m < n, HasChain m) is n c
termination_by n

/-- The last line before line `n` that declares `name` and has a chain has
one with category `c`. -/
def Gives (n : Nat) (name : String) (c : Category) : Prop :=
  ∃ m is, LatestBefore text (HasChain text) n name m ∧ Chain text (HasChain text) is m c

/-- Line `n` declares `d`, whose base nothing before it can explain: it is
not standard, ends with no star, and is declared further down if anywhere. -/
structure RefersForward (n : Nat) (d : TypedefDecl) : Prop where
  declares : DeclaresAt text n d
  plain : d.isPointer = false
  notStandard : standardTypes.get? d.base = none
  noStar : d.base.toList.getLast? ≠ some '*'
  notAbove : ∀ m < n, ∀ e, DeclaresAt text m e → e.name ≠ d.base

end

variable {text : List (List Char)} {known known' : Nat → Prop} {n m : Nat} {name : String}
  {c : Category} {d : TypedefDecl}

theorem DeclaresAt.unique {e : TypedefDecl} (hd : DeclaresAt text n d) (he : DeclaresAt text n e) :
    d = e :=
  Option.some.inj (hd.symm.trans he)

theorem LatestBefore.congr (h : ∀ k < n, known k ↔ known' k)
    (hl : LatestBefore text known n name m) : LatestBefore text known' n name m :=
  ⟨hl.before, hl.declares, (h m hl.before).mp hl.chained,
    fun k hm hk hk' => hl.last k hm hk ((h k hk).mpr hk')⟩

theorem NoneBefore.congr (h : ∀ k < n, known k ↔ known' k) (hn : NoneBefore text known n name) :
    NoneBefore text known' n name :=
  fun k hk hk' => hn k hk ((h k hk).mpr hk')

/-- A chain for a line looks only at lines before it. -/
theorem Chain.congr {is : List Nat} (h : ∀ k < n, known k ↔ known' k)
    (hc : Chain text known is n c) : Chain text known' is n c := by
  induction hc with
  | pointer hd hp => exact .pointer hd hp
  | standard hd hp hn hs => exact .standard hd hp (hn.congr h) hs
  | star hd hp hn hs ht => exact .star hd hp (hn.congr h) hs ht
  | link _ hd hp hl ih =>
    exact .link (ih fun k hk => h k (Nat.lt_trans hk hl.before)) hd hp (hl.congr h)

theorem hasChain_iff : HasChain text n ↔ ∃ is c, Chain text (HasChain text) is n c := by
  have h : ∀ k < n, (∃ _ : k < n, HasChain text k) ↔ HasChain text k :=
    fun k hk => ⟨fun ⟨_, h⟩ => h, fun h => ⟨hk, h⟩⟩
  rw [HasChain]
  constructor
  · intro ⟨is, c, hc⟩
    exact ⟨is, c, hc.congr h⟩
  · intro ⟨is, c, hc⟩
    exact ⟨is, c, hc.congr fun k hk => (h k hk).symm⟩

/-- A forward reference has no chain. -/
theorem RefersForward.not_hasChain (h : RefersForward text n d) : ¬ HasChain text n := by
  rw [hasChain_iff]
  intro ⟨is, c, hc⟩
  cases hc with
  | pointer hd hp =>
    cases hd.unique h.declares
    simp [h.plain] at hp
  | standard hd _ _ hs =>
    cases hd.unique h.declares
    simp [h.notStandard] at hs
  | star hd _ _ _ ht =>
    cases hd.unique h.declares
    exact h.noStar ht
  | link _ hd _ hl =>
    cases hd.unique h.declares
    obtain ⟨e, he, hname⟩ := hl.declares
    exact h.notAbove _ hl.before e he hname

/-! ## One more line -/

/-- Some line is the latest, or there is none. -/
theorem latest_or_none (text : List (List Char)) (known : Nat → Prop) (n : Nat) (name : String) :
    (∃ m, LatestBefore text known n name m) ∨ NoneBefore text known n name := by
  induction n with
  | zero => exact .inr fun m hm => absurd hm (Nat.not_lt_zero m)
  | succ n ih =>
    by_cases h : known n ∧ ∃ d, DeclaresAt text n d ∧ d.name = name
    · exact .inl ⟨n, Nat.lt_succ_self n, h.2, h.1, fun k hk hk' => by omega⟩
    · have hn : known n → ∀ d, DeclaresAt text n d → d.name ≠ name :=
        fun hk d hd hname => h ⟨hk, d, hd, hname⟩
      rcases ih with ⟨m, hm⟩ | hnone
      · refine .inl ⟨m, Nat.lt_succ_of_lt hm.before, hm.declares, hm.chained, fun k hk hk' => ?_⟩
        rcases Nat.lt_succ_iff_lt_or_eq.mp hk' with hlt | rfl
        · exact hm.last k hk hlt
        · exact hn
      · refine .inr fun k hk => ?_
        rcases Nat.lt_succ_iff_lt_or_eq.mp hk with hlt | rfl
        · exact hnone k hlt
        · exact hn

/-- A line with a chain is the latest one of its alias. -/
theorem gives_succ_self (hd : DeclaresAt text n d) (hc : HasChain text n) :
    Gives text (n + 1) d.name c ↔ ∃ is, Chain text (HasChain text) is n c := by
  constructor
  · intro ⟨m, is, hl, hm⟩
    have hmn : m = n := by
      rcases Nat.lt_succ_iff_lt_or_eq.mp hl.before with hlt | rfl
      · exact absurd rfl (hl.last n hlt (Nat.lt_succ_self n) hc d hd)
      · rfl
    exact ⟨is, hmn ▸ hm⟩
  · intro ⟨is, hm⟩
    exact ⟨n, is, ⟨Nat.lt_succ_self n, ⟨d, hd, rfl⟩, hc, fun k hk hk' => by omega⟩, hm⟩

/-- A line changes nothing for the names that it does not make known. -/
theorem gives_succ_other (h : HasChain text n → ∀ d, DeclaresAt text n d → d.name ≠ name) :
    Gives text (n + 1) name c ↔ Gives text n name c := by
  constructor
  · intro ⟨m, is, hl, hm⟩
    have hlt : m < n := by
      rcases Nat.lt_succ_iff_lt_or_eq.mp hl.before with hlt | rfl
      · exact hlt
      · obtain ⟨e, he, hname⟩ := hl.declares
        exact absurd hname (h hl.chained e he)
    exact ⟨m, is, ⟨hlt, hl.declares, hl.chained, fun k hk hk' => hl.last k hk (Nat.lt_succ_of_lt hk')⟩, hm⟩
  · intro ⟨m, is, hl, hm⟩
    refine ⟨m, is, ⟨Nat.lt_succ_of_lt hl.before, hl.declares, hl.chained, fun k hk hk' => ?_⟩, hm⟩
    rcases Nat.lt_succ_iff_lt_or_eq.mp hk' with hlt | rfl
    · exact hl.last k hk hlt
    · exact h

theorem noneBefore_succ_self (hd : DeclaresAt text n d) (hc : HasChain text n) :
    ¬ NoneBefore text (HasChain text) (n + 1) d.name :=
  fun h => h n (Nat.lt_succ_self n) hc d hd rfl

theorem noneBefore_succ_other (h : HasChain text n → ∀ d, DeclaresAt text n d → d.name ≠ name) :
    NoneBefore text (HasChain text) (n + 1) name ↔ NoneBefore text (HasChain text) n name := by
  refine ⟨fun hn k hk => hn k (Nat.lt_succ_of_lt hk), fun hn k hk => ?_⟩
  rcases Nat.lt_succ_iff_lt_or_eq.mp hk with hlt | rfl
  · exact hn k hlt
  · exact h

/-- What one line does to the probe: it makes its alias known in both tables,
or leaves them as they are. -/
theorem step_cases (p : TypedefProbe) (line : List Char) :
    (∃ d c, declaration? line = some d ∧ resolve p.types d = some c ∧
      step p line =
        { p with types := p.types.insert d.name c, aliases := p.aliases.insert d.name c }) ∨
    ((∀ d, declaration? line = some d → resolve p.types d = none) ∧
      ∃ ignored, step p line = { p with ignored := ignored }) := by
  by_cases hl : isCandidate line = true
  · cases hd : TypedefDecl.ofLine? line with
    | none => exact .inr ⟨by simp [declaration?, hd], _, by simp [step, hl, declared?, hd]; rfl⟩
    | some d =>
      cases hr : resolve p.types d with
      | none => exact .inr ⟨by simp [declaration?, hl, hd, hr], _, by simp [step, hl, declared?, hd, hr]; rfl⟩
      | some c => exact .inl ⟨d, c, by simp [declaration?, hl, hd], hr, by simp [step, hl, declared?, hd, hr]⟩
  · exact .inr ⟨by simp [declaration?, hl], p.ignored, by simp [step, hl]⟩

theorem foldl_step_overrides (ls : List (List Char)) (p : TypedefProbe) :
    (ls.foldl step p).overrides = p.overrides := by
  induction ls generalizing p with
  | nil => rfl
  | cons line ls ih =>
    rw [List.foldl_cons, ih]
    rcases step_cases p line with ⟨d, c, -, -, hs⟩ | ⟨-, ignored, hs⟩ <;> rw [hs]

/-! ## The tables of a run -/

/-- The tables of a probe hold what the chains of the first `n` lines say. -/
structure Tables (text : List (List Char)) (n : Nat) (p : TypedefProbe) : Prop where
  aliases : ∀ name c, p.aliases.get? name = some c ↔ Gives text n name c
  types : ∀ phrase c, p.types.get? phrase = some c ↔
    Gives text n phrase c ∨
      (NoneBefore text (HasChain text) n phrase ∧ standardTypes.get? phrase = some c)

namespace Tables

variable {p : TypedefProbe}

theorem new (text : List (List Char)) (headers : List String) : Tables text 0 (.new headers) where
  aliases name c := by
    constructor
    · intro h
      simp [TypedefProbe.new] at h
    · intro ⟨m, is, hl, _⟩
      exact absurd hl.before (Nat.not_lt_zero m)
  types phrase c := by
    constructor
    · exact fun h => .inr ⟨fun m hm => absurd hm (Nat.not_lt_zero m), h⟩
    · rintro (⟨m, is, hl, -⟩ | ⟨-, h⟩)
      · exact absurd hl.before (Nat.not_lt_zero m)
      · exact h

/-- A phrase that the types do not hold is neither standard nor an alias. -/
theorem types_eq_none (h : Tables text n p) {phrase : String} (hp : p.types.get? phrase = none) :
    NoneBefore text (HasChain text) n phrase ∧ standardTypes.get? phrase = none := by
  have hno : ∀ c, ¬ (Gives text n phrase c ∨
      (NoneBefore text (HasChain text) n phrase ∧ standardTypes.get? phrase = some c)) :=
    fun c hc => by simp [(h.types phrase c).mpr hc] at hp
  have hnone : NoneBefore text (HasChain text) n phrase := by
    rcases latest_or_none text (HasChain text) n phrase with ⟨m, hm⟩ | hnone
    · obtain ⟨is, c, hc⟩ := hasChain_iff.mp hm.chained
      exact absurd (.inl ⟨m, is, hm, hc⟩) (hno c)
    · exact hnone
  exact ⟨hnone, Option.eq_none_iff_forall_ne_some.mpr fun c hc => hno c (.inr ⟨hnone, hc⟩)⟩

/-- The types resolve a declaration exactly as the chains for its line do. -/
theorem resolve_iff (h : Tables text n p) (hd : DeclaresAt text n d) :
    resolve p.types d = some c ↔ ∃ is, Chain text (HasChain text) is n c := by
  constructor
  · intro hr
    cases hp : d.isPointer with
    | true =>
      obtain rfl : Category.pointer = c := by simpa [resolve, hp] using hr
      exact ⟨[n], .pointer hd hp⟩
    | false =>
      cases ht : p.types.get? d.base with
      | some c' =>
        obtain rfl : c' = c := by simpa [resolve, hp, ht] using hr
        rcases (h.types d.base c').mp ht with ⟨m, is, hl, hc⟩ | ⟨hn, hs⟩
        · exact ⟨is ++ [n], .link hc hd hp hl⟩
        · exact ⟨[n], .standard hd hp hn hs⟩
      | none =>
        obtain ⟨hn, hs⟩ := h.types_eq_none ht
        obtain ⟨hstar, rfl⟩ : d.base.toList.getLast? = some '*' ∧ Category.pointer = c := by
          simpa [resolve, hp, ht] using hr
        exact ⟨[n], .star hd hp hn hs hstar⟩
  · intro ⟨is, hc⟩
    cases hc with
    | pointer hd' hp =>
      cases hd.unique hd'
      simp [resolve, hp]
    | standard hd' hp hn hs =>
      cases hd.unique hd'
      simp [resolve, hp, (h.types d.base c).mpr (.inr ⟨hn, hs⟩)]
    | star hd' hp hn hs hstar =>
      cases hd.unique hd'
      have ht : p.types.get? d.base = none := by
        refine Option.eq_none_iff_forall_ne_some.mpr fun c hc => ?_
        rcases (h.types d.base c).mp hc with ⟨m, is, hl, -⟩ | ⟨-, hs'⟩
        · obtain ⟨e, he, hname⟩ := hl.declares
          exact hn m hl.before hl.chained e he hname
        · simp [hs] at hs'
      simp [resolve, hp, ht, hstar]
    | link hc hd' hp hl =>
      cases hd.unique hd'
      simp [resolve, hp, (h.types d.base c).mpr (.inl ⟨_, _, hl, hc⟩)]

theorem hasChain_of_resolve (h : Tables text n p) (hd : DeclaresAt text n d)
    (hr : resolve p.types d = some c) : HasChain text n := by
  obtain ⟨is, hc⟩ := (h.resolve_iff hd).mp hr
  exact hasChain_iff.mpr ⟨is, c, hc⟩

/-- A line that makes its alias known: the alias takes the place that it had
in both tables, and the other names keep theirs. -/
theorem insert (h : Tables text n p) (hd : DeclaresAt text n d) (hr : resolve p.types d = some c) :
    Tables text (n + 1)
      { p with types := p.types.insert d.name c, aliases := p.aliases.insert d.name c } := by
  have hc := h.hasChain_of_resolve hd hr
  have hself : ∀ c', some c = some c' ↔ Gives text (n + 1) d.name c' := fun c' => by
    rw [gives_succ_self hd hc, ← h.resolve_iff hd, hr]
  have hother : ∀ name, d.name ≠ name →
      HasChain text n → ∀ e, DeclaresAt text n e → e.name ≠ name :=
    fun name hne _ e he => hd.unique he ▸ hne
  constructor
  · intro name c'
    by_cases hne : d.name = name
    · subst hne
      rw [Table.get?_insert_self, hself]
    · rw [Table.get?_insert_other hne, gives_succ_other (hother name hne)]
      exact h.aliases name c'
  · intro name c'
    by_cases hne : d.name = name
    · subst hne
      rw [Table.get?_insert_self, hself]
      simp [noneBefore_succ_self hd hc]
    · rw [Table.get?_insert_other hne, gives_succ_other (hother name hne),
        noneBefore_succ_other (hother name hne)]
      exact h.types name c'

/-- A line that declares nothing, or nothing that resolves, leaves the tables
as they are. -/
theorem keep (h : Tables text n p)
    (hn : ∀ d, DeclaresAt text n d → resolve p.types d = none) (ignored : List String) :
    Tables text (n + 1) { p with ignored := ignored } := by
  have hother : ∀ name, HasChain text n → ∀ e, DeclaresAt text n e → e.name ≠ name := by
    intro name hc e he
    obtain ⟨is, c, hc⟩ := hasChain_iff.mp hc
    have := (h.resolve_iff he).mpr ⟨is, hc⟩
    simp [hn e he] at this
  constructor
  · intro name c
    rw [gives_succ_other (hother name)]
    exact h.aliases name c
  · intro phrase c
    rw [gives_succ_other (hother phrase), noneBefore_succ_other (hother phrase)]
    exact h.types phrase c

theorem step (h : Tables text n p) {line : List Char} (hl : text[n]? = some line) :
    Tables text (n + 1) (step p line) := by
  have hat : ∀ d, DeclaresAt text n d ↔ declaration? line = some d := fun d => by
    simp [DeclaresAt, hl]
  rcases step_cases p line with ⟨d, c, hd, hr, hs⟩ | ⟨hn, ignored, hs⟩
  · rw [hs]
    exact h.insert ((hat d).mpr hd) hr
  · rw [hs]
    exact h.keep (fun d hd => hn d ((hat d).mp hd)) ignored

theorem foldl_take (h : Tables text 0 p) :
    ∀ n ≤ text.length, Tables text n ((text.take n).foldl TypedefProbe.step p)
  | 0, _ => by simpa using h
  | n + 1, hn => by
    rw [List.take_add_one, List.foldl_append, List.getElem?_eq_getElem hn]
    exact (h.foldl_take n (Nat.le_of_lt hn)).step (List.getElem?_eq_getElem hn)

/-- The tables after the first `n` lines. -/
theorem take (text : List (List Char)) (headers : List String) :
    ∀ n ≤ text.length, Tables text n ((text.take n).foldl TypedefProbe.step (.new headers)) :=
  (Tables.new text headers).foldl_take

end Tables

/-- **Typedefs resolve along chains of lines.** A fresh probe without
overrides knows an alias with a category after an output exactly if the last
line of the output that declares the alias and has a chain has one with that
category; an alias that is declared by forward references only stays
unknown. -/
theorem resolved_analyse_iff (headers : List String) (output name : String) :
    (∀ c, ((new headers).analyse output).resolved name = some c ↔
      ∃ n chain,
        LatestBefore (lines output.toList) (HasChain (lines output.toList))
          (lines output.toList).length name n ∧
        Chain (lines output.toList) (HasChain (lines output.toList)) chain n c) ∧
    ((∀ n d, DeclaresAt (lines output.toList) n d → d.name = name →
        RefersForward (lines output.toList) n d) →
      ((new headers).analyse output).resolved name = none) := by
  have htables := Tables.take (lines output.toList) headers _ (Nat.le_refl _)
  rw [List.take_length] at htables
  have hres : ∀ c, ((new headers).analyse output).resolved name = some c ↔
      Gives (lines output.toList) (lines output.toList).length name c := by
    intro c
    rw [← htables.aliases name c, resolved, analyse, applyOverrides, foldl_step_overrides]
    rfl
  refine ⟨hres, fun hforward => Option.eq_none_iff_forall_ne_some.mpr fun c hc => ?_⟩
  obtain ⟨n, is, hl, -⟩ := (hres c).mp hc
  obtain ⟨d, hd, hname⟩ := hl.declares
  exact (hforward n d hd hname).not_hasChain hl.chained

end AbiProbe.TypedefProbe
