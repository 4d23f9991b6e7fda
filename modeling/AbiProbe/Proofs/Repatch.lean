/-
Generating a region again. A file that one run has patched is cut where it
was cut before, unless the end marker occurs in what the run has put before
it (`ClearOfEnd`, `Opens.patched`). So what the file held in its region does not
matter to the next run, however often the region was generated
(`patch_again`).

With the default markers the end marker never occurs there, whatever the
entries are: it holds an empty line, and a region has none, since each of its
lines begins with the indent and no statement has an end of a line in it
(`clearOfEnd_default`).
-/
import AbiProbe.Proofs.Publication
import AbiProbe.Proofs.Splice
import AbiProbe.Proofs.StatementRoundTrip
import Mathlib.Data.List.Chain

namespace AbiProbe.PatchSink

open FileSystem Text

/-! ## One generation -/

/-- What one run puts into a file: what is known when the file is opened, the
comment, and the entries. -/
structure Generation where
  root : String
  platform : Platform
  stamp : Nat
  comment : String
  entries : List Entry

/-- The break before a region whose head does not end a line. -/
def lineBreak (head : String) : String := if head.toList.getLast? = some '\n' then "" else "\n"

namespace Generation

/-- The lines of the region. -/
def block (g : Generation) (indent : String) : String :=
  (indent ++ g.comment ++ "\n") ++
    String.join (g.entries.map fun e => indent ++ Statement.render g.root e ++ "\n")

/-- The file that a generation makes of a head and a tail. -/
def text (g : Generation) (config : PatchConfig) (head tail : String) : String :=
  head ++ (lineBreak head ++ g.block config.indent) ++ tail

/-- Opens a file, registers the entries and finishes; gives the files after
that. -/
def patch (g : Generation) (config : PatchConfig) (path : String) (fs : FileSystem) :
    Except Error FileSystem :=
  match load fs path config g.root g.platform g.stamp with
  | .error err => .error err
  | .ok s =>
    match saveAll (sink Faults.none) g.entries (s.withComment g.comment, fs) with
    | (.error err, _) => .error err
    | (.ok (), s, fs) =>
      match s.finish Faults.none fs with
      | (.error err, _) => .error err
      | (.ok (), _, fs) => .ok fs

/-- The end marker does not occur in what a generation puts after a head, nor
does it begin there and end in the end marker itself. -/
def ClearOfEnd (config : PatchConfig) (head : String) (g : Generation) : Prop :=
  ¬ config.endMarker.toList <:+:
    (lineBreak head ++ g.block config.indent).toList ++ config.endMarker.toList.dropLast

end Generation

/-! ## Where a file is cut -/

/-- A path names a file, at some place and with some mode, that a sink cuts
into a head and a tail. -/
def Opens (fs : FileSystem) (path : String) (config : PatchConfig) (head tail : String) (place : Place)
    (mode : Nat) : Prop :=
  ∃ contents : String, fs.Writable path place ∧ fs.node? place = some (.file contents.toUTF8 mode) ∧
    splitRegion contents config.beginMarker config.endMarker = .ok (head, tail)

section

variable {fs : FileSystem} {path head tail : String} {config : PatchConfig} {place : Place} {mode : Nat}
  {g : Generation}

theorem opens_of_load {s : PatchSink} {root : String} {platform : Platform} {stamp : Nat}
    (h : load fs path config root platform stamp = .ok s) :
    ∃ place mode, Opens fs path config s.head s.tail place mode := by
  obtain ⟨contents, head, tail, hread, hsplit, rfl⟩ := load_eq_ok h
  obtain ⟨mode, hfind⟩ := find_of_readText hread
  obtain ⟨place, hplace, hn⟩ := writable_of_find hfind
  exact ⟨place, mode, contents, hplace, hn, hsplit⟩

namespace Opens

theorem load (h : Opens fs path config head tail place mode) (root : String) (platform : Platform)
    (stamp : Nat) :
    PatchSink.load fs path config root platform stamp =
      .ok ⟨path, root, config.indent, head, tail, generatedBy platform stamp, [], false⟩ := by
  obtain ⟨contents, hplace, hn, hsplit⟩ := h
  rw [load_of_read (readText_of_find (find_of_resolve hplace.resolves hn)), hsplit]

/-- A generation puts its region between the head and the tail, and changes
nothing else. -/
theorem patch (h : Opens fs path config head tail place mode) (g : Generation) :
    g.patch config path fs = .ok (fs.put place (.file (g.text config head tail).toUTF8 mode)) := by
  let s : PatchSink := ⟨path, g.root, config.indent, head, tail, g.comment,
    g.entries.map (Statement.render g.root), false⟩
  have hsave : saveAll (sink Faults.none) g.entries
      (withComment ⟨path, g.root, config.indent, head, tail, generatedBy g.platform g.stamp, [], false⟩
        g.comment, fs) = (.ok (), s, fs) := saveAll_sink rfl Faults.none g.entries fs
  have hrender : s.render = g.text config head tail := by
    simp only [s, render_eq, List.map_map, lineBreak, Generation.text, Generation.block,
      String.append_assoc]
    rfl
  obtain ⟨contents, hplace, hn, -⟩ := id h
  have hfinish := @finish_of_writable fs s rfl place _ mode hplace hn
  rw [hrender] at hfinish
  simp only [Generation.patch, h.load, hsave, hfinish]

/-- A file that was patched is cut where it was cut before. -/
theorem patched (h : Opens fs path config head tail place mode) (hclear : g.ClearOfEnd config head) :
    Opens (fs.put place (.file (g.text config head tail).toUTF8 mode)) path config head tail place
      mode := by
  obtain ⟨contents, hplace, -, hsplit⟩ := h
  obtain ⟨before, after, middle, rest, hbegin, -, rfl, rfl⟩ := splitRegion_eq_ok_iff.mp hsplit
  -- what follows the begin marker up to the end marker, as characters
  let new := (lineBreak (String.ofList (before ++ config.beginMarker.toList)) ++ g.block config.indent).toList
  have hbegin' := hbegin.replace_after (new ++ config.endMarker.toList ++ rest)
  have hend' : FirstOccurrence config.endMarker.toList (new ++ config.endMarker.toList ++ rest) new rest :=
    .of_not_occurs hclear rest
  refine ⟨_, hplace.put _ _, node?_put_self hplace.ne_nil,
    splitRegion_eq_ok_iff.mpr ⟨before, _, new, rest, ?_, hend', rfl, rfl⟩⟩
  rw [Generation.text, String.toList_append, String.toList_append, String.toList_ofList,
    String.toList_ofList, List.append_assoc, ← List.append_assoc new]
  exact hbegin'

/-- A generation does the same to a file that was patched as to the file
before. -/
theorem patch_put (h : Opens fs path config head tail place mode) {n : FileNode}
    (h' : Opens (fs.put place n) path config head tail place mode) (g : Generation) :
    g.patch config path (fs.put place n) = g.patch config path fs := by
  rw [h.patch, h'.patch, put_put]

/-- However often a file is patched, it is cut where it was cut before, and
nothing else has changed. -/
theorem patchAll (h : Opens fs path config head tail place mode) {gs : List Generation}
    (hclear : ∀ g ∈ gs, g.ClearOfEnd config head) :
    ∃ after, gs.foldlM (fun fs g => g.patch config path fs) fs = .ok after ∧
      Opens after path config head tail place mode ∧ ∀ n, after.put place n = fs.put place n := by
  induction gs generalizing fs with
  | nil => exact ⟨fs, rfl, h, fun n => rfl⟩
  | cons g gs ih =>
    have hnext := h.patched (hclear g List.mem_cons_self)
    obtain ⟨after, hafter, hopens, hput⟩ := ih hnext fun g hg => hclear g (List.mem_cons_of_mem _ hg)
    refine ⟨after, ?_, hopens, fun n => (hput n).trans (put_put ..)⟩
    rw [List.foldlM_cons, h.patch g]
    exact hafter

end Opens

end

/-! ## The default markers -/

/-- A text without empty lines: no line feed comes first or right after
another one. -/
structure Dense (cs : List Char) : Prop where
  chain : cs.IsChain fun a b => a = '\n' → b ≠ '\n'
  head : cs.head? ≠ some '\n'

namespace Dense

variable {a b : List Char}

theorem nil : Dense [] := ⟨.nil, by simp⟩

theorem append (ha : Dense a) (hb : Dense b) : Dense (a ++ b) where
  chain := by
    refine List.isChain_append.mpr ⟨ha.chain, hb.chain, fun x _ y hy _ he => ?_⟩
    subst he
    exact hb.head hy
  head := by
    rw [List.head?_append]
    cases hhead : a.head? with
    | none => simpa using hb.head
    | some c => simpa [hhead] using ha.head

/-- A line with something in it. -/
theorem line (hne : a ≠ []) (h : '\n' ∉ a) : Dense (a ++ ['\n']) where
  chain := by
    clear hne
    induction a with
    | nil => exact .singleton _
    | cons c cs ih =>
      refine List.isChain_cons.mpr ⟨fun y _ hc => ?_, ih fun hmem => h (List.mem_cons_of_mem c hmem)⟩
      exact absurd (hc ▸ List.mem_cons_self) h
  head := by
    obtain ⟨c, cs, rfl⟩ := List.exists_cons_of_ne_nil hne
    have hc : c ≠ '\n' := by
      rintro rfl
      exact h List.mem_cons_self
    simpa using hc

end Dense

/-- A region has no empty line, where the indent is not empty. -/
theorem dense_block {g : Generation} {indent : String} (hne : indent ≠ "")
    (hindent : '\n' ∉ indent.toList) (hcomment : '\n' ∉ g.comment.toList) :
    Dense (g.block indent).toList := by
  have hline : ∀ s : String, '\n' ∉ s.toList → Dense (indent ++ s ++ "\n").toList := by
    intro s hs
    rw [String.toList_append, String.toList_append]
    exact .line (by simp [hne]) (by simp [hindent, hs])
  have hstatements : Dense
      (String.join (g.entries.map fun e => indent ++ Statement.render g.root e ++ "\n")).toList := by
    induction g.entries with
    | nil => exact .nil
    | cons e es ih =>
      rw [List.map_cons, String.join_cons, String.toList_append]
      exact .append (hline _ (Statement.oneLine_render g.root e).newline_not_mem) ih
  rw [Generation.block, String.toList_append]
  exact .append (hline g.comment hcomment) hstatements

theorem newline_not_mem_generatedBy (platform : Platform) (stamp : Nat) :
    '\n' ∉ (generatedBy platform stamp).toList := by
  have hstamp : '\n' ∉ (toString stamp).toList := by
    intro hmem
    rw [show toString stamp = stamp.repr from rfl, Nat.toList_repr] at hmem
    exact absurd (Nat.isDigit_of_mem_toDigits (by decide) (by decide) hmem) (by decide)
  have hname : '\n' ∉ platform.name.toList := by cases platform <;> decide
  have hwords : '\n' ∉ "// Generated by nativeconf on ".toList ∧ '\n' ∉ " at ".toList := by decide
  unfold generatedBy
  simp only [String.toList_append, List.mem_append, not_or]
  exact ⟨⟨⟨hwords.1, hname⟩, hwords.2⟩, hstamp⟩

theorem infix_of_concat {p cs : List Char} {c : Char} (hne : p ≠ []) (hlast : p.getLast? ≠ some c)
    (h : p <:+: cs ++ [c]) : p <:+: cs := by
  rcases List.infix_concat_iff.mp h with ⟨before, hbefore⟩ | h
  · have hend := congrArg List.getLast? hbefore
    rw [List.getLast?_append_of_ne_nil _ hne, List.getLast?_concat] at hend
    exact absurd hend hlast
  · exact h

/-- With the default markers and comment the end marker occurs in no region,
whatever the entries hold. -/
theorem clearOfEnd_default {g : Generation} (hcomment : g.comment = generatedBy g.platform g.stamp)
    (head : String) : g.ClearOfEnd .default head := by
  intro hmem
  rw [String.toList_append, List.append_assoc] at hmem
  have hblock : Dense (g.block PatchConfig.default.indent).toList :=
    dense_block (by decide) (by decide) (hcomment ▸ newline_not_mem_generatedBy g.platform g.stamp)
  have hbrace : Dense ("    \x7d".toList ++ ['\n']) := .line (by decide) (by decide)
  -- the last of the two line feeds cannot be in an occurrence, which ends in a brace
  have hsplit : PatchConfig.default.endMarker.toList.dropLast = "    \x7d".toList ++ ['\n'] ++ ['\n'] := by
    decide
  rw [hsplit, ← List.append_assoc, ← List.append_assoc] at hmem
  have hinner := infix_of_concat (by decide) (by decide) hmem
  rw [List.append_assoc] at hinner
  have hchain : ((lineBreak head).toList ++ ((g.block PatchConfig.default.indent).toList ++
      ("    \x7d".toList ++ ['\n']))).IsChain fun a b => a = '\n' → b ≠ '\n' := by
    have hrest := hblock.append hbrace
    unfold lineBreak
    split
    · exact hrest.chain
    · exact List.isChain_cons.mpr ⟨fun y hy _ he => hrest.head (he ▸ hy), hrest.chain⟩
  have hmarker : ¬ PatchConfig.default.endMarker.toList.IsChain fun a b => a = '\n' → b ≠ '\n' := by
    decide
  apply hmarker
  exact List.IsChain.infix hchain hinner

/-! ## Generating again -/

/-- **What was generated before does not matter.** Let a file open, and let
the end marker not occur in what a generation puts before it. Then the file
opens again after that generation, with the same head and tail, and every
generation does to it what it would have done to the original; the same one
changes nothing. This holds after any number of generations, so nothing that
was generated stays. With the default markers and comment the end marker
never occurs there, whatever the entries are. -/
theorem patch_again {fs : FileSystem} {path root : String} {config : PatchConfig} {platform : Platform}
    {stamp : Nat} {s : PatchSink} (hopen : load fs path config root platform stamp = .ok s) :
    (∀ g : Generation, g.ClearOfEnd config s.head → ∃ fs₁, g.patch config path fs = .ok fs₁ ∧
      (∀ root platform stamp, ∃ s₁, load fs₁ path config root platform stamp = .ok s₁ ∧
        load fs path config root platform stamp = .ok s₁) ∧
      (∀ g' : Generation, ∃ after, g'.patch config path fs₁ = .ok after ∧
        g'.patch config path fs = .ok after) ∧
      g.patch config path fs₁ = .ok fs₁) ∧
    (∀ gs : List Generation, (∀ g ∈ gs, g.ClearOfEnd config s.head) →
      ∃ fs₁, gs.foldlM (fun fs g => g.patch config path fs) fs = .ok fs₁ ∧
        ∀ g' : Generation, g'.patch config path fs₁ = g'.patch config path fs) ∧
    ∀ g : Generation, g.comment = generatedBy g.platform g.stamp → ∀ head, g.ClearOfEnd .default head := by
  obtain ⟨place, mode, hopens⟩ := opens_of_load hopen
  refine ⟨fun g hclear => ?_, fun gs hclear => ?_, fun g hcomment => clearOfEnd_default hcomment⟩
  · have hagain := hopens.patched hclear
    refine ⟨_, hopens.patch g, fun root platform stamp => ⟨_, hagain.load .., hopens.load ..⟩,
      fun g' => ⟨_, (hopens.patch_put hagain g').trans (hopens.patch g'), hopens.patch g'⟩, ?_⟩
    rw [hopens.patch_put hagain, hopens.patch]
  · obtain ⟨fs₁, hafter, hagain, hput⟩ := hopens.patchAll hclear
    refine ⟨fs₁, hafter, fun g' => ?_⟩
    rw [hagain.patch, hopens.patch, hput]

/-- A file with an empty region between the default markers. -/
def loader : FileSystem :=
  ⟨[(["T"], .file (PatchConfig.default.beginMarker ++ PatchConfig.default.endMarker).toUTF8 0o640)]⟩

/-- An entry that holds the end marker. -/
def marked : Generation :=
  ⟨"r", .x86Linux, 1, generatedBy .x86Linux 1, [⟨"k", .text PatchConfig.default.endMarker⟩]⟩

/-- The marker in the entry is not taken for that of the file. -/
theorem patch_again_marked :
    ∃ s fs₁ after, load loader "T" .default "r" .x86Linux 1 = .ok s ∧ marked.ClearOfEnd .default s.head ∧
      marked.patch .default "T" loader = .ok fs₁ ∧ marked.patch .default "T" fs₁ = .ok fs₁ ∧
      Generation.patch { marked with entries := [] } .default "T" fs₁ = .ok after ∧
      Generation.patch { marked with entries := [] } .default "T" loader = .ok after := by
  have hopen : load loader "T" .default "r" .x86Linux 1 =
      .ok ⟨"T", "r", PatchConfig.default.indent, PatchConfig.default.beginMarker,
        PatchConfig.default.endMarker, generatedBy .x86Linux 1, [], false⟩ := by rfl
  obtain ⟨hagain, -, hdefault⟩ := patch_again hopen
  have hclear := hdefault marked rfl PatchConfig.default.beginMarker
  obtain ⟨fs₁, hfirst, -, hnext, hsame⟩ := hagain marked hclear
  obtain ⟨after, hafter, horiginal⟩ := hnext { marked with entries := [] }
  exact ⟨_, fs₁, after, hopen, hclear, hfirst, hsame, hafter, horiginal⟩

end AbiProbe.PatchSink
