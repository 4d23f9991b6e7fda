/-
A run: every probe of a catalog goes through the toolchain, and its facts
into the sink, one probe after the other. The first failure ends the run;
only a run without one finishes the sink.

Toolchain and sink act on one state, of any type, so a run says nothing of
files and processes.
-/
import AbiProbe.Probe
import AbiProbe.Sink

namespace AbiProbe

/-- What turns programs into outputs, with states in `σ`. -/
structure Toolchain (σ : Type) where
  call : Mode → String → σ → Except Error String × σ

namespace Toolchain

/-- The toolchain that always answers a program in the same way. -/
def ofFunction {σ : Type} (answer : Mode → String → Except Error String) : Toolchain σ :=
  ⟨fun mode source s => (answer mode source, s)⟩

/-- A toolchain on a state that stands beside another one. -/
def beside {σ τ : Type} (t : Toolchain σ) : Toolchain (τ × σ) where
  call mode source := fun (other, s) =>
    let (r, s) := t.call mode source s
    (r, other, s)

end Toolchain

/-- What a probe of a run came to. -/
structure ProbeSummary where
  label : String
  kind : ProbeKind
  entries : Nat
  deriving DecidableEq, Repr

/-- What a run came to. -/
structure Summary where
  platform : Platform
  sinkName : String
  probes : List ProbeSummary
  deriving DecidableEq, Repr

namespace Summary

def total (s : Summary) : Nat := s.probes.foldr (fun p n => p.entries + n) 0

end Summary

section

variable {σ : Type}

/-- Registers entries in order, up to the first that is refused. -/
def saveAll (sink : Sink σ) : List Entry → σ → Except Error Unit × σ
  | [], s => (.ok (), s)
  | e :: rest, s =>
    match sink.register e s with
    | (.error err, s) => (.error err, s)
    | (.ok (), s) => saveAll sink rest s

/-- Runs one probe; gives the number of its entries. -/
def runProbe (toolchain : Toolchain σ) (sink : Sink σ) (p : Probe) (s : σ) :
    Except Error Nat × σ :=
  match toolchain.call p.mode p.source s with
  | (.error err, s) => (.error err, s)
  | (.ok output, s) =>
    match p.analyse output with
    | (.error err, _) => (.error err, s)
    | (.ok (), p) =>
      match saveAll sink p.entries s with
      | (.error err, s) => (.error err, s)
      | (.ok (), s) => (.ok p.entries.length, s)

/-- Runs probes in order, up to the first that fails. -/
def runProbes (toolchain : Toolchain σ) (sink : Sink σ) :
    List Probe → σ → Except Error (List ProbeSummary) × σ
  | [], s => (.ok [], s)
  | p :: rest, s =>
    match runProbe toolchain sink p s with
    | (.error err, s) => (.error err, s)
    | (.ok entries, s) =>
      match runProbes toolchain sink rest s with
      | (.error err, s) => (.error err, s)
      | (.ok summaries, s) => (.ok (⟨p.label, p.kind, entries⟩ :: summaries), s)

/-- Runs all probes of a catalog on a platform, then finishes the sink. -/
def run (toolchain : Toolchain σ) (sink : Sink σ) (platform : Platform) (catalog : Catalog) (s : σ) :
    Except Error Summary × σ :=
  match runProbes toolchain sink (catalog.probes platform) s with
  | (.error err, s) => (.error err, s)
  | (.ok probes, s) =>
    match sink.finish s with
    | (.error err, s) => (.error err, s)
    | (.ok (), s) => (.ok ⟨platform, sink.name, probes⟩, s)

end

end AbiProbe
