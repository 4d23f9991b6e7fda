import AbiProbe.Main
import AbiProbe.Proofs.Repatch
import AbiProbe.Proofs.TypedefChains
import AbiProbe.Proofs.FailedRun
import AbiProbe.Proofs.UniqueKeys
import AbiProbe.Proofs.SinkSessions
import AbiProbe.Proofs.SuccessfulRun
import AbiProbe.Proofs.FlatReading
import AbiProbe.Probe.Execution
import AbiProbe.Proofs.LayoutRoundTrip
import AbiProbe.Proofs.ConstantHistory
import AbiProbe.Probe.SourceLine
import AbiProbe.Proofs.ProgramShape
import AbiProbe.Probe.Conditional
import AbiProbe.Proofs.DefinedConstants
import AbiProbe.Proofs.RepeatedAnalysis
import AbiProbe.Compiler.Plan
import AbiProbe.Probe.LayoutLines
import AbiProbe.Proofs.WorkDirectory
import AbiProbe.Proofs.CompilerRuns
import AbiProbe.Proofs.LayoutReading
import AbiProbe.Proofs.LayoutHistory
import AbiProbe.Proofs.ConstantReading
import AbiProbe.Value.Word
import AbiProbe.Proofs.ValueOfText
import AbiProbe.Proofs.ValueOfWord
import AbiProbe.Proofs.SplitOutput
import AbiProbe.Probe.PlainTypedef
import AbiProbe.Proofs.PlainTypedefs
import AbiProbe.Proofs.TypedefSteps
import AbiProbe.Proofs.IndependentTypedefs
import AbiProbe.Proofs.OverriddenAliases
import AbiProbe.Proofs.CatalogRoundTrip
import AbiProbe.Proofs.PartialConfig
import AbiProbe.Probe.MachineMode
import AbiProbe.Proofs.MachineModes
