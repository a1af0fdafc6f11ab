import ShaderLowering.Binding.Mapping
import ShaderLowering.Binding.Slot
import ShaderLowering.Command.Arguments
import ShaderLowering.Command.FilePath
import ShaderLowering.Command.FileTree
import ShaderLowering.Command.Files
import ShaderLowering.Command.Run
import ShaderLowering.Decimal.Binary
import ShaderLowering.Decimal.Layout
import ShaderLowering.Decimal.Shortest
import ShaderLowering.Digest.Blake3
import ShaderLowering.Generator.Arithmetic
import ShaderLowering.Generator.Declare
import ShaderLowering.Generator.Entry
import ShaderLowering.Generator.Error
import ShaderLowering.Generator.Register
import ShaderLowering.Generator.State
import ShaderLowering.Generator.Value
import ShaderLowering.Lowering.Computation
import ShaderLowering.Lowering.Declaration
import ShaderLowering.Lowering.Diagnostic
import ShaderLowering.Lowering.Error
import ShaderLowering.Lowering.Operand
import ShaderLowering.Lowering.Program
import ShaderLowering.Main
import ShaderLowering.Options
import ShaderLowering.Proofs.Binding.Mapping
import ShaderLowering.Proofs.Binding.Numbering
import ShaderLowering.Proofs.Binding.Slots
import ShaderLowering.Proofs.Generator.Accessing
import ShaderLowering.Proofs.Generator.Components
import ShaderLowering.Proofs.Generator.Composition
import ShaderLowering.Proofs.Generator.ComputationSteps
import ShaderLowering.Proofs.Generator.Computing
import ShaderLowering.Proofs.Generator.DeclarationSteps
import ShaderLowering.Proofs.Generator.Declaring
import ShaderLowering.Proofs.Generator.Evaluating
import ShaderLowering.Proofs.Generator.Finishing
import ShaderLowering.Proofs.Generator.Interfaces
import ShaderLowering.Proofs.Generator.Invariant
import ShaderLowering.Proofs.Generator.Performing
import ShaderLowering.Proofs.Generator.Referencing
import ShaderLowering.Proofs.Generator.Registers
import ShaderLowering.Proofs.Generator.Repeating
import ShaderLowering.Proofs.Generator.Representing
import ShaderLowering.Proofs.Generator.Sessions
import ShaderLowering.Proofs.Generator.Settling
import ShaderLowering.Proofs.Generator.Shapes
import ShaderLowering.Proofs.Generator.Steps
import ShaderLowering.Proofs.Lowering.Addressing
import ShaderLowering.Proofs.Lowering.Arithmetic
import ShaderLowering.Proofs.Lowering.Atomicity
import ShaderLowering.Proofs.Lowering.CodeKept
import ShaderLowering.Proofs.Lowering.Composition
import ShaderLowering.Proofs.Lowering.Computations
import ShaderLowering.Proofs.Lowering.Coverage
import ShaderLowering.Proofs.Lowering.Declarations
import ShaderLowering.Proofs.Lowering.DotProducts
import ShaderLowering.Proofs.Lowering.Elements
import ShaderLowering.Proofs.Lowering.ErrorPositions
import ShaderLowering.Proofs.Lowering.Events
import ShaderLowering.Proofs.Lowering.Faults
import ShaderLowering.Proofs.Lowering.Framing
import ShaderLowering.Proofs.Lowering.InertInstructions
import ShaderLowering.Proofs.Lowering.Interfaces
import ShaderLowering.Proofs.Lowering.LoweredProgram
import ShaderLowering.Proofs.Lowering.MeaningKept
import ShaderLowering.Proofs.Lowering.Moving
import ShaderLowering.Proofs.Lowering.Naming
import ShaderLowering.Proofs.Lowering.Operands
import ShaderLowering.Proofs.Lowering.Pipeline
import ShaderLowering.Proofs.Lowering.Reading
import ShaderLowering.Proofs.Lowering.References
import ShaderLowering.Proofs.Lowering.Renaming
import ShaderLowering.Proofs.Lowering.Run
import ShaderLowering.Proofs.Lowering.Soundness
import ShaderLowering.Proofs.Lowering.Storing
import ShaderLowering.Proofs.Lowering.Strictness
import ShaderLowering.Proofs.Lowering.WellFormedCode
import ShaderLowering.Proofs.Reuse.Deduplication
import ShaderLowering.Proofs.Reuse.Transparency
import ShaderLowering.Proofs.Semantics.Execution
import ShaderLowering.Proofs.Semantics.Instructions
import ShaderLowering.Proofs.Semantics.Platform
import ShaderLowering.Proofs.Semantics.Registers
import ShaderLowering.Proofs.Semantics.Requests
import ShaderLowering.Proofs.Semantics.Scalars
import ShaderLowering.Proofs.Semantics.Sources
import ShaderLowering.Proofs.Spirv.Additions
import ShaderLowering.Proofs.Spirv.Bindings
import ShaderLowering.Proofs.Spirv.Blocks
import ShaderLowering.Proofs.Spirv.Building
import ShaderLowering.Proofs.Spirv.Decoding
import ShaderLowering.Proofs.Spirv.Framing
import ShaderLowering.Proofs.Spirv.Ids
import ShaderLowering.Proofs.Spirv.Interning
import ShaderLowering.Proofs.Spirv.Journal
import ShaderLowering.Proofs.Spirv.Launch
import ShaderLowering.Proofs.Spirv.Literals
import ShaderLowering.Proofs.Spirv.Renaming
import ShaderLowering.Proofs.Spirv.Rewriting
import ShaderLowering.Proofs.Spirv.Typing
import ShaderLowering.Proofs.Spirv.WellFormed
import ShaderLowering.Proofs.Stateful
import ShaderLowering.Proofs.StringBytes
import ShaderLowering.Proofs.Token.ArgumentCalls
import ShaderLowering.Proofs.Token.DraftTokens
import ShaderLowering.Proofs.Token.Moving
import ShaderLowering.Proofs.Token.PrefixFree
import ShaderLowering.Proofs.Token.ReaderOrder
import ShaderLowering.Proofs.Token.ReaderRuns
import ShaderLowering.Proofs.Token.WholeInstructions
import ShaderLowering.Proofs.Token.WholeOperands
import ShaderLowering.Proofs.Token.WrittenOperands
import ShaderLowering.Proofs.Token.WrittenPrograms
import ShaderLowering.Proofs.Words
import ShaderLowering.Reuse.ObjectSet
import ShaderLowering.Reuse.ShaderCache
import ShaderLowering.Shader
import ShaderLowering.Spirv.Code
import ShaderLowering.Spirv.Enumerant
import ShaderLowering.Spirv.Literal
import ShaderLowering.Spirv.Module
import ShaderLowering.Spirv.Op
import ShaderLowering.Text.Printable
import ShaderLowering.Text.Quoted
import ShaderLowering.Token.Assembly
import ShaderLowering.Token.Component
import ShaderLowering.Token.Cursor
import ShaderLowering.Token.DecodeError
import ShaderLowering.Token.Field
import ShaderLowering.Token.Instruction
import ShaderLowering.Token.Numbered
import ShaderLowering.Token.Opcode
import ShaderLowering.Token.OpcodeToken
import ShaderLowering.Token.Operand
import ShaderLowering.Token.OperandToken
import ShaderLowering.Token.Program
import ShaderLowering.Token.Reader
import ShaderLowering.Token.Writer
import ShaderLowering.Word
