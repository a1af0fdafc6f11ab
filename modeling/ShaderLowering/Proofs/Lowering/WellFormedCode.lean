import ShaderLowering.Proofs.Generator.Finishing
import ShaderLowering.Proofs.Lowering.Soundness

/-!
# The code of lowered shaders

What the invariant of the generator means for the words of a finished shader. Whatever instructions
are handled, and whether the caller goes on behind errors or not, the code decodes to instructions
that are disciplined (`Lowering.code_disciplined`); the code of a program that can be lowered is
typed as well (`Program.code_wellTyped`). Both ask that ids fit a word and that no instruction is too
long for its length to be written.
-/

namespace ShaderLowering

open Spirv

namespace Lowering

/-- The module of the shader that a lowering has come to. -/
def module (l : Lowering) : Module := l.generator.finished

theorem code_finish (l : Lowering) : l.finish.shader.code = l.module.code := rfl

/-- A shader of any stage whose instructions are handled one after the other, whether they fail or
not, has code that decodes to disciplined instructions. -/
theorem code_disciplined (stage : EntryStage) (options : Options)
    (instructions : List Instruction)
    (hfit : ((start (.start stage options) options).handledAll instructions).module.bound < UInt32.size)
    (hlength : ((start (.start stage options) options).handledAll instructions).module.IsEncodable) :
    ∃ insts,
      ((start (.start stage options) options).handledAll instructions).finish.shader.code.decoded? =
        some insts ∧
      Disciplined (stringWords options.entryPoint).length
        ((start (.start stage options) options).handledAll instructions).finish.shader.code.idBound
        insts := by
  obtain ⟨hgrows, hw⟩ := wellFormed_handledAll
    (l := start (.start stage options) options) (Generator.wellFormed_start stage options)
    instructions
  refine ⟨_, Module.decoded?_code hlength hw.laidOut, ?_⟩
  rw [code_finish, Module.idBound_code hfit]
  have hname := hgrows.fixed.2.1
  have hdisciplined := hw.disciplined hfit
  rw [hname] at hdisciplined
  exact hdisciplined

/-- A store to a declared register, a return, a store to a register that is not declared, and
another return. -/
def storesAroundReturn : List Instruction :=
  [⟨2, ⟨0x02000068⟩, .dclTemps, [], [1]⟩,
   ⟨4, ⟨0x05000036⟩, .mov, [], [0x00100012, 0, 0x00004001, 0x3f800000]⟩,
   ⟨9, ⟨0x0100003e⟩, .ret, [], []⟩,
   ⟨10, ⟨0x05000036⟩, .mov, [], [0x00100012, 7, 0x00004001, 0x3f800000]⟩,
   ⟨15, ⟨0x0100003e⟩, .ret, [], []⟩]

/-- The code stays disciplined although a handler fails in it and a block is opened behind the first
return. -/
theorem storesAroundReturn_disciplined :
    ∃ insts,
      ((start (.start .vertex .standard) .standard).handledAll
        storesAroundReturn).finish.shader.code.decoded? = some insts ∧
      Disciplined (stringWords "main").length
        ((start (.start .vertex .standard) .standard).handledAll
          storesAroundReturn).finish.shader.code.idBound
        insts :=
  code_disciplined .vertex .standard storesAroundReturn (by decide +kernel) (by decide +kernel)

end Lowering

namespace Program

/-- The module of a lowered program, if the program can be lowered. -/
def module? (p : Program) (options : Options) : Option Module :=
  match Generator.ofStage p.stage options with
  | .error _ => none
  | .ok g =>
    match (Lowering.start g options).run p.instructions.items with
    | (.ok (), l) => some l.module
    | (.error _, _) => none

/-- A program that can be lowered has a module, whose words are the code of the shader. The code
decodes to typed instructions. -/
theorem code_wellTyped {p : Program} {options : Options} {s : LoweredShader}
    (hs : p.lower options = .ok s) :
    ∃ m, p.module? options = some m ∧ s.shader.code = m.code ∧
      (m.bound < UInt32.size → m.IsEncodable →
        ∃ insts, s.shader.code.decoded? = some insts ∧ WellTyped insts) := by
  rw [lower_eq_run] at hs
  rcases hstage : EntryStage.ofStage? p.stage with _ | stage
  · simp only [Generator.ofStage, hstage] at hs
    cases hs
  · have hg : Generator.ofStage p.stage options = .ok (.start stage options) := by
      simp only [Generator.ofStage, hstage]
    have hwell := (Lowering.wellFormed_run (l := .start (.start stage options) options)
      (Generator.wellFormed_start stage options) p.instructions.items).2
    rcases hrun : (Lowering.start (.start stage options) options).run p.instructions.items
      with ⟨e | _, l⟩ <;> simp only [hg, hrun] at hs hwell
    · cases hs
    · cases hs
      refine ⟨l.module, ?_, rfl, fun hfit hlength => ?_⟩
      · simp only [module?, hg, hrun]
      · exact ⟨_, Module.decoded?_code hlength hwell.laidOut, hwell.wellTyped hfit⟩

/-- A vertex program that stores to a temporary register and returns. -/
def storeAndReturn : Program :=
  ⟨.vertex, ⟨4, 0⟩,
    [0x00010040, 10, 0x02000068, 1, 0x05000036, 0x00100012, 0, 0x00004001, 0x3f800000, 0x0100003e]⟩

/-- The program can be lowered, and its code decodes to typed instructions. -/
theorem storeAndReturn_wellTyped :
    ∃ s, storeAndReturn.lower .standard = .ok s ∧
      ∃ insts, s.shader.code.decoded? = some insts ∧ WellTyped insts := by
  have hsome : (storeAndReturn.lower .standard).toOption.isSome := by decide +kernel
  have hfits : ∀ m ∈ storeAndReturn.module? .standard, m.bound < UInt32.size ∧ m.IsEncodable := by
    decide +kernel
  rcases hs : storeAndReturn.lower .standard with e | s
  · rw [hs] at hsome
    cases hsome
  · obtain ⟨m, hm, -, htyped⟩ := code_wellTyped hs
    obtain ⟨hfit, hlength⟩ := hfits m hm
    exact ⟨s, rfl, htyped hfit hlength⟩

end Program

end ShaderLowering
