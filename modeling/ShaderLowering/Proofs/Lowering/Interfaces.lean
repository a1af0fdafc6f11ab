import ShaderLowering.Proofs.Generator.Interfaces
import ShaderLowering.Proofs.Lowering.References

/-!
# The interface of a shader

The input and output registers of a shader are those that its program declares, each as it is declared
first. `Instruction.interface?` reads a declaration off an instruction; it finds none where a
declaration is left out. `Generator.Presents` says what a generator has of the declared registers,
and every instruction keeps it (`Generator.Presents.handle`). So the code of a shader has exactly
their variables, and what connects these to the stages around (`LoweredProgram.interface_agrees`).
-/

namespace ShaderLowering

open Spirv (Build Inst Module Decoration stringWords)

/-! ## Declarations as they are read -/

namespace Instruction

/-- The system value behind the operand of a declaration. Most declarations have none. -/
def declaredSystemValue? (i : Instruction) (o : Operand) : Option SystemValue :=
  if Lower.hasSystemValue i.opcode then
    (i.arg o.length).toOption.bind fun w => Numbered.ofRaw? w.toNat
  else some .undefined

/-- The interpolation mode of a declaration. Most declarations have none. -/
def declaredInterpolation? (i : Instruction) : Option InterpolationMode :=
  if Lower.hasInterpolation i.opcode then i.interpolationMode.toOption else some .undefined

/-- The input or output register that an instruction declares. Registers with two indices are not
declared. -/
def interface? (i : Instruction) : Option InterfaceRegister :=
  if i.opcode.isInterface then do
    let o ← i.declared?
    let kind ← InterfaceClass.ofOperandType? o.type
    let number ← if o.dimension = 1 then o.index32? 0 else none
    let systemValue ← i.declaredSystemValue? o
    let interpolation ← i.declaredInterpolation?
    return ⟨kind, number, systemValue, interpolation⟩
  else none

variable {i : Instruction} {o : Operand}

theorem interface?_eq_some {kind : InterfaceClass} {number : Word} {systemValue : SystemValue}
    {interpolation : InterpolationMode} (hi : i.opcode.isInterface = true)
    (ho : i.operand 0 = .ok o) (hkind : InterfaceClass.ofOperandType? o.type = some kind)
    (hone : o.dimension = 1) (hnumber : o.index32? 0 = some number)
    (hsystemValue : i.declaredSystemValue? o = some systemValue)
    (hinterpolation : i.declaredInterpolation? = some interpolation) :
    i.interface? = some ⟨kind, number, systemValue, interpolation⟩ := by
  simp [interface?, hi, declared?, ho, Except.toOption, hkind, hone, hnumber, hsystemValue,
    hinterpolation]

/-- A register of another kind, or with two indices, is not declared. -/
theorem interface?_eq_none (ho : i.operand 0 = .ok o)
    (h : InterfaceClass.ofOperandType? o.type = none ∨ o.dimension ≠ 1) : i.interface? = none := by
  rw [interface?]
  split
  · rw [declared?, ho]
    rcases h with h | h
    · simp [Except.toOption, h]
    · simp [Except.toOption, h]
  · rfl

end Instruction

/-! ## The handler of declarations -/

namespace Lower

variable {α β : Type}

/-- Parts of handlers that leave the generator alone and never leave out their instruction, with
what holds of their results. -/
def Finds (op : Lower α) (P : α → Prop) : Prop :=
  ∀ s, match op.run s with
    | (.ok a, s') => s'.generator = s.generator ∧ P a
    | (.error (.missing _), _) => False
    | (.error (.fault _), _) => True

/-- What a handler comes to, if it meets no fault: a generator of which something holds, or an
instruction that is left out. -/
def Comes (s : LowerState) (op : Lower Unit) (P : Generator → Prop) (left : Prop) : Prop :=
  match op.run s with
  | (.ok _, s') => P s'.generator
  | (.error (.missing _), _) => left
  | (.error (.fault _), _) => True

namespace Finds

variable {op : Lower α} {P : α → Prop}

theorem pure {a : α} (h : P a) : Finds (Pure.pure a) P := fun _ => ⟨rfl, h⟩

theorem fault {f : CompileFault} : Finds (Lower.fault f) P := fun _ => trivial

theorem gap (g : Gap) : Finds (Lower.gap g) fun _ => True := fun _ => ⟨rfl, trivial⟩

theorem bind {f : α → Lower β} {Q : β → Prop} (h : Finds op P)
    (hf : ∀ a, P a → Finds (f a) Q) : Finds (op >>= f) Q := by
  intro s
  have hop := h s
  rw [run_bind]
  rcases hrun : op.run s with ⟨(feature | e) | a, s'⟩ <;> rw [hrun] at hop
  · exact hop
  · trivial
  · obtain ⟨hs', ha⟩ := hop
    have hrest := hf a ha s'
    rwa [hs'] at hrest

/-- What a handler finds first does not change what it works on. -/
theorem comes_bind {f : α → Lower Unit} {s : LowerState} {Q : Generator → Prop} {left : Prop}
    (h : Finds op P) (hf : ∀ a s', s'.generator = s.generator → P a → Comes s' (f a) Q left) :
    Comes s (op >>= f) Q left := by
  have hop := h s
  rw [Comes, run_bind]
  rcases hrun : op.run s with ⟨(feature | e) | a, s'⟩ <;> rw [hrun] at hop
  · exact hop.elim
  · trivial
  · exact hf a s' hop.1 hop.2

end Finds

theorem comes_get_bind {s : LowerState} {f : LowerState → Lower Unit} {P : Generator → Prop}
    {left : Prop} (h : Comes s (f s) P left) : Comes s (get >>= f) P left := h

theorem comes_generate {s : LowerState} {op : Generate Unit} {g : Generator} {P : Generator → Prop}
    {left : Prop} (hrun : op.run s.generator = (.ok (), g)) (hg : P g) :
    Comes s (generate op) P left := by
  rw [Comes, run_generate, hrun]
  exact hg

theorem finds_decoded (r : Except DecodeError α) : Finds (decoded r) fun a => r = .ok a := by
  cases r with
  | ok a => exact .pure rfl
  | error e => exact .fault

theorem finds_plainIndex (o : Operand) (n : Nat) (role : OperandRole) :
    Finds (plainIndex o n role) fun v => o.index32? n = some v := by
  refine .bind (finds_decoded _) fun index hindex => ?_
  split
  · exact .pure (Operand.index32?_of_index hindex)
  · exact .fault

theorem finds_targetMask (o : Operand) : Finds (targetMask o) fun _ => True := by
  rw [targetMask]
  split
  iterate 3 exact .pure trivial
  · exact .fault
  · exact .fault

/-- There is a region unless there is only one index. -/
theorem finds_interfaceIndices (o : Operand) :
    Finds (interfaceIndices o) fun indices =>
      (o.dimension = 1 ∧ indices.1 = none ∧ o.index32? 0 = some indices.2) ∨
      (o.dimension ≠ 1 ∧ indices.1.isSome) := by
  rw [interfaceIndices]
  split
  · next hone =>
    exact .bind (finds_plainIndex _ _ _) fun register hregister =>
      .pure (.inl ⟨hone, rfl, hregister⟩)
  · next htwo =>
    exact .bind (finds_plainIndex _ _ _) fun region _ => .bind (finds_plainIndex _ _ _) fun _ _ =>
      .pure (.inr ⟨by omega, rfl⟩)
  · exact .fault

theorem finds_systemValue (i : Instruction) (o : Operand) :
    Finds (systemValue i o) fun v => i.declaredSystemValue? o = some v := by
  rw [systemValue, Instruction.declaredSystemValue?]
  split
  · refine .bind (finds_decoded _) fun w hw => ?_
    rw [hw, Except.toOption, Option.bind_some, Numbered.decode]
    split
    · next h => exact .pure h
    · exact .fault
  · exact .pure rfl

/-- The handler of declarations of input and output registers declares what is read. It leaves out
the instructions of which nothing is read. -/
theorem comes_declareInterface {i : Instruction} (hi : i.opcode.isInterface = true)
    (s : LowerState) :
    Comes s (declareInterface i) (fun g => ∃ r, i.interface? = some r ∧ s.generator.Introduces r g)
      (i.interface? = none) := by
  refine (finds_decoded _).comes_bind fun o s₁ hs₁ ho => ?_
  simp only [missing_bind]
  split
  · next hnone => exact Instruction.interface?_eq_none ho (.inl (Option.isNone_iff_eq_none.1 hnone))
  · next hsome =>
    obtain ⟨kind, hkind⟩ := Option.ne_none_iff_exists'.1 fun h => hsome (Option.isNone_iff_eq_none.2 h)
    refine (finds_interfaceIndices o).comes_bind fun indices s₂ hs₂ hindices => ?_
    obtain ⟨region?, register⟩ := indices
    refine (finds_targetMask o).comes_bind fun mask s₃ hs₃ _ => ?_
    refine (finds_systemValue i o).comes_bind fun wanted s₄ hs₄ hwanted => ?_
    have hsame : s₄.generator = s.generator := hs₄.trans (hs₃.trans (hs₂.trans hs₁))
    -- with one index the register is introduced, with two the declaration is left out
    have hdeclare (s₅ : LowerState) (hs₅ : s₅.generator = s₄.generator) (v : SystemValue)
        (hv : s₄.generator.stage.builtIn? o.type v = s₄.generator.stage.builtIn? o.type wanted)
        (mode : InterpolationMode) (hmode : i.declaredInterpolation? = some mode) :
        Comes s₅ (generate (Generate.declareInterface
          { type := o.type, register, region?, mask, systemValue := v, interpolation := mode }))
          (fun g => ∃ r, i.interface? = some r ∧ s.generator.Introduces r g)
          (i.interface? = none) := by
      rcases hindices with ⟨hone, hregion, hregister⟩ | ⟨hmore, hregion⟩
      · have hread := Instruction.interface?_eq_some hi ho hkind hone hregister hwanted hmode
        have hbuiltIn := hv.trans
          (EntryStage.builtIn?_eq (r := ⟨kind, register, wanted, mode⟩) hkind s₄.generator.stage)
        obtain ⟨g, hrun, hg⟩ := Generate.introduces_declareInterface
          (d := ⟨o.type, register, region?, mask, v, mode⟩) hregion hkind rfl hbuiltIn rfl
        rw [hsame] at hg
        rw [← hs₅] at hrun
        exact comes_generate hrun ⟨_, hread, hg⟩
      · obtain ⟨region, rfl⟩ := Option.isSome_iff_exists.1 hregion
        exact Instruction.interface?_eq_none ho (.inr hmore)
    -- a system value that cannot be expressed is replaced, which makes no difference
    have hrest (s₅ : LowerState) (hs₅ : s₅.generator = s₄.generator) (v : SystemValue)
        (hv : s₄.generator.stage.builtIn? o.type v = s₄.generator.stage.builtIn? o.type wanted) :
        Comes s₅ (if hasInterpolation i.opcode then do
            let interpolation ← decoded i.interpolationMode
            generate (Generate.declareInterface
              { type := o.type, register, region?, mask, systemValue := v, interpolation })
          else do
            let interpolation ← pure .undefined
            generate (Generate.declareInterface
              { type := o.type, register, region?, mask, systemValue := v, interpolation }))
          (fun g => ∃ r, i.interface? = some r ∧ s.generator.Introduces r g)
          (i.interface? = none) := by
      split
      · next hyes =>
        refine (finds_decoded _).comes_bind fun mode s₆ hs₆ hmode =>
          hdeclare s₆ (hs₆.trans hs₅) v hv mode ?_
        rw [Instruction.declaredInterpolation?, if_pos hyes, hmode]
        rfl
      · next hno =>
        exact hdeclare s₅ hs₅ v hv .undefined (by rw [Instruction.declaredInterpolation?, if_neg hno])
    refine comes_get_bind ?_
    split
    · exact hrest s₄ rfl wanted rfl
    · next hno =>
      exact (Finds.gap _).comes_bind fun _ s₅ hs₅ _ =>
        hrest s₅ hs₅ .undefined (Generator.builtIn?_undefined hno)

theorem Computes.quiet {op : Lower α} (h : Computes op) : Quiet op :=
  fun s => (h.unnoticed s).1.exposes

theorem quiet_generate {op : Generate α} (h : Quiet op) : Quiet (generate op) :=
  fun s => h s.generator

theorem Stores.quiet {op : Lower Unit} (h : Stores op) : Quiet op := by
  induction h with
  | bind h _ ih => exact .bind h.quiet ih
  | generate h => exact quiet_generate h.quiet

theorem Declares.quiet {op : Lower Unit} (h : Declares Quiet op) : Quiet op :=
  Declares.respects (R := fun g g' => g.Exposes [] [] g') .refl h

/-- The handlers of all other instructions expose nothing. -/
theorem quiet_instruction {i : Instruction} (hi : i.opcode.isInterface = false) :
    Quiet (instruction i) := by
  refine instruction_cases (P := Quiet) i (.pure ()) ?_ ?_ ?_ (fun h => ?_) ?_ ?_
    (fun _ => ?_) (fun _ => ?_) (fun _ => ?_) (fun _ => ?_) (fun n _ => ?_) (fun _ => ?_)
    (fun _ => quiet_generate Generate.quiet_ret) (fun _ => ?_) (fun _ => .refl _)
  · exact (declares_declareConstantBuffer i Generate.quiet_declareConstantBuffer).quiet
  · exact (declares_declareResource i Generate.quiet_declareResource).quiet
  · exact (declares_declareSampler i Generate.quiet_declareSampler).quiet
  · rw [hi] at h
    cases h
  · exact (declares_declareTemps i fun count _ => Generate.quiet_declareTemps count).quiet
  · exact (declares_declareThreadGroup i Generate.quiet_declareThreadGroup).quiet
  · exact (stores_binary i Generate.computes_add).quiet
  · exact (stores_binary i Generate.computes_mul).quiet
  · exact (stores_multiplyAdd i).quiet
  · exact (stores_unary i .pure).quiet
  · exact (stores_dot i n).quiet
  · exact (stores_unary i Generate.computes_inverseSqrt).quiet
  · exact (stores_sample i).quiet

theorem instruction_of_isInterface {i : Instruction} (hi : i.opcode.isInterface = true) :
    instruction i = declareInterface i := by
  unfold Opcode.isInterface at hi
  split at hi
  iterate 9 next h => rw [instruction, h]
  cases hi

end Lower

/-! ## Declared registers -/

/-- What tells one input or output register from others. -/
def InterfaceRegister.key (r : InterfaceRegister) : InterfaceClass × Word := (r.kind, r.number)

/-- The input and output registers that instructions declare, each as it is declared first. -/
def firstInterfaces (instructions : List Instruction) : List InterfaceRegister :=
  (instructions.filterMap Instruction.interface?).foldl (recordNew InterfaceRegister.key) []

theorem nodup_firstInterfaces (instructions : List Instruction) :
    ((firstInterfaces instructions).map InterfaceRegister.key).Nodup :=
  nodup_foldl_recordNew (by simp) _

/-- No register that is declared is missing. -/
theorem mem_firstInterfaces {instructions : List Instruction} {key : InterfaceClass × Word} :
    key ∈ (firstInterfaces instructions).map InterfaceRegister.key ↔
      ∃ i ∈ instructions, ∃ r, i.interface? = some r ∧ r.key = key := by
  rw [firstInterfaces, mem_foldl_recordNew]
  simp only [List.map_nil, List.not_mem_nil, false_or, List.mem_map, List.mem_filterMap]
  constructor
  · rintro ⟨r, ⟨i, hi, hr⟩, hkey⟩
    exact ⟨i, hi, r, hr, hkey⟩
  · rintro ⟨i, hi, r, hr, hkey⟩
    exact ⟨r, ⟨i, hi, hr⟩, hkey⟩

namespace Generator

/-- Whether an instruction is left out for want of a feature. -/
def leavesOut (g : Generator) (i : Instruction) : Bool :=
  match (g.handle i).outcome with
  | .ok gaps => gaps.any Gap.isSkip
  | .error _ => false

/-- What a generator has of the registers that are declared, each with its variable: nothing else in
its module belongs to the interface. -/
structure Presents (g : Generator) (table : List (InterfaceRegister × Word)) : Prop where
  interfaces : g.interfaces = table.map fun v => ⟨v.1.kind, v.1.number, v.2⟩
  interface : g.module.interface = table.map fun v => (v.1.kind, v.2)
  connections : g.module.connections = table.flatMap fun v => v.1.connections g.stage v.2

variable {g g' : Generator} {i : Instruction} {table : List (InterfaceRegister × Word)}

/-! ## Instructions -/

theorem leavesOut_eq {gaps : List Gap} (hok : (g.handle i).outcome = .ok gaps) :
    g.leavesOut i = gaps.any Gap.isSkip := by
  rw [leavesOut, hok]

/-- A declaration of an input or output register is left out, or it introduces the register that is
read off it. -/
theorem introduces_handle (hi : i.opcode.isInterface = true) {gaps : List Gap}
    (hok : (g.handle i).outcome = .ok gaps) :
    (g.leavesOut i = true ∧ i.interface? = none ∧ g.Exposes [] [] (g.handle i).generator) ∨
    (g.leavesOut i = false ∧ ∃ r, i.interface? = some r ∧ g.Introduces r (g.handle i).generator) := by
  have hcomes := Lower.comes_declareInterface hi ⟨g, []⟩
  have hdeclares := Lower.declares_declareInterface i Generate.declares_declareInterface
  obtain ⟨hfail, hdetails⟩ := hdeclares.unnoticed ⟨g, []⟩
  rw [Lower.Comes] at hcomes
  rw [leavesOut_eq hok]
  rw [handle, Lower.instruction_of_isInterface hi] at hok ⊢
  -- a gap that skips is the only way to go on without the register
  rcases hrun : (Lower.declareInterface i).run ⟨g, []⟩ with ⟨(feature | f) | u, s⟩ <;>
    rw [hrun] at hok hcomes hfail hdetails
  · obtain rfl := Except.ok.inj hok
    refine .inl ⟨?_, hcomes, (hfail _ rfl).exposes⟩
    rw [List.any_append, Bool.or_eq_true]
    exact .inr rfl
  · cases hok
  · obtain rfl := Except.ok.inj hok
    refine .inr ⟨?_, hcomes⟩
    obtain ⟨more, hmore, hnone⟩ := hdetails
    replace hmore : s.gaps = more := hmore
    rw [hmore, List.any_eq_false]
    exact fun gap hgap => by rw [hnone gap hgap]; decide

/-- A declaration is left out exactly if no register is read off it. -/
theorem leavesOut_iff (hi : i.opcode.isInterface = true) {gaps : List Gap}
    (hok : (g.handle i).outcome = .ok gaps) : g.leavesOut i = true ↔ i.interface? = none := by
  rcases introduces_handle hi hok with ⟨hleft, hnone, -⟩ | ⟨hleft, r, hr, -⟩
  · simp [hleft, hnone]
  · simp [hleft, hr]

namespace Presents

/-- Exactly the registers in the table are declared. -/
theorem isSome_interface? (h : g.Presents table) (r : InterfaceRegister) :
    (g.interface? r.kind r.number).isSome ↔ r.key ∈ (table.map (·.1)).map InterfaceRegister.key := by
  rw [interface?, h.interfaces, List.find?_isSome]
  simp [InterfaceRegister.key]

/-- A register in the table has the variable that stands there. -/
theorem registerId?_of_mem (h : g.Presents table)
    (hnodup : ((table.map (·.1)).map InterfaceRegister.key).Nodup) {v : InterfaceRegister × Word}
    (hv : v ∈ table) : g.registerId? (.interface v.1.kind v.1.number) = some v.2 := by
  have hsome := (h.isSome_interface? v.1).2 (List.mem_map_of_mem (List.mem_map_of_mem hv))
  obtain ⟨w, hw⟩ := Option.isSome_iff_exists.1 hsome
  obtain ⟨hmem, hkind, hregister⟩ := interface?_eq_some hw
  rw [h.interfaces] at hmem
  obtain ⟨v', hv', rfl⟩ := List.mem_map.1 hmem
  rw [List.map_map] at hnodup
  rw [registerId?, hw, List.inj_on_of_nodup_map hnodup hv hv' (Prod.ext hkind.symm hregister.symm)]
  rfl

theorem quiet (h : g.Presents table) (he : g.Exposes [] [] g') : g'.Presents table := by
  refine ⟨?_, ?_, ?_⟩
  · rw [he.interfaces, h.interfaces, List.append_nil]
  · rw [he.module.interface, h.interface]
    exact List.append_nil _
  · rw [he.module.connections, h.connections, he.stage, List.append_nil]

/-- What is introduced is presented. -/
theorem introduces (h : g.Presents table) {r : InterfaceRegister} (hr : g.Introduces r g') :
    ∃ table', g'.Presents table' ∧
      table'.map (·.1) = recordNew InterfaceRegister.key (table.map (·.1)) r := by
  have hsome := h.isSome_interface? r
  rw [recordNew]
  cases hr with
  | @first id _ new he =>
    -- a first declaration appends to the table, in the generator as in the module
    rw [new] at hsome
    rw [if_neg fun hmem => by simpa using hsome.2 hmem]
    refine ⟨table ++ [(r, id)], ⟨?_, ?_, ?_⟩, List.map_append⟩
    · rw [he.interfaces, h.interfaces, List.map_append]
      rfl
    · rw [he.module.interface, h.interface, List.map_append]
      rfl
    · rw [he.module.connections, h.connections, he.stage, List.flatMap_append]
      simp
  | again old =>
    rw [if_pos (hsome.1 old)]
    exact ⟨table, h, rfl⟩

/-- Handling an instruction presents what the instruction declares. -/
theorem handle (h : g.Presents table) {gaps : List Gap} (hok : (g.handle i).outcome = .ok gaps) :
    ∃ table', (g.handle i).generator.Presents table' ∧ table'.map (·.1) =
      i.interface?.toList.foldl (recordNew InterfaceRegister.key) (table.map (·.1)) := by
  cases hi : i.opcode.isInterface with
  | false =>
    have hnone : i.interface? = none := by rw [Instruction.interface?, hi]; rfl
    rw [hnone]
    exact ⟨table, h.quiet (Lower.quiet_instruction hi ⟨g, []⟩), rfl⟩
  | true =>
    rcases introduces_handle hi hok with ⟨-, hnone, he⟩ | ⟨-, r, hr, hg⟩
    · rw [hnone]
      exact ⟨table, h.quiet he, rfl⟩
    · rw [hr]
      exact h.introduces hg

/-- Handling instructions presents what they declare first. -/
theorem handledAll (h : g.Presents table) {instructions : List Instruction}
    (ha : g.Accepts instructions) :
    ∃ table', (g.handledAll instructions).Presents table' ∧ table'.map (·.1) =
      (instructions.filterMap Instruction.interface?).foldl (recordNew InterfaceRegister.key)
        (table.map (·.1)) := by
  -- each instruction extends the table by the register that it is the first to declare
  induction instructions generalizing g table with
  | nil => exact ⟨table, h, rfl⟩
  | cons i instructions ih =>
    obtain ⟨⟨gaps, hok⟩, hrest⟩ := ha
    obtain ⟨table₁, h₁, htable₁⟩ := h.handle hok
    obtain ⟨table₂, h₂, htable₂⟩ := ih h₁ hrest
    refine ⟨table₂, h₂, ?_⟩
    rw [htable₂, htable₁, List.filterMap_cons]
    cases i.interface? <;> rfl

end Presents

/-! ## Finished modules -/

theorem sectionCode_global (g : Generator) : g.sectionCode .global = g.module.globals.toList := by
  rw [sectionCode, closed]
  split <;> rfl

namespace Presents

/-- The variables of a finished module that belong to the interface are those in the table. -/
theorem variables_finished (h : g.Presents table) (hg : g.WellFormed) :
    g.finished.instructions.filterMap Inst.interface? = table.map fun v => (v.1.kind, v.2) := by
  rw [hg.filterMap_of_section .global fun _ _ hi => Inst.section_of_interface? hi,
    sectionCode_global]
  exact h.interface

/-- What connects variables in a finished module is what connects those in the table. -/
theorem connections_finished (h : g.Presents table) (hg : g.WellFormed) :
    g.finished.instructions.filter Inst.isConnection =
      table.flatMap fun v => v.1.connections g.stage v.2 := by
  rw [hg.filter_of_section .decoration fun _ hi => Inst.section_of_isConnection hi,
    sectionCode_decoration]
  exact h.connections

theorem interfaceIds_eq (h : g.Presents table) : g.interfaceIds = table.map (·.2) := by
  rw [interfaceIds, h.interfaces, List.map_map]
  rfl

/-- The entry point of a finished module lists the variables in the table. -/
theorem entryPoint_finished (h : g.Presents table) (hg : g.WellFormed) :
    g.finished.instructions.filter (·.op = .entryPoint) =
      [.effect .entryPoint (g.stage.executionModel.number :: g.entryPoint ::
        (stringWords g.entryName ++ table.map (·.2)))] := by
  rw [hg.filter_of_section .entry fun i hi => by rw [of_decide_eq_true hi]; rfl, ← h.interfaceIds_eq]
  rfl

/-- No two registers in the table share a variable. -/
theorem nodup_ids (h : g.Presents table) (hg : g.WellFormed)
    (hfit : g.module.bound < UInt32.size) : (table.map (·.2)).Nodup := by
  rw [← h.interfaceIds_eq]
  exact (List.nodup_append.1 (List.nodup_append.1 (hg.distinct hfit)).2.1).1

/-- What connects a variable in a finished module belongs to the register of that variable. -/
theorem exists_of_isConnection (h : g.Presents table) (hg : g.WellFormed) {i : Inst}
    (hi : i ∈ g.finished.instructions) (hconnects : i.isConnection = true) :
    ∃ v ∈ table, i ∈ v.1.connections g.stage v.2 := by
  rw [← List.mem_flatMap, ← h.connections_finished hg]
  exact List.mem_filter.2 ⟨hi, hconnects⟩

/-- A variable with a location is that of the register with this number. -/
theorem exists_of_location (h : g.Presents table) (hg : g.WellFormed)
    (hdistinct : (table.map (·.2)).Nodup) {kind : InterfaceClass} {id number : Word}
    (hid : (kind, id) ∈ g.finished.instructions.filterMap Inst.interface?)
    (hlocation : .effect .decorate [id, Decoration.location.number, number] ∈
      g.finished.instructions) : ∃ v ∈ table, v.1.key = (kind, number) ∧ v.2 = id := by
  obtain ⟨v, hv, hmem⟩ := h.exists_of_isConnection hg hlocation rfl
  obtain ⟨rfl, rfl⟩ := InterfaceRegister.eq_number_of_mem_connections hmem
  rw [h.variables_finished hg] at hid
  obtain ⟨w, hw, heq⟩ := List.mem_map.1 hid
  obtain ⟨rfl, hsame⟩ := Prod.mk.inj heq
  -- the id is in the table once, so the variable of the right class is the one with the location
  obtain rfl := List.inj_on_of_nodup_map hdistinct hw hv hsame
  exact ⟨w, hv, rfl, rfl⟩

end Presents

end Generator

/-- Among the connections of variables of their own, those of one variable are found by its id. -/
theorem InterfaceRegister.filter_connections (stage : EntryStage)
    {table : List (InterfaceRegister × Word)} (hnodup : (table.map (·.2)).Nodup)
    {v : InterfaceRegister × Word} (hv : v ∈ table) :
    (table.flatMap fun v => v.1.connections stage v.2).filter
      (fun i => i.operands.head? == some v.2) = v.1.connections stage v.2 := by
  -- the variables of other registers have other ids, and each connection names its own
  have hother (w : InterfaceRegister × Word) (hne : w.2 ≠ v.2) :
      (w.1.connections stage w.2).filter (fun i => i.operands.head? == some v.2) = [] :=
    List.filter_eq_nil_iff.2 fun i hi heq =>
      hne (Option.some.inj ((head?_of_mem_connections hi).symm.trans (beq_iff_eq.1 heq)))
  simp only [← List.filterMap_eq_filter] at hother ⊢
  rw [filterMap_flatMap_of_nodup hnodup hv hother, List.filterMap_eq_filter]
  exact List.filter_eq_self.2 fun i hi => beq_iff_eq.2 (head?_of_mem_connections hi)

/-- What connects the variable of a register is what a finished module has for it. -/
theorem Generator.Presents.connections_of_mem {g : Generator}
    {table : List (InterfaceRegister × Word)} (h : g.Presents table) (hg : g.WellFormed)
    (hdistinct : (table.map (·.2)).Nodup) {v : InterfaceRegister × Word} (hv : v ∈ table) :
    g.finished.instructions.filter (fun i => i.operands.head? == some v.2 && i.isConnection) =
      v.1.connections g.stage v.2 := by
  rw [← List.filter_filter, h.connections_finished hg]
  exact InterfaceRegister.filter_connections g.stage hdistinct hv

/-! ## Lowered programs -/

namespace LoweredProgram

/-- How the input and output registers that a program declares stand in code. The table lists them,
each with the id of its variable. -/
structure Interface (x : LoweredProgram) (insts : List Inst)
    (table : List (InterfaceRegister × Word)) : Prop where
  /-- A declaration is left out exactly if no register is read off it. -/
  leftOut : ∀ n (h : n < x.instructions.length), x.instructions[n].opcode.isInterface = true →
    ((x.generatorAt n).leavesOut x.instructions[n] = true ↔ x.instructions[n].interface? = none)
  /-- The registers are in the order of their first declarations, and as these say. -/
  registers : table.map (·.1) = firstInterfaces x.instructions
  /-- Exactly the registers that are declared are there, each once. -/
  declared : ∀ key, key ∈ table.map (·.1.key) ↔
    ∃ i ∈ x.instructions, ∃ r, i.interface? = some r ∧ r.key = key
  nodup : (table.map (·.1.key)).Nodup
  /-- Their variables are all variables for inputs and outputs. -/
  ids : insts.filterMap Inst.interface? = table.map fun v => (v.1.kind, v.2)
  distinct : (table.map (·.2)).Nodup
  /-- The entry point lists the variables. -/
  entryPoint : insts.filter (·.op = .entryPoint) =
    [.effect .entryPoint (x.stage.executionModel.number :: x.generator.entryPoint ::
      (stringWords x.options.entryPoint ++ table.map (·.2)))]
  /-- A variable is a built-in one or has the location of its register, and is interpolated as its
  register is declared. -/
  connections : ∀ v ∈ table, insts.filter (fun i => i.operands.head? == some v.2 && i.isConnection) =
    v.1.connections x.stage v.2
  /-- Only what a pixel shader reads from locations is interpolated. -/
  interpolated : ∀ i ∈ insts, i.isInterpolation = true → ∃ v ∈ table, v.1.kind = .input ∧
    x.stage = .pixel ∧ v.1.builtIn? x.stage = none ∧ i ∈ v.1.connections x.stage v.2
  /-- No two variables for inputs, or for outputs, share a location. -/
  located : ∀ kind id id' number, (kind, id) ∈ insts.filterMap Inst.interface? →
    (kind, id') ∈ insts.filterMap Inst.interface? →
    .effect .decorate [id, Decoration.location.number, number] ∈ insts →
    .effect .decorate [id', Decoration.location.number, number] ∈ insts → id = id'

variable (x : LoweredProgram)

/-- The generator behind all instructions presents what these declare first. -/
theorem presents_generator : ∃ table, x.generator.Presents table ∧
    table.map (·.1) = firstInterfaces x.instructions := by
  have hstart : (Generator.start x.stage x.options).Presents [] := by
    rw [Generator.start_eq]
    exact ⟨rfl, rfl, rfl⟩
  exact hstart.handledAll x.accepts

/-- The interface of the code of every program that is lowered is the one that the program declares,
if ids fit a word and no instruction is too long for its length to be written. -/
theorem interface_agrees (x : LoweredProgram) (hfit : x.module.bound < UInt32.size)
    (hlength : x.module.IsEncodable) :
    ∃ insts table, x.shader.code.decoded? = some insts ∧ x.Interface insts table := by
  have hw := x.wellFormed_generator
  have hfitEnd : x.generator.module.bound < UInt32.size :=
    x.generatorAt_length ▸ (x.bound_generatorAt_le x.instructions.length).trans_lt hfit
  obtain ⟨table, hpresents, hregisters⟩ := x.presents_generator
  have hdistinct := hpresents.nodup_ids hw hfitEnd
  have hkeys : table.map (·.1.key) = (table.map (·.1)).map InterfaceRegister.key := by
    rw [List.map_map]
    rfl
  have hnodup : (table.map (·.1.key)).Nodup := by
    rw [hkeys, hregisters]
    exact nodup_firstInterfaces x.instructions
  refine ⟨x.module.instructions, table, ?_, ?_⟩
  · rw [x.code_eq]
    exact Spirv.Module.decoded?_code hlength hw.laidOut
  · constructor
    case leftOut =>
      intro n hn hi
      obtain ⟨gaps, hok⟩ := x.accepted hn
      exact Generator.leavesOut_iff hi hok
    case registers => exact hregisters
    case declared =>
      intro key
      rw [hkeys, hregisters]
      exact mem_firstInterfaces
    case nodup => exact hnodup
    case ids => exact hpresents.variables_finished hw
    case distinct => exact hdistinct
    case entryPoint =>
      have hentry := hpresents.entryPoint_finished hw
      rw [x.stage_generator, x.entryName_generator] at hentry
      exact hentry
    case connections =>
      intro v hv
      rw [← x.stage_generator]
      exact hpresents.connections_of_mem hw hdistinct hv
    case interpolated =>
      intro i hi hinterpolates
      obtain ⟨v, hv, hmem⟩ :=
        hpresents.exists_of_isConnection hw hi (Inst.isConnection_of_isInterpolation hinterpolates)
      rw [x.stage_generator] at hmem
      obtain ⟨hkind, hstage, hnone⟩ :=
        InterfaceRegister.interpolated_of_mem_connections hmem hinterpolates
      exact ⟨v, hv, hkind, hstage, hnone, hmem⟩
    case located =>
      intro kind id id' number hid hid' hlocation hlocation'
      obtain ⟨v, hv, hkey, rfl⟩ := hpresents.exists_of_location hw hdistinct hid hlocation
      obtain ⟨v', hv', hkey', rfl⟩ := hpresents.exists_of_location hw hdistinct hid' hlocation'
      rw [List.inj_on_of_nodup_map hnodup hv hv' (hkey.trans hkey'.symm)]

end LoweredProgram

/-- A pixel program that reads its position, declares an input twice with different interpolation and
one with two indices, and has an output. -/
def Program.pixelInputs : Program :=
  ⟨.pixel, ⟨4, 0⟩,
    [0x00000040, 20,
     0x04002064, 0x001010f2, 0, 1, 0x03000862, 0x001010f2, 1, 0x03001062, 0x001010f2, 1,
     0x0400005f, 0x002010f2, 2, 3, 0x03000065, 0x001020f2, 0, 0x0100003e]⟩

/-- Its interface has the position, the input as it is declared first, and the output. -/
theorem LoweredProgram.pixelInputs_interface :
    ∃ x : LoweredProgram, x.program = .pixelInputs ∧ x.options = .standard ∧
      ∃ insts table, x.shader.code.decoded? = some insts ∧ x.Interface insts table ∧
        table.map (·.1) = [⟨.input, 0, .position, .linearNoPerspective⟩,
          ⟨.input, 1, .undefined, .constant⟩, ⟨.output, 0, .undefined, .undefined⟩] := by
  have hsome : (Program.pixelInputs.lower .standard).toOption.isSome := by decide +kernel
  have hfit : ((Generator.start .pixel .standard).handledAll
      Program.pixelInputs.instructionList).finished.bound < UInt32.size := by decide +kernel
  have hlength : ((Generator.start .pixel .standard).handledAll
      Program.pixelInputs.instructionList).finished.IsEncodable := by decide +kernel
  have hfirst : firstInterfaces Program.pixelInputs.instructionList =
      [⟨.input, 0, .position, .linearNoPerspective⟩, ⟨.input, 1, .undefined, .constant⟩,
        ⟨.output, 0, .undefined, .undefined⟩] := by decide +kernel
  obtain ⟨insts, table, hdecoded, hinterface⟩ := interface_agrees (.ofSome _ _ hsome) hfit hlength
  exact ⟨_, rfl, rfl, insts, table, hdecoded, hinterface, hinterface.registers.trans hfirst⟩

end ShaderLowering
