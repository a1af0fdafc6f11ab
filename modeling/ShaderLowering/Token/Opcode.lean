import ShaderLowering.Token.Numbered

/-!
# Opcodes

The instructions of shader model 4 and 5, with their numbers and mnemonics. The numbers run from 0
to 217; 107, 112 and 209 only mark where an older table of opcodes ended and stand for nothing.
-/

namespace ShaderLowering

/-- The operation of an instruction. -/
inductive Opcode where
  | add | and | breakLoop | breakc | call | callc | caseLabel | continueLoop | continuec | cut
  | defaultLabel | derivRtx | derivRty | discard | div | dp2 | dp3 | dp4 | elseBegin | emit
  | emitThenCut | endif | endloop | endswitch | eq | exp | frc | ftoi | ftou | ge | iadd | ifBegin
  | ieq | ige | ilt | imad | imax | imin | imul | ine | ineg | ishl | ishr | itof | subroutineLabel
  | ld | ldMs | log | loop | lt | mad | min | max | customdata | mov | movc | mul | ne | nop | not
  | or | resinfo | ret | retc | roundNe | roundNi | roundPi | roundZ | rsq | sample | sampleC
  | sampleCLz | sampleL | sampleD | sampleB | sqrt | switch | sincos | udiv | ult | uge | umul
  | umad | umax | umin | ushr | utof | xor | dclResource | dclConstantbuffer | dclSampler
  | dclIndexrange | dclOutputtopology | dclInputprimitive | dclMaxout | dclInput | dclInputSgv
  | dclInputSiv | dclInputPs | dclInputPsSgv | dclInputPsSiv | dclOutput | dclOutputSgv
  | dclOutputSiv | dclTemps | dclIndexabletemp | dclGlobalflags | lod | gather4 | samplepos
  | sampleinfo | hsDecls | hsControlPointPhase | hsForkPhase | hsJoinPhase | emitStream | cutStream
  | emitThenCutStream | fcall | bufinfo | derivRtxCoarse | derivRtxFine | derivRtyCoarse
  | derivRtyFine | gather4C | gather4Po | gather4PoC | rcp | f32tof16 | f16tof32 | uaddc | usubb
  | countbits | firstbitHi | firstbitLo | firstbitShi | ubfe | ibfe | bfi | bfrev | swapc
  | dclStream | dclFunctionBody | dclFunctionTable | dclInterface | dclInputControlPointCount
  | dclOutputControlPointCount | dclTessellatorDomain | dclTessellatorPartitioning
  | dclTessellatorOutputPrimitive | dclHsMaxTessfactor | dclHsForkPhaseInstanceCount
  | dclHsJoinPhaseInstanceCount | dclThreadGroup | dclUavTyped | dclUavRaw | dclUavStructured
  | dclTgsmRaw | dclTgsmStructured | dclResourceRaw | dclResourceStructured | ldUavTyped
  | storeUavTyped | ldRaw | storeRaw | ldStructured | storeStructured | atomicAnd | atomicOr
  | atomicXor | atomicCmpStore | atomicIadd | atomicImax | atomicImin | atomicUmax | atomicUmin
  | immAtomicAlloc | immAtomicConsume | immAtomicIadd | immAtomicAnd | immAtomicOr | immAtomicXor
  | immAtomicExch | immAtomicCmpExch | immAtomicImax | immAtomicImin | immAtomicUmax | immAtomicUmin
  | sync | dadd | dmax | dmin | dmul | deq | dge | dlt | dne | dmov | dmovc | dtof | ftod
  | evalSnapped | evalSampleIndex | evalCentroid | dclGsinstances | abort | debugBreak | ddiv | dfma
  | drcp | msad | dtoi | dtou | itod | utod
  deriving DecidableEq

namespace Opcode

/-- The number of a value in its token field. -/
def raw : Opcode → Nat
  | .add => 0 | .and => 1 | .breakLoop => 2 | .breakc => 3 | .call => 4 | .callc => 5
  | .caseLabel => 6 | .continueLoop => 7 | .continuec => 8 | .cut => 9 | .defaultLabel => 10
  | .derivRtx => 11 | .derivRty => 12 | .discard => 13 | .div => 14 | .dp2 => 15 | .dp3 => 16
  | .dp4 => 17 | .elseBegin => 18 | .emit => 19 | .emitThenCut => 20 | .endif => 21 | .endloop => 22
  | .endswitch => 23 | .eq => 24 | .exp => 25 | .frc => 26 | .ftoi => 27 | .ftou => 28 | .ge => 29
  | .iadd => 30 | .ifBegin => 31 | .ieq => 32 | .ige => 33 | .ilt => 34 | .imad => 35 | .imax => 36
  | .imin => 37 | .imul => 38 | .ine => 39 | .ineg => 40 | .ishl => 41 | .ishr => 42 | .itof => 43
  | .subroutineLabel => 44 | .ld => 45 | .ldMs => 46 | .log => 47 | .loop => 48 | .lt => 49
  | .mad => 50 | .min => 51 | .max => 52 | .customdata => 53 | .mov => 54 | .movc => 55 | .mul => 56
  | .ne => 57 | .nop => 58 | .not => 59 | .or => 60 | .resinfo => 61 | .ret => 62 | .retc => 63
  | .roundNe => 64 | .roundNi => 65 | .roundPi => 66 | .roundZ => 67 | .rsq => 68 | .sample => 69
  | .sampleC => 70 | .sampleCLz => 71 | .sampleL => 72 | .sampleD => 73 | .sampleB => 74
  | .sqrt => 75 | .switch => 76 | .sincos => 77 | .udiv => 78 | .ult => 79 | .uge => 80
  | .umul => 81 | .umad => 82 | .umax => 83 | .umin => 84 | .ushr => 85 | .utof => 86 | .xor => 87
  | .dclResource => 88 | .dclConstantbuffer => 89 | .dclSampler => 90 | .dclIndexrange => 91
  | .dclOutputtopology => 92 | .dclInputprimitive => 93 | .dclMaxout => 94 | .dclInput => 95
  | .dclInputSgv => 96 | .dclInputSiv => 97 | .dclInputPs => 98 | .dclInputPsSgv => 99
  | .dclInputPsSiv => 100 | .dclOutput => 101 | .dclOutputSgv => 102 | .dclOutputSiv => 103
  | .dclTemps => 104 | .dclIndexabletemp => 105 | .dclGlobalflags => 106 | .lod => 108
  | .gather4 => 109 | .samplepos => 110 | .sampleinfo => 111 | .hsDecls => 113
  | .hsControlPointPhase => 114 | .hsForkPhase => 115 | .hsJoinPhase => 116 | .emitStream => 117
  | .cutStream => 118 | .emitThenCutStream => 119 | .fcall => 120 | .bufinfo => 121
  | .derivRtxCoarse => 122 | .derivRtxFine => 123 | .derivRtyCoarse => 124 | .derivRtyFine => 125
  | .gather4C => 126 | .gather4Po => 127 | .gather4PoC => 128 | .rcp => 129 | .f32tof16 => 130
  | .f16tof32 => 131 | .uaddc => 132 | .usubb => 133 | .countbits => 134 | .firstbitHi => 135
  | .firstbitLo => 136 | .firstbitShi => 137 | .ubfe => 138 | .ibfe => 139 | .bfi => 140
  | .bfrev => 141 | .swapc => 142 | .dclStream => 143 | .dclFunctionBody => 144
  | .dclFunctionTable => 145 | .dclInterface => 146 | .dclInputControlPointCount => 147
  | .dclOutputControlPointCount => 148 | .dclTessellatorDomain => 149
  | .dclTessellatorPartitioning => 150 | .dclTessellatorOutputPrimitive => 151
  | .dclHsMaxTessfactor => 152 | .dclHsForkPhaseInstanceCount => 153
  | .dclHsJoinPhaseInstanceCount => 154 | .dclThreadGroup => 155 | .dclUavTyped => 156
  | .dclUavRaw => 157 | .dclUavStructured => 158 | .dclTgsmRaw => 159 | .dclTgsmStructured => 160
  | .dclResourceRaw => 161 | .dclResourceStructured => 162 | .ldUavTyped => 163
  | .storeUavTyped => 164 | .ldRaw => 165 | .storeRaw => 166 | .ldStructured => 167
  | .storeStructured => 168 | .atomicAnd => 169 | .atomicOr => 170 | .atomicXor => 171
  | .atomicCmpStore => 172 | .atomicIadd => 173 | .atomicImax => 174 | .atomicImin => 175
  | .atomicUmax => 176 | .atomicUmin => 177 | .immAtomicAlloc => 178 | .immAtomicConsume => 179
  | .immAtomicIadd => 180 | .immAtomicAnd => 181 | .immAtomicOr => 182 | .immAtomicXor => 183
  | .immAtomicExch => 184 | .immAtomicCmpExch => 185 | .immAtomicImax => 186 | .immAtomicImin => 187
  | .immAtomicUmax => 188 | .immAtomicUmin => 189 | .sync => 190 | .dadd => 191 | .dmax => 192
  | .dmin => 193 | .dmul => 194 | .deq => 195 | .dge => 196 | .dlt => 197 | .dne => 198
  | .dmov => 199 | .dmovc => 200 | .dtof => 201 | .ftod => 202 | .evalSnapped => 203
  | .evalSampleIndex => 204 | .evalCentroid => 205 | .dclGsinstances => 206 | .abort => 207
  | .debugBreak => 208 | .ddiv => 210 | .dfma => 211 | .drcp => 212 | .msad => 213 | .dtoi => 214
  | .dtou => 215 | .itod => 216 | .utod => 217

/-- The assembly mnemonic of an opcode. -/
def label : Opcode → String
  | .add => "add" | .and => "and" | .breakLoop => "break" | .breakc => "breakc" | .call => "call"
  | .callc => "callc" | .caseLabel => "case" | .continueLoop => "continue"
  | .continuec => "continuec" | .cut => "cut" | .defaultLabel => "default"
  | .derivRtx => "deriv_rtx" | .derivRty => "deriv_rty" | .discard => "discard" | .div => "div"
  | .dp2 => "dp2" | .dp3 => "dp3" | .dp4 => "dp4" | .elseBegin => "else" | .emit => "emit"
  | .emitThenCut => "emit_then_cut" | .endif => "endif" | .endloop => "endloop"
  | .endswitch => "endswitch" | .eq => "eq" | .exp => "exp" | .frc => "frc" | .ftoi => "ftoi"
  | .ftou => "ftou" | .ge => "ge" | .iadd => "iadd" | .ifBegin => "if" | .ieq => "ieq"
  | .ige => "ige" | .ilt => "ilt" | .imad => "imad" | .imax => "imax" | .imin => "imin"
  | .imul => "imul" | .ine => "ine" | .ineg => "ineg" | .ishl => "ishl" | .ishr => "ishr"
  | .itof => "itof" | .subroutineLabel => "label" | .ld => "ld" | .ldMs => "ld_ms" | .log => "log"
  | .loop => "loop" | .lt => "lt" | .mad => "mad" | .min => "min" | .max => "max"
  | .customdata => "customdata" | .mov => "mov" | .movc => "movc" | .mul => "mul" | .ne => "ne"
  | .nop => "nop" | .not => "not" | .or => "or" | .resinfo => "resinfo" | .ret => "ret"
  | .retc => "retc" | .roundNe => "round_ne" | .roundNi => "round_ni" | .roundPi => "round_pi"
  | .roundZ => "round_z" | .rsq => "rsq" | .sample => "sample" | .sampleC => "sample_c"
  | .sampleCLz => "sample_c_lz" | .sampleL => "sample_l" | .sampleD => "sample_d"
  | .sampleB => "sample_b" | .sqrt => "sqrt" | .switch => "switch" | .sincos => "sincos"
  | .udiv => "udiv" | .ult => "ult" | .uge => "uge" | .umul => "umul" | .umad => "umad"
  | .umax => "umax" | .umin => "umin" | .ushr => "ushr" | .utof => "utof" | .xor => "xor"
  | .dclResource => "dcl_resource" | .dclConstantbuffer => "dcl_constantbuffer"
  | .dclSampler => "dcl_sampler" | .dclIndexrange => "dcl_indexrange"
  | .dclOutputtopology => "dcl_outputtopology" | .dclInputprimitive => "dcl_inputprimitive"
  | .dclMaxout => "dcl_maxout" | .dclInput => "dcl_input" | .dclInputSgv => "dcl_input_sgv"
  | .dclInputSiv => "dcl_input_siv" | .dclInputPs => "dcl_input_ps"
  | .dclInputPsSgv => "dcl_input_ps_sgv" | .dclInputPsSiv => "dcl_input_ps_siv"
  | .dclOutput => "dcl_output" | .dclOutputSgv => "dcl_output_sgv"
  | .dclOutputSiv => "dcl_output_siv" | .dclTemps => "dcl_temps"
  | .dclIndexabletemp => "dcl_indexabletemp" | .dclGlobalflags => "dcl_globalflags"
  | .lod => "lod" | .gather4 => "gather4" | .samplepos => "samplepos"
  | .sampleinfo => "sampleinfo" | .hsDecls => "hs_decls"
  | .hsControlPointPhase => "hs_control_point_phase" | .hsForkPhase => "hs_fork_phase"
  | .hsJoinPhase => "hs_join_phase" | .emitStream => "emit_stream" | .cutStream => "cut_stream"
  | .emitThenCutStream => "emit_then_cut_stream" | .fcall => "fcall" | .bufinfo => "bufinfo"
  | .derivRtxCoarse => "deriv_rtx_coarse" | .derivRtxFine => "deriv_rtx_fine"
  | .derivRtyCoarse => "deriv_rty_coarse" | .derivRtyFine => "deriv_rty_fine"
  | .gather4C => "gather4_c" | .gather4Po => "gather4_po" | .gather4PoC => "gather4_po_c"
  | .rcp => "rcp" | .f32tof16 => "f32tof16" | .f16tof32 => "f16tof32" | .uaddc => "uaddc"
  | .usubb => "usubb" | .countbits => "countbits" | .firstbitHi => "firstbit_hi"
  | .firstbitLo => "firstbit_lo" | .firstbitShi => "firstbit_shi" | .ubfe => "ubfe"
  | .ibfe => "ibfe" | .bfi => "bfi" | .bfrev => "bfrev" | .swapc => "swapc"
  | .dclStream => "dcl_stream" | .dclFunctionBody => "dcl_function_body"
  | .dclFunctionTable => "dcl_function_table" | .dclInterface => "dcl_interface"
  | .dclInputControlPointCount => "dcl_input_control_point_count"
  | .dclOutputControlPointCount => "dcl_output_control_point_count"
  | .dclTessellatorDomain => "dcl_tessellator_domain"
  | .dclTessellatorPartitioning => "dcl_tessellator_partitioning"
  | .dclTessellatorOutputPrimitive => "dcl_tessellator_output_primitive"
  | .dclHsMaxTessfactor => "dcl_hs_max_tessfactor"
  | .dclHsForkPhaseInstanceCount => "dcl_hs_fork_phase_instance_count"
  | .dclHsJoinPhaseInstanceCount => "dcl_hs_join_phase_instance_count"
  | .dclThreadGroup => "dcl_thread_group" | .dclUavTyped => "dcl_uav_typed"
  | .dclUavRaw => "dcl_uav_raw" | .dclUavStructured => "dcl_uav_structured"
  | .dclTgsmRaw => "dcl_tgsm_raw" | .dclTgsmStructured => "dcl_tgsm_structured"
  | .dclResourceRaw => "dcl_resource_raw" | .dclResourceStructured => "dcl_resource_structured"
  | .ldUavTyped => "ld_uav_typed" | .storeUavTyped => "store_uav_typed" | .ldRaw => "ld_raw"
  | .storeRaw => "store_raw" | .ldStructured => "ld_structured"
  | .storeStructured => "store_structured" | .atomicAnd => "atomic_and" | .atomicOr => "atomic_or"
  | .atomicXor => "atomic_xor" | .atomicCmpStore => "atomic_cmp_store"
  | .atomicIadd => "atomic_iadd" | .atomicImax => "atomic_imax" | .atomicImin => "atomic_imin"
  | .atomicUmax => "atomic_umax" | .atomicUmin => "atomic_umin"
  | .immAtomicAlloc => "imm_atomic_alloc" | .immAtomicConsume => "imm_atomic_consume"
  | .immAtomicIadd => "imm_atomic_iadd" | .immAtomicAnd => "imm_atomic_and"
  | .immAtomicOr => "imm_atomic_or" | .immAtomicXor => "imm_atomic_xor"
  | .immAtomicExch => "imm_atomic_exch" | .immAtomicCmpExch => "imm_atomic_cmp_exch"
  | .immAtomicImax => "imm_atomic_imax" | .immAtomicImin => "imm_atomic_imin"
  | .immAtomicUmax => "imm_atomic_umax" | .immAtomicUmin => "imm_atomic_umin" | .sync => "sync"
  | .dadd => "dadd" | .dmax => "dmax" | .dmin => "dmin" | .dmul => "dmul" | .deq => "deq"
  | .dge => "dge" | .dlt => "dlt" | .dne => "dne" | .dmov => "dmov" | .dmovc => "dmovc"
  | .dtof => "dtof" | .ftod => "ftod" | .evalSnapped => "eval_snapped"
  | .evalSampleIndex => "eval_sample_index" | .evalCentroid => "eval_centroid"
  | .dclGsinstances => "dcl_gsinstances" | .abort => "abort" | .debugBreak => "debug_break"
  | .ddiv => "ddiv" | .dfma => "dfma" | .drcp => "drcp" | .msad => "msad" | .dtoi => "dtoi"
  | .dtou => "dtou" | .itod => "itod" | .utod => "utod"

/-- Every value, in the order of the numbers. -/
def all : List Opcode :=
  [.add, .and, .breakLoop, .breakc, .call, .callc, .caseLabel, .continueLoop, .continuec, .cut,
   .defaultLabel, .derivRtx, .derivRty, .discard, .div, .dp2, .dp3, .dp4, .elseBegin, .emit,
   .emitThenCut, .endif, .endloop, .endswitch, .eq, .exp, .frc, .ftoi, .ftou, .ge, .iadd, .ifBegin,
   .ieq, .ige, .ilt, .imad, .imax, .imin, .imul, .ine, .ineg, .ishl, .ishr, .itof, .subroutineLabel,
   .ld, .ldMs, .log, .loop, .lt, .mad, .min, .max, .customdata, .mov, .movc, .mul, .ne, .nop, .not,
   .or, .resinfo, .ret, .retc, .roundNe, .roundNi, .roundPi, .roundZ, .rsq, .sample, .sampleC,
   .sampleCLz, .sampleL, .sampleD, .sampleB, .sqrt, .switch, .sincos, .udiv, .ult, .uge, .umul,
   .umad, .umax, .umin, .ushr, .utof, .xor, .dclResource, .dclConstantbuffer, .dclSampler,
   .dclIndexrange, .dclOutputtopology, .dclInputprimitive, .dclMaxout, .dclInput, .dclInputSgv,
   .dclInputSiv, .dclInputPs, .dclInputPsSgv, .dclInputPsSiv, .dclOutput, .dclOutputSgv,
   .dclOutputSiv, .dclTemps, .dclIndexabletemp, .dclGlobalflags, .lod, .gather4, .samplepos,
   .sampleinfo, .hsDecls, .hsControlPointPhase, .hsForkPhase, .hsJoinPhase, .emitStream, .cutStream,
   .emitThenCutStream, .fcall, .bufinfo, .derivRtxCoarse, .derivRtxFine, .derivRtyCoarse,
   .derivRtyFine, .gather4C, .gather4Po, .gather4PoC, .rcp, .f32tof16, .f16tof32, .uaddc, .usubb,
   .countbits, .firstbitHi, .firstbitLo, .firstbitShi, .ubfe, .ibfe, .bfi, .bfrev, .swapc,
   .dclStream, .dclFunctionBody, .dclFunctionTable, .dclInterface, .dclInputControlPointCount,
   .dclOutputControlPointCount, .dclTessellatorDomain, .dclTessellatorPartitioning,
   .dclTessellatorOutputPrimitive, .dclHsMaxTessfactor, .dclHsForkPhaseInstanceCount,
   .dclHsJoinPhaseInstanceCount, .dclThreadGroup, .dclUavTyped, .dclUavRaw, .dclUavStructured,
   .dclTgsmRaw, .dclTgsmStructured, .dclResourceRaw, .dclResourceStructured, .ldUavTyped,
   .storeUavTyped, .ldRaw, .storeRaw, .ldStructured, .storeStructured, .atomicAnd, .atomicOr,
   .atomicXor, .atomicCmpStore, .atomicIadd, .atomicImax, .atomicImin, .atomicUmax, .atomicUmin,
   .immAtomicAlloc, .immAtomicConsume, .immAtomicIadd, .immAtomicAnd, .immAtomicOr, .immAtomicXor,
   .immAtomicExch, .immAtomicCmpExch, .immAtomicImax, .immAtomicImin, .immAtomicUmax,
   .immAtomicUmin, .sync, .dadd, .dmax, .dmin, .dmul, .deq, .dge, .dlt, .dne, .dmov, .dmovc, .dtof,
   .ftod, .evalSnapped, .evalSampleIndex, .evalCentroid, .dclGsinstances, .abort, .debugBreak,
   .ddiv, .dfma, .drcp, .msad, .dtoi, .dtou, .itod, .utod]

instance : Numbered Opcode where
  what := "opcode"
  all := all
  raw := raw
  label := label

/-- Whether the instruction describes the program's state and is never executed. -/
def isDeclaration (op : Opcode) : Bool :=
  "dcl_".toList.isPrefixOf op.label.toList || op == hsDecls

end Opcode

instance : LawfulNumbered Opcode where
  find_raw a := by cases a <;> decide +kernel

end ShaderLowering
