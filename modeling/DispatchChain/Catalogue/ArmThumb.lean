import DispatchChain.Catalogue
/-!
# ArmThumb — the families of the ARM and Thumb instruction sets

Each entry gives the artifact, the fields in the order of the handler's template parameters, and the
handler.  The fields are named as the decoder's variables are.
-/
namespace DispatchChain

namespace Catalogue

open FieldDeclaration

def armFamilies : List FamilyDeclaration := [
  ⟨"BRANCH_INSTR.gencpp", [below "link" 2], "arm_branch"⟩,
  ⟨"ALU_INSTR.gencpp",
    [below "is_imm" 2, below "aluop" 16, below "set_cond" 2, below "shift_type" 4, below "shift_by_reg" 2],
    "arm_alu"⟩,
  -- The multiply opcodes 2 and 3 are not assigned.
  ⟨"MUL_INSTR.gencpp", [listed "mulop" [0, 1, 4, 5, 6, 7], below "set_cond" 2], "arm_mul"⟩,
  ⟨"PSR_INSTR.gencpp", [below "psr" 2, below "dir" 2], "arm_psr"⟩,
  ⟨"MSR_IMM_INSTR.gencpp", [below "psr" 2], "arm_msr_imm"⟩,
  ⟨"SDT_INSTR.gencpp",
    [below "reg_offset" 2, below "prepost" 2, below "updown" 2, below "byteword" 2, below "writeback" 2,
      below "load" 2, below "shift_type" 4],
    "arm_sdt"⟩,
  ⟨"MISC_DT_INSTR.gencpp",
    [below "prepost" 2, below "updown" 2, below "imm_offset" 2, below "writeback" 2, below "load" 2,
      below "sign" 2, below "half" 2],
    "arm_misc_dt"⟩,
  ⟨"BLOCK_DT_INSTR.gencpp",
    [below "prepost" 2, below "updown" 2, below "psr" 2, below "writeback" 2, below "load" 2],
    "arm_block_dt"⟩,
  ⟨"SWP_INSTR.gencpp", [below "byteword" 2], "arm_swp"⟩]

def thumbFamilies : List FamilyDeclaration := [
  -- A half of 1 is the suffix of a later branch instruction and not defined here.
  ⟨"THUMB_BRANCH_INSTR.gencpp", [listed "h" [0, 2, 3]], "thumb_branch"⟩,
  ⟨"THUMB_SHIFT_INSTR.gencpp", [below "shift_type" 3], "thumb_shift_reg"⟩,
  ⟨"THUMB_ADDSUB_INSTR.gencpp", [below "aluop" 4], "thumb_addsub"⟩,
  ⟨"THUMB_ADDSUBCMPMOV_INSTR.gencpp", [below "aluop" 4], "thumb_addsubcmpmov"⟩,
  ⟨"THUMB_ALU_INSTR.gencpp", [below "aluop" 16], "thumb_alu"⟩,
  ⟨"THUMB_SPECIAL_DATA_INSTR.gencpp", [below "aluop" 3], "thumb_special_data"⟩,
  ⟨"THUMB_LOADSTORE_REG_INSTR.gencpp", [below "code" 8], "thumb_loadstore_reg"⟩,
  ⟨"THUMB_LOADSTORE_IMM_INSTR.gencpp", [below "code" 4], "thumb_loadstore_imm"⟩,
  ⟨"THUMB_LOADSTORE_HALF_INSTR.gencpp", [below "code" 2], "thumb_loadstore_half"⟩,
  ⟨"THUMB_LOADSTORE_SP_INSTR.gencpp", [below "code" 2], "thumb_loadstore_sp"⟩,
  ⟨"THUMB_ADDPCSP_INSTR.gencpp", [below "code" 2], "thumb_addpcsp"⟩,
  ⟨"THUMB_SP_ADD_INSTR.gencpp", [below "code" 2], "thumb_sp_add"⟩,
  ⟨"THUMB_PUSHPOP_INSTR.gencpp", [below "code" 2, below "pclr" 2], "thumb_pushpop"⟩,
  ⟨"THUMB_MULTIPLE_INSTR.gencpp", [below "code" 2], "thumb_multiple"⟩]

def armThumb : Except DeclarationError (List Family) := declare (armFamilies ++ thumbFamilies)

theorem length_armThumb : armThumb.toOption.map List.length = some 23 := by decide +kernel

end Catalogue

end DispatchChain
