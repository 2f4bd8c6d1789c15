/-!
# Arithmetic

Names of functions that compiled code calls for arithmetic that the machine lacks, and to unwind
the stack.
-/

namespace Provision
namespace Process

/-! ## Integers -/

/-- Arithmetic of integers of two words, and arithmetic that stops at an overflow. -/
def onIntegers : List String :=
  [ "absvdi2", "absvsi2", "absvti2", "addvdi3", "addvsi3", "addvti3", "ashlti3", "ashrti3",
    "bswapdi2", "bswapsi2", "clrsbdi2", "clrsbti2", "clzdi2", "clzti2", "cmpti2", "ctzdi2",
    "ctzti2", "divmodti4", "divti3", "ffsdi2", "ffsti2", "lshrti3", "modti3", "multi3", "mulvdi3",
    "mulvsi3", "mulvti3", "negti2", "negvdi2", "negvsi2", "negvti2", "paritydi2", "parityti2",
    "popcountdi2", "popcountti2", "subvdi3", "subvsi3", "subvti3", "ucmpti2", "udivmodti4",
    "udivti3", "umodti3" ]

/-! ## Floats -/

/-- Arithmetic of floats of other widths, and conversions. -/
def onFloats : List String :=
  [ "addtf3", "divdc3", "divhc3", "divmodbitint4", "divsc3", "divtc3", "divtf3", "divxc3", "eqhf2",
    "eqtf2", "extendbfsf2", "extenddftf2", "extendhfdf2", "extendhfsf2", "extendhftf2",
    "extendhfxf2", "extendsfdf2", "extendsftf2", "extendxftf2", "fixdfbitint", "fixdfti", "fixhfti",
    "fixsfbitint", "fixsfti", "fixtfbitint", "fixtfdi", "fixtfsi", "fixtfti", "fixunsdfdi",
    "fixunsdfti", "fixunshfti", "fixunssfdi", "fixunssfti", "fixunstfdi", "fixunstfsi",
    "fixunstfti", "fixunsxfdi", "fixunsxfti", "fixxfbitint", "fixxfti", "floatbitintbf",
    "floatbitintdf", "floatbitinthf", "floatbitintsf", "floatbitinttf", "floatbitintxf",
    "floatditf", "floatsitf", "floattibf", "floattidf", "floattihf", "floattisf", "floattitf",
    "floattixf", "floatunditf", "floatunsitf", "floatuntibf", "floatuntidf", "floatuntihf",
    "floatuntisf", "floatuntitf", "floatuntixf", "getf2", "gttf2", "letf2", "lttf2", "mulbitint3",
    "muldc3", "mulhc3", "mulsc3", "multc3", "multf3", "mulxc3", "negtf2", "nehf2", "netf2",
    "powidf2", "powisf2", "powitf2", "powixf2", "subtf3", "truncdfbf2", "truncdfhf2", "truncdfsf2",
    "trunchfbf2", "truncsfbf2", "truncsfhf2", "trunctfbf2", "trunctfdf2", "trunctfhf2",
    "trunctfsf2", "trunctfxf2", "truncxfbf2", "truncxfhf2", "unordtf2" ]

/-! ## Unwinding -/

def unwinding : List String :=
  [ "Backtrace", "DeleteException", "FindEnclosingFunction", "Find_FDE", "ForcedUnwind", "GetCFA",
    "GetDataRelBase", "GetGR", "GetIP", "GetIPInfo", "GetLanguageSpecificData", "GetRegionStart",
    "GetTextRelBase", "RaiseException", "Resume", "Resume_or_Rethrow", "SetGR", "SetIP" ]

/-- Frames, and what compiled code needs at run time. -/
def support : List String :=
  [ "clear_cache", "deregister_frame", "deregister_frame_info", "deregister_frame_info_bases",
    "emutls_get_address", "emutls_register_common", "enable_execute_stack",
    "gcc_nested_func_ptr_created", "gcc_nested_func_ptr_deleted", "gcc_personality_v0",
    "hardcfr_check", "register_frame", "register_frame_info", "register_frame_info_bases",
    "register_frame_info_table", "register_frame_info_table_bases", "register_frame_table",
    "strub_enter", "strub_leave", "strub_update" ]

def arithmetic : List String :=
  (onIntegers ++ onFloats ++ support).map (fun name => "__" ++ name)
    ++ unwinding.map (fun name => "_Unwind_" ++ name)

end Process
end Provision
