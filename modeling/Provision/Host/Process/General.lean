/-!
# General utilities

Names of functions that are not about one kind of thing.
-/

namespace Provision
namespace Process

def utilities : List String :=
  [ "_Exit", "_exit", "_longjmp", "_setjmp", "a64l", "abort", "abs", "aligned_alloc", "arc4random",
    "arc4random_buf", "arc4random_uniform", "atof", "atoi", "atol", "atoll", "bsearch", "calloc",
    "canonicalize_file_name", "clearenv", "div", "drand48", "drand48_r", "ecvt", "ecvt_r",
    "erand48", "erand48_r", "err", "exit", "fcvt", "fcvt_r", "free", "gcvt", "getenv", "getloadavg",
    "getpt", "getsubopt", "grantpt", "hcreate", "hcreate_r", "hdestroy", "hdestroy_r", "hsearch",
    "hsearch_r", "imaxabs", "imaxdiv", "initstate", "initstate_r", "insque", "jrand48", "jrand48_r",
    "l64a", "labs", "lcong48", "lcong48_r", "ldiv", "lfind", "llabs", "lldiv", "longjmp", "lrand48",
    "lrand48_r", "lsearch", "malloc", "mblen", "mbstowcs", "mbtowc", "mkdtemp", "mkostemp",
    "mkostemps", "mkstemp", "mkstemps", "mktemp", "mrand48", "mrand48_r", "nrand48", "nrand48_r",
    "on_exit", "posix_memalign", "posix_openpt", "ptsname", "ptsname_r", "putenv", "qecvt",
    "qecvt_r", "qfcvt", "qfcvt_r", "qgcvt", "qsort", "qsort_r", "quick_exit", "rand", "rand_r",
    "random", "random_r", "realloc", "reallocarray", "realpath", "remque", "rpmatch",
    "secure_getenv", "seed48", "seed48_r", "setenv", "setjmp", "setstate", "setstate_r",
    "siglongjmp", "srand", "srand48", "srand48_r", "srandom", "srandom_r", "strfromd", "strfromf",
    "strfroml", "strtod", "strtod_l", "strtof", "strtof_l", "strtoimax", "strtol", "strtol_l",
    "strtold", "strtold_l", "strtoll", "strtoll_l", "strtoq", "strtoul", "strtoul_l", "strtoull",
    "strtoull_l", "strtoumax", "strtouq", "system", "tdelete", "tdestroy", "tfind", "tsearch",
    "twalk", "twalk_r", "unlockpt", "unsetenv", "valloc", "wcstoimax", "wcstombs", "wcstoumax",
    "wctomb" ]

/-! ## Bits -/

/-- Functions on bits, each for five types. -/
def onBits : List String :=
  [ "stdc_bit_ceil", "stdc_bit_floor", "stdc_bit_width", "stdc_count_ones", "stdc_count_zeros",
    "stdc_first_leading_one", "stdc_first_leading_zero", "stdc_first_trailing_one",
    "stdc_first_trailing_zero", "stdc_has_single_bit", "stdc_leading_ones", "stdc_leading_zeros",
    "stdc_trailing_ones", "stdc_trailing_zeros" ]

def bits : List String :=
  onBits.flatMap fun name =>
    ["_uc", "_us", "_ui", "_ul", "_ull"].map fun ending => name ++ ending

/-! ## Allocation -/

def allocation : List String :=
  [ "mallinfo", "mallinfo2", "malloc_info", "malloc_stats", "malloc_trim", "malloc_usable_size",
    "mallopt", "mcheck", "mcheck_check_all", "mcheck_pedantic", "memalign", "mprobe", "mtrace",
    "muntrace", "obstack_alloc_failed_handler", "obstack_exit_failure", "obstack_free", "pvalloc" ]

/-! ## Arguments, errors and the program itself -/

def program : List String :=
  [ "addseverity", "argp_err_exit_status", "argp_error", "argp_failure", "argp_help", "argp_parse",
    "argp_program_bug_address", "argp_program_version", "argp_program_version_hook",
    "argp_state_help", "argp_usage", "backtrace", "backtrace_symbols", "backtrace_symbols_fd",
    "dl_iterate_phdr", "errno", "error", "error_at_line", "error_message_count",
    "error_one_per_line", "error_print_progname", "errx", "fmtmsg", "getauxval", "getopt_long",
    "getopt_long_only", "gnu_get_libc_release", "gnu_get_libc_version", "mcount", "moncontrol",
    "monstartup", "program_invocation_name", "program_invocation_short_name", "sprofil", "verr",
    "verrx", "vwarn", "vwarnx", "warn", "warnx" ]

def general : List String :=
  utilities ++ bits ++ allocation ++ program

end Process
end Provision
