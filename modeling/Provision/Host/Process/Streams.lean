/-!
# Streams

Names of streams and of functions on them.
-/

namespace Provision
namespace Process

def streams : List String :=
  [ "asprintf", "clearerr", "clearerr_unlocked", "close", "ctermid", "cuserid", "dprintf", "fclose",
    "fcloseall", "fdopen", "feof", "feof_unlocked", "ferror", "ferror_unlocked", "fflush",
    "fflush_unlocked", "fgetc", "fgetc_unlocked", "fgetpos", "fgets", "fgets_unlocked", "fileno",
    "fileno_unlocked", "flockfile", "fmemopen", "fopen", "fopencookie", "fprintf", "fputc",
    "fputc_unlocked", "fputs", "fputs_unlocked", "fread", "fread_unlocked", "freopen", "fscanf",
    "fseek", "fseeko", "fsetpos", "ftell", "ftello", "ftrylockfile", "funlockfile", "fwrite",
    "fwrite_unlocked", "getc", "getc_unlocked", "getchar", "getchar_unlocked", "getdelim",
    "getline", "gets", "getw", "obstack_printf", "obstack_vprintf", "open_memstream",
    "parse_printf_format", "pclose", "perror", "popen", "printf", "printf_size", "printf_size_info",
    "putc", "putc_unlocked", "putchar", "putchar_unlocked", "puts", "putw", "read",
    "register_printf_function", "register_printf_modifier", "register_printf_specifier",
    "register_printf_type", "remove", "rename", "renameat", "renameat2", "rewind", "scanf",
    "setbuf", "setbuffer", "setlinebuf", "setvbuf", "snprintf", "sprintf", "sscanf", "stderr",
    "stdin", "stdout", "tempnam", "tmpfile", "tmpnam", "tmpnam_r", "ungetc", "vasprintf",
    "vdprintf", "vfprintf", "vfscanf", "vprintf", "vscanf", "vsnprintf", "vsprintf", "vsscanf",
    "write" ]

/-- What streams are made of, without the beginning of the names. -/
def streamParts : List String :=
  [ "2_1_stderr_", "2_1_stdin_", "2_1_stdout_", "adjust_column", "adjust_wcolumn",
    "default_doallocate", "default_finish", "default_pbackfail", "default_uflow", "default_xsgetn",
    "default_xsputn", "do_write", "doallocbuf", "enable_locks", "fclose", "fdopen", "feof",
    "ferror", "fflush", "fgetpos", "fgetpos64", "fgets", "file_attach", "file_close",
    "file_close_it", "file_doallocate", "file_finish", "file_fopen", "file_init", "file_jumps",
    "file_open", "file_overflow", "file_read", "file_seek", "file_seekoff", "file_setbuf",
    "file_stat", "file_sync", "file_underflow", "file_write", "file_xsputn", "flockfile",
    "flush_all", "flush_all_linebuffered", "fopen", "fprintf", "fputs", "fread", "free_backup_area",
    "free_wbackup_area", "fsetpos", "fsetpos64", "ftell", "ftrylockfile", "funlockfile", "fwrite",
    "getc", "getline", "getline_info", "gets", "init", "init_marker", "init_wmarker", "iter_begin",
    "iter_end", "iter_file", "iter_next", "least_wmarker", "link_in", "list_all", "list_lock",
    "list_resetlock", "list_unlock", "marker_delta", "marker_difference", "padn", "peekc_locked",
    "popen", "printf", "proc_close", "proc_open", "putc", "puts", "remove_marker", "seekmark",
    "seekoff", "seekpos", "seekwmark", "setb", "setbuffer", "setvbuf", "sgetn", "sprintf",
    "sputbackc", "sputbackwc", "sscanf", "str_init_readonly", "str_init_static", "str_overflow",
    "str_pbackfail", "str_seekoff", "str_underflow", "sungetc", "sungetwc", "switch_to_get_mode",
    "switch_to_main_wget_area", "switch_to_wbackup_area", "switch_to_wget_mode", "un_link",
    "ungetc", "unsave_markers", "unsave_wmarkers", "vfprintf", "vsprintf", "wdefault_doallocate",
    "wdefault_finish", "wdefault_pbackfail", "wdefault_uflow", "wdefault_xsgetn", "wdefault_xsputn",
    "wdo_write", "wdoallocbuf", "wfile_jumps", "wfile_overflow", "wfile_seekoff", "wfile_sync",
    "wfile_underflow", "wfile_xsputn", "wmarker_delta", "wsetb" ]

def buffers : List String :=
  streamParts.map fun name => "_IO_" ++ name

end Process
end Provision
