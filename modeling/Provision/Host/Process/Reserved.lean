/-!
# Reserved names

Names that begin with an underscore.
-/

namespace Provision
namespace Process

/-! ## Second names -/

/-- Names that also stand with two underscores before them. -/
def aliased : List String :=
  [ "adjtimex", "arch_prctl", "argz_count", "argz_next", "argz_stringify", "asprintf", "backtrace",
    "backtrace_symbols", "backtrace_symbols_fd", "bzero", "clock_gettime", "clog10", "clog10f",
    "clog10l", "clone", "close", "connect", "daylight", "dcgettext", "dgettext", "dup2",
    "duplocale", "endmntent", "environ", "fcntl", "ffs", "finite", "finitef", "finitel", "fork",
    "freelocale", "fseeko64", "fstat64", "ftello64", "getauxval", "getdelim", "getmntent_r",
    "getpagesize", "getpgid", "getpid", "getrlimit", "gettimeofday", "gmtime_r", "isalnum_l",
    "isalpha_l", "isblank_l", "iscntrl_l", "isctype", "isdigit_l", "isgraph_l", "isinf", "isinff",
    "isinfl", "islower_l", "isnan", "isnanf", "isnanl", "isprint_l", "ispunct_l", "isspace_l",
    "isupper_l", "iswalnum_l", "iswalpha_l", "iswblank_l", "iswcntrl_l", "iswctype", "iswctype_l",
    "iswdigit_l", "iswgraph_l", "iswlower_l", "iswprint_l", "iswpunct_l", "iswspace_l",
    "iswupper_l", "iswxdigit_l", "isxdigit_l", "lseek", "madvise", "mbrlen", "mbrtowc", "mempcpy",
    "mktemp", "mmap", "monstartup", "mprotect", "munmap", "nanosleep", "newlocale", "nl_langinfo_l",
    "ns_name_compress", "ns_name_ntop", "ns_name_pack", "ns_name_pton", "ns_name_skip",
    "ns_name_uncompress", "ns_name_unpack", "open", "open64", "pipe", "poll", "pread64",
    "pthread_key_create", "pwrite64", "rawmemchr", "read", "recv", "sbrk", "sched_get_priority_max",
    "sched_get_priority_min", "sched_getparam", "sched_getscheduler", "sched_setscheduler",
    "sched_yield", "select", "send", "sendmmsg", "setmntent", "setpgid", "sigaction", "signgam",
    "sigpause", "sigsuspend", "sigtimedwait", "socket", "statfs", "stpcpy", "stpncpy", "strcasecmp",
    "strcasecmp_l", "strcasestr", "strcoll_l", "strdup", "strerror_r", "strfmon_l", "strftime_l",
    "strncasecmp_l", "strndup", "strtod_l", "strtof_l", "strtok_r", "strtol_l", "strtold_l",
    "strtoll_l", "strtoul_l", "strtoull_l", "strverscmp", "strxfrm_l", "sysconf", "sysv_signal",
    "tdelete", "tfind", "timezone", "tolower_l", "toupper_l", "towctrans", "towctrans_l",
    "towlower_l", "towupper_l", "tsearch", "twalk", "twalk_r", "tzname", "uselocale", "vfork",
    "vfscanf", "vsnprintf", "vsscanf", "wait", "waitpid", "wcscasecmp_l", "wcscoll_l", "wcsftime_l",
    "wcsncasecmp_l", "wcstod_l", "wcstof_l", "wcstol_l", "wcstold_l", "wcstoll_l", "wcstoul_l",
    "wcstoull_l", "wcsxfrm_l", "wctrans_l", "wctype_l", "write" ]

/-! ## Checked forms -/

/-- Functions that also come in a form that is told the size of its buffer. -/
def checked : List String :=
  [ "asprintf", "confstr", "dprintf", "explicit_bzero", "fdelt", "fgets", "fgets_unlocked",
    "fgetws", "fgetws_unlocked", "fprintf", "fread", "fread_unlocked", "fwprintf", "getcwd",
    "getdomainname", "getgroups", "gethostname", "getlogin_r", "gets", "getwd", "longjmp",
    "mbsnrtowcs", "mbsrtowcs", "mbstowcs", "memcpy", "memmove", "mempcpy", "memset",
    "obstack_printf", "obstack_vprintf", "poll", "ppoll", "pread", "pread64", "printf", "ptsname_r",
    "read", "readlink", "readlinkat", "realpath", "recv", "recvfrom", "snprintf", "sprintf",
    "stpcpy", "stpncpy", "strcat", "strcpy", "strlcat", "strlcpy", "strncat", "strncpy", "swprintf",
    "syslog", "ttyname_r", "vasprintf", "vdprintf", "vfprintf", "vfwprintf", "vprintf", "vsnprintf",
    "vsprintf", "vswprintf", "vsyslog", "vwprintf", "wcpcpy", "wcpncpy", "wcrtomb", "wcscat",
    "wcscpy", "wcslcat", "wcslcpy", "wcsncat", "wcsncpy", "wcsnrtombs", "wcsrtombs", "wcstombs",
    "wctomb", "wmemcpy", "wmemmove", "wmempcpy", "wmemset", "wprintf" ]

/-! ## Forms of one standard -/

/-- Scanning, by two standards. -/
def scanned : List String :=
  [ "fscanf", "fwscanf", "scanf", "sscanf", "swscanf", "vfscanf", "vfwscanf", "vscanf", "vsscanf",
    "vswscanf", "vwscanf", "wscanf" ]

/-- Reading integers, by the later standard. -/
def integers : List String :=
  [ "strtoimax", "strtol", "strtol_l", "strtoll", "strtoll_l", "strtoul", "strtoul_l", "strtoull",
    "strtoull_l", "strtoumax", "wcstoimax", "wcstol", "wcstol_l", "wcstoll", "wcstoll_l", "wcstoul",
    "wcstoul_l", "wcstoull", "wcstoull_l", "wcstoumax" ]

/-! ## Databases -/

/-- Look-up in files. -/
def lookups : List String :=
  [ "endaliasent", "endetherent", "endgrent", "endhostent", "endnetent", "endnetgrent",
    "endprotoent", "endpwent", "endrpcent", "endservent", "endsgent", "endspent",
    "getaliasbyname_r", "getaliasent_r", "getetherent_r", "getgrent_r", "getgrgid_r", "getgrnam_r",
    "gethostbyaddr_r", "gethostbyname2_r", "gethostbyname3_r", "gethostbyname4_r",
    "gethostbyname_r", "gethostent_r", "gethostton_r", "getnetbyaddr_r", "getnetbyname_r",
    "getnetent_r", "getnetgrent_r", "getntohost_r", "getprotobyname_r", "getprotobynumber_r",
    "getprotoent_r", "getpwent_r", "getpwnam_r", "getpwuid_r", "getrpcbyname_r", "getrpcbynumber_r",
    "getrpcent_r", "getservbyname_r", "getservbyport_r", "getservent_r", "getsgent_r", "getsgnam_r",
    "getspent_r", "getspnam_r", "init", "initgroups_dyn", "parse_etherent", "parse_grent",
    "parse_netent", "parse_protoent", "parse_pwent", "parse_rpcent", "parse_servent", "parse_sgent",
    "parse_spent", "setaliasent", "setetherent", "setgrent", "sethostent", "setnetent",
    "setnetgrent", "setprotoent", "setpwent", "setrpcent", "setservent", "setsgent", "setspent" ]

/-- Look-up in general. -/
def databases : List String :=
  [ "configure_lookup", "database_get", "disable_nscd", "files_data_endent", "files_data_open",
    "files_data_put", "files_data_setent", "files_fopen", "group_lookup2", "hash",
    "hostname_digits_dots", "hosts_lookup2", "lookup", "lookup_function", "next2",
    "parse_line_result", "passwd_lookup2", "readline", "services_lookup2" ]

/-! ## The library itself -/

def internals : List String :=
  [ "alloc_buffer_alloc_array", "alloc_buffer_allocate", "alloc_buffer_copy_bytes",
    "alloc_buffer_copy_string", "alloc_buffer_create_failure", "alloca_cutoff",
    "allocate_once_slow", "allocate_rtsig", "calloc", "current_sigrtmax", "current_sigrtmin",
    "dlerror_result", "dn_expand", "dn_skipname", "dynarray_at_failure", "dynarray_emplace_enlarge",
    "dynarray_finalize", "dynarray_resize", "dynarray_resize_clear", "early_init", "enable_secure",
    "fatal", "fcntl64", "fork", "free", "freeres", "ifunc_impl_list", "init_first", "mallinfo",
    "malloc", "mallopt", "memalign", "msgrcv", "msgsnd", "ns_makecanon", "ns_samename", "pread",
    "pvalloc", "pwrite", "realloc", "reallocarray", "res_dnok", "res_hnok", "res_nameinquery",
    "res_queriesmatch", "sa_len", "scratch_buffer_grow", "scratch_buffer_grow_preserve",
    "scratch_buffer_set_array_size", "secure_getenv", "sigaction", "single_threaded", "stack_end",
    "start_main", "system", "unwind_link_get", "valloc" ]

/-- What a debugger asks about threads. -/
def debugging : List String :=
  [ "__nptl_last_event", "__nptl_nthreads", "__nptl_rtld_global", "__pthread_keys",
    "const_thread_area", "dtv_dtv", "dtv_slotinfo_gen", "dtv_slotinfo_list_len",
    "dtv_slotinfo_list_next", "dtv_slotinfo_list_slotinfo", "dtv_slotinfo_map", "dtv_t_counter",
    "dtv_t_pointer_val", "link_map_l_tls_modid", "link_map_l_tls_offset", "list_t_next",
    "list_t_prev", "pthread_cancelhandling", "pthread_dtvp", "pthread_eventbuf",
    "pthread_eventbuf_eventmask", "pthread_eventbuf_eventmask_event_bits", "pthread_key_data_data",
    "pthread_key_data_level2_data", "pthread_key_data_seq", "pthread_key_struct_destr",
    "pthread_key_struct_seq", "pthread_list", "pthread_nextevent", "pthread_report_events",
    "pthread_schedparam_sched_priority", "pthread_schedpolicy", "pthread_specific",
    "pthread_start_routine", "pthread_tid", "rtld_global__dl_stack_used",
    "rtld_global__dl_stack_user", "rtld_global__dl_tls_dtv_slotinfo_list", "sizeof_dtv_slotinfo",
    "sizeof_dtv_slotinfo_list", "sizeof_list_t", "sizeof_pthread", "sizeof_pthread_key_data",
    "sizeof_pthread_key_data_level2", "sizeof_pthread_key_struct", "sizeof_td_eventbuf_t",
    "sizeof_td_thr_events_t", "td_eventbuf_t_eventdata", "td_eventbuf_t_eventnum",
    "td_thr_events_t_event_bits" ]

/-- Dynamic linking. -/
def linking : List String :=
  [ "allocate_tls", "allocate_tls_init", "argv", "audit_preinit", "audit_symbind_alt",
    "catch_exception", "deallocate_tls", "debug_state", "exception_create",
    "exception_create_format", "exception_free", "fatal_printf", "find_dso_for_object",
    "find_object", "get_tls_static_info", "mcount", "mcount_wrapper", "mcount_wrapper_check",
    "rtld_di_serinfo", "signal_error", "signal_exception", "x86_get_cpu_features" ]

/-- Other names that begin with two underscores. -/
def hidden : List String :=
  [ "abort_msg", "assert", "assert_fail", "assert_perror_fail", "bsd_getpgrp", "call_tls_dtors",
    "check_rhosts_file", "chk_fail", "close_nocancel", "cmsg_nxthdr", "copy_grp", "ctype_b_loc",
    "ctype_get_mb_cur_max", "ctype_init", "ctype_tolower_loc", "ctype_toupper_loc", "curbrk",
    "cxa_at_quick_exit", "cxa_atexit", "cxa_finalize", "cxa_thread_atexit_impl",
    "cyg_profile_func_enter", "cyg_profile_func_exit", "errno_location", "fbufsize", "fdelt_warn",
    "fentry__", "file_change_detection_for_fp", "file_change_detection_for_path",
    "file_change_detection_for_stat", "file_is_unchanged", "finitef128", "flbf", "fortify_fail",
    "fpclassify", "fpclassifyf", "fpclassifyf128", "fpclassifyl", "fpending", "fpu_control",
    "fpurge", "freadable", "freading", "fsetlocking", "fwritable", "fwriting", "fxstat", "fxstat64",
    "fxstatat", "fxstatat64", "gconv_create_spec", "gconv_destroy_spec", "gconv_get_alias_db",
    "gconv_get_cache", "gconv_get_modules_db", "gconv_open", "gconv_transliterate", "h_errno",
    "h_errno_location", "idna_from_dns_encoding", "idna_to_dns_encoding", "inet6_scopeid_pton",
    "inet_aton_exact", "inet_pton_length", "internal_endnetgrent", "internal_getnetgrent_r",
    "internal_setnetgrent", "isascii_l", "iscanonicall", "iseqsig", "iseqsigf", "iseqsigf128",
    "iseqsigl", "isinff128", "isnanf128", "issignaling", "issignalingf", "issignalingf128",
    "issignalingl", "lll_lock_wait_private", "lll_lock_wake_private", "lxstat", "lxstat64",
    "memcmpeq", "merge_grp", "mq_open_2", "netlink_assert_response", "nptl_change_stack_perm",
    "nptl_create_event", "nptl_death_event", "nptl_initial_report_events", "nptl_last_event",
    "nptl_nthreads", "nptl_rtld_global", "nptl_threads_events", "nptl_version", "open64_2",
    "open64_nocancel", "open_2", "open_catalog", "open_nocancel", "openat64_2", "openat_2",
    "overflow", "posix_getopt", "pread64_nocancel", "printf_fp", "profile_frequency", "progname",
    "progname_full", "pthread_cleanup_routine", "pthread_get_minstack", "pthread_keys",
    "pthread_register_cancel", "pthread_register_cancel_defer", "pthread_unregister_cancel",
    "pthread_unregister_cancel_restore", "pthread_unwind_next", "rcmd_errstr", "read_nocancel",
    "register_atfork", "res_context_hostalias", "res_context_mkquery", "res_context_query",
    "res_context_search", "res_context_send", "res_get_nsaddr", "res_iclose", "res_init",
    "res_nclose", "res_ninit", "res_nopt", "res_randomid", "res_state", "resolv_context_get",
    "resolv_context_get_override", "resolv_context_get_preinit", "resolv_context_put", "resp",
    "rseq_flags", "rseq_offset", "rseq_size", "sched_cpualloc", "sched_cpucount", "sched_cpufree",
    "shm_get_name", "signbit", "signbitf", "signbitf128", "signbitl", "sigsetjmp", "stack_chk_fail",
    "strsep_g", "strtod_internal", "strtod_nan", "strtof128_internal", "strtof128_nan",
    "strtof_internal", "strtof_nan", "strtol_internal", "strtold_internal", "strtold_nan",
    "strtoll_internal", "strtoul_internal", "strtoull_internal", "tls_get_addr", "toascii_l",
    "tunable_get_val", "tunable_is_initialized", "uflow", "underflow", "wcstod_internal",
    "wcstof128_internal", "wcstof_internal", "wcstol_internal", "wcstold_internal",
    "wcstoll_internal", "wcstoul_internal", "wcstoull_internal", "woverflow", "write_nocancel",
    "wuflow", "wunderflow", "x86_get_cpuid_feature_leaf", "xmknod", "xmknodat", "xpg_basename",
    "xpg_sigpause", "xpg_strerror_r", "xstat", "xstat64" ]

/-- Other names that begin with one underscore. -/
def underscored : List String :=
  [ "Fork", "environ", "flushlbf", "itoa_lower_digits", "libc_intl_domainname", "mcleanup",
    "mcount", "nl_default_dirname", "nl_domain_bindings", "nl_msg_cat_cntr",
    "nss_dns_getcanonname_r", "nss_dns_gethostbyaddr2_r", "nss_dns_gethostbyaddr_r",
    "nss_dns_gethostbyname2_r", "nss_dns_gethostbyname3_r", "nss_dns_gethostbyname4_r",
    "nss_dns_gethostbyname_r", "nss_dns_getnetbyaddr_r", "nss_dns_getnetbyname_r",
    "nss_netgroup_parseline", "obstack_allocated_p", "obstack_begin", "obstack_begin_1",
    "obstack_free", "obstack_memory_used", "obstack_newchunk", "pthread_cleanup_pop",
    "pthread_cleanup_push", "r_debug", "res_hconf", "rtld_global", "rtld_global_ro", "tolower",
    "toupper" ]

def reserved : List String :=
  (aliased ++ hidden).map (fun name => "__" ++ name)
    ++ checked.map (fun name => "__" ++ name ++ "_chk")
    ++ scanned.map (fun name => "__isoc99_" ++ name)
    ++ (scanned ++ integers).map (fun name => "__isoc23_" ++ name)
    ++ lookups.map (fun name => "_nss_files_" ++ name)
    ++ databases.map (fun name => "__nss_" ++ name)
    ++ internals.map (fun name => "__libc_" ++ name)
    ++ debugging.map (fun name => "_thread_db_" ++ name)
    ++ linking.map (fun name => "_dl_" ++ name)
    ++ underscored.map (fun name => "_" ++ name)

end Process
end Provision
