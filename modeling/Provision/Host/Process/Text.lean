/-!
# Text

Names of functions on characters, on strings and on catalogues of messages.
-/

namespace Provision
namespace Process

def characters : List String :=
  [ "c16rtomb", "c32rtomb", "c8rtomb", "isalnum", "isalnum_l", "isalpha", "isalpha_l", "isascii",
    "isblank", "isblank_l", "iscntrl", "iscntrl_l", "isctype", "isdigit", "isdigit_l", "isgraph",
    "isgraph_l", "islower", "islower_l", "isprint", "isprint_l", "ispunct", "ispunct_l", "isspace",
    "isspace_l", "isupper", "isupper_l", "iswalnum", "iswalnum_l", "iswalpha", "iswalpha_l",
    "iswblank", "iswblank_l", "iswcntrl", "iswcntrl_l", "iswctype", "iswctype_l", "iswdigit",
    "iswdigit_l", "iswgraph", "iswgraph_l", "iswlower", "iswlower_l", "iswprint", "iswprint_l",
    "iswpunct", "iswpunct_l", "iswspace", "iswspace_l", "iswupper", "iswupper_l", "iswxdigit",
    "iswxdigit_l", "isxdigit", "isxdigit_l", "mbrtoc16", "mbrtoc32", "mbrtoc8", "toascii",
    "tolower", "tolower_l", "toupper", "toupper_l", "towctrans", "towctrans_l", "towlower",
    "towlower_l", "towupper", "towupper_l", "wctrans", "wctrans_l", "wctype", "wctype_l" ]

/-! ## Strings -/

def strings : List String :=
  [ "argz_add", "argz_add_sep", "argz_append", "argz_count", "argz_create", "argz_create_sep",
    "argz_delete", "argz_extract", "argz_insert", "argz_next", "argz_replace", "argz_stringify",
    "basename", "bcmp", "bcopy", "btowc", "bzero", "catclose", "catgets", "catopen", "dirname",
    "duplocale", "envz_add", "envz_entry", "envz_get", "envz_merge", "envz_remove", "envz_strip",
    "explicit_bzero", "ffs", "ffsl", "ffsll", "fgetwc", "fgetwc_unlocked", "fgetws",
    "fgetws_unlocked", "fnmatch", "fputwc", "fputwc_unlocked", "fputws", "fputws_unlocked",
    "freelocale", "fwide", "fwprintf", "fwscanf", "getwc", "getwc_unlocked", "getwchar",
    "getwchar_unlocked", "glob", "glob_pattern_p", "globfree", "iconv", "iconv_close", "iconv_open",
    "index", "localeconv", "mbrlen", "mbrtowc", "mbsinit", "mbsnrtowcs", "mbsrtowcs", "memccpy",
    "memchr", "memcmp", "memcpy", "memfrob", "memmem", "memmove", "mempcpy", "memrchr", "memset",
    "newlocale", "nl_langinfo", "nl_langinfo_l", "open_wmemstream", "putwc", "putwc_unlocked",
    "putwchar", "putwchar_unlocked", "rawmemchr", "re_comp", "re_compile_fastmap",
    "re_compile_pattern", "re_exec", "re_match", "re_match_2", "re_max_failures", "re_search",
    "re_search_2", "re_set_registers", "re_set_syntax", "re_syntax_options", "regcomp", "regerror",
    "regexec", "regfree", "rindex", "setlocale", "sigabbrev_np", "sigdescr_np", "stat", "stpcpy",
    "stpncpy", "strcasecmp", "strcasecmp_l", "strcasestr", "strcat", "strchr", "strchrnul",
    "strcmp", "strcoll", "strcoll_l", "strcpy", "strcspn", "strdup", "strerror", "strerror_l",
    "strerror_r", "strerrordesc_np", "strerrorname_np", "strfmon", "strfmon_l", "strfromf128",
    "strfromf32", "strfromf32x", "strfromf64", "strfromf64x", "strfry", "strlcat", "strlcpy",
    "strlen", "strncasecmp", "strncasecmp_l", "strncat", "strncmp", "strncpy", "strndup", "strnlen",
    "strpbrk", "strrchr", "strsep", "strsignal", "strspn", "strstr", "strtof128", "strtof128_l",
    "strtof32", "strtof32_l", "strtof32x", "strtof32x_l", "strtof64", "strtof64_l", "strtof64x",
    "strtof64x_l", "strtok", "strtok_r", "strverscmp", "strxfrm", "strxfrm_l", "swprintf",
    "swscanf", "ungetwc", "uselocale", "vfwprintf", "vfwscanf", "vswprintf", "vswscanf", "vwprintf",
    "vwscanf", "wcpcpy", "wcpncpy", "wcrtomb", "wcscasecmp", "wcscasecmp_l", "wcscat", "wcschr",
    "wcschrnul", "wcscmp", "wcscoll", "wcscoll_l", "wcscpy", "wcscspn", "wcsdup", "wcsftime",
    "wcsftime_l", "wcslcat", "wcslcpy", "wcslen", "wcsncasecmp", "wcsncasecmp_l", "wcsncat",
    "wcsncmp", "wcsncpy", "wcsnlen", "wcsnrtombs", "wcspbrk", "wcsrchr", "wcsrtombs", "wcsspn",
    "wcsstr", "wcstod", "wcstod_l", "wcstof", "wcstof128", "wcstof128_l", "wcstof32", "wcstof32_l",
    "wcstof32x", "wcstof32x_l", "wcstof64", "wcstof64_l", "wcstof64x", "wcstof64x_l", "wcstof_l",
    "wcstok", "wcstol", "wcstol_l", "wcstold", "wcstold_l", "wcstoll", "wcstoll_l", "wcstoq",
    "wcstoul", "wcstoul_l", "wcstoull", "wcstoull_l", "wcstouq", "wcswcs", "wcswidth", "wcsxfrm",
    "wcsxfrm_l", "wctob", "wcwidth", "wmemchr", "wmemcmp", "wmemcpy", "wmemmove", "wmempcpy",
    "wmemset", "wordexp", "wordfree", "wprintf", "wscanf" ]

/-! ## Catalogues of messages -/

def catalogues : List String :=
  [ "bind_textdomain_codeset", "bindtextdomain", "dcgettext", "dcngettext", "dgettext", "dngettext",
    "gettext", "ngettext", "textdomain" ]

def text : List String :=
  characters ++ strings ++ catalogues

end Process
end Provision
