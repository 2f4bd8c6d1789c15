/-!
# System

Names of functions that ask something of the operating system.
-/

namespace Provision
namespace Process

/-! ## Time -/

def time : List String :=
  [ "adjtime", "adjtimex", "aio_cancel", "aio_error", "aio_fsync", "aio_init", "aio_read",
    "aio_return", "aio_suspend", "aio_write", "asctime", "asctime_r", "clock_adjtime",
    "clock_getcpuclockid", "clock_getres", "clock_gettime", "clock_nanosleep", "clock_settime",
    "ctime", "ctime_r", "daylight", "difftime", "dysize", "ftime", "futimes", "futimesat",
    "getdate", "getdate_err", "getdate_r", "getitimer", "gettimeofday", "gmtime", "gmtime_r",
    "lio_listio", "localtime", "localtime_r", "lutimes", "mktime", "nanosleep", "ntp_adjtime",
    "ntp_gettime", "ntp_gettimex", "setitimer", "settimeofday", "strftime", "strftime_l",
    "strptime", "strptime_l", "time", "timegm", "timelocal", "timer_create", "timer_delete",
    "timer_getoverrun", "timer_gettime", "timer_settime", "timerfd_create", "timerfd_gettime",
    "timerfd_settime", "times", "timespec_get", "timespec_getres", "timezone", "tzname", "tzset",
    "utime", "utimes" ]

/-! ## Threads -/

def threads : List String :=
  [ "call_once", "clock", "clone", "cnd_broadcast", "cnd_destroy", "cnd_init", "cnd_signal",
    "cnd_timedwait", "cnd_wait", "getcpu", "mtx_destroy", "mtx_init", "mtx_lock", "mtx_timedlock",
    "mtx_trylock", "mtx_unlock", "pthread_attr_destroy", "pthread_attr_getaffinity_np",
    "pthread_attr_getdetachstate", "pthread_attr_getguardsize", "pthread_attr_getinheritsched",
    "pthread_attr_getschedparam", "pthread_attr_getschedpolicy", "pthread_attr_getscope",
    "pthread_attr_getsigmask_np", "pthread_attr_getstack", "pthread_attr_getstackaddr",
    "pthread_attr_getstacksize", "pthread_attr_init", "pthread_attr_setaffinity_np",
    "pthread_attr_setdetachstate", "pthread_attr_setguardsize", "pthread_attr_setinheritsched",
    "pthread_attr_setschedparam", "pthread_attr_setschedpolicy", "pthread_attr_setscope",
    "pthread_attr_setsigmask_np", "pthread_attr_setstack", "pthread_attr_setstackaddr",
    "pthread_attr_setstacksize", "pthread_barrier_destroy", "pthread_barrier_init",
    "pthread_barrier_wait", "pthread_barrierattr_destroy", "pthread_barrierattr_getpshared",
    "pthread_barrierattr_init", "pthread_barrierattr_setpshared", "pthread_cancel",
    "pthread_clockjoin_np", "pthread_cond_broadcast", "pthread_cond_clockwait",
    "pthread_cond_destroy", "pthread_cond_init", "pthread_cond_signal", "pthread_cond_timedwait",
    "pthread_cond_wait", "pthread_condattr_destroy", "pthread_condattr_getclock",
    "pthread_condattr_getpshared", "pthread_condattr_init", "pthread_condattr_setclock",
    "pthread_condattr_setpshared", "pthread_create", "pthread_detach", "pthread_equal",
    "pthread_exit", "pthread_getaffinity_np", "pthread_getattr_default_np", "pthread_getattr_np",
    "pthread_getconcurrency", "pthread_getcpuclockid", "pthread_getname_np",
    "pthread_getschedparam", "pthread_getspecific", "pthread_join", "pthread_key_create",
    "pthread_key_delete", "pthread_mutex_clocklock", "pthread_mutex_consistent",
    "pthread_mutex_destroy", "pthread_mutex_getprioceiling", "pthread_mutex_init",
    "pthread_mutex_lock", "pthread_mutex_setprioceiling", "pthread_mutex_timedlock",
    "pthread_mutex_trylock", "pthread_mutex_unlock", "pthread_mutexattr_destroy",
    "pthread_mutexattr_getprioceiling", "pthread_mutexattr_getprotocol",
    "pthread_mutexattr_getpshared", "pthread_mutexattr_getrobust", "pthread_mutexattr_gettype",
    "pthread_mutexattr_init", "pthread_mutexattr_setprioceiling", "pthread_mutexattr_setprotocol",
    "pthread_mutexattr_setpshared", "pthread_mutexattr_setrobust", "pthread_mutexattr_settype",
    "pthread_once", "pthread_rwlock_clockrdlock", "pthread_rwlock_clockwrlock",
    "pthread_rwlock_destroy", "pthread_rwlock_init", "pthread_rwlock_rdlock",
    "pthread_rwlock_timedrdlock", "pthread_rwlock_timedwrlock", "pthread_rwlock_tryrdlock",
    "pthread_rwlock_trywrlock", "pthread_rwlock_unlock", "pthread_rwlock_wrlock",
    "pthread_rwlockattr_destroy", "pthread_rwlockattr_getkind_np", "pthread_rwlockattr_getpshared",
    "pthread_rwlockattr_init", "pthread_rwlockattr_setkind_np", "pthread_rwlockattr_setpshared",
    "pthread_self", "pthread_setaffinity_np", "pthread_setattr_default_np",
    "pthread_setcancelstate", "pthread_setcanceltype", "pthread_setconcurrency",
    "pthread_setname_np", "pthread_setschedparam", "pthread_setschedprio", "pthread_setspecific",
    "pthread_spin_destroy", "pthread_spin_init", "pthread_spin_lock", "pthread_spin_trylock",
    "pthread_spin_unlock", "pthread_testcancel", "pthread_timedjoin_np", "pthread_tryjoin_np",
    "sched_get_priority_max", "sched_get_priority_min", "sched_getaffinity", "sched_getcpu",
    "sched_getparam", "sched_getscheduler", "sched_rr_get_interval", "sched_setaffinity",
    "sched_setparam", "sched_setscheduler", "sched_yield", "sem_clockwait", "sem_close",
    "sem_destroy", "sem_getvalue", "sem_init", "sem_open", "sem_post", "sem_timedwait",
    "sem_trywait", "sem_unlink", "sem_wait", "setns", "thrd_create", "thrd_current", "thrd_detach",
    "thrd_equal", "thrd_exit", "thrd_join", "thrd_sleep", "thrd_yield", "tss_create", "tss_delete",
    "tss_get", "tss_set", "unshare" ]

/-! ## Signals and processes -/

def signals : List String :=
  [ "bsd_signal", "getcontext", "getpriority", "getrlimit", "getrusage", "gsignal", "kill",
    "killpg", "makecontext", "pidfd_getfd", "pidfd_getpid", "pidfd_open", "pidfd_send_signal",
    "pidfd_spawn", "pidfd_spawnp", "posix_spawn", "posix_spawn_file_actions_addchdir_np",
    "posix_spawn_file_actions_addclose", "posix_spawn_file_actions_addclosefrom_np",
    "posix_spawn_file_actions_adddup2", "posix_spawn_file_actions_addfchdir_np",
    "posix_spawn_file_actions_addopen", "posix_spawn_file_actions_addtcsetpgrp_np",
    "posix_spawn_file_actions_destroy", "posix_spawn_file_actions_init", "posix_spawnattr_destroy",
    "posix_spawnattr_getcgroup_np", "posix_spawnattr_getflags", "posix_spawnattr_getpgroup",
    "posix_spawnattr_getschedparam", "posix_spawnattr_getschedpolicy",
    "posix_spawnattr_getsigdefault", "posix_spawnattr_getsigmask", "posix_spawnattr_init",
    "posix_spawnattr_setcgroup_np", "posix_spawnattr_setflags", "posix_spawnattr_setpgroup",
    "posix_spawnattr_setschedparam", "posix_spawnattr_setschedpolicy",
    "posix_spawnattr_setsigdefault", "posix_spawnattr_setsigmask", "posix_spawnp", "prctl",
    "prlimit", "psiginfo", "psignal", "pthread_kill", "pthread_sigmask", "pthread_sigqueue",
    "ptrace", "raise", "setcontext", "setpriority", "setrlimit", "sigaction", "sigaddset",
    "sigaltstack", "sigandset", "sigblock", "sigdelset", "sigemptyset", "sigfillset", "siggetmask",
    "sighold", "sigignore", "siginterrupt", "sigisemptyset", "sigismember", "signal", "signalfd",
    "sigorset", "sigpause", "sigpending", "sigprocmask", "sigqueue", "sigrelse", "sigreturn",
    "sigset", "sigsetmask", "sigstack", "sigsuspend", "sigtimedwait", "sigwait", "sigwaitinfo",
    "ssignal", "swapcontext", "sysv_signal", "tgkill", "ulimit", "wait", "wait3", "wait4", "waitid",
    "waitpid" ]

/-! ## Files -/

def files : List String :=
  [ "access", "acct", "addmntent", "alarm", "alphasort", "brk", "cfgetispeed", "cfgetospeed",
    "cfmakeraw", "cfsetispeed", "cfsetospeed", "cfsetspeed", "chdir", "chflags", "chmod", "chown",
    "chroot", "close_range", "closedir", "closefrom", "confstr", "copy_file_range", "creat",
    "daemon", "dirfd", "dladdr", "dladdr1", "dlclose", "dlerror", "dlinfo", "dlmopen", "dlopen",
    "dlsym", "dlvsym", "dup", "dup2", "dup3", "eaccess", "endfsent", "endmntent", "endusershell",
    "environ", "euidaccess", "execl", "execle", "execlp", "execv", "execve", "execveat", "execvp",
    "execvpe", "faccessat", "fallocate", "fchdir", "fchflags", "fchmod", "fchmodat", "fchown",
    "fchownat", "fcntl", "fdatasync", "fdopendir", "fexecve", "fgetxattr", "flistxattr", "flock",
    "fork", "forkpty", "fpathconf", "fremovexattr", "fsetxattr", "fstat", "fstatat", "fstatfs",
    "fstatvfs", "fsync", "ftruncate", "fts64_children", "fts64_close", "fts64_open", "fts64_read",
    "fts64_set", "fts_children", "fts_close", "fts_open", "fts_read", "fts_set", "ftw", "futimens",
    "get_current_dir_name", "getcwd", "getdents64", "getdirentries", "getdomainname",
    "getdtablesize", "getegid", "getentropy", "geteuid", "getfsent", "getfsfile", "getfsspec",
    "getgid", "getgroups", "gethostid", "gethostname", "getlogin", "getlogin_r", "getmntent",
    "getmntent_r", "getopt", "getpagesize", "getpass", "getpgid", "getpgrp", "getpid", "getppid",
    "getresgid", "getresuid", "getsid", "gettid", "getuid", "getusershell", "getwd", "getxattr",
    "group_member", "gtty", "hasmntopt", "isatty", "lchmod", "lchown", "lgetxattr", "link",
    "linkat", "listxattr", "llistxattr", "lockf", "lockf64", "lremovexattr", "lseek", "lsetxattr",
    "lstat", "madvise", "memfd_create", "mincore", "mkdir", "mkdirat", "mkfifo", "mkfifoat",
    "mknod", "mknodat", "mlock", "mlock2", "mlockall", "mmap", "mprotect", "mremap", "msync",
    "munlock", "munlockall", "munmap", "name_to_handle_at", "nftw", "nice", "open",
    "open_by_handle_at", "openat", "opendir", "openpty", "optarg", "opterr", "optind", "optopt",
    "pathconf", "pause", "pipe", "pipe2", "pkey_alloc", "pkey_free", "pkey_get", "pkey_mprotect",
    "pkey_set", "poll", "posix_fadvise", "posix_fallocate", "posix_madvise", "ppoll", "pread",
    "preadv", "preadv2", "preadv64v2", "process_madvise", "process_mrelease", "process_vm_readv",
    "process_vm_writev", "profil", "pselect", "pwrite", "pwritev", "pwritev2", "pwritev64v2",
    "readahead", "readdir", "readdir64_r", "readdir_r", "readlink", "readlinkat", "readv",
    "remap_file_pages", "removexattr", "revoke", "rewinddir", "rmdir", "sbrk", "scandir",
    "scandirat", "seekdir", "select", "sendfile", "setdomainname", "setegid", "seteuid", "setfsent",
    "setgid", "sethostid", "sethostname", "setlogin", "setmntent", "setpgid", "setpgrp", "setregid",
    "setresgid", "setresuid", "setreuid", "setsid", "setuid", "setusershell", "setxattr",
    "shm_open", "shm_unlink", "sleep", "splice", "statfs", "statvfs", "statx", "stty", "swab",
    "symlink", "symlinkat", "sync", "sync_file_range", "syncfs", "syscall", "sysconf", "tcdrain",
    "tcflow", "tcflush", "tcgetattr", "tcgetpgrp", "tcgetsid", "tcsendbreak", "tcsetattr",
    "tcsetpgrp", "tee", "telldir", "truncate", "ttyname", "ttyname_r", "ttyslot", "ualarm", "umask",
    "umount", "umount2", "uname", "unlink", "unlinkat", "usleep", "utimensat", "versionsort",
    "vfork", "vhangup", "vmsplice", "writev" ]

/-! ## Kernel -/

def kernel : List String :=
  [ "arch_prctl", "capget", "capset", "delete_module", "epoll_create", "epoll_create1", "epoll_ctl",
    "epoll_pwait", "epoll_pwait2", "epoll_wait", "eventfd", "eventfd_read", "eventfd_write",
    "fanotify_init", "fanotify_mark", "fsconfig", "fsmount", "fsopen", "fspick", "get_avphys_pages",
    "get_nprocs", "get_nprocs_conf", "get_phys_pages", "getrandom", "gnu_dev_major",
    "gnu_dev_makedev", "gnu_dev_minor", "init_module", "inotify_add_watch", "inotify_init",
    "inotify_init1", "inotify_rm_watch", "ioctl", "ioperm", "iopl", "klogctl", "modify_ldt",
    "mount", "mount_setattr", "move_mount", "open_tree", "personality", "pivot_root", "quotactl",
    "reboot", "setfsgid", "setfsuid", "swapoff", "swapon", "sysinfo", "vlimit" ]

/-! ## Users -/

def users : List String :=
  [ "closelog", "endgrent", "endpwent", "endsgent", "endspent", "endttyent", "endutent",
    "endutxent", "fgetgrent", "fgetgrent_r", "fgetpwent", "fgetpwent_r", "fgetsgent", "fgetsgent_r",
    "fgetspent", "fgetspent_r", "getgrent", "getgrent_r", "getgrgid", "getgrgid_r", "getgrnam",
    "getgrnam_r", "getgrouplist", "getpw", "getpwent", "getpwent_r", "getpwnam", "getpwnam_r",
    "getpwuid", "getpwuid_r", "getsgent", "getsgent_r", "getsgnam", "getsgnam_r", "getspent",
    "getspent_r", "getspnam", "getspnam_r", "getttyent", "getttynam", "getutent", "getutent_r",
    "getutid", "getutid_r", "getutline", "getutline_r", "getutmp", "getutmpx", "getutxent",
    "getutxid", "getutxline", "initgroups", "lckpwdf", "login", "login_tty", "logout", "logwtmp",
    "openlog", "putgrent", "putpwent", "putsgent", "putspent", "pututline", "pututxline",
    "setgrent", "setgroups", "setlogmask", "setpwent", "setsgent", "setspent", "setttyent",
    "setutent", "setutxent", "sgetsgent", "sgetsgent_r", "sgetspent", "sgetspent_r", "syslog",
    "ulckpwdf", "updwtmp", "updwtmpx", "utmpname", "utmpxname", "vsyslog" ]

/-! ## Messages -/

def messages : List String :=
  [ "ftok", "mq_close", "mq_getattr", "mq_notify", "mq_open", "mq_receive", "mq_send", "mq_setattr",
    "mq_timedreceive", "mq_timedsend", "mq_unlink", "msgctl", "msgget", "msgrcv", "msgsnd",
    "semctl", "semget", "semop", "semtimedop", "shmat", "shmctl", "shmdt", "shmget" ]

/-! ## Large files -/

/-- Functions that come with 64 bit offsets under a name of their own. -/
def large : List String :=
  [ "aio_cancel", "aio_error", "aio_fsync", "aio_read", "aio_return", "aio_suspend", "aio_write",
    "alphasort", "creat", "fallocate", "fcntl", "fgetpos", "fopen", "freopen", "fseeko", "fsetpos",
    "fstat", "fstatat", "fstatfs", "fstatvfs", "ftello", "ftruncate", "ftw", "getdirentries",
    "getrlimit", "glob", "globfree", "lio_listio", "lseek", "lstat", "mkostemp", "mkostemps",
    "mkstemp", "mkstemps", "mmap", "nftw", "open", "openat", "posix_fadvise", "posix_fallocate",
    "pread", "preadv", "prlimit", "pwrite", "pwritev", "readdir", "scandir", "scandirat",
    "sendfile", "setrlimit", "stat", "statfs", "statvfs", "tmpfile", "truncate", "versionsort" ]

def system : List String :=
  time ++ threads ++ signals ++ files ++ kernel ++ users ++ messages
    ++ large.map fun name => name ++ "64"

end Process
end Provision
