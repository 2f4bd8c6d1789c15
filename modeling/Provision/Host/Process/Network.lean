/-!
# Network

Names of functions on hosts, addresses and sockets.
-/

namespace Provision
namespace Process

def network : List String :=
  [ "accept", "accept4", "bind", "bindresvport", "connect", "dn_comp", "dn_expand", "dn_skipname",
    "endaliasent", "endhostent", "endnetent", "endnetgrent", "endprotoent", "endrpcent",
    "endservent", "ether_aton", "ether_aton_r", "ether_hostton", "ether_line", "ether_ntoa",
    "ether_ntoa_r", "ether_ntohost", "freeaddrinfo", "freeifaddrs", "gai_cancel", "gai_error",
    "gai_strerror", "gai_suspend", "getaddrinfo", "getaddrinfo_a", "getaliasbyname",
    "getaliasbyname_r", "getaliasent", "getaliasent_r", "gethostbyaddr", "gethostbyaddr_r",
    "gethostbyname", "gethostbyname2", "gethostbyname2_r", "gethostbyname_r", "gethostent",
    "gethostent_r", "getifaddrs", "getipv4sourcefilter", "getnameinfo", "getnetbyaddr",
    "getnetbyaddr_r", "getnetbyname", "getnetbyname_r", "getnetent", "getnetent_r", "getnetgrent",
    "getnetgrent_r", "getpeername", "getprotobyname", "getprotobyname_r", "getprotobynumber",
    "getprotobynumber_r", "getprotoent", "getprotoent_r", "getrpcbyname", "getrpcbyname_r",
    "getrpcbynumber", "getrpcbynumber_r", "getrpcent", "getrpcent_r", "getservbyname",
    "getservbyname_r", "getservbyport", "getservbyport_r", "getservent", "getservent_r",
    "getsockname", "getsockopt", "getsourcefilter", "h_errlist", "h_nerr", "herror", "hstrerror",
    "htonl", "htons", "if_freenameindex", "if_indextoname", "if_nameindex", "if_nametoindex",
    "in6addr_any", "in6addr_loopback", "inet6_opt_append", "inet6_opt_find", "inet6_opt_finish",
    "inet6_opt_get_val", "inet6_opt_init", "inet6_opt_next", "inet6_opt_set_val",
    "inet6_option_alloc", "inet6_option_append", "inet6_option_find", "inet6_option_init",
    "inet6_option_next", "inet6_option_space", "inet6_rth_add", "inet6_rth_getaddr",
    "inet6_rth_init", "inet6_rth_reverse", "inet6_rth_segments", "inet6_rth_space", "inet_addr",
    "inet_aton", "inet_lnaof", "inet_makeaddr", "inet_netof", "inet_network", "inet_nsap_addr",
    "inet_nsap_ntoa", "inet_ntoa", "inet_ntop", "inet_pton", "innetgr", "iruserok", "iruserok_af",
    "isfdtype", "listen", "ns_name_compress", "ns_name_ntop", "ns_name_pack", "ns_name_pton",
    "ns_name_skip", "ns_name_uncompress", "ns_name_unpack", "ntohl", "ntohs", "rcmd", "rcmd_af",
    "recv", "recvfrom", "recvmmsg", "recvmsg", "res_dnok", "res_hnok", "res_mailok", "res_mkquery",
    "res_nmkquery", "res_nquery", "res_nquerydomain", "res_nsearch", "res_nsend", "res_ownok",
    "res_query", "res_querydomain", "res_search", "res_send", "rexec", "rexec_af", "rexecoptions",
    "rresvport", "rresvport_af", "ruserok", "ruserok_af", "ruserpass", "send", "sendmmsg",
    "sendmsg", "sendto", "setaliasent", "sethostent", "setipv4sourcefilter", "setnetent",
    "setnetgrent", "setprotoent", "setrpcent", "setservent", "setsockopt", "setsourcefilter",
    "shutdown", "sockatmark", "socket", "socketpair" ]

end Process
end Provision
