/-
The built-in catalog: what a language runtime needs to know of sockets,
files, processes and signals when it starts. It names the union of all
platforms; a constant that a platform lacks prints nothing there.
-/
import AbiProbe.Catalog

namespace AbiProbe.Catalog

/-- Fields that are published with a tag, as pairs of name and tag; an empty
tag stands for none. -/
def fieldsOf (pairs : List (String × String)) : List FieldDecl :=
  pairs.map fun (name, tag) => ⟨name, if tag.isEmpty then none else some tag⟩

/-! ## Structs -/

def builtinStructs : List StructDecl :=
  [⟨"addrinfo", ["sys/socket.h", "netdb.h"], fieldsOf
      [("ai_flags", "int"), ("ai_family", "int"), ("ai_socktype", "int"), ("ai_protocol", "int"),
        ("ai_addrlen", "int"), ("ai_addr", "pointer"), ("ai_canonname", "string"),
        ("ai_next", "pointer")]⟩,
   ⟨"ifaddrs", ["sys/types.h", "ifaddrs.h"], fieldsOf
      [("ifa_next", "pointer"), ("ifa_name", "string"), ("ifa_flags", "int"),
        ("ifa_addr", "pointer"), ("ifa_netmask", "pointer"), ("ifa_broadaddr", "pointer"),
        ("ifa_dstaddr", "pointer")]⟩,
   ⟨"sockaddr", ["sys/socket.h"], fieldsOf
      [("sa_data", "char_array"), ("sa_family", "sa_family_t")]⟩,
   ⟨"sockaddr_in", ["netinet/in.h", "sys/socket.h", "fcntl.h", "sys/stat.h"], fieldsOf
      [("sin_family", "sa_family_t"), ("sin_port", "ushort"), ("sin_addr", ""),
        ("sin_zero", "char_array")]⟩,
   ⟨"sockaddr_in6", ["netinet/in.h", "sys/socket.h", "fcntl.h", "sys/stat.h"], fieldsOf
      [("sin6_family", "sa_family_t"), ("sin6_port", "ushort"), ("sin6_flowinfo", ""),
        ("sin6_addr", "char_array"), ("sin6_scope_id", "")]⟩,
   ⟨"sockaddr_un", ["sys/un.h"], fieldsOf
      [("sun_family", "sa_family_t"), ("sun_path", "char_array")]⟩,
   ⟨"hostent", ["netdb.h"], fieldsOf
      [("h_name", "string"), ("h_aliases", "pointer"), ("h_addrtype", "int"),
        ("h_length", "int"), ("h_addr_list", "pointer")]⟩,
   ⟨"linger", ["sys/socket.h"], fieldsOf
      [("l_onoff", "int"), ("l_linger", "int")]⟩,
   ⟨"iovec", ["sys/socket.h"], fieldsOf
      [("iov_base", "pointer"), ("iov_len", "size_t")]⟩,
   ⟨"msghdr", ["sys/socket.h"], fieldsOf
      [("msg_name", "pointer"), ("msg_namelen", "int"), ("msg_iov", "pointer"),
        ("msg_iovlen", "size_t"), ("msg_control", "pointer"), ("msg_controllen", "size_t"),
        ("msg_flags", "int")]⟩,
   ⟨"servent", ["netdb.h"], fieldsOf
      [("s_name", "pointer"), ("s_aliases", "pointer"), ("s_port", "int"), ("s_proto", "pointer")]⟩]

/-! ## Constants -/

/-- Address families, each with an address and a protocol constant. -/
def families : List String :=
  namesIn "APPLETALK AX25 INET INET6 IPX ISDN LOCAL MAX PACKET ROUTE SNA UNIX UNSPEC"

def errnoGroup : GroupDecl :=
  (GroupDecl.new "errno" ["errno.h"]).constants
    "EPERM ENOENT ESRCH EINTR EIO ENXIO E2BIG ENOEXEC EBADF ECHILD EDEADLK ENOMEM EACCES
      EFAULT ENOTBLK EBUSY EEXIST EXDEV ENODEV ENOTDIR EISDIR EINVAL ENFILE EMFILE ENOTTY
      ETXTBSY EFBIG ENOSPC ESPIPE EROFS EMLINK EPIPE EDOM ERANGE EWOULDBLOCK EAGAIN EINPROGRESS
      EALREADY ENOTSOCK EDESTADDRREQ EMSGSIZE EPROTOTYPE ENOPROTOOPT EPROTONOSUPPORT
      ESOCKTNOSUPPORT EOPNOTSUPP EPFNOSUPPORT EAFNOSUPPORT EADDRINUSE EADDRNOTAVAIL ENETDOWN
      ENETUNREACH ENETRESET ECONNABORTED ECONNRESET ENOBUFS EISCONN ENOTCONN ESHUTDOWN
      ETOOMANYREFS ETIMEDOUT ECONNREFUSED ELOOP ENAMETOOLONG EHOSTDOWN EHOSTUNREACH ENOTEMPTY
      EUSERS EDQUOT ESTALE EREMOTE ENOLCK ENOSYS EOVERFLOW EIDRM ENOMSG EILSEQ EBADMSG
      EMULTIHOP ENODATA ENOLINK ENOSR ENOSTR EPROTO ETIME"

def fileGroup : GroupDecl :=
  (GroupDecl.new "file" ["stdio.h", "fcntl.h", "fnmatch.h", "sys/stat.h"]).constants
    "FNM_CASEFOLD FNM_DOTMATCH FNM_EXTGLOB FNM_NOESCAPE FNM_PATHNAME FNM_SYSCASE LOCK_SH
      LOCK_EX LOCK_NB LOCK_UN O_RDONLY O_WRONLY O_RDWR O_ACCMODE O_CREAT O_EXCL O_NOCTTY
      O_TRUNC O_APPEND O_NONBLOCK O_NDELAY O_SYNC O_TMPFILE S_IRUSR S_IWUSR S_IXUSR S_IRGRP
      S_IWGRP S_IXGRP S_IROTH S_IWOTH S_IXOTH S_IFMT S_IFIFO S_IFCHR S_IFDIR S_IFBLK S_IFREG
      S_IFLNK S_IFSOCK S_IFWHT S_ISUID S_ISGID S_ISVTX"

def ioGroup : GroupDecl :=
  (GroupDecl.new "io" ["stdio.h"]).constants
    "SEEK_SET SEEK_CUR SEEK_END"

def fcntlGroup : GroupDecl :=
  (GroupDecl.new "fcntl" ["unistd.h", "fcntl.h"]).constants
    "F_GETFL F_SETFL F_DUPFD F_GETFD F_SETFD FD_CLOEXEC F_GETOWN F_SETOWN F_GETLK F_SETLK
      F_SETLKW F_RDLCK F_UNLCK F_WRLCK F_CHKCLEAN F_PREALLOCATE F_SETSIZE F_RDADVISE F_RDAHEAD
      F_READBOOTSTRAP F_WRITEBOOTSTRAP F_NOCACHE F_LOG2PHYS F_GETPATH F_FULLFSYNC
      F_PATHPKG_CHECK F_FREEZE_FS F_THAW_FS F_GLOBAL_NOCACHE F_ADDSIG F_MARKDEPENDENCY
      F_ALLOCATECONTIG F_ALLOCATEALL"

def socketGroup : GroupDecl :=
  ((families.foldl (fun g family => g.constants ("AF_" ++ family ++ " PF_" ++ family))
    (GroupDecl.new "socket"
      ["sys/types.h", "sys/socket.h", "netdb.h", "netinet/in_systm.h", "netinet/tcp.h",
        "netinet/udp.h", "netinet/in.h", "net/if.h"])).constants "PF_KEY").constants
    "AI_ADDRCONFIG AI_ALL AI_CANONNAME AI_NUMERICHOST AI_NUMERICSERV AI_PASSIVE AI_V4MAPPED
      EAI_ADDRFAMILY EAI_AGAIN EAI_BADFLAGS EAI_FAIL EAI_FAMILY EAI_MEMORY EAI_NODATA
      EAI_NONAME EAI_OVERFLOW EAI_SERVICE EAI_SOCKTYPE EAI_SYSTEM IFF_ALLMULTI IFF_AUTOMEDIA
      IFF_BROADCAST IFF_DEBUG IFF_DYNAMIC IFF_LOOPBACK IFF_MASTER IFF_MULTICAST IFF_NOARP
      IFF_NOTRAILERS IFF_POINTOPOINT IFF_PORTSEL IFF_PROMISC IFF_RUNNING IFF_SLAVE IFF_UP
      IF_NAMESIZE INADDR_ALLHOSTS_GROUP INADDR_ANY INADDR_BROADCAST INADDR_LOOPBACK
      INADDR_MAX_LOCAL_GROUP INADDR_NONE INADDR_UNSPEC_GROUP INET6_ADDRSTRLEN INET_ADDRSTRLEN
      IPPORT_RESERVED IPPORT_USERRESERVED IPPROTO_AH IPPROTO_DSTOPTS IPPROTO_EGP IPPROTO_ESP
      IPPROTO_FRAGMENT IPPROTO_HOPOPTS IPPROTO_ICMP IPPROTO_ICMPV6 IPPROTO_IDP IPPROTO_IGMP
      IPPROTO_IP IPPROTO_IPV6 IPPROTO_NONE IPPROTO_PUP IPPROTO_RAW IPPROTO_ROUTING IPPROTO_TCP
      IPPROTO_TP IPPROTO_UDP IPV6_CHECKSUM IPV6_DONTFRAG IPV6_DSTOPTS IPV6_HOPLIMIT
      IPV6_HOPOPTS IPV6_JOIN_GROUP IPV6_LEAVE_GROUP IPV6_MULTICAST_HOPS IPV6_MULTICAST_IF
      IPV6_MULTICAST_LOOP IPV6_NEXTHOP IPV6_PATHMTU IPV6_PKTINFO IPV6_RECVDSTOPTS
      IPV6_RECVHOPLIMIT IPV6_RECVHOPOPTS IPV6_RECVPATHMTU IPV6_RECVPKTINFO IPV6_RECVRTHDR
      IPV6_RECVTCLASS IPV6_RTHDR IPV6_RTHDRDSTOPTS IPV6_RTHDR_TYPE_0 IPV6_TCLASS
      IPV6_UNICAST_HOPS IPV6_V6ONLY IP_ADD_MEMBERSHIP IP_ADD_SOURCE_MEMBERSHIP IP_BLOCK_SOURCE
      IP_DEFAULT_MULTICAST_LOOP IP_DEFAULT_MULTICAST_TTL IP_DROP_MEMBERSHIP
      IP_DROP_SOURCE_MEMBERSHIP IP_FREEBIND IP_HDRINCL IP_IPSEC_POLICY IP_MAX_MEMBERSHIPS
      IP_MINTTL IP_MSFILTER IP_MTU IP_MTU_DISCOVER IP_MULTICAST_IF IP_MULTICAST_LOOP
      IP_MULTICAST_TTL IP_OPTIONS IP_PASSSEC IP_PKTINFO IP_PKTOPTIONS IP_PMTUDISC_DO
      IP_PMTUDISC_DONT IP_PMTUDISC_WANT IP_RECVERR IP_RECVOPTS IP_RECVRETOPTS IP_RECVTOS
      IP_RECVTTL IP_RETOPTS IP_ROUTER_ALERT IP_TOS IP_TRANSPARENT IP_TTL IP_UNBLOCK_SOURCE
      IP_XFRM_POLICY MCAST_BLOCK_SOURCE MCAST_EXCLUDE MCAST_INCLUDE MCAST_JOIN_GROUP
      MCAST_JOIN_SOURCE_GROUP MCAST_LEAVE_GROUP MCAST_LEAVE_SOURCE_GROUP MCAST_MSFILTER
      MCAST_UNBLOCK_SOURCE MSG_CONFIRM MSG_CTRUNC MSG_DONTROUTE MSG_DONTWAIT MSG_EOR
      MSG_ERRQUEUE MSG_FASTOPEN MSG_FIN MSG_MORE MSG_NOSIGNAL MSG_OOB MSG_PEEK MSG_PROXY
      MSG_RST MSG_SYN MSG_TRUNC MSG_WAITALL NI_DGRAM NI_MAXHOST NI_MAXSERV NI_NAMEREQD
      NI_NOFQDN NI_NUMERICHOST NI_NUMERICSERV SCM_CREDENTIALS SCM_RIGHTS SCM_TIMESTAMP
      SCM_TIMESTAMPING SCM_TIMESTAMPNS SCM_WIFI_STATUS SEEK_CUR SEEK_DATA SEEK_END SEEK_HOLE
      SEEK_SET SHUT_RD SHUT_RDWR SHUT_WR SOCK_DGRAM SOCK_PACKET SOCK_RAW SOCK_RDM
      SOCK_SEQPACKET SOCK_STREAM SOL_IP SOL_SOCKET SOL_TCP SOL_UDP SO_ACCEPTCONN
      SO_ATTACH_FILTER SO_BINDTODEVICE SO_BPF_EXTENSIONS SO_BROADCAST SO_BUSY_POLL SO_DEBUG
      SO_DETACH_FILTER SO_DOMAIN SO_DONTROUTE SO_ERROR SO_GET_FILTER SO_KEEPALIVE SO_LINGER
      SO_LOCK_FILTER SO_MARK SO_MAX_PACING_RATE SO_NOFCS SO_NO_CHECK SO_OOBINLINE SO_PASSCRED
      SO_PASSSEC SO_PEEK_OFF SO_PEERCRED SO_PEERNAME SO_PEERSEC SO_PRIORITY SO_PROTOCOL
      SO_RCVBUF SO_RCVBUFFORCE SO_RCVLOWAT SO_RCVTIMEO SO_REUSEADDR SO_REUSEPORT SO_RXQ_OVFL
      SO_SECURITY_AUTHENTICATION SO_SECURITY_ENCRYPTION_NETWORK
      SO_SECURITY_ENCRYPTION_TRANSPORT SO_SELECT_ERR_QUEUE SO_SNDBUF SO_SNDBUFFORCE SO_SNDLOWAT
      SO_SNDTIMEO SO_TIMESTAMP SO_TIMESTAMPING SO_TIMESTAMPNS SO_TYPE SO_WIFI_STATUS
      TCP_CONGESTION TCP_COOKIE_TRANSACTIONS TCP_CORK TCP_DEFER_ACCEPT TCP_FASTOPEN TCP_INFO
      TCP_KEEPCNT TCP_KEEPIDLE TCP_KEEPINTVL TCP_LINGER2 TCP_MAXSEG TCP_MD5SIG TCP_NODELAY
      TCP_QUEUE_SEQ TCP_QUICKACK TCP_REPAIR TCP_REPAIR_OPTIONS TCP_REPAIR_QUEUE TCP_SYNCNT
      TCP_THIN_DUPACK TCP_THIN_LINEAR_TIMEOUTS TCP_TIMESTAMP TCP_USER_TIMEOUT TCP_WINDOW_CLAMP
      UDP_CORK SOMAXCONN"

/-- The limits at the end are unsigned numbers of 64 bits; printed as
`long` they would wrap. -/
def processGroup : GroupDecl :=
  ((GroupDecl.new "process" ["sys/wait.h", "sys/resource.h", "stdlib.h"]).constants
    "EXIT_SUCCESS EXIT_FAILURE WNOHANG WUNTRACED PRIO_PROCESS PRIO_PGRP PRIO_USER RLIMIT_CPU
      RLIMIT_FSIZE RLIMIT_DATA RLIMIT_STACK RLIMIT_CORE RLIMIT_RSS RLIMIT_NPROC RLIMIT_NOFILE
      RLIMIT_MEMLOCK RLIMIT_AS RLIMIT_SBSIZE RLIMIT_RTPRIO RLIMIT_RTTIME RLIMIT_SIGPENDING
      RLIMIT_MSGQUEUE RLIMIT_NICE").constantsAs
    "RLIM_INFINITY RLIM_SAVED_MAX RLIM_SAVED_CUR" "%llu" "(unsigned long long)"

def signalGroup : GroupDecl :=
  (GroupDecl.new "signal" ["signal.h", "sys/signal.h"]).constants
    "SIGHUP SIGINT SIGQUIT SIGILL SIGTRAP SIGIOT SIGABRT SIGEMT SIGFPE SIGKILL SIGBUS SIGSEGV
      SIGSYS SIGPIPE SIGALRM SIGTERM SIGURG SIGSTOP SIGTSTP SIGCONT SIGCHLD SIGCLD SIGCHLD
      SIGTTIN SIGTTOU SIGIO SIGXCPU SIGXFSZ SIGVTALRM SIGPROF SIGWINCH SIGUSR1 SIGUSR2 SIGLOST
      SIGMSG SIGPWR SIGPOLL SIGDANGER SIGMIGRATE SIGPRE SIGGRANT SIGRETRACT SIGSOUND SIGINFO"

def dlopenGroup : GroupDecl :=
  (GroupDecl.new "dlopen" ["dlfcn.h"]).constants
    "RTLD_LAZY RTLD_NOW RTLD_LOCAL RTLD_GLOBAL"

/-! ## The catalog -/

/-- The catalog of a run for which none is given. -/
def builtin : Catalog where
  structs := builtinStructs
  groups := [errnoGroup, fileGroup, ioGroup, fcntlGroup, socketGroup, processGroup, signalGroup, dlopenGroup]
  typedefHeaders := ["stdint.h", "sys/types.h", "sys/socket.h", "sys/resource.h"]

end AbiProbe.Catalog
