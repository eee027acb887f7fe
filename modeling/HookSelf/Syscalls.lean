import Mathlib

namespace HookSelf.Nr

def setxattr : Int := 5
def lsetxattr : Int := 6
def fsetxattr : Int := 7
def getxattr : Int := 8
def lgetxattr : Int := 9
def fgetxattr : Int := 10
def listxattr : Int := 11
def llistxattr : Int := 12
def flistxattr : Int := 13
def removexattr : Int := 14
def getcwd : Int := 17
def eventfd2 : Int := 19
def epollCreate1 : Int := 20
def epollCtl : Int := 21
def epollPwait : Int := 22
def dup : Int := 23
def dup3 : Int := 24
def fcntl : Int := 25
def ioctl : Int := 29
def mknodat : Int := 33
def mkdirat : Int := 34
def unlinkat : Int := 35
def symlinkat : Int := 36
def linkat : Int := 37
def renameat : Int := 38
def umount2 : Int := 39
def mount : Int := 40
def pivotRoot : Int := 41
def ftruncate : Int := 46
def faccessat : Int := 48
def chdir : Int := 49
def fchdir : Int := 50
def chroot : Int := 51
def fchmodat : Int := 53
def fchownat : Int := 54
def openat : Int := 56
def close : Int := 57
def pipe2 : Int := 59
def getdents64 : Int := 61
def lseek : Int := 62
def read : Int := 63
def write : Int := 64
def readv : Int := 65
def writev : Int := 66
def pread64 : Int := 67
def pwrite64 : Int := 68
def preadv : Int := 69
def pwritev : Int := 70
def sendfile : Int := 71
def vmsplice : Int := 75
def splice : Int := 76
def tee : Int := 77
def readlinkat : Int := 78
def newfstatat : Int := 79
def fstat : Int := 80
def fsync : Int := 82
def fdatasync : Int := 83
def timerfdCreate : Int := 85
def timerfdSettime : Int := 86
def timerfdGettime : Int := 87
def utimensat : Int := 88
def exit : Int := 93
def exitGroup : Int := 94
def waitid : Int := 95
def setTidAddress : Int := 96
def unshare : Int := 97
def futex : Int := 98
def setRobustList : Int := 99
def getRobustList : Int := 100
def nanosleep : Int := 101
def clockGettime : Int := 113
def clockNanosleep : Int := 115
def ptrace : Int := 117
def schedSetaffinity : Int := 122
def schedGetaffinity : Int := 123
def schedYield : Int := 124
def kill : Int := 129
def tgkill : Int := 131
def sigaltstack : Int := 132
def rtSigaction : Int := 134
def rtSigprocmask : Int := 135
def rtSigreturn : Int := 139
def uname : Int := 160
def prctl : Int := 167
def gettimeofday : Int := 169
def getpid : Int := 172
def getppid : Int := 173
def getuid : Int := 174
def geteuid : Int := 175
def getgid : Int := 176
def getegid : Int := 177
def gettid : Int := 178
def sysinfo : Int := 179
def socket : Int := 198
def socketpair : Int := 199
def bind : Int := 200
def listen : Int := 201
def accept : Int := 202
def connect : Int := 203
def getsockname : Int := 204
def getpeername : Int := 205
def sendto : Int := 206
def recvfrom : Int := 207
def setsockopt : Int := 208
def getsockopt : Int := 209
def shutdown : Int := 210
def sendmsg : Int := 211
def recvmsg : Int := 212
def brk : Int := 214
def munmap : Int := 215
def mremap : Int := 216
def clone : Int := 220
def execve : Int := 221
def mmap : Int := 222
def mprotect : Int := 226
def madvise : Int := 233
def accept4 : Int := 242
def recvmmsg : Int := 243
def wait4 : Int := 260
def prlimit64 : Int := 261
def syncfs : Int := 267
def sendmmsg : Int := 269
def processVmReadv : Int := 270
def processVmWritev : Int := 271
def renameat2 : Int := 276
def seccomp : Int := 277
def getrandom : Int := 278
def memfdCreate : Int := 279
def execveat : Int := 281
def copyFileRange : Int := 285
def preadv2 : Int := 286
def pwritev2 : Int := 287
def statx : Int := 291
def rseq : Int := 293
def openTree : Int := 428
def moveMount : Int := 429
def clone3 : Int := 435
def closeRange : Int := 436
def openat2 : Int := 437
def faccessat2 : Int := 439
def epollPwait2 : Int := 441
def mountSetattr : Int := 442
def futexWaitv : Int := 449

end HookSelf.Nr
