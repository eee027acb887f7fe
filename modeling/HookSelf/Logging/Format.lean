import HookSelf.EventRing.Ring
import HookSelf.Syscalls

/-! The one-line text of an event (`hookself_format_event`). -/

namespace HookSelf.Logging

open EventRing

def bytes (text : String) : List UInt8 := text.toList.map fun letter => letter.toNat.toUInt8

/-- The bytes from a buffer's address on. -/
abbrev Memory := ℕ → UInt8

structure TextBuilder where
  output : Option Memory
  capacity : ℕ
  required : ℕ

namespace TextBuilder

def store (builder : TextBuilder) (index : ℕ) (value : UInt8) : TextBuilder :=
  { builder with output := builder.output.map fun memory => Function.update memory index value }

def init (output : Option Memory) (capacity : ℕ) : TextBuilder :=
  let builder : TextBuilder := ⟨output, capacity, 0⟩
  if capacity ≠ 0 then builder.store 0 0 else builder

def append (builder : TextBuilder) (value : UInt8) : TextBuilder :=
  let stored :=
    if builder.required + 1 < builder.capacity then builder.store builder.required value
    else builder
  { stored with required := builder.required + 1 }

def appendText (builder : TextBuilder) (text : List UInt8) : TextBuilder :=
  text.foldl append builder

def appendString (builder : TextBuilder) (value : String) : TextBuilder :=
  builder.appendText (bytes value)

def kDigits : List UInt8 := bytes "0123456789abcdef"

def digitAt (digit : ℕ) : UInt8 := kDigits.getD digit 0

/-- The digits of a number, the last one first; `room` is the size of the array they are put in. -/
def reversedDigits (base : ℕ) : ℕ → ℕ → List UInt8
  | 0, _ => []
  | room + 1, value =>
    digitAt (value % base) ::
      if value / base ≠ 0 then reversedDigits base room (value / base) else []

def unsignedText (value : UInt64) : List UInt8 := (reversedDigits 10 32 value.toNat).reverse

def appendUnsigned (builder : TextBuilder) (value : UInt64) : TextBuilder :=
  builder.appendText (unsignedText value)

def appendSigned (builder : TextBuilder) (value : Int64) : TextBuilder :=
  if value < 0 then (builder.appendString "-").appendUnsigned (0 - value.toUInt64)
  else builder.appendUnsigned value.toUInt64

def hexText (value : UInt64) : List UInt8 := (reversedDigits 16 16 value.toNat).reverse

def appendHex (builder : TextBuilder) (value : UInt64) : TextBuilder :=
  (builder.appendString "0x").appendText (hexText value)

def backslash : UInt8 := 92
def quote : UInt8 := 34

def escape (byte : UInt8) : List UInt8 :=
  if byte = backslash then [backslash, backslash]
  else if byte = quote then [backslash, quote]
  else if byte = 10 then bytes "\\n"
  else if byte = 13 then bytes "\\r"
  else if byte = 9 then bytes "\\t"
  else if 0x20 ≤ byte ∧ byte ≤ 0x7e then [byte]
  else bytes "\\x" ++ [digitAt (byte.toNat / 16), digitAt (byte.toNat % 16)]

def appendEscaped (builder : TextBuilder) : List UInt8 → ℕ → TextBuilder
  | [], _ => builder
  | _, 0 => builder
  | byte :: value, capacity + 1 =>
    if byte = 0 then builder
    else (builder.appendText (escape byte)).appendEscaped value capacity

def finish (builder : TextBuilder) : Option Memory × ℕ :=
  if builder.capacity ≠ 0 then
    let terminator :=
      if builder.required < builder.capacity then builder.required else builder.capacity - 1
    ((builder.store terminator 0).output, builder.required)
  else (builder.output, builder.required)

end TextBuilder

structure HookselfEvent where
  structSize : UInt32
  kind : UInt32
  sequence : UInt64
  monotonicTimeNs : Int64
  tgid : Int32
  tid : Int32
  syscallNumber : Int32
  phase : UInt32
  action : Int32
  error : Int32
  result : Int64
  arguments : Vector UInt64 6
  ruleId : UInt32
  flags : UInt32
  path : Vector UInt8 eventPathCapacity
  translatedPath : Vector UInt8 eventPathCapacity

def nameOf {κ : Type} [DecidableEq κ] (names : List (κ × String)) (fallback : String) (value : κ) :
    String :=
  (names.lookup value).getD fallback

def logError : Int32 := 1
def logWarn : Int32 := 2
def logInfo : Int32 := 3
def logDebug : Int32 := 4
def logTrace : Int32 := 5

def logLevelNames : List (Int32 × String) :=
  [(logError, "ERROR"), (logWarn, "WARN"), (logInfo, "INFO"), (logDebug, "DEBUG"),
    (logTrace, "TRACE")]

def logLevelName : Int32 → String := nameOf logLevelNames "OFF"

def eventLifecycle : UInt32 := 1
def eventSyscall : UInt32 := 2
def eventPath : UInt32 := 3
def eventSignal : UInt32 := 4
def eventProcess : UInt32 := 5
def eventInternalError : UInt32 := 6

def eventKindNames : List (UInt32 × String) :=
  [(eventLifecycle, "LIFECYCLE"), (eventSyscall, "SYSCALL"), (eventPath, "PATH"),
    (eventSignal, "SIGNAL"), (eventProcess, "PROCESS"), (eventInternalError, "INTERNAL_ERROR")]

def eventKindName : UInt32 → String := nameOf eventKindNames "UNKNOWN"

def phaseNames : List (UInt32 × String) := [(1, "ENTRY"), (2, "EXIT"), (3, "BOTH")]

def phaseName : UInt32 → String := nameOf phaseNames "NONE"

def syscallPass : Int32 := 0
def syscallObserve : Int32 := 1
def syscallDeny : Int32 := 2
def syscallReplaceResult : Int32 := 3
def syscallReplaceNumber : Int32 := 4
def syscallReplaceArgument : Int32 := 5

def syscallActionNames : List (Int32 × String) :=
  [(syscallPass, "PASS"), (syscallObserve, "OBSERVE"), (syscallDeny, "DENY"),
    (syscallReplaceResult, "REPLACE_RESULT"), (syscallReplaceNumber, "REPLACE_NUMBER"),
    (syscallReplaceArgument, "REPLACE_ARGUMENT")]

def syscallActionName : Int32 → String := nameOf syscallActionNames "UNKNOWN"

def pathDeny : Int32 := 2

def pathActionNames : List (Int32 × String) :=
  [(0, "PASS"), (1, "REDIRECT"), (pathDeny, "DENY"), (3, "VIRTUAL_FILE")]

def pathActionName : Int32 → String := nameOf pathActionNames "UNKNOWN"

def stateFatal : Int32 := 8

def runtimeStateNames : List (Int32 × String) :=
  [(0, "IDLE"), (1, "CONFIGURED"), (2, "STARTING"), (3, "RUNNING_FULL_PTRACE"),
    (4, "INSTALLING_FILTER"), (5, "RUNNING_SELECTIVE"), (6, "STOPPING"), (7, "STOPPED"),
    (stateFatal, "FATAL")]

def runtimeStateName : Int32 → String := nameOf runtimeStateNames "UNKNOWN"

def eventActionName (event : HookselfEvent) : String :=
  if event.kind = eventSyscall then syscallActionName event.action
  else if event.kind = eventPath then pathActionName event.action
  else if event.kind = eventLifecycle then runtimeStateName event.action
  else "VALUE"

def syscallNames : List (ℤ × String) :=
  [(Nr.read, "read"), (Nr.write, "write"), (Nr.readv, "readv"), (Nr.writev, "writev"),
    (Nr.pread64, "pread64"), (Nr.pwrite64, "pwrite64"), (Nr.preadv, "preadv"),
    (Nr.pwritev, "pwritev"), (Nr.preadv2, "preadv2"), (Nr.pwritev2, "pwritev2"),
    (Nr.openat, "openat"), (Nr.openat2, "openat2"), (Nr.close, "close"),
    (Nr.closeRange, "close_range"), (Nr.lseek, "lseek"), (Nr.ftruncate, "ftruncate"),
    (Nr.fsync, "fsync"), (Nr.fdatasync, "fdatasync"), (Nr.syncfs, "syncfs"),
    (Nr.sendfile, "sendfile"), (Nr.copyFileRange, "copy_file_range"), (Nr.splice, "splice"),
    (Nr.tee, "tee"), (Nr.vmsplice, "vmsplice"), (Nr.fstat, "fstat"),
    (Nr.newfstatat, "newfstatat"), (Nr.statx, "statx"), (Nr.faccessat, "faccessat"),
    (Nr.faccessat2, "faccessat2"), (Nr.readlinkat, "readlinkat"), (Nr.unlinkat, "unlinkat"),
    (Nr.mkdirat, "mkdirat"), (Nr.mknodat, "mknodat"), (Nr.fchmodat, "fchmodat"),
    (Nr.fchownat, "fchownat"), (Nr.renameat, "renameat"), (Nr.renameat2, "renameat2"),
    (Nr.linkat, "linkat"), (Nr.symlinkat, "symlinkat"), (Nr.getdents64, "getdents64"),
    (Nr.getxattr, "getxattr"), (Nr.lgetxattr, "lgetxattr"), (Nr.fgetxattr, "fgetxattr"),
    (Nr.setxattr, "setxattr"), (Nr.lsetxattr, "lsetxattr"), (Nr.fsetxattr, "fsetxattr"),
    (Nr.listxattr, "listxattr"), (Nr.llistxattr, "llistxattr"), (Nr.flistxattr, "flistxattr"),
    (Nr.removexattr, "removexattr"), (Nr.mount, "mount"), (Nr.umount2, "umount2"),
    (Nr.pivotRoot, "pivot_root"), (Nr.chroot, "chroot"), (Nr.openTree, "open_tree"),
    (Nr.moveMount, "move_mount"), (Nr.mountSetattr, "mount_setattr"), (Nr.chdir, "chdir"),
    (Nr.fchdir, "fchdir"), (Nr.execve, "execve"), (Nr.execveat, "execveat"), (Nr.clone, "clone"),
    (Nr.clone3, "clone3"), (Nr.wait4, "wait4"), (Nr.setTidAddress, "set_tid_address"),
    (Nr.setRobustList, "set_robust_list"), (Nr.getRobustList, "get_robust_list"),
    (Nr.rseq, "rseq"), (Nr.exit, "exit"), (Nr.exitGroup, "exit_group"), (Nr.getpid, "getpid"),
    (Nr.gettid, "gettid"), (Nr.getppid, "getppid"), (Nr.getuid, "getuid"),
    (Nr.geteuid, "geteuid"), (Nr.getgid, "getgid"), (Nr.getegid, "getegid"),
    (Nr.tgkill, "tgkill"), (Nr.kill, "kill"), (Nr.ptrace, "ptrace"), (Nr.prctl, "prctl"),
    (Nr.seccomp, "seccomp"), (Nr.futex, "futex"), (Nr.futexWaitv, "futex_waitv"),
    (Nr.rtSigaction, "rt_sigaction"), (Nr.rtSigprocmask, "rt_sigprocmask"),
    (Nr.rtSigreturn, "rt_sigreturn"), (Nr.sigaltstack, "sigaltstack"), (Nr.mmap, "mmap"),
    (Nr.mprotect, "mprotect"), (Nr.munmap, "munmap"), (Nr.madvise, "madvise"),
    (Nr.mremap, "mremap"), (Nr.memfdCreate, "memfd_create"), (Nr.brk, "brk"), (Nr.ioctl, "ioctl"),
    (Nr.fcntl, "fcntl"), (Nr.dup, "dup"), (Nr.dup3, "dup3"), (Nr.pipe2, "pipe2"),
    (Nr.eventfd2, "eventfd2"), (Nr.epollCreate1, "epoll_create1"), (Nr.epollCtl, "epoll_ctl"),
    (Nr.epollPwait, "epoll_pwait"), (Nr.epollPwait2, "epoll_pwait2"),
    (Nr.timerfdCreate, "timerfd_create"), (Nr.timerfdSettime, "timerfd_settime"),
    (Nr.timerfdGettime, "timerfd_gettime"), (Nr.socket, "socket"), (Nr.connect, "connect"),
    (Nr.bind, "bind"), (Nr.listen, "listen"), (Nr.accept, "accept"), (Nr.accept4, "accept4"),
    (Nr.socketpair, "socketpair"), (Nr.shutdown, "shutdown"), (Nr.getsockname, "getsockname"),
    (Nr.getpeername, "getpeername"), (Nr.setsockopt, "setsockopt"), (Nr.getsockopt, "getsockopt"),
    (Nr.sendto, "sendto"), (Nr.recvfrom, "recvfrom"), (Nr.sendmsg, "sendmsg"),
    (Nr.recvmsg, "recvmsg"), (Nr.sendmmsg, "sendmmsg"), (Nr.recvmmsg, "recvmmsg"),
    (Nr.clockGettime, "clock_gettime"), (Nr.clockNanosleep, "clock_nanosleep"),
    (Nr.nanosleep, "nanosleep"), (Nr.gettimeofday, "gettimeofday"), (Nr.getrandom, "getrandom"),
    (Nr.prlimit64, "prlimit64"), (Nr.schedYield, "sched_yield"),
    (Nr.schedGetaffinity, "sched_getaffinity"), (Nr.schedSetaffinity, "sched_setaffinity"),
    (Nr.uname, "uname"), (Nr.sysinfo, "sysinfo"), (Nr.processVmReadv, "process_vm_readv"),
    (Nr.processVmWritev, "process_vm_writev")]
def hookselfSyscallName (syscallNumber : Int32) : String :=
  nameOf syscallNames "unknown" syscallNumber.toInt

def eventValid (event : HookselfEvent) : Bool := sizeofEvent ≤ event.structSize.toNat

def hookselfOk : Int32 := 0
def hookselfEInvalidArgument : Int32 := -10001

def hookselfEventLogLevel (event : HookselfEvent) : Int32 :=
  if ¬eventValid event then hookselfEInvalidArgument
  else if event.kind = eventInternalError then logError
  else if event.kind = eventSignal then logWarn
  else if event.kind = eventLifecycle then
    if event.action = stateFatal then logError else logInfo
  else if event.kind = eventProcess then logInfo
  else if event.kind = eventPath then
    if event.action = pathDeny then logWarn else logDebug
  else if event.kind = eventSyscall then
    if event.action = syscallDeny then logWarn
    else if event.action = syscallObserve ∨ event.action = syscallPass then logTrace
    else logDebug
  else logDebug

def appendArguments (builder : TextBuilder) (first : UInt64) (rest : List UInt64) : TextBuilder :=
  rest.foldl (fun builder argument => (builder.appendString ",").appendHex argument)
    (builder.appendHex first)

def appendFields (builder : TextBuilder) (event : HookselfEvent) : TextBuilder :=
  builder
    |>.appendString "level=" |>.appendString (logLevelName (hookselfEventLogLevel event))
    |>.appendString " kind=" |>.appendString (eventKindName event.kind)
    |>.appendString " seq=" |>.appendUnsigned event.sequence
    |>.appendString " time_ns=" |>.appendSigned event.monotonicTimeNs
    |>.appendString " tgid=" |>.appendSigned event.tgid.toInt64
    |>.appendString " tid=" |>.appendSigned event.tid.toInt64
    |>.appendString " syscall=" |>.appendString (hookselfSyscallName event.syscallNumber)
    |>.appendString "(" |>.appendSigned event.syscallNumber.toInt64
    |>.appendString ") phase=" |>.appendString (phaseName event.phase)
    |>.appendString " action=" |>.appendString (eventActionName event)
    |>.appendString "(" |>.appendSigned event.action.toInt64
    |>.appendString ") result=" |>.appendSigned event.result
    |>.appendString " error=" |>.appendSigned event.error.toInt64
    |>.appendString " rule=" |>.appendUnsigned event.ruleId.toUInt64
    |>.appendString " flags=" |>.appendHex event.flags.toUInt64

def appendPath (builder : TextBuilder) (field : String) (path : Vector UInt8 eventPathCapacity) :
    TextBuilder :=
  if path.toList.headD 0 ≠ 0 then
    ((builder.appendString field).appendEscaped path.toList eventPathCapacity).appendString "\""
  else builder

def appendTruncated (builder : TextBuilder) (mark : String)
    (path : Vector UInt8 eventPathCapacity) : TextBuilder :=
  if path.toList.headD 0 ≠ 0 then builder.appendString mark else builder

def appendFormattedEvent (builder : TextBuilder) (event : HookselfEvent) (includePaths : Bool) :
    TextBuilder :=
  let builder := appendFields builder event
  let builder :=
    if event.kind = eventSyscall then
      (appendArguments (builder.appendString " args=[") event.arguments[0]
        event.arguments.toList.tail).appendString "]"
    else builder
  if includePaths then
    appendPath (appendPath builder " path=\"" event.path) " translated=\"" event.translatedPath
  else
    appendTruncated (appendTruncated builder " path_truncated=true" event.path)
      " translated_path_truncated=true" event.translatedPath

def appendMinimal (builder : TextBuilder) (event : HookselfEvent) : TextBuilder :=
  builder
    |>.appendString "level=" |>.appendString (logLevelName (hookselfEventLogLevel event))
    |>.appendString " kind=" |>.appendString (eventKindName event.kind)
    |>.appendString " truncated=true"

def hookselfFormatEvent (event : Option HookselfEvent) (message : Option Memory) (capacity : ℕ)
    (requiredSize : Option ℕ) : Int32 × Option Memory × Option ℕ :=
  match event with
  | none => (hookselfEInvalidArgument, message, requiredSize)
  | some event =>
    if ¬eventValid event ∨ (message = none ∧ capacity ≠ 0) ∨ requiredSize = none then
      (hookselfEInvalidArgument, message, requiredSize)
    else
      let (full, fullRequired) :=
        (appendFormattedEvent (.init message capacity) event true).finish
      if message ≠ none ∧ capacity ≠ 0 ∧ capacity ≤ fullRequired then
        let (compact, compactRequired) :=
          (appendFormattedEvent (.init full capacity) event false).finish
        if capacity ≤ compactRequired then
          let (minimal, _) := (appendMinimal (.init compact capacity) event).finish
          (hookselfOk, minimal, some fullRequired)
        else (hookselfOk, compact, some fullRequired)
      else (hookselfOk, full, some fullRequired)

end HookSelf.Logging
