import HookSelf.CloseRange.Coverage
import HookSelf.CloseRange.Replay
import HookSelf.CloseRange.ReplayLaws
import HookSelf.Collections.Alignment
import HookSelf.Collections.BestSlot
import HookSelf.Collections.BitField
import HookSelf.Collections.Buffer
import HookSelf.Collections.Compaction
import HookSelf.Collections.Components
import HookSelf.Collections.Fallible
import HookSelf.Collections.Flags
import HookSelf.Collections.Fnv
import HookSelf.Collections.Gaps
import HookSelf.Collections.Handles
import HookSelf.Collections.KeyedTable
import HookSelf.Collections.Lines
import HookSelf.Collections.LinkChain
import HookSelf.Collections.LittleEndian
import HookSelf.Collections.Mailbox
import HookSelf.Collections.Overwrite
import HookSelf.Collections.Postcondition
import HookSelf.Collections.PrefixCode
import HookSelf.Collections.Refinement
import HookSelf.Collections.ReleaseAcquire
import HookSelf.Collections.Script
import HookSelf.Collections.Selection
import HookSelf.Collections.SlotTable
import HookSelf.Collections.SortedSearch
import HookSelf.Collections.Stateful
import HookSelf.Collections.Swaps
import HookSelf.Config.Types
import HookSelf.Config.Validate
import HookSelf.ElfHook.Memory
import HookSelf.ElfHook.MemoryLaws
import HookSelf.ElfHook.Transaction
import HookSelf.ElfHook.Types
import HookSelf.Errno
import HookSelf.EventRing.Delivery
import HookSelf.EventRing.Invariant
import HookSelf.EventRing.Machine
import HookSelf.EventRing.PushSteps
import HookSelf.EventRing.ReadSteps
import HookSelf.EventRing.Ring
import HookSelf.Framework.Calls
import HookSelf.Framework.Control
import HookSelf.Framework.Destroy
import HookSelf.Framework.Lifetime
import HookSelf.Framework.Registry
import HookSelf.Framework.RuleCalls
import HookSelf.InlineHook.Arm64Encoding
import HookSelf.InlineHook.CodePageLaws
import HookSelf.InlineHook.EncodingLaws
import HookSelf.InlineHook.NearPage
import HookSelf.InlineHook.NearPageLaws
import HookSelf.InlineHook.Registry
import HookSelf.InlineHook.RegistryLaws
import HookSelf.InlineHook.Relocator
import HookSelf.InlineHook.RelocatorLaws
import HookSelf.InlineHook.Runs
import HookSelf.Limits
import HookSelf.Logging.Format
import HookSelf.Logging.FormatLaws
import HookSelf.LogicalPtrace.Calls
import HookSelf.LogicalPtrace.Checks
import HookSelf.LogicalPtrace.Delivery
import HookSelf.LogicalPtrace.Invariant
import HookSelf.LogicalPtrace.Operations
import HookSelf.LogicalPtrace.ProcessLaws
import HookSelf.LogicalPtrace.Queue
import HookSelf.LogicalPtrace.RekeyLaws
import HookSelf.LogicalPtrace.RelationLaws
import HookSelf.LogicalPtrace.Runs
import HookSelf.LogicalPtrace.Table
import HookSelf.LogicalPtrace.Validate
import HookSelf.LogicalPtrace.Waits
import HookSelf.LogicalPtrace.Writes
import HookSelf.PathResolver.Lexical
import HookSelf.PathResolver.Normalize
import HookSelf.PathResolver.NormalizeLaws
import HookSelf.PathState.CharPtr
import HookSelf.PathState.PathLaws
import HookSelf.ProcText.Fields
import HookSelf.ProcVirtual.Complete
import HookSelf.ProcVirtual.DirentLaws
import HookSelf.ProcVirtual.Dirents
import HookSelf.ProcVirtual.Dispatch
import HookSelf.ProcVirtual.Io
import HookSelf.ProcVirtual.Listing
import HookSelf.ProcVirtual.ListingLaws
import HookSelf.ProcVirtual.Overlays
import HookSelf.ProcVirtual.Path
import HookSelf.ProcVirtual.PendingLaws
import HookSelf.ProcVirtual.Reading
import HookSelf.ProcVirtual.ReadingLaws
import HookSelf.ProcVirtual.Resident
import HookSelf.ProcVirtual.Text
import HookSelf.ProcVirtual.TextLaws
import HookSelf.ProcVirtual.View
import HookSelf.ProcVirtual.Xattr
import HookSelf.PtraceDispatch.CallLaws
import HookSelf.PtraceDispatch.Calls
import HookSelf.PtraceDispatch.Host
import HookSelf.PtraceDispatch.Invariant
import HookSelf.PtraceDispatch.OperationLaws
import HookSelf.PtraceDispatch.Publish
import HookSelf.PtraceDispatch.RekeyLaws
import HookSelf.PtraceDispatch.RequestLaws
import HookSelf.PtraceDispatch.Requests
import HookSelf.PtraceDispatch.Runs
import HookSelf.PtraceDispatch.State
import HookSelf.PtraceDispatch.StopLaws
import HookSelf.PtraceDispatch.StopWrites
import HookSelf.PtraceDispatch.TableEffects
import HookSelf.PtraceDispatch.WaitLaws
import HookSelf.RawSyscall
import HookSelf.RemoteSyscall.Invoke
import HookSelf.RemoteSyscall.InvokeLaws
import HookSelf.RemoteSyscall.Restore
import HookSelf.ResidentSession.Host
import HookSelf.ResidentSession.Start
import HookSelf.ResidentSession.StartLaws
import HookSelf.ResidentSession.Undo
import HookSelf.RuleBank.Bank
import HookSelf.RuleBank.Decode
import HookSelf.RuleBank.Image
import HookSelf.RuleBank.ImageLaws
import HookSelf.RuleBank.PathRules
import HookSelf.RuleBank.Publications
import HookSelf.RuleBank.Publish
import HookSelf.RuleBank.Session
import HookSelf.RuleBank.SessionLaws
import HookSelf.Seccomp.Cbpf
import HookSelf.Seccomp.Filter
import HookSelf.Seccomp.Plan
import HookSelf.Syscalls
import HookSelf.Tracer.TaskTable
import HookSelf.VirtualFiles.Provider
