import UbqGateway.Library.Schedule
import UbqGateway.Kernel.Guarantee

/-!
# The kernel quota as a service

Any number of clients run the operations of the kernel quota against one store that is empty at
first.  `kernelReachable_run` reduces the interleaved system to its history: every commit is a
`KernelStep` of the store it is made on.  The lemmas after it say what a step does to one row and to
one window; the results about the service are derived from these.
-/

namespace UbqGateway.Kernel

/-- The clients of the kernel quota and their store. -/
abbrev KernelSystem := System KvKey KernelValue KernelCommit (Except String KernelReply)

/-- The program of an operation that looks at `fuel` entries of a listing. -/
def kernelProgram (run : ℕ × KernelOperation) :
    Prog KvKey KernelValue KernelCommit (Except String KernelReply) :=
  (run.2.invoke run.1).run

/-- The systems that the clients can reach; `clockOk` relates the time to what a clock may show. -/
def KernelReachable (clockOk : ℤ → ℤ → Prop) (sys : KernelSystem) : Prop :=
  Reachable clockOk (Set.range kernelProgram) Kv.empty sys

/-- **The history of the interleaved service is a sequence of steps.** -/
theorem kernelReachable_run (h : KernelReachable clockOk sys) : KernelRun clockOk sys.world := by
  refine Reachable.run (I := (· = Kv.empty)) rfl ?_ h
  rintro _ ⟨⟨fuel, operation⟩, rfl⟩ w -
  exact KernelOperation.invoke_wp fuel operation w

/-- The system before anything has happened. -/
def initialSystem : KernelSystem := ⟨⟨Kv.empty, [], 0⟩, []⟩

def afterSchedule (actions : List (Action (ℕ × KernelOperation))) : KernelSystem :=
  initialSystem.runAll kernelProgram actions

theorem afterSchedule_reachable (hclk : ∀ t, clockOk t t)
    (actions : List (Action (ℕ × KernelOperation))) :
    KernelReachable clockOk (afterSchedule actions) := by
  refine System.runAll_reachable (P := fun _ => True) (fun t _ => hclk t)
    (fun i => Set.mem_range_self i) actions (fun action _ => ?_) _ trivial (.start 0)
  cases action <;> trivial

end UbqGateway.Kernel
