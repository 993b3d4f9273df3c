import KinuxKernel.BarrierCalls

/-!
# Looking up unknown barriers

What `barrier_wait` and `barrier_destroy` return for an id that the calling
process has no barrier for.  Both refuse it once `INIT_LIST_HEAD` has been
executed.  Before the first `barrier_init` both follow the null pointer in the
list head.
-/

namespace KinuxKernel

namespace BarrierSys

open TraceRun

variable {Address Thread : Type*}

namespace Registry

variable (registry : Registry Address Thread) (tgid : Int) (barrierId : BitVec 32)

/-- The part of `barrier_wait` under `wait_lock`.  The call goes on with the
barrier it finds, or returns an error. -/
def waitLookup : Option (Registry Address Thread × Except Int Address) :=
  (registry.findBarrier tgid barrierId).map fun found =>
    match found with
    | none => (registry, .error (-EINVAL))
    | some address => (registry, .ok address)

/-- The list holds no barrier of the process with this id. -/
def Unknown : Prop :=
  ∀ address ∈ registry.nodes, registry.handle address ≠ some (tgid, barrierId)

/-- Both calls return `-EINVAL` and change nothing. -/
def Refuses [DecidableEq Address] : Prop :=
  registry.waitLookup tgid barrierId = some (registry, .error (-EINVAL)) ∧
    registry.barrierDestroy barrierId tgid = some (registry, -EINVAL)

variable {registry tgid barrierId}

theorem find_unknown (unknown : registry.Unknown tgid barrierId) {list : List Address}
    (listed : registry.barrierList = some list) :
    registry.findBarrier tgid barrierId = some none := by
  have missed : list.find? (fun address =>
      registry.handle address = some (tgid, barrierId)) = none := by
    apply List.find?_eq_none.mpr
    intro address member
    have member : address ∈ registry.nodes := by simpa [nodes, listed] using member
    simpa using unknown address member
  simp [findBarrier, listed, missed]

/-- An unknown id is refused in a registry exactly when its list head has been
initialised. -/
theorem refuses_iff [DecidableEq Address] (unknown : registry.Unknown tgid barrierId) :
    registry.Refuses tgid barrierId ↔ registry.barrierList.isSome := by
  cases listed : registry.barrierList with
  | none => simp [Refuses, waitLookup, findBarrier, listed]
  | some list =>
      have found := find_unknown unknown listed
      simp [Refuses, waitLookup, barrierDestroy, found]

end Registry

section Histories

variable [DecidableEq Address] {registry after : Registry Address Thread}
  {call : Call Address Thread} {trace : List (Call Address Thread)}

def Call.IsInit : Call Address Thread → Prop
  | .init .. => True
  | .destroy .. | .wait .. => False

omit [DecidableEq Address] in
theorem Registry.Inserted.listed {address : Address} {tgid : Int} {barrierId : BitVec 32}
    (inserted : registry.Inserted address tgid barrierId after) :
    after.barrierList.isSome = true := by
  have nodes := inserted.nodes
  cases listed : after.barrierList with
  | none => simp [Registry.nodes, listed] at nodes
  | some list => rfl

theorem serve_listed (served : serve registry call = some after) :
    after.barrierList.isSome ↔ call.IsInit ∨ registry.barrierList.isSome := by
  cases call with
  | init tgid address contents count timeout barrierId =>
      obtain ⟨numBarriers, -, inserted⟩ := Option.bind_eq_some_iff.mp (serve_init served)
      obtain ⟨-, put, -⟩ := Registry.insert_spec inserted
      simp [Call.IsInit, put.listed]
  | destroy tgid barrierId code =>
      rcases Registry.destroy_spec (serve_destroy served) with
        ⟨-, address, -, -, rfl⟩ | ⟨-, rfl⟩
      · simp [Call.IsInit, Registry.removeBarrier]
      · simp [Call.IsInit]
  | wait address written =>
      obtain ⟨barrier, -, -, -, rfl⟩ := serve_wait served
      simp [Call.IsInit, Registry.writeBarrier]

/-- The list head is initialised by the first `barrier_init` and stays so. -/
theorem CallRun.listed_iff (run : CallRun trace registry) :
    registry.barrierList.isSome ↔ ∃ call ∈ trace, call.IsInit := by
  induction run with
  | start => simp [Registry.boot]
  | next _ _ served ih => rw [serve_listed served, ih, List.exists_mem_cons_iff]

/-- After any history of calls an unknown id is refused exactly when the history
contains a `barrier_init`. -/
theorem unknown_ids_refused_iff (run : CallRun trace registry) {tgid : Int}
    {barrierId : BitVec 32} (unknown : registry.Unknown tgid barrierId) :
    registry.Refuses tgid barrierId ↔ ∃ call ∈ trace, call.IsInit := by
  rw [Registry.refuses_iff unknown, CallRun.listed_iff run]

end Histories

/-- The first call after boot follows the null pointer. -/
theorem unknown_id_faults :
    (Registry.boot : Registry Nat Unit).Unknown 7 1 ∧
      (Registry.boot : Registry Nat Unit).waitLookup 7 1 = none ∧
      (Registry.boot : Registry Nat Unit).barrierDestroy 1 7 = none := by
  refine ⟨?_, rfl, rfl⟩
  intro address listed
  simp [Registry.nodes, Registry.boot] at listed

theorem unknown_id_refused :
    ∃ registry, CallRun [(.init 7 0 .zeroed 5 0 1 : Call Nat Unit)] registry ∧
      registry.Refuses 8 1 := by
  obtain ⟨registry, run⟩ : ∃ registry,
      CallRun [(.init 7 0 .zeroed 5 0 1 : Call Nat Unit)] registry :=
    exists_run_of_replay (fun _ _ => trivial) (by decide +kernel)
  have unknown : registry.Unknown 8 1 := by
    have handles : (replay serve Registry.boot [(.init 7 0 .zeroed 5 0 1 : Call Nat Unit)]).map
        (fun registry => decide (some (8, 1#32) ∉ registry.nodes.map registry.handle)) =
          some true := by decide +kernel
    rw [run.replay_eq] at handles
    intro address listed known
    have absent := of_decide_eq_true (Option.some.inj handles)
    exact absent (List.mem_map.mpr ⟨address, listed, known⟩)
  exact ⟨registry, run, (unknown_ids_refused_iff run unknown).mpr ⟨_, List.mem_singleton_self _,
    trivial⟩⟩

section Steps

variable [DecidableEq Address] [DecidableEq Thread] {tgid : Thread → Int}
  {system : CallSystem Address Thread}

/-- Statement by statement: a lookup cannot start on a list head that was never
initialised. -/
theorem lookup_faults_iff {thread : Thread} {call : Syscall} {barrierId : BitVec 32} :
    executeCall (tgid thread) thread system.kernel (.next call barrierId none) = none ↔
      system.kernel.registry.barrierList = none := by
  simp [executeCall, Registry.listNext]

/-- Statement by statement: a call that nobody disturbs refuses an unknown id. -/
theorem CallsRun.refuse {start : CallSystem Address Thread}
    {trace : List (CallEvent Address Thread)} (run : CallsRun tgid start trace system)
    (thread : Thread) (idle : system.point thread = .idle) (call : Syscall)
    (free : system.kernel.mutex call = none) {barrierId : BitVec 32}
    (unknown : system.kernel.registry.Unknown (tgid thread) barrierId)
    (refuses : system.kernel.registry.Refuses (tgid thread) barrierId) :
    ∃ trace, CallsRun tgid start trace
      ⟨system.kernel, Function.update system.point thread (.ret (-EINVAL))⟩ := by
  obtain ⟨list, listed⟩ := Option.isSome_iff_exists.mp ((Registry.refuses_iff unknown).mp refuses)
  obtain ⟨_, reached⟩ := run.find thread idle call free (Registry.find_unknown unknown listed)
  have missed : CallsRun tgid start _ ⟨system.kernel.setMutex (some thread) call,
      Function.update system.point thread (.unlock call (-EINVAL))⟩ :=
    reached.onward rfl
  have kernel : (system.kernel.setMutex (some thread) call).setMutex none call =
      system.kernel := by
    cases call <;> simp [Kernel.setMutex, ← free, Kernel.mutex]
  have unlocked := missed.onward rfl
  rw [kernel] at unlocked
  exact ⟨_, unlocked⟩

end Steps

end BarrierSys

end KinuxKernel
