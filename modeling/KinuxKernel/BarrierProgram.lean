import KinuxKernel.BarrierChildSteps

/-!
# The user program

All children of `main` in `user.c` work on the list of barriers at once.  When the
calls that read and change the list take it in turns, each child finds the barriers
it has created and no others, so the program ends, and it ends with every barrier
destroyed.
-/

namespace KinuxKernel

namespace BarrierSys

open TraceRun

section Program

variable {Address Process : Type*}

namespace Program

section Runs

variable [DecidableEq Address] [DecidableEq Process] {tgid : Process → Int}
  {timeout syncNum : Int} {program : Program Address Process}
  {place : Group Process → Address} {group : Group Process} {address : Address}
  {trace : List (ProgramEvent Address Process)}

/-- Runs of the program from a freshly booted kernel, without signals. -/
abbrev ProgramRun (tgid : Process → Int) (timeout syncNum : Int) :
    List (ProgramEvent Address Process) → Program Address Process → Prop :=
  Run (step tgid timeout syncNum) (each fun _ => True) forked

omit [DecidableEq Address] [DecidableEq Process] in
theorem Sound.forked (place : Group Process → Address) :
    (forked : Program Address Process).Sound tgid timeout syncNum place := by
  have noNodes : (Program.forked : Program Address Process).registry.nodes = [] := rfl
  have noLife : ∀ group, ¬ (Program.forked : Program Address Process).Lives group := fun group =>
    Bool.false_ne_true
  constructor
  case started => exact fun _ => rfl
  case listed => exact fun flag => absurd rfl flag
  case flagged => exact fun _ later => absurd rfl later
  case used => exact fun _ inUse => absurd rfl inUse
  case nodes =>
    intro address
    rw [noNodes]
    exact ⟨nofun, fun ⟨group, lives, _⟩ => absurd lives (noLife group)⟩
  case apart => exact fun group _ lives => absurd lives (noLife group)
  case hosted => exact fun group lives => absurd lives (noLife group)
  case calling => exact fun _ busy => absurd rfl busy
  case waiting => exact fun _ _ => ⟨rfl, rfl, rfl⟩
  case joined => exact fun _ joined => absurd joined Bool.false_ne_true
  case destroyed => exact fun _ => rfl

theorem ProgramRun.sound [Nonempty Address] (injective : Function.Injective tgid)
    (run : ProgramRun tgid timeout syncNum trace program) :
    ∃ place, program.Sound tgid timeout syncNum place := by
  induction run with
  | start => exact ⟨fun _ => Classical.arbitrary Address, Sound.forked _⟩
  | @next trace before after event _ _ stepTo ih =>
      obtain ⟨place, sound⟩ := ih
      cases event with
      | init group address contents => exact ⟨_, sound.init injective stepTo⟩
      | call worker => exact ⟨place, sound.call injective stepTo⟩
      | exec worker point => exact ⟨place, sound.exec stepTo⟩
      | block worker => exact ⟨place, sound.block stepTo⟩
      | expire address => exact ⟨place, sound.expire stepTo⟩
      | join process => exact ⟨place, sound.join stepTo⟩
      | destroy group => exact ⟨place, sound.destroy injective stepTo⟩

/-- While memory lasts a call of `barrier_init` goes through. -/
theorem barrierInit_isSome {Thread : Type*} {registry : Registry Address Thread}
    {contents : Barrier Thread} {count : BitVec 32} {tgid : Int}
    (listed : registry.firstFlag ≠ 0 → registry.barrierList.isSome)
    (free : registry.memory address = none) :
    (registry.barrierInit address contents count timeout tgid).isSome := by
  by_cases first : registry.firstFlag = 0
  · simp [Registry.barrierInit, first, Registry.countBarriers, Registry.initialiseGlobals,
      Registry.insertBarrier, free]
  · have list := listed first
    obtain ⟨nodes, same⟩ := Option.isSome_iff_exists.mp list
    simp [Registry.barrierInit, first, Registry.countBarriers, Registry.insertBarrier, free, same]

/-- When nothing is left to do, nothing is left to do for the threads of a barrier. -/
theorem Sound.local_over (sound : program.Sound tgid timeout syncNum place)
    (injective : Function.Injective tgid) (still : program.Over tgid timeout syncNum)
    (lives : program.Lives group) {barrier : Barrier (Fin group.2.threadCount)}
    (hosts : program.Hosts tgid timeout syncNum group (place group) barrier) :
    Workload.Over syncNum (program.workload group barrier) := by
  constructor
  · intro thread point
    rw [Option.eq_none_iff_forall_not_mem]
    intro after stepTo
    obtain ⟨moved, guard, -, -⟩ := Workload.step_spec stepTo
    obtain ⟨atPoint, result, executed, -⟩ := step_eq_some_iff.mp moved
    by_cases entry : point = .idle
    · have below := guard thread (by rw [entry])
      have refused := still (.call ⟨group, thread⟩) (by simp)
      have looked := sound.find injective lives
      rw [step, if_pos ⟨Stage.created_of_live lives, atPoint.trans entry, below⟩] at refused
      simp [Registry.waitLookup, looked] at refused
    · have busy : program.point ⟨group, thread⟩ ≠ .idle := by
        intro idle
        exact entry (atPoint.symm.trans idle)
      obtain ⟨-, pointer⟩ := sound.calling _ busy
      have target : program.target ⟨group, thread⟩ =
          some (place group, barrier.rename (Sigma.mk group)) := by
        simp [Program.target, pointer, hosts.1]
      have executed' : execute thread barrier point = some result := executed
      have refused := still (.exec ⟨group, thread⟩ point) (by simp)
      rw [step, if_pos ⟨entry, atPoint⟩, target, Option.bind_some,
        execute_rename barrier (name_injective group), executed'] at refused
      simp at refused
  · rw [Option.eq_none_iff_forall_not_mem]
    intro after stepTo
    obtain ⟨moved, -, -, -⟩ := Workload.step_spec stepTo
    have armed : barrier.hrTimer.isSome := (step_eq_some_iff.mp moved).1
    have refused := still (.expire (place group)) (by simp)
    simp [step, hosts.1, armed] at refused

/-- When nothing is left to do, all threads of a barrier that exists have left
their loops. -/
theorem Sound.over_left (sound : program.Sound tgid timeout syncNum place)
    (injective : Function.Injective tgid) (still : program.Over tgid timeout syncNum)
    (lives : program.Lives group) (thread : Fin group.2.threadCount) :
    program.point ⟨group, thread⟩ = .idle ∧ syncNum ≤ program.i ⟨group, thread⟩ := by
  obtain ⟨-, barrier, hosts⟩ := sound.hosted group lives
  have localStill := sound.local_over injective still lives hosts
  obtain ⟨-, memory, trace, run⟩ := hosts
  have idle : program.point ⟨group, thread⟩ = .idle := by
    rcases lt_or_ge 0 timeout with timed | untimed
    · exact localStill.all_idle_of_timed (several_threads group.2) timed run thread
    · exact localStill.all_idle (several_threads group.2) untimed (card_threads group.2) run thread
  exact ⟨idle, localStill.left_loop idle⟩

/-- When nothing is left to do, every child has ended. -/
theorem Sound.over_ended [Infinite Address] (sound : program.Sound tgid timeout syncNum place)
    (injective : Function.Injective tgid) (still : program.Over tgid timeout syncNum)
    (process : Process) : program.stage process = .exited := by
  cases atStage : program.stage process with
  | exited => rfl
  | init half =>
      obtain ⟨address, free⟩ := Infinite.exists_notMem_finset program.registry.nodes.toFinset
      have unused : program.registry.memory address = none := by
        by_contra inUse
        exact free (List.mem_toFinset.mpr (sound.used address inUse))
      have served : (program.registry.barrierInit address .zeroed
          (BitVec.ofNat 32 half.threadCount) timeout (tgid process)).isSome :=
        barrierInit_isSome sound.listed unused
      have refused := still (.init (process, half) address .zeroed) (by simp)
      rw [step, if_pos atStage, Option.map_eq_none_iff] at refused
      simp [refused] at served
  | join =>
      have refused := still (.join process) (by simp)
      have lives (half : Half) : program.Lives (process, half) := by
        rw [Lives, atStage]
        rfl
      have left (half : Half) := sound.over_left injective still (lives half)
      rw [step, if_pos ⟨atStage, left⟩] at refused
      exact absurd refused (Option.some_ne_none _)
  | destroy half =>
      have lives : program.Lives (process, half) := by
        rw [Lives, atStage]
        exact Stage.live_destroy half
      obtain ⟨-, barrier, hosts⟩ := sound.hosted _ lives
      have found := sound.find injective lives
      have refused := still (.destroy (process, half)) (by simp)
      simp [step, atStage, Registry.barrierDestroy, found, hosts.1] at refused

/-- The user program from boot, with any timeout and number of cycles, under every
schedule that runs each `barrier_init`, `barrier_destroy` and lookup of
`barrier_wait` without interruption: a thread inside `barrier_wait` always works on a
barrier of its own process that has not been freed, `barrier_destroy` never fails, and
when nothing is left to do every child has ended, its threads have completed all
their cycles, and no barrier is left. -/
theorem user_program_completes [Infinite Address] (injective : Function.Injective tgid)
    (run : ProgramRun tgid timeout syncNum trace program) :
    (∀ worker, program.point worker ≠ .idle →
      ∃ address barrier, program.barrier worker = some address ∧
        program.registry.memory address = some barrier ∧ barrier.tgid = tgid worker.1.1 ∧
          barrier.barrierId = program.mybarrier worker.1) ∧
    (∀ group code, program.destroyed group = some code → code = 0) ∧
    (program.Over tgid timeout syncNum →
      (∀ process, program.stage process = .exited ∧
        ∀ half, program.destroyed (process, half) = some 0) ∧
      (∀ worker, program.point worker = .idle ∧ program.i worker = syncNum.toNat) ∧
      program.registry.nodes = [] ∧ ∀ address, program.registry.memory address = none) := by
  obtain ⟨place, sound⟩ := ProgramRun.sound injective run
  refine ⟨fun worker busy => ?_, fun group code result => ?_, fun still => ?_⟩
  · obtain ⟨lives, pointer⟩ := sound.calling worker busy
    obtain ⟨id, barrier, hosts⟩ := sound.hosted _ lives
    exact ⟨_, _, pointer, hosts.1, hosts.key.1, hosts.key.2.trans id.symm⟩
  · rw [sound.destroyed] at result
    split at result
    · exact (Option.some.inj result).symm
    · exact absurd result.symm (Option.some_ne_none _)
  · have ended := sound.over_ended injective still
    have gone (group : Group Process) : ¬ program.Lives group := by
      rw [Lives, ended]
      exact Bool.false_ne_true
    have empty : program.registry.nodes = [] := by
      rw [List.eq_nil_iff_forall_not_mem]
      intro address listed
      obtain ⟨group, lives, -⟩ := (sound.nodes address).mp listed
      exact gone group lives
    refine ⟨fun process => ⟨ended process, fun half => ?_⟩, fun worker => ?_, empty,
      fun address => ?_⟩
    · rw [sound.destroyed, ended]
      rfl
    · exact sound.joined worker (by rw [ended]; rfl)
    · by_contra inUse
      simpa [empty] using sound.used address inUse

/-- The thread that a child creates first. -/
def leader (process : Process) : Worker Process :=
  ⟨(process, .first), ⟨0, Nat.succ_pos _⟩⟩

omit [DecidableEq Address] [DecidableEq Process] in
/-- Two children create barriers in turns; the threads of the second one wait on
its own barrier. -/
theorem user_program_completes_two :
    ∃ program : Program Nat (Fin 2),
      ProgramRun (fun process => process.val) 0 1
        [.call (leader 1), .init (1, .second) 3 .zeroed, .init (0, .second) 2 .zeroed,
          .init (1, .first) 1 .zeroed, .init (0, .first) 0 .zeroed] program ∧
      ∃ address barrier, program.barrier (leader 1) = some address ∧
        program.registry.memory address = some barrier ∧ barrier.tgid = 1 := by
  obtain ⟨program, replayed, busy⟩ : ∃ program ∈ replay
      (step (fun process : Fin 2 => process.val) 0 1) (forked : Program Nat (Fin 2))
      [.call (leader 1), .init (1, .second) 3 .zeroed, .init (0, .second) 2 .zeroed,
        .init (1, .first) 1 .zeroed, .init (0, .first) 0 .zeroed],
      program.point (leader 1) ≠ .idle := by decide +kernel
  have run : ProgramRun (fun process : Fin 2 => process.val) 0 1 _ program :=
    run_of_replay (fun _ _ => trivial) replayed
  have injective : Function.Injective fun process : Fin 2 => (process.val : Int) := by
    intro process other same
    exact Fin.ext (Int.ofNat.inj same)
  obtain ⟨address, barrier, pointer, block, own, -⟩ :=
    (user_program_completes injective run).1 _ busy
  exact ⟨program, run, address, barrier, pointer, block, own⟩

end Runs

end Program

end Program

end BarrierSys

end KinuxKernel
