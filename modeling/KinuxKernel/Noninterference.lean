import Mathlib.Data.List.Basic

/-!
# Noninterference by local views

A server answers the requests of several domains, one at a time and with free
choices of its own.  If each request of a domain is answered as by a
deterministic machine on the domain's view of the state, and the requests of
the other domains leave the view alone, then the replies to a domain and its
final view depend only on its own requests.
-/

namespace KinuxKernel

namespace Noninterference

variable {State Domain Request Reply View : Type*}

/-- A finite sequence of requests, oldest first, with the replies. -/
inductive Serves (served : State → Domain → Request → Reply → State → Prop) :
    State → List (Domain × Request) → List (Domain × Reply) → State → Prop
  | nil (start : State) : Serves served start [] [] start
  | cons {start middle final : State} {domain : Domain} {request : Request} {reply : Reply}
      {requests : List (Domain × Request)} {replies : List (Domain × Reply)} :
      served start domain request reply middle → Serves served middle requests replies final →
      Serves served start ((domain, request) :: requests) ((domain, reply) :: replies) final

/-- The part of a sequence that belongs to a domain. -/
def own {Item : Type*} [DecidableEq Domain] (domain : Domain) (items : List (Domain × Item)) :
    List (Domain × Item) :=
  items.filter fun item => item.1 = domain

section Own

variable {Item : Type*} [DecidableEq Domain] (domain : Domain) (item : Item)
  (items : List (Domain × Item))

@[simp]
theorem own_cons_self : own domain ((domain, item) :: items) = (domain, item) :: own domain items :=
  List.filter_cons_of_pos (by simp)

@[simp]
theorem own_cons_other {other : Domain} (different : other ≠ domain) :
    own domain ((other, item) :: items) = own domain items :=
  List.filter_cons_of_neg (by simpa using different)

@[simp]
theorem own_own : own domain (own domain items) = own domain items := by
  simp [own]

theorem mem_own {entry : Domain × Item} (member : entry ∈ own domain items) : entry.1 = domain := by
  simpa using (List.mem_filter.mp member).2

end Own

/-- A deterministic machine as a server. -/
def Answers (machine : Domain → View → Request → Option (Reply × View)) :
    View → Domain → Request → Reply → View → Prop :=
  fun view domain request reply after => machine domain view request = some (reply, after)

/-- Every domain is served on its own view. -/
structure Local (served : State → Domain → Request → Reply → State → Prop)
    (legal : State → Prop) (view : Domain → State → View)
    (machine : Domain → View → Request → Option (Reply × View)) : Prop where
  preserved : ∀ {start domain request reply after}, legal start →
    served start domain request reply after → legal after
  answered : ∀ {start domain request reply after}, legal start →
    served start domain request reply after →
    machine domain (view domain start) request = some (reply, view domain after)
  unseen : ∀ {start other domain request reply after}, legal start →
    served start other request reply after → other ≠ domain →
    view domain after = view domain start

variable {served : State → Domain → Request → Reply → State → Prop} {legal : State → Prop}
  {view : Domain → State → View} {machine : Domain → View → Request → Option (Reply × View)}

theorem Serves.keeps {start final : State} {requests : List (Domain × Request)}
    {replies : List (Domain × Reply)} (isLocal : Local served legal view machine)
    (initially : legal start) (run : Serves served start requests replies final) :
    legal final := by
  induction run with
  | nil => exact initially
  | cons step _ ih => exact ih (isLocal.preserved initially step)

/-- A sequence of requests of one domain has replies of this domain. -/
theorem Serves.own_replies [DecidableEq Domain] {start final : State}
    {requests : List (Domain × Request)} {replies : List (Domain × Reply)} {domain : Domain}
    (run : Serves served start requests replies final)
    (only : ∀ item ∈ requests, item.1 = domain) : own domain replies = replies := by
  induction run with
  | nil => rfl
  | @cons _ _ _ other request _ requests _ _ _ ih =>
      obtain rfl : other = domain := only (other, request) (List.mem_cons_self ..)
      rw [own_cons_self, ih fun item member => only item (List.mem_cons_of_mem _ member)]

theorem Serves.mono {weaker : State → Domain → Request → Reply → State → Prop}
    (weakens : ∀ {start domain request reply after}, served start domain request reply after →
      weaker start domain request reply after)
    {start final : State} {requests : List (Domain × Request)} {replies : List (Domain × Reply)}
    (run : Serves served start requests replies final) :
    Serves weaker start requests replies final := by
  induction run with
  | nil => exact .nil _
  | cons step _ ih => exact .cons (weakens step) ih

theorem Serves.append {start middle final : State} {first second : List (Domain × Request)}
    {replies otherReplies : List (Domain × Reply)} (run : Serves served start first replies middle)
    (continued : Serves served middle second otherReplies final) :
    Serves served start (first ++ second) (replies ++ otherReplies) final := by
  induction run with
  | nil => exact continued
  | cons step _ ih => exact .cons step (ih continued)

/-- What a domain sees of a run is a run of its machine. -/
theorem Serves.project [DecidableEq Domain] {start final : State}
    {requests : List (Domain × Request)} {replies : List (Domain × Reply)}
    (isLocal : Local served legal view machine) (initially : legal start)
    (run : Serves served start requests replies final) (domain : Domain) :
    Serves (Answers machine) (view domain start) (own domain requests) (own domain replies)
      (view domain final) := by
  induction run with
  | nil => exact .nil _
  | @cons start middle final other request reply requests replies step rest ih =>
      have projected := ih (isLocal.preserved initially step)
      by_cases same : other = domain
      · subst same
        rw [own_cons_self, own_cons_self]
        exact .cons (isLocal.answered initially step) projected
      · rw [own_cons_other _ _ _ same, own_cons_other _ _ _ same,
          ← isLocal.unseen initially step same]
        exact projected

/-- A machine gives one run for each sequence of requests. -/
theorem Serves.deterministic {start first second : View} {requests : List (Domain × Request)}
    {replies others : List (Domain × Reply)}
    (run : Serves (Answers machine) start requests replies first)
    (again : Serves (Answers machine) start requests others second) :
    replies = others ∧ first = second := by
  induction run generalizing others with
  | nil =>
      cases again with
      | nil => exact ⟨rfl, rfl⟩
  | cons step _ ih =>
      cases again with
      | cons otherStep rest =>
          obtain ⟨rfl, rfl⟩ := Prod.mk.inj (Option.some.inj (step.symm.trans otherStep))
          obtain ⟨rfl, rfl⟩ := ih rest
          exact ⟨rfl, rfl⟩

/-- Two runs from states that look the same to a domain, with the same requests
of this domain, give it the same replies and end in the same view. -/
theorem Local.noninterference [DecidableEq Domain] (isLocal : Local served legal view machine)
    {start other final otherFinal : State} {requests otherRequests : List (Domain × Request)}
    {replies otherReplies : List (Domain × Reply)} {domain : Domain}
    (initially : legal start) (otherwise : legal other)
    (alike : view domain start = view domain other)
    (run : Serves served start requests replies final)
    (otherRun : Serves served other otherRequests otherReplies otherFinal)
    (same : own domain requests = own domain otherRequests) :
    own domain replies = own domain otherReplies ∧ view domain final = view domain otherFinal := by
  have projected := run.project isLocal initially domain
  have otherProjected := otherRun.project isLocal otherwise domain
  rw [alike, same] at projected
  exact projected.deterministic otherProjected

/-- A run of the machine is the view of a run of the server, if the server can
always make the machine's next step. -/
theorem Serves.realise {able : State → Prop} {domain : Domain}
    (isLocal : Local served able view machine)
    (serves : ∀ {start request reply after}, able start →
      machine domain (view domain start) request = some (reply, after) →
      ∃ middle, served start domain request reply middle)
    {start : State} {requests : List (Domain × Request)} {replies : List (Domain × Reply)}
    {after : View} (initially : able start) (only : ∀ item ∈ requests, item.1 = domain)
    (run : Serves (Answers machine) (view domain start) requests replies after) :
    ∃ final, Serves served start requests replies final := by
  induction requests generalizing start replies with
  | nil =>
      cases run with
      | nil => exact ⟨start, .nil _⟩
  | cons item requests ih =>
      cases run with
      | @cons _ middleView _ other request reply _ replies step rest =>
          obtain rfl : other = domain := only _ (List.mem_cons_self ..)
          obtain ⟨middle, served⟩ := serves initially step
          obtain ⟨-, rfl⟩ := Prod.mk.inj
            (Option.some.inj ((isLocal.answered initially served).symm.trans step))
          obtain ⟨final, continued⟩ := ih (isLocal.preserved initially served)
            (fun item member => only item (List.mem_cons_of_mem _ member)) rest
          exact ⟨final, .cons served continued⟩

/-- Runs of all machines can be interleaved to a run of the server. -/
theorem Serves.combine [DecidableEq Domain] {able : State → Prop}
    (isLocal : Local served able view machine)
    (serves : ∀ {start domain request reply after}, able start →
      machine domain (view domain start) request = some (reply, after) →
      ∃ middle, served start domain request reply middle)
    {start : State} {requests : List (Domain × Request)} (initially : able start)
    (runs : ∀ domain, ∃ replies after, Serves (Answers machine) (view domain start)
      (own domain requests) replies after) :
    ∃ replies final, Serves served start requests replies final := by
  induction requests generalizing start with
  | nil => exact ⟨[], start, .nil _⟩
  | cons item requests ih =>
      obtain ⟨domain, request⟩ := item
      obtain ⟨replies, after, run⟩ := runs domain
      rw [own_cons_self] at run
      cases run with
      | cons step rest =>
          obtain ⟨middle, answered⟩ := serves initially step
          obtain ⟨-, rfl⟩ := Prod.mk.inj
            (Option.some.inj ((isLocal.answered initially answered).symm.trans step))
          have continues : ∀ other, ∃ replies after, Serves (Answers machine)
              (view other middle) (own other requests) replies after := by
            intro other
            by_cases same : domain = other
            · subst same
              exact ⟨_, _, rest⟩
            · have otherRun := runs other
              rwa [own_cons_other _ _ _ same, ← isLocal.unseen initially answered same]
                at otherRun
          obtain ⟨others, final, continued⟩ :=
            ih (isLocal.preserved initially answered) continues
          exact ⟨_, final, .cons answered continued⟩

/-- Where a server restricted to some steps has a run, an unrestricted one that takes
the same requests in a state that looks the same takes the same steps. -/
theorem Serves.restrict {unrestricted : State → Domain → Request → Reply → State → Prop}
    (isLocal : Local served legal view machine)
    (restrict : ∀ {start other domain request reply otherReply after otherAfter},
      legal start → legal other → view domain start = view domain other →
      served start domain request reply after →
      unrestricted other domain request otherReply otherAfter →
      served other domain request otherReply otherAfter)
    {start other final otherFinal : State} {requests : List (Domain × Request)}
    {replies otherReplies : List (Domain × Reply)} (initially : legal start)
    (otherwise : legal other) (alike : ∀ domain, view domain start = view domain other)
    (run : Serves served start requests replies final)
    (otherRun : Serves unrestricted other requests otherReplies otherFinal) :
    Serves served other requests otherReplies otherFinal := by
  induction run generalizing other otherReplies with
  | nil =>
      cases otherRun with
      | nil => exact .nil _
  | @cons start middle _ domain _ _ _ _ step _ ih =>
      cases otherRun with
      | @cons _ otherMiddle _ _ _ _ _ _ otherStep rest =>
          have taken := restrict initially otherwise (alike domain) step otherStep
          have answered := isLocal.answered initially step
          rw [alike domain, isLocal.answered otherwise taken] at answered
          have sameView := (Prod.mk.inj (Option.some.inj answered)).2
          refine .cons taken (ih (isLocal.preserved initially step)
            (isLocal.preserved otherwise taken) (fun another => ?_) rest)
          by_cases same : domain = another
          · exact same ▸ sameView.symm
          · rw [isLocal.unseen initially step same, isLocal.unseen otherwise taken same,
              alike another]

end Noninterference

end KinuxKernel
