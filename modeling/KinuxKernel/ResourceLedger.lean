import Mathlib.Data.List.Count

/-!
# Ledgers of claimed resources

A ledger lists the successful requests and the frees of resources, newest
first, together with other effects.  Which resources are held is a function of
the ledger.  In a proper ledger nothing is requested while it is held or freed
while it is not, so each request has at most one free.
-/

namespace KinuxKernel

namespace ResourceLedger

variable {Resource Effect : Type*}

inductive Action (Resource Effect : Type*) where
  | request (resource : Resource)
  | free (resource : Resource)
  | effect (effect : Effect)
deriving DecidableEq

variable [DecidableEq Resource]

/-- The resource is requested and not freed afterwards. -/
def holds : List (Action Resource Effect) → Resource → Bool
  | [], _ => false
  | .request requested :: ledger, resource => resource = requested || holds ledger resource
  | .free freed :: ledger, resource => resource ≠ freed && holds ledger resource
  | .effect _ :: ledger, resource => holds ledger resource

/-- Nothing is requested while it is held, or freed while it is not. -/
def Proper : List (Action Resource Effect) → Prop
  | [] => True
  | .request requested :: ledger => holds ledger requested = false ∧ Proper ledger
  | .free freed :: ledger => holds ledger freed = true ∧ Proper ledger
  | .effect _ :: ledger => Proper ledger

section Basics

variable (ledger : List (Action Resource Effect)) (resource other : Resource) (effect : Effect)

@[simp]
theorem holds_nil : holds ([] : List (Action Resource Effect)) resource = false :=
  rfl

@[simp]
theorem holds_request :
    holds (.request other :: ledger) resource =
      (decide (resource = other) || holds ledger resource) :=
  rfl

@[simp]
theorem holds_free :
    holds (.free other :: ledger) resource =
      (decide (resource ≠ other) && holds ledger resource) :=
  rfl

@[simp]
theorem holds_effect : holds (.effect effect :: ledger) resource = holds ledger resource :=
  rfl

@[simp]
theorem proper_nil : Proper ([] : List (Action Resource Effect)) :=
  trivial

@[simp]
theorem proper_request :
    Proper (.request other :: ledger) ↔ holds ledger other = false ∧ Proper ledger :=
  Iff.rfl

@[simp]
theorem proper_free :
    Proper (.free other :: ledger) ↔ holds ledger other = true ∧ Proper ledger :=
  Iff.rfl

@[simp]
theorem proper_effect : Proper (.effect effect :: ledger) ↔ Proper ledger :=
  Iff.rfl

end Basics

variable {ledger : List (Action Resource Effect)} {resource : Resource}

/-- Frees pair off with requests, except for what is still held. -/
theorem Proper.balance [DecidableEq Effect] (proper : Proper ledger) (resource : Resource) :
    ledger.count (.request resource) =
      ledger.count (.free resource) + (holds ledger resource).toNat := by
  induction ledger with
  | nil => rfl
  | cons action ledger ih =>
      cases action with
      | request requested =>
          obtain ⟨free, proper⟩ := proper
          have balance := ih proper
          by_cases same : resource = requested
          · subst same
            simp [free] at balance ⊢
            exact balance
          · have different : Action.request requested ≠ (.request resource : Action _ Effect) :=
              fun equal => same (Action.request.inj equal).symm
            simpa [different, same] using balance
      | free freed =>
          obtain ⟨held, proper⟩ := proper
          have balance := ih proper
          by_cases same : resource = freed
          · subst same
            simpa [held] using balance
          · have different : Action.free freed ≠ (.free resource : Action _ Effect) :=
              fun equal => same (Action.free.inj equal).symm
            simpa [different, same] using balance
      | effect effect => simpa using ih proper

/-- Every request has its free, and nothing else has been freed. -/
structure Released [DecidableEq Effect] (ledger : List (Action Resource Effect)) : Prop where
  onlyHeld : Proper ledger
  once : ∀ resource, ledger.count (.free resource) = ledger.count (.request resource)
  available : ∀ resource, holds ledger resource = false

theorem released_iff [DecidableEq Effect] :
    Released ledger ↔ Proper ledger ∧ ∀ resource, holds ledger resource = false := by
  constructor
  · exact fun released => ⟨released.onlyHeld, released.available⟩
  · rintro ⟨proper, free⟩
    refine ⟨proper, fun resource => ?_, free⟩
    have balance := proper.balance resource
    rw [free resource] at balance
    exact balance.symm

/-- Request a list of resources one by one, up to the first that is refused. -/
def requestAll (grant : List (Action Resource Effect) → Resource → Bool)
    (ledger : List (Action Resource Effect)) : List Resource → List (Action Resource Effect) × Bool
  | [] => (ledger, true)
  | resource :: rest =>
      if grant ledger resource then requestAll grant (.request resource :: ledger) rest
      else (ledger, false)

/-- Every request of a list is granted after those before it. -/
def GrantsAll (grant : List (Action Resource Effect) → Resource → Bool)
    (ledger : List (Action Resource Effect)) : List Resource → Prop
  | [] => True
  | resource :: rest =>
      grant ledger resource = true ∧ GrantsAll grant (.request resource :: ledger) rest

def freeAll (ledger : List (Action Resource Effect)) : List Resource → List (Action Resource Effect)
  | [] => ledger
  | resource :: rest => freeAll (.free resource :: ledger) rest

/-- Requests are granted for what is neither held nor in use elsewhere. -/
def grantFree (inUse : Resource → Bool) (ledger : List (Action Resource Effect))
    (resource : Resource) : Bool :=
  !inUse resource && !holds ledger resource

/-- Nothing is granted while it is held. -/
def GrantsUnheld (grant : List (Action Resource Effect) → Resource → Bool) : Prop :=
  ∀ ledger resource, grant ledger resource = true → holds ledger resource = false

theorem grantsUnheld_grantFree (inUse : Resource → Bool) :
    GrantsUnheld (grantFree inUse : List (Action Resource Effect) → Resource → Bool) := by
  intro ledger resource granted
  simp only [grantFree, Bool.and_eq_true, Bool.not_eq_true'] at granted
  exact granted.2

section Lists

variable {inUse : Resource → Bool} {resources : List Resource}

section Granted

variable {grant : List (Action Resource Effect) → Resource → Bool}

omit [DecidableEq Resource] in
theorem requestAll_eq_true :
    (requestAll grant ledger resources).2 = true ↔ GrantsAll grant ledger resources := by
  induction resources generalizing ledger with
  | nil => simp [requestAll, GrantsAll]
  | cons head rest ih =>
      rw [requestAll, GrantsAll]
      split
      · next granted => rw [ih, granted, eq_self, true_and]
      · next refused => simp [refused]

theorem holds_requestAll (held : holds ledger resource = true) :
    holds (requestAll grant ledger resources).1 resource = true := by
  induction resources generalizing ledger with
  | nil => exact held
  | cons head rest ih =>
      rw [requestAll]
      split
      · apply ih
        rw [holds_request, held, Bool.or_true]
      · exact held

theorem GrantsAll.holds_iff (granted : GrantsAll grant ledger resources) :
    holds (requestAll grant ledger resources).1 resource = true ↔
      resource ∈ resources ∨ holds ledger resource = true := by
  induction resources generalizing ledger with
  | nil => simp [requestAll]
  | cons head rest ih =>
      rw [requestAll, if_pos granted.1, ih granted.2]
      simp only [holds_request, Bool.or_eq_true, decide_eq_true_eq, List.mem_cons]
      tauto

/-- What has been granted as a whole is held. -/
theorem GrantsAll.holds (granted : GrantsAll grant ledger resources)
    (member : resource ∈ resources) :
    holds (requestAll grant ledger resources).1 resource = true :=
  granted.holds_iff.mpr (.inl member)

theorem GrantsAll.proper (exclusive : GrantsUnheld grant)
    (granted : GrantsAll grant ledger resources) (proper : Proper ledger) :
    Proper (requestAll grant ledger resources).1 := by
  induction resources generalizing ledger with
  | nil => exact proper
  | cons head rest ih =>
      rw [requestAll, if_pos granted.1]
      exact ih granted.2 ⟨exclusive ledger head granted.1, proper⟩

/-- Requests up to the first that is refused are proper. -/
theorem proper_requestAll (exclusive : GrantsUnheld grant) (proper : Proper ledger) :
    Proper (requestAll grant ledger resources).1 := by
  induction resources generalizing ledger with
  | nil => exact proper
  | cons head rest ih =>
      rw [requestAll]
      split
      · next granted => exact ih ⟨exclusive ledger head granted, proper⟩
      · exact proper

/-- If nothing is granted while it is held, what has been granted as a whole was free. -/
theorem grantsAll_fresh (exclusive : GrantsUnheld grant)
    (granted : GrantsAll grant ledger resources) :
    resources.Nodup ∧ ∀ resource ∈ resources, holds ledger resource = false := by
  induction resources generalizing ledger with
  | nil => simp
  | cons head rest ih =>
      obtain ⟨distinct, free⟩ := ih granted.2
      simp only [holds_request, Bool.or_eq_false_iff, decide_eq_false_iff_not] at free
      constructor
      · exact List.nodup_cons.mpr ⟨fun again => (free head again).1 rfl, distinct⟩
      · intro resource member
        rcases List.mem_cons.mp member with rfl | later
        · exact exclusive ledger resource granted.1
        · exact (free resource later).2

end Granted

/-- A list of free resources is granted as a whole. -/
theorem grantsAll_free (distinct : resources.Nodup)
    (unused : ∀ resource ∈ resources, inUse resource = false)
    (free : ∀ resource ∈ resources, holds ledger resource = false) :
    GrantsAll (grantFree inUse) ledger resources := by
  induction resources generalizing ledger with
  | nil => trivial
  | cons head rest ih =>
      obtain ⟨absent, distinct⟩ := List.nodup_cons.mp distinct
      obtain ⟨headUnused, restUnused⟩ := List.forall_mem_cons.mp unused
      obtain ⟨headFree, restFree⟩ := List.forall_mem_cons.mp free
      refine ⟨by simp [grantFree, headUnused, headFree], ih distinct restUnused ?_⟩
      intro resource member
      have different : resource ≠ head := fun same => absent (same ▸ member)
      simp [different, restFree resource member]

theorem requestAll_free (distinct : resources.Nodup)
    (unused : ∀ resource ∈ resources, inUse resource = false)
    (free : ∀ resource ∈ resources, holds ledger resource = false) (proper : Proper ledger) :
    (requestAll (grantFree inUse) ledger resources).2 = true ∧
      Proper (requestAll (grantFree inUse) ledger resources).1 ∧
      ∀ resource, holds (requestAll (grantFree inUse) ledger resources).1 resource = true ↔
        resource ∈ resources ∨ holds ledger resource = true := by
  have granted := grantsAll_free distinct unused free
  exact ⟨requestAll_eq_true.mpr granted, granted.proper (grantsUnheld_grantFree inUse) proper,
    fun _ => granted.holds_iff⟩

/-- What is in use elsewhere is not claimed by a list of requests. -/
theorem unused_of_requestAll
    (held : holds (requestAll (grantFree inUse) ledger resources).1 resource = true) :
    inUse resource = false ∨ holds ledger resource = true := by
  induction resources generalizing ledger with
  | nil => exact .inr held
  | cons head rest ih =>
      rw [requestAll] at held
      split at held
      · next granted =>
          rcases ih held with unused | before
          · exact .inl unused
          · rw [holds_request, Bool.or_eq_true, decide_eq_true_eq] at before
            rcases before with rfl | before
            · simp only [grantFree, Bool.and_eq_true, Bool.not_eq_true'] at granted
              exact .inl granted.1
            · exact .inr before
      · exact .inr held

/-- A list that starts with a held resource is refused at once. -/
theorem requestAll_held {head : Resource} (held : holds ledger head = true) :
    requestAll (grantFree inUse) ledger (head :: resources) = (ledger, false) := by
  simp [requestAll, grantFree, held]

theorem holds_freeAll (resource : Resource) :
    holds (freeAll ledger resources) resource = true ↔
      resource ∉ resources ∧ holds ledger resource = true := by
  induction resources generalizing ledger with
  | nil => simp [freeAll]
  | cons head rest ih =>
      rw [freeAll, ih]
      simp only [holds_free, Bool.and_eq_true, decide_eq_true_eq, List.mem_cons, not_or]
      tauto

theorem Proper.of_freeAll (proper : Proper (freeAll ledger resources)) : Proper ledger := by
  induction resources generalizing ledger with
  | nil => exact proper
  | cons head rest ih => exact (ih proper).2

/-- Freeing a list is proper exactly when all of it is held, each resource
once. -/
theorem proper_freeAll (distinct : resources.Nodup) :
    Proper (freeAll ledger resources) ↔
      (∀ resource ∈ resources, holds ledger resource = true) ∧ Proper ledger := by
  induction resources generalizing ledger with
  | nil => simp [freeAll]
  | cons head rest ih =>
      obtain ⟨absent, distinct⟩ := List.nodup_cons.mp distinct
      rw [freeAll, ih distinct, List.forall_mem_cons]
      have others : (∀ resource ∈ rest, holds (.free head :: ledger) resource = true) ↔
          ∀ resource ∈ rest, holds ledger resource = true := by
        refine forall₂_congr fun resource member => ?_
        have different : resource ≠ head := fun same => absent (same ▸ member)
        simp [different]
      rw [others, proper_free]
      tauto

/-- A list with a repeated resource cannot be freed. -/
theorem Proper.nodup_of_freeAll (proper : Proper (freeAll ledger resources)) :
    resources.Nodup := by
  induction resources generalizing ledger with
  | nil => exact List.nodup_nil
  | cons head rest ih =>
      refine List.nodup_cons.mpr ⟨fun again => ?_, ih proper⟩
      have held := ((proper_freeAll (ih proper)).mp proper).1 head again
      simp at held

theorem Proper.of_requestAll {grant : List (Action Resource Effect) → Resource → Bool}
    (proper : Proper (requestAll grant ledger resources).1) : Proper ledger := by
  induction resources generalizing ledger with
  | nil => exact proper
  | cons head rest ih =>
      rw [requestAll] at proper
      split at proper
      · exact (ih proper).2
      · exact proper

end Lists

section Undoing

variable [DecidableEq Effect]

/-- How often something has been done between two states of a ledger. -/
def timesSince (before after : List (Action Resource Effect)) (action : Action Resource Effect) :
    Nat :=
  after.count action - before.count action

/-- After `claimed`, what had been requested until then has been freed, each resource once,
and nothing else; so the resources held are those of `before`. -/
structure Undoes (before claimed after : List (Action Resource Effect)) : Prop where
  freed : ∀ resource, timesSince claimed after (.free resource) =
    if 0 < timesSince before claimed (.request resource) then 1 else 0
  back : ∀ resource, holds after resource = holds before resource

/-- What has been done to a ledger amounts to requests of these resources. -/
structure Claims (before after : List (Action Resource Effect)) (resources : List Resource) :
    Prop where
  requested : ∀ resource,
    after.count (.request resource) = before.count (.request resource) + resources.count resource
  held : ∀ resource,
    holds after resource = true ↔ resource ∈ resources ∨ holds before resource = true

/-- What has been done to a ledger amounts to frees of these resources. -/
structure Frees (before after : List (Action Resource Effect)) (resources : List Resource) :
    Prop where
  freed : ∀ resource,
    after.count (.free resource) = before.count (.free resource) + resources.count resource
  held : ∀ resource,
    holds after resource = true ↔ resource ∉ resources ∧ holds before resource = true

variable {before middle after : List (Action Resource Effect)} {requested freed : List Resource}
  {grant : List (Action Resource Effect) → Resource → Bool}

theorem Claims.trans (first : Claims before middle requested) {others : List Resource}
    (second : Claims middle after others) : Claims before after (requested ++ others) := by
  constructor
  · intro resource
    rw [second.requested, first.requested, List.count_append, Nat.add_assoc]
  · intro resource
    rw [second.held, first.held, List.mem_append]
    tauto

theorem Frees.trans (first : Frees before middle freed) {others : List Resource}
    (second : Frees middle after others) : Frees before after (freed ++ others) := by
  constructor
  · intro resource
    rw [second.freed, first.freed, List.count_append, Nat.add_assoc]
  · intro resource
    rw [second.held, first.held, List.mem_append]
    tauto

theorem frees_effect (effect : Effect) : Frees ledger (.effect effect :: ledger) [] := by
  constructor
  · intro resource
    simp
  · intro resource
    simp

theorem frees_freeAll (resources : List Resource) :
    Frees ledger (freeAll ledger resources) resources := by
  constructor
  · intro resource
    induction resources generalizing ledger with
    | nil => simp [freeAll]
    | cons head rest ih =>
        rw [freeAll, ih, List.count_cons, List.count_cons]
        simp only [beq_iff_eq, Action.free.injEq]
        omega
  · exact holds_freeAll

theorem GrantsAll.claims {resources : List Resource}
    (granted : GrantsAll grant ledger resources) :
    Claims ledger (requestAll grant ledger resources).1 resources := by
  refine ⟨fun resource => ?_, fun resource => granted.holds_iff⟩
  induction resources generalizing ledger with
  | nil => simp [requestAll]
  | cons head rest ih =>
      rw [requestAll, if_pos granted.1, ih granted.2, List.count_cons, List.count_cons]
      simp only [beq_iff_eq, Action.request.injEq]
      omega

/-- Frees undo claims of free resources if and only if they free what has been claimed, in
any order. -/
theorem Claims.undoes_iff (claims : Claims before middle requested)
    (frees : Frees middle after freed) (distinct : requested.Nodup)
    (fresh : ∀ resource ∈ requested, holds before resource = false) :
    Undoes before middle after ↔ freed.Perm requested := by
  have times (resource : Resource) : timesSince middle after (.free resource) =
      freed.count resource := by
    rw [timesSince, frees.freed]
    omega
  have once (resource : Resource) :
      (if 0 < timesSince before middle (.request resource) then 1 else 0) =
        requested.count resource := by
    have few := List.nodup_iff_count.mp distinct resource
    rw [timesSince, claims.requested]
    split <;> omega
  rw [List.perm_iff_count]
  constructor
  · intro undoes resource
    rw [← times, ← once, undoes.freed]
  · intro same
    refine ⟨fun resource => by rw [times, once, same], fun resource => ?_⟩
    have members := (List.perm_iff_count.mpr same).mem_iff (a := resource)
    rw [Bool.eq_iff_iff, frees.held, claims.held, members]
    by_cases member : resource ∈ requested
    · simp [member, fresh resource member]
    · simp [member]

end Undoing

end ResourceLedger

end KinuxKernel
