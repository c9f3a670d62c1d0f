import RelayFeeds.Feed.Services

/-! # Scripts — the calls that a session makes, and where they are cut short

A script lists steps in order: calls to services and nodes that are refused. Making it calls one
service after another until a call fails or a refused node comes next, and that is where it is cut.
A session follows a script when, after any earlier calls, it makes the calls that the script makes
and ends in an error exactly when the script is cut.

* **`perform_eq_error_iff`**, **`perform_eq_none_iff`** — making a script in terms of where it is cut.
* **`Follows.bind`** — what follows one another follows the scripts one after another.
* **`follows_askEvents`**, **`follows_askProvider`** — asking follows the script of one call. -/

namespace RelayFeeds

/-- A step of a script. -/
inductive Step where
  /-- A call to make. -/
  | call (call : Call)
  /-- A node that is refused, by its type tag. -/
  | refuse (tag : String)
  deriving DecidableEq

namespace Services

variable (services : Services)

/-- The error of a call that fails, given the calls made before; the clock never fails. -/
def failure? (earlier : List Call) : Call → Option FeedError
  | .clock => none
  | .request asked =>
    match services.request earlier asked with
    | .ok _ => none
    | .error failure => some (.serviceFailed .request failure)
  | .provider asked =>
    match services.provider earlier asked with
    | .ok _ => none
    | .error failure => some (.serviceFailed .provider failure)

/-- Calls made one after another, after some earlier ones, all succeed. -/
def Succeed (earlier made : List Call) : Prop :=
  ∀ before call after, made = before ++ call :: after →
    services.failure? (earlier ++ before) call = none

/-- Where a script is cut short, after some earlier calls: the calls made and the error. -/
inductive Cut (earlier : List Call) (script : List Step) : List Call → FeedError → Prop where
  /-- Right after its first failing call, with the error of that call. -/
  | failing {before : List Call} {call : Call} {after : List Step} {error : FeedError}
      (split : script = before.map Step.call ++ .call call :: after)
      (succeed : services.Succeed earlier before)
      (fails : services.failure? (earlier ++ before) call = some error) :
      Cut earlier script (before ++ [call]) error
  /-- Just before its first refused node, whose type is not supported. -/
  | refused {before : List Call} {tag : String} {after : List Step}
      (split : script = before.map Step.call ++ .refuse tag :: after)
      (succeed : services.Succeed earlier before) :
      Cut earlier script before (.unsupportedFeedType tag)

/-- Makes a script after some earlier calls: the calls made, and the error that cut them short. -/
def perform (earlier : List Call) : List Step → List Call × Option FeedError
  | [] => ([], none)
  | .refuse tag :: _ => ([], some (.unsupportedFeedType tag))
  | .call call :: rest =>
    match services.failure? earlier call with
    | some error => ([call], some error)
    | none =>
      let others := perform (earlier ++ [call]) rest
      (call :: others.1, others.2)

variable {services} {earlier made : List Call} {error : FeedError}

/-! ### Where a script is cut -/

/-- No calls succeed. -/
@[simp] theorem succeed_nil : services.Succeed earlier [] := by
  intro before call after h
  simp at h

/-- Calls succeed when the first does and the rest do after it. -/
theorem succeed_cons {call : Call} {rest : List Call} :
    services.Succeed earlier (call :: rest) ↔
      services.failure? earlier call = none ∧ services.Succeed (earlier ++ [call]) rest := by
  constructor
  · intro h
    constructor
    · have hfirst := h [] call rest rfl
      rwa [List.append_nil] at hfirst
    · rintro before later after rfl
      have hlater := h (call :: before) later after rfl
      rwa [← List.append_cons]
  · rintro ⟨hcall, hrest⟩ before later after hsplit
    cases before with
    | nil =>
      cases hsplit
      rwa [List.append_nil]
    | cons first before =>
      cases hsplit
      rw [List.append_cons]
      exact hrest before later after rfl

/-- A script without steps is not cut. -/
theorem not_cut_nil : ¬ services.Cut earlier [] made error := by
  intro h
  cases h with
  | failing split _ _ => simp at split
  | refused split _ => simp at split

/-- A script is cut at a refused node before any call. -/
theorem cut_refuse {tag : String} {rest : List Step} :
    services.Cut earlier (.refuse tag :: rest) made error ↔
      made = [] ∧ error = .unsupportedFeedType tag := by
  constructor
  · intro h
    cases h with
    | @failing before _ _ _ split _ _ => cases before <;> simp at split
    | refused split _ =>
      cases made with
      | nil =>
        cases split
        exact ⟨rfl, rfl⟩
      | cons first before => simp at split
  · rintro ⟨rfl, rfl⟩
    exact @Cut.refused services earlier _ [] tag rest rfl succeed_nil

/-- A script is cut at its first call if that fails, and else where the rest is cut. -/
theorem cut_call {call : Call} {rest : List Step} :
    services.Cut earlier (.call call :: rest) made error ↔
      (services.failure? earlier call = some error ∧ made = [call]) ∨
        services.failure? earlier call = none ∧
          ∃ later, made = call :: later ∧ services.Cut (earlier ++ [call]) rest later error := by
  constructor
  · intro h
    cases h with
    | @failing before _ _ _ split succeed fails =>
      cases before with
      | nil =>
        cases split
        rw [List.append_nil] at fails
        exact Or.inl ⟨fails, rfl⟩
      | cons first before =>
        cases split
        obtain ⟨hfirst, hbefore⟩ := succeed_cons.mp succeed
        rw [List.append_cons] at fails
        exact Or.inr ⟨hfirst, _, rfl, .failing rfl hbefore fails⟩
    | refused split succeed =>
      cases made with
      | nil => simp at split
      | cons first before =>
        cases split
        obtain ⟨hfirst, hbefore⟩ := succeed_cons.mp succeed
        exact Or.inr ⟨hfirst, before, rfl, .refused rfl hbefore⟩
  · rintro (⟨hfails, rfl⟩ | ⟨hcall, later, rfl, hcut⟩)
    · refine @Cut.failing services earlier _ [] call rest error rfl succeed_nil ?_
      rwa [List.append_nil]
    · cases hcut with
      | @failing before _ _ _ split succeed fails =>
        subst split
        refine @Cut.failing services earlier _ (call :: before) _ _ error rfl
          (succeed_cons.mpr ⟨hcall, succeed⟩) ?_
        rwa [List.append_cons]
      | refused split succeed =>
        subst split
        exact @Cut.refused services earlier _ (call :: later) _ _ rfl
          (succeed_cons.mpr ⟨hcall, succeed⟩)

/-! ### Making a script -/

/-- **Making a script ends in an error where the script is cut.** -/
theorem perform_eq_error_iff {script : List Step} :
    services.perform earlier script = (made, some error) ↔
      services.Cut earlier script made error := by
  induction script generalizing earlier made with
  | nil => simp [perform, not_cut_nil]
  | cons step rest ih =>
    cases step with
    | refuse tag =>
      rw [cut_refuse, perform, Prod.mk.injEq, Option.some.injEq, eq_comm, @eq_comm _ _ error]
    | call call =>
      rw [cut_call, perform]
      cases services.failure? earlier call with
      | some failure => simp [eq_comm, and_comm]
      | none =>
        simp only [← ih]
        rcases services.perform (earlier ++ [call]) rest with ⟨others, ended⟩
        constructor
        · rintro ⟨⟩
          exact Or.inr ⟨trivial, others, rfl, rfl⟩
        · rintro (⟨⟨⟩, -⟩ | ⟨-, later, rfl, ⟨⟩⟩)
          rfl

/-- **Making a script ends without an error when all its steps are calls that succeed.** -/
theorem perform_eq_none_iff {script : List Step} :
    services.perform earlier script = (made, none) ↔
      script = made.map Step.call ∧ services.Succeed earlier made := by
  induction script generalizing earlier made with
  | nil => cases made <;> simp [perform]
  | cons step rest ih =>
    cases step with
    | refuse tag => cases made <;> simp [perform]
    | call call =>
      cases made with
      | nil =>
        rw [perform]
        cases services.failure? earlier call <;> simp
      | cons first later =>
        rw [List.map_cons, List.cons.injEq, Step.call.injEq, succeed_cons, perform]
        cases hcall : services.failure? earlier call with
        | some failure =>
          constructor
          · rintro ⟨⟩
          · rintro ⟨⟨rfl, -⟩, hfirst, -⟩
            rw [hcall] at hfirst
            cases hfirst
        | none =>
          rcases hrest : services.perform (earlier ++ [call]) rest with ⟨others, ended⟩
          constructor
          · rintro ⟨⟩
            obtain ⟨hsplit, hsucceed⟩ := ih.mp hrest
            exact ⟨⟨rfl, hsplit⟩, hcall, hsucceed⟩
          · rintro ⟨⟨rfl, hsplit⟩, -, hsucceed⟩
            have hdone := ih.mpr ⟨hsplit, hsucceed⟩
            rw [hrest] at hdone
            cases hdone
            rfl

/-- Only calls of the script are made. -/
theorem call_mem_of_mem_perform {script : List Step} {call : Call}
    (h : call ∈ (services.perform earlier script).1) : Step.call call ∈ script := by
  induction script generalizing earlier with
  | nil => cases h
  | cons step rest ih =>
    cases step with
    | refuse tag => cases h
    | call first =>
      rw [perform] at h
      cases hfirst : services.failure? earlier first with
      | some error =>
        rw [hfirst, List.mem_singleton] at h
        exact h ▸ List.mem_cons_self
      | none =>
        rw [hfirst, List.mem_cons] at h
        obtain rfl | hrest := h
        · exact List.mem_cons_self
        · exact List.mem_cons_of_mem _ (ih hrest)

/-- What follows a script that is cut is not made. -/
theorem perform_append_of_error {script others : List Step}
    (h : services.perform earlier script = (made, some error)) :
    services.perform earlier (script ++ others) = (made, some error) := by
  rw [perform_eq_error_iff] at h ⊢
  cases h with
  | failing split succeed fails =>
    subst split
    exact .failing (List.append_assoc _ _ _) succeed fails
  | refused split succeed =>
    subst split
    exact .refused (List.append_assoc _ _ _) succeed

/-- What follows a script that is not cut is made after its calls. -/
theorem perform_append_of_none {script others : List Step}
    (h : services.perform earlier script = (made, none)) :
    services.perform earlier (script ++ others) =
      (made ++ (services.perform (earlier ++ made) others).1,
        (services.perform (earlier ++ made) others).2) := by
  obtain ⟨rfl, hsucceed⟩ := perform_eq_none_iff.mp h
  clear h
  induction made generalizing earlier with
  | nil => simp
  | cons call rest ih =>
    obtain ⟨hcall, hrest⟩ := succeed_cons.mp hsucceed
    rw [List.map_cons, List.cons_append, perform, hcall]
    simp only [ih hrest, List.cons_append, ← List.append_cons]

end Services

/-! ### Sessions that follow scripts -/

/-- A session follows a script: after any earlier calls it makes the calls of the script, and it ends
with the error that cuts the script, or with an answer when nothing does. -/
structure Follows {α : Type} (services : Services) (session : Session α) (script : List Step) :
    Prop where
  /-- It ends with the error where the script is cut. -/
  cut : ∀ earlier made error, services.perform earlier script = (made, some error) →
    session.run.run earlier = (.error error, earlier ++ made)
  /-- It ends with an answer when the script is not cut. -/
  ends : ∀ earlier made, services.perform earlier script = (made, none) →
    ∃ answer, session.run.run earlier = (.ok answer, earlier ++ made)

variable {services : Services} {α β : Type}

/-- A session that goes on runs what comes next after its calls, unless it ends in an error. -/
theorem Session.run_bind (session : Session α) (next : α → Session β) (earlier : List Call) :
    (session >>= next).run.run earlier =
      match session.run.run earlier with
      | (.ok answer, later) => (next answer).run.run later
      | (.error error, later) => (.error error, later) := by
  rw [ExceptT.run_bind, StateT.run_bind]
  rcases session.run.run earlier with ⟨error | answer, later⟩
  · rfl
  · rfl

namespace Follows

/-- An answer follows the script without steps. -/
theorem pure (answer : α) : Follows services (pure answer) [] := by
  constructor
  · rintro earlier made error ⟨⟩
  · rintro earlier made ⟨⟩
    refine ⟨answer, ?_⟩
    rw [List.append_nil]
    rfl

/-- **What follows one another follows the scripts one after another.** -/
theorem bind {session : Session α} {next : α → Session β} {script others : List Step}
    (hsession : Follows services session script)
    (hnext : ∀ answer, Follows services (next answer) others) :
    Follows services (session >>= next) (script ++ others) := by
  have hperform : ∀ earlier made ended,
      services.perform earlier (script ++ others) = (made, ended) →
      (∃ error, ended = some error ∧
        session.run.run earlier = (.error error, earlier ++ made)) ∨
      ∃ first answer second, made = first ++ second ∧
        session.run.run earlier = (.ok answer, earlier ++ first) ∧
        services.perform (earlier ++ first) others = (second, ended) := by
    intro earlier made ended h
    rcases hfirst : services.perform earlier script with ⟨first, error | error⟩
    · rw [Services.perform_append_of_none hfirst] at h
      obtain ⟨answer, hanswer⟩ := hsession.ends earlier first hfirst
      cases h
      exact Or.inr ⟨first, answer, _, rfl, hanswer, rfl⟩
    · rw [Services.perform_append_of_error hfirst] at h
      cases h
      exact Or.inl ⟨error, rfl, hsession.cut earlier made error hfirst⟩
  constructor
  · intro earlier made error h
    rw [Session.run_bind]
    obtain ⟨_, ⟨⟩, hrun⟩ | ⟨first, answer, second, rfl, hrun, hrest⟩ := hperform _ _ _ h
    · rw [hrun]
    · rw [hrun, ← List.append_assoc]
      exact (hnext answer).cut _ _ _ hrest
  · intro earlier made h
    rw [Session.run_bind]
    obtain ⟨_, ⟨⟩, -⟩ | ⟨first, answer, second, rfl, hrun, hrest⟩ := hperform _ _ _ h
    rw [hrun, ← List.append_assoc]
    exact (hnext answer).ends _ _ hrest

/-- A session followed by an answer follows the same script. -/
theorem map {session : Session α} {script : List Step} (h : Follows services session script)
    (f : α → β) : Follows services (session >>= fun answer => Pure.pure (f answer)) script := by
  have hbind := h.bind fun answer => Follows.pure (f answer)
  rwa [List.append_nil] at hbind

end Follows

/-- Refusing a node follows the script of the refusal. -/
theorem follows_refuse (tag : String) :
    Follows services (throw (.unsupportedFeedType tag) : Session α) [.refuse tag] := by
  constructor
  · rintro earlier made error ⟨⟩
    rw [List.append_nil]
    rfl
  · rintro earlier made ⟨⟩

/-! ### Asking services -/

/-- A session that makes one call and passes the answer on, a failure as its error, follows the
script of the call. -/
theorem follows_call {session : Session α} {call : Call} {service : Service}
    {answer : List Call → Except Failure α}
    (hrun : ∀ earlier, session.run.run earlier =
      ((answer earlier).mapError (FeedError.serviceFailed service), earlier ++ [call]))
    (hfailure : ∀ earlier, services.failure? earlier call = match answer earlier with
      | .ok _ => none
      | .error failure => some (.serviceFailed service failure)) :
    Follows services session [.call call] := by
  constructor
  · intro earlier made error h
    rw [Services.perform_eq_error_iff, Services.cut_call, hfailure] at h
    rw [hrun]
    obtain ⟨hcall, rfl⟩ | ⟨-, later, -, hcut⟩ := h
    · cases hanswer : answer earlier with
      | ok value =>
        rw [hanswer] at hcall
        cases hcall
      | error failure =>
        rw [hanswer] at hcall
        cases hcall
        rfl
    · exact absurd hcut Services.not_cut_nil
  · intro earlier made h
    obtain ⟨hsplit, hsucceed⟩ := Services.perform_eq_none_iff.mp h
    obtain ⟨first, rfl, hfirst⟩ := List.map_eq_singleton_iff.mp hsplit.symm
    cases hfirst
    have hcall := (Services.succeed_cons.mp hsucceed).1
    rw [hfailure] at hcall
    rw [hrun]
    cases hanswer : answer earlier with
    | ok value => exact ⟨value, rfl⟩
    | error failure =>
      rw [hanswer] at hcall
      cases hcall

/-- Asking for stored events makes the request and ends with its answer. -/
theorem run_askEvents (asked : Subscription) (earlier : List Call) :
    (services.askEvents asked).run.run earlier =
      ((services.request earlier asked).mapError (FeedError.serviceFailed .request),
        earlier ++ [.request asked]) := by
  change ((match services.request earlier asked with
    | .ok events => (Pure.pure events : Session (List Event))
    | .error failure => throw (FeedError.serviceFailed .request failure)).run).run
      (earlier ++ [Call.request asked]) = _
  cases services.request earlier asked <;> rfl

/-- Asking a data vending machine makes the request and ends with its answer. -/
theorem run_askProvider (asked : ProviderRequest) (earlier : List Call) :
    (services.askProvider asked).run.run earlier =
      ((services.provider earlier asked).mapError (FeedError.serviceFailed .provider),
        earlier ++ [.provider asked]) := by
  change ((match services.provider earlier asked with
    | .ok event => (Pure.pure event : Session Event)
    | .error failure => throw (FeedError.serviceFailed .provider failure)).run).run
      (earlier ++ [Call.provider asked]) = _
  cases services.provider earlier asked <;> rfl

/-- Asking for stored events follows the script of the request. -/
theorem follows_askEvents (asked : Subscription) :
    Follows services (services.askEvents asked) [.call (.request asked)] := by
  refine follows_call (run_askEvents asked) ?_
  intro earlier
  rw [Services.failure?]
  cases services.request earlier asked <;> rfl

/-- Asking a data vending machine follows the script of the request. -/
theorem follows_askProvider (asked : ProviderRequest) :
    Follows services (services.askProvider asked) [.call (.provider asked)] := by
  refine follows_call (run_askProvider asked) ?_
  intro earlier
  rw [Services.failure?]
  cases services.provider earlier asked <;> rfl

end RelayFeeds
