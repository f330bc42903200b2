import BeanContainer.Lifecycle.World
/-!
# Starting and stopping containers

A start goes on in polls. The first poll uses the builder up and settles what is deployed; each poll
asks scans until an answer has to be waited for; the poll that gets the last answer validates the
deployment, reserves the identifier and, if there is no problem, hands out the container, all in one
step. A start can be abandoned between two polls.
-/

namespace BeanContainer

inductive PollResult where
  | pending
  | ready (outcome : Except BootstrapError Model)

namespace World

/-- Hold the identifier that a deployment names. Yields the lease, if there is an identifier to be
held, or the problem that somebody holds it already. -/
def claim (w : World) (s : Bootstrap) : World × Except Problem (Option Lease) :=
  match s.lease? with
  | none => (w, .ok none)
  | some l =>
    match (w.registries l.registry).reserve? l.id with
    | none => (w, .error (.duplicateContainerId l.id))
    | some content => (w.setRegistry l.registry content, .ok (some l))

/-- End a start whose scans have all been answered. The identifier is claimed before the other
problems are looked at, and let go of if there are any. -/
def conclude (w : World) (b : Nat) (s : Bootstrap) (f : Findings) : World × PollResult :=
  let d := s.deployment
  let w := w.notify b d.extensions (.afterBeanDiscovery (s.sources b f))
  let problems := d.problems s.loader s.closed f
  match w.claim s with
  | (w, .error p) => (w.setStage b .failed, .ready (.error (.definition (problems ++ [p]))))
  | (w, .ok lease) =>
    match problems with
    | [] =>
      let model := s.model b f
      let w := w.setStage b (.running ⟨model, lease⟩)
      (w.notify b d.extensions (.afterDeploymentValidation model), .ready (.ok model))
    | p :: ps =>
      let w := lease.elim w w.release
      (w.setStage b .failed, .ready (.error (.definition (p :: ps))))

/-- Go on with a start, given what the host was asked and how far the discovery has come. -/
def advance (w : World) (b : Nat) (s : Bootstrap) : List Scan × Progress → World × PollResult
  | (asked, progress) =>
    let w := w.recordScans b s.deployment.environment s.loader asked
    match progress with
    | .waiting pending => (w.setStage b (.bootstrapping s pending), .pending)
    | .finished findings => w.conclude b s findings

/-- Poll the start of a builder; `params` are what the start was begun with. -/
def poll (w : World) (b : Nat) (params : Properties) : World × PollResult :=
  match w.stage b with
  | .configuring d =>
    let h := w.host d.environment
    if h.managed then (w.setStage b .failed, .ready (.error .managedHost))
    else
      let s := Bootstrap.start d params h w.isClosed
      w.advance b s (h.ask s.loader {} s.scans)
  | .bootstrapping s pending =>
    w.advance b s (pending.resume (w.host s.deployment.environment) s.loader)
  | .running _ | .stopped => (w, .ready (.error (.illegalState .alreadyInitialized)))
  | .failed => (w, .ready (.error (.illegalState .failedEarlier)))

/-- Abandon a start that waits for a host. -/
def abandon (w : World) (b : Nat) : World :=
  match w.stage b with
  | .bootstrapping .. => w.setStage b .failed
  | _ => w

/-- Poll a start at most so many times, and abandon it if it is not over by then. -/
def bootstrap (w : World) (b : Nat) (params : Properties) :
    Nat → World × Option (Except BootstrapError Model)
  | 0 => (w.abandon b, none)
  | polls + 1 =>
    match w.poll b params with
    | (w, .pending) => w.bootstrap b params polls
    | (w, .ready outcome) => (w, some outcome)

/-! ### Several starts at once -/

/-- One of several starts that take turns. -/
structure Attempt where
  builder : Nat
  params : Properties
  /-- What the start ended with, once it is over. -/
  outcome : Option (Except BootstrapError Model) := none

/-- Poll every start that is not over, in order. -/
def pollRound (w : World) : List Attempt → World × List Attempt
  | [] => (w, [])
  | t :: ts =>
    match t.outcome with
    | some _ =>
      let (w, ts) := w.pollRound ts
      (w, t :: ts)
    | none =>
      let (w, result) := w.poll t.builder t.params
      let t :=
        match result with
        | .pending => t
        | .ready outcome => { t with outcome := some outcome }
      let (w, ts) := w.pollRound ts
      (w, t :: ts)

/-- Abandon every start that is not over. -/
def abandonAll (w : World) (ts : List Attempt) : World :=
  (ts.filter fun t => t.outcome.isNone).foldl (fun w t => w.abandon t.builder) w

/-- Let starts take turns for at most so many rounds, and abandon those that are not over by
then. -/
def bootstrapAll (w : World) (ts : List Attempt) : Nat → World × List Attempt
  | 0 => (w.abandonAll ts, ts)
  | rounds + 1 =>
    if ts.all fun t => t.outcome.isSome then (w, ts)
    else
      let (w, ts) := w.pollRound ts
      w.bootstrapAll ts rounds

/-! ### Containers -/

/-- The container that a builder has started, while it is up. -/
def container? (w : World) (b : Nat) : Option Container := (w.stage b).container?

/-- Deliver an event of the caller's own to the extensions of a container. -/
def fire (w : World) (b : Nat) (name : String) (payload : Json) : World :=
  match w.container? b with
  | some c => w.notify b c.model.extensions (.custom name payload)
  | none => w

/-- Shut a container down: its extensions are told, then its identifier is let go of. -/
def shutdown (w : World) (b : Nat) : World :=
  match w.container? b with
  | some c =>
    let w := w.notify b c.model.extensions (.beforeShutdown c.model.containerId)
    let w := w.setStage b .stopped
    match c.lease with
    | some l => w.release l
    | none => w
  | none => w

end World

end BeanContainer
